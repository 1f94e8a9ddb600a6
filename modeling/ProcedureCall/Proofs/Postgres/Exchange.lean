import ProcedureCall.Proofs.Postgres.Client

/-!
# What a client and a server say to each other

A statement is an exchange of a few messages: a connection is opened unless one stands, the time
limit is set, the statement is sent. The server may fail at each of them, and it may take the
connection away at any time. `Client.Connects` has one constructor for each way in which a client
comes to a connection or not, and `Client.Exchange` one for each way in which a statement ends, with
the result, the world and the messages that belong to it. A client runs a statement in these ways
and in no others (`Client.query_ends`, `Client.Exchange.exists_ends`).
-/

namespace ProcedureCall

open ProcedureCall.Action

@[simp] theorem messages_append (j₁ j₂ : List Note) :
    messages (j₁ ++ j₂) = messages j₁ ++ messages j₂ := List.filterMap_append

@[simp] theorem messages_map_message (ms : List Message) : messages (ms.map .message) = ms := by
  rw [messages, List.filterMap_map]
  exact List.filterMap_some

namespace Event

variable {ν π : Type}

/-- The messages to a server on the way, in order. -/
def messages (journal : List (Event ν π)) : List Message :=
  ProcedureCall.messages (notes journal)

@[simp] theorem messages_append (j₁ j₂ : List (Event ν π)) :
    messages (j₁ ++ j₂) = messages j₁ ++ messages j₂ := by
  rw [messages, notes, List.filterMap_append, ProcedureCall.messages_append]
  rfl

end Event

namespace Postgres

variable {σ α : Type}

/-- The statement that sets the time limit. -/
def limitStatement (millis : Int) : String :=
  "SET statement_timeout = " ++ String.ofList (Numeral.text millis)

namespace Client

theorem eq_nil_of_empty (j : List Empty) : j = [] := by
  cases j with
  | nil => rfl
  | cons e _ => exact e.elim

/-- What runs on the server leaves nothing in the journal and changes nothing but the world of the
server. -/
theorem onServer_ends {a : Action σ Empty α} {w w' : World σ} {r : Except Fault α}
    {j : List Note} :
    (onServer a).Ends w r w' j ↔
      ∃ v, a.Ends w.outside r v [] ∧ w' = { w with outside := v } ∧ j = [] := by
  unfold onServer
  rw [ends_within]
  constructor
  · rintro ⟨v, hentering, rfl⟩
    obtain ⟨none, ha, rfl⟩ := ends_entering.mp hentering
    obtain rfl := eq_nil_of_empty none
    exact ⟨v, ha, rfl, rfl⟩
  · rintro ⟨v, ha, rfl, rfl⟩
    exact ⟨v, ends_entering.mpr ⟨[], ha, rfl⟩, rfl⟩

variable (c : Client σ)

/-! ### Connecting -/

/-- No connection stands: none is held, or the server says that the one held is closed. `u` is the
world of the server after it was asked. -/
inductive Unconnected (w : World σ) : σ → Prop where
  /-- None is held. -/
  | unheld : w.isHeld = false → Unconnected w w.outside
  /-- The one held is closed. -/
  | dropped {u : σ} : w.isHeld = true → c.server.isOpen.Gives w.outside false u [] →
      Unconnected w u

/-- The ways in which a client comes to a connection or not, with the messages that were sent. -/
inductive Connects (w : World σ) : Except Fault Unit → World σ → List Message → Prop where
  /-- The one held is open. -/
  | standing {v : σ} : w.isHeld = true → c.server.isOpen.Gives w.outside true v [] →
      Connects w (.ok ()) { w with outside := v } []
  /-- It cannot be told whether the one held is open. -/
  | untold {v : σ} {fault : Fault} : w.isHeld = true →
      c.server.isOpen.Fails w.outside fault v [] →
      Connects w (.error fault) { w with outside := v } []
  /-- A new one is opened. -/
  | opened {u v : σ} : c.Unconnected w u →
      (c.server.connect c.settings.connection).Gives u () v [] →
      Connects w (.ok ()) { w with outside := v, isHeld := true }
        [.connect c.settings.connection true]
  /-- A new one is refused. -/
  | refused {u v : σ} {fault : Fault} : c.Unconnected w u →
      (c.server.connect c.settings.connection).Fails u fault v [] →
      Connects w (.error (c.connectionFault fault)) { w with outside := v }
        [.connect c.settings.connection false]

variable {c} {w w' : World σ}

/-- Whether a connection stands is asked of the server only if one is held. -/
theorem isConnected_ends {r : Except Fault Bool} {j : List Note} :
    c.isConnected.Ends w r w' j ↔ j = [] ∧
      ((w.isHeld = false ∧ r = .ok false ∧ w' = w) ∨
        (w.isHeld = true ∧ ∃ v, c.server.isOpen.Ends w.outside r v [] ∧
          w' = { w with outside := v })) := by
  have hrest : c.isConnected.Ends w r w' j ↔
      (if w.isHeld = true then onServer c.server.isOpen else pure false).Ends w r w' j := by
    refine (Gives.ends_bind (world_gives w)).trans ⟨?_, fun h => ⟨j, h, rfl⟩⟩
    rintro ⟨k, h, rfl⟩
    exact h
  rw [hrest]
  split
  case isTrue hheld =>
    rw [onServer_ends]
    constructor
    · rintro ⟨v, hasked, hw, hj⟩
      exact ⟨hj, Or.inr ⟨hheld, v, hasked, hw⟩⟩
    · rintro ⟨hj, ⟨hnone, -⟩ | ⟨-, v, hasked, hw⟩⟩
      · exact absurd hheld (Bool.eq_false_iff.mp hnone)
      · exact ⟨v, hasked, hw, hj⟩
  case isFalse hheld =>
    constructor
    · intro h
      obtain ⟨hr, hw, hj⟩ := Ends.unique h (pure_gives false w)
      exact ⟨hj, Or.inl ⟨Bool.eq_false_iff.mpr hheld, hr, hw⟩⟩
    · rintro ⟨rfl, ⟨-, rfl, rfl⟩ | ⟨hsome, -⟩⟩
      · exact pure_gives false w'
      · exact absurd hsome hheld

theorem Unconnected.isConnected_gives {u : σ} (h : c.Unconnected w u) :
    c.isConnected.Gives w false { w with outside := u } [] := by
  cases h with
  | unheld hheld => exact isConnected_ends.mpr ⟨rfl, Or.inl ⟨hheld, rfl, rfl⟩⟩
  | dropped hheld hclosed => exact isConnected_ends.mpr ⟨rfl, Or.inr ⟨hheld, u, hclosed, rfl⟩⟩

/-- A new connection is opened or refused, and the fault told in the words of the program. -/
theorem openConnection_ends {r : Except Fault Unit} {j : List Note} :
    c.openConnection.Ends w r w' j ↔
      (∃ v, (c.server.connect c.settings.connection).Gives w.outside () v [] ∧ r = .ok () ∧
        w' = { w with outside := v, isHeld := true } ∧
        j = [.message (.connect c.settings.connection true)]) ∨
      ∃ v fault, (c.server.connect c.settings.connection).Fails w.outside fault v [] ∧
        r = .error (c.connectionFault fault) ∧ w' = { w with outside := v } ∧
        j = [.message (.connect c.settings.connection false)] := by
  have hnoted : ∀ {result v}, (c.server.connect c.settings.connection).Ends w.outside result v [] →
      ((onServer (c.server.connect c.settings.connection)).noting fun accepted =>
        .message (.connect c.settings.connection accepted)).Ends w result { w with outside := v }
          [.message (.connect c.settings.connection result.toBool)] := fun h =>
    ends_noting.mpr ⟨[], onServer_ends.mpr ⟨_, h, rfl, rfl⟩, rfl⟩
  have hopened : ∀ {v}, (c.server.connect c.settings.connection).Gives w.outside () v [] →
      c.openConnection.Gives w () { w with outside := v, isHeld := true }
        [.message (.connect c.settings.connection true)] := fun h =>
    Gives.bind (gives_attempt_ok.mpr (hnoted h)) (change_gives _ _)
  have hrefused : ∀ {fault v},
      (c.server.connect c.settings.connection).Fails w.outside fault v [] →
      c.openConnection.Fails w (c.connectionFault fault) { w with outside := v }
        [.message (.connect c.settings.connection false)] := by
    intro fault v h
    cases hfailure : fault.isFailure with
    | true =>
      exact (Gives.ends_bind (gives_attempt_error.mpr ⟨hfailure, hnoted h⟩)).mpr
        ⟨[], fails_fail.mpr ⟨rfl, rfl, rfl⟩, rfl⟩
    | false =>
      have hinterrupt : c.connectionFault fault = fault := by
        cases fault with
        | interrupt => rfl
        | _ => cases hfailure
      rw [hinterrupt]
      exact ends_bind.mpr (Or.inl ⟨fault, rfl, fails_attempt.mpr ⟨hfailure, hnoted h⟩⟩)
  constructor
  · intro h
    rcases gives_or_fails (c.server.connect c.settings.connection) w.outside with
      ⟨_, v, k, hgives⟩ | ⟨fault, v, k, hfails⟩
    · obtain rfl := eq_nil_of_empty k
      obtain ⟨rfl, rfl, rfl⟩ := Ends.unique h (hopened hgives)
      exact Or.inl ⟨v, hgives, rfl, rfl, rfl⟩
    · obtain rfl := eq_nil_of_empty k
      obtain ⟨rfl, rfl, rfl⟩ := Ends.unique h (hrefused hfails)
      exact Or.inr ⟨v, fault, hfails, rfl, rfl, rfl⟩
  · rintro (⟨v, hgives, rfl, rfl, rfl⟩ | ⟨v, fault, hfails, rfl, rfl, rfl⟩)
    · exact hopened hgives
    · exact hrefused hfails

/-- A client comes to a connection in these ways and in no others. -/
theorem connect_ends {r : Except Fault Unit} {j : List Note} :
    c.connect.Ends w r w' j ↔ ∃ ms, c.Connects w r w' ms ∧ j = ms.map .message := by
  constructor
  · intro h
    rcases ends_bind.mp h with ⟨fault, rfl, hasked⟩ | ⟨isOpen, w₁, j₁, j₂, hasked, hrest, rfl⟩
    · obtain ⟨rfl, ⟨-, hr, -⟩ | ⟨hheld, v, hopen, rfl⟩⟩ := isConnected_ends.mp hasked
      · cases hr
      · exact ⟨[], .untold hheld hopen, rfl⟩
    · obtain ⟨rfl, hcases⟩ := isConnected_ends.mp hasked
      cases isOpen with
      | true =>
        obtain ⟨rfl, rfl, rfl⟩ := Ends.unique hrest (pure_gives () w₁)
        rcases hcases with ⟨-, hr, -⟩ | ⟨hheld, v, hopen, rfl⟩
        · cases hr
        · exact ⟨[], .standing hheld hopen, rfl⟩
      | false =>
        have hunconnected : ∃ u, c.Unconnected w u ∧ w₁ = { w with outside := u } := by
          rcases hcases with ⟨hheld, -, rfl⟩ | ⟨hheld, u, hclosed, rfl⟩
          · exact ⟨w₁.outside, .unheld hheld, rfl⟩
          · exact ⟨u, .dropped hheld hclosed, rfl⟩
        obtain ⟨u, hunconnected, rfl⟩ := hunconnected
        rcases openConnection_ends.mp hrest with
          ⟨v, hopened, rfl, rfl, rfl⟩ | ⟨v, fault, hrefused, rfl, rfl, rfl⟩
        · exact ⟨_, .opened hunconnected hopened, rfl⟩
        · exact ⟨_, .refused hunconnected hrefused, rfl⟩
  · rintro ⟨ms, h, rfl⟩
    cases h with
    | standing hheld hopen =>
      exact (Gives.ends_bind (isConnected_ends.mpr ⟨rfl, Or.inr ⟨hheld, _, hopen, rfl⟩⟩)).mpr
        ⟨[], pure_gives () _, rfl⟩
    | untold hheld hopen =>
      exact ends_bind.mpr (Or.inl
        ⟨_, rfl, isConnected_ends.mpr ⟨rfl, Or.inr ⟨hheld, _, hopen, rfl⟩⟩⟩)
    | opened hunconnected hopened =>
      exact (Gives.ends_bind hunconnected.isConnected_gives).mpr
        ⟨_, openConnection_ends.mpr (Or.inl ⟨_, hopened, rfl, rfl, rfl⟩), rfl⟩
    | refused hunconnected hrefused =>
      exact (Gives.ends_bind hunconnected.isConnected_gives).mpr
        ⟨_, openConnection_ends.mpr (Or.inr ⟨_, _, hrefused, rfl, rfl, rfl⟩), rfl⟩

/-! ### Sending a statement -/

/-- The failure that a fault in running a statement becomes. -/
def statementFault (c : Client σ) : Fault → Fault
  | .server condition message => (treatment c.settings condition message).fault
  | fault => fault

/-- The result of a statement from what the server answers to it. -/
def resultOf (c : Client σ) : Except Fault Reply → Except Fault QueryResult
  | .ok reply => reply.toResult
  | .error fault => .error (c.statementFault fault)

/-- The ways in which a server answers a statement under a time limit, with the messages that were
sent. -/
inductive Answers (c : Client σ) (millis : Int) (sql : String) (arguments : Arguments) (u : σ) :
    Except Fault Reply → σ → List Message → Prop where
  /-- The time limit is refused, and the statement is not sent. -/
  | unlimited {v : σ} {fault : Fault} :
      (c.server.run (limitStatement millis) .none).Fails u fault v [] →
      Answers c millis sql arguments u (.error fault) v
        [.statement (limitStatement millis) .none false]
  /-- The time limit is set, and the statement is sent. -/
  | limited {v v' : σ} {ignored : Reply} {answer : Except Fault Reply} :
      (c.server.run (limitStatement millis) .none).Gives u ignored v [] →
      (c.server.run sql arguments).Ends v answer v' [] →
      Answers c millis sql arguments u answer v'
        [.statement (limitStatement millis) .none true, .statement sql arguments answer.toBool]

/-- The ways in which a statement ends, with the messages that were sent. -/
inductive Exchange (c : Client σ) (sql : String) (arguments : Arguments) (w : World σ) :
    Except Fault QueryResult → World σ → List Message → Prop where
  /-- There is no connection. -/
  | unconnected {w₁ : World σ} {fault : Fault} {ms : List Message} :
      c.Connects w (.error fault) w₁ ms → Exchange c sql arguments w (.error fault) w₁ ms
  /-- The time limit cannot be told. -/
  | untimed {w₁ : World σ} {fault : Fault} {ms : List Message} :
      c.Connects w (.ok ()) w₁ ms → c.settings.timeoutMillis = .error fault →
      Exchange c sql arguments w (.error fault) w₁ ms
  /-- The server answers. -/
  | answered {w₁ : World σ} {millis : Int} {answer : Except Fault Reply} {v : σ}
      {ms ms' : List Message} :
      c.Connects w (.ok ()) w₁ ms → c.settings.timeoutMillis = .ok millis →
      c.Answers millis sql arguments w₁.outside answer v ms' →
      Exchange c sql arguments w (c.resultOf answer) { w₁ with outside := v } (ms ++ ms')

variable {sql : String} {arguments : Arguments} {r : Except Fault QueryResult} {j : List Note}

theorem send_ends {answer : Except Fault Reply} :
    (c.send sql arguments).Ends w answer w' j ↔
      ∃ v, (c.server.run sql arguments).Ends w.outside answer v [] ∧ w' = { w with outside := v } ∧
        j = [.message (.statement sql arguments answer.toBool)] := by
  unfold send
  rw [ends_noting]
  constructor
  · rintro ⟨j₁, h, rfl⟩
    obtain ⟨v, hrun, rfl, rfl⟩ := onServer_ends.mp h
    exact ⟨v, hrun, rfl, rfl⟩
  · rintro ⟨v, hrun, rfl, rfl⟩
    exact ⟨[], onServer_ends.mpr ⟨v, hrun, rfl, rfl⟩, rfl⟩

/-- A statement is sent after the time limit, or not at all. -/
theorem sendLimited_ends {millis : Int} {answer : Except Fault Reply} :
    (c.sendLimited millis sql arguments).Ends w answer w' j ↔
      ∃ v ms, c.Answers millis sql arguments w.outside answer v ms ∧
        w' = { w with outside := v } ∧ j = ms.map .message := by
  unfold sendLimited
  rw [ends_bind]
  constructor
  · rintro (⟨fault, rfl, hlimit⟩ | ⟨ignored, w₁, j₁, j₂, hlimit, hsent, rfl⟩)
    · obtain ⟨v, hrun, rfl, rfl⟩ := send_ends.mp hlimit
      exact ⟨v, _, .unlimited hrun, rfl, rfl⟩
    · obtain ⟨v, hset, rfl, rfl⟩ := send_ends.mp hlimit
      obtain ⟨v', hrun, rfl, rfl⟩ := send_ends.mp hsent
      exact ⟨v', _, .limited hset hrun, rfl, rfl⟩
  · rintro ⟨v, ms, h, rfl, rfl⟩
    cases h with
    | unlimited hrun => exact Or.inl ⟨_, rfl, send_ends.mpr ⟨v, hrun, rfl, rfl⟩⟩
    | limited hset hrun =>
      exact Or.inr ⟨_, _, _, _, send_ends.mpr ⟨_, hset, rfl, rfl⟩,
        send_ends.mpr ⟨v, hrun, rfl, rfl⟩, rfl⟩

/-- A reply is read without a further message. -/
theorem deliver_ends {reply : Reply} (h : (deliver reply).Ends w r w' j) :
    r = reply.toResult ∧ w' = w ∧ messages j = [] := by
  rcases ends_bind.mp h with ⟨fault, rfl, hcolumns⟩ | ⟨columns, w₁, j₁, j₂, hcolumns, hrest, rfl⟩
  · obtain ⟨hr, rfl, rfl⟩ := ends_ofExcept.mp hcolumns
    exact ⟨by rw [Reply.toResult, ← hr]; rfl, rfl, rfl⟩
  · obtain ⟨hr, rfl, rfl⟩ := ends_ofExcept.mp hcolumns
    obtain ⟨j₃, hrest₁, rfl⟩ := (Gives.ends_bind (record_gives _ _)).mp hrest
    obtain ⟨j₄, hrest₂, rfl⟩ := (Gives.ends_bind (record_gives _ _)).mp hrest₁
    obtain ⟨rfl, rfl, rfl⟩ := ends_ofExcept.mp hrest₂
    exact ⟨by rw [Reply.toResult, ← hr]; rfl, rfl, rfl⟩

/-- A condition is reported without a further message. -/
theorem report_ends {shown : String × Value} {t : Treatment}
    (h : (report shown t).Ends w r w' j) : r = .error t.fault ∧ w' = w ∧ messages j = [] := by
  obtain ⟨j₁, hrest₁, rfl⟩ := (Gives.ends_bind (record_gives _ w)).mp h
  obtain ⟨j₂, hrest₂, rfl⟩ := (Gives.ends_bind (record_gives _ w)).mp hrest₁
  obtain ⟨rfl, rfl, rfl⟩ := ends_fail.mp hrest₂
  exact ⟨rfl, rfl, rfl⟩

/-- What is done with the answer to a statement. -/
def settle (c : Client σ) (shown : String × Value) :
    Except Fault Reply → Action (World σ) Note QueryResult
  | .ok reply => deliver reply
  | .error (.server condition message) => report shown (treatment c.settings condition message)
  | .error fault => Action.fail fault

theorem settle_ends {shown : String × Value} {answer : Except Fault Reply}
    (h : (c.settle shown answer).Ends w r w' j) :
    r = c.resultOf answer ∧ w' = w ∧ messages j = [] := by
  rcases answer with fault | reply
  · cases fault with
    | server condition message => exact report_ends h
    | _ =>
      obtain ⟨rfl, rfl, rfl⟩ := ends_fail.mp h
      exact ⟨rfl, rfl, rfl⟩
  · exact deliver_ends h

/-- What is done with an answer is done after a connection, a time limit and a log record, within a
span of time. -/
theorem query_eq (sql : String) (arguments : Arguments) :
    c.query sql arguments = (do
      Action.record (.queried sql arguments)
      c.connect
      let millis ← Action.ofExcept c.settings.timeoutMillis
      let shown : String × Value := ("sql", .text (String.ofList (Text.singleSpaced sql.toList)))
      Action.record (.ofLog .debug "executing query" [shown])
      spanning id "db.query" (String.ofList ((Text.singleSpaced sql.toList).take 100))
        ((c.sendLimited millis sql arguments).attempt >>= c.settle shown)) := by
  refine bind_congr fun _ => bind_congr fun _ => bind_congr fun millis => bind_congr fun _ =>
    congrArg _ (bind_congr fun answer => ?_)
  rcases answer with fault | reply
  · cases fault <;> rfl
  · rfl

/-- An answer is settled however it came, and only an interrupt is not looked at. -/
theorem attempt_settle_ends {a : Action (World σ) Note Reply} {shown : String × Value}
    (h : (a.attempt >>= c.settle shown).Ends w r w' j) :
    ∃ answer k, a.Ends w answer w' k ∧ r = c.resultOf answer ∧ messages j = messages k := by
  rcases ends_bind.mp h with ⟨fault, rfl, hfails⟩ | ⟨answer, w₁, k, j₂, hgives, hsettled, rfl⟩
  · obtain ⟨hinterrupt, hfails⟩ := fails_attempt.mp hfails
    cases fault with
    | interrupt => exact ⟨_, j, hfails, rfl, rfl⟩
    | _ => cases hinterrupt
  · obtain ⟨hr, rfl, hnone⟩ := settle_ends hsettled
    refine ⟨answer, k, ?_, hr, by rw [messages_append, hnone, List.append_nil]⟩
    rcases answer with fault | reply
    · exact (gives_attempt_error.mp hgives).2
    · exact gives_attempt_ok.mp hgives

/-- A statement ends in these ways only. -/
theorem query_ends (h : (c.query sql arguments).Ends w r w' j) :
    c.Exchange sql arguments w r w' (messages j) := by
  rw [query_eq] at h
  obtain ⟨j₁, hconnect, rfl⟩ := (Gives.ends_bind (record_gives _ w)).mp h
  rcases ends_bind.mp hconnect with ⟨fault, rfl, hfails⟩ | ⟨_, w₁, j₂, j₃, hconnected, htimed, rfl⟩
  · obtain ⟨ms, hconnects, rfl⟩ := connect_ends.mp hfails
    rw [messages_append, messages_map_message]
    exact .unconnected hconnects
  obtain ⟨ms, hconnects, rfl⟩ := connect_ends.mp hconnected
  rcases ends_bind.mp htimed with ⟨fault, rfl, hfails⟩ | ⟨millis, w₂, j₄, j₅, htold, hlogged, rfl⟩
  · obtain ⟨htime, rfl, rfl⟩ := ends_ofExcept.mp hfails
    rw [List.append_nil, messages_append, messages_map_message]
    exact .untimed hconnects htime.symm
  obtain ⟨htime, rfl, rfl⟩ := ends_ofExcept.mp htold
  obtain ⟨j₆, hspanned, rfl⟩ := (Gives.ends_bind (record_gives _ _)).mp hlogged
  obtain ⟨k, hattempted, rfl⟩ := ends_spanning.mp hspanned
  obtain ⟨answer, k', hsent, rfl, hmessages⟩ := attempt_settle_ends hattempted
  obtain ⟨v, ms', hanswers, rfl, rfl⟩ := sendLimited_ends.mp hsent
  rw [messages_map_message] at hmessages
  have hexchange := Exchange.answered hconnects htime.symm hanswers
  simp only [messages_append, messages_map_message, hmessages]
  simpa [messages, Note.ofLog] using hexchange

theorem Connects.unique {r₁ r₂ : Except Fault Unit} {w₁ w₂ : World σ} {ms₁ ms₂ : List Message}
    (h₁ : c.Connects w r₁ w₁ ms₁) (h₂ : c.Connects w r₂ w₂ ms₂) :
    r₁ = r₂ ∧ w₁ = w₂ ∧ ms₁ = ms₂ := by
  obtain ⟨hr, hw, hj⟩ :=
    Ends.unique (connect_ends.mpr ⟨ms₁, h₁, rfl⟩) (connect_ends.mpr ⟨ms₂, h₂, rfl⟩)
  exact ⟨hr, hw, by rw [← messages_map_message ms₁, hj, messages_map_message]⟩

theorem Answers.unique {millis : Int} {u v₁ v₂ : σ} {answer₁ answer₂ : Except Fault Reply}
    {ms₁ ms₂ : List Message} (h₁ : c.Answers millis sql arguments u answer₁ v₁ ms₁)
    (h₂ : c.Answers millis sql arguments u answer₂ v₂ ms₂) :
    answer₁ = answer₂ ∧ v₁ = v₂ ∧ ms₁ = ms₂ := by
  obtain ⟨hr, hw, hj⟩ :=
    Ends.unique (w := { outside := u }) (sendLimited_ends.mpr ⟨v₁, ms₁, h₁, rfl, rfl⟩)
      (sendLimited_ends.mpr ⟨v₂, ms₂, h₂, rfl, rfl⟩)
  exact ⟨hr, congrArg World.outside hw,
    by rw [← messages_map_message ms₁, hj, messages_map_message]⟩

/-- From one world a statement ends in one way only. -/
theorem Exchange.unique {r₁ r₂ : Except Fault QueryResult} {w₁ w₂ : World σ}
    {ms₁ ms₂ : List Message} (h₁ : c.Exchange sql arguments w r₁ w₁ ms₁)
    (h₂ : c.Exchange sql arguments w r₂ w₂ ms₂) : r₁ = r₂ ∧ w₁ = w₂ ∧ ms₁ = ms₂ := by
  cases h₁ with
  | unconnected hc₁ =>
    cases h₂ with
    | unconnected hc₂ =>
      obtain ⟨hfault, hw, hms⟩ := hc₁.unique hc₂
      exact ⟨congrArg _ (Except.error.inj hfault), hw, hms⟩
    | untimed hc₂ | answered hc₂ => cases (hc₁.unique hc₂).1
  | untimed hc₁ ht₁ =>
    cases h₂ with
    | unconnected hc₂ => cases (hc₁.unique hc₂).1
    | untimed hc₂ ht₂ =>
      obtain ⟨-, hw, hms⟩ := hc₁.unique hc₂
      exact ⟨congrArg _ (Except.error.inj (ht₁.symm.trans ht₂)), hw, hms⟩
    | answered hc₂ ht₂ => cases ht₁.symm.trans ht₂
  | answered hc₁ ht₁ ha₁ =>
    cases h₂ with
    | unconnected hc₂ => cases (hc₁.unique hc₂).1
    | untimed hc₂ ht₂ => cases ht₁.symm.trans ht₂
    | answered hc₂ ht₂ ha₂ =>
      obtain ⟨-, rfl, rfl⟩ := hc₁.unique hc₂
      cases ht₁.symm.trans ht₂
      obtain ⟨rfl, rfl, rfl⟩ := ha₁.unique ha₂
      exact ⟨rfl, rfl, rfl⟩

/-- A client runs a statement in each of these ways. -/
theorem Exchange.exists_ends {ms : List Message} (h : c.Exchange sql arguments w r w' ms) :
    ∃ j, (c.query sql arguments).Ends w r w' j ∧ messages j = ms := by
  obtain ⟨r₀, w₀, j, hends⟩ := Action.exists_ends (c.query sql arguments) w
  obtain ⟨rfl, rfl, rfl⟩ := h.unique (query_ends hends)
  exact ⟨j, hends, rfl⟩

/-! ### Closing -/

/-- A client that holds a connection closes it, and keeps it only if the server fails to. -/
theorem close_ends {r : Except Fault Unit} (h : c.close.Ends w r w' j) :
    (w.isHeld = false ∧ r = .ok () ∧ w' = w ∧ j = []) ∨
      (w.isHeld = true ∧ ∃ v, c.server.disconnect.Ends w.outside r v [] ∧
        w' = { w with outside := v, isHeld := !r.toBool } ∧ j = [.message .disconnect]) := by
  obtain ⟨j₁, hrest, rfl⟩ := (Gives.ends_bind (world_gives w)).mp h
  by_cases hheld : w.isHeld = true
  case neg =>
    rw [if_neg hheld] at hrest
    obtain ⟨rfl, rfl, rfl⟩ := Ends.unique hrest (pure_gives () w)
    exact Or.inl ⟨Bool.eq_false_iff.mpr hheld, rfl, rfl, rfl⟩
  rw [if_pos hheld] at hrest
  rcases ends_bind.mp hrest with ⟨fault, rfl, hnoted⟩ | ⟨_, w₁, j₂, j₃, hnoted, hdropped, rfl⟩
  · obtain ⟨k, hasked, rfl⟩ := ends_noting.mp hnoted
    obtain ⟨v, hfails, rfl, rfl⟩ := onServer_ends.mp hasked
    exact Or.inr ⟨hheld, v, hfails, by simp [Except.toBool, hheld], rfl⟩
  · obtain ⟨k, hasked, rfl⟩ := ends_noting.mp hnoted
    obtain ⟨v, hgives, rfl, rfl⟩ := onServer_ends.mp hasked
    obtain ⟨rfl, rfl, rfl⟩ := ends_change.mp hdropped
    exact Or.inr ⟨hheld, v, hgives, rfl, rfl⟩

end Client

end Postgres

end ProcedureCall
