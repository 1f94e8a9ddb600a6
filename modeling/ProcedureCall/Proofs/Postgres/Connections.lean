import ProcedureCall.Proofs.Postgres.Exchange

/-!
# The connections of a client

A server may lose a connection at any time, refuse a new one and refuse a statement. What it keeps of
its connections is a history (`Happening`): a connection is opened, the newest is lost, or the client
closes it. From a history the connections can be read, the newest first (`linksOf`).

The invariant is `Sound`. At no time was more than one connection open; and but for the connection
that the client holds, all are done with: they were closed once, or lost and closed once at most.
If the client holds none, the newest was closed (`Released`), so that a connection that was not
closed is one that was lost and replaced.
The invariant holds at the start, and every statement and every close keeps it (`Client.behaves_query`,
`Client.behaves_close`), since a client opens a connection only when none stands. So it holds after
every sequence of statements and closes (`Client.Lives.behaves`). Beside it goes what is said to the
server: a statement is sent directly after a time limit that the server took, and not otherwise
(`Limited`).
-/

namespace ProcedureCall.Postgres

open ProcedureCall.Action

/-! ### Histories -/

/-- What happens to connections on the side of a server. -/
inductive Happening where
  /-- A connection is opened. -/
  | opened
  /-- The newest connection is lost. -/
  | lost
  /-- The client closes the newest connection. -/
  | closed
  deriving DecidableEq, Repr

/-- What became of a connection. -/
structure Link where
  /-- Was it lost? -/
  isLost : Bool := false
  /-- How often the client closed it. -/
  closings : Nat := 0
  deriving DecidableEq, Repr

namespace Link

/-- Is the connection open? -/
def isOpen (l : Link) : Bool := !l.isLost && l.closings == 0

/-- The connection was closed once, or it was lost and closed once at most. -/
structure IsDone (l : Link) : Prop where
  /-- It was not closed twice. -/
  once : l.closings ≤ 1
  /-- If it was not lost, it was closed. -/
  closed : l.isLost = false → l.closings = 1

theorem IsDone.isOpen_eq_false {l : Link} (h : l.IsDone) : l.isOpen = false := by
  cases hlost : l.isLost with
  | true => simp [isOpen, hlost]
  | false => simp [isOpen, hlost, h.closed hlost]

end Link

/-- The connections after something happened to them. -/
def Happening.apply : List Link → Happening → List Link
  | links, opened => {} :: links
  | links, lost => links.modifyHead fun l => { l with isLost := true }
  | links, closed => links.modifyHead fun l => { l with closings := l.closings + 1 }

/-- The connections that a history tells of, the newest first. -/
def linksOf (history : List Happening) : List Link := history.foldl Happening.apply []

@[simp] theorem linksOf_concat (history : List Happening) (h : Happening) :
    linksOf (history ++ [h]) = h.apply (linksOf history) := by
  rw [linksOf, List.foldl_append]
  rfl

/-- At no time was more than one connection open. -/
def OneAtATime (history : List Happening) : Prop :=
  ∀ past, past <+: history → (linksOf past).countP Link.isOpen ≤ 1

theorem oneAtATime_nil : OneAtATime [] := by
  intro past hpast
  rw [List.prefix_nil.mp hpast]
  exact Nat.zero_le 1

theorem countP_isOpen_eq_zero {links : List Link} (h : ∀ l ∈ links, l.IsDone) :
    links.countP Link.isOpen = 0 :=
  List.countP_eq_zero.mpr fun l hl => by simp [(h l hl).isOpen_eq_false]

/-- All connections are done with, and the newest was closed. -/
structure Released (links : List Link) : Prop where
  /-- Each is done with. -/
  isDone : ∀ l ∈ links, l.IsDone
  /-- The newest was closed once. -/
  newest : ∀ l ∈ links.head?, l.closings = 1

/-- If all but the newest are done with, one more thing may happen. -/
theorem OneAtATime.concat {history : List Happening} (hone : OneAtATime history) {h : Happening}
    {newest : Link} {older : List Link} (hlinks : linksOf (history ++ [h]) = newest :: older)
    (hdone : ∀ l ∈ older, l.IsDone) : OneAtATime (history ++ [h]) := by
  intro past hpast
  rcases List.prefix_concat_iff.mp hpast with rfl | hpast
  · rw [hlinks, List.countP_cons, countP_isOpen_eq_zero hdone]
    split <;> omega
  · exact hone past hpast

/-- The second history goes on from the first with losses only. -/
def Loses (before after : List Happening) : Prop :=
  ∃ count, after = before ++ List.replicate count .lost

theorem Loses.refl (history : List Happening) : Loses history history :=
  ⟨0, (List.append_nil history).symm⟩

theorem Loses.trans {h₁ h₂ h₃ : List Happening} (h : Loses h₁ h₂) (h' : Loses h₂ h₃) :
    Loses h₁ h₃ := by
  obtain ⟨m, rfl⟩ := h
  obtain ⟨n, rfl⟩ := h'
  exact ⟨m + n, by rw [List.append_assoc, List.replicate_append_replicate]⟩

/-- A loss changes nothing about the connections but that the newest is lost. -/
theorem Loses.linksOf_eq {before after : List Happening} (h : Loses before after) {newest : Link}
    {older : List Link} (hlinks : linksOf before = newest :: older) :
    ∃ isLost, linksOf after = { newest with isLost } :: older := by
  obtain ⟨count, rfl⟩ := h
  induction count with
  | zero => exact ⟨newest.isLost, by rw [List.replicate_zero, List.append_nil, hlinks]⟩
  | succ count ih =>
    obtain ⟨isLost, ih⟩ := ih
    refine ⟨true, ?_⟩
    rw [List.replicate_succ', ← List.append_assoc, linksOf_concat, ih]
    rfl

/-- Losses open nothing. -/
theorem Loses.oneAtATime {before after : List Happening} (h : Loses before after) {newest : Link}
    {older : List Link} (hlinks : linksOf before = newest :: older)
    (hdone : ∀ l ∈ older, l.IsDone) (hone : OneAtATime before) : OneAtATime after := by
  obtain ⟨count, rfl⟩ := h
  induction count with
  | zero => rwa [List.replicate_zero, List.append_nil]
  | succ count ih =>
    obtain ⟨isLost, hlater⟩ := Loses.linksOf_eq ⟨count + 1, rfl⟩ hlinks
    rw [List.replicate_succ', ← List.append_assoc] at hlater ⊢
    exact ih.concat hlater hdone

/-! ### Servers that keep a history -/

variable {σ : Type}

/-- The server keeps a history of its connections: it tells what becomes of them, it says that a
connection is closed only if it is, and it closes one whenever it is asked to. At each of its actions
it may lose the newest connection. -/
structure Server.Keeps (server : Server σ) (history : σ → List Happening) : Prop where
  /-- A connection is opened. -/
  connect : ∀ {options u v}, (server.connect options).Gives u () v [] →
    history v = history u ++ [.opened]
  /-- A connection is refused. -/
  refuse : ∀ {options u fault v}, (server.connect options).Fails u fault v [] →
    history v = history u
  /-- It is asked whether the connection is open. -/
  isOpen : ∀ {u answer v}, server.isOpen.Ends u answer v [] → Loses (history u) (history v)
  /-- The connection is said to be closed. -/
  dropped : ∀ {u v}, server.isOpen.Gives u false v [] →
    ∀ l ∈ (linksOf (history v)).head?, l.isOpen = false
  /-- A statement runs. -/
  run : ∀ {sql arguments u answer v}, (server.run sql arguments).Ends u answer v [] →
    Loses (history u) (history v)
  /-- The connection is closed. -/
  disconnect : ∀ {u r v}, server.disconnect.Ends u r v [] →
    r = .ok () ∧ ∃ past, Loses (history u) past ∧ history v = past ++ [.closed]

/-! ### The invariant -/

/-- At no time was more than one connection open, and but for the one that is held, all are done
with. The one that is held was not closed. -/
structure Sound (history : σ → List Happening) (w : World σ) : Prop where
  /-- There was one at most at any time. -/
  single : OneAtATime (history w.outside)
  /-- The one that is held is the newest, and all the others are done with. -/
  held : w.isHeld = true → ∃ newest older, linksOf (history w.outside) = newest :: older ∧
    newest.closings = 0 ∧ ∀ l ∈ older, l.IsDone
  /-- If none is held, all are done with, and the newest was closed. -/
  unheld : w.isHeld = false → Released (linksOf (history w.outside))

variable {history : σ → List Happening} {c : Client σ} {w w' : World σ}

/-- At the start there is no connection. -/
theorem sound_start {v : σ} (h : history v = []) : Sound history { outside := v } where
  single := by rw [h]; exact oneAtATime_nil
  held hheld := by cases hheld
  unheld _ := by rw [h]; exact ⟨by simp [linksOf], by simp [linksOf]⟩

/-- The invariant is about the connections only. -/
theorem Sound.congr (h : Sound history w) (hheld : w'.isHeld = w.isHeld)
    (houtside : w'.outside = w.outside) : Sound history w' where
  single := by rw [houtside]; exact h.single
  held := by rw [houtside, hheld]; exact h.held
  unheld := by rw [houtside, hheld]; exact h.unheld

/-- A connection that is held may be lost. -/
theorem Sound.lose (h : Sound history w) (hheld : w.isHeld = true) {v : σ}
    (hlost : Loses (history w.outside) (history v)) :
    Sound history { w with outside := v } := by
  obtain ⟨newest, older, hlinks, hclosings, hdone⟩ := h.held hheld
  obtain ⟨isLost, hlater⟩ := hlost.linksOf_eq hlinks
  exact
    { single := hlost.oneAtATime hlinks hdone h.single
      held := fun _ => ⟨_, older, hlater, hclosings, hdone⟩
      unheld := fun hnone => absurd hheld (by simpa using hnone) }

/-- Where no connection stands, all are done with. -/
theorem Client.Unconnected.isDone (hserver : c.server.Keeps history) (hw : Sound history w) {u : σ}
    (h : c.Unconnected w u) : Sound history { w with outside := u } ∧
      ∀ l ∈ linksOf (history u), l.IsDone := by
  cases h with
  | unheld hnone => exact ⟨hw, (hw.unheld hnone).isDone⟩
  | dropped hheld hclosed =>
    have hlost := hserver.isOpen hclosed
    obtain ⟨newest, older, hlinks, hclosings, hdone⟩ := hw.held hheld
    obtain ⟨isLost, hlater⟩ := hlost.linksOf_eq hlinks
    refine ⟨hw.lose hheld hlost, ?_⟩
    have hnewest := hserver.dropped hclosed
    rw [hlater, List.head?_cons] at hnewest
    have hisLost : isLost = true := by
      simpa [Link.isOpen, hclosings] using hnewest _ rfl
    rw [hlater]
    refine List.forall_mem_cons.mpr ⟨⟨?_, ?_⟩, hdone⟩
    · exact le_of_eq_of_le hclosings (Nat.zero_le 1)
    · intro hopen
      exact absurd (hisLost.symm.trans hopen) (by decide)

/-- Whether a client comes to a connection or not, the invariant stays, and if it does, it holds
one. -/
theorem Client.Connects.sound (hserver : c.server.Keeps history) (hw : Sound history w)
    {r : Except Fault Unit} {ms : List Message} (h : c.Connects w r w' ms) :
    Sound history w' ∧ (r = .ok () → w'.isHeld = true) := by
  cases h with
  | standing hheld hopen => exact ⟨hw.lose hheld (hserver.isOpen hopen), fun _ => hheld⟩
  | untold hheld hopen =>
    exact ⟨hw.lose hheld (hserver.isOpen hopen), fun hr => by cases hr⟩
  | opened hunconnected hopened =>
    obtain ⟨hsound, hdone⟩ := hunconnected.isDone hserver hw
    have hlinks := congrArg linksOf (hserver.connect hopened)
    rw [linksOf_concat] at hlinks
    refine ⟨?_, fun _ => rfl⟩
    exact
      { single := by
          rw [hserver.connect hopened] at hlinks ⊢
          exact hsound.single.concat hlinks hdone
        held := fun _ => ⟨_, _, hlinks, rfl, hdone⟩
        unheld := fun hnone => by cases hnone }
  | refused hunconnected hrefused =>
    obtain ⟨hsound, -⟩ := hunconnected.isDone hserver hw
    have hhistory := hserver.refuse hrefused
    exact ⟨⟨hhistory ▸ hsound.single, hhistory ▸ hsound.held, hhistory ▸ hsound.unheld⟩,
      fun hr => by cases hr⟩

/-- However a server answers, it may lose the connection and does nothing else to it. -/
theorem Client.Answers.loses (hserver : c.server.Keeps history) {millis : Int} {sql : String}
    {arguments : Arguments} {u v : σ} {answer : Except Fault Reply} {ms : List Message}
    (h : c.Answers millis sql arguments u answer v ms) : Loses (history u) (history v) := by
  cases h with
  | unlimited hrefused => exact hserver.run hrefused
  | limited hset hrun => exact (hserver.run hset).trans (hserver.run hrun)

/-! ### What is said to the server -/

/-- A statement is sent directly after the time limit of the settings, if the server took it, and
not otherwise. -/
inductive Limited (s : Settings) : List Message → Prop where
  /-- Nothing is said. -/
  | nil : Limited s []
  /-- A connection is opened. -/
  | connect {options : ConnectionOptions} {accepted : Bool} {ms : List Message} :
      Limited s ms → Limited s (.connect options accepted :: ms)
  /-- The connection is closed. -/
  | disconnect {ms : List Message} : Limited s ms → Limited s (.disconnect :: ms)
  /-- The time limit is refused. -/
  | unlimited {millis : Int} {ms : List Message} : s.timeoutMillis = .ok millis → Limited s ms →
      Limited s (.statement (limitStatement millis) .none false :: ms)
  /-- The time limit is taken, and the statement follows. -/
  | limited {millis : Int} {sql : String} {arguments : Arguments} {accepted : Bool}
      {ms : List Message} : s.timeoutMillis = .ok millis → Limited s ms →
      Limited s (.statement (limitStatement millis) .none true ::
        .statement sql arguments accepted :: ms)

theorem Limited.append {s : Settings} {ms₁ ms₂ : List Message} (h₁ : Limited s ms₁)
    (h₂ : Limited s ms₂) : Limited s (ms₁ ++ ms₂) := by
  induction h₁ with
  | nil => exact h₂
  | connect _ ih => exact ih.connect
  | disconnect _ ih => exact ih.disconnect
  | unlimited hmillis _ ih => exact ih.unlimited hmillis
  | limited hmillis _ ih => exact ih.limited hmillis

theorem Client.Connects.limited_messages {r : Except Fault Unit} {ms : List Message}
    (h : c.Connects w r w' ms) : Limited c.settings ms := by
  cases h with
  | standing | untold => exact .nil
  | opened | refused => exact .connect .nil

theorem Client.Answers.limited_messages {millis : Int} (hmillis : c.settings.timeoutMillis = .ok millis)
    {sql : String} {arguments : Arguments} {u v : σ} {answer : Except Fault Reply}
    {ms : List Message} (h : c.Answers millis sql arguments u answer v ms) :
    Limited c.settings ms := by
  cases h with
  | unlimited => exact .unlimited hmillis .nil
  | limited => exact .limited hmillis .nil

/-! ### What a client does -/

/-- The invariant stays, and statements are sent under a time limit only. -/
def Behaves (history : σ → List Happening) (s : Settings) (w : World σ) (j : List Note)
    (w' : World σ) : Prop :=
  (Sound history w → Sound history w') ∧ Limited s (messages j)

theorem chains_behaves (history : σ → List Happening) (s : Settings) :
    Chains (Behaves history s) where
  nil _ := ⟨id, .nil⟩
  append h₁ h₂ := ⟨h₂.1 ∘ h₁.1, by rw [messages_append]; exact h₁.2.append h₂.2⟩

namespace Client

theorem Exchange.limited_messages {sql : String} {arguments : Arguments}
    {r : Except Fault QueryResult} {ms : List Message} (h : c.Exchange sql arguments w r w' ms) :
    Limited c.settings ms := by
  cases h with
  | unconnected hconnects | untimed hconnects => exact hconnects.limited_messages
  | answered hconnects htime hanswers =>
    exact hconnects.limited_messages.append (hanswers.limited_messages htime)

/-- However a statement ends, the invariant stays. -/
theorem Exchange.sound (hserver : c.server.Keeps history) (hw : Sound history w) {sql : String}
    {arguments : Arguments} {r : Except Fault QueryResult} {ms : List Message}
    (h : c.Exchange sql arguments w r w' ms) : Sound history w' := by
  cases h with
  | unconnected hconnects | untimed hconnects => exact (hconnects.sound hserver hw).1
  | answered hconnects htime hanswers =>
    obtain ⟨hsound, hheld⟩ := hconnects.sound hserver hw
    exact hsound.lose (hheld rfl) (hanswers.loses hserver)

theorem behaves_query (hserver : c.server.Keeps history) (sql : String) (arguments : Arguments) :
    Does (Behaves history c.settings) (c.query sql arguments) := by
  intro w r w' j hends
  have hexchange := query_ends hends
  exact ⟨fun hw => hexchange.sound hserver hw, hexchange.limited_messages⟩

/-- After a close nothing is held. -/
theorem close_releases (hserver : c.server.Keeps history) {r : Except Fault Unit} {j : List Note}
    (h : c.close.Ends w r w' j) : r = .ok () ∧ w'.isHeld = false := by
  rcases close_ends h with ⟨hnone, rfl, rfl, -⟩ | ⟨-, v, hclosed, rfl, -⟩
  · exact ⟨rfl, hnone⟩
  · obtain ⟨rfl, -⟩ := hserver.disconnect hclosed
    exact ⟨rfl, rfl⟩

/-- A close keeps the invariant. -/
theorem behaves_close (hserver : c.server.Keeps history) :
    Does (Behaves history c.settings) c.close := by
  intro w r w' j h
  rcases close_ends h with ⟨-, rfl, rfl, rfl⟩ | ⟨hheld, v, hclosed, rfl, rfl⟩
  · exact ⟨id, .nil⟩
  · refine ⟨fun hw => ?_, .disconnect .nil⟩
    obtain ⟨rfl, past, hlost, hhistory⟩ := hserver.disconnect hclosed
    obtain ⟨newest, older, hlinks, hclosings, hdone⟩ := hw.held hheld
    obtain ⟨isLost, hlater⟩ := hlost.linksOf_eq hlinks
    have hended : linksOf (history v) = ⟨isLost, newest.closings + 1⟩ :: older := by
      rw [hhistory, linksOf_concat, hlater]
      rfl
    have hnewest : (⟨isLost, newest.closings + 1⟩ : Link).IsDone := by
      rw [hclosings]
      exact ⟨Nat.le_refl 1, fun _ => rfl⟩
    exact
      { single := by
          have hpast := hlost.oneAtATime hlinks hdone hw.single
          rw [hhistory] at hended ⊢
          exact hpast.concat hended hdone
        held := fun hagain => by cases hagain
        unheld := fun _ => by
          rw [hended]
          exact ⟨List.forall_mem_cons.mpr ⟨hnewest, hdone⟩, by simp [hclosings]⟩ }

/-! ### Sequences of statements and closes -/

/-- What a client is asked to do. -/
inductive Request where
  /-- To run a statement. -/
  | query (sql : String) (arguments : Arguments)
  /-- To close the connection. -/
  | close

/-- Does what is asked, whatever comes of it. -/
def perform (c : Client σ) : Request → Action (World σ) Note Unit
  | .query sql arguments => discard (c.query sql arguments)
  | .close => c.close

/-- From a world the client was asked to do some things one after the other, and came to another
world with these notes. -/
inductive Lives (c : Client σ) (w₀ : World σ) : List Request → World σ → List Note → Prop where
  /-- Nothing was asked. -/
  | start : Lives c w₀ [] w₀ []
  /-- One thing more was asked. -/
  | ask {requests : List Request} {request : Request} {w w' : World σ} {result : Except Fault Unit}
      {j k : List Note} : Lives c w₀ requests w j → (c.perform request).Ends w result w' k →
      Lives c w₀ (requests ++ [request]) w' (j ++ k)

theorem behaves_perform (hserver : c.server.Keeps history) (request : Request) :
    Does (Behaves history c.settings) (c.perform request) := by
  cases request with
  | query sql arguments => exact (behaves_query hserver sql arguments).discard
  | close => exact behaves_close hserver

/-- What one request keeps, a life keeps. -/
theorem Lives.behaves (hserver : c.server.Keeps history) {w₀ : World σ} {requests : List Request}
    {j : List Note} (h : c.Lives w₀ requests w j) : Behaves history c.settings w₀ j w := by
  induction h with
  | start => exact (chains_behaves history c.settings).nil w₀
  | ask _ hends ih =>
    exact (chains_behaves history c.settings).append ih
      (behaves_perform hserver _ _ _ _ _ hends)

/-- A life that ends with a close ends without a connection. -/
theorem Lives.released (hserver : c.server.Keeps history) {w₀ : World σ} {requests : List Request}
    {j : List Note} (h : c.Lives w₀ requests w j) (hlast : requests.getLast? = some .close) :
    w.isHeld = false := by
  cases h with
  | start => cases hlast
  | ask _ hends =>
    rw [List.getLast?_concat, Option.some.injEq] at hlast
    subst hlast
    exact (close_releases hserver hends).2

/-- A client that holds no connection comes to one by opening it. -/
theorem Connects.of_unheld (hserver : c.server.Keeps history) (hnone : w.isHeld = false)
    {r : Except Fault Unit} {ms : List Message} (h : c.Connects w r w' ms) :
    ms = [.connect c.settings.connection r.toBool] ∧
      (r = .ok () → linksOf (history w'.outside) = {} :: linksOf (history w.outside)) := by
  cases h with
  | standing hheld | untold hheld => exact absurd (hnone.symm.trans hheld) (by decide)
  | opened hunconnected hopened =>
    cases hunconnected with
    | unheld => exact ⟨rfl, fun _ => by rw [hserver.connect hopened, linksOf_concat]; rfl⟩
    | dropped hheld => exact absurd (hnone.symm.trans hheld) (by decide)
  | refused => exact ⟨rfl, fun hr => by cases hr⟩

/-- A client that holds no connection begins a statement with opening one. -/
theorem Exchange.connects_first (hserver : c.server.Keeps history) (hnone : w.isHeld = false)
    {sql : String} {arguments : Arguments} {r : Except Fault QueryResult} {ms : List Message}
    (h : c.Exchange sql arguments w r w' ms) :
    ∃ accepted rest, ms = .connect c.settings.connection accepted :: rest ∧
      (accepted = true → ∃ link, link.closings = 0 ∧
        linksOf (history w'.outside) = link :: linksOf (history w.outside)) := by
  cases h with
  | unconnected hconnects =>
    obtain ⟨rfl, -⟩ := hconnects.of_unheld hserver hnone
    exact ⟨false, [], rfl, fun haccepted => by cases haccepted⟩
  | untimed hconnects =>
    obtain ⟨rfl, hopened⟩ := hconnects.of_unheld hserver hnone
    exact ⟨true, [], rfl, fun _ => ⟨{}, rfl, hopened rfl⟩⟩
  | answered hconnects htime hanswers =>
    obtain ⟨rfl, hopened⟩ := hconnects.of_unheld hserver hnone
    obtain ⟨isLost, hlater⟩ := (hanswers.loses hserver).linksOf_eq (hopened rfl)
    exact ⟨true, _, rfl, fun _ => ⟨_, rfl, hlater⟩⟩

end Client

/-! ### Watching a server -/

namespace Server

/-- Runs an action of a server beside a history. -/
def beside {α : Type} (a : Action σ Empty α) : Action (List Happening × σ) Empty α :=
  a.within (·.2) fun v w => (w.1, v)

/-- Goes on with a history. -/
def note (h : Happening) : Action (List Happening × σ) Empty Unit :=
  Action.change fun w => (w.1 ++ [h], w.2)

/-- The server with a history beside its world. A connection counts as lost when the server says
that it is closed. -/
def watched (server : Server σ) : Server (List Happening × σ) where
  connect options := do
    beside (server.connect options)
    note .opened
  isOpen := do
    if ← beside server.isOpen then pure true
    else do
      note .lost
      pure false
  run sql arguments := beside (server.run sql arguments)
  disconnect := do
    beside server.disconnect
    note .closed

theorem fst_of_beside {α : Type} {a : Action σ Empty α} {u v : List Happening × σ}
    {r : Except Fault α} {j : List Empty} (h : (beside a).Ends u r v j) : v.1 = u.1 := by
  obtain ⟨w, -, rfl⟩ := ends_within.mp h
  rfl

theorem fst_of_note {h : Happening} {u v : List Happening × σ} {r : Except Fault Unit}
    {j : List Empty} (hends : (note h).Ends u r v j) : v.1 = u.1 ++ [h] := by
  obtain ⟨-, rfl, -⟩ := ends_change.mp hends
  rfl

/-- A server that closes connections when it is asked to, keeps a history when it is watched. -/
theorem watched_keeps {server : Server σ} (hclose : server.disconnect.Completes) :
    server.watched.Keeps Prod.fst := by
  have hasked : ∀ {u answer v j}, server.watched.isOpen.Ends u answer v j →
      (v.1 = u.1 ∧ answer ≠ .ok false) ∨ v.1 = u.1 ++ [.lost] := by
    intro u answer v j h
    rcases ends_bind.mp h with ⟨fault, rfl, hfails⟩ | ⟨isOpen, u₁, j₁, j₂, hgives, hrest, -⟩
    · exact Or.inl ⟨fst_of_beside hfails, by simp⟩
    · cases isOpen with
      | true =>
        obtain ⟨rfl, rfl, -⟩ := Ends.unique hrest (pure_gives true u₁)
        exact Or.inl ⟨fst_of_beside hgives, by simp⟩
      | false =>
        obtain ⟨-, rfl, -⟩ := Ends.unique hrest ((change_gives _ u₁).bind (pure_gives false _))
        exact Or.inr (by rw [← fst_of_beside hgives])
  exact
    { connect := fun h => by
        obtain ⟨_, u₁, j₁, j₂, hopened, hnoted, -⟩ := gives_bind.mp h
        rw [fst_of_note hnoted, fst_of_beside hopened]
      refuse := fun h => by
        rcases fails_bind.mp h with hrefused | ⟨_, u₁, j₁, j₂, -, hnoted, -⟩
        · exact fst_of_beside hrefused
        · cases (ends_change.mp hnoted).1
      isOpen := fun h => by
        rcases hasked h with ⟨hsame, -⟩ | hlost
        · exact hsame ▸ Loses.refl _
        · exact ⟨1, hlost⟩
      dropped := fun h l hl => by
        rcases hasked h with ⟨-, hanswer⟩ | hlost
        · exact absurd rfl hanswer
        · rw [hlost, linksOf_concat, Happening.apply, List.head?_modifyHead] at hl
          obtain ⟨newest, -, rfl⟩ := Option.map_eq_some_iff.mp hl
          rfl
      run := fun h => fst_of_beside h ▸ Loses.refl _
      disconnect := fun {u r v} h => by
        obtain ⟨_, u₁, j₁, hclosed⟩ := hclose u.2
        have hbeside : (beside server.disconnect).Gives u () (u.1, u₁) j₁ :=
          ends_within.mpr ⟨u₁, hclosed, rfl⟩
        obtain ⟨j₂, hnoted, -⟩ := (Gives.ends_bind hbeside).mp h
        have hhistory := fst_of_note hnoted
        exact ⟨(ends_change.mp hnoted).1, u.1, Loses.refl _, hhistory⟩ }

end Server

end ProcedureCall.Postgres
