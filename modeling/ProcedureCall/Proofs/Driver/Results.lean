import Mathlib.Logic.Relation
import ProcedureCall.Driver.Call
import ProcedureCall.Proofs.Journal

/-!
# What a driver tells of its result sets

Two things that a driver may be relied on for. A driver that `TellsOfResult` has a result set after
an execution if and only if the execution said so, whatever it is asked in between. A driver that
`AnnouncesResult` has a result set whenever it says that there is a further one.
-/

namespace ProcedureCall.DriverCall

open ProcedureCall.Action

variable {σ : Type}

/-- What a driver can be asked for that is neither an execution nor the end of the call. -/
inductive Request where
  /-- What is known of the parameters. -/
  | report
  /-- That a value comes out at a place. -/
  | register (slot code : Int)
  /-- That a parameter has a value. -/
  | bind (key : Key) (value : Value)
  /-- That a parameter has no value. -/
  | bindNull (key : Key) (code : Int)
  /-- The value that came out at a parameter. -/
  | read (key : Key)
  /-- Whether the value read last was absent. -/
  | wasNull
  /-- The result set. -/
  | resultSet
  /-- Whether there is a further result set. -/
  | moreResults

/-- Asks the driver, whatever the answer. -/
def ask (call : DriverCall σ) : Request → Action σ Note Unit
  | .report => discard call.report
  | .register slot code => call.register slot code
  | .bind key value => call.bind key value
  | .bindNull key code => call.bindNull key code
  | .read key => discard (call.read key)
  | .wasNull => discard call.wasNull
  | .resultSet => discard call.resultSet
  | .moreResults => discard call.moreResults

/-- The world goes on by something that is neither an execution nor the end of the call, whether it
succeeds or fails. -/
inductive Passes (call : DriverCall σ) (observe : Key → Value → Action σ Note Unit) (w w' : σ) :
    Prop where
  /-- The driver is asked. -/
  | asked (request : Request) {r : Except Fault Unit} {j : List Note} :
    (call.ask request).Ends w r w' j → Passes call observe w w'
  /-- An observer is told of a bind. -/
  | told (key : Key) (value : Value) {r : Except Fault Unit} {j : List Note} :
    (observe key value).Ends w r w' j → Passes call observe w w'

/-- Between two worlds the call is neither executed nor ended. -/
abbrev Stands (call : DriverCall σ) (observe : Key → Value → Action σ Note Unit) : σ → σ → Prop :=
  Relation.ReflTransGen (call.Passes observe)

/-- An execution tells whether there is a result set from then on, until the call is executed again
or ended. -/
def TellsOfResult (call : DriverCall σ) (observe : Key → Value → Action σ Note Unit) : Prop :=
  ∀ {w w₁ w₂ : σ} {native : Bool} {j : List Note}, call.execute.Gives w native w₁ j →
    call.Stands observe w₁ w₂ →
    ∃ result w₃ k, call.resultSet.Gives w₂ result w₃ k ∧ result.isSome = native

/-- Whenever there is said to be a further result set, there is a result set. -/
def AnnouncesResult (call : DriverCall σ) : Prop :=
  ∀ {w w₁ : σ} {j : List Note}, call.moreResults.Gives w true w₁ j →
    ∃ result w₂ k, call.resultSet.Gives w₁ (some result) w₂ k

variable {call : DriverCall σ} {observe : Key → Value → Action σ Note Unit} {ν π : Type}

theorem chains_stands : Chains fun w (_ : List (Event ν π)) w' => call.Stands observe w w' where
  nil _ := .refl
  append h₁ h₂ := h₁.trans h₂

/-- A request that passes as it is passes when it is entered into a journal. -/
theorem stands_entering {α : Type} {a : Action σ Note α}
    (h : ∀ {w r w' j}, a.Ends w r w' j → call.Passes observe w w') :
    Does (fun w (_ : List (Event ν π)) w' => call.Stands observe w w') (a.entering .note) := by
  intro w r w' j hends
  obtain ⟨notes, ha, -⟩ := ends_entering.mp hends
  exact .single (h ha)

theorem stands_asked {α : Type} {a : Action σ Note α} {entry : Bool → Event ν π}
    (h : ∀ {w r w' j}, a.Ends w r w' j → call.Passes observe w w') :
    Does (fun w _ w' => call.Stands observe w w') ((a.entering .note).noting entry) :=
  (stands_entering h).noting chains_stands fun _ _ => .refl

end ProcedureCall.DriverCall
