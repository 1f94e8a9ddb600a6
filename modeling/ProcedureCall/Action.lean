import ProcedureCall.Fault

/-!
# Actions

An action runs in a world, may change it, may fail, and leaves a journal of what happened on the
way. A failed action keeps the world and the journal as they were when it failed. Because the
journal is part of the outcome, "what this call did" is a value that theorems can speak about.
-/

namespace ProcedureCall

/-- What an action leaves behind. -/
structure Outcome (σ ε α : Type) where
  /-- The value, or why there is none. -/
  result : Except Fault α
  /-- The world afterwards. -/
  world : σ
  /-- What happened, in order. -/
  journal : List ε

/-- An action in a world `σ` that leaves entries `ε` and gives a value `α`. -/
def Action (σ ε α : Type) : Type := σ → Outcome σ ε α

namespace Action

variable {σ τ ε δ α β : Type}

/-- Runs an action in a world. -/
def run (a : Action σ ε α) (world : σ) : Outcome σ ε α := a world

/-- The action that does nothing and gives a value. -/
def ofValue (value : α) : Action σ ε α := fun world => ⟨.ok value, world, []⟩

/-- The action that fails. -/
def fail (fault : Fault) : Action σ ε α := fun world => ⟨.error fault, world, []⟩

/-- First one action, then the one that its value calls for. -/
def andThen (a : Action σ ε α) (next : α → Action σ ε β) : Action σ ε β := fun world =>
  match a world with
  | ⟨.ok value, world, journal⟩ =>
    let after := next value world
    ⟨after.result, after.world, journal ++ after.journal⟩
  | ⟨.error fault, world, journal⟩ => ⟨.error fault, world, journal⟩

instance : Monad (Action σ ε) where
  pure := ofValue
  bind := andThen

/-- Gives a value or fails. -/
def ofExcept : Except Fault α → Action σ ε α
  | .ok value => ofValue value
  | .error fault => fail fault

/-- Leaves an entry in the journal. -/
def record (entry : ε) : Action σ ε Unit := fun world => ⟨.ok (), world, [entry]⟩

/-- Gives the world. -/
def world : Action σ ε σ := fun world => ⟨.ok world, world, []⟩

/-- Changes the world. -/
def change (f : σ → σ) : Action σ ε Unit := fun world => ⟨.ok (), f world, []⟩

/-- Runs an action to its end and gives what came of it: a value or a failure. Only an interrupt
goes on. -/
def attempt (a : Action σ ε α) : Action σ ε (Except Fault α) := fun world =>
  let outcome := a world
  match outcome.result with
  | .ok value => ⟨.ok (.ok value), outcome.world, outcome.journal⟩
  | .error fault =>
    ⟨if fault.isFailure then .ok (.error fault) else .error fault, outcome.world, outcome.journal⟩

/-- Runs an action, and another one after it whatever came of it. If both fail, the later fault
counts. -/
def ensuring (a : Action σ ε α) (last : Action σ ε Unit) : Action σ ε α := fun world =>
  let outcome := a world
  let after := last outcome.world
  ⟨match after.result with
    | .ok _ => outcome.result
    | .error fault => .error fault,
    after.world, outcome.journal ++ after.journal⟩

/-- The same action with its entries seen as entries of another kind. -/
def entering (f : ε → δ) (a : Action σ ε α) : Action σ δ α := fun world =>
  let outcome := a world
  ⟨outcome.result, outcome.world, outcome.journal.map f⟩

/-- The same action in a part of a larger world. -/
def within (get : τ → σ) (set : σ → τ → τ) (a : Action σ ε α) : Action τ ε α := fun world =>
  let outcome := a (get world)
  ⟨outcome.result, set outcome.world world, outcome.journal⟩

/-- Runs an action and leaves an entry that tells whether it gave a value. -/
def noting (entry : Bool → ε) (a : Action σ ε α) : Action σ ε α := fun world =>
  let outcome := a world
  ⟨outcome.result, outcome.world, outcome.journal ++ [entry outcome.result.toBool]⟩

/-- The values of an action at each element of a list, from left to right. -/
def forEach (f : α → Action σ ε β) : List α → Action σ ε (List β)
  | [] => ofValue []
  | a :: as => andThen (f a) fun b => andThen (forEach f as) fun bs => ofValue (b :: bs)

end Action

end ProcedureCall
