import ProcedureCall.Proofs.Driver.Results

/-!
# Requests to bind

A driver is asked to bind a value to a parameter, or the absence of one. Some requests are made one
after another, whatever comes of each of them (`Takes`).
-/

namespace ProcedureCall.DriverCall

open ProcedureCall.Action

/-- What a driver can be asked to bind. -/
inductive BindRequest where
  /-- A value. -/
  | value (key : Key) (value : Value)
  /-- The absence of a value of a type. -/
  | absence (key : Key) (code : Int)

namespace BindRequest

/-- What the parameter is addressed by. -/
def key : BindRequest → Key
  | value key _ | absence key _ => key

/-- The value that the parameter gets. -/
def bound : BindRequest → Value
  | value _ v => v
  | absence _ _ => .null

/-- The request that is made of the driver. -/
def request : BindRequest → Request
  | value key v => .bind key v
  | absence key code => .bindNull key code

end BindRequest

variable {σ : Type}

/-- The driver is asked for some binds, one after another, whatever comes of each of them. -/
inductive Takes (call : DriverCall σ) : σ → List BindRequest → σ → Prop where
  /-- None is asked for. -/
  | nil (w : σ) : Takes call w [] w
  /-- One is asked for, and then the others. -/
  | cons {b : BindRequest} {binds : List BindRequest} {w w₁ w₂ : σ} {r : Except Fault Unit}
      {j : List Note} : (call.ask b.request).Ends w r w₁ j → Takes call w₁ binds w₂ →
      Takes call w (b :: binds) w₂

theorem Takes.append {call : DriverCall σ} {binds more : List BindRequest} {w w₁ w₂ : σ}
    (h₁ : call.Takes w binds w₁) (h₂ : call.Takes w₁ more w₂) :
    call.Takes w (binds ++ more) w₂ := by
  induction h₁ with
  | nil => exact h₂
  | cons hask _ ih => exact .cons hask (ih h₂)

end ProcedureCall.DriverCall
