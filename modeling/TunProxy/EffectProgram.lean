import Mathlib.Logic.Relation
import Mathlib.Tactic.Common

/-!
# Programs over a signature of operations

A program that calls operations of its surroundings is a tree: it is done, it
calls an operation and goes on with the answer, or it has been cut off where
a run is followed no further.  Loops without a bound of their own are
unfolded to any given depth and cut there, so that the runs of all depths
together are the finite prefixes of the program's runs.
-/

universe u

/-- Programs over operations `Op`, whose answers have the types `Ret`. -/
inductive EffectProgram {Op : Type} (Ret : Op → Type) (α : Type) : Type
  | done (value : α)
  | call (operation : Op) (next : Ret operation → EffectProgram Ret α)
  | cut

namespace EffectProgram

variable {Op : Type} {Ret : Op → Type} {α β γ : Type}

def bind : EffectProgram Ret α → (α → EffectProgram Ret β) → EffectProgram Ret β
  | .done value, next => next value
  | .call operation rest, next => .call operation fun answer => (rest answer).bind next
  | .cut, _ => .cut

instance : Monad (EffectProgram Ret) where
  pure := .done
  bind := .bind

/-- Call one operation and return its answer. -/
def perform (operation : Op) : EffectProgram Ret (Ret operation) :=
  .call operation .done

@[simp] theorem pure_eq (value : α) : (pure value : EffectProgram Ret α) = .done value := rfl

@[simp] theorem bind_eq (program : EffectProgram Ret α) (next : α → EffectProgram Ret β) :
    program >>= next = program.bind next := rfl

@[simp] theorem done_bind (value : α) (next : α → EffectProgram Ret β) :
    (done value).bind next = next value := rfl

@[simp] theorem call_bind (operation : Op) (rest : Ret operation → EffectProgram Ret α)
    (next : α → EffectProgram Ret β) :
    (call operation rest).bind next = call operation fun answer => (rest answer).bind next :=
  rfl

@[simp] theorem cut_bind (next : α → EffectProgram Ret β) :
    (cut : EffectProgram Ret α).bind next = cut := rfl

theorem bind_done (program : EffectProgram Ret α) : program.bind .done = program := by
  induction program with
  | done value => rfl
  | call operation rest ih => exact congrArg _ (funext ih)
  | cut => rfl

theorem bind_assoc (program : EffectProgram Ret α) (middle : α → EffectProgram Ret β)
    (next : β → EffectProgram Ret γ) :
    (program.bind middle).bind next = program.bind fun value => (middle value).bind next := by
  induction program with
  | done value => rfl
  | call operation rest ih => exact congrArg _ (funext ih)
  | cut => rfl

/-- Go on with the value of a step that succeeded; a failure is passed on. -/
def andThen {ε : Type} (program : EffectProgram Ret (Except ε α))
    (next : α → EffectProgram Ret (Except ε β)) : EffectProgram Ret (Except ε β) :=
  program.bind fun
    | .ok value => next value
    | .error failure => .done (.error failure)

/-- Run a loop body until it gives a result, at most `fuel` times. -/
def iterate {σ : Type} (body : σ → EffectProgram Ret (σ ⊕ β)) : Nat → σ → EffectProgram Ret β
  | 0, _ => .cut
  | fuel + 1, state => (body state).bind fun
      | .inl next => iterate body fuel next
      | .inr value => .done value

/-- Replace every operation by a program over another signature. -/
def expand {Op' : Type} {Ret' : Op' → Type}
    (meaning : (operation : Op) → EffectProgram Ret' (Ret operation)) :
    EffectProgram Ret α → EffectProgram Ret' α
  | .done value => .done value
  | .call operation rest => (meaning operation).bind fun answer => (rest answer).expand meaning
  | .cut => .cut

theorem expand_bind {Op' : Type} {Ret' : Op' → Type}
    (meaning : (operation : Op) → EffectProgram Ret' (Ret operation))
    (program : EffectProgram Ret α) (next : α → EffectProgram Ret β) :
    (program.bind next).expand meaning =
      (program.expand meaning).bind fun value => (next value).expand meaning := by
  induction program with
  | done value => rfl
  | call operation rest ih =>
      simp only [call_bind, expand, bind_assoc]
      exact congrArg _ (funext ih)
  | cut => rfl

theorem expand_iterate {Op' : Type} {Ret' : Op' → Type} {σ : Type}
    (meaning : (operation : Op) → EffectProgram Ret' (Ret operation))
    (body : σ → EffectProgram Ret (σ ⊕ β)) (fuel : Nat) (state : σ) :
    (iterate body fuel state).expand meaning =
      iterate (fun state => (body state).expand meaning) fuel state := by
  induction fuel generalizing state with
  | zero => rfl
  | succ fuel ih =>
      rw [iterate, iterate, expand_bind]
      congr
      ext result
      cases result with
      | inl next => exact ih next
      | inr value => rfl

theorem expand_expand {Op' Op'' : Type} {Ret' : Op' → Type} {Ret'' : Op'' → Type}
    (meaning : (operation : Op) → EffectProgram Ret' (Ret operation))
    (meaning' : (operation : Op') → EffectProgram Ret'' (Ret' operation))
    (program : EffectProgram Ret α) :
    (program.expand meaning).expand meaning' =
      program.expand fun operation => (meaning operation).expand meaning' := by
  induction program with
  | done value => rfl
  | call operation rest ih =>
      rw [expand, expand_bind]
      exact congrArg _ (funext ih)
  | cut => rfl

/-- Operations that stand for themselves. -/
theorem expand_perform (program : EffectProgram Ret α) : program.expand perform = program := by
  induction program with
  | done value => rfl
  | call operation rest ih => exact congrArg _ (funext ih)
  | cut => rfl

end EffectProgram
