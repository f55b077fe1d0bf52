import Mathlib.Data.List.Basic

/-!
# Programs that talk to an environment

A program of type `Prog I α` either returns a value or issues one operation of
the interface `I` and goes on with the answer. It is a plain inductive type, so
every program makes finitely many calls along every run, and a property of all
its runs is proved by recursion on the program.

`Runs p tr a` says that `p`, answered as recorded in the trace `tr`, returns
`a`. The environment is not a parameter of the relation: a theorem about every
trace of a program is a theorem about every environment. An executable
environment is a `Handler`, and `Prog.exec_runs` says that what it produces is
a run.
-/

namespace Interaction

/-- The interface of an environment: its operations, and for each of them the
type of the answers it may give. -/
structure Interface where
  Op : Type
  Ans : Op → Type

/-- A program over the interface `I` that returns an `α`. -/
inductive Prog (I : Interface) (α : Type) : Type where
  | ret (a : α) : Prog I α
  | call (op : I.Op) (k : I.Ans op → Prog I α) : Prog I α

/-- One operation together with the answer it got. -/
structure Event (I : Interface) where
  op : I.Op
  ans : I.Ans op

/-- What a run shows from outside: the events in the order they happened. -/
abbrev Trace (I : Interface) := List (Event I)

namespace Prog

variable {I : Interface} {α β : Type}

def bind : Prog I α → (α → Prog I β) → Prog I β
  | .ret a, f => f a
  | .call op k, f => .call op fun r => (k r).bind f

@[simp] theorem ret_bind (a : α) (f : α → Prog I β) :
    (Prog.ret a).bind f = f a := rfl

@[simp] theorem call_bind (op : I.Op) (k : I.Ans op → Prog I α)
    (f : α → Prog I β) :
    (Prog.call op k).bind f = .call op fun r => (k r).bind f := rfl

theorem bind_assoc {γ : Type} (p : Prog I α) (f : α → Prog I β) (g : β → Prog I γ) :
    (p.bind f).bind g = p.bind fun a => (f a).bind g := by
  induction p with
  | ret a => rfl
  | call op k ih =>
      simp only [call_bind]
      exact congrArg _ (funext fun r => ih r)

end Prog

/-- `Runs p tr a`: the program `p`, answered as `tr` records, returns `a`. -/
inductive Runs {I : Interface} {α : Type} :
    Prog I α → Trace I → α → Prop where
  | ret (a : α) : Runs (.ret a) [] a
  | call {op : I.Op} {k : I.Ans op → Prog I α} {r : I.Ans op}
      {tr : Trace I} {a : α} (h : Runs (k r) tr a) :
      Runs (.call op k) (⟨op, r⟩ :: tr) a

/-- An executable environment with hidden state `S`. -/
abbrev Handler (I : Interface) (S : Type) :=
  (op : I.Op) → S → I.Ans op × S

namespace Prog

variable {I : Interface} {α S : Type}

/-- Run a program against an executable environment. -/
def exec (h : Handler I S) : Prog I α → S → Trace I × α
  | .ret a, _ => ([], a)
  | .call op k, s =>
      let r := h op s
      let rest := (k r.1).exec h r.2
      (⟨op, r.1⟩ :: rest.1, rest.2)

theorem exec_runs (h : Handler I S) (p : Prog I α) (s : S) :
    Runs p (p.exec h s).1 (p.exec h s).2 := by
  induction p generalizing s with
  | ret a => exact .ret a
  | call op k ih => exact .call (ih _ _)

end Prog

end Interaction
