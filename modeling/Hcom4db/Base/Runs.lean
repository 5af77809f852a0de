import Mathlib.Logic.Relation

/-!
# Hcom4db.Base.Runs

Runs of a state machine whose labels carry everything the environment decides. `step` is total;
`ok` says which labels may occur in which state. `Reached ok step s s'` is a finite run.
-/

namespace Runs

variable {S A : Type}

/-- `s'` is reached from `s` by labels that are allowed where they occur. -/
inductive Reached (ok : S → A → Prop) (step : S → A → S) (s : S) : S → Prop where
  | refl : Reached ok step s s
  | tail {s' : S} {a : A} : Reached ok step s s' → ok s' a → Reached ok step s (step s' a)

namespace Reached

variable {ok ok' : S → A → Prop} {step : S → A → S} {s s' : S}

/-- What holds at the start and is kept by every allowed step holds in every state reached. -/
theorem invariant {Inv : S → Prop} (h0 : Inv s)
    (hstep : ∀ s a, Inv s → ok s a → Inv (step s a)) (h : Reached ok step s s') : Inv s' := by
  induction h with
  | refl => exact h0
  | tail _ ha ih => exact hstep _ _ ih ha

/-- A run can go on from the state it has reached. -/
theorem trans {s'' : S} (h : Reached ok step s s') (h' : Reached ok step s' s'') :
    Reached ok step s s'' := by
  induction h' with
  | refl => exact h
  | tail _ ha ih => exact .tail ih ha

/-- A run that starts with an allowed step. -/
theorem head {a : A} (ha : ok s a) (h : Reached ok step (step s a) s') : Reached ok step s s' :=
  (Reached.refl.tail ha).trans h

/-- A run under a stronger side condition is a run under a weaker one. -/
theorem mono (hok : ∀ s a, ok s a → ok' s a) (h : Reached ok step s s') :
    Reached ok' step s s' := by
  induction h with
  | refl => exact .refl
  | tail _ ha ih => exact .tail ih (hok _ _ ha)

end Reached

/-- Every label of the list is allowed in the state it meets. -/
def AllOk (ok : S → A → Prop) (step : S → A → S) : S → List A → Prop
  | _, [] => True
  | s, a :: l => ok s a ∧ AllOk ok step (step s a) l

/-- A list of allowed labels extends a run. -/
theorem Reached.extend {ok : S → A → Prop} {step : S → A → S} {s s' : S} {l : List A}
    (h : Reached ok step s s') (hl : AllOk ok step s' l) :
    Reached ok step s (l.foldl step s') := by
  induction l generalizing s' with
  | nil => exact h
  | cons a l ih => exact ih (.tail h hl.1) hl.2

end Runs
