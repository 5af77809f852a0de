import Hcom4db.Base.Runs

/-!
# Hcom4db.Base.TwoRuns

Two runs of one state machine that differ in labels an observer does not see. `low` says which labels
are seen; the runs make the same ones in the same order, with any others in between.

* `unwinding`: a relation that the labels keep, the seen ones made in both runs and the others in one of
  them, holds of the states the runs end in.
-/

namespace Runs

variable {S A : Type}

/-- What every label must do to a relation between the states of two runs. -/
structure Unwinds (ok : S → A → Prop) (step : S → A → S) (low : A → Bool) (R : S → S → Prop) : Prop where
  both : ∀ s t a, R s t → low a = true → ok s a → ok t a → R (step s a) (step t a)
  left : ∀ s t a, R s t → low a = false → ok s a → R (step s a) t
  right : ∀ s t a, R s t → low a = false → ok t a → R s (step t a)

namespace Unwinds

variable {ok : S → A → Prop} {step : S → A → S} {low : A → Bool} {R : S → S → Prop} {s t : S}

/-- A symmetric relation has to be checked on one side only. -/
theorem of_symm (hsymm : ∀ s t, R s t → R t s)
    (both : ∀ s t a, R s t → low a = true → ok s a → ok t a → R (step s a) (step t a))
    (left : ∀ s t a, R s t → low a = false → ok s a → R (step s a) t) : Unwinds ok step low R :=
  ⟨both, left, fun s t a h ha hok => hsymm _ _ (left t s a (hsymm s t h) ha hok)⟩

/-- Labels that are not seen, made in the second run. -/
theorem hidden_right (U : Unwinds ok step low R) {l : List A} (h : R s t) (hl : l.filter low = [])
    (hok : AllOk ok step t l) : R s (l.foldl step t) := by
  induction l generalizing t with
  | nil => exact h
  | cons a l ih =>
    have ha : low a = false := by simpa using (List.filter_eq_nil_iff.mp hl) a List.mem_cons_self
    refine ih (U.right s t a h ha hok.1) ?_ hok.2
    rwa [List.filter_cons_of_neg (by simp [ha])] at hl

/-- The second run up to its next label that is seen. -/
theorem next_right (U : Unwinds ok step low R) {a : A} {l l' : List A} (h : R s t)
    (hl : l'.filter low = a :: l) (hok : AllOk ok step t l') :
    ∃ t1 l1, R s t1 ∧ ok t1 a ∧ l1.filter low = l ∧ AllOk ok step (step t1 a) l1 ∧
      l'.foldl step t = l1.foldl step (step t1 a) := by
  induction l' generalizing t with
  | nil => cases hl
  | cons b l' ih =>
    cases hb : low b with
    | true =>
      rw [List.filter_cons_of_pos hb] at hl
      cases hl
      exact ⟨t, l', h, hok.1, rfl, hok.2, rfl⟩
    | false =>
      rw [List.filter_cons_of_neg (by simp [hb])] at hl
      exact ih (U.right s t b h hb hok.1) hl hok.2

/-- Two runs that make the same seen labels end in related states. -/
theorem unwinding (U : Unwinds ok step low R) {l l' : List A} (h : R s t)
    (hl : l.filter low = l'.filter low) (hok : AllOk ok step s l) (hok' : AllOk ok step t l') :
    R (l.foldl step s) (l'.foldl step t) := by
  induction l generalizing s t l' with
  | nil => exact U.hidden_right h hl.symm hok'
  | cons a l ih =>
    cases ha : low a with
    | true =>
      rw [List.filter_cons_of_pos ha] at hl
      obtain ⟨t1, l1, hR, hta, hl1, hok1, heq⟩ := U.next_right h hl.symm hok'
      rw [heq]
      exact ih (U.both s t1 a hR ha hok.1 hta) hl1.symm hok.2 hok1
    | false =>
      rw [List.filter_cons_of_neg (by simp [ha])] at hl
      exact ih (U.left s t a h ha hok.1) hl hok.2 hok'

end Unwinds

end Runs
