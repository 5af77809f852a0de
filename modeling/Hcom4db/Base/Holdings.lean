import Mathlib.Data.Option.Basic
import Mathlib.Tactic.Common

/-!
# Hcom4db.Base.Holdings

What is held of some kind of resource, a table that records it, and what was lost: held, and in no entry.

* `Books.Kept`: everything held is in one entry of the table or lost, and nothing else is.
* `Kept.record`, `Kept.lose`, `Kept.release`: a new resource is entered, new resources are lost, an entry is
  given back.
* `Kept.drop`: an entry is erased and what it records is kept.
-/

namespace Holdings

variable {K X : Type}

structure Books (K X : Type) where
  held : X → Prop
  entry : K → Option X
  lost : X → Prop

structure Books.Kept (b : Books K X) : Prop where
  accounted : ∀ x, b.held x ↔ (∃ k, b.entry k = some x) ∨ b.lost x
  unique : ∀ {k k' x}, b.entry k = some x → b.entry k' = some x → k = k'
  apart : ∀ {k x}, b.entry k = some x → ¬ b.lost x

namespace Books.Kept

variable {b b' : Books K X} {k : K} {x : X}

theorem held_of_entry (h : b.Kept) (hk : b.entry k = some x) : b.held x := (h.accounted x).mpr (.inl ⟨k, hk⟩)

theorem held_of_lost (h : b.Kept) (hx : b.lost x) : b.held x := (h.accounted x).mpr (.inr hx)

/-- Nothing is held. -/
theorem empty (hheld : ∀ x, ¬ b.held x) (hentry : ∀ k, b.entry k = none) (hlost : ∀ x, ¬ b.lost x) : b.Kept := by
  refine ⟨fun x => iff_of_false (hheld x) ?_, fun hk => ?_, fun hk => ?_⟩
  · rintro (⟨k, hk⟩ | hx)
    · rw [hentry] at hk
      cases hk
    · exact hlost x hx
  · rw [hentry] at hk
    cases hk
  · rw [hentry] at hk
    cases hk

/-- The books only depend on what they say. -/
theorem congr (h : b.Kept) (hheld : ∀ x, b'.held x ↔ b.held x) (hentry : ∀ k, b'.entry k = b.entry k)
    (hlost : ∀ x, b'.lost x ↔ b.lost x) : b'.Kept := by
  refine ⟨fun x => ?_, fun hk hk' => ?_, fun hk => ?_⟩
  · rw [hheld, hlost, h.accounted]
    simp only [hentry]
  · rw [hentry] at hk hk'
    exact h.unique hk hk'
  · rw [hentry] at hk
    rw [hlost]
    exact h.apart hk

/-- New resources that no entry records. -/
theorem lose (h : b.Kept) {new : X → Prop} (hnew : ∀ x, new x → ¬ b.held x)
    (hheld : ∀ x, b'.held x ↔ new x ∨ b.held x) (hentry : ∀ k, b'.entry k = b.entry k)
    (hlost : ∀ x, b'.lost x ↔ new x ∨ b.lost x) : b'.Kept := by
  refine ⟨fun x => ?_, fun hk hk' => ?_, fun hk => ?_⟩
  · rw [hheld, hlost, h.accounted]
    simp only [hentry]
    exact or_left_comm
  · rw [hentry] at hk hk'
    exact h.unique hk hk'
  · rw [hentry] at hk
    rw [hlost, not_or]
    exact ⟨fun hn => hnew _ hn (h.held_of_entry hk), h.apart hk⟩

variable [DecidableEq K]

/-- A new resource, in an entry that was empty. -/
theorem record (h : b.Kept) (hx : ¬ b.held x) (hk : b.entry k = none) (hheld : ∀ y, b'.held y ↔ y = x ∨ b.held y)
    (hentry : ∀ j, b'.entry j = if j = k then some x else b.entry j) (hlost : ∀ y, b'.lost y ↔ b.lost y) :
    b'.Kept := by
  -- an entry is the new one or an old one
  have hcases : ∀ {j y}, b'.entry j = some y → (j = k ∧ y = x) ∨ b.entry j = some y := by
    intro j y hj
    rw [hentry] at hj
    split at hj
    · rename_i hjk
      exact .inl ⟨hjk, (Option.some.inj hj).symm⟩
    · exact .inr hj
  refine ⟨fun y => ?_, fun {j j' y} hj hj' => ?_, fun {j y} hj => ?_⟩
  · rw [hheld, hlost, h.accounted, ← or_assoc]
    refine or_congr_left ⟨?_, ?_⟩
    · rintro (rfl | ⟨j, hj⟩)
      · exact ⟨k, by rw [hentry, if_pos rfl]⟩
      · refine ⟨j, ?_⟩
        rw [hentry, if_neg, hj]
        rintro rfl
        rw [hk] at hj
        cases hj
    · rintro ⟨j, hj⟩
      exact (hcases hj).imp (fun h => h.2) fun h => ⟨j, h⟩
  · rcases hcases hj with ⟨rfl, rfl⟩ | hold
    · rcases hcases hj' with ⟨rfl, -⟩ | hold'
      · rfl
      · exact absurd (h.held_of_entry hold') hx
    · rcases hcases hj' with ⟨-, rfl⟩ | hold'
      · exact absurd (h.held_of_entry hold) hx
      · exact h.unique hold hold'
  · rw [hlost]
    rcases hcases hj with ⟨-, rfl⟩ | hold
    · exact fun hl => hx (h.held_of_lost hl)
    · exact h.apart hold

/-- The entries there are when one is erased. -/
theorem entry_of_erase (hentry : ∀ j, b'.entry j = if j = k then none else b.entry j) {j : K} {y : X}
    (hj : b'.entry j = some y) : j ≠ k ∧ b.entry j = some y := by
  rw [hentry] at hj
  split at hj
  · cases hj
  · rename_i hne
    exact ⟨hne, hj⟩

/-- What an entry records is given back with it. -/
theorem release (h : b.Kept) (hheld : ∀ y, b'.held y ↔ b.entry k ≠ some y ∧ b.held y)
    (hentry : ∀ j, b'.entry j = if j = k then none else b.entry j) (hlost : ∀ y, b'.lost y ↔ b.lost y) :
    b'.Kept := by
  have hold : ∀ {j y}, b'.entry j = some y → j ≠ k ∧ b.entry j = some y := entry_of_erase hentry
  refine ⟨fun y => ?_, fun hj hj' => h.unique (hold hj).2 (hold hj').2, fun hj => ?_⟩
  · rw [hheld, hlost, h.accounted]
    constructor
    · rintro ⟨hne, ⟨j, hj⟩ | hl⟩
      · refine .inl ⟨j, ?_⟩
        rw [hentry, if_neg, hj]
        rintro rfl
        exact hne hj
      · exact .inr hl
    · rintro (⟨j, hj⟩ | hl)
      · obtain ⟨hne, hj⟩ := hold hj
        exact ⟨fun hk => hne (h.unique hj hk), .inl ⟨j, hj⟩⟩
      · exact ⟨fun hk => h.apart hk hl, .inr hl⟩
  · rw [hlost]
    exact h.apart (hold hj).2

/-- An entry is erased, and what it records is still held. -/
theorem drop (h : b.Kept) (hheld : ∀ y, b'.held y ↔ b.held y)
    (hentry : ∀ j, b'.entry j = if j = k then none else b.entry j)
    (hlost : ∀ y, b'.lost y ↔ b.entry k = some y ∨ b.lost y) : b'.Kept := by
  have hold : ∀ {j y}, b'.entry j = some y → j ≠ k ∧ b.entry j = some y := entry_of_erase hentry
  refine ⟨fun y => ?_, fun hj hj' => h.unique (hold hj).2 (hold hj').2, fun {j y} hj => ?_⟩
  · rw [hheld, hlost, h.accounted]
    constructor
    · rintro (⟨j, hj⟩ | hl)
      · by_cases hjk : j = k
        · subst hjk
          exact .inr (.inl hj)
        · refine .inl ⟨j, ?_⟩
          rw [hentry, if_neg hjk, hj]
      · exact .inr (.inr hl)
    · rintro (⟨j, hj⟩ | hk | hl)
      · exact .inl ⟨j, (hold hj).2⟩
      · exact .inl ⟨k, hk⟩
      · exact .inr hl
  · rw [hlost, not_or]
    obtain ⟨hne, hj⟩ := hold hj
    exact ⟨fun hk => hne (h.unique hj hk), h.apart hj⟩

end Books.Kept

end Holdings
