import Mathlib.Data.List.Perm.Basic
import Mathlib.Data.List.Nodup

/-!
# Hcom4db.Base.Ledger

Accounts of resources: what was taken and what was given back, both as lists.

* `Balanced took gave`: everything taken is given back once, and nothing else is given back.
* `balanced_iff_perm`: for resources that are told apart, the two lists are permutations.
-/

namespace Ledger

variable {α : Type} [DecidableEq α] {took gave : List α}

def Balanced (took gave : List α) : Prop := ∀ x, gave.count x = if x ∈ took then 1 else 0

theorem Balanced.mem_of_gave (h : Balanced took gave) {x : α} (hx : x ∈ gave) : x ∈ took := by
  by_contra hn
  have := h x
  rw [if_neg hn, List.count_eq_zero] at this
  exact this hx

theorem Balanced.mem_of_took (h : Balanced took gave) {x : α} (hx : x ∈ took) : x ∈ gave := by
  have := h x
  rw [if_pos hx] at this
  exact List.count_pos_iff.mp (by omega)

theorem Balanced.nodup (h : Balanced took gave) : gave.Nodup := by
  refine List.nodup_iff_count_le_one.mpr fun x => ?_
  rw [h x]
  split <;> omega

theorem balanced_iff_perm (hn : took.Nodup) : Balanced took gave ↔ gave.Perm took := by
  constructor
  · intro h
    exact (List.perm_ext_iff_of_nodup h.nodup hn).mpr fun x => ⟨h.mem_of_gave, h.mem_of_took⟩
  · intro h x
    rw [h.count_eq, hn.count]

end Ledger
