import Mathlib.Data.List.Basic
import Mathlib.Data.List.Nodup
import Mathlib.Tactic.Common

/-!
# Hcom4db.Base.Outstanding

What is outstanding, as a list: new entries come at the end, any entry may be removed, and a table that
only grows says what each entry is. An entry has a key, which no other entry has.

* `getElem?_concat_cases`, `getElem?_concat_last`: the table after one more entry.
* `pairwise_eraseIdx`, `key_ne_of_mem_eraseIdx`: what stays is other than what is removed.
* `mem_keys_eraseIdx`: and every other key stays.
-/

namespace Outstanding

variable {A B : Type}

/-! ## The table -/

theorem getElem?_concat_last (l : List A) (b : A) : (l ++ [b])[l.length]? = some b := by
  rw [List.getElem?_append_right (Nat.le_refl _), Nat.sub_self]
  rfl

/-- An entry of the longer table is an old one or the last one. -/
theorem getElem?_concat_cases {l : List A} {a b : A} {n : Nat} (h : (l ++ [b])[n]? = some a) :
    l[n]? = some a ∨ (n = l.length ∧ a = b) := by
  rcases Nat.lt_or_ge n l.length with hlt | hge
  · rw [List.getElem?_append_left hlt] at h
    exact .inl h
  · have hn : n = l.length := by
      have := (List.getElem?_eq_some_iff.mp h).1
      rw [List.length_append, List.length_singleton] at this
      omega
    subst hn
    rw [getElem?_concat_last] at h
    exact .inr ⟨rfl, (Option.some.inj h).symm⟩

/-- The keys of what is outstanding and a new one, the length of the table. -/
theorem nodup_concat {l : List Nat} {n : Nat} (hn : l.Nodup) (hlt : ∀ k ∈ l, k < n) :
    (l ++ [n]).Nodup := by
  refine List.nodup_append.mpr ⟨hn, List.nodup_singleton _, ?_⟩
  intro k hk m hm heq
  rw [List.mem_singleton] at hm
  have := hlt k hk
  omega

/-! ## Removal -/

section Removal

variable {R : A → A → Prop} {l : List A} {k : Nat} {a b : A} {f : A → B}

theorem pairwise_eraseIdx (hl : l.Pairwise R) (hsymm : ∀ a b, R a b → R b a) (hk : l[k]? = some a)
    (hb : b ∈ l.eraseIdx k) : R a b := by
  obtain ⟨i, hi, hget⟩ := List.mem_eraseIdx_iff_getElem?.mp hb
  obtain ⟨h1, rfl⟩ := List.getElem?_eq_some_iff.mp hk
  obtain ⟨h2, rfl⟩ := List.getElem?_eq_some_iff.mp hget
  rw [List.pairwise_iff_getElem] at hl
  cases Nat.lt_or_gt_of_ne hi with
  | inl hlt => exact hsymm _ _ (hl i k h2 h1 hlt)
  | inr hgt => exact hl k i h1 h2 hgt

theorem key_ne_of_mem_eraseIdx (hn : (l.map f).Nodup) (hk : l[k]? = some a)
    (hb : b ∈ l.eraseIdx k) : f b ≠ f a := by
  rw [List.nodup_iff_pairwise_ne, List.pairwise_map] at hn
  exact (pairwise_eraseIdx hn (fun _ _ h => h.symm) hk hb).symm

theorem mem_keys_eraseIdx {x : B} (hk : l[k]? = some a) (hx : x ∈ l.map f) (hne : x ≠ f a) :
    x ∈ (l.eraseIdx k).map f := by
  obtain ⟨b, hb, rfl⟩ := List.mem_map.mp hx
  obtain ⟨i, hi⟩ := List.mem_iff_getElem?.mp hb
  refine List.mem_map.mpr ⟨b, List.mem_eraseIdx_iff_getElem?.mpr ⟨i, ?_, hi⟩, rfl⟩
  rintro rfl
  rw [hk] at hi
  cases hi
  exact hne rfl

end Removal

end Outstanding
