import Hcom4db.Base.FlatMem

/-!
# Hcom4db.Base.HeldBlocks

Logs of block pools, newest operation first. A pool hands out blocks, an address and a length each; a
block is given back by its address, whichever pool the caller names; a pool that is destroyed takes its
blocks with it.

* `held log`: the blocks that are handed out after it, with their pools.
* `Honest log`: what a pool hands out has an address, and overlaps nothing that was held.
* `mem_held_append`: a block stays held while nobody gives its address back and its pool lives.
* `Honest.allocs`: what is handed out at a stretch overlaps neither what was held nor one another.
-/

namespace HeldBlocks

open FlatMem

variable {A : Type}

inductive Op (A : Type) where
  | alloc (a : A) (b : Nat × Nat)
  | free (x : Nat)
  | destroy (a : A)

section Held

variable [DecidableEq A]

def held : List (Op A) → List (A × Nat × Nat)
  | [] => []
  | .alloc a b :: log => (a, b) :: held log
  | .free x :: log => (held log).filter fun p => p.2.1 ≠ x
  | .destroy a :: log => (held log).filter fun p => p.1 ≠ a

/-- A block that may be handed out in a state in which `hs` are held. -/
def Fresh (hs : List (A × Nat × Nat)) (b : Nat × Nat) : Prop :=
  b.1 ≠ 0 ∧ ∀ p ∈ hs, p.2.1 ≠ b.1 ∧ Span.Disjoint p.2 b

def Honest : List (Op A) → Prop
  | [] => True
  | .alloc _ b :: log => Fresh (held log) b ∧ Honest log
  | .free _ :: log => Honest log
  | .destroy _ :: log => Honest log

instance (hs : List (A × Nat × Nat)) (b : Nat × Nat) : Decidable (Fresh hs b) :=
  inferInstanceAs (Decidable (_ ∧ _))

instance decidableHonest : (log : List (Op A)) → Decidable (Honest log)
  | [] => isTrue trivial
  | .alloc _ _ :: log =>
    have := decidableHonest log
    inferInstanceAs (Decidable (_ ∧ _))
  | .free _ :: log => decidableHonest log
  | .destroy _ :: log => decidableHonest log

variable {log log' : List (Op A)} {a : A} {b : Nat × Nat} {p : A × Nat × Nat} {bs : List (Nat × Nat)}

theorem mem_held_alloc : p ∈ held (.alloc a b :: log) ↔ p = (a, b) ∨ p ∈ held log := List.mem_cons

theorem mem_held_free {x : Nat} : p ∈ held (.free x :: log) ↔ p ∈ held log ∧ p.2.1 ≠ x := by
  simp [held]

theorem mem_held_destroy : p ∈ held (.destroy a :: log) ↔ p ∈ held log ∧ p.1 ≠ a := by
  simp [held]

/-- A block stays held while its address is not given back and its pool not destroyed. -/
theorem mem_held_append (h : p ∈ held log) (hf : ∀ x, .free x ∈ log' → x ≠ p.2.1)
    (hd : .destroy p.1 ∉ log') : p ∈ held (log' ++ log) := by
  induction log' with
  | nil => exact h
  | cons op log' ih =>
    have ih' := ih (fun x hx => hf x (List.mem_cons_of_mem _ hx)) fun hx =>
      hd (List.mem_cons_of_mem _ hx)
    cases op with
    | alloc a b => exact mem_held_alloc.mpr (.inr ih')
    | free x => exact mem_held_free.mpr ⟨ih', (hf x List.mem_cons_self).symm⟩
    | destroy a =>
      refine mem_held_destroy.mpr ⟨ih', ?_⟩
      rintro rfl
      exact hd List.mem_cons_self

theorem Honest.of_append (h : Honest (log' ++ log)) : Honest log := by
  induction log' with
  | nil => exact h
  | cons op log' ih =>
    cases op with
    | alloc a b => exact ih h.2
    | free x => exact ih h
    | destroy a => exact ih h

theorem Honest.ne_zero (h : Honest log) (hp : p ∈ held log) : p.2.1 ≠ 0 := by
  induction log with
  | nil => cases hp
  | cons op log ih =>
    cases op with
    | alloc a b =>
      rcases mem_held_alloc.mp hp with rfl | hp
      · exact h.1.1
      · exact ih h.2 hp
    | free x => exact ih h (mem_held_free.mp hp).1
    | destroy a => exact ih h (mem_held_destroy.mp hp).1

theorem Honest.frees {xs : List Nat} (h : Honest log) : Honest (xs.map Op.free ++ log) := by
  induction xs with
  | nil => exact h
  | cons x xs ih => exact ih

/-- What one pool hands out at a stretch. -/
theorem Honest.allocs (h : Honest (bs.map (Op.alloc a) ++ log)) :
    (∀ b ∈ bs, Fresh (held log) b) ∧ bs.Pairwise (fun b b' => b.1 ≠ b'.1 ∧ Span.Disjoint b b') ∧
      (∀ b ∈ bs, (a, b) ∈ held (bs.map (Op.alloc a) ++ log)) ∧
      ∀ p ∈ held log, p ∈ held (bs.map (Op.alloc a) ++ log) := by
  induction bs with
  | nil => exact ⟨by simp, List.Pairwise.nil, by simp, fun p hp => hp⟩
  | cons b bs ih =>
    obtain ⟨⟨hne, hb⟩, hrest⟩ := h
    obtain ⟨h1, h2, h3, h4⟩ := ih hrest
    refine ⟨?_, List.pairwise_cons.mpr ⟨?_, h2⟩, ?_, ?_⟩
    · intro b' hb'
      cases List.mem_cons.mp hb' with
      | inl heq =>
        rw [heq]
        exact ⟨hne, fun p hp => hb p (h4 p hp)⟩
      | inr hmem => exact h1 b' hmem
    · intro b' hb'
      obtain ⟨hx, hd⟩ := hb (a, b') (h3 b' hb')
      exact ⟨hx.symm, hd.symm⟩
    · intro b' hb'
      cases List.mem_cons.mp hb' with
      | inl heq => exact mem_held_alloc.mpr (.inl (by rw [heq]))
      | inr hmem => exact mem_held_alloc.mpr (.inr (h3 b' hmem))
    · intro p hp
      exact mem_held_alloc.mpr (.inr (h4 p hp))

end Held

end HeldBlocks
