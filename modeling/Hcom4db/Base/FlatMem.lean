import Mathlib.Data.List.Basic
import Mathlib.Data.List.Flatten
import Mathlib.Tactic.Common

/-!
# Hcom4db.Base.FlatMem

Flat byte memory. A memory is a function from addresses to bytes; `blit` stores the first `n`
bytes of a buffer at an address, `bytesAt` takes a span out as a list.

* `bytesAt_blit_self`, `bytesAt_blit_of_disjoint`: what a read sees after a store.
* `Span.Disjoint`: no address lies in both spans (an empty span is disjoint from every span).
* `Holds`: a list of spans whose contents are given; `gather` concatenates them.
-/

namespace FlatMem

/-- The bytes at and after an address. -/
abbrev Mem := Nat → UInt8

/-- The `n` bytes from address `a` on. -/
def bytesAt (m : Mem) (a n : Nat) : List UInt8 := (List.range n).map fun i => m (a + i)

/-- Store the first `n` bytes of `src` at address `a`. -/
def blit (m : Mem) (a : Nat) (src : Mem) (n : Nat) : Mem :=
  fun x => if a ≤ x ∧ x < a + n then src (x - a) else m x

@[simp] theorem length_bytesAt (m : Mem) (a n : Nat) : (bytesAt m a n).length = n := by simp [bytesAt]

@[simp] theorem bytesAt_zero (m : Mem) (a : Nat) : bytesAt m a 0 = [] := rfl

theorem bytesAt_zeros (a n : Nat) : bytesAt (fun _ => 0) a n = List.replicate n 0 := by
  rw [bytesAt, List.map_const', List.length_range]

theorem bytesAt_congr {m m' : Mem} {a a' n : Nat} (h : ∀ i, i < n → m (a + i) = m' (a' + i)) :
    bytesAt m a n = bytesAt m' a' n := by
  simp only [bytesAt, List.map_inj_left, List.mem_range]
  exact h

theorem bytesAt_add (m : Mem) (a n k : Nat) : bytesAt m a (n + k) = bytesAt m a n ++ bytesAt m (a + n) k := by
  simp only [bytesAt, List.range_add, List.map_append, List.map_map]
  congr 1
  refine List.map_congr_left fun i _ => ?_
  simp [Nat.add_assoc]

theorem blit_apply_of_not_mem {m src : Mem} {a n x : Nat} (h : ¬ (a ≤ x ∧ x < a + n)) :
    blit m a src n x = m x := if_neg h

theorem bytesAt_blit_self (m : Mem) (a : Nat) (src : Mem) (n : Nat) :
    bytesAt (blit m a src n) a n = bytesAt src 0 n := by
  refine bytesAt_congr fun i hi => ?_
  rw [blit, if_pos (by omega)]
  simp

/-- Two spans share no address. -/
def Span.Disjoint (s t : Nat × Nat) : Prop :=
  ∀ x, ¬ ((s.1 ≤ x ∧ x < s.1 + s.2) ∧ (t.1 ≤ x ∧ x < t.1 + t.2))

instance (s t : Nat × Nat) : Decidable (Span.Disjoint s t) :=
  decidable_of_iff (s.2 = 0 ∨ t.2 = 0 ∨ s.1 + s.2 ≤ t.1 ∨ t.1 + t.2 ≤ s.1) (by
    constructor
    · intro h x; omega
    · intro h
      have h1 := h s.1
      have h2 := h t.1
      omega)

theorem Span.Disjoint.symm {s t : Nat × Nat} (h : Span.Disjoint s t) : Span.Disjoint t s :=
  fun x hx => h x ⟨hx.2, hx.1⟩

/-- Spans stay disjoint when one of them gets shorter. -/
theorem Span.Disjoint.mono_right {s : Nat × Nat} {a n k : Nat} (h : Span.Disjoint s (a, n))
    (hk : k ≤ n) : Span.Disjoint s (a, k) := by
  intro x hx
  simp only at hx
  exact h x ⟨hx.1, hx.2.1, by simp only; omega⟩

theorem bytesAt_blit_of_disjoint {m src : Mem} {a n b k : Nat} (h : Span.Disjoint (a, n) (b, k)) :
    bytesAt (blit m a src n) b k = bytesAt m b k := by
  refine bytesAt_congr fun i hi => blit_apply_of_not_mem fun hx => ?_
  exact h (b + i) ⟨hx, by simp only; omega⟩

/-- The bytes of a list of spans, one span after the other. -/
def gather (m : Mem) (spans : List (Nat × Nat)) : List UInt8 :=
  spans.flatMap fun s => bytesAt m s.1 s.2

@[simp] theorem gather_nil (m : Mem) : gather m [] = [] := rfl

theorem gather_cons (m : Mem) (s : Nat × Nat) (ss : List (Nat × Nat)) :
    gather m (s :: ss) = bytesAt m s.1 s.2 ++ gather m ss := by simp [gather]

theorem gather_append (m : Mem) (ss ts : List (Nat × Nat)) :
    gather m (ss ++ ts) = gather m ss ++ gather m ts := by simp [gather]

theorem gather_congr {m m' : Mem} {spans : List (Nat × Nat)}
    (h : ∀ s ∈ spans, bytesAt m s.1 s.2 = bytesAt m' s.1 s.2) : gather m spans = gather m' spans := by
  simp only [gather]
  exact List.flatMap_congr h

end FlatMem
