import Mathlib.Data.List.Count
import Mathlib.Logic.Function.Basic
import Mathlib.Tactic.Common

/-!
# Hcom4db.Base.HeapLog

Logs of a heap, newest operation first. `base` says what is allocated before the log starts.

* `live base log`: what is allocated after it.
* `Ok base log`: every allocation is of a block that is not allocated, and every free of one that is. No
  block is freed twice.
-/

namespace HeapLog

variable {X : Type}

inductive Op (X : Type) where
  | alloc (x : X)
  | free (x : X)
  deriving DecidableEq

variable [DecidableEq X]

def live (base : X → Bool) : List (Op X) → X → Bool
  | [] => base
  | .alloc x :: log => Function.update (live base log) x true
  | .free x :: log => Function.update (live base log) x false

def Ok (base : X → Bool) : List (Op X) → Prop
  | [] => True
  | .alloc x :: log => live base log x = false ∧ Ok base log
  | .free x :: log => live base log x = true ∧ Ok base log

variable {base : X → Bool} {xs : List X} {x : X}

theorem live_append (log' log : List (Op X)) :
    live base (log' ++ log) = live (live base log) log' := by
  induction log' with
  | nil => rfl
  | cons op log' ih =>
    cases op with
    | alloc x => simp only [List.cons_append, live, ih]
    | free x => simp only [List.cons_append, live, ih]

theorem ok_append (log' log : List (Op X)) :
    Ok base (log' ++ log) ↔ Ok base log ∧ Ok (live base log) log' := by
  induction log' with
  | nil => simp [Ok]
  | cons op log' ih =>
    cases op with
    | alloc x =>
      simp only [List.cons_append, Ok, live_append, ih]
      exact and_left_comm
    | free x =>
      simp only [List.cons_append, Ok, live_append, ih]
      exact and_left_comm

/-- A log that does not mention a block leaves it as it is. -/
theorem live_of_notMem {log : List (Op X)} (ha : .alloc x ∉ log) (hf : .free x ∉ log) :
    live base log x = base x := by
  induction log with
  | nil => rfl
  | cons op log ih =>
    rw [List.mem_cons, not_or] at ha hf
    have hrest := ih ha.2 hf.2
    cases op with
    | alloc y =>
      have hne : x ≠ y := fun h => ha.1 (congrArg Op.alloc h)
      exact (Function.update_of_ne hne _ _).trans hrest
    | free y =>
      have hne : x ≠ y := fun h => hf.1 (congrArg Op.free h)
      exact (Function.update_of_ne hne _ _).trans hrest

/-- What is allocated after a log without allocations was so before. -/
theorem live_of_live {log : List (Op X)} (ha : ∀ y, .alloc y ∉ log) (h : live base log x = true) :
    base x = true := by
  induction log with
  | nil => exact h
  | cons op log ih =>
    cases op with
    | alloc y => exact absurd List.mem_cons_self (ha y)
    | free y =>
      rw [live, Function.update_apply] at h
      split at h
      · cases h
      · exact ih (fun z hz => ha z (List.mem_cons_of_mem _ hz)) h

/-- A log without frees keeps what is allocated, and what it allocates stays. -/
theorem live_of_noFree {log : List (Op X)} (hf : ∀ y, .free y ∉ log) (h : base x = true ∨ .alloc x ∈ log) :
    live base log x = true := by
  induction log with
  | nil => exact h.resolve_right List.not_mem_nil
  | cons op log ih =>
    cases op with
    | free y => exact absurd List.mem_cons_self (hf y)
    | alloc y =>
      rw [live, Function.update_apply]
      split
      · rfl
      · rename_i hne
        refine ih (fun z hz => hf z (List.mem_cons_of_mem _ hz)) (h.imp_right fun hmem => ?_)
        exact (List.mem_cons.mp hmem).resolve_left fun heq => hne (Op.alloc.inj heq)

/-- Freeing the blocks `xs`. -/
theorem live_frees (base : X → Bool) (xs : List X) :
    live base (xs.map Op.free) x = if x ∈ xs then false else base x := by
  induction xs with
  | nil => rfl
  | cons y ys ih =>
    simp only [List.map_cons, live, Function.update_apply, ih, List.mem_cons]
    by_cases h : x = y
    · simp [h]
    · simp [h]

theorem ok_frees (hn : xs.Nodup) (hl : ∀ x ∈ xs, base x = true) : Ok base (xs.map Op.free) := by
  induction xs with
  | nil => trivial
  | cons y ys ih =>
    obtain ⟨h1, h2⟩ := List.nodup_cons.mp hn
    refine ⟨?_, ih h2 fun x hx => hl x (List.mem_cons_of_mem _ hx)⟩
    rw [live_frees, if_neg h1]
    exact hl y List.mem_cons_self

/-- Allocating the blocks `xs`. -/
theorem live_allocs (base : X → Bool) (xs : List X) :
    live base (xs.map Op.alloc) x = if x ∈ xs then true else base x := by
  induction xs with
  | nil => rfl
  | cons y ys ih =>
    simp only [List.map_cons, live, Function.update_apply, ih, List.mem_cons]
    by_cases h : x = y
    · simp [h]
    · simp [h]

theorem ok_allocs (hn : xs.Nodup) (hl : ∀ x ∈ xs, base x = false) : Ok base (xs.map Op.alloc) := by
  induction xs with
  | nil => trivial
  | cons y ys ih =>
    obtain ⟨h1, h2⟩ := List.nodup_cons.mp hn
    refine ⟨?_, ih h2 fun x hx => hl x (List.mem_cons_of_mem _ hx)⟩
    rw [live_allocs, if_neg h1]
    exact hl y List.mem_cons_self

/-! ## Counting -/

theorem count_alloc_allocs : (xs.map Op.alloc).count (.alloc x) = xs.count x :=
  List.count_map_of_injective _ _ (fun _ _ h => Op.alloc.inj h) _

theorem count_free_frees : (xs.map Op.free).count (.free x) = xs.count x :=
  List.count_map_of_injective _ _ (fun _ _ h => Op.free.inj h) _

theorem count_free_allocs : (xs.map Op.alloc).count (.free x) = 0 := by
  simp [List.count_eq_zero]

theorem count_alloc_frees : (xs.map Op.free).count (.alloc x) = 0 := by
  simp [List.count_eq_zero]

end HeapLog
