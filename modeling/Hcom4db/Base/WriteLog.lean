import Mathlib.Data.List.Basic
import Mathlib.Tactic.Common

/-!
# Hcom4db.Base.WriteLog

Logs of allocations and stores, newest entry first. `block` reads the block an entry allocates, `stored`
the span it stores to; spans are an address and a length.

* `lastBlock`: the block allocated last.
* `InBounds`: every store lies inside the block allocated last before it.
* `inBounds_append`: a log is in bounds when its older part is, and its newer part from there.
-/

namespace WriteLog

variable {E : Type} (block stored : E → Option (Nat × Nat))

def Within (s b : Nat × Nat) : Prop := b.1 ≤ s.1 ∧ s.1 + s.2 ≤ b.1 + b.2

/-- The last block of a log that starts with the block `cur`. -/
def lastBlock (cur : Option (Nat × Nat)) (log : List E) : Option (Nat × Nat) :=
  (log.findSome? block).or cur

def InBounds (cur : Option (Nat × Nat)) : List E → Prop
  | [] => True
  | e :: log => InBounds cur log ∧ ∀ s ∈ stored e, ∃ b ∈ lastBlock block cur log, Within s b

variable {block stored} {cur : Option (Nat × Nat)} {log log' : List E} {e : E}

@[simp] theorem lastBlock_nil : lastBlock block cur [] = cur := rfl

theorem lastBlock_append (cur : Option (Nat × Nat)) (log' log : List E) :
    lastBlock block cur (log' ++ log) = lastBlock block (lastBlock block cur log) log' := by
  simp only [lastBlock, List.findSome?_append, Option.or_assoc]

theorem lastBlock_cons_some {b : Nat × Nat} (h : block e = some b) :
    lastBlock block cur (e :: log) = some b := by
  simp [lastBlock, h]

theorem inBounds_append (cur : Option (Nat × Nat)) (log' log : List E) :
    InBounds block stored cur (log' ++ log) ↔
      InBounds block stored cur log ∧ InBounds block stored (lastBlock block cur log) log' := by
  induction log' with
  | nil => simp [InBounds]
  | cons e log' ih =>
    simp only [List.cons_append, InBounds, ih, lastBlock_append, and_assoc]

theorem inBounds_cons_none (h : stored e = none) :
    InBounds block stored cur (e :: log) ↔ InBounds block stored cur log := by
  simp [InBounds, h]

/-- A log without stores is in bounds. -/
theorem inBounds_of_none (h : ∀ e ∈ log, stored e = none) : InBounds block stored cur log := by
  induction log with
  | nil => trivial
  | cons e log ih =>
    refine (inBounds_cons_none (h e List.mem_cons_self)).mpr (ih ?_)
    intro e' he'
    exact h e' (List.mem_cons_of_mem _ he')

/-- In a log that is in bounds every store lies in one of its blocks, or in the block it starts with. -/
theorem InBounds.within (h : InBounds block stored cur log) {s : Nat × Nat}
    (hs : s ∈ log.filterMap stored) : ∃ b, (b ∈ cur ∨ b ∈ log.filterMap block) ∧ Within s b := by
  obtain ⟨e, he, hse⟩ := List.mem_filterMap.mp hs
  obtain ⟨new, old, rfl⟩ := List.append_of_mem he
  obtain ⟨b, hb, hw⟩ := (((inBounds_append cur new (e :: old)).mp h).1.2 s hse)
  refine ⟨b, ?_, hw⟩
  rw [lastBlock, Option.mem_def, Option.or_eq_some_iff] at hb
  rcases hb with hb | ⟨-, hb⟩
  · obtain ⟨e', he', hbe'⟩ := List.exists_of_findSome?_eq_some hb
    exact .inr (List.mem_filterMap.mpr ⟨e', List.mem_append_right _ (List.mem_cons_of_mem _ he'), hbe'⟩)
  · exact .inl hb

end WriteLog
