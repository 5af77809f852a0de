import Mathlib.Data.List.AList

/-!
# Hcom4db.Base.StdMap

`std::map`, over Mathlib's association lists with unique keys. Each operation has the C++
behaviour: `insertNew` is `insert` (an existing key keeps its value), `subscript` is `operator[]`
(a missing key is inserted with the default value, also when the caller only reads), `findIf` is
`std::find_if` over the pairs in key order.
-/

/-- A `std::map` from `K` to `V`. -/
abbrev StdMap (K V : Type) := AList fun _ : K => V

namespace StdMap

variable {K V : Type} [DecidableEq K]

/-- `m.find(k)`, `none` for `m.end()`. -/
abbrev find (m : StdMap K V) (k : K) : Option V := m.lookup k

/-- `m.insert({k, v})`: the value of a key that exists is not replaced. -/
def insertNew (m : StdMap K V) (k : K) (v : V) : StdMap K V :=
  match m.find k with
  | some _ => m
  | none => m.insert k v

/-- `m[k]` read as a value: what it yields, and the map it leaves. -/
def subscript (dflt : V) (m : StdMap K V) (k : K) : V × StdMap K V :=
  match m.find k with
  | some v => (v, m)
  | none => (dflt, m.insert k dflt)

/-- One pair looked at by `findIf`: the smaller of the key found so far and this one. -/
def findStep (lt : K → K → Bool) (p : V → Bool) (acc : Option K) (e : Sigma fun _ : K => V) :
    Option K :=
  match p e.2, acc with
  | false, _ => acc
  | true, none => some e.1
  | true, some k => if lt e.1 k then some e.1 else some k

/-- The key of the first pair, in key order, whose value satisfies `p`. -/
def findIf (lt : K → K → Bool) (p : V → Bool) (m : StdMap K V) : Option K :=
  m.entries.foldl (findStep lt p) none

@[simp] theorem find_empty (k : K) : find (∅ : StdMap K V) k = none := AList.lookup_empty k

theorem find_insert (m : StdMap K V) (k k' : K) (v : V) :
    find (m.insert k v) k' = if k' = k then some v else find m k' := by
  by_cases h : k' = k
  · subst h; simp [find]
  · simp [find, h]

theorem find_erase (m : StdMap K V) (k k' : K) :
    find (m.erase k) k' = if k' = k then none else find m k' := by
  by_cases h : k' = k
  · subst h; simp [find]
  · simp [find, h]

theorem erase_of_find_none {m : StdMap K V} {k : K} (h : find m k = none) : m.erase k = m := by
  have hk : k ∉ m := AList.lookup_eq_none.mp h
  exact AList.ext (List.kerase_of_notMem_keys hk)

/-- Erasing an entry that was inserted gives the map back. -/
theorem erase_insertNew_of_find_none {m : StdMap K V} {k : K} (h : find m k = none) (v : V) :
    AList.erase k (insertNew m k v) = m := by
  have hk : k ∉ m := AList.lookup_eq_none.mp h
  unfold insertNew
  rw [h]
  refine AList.ext ?_
  show List.kerase k (m.insert k v).entries = m.entries
  rw [AList.insert_of_notMem hk]
  exact List.kerase_cons_eq rfl

theorem find_insertNew (m : StdMap K V) (k k' : K) (v : V) :
    find (insertNew m k v) k' = if k' = k then some ((find m k).getD v) else find m k' := by
  unfold insertNew
  cases h : find m k with
  | some x =>
    by_cases hk : k' = k
    · subst hk; simp [h]
    · simp [hk]
  | none => rw [find_insert]; simp

theorem subscript_of_find {m : StdMap K V} {k : K} {v : V} (dflt : V) (h : find m k = some v) :
    subscript dflt m k = (v, m) := by
  simp [subscript, h]

theorem subscript_of_none {m : StdMap K V} {k : K} (dflt : V) (h : find m k = none) :
    (subscript dflt m k).2 = insertNew m k dflt := by
  simp [subscript, insertNew, h]

theorem find_subscript (dflt : V) (m : StdMap K V) (k k' : K) :
    find (subscript dflt m k).2 k' = if k' = k then some ((find m k).getD dflt) else find m k' := by
  unfold subscript
  cases h : find m k with
  | some x =>
    by_cases hk : k' = k
    · subst hk; simp [h]
    · simp [hk]
  | none => simp [find_insert]

/-- `operator[]` is idempotent: after it the key exists. -/
theorem subscript_subscript (dflt : V) (m : StdMap K V) (k : K) :
    subscript dflt (subscript dflt m k).2 k = subscript dflt m k := by
  have h := find_subscript dflt m k k
  rw [if_pos rfl] at h
  rw [subscript_of_find dflt h]
  unfold subscript
  cases find m k <;> rfl

theorem find_eq_some_iff_mem (m : StdMap K V) (k : K) (v : V) :
    find m k = some v ↔ (⟨k, v⟩ : Sigma fun _ : K => V) ∈ m.entries := AList.mem_lookup_iff

section FindIf

variable {lt : K → K → Bool} {p : V → Bool}

omit [DecidableEq K] in
theorem findStep_eq_some {acc : Option K} {e : Sigma fun _ : K => V} {k : K}
    (h : findStep lt p acc e = some k) : acc = some k ∨ (k = e.1 ∧ p e.2 = true) := by
  unfold findStep at h
  split at h
  · exact .inl h
  · rename_i hp; cases h; exact .inr ⟨rfl, hp⟩
  · rename_i hp
    split at h
    · cases h; exact .inr ⟨rfl, hp⟩
    · exact .inl h

omit [DecidableEq K] in
theorem findStep_eq_none {acc : Option K} {e : Sigma fun _ : K => V}
    (h : findStep lt p acc e = none) : acc = none ∧ p e.2 = false := by
  unfold findStep at h
  split at h
  · rename_i hp; exact ⟨h, hp⟩
  · cases h
  · split at h <;> cases h

omit [DecidableEq K] in
theorem foldl_findStep_eq_some {l : List (Sigma fun _ : K => V)} {acc : Option K} {k : K}
    (h : l.foldl (findStep lt p) acc = some k) :
    acc = some k ∨ ∃ v, (⟨k, v⟩ : Sigma fun _ : K => V) ∈ l ∧ p v = true := by
  induction l generalizing acc with
  | nil => exact .inl h
  | cons e l ih =>
    rcases ih h with h | ⟨v, hv, hp⟩
    · rcases findStep_eq_some h with h | ⟨rfl, hp⟩
      · exact .inl h
      · exact .inr ⟨e.2, List.mem_cons_self, hp⟩
    · exact .inr ⟨v, List.mem_cons_of_mem _ hv, hp⟩

omit [DecidableEq K] in
theorem foldl_findStep_eq_none {l : List (Sigma fun _ : K => V)} {acc : Option K}
    (h : l.foldl (findStep lt p) acc = none) : acc = none ∧ ∀ e ∈ l, p e.2 = false := by
  induction l generalizing acc with
  | nil => exact ⟨h, by simp⟩
  | cons e l ih =>
    obtain ⟨ha, hl⟩ := ih h
    obtain ⟨ha, he⟩ := findStep_eq_none ha
    refine ⟨ha, fun e' he' => ?_⟩
    rcases List.mem_cons.mp he' with rfl | he'
    · exact he
    · exact hl e' he'

/-- The key `findIf` returns holds a value that satisfies the predicate. -/
theorem find_of_findIf {m : StdMap K V} {k : K} (h : findIf lt p m = some k) :
    ∃ v, find m k = some v ∧ p v = true := by
  rcases foldl_findStep_eq_some h with h | ⟨v, hv, hp⟩
  · cases h
  · exact ⟨v, (find_eq_some_iff_mem m k v).mpr hv, hp⟩

/-- When `findIf` finds nothing, no value satisfies the predicate. -/
theorem findIf_eq_none {m : StdMap K V} (h : findIf lt p m = none) {k : K} {v : V}
    (hk : find m k = some v) : p v = false :=
  (foldl_findStep_eq_none h).2 _ ((find_eq_some_iff_mem m k v).mp hk)

end FindIf

end StdMap
