import Mathlib.Data.List.Basic
import Mathlib.Tactic.Common

/-!
# Hcom4db.Base.Arena

Traces of arenas, newest operation first. Arenas are created and destroyed; addresses are handed out by
one arena and given back to one.

* `alive t a`: the last creation or destruction of `a` is a creation.
* `home t x`: the arena that handed `x` out last.
* `FreesHome t`: every address is given back to its home, while that is alive.
-/

namespace Arena

variable {A X : Type}

inductive Op (A X : Type) where
  | create (a : A)
  | destroy (a : A)
  | alloc (a : A) (x : X)
  | free (a : A) (x : X)

abbrev Trace (A X : Type) := List (Op A X)

section Alive

variable [DecidableEq A] {t : Trace A X} {a b : A}

def alive : Trace A X → A → Bool
  | [], _ => false
  | .create b :: t, a => if b = a then true else alive t a
  | .destroy b :: t, a => if b = a then false else alive t a
  | .alloc _ _ :: t, a => alive t a
  | .free _ _ :: t, a => alive t a

@[simp] theorem alive_frees (xs : List X) : alive (xs.map (Op.free b) ++ t) a = alive t a := by
  induction xs with
  | nil => rfl
  | cons y ys ih => exact ih

@[simp] theorem alive_allocs (xs : List X) : alive (xs.map (Op.alloc b) ++ t) a = alive t a := by
  induction xs with
  | nil => rfl
  | cons y ys ih => exact ih

theorem alive_creates {as : List A} (h : alive t a = true) :
    alive (as.map Op.create ++ t) a = true := by
  induction as with
  | nil => exact h
  | cons b bs ih =>
    by_cases hb : b = a
    · exact if_pos hb
    · exact (if_neg hb).trans ih

end Alive

section Home

variable [DecidableEq X] {t : Trace A X} {a b : A} {x : X}

def home : Trace A X → X → Option A
  | [], _ => none
  | .alloc a y :: t, x => if y = x then some a else home t x
  | .create _ :: t, x => home t x
  | .destroy _ :: t, x => home t x
  | .free _ _ :: t, x => home t x

@[simp] theorem home_frees (xs : List X) : home (xs.map (Op.free b) ++ t) x = home t x := by
  induction xs with
  | nil => rfl
  | cons y ys ih => exact ih

@[simp] theorem home_creates (as : List A) : home (as.map Op.create ++ t) x = home t x := by
  induction as with
  | nil => rfl
  | cons b bs ih => exact ih

theorem home_allocs_of_mem {xs : List X} (hx : x ∈ xs) :
    home (xs.map (Op.alloc a) ++ t) x = some a := by
  induction xs with
  | nil => cases hx
  | cons y ys ih =>
    by_cases hy : y = x
    · exact if_pos hy
    · have hx' : x ∈ ys := (List.mem_cons.mp hx).resolve_left fun h => hy h.symm
      exact (if_neg hy).trans (ih hx')

theorem home_allocs_of_notMem {xs : List X} (hx : x ∉ xs) :
    home (xs.map (Op.alloc a) ++ t) x = home t x := by
  induction xs with
  | nil => rfl
  | cons y ys ih =>
    rw [List.mem_cons, not_or] at hx
    obtain ⟨h1, h2⟩ := hx
    exact (if_neg (Ne.symm h1)).trans (ih h2)

end Home

section FreesHome

variable [DecidableEq A] [DecidableEq X] {t : Trace A X} {a : A} {xs ys : List X}

def FreesHome : Trace A X → Prop
  | [] => True
  | .free a x :: t => home t x = some a ∧ alive t a = true ∧ FreesHome t
  | .create _ :: t => FreesHome t
  | .destroy _ :: t => FreesHome t
  | .alloc _ _ :: t => FreesHome t

/-- Addresses that all live in `a` may be given back to it. -/
theorem freesHome_frees (ht : FreesHome t) (ha : alive t a = true)
    (hx : ∀ x ∈ xs, home t x = some a) : FreesHome (xs.map (Op.free a) ++ t) := by
  induction xs with
  | nil => exact ht
  | cons y ys ih =>
    have h1 : home (ys.map (Op.free a) ++ t) y = some a :=
      (home_frees ys).trans (hx y List.mem_cons_self)
    have h2 : alive (ys.map (Op.free a) ++ t) a = true := (alive_frees ys).trans ha
    exact ⟨h1, h2, ih fun x hm => hx x (List.mem_cons_of_mem _ hm)⟩

theorem freesHome_creates {as : List A} (ht : FreesHome t) : FreesHome (as.map Op.create ++ t) := by
  induction as with
  | nil => exact ht
  | cons b bs ih => exact ih

/-- What a trace whose frees all go home says about each of them. -/
theorem FreesHome.of_append {s : Trace A X} {x : X} (h : FreesHome (s ++ .free a x :: t)) :
    home t x = some a ∧ alive t a = true := by
  induction s with
  | nil => exact ⟨h.1, h.2.1⟩
  | cons op s ih =>
    cases op with
    | free b y => exact ih h.2.2
    | create b => exact ih h
    | destroy b => exact ih h
    | alloc b y => exact ih h

theorem freesHome_allocs (ht : FreesHome t) : FreesHome (xs.map (Op.alloc a) ++ t) := by
  induction xs with
  | nil => exact ht
  | cons y ys ih => exact ih

/-- A batch on one arena: it takes addresses and then gives some of them back. -/
theorem freesHome_batch (ht : FreesHome t) (ha : alive t a = true) (hsub : ∀ x ∈ xs, x ∈ ys) :
    FreesHome (xs.map (Op.free a) ++ (ys.map (Op.alloc a) ++ t)) := by
  refine freesHome_frees (freesHome_allocs ht) ?_ fun x hx => home_allocs_of_mem (hsub x hx)
  rw [alive_allocs]
  exact ha

end FreesHome

end Arena
