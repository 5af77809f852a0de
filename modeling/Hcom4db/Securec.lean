import Hcom4db.State

/-!
# Hcom4db.Securec

The bounded copy of the securec library as its manual documents it: a failed check either leaves the
destination alone or zero-fills all `destMax` bytes of it (the `_AND_RESET` codes).

* `memcpyS_eq_zero_iff`: when the copy succeeds; `memcpyS_of_copyOk`: what it then stores.
* `memcpyS_cases`: every call either changes nothing or stores at `dest`.
* `memcpyS_not_copyOk`: which failures fill the destination.
-/

namespace Hcom4db

open FlatMem

/-- `SECUREC_MEM_MAX_LEN`. -/
def securecMemMaxLen : Nat := 0x7fffffff

def einval : Int := 22
def erange : Int := 34
def einvalAndReset : Int := 150
def erangeAndReset : Int := 162
def eoverlapAndReset : Int := 182

/-- `n` bytes of `src` stored at `addr`. -/
def World.store (w : World) (addr : Addr) (src : Buf) (n : Nat) : World :=
  { w with mem := blit w.mem addr src n, trace := .store addr n :: w.trace }

/-- `memset(addr, 0, n)`. -/
def World.zeroFill (w : World) (addr : Addr) (n : Nat) : World := w.store addr (fun _ => 0) n

/-- `memcpy_s(dest, destMax, src, count)`. `overlap` says whether the two areas overlap, which an
empty copy never does. -/
def memcpyS (w : World) (dest : Addr) (destMax : Nat) (src : Option Buf) (count : Nat)
    (overlap : Bool) : World × Int :=
  if destMax = 0 ∨ securecMemMaxLen < destMax then (w, erange)
  else if dest = 0 then (w, einval)
  else
    match src with
    | none => (w.zeroFill dest destMax, einvalAndReset)
    | some b =>
      if destMax < count then (w.zeroFill dest destMax, erangeAndReset)
      else if 0 < count ∧ overlap = true then (w.zeroFill dest destMax, eoverlapAndReset)
      else (w.store dest b count, 0)

/-- The checks of `memcpy_s`. -/
structure CopyOk (dest : Addr) (destMax : Nat) (src : Option Buf) (count : Nat) (overlap : Bool) :
    Prop where
  max_pos : 0 < destMax
  max_le : destMax ≤ securecMemMaxLen
  dest_ne : dest ≠ 0
  src_some : src.isSome
  fits : count ≤ destMax
  apart : overlap = true → count = 0

instance (dest : Addr) (destMax : Nat) (src : Option Buf) (count : Nat) (overlap : Bool) :
    Decidable (CopyOk dest destMax src count overlap) :=
  decidable_of_iff (0 < destMax ∧ destMax ≤ securecMemMaxLen ∧ dest ≠ 0 ∧ src.isSome ∧
      count ≤ destMax ∧ (overlap = true → count = 0))
    ⟨fun ⟨a, b, c, d, e, f⟩ => ⟨a, b, c, d, e, f⟩, fun ⟨a, b, c, d, e, f⟩ => ⟨a, b, c, d, e, f⟩⟩

/-- The failures that fill the destination: those of the source, once the destination has passed. -/
structure ZeroFills (dest : Addr) (destMax : Nat) (src : Option Buf) (count : Nat)
    (overlap : Bool) : Prop where
  max_pos : 0 < destMax
  max_le : destMax ≤ securecMemMaxLen
  dest_ne : dest ≠ 0
  bad : src = none ∨ destMax < count ∨ (0 < count ∧ overlap = true)

instance (dest : Addr) (destMax : Nat) (src : Option Buf) (count : Nat) (overlap : Bool) :
    Decidable (ZeroFills dest destMax src count overlap) :=
  decidable_of_iff (0 < destMax ∧ destMax ≤ securecMemMaxLen ∧ dest ≠ 0 ∧
      (src.isNone ∨ destMax < count ∨ (0 < count ∧ overlap = true)))
    ⟨fun ⟨a, b, c, d⟩ => ⟨a, b, c, d.imp_left Option.isNone_iff_eq_none.mp⟩,
      fun ⟨a, b, c, d⟩ => ⟨a, b, c, d.imp_left Option.isNone_iff_eq_none.mpr⟩⟩

section

variable {w : World} {dest : Addr} {destMax : Nat} {src : Option Buf} {count : Nat} {overlap : Bool}

theorem memcpyS_of_copyOk {b : Buf} (h : CopyOk dest destMax (some b) count overlap) :
    memcpyS w dest destMax (some b) count overlap = (w.store dest b count, 0) := by
  obtain ⟨h1, h2, h3, -, h5, h6⟩ := h
  rw [memcpyS, if_neg (by omega), if_neg h3, if_neg (by omega), if_neg]
  rintro ⟨hc, ho⟩
  have := h6 ho
  omega

/-- A call that succeeds has passed every check. -/
theorem copyOk_of_memcpyS (h : (memcpyS w dest destMax src count overlap).2 = 0) :
    CopyOk dest destMax src count overlap := by
  unfold memcpyS at h
  split at h
  · cases h
  · rename_i h1
    split at h
    · cases h
    · rename_i h2
      split at h
      · cases h
      · split at h
        · cases h
        · rename_i h3
          split at h
          · cases h
          · rename_i h4
            refine ⟨by omega, by omega, h2, rfl, by omega, fun ho => ?_⟩
            by_contra hc
            exact h4 ⟨by omega, ho⟩

theorem memcpyS_eq_zero_iff :
    (memcpyS w dest destMax src count overlap).2 = 0 ↔ CopyOk dest destMax src count overlap := by
  constructor
  · exact copyOk_of_memcpyS
  · intro h
    cases src with
    | none => cases h.src_some
    | some b => rw [memcpyS_of_copyOk h]

/-- Whatever the outcome, the copy either leaves the world alone or stores at `dest`. -/
theorem memcpyS_cases (w : World) (dest : Addr) (destMax : Nat) (src : Option Buf) (count : Nat)
    (overlap : Bool) :
    (memcpyS w dest destMax src count overlap).1 = w ∨
      ∃ b n, (memcpyS w dest destMax src count overlap).1 = w.store dest b n := by
  unfold memcpyS
  split
  · exact .inl rfl
  · split
    · exact .inl rfl
    · split
      · exact .inr ⟨_, _, rfl⟩
      · split
        · exact .inr ⟨_, _, rfl⟩
        · split
          · exact .inr ⟨_, _, rfl⟩
          · exact .inr ⟨_, _, rfl⟩

/-- A copy that fails fills the destination or leaves the world alone. -/
theorem memcpyS_not_copyOk (h : ¬ CopyOk dest destMax src count overlap) :
    (ZeroFills dest destMax src count overlap ∧
      (memcpyS w dest destMax src count overlap).1 = w.zeroFill dest destMax) ∨
    (¬ ZeroFills dest destMax src count overlap ∧
      (memcpyS w dest destMax src count overlap).1 = w) := by
  unfold memcpyS
  split
  · rename_i hmax
    refine .inr ⟨fun hz => ?_, rfl⟩
    have := hz.max_pos
    have := hz.max_le
    omega
  · rename_i hmax
    split
    · rename_i hdest
      exact .inr ⟨fun hz => hz.dest_ne hdest, rfl⟩
    · rename_i hdest
      have hfills (hbad : src = none ∨ destMax < count ∨ (0 < count ∧ overlap = true)) :
          ZeroFills dest destMax src count overlap := ⟨by omega, by omega, hdest, hbad⟩
      cases src with
      | none => exact .inl ⟨hfills (.inl rfl), rfl⟩
      | some b =>
        simp only
        split
        · rename_i hfit
          exact .inl ⟨hfills (.inr (.inl hfit)), rfl⟩
        · split
          · rename_i hover
            exact .inl ⟨hfills (.inr (.inr hover)), rfl⟩
          · rename_i hfit hover
            refine absurd ⟨by omega, by omega, hdest, rfl, by omega, fun ho => ?_⟩ h
            by_contra hc
            exact hover ⟨by omega, ho⟩

/-- A copy hands out no block and frees none. -/
theorem memcpyS_since (w : World) (dest : Addr) (destMax : Nat) (src : Option Buf) (count : Nat)
    (overlap : Bool) :
    blocks (w.since (memcpyS w dest destMax src count overlap).1) = [] ∧
      poolFreed (w.since (memcpyS w dest destMax src count overlap).1) = [] := by
  rcases memcpyS_cases w dest destMax src count overlap with h | ⟨b, n, h⟩
  · rw [h, World.since_self]
    exact ⟨rfl, rfl⟩
  · have ht : (w.store dest b n).trace = [.store dest n] ++ w.trace := rfl
    rw [h, World.since_of_trace ht]
    exact ⟨rfl, rfl⟩

end

end Hcom4db
