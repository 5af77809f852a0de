import Hcom4db.Config
import Mathlib.Data.List.TakeWhile

/-!
# Hcom4db.Numbers

What `std::stoi` and `std::strtol` read: blanks, a sign, digits, and then whatever follows. `Reads` is
that grammar as a judgment; the two scanners are characterized by it.

* `reads_iff_scan`: the grammar and the scanner agree, and the reading is unique.
* `stoi_ok_iff`: the strings `std::stoi` accepts, each with its number.
-/

namespace Hcom4db

/-- `s` is blanks, a sign (a minus if `neg`), the digits `ds`, and `rest`, where no digit is next. -/
def Reads (s : CStr) (neg : Bool) (ds rest : CStr) : Prop :=
  ∃ blanks sign, s = blanks ++ (sign ++ (ds ++ rest)) ∧ (∀ c ∈ blanks, isSpace c = true) ∧
    (neg = true ∧ sign = [45] ∨ neg = false ∧ (sign = [] ∨ sign = [43])) ∧
    ds ≠ [] ∧ (∀ c ∈ ds, isDigit c = true) ∧ rest.takeWhile isDigit = []

/-- The number that was read. -/
def signedValue (neg : Bool) (ds : CStr) : Int :=
  if neg then -(digitsValue ds : Int) else digitsValue ds

/-- A string that is digits and nothing else, so the decimal numeral of `digitsValue s`. -/
def IsNumeral (s : CStr) : Prop := s ≠ [] ∧ ∀ c ∈ s, isDigit c = true

instance (s : CStr) : Decidable (IsNumeral s) := inferInstanceAs (Decidable (_ ∧ _))

/-! ## The scanner -/

theorem isSpace_of_isDigit {c : UInt8} (h : isDigit c = true) : isSpace c = false := by
  simp only [isDigit, Bool.and_eq_true, decide_eq_true_eq, UInt8.le_iff_toNat_le] at h
  simp only [isSpace, Bool.or_eq_false_iff, beq_eq_false_iff_ne, Bool.and_eq_false_iff,
    decide_eq_false_iff_not, UInt8.le_iff_toNat_le, ne_eq, ← UInt8.toNat_inj]
  have h48 : (48 : UInt8).toNat = 48 := rfl
  have h32 : (32 : UInt8).toNat = 32 := rfl
  have h13 : (13 : UInt8).toNat = 13 := rfl
  omega

/-- A sign is not a digit. -/
theorem not_isDigit_sign {c : UInt8} (h : isDigit c = true) : c ≠ 45 ∧ c ≠ 43 := by
  constructor
  · rintro rfl
    exact absurd h (by decide)
  · rintro rfl
    exact absurd h (by decide)

theorem takeSign_digits {ds rest : CStr} (hne : ds ≠ []) (hds : ∀ c ∈ ds, isDigit c = true) :
    takeSign (ds ++ rest) = (false, ds ++ rest) := by
  cases ds with
  | nil => exact absurd rfl hne
  | cons c cs =>
    obtain ⟨h45, h43⟩ := not_isDigit_sign (hds c List.mem_cons_self)
    rw [List.cons_append, takeSign, if_neg h45, if_neg h43]

/-- The sign of a string, and the string put together again. -/
theorem takeSign_eq (s : CStr) :
    ∃ sign, s = sign ++ (takeSign s).2 ∧
      ((takeSign s).1 = true ∧ sign = [45] ∨ (takeSign s).1 = false ∧ (sign = [] ∨ sign = [43])) := by
  cases s with
  | nil => exact ⟨[], rfl, .inr ⟨rfl, .inl rfl⟩⟩
  | cons c cs =>
    by_cases h45 : c = 45
    · subst h45
      exact ⟨[45], rfl, .inl ⟨rfl, rfl⟩⟩
    · by_cases h43 : c = 43
      · subst h43
        exact ⟨[43], rfl, .inr ⟨rfl, .inr rfl⟩⟩
      · rw [takeSign, if_neg h45, if_neg h43]
        exact ⟨[], rfl, .inr ⟨rfl, .inl rfl⟩⟩

theorem dropWhile_blanks {blanks t : CStr} (hb : ∀ c ∈ blanks, isSpace c = true)
    (ht : t.dropWhile isSpace = t) : (blanks ++ t).dropWhile isSpace = t := by
  rw [List.dropWhile_append_of_pos hb, ht]

/-- What follows the blanks of a reading does not begin with one. -/
theorem dropWhile_signed {sign ds rest : CStr} (hsign : sign = [45] ∨ sign = [] ∨ sign = [43])
    (hne : ds ≠ []) (hds : ∀ c ∈ ds, isDigit c = true) :
    (sign ++ (ds ++ rest)).dropWhile isSpace = sign ++ (ds ++ rest) := by
  obtain rfl | rfl | rfl := hsign
  · rfl
  · cases ds with
    | nil => exact absurd rfl hne
    | cons c cs =>
      rw [List.nil_append, List.cons_append, List.dropWhile_cons,
        isSpace_of_isDigit (hds c List.mem_cons_self)]
      rfl
  · rfl

theorem takeWhile_digits {ds rest : CStr} (hds : ∀ c ∈ ds, isDigit c = true)
    (hrest : rest.takeWhile isDigit = []) :
    (ds ++ rest).takeWhile isDigit = ds ∧ (ds ++ rest).dropWhile isDigit = rest := by
  have htake : (ds ++ rest).takeWhile isDigit = ds := by
    rw [List.takeWhile_append_of_pos hds, hrest, List.append_nil]
  refine ⟨htake, ?_⟩
  have h := List.takeWhile_append_dropWhile (p := isDigit) (l := ds ++ rest)
  rw [htake] at h
  exact List.append_cancel_left h

theorem takeWhile_dropWhile_nil (p : UInt8 → Bool) (s : CStr) :
    (s.dropWhile p).takeWhile p = [] := by
  induction s with
  | nil => rfl
  | cons c cs ih =>
    rw [List.dropWhile_cons]
    split
    · exact ih
    · rename_i hc
      rw [List.takeWhile_cons, if_neg hc]

/-- The grammar and the scanner agree: a string is read in one way, the scanner's. -/
theorem reads_iff_scan {s : CStr} {neg : Bool} {ds rest : CStr} :
    Reads s neg ds rest ↔
      (takeSign (s.dropWhile isSpace)).1 = neg ∧
      (takeSign (s.dropWhile isSpace)).2.takeWhile isDigit = ds ∧
      (takeSign (s.dropWhile isSpace)).2.dropWhile isDigit = rest ∧ ds ≠ [] := by
  constructor
  · rintro ⟨blanks, sign, rfl, hblanks, hsign, hne, hds, hrest⟩
    have hkind : sign = [45] ∨ sign = [] ∨ sign = [43] := by
      obtain ⟨-, h⟩ | ⟨-, h⟩ := hsign
      · exact .inl h
      · exact .inr h
    rw [dropWhile_blanks hblanks (dropWhile_signed hkind hne hds)]
    obtain ⟨htake, hdrop⟩ := takeWhile_digits hds hrest
    have htail : takeSign (sign ++ (ds ++ rest)) = (neg, ds ++ rest) := by
      obtain ⟨rfl, rfl⟩ | ⟨rfl, rfl | rfl⟩ := hsign
      · rfl
      · rw [List.nil_append, takeSign_digits hne hds]
      · rfl
    rw [htail]
    exact ⟨rfl, htake, hdrop, hne⟩
  · rintro ⟨rfl, rfl, rfl, hne⟩
    obtain ⟨sign, hs, hsign⟩ := takeSign_eq (s.dropWhile isSpace)
    refine ⟨s.takeWhile isSpace, sign, ?_, fun c => List.mem_takeWhile_imp, hsign, hne,
      fun c => List.mem_takeWhile_imp, takeWhile_dropWhile_nil isDigit _⟩
    rw [List.takeWhile_append_dropWhile, ← hs, List.takeWhile_append_dropWhile]

/-- A numeral is read in full, with no sign. -/
theorem reads_of_isNumeral {s : CStr} (h : IsNumeral s) : Reads s false s [] :=
  ⟨[], [], by simp, by simp, .inr ⟨rfl, .inl rfl⟩, h.1, h.2, rfl⟩

theorem Reads.unique {s : CStr} {neg neg' : Bool} {ds ds' rest rest' : CStr}
    (h : Reads s neg ds rest) (h' : Reads s neg' ds' rest') :
    neg = neg' ∧ ds = ds' ∧ rest = rest' := by
  obtain ⟨rfl, rfl, rfl, -⟩ := reads_iff_scan.mp h
  obtain ⟨hneg, hds, hrest, -⟩ := reads_iff_scan.mp h'
  exact ⟨hneg, hds, hrest⟩

/-! ## `std::stoi` -/

theorem stoi_eq (s : CStr) :
    stoi s =
      let t := takeSign (s.dropWhile isSpace)
      let ds := t.2.takeWhile isDigit
      if ds = [] then .error .invalidArgument
      else if signedValue t.1 ds < Int32.minValue.toInt ∨ Int32.maxValue.toInt < signedValue t.1 ds then
        .error .outOfRange
      else .ok (Int32.ofInt (signedValue t.1 ds)) := rfl

theorem stoi_ok_iff {s : CStr} {n : Int32} :
    stoi s = .ok n ↔ ∃ neg ds rest, Reads s neg ds rest ∧ signedValue neg ds = n.toInt := by
  constructor
  · intro h
    rw [stoi_eq] at h
    simp only at h
    split at h
    · cases h
    · rename_i hne
      split at h
      · cases h
      · rename_i hrange
        cases h
        refine ⟨_, _, _, reads_iff_scan.mpr ⟨rfl, rfl, rfl, hne⟩, ?_⟩
        rw [Int32.toInt_ofInt]
        rw [not_or, not_lt, not_lt] at hrange
        obtain ⟨hlo, hhi⟩ := hrange
        rw [show Int32.minValue.toInt = -2147483648 from rfl] at hlo
        rw [show Int32.maxValue.toInt = 2147483647 from rfl] at hhi
        have hsize : ((Int32.size : Nat) : Int) = 4294967296 := rfl
        exact (Int.bmod_eq_of_le (by omega) (by omega)).symm
  · rintro ⟨neg, ds, rest, hreads, hn⟩
    obtain ⟨rfl, rfl, rfl, hne⟩ := reads_iff_scan.mp hreads
    have hlo := n.le_toInt
    have hhi := n.toInt_lt
    rw [stoi_eq]
    simp only
    rw [if_neg hne, hn, if_neg]
    · rw [Int32.ofInt_toInt]
    · rw [show Int32.minValue.toInt = -2147483648 from rfl,
        show Int32.maxValue.toInt = 2147483647 from rfl]
      omega

end Hcom4db
