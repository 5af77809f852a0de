import Hcom4db.Numbers
import Hcom4db.Base.Runs

/-!
# Hcom4db.LogLevel

The level of the logger. It is set by the environment, through `SetStrStol` and so through
`std::strtol`, or by a call with an `int`.

`SetStrStol` compares the string with "0" where the number is 0, and with nothing where it is not: a
string that denotes 1, 2 or 3 is accepted however it is written.

* `setStrStol_accepts_iff`: the strings that are accepted.
* `setLogLevel_run`: what a run of settings keeps.
-/

namespace Hcom4db

namespace Hcom4dbLog

def logLevelDebug : UInt16 := 0
def logLevelInfo : UInt16 := 1
def logLevelError : UInt16 := 3

/-- `str.c_str()` as the C library reads it: the characters before the first NUL. -/
def cChars (str : CStr) : CStr := str.takeWhile (· != 0)

/-! ## `std::strtol` -/

/-- The value, `*remain`, and whether `errno` is `ERANGE`. -/
structure StrtolResult where
  value : Int64
  remain : CStr
  erange : Bool
  deriving DecidableEq

/-- `std::strtol(s, &remain, 10)`: a number out of range is the bound it passed, and a string with no
number is 0 and left as it is. -/
def strtol (s : CStr) : StrtolResult :=
  let t := takeSign (s.dropWhile isSpace)
  let ds := t.2.takeWhile isDigit
  let rest := t.2.dropWhile isDigit
  if ds = [] then { value := 0, remain := s, erange := false }
  else
    let n := signedValue t.1 ds
    if n < Int64.minValue.toInt then { value := Int64.minValue, remain := rest, erange := true }
    else if Int64.maxValue.toInt < n then { value := Int64.maxValue, remain := rest, erange := true }
    else { value := Int64.ofInt n, remain := rest, erange := false }

/-- `Hcom4dbLog::SetStrStol`: what it returns, and `value`. -/
def setStrStol (str : CStr) : Bool × Int64 :=
  let r := strtol (cChars str)
  if 0 < r.remain.length ∨ r.value.toInt < logLevelDebug.toNat ∨ logLevelError.toNat < r.value.toInt ∨
      r.erange = true then (false, r.value)
  else if r.value = 0 ∧ str ≠ cstr "0" then (false, r.value)
  else (true, r.value)

example : setStrStol (cstr "2") = (true, 2) := by decide

theorem strtol_of_reads {s : CStr} {neg : Bool} {ds rest : CStr} (h : Reads s neg ds rest) :
    (strtol s).remain = rest ∧
      ((strtol s).erange = false ∧ (strtol s).value.toInt = signedValue neg ds ∨
        (strtol s).erange = true ∧
          (signedValue neg ds < Int64.minValue.toInt ∨ Int64.maxValue.toInt < signedValue neg ds)) := by
  obtain ⟨rfl, rfl, rfl, hne⟩ := reads_iff_scan.mp h
  simp only [strtol]
  rw [if_neg hne]
  split
  · rename_i hlow
    exact ⟨rfl, .inr ⟨rfl, .inl hlow⟩⟩
  · split
    · rename_i hhigh
      exact ⟨rfl, .inr ⟨rfl, .inr hhigh⟩⟩
    · rename_i hlow hhigh
      refine ⟨rfl, .inl ⟨rfl, ?_⟩⟩
      rw [show Int64.minValue.toInt = -9223372036854775808 from rfl] at hlow
      rw [show Int64.maxValue.toInt = 9223372036854775807 from rfl] at hhigh
      have hsize : ((Int64.size : Nat) : Int) = 18446744073709551616 := rfl
      rw [Int64.toInt_ofInt]
      exact Int.bmod_eq_of_le (by omega) (by omega)

/-- A number that a level can be is read without an error. -/
theorem strtol_of_small {s ds rest : CStr} (h : Reads s false ds rest) (hsmall : digitsValue ds ≤ 3) :
    (strtol s).remain = rest ∧ (strtol s).erange = false ∧ (strtol s).value.toInt = digitsValue ds := by
  have hvalue : signedValue false ds = digitsValue ds := rfl
  obtain ⟨hrest, ⟨herange, h⟩ | ⟨-, hout⟩⟩ := strtol_of_reads h
  · exact ⟨hrest, herange, h⟩
  · rw [hvalue, show Int64.minValue.toInt = -9223372036854775808 from rfl,
      show Int64.maxValue.toInt = 9223372036854775807 from rfl] at hout
    omega

theorem strtol_of_not_reads {s : CStr} (h : ∀ neg ds rest, ¬ Reads s neg ds rest) :
    strtol s = { value := 0, remain := s, erange := false } := by
  simp only [strtol]
  by_cases hds : (takeSign (s.dropWhile isSpace)).2.takeWhile isDigit = []
  · rw [if_pos hds]
  · exact absurd (reads_iff_scan.mpr ⟨rfl, rfl, rfl, hds⟩) (h _ _ _)

/-! ## What is accepted -/

theorem setStrStol_snd (str : CStr) : (setStrStol str).2 = (strtol (cChars str)).value := by
  simp only [setStrStol]
  split
  · rfl
  · split <;> rfl

theorem setStrStol_fst (str : CStr) :
    (setStrStol str).1 = true ↔
      (strtol (cChars str)).remain = [] ∧ 0 ≤ (strtol (cChars str)).value.toInt ∧
      (strtol (cChars str)).value.toInt ≤ 3 ∧ (strtol (cChars str)).erange = false ∧
      ((strtol (cChars str)).value = 0 → str = cstr "0") := by
  have h0 : (logLevelDebug.toNat : Int) = 0 := rfl
  have h3 : (logLevelError.toNat : Int) = 3 := rfl
  simp only [setStrStol]
  rw [h0, h3]
  split
  · rename_i hbad
    refine iff_of_false (by simp) ?_
    rintro ⟨hremain, hlow, hhigh, herange, -⟩
    obtain h | h | h | h := hbad
    · rw [hremain] at h
      exact absurd h (Nat.lt_irrefl 0)
    · omega
    · omega
    · cases h.symm.trans herange
  · rename_i hgood
    rw [not_or, not_or, not_or, not_lt, not_lt, not_lt, Bool.not_eq_true] at hgood
    obtain ⟨hremain, hlow, hhigh, herange⟩ := hgood
    split
    · rename_i hzero
      exact iff_of_false (by simp) fun h => hzero.2 (h.2.2.2.2 hzero.1)
    · rename_i hzero
      refine iff_of_true rfl ⟨List.length_eq_zero_iff.mp (by omega), hlow, hhigh, herange, ?_⟩
      intro hvalue
      by_contra hstr
      exact hzero ⟨hvalue, hstr⟩

/-- The strings that are accepted: "0" as it is, and 1, 2 and 3 in every spelling. -/
theorem setStrStol_accepts_iff (str : CStr) :
    (setStrStol str).1 = true ↔
      str = cstr "0" ∨
      ∃ ds, Reads (cChars str) false ds [] ∧ 1 ≤ digitsValue ds ∧ digitsValue ds ≤ 3 := by
  rw [setStrStol_fst]
  constructor
  · rintro ⟨hremain, hlow, hhigh, herange, hzero⟩
    by_cases hreads : ∃ neg ds rest, Reads (cChars str) neg ds rest
    · obtain ⟨neg, ds, rest, hreads⟩ := hreads
      obtain ⟨hrest, ⟨-, hvalue⟩ | ⟨h, -⟩⟩ := strtol_of_reads hreads
      · by_cases hv : (strtol (cChars str)).value = 0
        · exact .inl (hzero hv)
        · have hne : (strtol (cChars str)).value.toInt ≠ 0 := fun h => hv (Int64.toInt.inj h)
          obtain rfl : rest = [] := hrest.symm.trans hremain
          cases neg with
          | true =>
            simp only [signedValue, if_true] at hvalue
            omega
          | false =>
            simp only [signedValue, Bool.false_eq_true, if_false] at hvalue
            exact .inr ⟨ds, hreads, by omega, by omega⟩
      · cases h.symm.trans herange
    · rw [strtol_of_not_reads fun neg ds rest h => hreads ⟨neg, ds, rest, h⟩] at hzero
      exact .inl (hzero rfl)
  · rintro (rfl | ⟨ds, hreads, hlow, hhigh⟩)
    · decide
    · obtain ⟨hrest, herange, hvalue⟩ := strtol_of_small hreads hhigh
      refine ⟨hrest, by omega, by omega, herange, ?_⟩
      intro h0
      rw [h0, Int64.toInt_zero] at hvalue
      omega

/-! ## The grammar the message names -/

/-- "should set one of 0,1,2,3". -/
def levelStrings : List (CStr × Int64) :=
  [(cstr "0", 0), (cstr "1", 1), (cstr "2", 2), (cstr "3", 3)]

/-- More than a digit, and yet a spelling of 1, 2 or 3 up to its first NUL: blanks, a plus, zeros. -/
def Respelled (s : CStr) : Prop :=
  s.length ≠ 1 ∧ ∃ ds, Reads (cChars s) false ds [] ∧ 1 ≤ digitsValue ds ∧ digitsValue ds ≤ 3

/-- One character is read as itself. -/
theorem reads_single {s ds : CStr} (hs : s.length = 1) (h : Reads (cChars s) false ds []) : s = ds := by
  obtain ⟨blanks, sign, hsplit, -, -, hne, -, -⟩ := h
  have hpre : cChars s <+: s := List.takeWhile_prefix _
  have hlen := congrArg List.length hsplit
  have hle := hpre.length_le
  have hpos := List.length_pos_iff.mpr hne
  simp only [List.length_append, List.length_nil, Nat.add_zero] at hlen
  have hblanks : blanks = [] := List.length_eq_zero_iff.mp (by omega)
  have hsign : sign = [] := List.length_eq_zero_iff.mp (by omega)
  rw [hblanks, hsign, List.nil_append, List.nil_append, List.append_nil] at hsplit
  rw [← hsplit]
  exact (hpre.eq_of_length (by rw [hsplit]; omega)).symm

theorem single_digit {s : CStr} (hs : s.length = 1) (hlow : 1 ≤ digitsValue s)
    (hhigh : digitsValue s ≤ 3) : s = cstr "1" ∨ s = cstr "2" ∨ s = cstr "3" := by
  obtain ⟨c, rfl⟩ := List.length_eq_one_iff.mp hs
  have hvalue : digitsValue [c] = c.toNat - 48 := by simp [digitsValue]
  rw [hvalue] at hlow hhigh
  have hc : c.toNat = 49 ∨ c.toNat = 50 ∨ c.toNat = 51 := by omega
  obtain h | h | h := hc
  · exact .inl (congrArg (fun c => [c]) (show c = 49 from UInt8.toNat.inj h))
  · exact .inr (.inl (congrArg (fun c => [c]) (show c = 50 from UInt8.toNat.inj h)))
  · exact .inr (.inr (congrArg (fun c => [c]) (show c = 51 from UInt8.toNat.inj h)))

theorem levelStrings_accepted {s : CStr} {v : Int64} (h : (s, v) ∈ levelStrings) :
    setStrStol s = (true, v) ∧ s.length = 1 := by
  simp only [levelStrings, List.mem_cons, List.not_mem_nil, or_false, Prod.mk.injEq] at h
  obtain ⟨rfl, rfl⟩ | ⟨rfl, rfl⟩ | ⟨rfl, rfl⟩ | ⟨rfl, rfl⟩ := h
  · decide
  · decide
  · decide
  · decide

/-- A string of one character that is accepted is one of the four. -/
theorem accepted_single {s : CStr} (hs : s.length = 1) (h : (setStrStol s).1 = true) :
    (s, (setStrStol s).2) ∈ levelStrings := by
  obtain rfl | ⟨ds, hreads, hlow, hhigh⟩ := (setStrStol_accepts_iff s).mp h
  · decide
  · obtain rfl := reads_single hs hreads
    obtain rfl | rfl | rfl := single_digit hs hlow hhigh
    · decide
    · decide
    · decide

theorem grammar_iff (s : CStr) :
    (∀ v, setStrStol s = (true, v) ↔ (s, v) ∈ levelStrings) ↔ ¬ Respelled s := by
  constructor
  · rintro h ⟨hlen, ds, hreads, hlow, hhigh⟩
    have haccept := (setStrStol_accepts_iff s).mpr (.inr ⟨ds, hreads, hlow, hhigh⟩)
    exact hlen (levelStrings_accepted ((h (setStrStol s).2).mp (Prod.ext haccept rfl))).2
  · intro h v
    refine ⟨fun hv => ?_, fun hv => (levelStrings_accepted hv).1⟩
    have haccept : (setStrStol s).1 = true := by rw [hv]
    have hlen : s.length = 1 := by
      obtain rfl | hreads := (setStrStol_accepts_iff s).mp haccept
      · decide
      · by_contra hlen
        exact h ⟨hlen, hreads⟩
    have hmem := accepted_single hlen haccept
    rwa [hv] at hmem

/-! ## Setting the level -/

structure LogState where
  logLevel : Int32 := logLevelInfo.toUInt32.toInt32
  out : List String := []

/-- `SetLogLevel()`: `env` is what `getenv` returns. -/
def setLogLevelEnv (env : Option CStr) (s : LogState) : LogState :=
  match env with
  | none => s
  | some envSize =>
    match setStrStol envSize with
    | (false, _) =>
      { s with out := s.out ++ ["Invalid setting 'HCOM_SET_LOG_LEVEL', should set one of 0,1,2,3 "] }
    | (true, value) =>
      { logLevel := value.toInt32, out := s.out ++ ["Setting 'HCOM_SET_LOG_LEVEL' success, level:"] }

/-- `SetLogLevel(int level)`. -/
def setLogLevel (level : Int32) (s : LogState) : LogState :=
  if level.toUInt32 ≤ logLevelError.toUInt32 then { s with logLevel := level } else s

inductive Setting where
  | environment (env : Option CStr)
  | call (level : Int32)

def Setting.apply (s : LogState) : Setting → LogState
  | .environment env => setLogLevelEnv env s
  | .call level => setLogLevel level s

def Setting.accepted : Setting → Bool
  | .environment none => false
  | .environment (some envSize) => (setStrStol envSize).1
  | .call level => level.toUInt32 ≤ logLevelError.toUInt32

def LogState.InRange (s : LogState) : Prop := 0 ≤ s.logLevel.toInt ∧ s.logLevel.toInt ≤ 3

theorem apply_of_not_accepted {s : LogState} {a : Setting} (h : a.accepted = false) :
    (a.apply s).logLevel = s.logLevel := by
  cases a with
  | environment env =>
    cases env with
    | none => rfl
    | some envSize =>
      simp only [Setting.accepted] at h
      simp only [Setting.apply, setLogLevelEnv]
      split
      · rfl
      · rename_i value hv
        rw [hv] at h
        cases h
  | call level =>
    simp only [Setting.accepted, decide_eq_false_iff_not] at h
    simp only [Setting.apply, setLogLevel]
    rw [if_neg h]

theorem accepted_value {str : CStr} (h : (setStrStol str).1 = true) :
    0 ≤ (setStrStol str).2.toInt ∧ (setStrStol str).2.toInt ≤ 3 := by
  rw [setStrStol_snd]
  exact ⟨((setStrStol_fst str).mp h).2.1, ((setStrStol_fst str).mp h).2.2.1⟩

theorem toUInt32_le_three {n : Int32} (h : n.toUInt32 ≤ logLevelError.toUInt32) :
    0 ≤ n.toInt ∧ n.toInt ≤ 3 := by
  have hnat : n.toUInt32.toNat ≤ 3 := UInt32.le_iff_toNat_le.mp h
  have hn : n.toInt = n.toUInt32.toNat := BitVec.toInt_eq_toNat_of_lt (by
    change 2 * n.toUInt32.toNat < 2 ^ 32
    omega)
  omega

theorem apply_inRange {s : LogState} (a : Setting) (hs : s.InRange) : (a.apply s).InRange := by
  cases ha : a.accepted with
  | false =>
    rw [LogState.InRange, apply_of_not_accepted ha]
    exact hs
  | true =>
    cases a with
    | environment env =>
      cases env with
      | none => exact hs
      | some envSize =>
        obtain ⟨hlow, hhigh⟩ := accepted_value ha
        simp only [Setting.apply, setLogLevelEnv]
        split
        · exact hs
        · rename_i value hv
          rw [hv] at hlow hhigh
          simp only at hlow hhigh
          have hkeep : value.toInt32.toInt = value.toInt := by
            rw [Int64.toInt_toInt32]
            exact Int.bmod_eq_of_le (by omega) (by omega)
          rw [LogState.InRange, hkeep]
          exact ⟨hlow, hhigh⟩
    | call level =>
      simp only [Setting.accepted, decide_eq_true_eq] at ha
      simp only [Setting.apply, setLogLevel]
      rw [if_pos ha]
      exact toUInt32_le_three ha

/-- What holds of the level after any settings, in any environment. -/
theorem setLogLevel_run {s : LogState}
    (h : Runs.Reached (fun _ _ => True) Setting.apply ({} : LogState) s) : s.InRange :=
  h.invariant ⟨by decide, by decide⟩ fun _ a hs _ => apply_inRange a hs

/-- The four strings are accepted and, but for respellings of 1, 2 and 3, no others; the level stays
in range in either case, and a setting that is refused does not move it. -/
theorem setStrStol_exact (str : CStr) (s : LogState) :
    ((∀ v, setStrStol str = (true, v) ↔ (str, v) ∈ levelStrings) ↔ ¬ Respelled str) ∧
    (Runs.Reached (fun _ _ => True) Setting.apply ({} : LogState) s →
      s.InRange ∧ ∀ a : Setting, a.accepted = false → (a.apply s).logLevel = s.logLevel) :=
  ⟨grammar_iff str, fun h => ⟨setLogLevel_run h, fun _ => apply_of_not_accepted⟩⟩

/-- " 3" is a respelling; the level it sets is still there after a call with 7. -/
theorem refused_after_respelling :
    (¬ ∀ v, setStrStol (cstr " 3") = (true, v) ↔ (cstr " 3", v) ∈ levelStrings) ∧
    (Setting.apply (Setting.apply {} (.environment (some (cstr " 3")))) (.call 7)).logLevel = 3 := by
  obtain ⟨hgrammar, hlevel⟩ := setStrStol_exact (cstr " 3")
    (Setting.apply {} (.environment (some (cstr " 3"))))
  constructor
  · rw [hgrammar, not_not]
    exact ⟨by decide, cstr "3", reads_iff_scan.mpr (by decide), by decide⟩
  · rw [(hlevel (Runs.Reached.refl.tail trivial)).2 (.call 7) (by decide)]
    decide

/-- "+2" and " 03" set a level; "00", which denotes 0, does not. -/
theorem respellings_accepted :
    setStrStol (cstr "+2") = (true, 2) ∧ setStrStol (cstr " 03") = (true, 3) ∧
    (setStrStol (cstr "00")).1 = false ∧
    ¬ ∀ s v, setStrStol s = (true, v) ↔ (s, v) ∈ levelStrings := by
  refine ⟨by decide, by decide, by decide, fun h => ?_⟩
  exact absurd ((h (cstr "+2") 2).mp (by decide)) (by decide)

end Hcom4dbLog

end Hcom4db
