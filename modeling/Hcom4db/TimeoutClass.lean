import Hcom4db.Timeout

/-!
# Hcom4db.TimeoutClass

The class of a timeout: 0 returns at once, a negative one never comes, a positive one is a time.
`OckRpcClientSetTimeout` cuts milliseconds to seconds and narrows to 32 bits, and neither step keeps the
class of every time.

* `toInt_timeoutSeconds`: the value as an integer.
* `Falls`: the stored seconds fall from `2^31 - 1` to `-2^31` at the odd multiples of `2^31`.
* `setTimeout_class_iff`: which times keep their class, and which pairs and ranges their order.
-/

namespace Hcom4db

/-- `v` is 0, negative or positive as `t` is. -/
structure SameClass (t v : Int) : Prop where
  zero : v = 0 ↔ t = 0
  neg : v < 0 ↔ t < 0
  pos : 0 < v ↔ 0 < t

/-- The low 32 bits of a negative time are a negative number; the seconds of a positive one, in 32 bits,
are a positive number. -/
def KeepsClass (t : Int) : Prop :=
  (t < 0 → 2 ^ 31 ≤ t % 2 ^ 32) ∧ (0 < t → 0 < t / 1000 % 2 ^ 32 ∧ t / 1000 % 2 ^ 32 < 2 ^ 31)

/-- An odd multiple of `2^31` comes after the seconds of `t` and not after those of `u`, once the whole periods
of `2^32` seconds that lie between the two are taken off. -/
def Falls (t u : Int) : Prop :=
  ∃ k : Int, t / 1000 < (2 * k + 1) * 2 ^ 31 ∧ (2 * k + 1) * 2 ^ 31 ≤ t / 1000 + (u / 1000 - t / 1000) % 2 ^ 32

instance (t : Int) : Decidable (KeepsClass t) := inferInstanceAs (Decidable (_ ∧ _))

/-! ## The value -/

theorem toInt_timeoutSeconds (t : Int64) :
    (timeoutSeconds t).toInt = (if t.toInt < 0 then t.toInt else t.toInt / 1000).bmod (2 ^ 32) := by
  have hneg : t < 0 ↔ t.toInt < 0 := by
    rw [Int64.lt_iff_toInt_lt]
    rfl
  unfold timeoutSeconds
  by_cases ht : t.toInt < 0
  · rw [if_pos (hneg.mpr ht), if_pos ht, Int64.toInt_toInt32]
  · have hlo : 0 ≤ t.toInt := by omega
    have hhi := t.toInt_lt
    have hdiv : (t / milloSecondPerSecond).toInt = t.toInt / 1000 := by
      rw [Int64.toInt_div, show milloSecondPerSecond.toInt = 1000 from rfl,
        Int.tdiv_eq_ediv_of_nonneg hlo]
      exact Int.bmod_eq_of_le (by omega) (by omega)
    rw [if_neg (fun h => ht (hneg.mp h)), if_neg ht, Int64.toInt_toInt32, hdiv]

/-- A number narrowed to 32 bits, by its remainder. -/
theorem bmod_cases (x : Int) :
    (x % 2 ^ 32 < 2 ^ 31 ∧ x.bmod (2 ^ 32) = x % 2 ^ 32) ∨
    (2 ^ 31 ≤ x % 2 ^ 32 ∧ x.bmod (2 ^ 32) = x % 2 ^ 32 - 2 ^ 32) := by
  have hhalf : (((2 ^ 32 : Nat) : Int) + 1) / 2 = 2 ^ 31 := by decide
  rw [Int.bmod_def, hhalf]
  split
  · rename_i h
    exact .inl ⟨h, rfl⟩
  · rename_i h
    exact .inr ⟨not_lt.mp h, rfl⟩

theorem sameClass_iff (t : Int64) :
    SameClass t.toInt (timeoutSeconds t).toInt ↔ KeepsClass t.toInt := by
  rw [toInt_timeoutSeconds, KeepsClass]
  have hlt := t.toInt_lt
  split
  · rename_i ht
    obtain ⟨hr, hv⟩ | ⟨hr, hv⟩ := bmod_cases t.toInt
    · constructor
      · intro h
        have := h.neg
        omega
      · intro h
        have := h.1 ht
        omega
    · refine iff_of_true ⟨?_, ?_, ?_⟩ ⟨fun _ => hr, by omega⟩
      · omega
      · omega
      · omega
  · rename_i ht
    obtain ⟨hr, hv⟩ | ⟨hr, hv⟩ := bmod_cases (t.toInt / 1000)
    · constructor
      · intro h
        have := h.pos
        exact ⟨by omega, by omega⟩
      · intro h
        have := h.2
        exact ⟨by omega, by omega, by omega⟩
    · constructor
      · intro h
        have := h.neg
        omega
      · intro h
        have := h.2
        exact ⟨by omega, by omega, by omega⟩

/-- The stored seconds are those of the time counted modulo `2^32` from `-2^31` on. -/
theorem timeoutSeconds_le_iff_mod {t u : Int64} (ht : 0 < t.toInt) (hu : 0 < u.toInt) :
    timeoutSeconds t ≤ timeoutSeconds u ↔
      (t.toInt / 1000 + 2 ^ 31) % 2 ^ 32 ≤ (u.toInt / 1000 + 2 ^ 31) % 2 ^ 32 := by
  rw [Int32.le_iff_toInt_le, toInt_timeoutSeconds, toInt_timeoutSeconds, if_neg (by omega),
    if_neg (by omega)]
  obtain ⟨hr, hv⟩ | ⟨hr, hv⟩ := bmod_cases (t.toInt / 1000)
  · obtain ⟨hr', hv'⟩ | ⟨hr', hv'⟩ := bmod_cases (u.toInt / 1000)
    · omega
    · omega
  · obtain ⟨hr', hv'⟩ | ⟨hr', hv'⟩ := bmod_cases (u.toInt / 1000)
    · omega
    · omega

theorem timeoutSeconds_le_iff {t u : Int64} (ht : 0 < t.toInt) (hu : 0 < u.toInt) :
    timeoutSeconds t ≤ timeoutSeconds u ↔ ¬ Falls t.toInt u.toInt := by
  rw [timeoutSeconds_le_iff_mod ht hu]
  constructor
  · rintro hle ⟨k, hlo, hhi⟩
    omega
  · intro hno
    by_contra hlt
    -- the first fall after `t`
    exact hno ⟨(t.toInt / 1000 + 2 ^ 31) / 2 ^ 32, by omega, by omega⟩

/-- There is none below `2^31` seconds. -/
theorem not_falls_of_lt {t u : Int} (ht : 0 < t) (htu : t ≤ u) (hu : u < 1000 * 2 ^ 31) : ¬ Falls t u := by
  rintro ⟨k, hlo, hhi⟩
  omega

/-- The times up to `n` are stored in order as long as their seconds fit into 31 bits. -/
theorem timeoutSeconds_monotone_iff (n : Int64) :
    (∀ t u : Int64, 0 < t → t ≤ u → u ≤ n → timeoutSeconds t ≤ timeoutSeconds u) ↔
      n.toInt < 1000 * 2 ^ 31 := by
  constructor
  · intro hmono
    by_contra hn
    have hle : (2147483648000 : Int64) ≤ n := by
      rw [Int64.le_iff_toInt_le, show (2147483648000 : Int64).toInt = 2147483648000 from rfl]
      omega
    exact absurd (hmono 2147483647000 2147483648000 (by decide) (by decide) hle) (by decide)
  · intro hn t u ht htu hun
    rw [Int64.lt_iff_toInt_lt, Int64.toInt_zero] at ht
    rw [Int64.le_iff_toInt_le] at htu hun
    exact (timeoutSeconds_le_iff ht (by omega)).mpr (not_falls_of_lt ht htu (by omega))

/-! ## The call -/

/-- The value that is stored and handed to the channel for both sides has the class of the time. -/
def SetsClass (w : World) (client : Addr) (timeout : Int64) : Prop :=
  ∃ v, (ockRpcClientSetTimeout w client timeout).gTimeoutTime = v ∧
    (ockRpcClientSetTimeout w client timeout).trace =
      .setTwoSideTimeout client v :: .setOneSideTimeout client v :: w.trace ∧
    SameClass timeout.toInt v.toInt

theorem setsClass_iff (w : World) (client : Addr) (timeout : Int64) :
    SetsClass w client timeout ↔ KeepsClass timeout.toInt := by
  rw [← sameClass_iff]
  constructor
  · rintro ⟨v, hv, -, hclass⟩
    cases hv
    exact hclass
  · intro h
    exact ⟨_, rfl, rfl, h⟩

/-- From the least `int32_t` up to 0, and from a second up to `2^31` seconds. -/
theorem keepsClass_of_range {t : Int} (h : -2 ^ 31 ≤ t ∧ t ≤ 0 ∨ 1000 ≤ t ∧ t < 1000 * 2 ^ 31) :
    KeepsClass t := by
  unfold KeepsClass
  omega

/-- A time keeps its class exactly when its low 32 bits, or those of its seconds, have it; two times are set in
order exactly when the stored seconds do not fall between them; and all times up to `n` are exactly when `n` is
below `2^31` seconds. -/
theorem setTimeout_class_iff (w w' : World) (client client' : Addr) (t u : Int64) :
    (SetsClass w client t ↔ KeepsClass t.toInt) ∧
    (0 < t → t ≤ u →
      ((ockRpcClientSetTimeout w client t).gTimeoutTime ≤
          (ockRpcClientSetTimeout w' client' u).gTimeoutTime ↔
        ¬ Falls t.toInt u.toInt)) ∧
    ∀ n : Int64, (∀ t u : Int64, 0 < t → t ≤ u → u ≤ n →
        (ockRpcClientSetTimeout w client t).gTimeoutTime ≤
          (ockRpcClientSetTimeout w' client' u).gTimeoutTime) ↔
      n.toInt < 1000 * 2 ^ 31 := by
  refine ⟨setsClass_iff w client t, ?_, timeoutSeconds_monotone_iff⟩
  intro ht htu
  have ht' := Int64.lt_iff_toInt_lt.mp ht
  have htu' := Int64.le_iff_toInt_le.mp htu
  rw [Int64.toInt_zero] at ht'
  exact timeoutSeconds_le_iff ht' (by omega)

/-- Never and one second are set as they should be, and two seconds in order behind it. -/
theorem setTimeout_class_seconds :
    SetsClass {} 9 (-1) ∧ SetsClass {} 9 1000 ∧
    (ockRpcClientSetTimeout {} 9 1000).gTimeoutTime ≤
      (ockRpcClientSetTimeout {} 9 2000).gTimeoutTime := by
  have hnever := setTimeout_class_iff {} {} 9 9 (-1) 1000
  have hsecond := setTimeout_class_iff {} {} 9 9 1000 2000
  refine ⟨hnever.1.mpr (keepsClass_of_range (by decide)), hsecond.1.mpr (keepsClass_of_range (by decide)), ?_⟩
  exact (hsecond.2.1 (by decide) (by decide)).mpr (not_falls_of_lt (by decide) (by decide) (by decide))

/-- 999 ms is set to "at once", as `-2^32` is; `-2^32 + 5` is set to five seconds and `3 * 10^12` ms to
"never"; and a second more than `2^31 - 1` of them is set to less. -/
theorem setTimeout_class_lost :
    timeoutSeconds 999 = 0 ∧ timeoutSeconds (-4294967296) = 0 ∧ timeoutSeconds (-4294967291) = 5 ∧
    timeoutSeconds 3000000000000 = -1294967296 ∧
    timeoutSeconds 2147483648000 < timeoutSeconds 2147483647000 ∧
    ¬ ∀ (w : World) (client : Addr) (timeout : Int64), SetsClass w client timeout := by
  refine ⟨by decide, by decide, by decide, by decide, by decide, fun h => ?_⟩
  exact absurd ((setsClass_iff {} 9 999).mp (h {} 9 999)) (by decide)

end Hcom4db
