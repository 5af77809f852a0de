import Hcom4db.PoolSize
import Mathlib.Data.Nat.Size

/-!
# Hcom4db.CacheTiers

The cache tiers of a client's pool: one for each power of two times the smallest block, up to the segment
size. Their number is counted by the shift loop of `Calculate2PowerTimes`.

* `calculate2PowerTimes_passes`: the loop ends, after as many passes as the number has bits.
* `cacheTiers_exact`: tier `k` is there exactly when its blocks fit in a segment.
-/

namespace Hcom4db

/-! ## The loop -/

/-- One pass of the loop of `Calculate2PowerTimes`, on `powerNum` and `count`. -/
def calculate2PowerTimesPass (s : UInt32 × UInt32) : UInt32 × UInt32 := (s.1 >>> 1, s.2 + 1)

theorem size_shiftRight_one {p : UInt32} (hp : p ≠ 0) : p.toNat.size = (p >>> 1).toNat.size + 1 := by
  have hpos : p.toNat ≠ 0 := fun h => hp (UInt32.toNat_inj.mp h)
  have hhalf : (p >>> 1).toNat = p.toNat / 2 := by
    rw [UInt32.toNat_shiftRight, Nat.shiftRight_eq_div_pow]
    rfl
  rw [hhalf]
  have hbit : Nat.bit p.toNat.bodd p.toNat.div2 = p.toNat := Nat.bit_bodd_div2 _
  have hsize := Nat.size_bit (hbit.symm ▸ hpos)
  rwa [hbit, Nat.div2_val] at hsize

theorem size_le_32 (p : UInt32) : p.toNat.size ≤ 32 := Nat.size_le.mpr p.toNat_lt

/-- The loop from any state: it makes as many passes as the number has bits, and there its guard fails
for the first time. -/
theorem calculate2PowerTimesLoop_passes (p count : UInt32) :
    (∀ i < p.toNat.size, (calculate2PowerTimesPass^[i] (p, count)).1 ≠ 0) ∧
    calculate2PowerTimesPass^[p.toNat.size] (p, count) = (0, calculate2PowerTimesLoop p count) := by
  induction p, count using calculate2PowerTimesLoop.induct with
  | case1 count =>
    refine ⟨fun i hi => absurd hi (Nat.not_lt_zero i), ?_⟩
    rw [calculate2PowerTimesLoop, if_pos rfl]
    rfl
  | case2 p count hp ih =>
    obtain ⟨hguard, hend⟩ := ih
    rw [size_shiftRight_one hp, calculate2PowerTimesLoop, if_neg hp]
    refine ⟨fun i hi => ?_, hend⟩
    cases i with
    | zero => exact hp
    | succ i => exact hguard i (by omega)

theorem passes_count (n : Nat) (s : UInt32 × UInt32) :
    (calculate2PowerTimesPass^[n] s).2 = s.2 + UInt32.ofNat n := by
  induction n generalizing s with
  | zero => simp
  | succ n ih =>
    rw [Function.iterate_succ_apply, ih, calculate2PowerTimesPass, UInt32.ofNat_add,
      UInt32.add_assoc, UInt32.add_comm 1]
    rfl

/-- The loop ends on every number, and what it counted is the number of bits. -/
theorem calculate2PowerTimes_passes (p : UInt32) :
    (∀ i < p.toNat.size, (calculate2PowerTimesPass^[i] (p, 0)).1 ≠ 0) ∧
    calculate2PowerTimesPass^[p.toNat.size] (p, 0) = (0, calculate2PowerTimes p) :=
  calculate2PowerTimesLoop_passes p 0

theorem toNat_calculate2PowerTimes (p : UInt32) : (calculate2PowerTimes p).toNat = p.toNat.size := by
  have hcount := passes_count p.toNat.size (p, 0)
  rw [(calculate2PowerTimes_passes p).2] at hcount
  simp only at hcount
  have hle := size_le_32 p
  rw [hcount, UInt32.zero_add, UInt32.toNat_ofNat_of_lt' (by
    have : UInt32.size = 4294967296 := rfl
    omega)]

/-! ## The tiers -/

/-- The field of sixteen bits holds the count as it is. -/
theorem toNat_cacheTierCount (p : UInt32) :
    (calculate2PowerTimes p).toUInt16.toNat = (calculate2PowerTimes p).toNat := by
  have hle := size_le_32 p
  rw [UInt32.toNat_toUInt16, toNat_calculate2PowerTimes]
  exact Nat.mod_eq_of_lt (by omega)

/-- A block of tier `k` fits in `S` bytes exactly when `k` is below the bit length of `S / 4096`. -/
theorem tier_fits_iff (S : UInt32) (k : Nat) :
    4096 * 2 ^ k ≤ S.toNat ↔ k < (calculate2PowerTimes (S / mrMinSize)).toNat := by
  have hdiv : (S / mrMinSize).toNat = S.toNat / 4096 := by
    rw [UInt32.toNat_div]
    rfl
  rw [toNat_calculate2PowerTimes, Nat.lt_size, hdiv, Nat.le_div_iff_mul_le (by decide), Nat.mul_comm]

/-- An allocator's options have the tier count of the segment size that was accepted. -/
theorem setAllocatorOption_tiers {w : World} {m : ConfigMap} {malloc : Addr}
    {option : NetMemoryAllocatorOptions} (h : (ockRpcSetAllocatorOption w m malloc).2 = .ok option)
    {S : UInt32} (hS : ockRpcString2Num m ockRpcStrPreSegmentSize ockMaxMessagSize = some S) :
    option.cacheTierCount = (calculate2PowerTimes (S / mrMinSize)).toUInt16 := by
  obtain ⟨hend, -⟩ | ⟨hend, -⟩ | ⟨o, -, x, y, hsizes, -⟩ := setAllocatorOption_ends w m malloc
  · rw [hend] at h
    cases h
  · rw [hend] at h
    cases h
  · have hx := hsizes.size
    rw [hS] at hx
    cases hx
    obtain ⟨-, hset⟩ | ⟨-, -, hset⟩ | ⟨-, -, hset⟩ := setAllocatorOption_of_sizes hsizes w malloc
    · rw [hset] at h
      cases h
    · rw [hset] at h
      cases h
    · rw [hset] at h
      cases h
      rfl

/-- The tiers go up to the segment size and no further; the loop that counts them ends on every number,
and the field has room for the count. -/
theorem cacheTiers_exact :
    (∀ (w : World) (m : ConfigMap) (malloc : Addr) (option : NetMemoryAllocatorOptions) (S : UInt32),
      (ockRpcSetAllocatorOption w m malloc).2 = .ok option →
      ockRpcString2Num m ockRpcStrPreSegmentSize ockMaxMessagSize = some S →
      ∀ k, 4096 * 2 ^ k ≤ S.toNat ↔ k < option.cacheTierCount.toNat) ∧
    ∀ p : UInt32,
      (∃ n, (∀ i < n, (calculate2PowerTimesPass^[i] (p, 0)).1 ≠ 0) ∧
        calculate2PowerTimesPass^[n] (p, 0) = (0, calculate2PowerTimes p)) ∧
      (calculate2PowerTimes p).toUInt16.toNat = (calculate2PowerTimes p).toNat := by
  refine ⟨?_, fun p => ⟨⟨_, calculate2PowerTimes_passes p⟩, toNat_cacheTierCount p⟩⟩
  intro w m malloc option S h hS k
  rw [setAllocatorOption_tiers h hS, toNat_cacheTierCount]
  exact tier_fits_iff S k

/-- With the default sizes there are tiers up to the fifth. -/
theorem cacheTiers_default :
    (4 < (poolOptions 4096 ockMaxMessagSize ockMaxMessagCount).cacheTierCount.toNat) ∧
    ¬ 5 < (poolOptions 4096 ockMaxMessagSize ockMaxMessagCount).cacheTierCount.toNat := by
  have h := cacheTiers_exact.1 {} ∅ 4096 (poolOptions 4096 ockMaxMessagSize ockMaxMessagCount)
    ockMaxMessagSize rfl rfl
  exact ⟨(h 4).mp (by decide), fun h5 => absurd ((h 5).mpr h5) (by decide)⟩

end Hcom4db
