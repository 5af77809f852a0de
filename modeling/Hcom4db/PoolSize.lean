import Hcom4db.ConnectFailure

/-!
# Hcom4db.PoolSize

The size of a client's pool. The segment size and the segment count are multiplied in 32 bits and the
product is widened afterwards, so the pool of a configuration whose product does not fit is too small, or
there is none.

* `setAllocatorOption_of_sizes`: what is computed for sizes in range.
* `pool_exact_iff`: it is what the configuration asks for exactly when the product fits, or no buffer is
  there and the product is no multiple of `2^32`.
-/

namespace Hcom4db

/-- The size of the pool for a product. -/
def poolSize (product : UInt32) : UInt64 :=
  if product.toUInt64 < mrMinSize.toUInt64 then mrMinSize.toUInt64 else product.toUInt64

/-- The options of the allocator over a buffer. -/
def poolOptions (malloc : Addr) (maxSize maxCount : UInt32) : NetMemoryAllocatorOptions where
  address := malloc
  size := poolSize (maxSize * maxCount)
  minBlockSize := mrMinSize
  alignedAddress := 1
  cacheTierCount := (calculate2PowerTimes (maxSize / mrMinSize)).toUInt16
  cacheBlockCountPerTier := 10
  bucketCount := 1024
  cacheTierPolicy := .power

section

variable {w : World} {m : ConfigMap} {server client : Addr} {e : ConnectEnv} {maxSize maxCount : UInt32}

/-- The options, the buffer and the missing pool are as the sizes say, in unbounded arithmetic. -/
structure PoolExact (w : World) (server client : Addr) (m : ConfigMap) (e : ConnectEnv)
    (maxSize maxCount : UInt32) : Prop where
  size : ∀ option, (ockRpcSetAllocatorOption w m e.malloc).2 = .ok option →
    option.size.toNat = max 4096 (maxSize.toNat * maxCount.toNat) ∧
      (ockRpcSetAllocatorOption w m e.malloc).1 = w.emit (.poolBuffer option.address option.size)
  zero : (ockRpcSetAllocatorOption w m e.malloc).2 = .error ockRpcErrInvalidParam →
    maxSize = 0 ∨ maxCount = 0
  noPool : (ockRpcPrepareMemAllocator w server client m e).2 = ockRpcOk →
    (∀ a option, .poolCreate a option ∉ w.since (ockRpcPrepareMemAllocator w server client m e).1) →
      maxSize = 0 ∨ maxCount = 0

/-! ## Widths -/

theorem product_eq_zero_iff :
    maxSize * maxCount = 0 ↔ maxSize.toNat * maxCount.toNat % 2 ^ 32 = 0 := by
  rw [← UInt32.toNat_inj, UInt32.toNat_mul]
  rfl

theorem toUInt64_eq_zero_iff (x : UInt32) : x.toUInt64 = 0 ↔ x = 0 := by
  rw [← UInt64.toNat_inj, ← UInt32.toNat_inj, UInt32.toNat_toUInt64]
  rfl

theorem toNat_poolSize (product : UInt32) : (poolSize product).toNat = max 4096 product.toNat := by
  have hmin : mrMinSize.toUInt64.toNat = 4096 := rfl
  unfold poolSize
  split
  · rename_i h
    rw [UInt64.lt_iff_toNat_lt, hmin, UInt32.toNat_toUInt64] at h
    rw [hmin]
    omega
  · rename_i h
    rw [UInt64.lt_iff_toNat_lt, hmin, UInt32.toNat_toUInt64] at h
    rw [UInt32.toNat_toUInt64]
    omega

/-! ## What is computed -/

/-- The three ends for sizes that are in range. -/
theorem setAllocatorOption_of_sizes (h : PoolSizes m maxSize maxCount) (w : World) (malloc : Addr) :
    (maxSize * maxCount = 0 ∧
      ockRpcSetAllocatorOption w m malloc = (w, .error ockRpcErrInvalidParam)) ∨
    (maxSize * maxCount ≠ 0 ∧ malloc = 0 ∧
      ockRpcSetAllocatorOption w m malloc = (w, .error ockRpcErr)) ∨
    (maxSize * maxCount ≠ 0 ∧ malloc ≠ 0 ∧ ockRpcSetAllocatorOption w m malloc =
      (w.emit (.poolBuffer malloc (poolSize (maxSize * maxCount))),
        .ok (poolOptions malloc maxSize maxCount))) := by
  unfold ockRpcSetAllocatorOption
  rw [h.size, h.count]
  simp only [if_neg (UInt32.not_lt.mpr h.size_le), if_neg (UInt32.not_lt.mpr h.count_le),
    toUInt64_eq_zero_iff]
  by_cases h0 : maxSize * maxCount = 0
  · exact .inl ⟨h0, if_pos h0⟩
  · rw [if_neg h0]
    by_cases hm : malloc = 0
    · exact .inr (.inl ⟨h0, hm, if_pos hm⟩)
    · exact .inr (.inr ⟨h0, hm, if_neg hm⟩)

/-- A preparation all of whose steps succeed. -/
theorem prepareMemAllocator_of_steps (option : NetMemoryAllocatorOptions) (hs : PoolSteps e)
    (hset : ockRpcSetAllocatorOption w m e.malloc =
      (w.emit (.poolBuffer e.malloc option.size), .ok option)) :
    ockRpcPrepareMemAllocator w server client m e =
      ({ w with
          gMemoryAllocator := w.gMemoryAllocator.insertNew client e.allocator
          gMemoryRegion := w.gMemoryRegion.insertNew client ⟨e.mr, e.info, server⟩
          trace := poolEvents server option e ++ w.trace }, ockRpcOk) := by
  unfold ockRpcPrepareMemAllocator ockRpcRegisterMr
  rw [hset]
  simp only [hs.create, hs.register, hs.info, hs.setKey, ne_eq, not_true_eq_false, if_false]
  simp only [poolEvents, World.emit, List.cons_append, List.nil_append]

/-- Without an allocator the preparation succeeds only on the size 0. -/
theorem prepare_without_allocator (h : PoolSizes m maxSize maxCount)
    (hok : (ockRpcPrepareMemAllocator w server client m e).2 = ockRpcOk)
    (hno : ∀ a option,
      .poolCreate a option ∉ w.since (ockRpcPrepareMemAllocator w server client m e).1) :
    maxSize * maxCount = 0 := by
  by_contra h0
  obtain ⟨x, y, hs, hor⟩ := (prepareMemAllocator_ok_iff w server client m e).mp hok
  obtain ⟨rfl, rfl⟩ := h.unique hs
  have hsteps : PoolSteps e := hor.resolve_left h0
  rcases setAllocatorOption_of_sizes h w e.malloc with ⟨hz, -⟩ | ⟨-, hm, -⟩ | ⟨-, -, hset⟩
  · exact h0 hz
  · exact hsteps.malloc hm
  · refine absurd ?_ (hno e.allocator (poolOptions e.malloc maxSize maxCount))
    rw [prepareMemAllocator_of_steps (poolOptions e.malloc maxSize maxCount) hsteps hset,
      World.since_of_trace (show _ = poolEvents server _ e ++ w.trace from rfl)]
    simp [poolEvents]

/-- **The pool has the size the configuration asks for** exactly when the product fits in 32 bits, or no
buffer is there and the product is no multiple of `2^32`. -/
theorem pool_exact_iff (h : PoolSizes m maxSize maxCount) (w : World) (server client : Addr)
    (e : ConnectEnv) :
    PoolExact w server client m e maxSize maxCount ↔
      maxSize.toNat * maxCount.toNat < 2 ^ 32 ∨
        (e.malloc = 0 ∧ maxSize.toNat * maxCount.toNat % 2 ^ 32 ≠ 0) := by
  constructor
  · intro hex
    by_contra hno
    rw [not_or, not_and_or, not_not] at hno
    obtain ⟨hbig, hm⟩ := hno
    rcases setAllocatorOption_of_sizes h w e.malloc with ⟨-, hset⟩ | ⟨h0, hm0, -⟩ |
      ⟨-, -, hset⟩
    · -- the product is a multiple of `2^32`, and neither factor is 0
      have hz := hex.zero (by rw [hset])
      rcases hz with rfl | rfl
      · simp at hbig
      · simp at hbig
    · exact h0 (product_eq_zero_iff.mpr (hm.resolve_left fun hne => hne hm0))
    · have hs := (hex.size (poolOptions e.malloc maxSize maxCount) (by rw [hset])).1
      rw [show (poolOptions e.malloc maxSize maxCount).size = poolSize (maxSize * maxCount) from rfl,
        toNat_poolSize, UInt32.toNat_mul] at hs
      have hlt := Nat.mod_lt (maxSize.toNat * maxCount.toNat) (show 0 < 2 ^ 32 by decide)
      omega
  · intro hfit
    have hzero : maxSize * maxCount = 0 → maxSize = 0 ∨ maxCount = 0 := by
      intro h0
      have hmod := product_eq_zero_iff.mp h0
      rcases hfit with hlt | ⟨-, hne⟩
      · rw [Nat.mod_eq_of_lt hlt] at hmod
        rcases Nat.mul_eq_zero.mp hmod with hx | hy
        · exact .inl (UInt32.toNat_inj.mp hx)
        · exact .inr (UInt32.toNat_inj.mp hy)
      · exact absurd hmod hne
    refine ⟨?_, ?_, fun hok hno => hzero (prepare_without_allocator h hok hno)⟩
    · intro option hopt
      rcases setAllocatorOption_of_sizes h w e.malloc with ⟨-, hset⟩ | ⟨-, -, hset⟩ |
        ⟨-, hm, hset⟩
      · rw [hset] at hopt
        cases hopt
      · rw [hset] at hopt
        cases hopt
      · rw [hset] at hopt ⊢
        cases hopt
        have hlt := hfit.resolve_right fun hno => hm hno.1
        refine ⟨?_, rfl⟩
        show (poolSize (maxSize * maxCount)).toNat = _
        rw [toNat_poolSize, UInt32.toNat_mul, Nat.mod_eq_of_lt hlt]
    · intro herr
      rcases setAllocatorOption_of_sizes h w e.malloc with ⟨h0, -⟩ | ⟨-, -, hset⟩ |
        ⟨-, -, hset⟩
      · exact hzero h0
      · rw [hset] at herr
        cases herr
      · rw [hset] at herr
        cases herr

end

/-! ### Two configurations -/

theorem poolSizes_default : PoolSizes ∅ ockMaxMessagSize ockMaxMessagCount := by
  constructor
  · rfl
  · decide
  · rfl
  · decide

/-- The default pool has 64 MB. -/
theorem pool_exact_default :
    PoolExact oneService 40 1 ∅ (connectEnv 50 60) ockMaxMessagSize ockMaxMessagCount :=
  (pool_exact_iff poolSizes_default oneService 40 1 (connectEnv 50 60)).mpr (.inl (by decide))

/-- A segment size of `2^27` and a segment count of 32. -/
def wrappingPool : ConfigMap :=
  ((∅ : ConfigMap).insert ockRpcStrPreSegmentSize ⟨700, cstr "134217728"⟩).insert
    ockRpcStrPreSegmentCount ⟨710, cstr "32"⟩

/-- Both are in range, the product is `2^32`: there is no pool and the preparation succeeds. -/
theorem pool_wraps_to_nothing : ∃ maxSize maxCount, PoolSizes wrappingPool maxSize maxCount ∧
    ockRpcPrepareMemAllocator oneService 40 1 wrappingPool (connectEnv 50 60) = (oneService, ockRpcOk) ∧
      ¬ PoolExact oneService 40 1 wrappingPool (connectEnv 50 60) maxSize maxCount := by
  have hs : PoolSizes wrappingPool 134217728 32 := by
    constructor
    · rfl
    · decide
    · rfl
    · decide
  refine ⟨134217728, 32, hs, rfl, ?_⟩
  intro hex
  have hz : (134217728 : UInt32) = 0 ∨ (32 : UInt32) = 0 := hex.zero rfl
  exact absurd hz (by decide)

end Hcom4db
