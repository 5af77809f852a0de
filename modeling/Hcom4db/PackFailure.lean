import Hcom4db.Base.Ledger
import Hcom4db.PackBlocks

/-!
# Hcom4db.PackFailure

What a packing that fails gives back. The clean-up is split: `SetReqInfo` frees what it took, the
caller frees the header (more than three messages) or all four `iov` entries (up to three).

* `setReqInfoLoop_err`: the clean-up of `SetReqInfo` passes `addrArr[i]` in every iteration, the
  entry of the message that failed.
* `pack_failure_gives_back_iff`: the clean-up balances exactly when that loop had nothing to free, or
  the failure comes after `SetReqInfo`.
-/

namespace Hcom4db

open FlatMem Ledger

/-! ## The loops -/

/-- Message `i` of `SetReqInfo` gets its block and fits it. -/
def SetOk (env : PackEnv) (seg : UInt32) (i : Nat) (m : ReqMessage) : Prop :=
  ∃ addr ∈ env.addr (i + 1), CopyOk addr seg.toNat m.data m.len.toNat (env.overlap i)

instance (env : PackEnv) (seg : UInt32) (i : Nat) (m : ReqMessage) : Decidable (SetOk env seg i m) :=
  match h : env.addr (i + 1) with
  | none => isFalse fun ⟨a, ha, _⟩ => by rw [h] at ha; cases ha
  | some a => decidable_of_iff (CopyOk a seg.toNat m.data m.len.toNat (env.overlap i))
      ⟨fun hc => ⟨a, h, hc⟩, fun ⟨b, hb, hc⟩ => by rw [h] at hb; cases hb; exact hc⟩

section Loop

variable {client : Addr} {env : PackEnv} {seg : UInt32} {count : Nat} {w w' : World}
  {req req' : ServiceSglRequest} {st : OckRpcStatus}

theorem setReqInfoLoop_setOk {ms : List ReqMessage} {i : Nat}
    (h : setReqInfoLoop client env seg count ms i w req = (w', ockRpcOk, req')) :
    ∀ k m, ms[k]? = some m → SetOk env seg (i + k) m := by
  induction ms generalizing i w req with
  | nil => intro k m hk; cases hk
  | cons m ms ih =>
    rcases setReqInfoLoop_cons client env seg count i m ms w req with
      ⟨-, e⟩ | ⟨addr, key, -, -, e⟩ | ⟨addr, key, b, ha, hb, hc, e⟩
    · rw [e] at h; cases h
    · rw [e] at h; cases h
    rw [e] at h
    intro k m' hk
    cases k with
    | zero =>
      cases hk
      exact ⟨addr, PackEnv.addr_of_alloc ha, hc⟩
    | succ k =>
      have := ih h k m' hk
      rwa [Nat.add_assoc, Nat.add_comm 1 k] at this

/-- The loop stopped at message `k`, the first one that failed: `freed` is what the clean-up frees,
`tookCount` how many blocks the loop has taken. -/
structure StoppedAt (env : PackEnv) (seg : UInt32) (i k : Nat) (ms : List ReqMessage)
    (req req' : ServiceSglRequest) (evs : List Event) : Prop where
  failed : ∃ m, ms[k]? = some m ∧ ¬ SetOk env seg (i + k) m
  before : ∀ j m, j < k → ms[j]? = some m → SetOk env seg (i + j) m
  iovOther : ∀ j, i + k < j → req'.iov j = req.iov j
  freed : (env.addr (i + k + 1) = none ∧ (taken evs).length = k ∧
      poolFreed evs = List.replicate (i + k) 0) ∨
    ∃ a, env.addr (i + k + 1) = some a ∧ (taken evs).length = k + 1 ∧
      poolFreed evs = List.replicate (i + k + 1) a

/-- The loop stops at its first message. -/
theorem stoppedAt_first {m : ReqMessage} {ms : List ReqMessage} {i : Nat} {evs : List Event}
    (hfail : ¬ SetOk env seg i m)
    (hfreed : (env.addr (i + 1) = none ∧ (taken evs).length = 0 ∧ poolFreed evs = List.replicate i 0) ∨
      ∃ a, env.addr (i + 1) = some a ∧ (taken evs).length = 1 ∧
        poolFreed evs = List.replicate (i + 1) a) :
    StoppedAt env seg i 0 (m :: ms) req req evs where
  failed := ⟨m, rfl, hfail⟩
  before j _ hj := absurd hj (Nat.not_lt_zero j)
  iovOther _ _ := rfl
  freed := hfreed

/-- A message is packed, and the loop stops at a later one. -/
theorem StoppedAt.cons {m : ReqMessage} {ms : List ReqMessage} {i k : Nat} {addr : Addr} {key : UInt32}
    {evs evs' : List Event} (S : StoppedAt env seg (i + 1) k ms (req.packed i m addr key) req' evs)
    (hok : SetOk env seg i m) (ht : (taken evs').length = (taken evs).length + 1)
    (hf : poolFreed evs' = poolFreed evs) : StoppedAt env seg i (k + 1) (m :: ms) req req' evs' := by
  have hshift : i + 1 + k = i + (k + 1) := by omega
  refine ⟨?_, ?_, ?_, ?_⟩
  · obtain ⟨m', hm', hfail⟩ := S.failed
    exact ⟨m', hm', hshift ▸ hfail⟩
  · intro j m' hj hm'
    cases j with
    | zero =>
      cases hm'
      exact hok
    | succ j =>
      have := S.before j m' (by omega) hm'
      rwa [Nat.add_assoc, Nat.add_comm 1 j] at this
  · intro j hj
    rw [S.iovOther j (by omega)]
    have hne : j ≠ i + 1 := by omega
    simp [ServiceSglRequest.packed, ServiceSglRequest.assign, hne]
  · rw [ht, hf, ← hshift]
    rcases S.freed with ⟨hn, htaken, hfreed⟩ | ⟨a, hs, htaken, hfreed⟩
    · exact .inl ⟨hn, by rw [htaken], hfreed⟩
    · exact .inr ⟨a, hs, by rw [htaken], hfreed⟩

theorem setReqInfoLoop_err {ms : List ReqMessage} {i : Nat}
    (h : setReqInfoLoop client env seg count ms i w req = (w', st, req')) (hst : st ≠ ockRpcOk) :
    ∃ k, StoppedAt env seg i k ms req req' (w.since w') := by
  induction ms generalizing i w req with
  | nil =>
    simp only [setReqInfoLoop, Prod.mk.injEq] at h
    exact absurd h.2.1.symm hst
  | cons m ms ih =>
    rcases setReqInfoLoop_cons client env seg count i m ms w req with
      ⟨ha, e⟩ | ⟨addr, key, ha, hc, e⟩ | ⟨addr, key, b, ha, -, hc, e⟩
    · -- the block is refused
      rw [e] at h
      cases h
      have haddr : env.addr (i + 1) = none := by rw [PackEnv.addr, ha]; rfl
      refine ⟨0, stoppedAt_first ?_ (.inl ⟨haddr, ?_, ?_⟩)⟩
      · rintro ⟨a, hmem, -⟩
        rw [haddr] at hmem
        cases hmem
      · rw [(PoolFrame.touch client w).since_trans (memFreeList_frame client _ _), taken,
          blocks_append, blocks_since_memFreeList, since_touch]
        rfl
      · rw [(PoolFrame.touch client w).since_trans (memFreeList_frame client _ _), poolFreed_append,
          poolFreed_since_memFreeList, since_touch]
        simp
    · -- the copy fails
      rw [e] at h
      cases h
      have haddr := PackEnv.addr_of_alloc ha
      have hA := PoolFrame.allocated client w (reqBlockSize seg count i m) addr
      refine ⟨0, stoppedAt_first ?_ (.inr ⟨addr, haddr, ?_, ?_⟩)⟩
      · rintro ⟨a, hmem, hok⟩
        rw [haddr] at hmem
        cases hmem
        exact hc hok
      · rw [(hA.trans PoolFrame.memcpyS).since_trans (memFreeList_frame client _ _), taken,
          blocks_append, blocks_since_memFreeList, hA.since_trans PoolFrame.memcpyS, blocks_append,
          (memcpyS_since _ _ _ _ _ _).1, since_allocated]
        rfl
      · rw [(hA.trans PoolFrame.memcpyS).since_trans (memFreeList_frame client _ _),
          poolFreed_append, poolFreed_since_memFreeList, hA.since_trans PoolFrame.memcpyS,
          poolFreed_append, (memcpyS_since _ _ _ _ _ _).2, since_allocated]
        simp
    · rw [e] at h
      obtain ⟨k, S⟩ := ih h
      have hA := packed_frame client w (reqBlockSize seg count i m) addr b m.len.toNat (i + 1)
      have hrest := setReqInfoLoop_frame client env seg count ms (i + 1)
        (((w.allocated client (reqBlockSize seg count i m) addr).store addr b m.len.toNat).emit
          (.iovStore (i + 1))) (req.packed i m addr key)
      rw [h] at hrest
      refine ⟨k + 1, S.cons ⟨addr, PackEnv.addr_of_alloc ha, hc⟩ ?_ ?_⟩
      · rw [hA.since_trans hrest, since_packed, taken_append]
        simp
      · rw [hA.since_trans hrest, since_packed, poolFreed_append]
        simp

theorem iovAddrs_assign (k : Nat) (key size : UInt32) (n : Nat) :
    iovAddrs (req.assign k (req.iov k).lAddress key size) n = iovAddrs req n := by
  refine List.map_congr_left fun j _ => ?_
  by_cases hj : j = k
  · subst hj; simp [ServiceSglRequest.assign]
  · simp [ServiceSglRequest.assign, hj]

/-- When appending fails, the four segments are freed. -/
theorem appendLoop_err {k : Nat} {ms : List ReqMessage} {i : Nat}
    (h : appendLoop client env seg k ms i w req = (w', st, req')) (hst : st ≠ ockRpcOk) :
    poolFreed (w.since w') = (iovAddrs req ockMaxIovCount).reverse := by
  induction ms generalizing i w req with
  | nil =>
    simp only [appendLoop, Prod.mk.injEq] at h
    exact absurd h.2.1.symm hst
  | cons m ms ih =>
    rcases appendLoop_cons client env seg k i m ms w req with ⟨-, e⟩ | ⟨b, -, -, e⟩
    · rw [e] at h
      simp only [Prod.mk.injEq] at h
      obtain ⟨rfl, -, rfl⟩ := h
      have hcp : PoolFrame client w (memcpyS w ((req.iov k).lAddress + (req.iov k).size.toNat)
          (seg - (req.iov k).size).toNat m.data m.len.toNat (env.overlap i)).1 :=
        PoolFrame.memcpyS
      rw [freeAllMemory, hcp.since_trans (memFreeList_frame client _ _), poolFreed_append,
        poolFreed_since_memFreeList, (memcpyS_since _ _ _ _ _ _).2, List.append_nil]
    · rw [e] at h
      have hrest := appendLoop_frame client env seg k ms (i + 1)
        ((w.store ((req.iov k).lAddress + (req.iov k).size.toNat) b m.len.toNat).emit (.iovStore k))
        (req.assign k (req.iov k).lAddress (req.iov k).lKey ((req.iov k).size + m.len.toUInt32))
      rw [h] at hrest
      rw [(appended_frame client w _ b m.len.toNat k).since_trans hrest, since_appended,
        poolFreed_append, ih h, iovAddrs_assign]
      simp

end Loop

/-! ## The whole packing -/

section Whole

variable {client : Addr} {msgs : List ReqMessage} {msgId : UInt16} {env : PackEnv} {w w' : World}
  {req' : ServiceSglRequest} {st : OckRpcStatus}

theorem withHeader_iov (addr : Addr) (key : UInt32) {j : Nat} (hj : j ≠ 0) :
    (ServiceSglRequest.withHeader {} addr key).iov j = {} := by
  simp [ServiceSglRequest.withHeader, ServiceSglRequest.assign, hj]

/-- When the packing may fail without harm: the header is refused, `SetReqInfo` is the caller of
nothing but the first message's block, or `SetReqInfo` succeeds. -/
def GivesBackCond (env : PackEnv) (seg : UInt32) (msgs : List ReqMessage) : Prop :=
  env.alloc 0 = none ∨
    (3 < msgs.length ∧ ∀ m ∈ msgs.head?, ¬ SetOk env seg 0 m) ∨
    ∀ k m, (msgs.take 3)[k]? = some m → SetOk env seg k m

/-- More than three messages and `SetReqInfo` fails: its own clean-up and the header. -/
theorem setReqInfo_err_balanced_iff (hfresh : env.Fresh) {seg : UInt32} {addr : Addr} {key : UInt32}
    (ha : env.alloc 0 = some (addr, key)) (hn : 3 < msgs.length) {k : Nat} {evs : List Event}
    {req req' : ServiceSglRequest} (S : StoppedAt env seg 0 k (msgs.take 3) req req' evs)
    (hans : env.Answers 1 (taken evs).reverse) :
    Balanced (taken evs ++ [addr]) (addr :: poolFreed evs) ↔ GivesBackCond env seg msgs := by
  have hall : env.Answers 0 (addr :: (taken evs).reverse) := .cons (PackEnv.addr_of_alloc ha) hans
  obtain ⟨m, hm, hfail⟩ := S.failed
  rw [Nat.zero_add] at hfail
  constructor
  · intro hb
    refine .inr (.inl ⟨hn, ?_⟩)
    -- otherwise the clean-up frees 0, or one block more than once
    have hk : k = 0 := by
      by_contra hk
      rcases S.freed with ⟨-, -, hf⟩ | ⟨a, -, -, hf⟩
      · have h0 : (0 : Addr) ∈ addr :: poolFreed evs := by
          rw [hf]
          simp [hk]
        have h1 := hb.mem_of_gave h0
        have h2 := hall.zero_notMem hfresh
        simp only [List.mem_append, List.mem_cons, List.not_mem_nil, or_false, List.mem_reverse]
          at h1 h2
        exact h2 h1.symm
      · have h1 := (List.nodup_cons.mp hb.nodup).2
        rw [hf, List.nodup_replicate] at h1
        omega
    subst hk
    intro m' hm'
    have : msgs.head? = some m := by
      rw [List.head?_eq_getElem?, ← hm, List.getElem?_take_of_lt (by omega)]
    rw [this] at hm'
    cases hm'
    exact hfail
  · intro hc
    have hk : k = 0 := by
      by_contra hk
      obtain ⟨m0, h0⟩ : ∃ m0, msgs[0]? = some m0 := ⟨_, List.getElem?_eq_getElem (by omega)⟩
      rcases hc with h | ⟨-, h⟩ | h
      · rw [ha] at h; cases h
      · exact h m0 (by rw [List.head?_eq_getElem?]; exact h0) (by
          have := S.before 0 m0 (by omega) (by rw [List.getElem?_take_of_lt (by omega)]; exact h0)
          simpa using this)
      · exact hfail (h k m hm)
    subst hk
    refine (balanced_iff_perm ?_).mpr ?_
    · have := hall.nodup hfresh
      rw [← List.reverse_reverse (taken evs), ← List.reverse_cons]
      exact List.nodup_reverse.mpr this
    · rcases S.freed with ⟨-, ht, hf⟩ | ⟨a, hs, ht, hf⟩
      · rw [hf, List.length_eq_zero_iff.mp ht]
        exact .refl _
      · obtain ⟨x, hx⟩ := List.length_eq_one_iff.mp ht
        have hxa : env.addr (1 + 0) = some x := hans.addr_eq (by rw [hx]; rfl)
        rw [hs] at hxa
        cases hxa
        rw [hf, hx]
        exact List.Perm.swap _ _ _

/-- At most three messages and `SetReqInfo` fails: the four entries are freed, used or not. -/
theorem freeAll_err_not_balanced (hfresh : env.Fresh) {seg : UInt32} {addr : Addr} {key : UInt32}
    (ha : env.alloc 0 = some (addr, key)) {k : Nat} (hk : k < 3) {evs : List Event}
    {req : ServiceSglRequest}
    (S : StoppedAt env seg 0 k msgs (ServiceSglRequest.withHeader {} addr key) req evs)
    (hans : env.Answers 1 (taken evs).reverse) :
    ¬ Balanced (taken evs ++ [addr]) ((iovAddrs req ockMaxIovCount).reverse ++ poolFreed evs) := by
  intro hb
  have hall : env.Answers 0 (addr :: (taken evs).reverse) := .cons (PackEnv.addr_of_alloc ha) hans
  have h0 : (0 : Addr) ∈ iovAddrs req ockMaxIovCount := by
    -- entry `k + 1` was never assigned
    refine List.mem_map.mpr ⟨k + 1, by simp [ockMaxIovCount]; omega, ?_⟩
    rw [S.iovOther (k + 1) (by omega), withHeader_iov addr key (by omega)]
  have h1 := hb.mem_of_gave (List.mem_append_left _ (List.mem_reverse.mpr h0))
  have h2 := hall.zero_notMem hfresh
  simp only [List.mem_append, List.mem_cons, List.not_mem_nil, or_false, List.mem_reverse] at h1 h2
  exact h2 h1.symm

/-- The append loop fails: the four entries are the four blocks. -/
theorem append_err_balanced (hfresh : env.Fresh) {seg : UInt32} {addr : Addr} {key : UInt32}
    (ha : env.alloc 0 = some (addr, key)) {ms : List ReqMessage} (hms : ms.length = 3)
    {w w' : World} {req : ServiceSglRequest} {bs : List (Addr × Nat)}
    (P : PackedLoop seg 3 0 ms w (ServiceSglRequest.withHeader {} addr key) w' req bs)
    (hans : env.Answers 1 (taken (w.since w')).reverse) :
    Balanced (taken (w.since w') ++ [addr]) (iovAddrs req ockMaxIovCount).reverse := by
  have hall : env.Answers 0 (addr :: (taken (w.since w')).reverse) :=
    .cons (PackEnv.addr_of_alloc ha) hans
  have hiov := P.iovAddrs
  rw [hms] at hiov
  rw [ockMaxIovCount, hiov, List.reverse_cons, List.reverse_reverse]
  refine (balanced_iff_perm ?_).mpr (.refl _)
  have := hall.nodup hfresh
  rw [← List.reverse_reverse (taken (w.since w')), ← List.reverse_cons]
  exact List.nodup_reverse.mpr this

/-- Where a packing fails that got its header at `addr`, with the blocks it took and those it freed. -/
inductive PackFailed (env : PackEnv) (seg : UInt32) (msgs : List ReqMessage) (addr : Addr) (key : UInt32) :
    List Addr → List Addr → Prop where
  /-- More than three messages: `SetReqInfo` cleans up, the caller frees the header. -/
  | setReqInfo {k : Nat} {req : ServiceSglRequest} {evs : List Event} (long : 3 < msgs.length)
      (stopped : StoppedAt env seg 0 k (msgs.take 3) (ServiceSglRequest.withHeader {} addr key) req evs)
      (answers : env.Answers 1 (taken evs).reverse) :
      PackFailed env seg msgs addr key (taken evs ++ [addr]) (addr :: poolFreed evs)
  /-- A later message does not fit behind the third: the caller frees the four entries. -/
  | append {w w' : World} {req : ServiceSglRequest} {bs : List (Addr × Nat)} (long : 3 < msgs.length)
      (ok : ∀ k m, (msgs.take 3)[k]? = some m → SetOk env seg k m)
      (packed : PackedLoop seg 3 0 (msgs.take 3) w (ServiceSglRequest.withHeader {} addr key) w' req bs)
      (answers : env.Answers 1 (taken (w.since w')).reverse) :
      PackFailed env seg msgs addr key (taken (w.since w') ++ [addr]) (iovAddrs req ockMaxIovCount).reverse
  /-- Up to three messages: `SetReqInfo` cleans up, and the caller frees the four entries. -/
  | short {k : Nat} {req : ServiceSglRequest} {evs : List Event} (short : msgs.length ≤ 3)
      (stopped : StoppedAt env seg 0 k msgs (ServiceSglRequest.withHeader {} addr key) req evs)
      (answers : env.Answers 1 (taken evs).reverse) :
      PackFailed env seg msgs addr key (taken evs ++ [addr])
        ((iovAddrs req ockMaxIovCount).reverse ++ poolFreed evs)

theorem packReqInfo_failed (hlen : ∀ m ∈ msgs, m.len.toNat ≤ w.gOptions.mrSendReceiveSegSize.toNat)
    {addr : Addr} {key : UInt32} (ha : env.alloc 0 = some (addr, key))
    (h : packReqInfo w client msgs msgId {} env = (w', st, req')) (hst : st ≠ ockRpcOk) :
    PackFailed env w.gOptions.mrSendReceiveSegSize msgs addr key (taken (w.since w'))
      (poolFreed (w.since w')) := by
  have hw := PoolFrame.withHeader client w msgId addr
  have hseg : (w.withHeader client msgId addr).gOptions = w.gOptions := hw.gOptions
  rcases Nat.lt_or_ge 3 msgs.length with hn | hn
  · rw [packReqInfo_long ha hn] at h
    rcases hr : setReqInfo (w.withHeader client msgId addr) client msgs 3
      (ServiceSglRequest.withHeader {} addr key) env with ⟨w1, ret, req1⟩
    have hf1 := setReqInfo_frame (w.withHeader client msgId addr) client msgs 3
      (ServiceSglRequest.withHeader {} addr key) env
    rw [hr] at h hf1
    rw [Hcom4db.setReqInfo, hseg] at hr
    have hans := setReqInfoLoop_taken hr
    simp only at h hf1
    split at h
    · rename_i hret
      cases h
      obtain ⟨k, S⟩ := setReqInfoLoop_err hr hret
      have hfree := PoolFrame.memFree client w1 addr
      have hlast : w1.since (ockRpcMemFree w1 client addr) =
          [.poolFree (w1.allocatorOf client) addr] := World.since_of_trace rfl
      have hfailed := PackFailed.setReqInfo hn S hans
      rw [(hw.trans hf1).since_trans hfree, hw.since_trans hf1, hlast, since_withHeader]
      simpa using hfailed
    · rename_i hret
      obtain rfl : ret = ockRpcOk := by simpa using hret
      have hr' := hr
      obtain ⟨bs, P⟩ := setReqInfoLoop_ok (fun m hm => hlen m (List.mem_of_mem_take hm)) hr
      have hfr := appendLoop_frame client env w1.gOptions.mrSendReceiveSegSize 3 (msgs.drop 3) 3 w1 req1
      rw [h] at hfr
      have hok := setReqInfoLoop_setOk hr'
      simp only [Nat.zero_add] at hok
      have hfailed := PackFailed.append hn hok P hans
      rw [(hw.trans hf1).since_trans hfr, hw.since_trans hf1, since_withHeader, taken_append,
        poolFreed_append, appendLoop_err h hst, taken, appendLoop_blocks h, taken_append,
        poolFreed_append, P.freed]
      simpa using hfailed
  · rw [packReqInfo_short ha hn] at h
    rcases hr : setReqInfo (w.withHeader client msgId addr) client msgs msgs.length
      (ServiceSglRequest.withHeader {} addr key) env with ⟨w1, ret, req1⟩
    have hf1 := setReqInfo_frame (w.withHeader client msgId addr) client msgs msgs.length
      (ServiceSglRequest.withHeader {} addr key) env
    rw [hr] at h hf1
    rw [Hcom4db.setReqInfo, hseg, List.take_length] at hr
    have hans := setReqInfoLoop_taken hr
    simp only at h hf1
    split at h
    · rename_i hret
      cases h
      obtain ⟨k, S⟩ := setReqInfoLoop_err hr hret
      have hfailed := PackFailed.short hn S hans
      rw [freeAllMemory, (hw.trans hf1).since_trans (memFreeList_frame client _ _),
        hw.since_trans hf1, since_withHeader, taken_append, poolFreed_append,
        poolFreed_since_memFreeList, taken, blocks_since_memFreeList]
      simpa using hfailed
    · cases h
      exact absurd rfl hst

/-- **A failed packing gives back exactly what it took** if and only if `GivesBackCond`. -/
theorem pack_failure_gives_back_iff (hfresh : env.Fresh)
    (hlen : ∀ m ∈ msgs, m.len.toNat ≤ w.gOptions.mrSendReceiveSegSize.toNat)
    (h : packReqInfo w client msgs msgId {} env = (w', st, req')) (hst : st ≠ ockRpcOk) :
    Balanced (taken (w.since w')) (poolFreed (w.since w')) ↔
      GivesBackCond env w.gOptions.mrSendReceiveSegSize msgs := by
  rcases ha : env.alloc 0 with _ | ⟨addr, key⟩
  · rw [packReqInfo_noHeader ha] at h
    cases h
    rw [since_touch]
    exact ⟨fun _ => .inl ha, fun _ _ => rfl⟩
  · have hfailed := packReqInfo_failed hlen ha h hst
    generalize taken (w.since w') = ts at hfailed ⊢
    generalize poolFreed (w.since w') = fs at hfailed ⊢
    cases hfailed with
    | setReqInfo hn S hans => exact setReqInfo_err_balanced_iff hfresh ha hn S hans
    | append hn hok P hans =>
      have hms : (msgs.take 3).length = 3 := by
        rw [List.length_take]
        omega
      exact iff_of_true (append_err_balanced hfresh ha hms P hans) (.inr (.inr hok))
    | short hn S hans =>
      obtain ⟨m, hm, hfail⟩ := S.failed
      rw [Nat.zero_add] at hfail
      have hk := (List.getElem?_eq_some_iff.mp hm).1
      refine iff_of_false (freeAll_err_not_balanced hfresh ha (Nat.lt_of_lt_of_le hk hn) S hans) ?_
      rintro (hc | ⟨hc, -⟩ | hc)
      · rw [ha] at hc
        cases hc
      · omega
      · exact hfail (hc _ m (by rw [List.getElem?_take_of_lt (by omega)]; exact hm))

/-- Four messages of eight bytes: the fourth does not fit behind the third. -/
theorem pack_failure_gives_back_four : ∃ (w w' : World) (req : ServiceSglRequest),
    packReqInfo w 1 [⟨some fun _ => 1, 8⟩, ⟨some fun _ => 2, 8⟩, ⟨some fun _ => 3, 8⟩,
      ⟨some fun _ => 4, 8⟩] 258 {} (PackEnv.firstBlocks 4) = (w', ockRpcErr, req) ∧
      Balanced (taken (w.since w')) (poolFreed (w.since w')) :=
  ⟨{ gOptions := { mrSendReceiveSegSize := 8 } }, _, _, rfl,
    (@pack_failure_gives_back_iff 1 [⟨some fun _ => 1, 8⟩, ⟨some fun _ => 2, 8⟩,
      ⟨some fun _ => 3, 8⟩, ⟨some fun _ => 4, 8⟩] 258 (PackEnv.firstBlocks 4)
      { gOptions := { mrSendReceiveSegSize := 8 } } _ _ _ (PackEnv.firstBlocks_fresh 4) (by decide)
      rfl ockRpcErr_ne_ok).mpr (.inr (.inr fun k m hk => by
        match k, hk with
        | 0, hk => cases hk; decide
        | 1, hk => cases hk; decide
        | 2, hk => cases hk; decide))⟩

/-- One message, and the pool has no block for it: the header is given back, and so are three null
addresses. -/
theorem pack_failure_frees_null : ∃ (w w' : World) (msgs : List ReqMessage) (req : ServiceSglRequest)
    (env : PackEnv), env.Fresh ∧ msgs.length = 1 ∧
      (∀ m ∈ msgs, m.len.toNat ≤ w.gOptions.mrSendReceiveSegSize.toNat) ∧
      packReqInfo w 1 msgs 258 {} env = (w', ockRpcErr, req) ∧
      taken (w.since w') = [100] ∧ poolFreed (w.since w') = [0, 0, 0, 100] ∧
      ¬ Balanced (taken (w.since w')) (poolFreed (w.since w')) := by
  refine ⟨{ gOptions := { mrSendReceiveSegSize := 8 } }, _, [⟨some fun _ => 1, 3⟩], _,
    PackEnv.firstBlocks 1, PackEnv.firstBlocks_fresh 1, rfl, by decide, rfl, rfl, rfl, ?_⟩
  intro h
  exact absurd (h 0) (by decide)

end Whole

end Hcom4db
