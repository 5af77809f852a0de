import Hcom4db.Base.WriteLog
import Hcom4db.PackFailure
import Hcom4db.SglConserve

/-!
# Hcom4db.PackBounds

Where a packing stores. The copies of `SetReqInfo` are bounded by the segment size, also when the
message has a block of its own length only.

* `setReqInfoLoop_inBounds`, `appendLoop_inBounds`: the two loops. A copy that succeeds stays in its
  block; one that fails may fill a whole segment.
* `packReqInfo_size_le`: the append loop never subtracts more than the segment size.
* `packReqInfo_safe_iff`: the stores stay in their blocks exactly when no message with a short block
  is filled.
-/

namespace Hcom4db

open FlatMem WriteLog

/-! ## The copy loop -/

/-- From message `i` on, every message the loop reaches may be copied into its block: the block is
a whole segment, or the copy does not fill the destination. -/
def CopiesInside (env : PackEnv) (seg : UInt32) (count : Nat) : Nat → List ReqMessage → Prop
  | _, [] => True
  | i, m :: ms =>
    (∀ addr ∈ env.addr (i + 1), i + 1 = count ∨ m.len.toNat = seg.toNat ∨
      ¬ ZeroFills addr seg.toNat m.data m.len.toNat (env.overlap i)) ∧
    (SetOk env seg i m → CopiesInside env seg count (i + 1) ms)

section Loop

variable {client : Addr} {env : PackEnv} {seg : UInt32} {count : Nat} {w w' : World}
  {req req' : ServiceSglRequest} {st : OckRpcStatus} {cur : Option (Nat × Nat)}

theorem lastBlock_eq_head (cur : Option (Nat × Nat)) (evs : List Event) :
    lastBlock Event.block? cur evs = (blocks evs).head?.or cur := by
  rw [lastBlock, blocks, List.head?_filterMap]

/-- Freeing stores nothing. -/
theorem inBounds_memFreeList (w : World) (client : Addr) (xs : List Addr) :
    InBounds Event.block? Event.stored? cur (w.since (memFreeList w client xs)) := by
  rw [World.since_of_trace (memFreeList_trace client xs w)]
  refine inBounds_of_none fun e he => ?_
  obtain ⟨x, -, rfl⟩ := List.mem_map.mp (List.mem_reverse.mp he)
  rfl

theorem since_zeroFill (w : World) (addr : Addr) (n : Nat) :
    w.since (w.zeroFill addr n) = [.store addr n] :=
  World.since_of_trace rfl

/-- A copy that fails stays in the block `b` unless it fills a span that leaves it. -/
theorem inBounds_memcpyS {dest : Addr} {destMax : Nat} {src : Option Buf} {n : Nat} {overlap : Bool}
    {b : Nat × Nat} (h : ¬ CopyOk dest destMax src n overlap) :
    InBounds Event.block? Event.stored? (some b)
        (w.since (memcpyS w dest destMax src n overlap).1) ↔
      (ZeroFills dest destMax src n overlap → Within (dest, destMax) b) := by
  rcases memcpyS_not_copyOk (w := w) h with ⟨hz, e⟩ | ⟨hz, e⟩
  · rw [e, since_zeroFill]
    simp [InBounds, hz]
  · rw [e, World.since_self]
    simp [InBounds, hz]

theorem within_reqBlock_iff {m : ReqMessage} {i : Nat} {addr : Addr}
    (hm : m.len.toNat ≤ seg.toNat) :
    Within (addr, seg.toNat) (addr, reqBlockSize seg count i m) ↔
      i + 1 = count ∨ m.len.toNat = seg.toNat := by
  unfold Within reqBlockSize
  split
  · rename_i hlast
    simp [hlast]
  · rename_i hlast
    have := toNat_toUInt32_of_le hm
    simp only [hlast, false_or]
    omega

theorem setReqInfoLoop_inBounds {ms : List ReqMessage} {i : Nat}
    (hlen : ∀ m ∈ ms, m.len.toNat ≤ seg.toNat)
    (h : setReqInfoLoop client env seg count ms i w req = (w', st, req')) :
    InBounds Event.block? Event.stored? cur (w.since w') ↔ CopiesInside env seg count i ms := by
  induction ms generalizing i w req cur with
  | nil =>
    simp only [setReqInfoLoop, Prod.mk.injEq] at h
    obtain ⟨rfl, -, -⟩ := h
    simp [InBounds, CopiesInside]
  | cons m ms ih =>
    have hm : m.len.toNat ≤ seg.toNat := hlen m List.mem_cons_self
    rcases setReqInfoLoop_cons client env seg count i m ms w req with
      ⟨ha, e⟩ | ⟨addr, key, ha, hc, e⟩ | ⟨addr, key, b, ha, -, hc, e⟩
    · -- no block, no store
      rw [e] at h
      cases h
      have haddr : env.addr (i + 1) = none := by rw [PackEnv.addr, ha]; rfl
      rw [(PoolFrame.touch client w).since_trans (memFreeList_frame client _ _), inBounds_append,
        since_touch]
      simp [CopiesInside, haddr, SetOk, InBounds, inBounds_memFreeList]
    · rw [e] at h
      cases h
      have haddr := PackEnv.addr_of_alloc ha
      have hA := PoolFrame.allocated client w (reqBlockSize seg count i m) addr
      have hno : ¬ SetOk env seg i m := by
        rintro ⟨a, hmem, hok⟩
        rw [haddr] at hmem
        cases hmem
        exact hc hok
      have hcur : lastBlock Event.block? cur [.poolAlloc (w.allocatorOf client)
          (reqBlockSize seg count i m) addr] = some (addr, reqBlockSize seg count i m) :=
        lastBlock_cons_some rfl
      rw [(hA.trans PoolFrame.memcpyS).since_trans (memFreeList_frame client _ _), inBounds_append,
        hA.since_trans PoolFrame.memcpyS, inBounds_append, since_allocated, hcur,
        inBounds_memcpyS hc, within_reqBlock_iff hm]
      simp only [inBounds_memFreeList, CopiesInside, haddr, hno, Option.mem_def, Option.some.injEq,
        forall_eq', false_imp_iff, and_true, inBounds_cons_none (show Event.stored? (.poolAlloc
          (w.allocatorOf client) (reqBlockSize seg count i m) addr) = none from rfl)]
      simp only [InBounds, true_and]
      tauto
    · rw [e] at h
      have haddr := PackEnv.addr_of_alloc ha
      have hok : SetOk env seg i m := ⟨addr, haddr, hc⟩
      have hA := packed_frame client w (reqBlockSize seg count i m) addr b m.len.toNat (i + 1)
      have hrest := setReqInfoLoop_frame client env seg count ms (i + 1)
        (((w.allocated client (reqBlockSize seg count i m) addr).store addr b m.len.toNat).emit
          (.iovStore (i + 1))) (req.packed i m addr key)
      rw [h] at hrest
      have hfirst : ¬ ZeroFills addr seg.toNat m.data m.len.toNat (env.overlap i) := by
        rintro ⟨-, -, -, hn | hf | ⟨hp, ho⟩⟩
        · have := hc.src_some
          rw [hn] at this
          cases this
        · have := hc.fits
          omega
        · have := hc.apart ho
          omega
      have hthis : InBounds Event.block? Event.stored? cur [.iovStore (i + 1),
          .store addr m.len.toNat, .poolAlloc (w.allocatorOf client) (reqBlockSize seg count i m)
            addr] := by
        have : m.len.toNat ≤ reqBlockSize seg count i m := le_reqBlockSize hm
        simp [InBounds, lastBlock, Within, this]
      rw [hA.since_trans hrest, inBounds_append, since_packed,
        ih (fun m' hm' => hlen m' (List.mem_cons_of_mem _ hm')) h]
      simp only [hthis, true_and, CopiesInside, hok, forall_const, haddr, Option.mem_def,
        Option.some.injEq, forall_eq', hfirst, not_false_eq_true, or_true]

/-! ## The append loop -/

/-- Appending stores in what is left of the segment. -/
theorem appendLoop_inBounds {k : Nat} {ms : List ReqMessage} {i : Nat}
    (hsz : (req.iov k).size.toNat ≤ seg.toNat)
    (hcur : cur = some ((req.iov k).lAddress, seg.toNat))
    (h : appendLoop client env seg k ms i w req = (w', st, req')) :
    InBounds Event.block? Event.stored? cur (w.since w') := by
  induction ms generalizing i w req with
  | nil =>
    simp only [appendLoop, Prod.mk.injEq] at h
    obtain ⟨rfl, -, -⟩ := h
    rw [World.since_self]
    trivial
  | cons m ms ih =>
    have hroom : (seg - (req.iov k).size).toNat = seg.toNat - (req.iov k).size.toNat :=
      UInt32.toNat_sub_of_le _ _ (UInt32.le_iff_toNat_le.mpr hsz)
    rcases appendLoop_cons client env seg k i m ms w req with ⟨hc, e⟩ | ⟨b, -, hc, e⟩
    · rw [e] at h
      simp only [Prod.mk.injEq] at h
      obtain ⟨rfl, -, rfl⟩ := h
      have hcp : PoolFrame client w (memcpyS w ((req.iov k).lAddress + (req.iov k).size.toNat)
          (seg - (req.iov k).size).toNat m.data m.len.toNat (env.overlap i)).1 :=
        PoolFrame.memcpyS
      rw [freeAllMemory, hcp.since_trans (memFreeList_frame client _ _), inBounds_append, hcur,
        inBounds_memcpyS hc]
      refine ⟨fun _ => ?_, inBounds_memFreeList _ _ _⟩
      simp only [Within]
      omega
    · rw [e] at h
      have hfit := hc.fits
      have hseg := seg.toNat_lt
      have hle : m.len.toNat ≤ seg.toNat := by omega
      have hm := toNat_toUInt32_of_le hle
      have hrest := appendLoop_frame client env seg k ms (i + 1)
        ((w.store ((req.iov k).lAddress + (req.iov k).size.toNat) b m.len.toNat).emit (.iovStore k))
        (req.assign k (req.iov k).lAddress (req.iov k).lKey ((req.iov k).size + m.len.toUInt32))
      rw [h] at hrest
      have hthis : InBounds Event.block? Event.stored? cur [.iovStore k,
          .store ((req.iov k).lAddress + (req.iov k).size.toNat) m.len.toNat] := by
        simp only [InBounds, hcur, Event.stored?, lastBlock, List.findSome?_nil,
          Option.none_or, Option.mem_def, Option.some.injEq, exists_eq_left', forall_eq', true_and,
          reduceCtorEq, false_imp_iff, implies_true, and_true, Within]
        omega
      rw [(appended_frame client w _ b m.len.toNat k).since_trans hrest, inBounds_append,
        since_appended]
      refine ⟨hthis, ?_⟩
      have hlast : lastBlock Event.block? cur [.iovStore k,
          .store ((req.iov k).lAddress + (req.iov k).size.toNat) m.len.toNat] = cur := rfl
      rw [hlast]
      refine ih ?_ ?_ h
      · simp only [ServiceSglRequest.assign, Function.update_self, UInt32.toNat_add, hm]
        omega
      · simp [ServiceSglRequest.assign, hcur]

/-- Appending the messages in two parts. -/
theorem appendLoop_append {k : Nat} {ms ms' : List ReqMessage} {i : Nat}
    (h : appendLoop client env seg k ms i w req = (w', ockRpcOk, req')) :
    appendLoop client env seg k (ms ++ ms') i w req =
      appendLoop client env seg k ms' (i + ms.length) w' req' := by
  induction ms generalizing i w req with
  | nil =>
    simp only [appendLoop, Prod.mk.injEq, true_and] at h
    obtain ⟨rfl, rfl⟩ := h
    rfl
  | cons m ms ih =>
    rcases appendLoop_cons client env seg k i m ms w req with ⟨-, e⟩ | ⟨b, hb, hc, e⟩
    · rw [e] at h; cases h
    · rw [e] at h
      rcases appendLoop_cons client env seg k i m (ms ++ ms') w req with ⟨hc', -⟩ | ⟨b', hb', -, e'⟩
      · exact absurd hc hc'
      · obtain rfl : b = b' := Option.some.inj (hb.symm.trans hb')
        rw [List.cons_append, e', ih h, List.length_cons]
        congr 1
        omega

end Loop

/-! ## The whole packing -/

section Whole

variable {client : Addr} {msgs : List ReqMessage} {msgId : UInt16} {env : PackEnv} {w w' : World}
  {req' : ServiceSglRequest} {st : OckRpcStatus} {params : OckRpcClientCallParams}

/-- The packing of the first `i` messages is where the append loop starts with message `i`. -/
theorem packReqInfo_take_succ {w1 : World} {req1 : ServiceSglRequest} {i : Nat} {m : ReqMessage}
    (hi : 3 ≤ i) (hm : msgs[i]? = some m)
    (h : packReqInfo w client (msgs.take i) msgId {} env = (w1, ockRpcOk, req1)) :
    packReqInfo w client (msgs.take (i + 1)) msgId {} env =
      appendLoop client env w.gOptions.mrSendReceiveSegSize 3 [m] i w1 req1 := by
  obtain ⟨hlt, -⟩ := List.getElem?_eq_some_iff.mp hm
  rcases ha : env.alloc 0 with _ | ⟨addr, key⟩
  · rw [packReqInfo_noHeader ha] at h; cases h
  have hseg : (w.withHeader client msgId addr).gOptions = w.gOptions :=
    (PoolFrame.withHeader client w msgId addr).gOptions
  have htake : msgs.take (i + 1) = msgs.take i ++ [m] := by
    rw [List.take_add_one, hm]
    rfl
  have hfirst : setReqInfo (w.withHeader client msgId addr) client (msgs.take (i + 1)) 3
      (ServiceSglRequest.withHeader {} addr key) env =
      setReqInfo (w.withHeader client msgId addr) client (msgs.take i) 3
        (ServiceSglRequest.withHeader {} addr key) env := by
    rw [setReqInfo, setReqInfo, List.take_take, List.take_take, Nat.min_eq_left hi,
      Nat.min_eq_left (by omega)]
  rw [packReqInfo_long ha (by rw [List.length_take]; omega), hfirst]
  rcases Nat.lt_or_ge 3 i with h3 | h3
  · rw [packReqInfo_long ha (by rw [List.length_take]; omega)] at h
    rcases hr : setReqInfo (w.withHeader client msgId addr) client (msgs.take i) 3
      (ServiceSglRequest.withHeader {} addr key) env with ⟨w2, ret, req2⟩
    have hf := setReqInfo_frame (w.withHeader client msgId addr) client (msgs.take i) 3
      (ServiceSglRequest.withHeader {} addr key) env
    rw [hr] at h hf
    have hopt : w2.gOptions = w.gOptions := hf.gOptions.trans hseg
    simp only [hopt] at h ⊢
    split at h
    · cases h
    · rename_i hret
      rw [if_neg hret, htake, List.drop_append_of_le_length (by rw [List.length_take]; omega),
        appendLoop_append h, List.length_drop, List.length_take]
      congr 1
      omega
  · obtain rfl : i = 3 := by omega
    have hlen : (msgs.take 3).length = 3 := by rw [List.length_take]; omega
    rw [packReqInfo_short ha hlen.le, hlen] at h
    rcases hr : setReqInfo (w.withHeader client msgId addr) client (msgs.take 3) 3
      (ServiceSglRequest.withHeader {} addr key) env with ⟨w2, ret, req2⟩
    have hf := setReqInfo_frame (w.withHeader client msgId addr) client (msgs.take 3) 3
      (ServiceSglRequest.withHeader {} addr key) env
    rw [hr] at h hf
    have hopt : w2.gOptions = w.gOptions := hf.gOptions.trans hseg
    simp only [hopt] at h ⊢
    split at h
    · cases h
    · rename_i hret
      cases h
      rw [if_neg hret, htake, List.drop_left' hlen]

/-- The last segment of a packing of at least three messages fits a segment size. -/
theorem packReqInfo_size_le (hlen : ∀ m ∈ msgs, m.len.toNat ≤ w.gOptions.mrSendReceiveSegSize.toNat)
    (hn : 3 ≤ msgs.length) (h : packReqInfo w client msgs msgId {} env = (w', ockRpcOk, req')) :
    (req'.iov 3).size.toNat ≤ w.gOptions.mrSendReceiveSegSize.toNat := by
  obtain ⟨addr, key, -, ⟨hle, bs, -, P⟩ | ⟨-, w1, req1, bs, -, -, -, Q⟩⟩ := packReqInfo_ok_cases hlen h
  · have h3 : msgs.length = 3 := by omega
    rw [h3] at P
    obtain ⟨-, -, -, -, -, -, -, -, -, hs⟩ := P.three h3
    exact hs
  · exact Q.size_le

/-- Every store lies in the block of its segment, which is the one handed out last, and where the
append loop subtracts the size of the last segment, it subtracts no more than the segment size. -/
structure PackSafe (w : World) (client : Addr) (msgs : List ReqMessage) (msgId : UInt16)
    (env : PackEnv) (w' : World) : Prop where
  inBounds : InBounds Event.block? Event.stored? none (w.since w')
  noWrap : ∀ i m w1 req1, 3 ≤ i → msgs[i]? = some m →
    packReqInfo w client (msgs.take i) msgId {} env = (w1, ockRpcOk, req1) →
    packReqInfo w client (msgs.take (i + 1)) msgId {} env =
        appendLoop client env w.gOptions.mrSendReceiveSegSize 3 [m] i w1 req1 ∧
      (req1.iov 3).size ≤ w.gOptions.mrSendReceiveSegSize

theorem withHeader_inBounds (w : World) (client : Addr) (msgId : UInt16) (addr : Addr) :
    InBounds Event.block? Event.stored? none (w.since (w.withHeader client msgId addr)) := by
  rw [since_withHeader]
  simp [InBounds, lastBlock, Within]

/-- The stores of a packing that got its header: those of the copy loop decide. -/
theorem packReqInfo_inBounds {addr : Addr} {key : UInt32} (ha : env.alloc 0 = some (addr, key))
    (hlen : ∀ m ∈ msgs, m.len.toNat ≤ w.gOptions.mrSendReceiveSegSize.toNat)
    (h : packReqInfo w client msgs msgId {} env = (w', st, req')) :
    InBounds Event.block? Event.stored? none (w.since w') ↔
      CopiesInside env w.gOptions.mrSendReceiveSegSize (min msgs.length 3) 0 (msgs.take 3) := by
  have hw := PoolFrame.withHeader client w msgId addr
  have hseg : (w.withHeader client msgId addr).gOptions = w.gOptions := hw.gOptions
  have hhead := withHeader_inBounds w client msgId addr
  have hlen3 : ∀ m ∈ msgs.take 3, m.len.toNat ≤ w.gOptions.mrSendReceiveSegSize.toNat :=
    fun m hm => hlen m (List.mem_of_mem_take hm)
  rcases Nat.lt_or_ge 3 msgs.length with hn | hn
  · rw [packReqInfo_long ha hn] at h
    rcases hr : setReqInfo (w.withHeader client msgId addr) client msgs 3
      (ServiceSglRequest.withHeader {} addr key) env with ⟨w1, ret, req1⟩
    have hf1 := setReqInfo_frame (w.withHeader client msgId addr) client msgs 3
      (ServiceSglRequest.withHeader {} addr key) env
    rw [hr] at h hf1
    rw [setReqInfo, hseg] at hr
    simp only at h hf1
    rw [Nat.min_eq_right hn.le]
    split at h
    · cases h
      have hlast : w1.since (ockRpcMemFree w1 client addr) =
          [.poolFree (w1.allocatorOf client) addr] := World.since_of_trace rfl
      rw [(hw.trans hf1).since_trans (PoolFrame.memFree client w1 addr), hw.since_trans hf1, hlast,
        inBounds_append, inBounds_append, setReqInfoLoop_inBounds hlen3 hr]
      simp [hhead, InBounds]
    · rename_i hret
      obtain rfl : ret = ockRpcOk := by simpa using hret
      obtain ⟨bs, P⟩ := setReqInfoLoop_ok hlen3 hr
      obtain ⟨b1, b2, b3, rfl, -, -, -, -, hb3, hs⟩ := P.three (by rw [List.length_take]; omega)
      rw [hf1.gOptions, hseg] at h
      have hf2 := appendLoop_frame client env w.gOptions.mrSendReceiveSegSize 3 (msgs.drop 3) 3 w1
        req1
      rw [h] at hf2
      have hcur (cur : Option (Nat × Nat)) : lastBlock Event.block? cur
          ((w.withHeader client msgId addr).since w1) =
            some ((req1.iov 3).lAddress, w.gOptions.mrSendReceiveSegSize.toNat) := by
        rw [lastBlock_eq_head, P.blocks_eq, hb3]
        rfl
      rw [(hw.trans hf1).since_trans hf2, hw.since_trans hf1, inBounds_append, inBounds_append,
        setReqInfoLoop_inBounds hlen3 hr, lastBlock_append, hcur]
      simp [hhead, appendLoop_inBounds hs rfl h]
  · rw [packReqInfo_short ha hn] at h
    rcases hr : setReqInfo (w.withHeader client msgId addr) client msgs msgs.length
      (ServiceSglRequest.withHeader {} addr key) env with ⟨w1, ret, req1⟩
    have hf1 := setReqInfo_frame (w.withHeader client msgId addr) client msgs msgs.length
      (ServiceSglRequest.withHeader {} addr key) env
    rw [hr] at h hf1
    rw [setReqInfo, hseg, List.take_length] at hr
    simp only at h hf1
    rw [Nat.min_eq_left hn, List.take_of_length_le hn]
    have hloop (cur : Option (Nat × Nat)) : InBounds Event.block? Event.stored? cur
        ((w.withHeader client msgId addr).since w1) ↔
          CopiesInside env w.gOptions.mrSendReceiveSegSize msgs.length 0 msgs :=
      setReqInfoLoop_inBounds hlen hr
    split at h
    · cases h
      rw [freeAllMemory, (hw.trans hf1).since_trans (memFreeList_frame client _ _),
        hw.since_trans hf1, inBounds_append, inBounds_append, hloop]
      simp [hhead, inBounds_memFreeList]
    · cases h
      rw [hw.since_trans hf1, inBounds_append, hloop]
      simp [hhead]

/-- **The packing of a checked request stays in its blocks** if and only if the header is refused or
no message with a short block is filled. -/
theorem packReqInfo_safe_iff (hmsgs : checkedMsgs w params = some msgs)
    (h : packReqInfo w params.client msgs params.msgId {} env = (w', st, req')) :
    PackSafe w params.client msgs params.msgId env w' ↔
      env.alloc 0 = none ∨ CopiesInside env w.gOptions.mrSendReceiveSegSize (min msgs.length 3) 0
        (msgs.take 3) := by
  have hlen := checkedMsgs_len hmsgs
  have hwrap : ∀ i m w1 req1, 3 ≤ i → msgs[i]? = some m →
      packReqInfo w params.client (msgs.take i) params.msgId {} env = (w1, ockRpcOk, req1) →
      packReqInfo w params.client (msgs.take (i + 1)) params.msgId {} env =
          appendLoop params.client env w.gOptions.mrSendReceiveSegSize 3 [m] i w1 req1 ∧
        (req1.iov 3).size ≤ w.gOptions.mrSendReceiveSegSize := by
    intro i m w1 req1 hi hm hp
    refine ⟨packReqInfo_take_succ hi hm hp, UInt32.le_iff_toNat_le.mpr ?_⟩
    obtain ⟨hlt, -⟩ := List.getElem?_eq_some_iff.mp hm
    exact packReqInfo_size_le (fun m hm => hlen m (List.mem_of_mem_take hm))
      (by rw [List.length_take]; omega) hp
  rcases ha : env.alloc 0 with _ | ⟨addr, key⟩
  · rw [packReqInfo_noHeader ha] at h
    cases h
    refine ⟨fun _ => .inl rfl, fun _ => ⟨?_, hwrap⟩⟩
    rw [since_touch]
    trivial
  · have hstores := packReqInfo_inBounds ha hlen h
    constructor
    · intro hs
      exact .inr (hstores.mp hs.inBounds)
    · rintro (hn | hc)
      · cases hn
      · exact ⟨hstores.mpr hc, hwrap⟩

/-- A call of two messages: `first` and four bytes. -/
def twoMessages (first : ReqMessage) : OckRpcClientCallParams :=
  ⟨1, 258, ⟨2, some fun i => if i = 0 then first else ⟨some fun _ => 2, 4⟩⟩, 0, none⟩

def packTwo (first : ReqMessage) : World × OckRpcStatus × ServiceSglRequest :=
  packReqInfo eightByteSegs 1 [first, ⟨some fun _ => 2, 4⟩] 258 {} PackEnv.spaced

/-- A first message without data that takes a whole segment: the copy fails inside its block. -/
theorem packReqInfo_safe_full : (packTwo ⟨none, 8⟩).2.1 = ockRpcErr ∧
    PackSafe eightByteSegs 1 [⟨none, 8⟩, ⟨some fun _ => 2, 4⟩] 258 PackEnv.spaced
      (packTwo ⟨none, 8⟩).1 := by
  refine ⟨rfl, (@packReqInfo_safe_iff [⟨none, 8⟩, ⟨some fun _ => 2, 4⟩] PackEnv.spaced eightByteSegs
    _ _ _ (twoMessages ⟨none, 8⟩) rfl rfl).mpr (.inr ⟨fun _ _ => .inr (.inl rfl), ?_⟩)⟩
  rintro ⟨_, _, hc⟩
  cases hc.src_some

/-- A first message of three bytes without data: eight bytes of its block of three are filled. -/
theorem packReqInfo_fills_beyond :
    checkedMsgs eightByteSegs (twoMessages ⟨none, 3⟩) =
        some [⟨none, 3⟩, ⟨some fun _ => 2, 4⟩] ∧
      blocks (eightByteSegs.since (packTwo ⟨none, 3⟩).1) =
        [(200, 3), (100, sizeofRawMessageHeader)] ∧
      (200, 8) ∈ stores (eightByteSegs.since (packTwo ⟨none, 3⟩).1) ∧
      ¬ PackSafe eightByteSegs 1 [⟨none, 3⟩, ⟨some fun _ => 2, 4⟩] 258 PackEnv.spaced
        (packTwo ⟨none, 3⟩).1 := by
  refine ⟨rfl, rfl, .head _, fun h => ?_⟩
  have hs := h.inBounds
  have hlog : eightByteSegs.since (packTwo ⟨none, 3⟩).1 = [.poolFree 0 0, .poolFree 0 0,
      .poolFree 0 0, .poolFree 0 100, .poolFree 0 200, .store 200 8,
      .poolAlloc 0 3 200, .iovStore 0, .store 100 sizeofRawMessageHeader,
      .poolAlloc 0 sizeofRawMessageHeader 100] := rfl
  rw [hlog] at hs
  simp [InBounds, lastBlock, Within, List.findSome?_cons] at hs

end Whole

end Hcom4db
