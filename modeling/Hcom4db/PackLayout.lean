import Hcom4db.Pack

/-!
# Hcom4db.PackLayout

What a packing that succeeds leaves in memory, for any contents and lengths.

* `PackedLoop`: the invariant of the copy loop of `SetReqInfo`. `bs` are the blocks it was given, in
  the order of the messages; if no two of them overlap, the segments hold the payloads, and memory
  outside the blocks is as before.
* `appendLoop_ok`: the append loop makes the last segment longer, inside its block.
* `packReqInfo_ok`: the segments of the request, one after the other, are the raw header and the
  payloads.
-/

namespace Hcom4db

open FlatMem

/-- The spans of the `n` segments from index `lo` on. -/
def iovSpans (req : ServiceSglRequest) (lo n : Nat) : List (Addr × Nat) :=
  (List.range' lo n).map fun j => ((req.iov j).lAddress, (req.iov j).size.toNat)

/-- The part of each block its message fills. -/
def segments (bs : List (Addr × Nat)) (ms : List ReqMessage) : List (Addr × Nat) :=
  List.zipWith (fun b m => (b.1, m.len.toNat)) bs ms

theorem iovSpans_congr {req req' : ServiceSglRequest} {lo n : Nat}
    (h : ∀ j, lo ≤ j → j < lo + n → req.iov j = req'.iov j) :
    iovSpans req lo n = iovSpans req' lo n := by
  refine List.map_congr_left fun j hj => ?_
  obtain ⟨h1, h2⟩ := List.mem_range'_1.mp hj
  rw [h j h1 h2]

theorem iovSpans_succ (req : ServiceSglRequest) (lo n : Nat) :
    iovSpans req lo (n + 1) =
      ((req.iov lo).lAddress, (req.iov lo).size.toNat) :: iovSpans req (lo + 1) n := rfl

theorem iovSpans_add (req : ServiceSglRequest) (lo n k : Nat) :
    iovSpans req lo (n + k) = iovSpans req lo n ++ iovSpans req (lo + n) k := by
  rw [iovSpans, iovSpans, iovSpans, ← List.map_append, List.range'_append_1]

theorem toNat_toUInt32_of_le {n : UInt64} {seg : UInt32} (h : n.toNat ≤ seg.toNat) :
    n.toUInt32.toNat = n.toNat := by
  have := seg.toNat_lt
  rw [UInt64.toNat_toUInt32]
  omega

theorem ReqMessage.payload_of_data {m : ReqMessage} {b : Buf} (h : m.data = some b) :
    m.payload = bytesAt b 0 m.len.toNat := by
  simp [ReqMessage.payload, h]

/-- How the copy loop relates its start to its end when every message was packed. -/
structure PackedLoop (seg : UInt32) (count i : Nat) (ms : List ReqMessage) (w : World)
    (req : ServiceSglRequest) (w' : World) (req' : ServiceSglRequest) (bs : List (Addr × Nat)) :
    Prop where
  length_eq : bs.length = ms.length
  blocks_eq : blocks (w.since w') = bs.reverse
  freed : poolFreed (w.since w') = []
  outside : ∀ s : Addr × Nat, (∀ b ∈ bs, Span.Disjoint b s) →
    bytesAt w'.mem s.1 s.2 = bytesAt w.mem s.1 s.2
  bytes : bs.Pairwise Span.Disjoint → gather w'.mem (segments bs ms) = ms.flatMap ReqMessage.payload
  iov : iovSpans req' (i + 1) ms.length = segments bs ms
  iovOther : ∀ j, j < i + 1 ∨ i + ms.length < j → req'.iov j = req.iov j
  iovCount : req'.iovCount = req.iovCount + UInt16.ofNat ms.length
  stores : ∀ j ∈ iovIndices (w.since w'), i + 1 ≤ j ∧ j ≤ i + ms.length
  fits : List.Forall₂ (fun (b : Addr × Nat) (m : ReqMessage) => m.len.toNat ≤ b.2) bs ms
  lastSize : i + ms.length = count → ∀ b ∈ bs.getLast?, b.2 = seg.toNat

/-- A message that was checked fits its block, be it its own length or a segment. -/
theorem le_reqBlockSize {seg : UInt32} {count i : Nat} {m : ReqMessage}
    (hm : m.len.toNat ≤ seg.toNat) : m.len.toNat ≤ reqBlockSize seg count i m := by
  unfold reqBlockSize
  split
  · exact hm
  · rw [toNat_toUInt32_of_le hm]

theorem PackedLoop.nil (seg : UInt32) (count i : Nat) (w : World) (req : ServiceSglRequest) :
    PackedLoop seg count i [] w req w req [] := by
  refine ⟨rfl, by simp, by simp, fun _ _ => rfl, fun _ => rfl, rfl, fun _ _ => rfl, ?_, by simp, .nil,
    by simp⟩
  simp

/-- One iteration that packs `m` into the block at `addr`, before a rest that packs everything. -/
theorem PackedLoop.cons {client addr : Addr} {key seg : UInt32} {count i : Nat} {m : ReqMessage}
    {b : Buf} {ms : List ReqMessage} {w w' : World} {req req' : ServiceSglRequest}
    {bs : List (Addr × Nat)} (hm : m.len.toNat ≤ seg.toNat) (hb : m.data = some b)
    (hfr : PoolFrame client (((w.allocated client (reqBlockSize seg count i m) addr).store addr b
      m.len.toNat).emit (.iovStore (i + 1))) w')
    (P : PackedLoop seg count (i + 1) ms (((w.allocated client (reqBlockSize seg count i m) addr).store
      addr b m.len.toNat).emit (.iovStore (i + 1))) (req.packed i m addr key) w' req' bs) :
    PackedLoop seg count i (m :: ms) w req w' req' ((addr, reqBlockSize seg count i m) :: bs) := by
  have hsize : m.len.toNat ≤ reqBlockSize seg count i m := le_reqBlockSize hm
  -- the events of this iteration come before those of the rest
  have hsince : w.since w' =
      (((w.allocated client (reqBlockSize seg count i m) addr).store addr b m.len.toNat).emit
        (.iovStore (i + 1))).since w' ++
      [.iovStore (i + 1), .store addr m.len.toNat,
        .poolAlloc (w.allocatorOf client) (reqBlockSize seg count i m) addr] :=
    World.since_append rfl hfr.trace_eq
  have hiov : req'.iov (i + 1) = (req.packed i m addr key).iov (i + 1) :=
    P.iovOther (i + 1) (.inl (by omega))
  have hthis : (req.packed i m addr key).iov (i + 1) =
      { req.iov (i + 1) with lAddress := addr, lKey := key, size := m.len.toUInt32 } := by
    simp [ServiceSglRequest.packed, ServiceSglRequest.assign]
  constructor
  case length_eq => simp [P.length_eq]
  case blocks_eq =>
    rw [hsince, blocks_append, P.blocks_eq]
    simp
  case freed =>
    rw [hsince, poolFreed_append, P.freed]
    simp
  case outside =>
    intro s hs
    have h1 := P.outside s fun b' hb' => hs b' (List.mem_cons_of_mem _ hb')
    rw [h1]
    refine bytesAt_blit_of_disjoint ?_
    have h2 := hs _ List.mem_cons_self
    exact ((h2.symm).mono_right hsize).symm
  case bytes =>
    intro hd
    obtain ⟨hd1, hd2⟩ := List.pairwise_cons.mp hd
    rw [segments, List.zipWith_cons_cons, gather_cons, List.flatMap_cons]
    refine congr (congrArg _ ?_) (P.bytes hd2)
    have h1 := P.outside (addr, m.len.toNat) fun b' hb' =>
      ((hd1 b' hb').symm).mono_right hsize
    simp only at h1 ⊢
    rw [h1, ReqMessage.payload_of_data hb]
    exact bytesAt_blit_self _ _ _ _
  case iov =>
    rw [List.length_cons, iovSpans_succ, hiov, hthis, P.iov]
    simp [segments, toNat_toUInt32_of_le hm]
  case iovOther =>
    intro j hj
    rw [P.iovOther j (by simp only [List.length_cons] at hj; omega)]
    have hne : j ≠ i + 1 := by simp only [List.length_cons] at hj; omega
    simp [ServiceSglRequest.packed, ServiceSglRequest.assign, hne]
  case iovCount =>
    rw [P.iovCount, List.length_cons]
    simp only [ServiceSglRequest.packed, ServiceSglRequest.assign, UInt16.ofNat_add]
    rw [UInt16.add_assoc, UInt16.add_comm 1]
    rfl
  case stores =>
    intro j hj
    rw [hsince, iovIndices_append, List.mem_append] at hj
    rw [List.length_cons]
    rcases hj with hj | hj
    · have := P.stores j hj; omega
    · simp at hj; omega
  case fits => exact .cons hsize P.fits
  case lastSize =>
    intro hcount b' hb'
    rw [List.length_cons] at hcount
    rcases bs with _ | ⟨b0, bs⟩
    · have h0 : ms.length = 0 := by rw [← P.length_eq]; rfl
      simp only [List.getLast?_singleton, Option.mem_some_iff] at hb'
      rw [← hb', reqBlockSize, if_pos (by omega)]
    · exact P.lastSize (by omega) b' (by simpa using hb')

theorem setReqInfoLoop_ok {client : Addr} {env : PackEnv} {seg : UInt32} {count : Nat}
    {ms : List ReqMessage} {i : Nat} {w w' : World} {req req' : ServiceSglRequest}
    (hlen : ∀ m ∈ ms, m.len.toNat ≤ seg.toNat)
    (h : setReqInfoLoop client env seg count ms i w req = (w', ockRpcOk, req')) :
    ∃ bs, PackedLoop seg count i ms w req w' req' bs := by
  induction ms generalizing i w req with
  | nil =>
    simp only [setReqInfoLoop, Prod.mk.injEq, true_and] at h
    obtain ⟨rfl, rfl⟩ := h
    exact ⟨[], .nil seg count i w req⟩
  | cons m ms ih =>
    rcases setReqInfoLoop_cons client env seg count i m ms w req with
      ⟨-, e⟩ | ⟨addr, key, -, -, e⟩ | ⟨addr, key, b, -, hb, hc, e⟩
    · rw [e] at h; cases h
    · rw [e] at h; cases h
    rw [e] at h
    obtain ⟨bs, P⟩ := ih (fun m' hm' => hlen m' (List.mem_cons_of_mem _ hm')) h
    have hfr := setReqInfoLoop_frame client env seg count ms (i + 1)
      (((w.allocated client (reqBlockSize seg count i m) addr).store addr b m.len.toNat).emit
        (.iovStore (i + 1))) (req.packed i m addr key)
    rw [h] at hfr
    exact ⟨_, P.cons (hlen m List.mem_cons_self) hb hfr⟩

/-- How the append loop relates its start to its end when every message fitted. -/
structure AppendedLoop (seg : UInt32) (k : Nat) (ms : List ReqMessage) (w : World)
    (req : ServiceSglRequest) (w' : World) (req' : ServiceSglRequest) : Prop where
  blocks_eq : blocks (w.since w') = []
  freed : poolFreed (w.since w') = []
  stores : ∀ j ∈ iovIndices (w.since w'), j = k
  iovOther : ∀ j, j ≠ k → req'.iov j = req.iov j
  iovCount : req'.iovCount = req.iovCount
  lAddress : (req'.iov k).lAddress = (req.iov k).lAddress
  size_le : (req'.iov k).size.toNat ≤ seg.toNat
  outside : ∀ s : Addr × Nat, Span.Disjoint ((req.iov k).lAddress, seg.toNat) s →
    bytesAt w'.mem s.1 s.2 = bytesAt w.mem s.1 s.2
  bytes : bytesAt w'.mem (req.iov k).lAddress (req'.iov k).size.toNat =
    bytesAt w.mem (req.iov k).lAddress (req.iov k).size.toNat ++ ms.flatMap ReqMessage.payload

theorem appendLoop_ok {client : Addr} {env : PackEnv} {seg : UInt32} {k : Nat}
    {ms : List ReqMessage} {i : Nat} {w w' : World} {req req' : ServiceSglRequest}
    (hsz : (req.iov k).size.toNat ≤ seg.toNat)
    (h : appendLoop client env seg k ms i w req = (w', ockRpcOk, req')) :
    AppendedLoop seg k ms w req w' req' := by
  induction ms generalizing i w req with
  | nil =>
    simp only [appendLoop, Prod.mk.injEq, true_and] at h
    obtain ⟨rfl, rfl⟩ := h
    exact ⟨by simp, by simp, by simp, fun _ _ => rfl, rfl, rfl, hsz, fun _ _ => rfl, by simp⟩
  | cons m ms ih =>
    rcases appendLoop_cons client env seg k i m ms w req with ⟨-, e⟩ | ⟨b, hb, hc, e⟩
    · rw [e] at h; cases h
    rw [e] at h
    have hseg := seg.toNat_lt
    have hroom : (seg - (req.iov k).size).toNat = seg.toNat - (req.iov k).size.toNat :=
      UInt32.toNat_sub_of_le _ _ (UInt32.le_iff_toNat_le.mpr hsz)
    have hfit : m.len.toNat ≤ seg.toNat - (req.iov k).size.toNat := by
      have := hc.fits
      omega
    have hle : m.len.toNat ≤ seg.toNat := by omega
    have hm : m.len.toUInt32.toNat = m.len.toNat := toNat_toUInt32_of_le hle
    have hnew : ((req.iov k).size + m.len.toUInt32).toNat =
        (req.iov k).size.toNat + m.len.toNat := by
      rw [UInt32.toNat_add, hm]
      omega
    have hthis : (req.assign k (req.iov k).lAddress (req.iov k).lKey
        ((req.iov k).size + m.len.toUInt32)).iov k =
        { req.iov k with size := (req.iov k).size + m.len.toUInt32 } := by
      simp [ServiceSglRequest.assign]
    have P := ih (by rw [hthis]; simp only; omega) h
    have hfr := appendLoop_frame client env seg k ms (i + 1)
      ((w.store ((req.iov k).lAddress + (req.iov k).size.toNat) b m.len.toNat).emit (.iovStore k))
      (req.assign k (req.iov k).lAddress (req.iov k).lKey ((req.iov k).size + m.len.toUInt32))
    rw [h] at hfr
    have hsince : w.since w' =
        ((w.store ((req.iov k).lAddress + (req.iov k).size.toNat) b m.len.toNat).emit
          (.iovStore k)).since w' ++
        [.iovStore k, .store ((req.iov k).lAddress + (req.iov k).size.toNat) m.len.toNat] :=
      World.since_append rfl hfr.trace_eq
    have hmem : ((w.store ((req.iov k).lAddress + (req.iov k).size.toNat) b m.len.toNat).emit
        (.iovStore k)).mem =
        blit w.mem ((req.iov k).lAddress + (req.iov k).size.toNat) b m.len.toNat := rfl
    refine ⟨?_, ?_, ?_, ?_, ?_, ?_, P.size_le, ?_, ?_⟩
    · rw [hsince, blocks_append, P.blocks_eq]; simp
    · rw [hsince, poolFreed_append, P.freed]; simp
    · intro j hj
      rw [hsince, iovIndices_append, List.mem_append] at hj
      rcases hj with hj | hj
      · exact P.stores j hj
      · simpa using hj
    · intro j hj
      rw [P.iovOther j hj]
      simp [ServiceSglRequest.assign, hj]
    · rw [P.iovCount]; rfl
    · rw [P.lAddress, hthis]
    · intro s hs
      rw [P.outside s (by rw [hthis]; exact hs), hmem]
      refine bytesAt_blit_of_disjoint fun x hx => hs x ⟨?_, hx.2⟩
      simp only at hx ⊢
      omega
    · -- the old contents stay, the new message is the next part of the segment
      have h1 := P.bytes
      rw [hthis] at h1
      simp only at h1
      rw [h1, hnew, bytesAt_add, hmem, bytesAt_blit_self, List.flatMap_cons,
        ReqMessage.payload_of_data hb, bytesAt_blit_of_disjoint, List.append_assoc]
      intro x hx
      simp only at hx
      omega

/-! ## The whole request -/

/-- The bytes of the raw header of `msgId`. -/
def headerBytes (msgId : UInt16) : List UInt8 :=
  bytesAt (rawMessageHeader msgId) 0 sizeofRawMessageHeader

/-- All segments of a request. -/
def ServiceSglRequest.spans (req : ServiceSglRequest) : List (Addr × Nat) :=
  iovSpans req 0 req.iovCount.toNat

/-- The header segment and the segments of the first `ms.length` messages. -/
theorem headed_bytes {client : Addr} {msgId : UInt16} {addr : Addr} {key : UInt32} {seg : UInt32}
    {count : Nat} {ms : List ReqMessage} {w w' : World} {req' : ServiceSglRequest}
    {bs : List (Addr × Nat)}
    (P : PackedLoop seg count 0 ms (w.withHeader client msgId addr)
      (ServiceSglRequest.withHeader {} addr key) w' req' bs)
    (hd : (bs.reverse ++ [(addr, sizeofRawMessageHeader)]).Pairwise Span.Disjoint) :
    gather w'.mem (iovSpans req' 0 (1 + ms.length)) =
      headerBytes msgId ++ ms.flatMap ReqMessage.payload := by
  obtain ⟨hbs, -, hhead⟩ := List.pairwise_append.mp hd
  have hbs' : bs.Pairwise Span.Disjoint :=
    List.pairwise_reverse.mp (hbs.imp fun h => h.symm)
  rw [iovSpans_add, gather_append, Nat.zero_add, P.iov, P.bytes hbs']
  congr 1
  have h0 : req'.iov 0 = (ServiceSglRequest.withHeader {} addr key).iov 0 :=
    P.iovOther 0 (.inl (by omega))
  have h1 : iovSpans req' 0 1 = [(addr, sizeofRawMessageHeader)] := by
    rw [iovSpans_succ, h0]
    rfl
  rw [h1, gather_cons, gather_nil, List.append_nil,
    P.outside (addr, sizeofRawMessageHeader) fun b hb =>
      hhead b (List.mem_reverse.mpr hb) _ List.mem_cons_self]
  exact bytesAt_blit_self _ _ _ _

theorem since_withHeader (w : World) (client : Addr) (msgId : UInt16) (addr : Addr) :
    w.since (w.withHeader client msgId addr) = [.iovStore 0, .store addr sizeofRawMessageHeader,
      .poolAlloc (w.allocatorOf client) sizeofRawMessageHeader addr] :=
  World.since_of_trace rfl

/-- The three segments before the append loop: the last block is a whole segment. -/
theorem PackedLoop.three {seg : UInt32} {ms : List ReqMessage} {w w' : World}
    {req req' : ServiceSglRequest} {bs : List (Addr × Nat)} (hms : ms.length = 3)
    (P : PackedLoop seg 3 0 ms w req w' req' bs) :
    ∃ b1 b2 b3, bs = [b1, b2, b3] ∧
      (req'.iov 1).lAddress = b1.1 ∧ (req'.iov 1).size.toNat ≤ b1.2 ∧
      (req'.iov 2).lAddress = b2.1 ∧ (req'.iov 2).size.toNat ≤ b2.2 ∧
      ((req'.iov 3).lAddress, seg.toNat) = b3 ∧ (req'.iov 3).size.toNat ≤ seg.toNat := by
  obtain ⟨m1, m2, m3, rfl⟩ := List.length_eq_three.mp hms
  obtain ⟨b1, b2, b3, rfl⟩ := List.length_eq_three.mp (P.length_eq.trans hms)
  have hb3 : b3.2 = seg.toNat := P.lastSize rfl b3 (by simp)
  have hiov := P.iov
  have hfits := P.fits
  simp only [hms, iovSpans_succ, segments, List.zipWith_cons_cons, List.cons.injEq, Prod.mk.injEq,
    Nat.zero_add, Nat.reduceAdd] at hiov
  simp only [List.forall₂_cons] at hfits
  obtain ⟨⟨h1a, h1s⟩, ⟨h2a, h2s⟩, ⟨h3a, h3s⟩, -⟩ := hiov
  obtain ⟨hf1, hf2, hf3, -⟩ := hfits
  refine ⟨b1, b2, b3, rfl, h1a, by omega, h2a, by omega, ?_, by omega⟩
  rw [h3a, ← hb3]

/-- How a packing that succeeds went: the header, then one loop or two. -/
theorem packReqInfo_ok_cases {client : Addr} {env : PackEnv} {msgs : List ReqMessage}
    {msgId : UInt16} {w w' : World} {req' : ServiceSglRequest}
    (hlen : ∀ m ∈ msgs, m.len.toNat ≤ w.gOptions.mrSendReceiveSegSize.toNat)
    (h : packReqInfo w client msgs msgId {} env = (w', ockRpcOk, req')) :
    ∃ addr key, env.alloc 0 = some (addr, key) ∧
      ((msgs.length ≤ 3 ∧ ∃ bs, PoolFrame client (w.withHeader client msgId addr) w' ∧
          PackedLoop w.gOptions.mrSendReceiveSegSize msgs.length 0 msgs
            (w.withHeader client msgId addr) (ServiceSglRequest.withHeader {} addr key) w' req' bs) ∨
        (3 < msgs.length ∧ ∃ w1 req1 bs, PoolFrame client (w.withHeader client msgId addr) w1 ∧
          PoolFrame client w1 w' ∧
          PackedLoop w.gOptions.mrSendReceiveSegSize 3 0 (msgs.take 3)
            (w.withHeader client msgId addr) (ServiceSglRequest.withHeader {} addr key) w1 req1 bs ∧
          AppendedLoop w.gOptions.mrSendReceiveSegSize 3 (msgs.drop 3) w1 req1 w' req')) := by
  rcases ha : env.alloc 0 with _ | ⟨addr, key⟩
  · rw [packReqInfo_noHeader ha] at h; cases h
  refine ⟨addr, key, rfl, ?_⟩
  have hseg : (w.withHeader client msgId addr).gOptions = w.gOptions :=
    (PoolFrame.withHeader client w msgId addr).gOptions
  rcases Nat.lt_or_ge 3 msgs.length with hn | hn
  · refine .inr ⟨hn, ?_⟩
    rw [packReqInfo_long ha hn] at h
    rcases hr : setReqInfo (w.withHeader client msgId addr) client msgs 3
      (ServiceSglRequest.withHeader {} addr key) env with ⟨w1, ret, req1⟩
    have hf1 := setReqInfo_frame (w.withHeader client msgId addr) client msgs 3
      (ServiceSglRequest.withHeader {} addr key) env
    rw [hr] at h hf1
    simp only at h
    split at h
    · cases h
    rename_i hret
    obtain rfl : ret = ockRpcOk := by simpa using hret
    rw [setReqInfo, hseg] at hr
    obtain ⟨bs, P⟩ := setReqInfoLoop_ok (fun m hm => hlen m (List.mem_of_mem_take hm)) hr
    rw [hf1.gOptions, hseg] at h
    obtain ⟨-, -, -, -, -, -, -, -, -, h3⟩ := P.three (by rw [List.length_take]; omega)
    have hf2 := appendLoop_frame client env w.gOptions.mrSendReceiveSegSize 3 (msgs.drop 3) 3 w1 req1
    rw [h] at hf2
    exact ⟨w1, req1, bs, hf1, hf2, P, appendLoop_ok h3 h⟩
  · refine .inl ⟨hn, ?_⟩
    rw [packReqInfo_short ha hn] at h
    rcases hr : setReqInfo (w.withHeader client msgId addr) client msgs msgs.length
      (ServiceSglRequest.withHeader {} addr key) env with ⟨w1, ret, req1⟩
    have hf1 := setReqInfo_frame (w.withHeader client msgId addr) client msgs msgs.length
      (ServiceSglRequest.withHeader {} addr key) env
    rw [hr] at h hf1
    simp only at h
    split at h
    · cases h
    rename_i hret
    obtain rfl : ret = ockRpcOk := by simpa using hret
    cases h
    rw [setReqInfo, List.take_length, hseg] at hr
    obtain ⟨bs, P⟩ := setReqInfoLoop_ok hlen hr
    exact ⟨bs, hf1, P⟩

/-- The append loop leaves the header and the first two segments alone, and the third one grows by
the payloads. -/
theorem appended_bytes {seg : UInt32} {msgs : List ReqMessage} {client : Addr} {msgId : UInt16}
    {addr : Addr} {key : UInt32} {w w1 w' : World} {req1 req' : ServiceSglRequest}
    {bs : List (Addr × Nat)} (hn : 3 < msgs.length)
    (P : PackedLoop seg 3 0 (msgs.take 3) (w.withHeader client msgId addr)
      (ServiceSglRequest.withHeader {} addr key) w1 req1 bs)
    (Q : AppendedLoop seg 3 (msgs.drop 3) w1 req1 w' req')
    (hd : (bs.reverse ++ [(addr, sizeofRawMessageHeader)]).Pairwise Span.Disjoint) :
    gather w'.mem (iovSpans req' 0 (3 + 1)) =
      headerBytes msgId ++ msgs.flatMap ReqMessage.payload := by
  have htake : (msgs.take 3).length = 3 := by rw [List.length_take]; omega
  have hfirst := headed_bytes P hd
  rw [htake, show 1 + 3 = 3 + 1 from rfl, iovSpans_add, gather_append] at hfirst
  obtain ⟨b1, b2, b3, rfl, h1a, h1s, h2a, h2s, h3, -⟩ := P.three htake
  simp only [List.reverse_cons, List.reverse_nil, List.nil_append, List.cons_append,
    List.pairwise_cons] at hd
  obtain ⟨hd3, -⟩ := hd
  have hkeep : gather w'.mem (iovSpans req' 0 3) = gather w1.mem (iovSpans req1 0 3) := by
    rw [iovSpans_congr fun j _ hj => Q.iovOther j (by omega)]
    refine gather_congr fun s hs => Q.outside s ?_
    rw [h3]
    have h0 : req1.iov 0 = (ServiceSglRequest.withHeader {} addr key).iov 0 :=
      P.iovOther 0 (.inl (by omega))
    simp only [iovSpans_succ, Nat.zero_add, Nat.reduceAdd, h1a, h2a, h0] at hs
    simp only [iovSpans, List.range'_zero, List.map_nil, List.mem_cons, List.not_mem_nil,
      or_false] at hs
    rcases hs with rfl | rfl | rfl
    · exact hd3 (addr, sizeofRawMessageHeader) (by simp)
    · exact (hd3 b1 (by simp)).mono_right h1s
    · exact (hd3 b2 (by simp)).mono_right h2s
  have hlast : gather w'.mem (iovSpans req' (0 + 3) 1) =
      gather w1.mem (iovSpans req1 (0 + 3) 1) ++ (msgs.drop 3).flatMap ReqMessage.payload := by
    simp only [iovSpans_succ, gather_cons, Nat.zero_add, Q.lAddress, Q.bytes]
    simp [iovSpans]
  rw [iovSpans_add, gather_append, hkeep, hlast, ← List.append_assoc, hfirst, List.append_assoc,
    ← List.flatMap_append, List.take_append_drop]

/-- The number of segments of a packing that succeeds. -/
theorem PackedLoop.iovCount_eq {seg : UInt32} {count : Nat} {ms : List ReqMessage} {addr : Addr}
    {key : UInt32} {w w' : World} {req' : ServiceSglRequest} {bs : List (Addr × Nat)}
    (hn : ms.length ≤ 3)
    (P : PackedLoop seg count 0 ms w (ServiceSglRequest.withHeader {} addr key) w' req' bs) :
    req'.iovCount.toNat = 1 + ms.length := by
  rw [P.iovCount]
  simp only [ServiceSglRequest.withHeader, ServiceSglRequest.assign]
  rw [UInt16.toNat_add, UInt16.toNat_ofNat']
  have : (0 + 1 : UInt16).toNat = 1 := rfl
  omega

/-- **A packing that succeeds.** Only the four `iov` entries are assigned, the segments are one for
the header and one for each of the first three messages, and, if the allocator's blocks do not
overlap, the bytes of the segments are the header and all payloads in order. -/
theorem packReqInfo_ok {client : Addr} {env : PackEnv} {msgs : List ReqMessage} {msgId : UInt16}
    {w w' : World} {req' : ServiceSglRequest}
    (hlen : ∀ m ∈ msgs, m.len.toNat ≤ w.gOptions.mrSendReceiveSegSize.toNat)
    (h : packReqInfo w client msgs msgId {} env = (w', ockRpcOk, req')) :
    req'.iovCount.toNat = 1 + min msgs.length 3 ∧ (∀ j ∈ iovIndices (w.since w'), j < ockMaxIovCount) ∧
      ((blocks (w.since w')).Pairwise Span.Disjoint →
        gather w'.mem req'.spans = headerBytes msgId ++ msgs.flatMap ReqMessage.payload) := by
  obtain ⟨addr, key, -, H⟩ := packReqInfo_ok_cases hlen h
  have hw := PoolFrame.withHeader client w msgId addr
  rcases H with ⟨hn, bs, hf, P⟩ | ⟨hn, w1, req1, bs, hf1, hf2, P, Q⟩
  · have hs := hw.since_trans hf
    rw [since_withHeader] at hs
    have hcount := P.iovCount_eq hn
    refine ⟨by omega, ?_, ?_⟩
    · intro j hj
      rw [hs, iovIndices_append, List.mem_append] at hj
      rcases hj with hj | hj
      · have := P.stores j hj
        simp only [ockMaxIovCount]; omega
      · simp at hj; simp [hj, ockMaxIovCount]
    · intro hd
      rw [ServiceSglRequest.spans, hcount]
      refine headed_bytes P ?_
      rw [hs, blocks_append, P.blocks_eq] at hd
      simpa using hd
  · have hs := (hw.trans hf1).since_trans hf2
    rw [hw.since_trans hf1, since_withHeader] at hs
    have htake : (msgs.take 3).length = 3 := by rw [List.length_take]; omega
    have hcount : req'.iovCount.toNat = 3 + 1 := by
      rw [Q.iovCount, P.iovCount_eq htake.le, htake]
    refine ⟨by omega, ?_, ?_⟩
    · intro j hj
      rw [hs, iovIndices_append, iovIndices_append, List.mem_append, List.mem_append] at hj
      rcases hj with hj | hj | hj
      · rw [Q.stores j hj]; decide
      · have := P.stores j hj
        simp only [ockMaxIovCount]; omega
      · simp at hj; simp [hj, ockMaxIovCount]
    · intro hd
      rw [ServiceSglRequest.spans, hcount]
      rw [hs, blocks_append, Q.blocks_eq, List.nil_append, blocks_append, P.blocks_eq] at hd
      exact appended_bytes hn P Q (by simpa using hd)

end Hcom4db
