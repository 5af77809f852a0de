import Hcom4db.PackLayout

/-!
# Hcom4db.PackBlocks

The pool blocks a packing takes.

* `packReqInfo_taken`: they are the allocator's answers, in order, however the packing ends.
* `packReqInfo_ok_blocks`: after a packing that succeeds the segments of the request are these blocks,
  and none has been freed.
-/

namespace Hcom4db

open FlatMem

/-! ## What the allocator hands out -/

def PackEnv.addr (env : PackEnv) (j : Nat) : Option Addr := (env.alloc j).map Prod.fst

/-- The blocks of one packing are all held at once, so their addresses differ, and none is null. -/
structure PackEnv.Fresh (env : PackEnv) : Prop where
  ne_zero : ∀ j, env.addr j ≠ some 0
  inj : ∀ j k x, env.addr j = some x → env.addr k = some x → j = k

theorem PackEnv.addr_of_alloc {env : PackEnv} {j : Nat} {x : Addr} {key : UInt32}
    (h : env.alloc j = some (x, key)) : env.addr j = some x := by
  rw [PackEnv.addr, h]
  rfl

/-- `xs` are answers of the allocator: those to the requests from `lo` on. -/
def PackEnv.Answers (env : PackEnv) (lo : Nat) (xs : List Addr) : Prop :=
  xs.map some = (List.range' lo xs.length).map env.addr

section Answers

variable {env : PackEnv} {lo : Nat} {xs : List Addr}

theorem PackEnv.Answers.cons {x : Addr} (hx : env.addr lo = some x) (h : env.Answers (lo + 1) xs) :
    env.Answers lo (x :: xs) := by
  rw [PackEnv.Answers, List.map_cons, List.length_cons, List.range'_succ, List.map_cons, hx, h]

theorem PackEnv.Answers.addr_eq (h : env.Answers lo xs) {k : Nat} {x : Addr} (hk : xs[k]? = some x) :
    env.addr (lo + k) = some x := by
  have h1 := congrArg (fun l : List (Option Addr) => l[k]?) h
  obtain ⟨hlt, -⟩ := List.getElem?_eq_some_iff.mp hk
  simp only [List.getElem?_map, hk, Option.map_some, List.getElem?_range', hlt, Nat.one_mul] at h1
  exact (Option.some.inj h1).symm

theorem PackEnv.Answers.nodup (hf : env.Fresh) (h : env.Answers lo xs) : xs.Nodup := by
  refine List.nodup_iff_getElem?_ne_getElem?.mpr fun i j hij hj heq => ?_
  have hi := h.addr_eq (List.getElem?_eq_getElem (Nat.lt_trans hij hj))
  have hj' := h.addr_eq (List.getElem?_eq_getElem hj)
  rw [List.getElem?_eq_getElem (Nat.lt_trans hij hj), List.getElem?_eq_getElem hj] at heq
  rw [Option.some.inj heq] at hi
  have := hf.inj _ _ _ hi hj'
  omega

theorem PackEnv.Answers.zero_notMem (hf : env.Fresh) (h : env.Answers lo xs) : 0 ∉ xs := by
  intro h0
  obtain ⟨k, hk⟩ := List.mem_iff_getElem?.mp h0
  exact hf.ne_zero _ (h.addr_eq hk)

end Answers

/-- A pool that has blocks for the first `n` requests only, a hundred bytes apart. -/
def PackEnv.firstBlocks (n : Nat) : PackEnv :=
  { alloc := fun i => if i < n then some (100 * (i + 1), 7) else none }

theorem PackEnv.firstBlocks_addr (n j : Nat) :
    (PackEnv.firstBlocks n).addr j = if j < n then some (100 * (j + 1)) else none := by
  unfold PackEnv.addr PackEnv.firstBlocks
  simp only
  split <;> rfl

theorem PackEnv.firstBlocks_fresh (n : Nat) : (PackEnv.firstBlocks n).Fresh := by
  constructor
  · intro j h
    rw [firstBlocks_addr] at h
    split at h
    · simp at h
    · cases h
  · intro j k x hj hk
    rw [firstBlocks_addr] at hj hk
    split at hj
    · split at hk
      · simp only [Option.some.injEq] at hj hk
        omega
      · cases hk
    · cases hj

/-! ## The loops -/

section Loop

variable {client : Addr} {env : PackEnv} {seg : UInt32} {count : Nat} {w w' : World}
  {req req' : ServiceSglRequest} {st : OckRpcStatus}

theorem since_allocated (n : Nat) (addr : Addr) :
    w.since (w.allocated client n addr) = [.poolAlloc (w.allocatorOf client) n addr] :=
  World.since_of_trace rfl

/-- The state in which the loop goes on after a message that was packed. -/
theorem since_packed (n : Nat) (addr : Addr) (b : Buf) (len i : Nat) :
    w.since (((w.allocated client n addr).store addr b len).emit (.iovStore i)) =
      [.iovStore i, .store addr len, .poolAlloc (w.allocatorOf client) n addr] :=
  World.since_of_trace rfl

theorem packed_frame (client : Addr) (w : World) (n : Nat) (addr : Addr) (b : Buf) (len i : Nat) :
    PoolFrame client w (((w.allocated client n addr).store addr b len).emit (.iovStore i)) :=
  ((PoolFrame.allocated client w n addr).trans (PoolFrame.store client _ _ _ _)).trans
    (PoolFrame.iovStore client _ _)

theorem since_appended (addr : Addr) (b : Buf) (len k : Nat) :
    w.since ((w.store addr b len).emit (.iovStore k)) = [.iovStore k, .store addr len] :=
  World.since_of_trace rfl

theorem appended_frame (client : Addr) (w : World) (addr : Addr) (b : Buf) (len k : Nat) :
    PoolFrame client w ((w.store addr b len).emit (.iovStore k)) :=
  (PoolFrame.store client w _ _ _).trans (PoolFrame.iovStore client _ _)

/-- The blocks the loop takes are the allocator's answers, in order. -/
theorem setReqInfoLoop_taken {ms : List ReqMessage} {i : Nat}
    (h : setReqInfoLoop client env seg count ms i w req = (w', st, req')) :
    env.Answers (i + 1) (taken (w.since w')).reverse := by
  induction ms generalizing i w req with
  | nil =>
    simp only [setReqInfoLoop, Prod.mk.injEq] at h
    obtain ⟨rfl, -, -⟩ := h
    rw [World.since_self]
    rfl
  | cons m ms ih =>
    have hfr := setReqInfoLoop_frame client env seg count (m :: ms) i w req
    rcases setReqInfoLoop_cons client env seg count i m ms w req with
      ⟨-, e⟩ | ⟨addr, key, ha, -, e⟩ | ⟨addr, key, b, ha, -, -, e⟩
    · rw [e] at h
      cases h
      rw [(PoolFrame.touch client w).since_trans (memFreeList_frame client _ _), taken,
        blocks_append, blocks_since_memFreeList, since_touch]
      rfl
    · rw [e] at h
      cases h
      have hA := PoolFrame.allocated client w (reqBlockSize seg count i m) addr
      rw [(hA.trans PoolFrame.memcpyS).since_trans (memFreeList_frame client _ _), taken,
        blocks_append, blocks_since_memFreeList, hA.since_trans PoolFrame.memcpyS, blocks_append,
        (memcpyS_since _ _ _ _ _ _).1, since_allocated]
      exact .cons (PackEnv.addr_of_alloc ha) rfl
    · rw [e] at h hfr
      have hA := packed_frame client w (reqBlockSize seg count i m) addr b m.len.toNat (i + 1)
      have hrest := setReqInfoLoop_frame client env seg count ms (i + 1)
        (((w.allocated client (reqBlockSize seg count i m) addr).store addr b m.len.toNat).emit
          (.iovStore (i + 1))) (req.packed i m addr key)
      rw [h] at hrest
      rw [hA.since_trans hrest, since_packed, taken_append, List.reverse_append]
      exact .cons (PackEnv.addr_of_alloc ha) (ih h)

theorem appendLoop_blocks {k : Nat} {ms : List ReqMessage} {i : Nat}
    (h : appendLoop client env seg k ms i w req = (w', st, req')) : blocks (w.since w') = [] := by
  induction ms generalizing i w req with
  | nil =>
    simp only [appendLoop, Prod.mk.injEq] at h
    obtain ⟨rfl, -, -⟩ := h
    rw [World.since_self]
    rfl
  | cons m ms ih =>
    rcases appendLoop_cons client env seg k i m ms w req with ⟨-, e⟩ | ⟨b, -, -, e⟩
    · rw [e] at h
      simp only [Prod.mk.injEq] at h
      obtain ⟨rfl, -, rfl⟩ := h
      have hcp : PoolFrame client w (memcpyS w ((req.iov k).lAddress + (req.iov k).size.toNat)
          (seg - (req.iov k).size).toNat m.data m.len.toNat (env.overlap i)).1 :=
        PoolFrame.memcpyS
      rw [freeAllMemory, hcp.since_trans (memFreeList_frame client _ _), blocks_append,
        blocks_since_memFreeList, (memcpyS_since _ _ _ _ _ _).1]
      rfl
    · rw [e] at h
      have hrest := appendLoop_frame client env seg k ms (i + 1)
        ((w.store ((req.iov k).lAddress + (req.iov k).size.toNat) b m.len.toNat).emit (.iovStore k))
        (req.assign k (req.iov k).lAddress (req.iov k).lKey ((req.iov k).size + m.len.toUInt32))
      rw [h] at hrest
      rw [(appended_frame client w _ b m.len.toNat k).since_trans hrest, since_appended, blocks_append,
        ih h]
      rfl

end Loop

/-! ## The whole packing -/

section Whole

variable {client : Addr} {msgs : List ReqMessage} {msgId : UInt16} {env : PackEnv} {w w' : World}
  {req' : ServiceSglRequest} {st : OckRpcStatus}

/-- The header's block and those of the copy loop. -/
theorem headed_taken {addr : Addr} {key : UInt32} (ha : env.alloc 0 = some (addr, key))
    {evs fs : List Event} (hans : env.Answers 1 (taken evs).reverse) (hfs : blocks fs = []) :
    env.Answers 0 (taken (fs ++ (evs ++
      w.since (w.withHeader client msgId addr)))).reverse := by
  have h0 : taken fs = [] := by rw [taken, hfs]; rfl
  rw [since_withHeader, taken_append, taken_append, h0]
  simp only [taken_cons, taken_nil, Event.block?, Option.map_none, Option.map_some,
    Option.toList_none, Option.toList_some, List.nil_append, List.append_nil, List.reverse_append,
    List.reverse_cons, List.reverse_nil, List.cons_append]
  exact .cons (PackEnv.addr_of_alloc ha) hans

theorem packReqInfo_taken (h : packReqInfo w client msgs msgId {} env = (w', st, req')) :
    env.Answers 0 (taken (w.since w')).reverse := by
  rcases ha : env.alloc 0 with _ | ⟨addr, key⟩
  · rw [packReqInfo_noHeader ha] at h
    cases h
    rw [since_touch]
    rfl
  have hw := PoolFrame.withHeader client w msgId addr
  rcases Nat.lt_or_ge 3 msgs.length with hn | hn
  · rw [packReqInfo_long ha hn] at h
    rcases hr : setReqInfo (w.withHeader client msgId addr) client msgs 3
      (ServiceSglRequest.withHeader {} addr key) env with ⟨w1, ret, req1⟩
    have hf1 := setReqInfo_frame (w.withHeader client msgId addr) client msgs 3
      (ServiceSglRequest.withHeader {} addr key) env
    rw [hr] at h hf1
    have hans := setReqInfoLoop_taken hr
    simp only at h hf1
    split at h
    · cases h
      have hlast : w1.since (ockRpcMemFree w1 client addr) =
          [.poolFree (w1.allocatorOf client) addr] := World.since_of_trace rfl
      rw [(hw.trans hf1).since_trans (PoolFrame.memFree client w1 addr), hw.since_trans hf1]
      exact headed_taken ha hans (by rw [hlast]; rfl)
    · have hf2 := appendLoop_frame client env w1.gOptions.mrSendReceiveSegSize 3 (msgs.drop 3) 3 w1
        req1
      rw [h] at hf2
      rw [(hw.trans hf1).since_trans hf2, hw.since_trans hf1]
      exact headed_taken ha hans (appendLoop_blocks h)
  · rw [packReqInfo_short ha hn] at h
    rcases hr : setReqInfo (w.withHeader client msgId addr) client msgs msgs.length
      (ServiceSglRequest.withHeader {} addr key) env with ⟨w1, ret, req1⟩
    have hf1 := setReqInfo_frame (w.withHeader client msgId addr) client msgs msgs.length
      (ServiceSglRequest.withHeader {} addr key) env
    rw [hr] at h hf1
    have hans := setReqInfoLoop_taken hr
    simp only at h hf1
    split at h
    · cases h
      rw [freeAllMemory, (hw.trans hf1).since_trans (memFreeList_frame client _ _),
        hw.since_trans hf1]
      exact headed_taken ha hans (blocks_since_memFreeList _ _ _)
    · cases h
      have hempty := @headed_taken client msgId env w addr key ha _ [] hans blocks_nil
      rw [hw.since_trans hf1]
      rwa [List.nil_append] at hempty

theorem map_fst_segments {bs : List (Addr × Nat)} {ms : List ReqMessage}
    (h : bs.length = ms.length) : (segments bs ms).map Prod.fst = bs.map Prod.fst := by
  induction bs generalizing ms with
  | nil => rfl
  | cons b bs ih =>
    cases ms with
    | nil => cases h
    | cons m ms => simpa [segments] using ih (by simpa using h)

/-- After the copy loop the segments are the header's block and those of the messages. -/
theorem PackedLoop.iovAddrs {seg : UInt32} {count : Nat} {ms : List ReqMessage} {addr : Addr}
    {key : UInt32} {req : ServiceSglRequest} {bs : List (Addr × Nat)}
    (P : PackedLoop seg count 0 ms w (ServiceSglRequest.withHeader {} addr key) w' req bs) :
    iovAddrs req (1 + ms.length) = addr :: (taken (w.since w')).reverse := by
  have h0 : req.iov 0 = (ServiceSglRequest.withHeader {} addr key).iov 0 :=
    P.iovOther 0 (.inl (by omega))
  have ht : (taken (w.since w')).reverse = bs.map Prod.fst := by
    rw [taken, P.blocks_eq, List.map_reverse, List.reverse_reverse]
  have hsp : (iovSpans req 1 ms.length).map Prod.fst = bs.map Prod.fst := by
    rw [P.iov, map_fst_segments P.length_eq]
  rw [ht, ← hsp, Hcom4db.iovAddrs, iovSpans, List.map_map, Nat.add_comm, List.range_eq_range',
    List.range'_succ, List.map_cons, h0]
  rfl

theorem packReqInfo_ok_blocks
    (hlen : ∀ m ∈ msgs, m.len.toNat ≤ w.gOptions.mrSendReceiveSegSize.toNat)
    (h : packReqInfo w client msgs msgId {} env = (w', ockRpcOk, req')) :
    iovAddrs req' req'.iovCount.toNat = (taken (w.since w')).reverse ∧
      poolFreed (w.since w') = [] := by
  obtain ⟨addr, key, -, H⟩ := packReqInfo_ok_cases hlen h
  have hw := PoolFrame.withHeader client w msgId addr
  rcases H with ⟨hn, bs, hf, P⟩ | ⟨hn, w1, req1, bs, hf1, hf2, P, Q⟩
  · rw [hw.since_trans hf, since_withHeader, taken_append, poolFreed_append, P.freed,
      P.iovCount_eq hn, P.iovAddrs]
    simp
  · have htake : (msgs.take 3).length = 3 := by rw [List.length_take]; omega
    have hsame : iovAddrs req' (1 + 3) = iovAddrs req1 (1 + 3) := by
      refine List.map_congr_left fun j _ => ?_
      by_cases hj : j = 3
      · rw [hj, Q.lAddress]
      · rw [Q.iovOther j hj]
    have hcount : req'.iovCount.toNat = 1 + 3 := by
      rw [Q.iovCount, P.iovCount_eq htake.le, htake]
    have ha := P.iovAddrs
    rw [htake] at ha
    have ht2 : taken (w1.since w') = [] := by rw [taken, Q.blocks_eq]; rfl
    rw [(hw.trans hf1).since_trans hf2, hw.since_trans hf1, since_withHeader, taken_append,
      poolFreed_append, Q.freed, taken_append, poolFreed_append, P.freed, ht2, hcount, hsame, ha]
    simp

end Whole

end Hcom4db
