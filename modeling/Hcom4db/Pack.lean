import Hcom4db.Pool

/-!
# Hcom4db.Pack

Packing a scatter-gather request into pool blocks: `SetReqInfo`, `FreeAllMemory`, `PackReqInfo`.

The first segment is the raw header. Up to three messages get a segment each, the last of them in a
block of a whole segment size; of four to eight messages the third one's block takes the rest too.

`PackEnv` is what the allocator and the copies do: `alloc 0` answers the request for the header
block and `alloc (i + 1)` the one for message `i`.

* `setReqInfoLoop_frame`, `packReqInfo_frame`: only the pool and memory change.
* `setReqInfoLoop_cons`, `appendLoop_cons`: what one iteration can do.
-/

namespace Hcom4db

open FlatMem

structure PackEnv where
  alloc : Nat → Option (Addr × UInt32)
  /-- Whether the `i`-th message and its destination overlap. -/
  overlap : Nat → Bool := fun _ => false

/-- A pool that always answers, with blocks a hundred bytes apart. -/
def PackEnv.spaced : PackEnv := { alloc := fun i => some (100 * (i + 1), 7) }

/-- Store the three fields the packing sets in `iov[i]`. -/
def ServiceSglRequest.assign (req : ServiceSglRequest) (i : Nat) (addr : Addr) (key size : UInt32) :
    ServiceSglRequest :=
  { req with
    iov := Function.update req.iov i { req.iov i with lAddress := addr, lKey := key, size := size } }

/-- The loop of `SetReqInfo` from message `i` on; `count` is the number of messages it was given and
`seg` is `g_options.mrSendReceiveSegSize`. -/
def setReqInfoLoop (client : Addr) (env : PackEnv) (seg : UInt32) (count : Nat) :
    List ReqMessage → Nat → World → ServiceSglRequest → World × OckRpcStatus × ServiceSglRequest
  | [], _, w, req => (w, ockRpcOk, req)
  | m :: ms, i, w, req =>
    let size := if i + 1 = count then seg else m.len.toUInt32
    match ockRpcMemAlloc w client size.toNat (env.alloc (i + 1)) with
    | (w, none) =>
      -- the clean-up counts `j` from 0 to `i` but frees `addrArr[i]`, still 0 here
      (memFreeList w client (List.replicate i 0), ockRpcErr, req)
    | (w, some (addr, key)) =>
      match memcpyS w addr seg.toNat m.data m.len.toNat (env.overlap i) with
      | (w, ret) =>
        if ret ≠ 0 then
          (memFreeList w client (List.replicate (i + 1) addr), ockRpcErr, req)
        else
          setReqInfoLoop client env seg count ms (i + 1) (w.emit (.iovStore (i + 1)))
            ({ req with iovCount := req.iovCount + 1 }.assign (i + 1) addr key m.len.toUInt32)

def setReqInfo (w : World) (client : Addr) (msgs : List ReqMessage) (count : Nat)
    (req : ServiceSglRequest) (env : PackEnv) : World × OckRpcStatus × ServiceSglRequest :=
  setReqInfoLoop client env w.gOptions.mrSendReceiveSegSize count (msgs.take count) 0 w req

/-- The four `lAddress` fields `FreeAllMemory` frees, used or not. -/
def iovAddrs (req : ServiceSglRequest) (n : Nat) : List Addr :=
  (List.range n).map fun i => (req.iov i).lAddress

def freeAllMemory (w : World) (client : Addr) (req : ServiceSglRequest) : World :=
  memFreeList w client (iovAddrs req ockMaxIovCount)

/-- The loop of `PackReqInfo` that appends message `i` and those after it to segment `maxCount`. -/
def appendLoop (client : Addr) (env : PackEnv) (seg : UInt32) (maxCount : Nat) :
    List ReqMessage → Nat → World → ServiceSglRequest → World × OckRpcStatus × ServiceSglRequest
  | [], _, w, req => (w, ockRpcOk, req)
  | m :: ms, i, w, req =>
    let last := req.iov maxCount
    match memcpyS w (last.lAddress + last.size.toNat) (seg - last.size).toNat m.data m.len.toNat
        (env.overlap i) with
    | (w, ret) =>
      if ret ≠ 0 then
        (freeAllMemory w client req, ockRpcErr, req)
      else
        appendLoop client env seg maxCount ms (i + 1) (w.emit (.iovStore maxCount))
          (req.assign maxCount last.lAddress last.lKey (last.size + m.len.toUInt32))

def packReqInfo (w : World) (client : Addr) (msgs : List ReqMessage) (msgId : UInt16)
    (req : ServiceSglRequest) (env : PackEnv) : World × OckRpcStatus × ServiceSglRequest :=
  match ockRpcMemAlloc w client sizeofRawMessageHeader (env.alloc 0) with
  | (w, none) => (w, ockRpcErr, req)
  | (w, some (headAddr, headKey)) =>
    let w := (w.store headAddr (rawMessageHeader msgId) sizeofRawMessageHeader).emit (.iovStore 0)
    let req := { req with iovCount := req.iovCount + 1 }.assign 0 headAddr headKey
      (UInt32.ofNat sizeofRawMessageHeader)
    let maxCount := ockMaxIovCount - 1
    if maxCount < msgs.length then
      match setReqInfo w client msgs maxCount req env with
      | (w, ret, req) =>
        if ret ≠ ockRpcOk then
          (ockRpcMemFree w client headAddr, ockRpcErr, req)
        else
          appendLoop client env w.gOptions.mrSendReceiveSegSize maxCount (msgs.drop maxCount)
            maxCount w req
    else
      match setReqInfo w client msgs msgs.length req env with
      | (w, ret, req) =>
        if ret ≠ ockRpcOk then
          (freeAllMemory w client req, ockRpcErr, req)
        else
          (w, ockRpcOk, req)

/-! ## One iteration -/

/-- The block size `SetReqInfo` asks for. -/
def reqBlockSize (seg : UInt32) (count i : Nat) (m : ReqMessage) : Nat :=
  (if i + 1 = count then seg else m.len.toUInt32).toNat

/-- The state after the block of a message was handed out. -/
def World.allocated (w : World) (client : Addr) (n : Nat) (addr : Addr) : World :=
  (w.touch client).emit (.poolAlloc (w.allocatorOf client) n addr)

/-- The request after message `i` was packed. -/
def ServiceSglRequest.packed (req : ServiceSglRequest) (i : Nat) (m : ReqMessage) (addr : Addr)
    (key : UInt32) : ServiceSglRequest :=
  { req with iovCount := req.iovCount + 1 }.assign (i + 1) addr key m.len.toUInt32

theorem PoolFrame.allocated (client : Addr) (w : World) (n : Nat) (addr : Addr) :
    PoolFrame client w (w.allocated client n addr) :=
  (PoolFrame.touch client w).trans (PoolFrame.emit client _ (allocatorOf_touch w client).symm)

/-- What one iteration of the loop does: the block is refused, the copy fails, or the message is
packed and the loop goes on. -/
theorem setReqInfoLoop_cons (client : Addr) (env : PackEnv) (seg : UInt32) (count i : Nat)
    (m : ReqMessage) (ms : List ReqMessage) (w : World) (req : ServiceSglRequest) :
    (env.alloc (i + 1) = none ∧
      setReqInfoLoop client env seg count (m :: ms) i w req =
        (memFreeList (w.touch client) client (List.replicate i 0), ockRpcErr, req)) ∨
    (∃ addr key, env.alloc (i + 1) = some (addr, key) ∧
      ¬ CopyOk addr seg.toNat m.data m.len.toNat (env.overlap i) ∧
      setReqInfoLoop client env seg count (m :: ms) i w req =
        (memFreeList (memcpyS (w.allocated client (reqBlockSize seg count i m) addr) addr seg.toNat
          m.data m.len.toNat (env.overlap i)).1 client (List.replicate (i + 1) addr),
          ockRpcErr, req)) ∨
    (∃ addr key b, env.alloc (i + 1) = some (addr, key) ∧ m.data = some b ∧
      CopyOk addr seg.toNat m.data m.len.toNat (env.overlap i) ∧
      setReqInfoLoop client env seg count (m :: ms) i w req =
        setReqInfoLoop client env seg count ms (i + 1)
          (((w.allocated client (reqBlockSize seg count i m) addr).store addr b m.len.toNat).emit
            (.iovStore (i + 1))) (req.packed i m addr key)) := by
  rcases ha : env.alloc (i + 1) with _ | ⟨addr, key⟩
  · refine .inl ⟨rfl, ?_⟩
    simp only [setReqInfoLoop, ockRpcMemAlloc, ha]
  · refine .inr ?_
    by_cases hc : CopyOk addr seg.toNat m.data m.len.toNat (env.overlap i)
    · obtain ⟨b, hb⟩ := Option.isSome_iff_exists.mp hc.src_some
      refine .inr ⟨addr, key, b, rfl, hb, hc, ?_⟩
      have hcp : memcpyS (w.allocated client (reqBlockSize seg count i m) addr) addr seg.toNat m.data
          m.len.toNat (env.overlap i) =
          ((w.allocated client (reqBlockSize seg count i m) addr).store addr b m.len.toNat, 0) := by
        rw [hb] at hc ⊢
        exact memcpyS_of_copyOk hc
      simp only [World.allocated, reqBlockSize] at hcp
      simp only [setReqInfoLoop, ockRpcMemAlloc, ha, hcp]
      rfl
    · refine .inl ⟨addr, key, rfl, hc, ?_⟩
      have hne : (memcpyS (w.allocated client (reqBlockSize seg count i m) addr) addr seg.toNat
          m.data m.len.toNat (env.overlap i)).2 ≠ 0 := fun h => hc (copyOk_of_memcpyS h)
      simp only [World.allocated, reqBlockSize] at hne
      simp only [setReqInfoLoop, ockRpcMemAlloc, ha]
      rw [if_pos hne]
      rfl

/-- What one iteration of the append loop does: the copy fails, or the message is appended. -/
theorem appendLoop_cons (client : Addr) (env : PackEnv) (seg : UInt32) (maxCount i : Nat)
    (m : ReqMessage) (ms : List ReqMessage) (w : World) (req : ServiceSglRequest) :
    (¬ CopyOk ((req.iov maxCount).lAddress + (req.iov maxCount).size.toNat)
        (seg - (req.iov maxCount).size).toNat m.data m.len.toNat (env.overlap i) ∧
      appendLoop client env seg maxCount (m :: ms) i w req =
        (freeAllMemory (memcpyS w ((req.iov maxCount).lAddress + (req.iov maxCount).size.toNat)
          (seg - (req.iov maxCount).size).toNat m.data m.len.toNat (env.overlap i)).1 client req,
          ockRpcErr, req)) ∨
    (∃ b, m.data = some b ∧
      CopyOk ((req.iov maxCount).lAddress + (req.iov maxCount).size.toNat)
        (seg - (req.iov maxCount).size).toNat m.data m.len.toNat (env.overlap i) ∧
      appendLoop client env seg maxCount (m :: ms) i w req =
        appendLoop client env seg maxCount ms (i + 1)
          ((w.store ((req.iov maxCount).lAddress + (req.iov maxCount).size.toNat) b
            m.len.toNat).emit (.iovStore maxCount))
          (req.assign maxCount (req.iov maxCount).lAddress (req.iov maxCount).lKey
            ((req.iov maxCount).size + m.len.toUInt32))) := by
  by_cases hc : CopyOk ((req.iov maxCount).lAddress + (req.iov maxCount).size.toNat)
      (seg - (req.iov maxCount).size).toNat m.data m.len.toNat (env.overlap i)
  · obtain ⟨b, hb⟩ := Option.isSome_iff_exists.mp hc.src_some
    refine .inr ⟨b, hb, hc, ?_⟩
    have hcp := memcpyS_of_copyOk (w := w) (hb ▸ hc)
    simp only [appendLoop, hb, hcp]
    rfl
  · refine .inl ⟨hc, ?_⟩
    have hne : (memcpyS w ((req.iov maxCount).lAddress + (req.iov maxCount).size.toNat)
        (seg - (req.iov maxCount).size).toNat m.data m.len.toNat (env.overlap i)).2 ≠ 0 :=
      fun h => hc (copyOk_of_memcpyS h)
    simp only [appendLoop]
    rw [if_pos hne]

/-! ## Frames -/

theorem setReqInfoLoop_frame (client : Addr) (env : PackEnv) (seg : UInt32) (count : Nat)
    (ms : List ReqMessage) :
    ∀ (i : Nat) (w : World) (req : ServiceSglRequest),
      PoolFrame client w (setReqInfoLoop client env seg count ms i w req).1 := by
  induction ms with
  | nil => intro i w req; exact PoolFrame.refl client w
  | cons m ms ih =>
    intro i w req
    rcases setReqInfoLoop_cons client env seg count i m ms w req with
      ⟨-, h⟩ | ⟨addr, key, -, -, h⟩ | ⟨addr, key, b, -, -, -, h⟩
    · rw [h]
      exact (PoolFrame.touch client w).trans (memFreeList_frame client _ _)
    · rw [h]
      exact ((PoolFrame.allocated client w _ addr).trans PoolFrame.memcpyS).trans
        (memFreeList_frame client _ _)
    · rw [h]
      exact (((PoolFrame.allocated client w _ addr).trans (PoolFrame.store client _ _ _ _)).trans
        (PoolFrame.iovStore client _ _)).trans (ih _ _ _)

theorem appendLoop_frame (client : Addr) (env : PackEnv) (seg : UInt32) (maxCount : Nat)
    (ms : List ReqMessage) :
    ∀ (i : Nat) (w : World) (req : ServiceSglRequest),
      PoolFrame client w (appendLoop client env seg maxCount ms i w req).1 := by
  induction ms with
  | nil => intro i w req; exact PoolFrame.refl client w
  | cons m ms ih =>
    intro i w req
    rcases appendLoop_cons client env seg maxCount i m ms w req with ⟨-, h⟩ | ⟨b, -, -, h⟩
    · rw [h]
      exact PoolFrame.memcpyS.trans (memFreeList_frame client _ _)
    · rw [h]
      exact ((PoolFrame.store client w _ _ _).trans (PoolFrame.iovStore client _ _)).trans (ih _ _ _)

theorem setReqInfo_frame (w : World) (client : Addr) (msgs : List ReqMessage) (count : Nat)
    (req : ServiceSglRequest) (env : PackEnv) :
    PoolFrame client w (setReqInfo w client msgs count req env).1 :=
  setReqInfoLoop_frame client env _ count _ 0 w req

/-! ## The whole packing -/

/-- The state and the request after the header segment was written. -/
def World.withHeader (w : World) (client : Addr) (msgId : UInt16) (addr : Addr) : World :=
  ((w.allocated client sizeofRawMessageHeader addr).store addr (rawMessageHeader msgId)
    sizeofRawMessageHeader).emit (.iovStore 0)

def ServiceSglRequest.withHeader (req : ServiceSglRequest) (addr : Addr) (key : UInt32) :
    ServiceSglRequest :=
  { req with iovCount := req.iovCount + 1 }.assign 0 addr key (UInt32.ofNat sizeofRawMessageHeader)

theorem PoolFrame.withHeader (client : Addr) (w : World) (msgId : UInt16) (addr : Addr) :
    PoolFrame client w (w.withHeader client msgId addr) :=
  ((PoolFrame.allocated client w _ addr).trans (PoolFrame.store client _ _ _ _)).trans
    (PoolFrame.iovStore client _ _)

section Whole

variable {client : Addr} {msgs : List ReqMessage} {msgId : UInt16} {req : ServiceSglRequest}
  {env : PackEnv} {w : World}

theorem packReqInfo_noHeader (h : env.alloc 0 = none) :
    packReqInfo w client msgs msgId req env = (w.touch client, ockRpcErr, req) := by
  simp only [packReqInfo, ockRpcMemAlloc, h]

/-- At most three messages: `SetReqInfo` packs them all. -/
theorem packReqInfo_short {addr : Addr} {key : UInt32} (h : env.alloc 0 = some (addr, key))
    (hn : msgs.length ≤ 3) :
    packReqInfo w client msgs msgId req env =
      match setReqInfo (w.withHeader client msgId addr) client msgs msgs.length
        (req.withHeader addr key) env with
      | (w, ret, req) =>
        if ret ≠ ockRpcOk then (freeAllMemory w client req, ockRpcErr, req)
        else (w, ockRpcOk, req) := by
  simp only [packReqInfo, ockRpcMemAlloc, h]
  rw [if_neg (by simp [ockMaxIovCount]; omega)]
  rfl

/-- More than three messages: `SetReqInfo` packs three, the append loop the others. -/
theorem packReqInfo_long {addr : Addr} {key : UInt32} (h : env.alloc 0 = some (addr, key))
    (hn : 3 < msgs.length) :
    packReqInfo w client msgs msgId req env =
      match setReqInfo (w.withHeader client msgId addr) client msgs 3 (req.withHeader addr key)
        env with
      | (w, ret, req) =>
        if ret ≠ ockRpcOk then (ockRpcMemFree w client addr, ockRpcErr, req)
        else appendLoop client env w.gOptions.mrSendReceiveSegSize 3 (msgs.drop 3) 3 w req := by
  simp only [packReqInfo, ockRpcMemAlloc, h]
  rw [if_pos (by simpa [ockMaxIovCount] using hn)]
  rfl

theorem packReqInfo_frame (w : World) (client : Addr) (msgs : List ReqMessage) (msgId : UInt16)
    (req : ServiceSglRequest) (env : PackEnv) :
    PoolFrame client w (packReqInfo w client msgs msgId req env).1 := by
  rcases h : env.alloc 0 with _ | ⟨addr, key⟩
  · rw [packReqInfo_noHeader h]
    exact PoolFrame.touch client w
  · have hw := PoolFrame.withHeader client w msgId addr
    rcases Nat.lt_or_ge 3 msgs.length with hn | hn
    · rw [packReqInfo_long h hn]
      have hs := hw.trans (setReqInfo_frame (w.withHeader client msgId addr) client msgs 3
        (req.withHeader addr key) env)
      rcases hr : setReqInfo (w.withHeader client msgId addr) client msgs 3
        (req.withHeader addr key) env with ⟨w1, ret, req1⟩
      rw [hr] at hs
      simp only
      split
      · exact hs.trans (PoolFrame.memFree client _ _)
      · exact hs.trans (appendLoop_frame client env _ 3 _ 3 _ _)
    · rw [packReqInfo_short h hn]
      have hs := hw.trans (setReqInfo_frame (w.withHeader client msgId addr) client msgs msgs.length
        (req.withHeader addr key) env)
      rcases hr : setReqInfo (w.withHeader client msgId addr) client msgs msgs.length
        (req.withHeader addr key) env with ⟨w1, ret, req1⟩
      rw [hr] at hs
      simp only
      split
      · exact hs.trans (memFreeList_frame client _ _)
      · exact hs

end Whole

end Hcom4db
