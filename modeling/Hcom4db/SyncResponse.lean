import Hcom4db.SuccessStatus

/-!
# Hcom4db.SyncResponse

A synchronous and an asynchronous call of one operation, compared by what they leave in the response.

The synchronous call takes over the message of the primitive when the primitive has succeeded. The
completion of the asynchronous one overwrites the response whatever the result is.

* `submit_both`: the two calls, up to what the transport does.
* `delivered_iff`, `unharmed_iff`: when the completion leaves what the synchronous call leaves.
* `same_response_iff`: both, for every operation and every outcome.
-/

namespace Hcom4db

open FlatMem

/-- What a caller sees of a response struct. -/
structure Contents where
  null : Bool
  len : UInt64
  bytes : List UInt8

def World.contents (w : World) (rsp : Addr) : Contents :=
  let m := w.slots rsp
  ⟨m.data = 0, m.len, if m.data = 0 then [] else bytesAt w.mem m.data m.len.toNat⟩

/-- What a received message looks like. -/
def delivered (c : Completion) (payload : Buf) : Contents :=
  ⟨false, c.dataLen.toUInt64, bytesAt payload 0 c.dataLen.toNat⟩

/-- The completion reports what a synchronous primitive with `e` returns. That one stores a message which
fits the caller's buffer, in a buffer of its own when the caller gave none. -/
structure SameOutcome (slot : OckRpcMessage Addr) (e : SubmitEnv) (c : Completion) : Prop where
  result : c.result = some e.ret
  len : e.ret = ockRpcOk → e.rsp.2 = c.dataLen
  bytes : e.ret = ockRpcOk → c.dataLen ≠ 0 → c.data = some e.payload
  data : e.ret = ockRpcOk → if slot.data = 0 then e.rsp.1 ≠ 0 else e.rsp.1 = slot.data
  fits : e.ret = ockRpcOk → slot.data ≠ 0 → c.dataLen.toNat ≤ slot.len.toNat

/-! ## The synchronous call -/

/-- `ws` is what a synchronous primitive leaves of a state `w` in which it is called. -/
structure Synced (w ws : World) (st : Int) (rsp : Addr) (e : SubmitEnv) : Prop where
  status : st = ockRpcOk ↔ e.ret = ockRpcOk
  slot : ws.slots rsp = if e.ret = ockRpcOk then ⟨e.rsp.1, e.rsp.2.toUInt64⟩ else w.slots rsp
  mem : ws.mem = if e.ret = ockRpcOk then blit w.mem e.rsp.1 e.payload e.rsp.2.toNat else w.mem

section

variable {w w' w1 ws wc : World} {rsp : Addr} {c : Completion} {op : ResponseOp}
  {done : OckRpcCallDone} {info : AsyncCbInfo} {e es : SubmitEnv} {st : Int} {p : Post}

theorem synced_callForResponse :
    Synced w (callForResponse w p rsp e).1 (callForResponse w p rsp e).2 rsp e := by
  unfold callForResponse
  by_cases hret : e.ret = ockRpcOk
  · rw [if_neg (not_not.mpr hret)]
    refine ⟨iff_of_true rfl hret, ?_, ?_⟩
    · rw [if_pos hret]
      exact Function.update_self _ _ _
    · rw [if_pos hret]
      rfl
  · rw [if_pos hret]
    refine ⟨iff_of_false ockRpcErr_ne_ok hret, ?_, ?_⟩
    · rw [if_neg hret]
      rfl
    · rw [if_neg hret]
      rfl

theorem Synced.orErr {r : World × Int} (S : Synced w r.1 r.2 rsp e) :
    Synced w (orErr r).1 (orErr r).2 rsp e := by
  refine ⟨?_, S.slot, S.mem⟩
  rw [← S.status]
  unfold Hcom4db.orErr
  simp only
  split
  · rename_i hne
    exact iff_of_false ockRpcErr_ne_ok hne
  · rename_i heq
    exact iff_of_true rfl (not_not.mp heq)

/-- The blocks of a request are freed after the response was taken over. -/
theorem Synced.freed (S : Synced w ws st rsp e) (client : Addr) (xs : List Addr) :
    Synced w (memFreeList ws client xs) st rsp e := by
  refine ⟨S.status, ?_, ?_⟩
  · rw [(memFreeList_frame client xs ws).slots, S.slot]
  · rw [memFreeList_mem, S.mem]

theorem Synced.contents_success (S : Synced w ws st rsp e) (O : SameOutcome (w.slots rsp) e c)
    (hret : e.ret = ockRpcOk) : ws.contents rsp = delivered c e.payload := by
  have hd : e.rsp.1 ≠ 0 := by
    have h := O.data hret
    split at h
    · exact h
    · rename_i hne
      rw [h]
      exact hne
  have hlen : c.dataLen.toUInt64.toNat = c.dataLen.toNat := UInt32.toNat_toUInt64 _
  unfold World.contents delivered
  rw [S.slot, if_pos hret, S.mem, if_pos hret]
  simp only [hd, decide_false, if_false, O.len hret, hlen, bytesAt_blit_self]

theorem Synced.contents_failure (S : Synced w ws st rsp e) (hret : e.ret ≠ ockRpcOk) :
    ws.contents rsp = w.contents rsp := by
  unfold World.contents
  rw [S.slot, if_neg hret, S.mem, if_neg hret]

/-! ## The two calls -/

/-- Both calls of an operation that passes its checks reach the transport with the same memory: `w1` is
the state in which the asynchronous one hands its record over. -/
theorem submit_both (hrsp : rsp ≠ 0) (hpq : e.malloc ≠ e.mallocReqAddr) (hpack : es.pack = e.pack)
    (h : op.submit w rsp (some done) e = (w', ockRpcOk)) :
    ∃ w1 info, w' = w1.handOver ⟨.ockRpcCallbackFunc, e.malloc⟩ e ∧ Recorded w w1 rsp done e info ∧
      Synced w1 (op.submit w rsp none es).1 (op.submit w rsp none es).2 rsp es := by
  -- the three calls without blocks hand their record over in the state they are called in
  have hplain {p : Post} {ws : World} {st : Int} (S : Synced w ws st rsp es) :
      Synced ((w.newCbInfo e.malloc (callInfo done rsp)).emit
        (p.event (some ⟨.ockRpcCallbackFunc, e.malloc⟩) e.ret)) ws st rsp es :=
    ⟨S.status, S.slot, S.mem⟩
  cases op with
  | clientCall client msgId request =>
    simp only [ResponseOp.submit, ockRpcClientCall] at h ⊢
    split at h
    · cases h
    · split at h
      · cases h
      · rename_i hlen
        obtain ⟨-, h1⟩ := submitAsync_ok (orErr_ok (orErr_ok h))
        refine ⟨_, _, h1, recorded_callInfo _, hplain ?_⟩
        simp only [if_neg hlen, ockRpcCallSync, if_pos hrsp]
        exact synced_callForResponse.orErr
  | callWithParam client msgId reqIov =>
    obtain ⟨msgs, wp, req, hmsgs, hp, hs⟩ := callWithParam_ok rfl h
    obtain ⟨-, hq, -, h1⟩ := ockRpcCallAsyncSgl_ok hs
    have hR := @recorded_sglInfo wp client rsp req done e hq hpq
      ((sglPost client req rsp).event (some ⟨.ockRpcCallbackFunc, e.malloc⟩) e.ret)
    have hfr := packReqInfo_frame w client msgs msgId {} e.pack
    simp only at hp
    rw [hp] at hfr
    refine ⟨_, _, h1, { hR with slots := hR.slots.trans hfr.slots }, ?_⟩
    have hmsgs' : checkedMsgs w ⟨client, msgId, reqIov, rsp, none⟩ = some msgs := hmsgs
    have hne : ¬ ockRpcOk ≠ ockRpcOk := fun h => h rfl
    simp only [ResponseOp.submit, ockRpcClientCallWithParam, hmsgs', hpack, hp, if_neg hne,
      ockRpcCallSyncSgl, if_pos hrsp]
    have S := @synced_callForResponse wp rsp es ⟨.syncCallRawSgl, client, none, .sgl req.segs⟩
    have S1 := S.freed client (iovAddrs req req.iovCount.toNat)
    refine Synced.orErr ?_
    exact ⟨S1.status, S1.slot, S1.mem⟩
  | callRndv client msgId request =>
    simp only [ResponseOp.submit, ockRpcClientCallRndv] at h ⊢
    split at h
    · cases h
    · split at h
      · cases h
      · rename_i hr
        obtain ⟨-, h1⟩ := submitAsync_ok (orErr_ok h)
        refine ⟨_, _, h1, recorded_callInfo _, hplain ?_⟩
        simp only [if_neg hr]
        exact synced_callForResponse.orErr
  | callRndvIov client msgId request =>
    simp only [ResponseOp.submit, ockRpcClientCallRndvIov] at h ⊢
    split at h
    · cases h
    · obtain ⟨-, h1⟩ := submitAsync_ok (orErr_ok h)
      refine ⟨_, _, h1, recorded_callInfo _, hplain ?_⟩
      exact synced_callForResponse.orErr

/-! ## The completion -/

/-- The completion of a failed call does no harm: it writes the length, the pointer and the bytes the
response has anyway. -/
structure Unharmed (w : World) (rsp : Addr) (c : Completion) : Prop where
  len : (w.slots rsp).len = c.dataLen.toUInt64
  null : (w.slots rsp).data = 0 → c.malloc = 0
  bytes : (w.slots rsp).data ≠ 0 → c.dataLen ≠ 0 → c.dataLen.toNat ≤ securecMemMaxLen →
    bytesAt c.copied 0 c.dataLen.toNat = bytesAt w.mem (w.slots rsp).data c.dataLen.toNat

theorem contents_congr (hs : w'.slots = w.slots) (hm : w'.mem = w.mem) :
    w'.contents rsp = w.contents rsp := by rw [World.contents, World.contents, hs, hm]

theorem contents_eq_delivered_iff {payload : Buf} (hb : c.dataLen ≠ 0 → c.data = some payload) :
    w.contents rsp = delivered c payload ↔ (w.slots rsp).data ≠ 0 ∧ Received w rsp c := by
  have hlen : c.dataLen.toUInt64.toNat = c.dataLen.toNat := UInt32.toNat_toUInt64 _
  unfold World.contents delivered Received
  by_cases hd : (w.slots rsp).data = 0
  · simp [hd]
  simp only [hd, decide_false, if_false, Contents.mk.injEq, true_and, ne_eq, not_false_eq_true]
  refine and_congr_right fun hl => ?_
  rw [hl, hlen]
  by_cases h0 : c.dataLen = 0
  · simp [h0]
  · simp [h0, hb h0]

/-- What the copy of a response leaves alone. -/
theorem storeResponse_contents_iff :
    (storeResponse w rsp c).contents rsp = w.contents rsp ↔ Unharmed w rsp c := by
  have hlen : c.dataLen.toUInt64.toNat = c.dataLen.toNat := UInt32.toNat_toUInt64 _
  unfold World.contents
  rw [storeResponse_slots, Function.update_self]
  by_cases hd : (w.slots rsp).data = 0
  · have hslot : responseSlot w rsp c = ⟨c.malloc, c.dataLen.toUInt64⟩ := by
      rw [responseSlot, if_pos hd]
    simp only [hslot, hd, if_true, decide_true]
    constructor
    · intro h
      simp only [Contents.mk.injEq, decide_eq_true_eq] at h
      exact ⟨h.2.1.symm, fun _ => h.1, fun hne => absurd hd hne⟩
    · intro h
      simp [h.null hd, h.len]
  · have hslot : responseSlot w rsp c = ⟨(w.slots rsp).data, c.dataLen.toUInt64⟩ := by
      rw [responseSlot, if_neg hd]
    have hmem : bytesAt (storeResponse w rsp c).mem (w.slots rsp).data c.dataLen.toNat =
        if c.dataLen ≠ 0 ∧ c.dataLen.toNat ≤ securecMemMaxLen then bytesAt c.copied 0 c.dataLen.toNat
        else bytesAt w.mem (w.slots rsp).data c.dataLen.toNat := by
      have hdata : (responseSlot w rsp c).data = (w.slots rsp).data := by rw [hslot]
      split
      · rename_i h
        rw [storeResponse_mem (by rw [hdata]; exact hd) h.1 h.2, hdata, bytesAt_blit_self]
      · rename_i h
        rw [storeResponse_mem_same]
        by_cases h0 : c.dataLen = 0
        · exact .inr (.inl h0)
        · exact .inr (.inr (Nat.lt_of_not_le fun hle => h ⟨h0, hle⟩))
    simp only [hslot, hd, if_false, decide_false, Contents.mk.injEq, true_and, hlen, hmem]
    constructor
    · rintro ⟨hl, hbytes⟩
      rw [← hl, hlen] at hbytes
      refine ⟨hl.symm, fun h => absurd h hd, fun _ h0 hmax => ?_⟩
      rwa [if_pos ⟨h0, hmax⟩] at hbytes
    · rintro ⟨hl, -, hbytes⟩
      rw [hl, hlen]
      refine ⟨rfl, ?_⟩
      split
      · rename_i h
        exact hbytes hd h.1 h.2
      · rfl

/-! ### The callback -/

section Callback

variable {arg : Addr} (hi : w.cbInfos arg = some info) (hrel : Releasable (w.stdFree arg) info)
  (hrsp : info.rsp = some rsp)

include hi hrel hrsp

theorem callback_slot (hr : rsp ≠ 0) (hq : c.QueriesOk) :
    (ockRpcCallbackFunc w arg c).slots rsp =
      if c.ctxType = some .oneSide then w.slots rsp else responseSlot w rsp c := by
  by_cases ht : c.ctxType = some .oneSide
  · rw [if_pos ht, callback_oneSide hq ht hi]
    rfl
  · obtain ⟨w2, -, h, hs, -⟩ := callback_responds hi hrel hrsp hq ht
    rw [if_neg ht, h, (respond_response hr).1, storeResponse_slots, Function.update_self, responseSlot,
      responseSlot, hs]

theorem callback_contents_iff (hr : rsp ≠ 0) (hq : c.QueriesOk) :
    (ockRpcCallbackFunc w arg c).contents rsp = w.contents rsp ↔
      c.ctxType = some .oneSide ∨ Unharmed w rsp c := by
  by_cases ht : c.ctxType = some .oneSide
  · rw [callback_oneSide hq ht hi]
    exact iff_of_true rfl (.inl ht)
  · obtain ⟨w2, -, h, hs, hm, -⟩ := callback_responds hi hrel hrsp hq ht
    obtain ⟨hs', hm'⟩ := @respond_response w2 rsp c info hr
    have hun : Unharmed w2 rsp c ↔ Unharmed w rsp c := by
      constructor
      · rintro ⟨h1, h2, h3⟩
        rw [hs, hm] at h3
        rw [hs] at h1 h2
        exact ⟨h1, h2, h3⟩
      · rintro ⟨h1, h2, h3⟩
        refine ⟨by rwa [hs], by rwa [hs], ?_⟩
        rw [hs, hm]
        exact h3
    rw [h, contents_congr hs' hm', ← contents_congr hs hm, storeResponse_contents_iff, hun]
    simp [ht]

/-- When the user is called: the queries have succeeded. -/
theorem callback_fires_iff (hcb : info.cb ≠ 0) :
    userCalls (w.since (ockRpcCallbackFunc w arg c)) ≠ [] ↔ c.QueriesOk := by
  by_cases hq : c.QueriesOk
  · refine iff_of_true ?_ hq
    by_cases ht : c.ctxType = some .oneSide
    · rw [since_callback_oneSide hq ht hi]
      simp
    · obtain ⟨w2, evs, h, -, -, he, -⟩ := callback_responds hi hrel hrsp hq ht
      obtain ⟨copy, hsince, -, -⟩ := since_respond he info rsp c
      rw [h, hsince, userCalls_append, userCalls_notifyEvents, if_neg hcb]
      exact List.cons_ne_nil _ _
  · refine iff_of_false ?_ hq
    rw [since_callback_failed hq]
    simp

end Callback

/-! ## The comparison -/

/-- If the user is called for the completion, the response is then what the synchronous call leaves. -/
def SameResponse (done : OckRpcCallDone) (w w' ws : World) (rsp : Addr) : Prop :=
  done.cb ≠ 0 → userCalls (w.since w') ≠ [] → w'.contents rsp = ws.contents rsp

/-- When that is so. A success: the message gets into the response, which has a buffer for it also when
it is empty. A failure: nothing is copied, or what is copied does no harm. -/
def SameWhen (done : OckRpcCallDone) (w : World) (rsp : Addr) (e : SubmitEnv) (c : Completion) : Prop :=
  done.cb ≠ 0 → c.QueriesOk →
    if e.ret = ockRpcOk then
      if c.ctxType = some .oneSide then (w.slots rsp).data ≠ 0 ∧ Received w rsp c
      else (responseSlot w rsp c).data ≠ 0 ∧ Lands w rsp c
    else c.ctxType = some .oneSide ∨ Unharmed w rsp c

theorem completion_same_iff {arg : Addr} (hi : w.cbInfos arg = some info)
    (hrel : Releasable (w.stdFree arg) info) (hrsp : info.rsp = some rsp) (hcb : info.cb = done.cb)
    (hr : rsp ≠ 0) (S : Synced w1 ws st rsp es) (hcont : w.contents rsp = w1.contents rsp)
    (O : SameOutcome (w1.slots rsp) es c) :
    SameResponse done w (ockRpcCallbackFunc w arg c) ws rsp ↔ SameWhen done w rsp es c := by
  unfold SameResponse SameWhen
  refine imp_congr_right fun hne => ?_
  rw [callback_fires_iff hi hrel hrsp (hcb.trans_ne hne)]
  refine imp_congr_right fun hq => ?_
  by_cases hret : es.ret = ockRpcOk
  · rw [if_pos hret, S.contents_success O hret, contents_eq_delivered_iff (O.bytes hret),
      callback_slot hi hrel hrsp hr hq, callback_received_iff hi hrel hrsp hr hq]
    split <;> exact Iff.rfl
  · rw [if_neg hret, S.contents_failure hret, ← hcont]
    exact callback_contents_iff hi hrel hrsp hr hq

end

/-- **A synchronous and an asynchronous call leave the same response** exactly under `SameWhen`: the
payload after a success, and after a failure what was there. The completion runs in any state in which
the heap objects of the call and the response are as they were handed over, be it inside the primitive
(`w1`) or later. -/
theorem same_response_iff {op : ResponseOp} {w w' : World} {rsp : Addr} {done : OckRpcCallDone}
    {e es : SubmitEnv} (hrsp : rsp ≠ 0) (hpq : e.malloc ≠ e.mallocReqAddr) (hpack : es.pack = e.pack)
    (h : op.submit w rsp (some done) e = (w', ockRpcOk)) :
    ∃ w1 : World, w' = w1.handOver ⟨.ockRpcCallbackFunc, e.malloc⟩ e ∧ w1.slots = w.slots ∧
      ((op.submit w rsp none es).2 = ockRpcOk ↔ es.ret = ockRpcOk) ∧
      ∀ (wc : World) (c : Completion), wc.cbInfos e.malloc = w1.cbInfos e.malloc →
        wc.reqAddrs e.mallocReqAddr = w1.reqAddrs e.mallocReqAddr →
        wc.contents rsp = w1.contents rsp → SameOutcome (w1.slots rsp) es c →
          (op.submit w rsp none es).1.contents rsp =
              (if es.ret = ockRpcOk then delivered c es.payload else w1.contents rsp) ∧
            (SameResponse done wc (ockRpcCallbackFunc wc e.malloc c) (op.submit w rsp none es).1 rsp ↔
              SameWhen done wc rsp es c) := by
  obtain ⟨w1, info, h1, R, S⟩ := @submit_both w w' rsp op done e es hrsp hpq hpack h
  refine ⟨w1, h1, R.slots, S.status, fun wc c hrec harr hcont O => ⟨?_, ?_⟩⟩
  · split
    · rename_i hret
      exact S.contents_success O hret
    · rename_i hret
      exact S.contents_failure hret
  · exact completion_same_iff (hrec.trans R.record) (R.releasable wc harr) R.rsp R.cb hrsp S hcont O

/-- Three bytes of 7 arrive for a caller without a buffer. -/
theorem same_response_three : ∃ w1 : World,
    SameResponse ⟨11, 12⟩ w1 (ockRpcCallbackFunc w1 900
        { ctxType := some .received, data := some fun _ => 7, dataLen := 3, malloc := 800 })
      (ockRpcClientCall noBufferWorld 1 5 (some ⟨600, 3⟩) 40 none
        { rsp := (700, 3), payload := fun _ => 7 }).1 40 := by
  obtain ⟨w1, -, hs, -, H⟩ := @same_response_iff (.clientCall 1 5 (some ⟨600, 3⟩)) noBufferWorld _ 40
    ⟨11, 12⟩ { malloc := 900 } { rsp := (700, 3), payload := fun _ => 7 } (by decide) (by decide) rfl rfl
  have hdata : (w1.slots 40).data = 0 := by rw [hs]; rfl
  refine ⟨w1, (H w1 _ rfl rfl rfl ⟨rfl, fun _ => rfl, fun _ _ => rfl, fun _ => ?_, fun _ hne => ?_⟩).2.mpr
    fun _ _ => ?_⟩
  · rw [if_pos hdata]
    decide
  · exact absurd hdata hne
  · rw [if_pos rfl, if_neg (by decide)]
    have hroom : (responseSlot w1 40
        { ctxType := some .received, data := some fun _ => 7, dataLen := 3, malloc := 800 }).data ≠
          0 := by
      rw [responseSlot, if_pos hdata]
      decide
    exact ⟨hroom, .inr ⟨hroom, _, rfl, fun ho => absurd ho Bool.false_ne_true⟩⟩

/-- A call with a one-byte buffer fails. The synchronous one leaves the response alone, the completion of
the asynchronous one sets its length to the 0 bytes it has received. -/
theorem failed_completion_overwrites : ∃ (w' ws : World) (c : Completion),
    ockRpcClientCall oneByteWorld 1 5 (some ⟨600, 3⟩) 40 (some ⟨11, 12⟩) { malloc := 900 } =
        (w', ockRpcOk) ∧
      ockRpcClientCall oneByteWorld 1 5 (some ⟨600, 3⟩) 40 none { ret := 1 } = (ws, ockRpcErr) ∧
      SameOutcome (w'.slots 40) { ret := 1 } c ∧ (ws.contents 40).len = 1 ∧
      ((ockRpcCallbackFunc w' 900 c).contents 40).len = 0 ∧
      ¬ SameResponse ⟨11, 12⟩ w' (ockRpcCallbackFunc w' 900 c) ws 40 := by
  refine ⟨_, _, { result := some 1, ctxType := some .received }, rfl, rfl,
    ⟨rfl, fun h => absurd h (by decide), fun h => absurd h (by decide), fun h => absurd h (by decide),
      fun h => absurd h (by decide)⟩, by decide, by decide, fun H => ?_⟩
  have h := congrArg Contents.len (H (by decide) (by decide))
  exact absurd h (by decide)

end Hcom4db
