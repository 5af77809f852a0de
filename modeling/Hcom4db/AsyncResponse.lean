import Hcom4db.Completion

/-!
# Hcom4db.AsyncResponse

The caller's response buffer and the completion that fills it.

The capacity of the buffer is the `len` field of the response struct. The completion stores the
received length there first and then passes that field to `memcpy_s` as the size of the destination,
so the copy is checked against the message and not against the buffer.

* `ResponseOp.submit_record`: the record the four operations hand to the transport.
* `async_response_respects_iff`: a message longer than the buffer is stored past its end, except where
  the completion stores nothing.
-/

namespace Hcom4db

open FlatMem

/-! ## Submission -/

section Submit

variable {w w' : World} {e : SubmitEnv} {info : AsyncCbInfo} {cb : ChannelCallbackFunc} {p : Post}

theorem orErr_ok {r : World × Int} (h : orErr r = (w', ockRpcOk)) : r = (w', ockRpcOk) := by
  obtain ⟨w1, st⟩ := r
  simp only [orErr, Prod.mk.injEq] at h
  obtain ⟨rfl, hst⟩ := h
  split at hst
  · cases hst
  · rename_i h0
    rw [not_not.mp h0]

/-- An operation that returns `OCK_RPC_OK` has handed its record over. -/
theorem submitAsync_ok (h : submitAsync w e info cb p = (w', ockRpcOk)) :
    e.malloc ≠ 0 ∧ w' = ((w.newCbInfo e.malloc info).emit (p.event (some ⟨cb, e.malloc⟩) e.ret)).handOver
      ⟨cb, e.malloc⟩ e := by
  unfold submitAsync at h
  split at h
  · cases h
  · rename_i hm
    simp only at h
    split at h
    · rename_i hret
      simp only [Prod.mk.injEq] at h
      exact absurd h.2 hret
    · rename_i hret
      cases h
      refine ⟨hm, ?_⟩
      rw [World.postAsync, if_neg hret]

end Submit

/-- The operations that take a response. -/
inductive ResponseOp where
  | clientCall (client : Addr) (msgId : UInt16) (request : Option (OckRpcMessage Addr))
  | callWithParam (client : Addr) (msgId : UInt16) (reqIov : OckRpcMessageIov)
  | callRndv (client : Addr) (msgId : UInt16) (request : Option OckRpcMessageInfo)
  | callRndvIov (client : Addr) (msgId : UInt16) (request : Option OckRpcMessageInfoIov)

def ResponseOp.submit (op : ResponseOp) (w : World) (rsp : Addr) (done : Option OckRpcCallDone)
    (e : SubmitEnv) : World × OckRpcStatus :=
  match op with
  | .clientCall client msgId request => ockRpcClientCall w client msgId request rsp done e
  | .callWithParam client msgId reqIov =>
    ockRpcClientCallWithParam w (some ⟨client, msgId, reqIov, rsp, done⟩) e
  | .callRndv client msgId request => ockRpcClientCallRndv w client msgId request rsp done e
  | .callRndvIov client msgId request => ockRpcClientCallRndvIov w client msgId request rsp done e

/-- What the four operations have set up when they hand over: the record points to the caller's
response, its callback is the caller's, and its blocks can be released. -/
structure Recorded (w w1 : World) (rsp : Addr) (done : OckRpcCallDone) (e : SubmitEnv)
    (info : AsyncCbInfo) : Prop where
  slots : w1.slots = w.slots
  record : w1.cbInfos e.malloc = some info
  cb : info.cb = done.cb
  arg : info.arg = done.arg
  rsp : info.rsp = some rsp
  releasable : ∀ wc : World, wc.reqAddrs e.mallocReqAddr = w1.reqAddrs e.mallocReqAddr →
    Releasable (wc.stdFree e.malloc) info

theorem recorded_callInfo {w : World} {rsp : Addr} {done : OckRpcCallDone} {e : SubmitEnv}
    (ev : Event) :
    Recorded w ((w.newCbInfo e.malloc (callInfo done rsp)).emit ev) rsp done e (callInfo done rsp) :=
  ⟨rfl, Function.update_self _ _ _, rfl, rfl, rfl, fun _ _ => .inl rfl⟩

theorem recorded_sglInfo {w : World} {client rsp : Addr} {req : ServiceSglRequest}
    {done : OckRpcCallDone} {e : SubmitEnv} (hq : e.mallocReqAddr ≠ 0)
    (hpq : e.malloc ≠ e.mallocReqAddr) (ev : Event) :
    Recorded w ((sglRecorded w client req rsp done e).emit ev) rsp done e
      (sglInfo client req rsp done e.mallocReqAddr) := by
  refine ⟨rfl, Function.update_self _ _ _, rfl, rfl, rfl, fun wc hwc => .inr ?_⟩
  refine ⟨_, client, _, iovAddrs req req.iovCount.toNat, hq, rfl, rfl, rfl, ?_⟩
  rw [stdFree_reqAddrs, if_neg (Ne.symm hpq), hwc]
  exact Function.update_self _ _ _

theorem ockRpcCallAsyncSgl_ok {w w' : World} {client rsp : Addr} {req : ServiceSglRequest}
    {done : OckRpcCallDone} {e : SubmitEnv}
    (h : ockRpcCallAsyncSgl w client req rsp done e = (w', ockRpcOk)) :
    e.malloc ≠ 0 ∧ e.mallocReqAddr ≠ 0 ∧ e.ret = 0 ∧
      w' = ((sglRecorded w client req rsp done e).emit ((sglPost client req rsp).event
        (some ⟨.ockRpcCallbackFunc, e.malloc⟩) e.ret)).handOver ⟨.ockRpcCallbackFunc, e.malloc⟩ e := by
  unfold ockRpcCallAsyncSgl at h
  split at h
  · cases h
  · rename_i hm
    split at h
    · cases h
    · rename_i hq
      simp only at h
      split at h
      · cases h
      · rename_i hret
        cases h
        refine ⟨hm, hq, not_not.mp hret, ?_⟩
        rw [World.postAsync, if_neg hret]

theorem callWithParam_ok {w w' : World} {params : OckRpcClientCallParams} {done : OckRpcCallDone}
    {e : SubmitEnv} (hd : params.done = some done)
    (h : ockRpcClientCallWithParam w (some params) e = (w', ockRpcOk)) :
    ∃ msgs w1 req, checkedMsgs w params = some msgs ∧
      packReqInfo w params.client msgs params.msgId {} e.pack = (w1, ockRpcOk, req) ∧
      ockRpcCallAsyncSgl w1 params.client req params.rspMsgs done e = (w', ockRpcOk) := by
  unfold ockRpcClientCallWithParam at h
  simp only at h
  split at h
  · cases h
  · rename_i msgs hc
    rcases hp : packReqInfo w params.client msgs params.msgId {} e.pack with ⟨w1, st, req⟩
    rw [hp] at h
    simp only [hd] at h
    split at h
    · cases h
    · rename_i hst
      obtain rfl := not_not.mp hst
      exact ⟨msgs, w1, req, hc, hp, orErr_ok h⟩

theorem ResponseOp.submit_record {op : ResponseOp} {w w' : World} {rsp : Addr}
    {done : OckRpcCallDone} {e : SubmitEnv} (hpq : e.malloc ≠ e.mallocReqAddr)
    (h : op.submit w rsp (some done) e = (w', ockRpcOk)) :
    ∃ w1 info, w' = w1.handOver ⟨.ockRpcCallbackFunc, e.malloc⟩ e ∧
      Recorded w w1 rsp done e info := by
  cases op with
  | clientCall client msgId request =>
    simp only [submit, ockRpcClientCall] at h
    split at h
    · cases h
    · split at h
      · cases h
      · obtain ⟨-, h1⟩ := submitAsync_ok (orErr_ok (orErr_ok h))
        exact ⟨_, _, h1, recorded_callInfo _⟩
  | callWithParam client msgId reqIov =>
    obtain ⟨msgs, wp, req, -, hp, hs⟩ := callWithParam_ok rfl h
    obtain ⟨-, hq, -, h1⟩ := ockRpcCallAsyncSgl_ok hs
    have hR := @recorded_sglInfo wp client rsp req done e hq hpq
      ((sglPost client req rsp).event (some ⟨.ockRpcCallbackFunc, e.malloc⟩) e.ret)
    have hfr := packReqInfo_frame w client msgs msgId {} e.pack
    simp only at hp
    rw [hp] at hfr
    exact ⟨_, _, h1, { hR with slots := hR.slots.trans hfr.slots }⟩
  | callRndv client msgId request =>
    simp only [submit, ockRpcClientCallRndv] at h
    split at h
    · cases h
    · split at h
      · cases h
      · obtain ⟨-, h1⟩ := submitAsync_ok (orErr_ok h)
        exact ⟨_, _, h1, recorded_callInfo _⟩
  | callRndvIov client msgId request =>
    simp only [submit, ockRpcClientCallRndvIov] at h
    split at h
    · cases h
    · obtain ⟨-, h1⟩ := submitAsync_ok (orErr_ok h)
      exact ⟨_, _, h1, recorded_callInfo _⟩

/-! ## Completion -/

/-- The caller's buffer is respected: at most its `L` bytes are stored, and a message of `P` bytes
that is too long for it is reported as a failure to a callback that is there. -/
structure RespectsBuffer (data : Addr) (L P : Nat) (done : OckRpcCallDone) (evs : List Event) : Prop
    where
  fits : ∀ n, (data, n) ∈ stores evs → n ≤ L
  reported : L < P → done.cb ≠ 0 →
    ∃ st, st ≠ ockRpcOk ∧ userCalls evs = [(done.cb, done.arg, st)]

/-- When the buffer is respected: the message fits, or nothing is stored and nobody is told of a
success. -/
def RespectsCond (L : Nat) (done : OckRpcCallDone) (c : Completion) : Prop :=
  c.dataLen.toNat ≤ L ∨ (¬ c.QueriesOk ∧ done.cb = 0) ∨
    (c.QueriesOk ∧ (c.ctxType = some .oneSide ∨ securecMemMaxLen < c.dataLen.toNat) ∧
      (done.cb = 0 ∨ c.resultValue ≠ ockRpcOk))

/-- The events of a completion, given the record. -/
theorem completion_stores {wc : World} {p rsp : Addr} {info : AsyncCbInfo} {c : Completion}
    (hrsp : rsp ≠ 0) (hdata : (wc.slots rsp).data ≠ 0) (hq : c.QueriesOk)
    (ht : c.ctxType ≠ some .oneSide) (hi : wc.cbInfos p = some info)
    (hrel : Releasable (wc.stdFree p) info) (hr : info.rsp = some rsp) :
    stores (wc.since (ockRpcCallbackFunc wc p c)) =
        (if c.dataLen = 0 ∨ securecMemMaxLen < c.dataLen.toNat then []
          else [((wc.slots rsp).data, c.dataLen.toNat)]) ∧
      userCalls (wc.since (ockRpcCallbackFunc wc p c)) = userCalls (notifyEvents info c) := by
  obtain ⟨w2, evs, h2, hs2, -, ht2, hfrees⟩ := callback_responds hi hrel hr hq ht
  have hdata2 : (w2.slots rsp).data ≠ 0 := by rw [hs2]; exact hdata
  have h3 := storeResponse_since (c := c) hdata2
  obtain ⟨mem, slots, evs3, h4, hu3, -, -⟩ := storeResponse_rest w2 rsp c
  have h5 : w2.since (storeResponse w2 rsp c) = evs3 := World.since_of_trace (by rw [h4])
  have htrace : (respond w2 info rsp c).trace =
      (notifyEvents info c ++ evs3 ++ evs) ++ wc.trace := by
    simp only [respond, ne_eq, hrsp, not_false_eq_true, if_true, h4, notifyEvents]
    split <;> simp [ht2]
  have hns : stores (notifyEvents info c) = [] := by
    unfold notifyEvents
    split <;> rfl
  rw [h2, World.since_of_trace htrace]
  constructor
  · rw [stores_append, stores_append, stores_of_frees hfrees, hns, ← h5, h3, hs2]
    split <;> simp
  · rw [userCalls_append, userCalls_append, hu3, userCalls_of_frees hfrees]
    simp

/-- When the buffer is respected, if the message is all that may be stored and `done` all that may be called. -/
theorem respectsBuffer_iff {data : Addr} {L P : Nat} {done : OckRpcCallDone} {evs : List Event}
    {st : OckRpcStatus} (skipped silent : Prop) [Decidable skipped] [Decidable silent]
    (hs : stores evs = if skipped then [] else [(data, P)])
    (hu : done.cb ≠ 0 → userCalls evs = if silent then [] else [(done.cb, done.arg, st)]) :
    RespectsBuffer data L P done evs ↔
      P ≤ L ∨ (skipped ∧ (done.cb = 0 ∨ (¬ silent ∧ st ≠ ockRpcOk))) := by
  constructor
  · intro H
    by_cases hle : P ≤ L
    · exact .inl hle
    · have hskip : skipped := by
        by_contra hno
        have hfit := H.fits P
        rw [hs, if_neg hno] at hfit
        exact hle (hfit List.mem_cons_self)
      refine .inr ⟨hskip, ?_⟩
      by_cases hcb : done.cb = 0
      · exact .inl hcb
      · obtain ⟨st', hne, hcalls⟩ := H.reported (by omega) hcb
        rw [hu hcb] at hcalls
        split at hcalls
        · cases hcalls
        · rename_i hcalled
          cases hcalls
          exact .inr ⟨hcalled, hne⟩
  · intro H
    refine ⟨fun n hn => ?_, fun hlt hcb => ?_⟩
    · rw [hs] at hn
      rcases H with H | ⟨hskip, -⟩
      · split at hn
        · cases hn
        · cases List.mem_singleton.mp hn
          exact H
      · rw [if_pos hskip] at hn
        cases hn
    · rcases H with H | ⟨-, H⟩
      · omega
      · obtain ⟨hcalled, hne⟩ := H.resolve_left hcb
        exact ⟨st, hne, by rw [hu hcb, if_neg hcalled]⟩

theorem completion_respects_iff {w w1 wc : World} {rsp : Addr} {done : OckRpcCallDone}
    {e : SubmitEnv} {info : AsyncCbInfo} {c : Completion} (hrsp : rsp ≠ 0)
    (hdata : (w.slots rsp).data ≠ 0) (R : Recorded w w1 rsp done e info)
    (hrec : wc.cbInfos e.malloc = w1.cbInfos e.malloc)
    (harr : wc.reqAddrs e.mallocReqAddr = w1.reqAddrs e.mallocReqAddr)
    (hslot : wc.slots rsp = w.slots rsp) :
    RespectsBuffer (w.slots rsp).data (w.slots rsp).len.toNat c.dataLen.toNat done
        (wc.since (ockRpcCallbackFunc wc e.malloc c)) ↔
      RespectsCond (w.slots rsp).len.toNat done c := by
  have hi : wc.cbInfos e.malloc = some info := hrec.trans R.record
  unfold RespectsCond
  by_cases hq : c.QueriesOk
  · by_cases ht : c.ctxType = some .oneSide
    · -- the response is not touched, the callback is called in any case
      have hev : wc.since (ockRpcCallbackFunc wc e.malloc c) =
          [.stdFree e.malloc, .userCb info.cb info.arg c.resultValue] :=
        since_callback_oneSide hq ht hi
      rw [hev, R.cb, R.arg, respectsBuffer_iff True False rfl fun _ => rfl]
      simp [hq, ht]
    · obtain ⟨hst, hu⟩ := completion_stores hrsp (hslot ▸ hdata) hq ht hi (R.releasable wc harr) R.rsp
      rw [userCalls_notifyEvents, R.cb, R.arg] at hu
      rw [hslot] at hst
      rw [respectsBuffer_iff _ (done.cb = 0) hst fun _ => hu]
      have hzero : c.dataLen = 0 → c.dataLen.toNat ≤ (w.slots rsp).len.toNat := by
        intro h0
        rw [h0]
        exact Nat.zero_le _
      simp only [hq, ht, not_true_eq_false, false_and, true_and, false_or]
      tauto
  · -- only the record is given back
    have hev : wc.since (ockRpcCallbackFunc wc e.malloc c) = [.stdFree e.malloc] :=
      since_callback_failed hq
    rw [hev, @respectsBuffer_iff _ _ _ done _ ockRpcOk True True _ _ rfl fun _ => rfl]
    simp [hq]

/-- **The completion respects the caller's buffer** exactly under `RespectsCond`. The completion runs
in any state in which the heap objects of the call and the response struct are as they were handed
over, be it inside the primitive (`w1`) or later. -/
theorem async_response_respects_iff {op : ResponseOp} {w w' : World} {rsp : Addr}
    {done : OckRpcCallDone} {e : SubmitEnv} (hrsp : rsp ≠ 0) (hdata : (w.slots rsp).data ≠ 0)
    (hpq : e.malloc ≠ e.mallocReqAddr) (h : op.submit w rsp (some done) e = (w', ockRpcOk)) :
    ∃ w1 : World, w' = w1.handOver ⟨.ockRpcCallbackFunc, e.malloc⟩ e ∧ w1.slots = w.slots ∧
      ∀ (wc : World) (c : Completion), wc.cbInfos e.malloc = w1.cbInfos e.malloc →
        wc.reqAddrs e.mallocReqAddr = w1.reqAddrs e.mallocReqAddr → wc.slots rsp = w.slots rsp →
        (RespectsBuffer (w.slots rsp).data (w.slots rsp).len.toNat c.dataLen.toNat done
            (wc.since (ockRpcCallbackFunc wc e.malloc c)) ↔
          RespectsCond (w.slots rsp).len.toNat done c) := by
  obtain ⟨w1, info, h1, R⟩ := ResponseOp.submit_record hpq h
  exact ⟨w1, h1, R.slots, fun wc c hrec harr hslot =>
    completion_respects_iff hrsp hdata R hrec harr hslot⟩

/-- A call with a response buffer of one byte at 500. -/
def oneByteWorld : World := { slots := fun _ => ⟨500, 1⟩ }

/-- A one-byte response to a call with a one-byte buffer. -/
theorem async_response_respects_one :
    ∃ w1 : World, ∀ c : Completion, c.dataLen = 1 →
      RespectsBuffer 500 1 c.dataLen.toNat ⟨11, 12⟩ (w1.since (ockRpcCallbackFunc w1 900 c)) := by
  obtain ⟨w1, -, hs, H⟩ := @async_response_respects_iff (.clientCall 1 5 (some ⟨600, 3⟩)) oneByteWorld
    _ 40 ⟨11, 12⟩ { malloc := 900 } (by decide) (by decide) (by decide) rfl
  exact ⟨w1, fun c hc => (H w1 c rfl rfl (by rw [hs])).mpr (.inl (by rw [hc]; decide))⟩

/-- Two bytes received for a one-byte buffer: both are stored and the caller is told of a success. -/
theorem async_response_overflow : ∃ (w w' : World) (done : OckRpcCallDone) (e : SubmitEnv)
    (c : Completion), ockRpcClientCall w 1 5 (some ⟨600, 3⟩) 40 (some done) e = (w', ockRpcOk) ∧
      (w.slots 40).data ≠ 0 ∧ (w.slots 40).len = 1 ∧ c.dataLen = 2 ∧
      stores (w'.since (ockRpcCallbackFunc w' e.malloc c)) = [((w.slots 40).data, 2)] ∧
      userCalls (w'.since (ockRpcCallbackFunc w' e.malloc c)) = [(done.cb, done.arg, ockRpcOk)] ∧
      ¬ RespectsBuffer (w.slots 40).data (w.slots 40).len.toNat c.dataLen.toNat done
        (w'.since (ockRpcCallbackFunc w' e.malloc c)) := by
  refine ⟨oneByteWorld, _, ⟨11, 12⟩, { malloc := 900 },
    { ctxType := some .received, data := some fun _ => 0, dataLen := 2 }, rfl, by decide, rfl, rfl,
    by decide, by decide, ?_⟩
  intro H
  exact absurd (H.fits 2 (by decide)) (by decide)

end Hcom4db
