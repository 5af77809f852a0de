import Hcom4db.RunCallback

/-!
# Hcom4db.SuccessStatus

What a caller who is told `OCK_RPC_OK` can rely on.

`result` is `OCK_RPC_OK` before it is queried. `ResponseCallBack` hands it on when the query fails, and
`OckRpcCallbackFunc` when the copy of the response has failed or was left out.

* `storeResponse_received_iff`: when the copy leaves the received message in the response.
* `runCallback_tells_iff`: the completions after which the user is told of a success.
* `success_real_iff`: when that success is real.
-/

namespace Hcom4db

open FlatMem

/-! ## The response -/

/-- The response struct holds the received message. -/
def Received (w : World) (rsp : Addr) (c : Completion) : Prop :=
  (w.slots rsp).len = c.dataLen.toUInt64 ∧ (c.dataLen = 0 ∨ ((w.slots rsp).data ≠ 0 ∧
    ∃ b, c.data = some b ∧
      bytesAt w.mem (w.slots rsp).data c.dataLen.toNat = bytesAt b 0 c.dataLen.toNat))

/-- The received message gets into the response: there is room and something to copy, and the copy
succeeds. One that fails does no harm if the buffer held the message already, or if it was all zeros and
the copy has filled the buffer with them. -/
def Lands (w : World) (rsp : Addr) (c : Completion) : Prop :=
  c.dataLen = 0 ∨ ((responseSlot w rsp c).data ≠ 0 ∧ ∃ b, c.data = some b ∧
    if securecMemMaxLen < c.dataLen.toNat then
      bytesAt w.mem (responseSlot w rsp c).data c.dataLen.toNat = bytesAt b 0 c.dataLen.toNat
    else c.overlap = true → bytesAt b 0 c.dataLen.toNat = List.replicate c.dataLen.toNat 0)

section

variable {w w' wc : World} {rsp : Addr} {c : Completion} {op : AsyncOp} {done : OckRpcCallDone}
  {cb : ChannelCallback} {info : AsyncCbInfo}

theorem storeResponse_received_iff : Received (storeResponse w rsp c) rsp c ↔ Lands w rsp c := by
  unfold Received Lands
  rw [storeResponse_slots, Function.update_self]
  have hlen : (responseSlot w rsp c).len = c.dataLen.toUInt64 := rfl
  by_cases h0 : c.dataLen = 0
  · simp only [hlen, h0, true_or, and_self]
  simp only [hlen, h0, true_and, false_or]
  refine and_congr_right fun hd => exists_congr fun b => and_congr_right fun hb => ?_
  by_cases hmax : securecMemMaxLen < c.dataLen.toNat
  · rw [storeResponse_mem_same (.inr (.inr hmax)), if_pos hmax]
  · rw [storeResponse_mem hd h0 (by omega), bytesAt_blit_self, if_neg hmax, Completion.copied, hb]
    simp only
    by_cases ho : c.overlap = true
    · rw [if_pos ho, bytesAt_zeros]
      exact ⟨fun h _ => h.symm, fun h => (h ho).symm⟩
    · rw [if_neg ho]
      exact ⟨fun _ h => absurd h ho, fun _ => rfl⟩

/-- Calling the user's callback leaves the response as the copy did. -/
theorem respond_response (hr : rsp ≠ 0) :
    (respond w info rsp c).slots = (storeResponse w rsp c).slots ∧
      (respond w info rsp c).mem = (storeResponse w rsp c).mem := by
  unfold respond
  rw [if_pos hr]
  simp only
  split <;> exact ⟨rfl, rfl⟩

theorem respond_received_iff (hr : rsp ≠ 0) :
    Received (respond w info rsp c) rsp c ↔ Lands w rsp c := by
  obtain ⟨hs, hm⟩ := @respond_response w rsp c info hr
  rw [← storeResponse_received_iff, Received, Received, hs, hm]

/-! ## Being told of a success -/

/-- Somebody is told of a success, or the code has acted on a value nobody set and may do anything. -/
def Event.tells : Event → Prop
  | .userCb _ _ st => st = ockRpcOk
  | .ub => True
  | _ => False

def TellsSuccess (evs : List Event) : Prop := ∃ ev ∈ evs, ev.tells

theorem tellsSuccess_append {es fs : List Event} :
    TellsSuccess (es ++ fs) ↔ TellsSuccess es ∨ TellsSuccess fs := by
  simp only [TellsSuccess, List.mem_append, or_and_right, exists_or]

theorem not_tellsSuccess_of_frees {evs : List Event} (h : ∀ ev ∈ evs, ev.frees) :
    ¬ TellsSuccess evs := by
  rintro ⟨ev, hmem, htell⟩
  have := h ev hmem
  cases ev <;> first | exact htell | exact this

theorem tellsSuccess_notifyEvents :
    TellsSuccess (notifyEvents info c) ↔ info.cb ≠ 0 ∧ c.resultValue = ockRpcOk := by
  unfold notifyEvents
  by_cases h : info.cb = 0
  · simp [h, TellsSuccess]
  · simp [h, TellsSuccess, Event.tells]

/-- The completions that tell the user of a success. The context of a read or a write that is not
one-sided makes the callback act on fields nobody set. -/
def AsyncOp.Tells (op : AsyncOp) (done : OckRpcCallDone) (c : Completion) : Prop :=
  if op.isReply then done.cb ≠ 0 ∧ c.resultValue = ockRpcOk
  else
    c.QueriesOk ∧
      if op.isCall then
        (c.ctxType = some .oneSide ∨ done.cb ≠ 0) ∧ c.resultValue = ockRpcOk
      else c.ctxType = some .oneSide → c.resultValue = ockRpcOk

/-! ## A run of the callback -/

theorem AsyncOp.Live.func (L : op.Live done w cb info) (hr : op.isReply = false) :
    cb.cb = .ockRpcCallbackFunc := by
  rw [L.callback, AsyncOp.callback, hr]
  rfl

/-- A completion that is not one-sided, of a record without a `rsp` field. -/
theorem callback_undefined {arg : Addr} (hq : c.QueriesOk) (ht : c.ctxType ≠ some .oneSide)
    (hi : w.cbInfos arg = some info) (hr : info.rsp = none) :
    ockRpcCallbackFunc w arg c = (w.stdFree arg).emit .ub := by
  obtain ⟨t, hct⟩ := Option.isSome_iff_exists.mp hq.2
  have hne : t ≠ .oneSide := fun h => ht (h ▸ hct)
  unfold ockRpcCallbackFunc
  rw [if_neg (not_not.mpr hq.1), hct]
  simp only [hi, if_neg hne, hr]
  cases releaseRequest (w.stdFree arg) info <;> rfl

/-- **Who is told of a success**, over every completion. -/
theorem runCallback_tells_iff (L : op.Live done w cb info) (hrsp : info.rsp = op.response) :
    TellsSuccess (w.since (runCallback w cb c)) ↔ op.Tells done c := by
  have hi := L.record
  have hcb := L.records.cb
  unfold AsyncOp.Tells
  cases hr : op.isReply with
  | true =>
    have hf : cb.cb = .responseCallBack := by rw [L.callback, AsyncOp.callback, hr]; rfl
    rw [runCallback, hf]
    simp only [if_true]
    rw [since_responseCallBack hi, ← List.singleton_append, tellsSuccess_append,
      tellsSuccess_notifyEvents, hcb]
    simp [TellsSuccess, Event.tells]
  | false =>
    have hf := L.func hr
    rw [if_neg Bool.false_ne_true]
    by_cases hq : c.QueriesOk
    · rw [and_iff_right hq]
      by_cases ht : c.ctxType = some .oneSide
      · rw [runCallback, hf]
        simp only
        rw [since_callback_oneSide hq ht hi]
        simp [TellsSuccess, Event.tells, ht]
      · cases hcall : op.isCall with
        | true =>
          obtain ⟨rsp, hrsp⟩ := Option.isSome_iff_exists.mp (L.records.call hcall).1
          obtain ⟨w2, evs, h, -, -, he, hfrees⟩ :=
            callback_responds hi (L.releasable hcall) hrsp hq ht
          obtain ⟨copy, hsince, -, hst⟩ := since_respond he info rsp c
          have hcopy : ¬ TellsSuccess copy := by
            rintro ⟨ev, hmem, htell⟩
            obtain ⟨a, n, rfl⟩ := hst ev hmem
            exact htell
          rw [runCallback, hf]
          simp only
          rw [h, hsince, tellsSuccess_append, tellsSuccess_append, tellsSuccess_notifyEvents, hcb]
          simp [hcopy, not_tellsSuccess_of_frees hfrees, ht]
        | false =>
          have hnone : info.rsp = none := by
            rw [hrsp]
            cases op <;> first | rfl | cases hcall
          rw [runCallback, hf]
          simp only [callback_undefined hq ht hi hnone]
          rw [World.since_of_trace (show _ = [.ub, .stdFree cb.arg] ++ w.trace from rfl)]
          simp [TellsSuccess, Event.tells, ht]
    · rw [runCallback, hf]
      simp only
      rw [since_callback_failed hq]
      simp [TellsSuccess, Event.tells, hq]

/-- What is in the response after a completion whose queries succeed. -/
theorem callback_received_iff {arg : Addr} (hi : w.cbInfos arg = some info)
    (hrel : Releasable (w.stdFree arg) info) (hrsp : info.rsp = some rsp) (hr : rsp ≠ 0)
    (hq : c.QueriesOk) :
    Received (ockRpcCallbackFunc w arg c) rsp c ↔
      if c.ctxType = some .oneSide then Received w rsp c else Lands w rsp c := by
  by_cases ht : c.ctxType = some .oneSide
  · rw [if_pos ht, callback_oneSide hq ht hi]
    exact Iff.rfl
  · obtain ⟨w2, -, h, hs, hm, -⟩ := callback_responds hi hrel hrsp hq ht
    rw [if_neg ht, h, respond_received_iff hr, Lands, Lands, responseSlot, responseSlot, hs, hm]

/-! ## Real successes -/

/-- Whoever is told of a success was told the truth: the query of the result succeeded and stored 0,
and the response, if there is one, holds the received message. -/
def SuccessReal (rsp : Addr) (w w' : World) (c : Completion) : Prop :=
  TellsSuccess (w.since w') →
    c.getResultRet = ockRpcOk ∧ c.result = some ockRpcOk ∧ (rsp ≠ 0 → Received w' rsp c)

/-- When a completion tells no false success. A one-sided one copies nothing, so the response must have
held the message before. -/
def AsyncOp.RealWhen (op : AsyncOp) (done : OckRpcCallDone) (w : World) (c : Completion) : Prop :=
  op.Tells done c →
    c.getResultRet = ockRpcOk ∧ c.result = some ockRpcOk ∧
      (op.slot ≠ 0 →
        if c.ctxType = some .oneSide then Received w op.slot c else Lands w op.slot c)

theorem runCallback_real_iff (L : op.Live done w cb info) (hrsp : info.rsp = op.response) :
    SuccessReal op.slot w (runCallback w cb c) c ↔ op.RealWhen done w c := by
  unfold SuccessReal AsyncOp.RealWhen
  rw [runCallback_tells_iff L hrsp]
  refine imp_congr_right fun htells => and_congr_right fun hq => and_congr_right fun _ =>
    imp_congr_right fun hslot => ?_
  -- only calls have a response
  cases op with
  | call op rsp =>
    unfold AsyncOp.Tells at htells
    rw [if_neg (by exact Bool.false_ne_true)] at htells
    have hf := L.func rfl
    rw [runCallback, hf]
    exact callback_received_iff L.record (L.releasable rfl) hrsp hslot htells.1
  | _ => exact absurd rfl hslot

end

/-- **A success is real** exactly under `RealWhen`: for every operation that was accepted and every
completion of it, in any state in which its heap objects are as they were handed over, be it inside the
primitive (`w1`) or later. -/
theorem success_real_iff {op : AsyncOp} {w w' : World} {done : Option OckRpcCallDone} {e : SubmitEnv}
    (hd : done.isSome ∨ op.isReply = true) (hpq : e.malloc ≠ 0 → e.malloc ≠ e.mallocReqAddr)
    (h : op.submit w done e = (w', ockRpcOk)) :
    ∃ w1 : World, w' = w1.handOver ⟨op.callback, e.malloc⟩ e ∧ ∀ (wc : World) (c : Completion),
      Agree (ownedBy w1 ⟨op.callback, e.malloc⟩) w1 wc →
        (SuccessReal op.slot wc (runCallback wc ⟨op.callback, e.malloc⟩ c) c ↔
          op.RealWhen (done.getD ⟨0, 0⟩) wc c) := by
  have hc := op.submit_course done w e
  rw [h] at hc
  cases hc with
  | stopped _ hst => exact absurd rfl hst
  | posted _ _ h1 h2 _ _ => simp [h1, h2] at hd
  | refused _ _ hst => exact absurd rfl hst
  | accepted P _ _ hrec hrsp =>
    refine ⟨_, rfl, fun wc c hag => ?_⟩
    have L : op.Live (done.getD ⟨0, 0⟩) wc ⟨op.callback, e.malloc⟩ _ :=
      ⟨(P.handed.owns hpq _).agree hag, rfl, hrec⟩
    exact runCallback_real_iff L hrsp

/-- A call without a buffer for its response. -/
def noBufferWorld : World := { slots := fun _ => ⟨0, 0⟩ }

/-- Three bytes arrive and `malloc` finds room for them. -/
theorem success_real_three : ∃ w1 : World, ∀ b : Buf,
    SuccessReal 40 w1 (runCallback w1 ⟨.ockRpcCallbackFunc, 900⟩
        { ctxType := some .received, data := some b, dataLen := 3, malloc := 700 })
      { ctxType := some .received, data := some b, dataLen := 3, malloc := 700 } := by
  obtain ⟨w1, -, H⟩ := @success_real_iff (.call (.clientCall 1 5 (some ⟨600, 3⟩)) 40) noBufferWorld _
    (some ⟨11, 12⟩) { malloc := 900 } (by decide) (by decide) rfl
  refine ⟨w1, fun b => (H w1 _ fun _ _ => ⟨rfl, rfl⟩).mpr fun _ => ⟨rfl, rfl, fun _ => ?_⟩⟩
  refine .inr ⟨?_, b, rfl, fun ho => absurd ho Bool.false_ne_true⟩
  simp only [responseSlot]
  split
  · decide
  · rename_i hne
    exact hne

/-- The query of the result of a reply fails and nothing is stored: `done` is told of a success all the
same. So is that of a call whose three bytes find no room, as `malloc` fails. -/
theorem success_invented :
    (∃ (w' : World) (c : Completion), ockRpcServerReplyRndv {} 3 (some ⟨5, 4⟩) (some ⟨11, 12⟩)
        { malloc := 900 } = (w', ockRpcOk) ∧ w'.inflight = [⟨.responseCallBack, 900⟩] ∧
      c.getResultRet ≠ ockRpcOk ∧
      userCalls (w'.since (runCallback w' ⟨.responseCallBack, 900⟩ c)) = [(11, 12, ockRpcOk)] ∧
      ¬ SuccessReal 0 w' (runCallback w' ⟨.responseCallBack, 900⟩ c) c) ∧
    ∃ (w' : World) (c : Completion), ockRpcClientCall noBufferWorld 1 5 (some ⟨600, 3⟩) 40
        (some ⟨11, 12⟩) { malloc := 900 } = (w', ockRpcOk) ∧
      w'.inflight = [⟨.ockRpcCallbackFunc, 900⟩] ∧ c.dataLen = 3 ∧
      userCalls (w'.since (runCallback w' ⟨.ockRpcCallbackFunc, 900⟩ c)) = [(11, 12, ockRpcOk)] ∧
      ((runCallback w' ⟨.ockRpcCallbackFunc, 900⟩ c).slots 40).data = 0 ∧
      ¬ SuccessReal 40 w' (runCallback w' ⟨.ockRpcCallbackFunc, 900⟩ c) c := by
  refine ⟨⟨_, { getResultRet := 1, result := none, ctxType := none }, rfl, rfl, by decide, by decide,
    fun H => ?_⟩, ⟨_, { ctxType := some .received, data := some fun _ => 7, dataLen := 3 }, rfl, rfl,
      rfl, by decide, by decide, fun H => ?_⟩⟩
  · have h := H ⟨_, List.mem_cons_of_mem _ List.mem_cons_self, rfl⟩
    exact absurd h.1 (by decide)
  · have h := H ⟨_, List.mem_cons_self, rfl⟩
    rcases (h.2.2 (by decide)).2 with h | h
    · exact absurd h (by decide)
    · exact h.1 (by decide)

end Hcom4db
