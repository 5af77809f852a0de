import Hcom4db.Frames

/-!
# Hcom4db.Timeout

The timeout of a call. `OckRpcClientSetTimeout` stores an `int32_t` in `g_timeoutTime`; the calls that
are sent with an op info put it into a field of sixteen bits, and one of them does not set the field.

* `setTimeout_reaches`: every value of the global can be stored.
* `ResponseOp.submit_sends`: the op info a call sends, and when it sends one.
* `call_timeout_iff`: when the timeout that is sent is the one that was set.
-/

namespace Hcom4db

/-! ## Setting the timeout -/

def milloSecondPerSecond : Int64 := 1000

/-- `timeoutSeconds`: a negative time is narrowed as it is, any other one is cut to seconds first. -/
def timeoutSeconds (timeout : Int64) : Int32 :=
  if timeout < 0 then timeout.toInt32 else (timeout / milloSecondPerSecond).toInt32

def ockRpcClientSetTimeout (w : World) (client : Addr) (timeout : Int64) : World :=
  let w := { w with gTimeoutTime := timeoutSeconds timeout }
  (w.emit (.setOneSideTimeout client w.gTimeoutTime)).emit (.setTwoSideTimeout client w.gTimeoutTime)

theorem timeoutSeconds_of_neg {t : Int32} (ht : t.toInt < 0) : timeoutSeconds t.toInt64 = t := by
  have hneg : t.toInt64 < 0 := by
    rw [Int64.lt_iff_toInt_lt, Int32.toInt_toInt64]
    exact ht
  rw [timeoutSeconds, if_pos hneg, Int32.toInt32_toInt64]

theorem timeoutSeconds_of_nonneg {t : Int32} (ht : 0 ≤ t.toInt) :
    timeoutSeconds (t.toInt64 * milloSecondPerSecond) = t := by
  have hlt := t.toInt_lt
  -- the product stays below `2^63`
  have hmul : (t.toInt64 * milloSecondPerSecond).toInt = t.toInt * 1000 := by
    rw [Int64.toInt_mul, Int32.toInt_toInt64, show milloSecondPerSecond.toInt = 1000 from rfl]
    exact Int.bmod_eq_of_le (by omega) (by omega)
  have hnn : ¬ t.toInt64 * milloSecondPerSecond < 0 := by
    rw [Int64.lt_iff_toInt_lt, hmul]
    simp only [Int64.toInt_zero]
    omega
  have hdiv : (t.toInt64 * milloSecondPerSecond / milloSecondPerSecond).toInt = t.toInt := by
    rw [Int64.toInt_div, hmul, show milloSecondPerSecond.toInt = 1000 from rfl,
      Int.mul_tdiv_cancel _ (by decide)]
    exact Int.bmod_eq_of_le (by omega) (by omega)
  rw [timeoutSeconds, if_neg hnn]
  apply Int32.toInt.inj
  rw [Int64.toInt_toInt32, hdiv]
  exact Int.bmod_eq_of_le (by omega) (by omega)

/-- Every `int32_t` can be stored, by a time in milliseconds or, below 0, by itself. -/
theorem setTimeout_reaches (w : World) (client : Addr) (t : Int32) :
    ∃ timeout, (ockRpcClientSetTimeout w client timeout).gTimeoutTime = t := by
  by_cases ht : t.toInt < 0
  · exact ⟨t.toInt64, timeoutSeconds_of_neg ht⟩
  · exact ⟨t.toInt64 * milloSecondPerSecond, timeoutSeconds_of_nonneg (not_lt.mp ht)⟩

theorem toInt_toInt16_eq_iff (t : Int32) :
    t.toInt16.toInt = t.toInt ↔ -32768 ≤ t.toInt ∧ t.toInt ≤ 32767 := by
  have hlo := t.toInt16.le_toInt
  have hhi := t.toInt16.toInt_lt
  constructor
  · intro h
    omega
  · intro h
    rw [Int32.toInt_toInt16]
    exact Int.bmod_eq_of_le (by omega) (by omega)

/-! ## What a call sends -/

/-- The op info an event passes to the transport. -/
def Event.opInfo? : Event → Option ServiceOpInfo
  | .transport _ _ op _ _ _ => op
  | _ => none

def sentOps (evs : List Event) : List ServiceOpInfo := evs.filterMap Event.opInfo?

@[simp] theorem sentOps_append (es fs : List Event) : sentOps (es ++ fs) = sentOps es ++ sentOps fs :=
  List.filterMap_append

theorem sentOps_of_none {evs : List Event} (h : ∀ ev ∈ evs, ev.opInfo? = none) : sentOps evs = [] := by
  rw [sentOps, List.filterMap_eq_nil_iff]
  exact h

/-- Between `w` and `w'` the transport was given the op infos `ops`. -/
structure Sending (ops : List ServiceOpInfo) (w w' : World) : Prop where
  trace : ∃ evs, w'.trace = evs ++ w.trace ∧ sentOps evs = ops

namespace Sending

variable {w w' w'' : World} {ops ops' : List ServiceOpInfo}

theorem refl (w : World) : Sending [] w w := ⟨[], rfl, rfl⟩

theorem trans (h : Sending ops w w') (h' : Sending ops' w' w'') : Sending (ops' ++ ops) w w'' := by
  obtain ⟨evs, he, hs⟩ := h.trace
  obtain ⟨evs', he', hs'⟩ := h'.trace
  exact ⟨evs' ++ evs, by rw [he', he, List.append_assoc], by rw [sentOps_append, hs, hs']⟩

/-- Steps that send nothing do not matter. -/
theorem after (h : Sending [] w w') (h' : Sending ops w' w'') : Sending ops w w'' := by
  have h1 := h.trans h'
  rw [List.append_nil] at h1
  exact h1

theorem before (h : Sending ops w w') (h' : Sending [] w' w'') : Sending ops w w'' := h.trans h'

theorem of_callFrame {P : Event → Prop} (h : CallFrame P w w') (hp : ∀ ev, P ev → ev.opInfo? = none) :
    Sending [] w w' :=
  ⟨w.since w', h.trace_eq, sentOps_of_none fun ev hev => hp ev (h.since ev hev)⟩

theorem of_pool {client : Addr} (h : PoolFrame client w w') : Sending [] w w' := by
  refine ⟨w.since w', h.trace_eq, sentOps_of_none ?_⟩
  intro ev hev
  have hp := h.onPool ev hev
  cases ev <;> first | rfl | exact hp.elim

theorem since (h : Sending ops w w') : sentOps (w.since w') = ops := by
  obtain ⟨evs, he, hs⟩ := h.trace
  rw [World.since_of_trace he, hs]

end Sending

theorem Event.opInfo?_onCompletion {ps : List Addr} {ev : Event} (h : ev.onCompletion ps) :
    ev.opInfo? = none := by
  cases ev <;> first | rfl | exact h.elim

section

variable {w : World} {e : SubmitEnv} {info : AsyncCbInfo} {p : Post} {cb : ChannelCallbackFunc}

theorem emit_sends (w : World) (p : Post) (cb : Option ChannelCallback) (ret : Int) :
    Sending p.op.toList w (w.emit (p.event cb ret)) := by
  refine ⟨[p.event cb ret], rfl, ?_⟩
  rw [sentOps, List.filterMap_cons, Post.event, Event.opInfo?]
  cases p.op <;> rfl

theorem stdFree_sends (w : World) (q : Addr) : Sending [] w (w.stdFree q) :=
  ⟨[.stdFree q], rfl, rfl⟩

theorem newCbInfo_sends (w : World) (q : Addr) (info : AsyncCbInfo) :
    Sending [] w (w.newCbInfo q info) := ⟨[.malloc q], rfl, rfl⟩

theorem callForResponse_sends (w : World) (p : Post) (response : Addr) (e : SubmitEnv) :
    Sending p.op.toList w (callForResponse w p response e).1 := by
  unfold callForResponse
  simp only
  split
  · exact emit_sends w p none e.ret
  · exact (emit_sends w p none e.ret).before ⟨[], rfl, rfl⟩

theorem callNoResponse_sends (w : World) (p : Post) (e : SubmitEnv) :
    Sending p.op.toList w (callNoResponse w p e).1 := emit_sends w p none e.ret

/-- The callback, when it runs at once, sends nothing. -/
theorem postAsync_sends (w : World) (p : Post) (cb : ChannelCallback) (e : SubmitEnv) :
    Sending p.op.toList w (w.postAsync p cb e) := by
  have hpost := emit_sends w p (some cb) e.ret
  unfold World.postAsync
  simp only
  split
  · exact hpost
  · refine hpost.before ?_
    unfold World.handOver
    split
    · exact .of_callFrame (runCallback_callFrame _ cb _) fun ev h => ev.opInfo?_onCompletion h
    · exact ⟨[], rfl, rfl⟩

theorem submitAsync_sends (hm : e.malloc ≠ 0) :
    Sending p.op.toList w (submitAsync w e info cb p).1 := by
  have hpost : Sending p.op.toList w ((w.newCbInfo e.malloc info).postAsync p ⟨cb, e.malloc⟩ e) :=
    (newCbInfo_sends w e.malloc info).after (postAsync_sends _ p _ e)
  unfold submitAsync
  rw [if_neg hm]
  simp only
  split
  · exact hpost.before (stdFree_sends _ e.malloc)
  · exact hpost

theorem callSyncSgl_sends (w : World) (client : Addr) (req : ServiceSglRequest) (rsp : Addr)
    (e : SubmitEnv) : Sending [] w (ockRpcCallSyncSgl w client req rsp e).1 := by
  unfold ockRpcCallSyncSgl
  split
  · exact callForResponse_sends w ⟨.syncCallRawSgl, client, none, .sgl req.segs⟩ rsp e
  · exact callNoResponse_sends w ⟨.postSendRawSgl, client, none, .sgl req.segs⟩ e

theorem callAsyncSgl_sends (w : World) (client : Addr) (req : ServiceSglRequest) (rsp : Addr)
    (done : OckRpcCallDone) (e : SubmitEnv) :
    Sending [] w (ockRpcCallAsyncSgl w client req rsp done e).1 := by
  have hpost : Sending [] w ((sglRecorded w client req rsp done e).postAsync
      (sglPost client req rsp) ⟨.ockRpcCallbackFunc, e.malloc⟩ e) := by
    have hrec : Sending [] w (sglRecorded w client req rsp done e) :=
      ⟨[.malloc e.mallocReqAddr, .malloc e.malloc], rfl, rfl⟩
    exact hrec.after (postAsync_sends _ (sglPost client req rsp) _ e)
  unfold ockRpcCallAsyncSgl
  split
  · exact Sending.refl w
  · split
    · exact (newCbInfo_sends w e.malloc _).before (stdFree_sends _ e.malloc)
    · simp only
      split
      · exact (hpost.before (stdFree_sends _ _)).before (stdFree_sends _ _)
      · exact hpost

/-- A scatter-gather call is sent without an op info. -/
theorem callWithParam_sends (w : World) (params : Option OckRpcClientCallParams) (e : SubmitEnv) :
    Sending [] w (ockRpcClientCallWithParam w params e).1 := by
  unfold ockRpcClientCallWithParam
  split
  · exact Sending.refl w
  · rename_i params
    split
    · exact Sending.refl w
    · rename_i msgs _
      have hpack := packReqInfo_frame w params.client msgs params.msgId {} e.pack
      generalize packReqInfo w params.client msgs params.msgId {} e.pack = r at hpack ⊢
      obtain ⟨wp, ret, req⟩ := r
      simp only at hpack ⊢
      split
      · exact .of_pool hpack
      · split
        · exact (Sending.of_pool hpack).after ((callSyncSgl_sends wp _ req _ e).before
            (.of_pool (memFreeList_frame params.client _ _)))
        · exact (Sending.of_pool hpack).after (callAsyncSgl_sends wp _ req _ _ e)

end

namespace ResponseOp

/-- The checks of the arguments, where they decide whether an op info is sent. -/
def Accepts (op : ResponseOp) (rsp : Addr) : Prop :=
  match op with
  | .clientCall _ _ request => ∃ r ∈ request, r.len.toNat ≤ uint32Max
  | .callWithParam _ _ _ => True
  | .callRndv _ _ request => request.isSome ∧ rsp ≠ 0
  | .callRndvIov _ _ request => (ockRpcRndvIovCheckParams request rsp).isSome

/-- The request reaches the transport: the arguments pass, and a record can be allocated for the
callback of an asynchronous call. -/
def Sends (op : ResponseOp) (rsp : Addr) (done : Option OckRpcCallDone) (e : SubmitEnv) : Prop :=
  op.Accepts rsp ∧ (done.isSome → e.malloc ≠ 0)

/-- The op info of a call, when `g_timeoutTime` is `t`. -/
def opInfo (op : ResponseOp) (t : Int32) : Option ServiceOpInfo :=
  match op with
  | .clientCall _ msgId _ => some { opCode := msgId, timeout := t.toInt16 }
  | .callWithParam _ _ _ => none
  | .callRndv _ msgId _ => some { opCode := msgId, timeout := t.toInt16 }
  -- `timeout` keeps the value it was initialised with
  | .callRndvIov _ msgId _ => some { opCode := msgId }

/-- The values of `g_timeoutTime` the field of the call carries over. -/
def KeepsTimeout (op : ResponseOp) (t : Int32) : Prop :=
  match op with
  | .clientCall _ _ _ => -32768 ≤ t.toInt ∧ t.toInt ≤ 32767
  | .callWithParam _ _ _ => True
  | .callRndv _ _ _ => -32768 ≤ t.toInt ∧ t.toInt ≤ 32767
  | .callRndvIov _ _ _ => t = 0

/-- `w'` comes from `w` by a call that sends `ops` when it reaches the transport, and nothing otherwise. -/
def SendsOnly (op : ResponseOp) (rsp : Addr) (done : Option OckRpcCallDone) (e : SubmitEnv)
    (ops : List ServiceOpInfo) (w w' : World) : Prop :=
  (op.Sends rsp done e ∧ Sending ops w w') ∨ (¬ op.Sends rsp done e ∧ Sending [] w w')

section

variable {op : ResponseOp} {w w' : World} {rsp : Addr} {done : Option OckRpcCallDone} {e : SubmitEnv}
  {ops : List ServiceOpInfo}

theorem SendsOnly.refused (h : ¬ op.Accepts rsp) : op.SendsOnly rsp done e ops w w :=
  .inr ⟨fun hs => h hs.1, Sending.refl w⟩

theorem SendsOnly.sync (ha : op.Accepts rsp) (h : Sending ops w w') :
    op.SendsOnly rsp none e ops w w' :=
  .inl ⟨⟨ha, fun h => by cases h⟩, h⟩

/-- The asynchronous calls but the scatter-gather one. -/
theorem SendsOnly.async (ha : op.Accepts rsp) (d : OckRpcCallDone) (p : Post) :
    op.SendsOnly rsp (some d) e p.op.toList w
      (submitAsync w e (callInfo d rsp) .ockRpcCallbackFunc p).1 := by
  by_cases hm : e.malloc = 0
  · refine .inr ⟨fun h => h.2 rfl hm, ?_⟩
    rw [submitAsync, if_pos hm]
    exact Sending.refl w
  · exact .inl ⟨⟨ha, fun _ => hm⟩, submitAsync_sends hm⟩

theorem clientCall_sends (client : Addr) (msgId : UInt16) (request : Option (OckRpcMessage Addr)) :
    (clientCall client msgId request).SendsOnly rsp done e
      ((clientCall client msgId request).opInfo w.gTimeoutTime).toList w
      ((clientCall client msgId request).submit w rsp done e).1 := by
  simp only [submit, ockRpcClientCall]
  cases request with
  | none =>
    refine .refused ?_
    rintro ⟨r, hr, -⟩
    cases hr
  | some r =>
    simp only
    split
    · rename_i hlen
      refine .refused ?_
      rintro ⟨r', hr, hle⟩
      cases hr
      exact not_le.mpr hlen hle
    · rename_i hlen
      have ha : (clientCall client msgId (some r)).Accepts rsp := ⟨r, rfl, not_lt.mp hlen⟩
      cases done with
      | none =>
        refine .sync ha ?_
        simp only [orErr, ockRpcCallSync]
        split
        · exact callForResponse_sends w ⟨.syncCall, client, some _, _⟩ rsp e
        · exact callNoResponse_sends w ⟨.postSend, client, some _, _⟩ e
      | some d => exact .async ha d ⟨_, client, some _, _⟩

theorem callRndv_sends (client : Addr) (msgId : UInt16) (request : Option OckRpcMessageInfo) :
    (callRndv client msgId request).SendsOnly rsp done e
      ((callRndv client msgId request).opInfo w.gTimeoutTime).toList w
      ((callRndv client msgId request).submit w rsp done e).1 := by
  simp only [submit, ockRpcClientCallRndv]
  cases request with
  | none =>
    refine .refused ?_
    rintro ⟨hr, -⟩
    cases hr
  | some r =>
    simp only
    split
    · rename_i hrsp
      exact .refused fun h => h.2 hrsp
    · rename_i hrsp
      have ha : (callRndv client msgId (some r)).Accepts rsp := ⟨rfl, hrsp⟩
      cases done with
      | none => exact .sync ha (callForResponse_sends w ⟨.syncRndvCall, client, some _, _⟩ rsp e)
      | some d => exact .async ha d ⟨_, client, some _, _⟩

theorem callRndvIov_sends (client : Addr) (msgId : UInt16) (request : Option OckRpcMessageInfoIov) :
    (callRndvIov client msgId request).SendsOnly rsp done e
      ((callRndvIov client msgId request).opInfo w.gTimeoutTime).toList w
      ((callRndvIov client msgId request).submit w rsp done e).1 := by
  simp only [submit, ockRpcClientCallRndvIov]
  split
  · rename_i hc
    refine .refused fun ha => ?_
    rw [Accepts, hc] at ha
    cases ha
  · rename_i segs hc
    have ha : (callRndvIov client msgId request).Accepts rsp := by
      rw [Accepts, hc]
      rfl
    cases done with
    | none => exact .sync ha (callForResponse_sends w ⟨.syncRndvSglCall, client, some _, _⟩ rsp e)
    | some d => exact .async ha d ⟨_, client, some _, _⟩

end

/-- A call sends its op info when it reaches the transport, and nothing else. -/
theorem submit_sends (op : ResponseOp) (w : World) (rsp : Addr) (done : Option OckRpcCallDone)
    (e : SubmitEnv) :
    op.SendsOnly rsp done e (op.opInfo w.gTimeoutTime).toList w (op.submit w rsp done e).1 := by
  cases op with
  | clientCall client msgId request => exact clientCall_sends client msgId request
  | callWithParam client msgId reqIov =>
    by_cases hs : (ResponseOp.callWithParam client msgId reqIov).Sends rsp done e
    · exact .inl ⟨hs, callWithParam_sends w _ e⟩
    · exact .inr ⟨hs, callWithParam_sends w _ e⟩
  | callRndv client msgId request => exact callRndv_sends client msgId request
  | callRndvIov client msgId request => exact callRndvIov_sends client msgId request

theorem sentOps_submit {op : ResponseOp} {rsp : Addr} {done : Option OckRpcCallDone} {e : SubmitEnv}
    (hs : op.Sends rsp done e) (w : World) :
    sentOps (w.since (op.submit w rsp done e).1) = (op.opInfo w.gTimeoutTime).toList := by
  rcases op.submit_sends w rsp done e with ⟨-, h⟩ | ⟨hns, -⟩
  · exact h.since
  · exact absurd hs hns

theorem sentOps_unsent {op : ResponseOp} {rsp : Addr} {done : Option OckRpcCallDone} {e : SubmitEnv}
    (hs : ¬ op.Sends rsp done e) (w : World) :
    sentOps (w.since (op.submit w rsp done e).1) = [] := by
  rcases op.submit_sends w rsp done e with ⟨hs', -⟩ | ⟨-, h⟩
  · exact absurd hs' hs
  · exact h.since

theorem keepsTimeout_iff (op : ResponseOp) (t : Int32) :
    (∀ info ∈ op.opInfo t, info.timeout.toInt = t.toInt) ↔ op.KeepsTimeout t := by
  cases op with
  | clientCall client msgId request => simpa [opInfo, KeepsTimeout] using toInt_toInt16_eq_iff t
  | callWithParam client msgId reqIov => simp [opInfo, KeepsTimeout]
  | callRndv client msgId request => simpa [opInfo, KeepsTimeout] using toInt_toInt16_eq_iff t
  | callRndvIov client msgId request =>
    simp only [opInfo, KeepsTimeout, Option.mem_some_iff, forall_eq']
    rw [← Int32.toInt_inj, eq_comm]
    rfl

end ResponseOp

/-- **The timeout of a call.** Every op info a call sends carries `g_timeoutTime`, if and only if the
call does not reach the transport or `g_timeoutTime` is a value its field can take over. -/
theorem call_timeout_iff (op : ResponseOp) (w : World) (rsp : Addr) (done : Option OckRpcCallDone)
    (e : SubmitEnv) :
    (∀ info ∈ sentOps (w.since (op.submit w rsp done e).1),
        info.timeout.toInt = w.gTimeoutTime.toInt) ↔
      ¬ op.Sends rsp done e ∨ op.KeepsTimeout w.gTimeoutTime := by
  by_cases hs : op.Sends rsp done e
  · rw [ResponseOp.sentOps_submit hs, ← op.keepsTimeout_iff]
    simp only [Option.mem_toList]
    exact (or_iff_right (not_not.mpr hs)).symm
  · rw [ResponseOp.sentOps_unsent hs]
    exact iff_of_true (fun _ h => by cases h) (.inl hs)

/-- Set to 40000 seconds, a call is sent with a negative timeout: it never times out. Set to 30 seconds, a
rendezvous call of one segment is sent with 0: it returns at once. -/
theorem call_timeout_lost :
    let w := ockRpcClientSetTimeout {} 9 40000000
    let w' := ockRpcClientSetTimeout {} 9 30000
    let call := ResponseOp.clientCall 9 5 (some ⟨64, 8⟩)
    let call' := ResponseOp.callRndvIov 9 5 (some ⟨1, some fun _ => ⟨64, 1, 8⟩⟩)
    sentOps (w.since (call.submit w 96 none {}).1) = [{ opCode := 5, timeout := -25536 }] ∧
      ¬ (∀ info ∈ sentOps (w.since (call.submit w 96 none {}).1),
        info.timeout.toInt = w.gTimeoutTime.toInt) ∧
      sentOps (w'.since (call'.submit w' 96 none {}).1) = [{ opCode := 5, timeout := 0 }] ∧
      ¬ (∀ info ∈ sentOps (w'.since (call'.submit w' 96 none {}).1),
        info.timeout.toInt = w'.gTimeoutTime.toInt) := by
  decide

end Hcom4db
