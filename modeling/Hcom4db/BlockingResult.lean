import Hcom4db.Submit

/-!
# Hcom4db.BlockingResult

What the status of an operation without a `done` is worth.

A primitive that gets no callback blocks and returns the result. Calls and one-sided operations use one
when they have no `done`; a reply always passes `ResponseCallBack`, so it returns as soon as the transport
has taken it.

* `AsyncOp.post`: the request an operation has to pass on.
* `blocking_posts`: an operation that is no reply blocks in the primitive for its own request.
* `reply_since`: what a reply without `done` that was taken leaves in the trace.
* `blocking_result_iff`: when `OCK_RPC_OK` means that the operation has succeeded.
-/

namespace Hcom4db

/-- What a call without a `done` asks the transport for: the blocking primitive, the channel, and the request
the caller has passed. -/
def ResponseOp.post (op : ResponseOp) (w : World) (rsp : Addr) (e : SubmitEnv) : Option Post :=
  match op with
  | .clientCall client msgId request => request.map fun r =>
    ⟨if rsp ≠ 0 then .syncCall else .postSend, client,
      some { opCode := msgId, timeout := w.gTimeoutTime.toInt16 }, .message ⟨r.data, r.len.toUInt32⟩⟩
  | .callWithParam client msgId reqIov =>
    (checkedMsgs w ⟨client, msgId, reqIov, rsp, none⟩).map fun msgs =>
      ⟨if rsp ≠ 0 then .syncCallRawSgl else .postSendRawSgl, client, none,
        .sgl (packReqInfo w client msgs msgId {} e.pack).2.2.segs⟩
  | .callRndv client msgId request => request.map fun r =>
    ⟨.syncRndvCall, client, some { opCode := msgId, timeout := w.gTimeoutTime.toInt16 },
      .request { lAddress := r.lAddress, lKey := r.lKey, size := r.size }⟩
  | .callRndvIov client msgId request => (ockRpcRndvIovCheckParams request rsp).map fun segs =>
    ⟨.syncRndvSglCall, client, some { opCode := msgId }, .sgl segs⟩

/-- What an operation without a `done` asks the transport for. -/
def AsyncOp.post (op : AsyncOp) (w : World) (e : SubmitEnv) : Option Post :=
  match op with
  | .call op rsp => op.post w rsp e
  | .read client req => req.map fun r => ⟨.read, client, none, .request r⟩
  | .readSgl client req => some ⟨.readSgl, client, none, .sglPtr req⟩
  | .write client req => req.map fun r => ⟨.write, client, none, .request r⟩
  | .writeSgl client req => some ⟨.writeSgl, client, none, .sglPtr req⟩
  | .serverReply reply => reply.bind fun r => e.ctx.map fun c =>
    let req := .response c.rspCtx ⟨r.data, r.len.toUInt32⟩
    if c.ctxType = .receivedRaw then ⟨.postResponseRaw, c.channel, none, req⟩
    else ⟨.postResponse, c.channel, some {}, req⟩
  | .serverReplyRndv ctx reply => reply.map fun r =>
    ⟨.rndvReply, ctx, some {}, .message ⟨r.data, r.len.toUInt32⟩⟩

/-- The operation has ended with a success: its request was passed to a primitive without a callback, which has
returned 0; or it was passed with the callback of the operation, the primitive has returned 0, and the completion
was there before it returned and reported 0. -/
def EndedOk (op : AsyncOp) (w w' : World) (e : SubmitEnv) : Prop :=
  ∃ p ∈ op.post w e, p.event none ockRpcOk ∈ w.since w' ∨
    (p.event (some ⟨op.callback, e.malloc⟩) ockRpcOk ∈ w.since w' ∧
      ∃ c, e.early = some c ∧ c.getResultRet = ockRpcOk ∧ c.result = some ockRpcOk)

/-- The checks of a reply and the queries of the request it answers. -/
def AsyncOp.ReplyChecked (op : AsyncOp) (e : SubmitEnv) : Prop :=
  match op with
  | .serverReply reply => (∃ r, reply = some r ∧ r.len.toNat ≤ uint32Max) ∧ e.ctx.isSome
  | .serverReplyRndv _ reply => ∃ r, reply = some r ∧ r.len.toNat ≤ uint32Max
  | _ => True

/-- The transport takes the reply. -/
def AsyncOp.ReplyTaken (op : AsyncOp) (e : SubmitEnv) : Prop :=
  op.ReplyChecked e ∧ e.malloc ≠ 0 ∧ e.ret = 0

section

variable {w : World} {op : AsyncOp} {done : Option OckRpcCallDone} {e : SubmitEnv}

/-- A reply fails its checks, or it hands its record to the primitive. -/
theorem submit_reply (hr : op.isReply = true) :
    (¬ op.ReplyChecked e ∧ (op.submit w done e).2 ≠ ockRpcOk) ∨
    (op.ReplyChecked e ∧ ∃ p ∈ op.post w e, op.submit w done e =
      orErr (submitAsync w e (replyInfo done) .responseCallBack p)) := by
  cases op with
  | serverReply reply =>
    simp only [AsyncOp.submit, ockRpcServerReply, AsyncOp.ReplyChecked]
    cases reply with
    | none => exact .inl ⟨by simp, ockRpcErrInvalidParam_ne_ok⟩
    | some r =>
      by_cases hlen : uint32Max < r.len.toNat
      · refine .inl ⟨?_, by simp only [if_pos hlen]; exact ockRpcErrInvalidParam_ne_ok⟩
        rintro ⟨⟨r', ⟨⟩, h⟩, -⟩
        omega
      · simp only [if_neg hlen]
        cases hctx : e.ctx with
        | none => exact .inl ⟨by simp, ockRpcErr_ne_ok⟩
        | some ctx =>
          refine .inr ⟨⟨⟨r, rfl, by omega⟩, rfl⟩, ?_⟩
          exact ⟨_, by simp [AsyncOp.post, hctx], rfl⟩
  | serverReplyRndv ctx reply =>
    simp only [AsyncOp.submit, ockRpcServerReplyRndv, AsyncOp.ReplyChecked]
    cases reply with
    | none => exact .inl ⟨by simp, ockRpcErrInvalidParam_ne_ok⟩
    | some r =>
      by_cases hlen : uint32Max < r.len.toNat
      · refine .inl ⟨?_, by simp only [if_pos hlen]; exact ockRpcErrInvalidParam_ne_ok⟩
        rintro ⟨r', ⟨⟩, h⟩
        omega
      · simp only [if_neg hlen]
        exact .inr ⟨⟨r, rfl, by omega⟩, _, rfl, rfl⟩
  | _ => cases hr

theorem orErr_snd_iff (r : World × Int) : (orErr r).2 = ockRpcOk ↔ r.2 = ockRpcOk := by
  obtain ⟨w, st⟩ := r
  simp only [orErr]
  by_cases h : st = ockRpcOk
  · rw [if_neg (not_not.mpr h)]
    exact iff_of_true rfl h
  · rw [if_pos h]
    exact iff_of_false ockRpcErr_ne_ok h

theorem submitAsync_snd_iff {info : AsyncCbInfo} {cb : ChannelCallbackFunc} {p : Post} :
    (submitAsync w e info cb p).2 = ockRpcOk ↔ e.malloc ≠ 0 ∧ e.ret = 0 := by
  unfold submitAsync
  by_cases hm : e.malloc = 0
  · rw [if_pos hm]
    exact iff_of_false ockRpcErr_ne_ok fun h => h.1 hm
  · rw [if_neg hm]
    simp only
    by_cases hret : e.ret = ockRpcOk
    · rw [if_neg (not_not.mpr hret)]
      exact iff_of_true rfl ⟨hm, hret⟩
    · rw [if_pos hret]
      exact iff_of_false hret fun h => hret h.2

/-- A reply without `done` that was taken: the primitive has got a callback, and the callback calls
nobody. -/
theorem reply_since {p : Post} (hm : e.malloc ≠ 0) (hret : e.ret = 0) :
    w.since (submitAsync w e (replyInfo none) .responseCallBack p).1 =
      (if e.early.isSome then [.stdFree e.malloc] else []) ++
        [p.event (some ⟨.responseCallBack, e.malloc⟩) ockRpcOk, .malloc e.malloc] := by
  refine World.since_of_trace ?_
  have hret' : ¬ e.ret ≠ ockRpcOk := not_not.mpr hret
  simp only [submitAsync, World.postAsync, if_neg hm, if_neg hret', World.handOver]
  cases e.early with
  | none => simp [hret, ockRpcOk]
  | some c => simp [runCallback, responseCallBack, replyInfo, hret, ockRpcOk]

/-! ### Operations that block -/

/-- A primitive without a callback was called, and its result decides. -/
structure Blocks (w : World) (p : Post) (e : SubmitEnv) (r : World × Int) : Prop where
  trace : r.1.trace = [p.event none e.ret] ++ w.trace
  result : r.2 = ockRpcOk → e.ret = ockRpcOk

namespace Blocks

variable {p : Post} {r : World × Int}

theorem orErr (h : Blocks w p e r) : Blocks w p e (Hcom4db.orErr r) :=
  ⟨h.trace, fun hok => h.result ((orErr_snd_iff r).mp hok)⟩

theorem mem (h : Blocks w p e r) (hok : r.2 = ockRpcOk) : p.event none ockRpcOk ∈ w.since r.1 := by
  rw [World.since_of_trace h.trace, h.result hok]
  exact List.mem_singleton_self _

theorem callForResponse (w : World) (p : Post) (response : Addr) (e : SubmitEnv) :
    Blocks w p e (Hcom4db.callForResponse w p response e) := by
  unfold Hcom4db.callForResponse
  by_cases hret : e.ret = ockRpcOk
  · simp only [if_neg (not_not.mpr hret)]
    exact ⟨rfl, fun _ => hret⟩
  · simp only [if_pos hret]
    exact ⟨rfl, fun h => absurd h ockRpcErr_ne_ok⟩

theorem callNoResponse (w : World) (p : Post) (e : SubmitEnv) :
    Blocks w p e (Hcom4db.callNoResponse w p e) := by
  refine ⟨rfl, fun h => ?_⟩
  by_contra hret
  rw [Hcom4db.callNoResponse, if_pos hret] at h
  exact ockRpcErr_ne_ok h

/-- A synchronous call uses the primitive its response asks for. -/
theorem ofResponse {prim prim' : Primitive} {chan response : Addr} {info : Option ServiceOpInfo} {req : Payload} :
    Blocks w ⟨if response ≠ 0 then prim else prim', chan, info, req⟩ e
      (if response ≠ 0 then Hcom4db.callForResponse w ⟨prim, chan, info, req⟩ response e
        else Hcom4db.callNoResponse w ⟨prim', chan, info, req⟩ e) := by
  by_cases h : response = 0
  · rw [if_neg (not_not.mpr h), if_neg (not_not.mpr h)]
    exact callNoResponse w _ e
  · rw [if_pos h, if_pos h]
    exact callForResponse w _ response e

end Blocks

/-- The request of a scatter-gather call stays in the trace while its blocks are freed. -/
theorem callWithParam_posts {params : OckRpcClientCallParams} (hd : params.done = none)
    (hok : (ockRpcClientCallWithParam w (some params) e).2 = ockRpcOk) :
    ∃ msgs, checkedMsgs w params = some msgs ∧
      Post.event ⟨if params.rspMsgs ≠ 0 then .syncCallRawSgl else .postSendRawSgl, params.client, none,
        .sgl (packReqInfo w params.client msgs params.msgId {} e.pack).2.2.segs⟩ none ockRpcOk ∈
        w.since (ockRpcClientCallWithParam w (some params) e).1 := by
  unfold ockRpcClientCallWithParam at hok ⊢
  simp only at hok ⊢
  cases hm : checkedMsgs w params with
  | none =>
    simp only [hm] at hok
    cases hok
  | some msgs =>
    refine ⟨msgs, rfl, ?_⟩
    simp only [hm, hd] at hok ⊢
    have hpack := packReqInfo_frame w params.client msgs params.msgId {} e.pack
    rcases hp : packReqInfo w params.client msgs params.msgId {} e.pack with ⟨wp, st, req⟩
    rw [hp] at hpack
    simp only [hp] at hok hpack ⊢
    by_cases hst : st = ockRpcOk
    · rw [if_neg (not_not.mpr hst)] at hok ⊢
      have B : Blocks wp ⟨if params.rspMsgs ≠ 0 then .syncCallRawSgl else .postSendRawSgl, params.client, none,
          .sgl req.segs⟩ e (ockRpcCallSyncSgl wp params.client req params.rspMsgs e) := Blocks.ofResponse
      have hfree := memFreeList_frame params.client (iovAddrs req req.iovCount.toNat)
        (ockRpcCallSyncSgl wp params.client req params.rspMsgs e).1
      have hmem := B.mem ((orErr_snd_iff _).mp hok)
      have htrace : (ockRpcCallSyncSgl wp params.client req params.rspMsgs e).1.trace =
          (wp.since (ockRpcCallSyncSgl wp params.client req params.rspMsgs e).1 ++ w.since wp) ++ w.trace := by
        rw [World.since_of_trace B.trace, List.append_assoc, ← hpack.trace_eq]
        exact B.trace
      rw [orErr, World.since_append htrace hfree.trace_eq]
      exact List.mem_append_right _ (List.mem_append_left _ hmem)
    · rw [if_pos hst] at hok
      cases hok

/-- An operation without a `done` that is no reply blocks in its own request. -/
theorem blocking_posts {op : AsyncOp} (hr : op.isReply = false) (hok : (op.submit w none e).2 = ockRpcOk) :
    ∃ p ∈ op.post w e, p.event none ockRpcOk ∈ w.since (op.submit w none e).1 := by
  have honeSided : ∀ {p : Post}, (oneSided w p none e).2 = ockRpcOk →
      p.event none ockRpcOk ∈ w.since (oneSided w p none e).1 := fun {p} h =>
    Blocks.mem ⟨rfl, fun h => h⟩ h
  cases op with
  | call op rsp =>
    cases op with
    | clientCall client msgId request =>
      simp only [AsyncOp.submit, ResponseOp.submit, ockRpcClientCall] at hok ⊢
      cases request with
      | none => cases hok
      | some r =>
        by_cases hlen : uint32Max < r.len.toNat
        · simp only [if_pos hlen] at hok
          cases hok
        · simp only [if_neg hlen] at hok ⊢
          exact ⟨_, rfl, Blocks.ofResponse.orErr.mem hok⟩
    | callWithParam client msgId reqIov =>
      obtain ⟨msgs, hmsgs, hmem⟩ := callWithParam_posts rfl hok
      exact ⟨_, by rw [AsyncOp.post, ResponseOp.post, hmsgs]; rfl, hmem⟩
    | callRndv client msgId request =>
      simp only [AsyncOp.submit, ResponseOp.submit, ockRpcClientCallRndv] at hok ⊢
      cases request with
      | none => cases hok
      | some r =>
        by_cases hrsp : rsp = 0
        · simp only [if_pos hrsp] at hok
          cases hok
        · simp only [if_neg hrsp] at hok ⊢
          exact ⟨_, rfl, (Blocks.callForResponse w _ rsp e).orErr.mem hok⟩
    | callRndvIov client msgId request =>
      simp only [AsyncOp.submit, ResponseOp.submit, ockRpcClientCallRndvIov] at hok ⊢
      cases hc : ockRpcRndvIovCheckParams request rsp with
      | none =>
        rw [hc] at hok
        cases hok
      | some segs =>
        rw [hc] at hok
        simp only [AsyncOp.post, ResponseOp.post, hc]
        exact ⟨_, rfl, (Blocks.callForResponse w _ rsp e).orErr.mem hok⟩
  | read client req =>
    cases req with
    | none => cases hok
    | some r => exact ⟨_, rfl, honeSided hok⟩
  | readSgl client req => exact ⟨_, rfl, honeSided hok⟩
  | write client req =>
    cases req with
    | none => cases hok
    | some r => exact ⟨_, rfl, honeSided hok⟩
  | writeSgl client req => exact ⟨_, rfl, honeSided hok⟩
  | serverReply reply => cases hr
  | serverReplyRndv ctx reply => cases hr

/-- **`OCK_RPC_OK` without a `done`** means that the operation has succeeded, but for a reply: one that is
taken returns it whether or not its completion has been there. -/
theorem blocking_result_iff (op : AsyncOp) (w : World) (e : SubmitEnv) :
    ((op.submit w none e).2 = ockRpcOk → EndedOk op w (op.submit w none e).1 e) ↔
      (op.isReply = true → op.ReplyTaken e →
        ∃ c, e.early = some c ∧ c.getResultRet = ockRpcOk ∧ c.result = some ockRpcOk) := by
  cases hr : op.isReply with
  | false =>
    refine iff_of_true (fun hok => ?_) fun h => nomatch h
    obtain ⟨p, hp, hmem⟩ := blocking_posts hr hok
    exact ⟨p, hp, .inl hmem⟩
  | true =>
    have hcb : op.callback = .responseCallBack := by rw [AsyncOp.callback, if_pos hr]
    rcases @submit_reply w op none e hr with ⟨hno, hne⟩ | ⟨hchk, p, hpost, hs⟩
    · exact iff_of_true (fun hok => absurd hok hne) fun _ htaken => absurd htaken.1 hno
    · rw [hs, orErr_snd_iff, submitAsync_snd_iff]
      refine Iff.trans (imp_congr_right fun hacc => ?_)
        (forall_prop_of_true rfl |>.trans (imp_congr_left (and_iff_right hchk))).symm
      have hsince := @reply_since w e p hacc.1 hacc.2
      rw [EndedOk, orErr, hsince, hcb]
      constructor
      · rintro ⟨p', -, hp' | ⟨-, c, hc⟩⟩
        · -- no primitive was called without a callback
          rcases List.mem_append.mp hp' with h | h
          · split at h
            · cases List.mem_singleton.mp h
            · cases h
          · simp [Post.event] at h
        · exact ⟨c, hc⟩
      · rintro ⟨c, hc⟩
        exact ⟨p, hpost, .inr ⟨List.mem_append_right _ List.mem_cons_self, c, hc⟩⟩

end

/-- A reply without `done` has returned `OCK_RPC_OK`, and its completion is still owed. -/
theorem reply_returns_early : ∃ w' : World, ockRpcServerReply {} (some ⟨600, 3⟩) none
      { malloc := 900, ctx := some ⟨7, 8, .received⟩ } = (w', ockRpcOk) ∧
    w'.inflight = [⟨.responseCallBack, 900⟩] ∧
    ¬ EndedOk (.serverReply (some ⟨600, 3⟩)) {} w' { malloc := 900, ctx := some ⟨7, 8, .received⟩ } := by
  refine ⟨_, rfl, rfl, ?_⟩
  rintro ⟨p, -, hp | ⟨-, c, h, -⟩⟩
  · rw [World.since_of_trace (show _ = [Event.transport .postResponse 7 (some {})
      (.response 8 ⟨600, 3⟩) (some ⟨.responseCallBack, 900⟩) 0, .malloc 900] ++ [] from rfl)] at hp
    simp [Post.event] at hp
  · cases h

end Hcom4db
