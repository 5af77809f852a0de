import Hcom4db.SglConserve

/-!
# Hcom4db.SyncConserve

The blocks of a synchronous scatter-gather call. The call frees the segments of its request after the
primitive has returned, whatever it returned, and the segments of a packed request are the blocks that
were taken.

* `syncSgl_post`: what the primitive leaves.
* `sync_blocks_conserved`: everything such a call does after packing.
-/

namespace Hcom4db

/-- How many blocks at `x` the pool has handed out and not got back. -/
def outstandingBlocks (evs : List Event) (x : Addr) : Int :=
  (taken evs).count x - (poolFreed evs).count x

section

variable {w wp : World} {client rsp : Addr} {req : ServiceSglRequest} {e : SubmitEnv}

/-- The primitive of a synchronous call. -/
def syncSglPost (client : Addr) (req : ServiceSglRequest) (rsp : Addr) : Post :=
  ⟨if rsp ≠ 0 then .syncCallRawSgl else .postSendRawSgl, client, none, .sgl req.segs⟩

/-- The primitive is called once, and the allocators are as they were, whatever it returns. -/
theorem syncSgl_post :
    (ockRpcCallSyncSgl w client req rsp e).1.trace =
        (syncSglPost client req rsp).event none e.ret :: w.trace ∧
      (ockRpcCallSyncSgl w client req rsp e).1.gMemoryAllocator = w.gMemoryAllocator := by
  unfold ockRpcCallSyncSgl syncSglPost
  by_cases hr : rsp ≠ 0
  · rw [if_pos hr, if_pos hr]
    unfold callForResponse
    by_cases hret : e.ret ≠ ockRpcOk
    · simp only [if_pos hret]
      exact ⟨rfl, rfl⟩
    · simp only [if_neg hret]
      exact ⟨rfl, rfl⟩
  · rw [if_neg hr, if_neg hr]
    exact ⟨rfl, rfl⟩

theorem callWithParam_sync {params : OckRpcClientCallParams} {msgs : List ReqMessage}
    (hd : params.done = none) (hmsgs : checkedMsgs w params = some msgs)
    (hpack : packReqInfo w params.client msgs params.msgId {} e.pack = (wp, ockRpcOk, req)) :
    (ockRpcClientCallWithParam w (some params) e).1 =
      memFreeList (ockRpcCallSyncSgl wp params.client req params.rspMsgs e).1 params.client
        (iovAddrs req req.iovCount.toNat) := by
  unfold ockRpcClientCallWithParam
  simp only [hmsgs, hpack, hd, ne_eq, not_true_eq_false, if_false]
  rfl

theorem poolFreed_frees (a : Addr) (xs : List Addr) :
    poolFreed (xs.map fun x => Event.poolFree a x) = xs := by
  induction xs with
  | nil => rfl
  | cons x xs ih =>
    rw [List.map_cons, poolFreed_cons, ih]
    rfl

theorem taken_frees (a : Addr) (xs : List Addr) :
    taken (xs.map fun x => Event.poolFree a x) = [] := by
  induction xs with
  | nil => rfl
  | cons x xs ih =>
    rw [List.map_cons, taken_cons, ih]
    rfl

/-- The events after the packing: the primitive, then one free for each block that was taken. -/
theorem trace_sync {params : OckRpcClientCallParams} {msgs : List ReqMessage}
    (hd : params.done = none) (hmsgs : checkedMsgs w params = some msgs)
    (hpack : packReqInfo w params.client msgs params.msgId {} e.pack = (wp, ockRpcOk, req)) :
    (ockRpcClientCallWithParam w (some params) e).1.trace =
      ((taken (w.since wp)).map fun x => Event.poolFree (w.allocatorOf params.client) x) ++
        (syncSglPost params.client req params.rspMsgs).event none e.ret :: wp.trace := by
  obtain ⟨hiov, -⟩ := packReqInfo_ok_blocks (checkedMsgs_len hmsgs) hpack
  have hframe := packReqInfo_frame w params.client msgs params.msgId {} e.pack
  rw [hpack] at hframe
  obtain ⟨htrace, hmap⟩ := @syncSgl_post wp params.client params.rspMsgs req e
  have hall : (ockRpcCallSyncSgl wp params.client req params.rspMsgs e).1.allocatorOf params.client =
      w.allocatorOf params.client := by
    rw [World.allocatorOf, hmap]
    exact hframe.allocatorOf
  rw [callWithParam_sync hd hmsgs hpack, memFreeList_trace, htrace, hiov, hall, ← List.map_reverse,
    List.reverse_reverse]

/-- **The blocks of a synchronous call are conserved**: after the primitive has returned, whatever it
returned, each block that packing took is freed once and nothing else is, so that the pool has as many
blocks outstanding at every address as before the call. -/
theorem sync_blocks_conserved {params : OckRpcClientCallParams} {msgs : List ReqMessage}
    (hd : params.done = none) (hmsgs : checkedMsgs w params = some msgs)
    (hpack : packReqInfo w params.client msgs params.msgId {} e.pack = (wp, ockRpcOk, req)) :
    let w' := (ockRpcClientCallWithParam w (some params) e).1
    wp.since w' =
      ((taken (w.since wp)).map fun x => Event.poolFree (w.allocatorOf params.client) x) ++
        [(syncSglPost params.client req params.rspMsgs).event none e.ret] ∧
    taken (w.since w') = taken (w.since wp) ∧ poolFreed (w.since w') = taken (w.since wp) ∧
    ∀ x, outstandingBlocks w'.trace x = outstandingBlocks w.trace x := by
  intro w'
  obtain ⟨-, hfreed⟩ := packReqInfo_ok_blocks (checkedMsgs_len hmsgs) hpack
  have hframe := packReqInfo_frame w params.client msgs params.msgId {} e.pack
  rw [hpack] at hframe
  have hcall : w'.trace = (((taken (w.since wp)).map fun x =>
      Event.poolFree (w.allocatorOf params.client) x) ++
        [(syncSglPost params.client req params.rspMsgs).event none e.ret]) ++ wp.trace := by
    rw [List.append_assoc, List.singleton_append]
    exact trace_sync hd hmsgs hpack
  have hsince := World.since_of_trace hcall
  have hall := World.since_append hframe.trace_eq (hsince.symm ▸ hcall)
  have htaken : taken (w.since w') = taken (w.since wp) := by
    rw [hall, hsince, taken_append, taken_append, taken_frees]
    rfl
  have hgave : poolFreed (w.since w') = taken (w.since wp) := by
    rw [hall, hsince, poolFreed_append, poolFreed_append, poolFreed_frees, hfreed]
    simp [Post.event]
  refine ⟨hsince, htaken, hgave, ?_⟩
  intro x
  have htrace : w'.trace = w.since w' ++ w.trace := by
    rw [hall, hsince, List.append_assoc, ← hframe.trace_eq, hcall]
  rw [outstandingBlocks, outstandingBlocks, htrace, taken_append, poolFreed_append, htaken, hgave,
    List.count_append, List.count_append]
  omega

end

/-- The transport refuses the call: its two blocks are freed all the same. -/
theorem sync_blocks_refused :
    let params := { oneMessageCall with done := none }
    let e : SubmitEnv := { ret := 3, pack := PackEnv.firstBlocks 4 }
    let w' := (ockRpcClientCallWithParam eightByteSegs (some params) e).1
    poolFreed (eightByteSegs.since w') = [200, 100] ∧
      ∀ x, outstandingBlocks w'.trace x = outstandingBlocks eightByteSegs.trace x := by
  have h := @sync_blocks_conserved eightByteSegs _ _ { ret := 3, pack := PackEnv.firstBlocks 4 }
    { oneMessageCall with done := none } [⟨some fun _ => 3, 4⟩] rfl rfl rfl
  exact ⟨h.2.2.1.trans rfl, h.2.2.2⟩

end Hcom4db
