import Hcom4db.AsyncResponse
import Hcom4db.Base.Ledger
import Hcom4db.PackBlocks

/-!
# Hcom4db.SglConserve

The blocks of an asynchronous scatter-gather call, from a packing that succeeded to the completion.

The blocks and the array of their addresses belong to the call until the transport accepts it and to
the completion after that. Of the exits, only a two-sided completion whose queries succeed frees both.

* `sglEvents`: everything a call does after packing, its one completion included.
* `sgl_blocks_conserved_iff`: the exits on which the blocks and the array are freed once.
-/

namespace Hcom4db

open FlatMem Ledger

section

variable {w wc : World} {client rsp : Addr} {req : ServiceSglRequest} {done : OckRpcCallDone}
  {e : SubmitEnv} {c : Completion}

/-- The state in which the transport gets the call. -/
def sglHandedOver (w : World) (client : Addr) (req : ServiceSglRequest) (rsp : Addr)
    (done : OckRpcCallDone) (e : SubmitEnv) : World :=
  (sglRecorded w client req rsp done e).emit
    ((sglPost client req rsp).event (some ⟨.ockRpcCallbackFunc, e.malloc⟩) e.ret)

/-- The transport accepts the call, so it owes one completion. -/
def SglAccepted (e : SubmitEnv) : Prop := e.malloc ≠ 0 ∧ e.mallocReqAddr ≠ 0 ∧ e.ret = 0

instance (e : SubmitEnv) : Decidable (SglAccepted e) := inferInstanceAs (Decidable (_ ∧ _))

/-- What happens after packing: `r` is how the call ends, `w1` the state in which it was handed over,
`wc` the one in which its completion runs. -/
def sglEvents (wp w1 wc : World) (r : World × OckRpcStatus) (e : SubmitEnv) (c : Completion) :
    List Event :=
  if r.2 = ockRpcOk then wc.since (ockRpcCallbackFunc wc e.malloc c) ++ wp.since w1
  else wp.since r.1

theorem sgl_accepted (h : SglAccepted e) :
    ockRpcCallAsyncSgl w client req rsp done e =
      ((sglHandedOver w client req rsp done e).handOver ⟨.ockRpcCallbackFunc, e.malloc⟩ e,
        ockRpcOk) := by
  obtain ⟨hm, hq, hret⟩ := h
  unfold ockRpcCallAsyncSgl
  rw [if_neg hm, if_neg hq]
  simp only [World.postAsync, hret, ne_eq, not_true_eq_false, if_false]
  rw [sglHandedOver, hret]

/-- A call that is not accepted fails and frees no block; the array is freed if there is one. -/
theorem sgl_refused (h : ¬ SglAccepted e) :
    (ockRpcCallAsyncSgl w client req rsp done e).2 = ockRpcErr ∧
      poolFreed (w.since (ockRpcCallAsyncSgl w client req rsp done e).1) = [] := by
  unfold ockRpcCallAsyncSgl
  split
  · exact ⟨rfl, by rw [World.since_self]; rfl⟩
  · rename_i hm
    split
    · refine ⟨rfl, ?_⟩
      rw [World.since_of_trace (show _ = [.stdFree e.malloc, .malloc e.malloc] ++ w.trace from rfl)]
      rfl
    · rename_i hq
      have hret : e.ret ≠ 0 := fun hret => h ⟨hm, hq, hret⟩
      simp only [World.postAsync, if_pos hret]
      refine ⟨trivial, ?_⟩
      rw [World.since_of_trace (show _ = [.stdFree e.malloc, .stdFree e.mallocReqAddr,
        (sglPost client req rsp).event (some ⟨.ockRpcCallbackFunc, e.malloc⟩) e.ret,
        .malloc e.mallocReqAddr, .malloc e.malloc] ++ w.trace from rfl)]
      rfl

theorem since_sglHandedOver :
    w.since (sglHandedOver w client req rsp done e) =
      [(sglPost client req rsp).event (some ⟨.ockRpcCallbackFunc, e.malloc⟩) e.ret,
        .malloc e.mallocReqAddr, .malloc e.malloc] :=
  World.since_of_trace rfl

/-- The completion of a call whose record and array are as they were handed over. -/
theorem sgl_completion (hpq : e.malloc ≠ e.mallocReqAddr) (hq : e.mallocReqAddr ≠ 0)
    (hrec : wc.cbInfos e.malloc = (sglHandedOver w client req rsp done e).cbInfos e.malloc)
    (harr : wc.reqAddrs e.mallocReqAddr =
      (sglHandedOver w client req rsp done e).reqAddrs e.mallocReqAddr)
    (hok : c.QueriesOk) (ht : c.ctxType ≠ some .oneSide) :
    poolFreed (wc.since (ockRpcCallbackFunc wc e.malloc c)) =
        (iovAddrs req req.iovCount.toNat).reverse ∧
      stdFreed (wc.since (ockRpcCallbackFunc wc e.malloc c)) = [e.mallocReqAddr, e.malloc] := by
  have hrec' : wc.cbInfos e.malloc = some (sglInfo client req rsp done e.mallocReqAddr) :=
    hrec.trans (Function.update_self _ _ _)
  have harr' : (wc.stdFree e.malloc).reqAddrs e.mallocReqAddr =
      some (iovAddrs req req.iovCount.toNat) := by
    rw [stdFree_reqAddrs, if_neg (Ne.symm hpq), harr]
    exact Function.update_self _ _ _
  have hrel : releaseRequest (wc.stdFree e.malloc) (sglInfo client req rsp done e.mallocReqAddr) = _ :=
    releaseRequest_of_blocks hq rfl rfl rfl harr'
  have hlen : (iovAddrs req req.iovCount.toNat).length = req.iovCount.toNat := by simp [iovAddrs]
  rw [List.take_of_length_le hlen.le] at hrel
  rw [callback_twoSided hok ht hrec' hrel rfl]
  obtain ⟨mem, slots, evs, h, -, hpf, hsf, -⟩ := respond_rest
    ((memFreeList (wc.stdFree e.malloc) client (iovAddrs req req.iovCount.toNat)).stdFree
      e.mallocReqAddr) (sglInfo client req rsp done e.mallocReqAddr) rsp c
  have hfr := (memFreeList_frame client (iovAddrs req req.iovCount.toNat) (wc.stdFree e.malloc))
  have htr : (respond ((memFreeList (wc.stdFree e.malloc) client
      (iovAddrs req req.iovCount.toNat)).stdFree e.mallocReqAddr)
      (sglInfo client req rsp done e.mallocReqAddr) rsp c).trace =
      (notifyEvents (sglInfo client req rsp done e.mallocReqAddr) c ++ (evs ++
        .stdFree e.mallocReqAddr :: ((wc.stdFree e.malloc).since (memFreeList (wc.stdFree e.malloc)
          client (iovAddrs req req.iovCount.toNat)) ++ [.stdFree e.malloc]))) ++ wc.trace := by
    rw [h]
    simp only [stdFree_trace, hfr.trace_eq]
    simp
  have hn : poolFreed (notifyEvents (sglInfo client req rsp done e.mallocReqAddr) c) = [] ∧
      stdFreed (notifyEvents (sglInfo client req rsp done e.mallocReqAddr) c) = [] := by
    unfold notifyEvents
    split <;> exact ⟨rfl, rfl⟩
  have hs : stdFreed ((wc.stdFree e.malloc).since (memFreeList (wc.stdFree e.malloc)
      client (iovAddrs req req.iovCount.toNat))) = [] :=
    filterMap_since_memFreeList (fun _ _ => rfl) _ _ _
  rw [World.since_of_trace htr]
  constructor
  · simp only [poolFreed_append, poolFreed_cons, hn.1, hpf, poolFreed_since_memFreeList]
    simp
  · simp only [stdFreed_append, stdFreed_cons, hn.2, hsf, hs]
    simp

/-- The completion on the other branches: the record is all it frees. -/
theorem sgl_completion_early {info : AsyncCbInfo} (hi : wc.cbInfos e.malloc = some info)
    (h : ¬ (c.QueriesOk ∧ c.ctxType ≠ some .oneSide)) :
    poolFreed (wc.since (ockRpcCallbackFunc wc e.malloc c)) = [] := by
  by_cases hok : c.QueriesOk
  · have ht : c.ctxType = some .oneSide := by
      by_contra ht
      exact h ⟨hok, ht⟩
    rw [since_callback_oneSide hok ht hi]
    rfl
  · rw [since_callback_failed hok]
    rfl

end

/-- Every block is given back once and nothing else is, and the array, if it was allocated, is freed
once. -/
structure BlocksConserved (bs : List Addr) (e : SubmitEnv) (evs : List Event) : Prop where
  blocks : Balanced bs (poolFreed evs)
  array : e.malloc ≠ 0 → e.mallocReqAddr ≠ 0 → (stdFreed evs).count e.mallocReqAddr = 1

theorem callWithParam_packed {w wp : World} {params : OckRpcClientCallParams}
    {msgs : List ReqMessage} {req : ServiceSglRequest} {done : OckRpcCallDone} {e : SubmitEnv}
    (hd : params.done = some done) (hmsgs : checkedMsgs w params = some msgs)
    (hpack : packReqInfo w params.client msgs params.msgId {} e.pack = (wp, ockRpcOk, req)) :
    ockRpcClientCallWithParam w (some params) e =
      orErr (ockRpcCallAsyncSgl wp params.client req params.rspMsgs done e) := by
  unfold ockRpcClientCallWithParam
  simp only [hmsgs, hpack, hd, ne_eq, not_true_eq_false, if_false]

theorem checkedMsgs_len {w : World} {params : OckRpcClientCallParams} {msgs : List ReqMessage}
    (h : checkedMsgs w params = some msgs) :
    ∀ m ∈ msgs, m.len.toNat ≤ w.gOptions.mrSendReceiveSegSize.toNat := by
  unfold checkedMsgs at h
  split at h
  · cases h
  · simp only at h
    split at h
    · cases h
    · split at h
      · cases h
      · rename_i hlen
        cases h
        intro m hm
        by_contra hlt
        exact hlen ⟨m, hm, by omega⟩

/-- **The blocks of a call are conserved** exactly when the transport accepts it and its completion is
two-sided with both queries answered. `wp` is the state after the packing, `wc` any state in which the
record and the array are as they were handed over. -/
theorem sgl_blocks_conserved_iff {w wp wc : World} {params : OckRpcClientCallParams}
    {msgs : List ReqMessage} {req : ServiceSglRequest} {done : OckRpcCallDone} {e : SubmitEnv}
    {c : Completion} (hfresh : e.pack.Fresh) (hpq : e.malloc ≠ e.mallocReqAddr)
    (hd : params.done = some done) (hmsgs : checkedMsgs w params = some msgs)
    (hpack : packReqInfo w params.client msgs params.msgId {} e.pack = (wp, ockRpcOk, req))
    (hrec : wc.cbInfos e.malloc =
      (sglHandedOver wp params.client req params.rspMsgs done e).cbInfos e.malloc)
    (harr : wc.reqAddrs e.mallocReqAddr =
      (sglHandedOver wp params.client req params.rspMsgs done e).reqAddrs e.mallocReqAddr) :
    BlocksConserved (iovAddrs req req.iovCount.toNat) e
        (sglEvents wp (sglHandedOver wp params.client req params.rspMsgs done e) wc
          (ockRpcClientCallWithParam w (some params) e) e c) ↔
      SglAccepted e ∧ c.QueriesOk ∧ c.ctxType ≠ some .oneSide := by
  have hlen := checkedMsgs_len hmsgs
  obtain ⟨hcount, -, -⟩ := packReqInfo_ok hlen hpack
  obtain ⟨hiov, -⟩ := packReqInfo_ok_blocks hlen hpack
  have hnodup : (iovAddrs req req.iovCount.toNat).Nodup := by
    rw [hiov]
    exact (packReqInfo_taken hpack).nodup hfresh
  have hne : iovAddrs req req.iovCount.toNat ≠ [] := by
    intro h0
    have h1 := congrArg List.length h0
    simp only [iovAddrs, List.length_map, List.length_range, List.length_nil] at h1
    omega
  -- a run that frees no block does not conserve
  have hnone : ∀ evs, poolFreed evs = [] →
      ¬ BlocksConserved (iovAddrs req req.iovCount.toNat) e evs := by
    intro evs h0 H
    have := (balanced_iff_perm hnodup).mp H.blocks
    rw [h0] at this
    exact hne this.nil_eq.symm
  rw [callWithParam_packed hd hmsgs hpack]
  by_cases ha : SglAccepted e
  · have hev : sglEvents wp (sglHandedOver wp params.client req params.rspMsgs done e) wc
        (orErr (ockRpcCallAsyncSgl wp params.client req params.rspMsgs done e)) e c =
        wc.since (ockRpcCallbackFunc wc e.malloc c) ++
          wp.since (sglHandedOver wp params.client req params.rspMsgs done e) := by
      rw [sgl_accepted ha]
      rfl
    rw [hev, since_sglHandedOver]
    by_cases hc : c.QueriesOk ∧ c.ctxType ≠ some .oneSide
    · obtain ⟨hpf, hsf⟩ := sgl_completion hpq ha.2.1 hrec harr hc.1 hc.2
      refine ⟨fun _ => ⟨ha, hc⟩, fun _ => ⟨?_, fun _ _ => ?_⟩⟩
      · rw [poolFreed_append, hpf]
        refine (balanced_iff_perm hnodup).mpr ?_
        simp only [Post.event, poolFreed_cons, poolFreed_nil, Event.poolFreed?, Option.toList_none,
          List.append_nil]
        exact List.reverse_perm _
      · rw [stdFreed_append, hsf]
        simp [Post.event, hpq]
    · refine ⟨fun H => absurd H (hnone _ ?_), fun H => absurd H.2 hc⟩
      rw [poolFreed_append, sgl_completion_early (hrec.trans (Function.update_self _ _ _)) hc]
      rfl
  · obtain ⟨hst, hpf⟩ := @sgl_refused wp params.client params.rspMsgs req done e ha
    refine ⟨fun H => absurd H (hnone _ ?_), fun H => absurd H.1 ha⟩
    rw [sglEvents, orErr, if_neg]
    · exact hpf
    · simp only [hst, if_pos ockRpcErr_ne_ok]
      exact ockRpcErr_ne_ok

/-- The parameters of a call with one message. -/
def oneMessageCall : OckRpcClientCallParams :=
  ⟨1, 5, ⟨1, some fun _ => ⟨some fun _ => 3, 4⟩⟩, 0, some ⟨11, 12⟩⟩

def eightByteSegs : World := { gOptions := { mrSendReceiveSegSize := 8 } }

/-- The call is accepted and its completion is an ordinary one. -/
theorem sgl_blocks_conserved_one : ∃ (wp wc : World) (req : ServiceSglRequest) (e : SubmitEnv),
    packReqInfo eightByteSegs 1 [⟨some fun _ => 3, 4⟩] 5 {} e.pack = (wp, ockRpcOk, req) ∧
      BlocksConserved (iovAddrs req req.iovCount.toNat) e
        (sglEvents wp (sglHandedOver wp 1 req 0 ⟨11, 12⟩ e) wc
          (ockRpcClientCallWithParam eightByteSegs (some oneMessageCall) e) e
          { ctxType := some .sentRaw }) :=
  ⟨_, _, _, { malloc := 900, mallocReqAddr := 950, pack := PackEnv.firstBlocks 4 }, rfl,
    (@sgl_blocks_conserved_iff eightByteSegs _ _ oneMessageCall [⟨some fun _ => 3, 4⟩] _ ⟨11, 12⟩
      { malloc := 900, mallocReqAddr := 950, pack := PackEnv.firstBlocks 4 }
      { ctxType := some .sentRaw } (PackEnv.firstBlocks_fresh 4) (by decide) rfl rfl rfl rfl rfl).mpr
      (by decide)⟩

/-- The transport refuses the call: the call fails and the two blocks are never freed. -/
theorem sgl_blocks_lost : ∃ (wp w' : World) (req : ServiceSglRequest) (e : SubmitEnv),
    e.pack.Fresh ∧ e.malloc ≠ e.mallocReqAddr ∧
      packReqInfo eightByteSegs 1 [⟨some fun _ => 3, 4⟩] 5 {} e.pack = (wp, ockRpcOk, req) ∧
      iovAddrs req req.iovCount.toNat = [100, 200] ∧ e.ret ≠ 0 ∧
      ockRpcClientCallWithParam eightByteSegs (some oneMessageCall) e = (w', ockRpcErr) ∧
      poolFreed (wp.since w') = [] ∧
      ∀ wc c, ¬ BlocksConserved (iovAddrs req req.iovCount.toNat) e
        (sglEvents wp (sglHandedOver wp 1 req 0 ⟨11, 12⟩ e) wc (w', ockRpcErr) e c) := by
  refine ⟨_, _, _, { malloc := 900, mallocReqAddr := 950, ret := 3, pack := PackEnv.firstBlocks 4 },
    PackEnv.firstBlocks_fresh 4, by decide, rfl, rfl, by decide, rfl, rfl, ?_⟩
  intro wc c H
  have h := H.blocks 100
  rw [sglEvents, if_neg ockRpcErr_ne_ok] at h
  exact absurd h (by decide)

end Hcom4db
