import Hcom4db.BlockHome
import Hcom4db.Registry

/-!
# Hcom4db.Batches

What a call and a completion do to the arenas: each is one batch on the allocator of its client.

* `callback_batch`: a completion takes nothing and gives back addresses of its record's array, none
  unless it is two-sided with both queries answered.
* `call_batch`: a call that packs takes what the pool answers it, and gives back only what it has taken
  unless its clean-up passes null addresses.
-/

namespace Hcom4db

open Arena

def World.arenas (w : World) : Trace Addr Addr := arenaOps w.trace

/-- A step that takes `bs` from the allocator of a client and then gives `fs` back to it. Both are listed
newest first. -/
structure Batch (client : Addr) (fs bs : List Addr) (w w' : World) : Prop where
  arenas : w'.arenas = fs.map (Op.free (w.allocatorOf client)) ++
    (bs.map (Op.alloc (w.allocatorOf client)) ++ w.arenas)
  maps : MapFrame client w w'

namespace Batch

variable {client : Addr} {fs fs' bs : List Addr} {w w' w'' : World}

theorem of_rest (ha : w'.arenas = w.arenas) (hm : MapFrame client w w') :
    Batch client [] [] w w' := ⟨ha, hm⟩

theorem free_after (h : Batch client fs bs w w') (h' : Batch client fs' [] w' w'') :
    Batch client (fs' ++ fs) bs w w'' := by
  refine ⟨?_, h.maps.trans h'.maps⟩
  rw [h'.arenas, h.arenas, h.maps.allocator.allocatorOf]
  simp

theorem memFreeList (w : World) (client : Addr) (xs : List Addr) :
    Batch client xs.reverse [] w (memFreeList w client xs) := by
  refine ⟨?_, MapFrame.of_pool (memFreeList_frame client xs w)⟩
  rw [World.arenas, memFreeList_trace, arenaOps_append]
  congr 1
  rw [arenaOps, ← List.map_reverse, List.filterMap_map]
  exact congrFun (List.filterMap_eq_map (f := Op.free (w.allocatorOf client))) xs.reverse

end Batch

/-! ## A completion -/

section Completion

variable {w : World} {arg client : Addr} {info : AsyncCbInfo} {c : Completion}

theorem respond_batch (w : World) (info : AsyncCbInfo) (rsp : Addr) (c : Completion) (client : Addr) :
    Batch client [] [] w (respond w info rsp c) := by
  obtain ⟨mem, slots, evs, h, -, -, -, hst⟩ := respond_rest w info rsp c
  obtain ⟨ha, hr⟩ := respond_maps w info rsp c
  refine Batch.of_rest ?_ (MapFrame.of_eq hr ha)
  have hevs : arenaOps evs = [] := by
    refine List.filterMap_eq_nil_iff.mpr fun ev hev => ?_
    obtain ⟨a, n, rfl⟩ := hst ev hev
    rfl
  have hn : arenaOps (notifyEvents info c) = [] := by
    unfold notifyEvents
    split <;> rfl
  rw [h, World.arenas, arenaOps_append, arenaOps_append, hevs, hn]
  rfl

/-- A completion whose record holds a client and an array. -/
theorem callback_batch {p n rsp : Addr} {addrs : List Addr} (hi : w.cbInfos arg = some info)
    (hp : p ≠ 0) (hpa : p ≠ arg) (hc : info.client = some client) (hra : info.reqAddr = some p)
    (hn : info.reqCnt = some n) (hr : info.rsp = some rsp) (harr : w.reqAddrs p = some addrs) :
    ∃ fs, Batch client fs [] w (ockRpcCallbackFunc w arg c) ∧ (∀ x ∈ fs, x ∈ addrs) ∧
      (¬ (c.QueriesOk ∧ c.ctxType ≠ some .oneSide) → fs = []) := by
  by_cases hq : c.QueriesOk
  · by_cases ht : c.ctxType = some .oneSide
    · refine ⟨[], ?_, by simp, fun _ => rfl⟩
      rw [callback_oneSide hq ht hi]
      exact Batch.of_rest rfl (MapFrame.of_eq rfl rfl)
    · have harr' : (w.stdFree arg).reqAddrs p = some addrs := by
        rw [stdFree_reqAddrs, if_neg hpa, harr]
      refine ⟨(addrs.take n).reverse, ?_, ?_, fun h => absurd ⟨hq, ht⟩ h⟩
      · rw [callback_twoSided hq ht hi (releaseRequest_of_blocks hp hra hc hn harr') hr]
        have h0 : Batch client [] [] w (w.stdFree arg) := Batch.of_rest rfl (MapFrame.of_eq rfl rfl)
        have h1 := h0.free_after (Batch.memFreeList (w.stdFree arg) client (addrs.take n))
        have h2 : Batch client [] [] (memFreeList (w.stdFree arg) client (addrs.take n))
            ((memFreeList (w.stdFree arg) client (addrs.take n)).stdFree p) :=
          Batch.of_rest rfl (MapFrame.of_eq rfl rfl)
        have h3 := (h1.free_after h2).free_after (respond_batch _ info rsp c client)
        rwa [List.append_nil, List.nil_append, List.nil_append] at h3
      · intro x hx
        exact List.mem_of_mem_take (List.mem_reverse.mp hx)
  · refine ⟨[], ?_, by simp, fun _ => rfl⟩
    rw [callback_failed hq]
    exact Batch.of_rest rfl (MapFrame.of_eq rfl rfl)

end Completion

/-! ## A call -/

section Call

variable {w w' wp : World} {params : OckRpcClientCallParams} {msgs : List ReqMessage} {e : SubmitEnv}
  {st : OckRpcStatus} {req : ServiceSglRequest} {client rsp : Addr} {done : OckRpcCallDone}

theorem packReqInfo_batch {msgId : UInt16} {env : PackEnv}
    (h : packReqInfo w client msgs msgId {} env = (w', st, req)) :
    Batch client (poolFreed (w.since w')) (taken (w.since w')) w w' := by
  have hf := packReqInfo_frame w client msgs msgId {} env
  rw [h] at hf
  refine ⟨?_, MapFrame.of_pool hf⟩
  rw [World.arenas, hf.trace_eq, arenaOps_append, (packReqInfo_takesFirst h).arenaOps hf.onPool,
    List.append_assoc]
  rfl

theorem sglHandedOver_batch (w : World) (client : Addr) (req : ServiceSglRequest) (rsp : Addr)
    (done : OckRpcCallDone) (e : SubmitEnv) :
    Batch client [] [] w (sglHandedOver w client req rsp done e) :=
  Batch.of_rest rfl (MapFrame.of_eq rfl rfl)

theorem sgl_refused_batch (h : ¬ SglAccepted e) :
    Batch client [] [] w (ockRpcCallAsyncSgl w client req rsp done e).1 := by
  refine Batch.of_rest ?_ (callAsyncSgl_maps w client req rsp done e)
  unfold ockRpcCallAsyncSgl
  split
  · rfl
  · rename_i hm
    split
    · rfl
    · rename_i hq
      have hret : e.ret ≠ 0 := fun hret => h ⟨hm, hq, hret⟩
      simp only [World.postAsync, if_pos hret, World.arenas, stdFree_trace, World.emit_trace, sglRecorded,
        newReqAddr_trace, newCbInfo_trace]
      rfl

theorem callSyncSgl_batch (w : World) (client : Addr) (req : ServiceSglRequest) (rsp : Addr)
    (e : SubmitEnv) : Batch client [] [] w (ockRpcCallSyncSgl w client req rsp e).1 := by
  refine Batch.of_rest ?_ (callSyncSgl_maps w client req rsp e)
  unfold ockRpcCallSyncSgl callForResponse callNoResponse
  split
  · simp only
    split
    · rfl
    · rfl
  · rfl

/-- The client has an allocator, and it is alive. -/
def HasLivePool (w : World) (client : Addr) : Prop :=
  ∃ a, w.gMemoryAllocator.find client = some a ∧ alive w.arenas a = true

/-- When a call that passes its checks finds its pool: the header is refused, or the client has a pool
that is alive and the clean-up of the packing frees no null address. -/
def CallOk (w : World) (params : OckRpcClientCallParams) (e : SubmitEnv) : Prop :=
  ∀ msgs, checkedMsgs w params = some msgs → e.pack.alloc 0 = none ∨
    (HasLivePool w params.client ∧ FreesOwn e.pack w.gOptions.mrSendReceiveSegSize msgs)

theorem packReqInfo_callOk (hmsgs : checkedMsgs w params = some msgs)
    (h : packReqInfo w params.client msgs params.msgId {} e.pack = (wp, st, req))
    (hok : CallOk w params e) :
    (taken (w.since wp) = [] ∨ HasLivePool w params.client) ∧
      ∀ x ∈ poolFreed (w.since wp), x ∈ taken (w.since wp) := by
  cases hok msgs hmsgs with
  | inl ha =>
    rw [packReqInfo_noHeader ha] at h
    cases h
    rw [since_touch]
    exact ⟨.inl rfl, fun x hx => hx⟩
  | inr hl => exact ⟨.inr hl.1, packReqInfo_freed_taken (checkedMsgs_len hmsgs) hl.2 h⟩

theorem mem_addr_of_taken {msgId : UInt16} {env : PackEnv} {x : Addr}
    (h : packReqInfo w client msgs msgId {} env = (w', st, req)) (hx : x ∈ taken (w.since w')) :
    ∃ j, env.addr j = some x := by
  obtain ⟨k, hk⟩ := List.mem_iff_getElem?.mp (List.mem_reverse.mpr hx)
  exact ⟨0 + k, (packReqInfo_taken h).addr_eq hk⟩

/-- A call the transport has accepted: its packing freed nothing, and its array holds what it took. -/
theorem call_accepted (hd : params.done = some done)
    (h : ockRpcClientCallWithParam w (some params) e = (w', ockRpcOk)) :
    ∃ msgs w1 req, checkedMsgs w params = some msgs ∧
      packReqInfo w params.client msgs params.msgId {} e.pack = (w1, ockRpcOk, req) ∧ SglAccepted e ∧
      w' = (sglHandedOver w1 params.client req params.rspMsgs done e).handOver
        ⟨.ockRpcCallbackFunc, e.malloc⟩ e ∧
      (∀ x ∈ iovAddrs req req.iovCount.toNat, x ∈ taken (w.since w1)) ∧
      Batch params.client [] (taken (w.since w1)) w
        (sglHandedOver w1 params.client req params.rspMsgs done e) := by
  obtain ⟨msgs, w1, req, hmsgs, hpack, hsgl⟩ := callWithParam_ok hd h
  obtain ⟨hm, hq, hret, hw⟩ := ockRpcCallAsyncSgl_ok hsgl
  obtain ⟨hiov, hfree⟩ := packReqInfo_ok_blocks (checkedMsgs_len hmsgs) hpack
  refine ⟨msgs, w1, req, hmsgs, hpack, ⟨hm, hq, hret⟩, hw, ?_, ?_⟩
  · intro x hx
    rw [hiov] at hx
    exact List.mem_reverse.mp hx
  · have hb := packReqInfo_batch hpack
    rw [hfree] at hb
    exact hb.free_after (sglHandedOver_batch w1 params.client req params.rspMsgs done e)

/-- The callback runs inside the primitive and gives back what was packed, or nothing happens yet. -/
theorem handOver_batch (hpq : e.malloc ≠ e.mallocReqAddr) (ha : SglAccepted e) :
    ∃ fs, Batch client fs [] (sglHandedOver w client req rsp done e)
        ((sglHandedOver w client req rsp done e).handOver ⟨.ockRpcCallbackFunc, e.malloc⟩ e) ∧
      ∀ x ∈ fs, x ∈ iovAddrs req req.iovCount.toNat := by
  unfold World.handOver
  cases e.early with
  | none => exact ⟨[], Batch.of_rest rfl (MapFrame.of_eq rfl rfl), by simp⟩
  | some c =>
    have hi : (sglHandedOver w client req rsp done e).cbInfos e.malloc =
        some (sglInfo client req rsp done e.mallocReqAddr) := Function.update_self _ _ _
    obtain ⟨fs, hb, hfs, -⟩ := callback_batch (c := c) hi ha.2.1 (Ne.symm hpq) rfl rfl rfl rfl
      (Function.update_self _ _ _)
    exact ⟨fs, hb, hfs⟩

/-- Everything a call does to the arenas. -/
theorem call_batch (hpq : e.malloc ≠ 0 → e.malloc ≠ e.mallocReqAddr) (w : World)
    (params : OckRpcClientCallParams) :
    ∃ fs bs, Batch params.client fs bs w (ockRpcClientCallWithParam w (some params) e).1 ∧
      (∀ x ∈ bs, ∃ j, e.pack.addr j = some x) ∧
      (CallOk w params e → (bs = [] ∨ HasLivePool w params.client) ∧ ∀ x ∈ fs, x ∈ bs) := by
  cases hmsgs : checkedMsgs w params with
  | none =>
    have hw : (ockRpcClientCallWithParam w (some params) e).1 = w := by
      unfold ockRpcClientCallWithParam
      simp only [hmsgs]
    rw [hw]
    exact ⟨[], [], Batch.of_rest rfl (MapFrame.refl _ w), by simp, fun _ => ⟨.inl rfl, by simp⟩⟩
  | some msgs =>
    rcases hpack : packReqInfo w params.client msgs params.msgId {} e.pack with ⟨wp, ret, req⟩
    have hb := packReqInfo_batch hpack
    have hbs : ∀ x ∈ taken (w.since wp), ∃ j, e.pack.addr j = some x :=
      fun x hx => mem_addr_of_taken hpack hx
    by_cases hret : ret = ockRpcOk
    · subst hret
      obtain ⟨hiov, hfree⟩ := packReqInfo_ok_blocks (checkedMsgs_len hmsgs) hpack
      rw [hfree] at hb
      -- what is given back after the packing is among the segments
      have key : ∀ fs w', Batch params.client fs [] wp w' →
          (∀ x ∈ fs, x ∈ iovAddrs req req.iovCount.toNat) →
          ∃ fs bs, Batch params.client fs bs w w' ∧ (∀ x ∈ bs, ∃ j, e.pack.addr j = some x) ∧
            (CallOk w params e → (bs = [] ∨ HasLivePool w params.client) ∧ ∀ x ∈ fs, x ∈ bs) := by
        intro fs w' hb' hfs
        refine ⟨_, _, hb.free_after hb', hbs, fun hok => ⟨(packReqInfo_callOk hmsgs hpack hok).1, ?_⟩⟩
        intro x hx
        rw [List.append_nil] at hx
        have h1 := hfs x hx
        rw [hiov] at h1
        exact List.mem_reverse.mp h1
      unfold ockRpcClientCallWithParam
      simp only [hmsgs, hpack, ne_eq, not_true_eq_false, if_false]
      cases hd : params.done with
      | none =>
        simp only [orErr]
        refine key (iovAddrs req req.iovCount.toNat).reverse _ ?_ fun x hx => List.mem_reverse.mp hx
        have h1 := (callSyncSgl_batch wp params.client req params.rspMsgs e).free_after
          (Batch.memFreeList _ params.client (iovAddrs req req.iovCount.toNat))
        rwa [List.append_nil] at h1
      | some done =>
        simp only [orErr]
        by_cases ha : SglAccepted e
        · rw [sgl_accepted ha]
          obtain ⟨fs, h1, h2⟩ := @handOver_batch wp e req params.client params.rspMsgs done (hpq ha.1) ha
          have h3 := (sglHandedOver_batch wp params.client req params.rspMsgs done e).free_after h1
          rw [List.append_nil] at h3
          exact key fs _ h3 h2
        · exact key [] _ (sgl_refused_batch ha) (by simp)
    · have hw : (ockRpcClientCallWithParam w (some params) e).1 = wp := by
        unfold ockRpcClientCallWithParam
        simp only [hmsgs, hpack, ne_eq, hret, not_false_eq_true, if_true]
      rw [hw]
      exact ⟨_, _, hb, hbs, fun hok => packReqInfo_callOk hmsgs hpack hok⟩

end Call

end Hcom4db
