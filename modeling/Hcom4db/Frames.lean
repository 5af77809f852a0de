import Hcom4db.RunCallback
import Hcom4db.ServerEffects
import Hcom4db.Services
import Hcom4db.Registry

/-!
# Hcom4db.Frames

What the operations leave alone.

* `CallFrame`: requests and completions. Of the globals they change the allocator map only, and to the
  trace they add no event that acquires or releases a resource of a connect, but for the heap objects a
  callback owns (`runCallback_callFrame`, `AsyncOp.submit_callFrame`).
* `ServerFrame`: creating, starting and destroying a server (`create_frame`, `destroy_frame`).
* `ClientFrame`: connecting and disconnecting a client (`connect_frame`, `disconnect_frame`).
* `MessageFrame`: adding a service and receiving a message.
-/

namespace Hcom4db

open FlatMem

/-- What a completion leaves in the trace; `ps` are the heap objects it may free. -/
def Event.onCompletion (ps : List Addr) : Event → Prop
  | .poolFree _ _ => True
  | .store _ _ => True
  | .stdFree p => p ∈ ps
  | .userCb _ _ _ => True
  | .ub => True
  | _ => False

/-- What an operation leaves in the trace. -/
def Event.onCall (ps : List Addr) : Event → Prop
  | .poolAlloc _ _ _ => True
  | .iovStore _ => True
  | .malloc _ => True
  | .transport _ _ _ _ _ _ => True
  | ev => ev.onCompletion ps

structure CallFrame (P : Event → Prop) (w w' : World) : Prop where
  rest : w' = { w with
    gMemoryAllocator := w'.gMemoryAllocator
    mem := w'.mem
    cbInfos := w'.cbInfos
    reqAddrs := w'.reqAddrs
    slots := w'.slots
    inflight := w'.inflight
    trace := w'.trace }
  trace : ∃ evs, w'.trace = evs ++ w.trace ∧ ∀ ev ∈ evs, P ev

theorem Event.onCall_of_onCompletion {ps : List Addr} {ev : Event} (h : ev.onCompletion ps) :
    ev.onCall ps := by
  cases ev <;> first | exact h | trivial

theorem Event.onCompletion_mono {ps qs : List Addr} (hs : ∀ p ∈ ps, p ∈ qs) {ev : Event}
    (h : ev.onCompletion ps) : ev.onCompletion qs := by
  cases ev with
  | stdFree p => exact hs p h
  | _ => exact h

namespace CallFrame

variable {P Q : Event → Prop} {w w' w'' : World}

theorem refl (P : Event → Prop) (w : World) : CallFrame P w w := ⟨rfl, [], rfl, fun _ h => nomatch h⟩

theorem trans (h : CallFrame P w w') (h' : CallFrame P w' w'') : CallFrame P w w'' := by
  obtain ⟨evs, he, hp⟩ := h.trace
  obtain ⟨evs', he', hp'⟩ := h'.trace
  refine ⟨?_, evs' ++ evs, by rw [he', he, List.append_assoc], ?_⟩
  · have h1 := h'.rest
    rw [h.rest] at h1
    exact h1
  · intro ev hev
    rcases List.mem_append.mp hev with hev | hev
    · exact hp' ev hev
    · exact hp ev hev

theorem mono (h : CallFrame P w w') (hpq : ∀ ev, P ev → Q ev) : CallFrame Q w w' := by
  obtain ⟨evs, he, hp⟩ := h.trace
  exact ⟨h.rest, evs, he, fun ev hev => hpq ev (hp ev hev)⟩

theorem emit (ev : Event) (h : P ev) (w : World) : CallFrame P w (w.emit ev) := by
  refine ⟨rfl, [ev], rfl, ?_⟩
  intro ev' hev
  rw [List.mem_singleton.mp hev]
  exact h

theorem stdFree {p : Addr} (h : P (.stdFree p)) (w : World) : CallFrame P w (w.stdFree p) := by
  refine ⟨rfl, [.stdFree p], rfl, ?_⟩
  intro ev hev
  rw [List.mem_singleton.mp hev]
  exact h

theorem since (h : CallFrame P w w') : ∀ ev ∈ w.since w', P ev := by
  obtain ⟨evs, he, hp⟩ := h.trace
  rw [World.since_of_trace he]
  exact hp

theorem trace_eq (h : CallFrame P w w') : w'.trace = w.since w' ++ w.trace := by
  obtain ⟨evs, he, -⟩ := h.trace
  rw [World.since_of_trace he, he]

theorem gTimeoutTime (h : CallFrame P w w') : w'.gTimeoutTime = w.gTimeoutTime := by rw [h.rest]

theorem gMemoryRegion (h : CallFrame P w w') : w'.gMemoryRegion = w.gMemoryRegion := by rw [h.rest]

theorem of_pool {client : Addr} (h : PoolFrame client w w')
    (hp : ∀ ev, ev.onPool (w.allocatorOf client) → P ev) : CallFrame P w w' := by
  refine ⟨?_, w.since w', h.trace_eq, fun ev hev => hp ev (h.onPool ev hev)⟩
  have h1 := h.rest
  rw [h1]

end CallFrame

/-! ## Completions -/

section

variable {w w' : World} {info : AsyncCbInfo} {ps : List Addr}

theorem memFreeList_callFrame (client : Addr) (xs : List Addr) (w : World) :
    CallFrame (Event.onCompletion ps) w (memFreeList w client xs) := by
  have hfr := memFreeList_frame client xs w
  refine ⟨by rw [hfr.rest], _, memFreeList_trace client xs w, ?_⟩
  intro ev hev
  obtain ⟨x, -, rfl⟩ := List.mem_map.mp (List.mem_reverse.mp hev)
  trivial

theorem respond_callFrame (w : World) (info : AsyncCbInfo) (rsp : Addr) (c : Completion) :
    CallFrame (Event.onCompletion ps) w (respond w info rsp c) := by
  obtain ⟨mem, slots, evs, h, -, -, -, hst⟩ := respond_rest w info rsp c
  rw [h]
  refine ⟨rfl, notifyEvents info c ++ evs, by simp, ?_⟩
  intro ev hev
  rcases List.mem_append.mp hev with hev | hev
  · unfold notifyEvents at hev
    split at hev
    · cases hev
    · rw [List.mem_singleton.mp hev]
      trivial
  · obtain ⟨a, n, rfl⟩ := hst ev hev
    trivial

theorem releaseRequest_callFrame (h : releaseRequest w info = some w') :
    CallFrame (Event.onCompletion info.array.toList) w w' := by
  unfold releaseRequest at h
  split at h
  · cases h
  · rename_i p hp
    split at h
    · cases h
      exact CallFrame.refl _ w
    · rename_i hne
      split at h
      · rename_i client n addrs _ _ _
        cases h
        refine (memFreeList_callFrame client _ w).trans (CallFrame.stdFree ?_ _)
        show p ∈ info.array.toList
        simp [AsyncCbInfo.array, hp, hne]
      · cases h

theorem callback_callFrame (w : World) (arg : Addr) (c : Completion) :
    CallFrame (Event.onCompletion (ownedBy w ⟨.ockRpcCallbackFunc, arg⟩)) w
      (ockRpcCallbackFunc w arg c) := by
  have harg : arg ∈ ownedBy w ⟨.ockRpcCallbackFunc, arg⟩ := List.mem_cons_self
  unfold ockRpcCallbackFunc
  split
  · exact CallFrame.stdFree harg w
  · split
    · exact CallFrame.stdFree harg w
    · split
      · exact CallFrame.emit .ub trivial w
      · rename_i info hi
        split
        · exact (CallFrame.emit (.userCb _ _ _) trivial w).trans (CallFrame.stdFree harg _)
        · split
          · rename_i w2 rsp hrel _
            refine ((CallFrame.stdFree harg w).trans ((releaseRequest_callFrame hrel).mono ?_)).trans
              (respond_callFrame w2 info rsp c)
            intro ev hev
            refine ev.onCompletion_mono ?_ hev
            intro x hx
            refine List.mem_cons_of_mem _ ?_
            rw [hi]
            exact hx
          · exact (CallFrame.stdFree harg w).trans (CallFrame.emit .ub trivial _)

theorem runCallback_callFrame (w : World) (cb : ChannelCallback) (c : Completion) :
    CallFrame (Event.onCompletion (ownedBy w cb)) w (runCallback w cb c) := by
  obtain ⟨func, arg⟩ := cb
  cases func with
  | ockRpcCallbackFunc => exact callback_callFrame w arg c
  | responseCallBack =>
    have harg : arg ∈ ownedBy w ⟨.responseCallBack, arg⟩ := List.mem_cons_self
    simp only [runCallback, responseCallBack]
    split
    · exact CallFrame.emit .ub trivial w
    · split
      · exact (CallFrame.emit (.userCb _ _ _) trivial w).trans (CallFrame.stdFree harg _)
      · exact CallFrame.stdFree harg w

end

/-! ## Operations -/

section

variable {w : World} {e : SubmitEnv} {info : AsyncCbInfo} {p : Post} {cb : ChannelCallbackFunc}
  {ps : List Addr}

/-- The heap objects an operation puts up. -/
def SubmitEnv.heap (e : SubmitEnv) : List Addr := [e.malloc, e.mallocReqAddr]

theorem post_callFrame (w : World) (p : Post) (e : SubmitEnv) :
    CallFrame (Event.onCall ps) w (w.post p e) :=
  CallFrame.emit (p.event none e.ret) trivial w

theorem callForResponse_callFrame (w : World) (p : Post) (response : Addr) (e : SubmitEnv) :
    CallFrame (Event.onCall ps) w (callForResponse w p response e).1 := by
  unfold callForResponse
  simp only
  split
  · exact post_callFrame w p e
  · refine ⟨rfl, [p.event none e.ret], rfl, ?_⟩
    intro ev hev
    rw [List.mem_singleton.mp hev]
    trivial

theorem callNoResponse_callFrame (w : World) (p : Post) (e : SubmitEnv) :
    CallFrame (Event.onCall ps) w (callNoResponse w p e).1 := post_callFrame w p e

/-- A record that was put up is handed to a primitive. -/
theorem postAsync_callFrame (hi : w.cbInfos e.malloc = some info)
    (ha : ∀ q ∈ info.array, q = e.mallocReqAddr) :
    CallFrame (Event.onCall e.heap) w (w.postAsync p ⟨cb, e.malloc⟩ e) := by
  have hpost : CallFrame (Event.onCall e.heap) w (w.emit (p.event (some ⟨cb, e.malloc⟩) e.ret)) :=
    CallFrame.emit (p.event (some ⟨cb, e.malloc⟩) e.ret) trivial w
  unfold World.postAsync
  simp only
  split
  · exact hpost
  · refine hpost.trans ?_
    unfold World.handOver
    split
    · refine (runCallback_callFrame _ _ _).mono ?_
      intro ev hev
      refine Event.onCall_of_onCompletion (ev.onCompletion_mono ?_ hev)
      intro x hx
      rw [ownedBy, World.emit_cbInfos, hi] at hx
      cases List.mem_cons.mp hx with
      | inl hx =>
        rw [hx]
        exact List.mem_cons_self
      | inr hx =>
        rw [ha x (Option.mem_toList.mp hx)]
        exact List.mem_cons_of_mem _ List.mem_cons_self
    · exact ⟨rfl, [], rfl, fun _ h => absurd h List.not_mem_nil⟩

theorem newCbInfo_callFrame (w : World) (p : Addr) (info : AsyncCbInfo) :
    CallFrame (Event.onCall ps) w (w.newCbInfo p info) := by
  refine ⟨rfl, [.malloc p], rfl, ?_⟩
  intro ev hev
  rw [List.mem_singleton.mp hev]
  trivial

theorem malloc_mem_heap (e : SubmitEnv) : (Event.stdFree e.malloc).onCall e.heap := List.mem_cons_self

theorem submitAsync_callFrame (w : World) (ha : info.array = none) :
    CallFrame (Event.onCall e.heap) w (submitAsync w e info cb p).1 := by
  have hpost : CallFrame (Event.onCall e.heap) w
      ((w.newCbInfo e.malloc info).postAsync p ⟨cb, e.malloc⟩ e) := by
    refine (newCbInfo_callFrame w e.malloc info).trans
      (postAsync_callFrame (Function.update_self _ _ _) ?_)
    intro q hq
    rw [ha] at hq
    cases hq
  unfold submitAsync
  split
  · exact CallFrame.refl _ w
  · simp only
    split
    · exact hpost.trans (CallFrame.stdFree (malloc_mem_heap e) _)
    · exact hpost

theorem oneSided_callFrame (w : World) (p : Post) (done : Option OckRpcCallDone) (e : SubmitEnv) :
    CallFrame (Event.onCall e.heap) w (oneSided w p done e).1 := by
  cases done with
  | none => exact post_callFrame w p e
  | some d => exact submitAsync_callFrame w rfl

theorem callAsyncSgl_callFrame (w : World) (client : Addr) (req : ServiceSglRequest) (rsp : Addr)
    (done : OckRpcCallDone) (e : SubmitEnv) :
    CallFrame (Event.onCall e.heap) w (ockRpcCallAsyncSgl w client req rsp done e).1 := by
  have harr : (Event.stdFree e.mallocReqAddr).onCall e.heap :=
    List.mem_cons_of_mem _ List.mem_cons_self
  have hrec : CallFrame (Event.onCall e.heap) w (sglRecorded w client req rsp done e) := by
    refine (newCbInfo_callFrame w e.malloc _).trans ⟨rfl, [.malloc e.mallocReqAddr], rfl, ?_⟩
    intro ev hev
    rw [List.mem_singleton.mp hev]
    trivial
  have hpost : CallFrame (Event.onCall e.heap) w ((sglRecorded w client req rsp done e).postAsync
      (sglPost client req rsp) ⟨.ockRpcCallbackFunc, e.malloc⟩ e) := by
    refine hrec.trans (postAsync_callFrame (Function.update_self _ _ _) ?_)
    intro q hq
    unfold AsyncCbInfo.array sglInfo at hq
    simp only at hq
    split at hq
    · cases hq
    · exact (Option.some.inj hq).symm
  unfold ockRpcCallAsyncSgl
  split
  · exact CallFrame.refl _ w
  · split
    · exact (newCbInfo_callFrame w e.malloc _).trans (CallFrame.stdFree (malloc_mem_heap e) _)
    · simp only
      split
      · exact (hpost.trans (CallFrame.stdFree harr _)).trans (CallFrame.stdFree (malloc_mem_heap e) _)
      · exact hpost

theorem callSyncSgl_callFrame (w : World) (client : Addr) (req : ServiceSglRequest) (rsp : Addr)
    (e : SubmitEnv) : CallFrame (Event.onCall ps) w (ockRpcCallSyncSgl w client req rsp e).1 := by
  unfold ockRpcCallSyncSgl
  split
  · exact callForResponse_callFrame w _ _ e
  · exact callNoResponse_callFrame w _ e

theorem pool_callFrame {w' : World} {client : Addr} (h : PoolFrame client w w') :
    CallFrame (Event.onCall ps) w w' := by
  refine CallFrame.of_pool h ?_
  intro ev hev
  cases ev <;> trivial

theorem callWithParam_callFrame (w : World) (params : Option OckRpcClientCallParams) (e : SubmitEnv) :
    CallFrame (Event.onCall e.heap) w (ockRpcClientCallWithParam w params e).1 := by
  unfold ockRpcClientCallWithParam
  split
  · exact CallFrame.refl _ w
  · rename_i params
    split
    · exact CallFrame.refl _ w
    · rename_i msgs _
      have hpack := packReqInfo_frame w params.client msgs params.msgId {} e.pack
      generalize packReqInfo w params.client msgs params.msgId {} e.pack = r at hpack ⊢
      obtain ⟨wp, ret, req⟩ := r
      simp only at hpack ⊢
      split
      · exact pool_callFrame hpack
      · split
        · exact (pool_callFrame hpack).trans ((callSyncSgl_callFrame wp _ req _ e).trans
            (pool_callFrame (memFreeList_frame params.client _ _)))
        · exact (pool_callFrame hpack).trans (callAsyncSgl_callFrame wp _ req _ _ e)

theorem ResponseOp.submit_callFrame (op : ResponseOp) (w : World) (rsp : Addr)
    (done : Option OckRpcCallDone) (e : SubmitEnv) :
    CallFrame (Event.onCall e.heap) w (op.submit w rsp done e).1 := by
  cases op with
  | clientCall client msgId request =>
    simp only [submit, ockRpcClientCall]
    split
    · exact CallFrame.refl _ w
    · split
      · exact CallFrame.refl _ w
      · split
        · unfold ockRpcCallSync orErr
          split
          · exact callForResponse_callFrame w _ _ e
          · exact callNoResponse_callFrame w _ e
        · exact submitAsync_callFrame w rfl
  | callWithParam client msgId reqIov => exact callWithParam_callFrame w _ e
  | callRndv client msgId request =>
    simp only [submit, ockRpcClientCallRndv]
    split
    · exact CallFrame.refl _ w
    · split
      · exact CallFrame.refl _ w
      · split
        · exact callForResponse_callFrame w _ _ e
        · exact submitAsync_callFrame w rfl
  | callRndvIov client msgId request =>
    simp only [submit, ockRpcClientCallRndvIov]
    split
    · exact CallFrame.refl _ w
    · split
      · exact callForResponse_callFrame w _ _ e
      · exact submitAsync_callFrame w rfl

theorem AsyncOp.submit_callFrame (op : AsyncOp) (w : World) (done : Option OckRpcCallDone)
    (e : SubmitEnv) : CallFrame (Event.onCall e.heap) w (op.submit w done e).1 := by
  cases op with
  | call op rsp => exact op.submit_callFrame w rsp done e
  | read client req =>
    cases req with
    | none => exact CallFrame.refl _ w
    | some req => exact oneSided_callFrame w _ done e
  | readSgl client req => exact oneSided_callFrame w _ done e
  | write client req =>
    cases req with
    | none => exact CallFrame.refl _ w
    | some req => exact oneSided_callFrame w _ done e
  | writeSgl client req => exact oneSided_callFrame w _ done e
  | serverReply reply =>
    simp only [submit, ockRpcServerReply]
    split
    · exact CallFrame.refl _ w
    · split
      · exact CallFrame.refl _ w
      · split
        · exact CallFrame.refl _ w
        · exact submitAsync_callFrame w (replyInfo_array done)
  | serverReplyRndv ctx reply =>
    simp only [submit, ockRpcServerReplyRndv]
    split
    · exact CallFrame.refl _ w
    · split
      · exact CallFrame.refl _ w
      · exact submitAsync_callFrame w (replyInfo_array done)

end

/-! ## Servers, clients and messages -/

/-- What creating and destroying servers may change. -/
structure ServerFrame (w w' : World) : Prop where
  rest : w' = { w with
    gLogFunc := w'.gLogFunc
    gTlsFunc := w'.gTlsFunc
    gOptions := w'.gOptions
    gConnectionType := w'.gConnectionType
    gServiceMap := w'.gServiceMap
    trace := w'.trace }

/-- What connecting and disconnecting clients may change. -/
structure ClientFrame (w w' : World) : Prop where
  rest : w' = { w with
    gMemoryAllocator := w'.gMemoryAllocator
    gMemoryRegion := w'.gMemoryRegion
    cbInfos := w'.cbInfos
    reqAddrs := w'.reqAddrs
    trace := w'.trace }

/-- What adding services and receiving messages may change. -/
structure MessageFrame (w w' : World) : Prop where
  rest : w' = { w with
    gHandleMap := w'.gHandleMap
    gRndvHandleMap := w'.gRndvHandleMap
    trace := w'.trace }

section

variable {w w' w'' : World} {service : Addr}

theorem ServerFrame.trans (h : ServerFrame w w') (h' : ServerFrame w' w'') : ServerFrame w w'' := by
  have h1 := h'.rest
  rw [h.rest] at h1
  exact ⟨h1⟩

theorem MessageFrame.trans (h : MessageFrame w w') (h' : MessageFrame w' w'') : MessageFrame w w'' := by
  have h1 := h'.rest
  rw [h.rest] at h1
  exact ⟨h1⟩

theorem MessageFrame.emit (w : World) (ev : Event) : MessageFrame w (w.emit ev) := ⟨rfl⟩

theorem ServerFrame.of_registers (h : Registers service w w') : ServerFrame w w' := by
  have h1 := h.rest
  rw [h1]
  exact ⟨rfl⟩

theorem ServerFrame.gTimeoutTime (h : ServerFrame w w') : w'.gTimeoutTime = w.gTimeoutTime := by
  rw [h.rest]

theorem ServerFrame.gMemoryRegion (h : ServerFrame w w') : w'.gMemoryRegion = w.gMemoryRegion := by
  rw [h.rest]

theorem ClientFrame.gTimeoutTime (h : ClientFrame w w') : w'.gTimeoutTime = w.gTimeoutTime := by
  rw [h.rest]

theorem ClientFrame.gServiceMap (h : ClientFrame w w') : w'.gServiceMap = w.gServiceMap := by
  rw [h.rest]

theorem MessageFrame.gTimeoutTime (h : MessageFrame w w') : w'.gTimeoutTime = w.gTimeoutTime := by
  rw [h.rest]

theorem MessageFrame.gServiceMap (h : MessageFrame w w') : w'.gServiceMap = w.gServiceMap := by
  rw [h.rest]

theorem destroy_frame (w : World) (server : Addr) (ret : Int) :
    ServerFrame w (ockRpcServerDestroy w server ret) := by
  cases hk : serviceKey w server with
  | none =>
    rw [serverDestroy_missing hk]
    exact ⟨rfl⟩
  | some name =>
    rcases serverDestroy_found hk ret with ⟨-, h⟩ | ⟨-, h⟩
    · rw [h]
      exact ⟨rfl⟩
    · rw [h]
      exact ⟨rfl⟩

theorem create_frame (w : World) (a : CreateArgs) (e : CreateEnv) :
    ServerFrame w (ockRpcServerCreateWithCfg w a e).1 := by
  rcases serverCreate_cases w a e with ⟨-, hrej, -⟩ | ⟨ip, configs, m, w0, -, hs, hr⟩
  · obtain ⟨lf, ct, evs, h, -⟩ := hrej
    rw [h]
    exact ⟨rfl⟩
  · have h0 : ServerFrame w w0 := by
      obtain ⟨lf, ct, t, rfl⟩ := hs
      exact ⟨rfl⟩
    rw [hr]
    refine h0.trans ?_
    rcases initServer_cases w0 a ip configs m e with ⟨w1, h1, h2, -⟩ | ⟨w1, h1, h2, -⟩
    · have h3 := ServerFrame.of_registers (setTlsConfigs_cases w1 e.service configs m).1
      rw [h2] at h3
      exact (ServerFrame.of_registers h1.toRegisters).trans h3
    · rw [h2]
      exact (ServerFrame.of_registers h1.toRegisters).trans (destroy_frame w1 _ _)

theorem start_frame (w : World) (server : Addr) (ret : Int) :
    ServerFrame w (ockRpcServerStart w server ret).1 := ⟨rfl⟩

theorem connect_frame (w : World) (a : ConnectArgs) (e : ConnectEnv) :
    ClientFrame w (ockRpcClientConnectWithCfg w a e).1 := by
  rcases connect_cases w a e with ⟨evs, st, h, -, -⟩ | ⟨server, option, req, h⟩
  · rw [h]
    exact ⟨rfl⟩
  · rw [h]
    exact ⟨rfl⟩

theorem disconnect_frame (w : World) (client : Addr) (ret : Int) :
    ClientFrame w (ockRpcClientDisconnect w client ret) := by
  unfold ockRpcClientDisconnect
  cases w.gMemoryAllocator.find client with
  | none =>
    simp only
    cases w.gMemoryRegion.find client <;> exact ⟨rfl⟩
  | some allocator =>
    simp only [World.emit_gMemoryRegion]
    cases w.gMemoryRegion.find client <;> exact ⟨rfl⟩

/-- The events of a disconnect, newest first. -/
def disconnectEvents (allocator : Option Addr) (region : Option OckRpcMrInfo) (client : Addr)
    (ret : Int) : List Event :=
  .channelClose client ::
    (region.elim [] fun info => [.mrDestroy info.server info.mr, .stdFree info.mrInfo.lAddress]) ++
      (allocator.elim [] fun a => [.poolDestroy a ret])

theorem disconnect_trace (w : World) (client : Addr) (ret : Int) :
    (ockRpcClientDisconnect w client ret).trace =
      disconnectEvents (w.gMemoryAllocator.find client) (w.gMemoryRegion.find client) client ret ++
        w.trace := by
  unfold ockRpcClientDisconnect disconnectEvents
  cases w.gMemoryAllocator.find client with
  | none =>
    simp only
    cases w.gMemoryRegion.find client <;> rfl
  | some allocator =>
    simp only [World.emit_gMemoryRegion]
    cases w.gMemoryRegion.find client <;> rfl

theorem addService_frame (w : World) (kind : ServiceKind) (server : Addr)
    (service : Option OckRpcService) : MessageFrame w (addService w kind server service).1 := by
  cases kind <;> exact ⟨rfl⟩

theorem dispatch_frame (w : World) (ctx : Addr) (msgId : UInt16) (off : Nat) (len : UInt64) :
    MessageFrame w (dispatch w ctx msgId off len).1 := by
  unfold dispatch
  split <;> exact ⟨rfl⟩

theorem receive_frame (w : World) (ctx : Addr) (e : ReceiveEnv) :
    MessageFrame w (ockRpcReceiveHandle w ctx e).1 := by
  unfold ockRpcReceiveHandle
  split
  · exact ⟨rfl⟩
  · split
    · exact ⟨rfl⟩
    · exact (MessageFrame.emit w _).trans (dispatch_frame _ ctx _ _ _)
    · split
      · exact ⟨rfl⟩
      · exact dispatch_frame w ctx _ _ _

theorem rndvReceive_frame (w : World) (ctx : Addr) (e : RndvEnv) :
    MessageFrame w (ockRpcRndvReceiveHandler w ctx e).1 := by
  unfold ockRpcRndvReceiveHandler
  cases e.message with
  | none => exact ⟨rfl⟩
  | some rndvMsg =>
    have hub : MessageFrame w (if maxMessageSglCount < rndvMsg.cnt.toNat then w.emit .ub else w) := by
      split <;> exact ⟨rfl⟩
    simp only
    split
    · exact hub
    · split
      · exact hub
      · split
        · exact hub.trans (MessageFrame.emit _ _)
        · exact hub

end

end Hcom4db
