import Hcom4db.MemFrames

/-!
# Hcom4db.OtherOps

The operations that send nothing and run no callback: servers, clients, services and messages. They leave
the pools, memory and the transport's queue alone, and of the heap objects they free only the buffer of a
region they release.
-/

namespace Hcom4db

/-- The segments an event hands to the transport. -/
def Event.segs? : Event → Option (List ServiceRequest)
  | .transport _ _ _ (.sgl iov) _ _ => some iov
  | _ => none

/-- The events that neither operate on a pool nor hand over segments. -/
def Event.beside (ev : Event) : Prop := ev.poolOp? = none ∧ ev.segs? = none

/-- A step beside the pools, memory and the transport; it frees `freed`. -/
structure Beside (freed : List Addr) (w w' : World) : Prop where
  inflight : w'.inflight = w.inflight
  mem : w'.mem = w.mem
  heap : ∀ x, x ∉ freed → w'.cbInfos x = w.cbInfos x ∧ w'.reqAddrs x = w.reqAddrs x
  trace : ∃ evs, w'.trace = evs ++ w.trace ∧ ∀ ev ∈ evs, ev.beside

namespace Beside

variable {freed freed' : List Addr} {w w' w'' : World}

theorem refl (w : World) : Beside [] w w := ⟨rfl, rfl, fun _ _ => ⟨rfl, rfl⟩, [], rfl, by simp⟩

theorem trans (h : Beside freed w w') (h' : Beside freed' w' w'') : Beside (freed ++ freed') w w'' := by
  obtain ⟨evs, he, hb⟩ := h.trace
  obtain ⟨evs', he', hb'⟩ := h'.trace
  refine ⟨h'.inflight.trans h.inflight, h'.mem.trans h.mem, fun x hx => ?_, evs' ++ evs, ?_, ?_⟩
  · rw [List.mem_append, not_or] at hx
    obtain ⟨h1, h2⟩ := h.heap x hx.1
    obtain ⟨h3, h4⟩ := h'.heap x hx.2
    exact ⟨h3.trans h1, h4.trans h2⟩
  · rw [he', he, List.append_assoc]
  · intro ev hev
    rcases List.mem_append.mp hev with hev | hev
    · exact hb' ev hev
    · exact hb ev hev

/-- Steps that free nothing, one after the other. -/
theorem seq (h : Beside [] w w') (h' : Beside [] w' w'') : Beside [] w w'' := h.trans h'

theorem emit (w : World) (ev : Event) (h : ev.beside) : Beside [] w (w.emit ev) := by
  refine ⟨rfl, rfl, fun _ _ => ⟨rfl, rfl⟩, [ev], rfl, fun ev' hev => ?_⟩
  rw [List.mem_singleton.mp hev]
  exact h

theorem stdFree (w : World) (p : Addr) : Beside [p] w (w.stdFree p) := by
  refine ⟨rfl, rfl, fun x hx => ?_, [.stdFree p], rfl, fun ev hev => ?_⟩
  · have hne : x ≠ p := fun h => hx (List.mem_singleton.mpr h)
    exact ⟨Function.update_of_ne hne _ _, Function.update_of_ne hne _ _⟩
  · rw [List.mem_singleton.mp hev]
    exact ⟨rfl, rfl⟩

theorem effect (h : Beside freed w w') : Effect [] [] w w' := by
  obtain ⟨evs, he, hb⟩ := h.trace
  exact .of_events evs he (List.filterMap_eq_nil_iff.mpr fun ev hev => (hb ev hev).1) h.mem

end Beside

section

variable {w w' : World} {service : Addr}

/-- What a create with a service does before its last check. -/
theorem Built.beside {m : ConfigMap} {e : CreateEnv} (h : Built w w' m e) : Beside [] w w' := by
  obtain ⟨lf, t, rs, ht⟩ := h.trace
  have hr := h.rest
  refine ⟨by rw [hr], by rw [hr], fun x _ => by rw [hr]; exact ⟨rfl, rfl⟩, _, ht, fun ev hev => ?_⟩
  rcases List.mem_append.mp hev with hev | hev
  · obtain ⟨r, -, rfl⟩ := List.mem_map.mp hev
    exact ⟨rfl, rfl⟩
  · rcases List.mem_cons.mp hev with rfl | hev
    · exact ⟨rfl, rfl⟩
    · rw [List.mem_singleton.mp hev]
      exact ⟨rfl, rfl⟩

theorem Rejected.beside (h : Rejected w w') : Beside [] w w' := by
  obtain ⟨lf, ct, evs, rfl, hevs⟩ := h
  refine ⟨rfl, rfl, fun _ _ => ⟨rfl, rfl⟩, evs, rfl, fun ev hev => ?_⟩
  obtain ⟨h, rfl⟩ := hevs ev hev
  exact ⟨rfl, rfl⟩

theorem destroyServer_beside (w : World) (server : Addr) (ret : Int) :
    Beside [] w (ockRpcServerDestroy w server ret) := by
  cases hk : serviceKey w server with
  | none =>
    rw [serverDestroy_missing hk]
    exact .refl w
  | some name =>
    have hrest := (destroy_frame w server ret).rest
    refine ⟨by rw [hrest], by rw [hrest], fun x _ => by rw [hrest]; exact ⟨rfl, rfl⟩, _,
      serverDestroy_trace hk ret, fun ev hev => ?_⟩
    rcases List.mem_cons.mp hev with rfl | hev
    · exact ⟨rfl, rfl⟩
    · rw [List.mem_singleton.mp hev]
      exact ⟨rfl, rfl⟩

theorem createServer_beside (w : World) (a : CreateArgs) (e : CreateEnv) :
    Beside [] w (ockRpcServerCreateWithCfg w a e).1 := by
  rcases serverCreate_ends w a e with ⟨-, hrej, -⟩ | ⟨_, _, _, -, hb, -⟩ | ⟨_, _, _, w1, -, -, hb, -, hr⟩
  · exact hrej.beside
  · exact hb.beside
  · rw [hr]
    exact hb.beside.seq (destroyServer_beside w1 _ _)

theorem connect_beside (w : World) (a : ConnectArgs) (e : ConnectEnv) :
    Beside [] w (ockRpcClientConnectWithCfg w a e).1 := by
  have hon : ∀ ev : Event, ev.onConnect e → ev.beside := by
    intro ev hev
    cases ev <;> first | exact ⟨rfl, rfl⟩ | exact hev.elim
  rcases connect_cases w a e with ⟨evs, st, h, hevs, -⟩ | ⟨server, option, req, h⟩
  · rw [h]
    exact ⟨rfl, rfl, fun _ _ => ⟨rfl, rfl⟩, evs, rfl, fun ev hev => hon ev (hevs ev hev)⟩
  · rw [h]
    refine ⟨rfl, rfl, fun _ _ => ⟨rfl, rfl⟩, poolEvents server option e ++ [.channelConnect server _ req],
      by rw [List.append_assoc]; rfl, fun ev hev => ?_⟩
    simp only [poolEvents, List.mem_append, List.mem_cons, List.not_mem_nil, or_false] at hev
    rcases hev with (rfl | rfl | rfl | rfl) | rfl <;> exact ⟨rfl, rfl⟩

theorem dispatch_beside (w : World) (ctx : Addr) (msgId : UInt16) (off : Nat) (len : UInt64) :
    Beside [] w (dispatch w ctx msgId off len).1 := by
  unfold dispatch
  split
  · exact .emit w _ ⟨rfl, rfl⟩
  · exact .refl w

theorem receive_beside (w : World) (ctx : Addr) (e : ReceiveEnv) :
    Beside [] w (ockRpcReceiveHandle w ctx e).1 := by
  unfold ockRpcReceiveHandle
  split
  · exact .refl w
  · split
    · exact .refl w
    · exact (Beside.emit w _ ⟨rfl, rfl⟩).seq (dispatch_beside _ ctx _ _ _)
    · split
      · exact .refl w
      · exact dispatch_beside w ctx _ _ _

theorem rndvReceive_beside (w : World) (ctx : Addr) (e : RndvEnv) :
    Beside [] w (ockRpcRndvReceiveHandler w ctx e).1 := by
  unfold ockRpcRndvReceiveHandler
  split
  · exact .refl w
  · rename_i rndvMsg _
    have hub : Beside [] w (if maxMessageSglCount < rndvMsg.cnt.toNat then w.emit .ub else w) := by
      split
      · exact .emit w _ ⟨rfl, rfl⟩
      · exact .refl w
    simp only
    split
    · exact hub
    · split
      · exact hub
      · split
        · exact hub.seq (.emit _ _ ⟨rfl, rfl⟩)
        · exact hub

theorem addService_beside (w : World) (kind : ServiceKind) (server : Addr)
    (service : Option OckRpcService) : Beside [] w (addService w kind server service).1 := by
  cases kind <;> exact ⟨rfl, rfl, fun _ _ => ⟨rfl, rfl⟩, [], rfl, by simp⟩

/-- The buffer of the region a client has. -/
def World.regionBuffer (w : World) (client : Addr) : List Addr :=
  ((w.gMemoryRegion.find client).map fun info => info.mrInfo.lAddress).toList

theorem releaseRegion_beside (w : World) (client : Addr) :
    Beside (w.regionBuffer client) w (releaseRegion w client) := by
  unfold releaseRegion World.regionBuffer
  cases w.gMemoryRegion.find client with
  | none => exact .refl w
  | some info =>
    have h := (Beside.stdFree w info.mrInfo.lAddress).trans
      (Beside.emit _ (.mrDestroy info.server info.mr) ⟨rfl, rfl⟩)
    rw [List.append_nil] at h
    exact ⟨h.inflight, h.mem, h.heap, h.trace⟩

end

/-! ## The pools of the user -/

def ockRpcMemoryAllocatorAllocate (w : World) (allocator : Addr) (size : UInt64)
    (res : Option (Addr × UInt32)) : World :=
  match res with
  | none => w
  | some r => w.emit (.poolAlloc allocator size.toNat r.1)

def ockRpcMemoryAllocatorFree (w : World) (allocator address : Addr) : World :=
  w.emit (.poolFree allocator address)

def ockRpcMemoryAllocatorDestroy (w : World) (allocator : Addr) (ret : Int) : World :=
  w.emit (.poolDestroy allocator ret)

/-! ## One operation -/

inductive OtherOp where
  | createServer (a : CreateArgs) (e : CreateEnv)
  | startServer (server : Addr) (ret : Int)
  | destroyServer (server : Addr) (ret : Int)
  | addService (kind : ServiceKind) (server : Addr) (service : Option OckRpcService)
  | connect (a : ConnectArgs) (e : ConnectEnv)
  | receive (ctx : Addr) (e : ReceiveEnv)
  | rndvReceive (ctx : Addr) (e : RndvEnv)
  /-- The steps of a disconnect after the first. -/
  | eraseAllocator (client : Addr)
  | releaseRegion (client : Addr)
  | closeChannel (client : Addr)

namespace OtherOp

def run (w : World) : OtherOp → World
  | createServer a e => (ockRpcServerCreateWithCfg w a e).1
  | startServer server ret => (ockRpcServerStart w server ret).1
  | destroyServer server ret => ockRpcServerDestroy w server ret
  | addService kind server service => (Hcom4db.addService w kind server service).1
  | connect a e => (ockRpcClientConnectWithCfg w a e).1
  | receive ctx e => (ockRpcReceiveHandle w ctx e).1
  | rndvReceive ctx e => (ockRpcRndvReceiveHandler w ctx e).1
  | eraseAllocator client => Hcom4db.eraseAllocator w client
  | releaseRegion client => Hcom4db.releaseRegion w client
  | closeChannel client => Hcom4db.closeChannel w client

def freed (w : World) : OtherOp → List Addr
  | releaseRegion client => w.regionBuffer client
  | _ => []

theorem beside (op : OtherOp) (w : World) : Beside (op.freed w) w (op.run w) := by
  cases op with
  | createServer a e => exact createServer_beside w a e
  | startServer server ret => exact .emit w _ ⟨rfl, rfl⟩
  | destroyServer server ret => exact destroyServer_beside w server ret
  | addService kind server service => exact addService_beside w kind server service
  | connect a e => exact connect_beside w a e
  | receive ctx e => exact receive_beside w ctx e
  | rndvReceive ctx e => exact rndvReceive_beside w ctx e
  | eraseAllocator client => exact ⟨rfl, rfl, fun _ _ => ⟨rfl, rfl⟩, [], rfl, by simp⟩
  | releaseRegion client => exact releaseRegion_beside w client
  | closeChannel client => exact .emit w _ ⟨rfl, rfl⟩

end OtherOp

end Hcom4db
