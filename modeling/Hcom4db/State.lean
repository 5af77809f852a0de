import Hcom4db.Types

/-!
# Hcom4db.State

The state every modelled function works on. `World` holds the globals of `hcom4db.cpp`, the memory
of the process and, as ghost state, the callbacks the transport still owes and a trace of what was
done to the outside (newest event first).

* `emit`: append an event.
* `since w w'`: the events added between `w` and `w'`, when `w'` comes from `w`.
-/

namespace Hcom4db

open FlatMem

/-- The transport primitives that take or complete a request. -/
inductive Primitive where
  | syncCall | asyncCall | postSend
  | syncCallRawSgl | asyncCallRawSgl | postSendRawSgl
  | syncRndvCall | asyncRndvCall | syncRndvSglCall | asyncRndvSglCall
  | read | readSgl | write | writeSgl
  | postResponse | postResponseRaw | rndvReply
  deriving DecidableEq

/-- What a transport primitive is asked to send. -/
inductive Payload where
  | message (m : ServiceMessage)
  /-- The answer to the request that came with `rspCtx`. -/
  | response (rspCtx : Addr) (m : ServiceMessage)
  | request (r : ServiceRequest)
  | sgl (iov : List ServiceRequest)
  | sglPtr (p : Addr)
  deriving DecidableEq

/-- A value of `g_logFunc`. -/
inductive LogFunc where
  | hcomLog
  | external (h : Addr)
  deriving DecidableEq

/-- What is registered with a service; `none` is the library's own handler. -/
inductive Registration where
  | oobIpAndPort (ip : CStr) (port : UInt16)
  | channelNew (handler : Option Addr)
  | channelBroken (handler : Option Addr)
  | requestReceived | requestPosted | readWriteDone
  | allocate (handler : Addr)
  | free (handler : Addr)
  | rndvOp
  | tlsCb
  deriving DecidableEq

/-- The arguments of `Service_Connect`; of `Service_ConnectOpt` the two fields the library sets. -/
structure ConnectRequest where
  ip : CStr
  port : UInt16
  payLoad : CStr
  epSize : UInt8
  flags : UInt32

inductive Event where
  /-- `Net_MemoryAllocatorAllocate(a, size)` returned the block at `addr`. -/
  | poolAlloc (a : Addr) (size : Nat) (addr : Addr)
  /-- `Net_MemoryAllocatorFree(a, addr)`, issued by `OckRpcMemFree`. -/
  | poolFree (a addr : Addr)
  /-- `malloc(size)` of the buffer of a pool. -/
  | poolBuffer (p : Addr) (size : UInt64)
  | poolCreate (a : Addr) (options : NetMemoryAllocatorOptions)
  | poolSetKey (a : Addr) (key : UInt32)
  | poolDestroy (a : Addr) (ret : Int)
  /-- `n` bytes stored from `addr` on. -/
  | store (addr n : Nat)
  /-- An entry of a request's `iov` array was assigned. -/
  | iovStore (i : Nat)
  | malloc (p : Addr)
  | stdFree (p : Addr)
  | transport (prim : Primitive) (chan : Addr) (op : Option ServiceOpInfo) (req : Payload)
      (cb : Option ChannelCallback) (ret : Int)
  /-- The user's completion callback, also through a null pointer. -/
  | userCb (cb arg : Addr) (status : OckRpcStatus)
  /-- Bytes `[off, off + n)` of the received message were read by the dispatcher. -/
  | msgRead (off n : Nat)
  /-- The user's message handler, given bytes `[off, off + len)` of the received message. -/
  | handler (h ctx : Addr) (off : Nat) (len : UInt64)
  | rndvHandler (h ctx : Addr) (msg : OckRpcRndvMessage)
  | mrRegister (server mr address : Addr) (size : UInt64)
  | mrDestroy (server mr : Addr)
  | channelConnect (service chan : Addr) (req : ConnectRequest)
  | channelClose (chan : Addr)
  | setOneSideTimeout (chan : Addr) (timeout : Int32)
  | setTwoSideTimeout (chan : Addr) (timeout : Int32)
  | serviceCreate (t : ServiceType) (name : CStr) (service : Addr)
  | register (service : Addr) (r : Registration)
  | serviceStop (service : Addr)
  | serviceDestroy (service : Addr) (ret : Int)
  | serviceStart (service : Addr) (options : ServiceOptions)
  | setExternalLogger (h : LogFunc)
  /-- A function of `g_tlsFunc`, called for a handshake; `0` is a call through a null pointer. -/
  | tlsCall (f : Addr)
  /-- The code acted on a value nobody set, or on freed memory. -/
  | ub

structure World where
  gLogFunc : Option LogFunc := none
  gTlsFunc : TlsFuncs := {}
  gOptions : ServiceOptions := {}
  gConnectionType : ServiceType := .rdma
  gHandleMap : StdMap Int16 Addr := ∅
  gRndvHandleMap : StdMap Int16 Addr := ∅
  gServiceMap : StdMap CStr Addr := ∅
  gMemoryAllocator : StdMap Addr Addr := ∅
  gMemoryRegion : StdMap Addr OckRpcMrInfo := ∅
  gTimeoutTime : Int32 := 1000
  mem : Mem := fun _ => 0
  /-- The callback records that are allocated. -/
  cbInfos : Addr → Option AsyncCbInfo := fun _ => none
  /-- The `reqAddr` arrays that are allocated. -/
  reqAddrs : Addr → Option (List Addr) := fun _ => none
  /-- The caller's response structs. -/
  slots : Addr → OckRpcMessage Addr := fun _ => ⟨0, 0⟩
  /-- The callbacks the transport accepted and has not run. -/
  inflight : List ChannelCallback := []
  trace : List Event := []

namespace World

def emit (w : World) (e : Event) : World := { w with trace := e :: w.trace }

def since (w w' : World) : List Event := w'.trace.take (w'.trace.length - w.trace.length)

@[simp] theorem emit_trace (w : World) (e : Event) : (w.emit e).trace = e :: w.trace := rfl
@[simp] theorem emit_gMemoryAllocator (w : World) (e : Event) :
    (w.emit e).gMemoryAllocator = w.gMemoryAllocator := rfl
@[simp] theorem emit_gMemoryRegion (w : World) (e : Event) :
    (w.emit e).gMemoryRegion = w.gMemoryRegion := rfl
@[simp] theorem emit_cbInfos (w : World) (e : Event) : (w.emit e).cbInfos = w.cbInfos := rfl
@[simp] theorem emit_reqAddrs (w : World) (e : Event) : (w.emit e).reqAddrs = w.reqAddrs := rfl

theorem since_of_trace {w w' : World} {evs : List Event} (h : w'.trace = evs ++ w.trace) :
    w.since w' = evs := by
  simp [since, h]

@[simp] theorem since_self (w : World) : w.since w = [] := by simp [since]

theorem since_append {w w' w'' : World} {es fs : List Event} (h : w'.trace = es ++ w.trace)
    (h' : w''.trace = fs ++ w'.trace) : w.since w'' = fs ++ es := by
  rw [h, ← List.append_assoc] at h'
  exact since_of_trace h'

end World

/-! ## Reading a trace -/

/-- The address an event passes to `OckRpcMemFree`. -/
def Event.poolFreed? : Event → Option Addr
  | .poolFree _ x => some x
  | _ => none

def Event.stdFreed? : Event → Option Addr
  | .stdFree x => some x
  | _ => none

/-- The block an allocation event hands out: address and requested size. -/
def Event.block? : Event → Option (Addr × Nat)
  | .poolAlloc _ size addr => some (addr, size)
  | _ => none

/-- The span an event stores to. -/
def Event.stored? : Event → Option (Addr × Nat)
  | .store addr n => some (addr, n)
  | _ => none

def Event.iovIndex? : Event → Option Nat
  | .iovStore i => some i
  | _ => none

/-- The user callback an event calls. -/
def Event.userCall? : Event → Option (Addr × Addr × OckRpcStatus)
  | .userCb cb arg st => some (cb, arg, st)
  | _ => none

/-- The message handler an event calls, with the span of the message it is given. -/
def Event.handled? : Event → Option (Addr × Addr × Nat × UInt64)
  | .handler h ctx off len => some (h, ctx, off, len)
  | _ => none

def poolFreed (evs : List Event) : List Addr := evs.filterMap Event.poolFreed?
def stdFreed (evs : List Event) : List Addr := evs.filterMap Event.stdFreed?
def blocks (evs : List Event) : List (Addr × Nat) := evs.filterMap Event.block?
def userCalls (evs : List Event) : List (Addr × Addr × OckRpcStatus) :=
  evs.filterMap Event.userCall?

def stores (evs : List Event) : List (Addr × Nat) := evs.filterMap Event.stored?

def iovIndices (evs : List Event) : List Nat := evs.filterMap Event.iovIndex?

def handledMsgs (evs : List Event) : List (Addr × Addr × Nat × UInt64) :=
  evs.filterMap Event.handled?

/-- The addresses of the blocks handed out in a trace. -/
def taken (evs : List Event) : List Addr := (blocks evs).map Prod.fst

@[simp] theorem poolFreed_nil : poolFreed [] = [] := rfl
@[simp] theorem poolFreed_cons (e : Event) (es : List Event) :
    poolFreed (e :: es) = e.poolFreed?.toList ++ poolFreed es := by
  rw [poolFreed, List.filterMap_cons]; cases e.poolFreed? <;> rfl
@[simp] theorem poolFreed_append (es fs : List Event) :
    poolFreed (es ++ fs) = poolFreed es ++ poolFreed fs := List.filterMap_append

@[simp] theorem stdFreed_nil : stdFreed [] = [] := rfl
@[simp] theorem stdFreed_cons (e : Event) (es : List Event) :
    stdFreed (e :: es) = e.stdFreed?.toList ++ stdFreed es := by
  rw [stdFreed, List.filterMap_cons]; cases e.stdFreed? <;> rfl
@[simp] theorem stdFreed_append (es fs : List Event) :
    stdFreed (es ++ fs) = stdFreed es ++ stdFreed fs := List.filterMap_append

@[simp] theorem blocks_nil : blocks [] = [] := rfl
@[simp] theorem blocks_cons (e : Event) (es : List Event) :
    blocks (e :: es) = e.block?.toList ++ blocks es := by
  rw [blocks, List.filterMap_cons]; cases e.block? <;> rfl
@[simp] theorem blocks_append (es fs : List Event) : blocks (es ++ fs) = blocks es ++ blocks fs :=
  List.filterMap_append

@[simp] theorem stores_nil : stores [] = [] := rfl
@[simp] theorem stores_cons (e : Event) (es : List Event) :
    stores (e :: es) = e.stored?.toList ++ stores es := by
  rw [stores, List.filterMap_cons]; cases e.stored? <;> rfl
@[simp] theorem stores_append (es fs : List Event) : stores (es ++ fs) = stores es ++ stores fs :=
  List.filterMap_append

@[simp] theorem iovIndices_nil : iovIndices [] = [] := rfl
@[simp] theorem iovIndices_cons (e : Event) (es : List Event) :
    iovIndices (e :: es) = e.iovIndex?.toList ++ iovIndices es := by
  rw [iovIndices, List.filterMap_cons]; cases e.iovIndex? <;> rfl
@[simp] theorem iovIndices_append (es fs : List Event) :
    iovIndices (es ++ fs) = iovIndices es ++ iovIndices fs := List.filterMap_append

@[simp] theorem taken_nil : taken [] = [] := rfl
@[simp] theorem taken_cons (e : Event) (es : List Event) :
    taken (e :: es) = (e.block?.map Prod.fst).toList ++ taken es := by
  rw [taken, blocks_cons]; cases e.block? <;> rfl
@[simp] theorem taken_append (es fs : List Event) : taken (es ++ fs) = taken es ++ taken fs := by
  simp [taken]

@[simp] theorem handledMsgs_nil : handledMsgs [] = [] := rfl
@[simp] theorem handledMsgs_cons (e : Event) (es : List Event) :
    handledMsgs (e :: es) = e.handled?.toList ++ handledMsgs es := by
  rw [handledMsgs, List.filterMap_cons]; cases e.handled? <;> rfl

@[simp] theorem userCalls_nil : userCalls [] = [] := rfl
@[simp] theorem userCalls_cons (e : Event) (es : List Event) :
    userCalls (e :: es) = e.userCall?.toList ++ userCalls es := by
  rw [userCalls, List.filterMap_cons]; cases e.userCall? <;> rfl
@[simp] theorem userCalls_append (es fs : List Event) :
    userCalls (es ++ fs) = userCalls es ++ userCalls fs := List.filterMap_append

attribute [simp] Event.poolFreed? Event.stdFreed? Event.block? Event.iovIndex? Event.userCall?
  Event.handled? Event.stored?

end Hcom4db
