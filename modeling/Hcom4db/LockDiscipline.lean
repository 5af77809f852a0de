import Hcom4db.Base.Discipline
import Hcom4db.Frames
import Hcom4db.HandlerLocks

/-!
# Hcom4db.LockDiscipline

Which accesses to the three registries stand under their locks. Each operation and each dispatch of
`HandlerLocks` is written again with its accesses and with the mode of its releases; `forget_prog`: without
these it is the code of `HandlerLocks`.

* `write_traced`: a call changes a registry only where its trace writes it.
* `lock_discipline_iff`: the operations, states and branches whose trace keeps the discipline.
-/

namespace Hcom4db

namespace LockDiscipline

open Locks HandlerLocks

inductive Registry where
  | gServiceMap | gHandleMap | gRndvHandleMap
  deriving DecidableEq

def guard : Registry → Lock
  | .gServiceMap => .serviceMutex
  | .gHandleMap => .serviceAddMutex
  | .gRndvHandleMap => .serviceAddRndvMutex

/-- The map a kind of service is registered in. -/
def handleMap : ServiceKind → Registry
  | .plain => .gHandleMap
  | .rndv => .gRndvHandleMap

/-- What a registry holds. -/
def Registry.Content : Registry → Type
  | .gServiceMap => StdMap CStr Addr
  | .gHandleMap => StdMap Int16 Addr
  | .gRndvHandleMap => StdMap Int16 Addr

def content : (x : Registry) → World → x.Content
  | .gServiceMap, w => w.gServiceMap
  | .gHandleMap, w => w.gHandleMap
  | .gRndvHandleMap, w => w.gRndvHandleMap

abbrev LockTrace := List (LockEvent Lock Registry)

abbrev LockProg := Prog Lock Registry World

/-! ## The public functions -/

/-- A step that takes no lock and touches no registry. -/
def quiet (f : World → World) : LockProg := .act f fun _ => .done

/-- What `OckRpcServerAddService` and `OckRpcServerAddRndvService` do once `g_serviceMap` was searched; every
way out has its own `unlock`. -/
def addServiceEvents (w : World) (kind : ServiceKind) (server : Addr) (service : Option OckRpcService) :
    LockTrace :=
  match serviceKey w server with
  | none => [.release (mutex kind) .exclusive]
  | some _ =>
    match service with
    | none => [.release (mutex kind) .exclusive]
    | some service =>
      if maxMessageIdSize ≤ service.id.toNat then [.release (mutex kind) .exclusive]
      else if service.handler = 0 then [.release (mutex kind) .exclusive]
      else [.read (handleMap kind), .write (handleMap kind), .release (mutex kind) .exclusive]

def addServiceProg (kind : ServiceKind) (server : Addr) (service : Option OckRpcService) : LockProg :=
  .events [.acquire (mutex kind) .exclusive, .read .gServiceMap]
    (.act (fun w => (addService w kind server service).1) fun w =>
      .events (addServiceEvents w kind server service) .done)

/-- What `OckRpcServerDestroy` does once `g_serviceMap` was searched. -/
def destroyEvents (w : World) (server : Addr) (ret : Int) : LockTrace :=
  match serviceKey w server with
  | none => [.release .serviceMutex .exclusive]
  | some _ =>
    if ret ≠ ockRpcOk then [.release .serviceMutex .exclusive]
    else [.write .gServiceMap, .release .serviceMutex .exclusive]

def destroyProg (server : Addr) (ret : Int) : LockProg :=
  .events [.acquire .serviceMutex .exclusive, .read .gServiceMap]
    (.act (fun w => destroyLocked w server ret) fun w =>
      .events (destroyEvents w server ret)
        (if (serviceKey w server).isSome ∧ ret = ockRpcOk then quiet resetOptions else .done))

/-- `OckRpcCreateServer` once the name was searched: the entry is inserted under the shared lock. -/
def insertEvents (w : World) (name : CStr) : LockTrace :=
  match w.gServiceMap.find name with
  | some _ => [.release .serviceMutex .shared]
  | none => [.write .gServiceMap, .release .serviceMutex .shared]

/-- The part of `OckRpcCreateServer` that holds the lock. -/
def insertProg (configMap : ConfigMap) (service : Addr) : LockProg :=
  .events [.acquire .serviceMutex .shared, .read .gServiceMap]
    (.act (fun w => insertService w configMap service) fun w =>
      .events (insertEvents w (configuredName configMap)) .done)

def createProg (a : CreateArgs) (e : CreateEnv) : LockProg :=
  .act (fun w => (createBegin w a e).1) fun w =>
    match (createBegin w a e).2 with
    | none => .done
    | some (ip, configs, configMap) =>
      (insertProg configMap e.service).seq
        (.act (fun w => (initOptions w a ip configs configMap e.service).1) fun w =>
          if (initOptions w a ip configs configMap e.service).2 then .done
          else destroyProg e.service e.destroyRet)

/-- `OckRpcGetCurService` once the name was searched: the iterator is dereferenced after the release. -/
def getCurServiceEvents (w : World) (name : CStr) : LockTrace :=
  match w.gServiceMap.find name with
  | none => [.release .serviceMutex .shared]
  | some _ => [.release .serviceMutex .shared, .read .gServiceMap]

def connectProg (a : ConnectArgs) (e : ConnectEnv) : LockProg :=
  match ockRpcCheckClientCreateCfg a with
  | none => .done
  | some (ip, configs) =>
    match ockRpcInitConfigMap configs with
    | none => .done
    | some configMap =>
      if 64 < (configuredName configMap).length then .done
      else
        .events [.acquire .serviceMutex .shared, .read .gServiceMap] (.act id fun w =>
          .events (getCurServiceEvents w (configuredName configMap))
            (match w.gServiceMap.find (configuredName configMap) with
            | none => .done
            | some service => quiet fun w => (connectTo w a ip configMap service e).1))

def callProg : Call → LockProg
  | .create a e => createProg a e
  | .add kind server service => addServiceProg kind server service
  | .start server ret => quiet fun w => (ockRpcServerStart w server ret).1
  | .destroy server ret => destroyProg server ret
  | .connect a e => connectProg a e
  | .disconnect client ret => quiet fun w => ockRpcClientDisconnect w client ret
  | .setTimeout client timeout => quiet fun w => ockRpcClientSetTimeout w client timeout
  | .submit op done e => quiet fun w => (op.submit w done e).1
  | .other f => quiet f

/-! ## The dispatchers -/

/-- The lookup and the call of a handler, with the calls it makes. The lock is taken by `lock_shared` and
released by `unlock`. C++ leaves that undefined; in the library `build.sh` builds (gcc, `libstdc++` on Linux)
`unlock` and `unlock_shared` are the same, and end the hold of the calling thread. -/
def dispatchProg (H : Handlers) (kind : ServiceKind) (id : UInt16) (event : Addr → Event) : LockProg :=
  .events [.acquire (mutex kind) .shared, .read (handleMap kind)]
    (.act (fun w => match (w.handlers kind).find id.toInt16 with
        | some h => w.emit (event h)
        | none => w) fun w => match (w.handlers kind).find id.toInt16 with
        | some h => .event (.read (handleMap kind))
            ((Prog.seqAll ((H.body h).map callProg)).seq (.event (.release (mutex kind) .exclusive) .done))
        | none => .event (.release (mutex kind) .exclusive) .done)

def receiveProg (H : Handlers) (ctx : Addr) (e : ReceiveEnv) : LockProg :=
  match e.data with
  | none => .done
  | some b =>
    let len := e.dataLen.toUInt64
    match e.ctxType with
    | none => .done
    | some .receivedRaw =>
      .act (fun w => w.emit (.msgRead 0 sizeofRawMessageHeader)) fun _ =>
        dispatchProg H .plain (rawMsgId b) fun h =>
          .handler h ctx sizeofRawMessageHeader (len - UInt64.ofNat sizeofRawMessageHeader)
    | some _ =>
      match e.opCode with
      | none => .done
      | some opCode => dispatchProg H .plain opCode fun h => .handler h ctx 0 len

def rndvReceiveProg (H : Handlers) (ctx : Addr) (e : RndvEnv) : LockProg :=
  match e.message with
  | none => .done
  | some rndvMsg =>
    let msg := { cnt := rndvMsg.cnt, msg := (List.range rndvMsg.cnt.toNat).map fun i =>
      ⟨(rndvMsg.msg i).data, (rndvMsg.msg i).size.toUInt64⟩ }
    .act (fun w => if maxMessageSglCount < rndvMsg.cnt.toNat then w.emit .ub else w) fun _ =>
      match e.ctxType with
      | none => .done
      | some _ =>
        match e.opCode with
        | none => .done
        | some opCode => dispatchProg H .rndv opCode fun h => .rndvHandler h ctx msg

def prog : Task → LockProg
  | .call c => callProg c
  | .receive H ctx e => receiveProg H ctx e
  | .rndvReceive H ctx e => rndvReceiveProg H ctx e

/-- The locks an operation takes and releases and the registries it reads and writes, when it starts in `w`. -/
def lockTrace (t : Task) (w : World) : LockTrace := (prog t).trace w

/-! ## Without the accesses -/

theorem quiet_forget (f : World → World) : (quiet f).forget = lockFree f := rfl

theorem addServiceProg_forget (kind : ServiceKind) (server : Addr) (service : Option OckRpcService) :
    (addServiceProg kind server service).forget = addServiceCode kind server service := by
  have hrelease : ∀ w, (Prog.events (addServiceEvents w kind server service) .done : LockProg).forget =
      .release (mutex kind) .done := by
    intro w
    unfold addServiceEvents
    split
    · rfl
    · split
      · rfl
      · split
        · rfl
        · split <;> rfl
  refine congrArg (Code.acquire (mutex kind) .exclusive) (congrArg (Code.act _) (funext fun w => ?_))
  exact hrelease w

theorem destroyProg_forget (server : Addr) (ret : Int) :
    (destroyProg server ret).forget = destroyCode server ret := by
  have hrelease : ∀ w (rest : LockProg), (Prog.events (destroyEvents w server ret) rest).forget =
      .release .serviceMutex rest.forget := by
    intro w rest
    unfold destroyEvents
    split
    · rfl
    · split <;> rfl
  refine congrArg (Code.acquire Lock.serviceMutex .exclusive) (congrArg (Code.act _) (funext fun w => ?_))
  rw [hrelease]
  split <;> rfl

theorem insertProg_forget (configMap : ConfigMap) (service : Addr) : (insertProg configMap service).forget =
    (lockFree fun w => insertService w configMap service).locked .serviceMutex .shared := by
  refine congrArg (Code.acquire Lock.serviceMutex .shared) (congrArg (Code.act _) (funext fun w => ?_))
  simp only [insertEvents]
  cases w.gServiceMap.find (configuredName configMap) <;> rfl

theorem createProg_forget (a : CreateArgs) (e : CreateEnv) :
    (createProg a e).forget = createCode a e := by
  refine congrArg (Code.act _) (funext fun w => ?_)
  simp only
  cases (createBegin w a e).2 with
  | none => rfl
  | some cfg =>
    obtain ⟨ip, configs, configMap⟩ := cfg
    simp only [Prog.forget_seq, insertProg_forget]
    refine congrArg (Code.seq _) (congrArg (Code.act _) (funext fun w => ?_))
    simp only
    split
    · rfl
    · exact destroyProg_forget _ _

theorem connectProg_forget (a : ConnectArgs) (e : ConnectEnv) :
    (connectProg a e).forget = connectCode a e := by
  unfold connectProg connectCode
  cases ockRpcCheckClientCreateCfg a with
  | none => rfl
  | some cfg =>
    obtain ⟨ip, configs⟩ := cfg
    simp only
    cases ockRpcInitConfigMap configs with
    | none => rfl
    | some configMap =>
      simp only
      split
      · rfl
      · refine congrArg (Code.acquire Lock.serviceMutex .shared) (congrArg (Code.act _) (funext fun w => ?_))
        simp only [getCurServiceEvents]
        cases w.gServiceMap.find (configuredName configMap) <;> rfl

theorem callProg_forget (c : Call) : (callProg c).forget = c.code := by
  cases c with
  | create a e => exact createProg_forget a e
  | add kind server service => exact addServiceProg_forget kind server service
  | destroy server ret => exact destroyProg_forget server ret
  | connect a e => exact connectProg_forget a e
  | _ => exact quiet_forget _

theorem dispatchProg_forget (H : Handlers) (kind : ServiceKind) (id : UInt16) (event : Addr → Event) :
    (dispatchProg H kind id event).forget = dispatchCode H kind id event := by
  refine congrArg (Code.acquire (mutex kind) .shared) (congrArg (Code.act _) (funext fun w => ?_))
  simp only
  cases (w.handlers kind).find id.toInt16 with
  | none => rfl
  | some h =>
    have hmap : ((H.body h).map callProg).map Prog.forget = (H.body h).map Call.code := by
      rw [List.map_map]
      exact List.map_congr_left fun c _ => callProg_forget c
    simp only [Prog.forget, Prog.forget_seq, Prog.forget_seqAll, hmap]

/-- **The traces are those of the code that was verified**: without its accesses and the modes of its releases,
an operation is the one of `HandlerLocks`, which does what the functions of the library do. -/
theorem forget_prog (t : Task) : (prog t).forget = t.code := by
  cases t with
  | call c => exact callProg_forget c
  | receive H ctx e =>
    simp only [prog, Task.code, receiveProg, receiveCode]
    cases e.data with
    | none => rfl
    | some b =>
      cases e.ctxType with
      | none => rfl
      | some t =>
        cases t with
        | receivedRaw => exact congrArg (Code.act _) (funext fun _ => dispatchProg_forget _ _ _ _)
        | _ =>
          cases e.opCode with
          | none => rfl
          | some opCode => exact dispatchProg_forget _ _ _ _
  | rndvReceive H ctx e =>
    simp only [prog, Task.code, rndvReceiveProg, rndvReceiveCode]
    cases e.message with
    | none => rfl
    | some rndvMsg =>
      refine congrArg (Code.act _) (funext fun w => ?_)
      simp only
      cases e.ctxType with
      | none => rfl
      | some t =>
        cases e.opCode with
        | none => rfl
        | some opCode => exact dispatchProg_forget _ _ _ _

/-! ## The traces -/

section Traces

variable {w : World} {kind : ServiceKind}

theorem mutex_ne_serviceMutex : mutex kind ≠ .serviceMutex := by
  cases kind <;> simp [mutex]

theorem addService_trace (w : World) (kind : ServiceKind) (server : Addr) (service : Option OckRpcService) :
    (addServiceProg kind server service).trace w =
      [.acquire (mutex kind) .exclusive, .read .gServiceMap] ++ addServiceEvents w kind server service := by
  simp [addServiceProg]

theorem destroy_trace (w : World) (server : Addr) (ret : Int) : (destroyProg server ret).trace w =
    [.acquire .serviceMutex .exclusive, .read .gServiceMap] ++ destroyEvents w server ret := by
  unfold destroyProg
  simp only [Prog.trace_events, Prog.trace_act]
  split <;> simp [quiet]

theorem insert_trace (w : World) (configMap : ConfigMap) (service : Addr) :
    (insertProg configMap service).trace w =
      [.acquire .serviceMutex .shared, .read .gServiceMap] ++ insertEvents w (configuredName configMap) := by
  simp [insertProg]

/-- `g_serviceMap` is searched without `serviceMutex`. -/
theorem addService_not_disciplined (w : World) (kind : ServiceKind) (server : Addr)
    (service : Option OckRpcService) : ¬ Disciplined guard ((addServiceProg kind server service).trace w) := by
  rw [addService_trace, disciplined_iff]
  rintro ⟨-, hread, -⟩
  obtain ⟨m, hm⟩ := hread
  exact mutex_ne_serviceMutex (congrArg Prod.fst (List.mem_singleton.mp hm)).symm

theorem destroy_disciplined (w : World) (server : Addr) (ret : Int) :
    Disciplined guard ((destroyProg server ret).trace w) := by
  rw [destroy_trace, disciplined_iff]
  unfold destroyEvents
  split
  · simp [Follows, LockEvent.Allowed, LockEvent.after, guard]
  · split <;> simp [Follows, LockEvent.Allowed, LockEvent.after, guard]

/-- The insertion of a create keeps the discipline when nothing is inserted. -/
theorem insert_disciplined_iff {configMap : ConfigMap} {service : Addr} :
    Disciplined guard ((insertProg configMap service).trace w) ↔
      (w.gServiceMap.find (configuredName configMap)).isSome := by
  rw [insert_trace, disciplined_iff]
  unfold insertEvents
  cases w.gServiceMap.find (configuredName configMap) with
  | some v => simp [Follows, LockEvent.Allowed, LockEvent.after, guard]
  | none => simp [Follows, LockEvent.Allowed, LockEvent.after, guard]

theorem insert_heldAfter {configMap : ConfigMap} {service : Addr} :
    heldAfter [] ((insertProg configMap service).trace w) = [] := by
  rw [insert_trace]
  unfold insertEvents
  cases w.gServiceMap.find (configuredName configMap) with
  | some v => simp [heldAfter, LockEvent.after]
  | none => simp [heldAfter, LockEvent.after]

theorem createService_eq_true_iff {configMap : ConfigMap} {e : CreateEnv} :
    (createService w configMap e).2 = true ↔ ServiceAccepts configMap e := by
  rcases createService_ends w configMap e with ⟨hno, -, hret⟩ | ⟨hyes, hw⟩
  · rcases createServer_cases w configMap e with ⟨hrej, -⟩ | ⟨-, t, t', hw'⟩
    · simp [hno, hrej]
    · rw [hw'] at hret
      exact absurd rfl hret
  · rcases createServer_cases w configMap e with ⟨-, t, st, hw', hst⟩ | ⟨hacc, -⟩
    · rw [hw] at hw'
      exact absurd (congrArg Prod.snd hw').symm hst
    · simp [hyes, hacc]

theorem createService_content (w : World) (configMap : ConfigMap) (e : CreateEnv) (x : Registry) :
    content x (createService w configMap e).1 = content x w := by
  unfold createService
  simp only
  split
  · rfl
  · split
    · cases x <;> rfl
    · split
      · cases x <;> rfl
      · cases x <;> rfl

/-- A create takes the lock when it passes its checks. -/
theorem createBegin_eq_some_iff {a : CreateArgs} {e : CreateEnv} {ip : CStr} {configs : OckRpcCreateConfig}
    {m : ConfigMap} : (createBegin w a e).2 = some (ip, configs, m) ↔ GetsService a e ip configs m := by
  unfold createBegin
  constructor
  · intro h
    split at h
    · cases h
    · rename_i hload
      split at h
      · cases h
      · rename_i ip' configs' hchecked
        split at h
        · cases h
        · rename_i m' hmap
          split at h
          · cases h
          · rename_i w1 hservice
            cases h
            exact ⟨not_not.mp hload, hchecked, hmap,
              createService_eq_true_iff.mp (congrArg Prod.snd hservice)⟩
  · intro h
    have hservice := (createService_eq_true_iff (w := setExternalLogger w)).mpr h.service
    generalize hr : createService (setExternalLogger w) m e = r at hservice
    obtain ⟨w1, b⟩ := r
    cases hservice
    simp only [h.loaded, h.checked, h.map, hr, ne_eq, not_true_eq_false, if_false]

theorem createBegin_content (w : World) (a : CreateArgs) (e : CreateEnv) (x : Registry) :
    content x (createBegin w a e).1 = content x w := by
  unfold createBegin
  split
  · rfl
  · split
    · rfl
    · split
      · rfl
      · rename_i m _
        have hlogger : content x (setExternalLogger w) = content x w := by
          cases x <;> rfl
        have hkeep := createService_content (setExternalLogger w) m e x
        split
        · rename_i w1 hservice
          rw [hservice] at hkeep
          exact hkeep.trans hlogger
        · rename_i w1 hservice
          rw [hservice] at hkeep
          exact hkeep.trans hlogger

theorem createBegin_gServiceMap (w : World) (a : CreateArgs) (e : CreateEnv) :
    (createBegin w a e).1.gServiceMap = w.gServiceMap := createBegin_content w a e .gServiceMap

end Traces

/-! ## Every change is traced -/

/-- A function that is not listed changes no registry. -/
def CallWithin : Call → Prop
  | .other f => ∀ w x, content x (f w) = content x w
  | _ => True

/-- The task, and what its handlers do, changes the registries by the listed functions only. -/
def Within : Task → Prop
  | .call c => CallWithin c
  | .receive H _ _ => ∀ h, ∀ c ∈ H.body h, CallWithin c
  | .rndvReceive H _ _ => ∀ h, ∀ c ∈ H.body h, CallWithin c

section Writes

variable {w w' : World} {service : Addr}

theorem content_of_call {P : Event → Prop} (h : CallFrame P w w') (x : Registry) :
    content x w' = content x w := by
  rw [h.rest]
  cases x <;> rfl

theorem content_of_client (h : ClientFrame w w') (x : Registry) : content x w' = content x w := by
  rw [h.rest]
  cases x <;> rfl

theorem content_of_registers (h : Registers service w w') (x : Registry) : content x w' = content x w := by
  rw [h.rest]
  cases x <;> rfl

theorem content_of_message (h : MessageFrame w w') : content .gServiceMap w' = content .gServiceMap w :=
  h.gServiceMap

theorem content_emit (w : World) (ev : Event) (x : Registry) : content x (w.emit ev) = content x w := by
  cases x <;> rfl

theorem quiet_traced {f : World → World} (hf : ∀ w x, content x (f w) = content x w) :
    Prog.Traced content (quiet f) :=
  Prog.traced_act hf fun _ => Prog.traced_done

/-- A call that adds a service and succeeds writes the map of its kind. -/
theorem write_mem_addServiceEvents {w : World} {kind : ServiceKind} {server : Addr} {s : OckRpcService}
    (h : AddAccepts w server s) : .write (handleMap kind) ∈ addServiceEvents w kind server (some s) := by
  obtain ⟨name, hname⟩ := Option.isSome_iff_exists.mp h.server
  have hid : ¬ maxMessageIdSize ≤ s.id.toNat := not_le.mpr h.id
  simp [addServiceEvents, hname, hid, h.handler]

theorem addService_traced (kind : ServiceKind) (server : Addr) (service : Option OckRpcService) :
    Prog.Traced content (addServiceProg kind server service) := by
  intro w x hx
  have hrun : (addServiceProg kind server service).run w = (addService w kind server service).1 := by
    unfold Prog.run
    rw [addServiceProg_forget]
    rfl
  rw [hrun]
  rw [addService_trace] at hx
  rcases addHandler_cases w (w.handlers kind) server service with ⟨-, hr⟩ | ⟨s, rfl, hacc, -⟩
  · have hself := Services.addService_handlers_self w kind server service
    rw [hr] at hself
    have hst : (addService w kind server service).2 ≠ ockRpcOk := by
      rw [congrArg Prod.snd hself]
      exact ockRpcErrInvalidParam_ne_ok
    rw [Services.addService_rejected w kind server service hst]
  · -- only the map of the kind is assigned
    have hne : x ≠ handleMap kind := by
      rintro rfl
      exact hx (List.mem_append_right _ (write_mem_addServiceEvents hacc))
    cases x with
    | gServiceMap => exact content_of_message (addService_frame w kind server _)
    | gHandleMap =>
      cases kind with
      | plain => exact absurd rfl hne
      | rndv => rfl
    | gRndvHandleMap =>
      cases kind with
      | plain => rfl
      | rndv => exact absurd rfl hne

theorem destroy_traced (server : Addr) (ret : Int) : Prog.Traced content (destroyProg server ret) := by
  intro w x hx
  have hrun : (destroyProg server ret).run w = ockRpcServerDestroy w server ret := by
    unfold Prog.run
    rw [destroyProg_forget, destroyCode_run]
  rw [hrun]
  rw [destroy_trace] at hx
  cases hk : serviceKey w server with
  | none => rw [serverDestroy_missing hk]
  | some name =>
    rcases serverDestroy_found hk ret with ⟨-, h⟩ | ⟨hret, h⟩
    · rw [h]
      cases x <;> rfl
    · cases x with
      | gServiceMap => exact absurd (by simp [destroyEvents, hk, hret]) hx
      | gHandleMap =>
        rw [h]
        rfl
      | gRndvHandleMap =>
        rw [h]
        rfl

theorem insert_traced (m : ConfigMap) (service : Addr) : Prog.Traced content (insertProg m service) := by
  intro w x hx
  rw [insert_trace] at hx
  have hrun : (insertProg m service).run w = insertService w m service := by
    unfold Prog.run
    rw [insertProg_forget]
    rfl
  rw [hrun]
  cases x with
  | gServiceMap =>
    cases hfind : w.gServiceMap.find (configuredName m) with
    | none => exact absurd (by simp [insertEvents, hfind]) hx
    | some v =>
      show w.gServiceMap.insertNew (configuredName m) service = w.gServiceMap
      unfold StdMap.insertNew
      rw [hfind]
  | gHandleMap => rfl
  | gRndvHandleMap => rfl

theorem initOptions_registers (w : World) (a : CreateArgs) (ip : CStr) (configs : OckRpcCreateConfig)
    (m : ConfigMap) (service : Addr) : Registers service w (initOptions w a ip configs m service).1 := by
  have h := (registerHandlers_registers w service ip a.port m).toRegisters
  unfold initOptions
  simp only
  generalize registerHandlers w service ip a.port m = w1 at h ⊢
  have hopt := h.trans (Registers.setOptions service w1 (ockRpcDefaultOptionInit m w1.gOptions ip).1)
  split
  · exact hopt
  · rcases expandOptionInit_cases (w1.setOptions (ockRpcDefaultOptionInit m w1.gOptions ip).1) service configs
      m with ⟨-, hp, -⟩ | ⟨-, w2, hp, hexp⟩
    · exact hopt.trans hp.toRegisters
    · simp only [hexp]
      exact (hopt.trans hp.toRegisters).trans (setTlsConfigs_cases w2 service configs m).1

theorem create_traced (a : CreateArgs) (e : CreateEnv) : Prog.Traced content (createProg a e) := by
  refine Prog.traced_act (fun w x => createBegin_content w a e x) fun w => ?_
  split
  · exact Prog.traced_done
  · refine (insert_traced _ _).seq (Prog.traced_act (fun w x => ?_) fun w => ?_)
    · exact content_of_registers (initOptions_registers w a _ _ _ _) x
    · split
      · exact Prog.traced_done
      · exact destroy_traced _ _

theorem connect_traced (a : ConnectArgs) (e : ConnectEnv) : Prog.Traced content (connectProg a e) := by
  intro w x _
  unfold Prog.run
  rw [connectProg_forget, connectCode_run]
  exact content_of_client (connect_frame w a e) x

theorem call_traced {c : Call} (h : CallWithin c) : Prog.Traced content (callProg c) := by
  cases c with
  | create a e => exact create_traced a e
  | add kind server service => exact addService_traced kind server service
  | start server ret => exact quiet_traced fun w x => content_emit w _ x
  | destroy server ret => exact destroy_traced server ret
  | connect a e => exact connect_traced a e
  | disconnect client ret => exact quiet_traced fun w x => content_of_client (disconnect_frame w client ret) x
  | setTimeout client timeout =>
    refine quiet_traced fun w x => ?_
    cases x <;> rfl
  | submit op done e => exact quiet_traced fun w x => content_of_call (op.submit_callFrame w done e) x
  | other f => exact quiet_traced h

theorem dispatch_traced {H : Handlers} (hH : ∀ h, ∀ c ∈ H.body h, CallWithin c) (kind : ServiceKind)
    (id : UInt16) (event : Addr → Event) : Prog.Traced content (dispatchProg H kind id event) := by
  refine .event _ (.event _ (Prog.traced_act (fun w x => ?_) fun w => ?_))
  · split
    · exact content_emit w _ x
    · rfl
  · split
    · rename_i h _
      refine .event _ (.seq (Prog.traced_seqAll fun p hp => ?_) (.event _ Prog.traced_done))
      obtain ⟨c, hc, rfl⟩ := List.mem_map.mp hp
      exact call_traced (hH h c hc)
    · exact .event _ Prog.traced_done

/-- **No write is missing**: an operation, with what its handlers do, changes only registries that its trace
writes. -/
theorem write_traced {t : Task} (ht : Within t) : Prog.Traced content (prog t) := by
  cases t with
  | call c => exact call_traced ht
  | receive H ctx e =>
    simp only [prog, receiveProg]
    split
    · exact Prog.traced_done
    · split
      · exact Prog.traced_done
      · exact Prog.traced_act (fun w x => content_emit w _ x) fun _ => dispatch_traced ht _ _ _
      · split
        · exact Prog.traced_done
        · exact dispatch_traced ht _ _ _
  | rndvReceive H ctx e =>
    simp only [prog, rndvReceiveProg]
    split
    · exact Prog.traced_done
    · refine Prog.traced_act (fun w x => ?_) fun w => ?_
      · split
        · exact content_emit w _ x
        · rfl
      · split
        · exact Prog.traced_done
        · split
          · exact Prog.traced_done
          · exact dispatch_traced ht _ _ _

end Writes

/-! ## Keeping the discipline -/

/-- A create that gets a service finds its name in `g_serviceMap`, and inserts nothing. -/
def NameTaken (w : World) (a : CreateArgs) (e : CreateEnv) : Prop :=
  ∀ ip configs m, GetsService a e ip configs m → (w.gServiceMap.find (configuredName m)).isSome

/-- A connect that looks for its service finds none. -/
def ServiceMissing (w : World) (a : ConnectArgs) : Prop :=
  ∀ ip configs m, ockRpcCheckClientCreateCfg a = some (ip, configs) → ockRpcInitConfigMap configs = some m →
    (configuredName m).length ≤ 64 → w.gServiceMap.find (configuredName m) = none

/-- When the trace of a call keeps the discipline. -/
def CallKeeps (w : World) : Call → Prop
  | .create a e => NameTaken w a e
  | .add _ _ _ => False
  | .connect a _ => ServiceMissing w a
  | _ => True

/-- When the trace of an operation keeps the discipline; a dispatch does so when it finds no id to look up. -/
def Keeps (w : World) : Task → Prop
  | .call c => CallKeeps w c
  | .receive _ _ e => e.msgId = none
  | .rndvReceive _ _ e => e.msgId = none

section Discipline

variable {w : World} {a : CreateArgs} {e : CreateEnv} {kind : ServiceKind}

theorem create_trace (hb : (createBegin w a e).2 = none) : (createProg a e).trace w = [] := by
  simp only [createProg, Prog.trace_act, hb, Prog.trace_done]

/-- Behind the insertion, a create takes its lock in a destroy or not at all. -/
theorem create_trace_insert {ip : CStr} {configs : OckRpcCreateConfig} {m : ConfigMap}
    (hb : (createBegin w a e).2 = some (ip, configs, m)) : ∃ after,
    (createProg a e).trace w = (insertProg m e.service).trace (createBegin w a e).1 ++ after ∧
      (after = [] ∨ ∃ w', after = (destroyProg e.service e.destroyRet).trace w') := by
  simp only [createProg, Prog.trace_act, hb, Prog.trace_seq]
  refine ⟨_, rfl, ?_⟩
  split
  · exact .inl rfl
  · exact .inr ⟨_, rfl⟩

theorem nameTaken_iff {ip : CStr} {configs : OckRpcCreateConfig} {m : ConfigMap}
    (hg : GetsService a e ip configs m) :
    NameTaken w a e ↔ (w.gServiceMap.find (configuredName m)).isSome := by
  constructor
  · intro h
    exact h ip configs m hg
  · intro h ip' configs' m' hg'
    cases hg.checked.symm.trans hg'.checked
    cases hg.map.symm.trans hg'.map
    exact h

theorem create_disciplined_iff : Disciplined guard ((createProg a e).trace w) ↔ NameTaken w a e := by
  cases hb : (createBegin w a e).2 with
  | none =>
    rw [create_trace hb]
    refine iff_of_true disciplined_nil fun ip configs m hg => ?_
    cases hb.symm.trans (createBegin_eq_some_iff.mpr hg)
  | some cfg =>
    obtain ⟨ip, configs, m⟩ := cfg
    obtain ⟨after, htrace, hafter⟩ := create_trace_insert hb
    have hd : Disciplined guard after := by
      rcases hafter with rfl | ⟨w', rfl⟩
      · exact disciplined_nil
      · exact destroy_disciplined w' _ _
    rw [htrace, disciplined_append_iff insert_heldAfter, insert_disciplined_iff, createBegin_gServiceMap,
      nameTaken_iff (createBegin_eq_some_iff.mp hb)]
    exact and_iff_left hd

theorem connect_trace {a : ConnectArgs} {e : ConnectEnv} {ip : CStr} {configs : OckRpcCreateConfig}
    {m : ConfigMap} (hcheck : ockRpcCheckClientCreateCfg a = some (ip, configs))
    (hmap : ockRpcInitConfigMap configs = some m) : (connectProg a e).trace w =
      if 64 < (configuredName m).length then []
      else [.acquire .serviceMutex .shared, .read .gServiceMap] ++ getCurServiceEvents w (configuredName m) := by
  simp only [connectProg, hcheck, hmap]
  split
  · rfl
  · simp only [Prog.trace_events, Prog.trace_act]
    cases w.gServiceMap.find (configuredName m) with
    | none => simp
    | some service => simp [quiet]

/-- The lookup of a connect keeps the discipline when it finds nothing to dereference. -/
theorem getCurService_disciplined_iff {name : CStr} :
    Disciplined guard ([.acquire .serviceMutex .shared, .read .gServiceMap] ++ getCurServiceEvents w name) ↔
      w.gServiceMap.find name = none := by
  rw [disciplined_iff]
  unfold getCurServiceEvents
  cases w.gServiceMap.find name with
  | none => simp [Follows, LockEvent.Allowed, LockEvent.after, guard]
  | some service => simp [Follows, LockEvent.Allowed, LockEvent.after, guard]

theorem serviceMissing_iff {a : ConnectArgs} {ip : CStr} {configs : OckRpcCreateConfig} {m : ConfigMap}
    (hcheck : ockRpcCheckClientCreateCfg a = some (ip, configs))
    (hmap : ockRpcInitConfigMap configs = some m) : ServiceMissing w a ↔
      ((configuredName m).length ≤ 64 → w.gServiceMap.find (configuredName m) = none) := by
  constructor
  · intro h
    exact h ip configs m hcheck hmap
  · intro h ip' configs' m' hcheck' hmap'
    cases hcheck.symm.trans hcheck'
    cases hmap.symm.trans hmap'
    exact h

theorem connect_disciplined_iff {a : ConnectArgs} {e : ConnectEnv} :
    Disciplined guard ((connectProg a e).trace w) ↔ ServiceMissing w a := by
  cases hcheck : ockRpcCheckClientCreateCfg a with
  | none =>
    simp only [connectProg, hcheck]
    refine iff_of_true disciplined_nil fun ip configs m h => ?_
    cases hcheck.symm.trans h
  | some cfg =>
    obtain ⟨ip, configs⟩ := cfg
    cases hmap : ockRpcInitConfigMap configs with
    | none =>
      simp only [connectProg, hcheck, hmap]
      refine iff_of_true disciplined_nil fun ip' configs' m' h hm => ?_
      cases hcheck.symm.trans h
      cases hmap.symm.trans hm
    | some m =>
      rw [connect_trace hcheck hmap, serviceMissing_iff hcheck hmap]
      split
      · refine iff_of_true disciplined_nil fun hlen => ?_
        omega
      · rename_i hlen
        rw [getCurService_disciplined_iff, forall_prop_of_true (not_lt.mp hlen)]

theorem call_disciplined_iff (c : Call) : Disciplined guard ((callProg c).trace w) ↔ CallKeeps w c := by
  cases c with
  | create a e => exact create_disciplined_iff
  | add kind server service => exact iff_of_false (addService_not_disciplined w kind server service) id
  | destroy server ret => exact iff_of_true (destroy_disciplined w server ret) trivial
  | connect a e => exact connect_disciplined_iff
  | _ => exact iff_of_true disciplined_nil trivial

theorem call_balanced (c : Call) (w : World) : Balanced ((callProg c).trace w) := by
  cases c with
  | create a e =>
    simp only [callProg]
    cases hb : (createBegin w a e).2 with
    | none =>
      rw [create_trace hb]
      exact fun _ _ => rfl
    | some cfg =>
      obtain ⟨ip, configs, m⟩ := cfg
      obtain ⟨after, htrace, hafter⟩ := create_trace_insert hb
      rw [htrace]
      refine Balanced.append ?_ ?_
      · rw [insert_trace]
        unfold insertEvents
        intro l m
        split <;> simp [List.count_cons]
      · rcases hafter with rfl | ⟨w', rfl⟩
        · exact fun _ _ => rfl
        · exact (destroy_disciplined w' _ _).balanced
  | add kind server service =>
    simp only [callProg, addService_trace]
    unfold addServiceEvents
    intro l m
    split
    · simp [List.count_cons]
    · split
      · simp [List.count_cons]
      · split
        · simp [List.count_cons]
        · split <;> simp [List.count_cons]
  | destroy server ret => exact (destroy_disciplined w server ret).balanced
  | connect a e =>
    simp only [callProg]
    cases hcheck : ockRpcCheckClientCreateCfg a with
    | none =>
      simp only [connectProg, hcheck]
      exact fun _ _ => rfl
    | some cfg =>
      obtain ⟨ip, configs⟩ := cfg
      cases hmap : ockRpcInitConfigMap configs with
      | none =>
        simp only [connectProg, hcheck, hmap]
        exact fun _ _ => rfl
      | some m =>
        rw [connect_trace hcheck hmap]
        unfold getCurServiceEvents
        intro l m
        split
        · rfl
        · split <;> simp [List.count_cons]
  | _ => exact fun _ _ => rfl

/-- The dispatcher takes its lock shared, and no release ends that hold in its mode, whatever the handler
calls. -/
theorem dispatch_not_disciplined (H : Handlers) (kind : ServiceKind) (id : UInt16) (event : Addr → Event)
    (w : World) : ¬ Disciplined guard ((dispatchProg H kind id event).trace w) := by
  simp only [dispatchProg, Prog.trace_events, Prog.trace_act, List.cons_append, List.nil_append]
  refine not_disciplined_of_unreleased ?_
  cases (w.handlers kind).find id.toInt16 with
  | none => simp
  | some h =>
    have hcalls : Balanced ((Prog.seqAll ((H.body h).map callProg)).trace (w.emit (event h))) := by
      refine balanced_seqAll (fun p hp s => ?_) _
      obtain ⟨c, -, rfl⟩ := List.mem_map.mp hp
      exact call_balanced c s
    have hcount := hcalls (mutex kind) .shared
    simp [hcount]

/-- The trace is that of a dispatch on this id; there is none without an id. -/
def DispatchesOn (H : Handlers) (kind : ServiceKind) (id : Option UInt16) (t : LockTrace) : Prop :=
  match id with
  | none => t = []
  | some id => ∃ event w, t = (dispatchProg H kind id event).trace w

theorem receive_dispatches (H : Handlers) (ctx : Addr) (e : ReceiveEnv) (w : World) :
    DispatchesOn H .plain e.msgId ((receiveProg H ctx e).trace w) := by
  unfold receiveProg ReceiveEnv.msgId
  cases e.data with
  | none => exact rfl
  | some b =>
    cases e.ctxType with
    | none => exact rfl
    | some t =>
      cases t with
      | receivedRaw => exact ⟨_, _, rfl⟩
      | _ =>
        cases e.opCode with
        | none => exact rfl
        | some opCode => exact ⟨_, _, rfl⟩

theorem rndvReceive_dispatches (H : Handlers) (ctx : Addr) (e : RndvEnv) (w : World) :
    DispatchesOn H .rndv e.msgId ((rndvReceiveProg H ctx e).trace w) := by
  unfold rndvReceiveProg RndvEnv.msgId
  cases e.message with
  | none => exact rfl
  | some rndvMsg =>
    cases e.ctxType with
    | none => exact rfl
    | some t =>
      cases e.opCode with
      | none => exact rfl
      | some opCode => exact ⟨_, _, rfl⟩

theorem dispatches_disciplined_iff {H : Handlers} {id : Option UInt16} {t : LockTrace}
    (h : DispatchesOn H kind id t) : Disciplined guard t ↔ id = none := by
  cases id with
  | none =>
    have ht : t = [] := h
    rw [ht]
    exact iff_of_true disciplined_nil rfl
  | some id =>
    obtain ⟨event, w, rfl⟩ := h
    exact iff_of_false (dispatch_not_disciplined H kind id event w) (Option.some_ne_none id)

/-- **Lock discipline**: from any state, an operation or a dispatch releases every lock it takes in its mode and
touches the registries under their locks, exactly when
* a create does not come to the insertion of a new name,
* a connect does not find its service,
* a dispatch does not come to the lookup of a handler,
* and no service is added. -/
theorem lock_discipline_iff (t : Task) (w : World) : Disciplined guard (lockTrace t w) ↔ Keeps w t := by
  cases t with
  | call c => exact call_disciplined_iff c
  | receive H ctx e => exact dispatches_disciplined_iff (receive_dispatches H ctx e w)
  | rndvReceive H ctx e => exact dispatches_disciplined_iff (rndvReceive_dispatches H ctx e w)

end Discipline

section Examples

/-- The first create inserts under the shared lock; a connect to its server dereferences what it found after the
release; a registration searches `g_serviceMap` under the wrong lock; and a dispatch releases its shared lock
as an exclusive one. -/
theorem lock_discipline_broken :
    lockTrace (.call (.create defaultServer { service := 40 })) {} =
      [.acquire .serviceMutex .shared, .read .gServiceMap, .write .gServiceMap, .release .serviceMutex .shared] ∧
    lockTrace (.call (.connect defaultConnect (connectEnv 50 60))) oneService =
      [.acquire .serviceMutex .shared, .read .gServiceMap, .release .serviceMutex .shared, .read .gServiceMap] ∧
    lockTrace (.call (.add .plain 40 (some ⟨5, 100⟩))) {} =
      [.acquire .serviceAddMutex .exclusive, .read .gServiceMap, .release .serviceAddMutex .exclusive] ∧
    lockTrace (messageFive silent .plain) {} =
      [.acquire .serviceAddMutex .shared, .read .gHandleMap, .release .serviceAddMutex .exclusive] ∧
    ¬ ∀ t w, Disciplined guard (lockTrace t w) := by
  refine ⟨rfl, rfl, rfl, rfl, fun h => ?_⟩
  have hadd := h (.call (.add .plain 40 (some ⟨5, 100⟩))) {}
  exact addService_not_disciplined {} .plain 40 (some ⟨5, 100⟩) hadd

end Examples

end LockDiscipline

end Hcom4db
