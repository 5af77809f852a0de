import Hcom4db.Base.Locks
import Hcom4db.Connect
import Hcom4db.Services
import Hcom4db.Submit
import Hcom4db.Timeout

/-!
# Hcom4db.HandlerLocks

The locks of the library. The user's handlers run while the dispatcher holds the lock of their map, and may
call the library.

* `Call.code`: where a public function takes its locks, with what it does between them; alone, it does what
  the function does (`createCode_run`, `destroyCode_run`, `connectCode_run`).
* `receiveCode`, `rndvReceiveCode`: the two dispatchers, with what the handlers do in them.
* `no_self_wait_iff`: no thread waits for a lock it holds exactly when no handler adds a service of the kind
  it is called for.
-/

namespace Hcom4db

namespace HandlerLocks

open Locks Runs

inductive Lock where
  | serviceMutex | serviceAddMutex | serviceAddRndvMutex
  deriving DecidableEq

abbrev LockCode := Code Lock World

/-- The lock of the map a kind of service is registered in. -/
def mutex : ServiceKind → Lock
  | .plain => .serviceAddMutex
  | .rndv => .serviceAddRndvMutex

/-! ## The public functions -/

/-- A step that takes no lock. -/
def lockFree (f : World → World) : LockCode := .act f fun _ => .done

@[simp] theorem lockFree_run (f : World → World) (w : World) : (lockFree f).run w = f w := rfl

def addServiceCode (kind : ServiceKind) (server : Addr) (service : Option OckRpcService) : LockCode :=
  (lockFree fun w => (addService w kind server service).1).locked (mutex kind) .exclusive

/-- The part of `OckRpcServerDestroy` that holds the lock. -/
def destroyLocked (w : World) (server : Addr) (ret : Int) : World :=
  match serviceKey w server with
  | none => w
  | some name =>
    let w := (w.emit (.serviceStop server)).emit (.serviceDestroy server ret)
    if ret ≠ ockRpcOk then w else { w with gServiceMap := w.gServiceMap.erase name }

def resetOptions (w : World) : World := { w with gOptions := {}, gTlsFunc := {} }

def destroyCode (server : Addr) (ret : Int) : LockCode :=
  .acquire .serviceMutex .exclusive (.act (fun w => destroyLocked w server ret) fun w =>
    .release .serviceMutex
      (if (serviceKey w server).isSome ∧ ret = ockRpcOk then lockFree resetOptions else .done))

/-- `OckRpcCreateServer` until it takes the lock; whether it gets there. -/
def createService (w : World) (configMap : ConfigMap) (e : CreateEnv) : World × Bool :=
  let serviceName := configuredName configMap
  if 64 < serviceName.length then (w, false)
  else
    match configuredType configMap with
    | none => (w, false)
    | some expected =>
      let w := { w with gConnectionType := expected.getD w.gConnectionType }
      if e.createRet ≠ ockRpcOk then (w, false)
      else (w.emit (.serviceCreate (expected.getD .rdma) serviceName e.service), true)

/-- A create until it takes the lock, and what it goes on with. -/
def createBegin (w : World) (a : CreateArgs) (e : CreateEnv) :
    World × Option (CStr × OckRpcCreateConfig × ConfigMap) :=
  if e.dlopenRet ≠ ockRpcOk then (w, none)
  else
    match ockRpcCheckServerCreateCfg a with
    | none => (w, none)
    | some (ip, configs) =>
      match ockRpcInitConfigMap configs with
      | none => (w, none)
      | some configMap =>
        match createService (setExternalLogger w) configMap e with
        | (w, false) => (w, none)
        | (w, true) => (w, some (ip, configs, configMap))

def insertService (w : World) (configMap : ConfigMap) (service : Addr) : World :=
  { w with gServiceMap := w.gServiceMap.insertNew (configuredName configMap) service }

/-- The handlers and the options of a new server; whether they are accepted. -/
def initOptions (w : World) (a : CreateArgs) (ip : CStr) (configs : OckRpcCreateConfig)
    (configMap : ConfigMap) (service : Addr) : World × Bool :=
  let w := registerHandlers w service ip a.port configMap
  match ockRpcDefaultOptionInit configMap w.gOptions ip with
  | (options, ret) =>
    let w := w.setOptions options
    if ret ≠ ockRpcOk then (w, false)
    else
      match ockRpcExpandOptionInit w service configs configMap with
      | (w, ret) => (w, decide (ret = ockRpcOk))

def createCode (a : CreateArgs) (e : CreateEnv) : LockCode :=
  .act (fun w => (createBegin w a e).1) fun w =>
    match (createBegin w a e).2 with
    | none => .done
    | some (ip, configs, configMap) =>
      ((lockFree fun w => insertService w configMap e.service).locked .serviceMutex .shared).seq
        (.act (fun w => (initOptions w a ip configs configMap e.service).1) fun w =>
          if (initOptions w a ip configs configMap e.service).2 then .done
          else destroyCode e.service e.destroyRet)

/-- A connect once it has its service. -/
def connectTo (w : World) (a : ConnectArgs) (ip : CStr) (configMap : ConfigMap) (service : Addr)
    (e : ConnectEnv) : World × OckRpcStatus :=
  match ockRpcSetConnectionOption configMap with
  | none => (w, ockRpcErrInvalidParam)
  | some flags =>
    if e.connectRet ≠ ockRpcOk then (w, ockRpcErr)
    else
      let w := w.emit (.channelConnect service e.channel
        { ip := ip, port := a.port, payLoad := configuredPayLoad configMap, epSize := 1, flags := flags })
      match ockRpcPrepareMemAllocator w service e.channel configMap e with
      | (w, ret) => if ret ≠ ockRpcOk then (w, ockRpcErr) else (w, ockRpcOk)

def connectCode (a : ConnectArgs) (e : ConnectEnv) : LockCode :=
  match ockRpcCheckClientCreateCfg a with
  | none => .done
  | some (ip, configs) =>
    match ockRpcInitConfigMap configs with
    | none => .done
    | some configMap =>
      if 64 < (configuredName configMap).length then .done
      else
        -- the lock is released before the service that was found is used
        .acquire .serviceMutex .shared (.act id fun w => .release .serviceMutex
          (match w.gServiceMap.find (configuredName configMap) with
          | none => .done
          | some service => lockFree fun w => (connectTo w a ip configMap service e).1))

/-- A call of a public function; `other` stands for those that take no lock of the library and are not
listed. -/
inductive Call where
  | create (a : CreateArgs) (e : CreateEnv)
  | add (kind : ServiceKind) (server : Addr) (service : Option OckRpcService)
  | start (server : Addr) (ret : Int)
  | destroy (server : Addr) (ret : Int)
  | connect (a : ConnectArgs) (e : ConnectEnv)
  | disconnect (client : Addr) (ret : Int)
  | setTimeout (client : Addr) (timeout : Int64)
  | submit (op : AsyncOp) (done : Option OckRpcCallDone) (e : SubmitEnv)
  | other (f : World → World)

def Call.code : Call → LockCode
  | .create a e => createCode a e
  | .add kind server service => addServiceCode kind server service
  | .start server ret => lockFree fun w => (ockRpcServerStart w server ret).1
  | .destroy server ret => destroyCode server ret
  | .connect a e => connectCode a e
  | .disconnect client ret => lockFree fun w => ockRpcClientDisconnect w client ret
  | .setTimeout client timeout => lockFree fun w => ockRpcClientSetTimeout w client timeout
  | .submit op done e => lockFree fun w => (op.submit w done e).1
  | .other f => lockFree f

/-- The locks a call may take. -/
def Call.locks : Call → List Lock
  | .create _ _ => [.serviceMutex]
  | .add kind _ _ => [mutex kind]
  | .destroy _ _ => [.serviceMutex]
  | .connect _ _ => [.serviceMutex]
  | _ => []

/-! ## The dispatchers -/

/-- The calls the user's handlers make; there is no handler at the null address. -/
structure Handlers where
  body : Addr → List Call
  null : body 0 = []

/-- The lookup and the call of a handler. The lock is taken shared and released by `unlock`. C++ leaves that
undefined; in the library `build.sh` builds (gcc, `libstdc++` on Linux) `unlock` and `unlock_shared` are the
same, and end the hold of the calling thread whatever its mode. -/
def dispatchCode (H : Handlers) (kind : ServiceKind) (id : UInt16) (event : Addr → Event) :
    LockCode :=
  (Code.act (fun w => match (w.handlers kind).find id.toInt16 with
      | some h => w.emit (event h)
      | none => w) fun w => match (w.handlers kind).find id.toInt16 with
      | some h => Code.seqAll ((H.body h).map Call.code)
      | none => .done).locked (mutex kind) .shared

/-- `OckRpcReceiveHandle`. -/
def receiveCode (H : Handlers) (ctx : Addr) (e : ReceiveEnv) : LockCode :=
  match e.data with
  | none => .done
  | some b =>
    let len := e.dataLen.toUInt64
    match e.ctxType with
    | none => .done
    | some .receivedRaw =>
      .act (fun w => w.emit (.msgRead 0 sizeofRawMessageHeader)) fun _ =>
        dispatchCode H .plain (rawMsgId b) fun h =>
          .handler h ctx sizeofRawMessageHeader (len - UInt64.ofNat sizeofRawMessageHeader)
    | some _ =>
      match e.opCode with
      | none => .done
      | some opCode => dispatchCode H .plain opCode fun h => .handler h ctx 0 len

/-- `OckRpcRndvReceiveHandler`. -/
def rndvReceiveCode (H : Handlers) (ctx : Addr) (e : RndvEnv) : LockCode :=
  match e.message with
  | none => .done
  | some rndvMsg =>
    let msg := { cnt := rndvMsg.cnt, msg := (List.range rndvMsg.cnt.toNat).map fun i =>
      ⟨(rndvMsg.msg i).data, (rndvMsg.msg i).size.toUInt64⟩ }
    .act (fun w => if maxMessageSglCount < rndvMsg.cnt.toNat then w.emit .ub else w) fun _ =>
      match e.ctxType with
      | none => .done
      | some _ =>
        match e.opCode with
        | none => .done
        | some opCode => dispatchCode H .rndv opCode fun h => .rndvHandler h ctx msg

/-- What a thread is asked to do; a message comes with what the handlers do on it. -/
inductive Task where
  | call (c : Call)
  | receive (H : Handlers) (ctx : Addr) (e : ReceiveEnv)
  | rndvReceive (H : Handlers) (ctx : Addr) (e : RndvEnv)

def Task.code : Task → LockCode
  | .call c => c.code
  | .receive H ctx e => receiveCode H ctx e
  | .rndvReceive H ctx e => rndvReceiveCode H ctx e

/-- What the handlers do in the task is some of `does`. -/
def Task.Of (does : ServiceKind → Set Handlers) : Task → Prop
  | .call _ => True
  | .receive H _ _ => H ∈ does .plain
  | .rndvReceive H _ _ => H ∈ does .rndv

/-- The library before its first call, and the tasks of every thread. -/
def start (threads : List (List Task)) : Sys Lock World :=
  ⟨{}, threads.map fun tasks => ⟨Code.seqAll (tasks.map Task.code), []⟩⟩

/-- The call adds a service of this kind. -/
def Call.Adds (kind : ServiceKind) : Call → Prop
  | .add kind' _ _ => kind' = kind
  | _ => False

/-! ## Alone, the code is the function -/

theorem destroyCode_run (w : World) (server : Addr) (ret : Int) :
    (destroyCode server ret).run w = ockRpcServerDestroy w server ret := by
  unfold destroyCode ockRpcServerDestroy
  simp only [Code.run, destroyLocked]
  cases serviceKey w server with
  | none => rfl
  | some name =>
    by_cases hret : ret = ockRpcOk
    · simp [hret, resetOptions]
    · simp [hret, Code.run]

theorem createService_ends (w : World) (configMap : ConfigMap) (e : CreateEnv) :
    ((createService w configMap e).2 = false ∧
      (ockRpcCreateServer w configMap e).1 = (createService w configMap e).1 ∧
      (ockRpcCreateServer w configMap e).2 ≠ ockRpcOk) ∨
    ((createService w configMap e).2 = true ∧ ockRpcCreateServer w configMap e =
      (insertService (createService w configMap e).1 configMap e.service, ockRpcOk)) := by
  unfold createService ockRpcCreateServer
  by_cases hlen : 64 < (configuredName configMap).length
  · simp only [hlen, if_true]
    exact .inl ⟨trivial, trivial, ockRpcErrInvalidParam_ne_ok⟩
  · simp only [hlen, if_false]
    cases configuredType configMap with
    | none => exact .inl ⟨rfl, rfl, ockRpcErrInvalidParam_ne_ok⟩
    | some expected =>
      by_cases hret : e.createRet = ockRpcOk
      · simp only [hret, ne_eq, not_true_eq_false, if_false]
        exact .inr ⟨trivial, rfl⟩
      · simp only [ne_eq, hret, not_false_eq_true, if_true]
        exact .inl ⟨trivial, trivial, ockRpcErr_ne_ok⟩

theorem initServer_eq (w : World) (a : CreateArgs) (ip : CStr) (configs : OckRpcCreateConfig)
    (configMap : ConfigMap) (e : CreateEnv) :
    (initServer w a ip configs configMap e).1 =
      if (initOptions w a ip configs configMap e.service).2 then
        (initOptions w a ip configs configMap e.service).1
      else ockRpcServerDestroy (initOptions w a ip configs configMap e.service).1 e.service
        e.destroyRet := by
  unfold initServer initOptions
  simp only
  split
  · rfl
  · split
    · rename_i hret
      simp [hret]
    · rename_i hret
      simp [not_not.mp hret]

theorem createCode_run (w : World) (a : CreateArgs) (e : CreateEnv) :
    (createCode a e).run w = (ockRpcServerCreateWithCfg w a e).1 := by
  unfold createCode ockRpcServerCreateWithCfg
  simp only [Code.run, createBegin]
  by_cases hd : e.dlopenRet = ockRpcOk
  · simp only [hd, ne_eq, not_true_eq_false, if_false]
    cases ockRpcCheckServerCreateCfg a with
    | none => rfl
    | some cfg =>
      obtain ⟨ip, configs⟩ := cfg
      simp only
      cases ockRpcInitConfigMap configs with
      | none => rfl
      | some configMap =>
        simp only
        rcases createService_ends (setExternalLogger w) configMap e with ⟨hno, hw, hret⟩ | ⟨hyes, hw⟩
        · generalize createService (setExternalLogger w) configMap e = r at hno hw
          obtain ⟨w1, _⟩ := r
          cases hno
          simp only [hw, hret, not_false_eq_true, if_true]
          split <;> rfl
        · generalize createService (setExternalLogger w) configMap e = r at hyes hw
          obtain ⟨w1, _⟩ := r
          cases hyes
          simp only [hw, not_true_eq_false, if_false, if_neg ockRpcErrInvalidParam_ne_ok.symm]
          rw [initServer_eq]
          simp only [Code.locked, Code.run, Code.run_seq, lockFree_run]
          split
          · rfl
          · exact destroyCode_run _ _ _
  · simp only [ne_eq, hd, not_false_eq_true, if_true]
    rfl

theorem connectCode_run (w : World) (a : ConnectArgs) (e : ConnectEnv) :
    (connectCode a e).run w = (ockRpcClientConnectWithCfg w a e).1 := by
  unfold connectCode ockRpcClientConnectWithCfg
  cases ockRpcCheckClientCreateCfg a with
  | none => rfl
  | some cfg =>
    obtain ⟨ip, configs⟩ := cfg
    simp only
    cases ockRpcInitConfigMap configs with
    | none => rfl
    | some configMap =>
      have hcur : ockRpcGetCurService w configMap =
          if 64 < (configuredName configMap).length then none
          else w.gServiceMap.find (configuredName configMap) := rfl
      simp only [hcur]
      by_cases hlen : 64 < (configuredName configMap).length
      · simp only [hlen, if_true]
        rfl
      · simp only [hlen, if_false, Code.run, id]
        cases w.gServiceMap.find (configuredName configMap) with
        | none => rfl
        | some service =>
          rw [lockFree_run]
          unfold connectTo
          cases ockRpcSetConnectionOption configMap with
          | none => rfl
          | some flags => rfl

/-- Handlers that make no calls. -/
def silent : Handlers := ⟨fun _ => [], rfl⟩

theorem dispatchCode_run (w : World) (kind : ServiceKind) (id : UInt16) (event : Addr → Event) :
    (dispatchCode silent kind id event).run w =
      match (w.handlers kind).find id.toInt16 with
      | some h => w.emit (event h)
      | none => w := by
  unfold dispatchCode Code.locked
  simp only [Code.run, Code.run_seq]
  cases (w.handlers kind).find id.toInt16 with
  | none => rfl
  | some h => rfl

/-- With handlers that make no calls, the dispatcher is the function. -/
theorem receiveCode_run (w : World) (ctx : Addr) (e : ReceiveEnv) :
    (receiveCode silent ctx e).run w = (ockRpcReceiveHandle w ctx e).1 := by
  have hdispatch : ∀ (w : World) (id : UInt16) (off : Nat) (len : UInt64),
      (dispatchCode silent .plain id fun h => .handler h ctx off len).run w =
        (dispatch w ctx id off len).1 := by
    intro w id off len
    rw [dispatchCode_run, dispatch, World.handlers]
    cases w.gHandleMap.find id.toInt16 <;> rfl
  unfold receiveCode ockRpcReceiveHandle
  cases e.data with
  | none => rfl
  | some b =>
    cases e.ctxType with
    | none => rfl
    | some t =>
      cases t with
      | receivedRaw => exact hdispatch _ _ _ _
      | _ =>
        cases e.opCode with
        | none => rfl
        | some opCode => exact hdispatch _ _ _ _

theorem rndvReceiveCode_run (w : World) (ctx : Addr) (e : RndvEnv) :
    (rndvReceiveCode silent ctx e).run w = (ockRpcRndvReceiveHandler w ctx e).1 := by
  unfold rndvReceiveCode ockRpcRndvReceiveHandler
  cases e.message with
  | none => rfl
  | some rndvMsg =>
    simp only [Code.run]
    cases e.ctxType with
    | none => rfl
    | some t =>
      cases e.opCode with
      | none => rfl
      | some opCode =>
        simp only [dispatchCode_run, World.handlers]
        generalize (if maxMessageSglCount < rndvMsg.cnt.toNat then w.emit .ub else w) = w1
        cases w1.gRndvHandleMap.find opCode.toInt16 <;> rfl

/-! ## The locks a call comes to -/

section Locks

variable {held : Held Lock} {kind : ServiceKind}

theorem lockFree_wp (f : World → World) : wp (lockFree f) (· = held) held := fun _ => rfl

theorem destroyCode_wp (server : Addr) (ret : Int) (hfree : ∀ m, (Lock.serviceMutex, m) ∉ held) :
    wp (destroyCode server ret) (· = held) held := by
  refine ⟨hfree, fun w => ?_⟩
  simp only [wp, release_cons]
  split
  · exact lockFree_wp _
  · rfl

theorem createCode_wp (a : CreateArgs) (e : CreateEnv) (hfree : ∀ m, (Lock.serviceMutex, m) ∉ held) :
    wp (createCode a e) (· = held) held := by
  intro w
  simp only
  cases (createBegin w a e).2 with
  | none => rfl
  | some cfg =>
    obtain ⟨ip, configs, configMap⟩ := cfg
    refine wp_seq (wp_mono ?_ (wp_locked hfree (lockFree_wp _)))
    rintro _ rfl w
    simp only
    split
    · rfl
    · exact destroyCode_wp _ _ hfree

theorem connectCode_wp (a : ConnectArgs) (e : ConnectEnv) (hfree : ∀ m, (Lock.serviceMutex, m) ∉ held) :
    wp (connectCode a e) (· = held) held := by
  unfold connectCode
  cases ockRpcCheckClientCreateCfg a with
  | none => rfl
  | some cfg =>
    obtain ⟨ip, configs⟩ := cfg
    simp only
    cases ockRpcInitConfigMap configs with
    | none => rfl
    | some configMap =>
      simp only
      split
      · rfl
      · refine ⟨hfree, fun w => ?_⟩
        simp only [wp, release_cons]
        cases w.gServiceMap.find (configuredName configMap) with
        | none => rfl
        | some service => exact lockFree_wp _

/-- A call comes to no lock that is held, if none of its locks are, and leaves the locks as they were. -/
theorem call_wp {c : Call} (hfree : ∀ l ∈ c.locks, ∀ m, (l, m) ∉ held) :
    wp c.code (· = held) held := by
  cases c with
  | create a e => exact createCode_wp a e (hfree _ List.mem_cons_self)
  | add kind server service => exact wp_locked (hfree _ List.mem_cons_self) (lockFree_wp _)
  | destroy server ret => exact destroyCode_wp server ret (hfree _ List.mem_cons_self)
  | connect a e => exact connectCode_wp a e (hfree _ List.mem_cons_self)
  | _ => exact lockFree_wp _

/-- Only a call that adds a service of the kind comes to the lock of its map. -/
theorem mutex_mem_locks {c : Call} : mutex kind ∈ c.locks ↔ c.Adds kind := by
  cases c with
  | add kind' server service => cases kind <;> cases kind' <;> simp [Call.locks, Call.Adds, mutex]
  | _ => cases kind <;> simp [Call.locks, Call.Adds, mutex]

theorem adds_iff {c : Call} : c.Adds kind ↔ ∃ server service, c = .add kind server service := by
  constructor
  · intro h
    cases c with
    | add kind' server service =>
      cases h
      exact ⟨server, service, rfl⟩
    | _ => exact h.elim
  · rintro ⟨server, service, rfl⟩
    rfl

theorem call_wp_dispatch {c : Call} (h : ¬ c.Adds kind) :
    wp c.code (· = [(mutex kind, .shared)]) [(mutex kind, .shared)] := by
  refine call_wp fun l hl m hm => h ?_
  cases List.mem_singleton.mp hm
  exact mutex_mem_locks.mp hl

theorem dispatchCode_wp {H : Handlers} (h : ∀ a, ∀ c ∈ H.body a, ¬ c.Adds kind) (id : UInt16)
    (event : Addr → Event) : wp (dispatchCode H kind id event) (· = []) [] := by
  refine wp_locked (fun _ => List.not_mem_nil) fun w => ?_
  simp only
  cases (w.handlers kind).find id.toInt16 with
  | none => rfl
  | some a =>
    refine wp_seqAll fun c hc => ?_
    obtain ⟨call, hcall, rfl⟩ := List.mem_map.mp hc
    exact call_wp_dispatch (h a call hcall)

theorem callTask_wp (c : Call) : wp (Task.call c).code (· = []) [] := call_wp fun _ _ _ => List.not_mem_nil

theorem task_wp {does : ServiceKind → Set Handlers}
    (h : ∀ kind, ∀ H ∈ does kind, ∀ a, ∀ c ∈ H.body a, ¬ c.Adds kind) {t : Task} (ht : t.Of does) :
    wp t.code (· = []) [] := by
  cases t with
  | call c => exact callTask_wp c
  | receive H ctx e =>
    simp only [Task.code, receiveCode]
    cases e.data with
    | none => rfl
    | some b =>
      cases e.ctxType with
      | none => rfl
      | some t =>
        cases t with
        | receivedRaw => exact fun _ => dispatchCode_wp (h _ H ht) _ _
        | _ =>
          cases e.opCode with
          | none => rfl
          | some opCode => exact dispatchCode_wp (h _ H ht) _ _
  | rndvReceive H ctx e =>
    simp only [Task.code, rndvReceiveCode]
    cases e.message with
    | none => rfl
    | some rndvMsg =>
      intro w
      cases e.ctxType with
      | none => rfl
      | some t =>
        cases e.opCode with
        | none => rfl
        | some opCode => exact dispatchCode_wp (h _ H ht) _ _

end Locks

/-! ## Runs -/

theorem start_wp {does : ServiceKind → Set Handlers} {threads : List (List Task)}
    (h : ∀ kind, ∀ H ∈ does kind, ∀ a, ∀ c ∈ H.body a, ¬ c.Adds kind)
    (hof : ∀ tasks ∈ threads, ∀ t ∈ tasks, t.Of does) :
    ∀ t ∈ (start threads).threads, wp t.code (fun _ => True) t.held := by
  intro t ht
  obtain ⟨tasks, htasks, rfl⟩ := List.mem_map.mp ht
  refine wp_mono (fun _ _ => trivial) (wp_seqAll fun c hc => ?_)
  obtain ⟨task, htask, rfl⟩ := List.mem_map.mp hc
  exact task_wp h (hof tasks htasks task htask)

theorem addService_registers {w : World} {kind : ServiceKind} {server : Addr} {s : OckRpcService}
    (h : AddAccepts w server s) :
    ((addService w kind server (some s)).1.handlers kind).find s.id.toInt16 = some s.handler := by
  have hself := congrArg Prod.fst (Services.addService_handlers_self w kind server (some s))
  simp only at hself
  rcases addHandler_cases w (w.handlers kind) server (some s) with ⟨hno, -⟩ | ⟨s', hs', -, hr⟩
  · exact absurd h (hno s rfl)
  · cases hs'
    rw [hself, hr, StdMap.find_insert, if_pos rfl]

/-- A thread that creates server 40 and registers the handler `h` for id 5. -/
def registering (kind : ServiceKind) (h : Addr) : List Task :=
  [.call (.create defaultServer { service := 40 }), .call (.add kind 40 (some ⟨5, h⟩))]

/-- A message with id 5. -/
def messageFive (H : Handlers) : ServiceKind → Task
  | .plain => .receive H 7
    { data := some fun _ => 0, dataLen := 8, ctxType := some .received, opCode := some 5 }
  | .rndv => .rndvReceive H 7
    { message := some ⟨1, fun _ => ⟨600, 8⟩⟩, ctxType := some .rndv, opCode := some 5 }

/-- The message comes to the dispatch, and nothing is registered before it. -/
theorem messageFive_code (H : Handlers) (kind : ServiceKind) : ∃ before event,
    (messageFive H kind).code = before.seq (dispatchCode H kind 5 event) ∧ wp before (· = []) [] ∧
    ∀ w, (before.run w).handlers kind = w.handlers kind := by
  cases kind with
  | plain => exact ⟨.done, _, rfl, rfl, fun _ => rfl⟩
  | rndv => exact ⟨lockFree _, _, rfl, lockFree_wp _, fun _ => rfl⟩

/-- The registration has put the handler into the map. -/
theorem registering_run (kind : ServiceKind) {h : Addr} (hh : h ≠ 0) :
    (((Code.seqAll ((registering kind h).map Task.code)).run {}).handlers kind).find (5 : UInt16).toInt16 =
      some h := by
  have hadd : ∀ w, (addServiceCode kind 40 (some ⟨5, h⟩)).run w = (addService w kind 40 (some ⟨5, h⟩)).1 :=
    fun _ => rfl
  simp only [registering, List.map, Code.seqAll, Task.code, Call.code, Code.run_seq, Code.run,
    createCode_run, hadd]
  have hid : (5 : UInt16).toNat < maxMessageIdSize := by decide
  exact addService_registers (s := ⟨5, h⟩) ⟨rfl, hid, hh⟩

theorem registering_wp (kind : ServiceKind) (h : Addr) :
    wp (Code.seqAll ((registering kind h).map Task.code)) (· = []) [] := by
  refine wp_seqAll fun x hx => ?_
  obtain ⟨t, ht, rfl⟩ := List.mem_map.mp hx
  cases ht with
  | head => exact callTask_wp _
  | tail _ ht =>
    cases List.mem_singleton.mp ht
    exact callTask_wp _

theorem idle_pair {t u : Thread Lock World} {i : Nat} (ht : i ≠ 0 → t.held = [])
    (hu : i ≠ 1 → u.held = []) : ∀ j v, j ≠ i → [t, u][j]? = some v → v.held = [] := by
  intro j v hj hv
  match j with
  | 0 =>
    cases hv
    exact ht hj.symm
  | 1 =>
    cases hv
    exact hu hj.symm
  | j + 2 => cases hv

/-- **A handler that adds a service of its own kind waits for itself**: the dispatcher comes to the lock of
the map while it holds it. -/
theorem reaches_self_wait {H : Handlers} {kind : ServiceKind} {h : Addr} {c : Call} (hc : c ∈ H.body h)
    (hadds : c.Adds kind) :
    ∃ s, Reached Enabled step (start [registering kind h, [messageFive H kind]]) s ∧
      ∃ t rest, s.threads[1]? = some t ∧ t.code = .acquire (mutex kind) .exclusive rest ∧
        (mutex kind, .shared) ∈ t.held := by
  classical
  have hh : h ≠ 0 := by
    rintro rfl
    rw [H.null] at hc
    cases hc
  -- the calls before the first one that adds a service
  obtain ⟨c, pre, post, hpre, hadds, hbody, -⟩ :=
    List.exists_of_eraseP (p := fun x => decide (Call.Adds kind x)) hc (decide_eq_true hadds)
  obtain ⟨server, service, rfl⟩ := adds_iff.mp (of_decide_eq_true hadds)
  obtain ⟨before, event, hcode, hbefore, hhandlers⟩ := messageFive_code H kind
  have hstart : start [registering kind h, [messageFive H kind]] =
      ⟨{}, [⟨(Code.seqAll ((registering kind h).map Task.code)).seq .done, []⟩,
        ⟨before.seq (dispatchCode H kind 5 event), []⟩]⟩ := by
    simp only [start, List.map, Code.seqAll, Code.seq_done, hcode]
  -- the first thread runs to its end
  obtain ⟨_, rfl, hrun1⟩ := solo (registering_wp kind h) {} (i := 0) (k := .done)
    (rfl : [_, (⟨before.seq (dispatchCode H kind 5 event), []⟩ : Thread Lock World)][0]? = some _)
    (idle_pair (fun h => absurd rfl h) fun _ => rfl)
  have hfind := registering_run kind hh
  generalize (Code.seqAll ((registering kind h).map Task.code)).run {} = w1 at hrun1 hfind
  -- the second one to the dispatch, and into it
  obtain ⟨_, rfl, hrun2⟩ := solo hbefore w1 (i := 1) (k := dispatchCode H kind 5 event)
    (rfl : [(⟨.done, []⟩ : Thread Lock World), _][1]? = some _)
    (idle_pair (fun _ => rfl) fun h => absurd rfl h)
  rw [← hhandlers w1] at hfind
  generalize before.run w1 = w2 at hrun2 hfind
  have hrun3 := enter (x := w2) (i := 1)
    (rfl : [(⟨.done, []⟩ : Thread Lock World), ⟨dispatchCode H kind 5 event, []⟩][1]? = some _)
    (idle_pair (fun _ => rfl) fun h => absurd rfl h) fun _ => List.not_mem_nil
  simp only [hfind, hbody, List.map_append, Code.seqAll_append, Code.seq_assoc, List.map] at hrun3
  -- and through the calls before the one that adds a service
  have hquiet : wp (Code.seqAll (pre.map Call.code)) (· = [(mutex kind, .shared)])
      [(mutex kind, .shared)] := by
    refine wp_seqAll fun x hx => ?_
    obtain ⟨call, hcall, rfl⟩ := List.mem_map.mp hx
    exact call_wp_dispatch fun h => hpre call hcall (decide_eq_true h)
  obtain ⟨_, rfl, hrun4⟩ := solo hquiet (w2.emit (event h)) (i := 1)
    (rfl : [(⟨.done, []⟩ : Thread Lock World), _][1]? = some _)
    (idle_pair (fun _ => rfl) fun h => absurd rfl h)
  rw [hstart]
  exact ⟨_, ((hrun1.trans hrun2).trans hrun3).trans hrun4, _, _, rfl, rfl, List.mem_cons_self⟩

/-- **Dispatch does not wait for itself**: in no run of threads that call the library and receive messages
does a thread wait for a lock it holds, exactly when no handler adds a service of the kind it is called
for. -/
theorem no_self_wait_iff (does : ServiceKind → Set Handlers) :
    (∀ threads : List (List Task), (∀ tasks ∈ threads, ∀ t ∈ tasks, t.Of does) →
      ∀ s, Reached Enabled step (start threads) s → ∀ t ∈ s.threads, ¬ t.SelfWaits) ↔
    ∀ kind, ∀ H ∈ does kind, ∀ a, ∀ c ∈ H.body a, ¬ c.Adds kind := by
  constructor
  · intro h kind H hH a c hc hadds
    obtain ⟨s, hrun, t, rest, ht, hcode, hheld⟩ := reaches_self_wait hc hadds
    refine h _ ?_ s hrun t (List.mem_of_getElem? ht) ⟨_, _, _, _, hcode, hheld⟩
    intro tasks htasks task htask
    rcases List.mem_cons.mp htasks with rfl | htasks
    · cases htask with
      | head => trivial
      | tail _ htask =>
        cases List.mem_singleton.mp htask
        trivial
    · cases List.mem_singleton.mp htasks
      cases List.mem_singleton.mp htask
      cases kind with
      | plain => exact hH
      | rndv => exact hH
  · intro h threads hof s hrun
    exact no_selfWait (start_wp h hof) hrun

section Examples

/-- Handler 100 registers a service for id 6. -/
def registersSix : Handlers where
  body h := if h = 100 then [.add .plain 40 (some ⟨6, 100⟩)] else []
  null := rfl

/-- Server 40 is created and handler 100 registered for id 5; on a message with id 5 the dispatcher waits
for `serviceAddMutex`, which it shares, and never goes on. -/
theorem handler_waits_for_itself : ∃ s,
    Reached Enabled step (start [registering .plain 100, [messageFive registersSix .plain]]) s ∧
    ∃ t, s.threads[1]? = some t ∧ t.SelfWaits ∧
      ∀ s', Reached Enabled step s s' → s'.threads[1]? = some t := by
  obtain ⟨s, hrun, t, rest, ht, hcode, hheld⟩ :=
    @reaches_self_wait registersSix .plain 100 _ List.mem_cons_self rfl
  exact ⟨s, hrun, t, ht, ⟨_, _, _, _, hcode, hheld⟩, fun s' h => selfWait_forever ht hcode hheld h⟩

end Examples

end HandlerLocks

end Hcom4db
