import Hcom4db.CreateAccepts
import Hcom4db.Receive

/-!
# Hcom4db.Services

The registration of message handlers, and the dispatcher of rendezvous messages.

`g_handleMap` and `g_rndvHandleMap` are keyed by `int16_t`, the ids are `uint16_t`. A run adds services of
both kinds, creates and destroys servers and receives messages; `AddCall` records every call that adds one.

* `find_handlers`: in every state of a run, each map holds for an id what its last accepted registration
  gave.
* `defined_run`: a run whose messages keep the transport's contract touches no memory outside its arrays.
* `dispatch_follows_history`: a received message calls that handler and no other.
-/

namespace Hcom4db

/-! ## Adding a service -/

/-- The body `OckRpcServerAddService` and `OckRpcServerAddRndvService` share, on the map it writes. -/
def addHandler (w : World) (handleMap : StdMap Int16 Addr) (server : Addr)
    (service : Option OckRpcService) : StdMap Int16 Addr × OckRpcStatus :=
  match serviceKey w server with
  | none => (handleMap, ockRpcErrInvalidParam)
  | some _ =>
    match service with
    | none => (handleMap, ockRpcErrInvalidParam)
    | some service =>
      if maxMessageIdSize ≤ service.id.toNat then (handleMap, ockRpcErrInvalidParam)
      else if service.handler = 0 then (handleMap, ockRpcErrInvalidParam)
      else (handleMap.insert service.id.toInt16 service.handler, ockRpcOk)

def ockRpcServerAddService (w : World) (server : Addr) (service : Option OckRpcService) :
    World × OckRpcStatus :=
  match addHandler w w.gHandleMap server service with
  | (handleMap, ret) => ({ w with gHandleMap := handleMap }, ret)

def ockRpcServerAddRndvService (w : World) (server : Addr) (service : Option OckRpcService) :
    World × OckRpcStatus :=
  match addHandler w w.gRndvHandleMap server service with
  | (handleMap, ret) => ({ w with gRndvHandleMap := handleMap }, ret)

/-- What a call that adds a service must pass. -/
structure AddAccepts (w : World) (server : Addr) (service : OckRpcService) : Prop where
  server : (serviceKey w server).isSome
  id : service.id.toNat < maxMessageIdSize
  handler : service.handler ≠ 0

/-- A call is rejected and writes nothing, or it assigns the entry of its id. -/
theorem addHandler_cases (w : World) (handleMap : StdMap Int16 Addr) (server : Addr)
    (service : Option OckRpcService) :
    ((∀ s, service = some s → ¬ AddAccepts w server s) ∧
      addHandler w handleMap server service = (handleMap, ockRpcErrInvalidParam)) ∨
    (∃ s, service = some s ∧ AddAccepts w server s ∧
      addHandler w handleMap server service =
        (handleMap.insert s.id.toInt16 s.handler, ockRpcOk)) := by
  unfold addHandler
  split
  · rename_i hk
    refine .inl ⟨?_, rfl⟩
    intro s _ h
    have := h.server
    rw [hk] at this
    cases this
  · rename_i name hk
    split
    · refine .inl ⟨?_, rfl⟩
      intro s hs
      cases hs
    · rename_i s
      split
      · rename_i hid
        refine .inl ⟨?_, rfl⟩
        intro s' hs h
        cases hs
        have := h.id
        omega
      · rename_i hid
        split
        · rename_i hh
          refine .inl ⟨?_, rfl⟩
          intro s' hs h
          cases hs
          exact h.handler hh
        · rename_i hh
          exact .inr ⟨s, rfl, ⟨by rw [hk]; rfl, by omega, hh⟩, rfl⟩

/-! ## Receiving a rendezvous message -/

/-- What the context of a rendezvous message answers; `none` when a query fails. -/
structure RndvEnv where
  message : Option ServiceRndvMessage
  ctxType : Option ServiceRndvType
  opCode : Option UInt16

def ockRpcRndvReceiveHandler (w : World) (ctx : Addr) (e : RndvEnv) : World × Int :=
  match e.message with
  | none => (w, ockRpcErr)
  | some rndvMsg =>
    let msg := { cnt := rndvMsg.cnt, msg := (List.range rndvMsg.cnt.toNat).map fun i =>
      ⟨(rndvMsg.msg i).data, (rndvMsg.msg i).size.toUInt64⟩ }
    -- the arrays of both messages have four entries
    let w := if maxMessageSglCount < rndvMsg.cnt.toNat then w.emit .ub else w
    match e.ctxType with
    | none => (w, ockRpcErr)
    | some _ =>
      match e.opCode with
      | none => (w, ockRpcErr)
      | some opCode =>
        match w.gRndvHandleMap.find opCode.toInt16 with
        | some h => (w.emit (.rndvHandler h ctx msg), ockRpcOk)
        | none => (w, ockRpcOk)

/-! ## The history -/

inductive ServiceKind where
  | plain | rndv
  deriving DecidableEq

/-- The map a kind of service is registered in. -/
def World.handlers (w : World) : ServiceKind → StdMap Int16 Addr
  | .plain => w.gHandleMap
  | .rndv => w.gRndvHandleMap

def addService (w : World) (kind : ServiceKind) (server : Addr) (service : Option OckRpcService) :
    World × OckRpcStatus :=
  match kind with
  | .plain => ockRpcServerAddService w server service
  | .rndv => ockRpcServerAddRndvService w server service

/-- The handler an event calls. -/
def Event.invoked? : Event → Option (ServiceKind × Addr)
  | .handler h _ _ _ => some (.plain, h)
  | .rndvHandler h _ _ => some (.rndv, h)
  | _ => none

def invoked (evs : List Event) : List (ServiceKind × Addr) := evs.filterMap Event.invoked?

/-- The id of a plain message: from the raw header, or from `Service_GetOpInfo`. -/
def ReceiveEnv.msgId (e : ReceiveEnv) : Option UInt16 :=
  match e.data, e.ctxType with
  | some b, some t => if t = .receivedRaw then some (rawMsgId b) else e.opCode
  | _, _ => none

/-- The id of a rendezvous message, from `Service_GetRndvOpInfo`. -/
def RndvEnv.msgId (e : RndvEnv) : Option UInt16 :=
  match e.message, e.ctxType with
  | some _, some _ => e.opCode
  | _, _ => none

/-- The transport's message has an array of `NET_SGE_MAX_IOV` entries, and its count is one of these. -/
def RndvEnv.WithinArray (e : RndvEnv) : Prop := ∀ m ∈ e.message, m.cnt.toNat ≤ maxMessageSglCount

namespace Services

/-- A call that adds a service, and what it returned. -/
structure AddCall where
  kind : ServiceKind
  service : Option OckRpcService
  status : OckRpcStatus

/-- The handler a call has registered for an id. -/
def AddCall.registered (c : AddCall) (kind : ServiceKind) (id : UInt16) : Option Addr :=
  match c.service with
  | none => none
  | some s => if c.status = ockRpcOk ∧ c.kind = kind ∧ s.id = id then some s.handler else none

/-- The last accepted registration of an id; the newest call comes first. -/
def lastAccepted (calls : List AddCall) (kind : ServiceKind) (id : UInt16) : Option Addr :=
  calls.findSome? fun c => c.registered kind id

structure Sys where
  w : World := {}
  calls : List AddCall := []

inductive Label where
  | add (kind : ServiceKind) (server : Addr) (service : Option OckRpcService)
  | create (a : CreateArgs) (e : CreateEnv)
  | destroy (server : Addr) (ret : Int)
  | receive (ctx : Addr) (e : ReceiveEnv)
  | rndvReceive (ctx : Addr) (e : RndvEnv)

def step (s : Sys) : Label → Sys
  | .add kind server service =>
    let r := addService s.w kind server service
    ⟨r.1, ⟨kind, service, r.2⟩ :: s.calls⟩
  | .create a e => { s with w := (ockRpcServerCreateWithCfg s.w a e).1 }
  | .destroy server ret => { s with w := ockRpcServerDestroy s.w server ret }
  | .receive ctx e => { s with w := (ockRpcReceiveHandle s.w ctx e).1 }
  | .rndvReceive ctx e => { s with w := (ockRpcRndvReceiveHandler s.w ctx e).1 }

/-- A run from the start of the process. -/
def run (labels : List Label) : Sys := labels.foldl step {}

/-- What the transport guarantees of a message it delivers. -/
def Label.Delivered : Label → Prop
  | .rndvReceive _ e => e.WithinArray
  | _ => True

/-- Nothing has been read or written outside the arrays of a message. -/
def Defined (w : World) : Prop := Event.ub ∉ w.trace

/-! ## Invariant -/

structure Inv (s : Sys) : Prop where
  find : ∀ kind (id : UInt16), (s.w.handlers kind).find id.toInt16 = lastAccepted s.calls kind id
  accepted : ∀ c ∈ s.calls, c.status = ockRpcOk →
    ∃ service, c.service = some service ∧ service.id.toNat < maxMessageIdSize ∧ service.handler ≠ 0

section Step

variable {s : Sys} {w w' : World}

/-- No two ids have the same key. -/
theorem toInt16_inj {id id' : UInt16} : id.toInt16 = id'.toInt16 ↔ id = id' := by
  constructor
  · intro h
    have h1 := congrArg Int16.toUInt16 h
    rwa [UInt16.toUInt16_toInt16, UInt16.toUInt16_toInt16] at h1
  · intro h
    rw [h]

theorem lastAccepted_cons (c : AddCall) (calls : List AddCall) (kind : ServiceKind) (id : UInt16) :
    lastAccepted (c :: calls) kind id = (c.registered kind id).or (lastAccepted calls kind id) := by
  simp only [lastAccepted, List.findSome?_cons]
  cases c.registered kind id with
  | none => rfl
  | some h => rfl

theorem addService_handlers_self (w : World) (kind : ServiceKind) (server : Addr)
    (service : Option OckRpcService) :
    ((addService w kind server service).1.handlers kind, (addService w kind server service).2) =
      addHandler w (w.handlers kind) server service := by
  cases kind with
  | plain => rfl
  | rndv => rfl

theorem addService_handlers_other {kind kind' : ServiceKind} (h : kind' ≠ kind) (w : World)
    (server : Addr) (service : Option OckRpcService) :
    (addService w kind server service).1.handlers kind' = w.handlers kind' := by
  cases kind with
  | plain =>
    cases kind' with
    | plain => exact absurd rfl h
    | rndv => rfl
  | rndv =>
    cases kind' with
    | plain => rfl
    | rndv => exact absurd rfl h

/-- A rejected registration changes nothing. -/
theorem addService_rejected (w : World) (kind : ServiceKind) (server : Addr)
    (service : Option OckRpcService) (h : (addService w kind server service).2 ≠ ockRpcOk) :
    (addService w kind server service).1 = w := by
  cases kind with
  | plain =>
    rcases addHandler_cases w w.gHandleMap server service with ⟨-, hr⟩ | ⟨s, -, -, hr⟩
    · simp only [addService, ockRpcServerAddService, hr]
    · simp only [addService, ockRpcServerAddService, hr] at h
      exact absurd rfl h
  | rndv =>
    rcases addHandler_cases w w.gRndvHandleMap server service with ⟨-, hr⟩ | ⟨s, -, -, hr⟩
    · simp only [addService, ockRpcServerAddRndvService, hr]
    · simp only [addService, ockRpcServerAddRndvService, hr] at h
      exact absurd rfl h

theorem inv_add (I : Inv s) (kind : ServiceKind) (server : Addr) (service : Option OckRpcService) :
    Inv (step s (.add kind server service)) := by
  have hself := addService_handlers_self s.w kind server service
  rcases addHandler_cases s.w (s.w.handlers kind) server service with ⟨-, hr⟩ | ⟨sv, hsv, hacc, hr⟩
  · rw [hr] at hself
    have hst : (addService s.w kind server service).2 = ockRpcErrInvalidParam :=
      congrArg Prod.snd hself
    have hne : (addService s.w kind server service).2 ≠ ockRpcOk := by
      rw [hst]
      exact ockRpcErrInvalidParam_ne_ok
    constructor
    · intro kind' id
      have hc : AddCall.registered ⟨kind, service, (addService s.w kind server service).2⟩ kind' id =
          none := by
        unfold AddCall.registered
        cases service with
        | none => rfl
        | some sv => exact if_neg fun h => hne h.1
      simp only [step, lastAccepted_cons, hc, Option.none_or]
      rw [addService_rejected s.w kind server service hne]
      exact I.find kind' id
    · intro c hc hok
      rcases List.mem_cons.mp hc with rfl | hc
      · exact absurd hok hne
      · exact I.accepted c hc hok
  · subst hsv
    rw [hr] at hself
    obtain ⟨hmap, hst⟩ := Prod.mk.inj hself
    constructor
    · intro kind' id
      simp only [step, lastAccepted_cons, AddCall.registered, hst, true_and]
      by_cases hk : kind' = kind
      · subst hk
        rw [hmap, StdMap.find_insert, I.find kind' id]
        by_cases hid : id = sv.id
        · simp [hid]
        · rw [if_neg (fun h => hid (toInt16_inj.mp h)), if_neg (fun h => hid h.2.symm), Option.none_or]
      · rw [addService_handlers_other hk, I.find kind' id, if_neg (fun h => hk h.1.symm),
          Option.none_or]
    · intro c hc hok
      rcases List.mem_cons.mp hc with rfl | hc
      · exact ⟨sv, rfl, hacc.id, hacc.handler⟩
      · exact I.accepted c hc hok

/-- A step that leaves both maps alone. -/
theorem Inv.of_handlers (I : Inv s) (h : ∀ kind, w'.handlers kind = s.w.handlers kind) :
    Inv { s with w := w' } := by
  refine ⟨?_, I.accepted⟩
  intro kind id
  rw [h kind]
  exact I.find kind id

theorem destroy_handlers (w : World) (server : Addr) (ret : Int) (kind : ServiceKind) :
    (ockRpcServerDestroy w server ret).handlers kind = w.handlers kind := by
  unfold ockRpcServerDestroy
  cases serviceKey w server with
  | none => rfl
  | some name =>
    simp only
    split
    · cases kind <;> rfl
    · cases kind <;> rfl

theorem registers_handlers {service : Addr} (h : Registers service w w') (kind : ServiceKind) :
    w'.handlers kind = w.handlers kind := by
  rw [h.rest]
  cases kind <;> rfl

theorem create_handlers (w : World) (a : CreateArgs) (e : CreateEnv) (kind : ServiceKind) :
    (ockRpcServerCreateWithCfg w a e).1.handlers kind = w.handlers kind := by
  rcases serverCreate_cases w a e with ⟨-, hrej, -⟩ | ⟨ip, configs, m, w0, -, hs, hr⟩
  · obtain ⟨lf, ct, evs, h, -⟩ := hrej
    rw [h]
    cases kind <;> rfl
  · have h0 : w0.handlers kind = w.handlers kind := by
      obtain ⟨lf, ct, t, rfl⟩ := hs
      cases kind <;> rfl
    rw [hr, ← h0]
    rcases initServer_cases w0 a ip configs m e with ⟨w1, h1, h2, -⟩ | ⟨w1, h1, h2, -⟩
    · have h3 := registers_handlers (setTlsConfigs_cases w1 e.service configs m).1 kind
      rw [h2] at h3
      rw [h3, registers_handlers h1.toRegisters kind]
    · rw [h2, destroy_handlers, registers_handlers h1.toRegisters kind]

theorem dispatch_handlers (w : World) (ctx : Addr) (msgId : UInt16) (off : Nat) (len : UInt64)
    (kind : ServiceKind) : (dispatch w ctx msgId off len).1.handlers kind = w.handlers kind := by
  unfold dispatch
  cases w.gHandleMap.find msgId.toInt16 with
  | some h => cases kind <;> rfl
  | none => rfl

theorem receive_handlers (w : World) (ctx : Addr) (e : ReceiveEnv) (kind : ServiceKind) :
    (ockRpcReceiveHandle w ctx e).1.handlers kind = w.handlers kind := by
  unfold ockRpcReceiveHandle
  cases e.data with
  | none => rfl
  | some b =>
    simp only
    split
    · rfl
    · rw [dispatch_handlers]
      cases kind <;> rfl
    · split
      · rfl
      · exact dispatch_handlers w ctx _ _ _ kind

theorem rndvReceive_handlers (w : World) (ctx : Addr) (e : RndvEnv) (kind : ServiceKind) :
    (ockRpcRndvReceiveHandler w ctx e).1.handlers kind = w.handlers kind := by
  unfold ockRpcRndvReceiveHandler
  cases e.message with
  | none => rfl
  | some rndvMsg =>
    have hub : ∀ w' : World, w' = (if maxMessageSglCount < rndvMsg.cnt.toNat then w.emit .ub else w) →
        w'.handlers kind = w.handlers kind := by
      intro w' h
      rw [h]
      split
      · cases kind <;> rfl
      · rfl
    simp only
    generalize hw : (if maxMessageSglCount < rndvMsg.cnt.toNat then w.emit .ub else w) = w1
    rw [← hub w1 hw.symm]
    split
    · rfl
    · split
      · rfl
      · split
        · cases kind <;> rfl
        · rfl

theorem inv_step (I : Inv s) (l : Label) : Inv (step s l) := by
  cases l with
  | add kind server service => exact inv_add I kind server service
  | create a e => exact I.of_handlers (create_handlers s.w a e)
  | destroy server ret => exact I.of_handlers (destroy_handlers s.w server ret)
  | receive ctx e => exact I.of_handlers (receive_handlers s.w ctx e)
  | rndvReceive ctx e => exact I.of_handlers (rndvReceive_handlers s.w ctx e)

end Step

theorem inv_run (labels : List Label) : Inv (run labels) := by
  have hstart : Inv {} := by
    constructor
    · intro kind id
      cases kind <;> exact StdMap.find_empty _
    · intro c hc
      cases hc
  have hfold : ∀ s, Inv s → Inv (labels.foldl step s) := by
    induction labels with
    | nil =>
      intro s I
      exact I
    | cons l labels ih =>
      intro s I
      exact ih _ (inv_step I l)
  exact hfold {} hstart

/-! ## Messages within their arrays -/

section Defined

variable {w w' : World} {ctx : Addr}

theorem Defined.of_append (hw : Defined w) (evs : List Event) (ht : w'.trace = evs ++ w.trace)
    (hevs : Event.ub ∉ evs) : Defined w' := by
  unfold Defined at hw ⊢
  rw [ht, List.mem_append]
  rintro (h | h)
  · exact hevs h
  · exact hw h

theorem Defined.registers {service : Addr} (hw : Defined w) (h : Registers service w w') :
    Defined w' := by
  obtain ⟨rs, ht⟩ := h.trace
  refine hw.of_append _ ht ?_
  intro hub
  obtain ⟨r, -, hr⟩ := List.mem_map.mp hub
  cases hr

theorem Defined.destroy (hw : Defined w) (server : Addr) (ret : Int) :
    Defined (ockRpcServerDestroy w server ret) := by
  unfold ockRpcServerDestroy
  split
  · exact hw
  · simp only
    split
    · exact hw.of_append [.serviceDestroy server ret, .serviceStop server] rfl (by simp)
    · exact hw.of_append [.serviceDestroy server ret, .serviceStop server] rfl (by simp)

theorem Defined.create (hw : Defined w) (a : CreateArgs) (e : CreateEnv) :
    Defined (ockRpcServerCreateWithCfg w a e).1 := by
  rcases serverCreate_cases w a e with ⟨-, hrej, -⟩ | ⟨ip, configs, m, w0, -, hs, hr⟩
  · obtain ⟨lf, ct, evs, h, hevs⟩ := hrej
    refine hw.of_append evs (congrArg World.trace h) ?_
    intro hub
    obtain ⟨l, hl⟩ := hevs _ hub
    cases hl
  · have h0 : Defined w0 := by
      obtain ⟨lf, ct, t, rfl⟩ := hs
      exact hw.of_append [.serviceCreate t (configuredName m) e.service, .setExternalLogger lf] rfl (by simp)
    rw [hr]
    rcases initServer_cases w0 a ip configs m e with ⟨w1, h1, h2, -⟩ | ⟨w1, h1, h2, -⟩
    · have h3 := (setTlsConfigs_cases w1 e.service configs m).1
      rw [h2] at h3
      exact (h0.registers h1.toRegisters).registers h3
    · rw [h2]
      exact (h0.registers h1.toRegisters).destroy e.service e.destroyRet

theorem Defined.dispatch (hw : Defined w) (ctx : Addr) (msgId : UInt16) (off : Nat) (len : UInt64) :
    Defined (dispatch w ctx msgId off len).1 := by
  refine hw.of_append _ dispatch_trace ?_
  rw [since_dispatch]
  cases w.gHandleMap.find msgId.toInt16 <;> simp

theorem Defined.receive (hw : Defined w) (ctx : Addr) (e : ReceiveEnv) :
    Defined (ockRpcReceiveHandle w ctx e).1 := by
  unfold ockRpcReceiveHandle
  cases e.data with
  | none => exact hw
  | some b =>
    simp only
    split
    · exact hw
    · exact (hw.of_append [.msgRead 0 sizeofRawMessageHeader] rfl (by simp)).dispatch ctx _ _ _
    · split
      · exact hw
      · exact hw.dispatch ctx _ _ _

/-- The loop over the segments stays in the arrays, by the contract. -/
theorem Defined.rndvReceive (hw : Defined w) (ctx : Addr) {e : RndvEnv} (he : e.WithinArray) :
    Defined (ockRpcRndvReceiveHandler w ctx e).1 := by
  unfold ockRpcRndvReceiveHandler
  unfold RndvEnv.WithinArray at he
  cases hm : e.message with
  | none => exact hw
  | some rndvMsg =>
    have hcnt := he rndvMsg (by rw [hm]; rfl)
    simp only
    rw [if_neg (Nat.not_lt.mpr hcnt)]
    split
    · exact hw
    · split
      · exact hw
      · split
        · rename_i h _
          exact hw.of_append [.rndvHandler h ctx _] rfl (by simp)
        · exact hw

theorem Defined.step {s : Sys} (hs : Defined s.w) {l : Label} (hl : l.Delivered) :
    Defined (step s l).w := by
  cases l with
  | add kind server service =>
    cases kind with
    | plain => exact hs
    | rndv => exact hs
  | create a e => exact Defined.create hs a e
  | destroy server ret => exact Defined.destroy hs server ret
  | receive ctx e => exact Defined.receive hs ctx e
  | rndvReceive ctx e => exact Defined.rndvReceive hs ctx hl

theorem defined_run {labels : List Label} (h : ∀ l ∈ labels, l.Delivered) : Defined (run labels).w := by
  have hfold : ∀ s : Sys, Defined s.w → Defined (labels.foldl Services.step s).w := by
    induction labels with
    | nil =>
      intro s hs
      exact hs
    | cons l labels ih =>
      intro s hs
      exact ih (fun l' hl' => h l' (List.mem_cons_of_mem _ hl')) _
        (hs.step (h l List.mem_cons_self))
  exact hfold {} (by simp [Defined])

end Defined

/-! ## What a message calls -/

section Invoked

variable {w : World} {ctx : Addr}

theorem invoked_receive (w : World) (ctx : Addr) (e : ReceiveEnv) :
    invoked (w.since (ockRpcReceiveHandle w ctx e).1) =
      ((e.msgId.bind fun id => w.gHandleMap.find id.toInt16).map fun h => (.plain, h)).toList := by
  unfold ReceiveEnv.msgId
  cases hd : e.data with
  | none =>
    simp only [ockRpcReceiveHandle, hd, World.since_self]
    rfl
  | some b =>
    cases ht : e.ctxType with
    | none =>
      simp only [ockRpcReceiveHandle, hd, ht, World.since_self]
      rfl
    | some t =>
      simp only
      by_cases hraw : t = .receivedRaw
      · subst hraw
        rw [since_receive_raw hd ht, if_pos rfl, Option.bind_some]
        cases w.gHandleMap.find (rawMsgId b).toInt16 with
        | none => rfl
        | some h => rfl
      · rw [receive_op hd ht hraw, if_neg hraw]
        cases e.opCode with
        | none =>
          rw [World.since_self]
          rfl
        | some opCode =>
          simp only [Option.bind_some]
          rw [since_dispatch]
          cases w.gHandleMap.find opCode.toInt16 with
          | none => rfl
          | some h => rfl

/-- A rendezvous message is handed to the handler of its id, if there is one; what the loop over the
entries adds to the trace is `.ub`, if they are more than the array has. -/
theorem since_rndvReceive (w : World) (ctx : Addr) (e : RndvEnv) :
    ∃ msg evs, (e.WithinArray ∧ evs = [] ∨ ¬ e.WithinArray ∧ evs = [.ub]) ∧
      w.since (ockRpcRndvReceiveHandler w ctx e).1 =
        ((e.msgId.bind fun id => w.gRndvHandleMap.find id.toInt16).map
          fun h => Event.rndvHandler h ctx msg).toList ++ evs := by
  unfold RndvEnv.msgId RndvEnv.WithinArray ockRpcRndvReceiveHandler
  cases e.message with
  | none =>
    simp only [World.since_self]
    have hnone : ∀ m ∈ (none : Option ServiceRndvMessage), m.cnt.toNat ≤ maxMessageSglCount := by
      intro m hm
      cases hm
    exact ⟨⟨0, []⟩, [], .inl ⟨hnone, rfl⟩, rfl⟩
  | some rndvMsg =>
    have hub : ∃ evs, ((∀ m ∈ some rndvMsg, m.cnt.toNat ≤ maxMessageSglCount) ∧ evs = [] ∨
          ¬ (∀ m ∈ some rndvMsg, m.cnt.toNat ≤ maxMessageSglCount) ∧ evs = [Event.ub]) ∧
        (if maxMessageSglCount < rndvMsg.cnt.toNat then w.emit .ub else w) =
          { w with trace := evs ++ w.trace } := by
      split
      · rename_i hcnt
        exact ⟨[.ub], .inr ⟨fun h => absurd (h rndvMsg rfl) (Nat.not_le.mpr hcnt), rfl⟩, rfl⟩
      · rename_i hcnt
        refine ⟨[], .inl ⟨?_, rfl⟩, rfl⟩
        intro m hm
        cases hm
        exact Nat.not_lt.mp hcnt
    obtain ⟨evs, hevs, hw⟩ := hub
    simp only [hw]
    refine ⟨{ cnt := rndvMsg.cnt, msg := (List.range rndvMsg.cnt.toNat).map fun i =>
      ⟨(rndvMsg.msg i).data, (rndvMsg.msg i).size.toUInt64⟩ }, evs, hevs, ?_⟩
    cases e.ctxType with
    | none => exact World.since_of_trace rfl
    | some t =>
      cases e.opCode with
      | none => exact World.since_of_trace rfl
      | some opCode =>
        simp only [Option.bind_some]
        cases w.gRndvHandleMap.find opCode.toInt16 with
        | none => exact World.since_of_trace rfl
        | some h => exact World.since_of_trace rfl

theorem invoked_rndvReceive (w : World) (ctx : Addr) (e : RndvEnv) :
    invoked (w.since (ockRpcRndvReceiveHandler w ctx e).1) =
      ((e.msgId.bind fun id => w.gRndvHandleMap.find id.toInt16).map fun h => (.rndv, h)).toList := by
  obtain ⟨msg, evs, hevs, hsince⟩ := since_rndvReceive w ctx e
  rw [hsince]
  cases e.msgId.bind fun id => w.gRndvHandleMap.find id.toInt16 with
  | none =>
    obtain ⟨-, rfl⟩ | ⟨-, rfl⟩ := hevs
    · rfl
    · rfl
  | some h =>
    obtain ⟨-, rfl⟩ | ⟨-, rfl⟩ := hevs
    · rfl
    · rfl

end Invoked

/-- **Dispatch follows the registration history**: after any run a message calls the handler of the last
accepted registration of its id and kind, or none; a rejected registration changes nothing; two ids never
share a key. The messages are such as the transport delivers, with no more segments than their arrays
have; the dispatchers then stay in these arrays. -/
theorem dispatch_follows_history (labels : List Label) (hdel : ∀ l ∈ labels, l.Delivered) :
    Defined (run labels).w ∧
    (∀ ctx e, invoked ((run labels).w.since (ockRpcReceiveHandle (run labels).w ctx e).1) =
      ((e.msgId.bind (lastAccepted (run labels).calls .plain)).map fun h => (.plain, h)).toList) ∧
    (∀ ctx e, e.WithinArray → Defined (ockRpcRndvReceiveHandler (run labels).w ctx e).1 ∧
      invoked ((run labels).w.since (ockRpcRndvReceiveHandler (run labels).w ctx e).1) =
        ((e.msgId.bind (lastAccepted (run labels).calls .rndv)).map fun h => (.rndv, h)).toList) ∧
    (∀ kind server service, (addService (run labels).w kind server service).2 ≠ ockRpcOk →
      (addService (run labels).w kind server service).1 = (run labels).w) ∧
    (∀ id id' : UInt16, id.toInt16 = id'.toInt16 → id = id') := by
  have I := inv_run labels
  have hdef := defined_run hdel
  refine ⟨hdef, ?_, ?_, ?_, ?_⟩
  · intro ctx e
    rw [invoked_receive]
    have h : (fun id : UInt16 => (run labels).w.gHandleMap.find id.toInt16) =
        lastAccepted (run labels).calls .plain := funext (I.find .plain)
    rw [h]
  · intro ctx e he
    refine ⟨hdef.rndvReceive ctx he, ?_⟩
    rw [invoked_rndvReceive]
    have h : (fun id : UInt16 => (run labels).w.gRndvHandleMap.find id.toInt16) =
        lastAccepted (run labels).calls .rndv := funext (I.find .rndv)
    rw [h]
  · intro kind server service h
    exact addService_rejected _ kind server service h
  · intro id id' h
    exact toInt16_inj.mp h

/-- A rendezvous message of one segment with id 5. -/
def idFive : RndvEnv :=
  { message := some ⟨1, fun _ => ⟨64, 8⟩⟩, ctxType := some .rndvSgl, opCode := some 5 }

theorem idFive_withinArray : idFive.WithinArray := by
  intro m hm
  cases hm
  decide

/-- Id 5 is registered twice, then 1000 is refused and 5 is registered for rendezvous messages, of which
one arrives. -/
def fiveTwice : List Label :=
  [.create defaultServer { service := 40 },
    .add .plain 40 (some ⟨5, 9⟩), .add .plain 40 (some ⟨5, 10⟩), .add .plain 40 (some ⟨1000, 11⟩),
    .add .rndv 40 (some ⟨5, 12⟩), .rndvReceive 6 idFive]

/-- A message with that id calls the second handler, a rendezvous message its own. -/
theorem dispatch_latest :
    invoked ((run fiveTwice).w.since (ockRpcReceiveHandle (run fiveTwice).w 7
      { data := some fun _ => 0, dataLen := 8, ctxType := some .received, opCode := some 5 }).1) =
        [(.plain, 10)] ∧
    invoked ((run fiveTwice).w.since (ockRpcRndvReceiveHandler (run fiveTwice).w 7 idFive).1) =
      [(.rndv, 12)] := by
  have hdel : ∀ l ∈ fiveTwice, l.Delivered := by
    simp [fiveTwice, Label.Delivered, idFive_withinArray]
  obtain ⟨-, hplain, hrndv, -, -⟩ := dispatch_follows_history fiveTwice hdel
  constructor
  · rw [hplain]
    rfl
  · rw [(hrndv 7 idFive idFive_withinArray).2]
    rfl

/-- Ids from 1000 on reach no handler, the negative keys of ids above 32767 included. -/
theorem lastAccepted_beyond (labels : List Label) (kind : ServiceKind) (id : UInt16) :
    maxMessageIdSize ≤ id.toNat → lastAccepted (run labels).calls kind id = none := by
  intro hid
  refine List.findSome?_eq_none_iff.mpr ?_
  intro c hc
  unfold AddCall.registered
  split
  · rfl
  · rename_i sv hsv
    refine if_neg ?_
    rintro ⟨hok, -, hsame⟩
    obtain ⟨sv', hsv', hlt, -⟩ := (inv_run labels).accepted c hc hok
    rw [hsv] at hsv'
    cases hsv'
    rw [hsame] at hlt
    omega

end Services

end Hcom4db
