import Hcom4db.Async
import Hcom4db.Config

/-!
# Hcom4db.Connect

Connecting and disconnecting a client. A connect gives the channel a pool: a buffer, an allocator over it
and a memory region. The allocator and the region are entered in `g_memoryAllocator` and
`g_memoryRegion` under the channel handle, unless the handle has an entry; a disconnect releases what the
maps hold.

* `connect_cases`: a connect leaves both maps alone or enters what it created in both.
* `disconnect_steps`: the four steps of a disconnect.
-/

namespace Hcom4db

/-! ## The pool of a client -/

def ockMaxMessagSize : UInt32 := 64 * 1024
def ockMaxMessagCount : UInt32 := 1024
def maxSegmentSize : UInt32 := 943718400
def maxSegmentCount : UInt32 := 65535
def mrMinSize : UInt32 := 4 * 1024

/-- The loop of `Calculate2PowerTimes`. -/
def calculate2PowerTimesLoop (powerNum count : UInt32) : UInt32 :=
  if powerNum = 0 then count else calculate2PowerTimesLoop (powerNum >>> 1) (count + 1)
termination_by powerNum.toNat
decreasing_by
  rename_i h
  have h0 : powerNum.toNat ≠ 0 := fun h0 => h (UInt32.toNat_inj.mp h0)
  rw [UInt32.toNat_shiftRight, Nat.shiftRight_eq_div_pow]
  exact Nat.div_lt_self (by omega) (by decide)

def calculate2PowerTimes (powerNum : UInt32) : UInt32 := calculate2PowerTimesLoop powerNum 0

structure ConnectArgs where
  ip : Option CStr
  port : UInt16
  /-- Whether the pointer for the handle is there. -/
  client : Bool
  configs : Option OckRpcCreateConfig

/-- What the transport library and `malloc` do during a connect. -/
structure ConnectEnv where
  connectRet : Int := 0
  /-- The handle `Service_Connect` stores. -/
  channel : Addr
  /-- The buffer of the pool, 0 when `malloc` fails. -/
  malloc : Addr
  createRet : Int := 0
  allocator : Addr
  registerRet : Int := 0
  mr : Addr
  infoRet : Int := 0
  info : ServiceMemoryRegionInfo
  setKeyRet : Int := 0

def ockRpcSetAllocatorOption (w : World) (configMap : ConfigMap) (malloc : Addr) :
    World × Except OckRpcStatus NetMemoryAllocatorOptions :=
  match ockRpcString2Num configMap ockRpcStrPreSegmentSize ockMaxMessagSize with
  | none => (w, .error ockRpcErr)
  | some maxSize =>
    if maxSegmentSize < maxSize then (w, .error ockRpcErr)
    else
      match ockRpcString2Num configMap ockRpcStrPreSegmentCount ockMaxMessagCount with
      | none => (w, .error ockRpcErr)
      | some maxCount =>
        if maxSegmentCount < maxCount then (w, .error ockRpcErr)
        else
          -- the product is widened after it was taken in 32 bits
          let allocatorSize := (maxSize * maxCount).toUInt64
          if allocatorSize = 0 then (w, .error ockRpcErrInvalidParam)
          else
            let allocatorSize := if allocatorSize < mrMinSize.toUInt64 then mrMinSize.toUInt64
              else allocatorSize
            if malloc = 0 then (w, .error ockRpcErr)
            else
              (w.emit (.poolBuffer malloc allocatorSize), .ok
                { address := malloc
                  size := allocatorSize
                  minBlockSize := mrMinSize
                  alignedAddress := 1
                  cacheTierCount := (calculate2PowerTimes (maxSize / mrMinSize)).toUInt16
                  cacheBlockCountPerTier := 10
                  bucketCount := 1024
                  cacheTierPolicy := .power })

def ockRpcRegisterMr (w : World) (server address : Addr) (memSize : UInt64) (e : ConnectEnv) :
    World × OckRpcStatus :=
  if e.registerRet ≠ ockRpcOk then (w, ockRpcErr)
  else
    (w.emit (.mrRegister server e.mr address memSize),
      if e.infoRet ≠ ockRpcOk then ockRpcErr else ockRpcOk)

def ockRpcPrepareMemAllocator (w : World) (server client : Addr) (configMap : ConfigMap)
    (e : ConnectEnv) : World × OckRpcStatus :=
  match ockRpcSetAllocatorOption w configMap e.malloc with
  | (w, .error ret) =>
    -- a pool of size 0 is no error: the client has no pool
    if ret = ockRpcErrInvalidParam then (w, ockRpcOk) else (w, ockRpcErr)
  | (w, .ok option) =>
    if e.createRet ≠ ockRpcOk then (w, ockRpcErr)
    else
      match ockRpcRegisterMr (w.emit (.poolCreate e.allocator option)) server option.address
          option.size e with
      | (w, ret) =>
        if ret ≠ ockRpcOk then (w, ockRpcErr)
        else if e.setKeyRet ≠ ockRpcOk then (w, ockRpcErr)
        else
          let w := w.emit (.poolSetKey e.allocator e.info.lKey)
          let mrInfo := { mr := e.mr, mrInfo := e.info, server := server }
          ({ w with
              gMemoryAllocator := w.gMemoryAllocator.insertNew client e.allocator
              gMemoryRegion := w.gMemoryRegion.insertNew client mrInfo }, ockRpcOk)

/-! ## Connect -/

def ockRpcCheckClientCreateCfg (a : ConnectArgs) : Option (CStr × OckRpcCreateConfig) :=
  checkCreateCfg a.ip a.port a.client a.configs

/-- `OckRpcGetCurService`, `none` for an error. -/
def ockRpcGetCurService (w : World) (configMap : ConfigMap) : Option Addr :=
  let serviceName := match configMap.find ockRpcStrServerName with
    | some value => value.str
    | none => cstr "service"
  if 64 < serviceName.length then none else w.gServiceMap.find serviceName

/-- `SER_C_CHANNEL_SELF_POLLING`. -/
def serCChannelSelfPolling : UInt32 := 1

/-- `OckRpcSetConnectionOption`: the flags, `none` for an error. -/
def ockRpcSetConnectionOption (configMap : ConfigMap) : Option UInt32 :=
  (readYesNo configMap ockRpcStrEnableSelfpolling true).map fun self =>
    if self then serCChannelSelfPolling else 0

/-- The payload a configuration gives, or the default one. -/
def configuredPayLoad (configMap : ConfigMap) : CStr :=
  match configMap.find ockRpcStrClientCreateInfo with
  | some value => value.str
  | none => cstr "hello"

/-- `OckRpcClientConnectWithCfg`; the handle it stores is `e.channel`. -/
def ockRpcClientConnectWithCfg (w : World) (a : ConnectArgs) (e : ConnectEnv) :
    World × OckRpcStatus :=
  match ockRpcCheckClientCreateCfg a with
  | none => (w, ockRpcErrInvalidParam)
  | some (ip, configs) =>
    match ockRpcInitConfigMap configs with
    | none => (w, ockRpcErrInvalidParam)
    | some configMap =>
      match ockRpcGetCurService w configMap with
      | none => (w, ockRpcErrInvalidParam)
      | some service =>
        match ockRpcSetConnectionOption configMap with
        | none => (w, ockRpcErrInvalidParam)
        | some flags =>
          if e.connectRet ≠ ockRpcOk then (w, ockRpcErr)
          else
            let w := w.emit (.channelConnect service e.channel
              { ip := ip, port := a.port, payLoad := configuredPayLoad configMap, epSize := 1,
                flags := flags })
            match ockRpcPrepareMemAllocator w service e.channel configMap e with
            | (w, ret) => if ret ≠ ockRpcOk then (w, ockRpcErr) else (w, ockRpcOk)

/-! ## Disconnect -/

/-- `OckRpcClientDisconnect`; `ret` is the answer of `Net_MemoryAllocatorDestroy`. -/
def ockRpcClientDisconnect (w : World) (client : Addr) (ret : Int) : World :=
  let w := match w.gMemoryAllocator.find client with
    | none => w
    | some allocator =>
      let w := w.emit (.poolDestroy allocator ret)
      { w with gMemoryAllocator := w.gMemoryAllocator.erase client }
  let w := match w.gMemoryRegion.find client with
    | none => w
    | some mrInfo =>
      let w := (w.stdFree mrInfo.mrInfo.lAddress).emit (.mrDestroy mrInfo.server mrInfo.mr)
      { w with gMemoryRegion := w.gMemoryRegion.erase client }
  w.emit (.channelClose client)

/-- The first step of a disconnect: the allocator is destroyed while its entry is still there. -/
def destroyAllocator (w : World) (client : Addr) (ret : Int) : World :=
  match w.gMemoryAllocator.find client with
  | none => w
  | some allocator => w.emit (.poolDestroy allocator ret)

def eraseAllocator (w : World) (client : Addr) : World :=
  { w with gMemoryAllocator := w.gMemoryAllocator.erase client }

def releaseRegion (w : World) (client : Addr) : World :=
  match w.gMemoryRegion.find client with
  | none => w
  | some mrInfo =>
    let w := (w.stdFree mrInfo.mrInfo.lAddress).emit (.mrDestroy mrInfo.server mrInfo.mr)
    { w with gMemoryRegion := w.gMemoryRegion.erase client }

def closeChannel (w : World) (client : Addr) : World := w.emit (.channelClose client)

theorem disconnect_steps (w : World) (client : Addr) (ret : Int) :
    ockRpcClientDisconnect w client ret =
      closeChannel (releaseRegion (eraseAllocator (destroyAllocator w client ret) client) client)
        client := by
  unfold ockRpcClientDisconnect destroyAllocator
  cases h : w.gMemoryAllocator.find client with
  | some allocator => rfl
  | none =>
    have he : eraseAllocator w client = w := by
      rw [eraseAllocator, StdMap.erase_of_find_none h]
    simp only [he]
    rfl

/-! ## What a connect does -/

/-- The events of a connect: it creates things and frees nothing. -/
def Event.onConnect (e : ConnectEnv) : Event → Prop
  | .channelConnect _ chan _ => chan = e.channel
  | .poolBuffer _ _ => True
  | .poolCreate a _ => a = e.allocator
  | .mrRegister _ mr _ _ => mr = e.mr
  | .poolSetKey _ _ => True
  | _ => False

/-- The pools and the regions created in a trace. -/
def Event.poolCreated? : Event → Option Addr
  | .poolCreate a _ => some a
  | _ => none

def Event.regionRegistered? : Event → Option (Addr × Addr)
  | .mrRegister server mr _ _ => some (server, mr)
  | _ => none

/-- The allocator and the region a connect created, as its trace shows them; `info` is what
`Service_GetMemoryRegionInfo` reported. -/
def createdBy (info : ServiceMemoryRegionInfo) (evs : List Event) : Option (Addr × OckRpcMrInfo) :=
  match evs.findSome? Event.poolCreated?, evs.findSome? Event.regionRegistered? with
  | some a, some (server, mr) => some (a, { mr := mr, mrInfo := info, server := server })
  | _, _ => none

section

variable {e : ConnectEnv}

theorem setAllocatorOption_cases (w : World) (configMap : ConfigMap) (malloc : Addr) :
    (∃ ret, ockRpcSetAllocatorOption w configMap malloc = (w, .error ret)) ∨
    (∃ option, (ockRpcSetAllocatorOption w configMap malloc).2 = .ok option ∧
      option.address = malloc ∧
      (ockRpcSetAllocatorOption w configMap malloc).1 = w.emit (.poolBuffer malloc option.size)) := by
  unfold ockRpcSetAllocatorOption
  split
  · exact .inl ⟨_, rfl⟩
  · split
    · exact .inl ⟨_, rfl⟩
    · split
      · exact .inl ⟨_, rfl⟩
      · split
        · exact .inl ⟨_, rfl⟩
        · simp only
          split
          · exact .inl ⟨_, rfl⟩
          · split
            · exact .inl ⟨_, rfl⟩
            · exact .inr ⟨_, rfl, rfl, rfl⟩

/-- The events of a preparation that goes through, newest first. -/
def poolEvents (server : Addr) (option : NetMemoryAllocatorOptions) (e : ConnectEnv) : List Event :=
  [.poolSetKey e.allocator e.info.lKey, .mrRegister server e.mr option.address option.size,
    .poolCreate e.allocator option, .poolBuffer e.malloc option.size]

/-- The preparation of a pool fails, or there is none to prepare, or both maps get its entry. -/
theorem prepareMemAllocator_cases (w : World) (server client : Addr) (configMap : ConfigMap)
    (e : ConnectEnv) :
    (∃ evs st, ockRpcPrepareMemAllocator w server client configMap e =
        ({ w with trace := evs ++ w.trace }, st) ∧ (∀ ev ∈ evs, ev.onConnect e) ∧
        (st = ockRpcOk → evs = [])) ∨
    (∃ option, ockRpcPrepareMemAllocator w server client configMap e =
      ({ w with
          gMemoryAllocator := w.gMemoryAllocator.insertNew client e.allocator
          gMemoryRegion := w.gMemoryRegion.insertNew client ⟨e.mr, e.info, server⟩
          trace := poolEvents server option e ++ w.trace }, ockRpcOk)) := by
  unfold ockRpcPrepareMemAllocator
  rcases setAllocatorOption_cases w configMap e.malloc with ⟨ret, h⟩ | ⟨option, h2, -, h1⟩
  · rw [h]
    simp only
    split
    · exact .inl ⟨[], _, rfl, by simp, fun _ => rfl⟩
    · exact .inl ⟨[], _, rfl, by simp, fun _ => rfl⟩
  · have h : ockRpcSetAllocatorOption w configMap e.malloc =
        (w.emit (.poolBuffer e.malloc option.size), .ok option) := Prod.ext h1 h2
    rw [h]
    simp only
    split
    · refine .inl ⟨[.poolBuffer e.malloc option.size], _, rfl, ?_, fun h => absurd h ockRpcErr_ne_ok⟩
      intro ev hev
      rw [List.mem_singleton.mp hev]
      trivial
    · unfold ockRpcRegisterMr
      by_cases hreg : e.registerRet = ockRpcOk
      · rw [if_neg (not_not.mpr hreg)]
        have hevs : ∀ ev ∈ [.mrRegister server e.mr option.address option.size,
            .poolCreate e.allocator option, Event.poolBuffer e.malloc option.size],
            ev.onConnect e := by
          intro ev hev
          simp only [List.mem_cons, List.not_mem_nil, or_false] at hev
          rcases hev with rfl | rfl | rfl
          · rfl
          · rfl
          · trivial
        by_cases hinfo : e.infoRet = ockRpcOk
        · rw [if_neg (not_not.mpr hinfo), if_neg (not_not.mpr rfl)]
          split
          · exact .inl ⟨_, _, rfl, hevs, fun h => absurd h ockRpcErr_ne_ok⟩
          · refine .inr ⟨option, ?_⟩
            simp only [World.emit, poolEvents, List.cons_append, List.nil_append]
        · rw [if_pos hinfo, if_pos ockRpcErr_ne_ok]
          exact .inl ⟨_, _, rfl, hevs, fun h => absurd h ockRpcErr_ne_ok⟩
      · rw [if_pos hreg]
        simp only
        rw [if_pos ockRpcErr_ne_ok]
        refine .inl ⟨[.poolCreate e.allocator option, .poolBuffer e.malloc option.size], _, rfl, ?_,
          fun h => absurd h ockRpcErr_ne_ok⟩
        intro ev hev
        simp only [List.mem_cons, List.not_mem_nil, or_false] at hev
        rcases hev with rfl | rfl
        · rfl
        · trivial

/-- A connect leaves the maps alone, or it succeeds and enters what it created in both. -/
theorem connect_cases (w : World) (a : ConnectArgs) (e : ConnectEnv) :
    (∃ evs st, ockRpcClientConnectWithCfg w a e = ({ w with trace := evs ++ w.trace }, st) ∧
        (∀ ev ∈ evs, ev.onConnect e) ∧ (st = ockRpcOk → createdBy e.info evs = none)) ∨
    (∃ service option req, ockRpcClientConnectWithCfg w a e =
      ({ w with
          gMemoryAllocator := w.gMemoryAllocator.insertNew e.channel e.allocator
          gMemoryRegion := w.gMemoryRegion.insertNew e.channel ⟨e.mr, e.info, service⟩
          trace := poolEvents service option e ++ .channelConnect service e.channel req :: w.trace },
        ockRpcOk)) := by
  have hnil : ∀ st, st ≠ ockRpcOk →
      ∃ evs st', (w, st) = ({ w with trace := evs ++ w.trace }, st') ∧ (∀ ev ∈ evs, ev.onConnect e) ∧
        (st' = ockRpcOk → createdBy e.info evs = none) :=
    fun st hst => ⟨[], st, rfl, by simp, fun h => absurd h hst⟩
  unfold ockRpcClientConnectWithCfg
  split
  · exact .inl (hnil _ ockRpcErrInvalidParam_ne_ok)
  · rename_i ip configs _
    split
    · exact .inl (hnil _ ockRpcErrInvalidParam_ne_ok)
    · rename_i configMap _
      split
      · exact .inl (hnil _ ockRpcErrInvalidParam_ne_ok)
      · rename_i service _
        split
        · exact .inl (hnil _ ockRpcErrInvalidParam_ne_ok)
        · rename_i flags _
          split
          · exact .inl (hnil _ ockRpcErr_ne_ok)
          · rcases prepareMemAllocator_cases (w.emit (.channelConnect service e.channel
              { ip := ip, port := a.port, payLoad := configuredPayLoad configMap, epSize := 1,
                flags := flags })) service e.channel configMap e with
              ⟨evs, st, h, hevs, hok⟩ | ⟨option, h⟩
            · simp only [h]
              have hall : ∀ ev ∈ evs ++ [.channelConnect service e.channel
                  { ip := ip, port := a.port, payLoad := configuredPayLoad configMap, epSize := 1,
                    flags := flags }], ev.onConnect e := by
                intro ev hev
                rcases List.mem_append.mp hev with hev | hev
                · exact hevs ev hev
                · rw [List.mem_singleton.mp hev]
                  rfl
              split
              · exact .inl ⟨_, ockRpcErr, by rw [List.append_assoc]; rfl, hall,
                  fun h => absurd h ockRpcErr_ne_ok⟩
              · rename_i hst
                refine .inl ⟨_, ockRpcOk, by rw [List.append_assoc]; rfl, hall, fun _ => ?_⟩
                rw [hok (not_not.mp hst)]
                rfl
            · simp only [h]
              exact .inr ⟨service, option, _, rfl⟩

/-- A connect that enters its pool shows in its trace what it created. -/
theorem createdBy_poolEvents {service : Addr} {option : NetMemoryAllocatorOptions}
    {req : ConnectRequest} :
    createdBy e.info (poolEvents service option e ++ [.channelConnect service e.channel req]) =
      some (e.allocator, ⟨e.mr, e.info, service⟩) := rfl

end

/-! ### A connect with default settings -/

/-- A process with one service, named "service". -/
def oneService : World :=
  { gServiceMap := AList.singleton (cstr "service") 40
    gOptions := { mrSendReceiveSegSize := 8 } }

def defaultConnect : ConnectArgs :=
  ⟨some (cstr "10.0.0.1"), 1024, true, some { mask := 0, configs := ⟨0, none⟩ }⟩

/-- The transport hands out client 1, allocator `a` and region `mr`. -/
def connectEnv (a mr : Addr) : ConnectEnv :=
  { channel := 1, malloc := 5000, allocator := a, mr := mr, info := ⟨5000, 7, 67108864⟩ }

end Hcom4db
