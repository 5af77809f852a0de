import Hcom4db.Config
import Hcom4db.Securec

/-!
# Hcom4db.Server

Creating, starting and destroying a server. All servers share `g_options` and `g_tlsFunc`: a create
writes them field by field, `OckRpcServerStart` passes them on, a destroy resets them.
-/

namespace Hcom4db

/-! ## Character arrays -/

/-- `strcpy_s(dest, n, src)`. -/
def CharArray.strcpyS {n : Nat} (dest : CharArray n) (src : CStr) : CharArray n × Int :=
  if n ≤ src.length then (fun i => if i.val = 0 then 0 else dest i, erangeAndReset)
  else (fun i => if i.val ≤ src.length then src.getD i.val 0 else dest i, 0)

/-- `memcpy_s(dest, n, src, strlen(src))`: no terminator is copied. -/
def CharArray.memcpyS {n : Nat} (dest : CharArray n) (src : CStr) : CharArray n × Int :=
  if n < src.length then (fun _ => 0, erangeAndReset)
  else (fun i => if i.val < src.length then src.getD i.val 0 else dest i, 0)

/-! ## Creating the service -/

structure CreateArgs where
  ip : Option CStr
  port : UInt16
  /-- Whether the pointer for the handle is there. -/
  server : Bool
  configs : Option OckRpcCreateConfig

/-- What the transport library does during a create. -/
structure CreateEnv where
  /-- The result of `Hcom4dbInitDlopenSo`. -/
  dlopenRet : Int := 0
  createRet : Int := 0
  /-- The handle `Service_Create` stores. -/
  service : Addr
  destroyRet : Int := 0

def ockRpcCheckServerCreateCfg (a : CreateArgs) : Option (CStr × OckRpcCreateConfig) :=
  checkCreateCfg a.ip a.port a.server a.configs

/-- The name a configuration gives, or the default one. -/
def configuredName (configMap : ConfigMap) : CStr :=
  match configMap.find ockRpcStrServerName with
  | some value => value.str
  | none => cstr "service"

/-- The transport a configuration asks for: `none` for a value that is neither "TCP" nor "RDMA",
`some none` when there is no value. -/
def configuredType (configMap : ConfigMap) : Option (Option ServiceType) :=
  match configMap.find ockRpcStrCommunicationType with
  | none => some none
  | some value =>
    if value.str = cstr "TCP" then some (some .tcp)
    else if value.str = cstr "RDMA" then some (some .rdma)
    else none

def ockRpcCreateServer (w : World) (configMap : ConfigMap) (e : CreateEnv) : World × OckRpcStatus :=
  let serviceName := configuredName configMap
  if 64 < serviceName.length then (w, ockRpcErrInvalidParam)
  else
    match configuredType configMap with
    | none => (w, ockRpcErrInvalidParam)
    | some expected =>
      let w := { w with gConnectionType := expected.getD w.gConnectionType }
      if e.createRet ≠ ockRpcOk then (w, ockRpcErr)
      else
        let w := w.emit (.serviceCreate (expected.getD .rdma) serviceName e.service)
        ({ w with gServiceMap := w.gServiceMap.insertNew serviceName e.service }, ockRpcOk)

/-- The events of `OckRpcRegisterChannelHandle`, newest first. -/
def ockRpcRegisterChannelHandle (w : World) (service : Addr) (configMap : ConfigMap) : World :=
  let newFunc := (configMap.find ockRpcStrClientNew).map CharPtr.addr
  let breakFunc := (configMap.find ockRpcStrClientBreak).map CharPtr.addr
  (w.emit (.register service (.channelNew newFunc))).emit (.register service (.channelBroken breakFunc))

/-- The handlers a create registers before it looks at the options. -/
def registerHandlers (w : World) (service : Addr) (ip : CStr) (port : UInt16)
    (configMap : ConfigMap) : World :=
  let w := w.emit (.register service (.oobIpAndPort ip port))
  let w := ockRpcRegisterChannelHandle w service configMap
  ((w.emit (.register service .requestReceived)).emit (.register service .requestPosted)).emit
    (.register service .readWriteDone)

/-! ## Options -/

def World.setOptions (w : World) (options : ServiceOptions) : World := { w with gOptions := options }

/-- The port range a configuration gives, or the default one. -/
def configuredPortRange (configMap : ConfigMap) : CStr :=
  match configMap.find ockRpcStrServerPortRange with
  | some value => value.str
  | none => cstr "4000-5000"

/-- A string option: copied when it is configured, left alone otherwise. -/
def CharArray.configure {n : Nat} (dest : CharArray n) (configMap : ConfigMap) (key : CStr) :
    CharArray n × Int :=
  match configMap.find key with
  | some value => dest.strcpyS value.str
  | none => (dest, ockRpcOk)

def ockRpcDefaultOptionInit (configMap : ConfigMap) (options : ServiceOptions) (ip : CStr) :
    ServiceOptions × OckRpcStatus :=
  -- `snprintf_s(ipMask, 64, 63, "%s/24", ip)` fails when the result does not fit
  if 63 < ip.length + 3 then (options, ockRpcErrInvalidParam)
  else
    let ipMask := ip ++ cstr "/24"
    let options := { options with mrSendReceiveSegSize := 64 * 1024, mrSendReceiveSegCount := 1024 }
    match ockRpcString2Num configMap ockRpcStrPreSegmentSize options.mrSendReceiveSegSize with
    | none => (options, ockRpcErr)
    | some size =>
      let options := { options with mrSendReceiveSegSize := size }
      match ockRpcString2Num configMap ockRpcStrPreSegmentCount options.mrSendReceiveSegCount with
      | none => (options, ockRpcErr)
      | some count =>
        let options := { options with
          mrSendReceiveSegCount := count
          qpSendQueueSize := 2048
          qpReceiveQueueSize := 2048
          prePostReceiveSizePerQP := 1024
          completionQueueDepth := 8192 }
        match options.oobPortRange.memcpyS (configuredPortRange configMap) with
        | (oobPortRange, ret) =>
          let options := { options with oobPortRange := oobPortRange }
          if ret ≠ ockRpcOk then (options, ockRpcErr)
          else
            match options.netDeviceIpMask.strcpyS ipMask with
            | (netDeviceIpMask, ret) =>
              let options := { options with netDeviceIpMask := netDeviceIpMask }
              if ret ≠ ockRpcOk then (options, ockRpcErr) else (options, ockRpcOk)

def ockRpcSetWorkThreadConfigs (configMap : ConfigMap) (options : ServiceOptions) :
    ServiceOptions × OckRpcStatus :=
  let options := { options with mode := .eventPolling }
  match readYesNo configMap ockRpcStrEnablePollWorker false with
  | none => (options, ockRpcErr)
  | some busy =>
    let options := { options with
      mode := if busy then ServiceWorkingMode.busyPolling else .eventPolling }
    let groups := options.workerGroups.configure configMap ockRpcStrWrkThrGrp
    let options := { options with workerGroups := groups.1 }
    if groups.2 ≠ ockRpcOk then (options, ockRpcErr)
    else
      let cpuSet := options.workerGroupsCpuSet.configure configMap ockRpcStrWrkCpuSet
      let options := { options with workerGroupsCpuSet := cpuSet.1 }
      if cpuSet.2 ≠ ockRpcOk then (options, ockRpcErr) else (options, ockRpcOk)

def setRndvOpHandler (w : World) (service : Addr) (configMap : ConfigMap) : World × OckRpcStatus :=
  match configMap.find ockRpcStrRndvMalloc with
  | none => (w, ockRpcErr)
  | some malloc =>
    match configMap.find ockRpcStrRndvMfree with
    | none => (w, ockRpcErr)
    | some free =>
      (((w.emit (.register service (.allocate malloc.addr))).emit
        (.register service (.free free.addr))).emit (.register service .rndvOp), ockRpcOk)

def ockRpcSetTlsConfigs (w : World) (service : Addr) (configs : OckRpcCreateConfig)
    (configMap : ConfigMap) : World × OckRpcStatus :=
  let w := w.setOptions { w.gOptions with enableTls := true, tlsVersion := 772 }
  match readYesNo configMap ockRpcStrEnableTls true with
  | none => (w, ockRpcErr)
  | some enable =>
    let w := w.setOptions { w.gOptions with enableTls := enable }
    if configs.uses ockRpcConfigUseSslCallback = true ∧ enable = true then
      if configs.getCaAndVerify = 0 ∨ configs.getCert = 0 ∨ configs.getPriKey = 0 then (w, ockRpcErr)
      else
        let w := { w with gTlsFunc := { w.gTlsFunc with
          getCaAndVerify := configs.getCaAndVerify
          getCert := configs.getCert
          getPriKey := configs.getPriKey } }
        (w.emit (.register service .tlsCb), ockRpcOk)
    else
      -- without the mask bit TLS is off, also when "yes" was asked for
      (w.setOptions { w.gOptions with enableTls := false }, ockRpcOk)

/-- The rendezvous part of `OckRpcExpandOptionInit`. -/
def initRndv (w : World) (service : Addr) (configMap : ConfigMap) : World × OckRpcStatus :=
  let w := w.setOptions { w.gOptions with enableRndv := false }
  match readYesNo configMap ockRpcStrEnableSendRndv false with
  | none => (w, ockRpcErr)
  | some false => (w, ockRpcOk)
  | some true =>
    match setRndvOpHandler w service configMap with
    | (w, ret) =>
      if ret ≠ ockRpcOk then (w, ockRpcErr)
      else (w.setOptions { w.gOptions with enableRndv := true }, ockRpcOk)

/-- The worker part of `OckRpcExpandOptionInit`. -/
def initWorkers (options : ServiceOptions) (configs : OckRpcCreateConfig) (configMap : ConfigMap) :
    ServiceOptions × OckRpcStatus :=
  if configs.uses ockRpcConfigUseRpcConfigs then ockRpcSetWorkThreadConfigs configMap options
  else (options, ockRpcOk)

def ockRpcExpandOptionInit (w : World) (service : Addr) (configs : OckRpcCreateConfig)
    (configMap : ConfigMap) : World × OckRpcStatus :=
  match initWorkers w.gOptions configs configMap with
  | (options, ret) =>
    let w := w.setOptions options
    if ret ≠ ockRpcOk then (w, ockRpcErr)
    else
      match ockRpcString2Num configMap ockRpcStrHeatbeatIdle 1 with
      | none => (w, ockRpcErr)
      | some idle =>
        let w := w.setOptions { w.gOptions with heartBeatIdleTime := idle.toUInt16 }
        match initRndv w service configMap with
        | (w, ret) =>
          if ret ≠ ockRpcOk then (w, ockRpcErr) else ockRpcSetTlsConfigs w service configs configMap

/-! ## The three operations -/

/-- The key of `g_serviceMap` a server is found under. -/
def serviceKey (w : World) (server : Addr) : Option CStr :=
  StdMap.findIf (fun k k' => decide (k < k')) (fun s => decide (s = server)) w.gServiceMap

/-- `OckRpcServerDestroy`; `ret` is the answer of `Service_Destroy`. -/
def ockRpcServerDestroy (w : World) (server : Addr) (ret : Int) : World :=
  match serviceKey w server with
  | none => w
  | some name =>
    let w := (w.emit (.serviceStop server)).emit (.serviceDestroy server ret)
    if ret ≠ ockRpcOk then w
    else { w with gServiceMap := w.gServiceMap.erase name, gOptions := {}, gTlsFunc := {} }

/-- `OckRpcServerStart`; `ret` is the answer of `Service_Start`. -/
def ockRpcServerStart (w : World) (server : Addr) (ret : Int) : World × OckRpcStatus :=
  (w.emit (.serviceStart server w.gOptions), if ret ≠ ockRpcOk then ockRpcErr else ockRpcOk)

/-- `Service_SetExternalLogger(g_logFunc)`, with the library's own function when there is none. -/
def setExternalLogger (w : World) : World :=
  let h := w.gLogFunc.getD .hcomLog
  { w with gLogFunc := some h }.emit (.setExternalLogger h)

/-- What a create does once it has a service. -/
def initServer (w : World) (a : CreateArgs) (ip : CStr) (configs : OckRpcCreateConfig)
    (configMap : ConfigMap) (e : CreateEnv) : World × OckRpcStatus :=
  let w := registerHandlers w e.service ip a.port configMap
  match ockRpcDefaultOptionInit configMap w.gOptions ip with
  | (options, ret) =>
    let w := w.setOptions options
    if ret ≠ ockRpcOk then (ockRpcServerDestroy w e.service e.destroyRet, ockRpcErrInvalidParam)
    else
      match ockRpcExpandOptionInit w e.service configs configMap with
      | (w, ret) =>
        if ret ≠ ockRpcOk then (ockRpcServerDestroy w e.service e.destroyRet, ockRpcErrInvalidParam)
        else (w, ockRpcOk)

def ockRpcServerCreateWithCfg (w : World) (a : CreateArgs) (e : CreateEnv) : World × OckRpcStatus :=
  if e.dlopenRet ≠ ockRpcOk then (w, ockRpcErr)
  else
    match ockRpcCheckServerCreateCfg a with
    | none => (w, ockRpcErrInvalidParam)
    | some (ip, configs) =>
      match ockRpcInitConfigMap configs with
      | none => (w, ockRpcErrInvalidParam)
      | some configMap =>
        match ockRpcCreateServer (setExternalLogger w) configMap e with
        | (w, ret) =>
          if ret = ockRpcErrInvalidParam then (w, ockRpcErrInvalidParam)
          else if ret ≠ ockRpcOk then (w, ockRpcErr)
          else initServer w a ip configs configMap e

/-- A server that is created with the default options. -/
def defaultServer : CreateArgs := ⟨some (cstr "10.0.0.1"), 0, true, some { mask := 0, configs := ⟨0, none⟩ }⟩

end Hcom4db
