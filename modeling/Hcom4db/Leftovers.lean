import Hcom4db.ServerEffects

/-!
# Hcom4db.Leftovers

What `g_options` holds after a create, and what of it an earlier create has left there.

The port range is copied without its terminator, and the worker options are written only when the mask bit
`OCK_RPC_CONFIG_USE_RPC_CONFIGS` is set, the two strings among them only when they are configured.

* `create_stores`: what a create that succeeds makes of the options it finds.
* `same_options_iff`: two creates with the same arguments leave the same options exactly when what they
  find agrees in the parts that are kept.
-/

namespace Hcom4db

/-! ## Strings in arrays -/

/-- The string that starts at index `k` of the array, up to its terminator or the end of the array. -/
def CharArray.strFrom {n : Nat} (a : CharArray n) (k : Nat) : CStr :=
  ((List.ofFn a).drop k).takeWhile (· ≠ 0)

def CharArray.str {n : Nat} (a : CharArray n) : CStr := a.strFrom 0

section Strings

variable {n : Nat} {dest : CharArray n} {src : CStr}

/-- The bytes after a copy without a terminator. -/
theorem memcpyS_bytes (h : src.length ≤ n) :
    List.ofFn (dest.memcpyS src).1 = src ++ (List.ofFn dest).drop src.length := by
  unfold CharArray.memcpyS
  rw [if_neg (by omega)]
  apply List.ext_getElem
  · simp
    omega
  · intro i h1 h2
    rw [List.length_ofFn] at h1
    simp only [List.getElem_ofFn]
    by_cases hi : i < src.length
    · rw [if_pos hi, List.getElem_append_left hi]
      simp [hi]
    · rw [if_neg hi, List.getElem_append_right (by omega)]
      simp only [List.getElem_drop, List.getElem_ofFn]
      congr 2
      omega

/-- A copy with a terminator is one without it of the string and its terminator. -/
theorem strcpyS_eq_memcpyS (h : src.length < n) : dest.strcpyS src = dest.memcpyS (src ++ [0]) := by
  have hlen : (src ++ [0]).length = src.length + 1 := by simp
  unfold CharArray.strcpyS CharArray.memcpyS
  rw [if_neg (by omega), if_neg (by omega)]
  refine Prod.ext (funext fun i => ?_) rfl
  simp only [hlen]
  by_cases hi : i.val < src.length
  · rw [if_pos (by omega), if_pos (by omega)]
    simp [hi, List.getElem?_append_left hi]
  · by_cases hi' : i.val = src.length
    · rw [if_pos (by omega), if_pos (by omega), hi']
      simp
    · rw [if_neg (by omega), if_neg (by omega)]

theorem takeWhile_append_zero (src tail : CStr) :
    (src ++ 0 :: tail).takeWhile (· ≠ 0) = src.takeWhile (· ≠ 0) := by
  induction src with
  | nil => simp
  | cons c src ih =>
    by_cases hc : c = 0
    · simp [hc]
    · simp only [List.cons_append, List.takeWhile_cons, hc, ne_eq, not_false_eq_true, decide_true, if_true]
      exact congrArg (List.cons c) ih

theorem strcpyS_str (h : src.length < n) : (dest.strcpyS src).1.str = src.takeWhile (· ≠ 0) := by
  rw [CharArray.str, CharArray.strFrom, List.drop_zero, strcpyS_eq_memcpyS h, memcpyS_bytes (by simp; omega),
    List.append_assoc]
  exact takeWhile_append_zero src _

/-- A string without a zero is read to its end. -/
theorem ne_zero_of_not_mem (h : 0 ∉ src) : ∀ c ∈ src, decide (c ≠ 0) = true := by
  intro c hc
  refine decide_eq_true ?_
  rintro rfl
  exact h hc

/-- Without a terminator, what was in the array after the copy goes on the string. -/
theorem memcpyS_str_iff (dest dest' : CharArray n) (h : src.length ≤ n) : (dest.memcpyS src).1.str = (dest'.memcpyS src).1.str ↔
    (0 ∉ src → dest.strFrom src.length = dest'.strFrom src.length) := by
  simp only [CharArray.str, CharArray.strFrom, List.drop_zero, memcpyS_bytes h]
  by_cases hz : (0 : UInt8) ∈ src
  · obtain ⟨s, t, rfl⟩ := List.append_of_mem hz
    simp only [List.append_assoc, List.cons_append, takeWhile_append_zero]
    exact iff_of_true trivial fun hno => absurd hz hno
  · have hall := ne_zero_of_not_mem hz
    rw [List.takeWhile_append_of_pos hall, List.takeWhile_append_of_pos hall, List.append_cancel_left_eq]
    exact ⟨fun h _ => h, fun h => h hz⟩

/-- A configured string is the same whatever was there; another one stays. -/
theorem configure_str {m : ConfigMap} {key : CStr} (h : ∀ value ∈ m.find key, value.str.length < n) :
    (dest.configure m key).1.str =
      match m.find key with
      | some value => value.str.takeWhile (· ≠ 0)
      | none => dest.str := by
  unfold CharArray.configure
  cases hf : m.find key with
  | none => rfl
  | some value => exact strcpyS_str (h value hf)

end Strings

namespace Leftovers

/-! ## What a create stores -/

/-- What a create that succeeds makes of the options `o`. -/
structure Stored (configs : OckRpcCreateConfig) (m : ConfigMap) (ip : CStr) (o r : ServiceOptions) :
    Prop where
  defaults : DefaultsAccept m ip
  workers : configs.uses ockRpcConfigUseRpcConfigs = true → WorkersAccept m
  segSize : ockRpcString2Num m ockRpcStrPreSegmentSize (64 * 1024) = some r.mrSendReceiveSegSize
  segCount : ockRpcString2Num m ockRpcStrPreSegmentCount 1024 = some r.mrSendReceiveSegCount
  sendQueue : r.qpSendQueueSize = 2048
  receiveQueue : r.qpReceiveQueueSize = 2048
  prePost : r.prePostReceiveSizePerQP = 1024
  depth : r.completionQueueDepth = 8192
  portRange : r.oobPortRange = (o.oobPortRange.memcpyS (configuredPortRange m)).1
  ipMask : r.netDeviceIpMask = (o.netDeviceIpMask.strcpyS (ip ++ cstr "/24")).1
  mode : if configs.uses ockRpcConfigUseRpcConfigs then
      ∃ busy, readYesNo m ockRpcStrEnablePollWorker false = some busy ∧
        r.mode = if busy then .busyPolling else .eventPolling
    else r.mode = o.mode
  groups : r.workerGroups = if configs.uses ockRpcConfigUseRpcConfigs then
    (o.workerGroups.configure m ockRpcStrWrkThrGrp).1 else o.workerGroups
  cpuSet : r.workerGroupsCpuSet = if configs.uses ockRpcConfigUseRpcConfigs then
    (o.workerGroupsCpuSet.configure m ockRpcStrWrkCpuSet).1 else o.workerGroupsCpuSet
  heartbeat : ∃ idle, ockRpcString2Num m ockRpcStrHeatbeatIdle 1 = some idle ∧
    r.heartBeatIdleTime = idle.toUInt16
  rndv : readYesNo m ockRpcStrEnableSendRndv false = some r.enableRndv
  tls : r.enableTls = true ↔ SetsTls configs m
  tlsVersion : r.tlsVersion = 772

section Steps

variable {w : World} {m : ConfigMap} {configs : OckRpcCreateConfig} {service : Addr}
  {o : ServiceOptions} {ip : CStr}

theorem defaultOptionInit_stores (h : (ockRpcDefaultOptionInit m o ip).2 = ockRpcOk) :
    ∃ size count, ockRpcString2Num m ockRpcStrPreSegmentSize (64 * 1024) = some size ∧
      ockRpcString2Num m ockRpcStrPreSegmentCount 1024 = some count ∧
      (ockRpcDefaultOptionInit m o ip).1 = { o with
        mrSendReceiveSegSize := size
        mrSendReceiveSegCount := count
        qpSendQueueSize := 2048
        qpReceiveQueueSize := 2048
        prePostReceiveSizePerQP := 1024
        completionQueueDepth := 8192
        oobPortRange := (o.oobPortRange.memcpyS (configuredPortRange m)).1
        netDeviceIpMask := (o.netDeviceIpMask.strcpyS (ip ++ cstr "/24")).1 } := by
  unfold ockRpcDefaultOptionInit at h ⊢
  split at h
  · cases h
  · rename_i hip
    rw [if_neg hip]
    simp only at h ⊢
    cases hs : ockRpcString2Num m ockRpcStrPreSegmentSize (64 * 1024) with
    | none =>
      rw [hs] at h
      cases h
    | some size =>
      rw [hs] at h
      simp only at h ⊢
      cases hc : ockRpcString2Num m ockRpcStrPreSegmentCount 1024 with
      | none =>
        rw [hc] at h
        cases h
      | some count =>
        rw [hc] at h
        simp only at h ⊢
        split at h
        · cases h
        · rename_i hport
          rw [if_neg hport]
          split at h
          · cases h
          · rename_i hmask
            rw [if_neg hmask]
            exact ⟨size, count, rfl, rfl, rfl⟩

theorem workThreadConfigs_stores (h : (ockRpcSetWorkThreadConfigs m o).2 = ockRpcOk) :
    ∃ busy, readYesNo m ockRpcStrEnablePollWorker false = some busy ∧
      (ockRpcSetWorkThreadConfigs m o).1 = { o with
        mode := if busy then .busyPolling else .eventPolling
        workerGroups := (o.workerGroups.configure m ockRpcStrWrkThrGrp).1
        workerGroupsCpuSet := (o.workerGroupsCpuSet.configure m ockRpcStrWrkCpuSet).1 } := by
  unfold ockRpcSetWorkThreadConfigs at h ⊢
  simp only at h ⊢
  cases hp : readYesNo m ockRpcStrEnablePollWorker false with
  | none =>
    rw [hp] at h
    cases h
  | some busy =>
    rw [hp] at h
    simp only at h ⊢
    split at h
    · cases h
    · rename_i hg
      split at h
      · cases h
      · rename_i hc
        rw [if_neg hg, if_neg hc]
        exact ⟨busy, rfl, rfl⟩

theorem initWorkers_stores (h : (initWorkers o configs m).2 = ockRpcOk) : ∃ mode,
    (configs.uses ockRpcConfigUseRpcConfigs = true → WorkersAccept m) ∧
    (if configs.uses ockRpcConfigUseRpcConfigs then
      ∃ busy, readYesNo m ockRpcStrEnablePollWorker false = some busy ∧
        mode = if busy then ServiceWorkingMode.busyPolling else .eventPolling
    else mode = o.mode) ∧
    (initWorkers o configs m).1 = { o with
      mode := mode
      workerGroups := if configs.uses ockRpcConfigUseRpcConfigs then
        (o.workerGroups.configure m ockRpcStrWrkThrGrp).1 else o.workerGroups
      workerGroupsCpuSet := if configs.uses ockRpcConfigUseRpcConfigs then
        (o.workerGroupsCpuSet.configure m ockRpcStrWrkCpuSet).1 else o.workerGroupsCpuSet } := by
  unfold initWorkers at h ⊢
  by_cases hu : configs.uses ockRpcConfigUseRpcConfigs = true
  · simp only [if_pos hu] at h ⊢
    obtain ⟨busy, hbusy, hopt⟩ := workThreadConfigs_stores h
    exact ⟨_, fun _ => setWorkThreadConfigs_ok_iff.mp h, ⟨busy, hbusy, rfl⟩, hopt⟩
  · simp only [if_neg hu]
    exact ⟨o.mode, fun hu' => absurd hu' hu, rfl, rfl⟩

theorem initRndv_stores (h : (initRndv w service m).2 = ockRpcOk) : ∃ enable,
    readYesNo m ockRpcStrEnableSendRndv false = some enable ∧
      (initRndv w service m).1.gOptions = { w.gOptions with enableRndv := enable } := by
  have hregister : ∀ w1, (setRndvOpHandler w1 service m).1.gOptions = w1.gOptions := by
    intro w1
    unfold setRndvOpHandler
    cases m.find ockRpcStrRndvMalloc with
    | none => rfl
    | some malloc =>
      cases m.find ockRpcStrRndvMfree with
      | none => rfl
      | some free => rfl
  unfold initRndv at h ⊢
  simp only at h ⊢
  cases hv : readYesNo m ockRpcStrEnableSendRndv false with
  | none =>
    rw [hv] at h
    cases h
  | some enable =>
    rw [hv] at h
    refine ⟨enable, rfl, ?_⟩
    cases enable with
    | false => rfl
    | true =>
      simp only at h ⊢
      split at h
      · cases h
      · rename_i hret
        rw [if_neg hret]
        simp only [World.setOptions, hregister]

theorem setTlsConfigs_stores (h : (ockRpcSetTlsConfigs w service configs m).2 = ockRpcOk) : ∃ enable,
    (enable = true ↔ SetsTls configs m) ∧
      (ockRpcSetTlsConfigs w service configs m).1.gOptions =
        { w.gOptions with enableTls := enable, tlsVersion := 772 } := by
  refine ⟨_, setTlsConfigs_enableTls h, ?_⟩
  unfold ockRpcSetTlsConfigs at h ⊢
  simp only at h ⊢
  cases hv : readYesNo m ockRpcStrEnableTls true with
  | none =>
    rw [hv] at h
    cases h
  | some enable =>
    simp only
    split
    · split
      · rfl
      · rfl
    · rfl

theorem expandOptionInit_stores (h : (ockRpcExpandOptionInit w service configs m).2 = ockRpcOk) :
    ∃ idle rndv tls, ockRpcString2Num m ockRpcStrHeatbeatIdle 1 = some idle ∧
      readYesNo m ockRpcStrEnableSendRndv false = some rndv ∧ (tls = true ↔ SetsTls configs m) ∧
      (initWorkers w.gOptions configs m).2 = ockRpcOk ∧
      (ockRpcExpandOptionInit w service configs m).1.gOptions =
        { (initWorkers w.gOptions configs m).1 with
          heartBeatIdleTime := idle.toUInt16
          enableRndv := rndv
          enableTls := tls
          tlsVersion := 772 } := by
  unfold ockRpcExpandOptionInit at h ⊢
  simp only at h ⊢
  split at h
  · cases h
  · rename_i hw
    rw [if_neg hw]
    cases hi : ockRpcString2Num m ockRpcStrHeatbeatIdle 1 with
    | none =>
      rw [hi] at h
      cases h
    | some idle =>
      rw [hi] at h
      simp only at h ⊢
      split at h
      · cases h
      · rename_i hr
        rw [if_neg hr]
        obtain ⟨rndv, hrndv, hopt⟩ := initRndv_stores (not_not.mp hr)
        obtain ⟨tls, htls, hopt'⟩ := setTlsConfigs_stores h
        refine ⟨idle, rndv, tls, rfl, hrndv, htls, not_not.mp hw, ?_⟩
        rw [hopt', hopt]
        rfl

theorem initServer_stores {a : CreateArgs} {e : CreateEnv}
    (h : (initServer w a ip configs m e).2 = ockRpcOk) :
    Stored configs m ip w.gOptions (initServer w a ip configs m e).1.gOptions := by
  unfold initServer at h ⊢
  have hkeep : (registerHandlers w e.service ip a.port m).gOptions = w.gOptions := by
    simp only [registerHandlers, ockRpcRegisterChannelHandle, World.emit]
  simp only [hkeep] at h ⊢
  split at h
  · cases h
  · rename_i hd
    rw [if_neg hd]
    split at h
    · cases h
    · rename_i hx
      rw [if_neg hx]
      obtain ⟨size, count, hsize, hcount, hopt⟩ := defaultOptionInit_stores (not_not.mp hd)
      obtain ⟨idle, rndv, tls, hidle, hrndv, htls, hw, hopt'⟩ := expandOptionInit_stores (not_not.mp hx)
      simp only [World.setOptions, hopt] at hw hopt' ⊢
      obtain ⟨mode, haccw, hmode, hoptw⟩ := initWorkers_stores hw
      rw [hopt', hoptw]
      exact {
        defaults := defaultOptionInit_ok_iff.mp (not_not.mp hd)
        workers := haccw
        segSize := hsize
        segCount := hcount
        sendQueue := rfl
        receiveQueue := rfl
        prePost := rfl
        depth := rfl
        portRange := rfl
        ipMask := rfl
        mode := hmode
        groups := rfl
        cpuSet := rfl
        heartbeat := ⟨idle, hidle, rfl⟩
        rndv := hrndv
        tls := htls
        tlsVersion := rfl }

theorem create_stores {a : CreateArgs} {e : CreateEnv}
    (h : (ockRpcServerCreateWithCfg w a e).2 = ockRpcOk) : ∃ ip configs m, GetsService a e ip configs m ∧
      Stored configs m ip w.gOptions (ockRpcServerCreateWithCfg w a e).1.gOptions := by
  rcases serverCreate_cases w a e with ⟨-, -, hst⟩ | ⟨ip, configs, m, w0, hg, hs, hr⟩
  · exact absurd h hst
  · have hkeep : w0.gOptions = w.gOptions := by
      obtain ⟨lf, ct, t, rfl⟩ := hs
      rfl
    rw [hr] at h ⊢
    rw [← hkeep]
    exact ⟨ip, configs, m, hg, initServer_stores h⟩

end Steps

/-! ## Two creates -/

/-- The options are the same; the arrays are compared as strings. The fields that the library never writes
are left out. -/
structure SameOptions (r r' : ServiceOptions) : Prop where
  netDeviceIpMask : r.netDeviceIpMask.str = r'.netDeviceIpMask.str
  enableTls : r.enableTls = r'.enableTls
  tlsVersion : r.tlsVersion = r'.tlsVersion
  enableRndv : r.enableRndv = r'.enableRndv
  mode : r.mode = r'.mode
  workerGroups : r.workerGroups.str = r'.workerGroups.str
  workerGroupsCpuSet : r.workerGroupsCpuSet.str = r'.workerGroupsCpuSet.str
  heartBeatIdleTime : r.heartBeatIdleTime = r'.heartBeatIdleTime
  mrSendReceiveSegCount : r.mrSendReceiveSegCount = r'.mrSendReceiveSegCount
  mrSendReceiveSegSize : r.mrSendReceiveSegSize = r'.mrSendReceiveSegSize
  completionQueueDepth : r.completionQueueDepth = r'.completionQueueDepth
  prePostReceiveSizePerQP : r.prePostReceiveSizePerQP = r'.prePostReceiveSizePerQP
  qpSendQueueSize : r.qpSendQueueSize = r'.qpSendQueueSize
  qpReceiveQueueSize : r.qpReceiveQueueSize = r'.qpReceiveQueueSize
  oobPortRange : r.oobPortRange.str = r'.oobPortRange.str

/-- The options agree in what a create with this configuration keeps of them. -/
structure LeftoversAgree (configs : OckRpcCreateConfig) (m : ConfigMap) (o o' : ServiceOptions) :
    Prop where
  mode : ¬ configs.uses ockRpcConfigUseRpcConfigs = true → o.mode = o'.mode
  /-- The string is kept unless it is configured, which takes the mask bit. -/
  groups : (configs.uses ockRpcConfigUseRpcConfigs = true → m.find ockRpcStrWrkThrGrp = none) →
    o.workerGroups.str = o'.workerGroups.str
  cpuSet : (configs.uses ockRpcConfigUseRpcConfigs = true → m.find ockRpcStrWrkCpuSet = none) →
    o.workerGroupsCpuSet.str = o'.workerGroupsCpuSet.str
  /-- What stands after the port range; a C string has no zero byte. -/
  portRange : 0 ∉ configuredPortRange m →
    o.oobPortRange.strFrom (configuredPortRange m).length =
      o'.oobPortRange.strFrom (configuredPortRange m).length

section TwoRuns

variable {m : ConfigMap} {configs : OckRpcCreateConfig} {ip : CStr} {o o' r r' : ServiceOptions}

/-- A string option that is written under the mask bit, and when it is configured. -/
theorem worker_str_iff {n : Nat} {key : CStr} (dest dest' : CharArray n)
    (h : configs.uses ockRpcConfigUseRpcConfigs = true → ∀ value ∈ m.find key, value.str.length < n) :
    (if configs.uses ockRpcConfigUseRpcConfigs then (dest.configure m key).1 else dest).str =
        (if configs.uses ockRpcConfigUseRpcConfigs then (dest'.configure m key).1 else dest').str ↔
      ((configs.uses ockRpcConfigUseRpcConfigs = true → m.find key = none) → dest.str = dest'.str) := by
  by_cases hu : configs.uses ockRpcConfigUseRpcConfigs = true
  · simp only [if_pos hu, configure_str (h hu)]
    cases hf : m.find key with
    | none => exact ⟨fun h _ => h, fun h => h fun _ => rfl⟩
    | some value => exact iff_of_true rfl fun hno => absurd (hno hu) (Option.some_ne_none _)
  · simp only [if_neg hu]
    exact ⟨fun h _ => h, fun h => h fun hu' => absurd hu' hu⟩

theorem Stored.same_iff (S : Stored configs m ip o r) (S' : Stored configs m ip o' r') :
    SameOptions r r' ↔ LeftoversAgree configs m o o' := by
  have hgroups := worker_str_iff o.workerGroups o'.workerGroups fun hu => (S.workers hu).groups
  have hcpuSet := worker_str_iff o.workerGroupsCpuSet o'.workerGroupsCpuSet
    fun hu => (S.workers hu).cpuSet
  have hport := memcpyS_str_iff o.oobPortRange o'.oobPortRange S.defaults.portRange
  rw [← S.groups, ← S'.groups] at hgroups
  rw [← S.cpuSet, ← S'.cpuSet] at hcpuSet
  rw [← S.portRange, ← S'.portRange] at hport
  have hmode := S.mode
  have hmode' := S'.mode
  constructor
  · intro h
    refine ⟨fun hu => ?_, hgroups.mp h.workerGroups, hcpuSet.mp h.workerGroupsCpuSet,
      hport.mp h.oobPortRange⟩
    rw [if_neg hu] at hmode hmode'
    rw [← hmode, ← hmode', h.mode]
  · intro h
    have hmask : (ip ++ cstr "/24").length < 256 := by
      have hlen : (cstr "/24").length = 3 := by decide
      have := S.defaults.ip
      rw [List.length_append, hlen]
      omega
    obtain ⟨idle, hidle, htime⟩ := S.heartbeat
    obtain ⟨idle', hidle', htime'⟩ := S'.heartbeat
    refine {
      netDeviceIpMask := ?_
      enableTls := Bool.eq_iff_iff.mpr (S.tls.trans S'.tls.symm)
      tlsVersion := S.tlsVersion.trans S'.tlsVersion.symm
      enableRndv := Option.some.inj (S.rndv.symm.trans S'.rndv)
      mode := ?_
      workerGroups := hgroups.mpr h.groups
      workerGroupsCpuSet := hcpuSet.mpr h.cpuSet
      heartBeatIdleTime := ?_
      mrSendReceiveSegCount := Option.some.inj (S.segCount.symm.trans S'.segCount)
      mrSendReceiveSegSize := Option.some.inj (S.segSize.symm.trans S'.segSize)
      completionQueueDepth := S.depth.trans S'.depth.symm
      prePostReceiveSizePerQP := S.prePost.trans S'.prePost.symm
      qpSendQueueSize := S.sendQueue.trans S'.sendQueue.symm
      qpReceiveQueueSize := S.receiveQueue.trans S'.receiveQueue.symm
      oobPortRange := hport.mpr h.portRange }
    · rw [S.ipMask, S'.ipMask, strcpyS_str hmask, strcpyS_str hmask]
    · by_cases hu : configs.uses ockRpcConfigUseRpcConfigs = true
      · rw [if_pos hu] at hmode hmode'
        obtain ⟨busy, hbusy, hm⟩ := hmode
        obtain ⟨busy', hbusy', hm'⟩ := hmode'
        cases hbusy.symm.trans hbusy'
        rw [hm, hm']
      · rw [if_neg hu] at hmode hmode'
        rw [hmode, hmode', h.mode hu]
    · cases hidle.symm.trans hidle'
      rw [htime, htime']

/-- **Options of a create**: two creates with the same arguments and the same answers of the transport, from
any two states, leave the same options exactly when what they find agrees in the parts that are kept. -/
theorem same_options_iff {w w' : World} {a : CreateArgs} {e : CreateEnv} {configs : OckRpcCreateConfig}
    {m : ConfigMap} (hconfigs : a.configs = some configs) (hm : ockRpcInitConfigMap configs = some m)
    (hok : (ockRpcServerCreateWithCfg w a e).2 = ockRpcOk)
    (hok' : (ockRpcServerCreateWithCfg w' a e).2 = ockRpcOk) :
    SameOptions (ockRpcServerCreateWithCfg w a e).1.gOptions
        (ockRpcServerCreateWithCfg w' a e).1.gOptions ↔
      LeftoversAgree configs m w.gOptions w'.gOptions := by
  obtain ⟨ip, configs1, m1, hg, S⟩ := create_stores hok
  obtain ⟨ip', configs2, m2, hg', S'⟩ := create_stores hok'
  cases hg.checked.symm.trans hg'.checked
  cases hg.configs_eq.symm.trans hconfigs
  cases hg.map.symm.trans hm
  cases hg'.map.symm.trans hm
  exact S.same_iff S'

end TwoRuns

section Examples

/-- A server that is created with the worker groups, the port range and the CPU set given. -/
def workerServer (name range : String) : CreateArgs :=
  ⟨some (cstr "10.0.0.1"), 0, true, some
    { mask := 1
      configs := ⟨4, some fun i =>
        match i with
        | 0 => ⟨some ockRpcStrServerName, some ⟨700, cstr name⟩⟩
        | 1 => ⟨some ockRpcStrServerPortRange, some ⟨710, cstr range⟩⟩
        | 2 => ⟨some ockRpcStrWrkThrGrp, some ⟨720, cstr "8"⟩⟩
        | _ => ⟨some ockRpcStrWrkCpuSet, some ⟨730, cstr "na"⟩⟩⟩ }⟩

/-- The state after it. -/
def earlier : World := (ockRpcServerCreateWithCfg {} (workerServer "a" "40000-50000") { service := 40 }).1

/-- The options of a second server with a port range as long as that of the first do not depend on it. -/
theorem same_options_longRange :
    SameOptions (ockRpcServerCreateWithCfg {} (workerServer "b" "50000-60000") { service := 41 }).1.gOptions
      (ockRpcServerCreateWithCfg earlier (workerServer "b" "50000-60000") { service := 41 }).1.gOptions := by
  refine (same_options_iff rfl rfl rfl rfl).mpr ⟨fun h => absurd rfl h, fun h => ?_, fun h => ?_, fun _ => rfl⟩
  · cases h rfl
  · cases h rfl

/-- A server with the default options is created first, or after a server with a longer port range and
worker groups: then the rest of that range stands behind the default one, and the server has the worker
groups and the mode of the other. -/
theorem options_left_over :
    (ockRpcServerCreateWithCfg {} defaultServer { service := 41 }).2 = ockRpcOk ∧
    (ockRpcServerCreateWithCfg earlier defaultServer { service := 41 }).2 = ockRpcOk ∧
    (fun o : ServiceOptions => (o.oobPortRange.str, o.workerGroups.str, o.mode))
        (ockRpcServerCreateWithCfg {} defaultServer { service := 41 }).1.gOptions =
      (cstr "4000-5000", cstr "", .busyPolling) ∧
    (fun o : ServiceOptions => (o.oobPortRange.str, o.workerGroups.str, o.mode))
        (ockRpcServerCreateWithCfg earlier defaultServer { service := 41 }).1.gOptions =
      (cstr "4000-500000", cstr "8", .eventPolling) ∧
    ¬ SameOptions (ockRpcServerCreateWithCfg {} defaultServer { service := 41 }).1.gOptions
      (ockRpcServerCreateWithCfg earlier defaultServer { service := 41 }).1.gOptions := by
  have hfirst : (fun o : ServiceOptions => (o.oobPortRange.str, o.workerGroups.str, o.mode))
      (ockRpcServerCreateWithCfg {} defaultServer { service := 41 }).1.gOptions =
        (cstr "4000-5000", cstr "", .busyPolling) := by decide
  have hlater : (fun o : ServiceOptions => (o.oobPortRange.str, o.workerGroups.str, o.mode))
      (ockRpcServerCreateWithCfg earlier defaultServer { service := 41 }).1.gOptions =
        (cstr "4000-500000", cstr "8", .eventPolling) := by decide
  refine ⟨rfl, rfl, hfirst, hlater, ?_⟩
  intro h
  have hport : cstr "4000-5000" = cstr "4000-500000" :=
    (congrArg Prod.fst hfirst).symm.trans (h.oobPortRange.trans (congrArg Prod.fst hlater))
  exact absurd hport (by decide)

end Examples

end Leftovers

end Hcom4db
