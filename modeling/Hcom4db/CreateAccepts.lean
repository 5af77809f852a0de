import Hcom4db.Server

/-!
# Hcom4db.CreateAccepts

Which arguments a create accepts. Each step of `OckRpcServerCreateWithCfg` gets the predicate on its
inputs under which it succeeds; `serverCreate_ok_iff` puts them together.

The TLS step comes last and has its own two lemmas, since a create that passes all the others still ends
in one of two ways there.
-/

namespace Hcom4db

/-! ## The predicates -/

structure ServiceAccepts (m : ConfigMap) (e : CreateEnv) : Prop where
  name : (configuredName m).length ≤ 64
  transport : (configuredType m).isSome
  create : e.createRet = ockRpcOk

/-- The value of a numeric key is a number, if there is one. -/
def NumberOk (m : ConfigMap) (key : CStr) : Prop :=
  ∀ value ∈ m.find key, ∃ n, stoi value.str = .ok n

structure DefaultsAccept (m : ConfigMap) (ip : CStr) : Prop where
  ip : ip.length + 3 ≤ 63
  segSize : NumberOk m ockRpcStrPreSegmentSize
  segCount : NumberOk m ockRpcStrPreSegmentCount
  portRange : (configuredPortRange m).length ≤ 16

structure WorkersAccept (m : ConfigMap) : Prop where
  poll : (readYesNo m ockRpcStrEnablePollWorker false).isSome
  groups : ∀ value ∈ m.find ockRpcStrWrkThrGrp, value.str.length < 64
  cpuSet : ∀ value ∈ m.find ockRpcStrWrkCpuSet, value.str.length < 128

structure RndvAccepts (m : ConfigMap) : Prop where
  value : (readYesNo m ockRpcStrEnableSendRndv false).isSome
  handlers : readYesNo m ockRpcStrEnableSendRndv false = some true →
    (m.find ockRpcStrRndvMalloc).isSome ∧ (m.find ockRpcStrRndvMfree).isSome

/-- The checks of `OckRpcExpandOptionInit` before the TLS step. -/
structure ExpandAccepts (configs : OckRpcCreateConfig) (m : ConfigMap) : Prop where
  workers : configs.uses ockRpcConfigUseRpcConfigs = true → WorkersAccept m
  heartbeat : NumberOk m ockRpcStrHeatbeatIdle
  rndv : RndvAccepts m

def OckRpcCreateConfig.HasTlsFuncs (configs : OckRpcCreateConfig) : Prop :=
  configs.getCaAndVerify ≠ 0 ∧ configs.getCert ≠ 0 ∧ configs.getPriKey ≠ 0

def TlsAccepts (configs : OckRpcCreateConfig) (m : ConfigMap) : Prop :=
  ∃ enable, readYesNo m ockRpcStrEnableTls true = some enable ∧
    (configs.uses ockRpcConfigUseSslCallback = true → enable = true → configs.HasTlsFuncs)

/-- The TLS step of a create writes `g_tlsFunc`: TLS is asked for, with the mask bit and the functions. -/
structure SetsTls (configs : OckRpcCreateConfig) (m : ConfigMap) : Prop where
  bit : configs.uses ockRpcConfigUseSslCallback = true
  enable : readYesNo m ockRpcStrEnableTls true = some true
  funcs : configs.HasTlsFuncs

/-- `g_tlsFunc` after it: the erase function is not written. -/
def OckRpcCreateConfig.tlsFuncs (configs : OckRpcCreateConfig) (tls : TlsFuncs) : TlsFuncs :=
  { tls with
    getCaAndVerify := configs.getCaAndVerify
    getCert := configs.getCert
    getPriKey := configs.getPriKey }

/-! ## The steps -/

section Steps

variable {w w' : World} {m : ConfigMap} {e : CreateEnv} {configs : OckRpcCreateConfig}
  {service : Addr} {options : ServiceOptions} {ip : CStr}

theorem string2Num_isSome_iff {key : CStr} {size : UInt32} :
    (ockRpcString2Num m key size).isSome ↔ NumberOk m key := by
  unfold ockRpcString2Num NumberOk
  cases m.find key with
  | none => simp
  | some value =>
    cases h : stoi value.str with
    | ok n => simp [h]
    | error err => simp [h]

theorem numberOk_of_some {key : CStr} {size n : UInt32} (h : ockRpcString2Num m key size = some n) :
    NumberOk m key := by
  refine string2Num_isSome_iff.mp (?_ : (ockRpcString2Num m key size).isSome = true)
  rw [h]
  rfl

theorem not_numberOk_of_none {key : CStr} {size : UInt32} (h : ockRpcString2Num m key size = none) :
    ¬ NumberOk m key := by
  intro hn
  have h1 : (ockRpcString2Num m key size).isSome = true := string2Num_isSome_iff.mpr hn
  rw [h] at h1
  cases h1

/-- A create of a service that fails changes `g_connectionType` at most. -/
theorem createServer_cases (w : World) (m : ConfigMap) (e : CreateEnv) :
    (¬ ServiceAccepts m e ∧ ∃ t st, ockRpcCreateServer w m e = ({ w with gConnectionType := t }, st) ∧
      st ≠ ockRpcOk) ∨
    (ServiceAccepts m e ∧ ∃ t t', ockRpcCreateServer w m e =
      ({ w with
          gConnectionType := t
          gServiceMap := w.gServiceMap.insertNew (configuredName m) e.service
          trace := .serviceCreate t' (configuredName m) e.service :: w.trace }, ockRpcOk)) := by
  unfold ockRpcCreateServer
  simp only
  split
  · rename_i hn
    refine .inl ⟨fun h => ?_, w.gConnectionType, ockRpcErrInvalidParam, rfl, ockRpcErrInvalidParam_ne_ok⟩
    have := h.name
    omega
  · rename_i hn
    split
    · rename_i ht
      refine .inl ⟨fun h => ?_, w.gConnectionType, ockRpcErrInvalidParam, rfl, ockRpcErrInvalidParam_ne_ok⟩
      have := h.transport
      rw [ht] at this
      cases this
    · rename_i expected ht
      split
      · rename_i hc
        exact .inl ⟨fun h => hc h.create, _, ockRpcErr, rfl, ockRpcErr_ne_ok⟩
      · rename_i hc
        exact .inr ⟨⟨by omega, by rw [ht]; rfl, not_not.mp hc⟩, _, _, rfl⟩

theorem memcpyS_arr_ok {n : Nat} {dest : CharArray n} {src : CStr} :
    (dest.memcpyS src).2 = ockRpcOk ↔ src.length ≤ n := by
  unfold CharArray.memcpyS
  split
  · rename_i h
    exact iff_of_false (by decide : erangeAndReset ≠ 0) (by omega)
  · rename_i h
    exact iff_of_true rfl (by omega)

theorem strcpyS_arr_ok {n : Nat} {dest : CharArray n} {src : CStr} :
    (dest.strcpyS src).2 = ockRpcOk ↔ src.length < n := by
  unfold CharArray.strcpyS
  split
  · rename_i h
    exact iff_of_false (by decide : erangeAndReset ≠ 0) (by omega)
  · rename_i h
    exact iff_of_true rfl (by omega)

theorem configure_ok_iff {n : Nat} {dest : CharArray n} {key : CStr} :
    (dest.configure m key).2 = ockRpcOk ↔ ∀ value ∈ m.find key, value.str.length < n := by
  unfold CharArray.configure
  cases m.find key with
  | none => simp
  | some value => simpa using strcpyS_arr_ok

theorem defaultOptionInit_ok_iff :
    (ockRpcDefaultOptionInit m options ip).2 = ockRpcOk ↔ DefaultsAccept m ip := by
  have hmask : (cstr "/24").length = 3 := by decide
  unfold ockRpcDefaultOptionInit
  split
  · rename_i hip
    refine iff_of_false ockRpcErrInvalidParam_ne_ok fun h => ?_
    have := h.ip
    omega
  · rename_i hip
    simp only
    split
    · rename_i hs
      exact iff_of_false ockRpcErr_ne_ok fun h => not_numberOk_of_none hs h.segSize
    · rename_i size hs
      have hs' := numberOk_of_some hs
      split
      · rename_i hc
        exact iff_of_false ockRpcErr_ne_ok fun h => not_numberOk_of_none hc h.segCount
      · rename_i count hc
        have hc' := numberOk_of_some hc
        split
        · rename_i hr
          exact iff_of_false ockRpcErr_ne_ok fun h => hr (memcpyS_arr_ok.mpr h.portRange)
        · rename_i hr
          have hr' := memcpyS_arr_ok.mp (not_not.mp hr)
          rw [if_neg]
          · exact iff_of_true rfl ⟨by omega, hs', hc', hr'⟩
          · refine not_not.mpr (strcpyS_arr_ok.mpr ?_)
            rw [List.length_append, hmask]
            omega

theorem setWorkThreadConfigs_ok_iff :
    (ockRpcSetWorkThreadConfigs m options).2 = ockRpcOk ↔ WorkersAccept m := by
  unfold ockRpcSetWorkThreadConfigs
  simp only
  split
  · rename_i hp
    refine iff_of_false ockRpcErr_ne_ok fun h => ?_
    have := h.poll
    rw [hp] at this
    cases this
  · rename_i busy hp
    split
    · rename_i hg
      exact iff_of_false ockRpcErr_ne_ok fun h => hg (configure_ok_iff.mpr h.groups)
    · rename_i hg
      split
      · rename_i hc
        exact iff_of_false ockRpcErr_ne_ok fun h => hc (configure_ok_iff.mpr h.cpuSet)
      · rename_i hc
        exact iff_of_true rfl
          ⟨by rw [hp]; rfl, configure_ok_iff.mp (not_not.mp hg), configure_ok_iff.mp (not_not.mp hc)⟩

/-- What the option steps leave: they write the options, and what they add to the trace are
registrations with the service. -/
structure Registers (service : Addr) (w w' : World) : Prop where
  rest : w' = { w with gOptions := w'.gOptions, gTlsFunc := w'.gTlsFunc, trace := w'.trace }
  trace : ∃ rs : List Registration, w'.trace = rs.map (Event.register service) ++ w.trace

theorem Registers.refl (service : Addr) (w : World) : Registers service w w := ⟨rfl, [], rfl⟩

theorem Registers.trans {w'' : World} (h : Registers service w w') (h' : Registers service w' w'') :
    Registers service w w'' := by
  obtain ⟨rs, hr⟩ := h.trace
  obtain ⟨rs', hr'⟩ := h'.trace
  refine ⟨?_, rs' ++ rs, by rw [hr', hr, List.map_append, List.append_assoc]⟩
  have h1 := h'.rest
  rw [h.rest] at h1
  exact h1

theorem Registers.setOptions (service : Addr) (w : World) (options : ServiceOptions) :
    Registers service w (w.setOptions options) := ⟨rfl, [], rfl⟩

theorem Registers.emit (service : Addr) (w : World) (r : Registration) :
    Registers service w (w.emit (.register service r)) := ⟨rfl, [r], rfl⟩

/-- The steps before the TLS one leave the TLS functions, too. -/
structure Prepares (service : Addr) (w w' : World) : Prop extends Registers service w w' where
  tls : w'.gTlsFunc = w.gTlsFunc

theorem Prepares.refl (service : Addr) (w : World) : Prepares service w w :=
  ⟨Registers.refl service w, rfl⟩

theorem Prepares.trans {w'' : World} (h : Prepares service w w') (h' : Prepares service w' w'') :
    Prepares service w w'' :=
  ⟨h.toRegisters.trans h'.toRegisters, h'.tls.trans h.tls⟩

theorem Prepares.setOptions (service : Addr) (w : World) (options : ServiceOptions) :
    Prepares service w (w.setOptions options) := ⟨Registers.setOptions service w options, rfl⟩

theorem Prepares.emit (service : Addr) (w : World) (r : Registration) :
    Prepares service w (w.emit (.register service r)) := ⟨Registers.emit service w r, rfl⟩

theorem setRndvOpHandler_cases (w : World) (service : Addr) (m : ConfigMap) :
    Prepares service w (setRndvOpHandler w service m).1 ∧
      ((setRndvOpHandler w service m).2 = ockRpcOk ↔
        (m.find ockRpcStrRndvMalloc).isSome ∧ (m.find ockRpcStrRndvMfree).isSome) := by
  unfold setRndvOpHandler
  cases m.find ockRpcStrRndvMalloc with
  | none => exact ⟨Prepares.refl service w, by simp⟩
  | some malloc =>
    cases m.find ockRpcStrRndvMfree with
    | none => exact ⟨Prepares.refl service w, by simp⟩
    | some free =>
      refine ⟨((Prepares.emit service w _).trans (Prepares.emit service _ _)).trans
        (Prepares.emit service _ _), by simp⟩

theorem initRndv_cases (w : World) (service : Addr) (m : ConfigMap) :
    Prepares service w (initRndv w service m).1 ∧
      ((initRndv w service m).2 = ockRpcOk ↔ RndvAccepts m) := by
  have hopt := Prepares.setOptions service w { w.gOptions with enableRndv := false }
  unfold initRndv
  simp only
  split
  · rename_i hv
    refine ⟨hopt, iff_of_false ockRpcErr_ne_ok fun h => ?_⟩
    have := h.value
    rw [hv] at this
    cases this
  · rename_i hv
    refine ⟨hopt, iff_of_true rfl ⟨by rw [hv]; rfl, fun h => ?_⟩⟩
    rw [hv] at h
    cases h
  · rename_i hv
    obtain ⟨h1, h2⟩ := setRndvOpHandler_cases
      (w.setOptions { w.gOptions with enableRndv := false }) service m
    rcases hr : setRndvOpHandler (w.setOptions { w.gOptions with enableRndv := false }) service m with
      ⟨w1, ret⟩
    rw [hr] at h1 h2
    simp only
    split
    · rename_i hret
      refine ⟨hopt.trans h1, iff_of_false ockRpcErr_ne_ok fun h => hret (h2.mpr (h.handlers hv))⟩
    · rename_i hret
      refine ⟨(hopt.trans h1).trans (Prepares.setOptions service w1 _),
        iff_of_true rfl ⟨by rw [hv]; rfl, fun _ => h2.mp (not_not.mp hret)⟩⟩

/-- The end of a TLS step that was accepted: the callbacks are registered and TLS is on, or TLS is
off. -/
theorem setTlsConfigs_cases (w : World) (service : Addr) (configs : OckRpcCreateConfig)
    (m : ConfigMap) :
    Registers service w (ockRpcSetTlsConfigs w service configs m).1 ∧
      ((ockRpcSetTlsConfigs w service configs m).2 = ockRpcOk ↔ TlsAccepts configs m) ∧
      (SetsTls configs m →
        (ockRpcSetTlsConfigs w service configs m).1.gTlsFunc = configs.tlsFuncs w.gTlsFunc) ∧
      (¬ SetsTls configs m → (ockRpcSetTlsConfigs w service configs m).1.gTlsFunc = w.gTlsFunc) := by
  have hopt := Registers.setOptions service w
    { w.gOptions with enableTls := true, tlsVersion := 772 }
  unfold ockRpcSetTlsConfigs
  simp only
  split
  · rename_i hv
    refine ⟨hopt, iff_of_false ockRpcErr_ne_ok fun h => ?_, fun h => ?_, fun _ => rfl⟩
    · obtain ⟨enable, h1, -⟩ := h
      rw [hv] at h1
      cases h1
    · have := h.enable
      rw [hv] at this
      cases this
  · rename_i enable hv
    have hopt' := hopt.trans (Registers.setOptions service _
      { (w.setOptions { w.gOptions with enableTls := true, tlsVersion := 772 }).gOptions with
        enableTls := enable })
    split
    · rename_i hssl
      split
      · rename_i hnull
        have hno : ¬ configs.HasTlsFuncs := fun h => hnull.elim h.1 fun hn => hn.elim h.2.1 h.2.2
        refine ⟨hopt', iff_of_false ockRpcErr_ne_ok fun h => ?_, fun h => absurd h.funcs hno,
          fun _ => rfl⟩
        obtain ⟨enable', h1, h2⟩ := h
        rw [hv] at h1
        cases h1
        exact hno (h2 hssl.1 hssl.2)
      · rename_i hnull
        have hfuncs : configs.HasTlsFuncs := ⟨fun h => hnull (.inl h), fun h => hnull (.inr (.inl h)),
          fun h => hnull (.inr (.inr h))⟩
        refine ⟨⟨rfl, [.tlsCb], rfl⟩, iff_of_true rfl ⟨enable, hv, fun _ _ => hfuncs⟩, fun _ => rfl,
          fun h => absurd ⟨hssl.1, ?_, hfuncs⟩ h⟩
        rw [hv, hssl.2]
    · rename_i hssl
      refine ⟨hopt'.trans (Registers.setOptions service _ _),
        iff_of_true rfl ⟨enable, hv, fun h h' => absurd ⟨h, h'⟩ hssl⟩, fun h => ?_, fun _ => rfl⟩
      have he := h.enable
      rw [hv] at he
      cases he
      exact absurd ⟨h.bit, rfl⟩ hssl

/-- A TLS step that succeeds turns TLS on when it writes the functions, and off otherwise. -/
theorem setTlsConfigs_enableTls (h : (ockRpcSetTlsConfigs w service configs m).2 = ockRpcOk) :
    (ockRpcSetTlsConfigs w service configs m).1.gOptions.enableTls = true ↔ SetsTls configs m := by
  unfold ockRpcSetTlsConfigs at h ⊢
  simp only at h ⊢
  split at h
  · cases h
  · rename_i enable hv
    split at h
    · rename_i hssl
      rw [if_pos hssl]
      split at h
      · cases h
      · rename_i hnull
        rw [if_neg hnull]
        refine iff_of_true hssl.2 ⟨hssl.1, by rw [hv, hssl.2], ?_⟩
        exact ⟨fun h => hnull (.inl h), fun h => hnull (.inr (.inl h)), fun h => hnull (.inr (.inr h))⟩
    · rename_i hssl
      rw [if_neg hssl]
      refine iff_of_false Bool.false_ne_true ?_
      intro hs
      have he := hs.enable
      rw [hv] at he
      cases he
      exact hssl ⟨hs.bit, rfl⟩

/-- The option steps before the TLS one. -/
theorem expandOptionInit_cases (w : World) (service : Addr) (configs : OckRpcCreateConfig)
    (m : ConfigMap) :
    (¬ ExpandAccepts configs m ∧ Prepares service w (ockRpcExpandOptionInit w service configs m).1 ∧
      (ockRpcExpandOptionInit w service configs m).2 ≠ ockRpcOk) ∨
    (ExpandAccepts configs m ∧ ∃ w1, Prepares service w w1 ∧
      ockRpcExpandOptionInit w service configs m = ockRpcSetTlsConfigs w1 service configs m) := by
  have hworkers : (initWorkers w.gOptions configs m).2 = ockRpcOk ↔
      (configs.uses ockRpcConfigUseRpcConfigs = true → WorkersAccept m) := by
    unfold initWorkers
    split
    · rename_i hu
      rw [setWorkThreadConfigs_ok_iff]
      exact ⟨fun h _ => h, fun h => h hu⟩
    · rename_i hu
      exact iff_of_true rfl fun h => absurd h hu
  unfold ockRpcExpandOptionInit
  dsimp only
  generalize initWorkers w.gOptions configs m = r at hworkers ⊢
  obtain ⟨options, ret⟩ := r
  dsimp only at hworkers ⊢
  have hopt := Prepares.setOptions service w options
  split
  · rename_i hw
    exact .inl ⟨fun h => hw (hworkers.mpr h.workers), hopt, ockRpcErr_ne_ok⟩
  · rename_i hw
    split
    · rename_i hh
      exact .inl ⟨fun h => not_numberOk_of_none hh h.heartbeat, hopt, ockRpcErr_ne_ok⟩
    · rename_i idle hh
      obtain ⟨h1, h2⟩ := initRndv_cases ((w.setOptions options).setOptions
        { (w.setOptions options).gOptions with heartBeatIdleTime := idle.toUInt16 }) service m
      have h3 := (hopt.trans (Prepares.setOptions service _ _)).trans h1
      rcases hr : initRndv ((w.setOptions options).setOptions
        { (w.setOptions options).gOptions with heartBeatIdleTime := idle.toUInt16 }) service m with
        ⟨w1, ret1⟩
      rw [hr] at h2 h3
      simp only at h2 h3 ⊢
      split
      · rename_i hret
        exact .inl ⟨fun h => hret (h2.mpr h.rndv), h3, ockRpcErr_ne_ok⟩
      · rename_i hret
        exact .inr ⟨⟨hworkers.mp (not_not.mp hw), numberOk_of_some hh, h2.mp (not_not.mp hret)⟩, w1,
          h3, rfl⟩

theorem registerHandlers_registers (w : World) (service : Addr) (ip : CStr) (port : UInt16)
    (m : ConfigMap) : Prepares service w (registerHandlers w service ip port m) := by
  unfold registerHandlers ockRpcRegisterChannelHandle
  dsimp only
  refine Prepares.trans ?_ (Prepares.emit service _ _)
  refine Prepares.trans ?_ (Prepares.emit service _ _)
  refine Prepares.trans ?_ (Prepares.emit service _ _)
  refine Prepares.trans ?_ (Prepares.emit service _ _)
  exact (Prepares.emit service w _).trans (Prepares.emit service _ _)

/-- Once there is a service, the create succeeds through the TLS step, or it destroys the service
again. -/
theorem initServer_cases (w : World) (a : CreateArgs) (ip : CStr) (configs : OckRpcCreateConfig)
    (m : ConfigMap) (e : CreateEnv) :
    (∃ w1, Prepares e.service w w1 ∧ ockRpcSetTlsConfigs w1 e.service configs m =
        ((initServer w a ip configs m e).1, ockRpcOk) ∧ (initServer w a ip configs m e).2 = ockRpcOk ∧
        DefaultsAccept m ip ∧ ExpandAccepts configs m ∧ TlsAccepts configs m) ∨
    (∃ w1, Prepares e.service w w1 ∧
      initServer w a ip configs m e =
        (ockRpcServerDestroy w1 e.service e.destroyRet, ockRpcErrInvalidParam) ∧
      ¬ (DefaultsAccept m ip ∧ ExpandAccepts configs m ∧ TlsAccepts configs m)) := by
  have hr := registerHandlers_registers w e.service ip a.port m
  unfold initServer
  have hd : (ockRpcDefaultOptionInit m (registerHandlers w e.service ip a.port m).gOptions ip).2 =
      ockRpcOk ↔ DefaultsAccept m ip := defaultOptionInit_ok_iff
  dsimp only
  generalize ockRpcDefaultOptionInit m (registerHandlers w e.service ip a.port m).gOptions ip = r at hd ⊢
  obtain ⟨options, ret⟩ := r
  dsimp only at hd ⊢
  have hr' := hr.trans (Prepares.setOptions e.service _ options)
  split
  · rename_i hret
    exact .inr ⟨_, hr', rfl, fun h => hret (hd.mpr h.1)⟩
  · rename_i hret
    have hdef := hd.mp (not_not.mp hret)
    rcases expandOptionInit_cases ((registerHandlers w e.service ip a.port m).setOptions options)
      e.service configs m with ⟨hna, h1, h2⟩ | ⟨hacc, w1, h1, h2⟩
    · rw [if_pos h2]
      exact .inr ⟨_, hr'.trans h1, rfl, fun h => hna h.2.1⟩
    · obtain ⟨h3, h4, -, h5⟩ := setTlsConfigs_cases w1 e.service configs m
      rw [h2]
      split
      · rename_i hne
        -- a TLS step that fails has not written the functions
        have hno : ¬ SetsTls configs m :=
          fun h => hne (h4.mpr ⟨true, h.enable, fun _ _ => h.funcs⟩)
        exact .inr ⟨_, (hr'.trans h1).trans ⟨h3, h5 hno⟩, rfl, fun h => hne (h4.mpr h.2.2)⟩
      · rename_i hok
        have hok' := not_not.mp hok
        exact .inl ⟨w1, hr'.trans h1, Prod.ext rfl hok', rfl, hdef, hacc, h4.mp hok'⟩

end Steps

/-! ## The whole create -/

/-- The arguments and the configuration of a create that gets a service. -/
structure GetsService (a : CreateArgs) (e : CreateEnv) (ip : CStr) (configs : OckRpcCreateConfig)
    (m : ConfigMap) : Prop where
  loaded : e.dlopenRet = ockRpcOk
  checked : ockRpcCheckServerCreateCfg a = some (ip, configs)
  map : ockRpcInitConfigMap configs = some m
  service : ServiceAccepts m e

/-- A create that passes its checks was given a configuration. -/
theorem GetsService.configs_eq {a : CreateArgs} {e : CreateEnv} {ip : CStr}
    {configs : OckRpcCreateConfig} {m : ConfigMap} (h : GetsService a e ip configs m) :
    a.configs = some configs := by
  have h1 := h.checked
  unfold ockRpcCheckServerCreateCfg checkCreateCfg at h1
  split at h1
  · cases h1
  · split at h1
    · cases h1
    · split at h1
      · cases h1
      · obtain ⟨c, hc, hp⟩ := Option.map_eq_some_iff.mp h1
        cases hp
        exact hc

/-- The state in which the service has been created and entered in `g_serviceMap`. -/
def HasService (w w0 : World) (m : ConfigMap) (e : CreateEnv) : Prop :=
  ∃ lf ct t, w0 = { w with
    gLogFunc := some lf
    gConnectionType := ct
    gServiceMap := w.gServiceMap.insertNew (configuredName m) e.service
    trace := .serviceCreate t (configuredName m) e.service :: .setExternalLogger lf :: w.trace }

/-- A create that gets no service leaves the options, the TLS functions and the servers alone. -/
def Rejected (w w' : World) : Prop :=
  ∃ lf ct evs, w' = { w with gLogFunc := lf, gConnectionType := ct, trace := evs ++ w.trace } ∧
    ∀ ev ∈ evs, ∃ h, ev = .setExternalLogger h

section Create

variable {w w' : World} {a : CreateArgs} {e : CreateEnv} {st : OckRpcStatus}

theorem Rejected.refl (w : World) : Rejected w w := ⟨w.gLogFunc, w.gConnectionType, [], rfl, by simp⟩

theorem serverCreate_cases (w : World) (a : CreateArgs) (e : CreateEnv) :
    ((∀ ip configs m, ¬ GetsService a e ip configs m) ∧
      Rejected w (ockRpcServerCreateWithCfg w a e).1 ∧
      (ockRpcServerCreateWithCfg w a e).2 ≠ ockRpcOk) ∨
    (∃ ip configs m w0, GetsService a e ip configs m ∧ HasService w w0 m e ∧
      ockRpcServerCreateWithCfg w a e = initServer w0 a ip configs m e) := by
  unfold ockRpcServerCreateWithCfg
  split
  · rename_i hd
    exact .inl ⟨fun _ _ _ h => hd h.loaded, Rejected.refl w, ockRpcErr_ne_ok⟩
  · rename_i hd
    split
    · rename_i hc
      refine .inl ⟨fun _ _ _ h => ?_, Rejected.refl w, ockRpcErrInvalidParam_ne_ok⟩
      have := h.checked
      rw [hc] at this
      cases this
    · rename_i ip configs hc
      split
      · rename_i hm
        refine .inl ⟨fun _ _ _ h => ?_, Rejected.refl w, ockRpcErrInvalidParam_ne_ok⟩
        have h1 := h.checked
        have h2 := h.map
        rw [hc] at h1
        cases h1
        rw [hm] at h2
        cases h2
      · rename_i m hm
        rcases createServer_cases (setExternalLogger w) m e with
          ⟨hna, t, st, hr, hst⟩ | ⟨hacc, t, t', hr⟩
        · refine .inl ⟨fun _ _ _ h => ?_, ?_, ?_⟩
          · have h1 := h.checked
            have h2 := h.map
            rw [hc] at h1
            cases h1
            rw [hm] at h2
            cases h2
            exact hna h.service
          · have hrej : Rejected w { setExternalLogger w with gConnectionType := t } :=
              ⟨some (w.gLogFunc.getD .hcomLog), t, [.setExternalLogger (w.gLogFunc.getD .hcomLog)], rfl,
                fun ev hev => ⟨_, List.mem_singleton.mp hev⟩⟩
            rw [hr]
            simp only
            rw [if_pos hst]
            split
            · exact hrej
            · exact hrej
          · rw [hr]
            simp only
            rw [if_pos hst]
            split
            · exact ockRpcErrInvalidParam_ne_ok
            · exact ockRpcErr_ne_ok
        · refine .inr ⟨ip, configs, m, _, ⟨not_not.mp hd, hc, hm, hacc⟩,
            ⟨w.gLogFunc.getD .hcomLog, t, t', rfl⟩, ?_⟩
          rw [hr]
          rfl

/-- Every check of a create but the one on TLS. -/
def RestAccepts (a : CreateArgs) (e : CreateEnv) : Prop :=
  ∃ ip configs m, GetsService a e ip configs m ∧ DefaultsAccept m ip ∧ ExpandAccepts configs m

/-- A create that succeeds ends with its TLS step. -/
theorem serverCreate_ok (h : ockRpcServerCreateWithCfg w a e = (w', ockRpcOk)) :
    ∃ ip configs m w1, GetsService a e ip configs m ∧ DefaultsAccept m ip ∧ ExpandAccepts configs m ∧
      TlsAccepts configs m ∧ (∃ evs, w1.trace = evs ++ w.trace) ∧
      ockRpcSetTlsConfigs w1 e.service configs m = (w', ockRpcOk) := by
  rcases serverCreate_cases w a e with ⟨-, -, hst⟩ | ⟨ip, configs, m, w0, hg, hs, hr⟩
  · rw [h] at hst
    exact absurd rfl hst
  · rw [h] at hr
    rcases initServer_cases w0 a ip configs m e with ⟨w1, h1, h2, -, h4, h5, h6⟩ | ⟨w1, -, h2, -⟩
    · obtain ⟨lf, ct, t, rfl⟩ := hs
      obtain ⟨rs, ht⟩ := h1.trace
      rw [← hr] at h2
      refine ⟨ip, configs, m, w1, hg, h4, h5, h6, ⟨rs.map (Event.register e.service) ++
        [.serviceCreate t (configuredName m) e.service, .setExternalLogger lf], ?_⟩, h2⟩
      rw [ht, List.append_assoc]
      rfl
    · rw [h2] at hr
      cases hr

theorem serverCreate_accepts {ip : CStr} {configs : OckRpcCreateConfig} {m : ConfigMap}
    (hg : GetsService a e ip configs m) (hd : DefaultsAccept m ip) (hx : ExpandAccepts configs m)
    (ht : TlsAccepts configs m) : (ockRpcServerCreateWithCfg w a e).2 = ockRpcOk := by
  rcases serverCreate_cases w a e with ⟨hna, -, -⟩ | ⟨ip', configs', m', w0, hg', -, hr⟩
  · exact absurd hg (hna ip configs m)
  · have h1 := hg'.checked
    rw [hg.checked] at h1
    cases h1
    have h2 := hg'.map
    rw [hg.map] at h2
    cases h2
    rw [hr]
    rcases initServer_cases w0 a ip configs m e with ⟨-, -, -, h3, -⟩ | ⟨-, -, -, h3⟩
    · exact h3
    · exact absurd ⟨hd, hx, ht⟩ h3

/-- Every check of a create. -/
def CreateAccepts (a : CreateArgs) (e : CreateEnv) : Prop :=
  ∃ ip configs m, GetsService a e ip configs m ∧ DefaultsAccept m ip ∧ ExpandAccepts configs m ∧
    TlsAccepts configs m

theorem serverCreate_ok_iff : (ockRpcServerCreateWithCfg w a e).2 = ockRpcOk ↔ CreateAccepts a e := by
  constructor
  · intro h
    obtain ⟨ip, configs, m, -, hg, hd, hx, ht, -⟩ :=
      serverCreate_ok (Prod.ext rfl h : ockRpcServerCreateWithCfg w a e = (_, ockRpcOk))
    exact ⟨ip, configs, m, hg, hd, hx, ht⟩
  · rintro ⟨ip, configs, m, hg, hd, hx, ht⟩
    exact serverCreate_accepts hg hd hx ht

end Create

end Hcom4db
