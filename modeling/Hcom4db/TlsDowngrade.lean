import Hcom4db.CreateAccepts

/-!
# Hcom4db.TlsDowngrade

A create that is asked for TLS. The documentation of `OCK_RPC_STR_ENABLE_TLS` says that "yes" needs the
mask bit `OCK_RPC_CONFIG_USE_SSL_CALLBACK` and the three functions. `OckRpcSetTlsConfigs` rejects null
functions, but turns TLS off when the bit is missing.
-/

namespace Hcom4db

/-- The effective value of `OCK_RPC_STR_ENABLE_TLS`: the first one given. -/
def OckRpcCreateConfig.tlsValue (configs : OckRpcCreateConfig) : Option CStr :=
  (configs.configs.pairs.bind fun pairs =>
    firstValue ockRpcStrEnableTls (configs.configs.toList pairs)).map CharPtr.str

/-- After a create: TLS is on, with the callbacks of the configuration registered on the service. -/
structure TlsOn (configs : OckRpcCreateConfig) (service : Addr) (w w' : World) : Prop where
  enabled : w'.gOptions.enableTls = true
  registered : .register service .tlsCb ∈ w.since w'
  funcs : configs.HasTlsFuncs ∧ w'.gTlsFunc.getCaAndVerify = configs.getCaAndVerify ∧
    w'.gTlsFunc.getCert = configs.getCert ∧ w'.gTlsFunc.getPriKey = configs.getPriKey

section

variable {w w' : World} {a : CreateArgs} {e : CreateEnv} {st : OckRpcStatus}
  {configs : OckRpcCreateConfig} {m : ConfigMap} {service : Addr}

theorem readYesNo_tls_of_yes (hmask : configs.uses ockRpcConfigUseRpcConfigs = true)
    (hyes : configs.tlsValue = some (cstr "yes")) (hm : ockRpcInitConfigMap configs = some m) :
    readYesNo m ockRpcStrEnableTls true = some true := by
  unfold OckRpcCreateConfig.tlsValue at hyes
  cases hp : configs.configs.pairs with
  | none =>
    rw [hp] at hyes
    cases hyes
  | some pairs =>
    rw [hp, Option.bind_some, ← initConfigMap_find hmask hp hm] at hyes
    obtain ⟨value, hv, hs⟩ := Option.map_eq_some_iff.mp hyes
    rw [readYesNo, hv]
    simp only
    rw [if_pos hs]

/-- With the mask bit, a TLS step that accepts "yes" registers the callbacks. -/
theorem setTlsConfigs_on (hssl : configs.uses ockRpcConfigUseSslCallback = true)
    (hyes : readYesNo m ockRpcStrEnableTls true = some true)
    (h : ockRpcSetTlsConfigs w service configs m = (w', ockRpcOk)) :
    configs.HasTlsFuncs ∧ w'.gOptions.enableTls = true ∧
      w'.trace = .register service .tlsCb :: w.trace ∧
      w'.gTlsFunc.getCaAndVerify = configs.getCaAndVerify ∧
      w'.gTlsFunc.getCert = configs.getCert ∧ w'.gTlsFunc.getPriKey = configs.getPriKey := by
  unfold ockRpcSetTlsConfigs at h
  simp only [hyes, hssl, and_self, if_true] at h
  split at h
  · cases h
  · rename_i hnull
    cases h
    refine ⟨⟨fun h => hnull (.inl h), fun h => hnull (.inr (.inl h)),
      fun h => hnull (.inr (.inr h))⟩, rfl, rfl, rfl, rfl, rfl⟩

/-- Without it, the step turns TLS off. -/
theorem setTlsConfigs_off (hssl : configs.uses ockRpcConfigUseSslCallback = false)
    (h : ockRpcSetTlsConfigs w service configs m = (w', ockRpcOk)) :
    w'.gOptions.enableTls = false := by
  unfold ockRpcSetTlsConfigs at h
  simp only [hssl, Bool.false_eq_true, false_and, if_false] at h
  split at h
  · cases h
  · cases h
    rfl

/-- **A create that is asked for TLS turns it on or fails** exactly when the mask has the bit for the
callbacks, or the create fails anyway. -/
theorem no_tls_downgrade_iff (hc : a.configs = some configs)
    (hmask : configs.uses ockRpcConfigUseRpcConfigs = true)
    (hyes : configs.tlsValue = some (cstr "yes"))
    (h : ockRpcServerCreateWithCfg w a e = (w', st)) :
    (st = ockRpcOk → TlsOn configs e.service w w') ↔
      configs.uses ockRpcConfigUseSslCallback = true ∨ ¬ RestAccepts a e := by
  have hsame : ∀ {ip configs' m}, GetsService a e ip configs' m → configs' = configs := by
    intro ip configs' m hg
    have h1 := hg.configs_eq
    rw [hc] at h1
    exact (Option.some.inj h1).symm
  constructor
  · intro hon
    by_contra hnot
    rw [not_or, not_not, Bool.not_eq_true] at hnot
    obtain ⟨hssl, ip, configs', m, hg, hd, hx⟩ := hnot
    obtain rfl := hsame hg
    have hread := readYesNo_tls_of_yes hmask hyes hg.map
    have htls : TlsAccepts configs' m :=
      ⟨true, hread, fun h => by rw [hssl] at h; cases h⟩
    have hst : st = ockRpcOk := by
      have h1 := @serverCreate_accepts w a e ip configs' m hg hd hx htls
      rwa [h] at h1
    subst hst
    obtain ⟨ip', configs'', m', w1, hg', -, -, -, -, hset⟩ := serverCreate_ok h
    obtain rfl := hsame hg'
    have hoff := setTlsConfigs_off hssl hset
    rw [(hon rfl).enabled] at hoff
    cases hoff
  · rintro hcond rfl
    obtain ⟨ip, configs', m, w1, hg, hd, hx, -, ⟨evs, ht⟩, hset⟩ := serverCreate_ok h
    obtain rfl := hsame hg
    have hssl := hcond.resolve_right (not_not.mpr ⟨ip, configs', m, hg, hd, hx⟩)
    obtain ⟨h1, h2, h3, h4⟩ := setTlsConfigs_on hssl (readYesNo_tls_of_yes hmask hyes hg.map) hset
    refine ⟨h2, ?_, h1, h4⟩
    rw [World.since_of_trace (h3.trans (congrArg _ ht) :
      w'.trace = (.register e.service .tlsCb :: evs) ++ w.trace)]
    exact List.mem_cons_self

end

/-- A configuration that asks for TLS, with a given mask. -/
def tlsYesConfig (mask : UInt64) : OckRpcCreateConfig :=
  { mask := mask
    configs := ⟨1, some fun _ => ⟨some ockRpcStrEnableTls, some ⟨700, cstr "yes"⟩⟩⟩
    getCaAndVerify := 21
    getCert := 22
    getPriKey := 23 }

def tlsYesArgs (mask : UInt64) : CreateArgs := ⟨some (cstr "10.0.0.1"), 0, true, some (tlsYesConfig mask)⟩

/-- With both mask bits the callbacks are registered. -/
theorem no_tls_downgrade_both : ∃ w',
    ockRpcServerCreateWithCfg {} (tlsYesArgs 5) { service := 40 } = (w', ockRpcOk) ∧
      TlsOn (tlsYesConfig 5) 40 {} w' :=
  ⟨_, rfl, (@no_tls_downgrade_iff {} _ (tlsYesArgs 5) { service := 40 } ockRpcOk (tlsYesConfig 5) rfl
    (by decide) (by decide) rfl).mpr (.inl (by decide)) rfl⟩

/-- Without the bit for the callbacks the create succeeds with TLS off. -/
theorem tls_downgraded : ∃ (a : CreateArgs) (configs : OckRpcCreateConfig) (w' : World),
    a.configs = some configs ∧ configs.uses ockRpcConfigUseRpcConfigs = true ∧
      configs.tlsValue = some (cstr "yes") ∧
      ockRpcServerCreateWithCfg {} a { service := 40 } = (w', ockRpcOk) ∧
      w'.gOptions.enableTls = false ∧ ¬ TlsOn configs 40 {} w' :=
  ⟨tlsYesArgs 1, tlsYesConfig 1, _, rfl, by decide, by decide, rfl, rfl, fun h => by
    have := h.enabled
    cases this⟩

end Hcom4db
