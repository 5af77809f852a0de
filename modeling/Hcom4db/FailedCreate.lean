import Hcom4db.Names

/-!
# Hcom4db.FailedCreate

What a create that fails leaves behind. A create records the transport type before it has a service,
writes `g_options` while it checks them, and cleans up through `OckRpcServerDestroy`, which looks the
service up in `g_serviceMap` and resets the options and the TLS functions of all servers.

* `failed_create_iff`: when a failed create leaves everything as it was.
-/

namespace Hcom4db

open Servers (created destroyed)

/-- A failed create has changed nothing: its own service is destroyed, no other is touched. -/
structure NothingChanged (w w' : World) : Prop where
  gServiceMap : w'.gServiceMap = w.gServiceMap
  gOptions : w'.gOptions = w.gOptions
  gTlsFunc : w'.gTlsFunc = w.gTlsFunc
  gConnectionType : w'.gConnectionType = w.gConnectionType
  own : ∀ service ∈ created (w.since w'), service ∈ destroyed (w.since w')
  others : ∀ service ∈ stopped (w.since w') ++ destroyed (w.since w'), service ∈ created (w.since w')

/-- The configuration of a create gives a transport type, and the checks before it pass. -/
def RecordsType (a : CreateArgs) (t : ServiceType) : Prop :=
  ∃ ip configs m, ockRpcCheckServerCreateCfg a = some (ip, configs) ∧
    ockRpcInitConfigMap configs = some m ∧ (configuredName m).length ≤ 64 ∧
    configuredType m = some (some t)

/-- What a create that fails must meet to leave everything as it was: the type it records is the one
there, and if it gets a service, the name is free, `Service_Destroy` succeeds, and options and TLS
functions are at their defaults. -/
structure LeavesNothing (w : World) (a : CreateArgs) (e : CreateEnv) : Prop where
  type : ∀ t, RecordsType a t → t = w.gConnectionType
  service : ∀ ip configs m, GetsService a e ip configs m →
    w.gServiceMap.find (configuredName m) = none ∧ e.destroyRet = ockRpcOk ∧ w.gOptions = {} ∧
      w.gTlsFunc = {}

section

variable {w w' w0 w1 : World} {a : CreateArgs} {e : CreateEnv} {server : Addr}

/-! ## The transport type -/

theorem Registers.gConnectionType (h : Registers server w w') :
    w'.gConnectionType = w.gConnectionType := by
  rw [h.rest]

theorem destroy_gConnectionType (w : World) (server : Addr) (ret : Int) :
    (ockRpcServerDestroy w server ret).gConnectionType = w.gConnectionType := by
  cases hk : serviceKey w server with
  | none => rw [serverDestroy_missing hk]
  | some name =>
    rcases serverDestroy_found hk ret with ⟨-, h⟩ | ⟨-, h⟩
    · rw [h]
    · rw [h]

theorem initServer_gConnectionType (w : World) (a : CreateArgs) (ip : CStr)
    (configs : OckRpcCreateConfig) (m : ConfigMap) (e : CreateEnv) :
    (initServer w a ip configs m e).1.gConnectionType = w.gConnectionType := by
  rcases initServer_cases w a ip configs m e with ⟨w1, h1, h2, -⟩ | ⟨w1, h1, h2, -⟩
  · have h3 := (setTlsConfigs_cases w1 e.service configs m).1.gConnectionType
    rw [h2] at h3
    rw [h3, h1.gConnectionType]
  · rw [h2, destroy_gConnectionType, h1.gConnectionType]

/-- The type is written as soon as the name and the type are checked. -/
theorem createServer_gConnectionType (w : World) (m : ConfigMap) (e : CreateEnv) :
    (∃ t, (configuredName m).length ≤ 64 ∧ configuredType m = some (some t) ∧
      (ockRpcCreateServer w m e).1.gConnectionType = t) ∨
    ((∀ t, (configuredName m).length ≤ 64 → configuredType m ≠ some (some t)) ∧
      (ockRpcCreateServer w m e).1.gConnectionType = w.gConnectionType) := by
  unfold ockRpcCreateServer
  simp only
  split
  · refine .inr ⟨?_, rfl⟩
    intro t h
    omega
  · rename_i hn
    cases ht : configuredType m with
    | none =>
      refine .inr ⟨?_, rfl⟩
      intro t _ h
      cases h
    | some expected =>
      simp only
      cases expected with
      | none =>
        refine .inr ⟨?_, ?_⟩
        · intro t _ h
          cases h
        split
        · rfl
        · rfl
      | some t =>
        refine .inl ⟨t, by omega, rfl, ?_⟩
        split
        · rfl
        · rfl

theorem create_gConnectionType (w : World) (a : CreateArgs) (e : CreateEnv)
    (hload : e.dlopenRet = ockRpcOk) :
    (∃ t, RecordsType a t ∧ (ockRpcServerCreateWithCfg w a e).1.gConnectionType = t) ∨
    ((∀ t, ¬ RecordsType a t) ∧
      (ockRpcServerCreateWithCfg w a e).1.gConnectionType = w.gConnectionType) := by
  unfold ockRpcServerCreateWithCfg
  rw [if_neg (not_not.mpr hload)]
  cases hc : ockRpcCheckServerCreateCfg a with
  | none =>
    refine .inr ⟨?_, rfl⟩
    rintro t ⟨ip, configs, m, h, -⟩
    rw [hc] at h
    cases h
  | some p =>
    obtain ⟨ip, configs⟩ := p
    simp only
    cases hm : ockRpcInitConfigMap configs with
    | none =>
      refine .inr ⟨?_, rfl⟩
      rintro t ⟨ip', configs', m, h, h', -⟩
      rw [hc] at h
      cases h
      rw [hm] at h'
      cases h'
    | some m =>
      simp only
      have hct := createServer_gConnectionType (setExternalLogger w) m e
      generalize ockRpcCreateServer (setExternalLogger w) m e = r at hct ⊢
      obtain ⟨w0, ret⟩ := r
      simp only at hct ⊢
      -- nothing after the service was asked for writes the type
      have hsame : (if ret = ockRpcErrInvalidParam then (w0, ockRpcErrInvalidParam)
          else if ret ≠ ockRpcOk then (w0, ockRpcErr)
          else initServer w0 a ip configs m e).1.gConnectionType = w0.gConnectionType := by
        split
        · rfl
        · split
          · rfl
          · exact initServer_gConnectionType w0 a ip configs m e
      rw [hsame]
      rcases hct with ⟨t, hn, ht, h⟩ | ⟨hno, h⟩
      · exact .inl ⟨t, ⟨ip, configs, m, hc, hm, hn, ht⟩, h⟩
      · refine .inr ⟨?_, h⟩
        rintro t ⟨ip', configs', m', h1, h2, hn, ht⟩
        rw [hc] at h1
        cases h1
        rw [hm] at h2
        cases h2
        exact hno t hn ht

theorem RecordsType.unique {t t' : ServiceType} (h : RecordsType a t) (h' : RecordsType a t') :
    t = t' := by
  obtain ⟨ip, configs, m, h1, h2, -, h3⟩ := h
  obtain ⟨ip', configs', m', h1', h2', -, h3'⟩ := h'
  rw [h1] at h1'
  cases h1'
  rw [h2] at h2'
  cases h2'
  rw [h3] at h3'
  cases h3'
  rfl

/-- The transport type is unchanged exactly when no other is recorded. -/
theorem gConnectionType_eq_iff (hload : e.dlopenRet = ockRpcOk) :
    (ockRpcServerCreateWithCfg w a e).1.gConnectionType = w.gConnectionType ↔
      ∀ t, RecordsType a t → t = w.gConnectionType := by
  rcases create_gConnectionType w a e hload with ⟨t, ht, h⟩ | ⟨hno, h⟩
  · rw [h]
    constructor
    · intro heq t' ht'
      rw [ht'.unique ht, heq]
    · intro hall
      exact hall t ht
  · exact iff_of_true h fun t ht => absurd ht (hno t)

/-! ## A create that had its service -/

/-- A service that is not registered is found in the built state exactly when its name was free. -/
theorem serviceKey_built {m : ConfigMap} (hb : Built w w1 m e)
    (hnew : ∀ k, w.gServiceMap.find k ≠ some e.service) :
    serviceKey w1 e.service =
      if w.gServiceMap.find (configuredName m) = none then some (configuredName m) else none := by
  have hfind : ∀ k, w1.gServiceMap.find k = some e.service ↔
      k = configuredName m ∧ w.gServiceMap.find (configuredName m) = none := by
    intro k
    rw [hb.gServiceMap, StdMap.find_insertNew]
    split
    · rename_i hk
      cases hf : w.gServiceMap.find (configuredName m) with
      | none => simp [hk]
      | some v =>
        rw [Option.getD_some]
        refine iff_of_false ?_ (by simp)
        intro h
        cases h
        exact hnew _ hf
    · rename_i hk
      exact iff_of_false (hnew k) fun h => hk h.1
  split
  · rename_i hfree
    cases hs : serviceKey w1 e.service with
    | none => exact absurd ((hfind _).mpr ⟨rfl, hfree⟩) (serviceKey_none hs _)
    | some k => rw [((hfind k).mp (serviceKey_some hs)).1]
  · rename_i htaken
    cases hs : serviceKey w1 e.service with
    | none => rfl
    | some k => exact absurd ((hfind k).mp (serviceKey_some hs)).2 htaken

/-- The clean-up has destroyed the service again. -/
structure CleanedUp (w w' : World) (service : Addr) : Prop where
  gServiceMap : w'.gServiceMap = w.gServiceMap
  gOptions : w'.gOptions = {}
  gTlsFunc : w'.gTlsFunc = {}
  created : created (w.since w') = [service]
  stopped : stopped (w.since w') = [service]
  destroyed : destroyed (w.since w') = [service]

/-- The clean-up has left the service alive, whether it was entered or not. -/
structure LeftAlive (w w' : World) (m : ConfigMap) (service : Addr) : Prop where
  gServiceMap : w'.gServiceMap = w.gServiceMap.insertNew (configuredName m) service
  created : created (w.since w') = [service]
  destroyed : destroyed (w.since w') = []

/-- The clean-up of a create that had its service destroys it when it was entered and `Service_Destroy`
succeeds. -/
theorem cleanUp_cases {m : ConfigMap} (hb : Built w w1 m e)
    (hnew : ∀ k, w.gServiceMap.find k ≠ some e.service) :
    ((w.gServiceMap.find (configuredName m) = none ∧ e.destroyRet = ockRpcOk) ∧
      CleanedUp w (ockRpcServerDestroy w1 e.service e.destroyRet) e.service) ∨
    (¬ (w.gServiceMap.find (configuredName m) = none ∧ e.destroyRet = ockRpcOk) ∧
      LeftAlive w (ockRpcServerDestroy w1 e.service e.destroyRet) m e.service) := by
  obtain ⟨evs, ht, hc, hd, hs⟩ := hb.events
  have hkey := serviceKey_built hb hnew
  by_cases hfree : w.gServiceMap.find (configuredName m) = none
  · rw [if_pos hfree] at hkey
    have htr := serverDestroy_trace hkey e.destroyRet
    rw [ht, ← List.append_assoc] at htr
    have hsince := World.since_of_trace htr
    have hcr : created ([.serviceDestroy e.service e.destroyRet, .serviceStop e.service] ++ evs) =
        [e.service] := hc
    have hstop : stopped ([.serviceDestroy e.service e.destroyRet, .serviceStop e.service] ++ evs) =
        [e.service] := by
      show e.service :: stopped evs = [e.service]
      rw [hs]
    have hde := destroyed_destroy e.service e.destroyRet evs
    rw [hd] at hde
    rcases serverDestroy_found hkey e.destroyRet with ⟨hret, h⟩ | ⟨hret, h⟩
    · rw [if_neg hret] at hde
      refine .inr ⟨fun hall => hret hall.2, ?_, by rw [hsince, hcr], by rw [hsince, hde]⟩
      rw [h]
      exact hb.gServiceMap
    · rw [if_pos hret] at hde
      refine .inl ⟨⟨hfree, hret⟩, ?_, by rw [h], by rw [h], by rw [hsince, hcr], by rw [hsince, hstop],
        by rw [hsince, hde]⟩
      rw [h]
      show w1.gServiceMap.erase (configuredName m) = w.gServiceMap
      rw [hb.gServiceMap, StdMap.erase_insertNew_of_find_none hfree]
  · -- the service is not found, so it is not destroyed
    rw [if_neg hfree] at hkey
    have hsince := World.since_of_trace ht
    rw [serverDestroy_missing hkey]
    exact .inr ⟨fun hall => hfree hall.1, hb.gServiceMap, by rw [hsince, hc], by rw [hsince, hd]⟩

/-- What it takes to undo everything but the type. -/
theorem cleanUp_iff {m : ConfigMap} (hb : Built w w1 m e)
    (hnew : ∀ k, w.gServiceMap.find k ≠ some e.service)
    (hw : w' = ockRpcServerDestroy w1 e.service e.destroyRet)
    (hct : w'.gConnectionType = w.gConnectionType) :
    NothingChanged w w' ↔ w.gServiceMap.find (configuredName m) = none ∧ e.destroyRet = ockRpcOk ∧
      w.gOptions = {} ∧ w.gTlsFunc = {} := by
  rcases cleanUp_cases hb hnew with ⟨⟨hfree, hret⟩, h⟩ | ⟨hno, h⟩
  · rw [← hw] at h
    constructor
    · intro hsame
      exact ⟨hfree, hret, by rw [← hsame.gOptions, h.gOptions], by rw [← hsame.gTlsFunc, h.gTlsFunc]⟩
    · rintro ⟨-, -, ho, htls⟩
      refine ⟨h.gServiceMap, by rw [h.gOptions, ho], by rw [h.gTlsFunc, htls], hct, ?_, ?_⟩
      · rw [h.created, h.destroyed]
        intro x hx
        exact hx
      · rw [h.created, h.stopped, h.destroyed]
        simp
  · -- the service stays
    rw [← hw] at h
    refine iff_of_false ?_ fun hall => hno ⟨hall.1, hall.2.1⟩
    intro hsame
    have := hsame.own e.service (by rw [h.created]; exact List.mem_singleton_self _)
    rw [h.destroyed] at this
    cases this

/-- **A failed create changes nothing** exactly when it meets `LeavesNothing`. The service that
`Service_Create` returns is none of those registered. -/
theorem failed_create_iff (hload : e.dlopenRet = ockRpcOk)
    (hnew : ∀ k, w.gServiceMap.find k ≠ some e.service)
    (hst : (ockRpcServerCreateWithCfg w a e).2 ≠ ockRpcOk) :
    NothingChanged w (ockRpcServerCreateWithCfg w a e).1 ↔ LeavesNothing w a e := by
  rcases serverCreate_ends w a e with ⟨hno, hrej, -⟩ | ⟨ip, configs, m, -, -, hok, -⟩ |
    ⟨ip, configs, m, w1, hg, -, hb, -, hr⟩
  · -- without a service, the type is all that may have changed
    constructor
    · intro h
      exact ⟨(gConnectionType_eq_iff hload).mp h.gConnectionType,
        fun ip configs m hg => absurd hg (hno ip configs m)⟩
    · intro h
      obtain ⟨evs, ht, hc, hd, hs⟩ := hrej.events
      have hct := (gConnectionType_eq_iff (w := w) hload).mpr h.type
      obtain ⟨lf, ct, evs', hw, -⟩ := hrej
      have hsince := World.since_of_trace ht
      constructor
      · rw [hw]
      · rw [hw]
      · rw [hw]
      · exact hct
      · rw [hsince, hc]
        simp
      · rw [hsince, hs, hd]
        simp
  · exact absurd hok hst
  · have hw : (ockRpcServerCreateWithCfg w a e).1 =
        ockRpcServerDestroy w1 e.service e.destroyRet := by rw [hr]
    constructor
    · intro h
      refine ⟨(gConnectionType_eq_iff hload).mp h.gConnectionType, ?_⟩
      intro ip' configs' m' hg'
      obtain ⟨-, -, rfl⟩ := hg.unique hg'
      exact (cleanUp_iff hb hnew hw h.gConnectionType).mp h
    · intro h
      exact (cleanUp_iff hb hnew hw ((gConnectionType_eq_iff hload).mpr h.type)).mpr
        (h.service ip configs m hg)

end

/-- In a run, a service that is new is not registered. -/
theorem Names.unregistered_of_fresh {s : Names.Sys} {a : CreateArgs} {e : CreateEnv}
    (hrun : Runs.Reached Names.FreshService Names.step {} s)
    (hfresh : Names.FreshService s (.create a e)) :
    ∀ k, s.w.gServiceMap.find k ≠ some e.service := by
  intro k hk
  exact hfresh ((Names.entries_reached hrun).live k _ hk)

section Examples

/-- A create whose heartbeat interval is no number: it fails after it has a service. -/
def badHeartbeat : CreateArgs :=
  ⟨some (cstr "10.0.0.1"), 0, true, some
    { mask := 1
      configs := ⟨2, some fun i =>
        if i = 0 then ⟨some ockRpcStrServerName, some ⟨700, cstr "b"⟩⟩
        else ⟨some ockRpcStrHeatbeatIdle, some ⟨710, cstr "often"⟩⟩⟩ }⟩

/-- The first create of a process fails and leaves nothing. -/
theorem failed_create_first :
    NothingChanged {} (ockRpcServerCreateWithCfg {} badHeartbeat { service := 40 }).1 := by
  have hst : (ockRpcServerCreateWithCfg {} badHeartbeat { service := 40 }).2 ≠ ockRpcOk := by decide
  refine (failed_create_iff rfl ?_ hst).mpr ⟨?_, ?_⟩
  · intro k hk
    rw [show (({} : World).gServiceMap).find k = none from StdMap.find_empty k] at hk
    cases hk
  · rintro t ⟨ip, configs, m, h1, h2, -, h3⟩
    cases h1
    cases h2
    cases h3
  · intro ip configs m hg
    exact ⟨StdMap.find_empty _, rfl, rfl, rfl⟩

/-- With server 40 alive, a create that fails resets its options. -/
theorem failed_create_resets : ∃ (w : World) (a : CreateArgs) (e : CreateEnv),
    (∀ k, w.gServiceMap.find k ≠ some e.service) ∧ e.dlopenRet = ockRpcOk ∧
      (ockRpcServerCreateWithCfg w a e).2 ≠ ockRpcOk ∧
      ¬ NothingChanged w (ockRpcServerCreateWithCfg w a e).1 := by
  refine ⟨(Names.afterFirst).w, badHeartbeat, { service := 41 }, ?_, rfl, by decide, ?_⟩
  · exact Names.unregistered_of_fresh (a := badHeartbeat)
      (Names.afterFirst_reached.mono fun s l h => h.1) (Names.afterFirst_fresh badHeartbeat)
  · intro h
    have := congrArg ServiceOptions.mrSendReceiveSegSize h.gOptions
    cases this

end Examples

end Hcom4db
