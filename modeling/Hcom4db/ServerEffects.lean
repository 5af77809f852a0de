import Hcom4db.ServerRuns

/-!
# Hcom4db.ServerEffects

What a create and a destroy leave, for the properties that follow servers over a run.

* `serverDestroy_cases`: a destroy that finds its server stops it, and erases its entry when
  `Service_Destroy` succeeds.
* `serverCreate_ends`: a create is rejected before it has a service, or it succeeds, or it destroys the
  service it got.
-/

namespace Hcom4db

open Servers (created destroyed createdService? destroyedService?)

/-- The service an event stops. -/
def stoppedService? : Event → Option Addr
  | .serviceStop service => some service
  | _ => none

def stopped (evs : List Event) : List Addr := evs.filterMap stoppedService?

/-! ## Looking a server up -/

section

variable {w w' w1 : World} {server : Addr} {name : CStr} {ret : Int} {a : CreateArgs} {e : CreateEnv}
  {ip ip' : CStr} {configs configs' : OckRpcCreateConfig} {m m' : ConfigMap}

theorem serviceKey_some (h : serviceKey w server = some name) :
    w.gServiceMap.find name = some server := by
  obtain ⟨v, hv, hp⟩ := StdMap.find_of_findIf h
  rw [hv, of_decide_eq_true hp]

theorem serviceKey_none (h : serviceKey w server = none) (k : CStr) :
    w.gServiceMap.find k ≠ some server := by
  intro hk
  have := StdMap.findIf_eq_none h hk
  simp at this

theorem serviceKey_isSome (h : w.gServiceMap.find name = some server) :
    (serviceKey w server).isSome := by
  cases hk : serviceKey w server with
  | some k => rfl
  | none => exact absurd h (serviceKey_none hk name)

/-! ## Destroy -/

/-- What a destroy does to a server it finds under `name`. -/
theorem serverDestroy_found (hk : serviceKey w server = some name) (ret : Int) :
    (ret ≠ ockRpcOk ∧ ockRpcServerDestroy w server ret =
      { w with trace := [.serviceDestroy server ret, .serviceStop server] ++ w.trace }) ∨
    (ret = ockRpcOk ∧ ockRpcServerDestroy w server ret =
      { w with
          gServiceMap := w.gServiceMap.erase name
          gOptions := {}
          gTlsFunc := {}
          trace := [.serviceDestroy server ret, .serviceStop server] ++ w.trace }) := by
  unfold ockRpcServerDestroy
  rw [hk]
  simp only
  split
  · rename_i hret
    exact .inl ⟨hret, rfl⟩
  · rename_i hret
    exact .inr ⟨not_not.mp hret, rfl⟩

theorem serverDestroy_missing (hk : serviceKey w server = none) (ret : Int) :
    ockRpcServerDestroy w server ret = w := by
  unfold ockRpcServerDestroy
  rw [hk]

theorem serverDestroy_trace (hk : serviceKey w server = some name) (ret : Int) :
    (ockRpcServerDestroy w server ret).trace =
      [.serviceDestroy server ret, .serviceStop server] ++ w.trace := by
  rcases serverDestroy_found hk ret with ⟨-, h⟩ | ⟨-, h⟩
  · rw [h]
  · rw [h]

@[simp] theorem destroyed_append (es fs : List Event) :
    destroyed (es ++ fs) = destroyed es ++ destroyed fs := List.filterMap_append

theorem destroyed_destroy (server : Addr) (ret : Int) (evs : List Event) :
    destroyed ([.serviceDestroy server ret, .serviceStop server] ++ evs) =
      if ret = ockRpcOk then server :: destroyed evs else destroyed evs := by
  simp only [destroyed, List.cons_append, List.nil_append, List.filterMap_cons, destroyedService?]
  split
  · rename_i h
    split at h
    · cases h
    · rename_i hret
      rw [if_neg hret]
  · rename_i h
    split at h
    · rename_i hret
      cases h
      rw [if_pos hret]
    · cases h

/-! ## Create -/

theorem GetsService.unique (h : GetsService a e ip configs m) (h' : GetsService a e ip' configs' m') :
    ip = ip' ∧ configs = configs' ∧ m = m' := by
  have h1 := h.checked
  rw [h'.checked] at h1
  cases h1
  have h2 := h.map
  rw [h'.map] at h2
  cases h2
  exact ⟨rfl, rfl, rfl⟩

/-- Every check of a create. -/
structure Accepts (a : CreateArgs) (e : CreateEnv) (ip : CStr) (configs : OckRpcCreateConfig)
    (m : ConfigMap) : Prop extends GetsService a e ip configs m where
  defaults : DefaultsAccept m ip
  expand : ExpandAccepts configs m
  tls : TlsAccepts configs m

/-- The state of a create that has its service and has entered it in `g_serviceMap`. -/
structure Built (w w1 : World) (m : ConfigMap) (e : CreateEnv) : Prop where
  rest : w1 = { w with
    gLogFunc := w1.gLogFunc
    gTlsFunc := w1.gTlsFunc
    gOptions := w1.gOptions
    gConnectionType := w1.gConnectionType
    gServiceMap := w.gServiceMap.insertNew (configuredName m) e.service
    trace := w1.trace }
  trace : ∃ lf t, ∃ rs : List Registration, w1.trace = (rs.map (Event.register e.service) ++
    [.serviceCreate t (configuredName m) e.service, .setExternalLogger lf]) ++ w.trace

theorem Built.of_registers {w0 : World} (h : HasService w w0 m e) (h' : Registers e.service w0 w1) :
    Built w w1 m e := by
  obtain ⟨lf, ct, t, rfl⟩ := h
  obtain ⟨rs, hr⟩ := h'.trace
  constructor
  · have h1 := h'.rest
    rw [h1]
  · refine ⟨lf, t, rs, ?_⟩
    rw [hr, List.append_assoc]
    rfl

theorem Built.gServiceMap (h : Built w w1 m e) :
    w1.gServiceMap = w.gServiceMap.insertNew (configuredName m) e.service := by
  rw [h.rest]

theorem Built.events (h : Built w w1 m e) : ∃ evs, w1.trace = evs ++ w.trace ∧
    created evs = [e.service] ∧ destroyed evs = [] ∧ stopped evs = [] := by
  obtain ⟨lf, t, rs, ht⟩ := h.trace
  refine ⟨_, ht, ?_, ?_, ?_⟩
  · simp [created, List.filterMap_append, List.filterMap_map, Function.comp_def, createdService?]
  · simp [destroyed, List.filterMap_append, List.filterMap_map, Function.comp_def, destroyedService?]
  · simp [stopped, List.filterMap_append, List.filterMap_map, Function.comp_def, stoppedService?]

/-- The events of a create that got no service. -/
theorem Rejected.events (h : Rejected w w') : ∃ evs, w'.trace = evs ++ w.trace ∧
    created evs = [] ∧ destroyed evs = [] ∧ stopped evs = [] := by
  obtain ⟨lf, ct, evs, rfl, hevs⟩ := h
  have hnone : ∀ p : Event → Option Addr, (∀ l, p (.setExternalLogger l) = none) →
      evs.filterMap p = [] := by
    intro p hp
    refine List.filterMap_eq_nil_iff.mpr ?_
    intro ev hev
    obtain ⟨l, rfl⟩ := hevs ev hev
    exact hp l
  exact ⟨evs, rfl, hnone _ fun _ => rfl, hnone _ fun _ => rfl, hnone _ fun _ => rfl⟩

/-- The three ends of a create. -/
theorem serverCreate_ends (w : World) (a : CreateArgs) (e : CreateEnv) :
    ((∀ ip configs m, ¬ GetsService a e ip configs m) ∧
      Rejected w (ockRpcServerCreateWithCfg w a e).1 ∧
      (ockRpcServerCreateWithCfg w a e).2 ≠ ockRpcOk) ∨
    (∃ ip configs m, Accepts a e ip configs m ∧ Built w (ockRpcServerCreateWithCfg w a e).1 m e ∧
      (ockRpcServerCreateWithCfg w a e).2 = ockRpcOk ∧
      ((ockRpcServerCreateWithCfg w a e).1.gOptions.enableTls = true ↔ SetsTls configs m) ∧
      (SetsTls configs m →
        (ockRpcServerCreateWithCfg w a e).1.gTlsFunc = configs.tlsFuncs w.gTlsFunc) ∧
      (¬ SetsTls configs m → (ockRpcServerCreateWithCfg w a e).1.gTlsFunc = w.gTlsFunc)) ∨
    (∃ ip configs m w1, GetsService a e ip configs m ∧ ¬ Accepts a e ip configs m ∧
      Built w w1 m e ∧ w1.gTlsFunc = w.gTlsFunc ∧
      ockRpcServerCreateWithCfg w a e =
        (ockRpcServerDestroy w1 e.service e.destroyRet, ockRpcErrInvalidParam)) := by
  rcases serverCreate_cases w a e with hrej | ⟨ip, configs, m, w0, hg, hs, hr⟩
  · exact .inl hrej
  · have htls0 : w0.gTlsFunc = w.gTlsFunc := by
      obtain ⟨lf, ct, t, rfl⟩ := hs
      rfl
    rw [hr]
    rcases initServer_cases w0 a ip configs m e with
      ⟨w1, h1, h2, hst, hd, hx, ht⟩ | ⟨w1, h1, h2, hno⟩
    · obtain ⟨h3, -, h5, h6⟩ := setTlsConfigs_cases w1 e.service configs m
      have h7 := @setTlsConfigs_enableTls w1 m configs e.service
      rw [h2, h1.tls, htls0] at h5 h6
      rw [h2] at h3 h7
      exact .inr (.inl ⟨ip, configs, m, ⟨hg, hd, hx, ht⟩,
        Built.of_registers hs (h1.toRegisters.trans h3), hst, h7 rfl, h5, h6⟩)
    · exact .inr (.inr ⟨ip, configs, m, w1, hg, fun h => hno ⟨h.defaults, h.expand, h.tls⟩,
        Built.of_registers hs h1.toRegisters, h1.tls.trans htls0, h2⟩)

end

end Hcom4db
