import Hcom4db.ServerEffects
import Hcom4db.Services
import Hcom4db.Connect

/-!
# Hcom4db.Names

Runs of creates and destroys, and the names servers are registered under.

`g_serviceMap` goes from names to services. A create enters its service unless the name is there already,
and then returns `OCK_RPC_OK` all the same. A run keeps the servers a create has returned, with the names
they were created under, and the services of the transport that are live.

* `created_registered`: if no create that is accepted meets its name in `g_serviceMap`, every server is
  registered.
* `create_taken_unregistered`: a create that does meet it returns a server that is not.
-/

namespace Hcom4db

/-- The name a create registers its service under. -/
def CreateArgs.name (a : CreateArgs) : Option CStr :=
  match ockRpcCheckServerCreateCfg a with
  | none => none
  | some (_, configs) => (ockRpcInitConfigMap configs).map configuredName

namespace Names

open Runs
open Servers (created destroyed)

structure Sys where
  w : World := {}
  /-- The servers returned and not destroyed since, with the names of their creates. -/
  owned : Addr → Option CStr := fun _ => none
  /-- The services of the transport that are live. -/
  services : List Addr := []

inductive Label where
  | create (a : CreateArgs) (e : CreateEnv)
  | destroy (server : Addr) (ret : Int)

/-- The state after an operation that gave `owned` and left `w'`. -/
def Sys.after (s : Sys) (w' : World) (owned : Addr → Option CStr) : Sys :=
  let evs := s.w.since w'
  { w := w'
    owned := fun server => if server ∈ destroyed evs then none else owned server
    services := (created evs ++ s.services).filter fun service => service ∉ destroyed evs }

def step (s : Sys) : Label → Sys
  | .create a e =>
    let r := ockRpcServerCreateWithCfg s.w a e
    s.after r.1 (if r.2 = ockRpcOk then Function.update s.owned e.service a.name else s.owned)
  | .destroy server ret => s.after (ockRpcServerDestroy s.w server ret) s.owned

/-- The handle `Service_Create` returns is not that of a live service. -/
def FreshService (s : Sys) : Label → Prop
  | .create _ e => e.service ∉ s.services
  | .destroy _ _ => True

/-- A create that is accepted does not meet its name in `g_serviceMap`. -/
def FreeName (s : Sys) : Label → Prop
  | .create a e => ∀ ip configs m, Accepts a e ip configs m →
      s.w.gServiceMap.find (configuredName m) = none
  | .destroy _ _ => True

/-- A server is registered under its name: it is the value of one entry, the operations that look it up
by its handle find it, and a connect with its name gets it. -/
structure Registered (w : World) (server : Addr) (name : CStr) : Prop where
  entry : ∃! k, w.gServiceMap.find k = some server
  add : ∀ service : OckRpcService, service.id.toNat < maxMessageIdSize → service.handler ≠ 0 →
    (ockRpcServerAddService w server (some service)).2 = ockRpcOk
  destroy : ∀ ret, .serviceDestroy server ret ∈ w.since (ockRpcServerDestroy w server ret)
  resolves : ∀ m, configuredName m = name → ockRpcGetCurService w m = some server

/-! ## Invariant -/

/-- A service map whose entries are different live services. -/
structure Entries (m : StdMap CStr Addr) (services : List Addr) : Prop where
  live : ∀ k v, m.find k = some v → v ∈ services
  inj : ∀ k k' v, m.find k = some v → m.find k' = some v → k = k'

structure Inv (s : Sys) : Prop where
  entries : Entries s.w.gServiceMap s.services
  owned : ∀ server name, s.owned server = some name →
    s.w.gServiceMap.find name = some server ∧ name.length ≤ 64

section Entries

variable {m m' : StdMap CStr Addr} {services services' cs ds : List Addr} {k : CStr} {v : Addr}

theorem Entries.mono (h : Entries m services) (hs : ∀ x ∈ services, x ∈ services') :
    Entries m services' :=
  ⟨fun k v hk => hs v (h.live k v hk), h.inj⟩

/-- A service that is new keeps the entries apart. -/
theorem Entries.insertNew (h : Entries m services) (hv : v ∉ services) (k : CStr) :
    Entries (m.insertNew k v) (v :: services) := by
  -- an entry of the new map is an old one, or the new one
  have hcases : ∀ k' v', (m.insertNew k v).find k' = some v' →
      m.find k' = some v' ∨ (k' = k ∧ v' = v) := by
    intro k' v' hf
    rw [StdMap.find_insertNew] at hf
    split at hf
    · rename_i hk
      subst hk
      cases hm : m.find k' with
      | none =>
        rw [hm] at hf
        exact .inr ⟨rfl, (Option.some.inj hf).symm⟩
      | some x =>
        rw [hm] at hf
        exact .inl hf
    · exact .inl hf
  constructor
  · intro k' v' hf
    rcases hcases k' v' hf with hf | ⟨-, rfl⟩
    · exact List.mem_cons_of_mem _ (h.live k' v' hf)
    · exact List.mem_cons_self
  · intro k₁ k₂ v' h1 h2
    rcases hcases k₁ v' h1 with ho1 | ⟨hk1, hv1⟩
    · rcases hcases k₂ v' h2 with ho2 | ⟨-, hv2⟩
      · exact h.inj k₁ k₂ v' ho1 ho2
      · exact absurd (hv2 ▸ h.live k₁ v' ho1) hv
    · rcases hcases k₂ v' h2 with ho2 | ⟨hk2, -⟩
      · exact absurd (hv1 ▸ h.live k₂ v' ho2) hv
      · rw [hk1, hk2]

/-- Once the entry of a service is erased, no entry has it. -/
theorem Entries.erase (h : Entries m services) (hk : m.find k = some v) :
    Entries (m.erase k) (services.filter fun x => x ∉ [v]) := by
  have hold : ∀ k' v', StdMap.find (m.erase k) k' = some v' → k' ≠ k ∧ m.find k' = some v' := by
    intro k' v' hf
    rw [StdMap.find_erase] at hf
    split at hf
    · cases hf
    · rename_i hne
      exact ⟨hne, hf⟩
  constructor
  · intro k' v' hf
    obtain ⟨hne, hf⟩ := hold k' v' hf
    refine List.mem_filter.mpr ⟨h.live k' v' hf, ?_⟩
    have hv : v' ≠ v := by
      intro hv
      subst hv
      exact hne (h.inj k' k v' hf hk)
    simpa using hv
  · intro k₁ k₂ v' h1 h2
    exact h.inj k₁ k₂ v' (hold k₁ v' h1).2 (hold k₂ v' h2).2

/-! ## What a step does to the map -/

/-- The map before and after an operation, the services it created and those it destroyed. -/
inductive Effect (m : StdMap CStr Addr) : StdMap CStr Addr → List Addr → List Addr → Prop where
  | quiet : Effect m m [] []
  | insert (k : CStr) (v : Addr) : Effect m (m.insertNew k v) [v] []
  | erase {k : CStr} {v : Addr} : m.find k = some v → Effect m (m.erase k) [] [v]
  | undo {k k' : CStr} {v : Addr} : (m.insertNew k v).find k' = some v →
      Effect m ((m.insertNew k v).erase k') [v] [v]

theorem Effect.entries (h : Effect m m' cs ds) (E : Entries m services) (hcs : ∀ v ∈ cs, v ∉ services) :
    Entries m' ((cs ++ services).filter fun x => x ∉ ds) := by
  cases h with
  | quiet => exact E.mono fun x hx => by simpa using hx
  | insert k v =>
    exact (E.insertNew (hcs v List.mem_cons_self) k).mono fun x hx => by simpa using hx
  | erase hk => exact E.erase hk
  | @undo k k' v hk => exact (E.insertNew (hcs v List.mem_cons_self) k).erase hk

theorem find_insertNew_of_some (k' : CStr) (v' : Addr) (h : m.find k = some v) :
    (m.insertNew k' v').find k = some v := by
  rw [StdMap.find_insertNew]
  split
  · rename_i hk
    rw [← hk, h]
    rfl
  · exact h

theorem find_erase_of_some {k' : CStr} {v' : Addr} (h : m.find k = some v) (h' : m.find k' = some v')
    (hv : v ≠ v') : StdMap.find (m.erase k') k = some v := by
  rw [StdMap.find_erase, if_neg]
  · exact h
  · intro hk
    subst hk
    rw [h] at h'
    exact hv (Option.some.inj h')

/-- The entry of a service that is not destroyed stays. -/
theorem Effect.find (h : Effect m m' cs ds) (hf : m.find k = some v) (hv : v ∉ ds) :
    m'.find k = some v := by
  cases h with
  | quiet => exact hf
  | insert k' v' => exact find_insertNew_of_some k' v' hf
  | erase hk => exact find_erase_of_some hf hk fun h => hv (List.mem_singleton.mpr h)
  | undo hk =>
    exact find_erase_of_some (find_insertNew_of_some _ _ hf) hk fun h => hv (List.mem_singleton.mpr h)

theorem find_of_insertNew {k' : CStr} {v' : Addr} (h : (m.insertNew k' v').find k = some v)
    (hv : v ≠ v') : m.find k = some v := by
  rw [StdMap.find_insertNew] at h
  split at h
  · rename_i hk
    cases hf : m.find k' with
    | none =>
      rw [hf] at h
      exact absurd (Option.some.inj h).symm hv
    | some x =>
      rw [hf] at h
      rw [hk, hf]
      exact h
  · exact h

theorem find_of_erase {k' : CStr} (h : StdMap.find (m.erase k') k = some v) : m.find k = some v := by
  rw [StdMap.find_erase] at h
  split at h
  · cases h
  · exact h

/-- The entries of a service that the operation neither created nor destroyed are the same. -/
theorem Effect.find_iff (h : Effect m m' cs ds) (hc : v ∉ cs) (hd : v ∉ ds) :
    m'.find k = some v ↔ m.find k = some v := by
  refine ⟨?_, fun hf => h.find hf hd⟩
  cases h with
  | quiet => exact id
  | insert k' v' => exact fun hf => find_of_insertNew hf fun hv => hc (List.mem_singleton.mpr hv)
  | erase hk => exact find_of_erase
  | undo hk =>
    exact fun hf => find_of_insertNew (find_of_erase hf) fun hv => hc (List.mem_singleton.mpr hv)

end Entries

section Step

variable {s : Sys} {w' : World} {a : CreateArgs} {e : CreateEnv} {server : Addr} {name : CStr}

theorem destroy_effect (w : World) (server : Addr) (ret : Int) :
    ∃ evs, (ockRpcServerDestroy w server ret).trace = evs ++ w.trace ∧ created evs = [] ∧
      Effect w.gServiceMap (ockRpcServerDestroy w server ret).gServiceMap [] (destroyed evs) := by
  cases hk : serviceKey w server with
  | none =>
    rw [serverDestroy_missing hk]
    exact ⟨[], rfl, rfl, .quiet⟩
  | some name =>
    have hde := destroyed_destroy server ret []
    refine ⟨[.serviceDestroy server ret, .serviceStop server], serverDestroy_trace hk ret, rfl, ?_⟩
    rw [List.append_nil] at hde
    rcases serverDestroy_found hk ret with ⟨hret, hw⟩ | ⟨hret, hw⟩
    · rw [if_neg hret] at hde
      rw [hde, hw]
      exact .quiet
    · rw [if_pos hret] at hde
      rw [hde, hw]
      exact .erase (serviceKey_some hk)

/-- The effect of a create; one that succeeds has entered its service, or met its name. -/
theorem create_effect (w : World) (a : CreateArgs) (e : CreateEnv) :
    ∃ evs, (ockRpcServerCreateWithCfg w a e).1.trace = evs ++ w.trace ∧
      Effect w.gServiceMap (ockRpcServerCreateWithCfg w a e).1.gServiceMap (created evs)
        (destroyed evs) ∧
      (∀ v ∈ created evs, v = e.service) ∧
      ((ockRpcServerCreateWithCfg w a e).2 = ockRpcOk → destroyed evs = [] ∧
        ∃ ip configs m, Accepts a e ip configs m ∧
          (ockRpcServerCreateWithCfg w a e).1.gServiceMap =
            w.gServiceMap.insertNew (configuredName m) e.service) := by
  rcases serverCreate_ends w a e with ⟨-, hrej, hst⟩ | ⟨ip, configs, m, hacc, hb, hst, -⟩ |
    ⟨ip, configs, m, w1, hg, -, hb, -, hr⟩
  · obtain ⟨evs, ht, hc, hd, -⟩ := hrej.events
    obtain ⟨lf, ct, evs', hw, -⟩ := hrej
    have hm : (ockRpcServerCreateWithCfg w a e).1.gServiceMap = w.gServiceMap := by rw [hw]
    refine ⟨evs, ht, ?_, ?_, fun h => absurd h hst⟩
    · rw [hc, hd, hm]
      exact .quiet
    · rw [hc]
      simp
  · obtain ⟨evs, ht, hc, hd, -⟩ := hb.events
    refine ⟨evs, ht, ?_, ?_, fun _ => ⟨hd, ip, configs, m, hacc, hb.gServiceMap⟩⟩
    · rw [hc, hd, hb.gServiceMap]
      exact .insert _ _
    · rw [hc]
      simp
  · obtain ⟨evs, ht, hc, hd, -⟩ := hb.events
    rw [hr]
    have hst : ockRpcErrInvalidParam = ockRpcOk → False := ockRpcErrInvalidParam_ne_ok
    cases hk : serviceKey w1 e.service with
    | none =>
      rw [serverDestroy_missing hk]
      refine ⟨evs, ht, ?_, ?_, fun h => absurd h hst⟩
      · rw [hc, hd, hb.gServiceMap]
        exact .insert _ _
      · rw [hc]
        simp
    | some k =>
      have htr := serverDestroy_trace hk e.destroyRet
      rw [ht, ← List.append_assoc] at htr
      have hcr : created ([.serviceDestroy e.service e.destroyRet, .serviceStop e.service] ++ evs) =
          [e.service] := hc
      have hde := destroyed_destroy e.service e.destroyRet evs
      rw [hd] at hde
      refine ⟨_, htr, ?_, ?_, fun h => absurd h hst⟩
      · rw [hcr, hde]
        have hfound := serviceKey_some hk
        rw [hb.gServiceMap] at hfound
        rcases serverDestroy_found hk e.destroyRet with ⟨hret, hw⟩ | ⟨hret, hw⟩
        · rw [if_neg hret, hw, hb.gServiceMap]
          exact .insert _ _
        · rw [if_pos hret, hw, hb.gServiceMap]
          exact .undo hfound
      · rw [hcr]
        simp

/-- A create destroys no service but its own. -/
theorem create_destroyed (w : World) (a : CreateArgs) (e : CreateEnv) :
    ∀ v ∈ destroyed (w.since (ockRpcServerCreateWithCfg w a e).1), v = e.service := by
  rcases serverCreate_ends w a e with ⟨-, hrej, -⟩ | ⟨ip, configs, m, -, hb, -⟩ |
    ⟨ip, configs, m, w1, -, -, hb, -, hr⟩
  · obtain ⟨evs, ht, -, hd, -⟩ := hrej.events
    rw [World.since_of_trace ht, hd]
    simp
  · obtain ⟨evs, ht, -, hd, -⟩ := hb.events
    rw [World.since_of_trace ht, hd]
    simp
  · obtain ⟨evs, ht, -, hd, -⟩ := hb.events
    rw [hr]
    cases hk : serviceKey w1 e.service with
    | none =>
      rw [serverDestroy_missing hk, World.since_of_trace ht, hd]
      simp
    | some k =>
      have htr := serverDestroy_trace hk e.destroyRet
      rw [ht, ← List.append_assoc] at htr
      rw [World.since_of_trace htr, destroyed_destroy, hd]
      split <;> simp

theorem after_of_trace {evs : List Event} {owned : Addr → Option CStr}
    (h : w'.trace = evs ++ s.w.trace) : s.after w' owned =
      { w := w'
        owned := fun server => if server ∈ destroyed evs then none else owned server
        services := (created evs ++ s.services).filter fun service => service ∉ destroyed evs } := by
  unfold Sys.after
  rw [World.since_of_trace h]

/-- The entries stay in order whatever names the creates are given. -/
theorem entries_step (E : Entries s.w.gServiceMap s.services) {l : Label} (hfresh : FreshService s l) :
    Entries (step s l).w.gServiceMap (step s l).services := by
  cases l with
  | create a e =>
    obtain ⟨evs, ht, heff, hcs, -⟩ := create_effect s.w a e
    simp only [step, after_of_trace ht]
    refine heff.entries E ?_
    intro v hv
    rw [hcs v hv]
    exact hfresh
  | destroy server ret =>
    obtain ⟨evs, ht, hc, heff⟩ := destroy_effect s.w server ret
    simp only [step, after_of_trace ht, hc]
    exact heff.entries E (by simp)

theorem name_of_getsService {ip : CStr} {configs : OckRpcCreateConfig} {m : ConfigMap}
    (h : GetsService a e ip configs m) : a.name = some (configuredName m) := by
  unfold CreateArgs.name
  rw [h.checked]
  simp only [h.map, Option.map_some]

theorem inv_create (I : Inv s) (hfresh : FreshService s (.create a e))
    (hname : FreeName s (.create a e)) : Inv (step s (.create a e)) := by
  refine ⟨entries_step I.entries hfresh, ?_⟩
  obtain ⟨evs, ht, heff, -, hok⟩ := create_effect s.w a e
  intro server name ho
  simp only [step, after_of_trace ht] at ho ⊢
  split at ho
  · cases ho
  · rename_i hnd
    split at ho
    · rename_i hst
      obtain ⟨-, ip, configs, m, hacc, hmap⟩ := hok hst
      rw [name_of_getsService hacc.toGetsService, Function.update_apply] at ho
      split at ho
      · rename_i hs
        cases ho
        refine ⟨?_, hacc.service.name⟩
        rw [hmap, StdMap.find_insertNew, if_pos rfl, hname ip configs m hacc, hs]
        rfl
      · obtain ⟨hf, hlen⟩ := I.owned server name ho
        exact ⟨heff.find hf hnd, hlen⟩
    · obtain ⟨hf, hlen⟩ := I.owned server name ho
      exact ⟨heff.find hf hnd, hlen⟩

theorem inv_destroy (I : Inv s) (server : Addr) (ret : Int) : Inv (step s (.destroy server ret)) := by
  refine ⟨entries_step I.entries trivial, ?_⟩
  obtain ⟨evs, ht, -, heff⟩ := destroy_effect s.w server ret
  intro server name ho
  simp only [step, after_of_trace ht] at ho ⊢
  split at ho
  · cases ho
  · rename_i hnd
    obtain ⟨hf, hlen⟩ := I.owned server name ho
    exact ⟨heff.find hf hnd, hlen⟩

theorem inv_step (I : Inv s) {l : Label} (hfresh : FreshService s l) (hname : FreeName s l) :
    Inv (step s l) := by
  cases l with
  | create a e => exact inv_create I hfresh hname
  | destroy server ret => exact inv_destroy I server ret

theorem Inv.registered (I : Inv s) (ho : s.owned server = some name) :
    Registered s.w server name := by
  obtain ⟨hf, hlen⟩ := I.owned server name ho
  obtain ⟨k, hk⟩ := Option.isSome_iff_exists.mp (serviceKey_isSome hf)
  constructor
  · refine ⟨name, hf, ?_⟩
    intro k' hk'
    exact I.entries.inj k' name server hk' hf
  · intro service hid hh
    rcases addHandler_cases s.w s.w.gHandleMap server (some service) with ⟨hno, -⟩ | ⟨sv, -, -, hr⟩
    · exact absurd ⟨serviceKey_isSome hf, hid, hh⟩ (hno service rfl)
    · simp only [ockRpcServerAddService, hr]
  · intro ret
    rw [World.since_of_trace (serverDestroy_trace hk ret)]
    exact List.mem_cons_self
  · intro m hm
    have hget : ockRpcGetCurService s.w m =
        if 64 < (configuredName m).length then none else s.w.gServiceMap.find (configuredName m) := rfl
    rw [hget, hm, if_neg (by omega), hf]

end Step

theorem entries_start : Entries ({} : Sys).w.gServiceMap ({} : Sys).services := by
  constructor
  · intro k v h
    rw [show ({} : Sys).w.gServiceMap.find k = none from StdMap.find_empty k] at h
    cases h
  · intro k k' v h
    rw [show ({} : Sys).w.gServiceMap.find k = none from StdMap.find_empty k] at h
    cases h

theorem inv_start : Inv {} := by
  refine ⟨entries_start, ?_⟩
  intro server name h
  cases h

/-- In every run, the entries of `g_serviceMap` are different live services. -/
theorem entries_reached {s : Sys} (hrun : Reached FreshService step {} s) :
    Entries s.w.gServiceMap s.services := by
  induction hrun with
  | refl => exact entries_start
  | tail _ hl ih => exact entries_step ih hl

/-- **Every created server is registered under its name** in every run in which no create that is
accepted meets its name in `g_serviceMap`. -/
theorem created_registered {s : Sys}
    (hrun : Reached (fun s l => FreshService s l ∧ FreeName s l) step {} s) :
    ∀ server name, s.owned server = some name → Registered s.w server name := by
  have I : Inv s := hrun.invariant inv_start fun s l I hl => inv_step I hl.1 hl.2
  intro server name ho
  exact I.registered ho

/-- A create whose name is there already returns a server that no operation finds. -/
theorem create_taken_unregistered {s : Sys} {a : CreateArgs} {e : CreateEnv}
    (E : Entries s.w.gServiceMap s.services) (hfresh : FreshService s (.create a e))
    (hst : (ockRpcServerCreateWithCfg s.w a e).2 = ockRpcOk)
    (htaken : ∀ name, a.name = some name → s.w.gServiceMap.find name ≠ none) :
    (step s (.create a e)).owned e.service = a.name ∧
      ∀ k, (step s (.create a e)).w.gServiceMap.find k ≠ some e.service := by
  obtain ⟨evs, ht, -, -, hok⟩ := create_effect s.w a e
  obtain ⟨hd, ip, configs, m, hacc, hmap⟩ := hok hst
  have htaken := htaken _ (name_of_getsService hacc.toGetsService)
  simp only [step, after_of_trace ht, if_pos hst, hd]
  constructor
  · simp
  · intro k hk
    rw [hmap, StdMap.find_insertNew] at hk
    split at hk
    · obtain ⟨v, hv⟩ := Option.ne_none_iff_exists'.mp htaken
      rw [hv] at hk
      cases hk
      exact hfresh (E.live _ _ hv)
    · exact hfresh (E.live _ _ hk)

section Examples

/-- The state after a create of server 40 under the name "a". -/
def afterFirst : Sys := step {} (.create (Servers.namedServer "a" "8") { service := 40 })

/-- The handle of a second create is new. -/
theorem afterFirst_fresh (a : CreateArgs) : FreshService afterFirst (.create a { service := 41 }) := by
  have hservices : afterFirst.services = [40] := rfl
  show 41 ∉ afterFirst.services
  rw [hservices]
  decide

theorem afterFirst_reached :
    Reached (fun s l => FreshService s l ∧ FreeName s l) step {} afterFirst := by
  refine Reached.refl.tail ⟨?_, ?_⟩
  · exact List.not_mem_nil
  · intro ip configs m _
    exact StdMap.find_empty _

/-- Two servers with different names. -/
theorem created_registered_two : ∃ s : Sys, s.owned 40 = some (cstr "a") ∧
    s.owned 41 = some (cstr "b") ∧ Registered s.w 40 (cstr "a") ∧ Registered s.w 41 (cstr "b") := by
  have hrun : Reached (fun s l => FreshService s l ∧ FreeName s l) step {}
      (step afterFirst (.create (Servers.namedServer "b" "8") { service := 41 })) := by
    refine afterFirst_reached.tail ⟨afterFirst_fresh _, ?_⟩
    · intro ip configs m hacc
      have hb : CreateArgs.name (Servers.namedServer "b" "8") = some (cstr "b") := rfl
      rw [name_of_getsService hacc.toGetsService] at hb
      rw [Option.some.inj hb]
      rfl
  exact ⟨_, rfl, rfl, created_registered hrun 40 _ rfl, created_registered hrun 41 _ rfl⟩

/-- Two servers with one name: the second is returned and is not registered. -/
theorem same_name_unregistered : ∃ (s : Sys) (server : Addr) (name : CStr),
    Reached FreshService step {} s ∧ s.owned server = some name ∧ ¬ Registered s.w server name := by
  refine ⟨step afterFirst (.create (Servers.namedServer "a" "8") { service := 41 }), 41, cstr "a", ?_,
    rfl, ?_⟩
  · exact (afterFirst_reached.mono fun s l h => h.1).tail (afterFirst_fresh _)
  · intro h
    have hget := h.resolves ((∅ : ConfigMap).insert ockRpcStrServerName ⟨700, cstr "a"⟩) rfl
    cases hget

end Examples

end Names

end Hcom4db
