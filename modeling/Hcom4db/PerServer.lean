import Hcom4db.Base.TwoRuns
import Hcom4db.FailedCreate
import Hcom4db.Frames

/-!
# Hcom4db.PerServer

Whose handlers a message calls. `OckRpcServerAddService` takes a server, and writes a map that belongs to
the process; a destroy leaves what its server registered.

Two runs are compared that differ in the calls made on one server: the services it adds, its creation and
its destruction.

* `agree_unwinds`: the entries of the other servers and the registrations made on them stay the same, if
  the other servers are not created under a name of that server.
* `handlers_per_server`: a message calls the same handler in both runs, if the last accepted registration
  of its id was not made on that server.
-/

namespace Hcom4db

namespace PerServer

open Runs
open Servers (created destroyed)
open Services (AddCall lastAccepted)

/-- A server of the process, from its creation to its destruction; its handle may be used again. -/
abbrev ServerId := Nat

structure Sys where
  w : World := {}
  /-- The server a live handle belongs to. -/
  owner : Addr → Option ServerId := fun _ => none
  /-- The calls that add a service, newest first, with the server they were made on. -/
  calls : List (Option ServerId × AddCall) := []

/-- The calls on a handle carry the server it belongs to, `none` for a handle that is not live. -/
inductive Label where
  | add (on : Option ServerId) (kind : ServiceKind) (server : Addr) (service : Option OckRpcService)
  | create (id : ServerId) (a : CreateArgs) (e : CreateEnv)
  | destroy (on : Option ServerId) (server : Addr) (ret : Int)
  | receive (ctx : Addr) (e : ReceiveEnv)
  | rndvReceive (ctx : Addr) (e : RndvEnv)

/-- The live handles after `evs`; what was created belongs to `id`. -/
def ownerAfter (evs : List Event) (id : Option ServerId) (owner : Addr → Option ServerId) :
    Addr → Option ServerId :=
  fun h => if h ∈ destroyed evs then none else if h ∈ created evs then id else owner h

def step (s : Sys) : Label → Sys
  | .add on kind server service =>
    let r := addService s.w kind server service
    { s with w := r.1, calls := (on, ⟨kind, service, r.2⟩) :: s.calls }
  | .create id a e =>
    let w' := (ockRpcServerCreateWithCfg s.w a e).1
    { s with w := w', owner := ownerAfter (s.w.since w') (some id) s.owner }
  | .destroy _ server ret =>
    let w' := ockRpcServerDestroy s.w server ret
    { s with w := w', owner := ownerAfter (s.w.since w') none s.owner }
  | .receive ctx e => { s with w := (ockRpcReceiveHandle s.w ctx e).1 }
  | .rndvReceive ctx e => { s with w := (ockRpcRndvReceiveHandler s.w ctx e).1 }

/-- A run from the start of the process. -/
def run (labels : List Label) : Sys := labels.foldl step {}

/-- The labels that are not about server `b`. -/
def others (b : ServerId) : Label → Bool
  | .add on _ _ _ => decide (on ≠ some b)
  | .create id _ _ => decide (id ≠ b)
  | .destroy on _ _ => decide (on ≠ some b)
  | .receive _ _ => true
  | .rndvReceive _ _ => true

/-- The labels tell whose handle they use, `Service_Create` returns a handle that is not live, and no
other server gets a service under a name that is entered for `b`. -/
def Separate (b : ServerId) (s : Sys) : Label → Prop
  | .add on _ server _ => s.owner server = on
  | .create id a e => s.owner e.service = none ∧
      (id ≠ b → ∀ ip configs m, GetsService a e ip configs m →
        ∀ v, s.w.gServiceMap.find (configuredName m) = some v → s.owner v ≠ some b)
  | .destroy on server _ => s.owner server = on
  | .receive _ _ => True
  | .rndvReceive _ _ => True

/-! ## One run -/

/-- The run without its ghost state. -/
def Label.plain : Label → Services.Label
  | .add _ kind server service => .add kind server service
  | .create _ a e => .create a e
  | .destroy _ server ret => .destroy server ret
  | .receive ctx e => .receive ctx e
  | .rndvReceive ctx e => .rndvReceive ctx e

def Sys.plain (s : Sys) : Services.Sys := ⟨s.w, s.calls.map Prod.snd⟩

theorem plain_step (s : Sys) (l : Label) : (step s l).plain = Services.step s.plain l.plain := by
  cases l <;> rfl

structure Inv (s : Sys) : Prop where
  services : Services.Inv s.plain
  /-- Every entry of `g_serviceMap` is a live handle, and no handle has two. -/
  entries : ∃ live, Names.Entries s.w.gServiceMap live ∧ ∀ v ∈ live, (s.owner v).isSome

section Step

variable {s t : Sys} {b id : ServerId} {l : Label} {w' : World} {m m' : StdMap CStr Addr}
  {cs ds live : List Addr} {k : CStr} {v : Addr}

theorem Inv.owned (I : Inv s) (h : s.w.gServiceMap.find k = some v) : (s.owner v).isSome := by
  obtain ⟨live, hE, ho⟩ := I.entries
  exact ho v (hE.live k v h)

theorem Inv.unregistered (I : Inv s) (h : s.owner v = none) (k : CStr) :
    s.w.gServiceMap.find k ≠ some v := by
  intro hk
  have := I.owned hk
  rw [h] at this
  cases this

theorem Inv.inj (I : Inv s) {k' : CStr} (h : s.w.gServiceMap.find k = some v)
    (h' : s.w.gServiceMap.find k' = some v) : k = k' := by
  obtain ⟨live, hE, -⟩ := I.entries
  exact hE.inj k k' v h h'

/-- The live handles follow the entries. -/
theorem entries_after {evs : List Event} (heff : Names.Effect s.w.gServiceMap m' (created evs)
    (destroyed evs)) (I : Inv s) (hnew : ∀ v ∈ created evs, s.owner v = none) (id : ServerId) :
    ∃ live, Names.Entries m' live ∧ ∀ v ∈ live, (ownerAfter evs (some id) s.owner v).isSome := by
  obtain ⟨live, hE, ho⟩ := I.entries
  have hfresh : ∀ v ∈ created evs, v ∉ live := by
    intro v hv hl
    have := ho v hl
    rw [hnew v hv] at this
    cases this
  refine ⟨_, heff.entries hE hfresh, ?_⟩
  intro v hv
  obtain ⟨hv, hd⟩ := List.mem_filter.mp hv
  rw [ownerAfter, if_neg (of_decide_eq_true hd)]
  split
  · rfl
  · rename_i hc
    exact ho v ((List.mem_append.mp hv).resolve_left hc)

theorem ownerAfter_of_created_nil {evs : List Event} (h : created evs = []) (x y : Option ServerId)
    (owner : Addr → Option ServerId) : ownerAfter evs x owner = ownerAfter evs y owner := by
  funext v
  simp [ownerAfter, h]

theorem inv_step (I : Inv s) (hok : Separate b s l) : Inv (step s l) := by
  constructor
  · rw [plain_step]
    exact Services.inv_step I.services l.plain
  · cases l with
    | add on kind server service =>
      simp only [step, (addService_frame s.w kind server service).gServiceMap]
      exact I.entries
    | create id a e =>
      obtain ⟨evs, ht, heff, hcs, -⟩ := Names.create_effect s.w a e
      simp only [step, World.since_of_trace ht]
      exact entries_after heff I (fun v hv => by rw [hcs v hv]; exact hok.1) id
    | destroy on server ret =>
      obtain ⟨evs, ht, hc, heff⟩ := Names.destroy_effect s.w server ret
      simp only [step, World.since_of_trace ht]
      rw [← hc] at heff
      rw [ownerAfter_of_created_nil hc none (some 0)]
      exact entries_after heff I (fun v hv => by rw [hc] at hv; cases hv) 0
    | receive ctx e =>
      simp only [step, (receive_frame s.w ctx e).gServiceMap]
      exact I.entries
    | rndvReceive ctx e =>
      simp only [step, (rndvReceive_frame s.w ctx e).gServiceMap]
      exact I.entries

/-! ## What a create decides -/

/-- The servers and the entries are the same. -/
structure SameServers (s s' : Sys) : Prop where
  entries : s'.w.gServiceMap = s.w.gServiceMap
  owner : s'.owner = s.owner

/-- The handle `service` is new, belongs to `id` and is entered under `name`, if `name` is free. -/
structure Gains (s s' : Sys) (id : ServerId) (name : CStr) (service : Addr) : Prop where
  entries : s'.w.gServiceMap = s.w.gServiceMap.insertNew name service
  owner : s'.owner = Function.update s.owner service (some id)

theorem ownerAfter_created (service : Addr) {evs : List Event} (hc : created evs = [service])
    (hd : destroyed evs = []) (id : ServerId) (owner : Addr → Option ServerId) :
    ownerAfter evs (some id) owner = Function.update owner service (some id) := by
  funext v
  simp [ownerAfter, hc, hd, Function.update_apply]

theorem ownerAfter_undone (service : Addr) {evs : List Event} (hc : created evs = [service])
    (hd : destroyed evs = [service]) {owner : Addr → Option ServerId} (hnew : owner service = none)
    (id : ServerId) : ownerAfter evs (some id) owner = owner := by
  funext v
  simp only [ownerAfter, hc, hd, List.mem_singleton]
  split
  · rename_i hv
    rw [hv, hnew]
  · rfl

/-- A create that fails once it has a service: the service is destroyed when it was entered and
`Service_Destroy` succeeds, otherwise it stays. -/
theorem undone_create {m : ConfigMap} {a : CreateArgs} {e : CreateEnv} {w1 : World} {st : OckRpcStatus}
    (hb : Built s.w w1 m e) (hr : ockRpcServerCreateWithCfg s.w a e =
      (ockRpcServerDestroy w1 e.service e.destroyRet, st)) (I : Inv s) (hnew : s.owner e.service = none)
    (id : ServerId) :
    if decide (e.destroyRet = ockRpcOk) = true ∧ s.w.gServiceMap.find (configuredName m) = none then
      SameServers s (step s (.create id a e))
    else Gains s (step s (.create id a e)) id (configuredName m) e.service := by
  rcases cleanUp_cases hb (I.unregistered hnew) with ⟨⟨hfree, hret⟩, h⟩ | ⟨hno, h⟩
  · rw [if_pos ⟨decide_eq_true hret, hfree⟩]
    constructor
    · simp only [step, hr]
      exact h.gServiceMap
    · simp only [step, hr]
      exact ownerAfter_undone e.service h.created h.destroyed hnew id
  · rw [if_neg fun hall => hno ⟨hall.2, of_decide_eq_true hall.1⟩]
    constructor
    · simp only [step, hr]
      exact h.gServiceMap
    · simp only [step, hr]
      exact ownerAfter_created e.service h.created h.destroyed id s.owner

/-- Whether a create gets a service, under which name, and whether it gives it back, depends on its
arguments alone; only whether the name is free depends on the state. -/
theorem create_outcome (id : ServerId) (a : CreateArgs) (e : CreateEnv) :
    (∀ s, SameServers s (step s (.create id a e))) ∨
    (∃ ip configs m, GetsService a e ip configs m ∧ ∃ undo : Bool, ∀ s, Inv s →
      s.owner e.service = none →
      if undo = true ∧ s.w.gServiceMap.find (configuredName m) = none then
        SameServers s (step s (.create id a e))
      else Gains s (step s (.create id a e)) id (configuredName m) e.service) := by
  by_cases hg : ∃ ip configs m, GetsService a e ip configs m
  · obtain ⟨ip, configs, m, hg⟩ := hg
    by_cases hacc : Accepts a e ip configs m
    · refine .inr ⟨ip, configs, m, hg, false, ?_⟩
      intro s I hnew
      rw [if_neg fun h => Bool.false_ne_true h.1]
      rcases serverCreate_ends s.w a e with ⟨hno, -, -⟩ | ⟨ip', configs', m', hacc', hb, -⟩ |
        ⟨ip', configs', m', w1, hg', hnacc, -⟩
      · exact absurd hg (hno ip configs m)
      · obtain ⟨-, -, rfl⟩ := hg.unique hacc'.toGetsService
        obtain ⟨evs, ht, hc, hd, -⟩ := hb.events
        refine ⟨hb.gServiceMap, ?_⟩
        simp only [step, World.since_of_trace ht]
        exact ownerAfter_created e.service hc hd id s.owner
      · obtain ⟨rfl, rfl, rfl⟩ := hg.unique hg'
        exact absurd hacc hnacc
    · refine .inr ⟨ip, configs, m, hg, decide (e.destroyRet = ockRpcOk), ?_⟩
      intro s I hnew
      rcases serverCreate_ends s.w a e with ⟨hno, -, -⟩ | ⟨ip', configs', m', hacc', -⟩ |
        ⟨ip', configs', m', w1, hg', -, hb, -, hr⟩
      · exact absurd hg (hno ip configs m)
      · obtain ⟨rfl, rfl, rfl⟩ := hg.unique hacc'.toGetsService
        exact absurd hacc' hacc
      · obtain ⟨-, -, rfl⟩ := hg.unique hg'
        exact undone_create hb hr I hnew id
  · refine .inl ?_
    intro s
    rcases serverCreate_ends s.w a e with ⟨-, hrej, -⟩ | ⟨ip, configs, m, hacc, -⟩ |
      ⟨ip, configs, m, -, hg', -⟩
    · obtain ⟨evs, ht, hc, hd, -⟩ := hrej.events
      obtain ⟨lf, ct, evs', hw, -⟩ := hrej
      constructor
      · simp only [step]
        rw [hw]
      · simp only [step, World.since_of_trace ht]
        funext v
        simp [ownerAfter, hc, hd]
    · exact absurd ⟨ip, configs, m, hacc.toGetsService⟩ hg
    · exact absurd ⟨ip, configs, m, hg'⟩ hg

/-- The handle `server` is destroyed and its entry `k` erased. -/
structure Loses (s s' : Sys) (k : CStr) (server : Addr) : Prop where
  entries : s'.w.gServiceMap = s.w.gServiceMap.erase k
  owner : s'.owner = Function.update s.owner server none

theorem destroy_outcome (s : Sys) (on : Option ServerId) (server : Addr) (ret : Int) :
    ((ret = ockRpcOk → ∀ k, s.w.gServiceMap.find k ≠ some server) ∧
      SameServers s (step s (.destroy on server ret))) ∨
    (ret = ockRpcOk ∧ ∃ k, s.w.gServiceMap.find k = some server ∧
      Loses s (step s (.destroy on server ret)) k server) := by
  cases hk : serviceKey s.w server with
  | none =>
    refine .inl ⟨fun _ => serviceKey_none hk, ?_, ?_⟩
    · simp only [step, serverDestroy_missing hk]
    · simp only [step, serverDestroy_missing hk, World.since_self]
      rfl
  | some k =>
    have htr := serverDestroy_trace hk ret
    have hde := destroyed_destroy server ret []
    rw [List.append_nil] at hde
    rcases serverDestroy_found hk ret with ⟨hret, hw⟩ | ⟨hret, hw⟩
    · rw [if_neg hret] at hde
      refine .inl ⟨fun h => absurd h hret, ?_, ?_⟩
      · simp only [step, hw]
      · simp only [step, World.since_of_trace htr]
        funext v
        simp only [ownerAfter, hde]
        rfl
    · rw [if_pos hret] at hde
      refine .inr ⟨hret, k, serviceKey_some hk, ?_, ?_⟩
      · simp only [step, hw]
      · simp only [step, World.since_of_trace htr]
        funext v
        simp only [ownerAfter, hde, Function.update_apply]
        simp [created, destroyed, Servers.createdService?]

/-! ## Two runs -/

/-- An accepted call on a server other than `b`. -/
def counts (b : ServerId) (c : Option ServerId × AddCall) : Bool :=
  decide (c.1 ≠ some b ∧ c.2.status = ockRpcOk)

/-- The two states differ in server `b` only. -/
structure Agree (b : ServerId) (s t : Sys) : Prop where
  owner : ∀ h id, id ≠ b → (s.owner h = some id ↔ t.owner h = some id)
  entry : ∀ k h id, id ≠ b → s.owner h = some id →
    (s.w.gServiceMap.find k = some h ↔ t.w.gServiceMap.find k = some h)
  calls : s.calls.filter (counts b) = t.calls.filter (counts b)

def Related (b : ServerId) (s t : Sys) : Prop := Inv s ∧ Inv t ∧ Agree b s t

theorem Agree.symm (A : Agree b s t) : Agree b t s := by
  refine ⟨fun h id hid => (A.owner h id hid).symm, ?_, A.calls.symm⟩
  intro k h id hid ho
  exact (A.entry k h id hid ((A.owner h id hid).mpr ho)).symm

theorem Agree.of_same {s' : Sys} (A : Agree b s t) (h : SameServers s s')
    (hc : s'.calls.filter (counts b) = s.calls.filter (counts b)) : Agree b s' t := by
  refine ⟨?_, ?_, hc.trans A.calls⟩
  · intro v id hid
    rw [h.owner]
    exact A.owner v id hid
  · intro k v id hid ho
    rw [h.owner] at ho
    rw [h.entries]
    exact A.entry k v id hid ho

/-- A handle of another server, or of none, is found under the same keys. -/
theorem Agree.lookup (A : Agree b s t) (Is : Inv s) (It : Inv t) {server : Addr} {on : Option ServerId}
    (hs : s.owner server = on) (ht : t.owner server = on) (hon : on ≠ some b) (k : CStr) :
    s.w.gServiceMap.find k = some server ↔ t.w.gServiceMap.find k = some server := by
  cases on with
  | none => exact iff_of_false (Is.unregistered hs k) (It.unregistered ht k)
  | some id => exact A.entry k server id (fun h => hon (congrArg some h)) hs

theorem Agree.free (A : Agree b s t) (It : Inv t) {name : CStr}
    (ht : ∀ v, t.w.gServiceMap.find name = some v → t.owner v ≠ some b)
    (h : s.w.gServiceMap.find name = none) : t.w.gServiceMap.find name = none := by
  cases hf : t.w.gServiceMap.find name with
  | none => rfl
  | some v =>
    obtain ⟨id, hid⟩ := Option.isSome_iff_exists.mp (It.owned hf)
    have hb : id ≠ b := by
      intro hb
      exact ht v hf (by rw [hid, hb])
    rw [(A.entry name v id hb ((A.owner v id hb).mpr hid)).mpr hf] at h
    cases h

/-! ### A label about `b` -/

/-- The left run gets a new server of `b`. -/
theorem Agree.gains {s' : Sys} {name : CStr} {service : Addr} (A : Agree b s t)
    (hnew : s.owner service = none) (g : Gains s s' b name service) (hc : s'.calls = s.calls) :
    Agree b s' t := by
  -- the new handle belongs to no other server
  have howner : ∀ v id, id ≠ b → (s'.owner v = some id ↔ v ≠ service ∧ s.owner v = some id) := by
    intro v id hid
    rw [g.owner, Function.update_apply]
    split
    · rename_i hv
      exact iff_of_false (fun h => hid (Option.some.inj h).symm) fun h => h.1 hv
    · rename_i hv
      exact (and_iff_right hv).symm
  refine ⟨?_, ?_, by rw [hc, A.calls]⟩
  · intro v id hid
    rw [howner v id hid, ← A.owner v id hid]
    refine and_iff_right_of_imp ?_
    intro ho hv
    rw [hv, hnew] at ho
    cases ho
  · intro k v id hid ho
    obtain ⟨hv, ho⟩ := (howner v id hid).mp ho
    rw [g.entries, ← A.entry k v id hid ho]
    exact (Names.Effect.insert name service).find_iff (by simpa using hv) List.not_mem_nil

/-- The left run loses a server of `b`. -/
theorem Agree.loses {s' : Sys} {k : CStr} {server : Addr} (A : Agree b s t)
    (hb : s.owner server = some b) (hk : s.w.gServiceMap.find k = some server)
    (h : Loses s s' k server) (hc : s'.calls = s.calls) : Agree b s' t := by
  have hne : ∀ v id, id ≠ b → s.owner v = some id → v ≠ server := by
    rintro v id hid ho rfl
    rw [hb] at ho
    exact hid (Option.some.inj ho).symm
  have howner : ∀ v id, id ≠ b → (s'.owner v = some id ↔ s.owner v = some id) := by
    intro v id hid
    rw [h.owner, Function.update_apply]
    split
    · rename_i hv
      exact iff_of_false (by simp) fun ho => hne v id hid ho hv
    · rfl
  refine ⟨?_, ?_, by rw [hc, A.calls]⟩
  · intro v id hid
    rw [howner v id hid]
    exact A.owner v id hid
  · intro k' v id hid ho
    have ho := (howner v id hid).mp ho
    rw [h.entries, ← A.entry k' v id hid ho]
    exact (Names.Effect.erase hk).find_iff List.not_mem_nil (by simpa using hne v id hid ho)

theorem agree_left (I : Inv s) (A : Agree b s t) (hok : Separate b s l) (hl : others b l = false) :
    Agree b (step s l) t := by
  cases l with
  | add on kind server service =>
    refine A.of_same ⟨(addService_frame s.w kind server service).gServiceMap, rfl⟩ ?_
    rw [step, List.filter_cons_of_neg]
    intro hc
    exact of_decide_eq_false hl (of_decide_eq_true hc).1
  | create id a e =>
    obtain rfl : id = b := not_not.mp (of_decide_eq_false hl)
    rcases create_outcome id a e with h | ⟨ip, configs, m, -, undo, h⟩
    · exact A.of_same (h s) rfl
    · have h := h s I hok.1
      split at h
      · exact A.of_same h rfl
      · exact A.gains hok.1 h rfl
  | destroy on server ret =>
    obtain rfl : on = some b := not_not.mp (of_decide_eq_false hl)
    rcases destroy_outcome s (some b) server ret with ⟨-, h⟩ | ⟨-, k, hk, h⟩
    · exact A.of_same h rfl
    · exact A.loses hok hk h rfl
  | receive ctx e => cases hl
  | rndvReceive ctx e => cases hl

/-! ### A label about the others -/

/-- What a call that adds a service returns depends on whether its server is found. -/
theorem addService_status_congr {w w' : World} {server : Addr}
    (h : (serviceKey w server).isSome = (serviceKey w' server).isSome) (kind : ServiceKind)
    (service : Option OckRpcService) :
    (addService w kind server service).2 = (addService w' kind server service).2 := by
  have hstatus : ∀ hm hm' : StdMap Int16 Addr,
      (addHandler w hm server service).2 = (addHandler w' hm' server service).2 := by
    intro hm hm'
    unfold addHandler
    cases hk : serviceKey w server with
    | none =>
      rw [hk] at h
      have hk' : serviceKey w' server = none := by
        rw [← Option.not_isSome_iff_eq_none, ← h]
        exact Bool.false_ne_true
      rw [hk']
    | some k =>
      rw [hk] at h
      obtain ⟨k', hk'⟩ := Option.isSome_iff_exists.mp h.symm
      rw [hk']
      cases service with
      | none => rfl
      | some sv =>
        simp only
        split
        · rfl
        · split <;> rfl
  cases kind with
  | plain => exact hstatus _ _
  | rndv => exact hstatus _ _

theorem serviceKey_congr {w w' : World} {server : Addr}
    (h : ∀ k, w.gServiceMap.find k = some server ↔ w'.gServiceMap.find k = some server) :
    (serviceKey w server).isSome = (serviceKey w' server).isSome := by
  rw [Bool.eq_iff_iff]
  constructor
  · intro hs
    obtain ⟨k, hk⟩ := Option.isSome_iff_exists.mp hs
    exact serviceKey_isSome ((h k).mp (serviceKey_some hk))
  · intro hs
    obtain ⟨k, hk⟩ := Option.isSome_iff_exists.mp hs
    exact serviceKey_isSome ((h k).mpr (serviceKey_some hk))

theorem agree_gains {s' t' : Sys} {name : CStr} {service : Addr} (Is : Inv s) (It : Inv t)
    (A : Agree b s t) (hs : s.owner service = none) (ht : t.owner service = none)
    (hfree : s.w.gServiceMap.find name = none ↔ t.w.gServiceMap.find name = none)
    (gs : Gains s s' id name service) (gt : Gains t t' id name service)
    (hcs : s'.calls = s.calls) (hct : t'.calls = t.calls) : Agree b s' t' := by
  -- the new handle is found under its name, if the name was free
  have hnew : ∀ {u : Sys}, Inv u → u.owner service = none → ∀ k,
      (u.w.gServiceMap.insertNew name service).find k = some service ↔
        k = name ∧ u.w.gServiceMap.find name = none := by
    intro u I hu k
    rw [StdMap.find_insertNew]
    split
    · rename_i hk
      cases hf : u.w.gServiceMap.find name with
      | none => exact iff_of_true rfl ⟨hk, rfl⟩
      | some v =>
        refine iff_of_false ?_ fun h => by cases h.2
        intro hv
        rw [Option.getD_some] at hv
        cases hv
        exact I.unregistered hu name hf
    · rename_i hk
      exact iff_of_false (I.unregistered hu k) fun h => hk h.1
  refine ⟨?_, ?_, by rw [hcs, hct]; exact A.calls⟩
  · intro v id' hid
    rw [gs.owner, gt.owner, Function.update_apply, Function.update_apply]
    split
    · rfl
    · exact A.owner v id' hid
  · intro k v id' hid ho
    rw [gs.owner, Function.update_apply] at ho
    rw [gs.entries, gt.entries]
    by_cases hv : v = service
    · rw [hv, hnew Is hs, hnew It ht, hfree]
    · rw [if_neg hv] at ho
      have hv' : v ∉ [service] := fun h => hv (List.mem_singleton.mp h)
      rw [(Names.Effect.insert name service).find_iff hv' List.not_mem_nil,
        (Names.Effect.insert name service).find_iff hv' List.not_mem_nil]
      exact A.entry k v id' hid ho

theorem agree_loses {s' t' : Sys} {k k' : CStr} {server : Addr} (A : Agree b s t) (hk : k = k')
    (gs : Loses s s' k server) (gt : Loses t t' k' server) (hcs : s'.calls = s.calls)
    (hct : t'.calls = t.calls) : Agree b s' t' := by
  subst hk
  refine ⟨?_, ?_, by rw [hcs, hct]; exact A.calls⟩
  · intro v id hid
    rw [gs.owner, gt.owner, Function.update_apply, Function.update_apply]
    split
    · rfl
    · exact A.owner v id hid
  · intro key v id hid ho
    rw [gs.owner, Function.update_apply] at ho
    split at ho
    · cases ho
    · rw [gs.entries, gt.entries, StdMap.find_erase, StdMap.find_erase]
      split
      · rfl
      · exact A.entry key v id hid ho

theorem agree_both (Is : Inv s) (It : Inv t) (A : Agree b s t) (hs : Separate b s l)
    (ht : Separate b t l) (hl : others b l = true) : Agree b (step s l) (step t l) := by
  cases l with
  | add on kind server service =>
    have hon : on ≠ some b := of_decide_eq_true hl
    have hst := addService_status_congr (serviceKey_congr (A.lookup Is It hs ht hon)) kind service
    refine ⟨A.owner, ?_, ?_⟩
    · intro k v id hid ho
      simp only [step, (addService_frame s.w kind server service).gServiceMap,
        (addService_frame t.w kind server service).gServiceMap]
      exact A.entry k v id hid ho
    · simp only [step, hst, List.filter_cons, A.calls]
  | create id a e =>
    have hid : id ≠ b := of_decide_eq_true hl
    rcases create_outcome id a e with h | ⟨ip, configs, m, hg, undo, h⟩
    · exact ((A.of_same (h s) rfl).symm.of_same (h t) rfl).symm
    · have hfree : s.w.gServiceMap.find (configuredName m) = none ↔
          t.w.gServiceMap.find (configuredName m) = none :=
        ⟨A.free It (ht.2 hid ip configs m hg), A.symm.free Is (hs.2 hid ip configs m hg)⟩
      have h1 := h s Is hs.1
      have h2 := h t It ht.1
      by_cases hu : undo = true ∧ s.w.gServiceMap.find (configuredName m) = none
      · rw [if_pos hu] at h1
        rw [if_pos ⟨hu.1, hfree.mp hu.2⟩] at h2
        exact ((A.of_same h1 rfl).symm.of_same h2 rfl).symm
      · rw [if_neg hu] at h1
        rw [if_neg fun h => hu ⟨h.1, hfree.mpr h.2⟩] at h2
        exact agree_gains Is It A hs.1 ht.1 hfree h1 h2 rfl rfl
  | destroy on server ret =>
    have hlookup := A.lookup Is It hs ht (of_decide_eq_true hl)
    rcases destroy_outcome s on server ret with ⟨hno, h1⟩ | ⟨hret, k, hk, h1⟩
    · rcases destroy_outcome t on server ret with ⟨-, h2⟩ | ⟨hret, k, hk, -⟩
      · exact ((A.of_same h1 rfl).symm.of_same h2 rfl).symm
      · exact absurd ((hlookup k).mpr hk) (hno hret k)
    · rcases destroy_outcome t on server ret with ⟨hno, -⟩ | ⟨-, k', hk', h2⟩
      · exact absurd ((hlookup k).mp hk) (hno hret k)
      · exact agree_loses A (It.inj ((hlookup k).mp hk) hk') h1 h2 rfl rfl
  | receive ctx e =>
    refine ⟨A.owner, ?_, A.calls⟩
    simp only [step, (receive_frame s.w ctx e).gServiceMap, (receive_frame t.w ctx e).gServiceMap]
    exact A.entry
  | rndvReceive ctx e =>
    refine ⟨A.owner, ?_, A.calls⟩
    simp only [step, (rndvReceive_frame s.w ctx e).gServiceMap,
      (rndvReceive_frame t.w ctx e).gServiceMap]
    exact A.entry

theorem agree_unwinds (b : ServerId) : Unwinds (Separate b) step (others b) (Related b) := by
  refine Unwinds.of_symm ?_ ?_ ?_
  · rintro s t ⟨Is, It, A⟩
    exact ⟨It, Is, A.symm⟩
  · rintro s t l ⟨Is, It, A⟩ hl hs ht
    exact ⟨inv_step Is hs, inv_step It ht, agree_both Is It A hs ht hl⟩
  · rintro s t l ⟨Is, It, A⟩ hl hs
    exact ⟨inv_step Is hs, It, agree_left Is A hs hl⟩

end Step

/-! ## What a message calls -/

/-- The server the last accepted registration of an id was made on. -/
def registrant (calls : List (Option ServerId × AddCall)) (kind : ServiceKind) (id : UInt16) :
    Option (Option ServerId) :=
  calls.findSome? fun c => (c.2.registered kind id).map fun _ => c.1

/-- A registration that was not made on `b` is still the last one without the calls on `b`. -/
theorem lastAccepted_filter {b : ServerId} {kind : ServiceKind} {id : UInt16}
    {calls : List (Option ServerId × AddCall)} (h : registrant calls kind id ≠ some (some b)) :
    lastAccepted (calls.map Prod.snd) kind id =
      lastAccepted ((calls.filter (counts b)).map Prod.snd) kind id := by
  induction calls with
  | nil => rfl
  | cons c calls ih =>
    simp only [registrant, List.findSome?_cons] at h
    rw [List.map_cons, Services.lastAccepted_cons]
    cases hc : c.2.registered kind id with
    | none =>
      rw [hc] at h
      rw [Option.none_or, ih h, List.filter_cons]
      split
      · rw [List.map_cons, Services.lastAccepted_cons, hc, Option.none_or]
      · rfl
    | some handler =>
      rw [hc] at h
      have hcounts : counts b c = true := by
        refine decide_eq_true ⟨fun hb => h (congrArg some hb), ?_⟩
        unfold AddCall.registered at hc
        split at hc
        · cases hc
        · split at hc
          · rename_i hst
            exact hst.1
          · cases hc
      rw [List.filter_cons_of_pos hcounts, List.map_cons, Services.lastAccepted_cons, hc,
        Option.some_or, Option.some_or]

theorem inv_start : Inv {} := by
  refine ⟨Services.inv_run [], [], Names.entries_start, ?_⟩
  intro v hv
  cases hv

/-- In both runs the maps give the same handler to an id whose last registration was not made on `b`. -/
theorem handlers_agree {b : ServerId} {s t : Sys} (R : Related b s t) {kind : ServiceKind}
    {id : UInt16} (hs : registrant s.calls kind id ≠ some (some b))
    (ht : registrant t.calls kind id ≠ some (some b)) :
    (s.w.handlers kind).find id.toInt16 = (t.w.handlers kind).find id.toInt16 := by
  obtain ⟨Is, It, A⟩ := R
  have h1 : (s.w.handlers kind).find id.toInt16 = lastAccepted (s.calls.map Prod.snd) kind id :=
    Is.services.find kind id
  have h2 : (t.w.handlers kind).find id.toInt16 = lastAccepted (t.calls.map Prod.snd) kind id :=
    It.services.find kind id
  rw [h1, h2, lastAccepted_filter hs, lastAccepted_filter ht, A.calls]

/-- **Handlers across servers.** Two runs that differ in what is about server `b` call the same handler for
a message, if the other servers keep away from the names of `b` and the last accepted registration of the
message's id was not made on `b` in either run. -/
theorem handlers_per_server {b : ServerId} {l l' : List Label} (hok : AllOk (Separate b) step {} l)
    (hok' : AllOk (Separate b) step {} l') (hsame : l.filter (others b) = l'.filter (others b)) :
    (∀ ctx e, (∀ id ∈ e.msgId, registrant (run l).calls .plain id ≠ some (some b) ∧
        registrant (run l').calls .plain id ≠ some (some b)) →
      invoked ((run l).w.since (ockRpcReceiveHandle (run l).w ctx e).1) =
        invoked ((run l').w.since (ockRpcReceiveHandle (run l').w ctx e).1)) ∧
    (∀ ctx e, (∀ id ∈ e.msgId, registrant (run l).calls .rndv id ≠ some (some b) ∧
        registrant (run l').calls .rndv id ≠ some (some b)) →
      invoked ((run l).w.since (ockRpcRndvReceiveHandler (run l).w ctx e).1) =
        invoked ((run l').w.since (ockRpcRndvReceiveHandler (run l').w ctx e).1)) := by
  have hstart : Related b {} {} :=
    ⟨inv_start, inv_start, fun _ _ _ => Iff.rfl, fun _ _ _ _ _ => Iff.rfl, rfl⟩
  have R : Related b (run l) (run l') := (agree_unwinds b).unwinding hstart hsame hok hok'
  constructor
  · intro ctx e hid
    rw [Services.invoked_receive, Services.invoked_receive]
    cases hm : e.msgId with
    | none => rfl
    | some id =>
      obtain ⟨hs, ht⟩ := hid id hm
      have h : (run l).w.gHandleMap.find id.toInt16 = (run l').w.gHandleMap.find id.toInt16 :=
        handlers_agree R hs ht
      rw [Option.bind_some, Option.bind_some, h]
  · intro ctx e hid
    rw [Services.invoked_rndvReceive, Services.invoked_rndvReceive]
    cases hm : e.msgId with
    | none => rfl
    | some id =>
      obtain ⟨hs, ht⟩ := hid id hm
      have h : (run l).w.gRndvHandleMap.find id.toInt16 = (run l').w.gRndvHandleMap.find id.toInt16 :=
        handlers_agree R hs ht
      rw [Option.bind_some, Option.bind_some, h]

section Examples

/-- A message with id 5. -/
def messageFive : ReceiveEnv :=
  { data := some fun _ => 0, dataLen := 8, ctxType := some .received, opCode := some 5 }

/-- Server 0 is created and registers handler 100 for id 5. -/
def serverA : List Label :=
  [.create 0 (Servers.namedServer "a" "8") { service := 40 }, .add (some 0) .plain 40 (some ⟨5, 100⟩)]

/-- Server 1 is created, registers handlers for the ids in `ids`, and is destroyed. -/
def serverB (ids : List UInt16) : List Label :=
  .create 1 (Servers.namedServer "b" "8") { service := 41 } ::
    ids.map (fun id => .add (some 1) .plain 41 (some ⟨id, 200⟩)) ++ [.destroy (some 1) 41 0]

theorem separate_create {s : Sys} (hs : s.w.gServiceMap = ∅) (b id : ServerId) (a : CreateArgs)
    (e : CreateEnv) (hnew : s.owner e.service = none) : Separate b s (.create id a e) := by
  refine ⟨hnew, fun _ ip configs m _ v hv => ?_⟩
  rw [hs] at hv
  cases hv

theorem serverA_ok : AllOk (Separate 1) step {} serverA :=
  ⟨separate_create rfl 1 0 _ _ rfl, rfl, trivial⟩

theorem serverAB_ok (id : UInt16) : AllOk (Separate 1) step {} (serverA ++ serverB [id]) :=
  ⟨separate_create rfl 1 0 _ _ rfl, rfl, ⟨rfl, fun h => absurd rfl h⟩, rfl, rfl, trivial⟩

/-- The second server registers another id: the message calls the handler of the first. -/
theorem handlers_per_server_two :
    invoked ((run (serverA ++ serverB [6])).w.since
        (ockRpcReceiveHandle (run (serverA ++ serverB [6])).w 7 messageFive).1) =
      invoked ((run serverA).w.since (ockRpcReceiveHandle (run serverA).w 7 messageFive).1) := by
  refine (handlers_per_server (b := 1) (serverAB_ok 6) serverA_ok rfl).1 7 messageFive ?_
  intro id hid
  cases hid
  exact ⟨by decide, by decide⟩

/-- The second server registers the same id, and is destroyed: the message still calls its handler. A
server that is created afterwards and registers nothing calls it too. -/
theorem handlers_of_other_server :
    (AllOk (Separate 1) step {} (serverA ++ serverB [5]) ∧ AllOk (Separate 1) step {} serverA ∧
      (serverA ++ serverB [5]).filter (others 1) = serverA.filter (others 1) ∧
      invoked ((run (serverA ++ serverB [5])).w.since
        (ockRpcReceiveHandle (run (serverA ++ serverB [5])).w 7 messageFive).1) = [(.plain, 200)] ∧
      invoked ((run serverA).w.since (ockRpcReceiveHandle (run serverA).w 7 messageFive).1) =
        [(.plain, 100)]) ∧
    (AllOk (Separate 1) step {} (serverB [5] ++ serverA.take 1) ∧
      AllOk (Separate 1) step {} (serverA.take 1) ∧
      (serverB [5] ++ serverA.take 1).filter (others 1) = (serverA.take 1).filter (others 1) ∧
      invoked ((run (serverB [5] ++ serverA.take 1)).w.since
        (ockRpcReceiveHandle (run (serverB [5] ++ serverA.take 1)).w 7 messageFive).1) =
        [(.plain, 200)] ∧
      invoked ((run (serverA.take 1)).w.since
        (ockRpcReceiveHandle (run (serverA.take 1)).w 7 messageFive).1) = []) := by
  refine ⟨⟨serverAB_ok 5, serverA_ok, rfl, ?_, ?_⟩, ⟨?_, ?_, rfl, ?_, ?_⟩⟩
  · rw [Services.invoked_receive]
    rfl
  · rw [Services.invoked_receive]
    rfl
  · exact ⟨⟨rfl, fun h => absurd rfl h⟩, rfl, rfl, separate_create rfl 1 0 _ _ rfl, trivial⟩
  · exact ⟨separate_create rfl 1 0 _ _ rfl, trivial⟩
  · rw [Services.invoked_receive]
    rfl
  · rw [Services.invoked_receive]
    rfl

end Examples

end PerServer

end Hcom4db
