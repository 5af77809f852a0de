import Hcom4db.Base.Races
import Hcom4db.LockDiscipline

/-!
# Hcom4db.DataRaces

What the broken lock discipline of `LockDiscipline` comes to when threads interleave: which of the three
registries are raced for, depending on the functions that are called, and which of them stay as they are
while a thread shares their lock, as a dispatch does for as long as its handler runs.

* `MayDo`, `MayChange`: where the functions access the registries and change them, and under which locks.
* `data_races_iff`: the calls that can be made without a race.
* `frozen_iff`: the calls that leave a registry as it is while its lock is shared.
-/

namespace Hcom4db

namespace LockDiscipline

open Locks HandlerLocks

/-! ## Kinds of calls -/

inductive CallKind where
  | create
  | add (kind : ServiceKind)
  | destroy
  | connect
  /-- Takes no lock and touches no registry. -/
  | quiet

def callKind : Call → CallKind
  | .create _ _ => .create
  | .add kind _ _ => .add kind
  | .destroy _ _ => .destroy
  | .connect _ _ => .connect
  | _ => .quiet

/-- The task, and what its handlers do, makes calls of these kinds only. -/
def Uses (kinds : Set CallKind) : Task → Prop
  | .call c => callKind c ∈ kinds
  | .receive H _ _ => ∀ h, ∀ c ∈ H.body h, callKind c ∈ kinds
  | .rndvReceive H _ _ => ∀ h, ∀ c ∈ H.body h, callKind c ∈ kinds

/-- Threads that do their tasks one after the other. -/
def crew (w : World) (threads : List (List Task)) : Crew Lock Registry World :=
  ⟨w, threads.map fun tasks => ⟨Prog.seqAll (tasks.map prog), []⟩⟩

/-- Without the accesses, these are the threads of `HandlerLocks`. -/
theorem crew_plain (threads : List (List Task)) : (crew {} threads).plain = start threads := by
  simp only [crew, Crew.plain, start, List.map_map, Sys.mk.injEq, true_and]
  refine List.map_congr_left fun tasks _ => ?_
  have hcode : (tasks.map prog).map Prog.forget = tasks.map Task.code := by
    rw [List.map_map]
    exact List.map_congr_left fun t _ => forget_prog t
  rw [Function.comp_apply, Worker.plain, Prog.forget_seqAll, hcode]

/-! ## Where the registries are accessed -/

/-- The accesses of a call that starts with the locks `base`, and the locks that are held there. -/
inductive MayDo (base : Held Lock) : CallKind → Held Lock → LockEvent Lock Registry → Prop where
  /-- The name of a new server is searched and entered under the shared lock. -/
  | insert {e : LockEvent Lock Registry} (he : e = .read .gServiceMap ∨ e = .write .gServiceMap) :
      MayDo base .create ((.serviceMutex, .shared) :: base) e
  /-- A server is destroyed, also by the create that failed. -/
  | destroy {kind : CallKind} {e : LockEvent Lock Registry} (hkind : kind = .create ∨ kind = .destroy)
      (he : e = .read .gServiceMap ∨ e = .write .gServiceMap) :
      MayDo base kind ((.serviceMutex, .exclusive) :: base) e
  /-- The server of a service is searched under the lock of the services. -/
  | search (kind : ServiceKind) :
      MayDo base (.add kind) ((mutex kind, .exclusive) :: base) (.read .gServiceMap)
  | register (kind : ServiceKind) {e : LockEvent Lock Registry}
      (he : e = .read (handleMap kind) ∨ e = .write (handleMap kind)) :
      MayDo base (.add kind) ((mutex kind, .exclusive) :: base) e
  | lookup : MayDo base .connect ((.serviceMutex, .shared) :: base) (.read .gServiceMap)
  /-- The entry that was found is read after the release. -/
  | dereference : MayDo base .connect base (.read .gServiceMap)

/-- How a call that starts with the locks `base` changes the registries, and the locks that are held there. -/
inductive MayChange (base : Held Lock) : CallKind → Held Lock → (World → World) → Prop where
  | nothing {kind : CallKind} {held : Held Lock} {f : World → World}
      (hf : ∀ w x, content x (f w) = content x w) : MayChange base kind held f
  /-- A new server is entered under the shared lock. -/
  | insert {f : World → World} (hf : ∀ w x, x ≠ .gServiceMap → content x (f w) = content x w) :
      MayChange base .create ((.serviceMutex, .shared) :: base) f
  | destroy {kind : CallKind} {f : World → World} (hkind : kind = .create ∨ kind = .destroy)
      (hf : ∀ w x, x ≠ .gServiceMap → content x (f w) = content x w) :
      MayChange base kind ((.serviceMutex, .exclusive) :: base) f
  | register (kind : ServiceKind) {f : World → World}
      (hf : ∀ w x, x ≠ handleMap kind → content x (f w) = content x w) :
      MayChange base (.add kind) ((mutex kind, .exclusive) :: base) f

section Accesses

variable {ok : Held Lock → LockEvent Lock Registry → Prop} {may : Held Lock → (World → World) → Prop}
  {base : Held Lock}

theorem quiet_wpAt {f : World → World} (hf : may base f) : wpAt ok may (quiet f) (· = base) base :=
  ⟨hf, fun _ => rfl⟩

theorem destroyLocked_content (server : Addr) (ret : Int) (w : World) (x : Registry) (hx : x ≠ .gServiceMap) :
    content x (destroyLocked w server ret) = content x w := by
  unfold destroyLocked
  cases serviceKey w server with
  | none => rfl
  | some name =>
    simp only
    split
    · rw [content_emit, content_emit]
    · cases x with
      | gServiceMap => exact absurd rfl hx
      | gHandleMap => rfl
      | gRndvHandleMap => rfl

theorem destroy_wpAt {kind : CallKind} (hkind : kind = .create ∨ kind = .destroy) (server : Addr) (ret : Int)
    (h : ∀ held e, MayDo base kind held e → ok held e)
    (hmay : ∀ held f, MayChange base kind held f → may held f) :
    wpAt ok may (destroyProg server ret) (· = base) base := by
  refine ⟨h _ _ (.destroy hkind (.inl rfl)), hmay _ _ (.destroy hkind (destroyLocked_content server ret)), fun w => ?_⟩
  simp only [destroyEvents]
  cases serviceKey w server with
  | none => simp [Prog.events, wpAt]
  | some name =>
    by_cases hret : ret = ockRpcOk
    · simp only [hret, ne_eq, not_true_eq_false, if_false, Option.isSome_some, and_self, if_true]
      refine ⟨h _ _ (.destroy hkind (.inr rfl)), ?_⟩
      simp only [List.foldr, wpAt, release_cons]
      exact quiet_wpAt (hmay _ _ (.nothing fun w x => by cases x <;> rfl))
    · simp [Prog.events, wpAt, hret]

theorem addService_content (kind : ServiceKind) (server : Addr) (service : Option OckRpcService) (w : World)
    (x : Registry) (hx : x ≠ handleMap kind) : content x (addService w kind server service).1 = content x w := by
  cases x with
  | gServiceMap => exact content_of_message (addService_frame w kind server _)
  | gHandleMap =>
    cases kind with
    | plain => exact absurd rfl hx
    | rndv => rfl
  | gRndvHandleMap =>
    cases kind with
    | plain => rfl
    | rndv => exact absurd rfl hx

theorem add_wpAt (kind : ServiceKind) (server : Addr) (service : Option OckRpcService)
    (h : ∀ held e, MayDo base (.add kind) held e → ok held e)
    (hmay : ∀ held f, MayChange base (.add kind) held f → may held f) :
    wpAt ok may (addServiceProg kind server service) (· = base) base := by
  refine ⟨h _ _ (.search kind), hmay _ _ (.register kind (addService_content kind server service)), fun w => ?_⟩
  have hrelease : wpAt ok may (.events [.release (mutex kind) .exclusive] .done : LockProg) (· = base)
      ((mutex kind, .exclusive) :: base) := by
    simp [Prog.events, wpAt]
  simp only [addServiceEvents]
  cases serviceKey w server with
  | none => exact hrelease
  | some name =>
    cases service with
    | none => exact hrelease
    | some service =>
      simp only
      split
      · exact hrelease
      · split
        · exact hrelease
        · exact ⟨h _ _ (.register kind (.inl rfl)), h _ _ (.register kind (.inr rfl)), hrelease⟩

theorem insertService_content (configMap : ConfigMap) (service : Addr) (w : World) (x : Registry)
    (hx : x ≠ .gServiceMap) : content x (insertService w configMap service) = content x w := by
  cases x with
  | gServiceMap => exact absurd rfl hx
  | _ => rfl

theorem insert_wpAt (configMap : ConfigMap) (service : Addr)
    (h : ∀ held e, MayDo base .create held e → ok held e)
    (hmay : ∀ held f, MayChange base .create held f → may held f) :
    wpAt ok may (insertProg configMap service) (· = base) base := by
  refine ⟨h _ _ (.insert (.inl rfl)), hmay _ _ (.insert (insertService_content configMap service)), fun w => ?_⟩
  simp only [insertEvents]
  cases w.gServiceMap.find (configuredName configMap) with
  | some server => simp [Prog.events, wpAt]
  | none =>
    refine ⟨h _ _ (.insert (.inr rfl)), ?_⟩
    simp [wpAt]

theorem create_wpAt (a : CreateArgs) (e : CreateEnv)
    (h : ∀ held e, MayDo base .create held e → ok held e)
    (hmay : ∀ held f, MayChange base .create held f → may held f) :
    wpAt ok may (createProg a e) (· = base) base := by
  refine ⟨hmay _ _ (.nothing fun w x => createBegin_content w a e x), fun w => ?_⟩
  simp only
  split
  · rfl
  · refine wpAt_seq (wpAt_mono ?_ (insert_wpAt _ _ h hmay))
    rintro _ rfl
    refine ⟨hmay _ _ (.nothing fun w x => ?_), fun w => ?_⟩
    · exact content_of_registers (initOptions_registers w a _ _ _ _) x
    · simp only
      split
      · rfl
      · exact destroy_wpAt (.inl rfl) _ _ h hmay

theorem connectTo_content (a : ConnectArgs) (ip : CStr) (m : ConfigMap) (service : Addr) (e : ConnectEnv)
    (w : World) (x : Registry) : content x (connectTo w a ip m service e).1 = content x w := by
  unfold connectTo
  cases ockRpcSetConnectionOption m with
  | none => rfl
  | some flags =>
    simp only
    split
    · rfl
    · have hpool : content x (ockRpcPrepareMemAllocator (w.emit (.channelConnect service e.channel
          { ip := ip, port := a.port, payLoad := configuredPayLoad m, epSize := 1, flags := flags }))
          service e.channel m e).1 = content x w := by
        rcases prepareMemAllocator_cases (w.emit _) service e.channel m e with ⟨evs, st, h, -, -⟩ | ⟨option, h⟩
        · rw [h]
          cases x <;> rfl
        · rw [h]
          cases x <;> rfl
      split
      · exact hpool
      · exact hpool

theorem connect_wpAt (a : ConnectArgs) (e : ConnectEnv)
    (h : ∀ held e, MayDo base .connect held e → ok held e)
    (hmay : ∀ held f, MayChange base .connect held f → may held f) :
    wpAt ok may (connectProg a e) (· = base) base := by
  unfold connectProg
  split
  · rfl
  · split
    · rfl
    · split
      · rfl
      · refine ⟨h _ _ .lookup, hmay _ _ (.nothing fun w x => rfl), fun w => ?_⟩
        simp only [getCurServiceEvents]
        cases w.gServiceMap.find (configuredName _) with
        | none => simp [Prog.events, wpAt]
        | some service =>
          simp only [Prog.events, List.foldr, wpAt, release_cons]
          exact ⟨h _ _ .dereference, quiet_wpAt (hmay _ _ (.nothing fun w x => connectTo_content ..))⟩

/-- A call accesses the registries where `MayDo` says, changes them as `MayChange` says, and leaves the locks as
they were. -/
theorem call_wpAt {c : Call} (hc : CallWithin c) (h : ∀ held e, MayDo base (callKind c) held e → ok held e)
    (hmay : ∀ held f, MayChange base (callKind c) held f → may held f) :
    wpAt ok may (callProg c) (· = base) base := by
  cases c with
  | create a e => exact create_wpAt a e h hmay
  | add kind server service => exact add_wpAt kind server service h hmay
  | start server ret => exact quiet_wpAt (hmay _ _ (.nothing fun w x => content_emit w _ x))
  | destroy server ret => exact destroy_wpAt (.inr rfl) server ret h hmay
  | connect a e => exact connect_wpAt a e h hmay
  | disconnect client ret =>
    exact quiet_wpAt (hmay _ _ (.nothing fun w x => content_of_client (disconnect_frame w client ret) x))
  | setTimeout client timeout => exact quiet_wpAt (hmay _ _ (.nothing fun w x => by cases x <;> rfl))
  | submit op done e =>
    exact quiet_wpAt (hmay _ _ (.nothing fun w x => content_of_call (op.submit_callFrame w done e) x))
  | other f => exact quiet_wpAt (hmay _ _ (.nothing hc))

variable {kinds : Set CallKind}

/-- What the accesses and the changes of some kinds of calls are allowed. -/
structure Allows (ok : Held Lock → LockEvent Lock Registry → Prop) (may : Held Lock → (World → World) → Prop)
    (kinds : Set CallKind) : Prop where
  read : ∀ kind, ok [(mutex kind, .shared)] (.read (handleMap kind))
  access : ∀ base, ∀ k ∈ kinds, ∀ held e, MayDo base k held e → ok held e
  change : ∀ base, ∀ k ∈ kinds, ∀ held f, MayChange base k held f → may held f
  emit : ∀ held f, (∀ w x, content x (f w) = content x w) → may held f

theorem dispatch_wpAt (A : Allows ok may kinds) {H : Handlers} {kind : ServiceKind}
    (hH : ∀ a, ∀ c ∈ H.body a, CallWithin c ∧ callKind c ∈ kinds) (id : UInt16) (event : Addr → Event) :
    wpAt ok may (dispatchProg H kind id event) (· = []) [] := by
  refine ⟨A.read kind, A.emit _ _ fun w x => ?_, fun w => ?_⟩
  · split
    · exact content_emit w _ x
    · rfl
  have hrelease : wpAt ok may (.event (.release (mutex kind) .exclusive) .done : LockProg) (· = [])
      [(mutex kind, .shared)] := by
    simp [wpAt]
  simp only
  cases (w.handlers kind).find id.toInt16 with
  | none => exact hrelease
  | some a =>
    have hbody : wpAt ok may (Prog.seqAll ((H.body a).map callProg)) (· = [(mutex kind, .shared)])
        [(mutex kind, .shared)] := by
      refine wpAt_seqAll fun p hp => ?_
      obtain ⟨c, hc, rfl⟩ := List.mem_map.mp hp
      obtain ⟨hin, hkind⟩ := hH a c hc
      exact call_wpAt hin (A.access _ _ hkind) (A.change _ _ hkind)
    refine ⟨A.read kind, wpAt_seq (wpAt_mono ?_ hbody)⟩
    rintro _ rfl
    exact hrelease

/-- A task accesses the registries where its dispatch does, and where the calls it makes do. -/
theorem task_wpAt (A : Allows ok may kinds) {t : Task} (hin : Within t) (ht : Uses kinds t) :
    wpAt ok may (prog t) (· = []) [] := by
  cases t with
  | call c => exact call_wpAt hin (A.access _ _ ht) (A.change _ _ ht)
  | receive H ctx e =>
    have hH : ∀ a, ∀ c ∈ H.body a, CallWithin c ∧ callKind c ∈ kinds := fun a c hc => ⟨hin a c hc, ht a c hc⟩
    simp only [prog, receiveProg]
    split
    · rfl
    · split
      · rfl
      · exact ⟨A.emit _ _ fun w x => content_emit w _ x, fun w => dispatch_wpAt A hH _ _⟩
      · split
        · rfl
        · exact dispatch_wpAt A hH _ _
  | rndvReceive H ctx e =>
    have hH : ∀ a, ∀ c ∈ H.body a, CallWithin c ∧ callKind c ∈ kinds := fun a c hc => ⟨hin a c hc, ht a c hc⟩
    simp only [prog, rndvReceiveProg]
    split
    · rfl
    · refine ⟨A.emit _ _ fun w x => ?_, fun w => ?_⟩
      · split
        · exact content_emit w _ x
        · rfl
      · split
        · rfl
        · split
          · rfl
          · exact dispatch_wpAt A hH _ _

theorem crew_wpAt (A : Allows ok may kinds) {w : World} {threads : List (List Task)}
    (hof : ∀ tasks ∈ threads, ∀ t ∈ tasks, Within t ∧ Uses kinds t) :
    ∀ t ∈ (crew w threads).workers, wpAt ok may t.prog (· = []) t.held := by
  intro t ht
  obtain ⟨tasks, htasks, rfl⟩ := List.mem_map.mp ht
  refine wpAt_seqAll fun p hp => ?_
  obtain ⟨task, htask, rfl⟩ := List.mem_map.mp hp
  obtain ⟨hin, huses⟩ := hof tasks htasks task htask
  exact task_wpAt A hin huses

end Accesses

/-! ## No race -/

section NoRace

variable {kinds : Set CallKind} {w : World} {threads : List (List Task)} {c : Crew Lock Registry World}
  {x : Registry}

theorem crew_held : ∀ t ∈ (crew w threads).workers, t.held = [] := by
  intro t ht
  obtain ⟨tasks, -, rfl⟩ := List.mem_map.mp ht
  rfl

theorem handleMap_guard (kind : ServiceKind) : guard (handleMap kind) = mutex kind := by
  cases kind <;> rfl

theorem handleMap_ne_gServiceMap (kind : ServiceKind) : handleMap kind ≠ .gServiceMap := by
  cases kind <;> simp [handleMap]

/-- A dispatch reads the services under their lock. -/
theorem guarded_dispatch (kind : ServiceKind) :
    Guarded guard x [(mutex kind, .shared)] (.read (handleMap kind)) := by
  refine guarded_read ?_
  rintro rfl
  exact ⟨.shared, by simp [handleMap_guard]⟩

/-- The services are accessed under their locks. -/
theorem guarded_handleMap (hx : x ≠ .gServiceMap) {base held : Held Lock} {k : CallKind}
    {e : LockEvent Lock Registry} (h : MayDo base k held e) : Guarded guard x held e := by
  have hne : ∀ {e : LockEvent Lock Registry}, e = .read .gServiceMap ∨ e = .write .gServiceMap →
      Guarded guard x held e := by
    rintro e (rfl | rfl)
    · exact guarded_read fun he => absurd he.symm hx
    · exact guarded_write fun he => absurd he.symm hx
  cases h with
  | insert he => exact hne he
  | destroy _ he => exact hne he
  | search kind => exact hne (.inl rfl)
  | lookup => exact hne (.inl rfl)
  | dereference => exact hne (.inl rfl)
  | register kind he =>
    rcases he with rfl | rfl
    · refine guarded_read ?_
      rintro rfl
      exact ⟨.exclusive, by simp [handleMap_guard]⟩
    · refine guarded_write ?_
      rintro rfl
      simp [handleMap_guard]

/-- Among destroys, the servers are accessed under their lock. -/
theorem guarded_destroy (hcreate : .create ∉ kinds) (hadd : ∀ kind, .add kind ∉ kinds)
    (hconnect : .connect ∉ kinds) {base held : Held Lock} {k : CallKind} (hk : k ∈ kinds)
    {e : LockEvent Lock Registry} (h : MayDo base k held e) : Guarded guard .gServiceMap held e := by
  cases h with
  | insert => exact absurd hk hcreate
  | search kind => exact absurd hk (hadd kind)
  | register kind => exact absurd hk (hadd kind)
  | lookup => exact absurd hk hconnect
  | dereference => exact absurd hk hconnect
  | destroy _ he =>
    rcases he with rfl | rfl
    · exact guarded_read fun _ => ⟨.exclusive, by simp [guard]⟩
    · exact guarded_write fun _ => by simp [guard]

/-- Only creates and destroys write the servers. -/
theorem unwritten_of_no_destroy (hcreate : .create ∉ kinds) (hdestroy : .destroy ∉ kinds) {base held : Held Lock}
    {k : CallKind} (hk : k ∈ kinds) {e : LockEvent Lock Registry} (h : MayDo base k held e) :
    Unwritten .gServiceMap held e := by
  cases h with
  | insert => exact absurd hk hcreate
  | search kind => exact fun hw => by cases hw
  | lookup => exact fun hw => by cases hw
  | dereference => exact fun hw => by cases hw
  | register kind he =>
    rcases he with rfl | rfl
    · exact fun hw => by cases hw
    · exact fun hw => handleMap_ne_gServiceMap kind (LockEvent.write.inj hw)
  | destroy hkind =>
    rcases hkind with rfl | rfl
    · exact absurd hk hcreate
    · exact absurd hk hdestroy

theorem no_race (hof : ∀ tasks ∈ threads, ∀ t ∈ tasks, Within t ∧ Uses kinds t)
    (h : x = .gServiceMap → .create ∉ kinds ∧
      (.destroy ∈ kinds → (∀ kind, .add kind ∉ kinds) ∧ .connect ∉ kinds))
    (hrun : (crew w threads).Reaches c) : ¬ Race c x := by
  by_cases hx : x = .gServiceMap
  · obtain ⟨hcreate, hdestroy⟩ := h hx
    rw [hx]
    by_cases hd : .destroy ∈ kinds
    · obtain ⟨hadd, hconnect⟩ := hdestroy hd
      have A : Allows (Guarded guard .gServiceMap) (fun _ _ => True) kinds :=
        ⟨guarded_dispatch, fun _ _ hk _ _ => guarded_destroy hcreate hadd hconnect hk, fun _ _ _ _ _ _ => trivial,
          fun _ _ _ => trivial⟩
      exact no_race_of_guarded (crew_wpAt A hof) crew_held hrun
    · have A : Allows (Unwritten .gServiceMap) (fun _ _ => True) kinds :=
        ⟨fun _ hw => (by cases hw), fun _ _ hk _ _ => unwritten_of_no_destroy hcreate hd hk,
          fun _ _ _ _ _ _ => trivial, fun _ _ _ => trivial⟩
      exact no_race_of_unwritten (crew_wpAt A hof) hrun
  · have A : Allows (Guarded guard x) (fun _ _ => True) kinds :=
      ⟨guarded_dispatch, fun _ _ _ _ _ => guarded_handleMap hx, fun _ _ _ _ _ _ => trivial,
        fun _ _ _ => trivial⟩
    exact no_race_of_guarded (crew_wpAt A hof) crew_held hrun

end NoRace

/-! ## Races -/

/-- Two creates search the servers together, and the first one enters its server while the second one looks. -/
theorem race_of_creates : ∃ c, (crew {} [[.call (.create defaultServer { service := 40 })],
    [.call (.create defaultServer { service := 41 })]]).Reaches c ∧ Race c .gServiceMap := by
  refine ⟨_, Runs.Reached.extend (l := [0, 0, 0, 0, 1, 1]) .refl ⟨rfl, rfl, rfl, rfl, rfl, rfl, trivial⟩, ?_⟩
  exact ⟨0, 1, _, _, by decide, rfl, rfl, ⟨_, rfl⟩, .inl ⟨_, rfl⟩⟩

/-- A server is destroyed while a registration searches the servers. -/
theorem race_of_add (kind : ServiceKind) : ∃ c, (crew oneService [[.call (.destroy 40 0)],
    [.call (.add kind 40 none)]]).Reaches c ∧ Race c .gServiceMap := by
  refine ⟨_, Runs.Reached.extend (l := [0, 0, 0, 1]) .refl ⟨rfl, rfl, rfl, ?_, trivial⟩, ?_⟩
  · cases kind <;> rfl
  · exact ⟨0, 1, _, _, by decide, rfl, rfl, ⟨_, rfl⟩, .inl ⟨_, rfl⟩⟩

/-- A server is destroyed while a connect reads the entry it has found. -/
theorem race_of_connect : ∃ c, (crew oneService [[.call (.destroy 40 0)],
    [.call (.connect defaultConnect (connectEnv 50 60))]]).Reaches c ∧ Race c .gServiceMap := by
  refine ⟨_, Runs.Reached.extend (l := [1, 1, 1, 1, 0, 0, 0]) .refl
    ⟨rfl, rfl, rfl, rfl, rfl, rfl, rfl, trivial⟩, ?_⟩
  exact ⟨0, 1, _, _, by decide, rfl, rfl, ⟨_, rfl⟩, .inl ⟨_, rfl⟩⟩

theorem uses_two {kinds : Set CallKind} {c d : Call} (hc : callKind c ∈ kinds) (hd : callKind d ∈ kinds)
    (hc' : CallWithin c) (hd' : CallWithin d) :
    ∀ tasks ∈ [[Task.call c], [Task.call d]], ∀ t ∈ tasks, Within t ∧ Uses kinds t := by
  intro tasks htasks t ht
  rcases List.mem_cons.mp htasks with rfl | htasks
  · cases List.mem_singleton.mp ht
    exact ⟨hc', hc⟩
  · cases List.mem_singleton.mp htasks
    cases List.mem_singleton.mp ht
    exact ⟨hd', hd⟩

/-- **Data races.** Threads that make calls of some kinds, themselves or in the handlers they dispatch to,
never race for the tables of services. They never race for the table of servers exactly when they create no
server and, if they destroy one, neither add services nor connect. As in `dispatchProg`, `unlock` by a thread
that shares a lock ends its own hold and no other. -/
theorem data_races_iff (kinds : Set CallKind) (x : Registry) :
    (∀ w threads, (∀ tasks ∈ threads, ∀ t ∈ tasks, Within t ∧ Uses kinds t) →
      ∀ c, (crew w threads).Reaches c → ¬ Race c x) ↔
    (x = .gServiceMap → .create ∉ kinds ∧
      (.destroy ∈ kinds → (∀ kind, .add kind ∉ kinds) ∧ .connect ∉ kinds)) := by
  constructor
  · rintro h rfl
    refine ⟨fun hcreate => ?_, fun hdestroy => ⟨fun kind hadd => ?_, fun hconnect => ?_⟩⟩
    · obtain ⟨c, hrun, hrace⟩ := race_of_creates
      refine h _ _ ?_ c hrun hrace
      exact uses_two hcreate hcreate trivial trivial
    · obtain ⟨c, hrun, hrace⟩ := race_of_add kind
      refine h _ _ ?_ c hrun hrace
      exact uses_two hdestroy hadd trivial trivial
    · obtain ⟨c, hrun, hrace⟩ := race_of_connect
      refine h _ _ ?_ c hrun hrace
      exact uses_two hdestroy hconnect trivial trivial
  · intro h w threads hof c hrun
    exact no_race hof h hrun

/-! ## While a lock is shared -/

section Frozen

variable {kinds : Set CallKind} {x : Registry}

/-- The services are changed under their exclusive lock. -/
theorem changedUnder_handleMap (hx : x ≠ .gServiceMap) {base held : Held Lock} {k : CallKind}
    {f : World → World} (h : MayChange base k held f) : ChangedUnder (guard x) (content x) held f := by
  cases h with
  | nothing hf => exact .inl fun w => hf w x
  | insert hf => exact .inl fun w => hf w x hx
  | destroy _ hf => exact .inl fun w => hf w x hx
  | register kind hf =>
    by_cases hkind : x = handleMap kind
    · subst hkind
      exact .inr (by simp [handleMap_guard])
    · exact .inl fun w => hf w x hkind

/-- Only a create changes the servers without their exclusive lock. -/
theorem changedUnder_gServiceMap (hcreate : .create ∉ kinds) {base held : Held Lock} {k : CallKind}
    (hk : k ∈ kinds) {f : World → World} (h : MayChange base k held f) :
    ChangedUnder (guard .gServiceMap) (content .gServiceMap) held f := by
  cases h with
  | nothing hf => exact .inl fun w => hf w _
  | insert => exact absurd hk hcreate
  | destroy _ _ => exact .inr (by simp [guard])
  | register kind hf => exact .inl fun w => hf w _ (handleMap_ne_gServiceMap kind).symm

theorem changes_allowed (h : x = .gServiceMap → .create ∉ kinds) :
    Allows (fun _ _ => True) (ChangedUnder (guard x) (content x)) kinds where
  read _ := trivial
  access _ _ _ _ _ _ := trivial
  change base k hk held f hf := by
    by_cases hx : x = .gServiceMap
    · subst hx
      exact changedUnder_gServiceMap (h rfl) hk hf
    · exact changedUnder_handleMap hx hf
  emit _ _ hf := .inl fun w => hf w x

/-- A create enters its server while another one, that is still looking for its name, shares the lock. -/
theorem changed_by_create : ∃ c c', (crew {} [[.call (.create defaultServer { service := 40 })],
      [.call (.create defaultServer { service := 41 })]]).Reaches c ∧
    Crew.ReachesSharing 0 .serviceMutex c c' ∧
    content .gServiceMap c'.state ≠ content .gServiceMap c.state := by
  refine ⟨_, _, Runs.Reached.extend (l := [0, 0]) .refl ⟨rfl, rfl, trivial⟩,
    Runs.Reached.extend (l := [1, 1, 1, 1]) .refl ⟨⟨rfl, _, rfl, ?_⟩, ⟨rfl, _, rfl, ?_⟩, ⟨rfl, _, rfl, ?_⟩,
      ⟨rfl, _, rfl, ?_⟩, trivial⟩, ?_⟩
  · exact List.mem_cons_self
  · exact List.mem_cons_self
  · exact List.mem_cons_self
  · exact List.mem_cons_self
  · intro h
    have hfind := congrArg (fun m : StdMap CStr Addr => m.find (cstr "service")) h
    exact absurd hfind (by decide)

/-- **What a shared lock keeps.** While a thread shares the lock of a table of services, as every dispatch does
for as long as its handler runs, no thread changes that table. The table of servers stays as it is under its
shared lock exactly when no server is created. As in `dispatchProg`, `unlock` by a thread that shares a lock
ends its own hold and no other. -/
theorem frozen_iff (kinds : Set CallKind) (x : Registry) :
    (∀ w threads, (∀ tasks ∈ threads, ∀ t ∈ tasks, Within t ∧ Uses kinds t) →
      ∀ c c' i, (crew w threads).Reaches c → Crew.ReachesSharing i (guard x) c c' →
        content x c'.state = content x c.state) ↔
    (x = .gServiceMap → .create ∉ kinds) := by
  constructor
  · rintro h rfl hcreate
    obtain ⟨c, c', h0, hrun, hne⟩ := changed_by_create
    refine hne (h _ _ ?_ c c' 0 h0 hrun)
    exact uses_two hcreate hcreate trivial trivial
  · intro h w threads hof c c' i h0 hrun
    exact frozen_while_held (crew_wpAt (changes_allowed h) hof) crew_held h0 hrun

end Frozen

end LockDiscipline

end Hcom4db
