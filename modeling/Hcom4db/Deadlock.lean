import Hcom4db.Base.LockOrder
import Hcom4db.HandlerLocks

/-!
# Hcom4db.Deadlock

When threads that call the library and receive messages come to an end. A dispatcher holds the lock of its
map while the handler runs, and a handler may add services: of its own kind it waits for itself, and a
handler of each kind that adds one of the other wait for each other.

* `call_wpOn`, `task_wpOn`: where the library takes locks.
* `finishes_iff`: all threads come to their end exactly when kinds do not add one another both ways.
-/

namespace Hcom4db

namespace HandlerLocks

open Locks Runs

/-! ## Where the library takes locks -/

section Rules

variable {may : Held Lock → Lock → Prop} {held : Held Lock} {kind : ServiceKind}

theorem lockFree_wpOn (f : World → World) : wpOn may (lockFree f) (· = held) held := fun _ => rfl

theorem destroyCode_wpOn (server : Addr) (ret : Int) (h : may held .serviceMutex) :
    wpOn may (destroyCode server ret) (· = held) held := by
  refine ⟨h, fun w => ?_⟩
  simp only [wpOn, release_cons]
  split
  · exact lockFree_wpOn _
  · rfl

theorem createCode_wpOn (a : CreateArgs) (e : CreateEnv) (h : may held .serviceMutex) :
    wpOn may (createCode a e) (· = held) held := by
  intro w
  simp only
  cases (createBegin w a e).2 with
  | none => rfl
  | some cfg =>
    obtain ⟨ip, configs, configMap⟩ := cfg
    refine wpOn_seq (wpOn_mono ?_ (wpOn_locked h (lockFree_wpOn _)))
    rintro _ rfl w
    simp only
    split
    · rfl
    · exact destroyCode_wpOn _ _ h

theorem connectCode_wpOn (a : ConnectArgs) (e : ConnectEnv) (h : may held .serviceMutex) :
    wpOn may (connectCode a e) (· = held) held := by
  unfold connectCode
  cases ockRpcCheckClientCreateCfg a with
  | none => rfl
  | some cfg =>
    obtain ⟨ip, configs⟩ := cfg
    simp only
    cases ockRpcInitConfigMap configs with
    | none => rfl
    | some configMap =>
      simp only
      split
      · rfl
      · refine ⟨h, fun w => ?_⟩
        simp only [wpOn, release_cons]
        cases w.gServiceMap.find (configuredName configMap) with
        | none => rfl
        | some service => exact lockFree_wpOn _

/-- A call takes no lock but its own, and leaves the locks as they were. -/
theorem call_wpOn {c : Call} (h : ∀ l ∈ c.locks, may held l) : wpOn may c.code (· = held) held := by
  cases c with
  | create a e => exact createCode_wpOn a e (h _ List.mem_cons_self)
  | add kind server service => exact wpOn_locked (h _ List.mem_cons_self) (lockFree_wpOn _)
  | destroy server ret => exact destroyCode_wpOn server ret (h _ List.mem_cons_self)
  | connect a e => exact connectCode_wpOn a e (h _ List.mem_cons_self)
  | _ => exact lockFree_wpOn _

/-- What a dispatch needs: its own lock first, and then those its handlers' calls take. -/
structure MayDispatch (may : Held Lock → Lock → Prop) (H : Handlers) (kind : ServiceKind) : Prop where
  enter : may [] (mutex kind)
  body : ∀ a, ∀ c ∈ H.body a, ∀ l ∈ c.locks, may [(mutex kind, .shared)] l

theorem dispatchCode_wpOn {H : Handlers} (h : MayDispatch may H kind) (id : UInt16)
    (event : Addr → Event) : wpOn may (dispatchCode H kind id event) (· = []) [] := by
  refine wpOn_locked h.enter fun w => ?_
  simp only
  cases (w.handlers kind).find id.toInt16 with
  | none => rfl
  | some a =>
    refine wpOn_seqAll fun c hc => ?_
    obtain ⟨call, hcall, rfl⟩ := List.mem_map.mp hc
    exact call_wpOn (h.body a call hcall)

theorem task_wpOn {does : ServiceKind → Set Handlers} (h0 : ∀ l, may [] l)
    (h : ∀ kind, ∀ H ∈ does kind, MayDispatch may H kind) {t : Task} (ht : t.Of does) :
    wpOn may t.code (· = []) [] := by
  cases t with
  | call c => exact call_wpOn fun l _ => h0 l
  | receive H ctx e =>
    simp only [Task.code, receiveCode]
    cases e.data with
    | none => rfl
    | some b =>
      cases e.ctxType with
      | none => rfl
      | some t =>
        cases t with
        | receivedRaw => exact fun _ => dispatchCode_wpOn (h _ H ht) _ _
        | _ =>
          cases e.opCode with
          | none => rfl
          | some opCode => exact dispatchCode_wpOn (h _ H ht) _ _
  | rndvReceive H ctx e =>
    simp only [Task.code, rndvReceiveCode]
    cases e.message with
    | none => rfl
    | some rndvMsg =>
      intro w
      cases e.ctxType with
      | none => rfl
      | some t =>
        cases e.opCode with
        | none => rfl
        | some opCode => exact dispatchCode_wpOn (h _ H ht) _ _

end Rules

/-! ## Who adds what -/

/-- A handler of one kind adds a service of another. -/
def AddsFrom (does : ServiceKind → Set Handlers) (kind kind' : ServiceKind) : Prop :=
  ∃ H ∈ does kind, ∃ a, ∃ c ∈ H.body a, c.Adds kind'

/-- An order in which the locks are taken when handlers of the kind `first` may add services. -/
def rank (first : ServiceKind) : Lock → Nat
  | .serviceMutex => 2
  | l => if l = mutex first then 0 else 1

theorem rank_mutex (first kind : ServiceKind) :
    rank first (mutex kind) = if kind = first then 0 else 1 := by
  cases first <;> cases kind <;> rfl

theorem mem_locks {c : Call} {l : Lock} (hl : l ∈ c.locks) :
    l = .serviceMutex ∨ ∃ kind, c.Adds kind ∧ l = mutex kind := by
  cases c with
  | add kind server service => exact .inr ⟨kind, rfl, List.mem_singleton.mp hl⟩
  | create a e => exact .inl (List.mem_singleton.mp hl)
  | destroy server ret => exact .inl (List.mem_singleton.mp hl)
  | connect a e => exact .inl (List.mem_singleton.mp hl)
  | _ => cases hl

/-- Handlers that add services of the other kind only, and only those of the kind `first`. -/
theorem mayDispatch_climbs {does : ServiceKind → Set Handlers} {first : ServiceKind}
    (h : ∀ kind kind', AddsFrom does kind kind' → kind = first ∧ kind' ≠ first) {kind : ServiceKind}
    {H : Handlers} (hH : H ∈ does kind) : MayDispatch (Climbs (rank first)) H kind := by
  refine ⟨fun _ hmem => (List.not_mem_nil hmem).elim, fun a c hc l hl => ?_⟩
  intro p hp
  obtain rfl := List.mem_singleton.mp hp
  have hkind : rank first (mutex kind) ≤ 1 := by
    rw [rank_mutex]
    split <;> omega
  rcases mem_locks hl with rfl | ⟨kind', hadds, rfl⟩
  · exact Nat.lt_succ_of_le hkind
  · obtain ⟨rfl, hne⟩ := h kind kind' ⟨H, hH, a, c, hc, hadds⟩
    simp [rank_mutex, hne]

theorem start_climbs {does : ServiceKind → Set Handlers} {first : ServiceKind}
    (h : ∀ kind kind', AddsFrom does kind kind' → kind = first ∧ kind' ≠ first)
    {threads : List (List Task)} (hof : ∀ tasks ∈ threads, ∀ t ∈ tasks, t.Of does) :
    AllClimb (rank first) (start threads) := by
  intro t ht
  obtain ⟨tasks, htasks, rfl⟩ := List.mem_map.mp ht
  refine wpOn_seqAll fun c hc => ?_
  obtain ⟨task, htask, rfl⟩ := List.mem_map.mp hc
  exact task_wpOn (fun l p hp => (List.not_mem_nil hp).elim) (fun kind H hH => mayDispatch_climbs h hH)
    (hof tasks htasks task htask)

/-- One kind comes first if the kinds do not add one another both ways. -/
theorem exists_first {does : ServiceKind → Set Handlers}
    (h : ∀ kind kind', AddsFrom does kind kind' → ¬ AddsFrom does kind' kind) :
    ∃ first, ∀ kind kind', AddsFrom does kind kind' → kind = first ∧ kind' ≠ first := by
  by_cases hp : AddsFrom does .plain .rndv
  · refine ⟨.plain, fun kind kind' hadds => ?_⟩
    cases kind <;> cases kind'
    · exact absurd hadds (h _ _ hadds)
    · exact ⟨rfl, nofun⟩
    · exact absurd hadds (h _ _ hp)
    · exact absurd hadds (h _ _ hadds)
  · refine ⟨.rndv, fun kind kind' hadds => ?_⟩
    cases kind <;> cases kind'
    · exact absurd hadds (h _ _ hadds)
    · exact absurd hadds hp
    · exact ⟨rfl, nofun⟩
    · exact absurd hadds (h _ _ hadds)

/-! ## Handlers that add both ways -/

/-- A thread that creates server 40 and registers a handler of each kind for id 5. -/
def registeringBoth (kind kind' : ServiceKind) (h h' : Addr) : List Task :=
  [.call (.create defaultServer { service := 40 }), .call (.add kind 40 (some ⟨5, h⟩)),
    .call (.add kind' 40 (some ⟨5, h'⟩))]

theorem registeringBoth_run {kind kind' : ServiceKind} (hne : kind ≠ kind') {h h' : Addr} (hh : h ≠ 0)
    (hh' : h' ≠ 0) :
    let w := (Code.seqAll ((registeringBoth kind kind' h h').map Task.code)).run {}
    (w.handlers kind).find (5 : UInt16).toInt16 = some h ∧
      (w.handlers kind').find (5 : UInt16).toInt16 = some h' := by
  have hadd : ∀ kind h w, (addServiceCode kind 40 (some ⟨5, h⟩)).run w =
      (addService w kind 40 (some ⟨5, h⟩)).1 := fun _ _ _ => rfl
  have hid : (5 : UInt16).toNat < maxMessageIdSize := by decide
  simp only [registeringBoth, List.map, Code.seqAll, Task.code, Call.code, Code.run_seq, Code.run,
    createCode_run, hadd]
  refine ⟨?_, addService_registers (s := ⟨5, h'⟩) ⟨?_, hid, hh'⟩⟩
  · rw [Services.addService_handlers_other hne]
    exact addService_registers (s := ⟨5, h⟩) ⟨rfl, hid, hh⟩
  · cases kind <;> rfl

theorem registeringBoth_wp (kind kind' : ServiceKind) (h h' : Addr) :
    wp (Code.seqAll ((registeringBoth kind kind' h h').map Task.code)) (· = []) [] := by
  refine wp_seqAll fun x hx => ?_
  obtain ⟨t, ht, rfl⟩ := List.mem_map.mp hx
  simp only [registeringBoth, List.mem_cons, List.not_mem_nil, or_false] at ht
  rcases ht with rfl | rfl | rfl <;> exact callTask_wp _

/-- The message comes to the dispatch without a lock, and registers nothing before it. -/
theorem messageFive_parts (H : Handlers) (kind : ServiceKind) : ∃ before event,
    (messageFive H kind).code = before.seq (dispatchCode H kind 5 event) ∧
    (∀ may : Held Lock → Lock → Prop, wpOn may before (· = []) []) ∧
    ∀ w k, (before.run w).handlers k = w.handlers k := by
  cases kind with
  | plain => exact ⟨.done, _, rfl, fun _ => rfl, fun _ _ => rfl⟩
  | rndv =>
    refine ⟨lockFree _, _, rfl, fun _ => lockFree_wpOn _, fun w k => ?_⟩
    cases k <;> rfl

theorem mutex_inj {kind kind' : ServiceKind} (h : mutex kind = mutex kind') : kind = kind' := by
  cases kind <;> cases kind' <;> first | rfl | cases h

/-- A dispatcher that has called the handler at `a`. -/
def inHandler (H : Handlers) (kind : ServiceKind) (a : Addr) : Thread Lock World :=
  ⟨(Code.seqAll ((H.body a).map Call.code)).seq (.release (mutex kind) .done), [(mutex kind, .shared)]⟩

section Cross

variable {H : Handlers} {kind kind' : ServiceKind} {x : World} {threads : List (Thread Lock World)} {i : Nat}
  {a : Addr}

/-- A dispatcher comes to the handler of its message, while the others hold other locks. -/
theorem comes_to_handler (hi : threads[i]? = some ⟨(messageFive H kind).code, []⟩)
    (hfind : (x.handlers kind).find (5 : UInt16).toInt16 = some a)
    (hothers : HoldOnly {mutex kind'} threads i) (hne : kind ≠ kind') :
    ∃ x', (∀ k, x'.handlers k = x.handlers k) ∧
      Reached Enabled step ⟨x, threads⟩ ⟨x', threads.set i (inHandler H kind a)⟩ := by
  obtain ⟨before, event, hcode, hbefore, hhandlers⟩ := messageFive_parts H kind
  rw [hcode] at hi
  obtain ⟨_, rfl, hrun⟩ := solo_apart (hbefore (Avoids {mutex kind'})) x hi hothers
  have hfind' : ((before.run x).handlers kind).find (5 : UInt16).toInt16 = some a := by
    rw [hhandlers]
    exact hfind
  have hfree : Avoids {mutex kind'} [] (mutex kind) :=
    ⟨fun _ => List.not_mem_nil, fun h => hne (mutex_inj h)⟩
  have hset := getElem?_set_of_getElem? hi (⟨dispatchCode H kind 5 event, []⟩ : Thread Lock World)
  have henter := enter_apart (x := before.run x) hset (hothers.set _) hfree
  simp only [hfind', List.set_set] at henter
  refine ⟨_, fun k => ?_, hrun.trans henter⟩
  rw [← hhandlers x k]
  cases k <;> rfl

/-- A handler that adds no service of its own kind comes to the call that adds one of the other, while the
others hold the other lock only. -/
theorem comes_to_add {c : Call} (hi : threads[i]? = some (inHandler H kind a))
    (hown : ∀ c ∈ H.body a, ¬ c.Adds kind) (hc : c ∈ H.body a) (hadds : c.Adds kind')
    (hothers : HoldOnly {mutex kind'} threads i) (hne : kind ≠ kind') :
    ∃ x' rest, Reached Enabled step ⟨x, threads⟩
      ⟨x', threads.set i ⟨.acquire (mutex kind') .exclusive rest, [(mutex kind, .shared)]⟩⟩ := by
  classical
  -- the calls before the first one that adds a service of the other kind
  obtain ⟨c, pre, post, hpre, hadds, hbody, -⟩ :=
    List.exists_of_eraseP (p := fun x => decide (Call.Adds kind' x)) hc (decide_eq_true hadds)
  obtain ⟨server, service, rfl⟩ := adds_iff.mp (of_decide_eq_true hadds)
  have hquiet : wpOn (Avoids {mutex kind'}) (Code.seqAll (pre.map Call.code))
      (· = [(mutex kind, .shared)]) [(mutex kind, .shared)] := by
    refine wpOn_seqAll fun d hd => ?_
    obtain ⟨call, hcall, rfl⟩ := List.mem_map.mp hd
    refine call_wpOn fun l hl => ?_
    rcases mem_locks hl with rfl | ⟨k, hk, rfl⟩
    · refine ⟨fun m hm => ?_, fun h => ?_⟩
      · cases kind <;> cases List.mem_singleton.mp hm
      · cases kind' <;> cases h
    · have hbk : call ∈ H.body a := by
        rw [hbody]
        exact List.mem_append_left _ hcall
      have hnk' : ¬ call.Adds kind' := fun h => hpre call hcall (decide_eq_true h)
      have hnk := hown call hbk
      cases k <;> cases kind <;> cases kind' <;> first | exact absurd hk hnk | exact absurd hk hnk' | exact absurd rfl hne
  rw [inHandler, hbody, List.map_append, Code.seqAll_append, Code.seq_assoc] at hi
  obtain ⟨_, rfl, hrun⟩ := solo_apart hquiet x hi hothers
  exact ⟨_, _, hrun⟩

end Cross

theorem holdOnly_three {busy : Set Lock} {t u v : Thread Lock World} {i : Nat}
    (ht : i ≠ 0 → ∀ h ∈ t.held, h.1 ∈ busy) (hu : i ≠ 1 → ∀ h ∈ u.held, h.1 ∈ busy)
    (hv : i ≠ 2 → ∀ h ∈ v.held, h.1 ∈ busy) : HoldOnly busy [t, u, v] i := by
  intro j w hj hw
  match j with
  | 0 =>
    cases hw
    exact ht hj.symm
  | 1 =>
    cases hw
    exact hu hj.symm
  | 2 =>
    cases hw
    exact hv hj.symm
  | j + 3 => cases hw

theorem holds_one {l : Lock} {m : Mode} : ∀ h ∈ [(l, m)], h.1 ∈ ({l} : Set Lock) := by
  intro h hh
  rw [List.mem_singleton.mp hh]
  rfl

theorem holds_none {busy : Set Lock} : ∀ h ∈ ([] : Held Lock), h.1 ∈ busy :=
  fun _ h => (List.not_mem_nil h).elim

/-- **Handlers that add services of each other's kind wait for each other**: each holds the lock of its own
map shared, and the other wants it for itself. -/
theorem reaches_cross_wait {H H' : Handlers} {kind kind' : ServiceKind} {a a' : Addr} {c c' : Call}
    (hne : kind ≠ kind') (hown : ∀ c ∈ H.body a, ¬ c.Adds kind) (hown' : ∀ c ∈ H'.body a', ¬ c.Adds kind')
    (hc : c ∈ H.body a) (hadds : c.Adds kind') (hc' : c' ∈ H'.body a') (hadds' : c'.Adds kind) :
    ∃ s rest rest', Reached Enabled step (start [registeringBoth kind kind' a a', [messageFive H kind],
        [messageFive H' kind']]) s ∧
      s.threads[1]? = some ⟨.acquire (mutex kind') .exclusive rest, [(mutex kind, .shared)]⟩ ∧
      s.threads[2]? = some ⟨.acquire (mutex kind) .exclusive rest', [(mutex kind', .shared)]⟩ := by
  have ha : a ≠ 0 := by
    rintro rfl
    rw [H.null] at hc
    cases hc
  have ha' : a' ≠ 0 := by
    rintro rfl
    rw [H'.null] at hc'
    cases hc'
  have hstart : start [registeringBoth kind kind' a a', [messageFive H kind], [messageFive H' kind']] =
      ⟨{}, [⟨(Code.seqAll ((registeringBoth kind kind' a a').map Task.code)).seq .done, []⟩,
        ⟨(messageFive H kind).code, []⟩, ⟨(messageFive H' kind').code, []⟩]⟩ := by
    simp only [start, List.map, Code.seqAll, Code.seq_done]
  -- the first thread registers both handlers
  obtain ⟨hfind, hfind'⟩ := registeringBoth_run hne ha ha'
  obtain ⟨_, rfl, hrun0⟩ := solo (registeringBoth_wp kind kind' a a') {} (i := 0) (k := .done)
    (rfl : [_, (⟨(messageFive H kind).code, []⟩ : Thread Lock World), ⟨(messageFive H' kind').code, []⟩][0]? =
      some _) (by
      intro j t hj ht
      rcases j with _ | _ | _ | j
      · exact absurd rfl hj
      · cases ht
        rfl
      · cases ht
        rfl
      · cases ht)
  generalize (Code.seqAll ((registeringBoth kind kind' a a').map Task.code)).run {} = w0 at hrun0 hfind hfind'
  -- both dispatchers come to their handlers
  obtain ⟨w1, hw1, hrun1⟩ := @comes_to_handler H kind kind' w0
    [⟨.done, []⟩, ⟨(messageFive H kind).code, []⟩, ⟨(messageFive H' kind').code, []⟩] 1 a rfl hfind
    (holdOnly_three (fun _ => holds_none) (fun h => absurd rfl h) fun _ => holds_none) hne
  rw [← hw1] at hfind'
  obtain ⟨w2, -, hrun2⟩ := @comes_to_handler H' kind' kind w1
    [⟨.done, []⟩, inHandler H kind a, ⟨(messageFive H' kind').code, []⟩] 2 a' rfl hfind'
    (holdOnly_three (fun _ => holds_none) (fun _ => holds_one) fun h => absurd rfl h) hne.symm
  -- and these to the calls that wait
  obtain ⟨w3, rest, hrun3⟩ := @comes_to_add H kind kind' w2
    [⟨.done, []⟩, inHandler H kind a, inHandler H' kind' a'] 1 a c rfl hown hc hadds
    (holdOnly_three (fun _ => holds_none) (fun h => absurd rfl h) fun _ => holds_one) hne
  obtain ⟨w4, rest', hrun4⟩ := @comes_to_add H' kind' kind w3
    [⟨.done, []⟩, ⟨.acquire (mutex kind') .exclusive rest, [(mutex kind, .shared)]⟩,
      inHandler H' kind' a'] 2 a' c' rfl hown' hc' hadds'
    (holdOnly_three (fun _ => holds_none) (fun _ => holds_one) fun h => absurd rfl h) hne.symm
  rw [hstart]
  exact ⟨_, rest, rest', (((hrun0.trans hrun1).trans hrun2).trans hrun3).trans hrun4, rfl, rfl⟩

theorem registering_of {does : ServiceKind → Set Handlers} {kind : ServiceKind} {a : Addr} {t : Task}
    (ht : t ∈ registering kind a) : t.Of does := by
  cases ht with
  | head => trivial
  | tail _ ht =>
    cases List.mem_singleton.mp ht
    trivial

theorem messageFive_of {does : ServiceKind → Set Handlers} {kind : ServiceKind} {H : Handlers}
    (hH : H ∈ does kind) : (messageFive H kind).Of does := by
  cases kind with
  | plain => exact hH
  | rndv => exact hH

/-- **When everything comes to its end.** Whatever the threads are asked to do and in whatever order they go
on, all of them come to their end, exactly when no two kinds of handlers add services of each other's kind
(and none one of its own). As in `dispatchCode`, `unlock` by a thread that shares a lock ends its own hold and
no other. -/
theorem finishes_iff (does : ServiceKind → Set Handlers) :
    (∀ threads : List (List Task), (∀ tasks ∈ threads, ∀ t ∈ tasks, t.Of does) →
      Finishes (start threads)) ↔
    ∀ kind kind', AddsFrom does kind kind' → ¬ AddsFrom does kind' kind := by
  constructor
  · intro h
    -- a handler of its own kind
    have hown : ∀ kind, ∀ H ∈ does kind, ∀ a, ∀ c ∈ H.body a, ¬ c.Adds kind := by
      intro kind H hH a c hc hadds
      obtain ⟨s, hrun, t, rest, ht, hcode, hheld⟩ := reaches_self_wait hc hadds
      have hof : ∀ tasks ∈ [registering kind a, [messageFive H kind]], ∀ t ∈ tasks, t.Of does := by
        intro tasks htasks t ht
        rcases List.mem_cons.mp htasks with rfl | htasks
        · exact registering_of ht
        · cases List.mem_singleton.mp htasks
          cases List.mem_singleton.mp ht
          exact messageFive_of hH
      refine not_finishes_of_stuck (fun hd => ?_) (fun s' h' => selfWait_forever ht hcode hheld h')
        ((h _ hof).reached hrun)
      rw [Thread.Done, hcode] at hd
      cases hd
    rintro kind kind' ⟨H, hH, a, c, hc, hadds⟩ ⟨H', hH', a', c', hc', hadds'⟩
    have hne : kind ≠ kind' := by
      rintro rfl
      exact hown _ H hH a c hc hadds
    obtain ⟨s, rest, rest', hrun, ht, hu⟩ := reaches_cross_wait hne (hown _ H hH a) (hown _ H' hH' a') hc
      hadds hc' hadds'
    have hof : ∀ tasks ∈ [registeringBoth kind kind' a a', [messageFive H kind], [messageFive H' kind']],
        ∀ t ∈ tasks, t.Of does := by
      intro tasks htasks t ht
      simp only [List.mem_cons, List.not_mem_nil, or_false] at htasks
      rcases htasks with rfl | rfl | rfl
      · simp only [registeringBoth, List.mem_cons, List.not_mem_nil, or_false] at ht
        rcases ht with rfl | rfl | rfl <;> trivial
      · cases List.mem_singleton.mp ht
        exact messageFive_of hH
      · cases List.mem_singleton.mp ht
        exact messageFive_of hH'
    refine not_finishes_of_stuck (fun hd => ?_) (fun s' h' => (crossWait_forever ht hu rfl rfl
      List.mem_cons_self List.mem_cons_self h').1) ((h _ hof).reached hrun)
    rw [Thread.Done] at hd
    cases hd
  · intro h threads hof
    obtain ⟨first, hfirst⟩ := exists_first h
    exact finishes_of_climbs (start_climbs hfirst hof)

end HandlerLocks

end Hcom4db
