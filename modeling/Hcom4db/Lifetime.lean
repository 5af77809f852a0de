import Hcom4db.Batches

/-!
# Hcom4db.Lifetime

Where the blocks of calls go back to, over runs of connects, calls, completions and disconnects in any
order. A disconnect is four steps (`disconnect_run`), so that a completion may run between two of them
or while the channel is being closed.

A call finds the allocator of its client by the handle when it takes its blocks, and its completion
finds it again when it gives them back.

* `Inv`: every request that is owed and no orphan holds blocks of the allocator its client has.
* `blocks_go_home`: in a run in which no orphan gives blocks back, every block goes back to the
  allocator that handed it out, while that is alive.
-/

namespace Hcom4db

namespace Lifetime

open Arena Runs

/-- A call whose completion is owed. -/
structure Request where
  cb : ChannelCallback
  client : Addr
  /-- The blocks the call has taken. -/
  blocks : List Addr
  /-- Their allocator has been destroyed, or the entry of the client erased. -/
  orphan : Bool := false

structure Sys where
  w : World
  owed : List Request := []

inductive Label where
  | connect (a : ConnectArgs) (e : ConnectEnv)
  | call (params : Option OckRpcClientCallParams) (e : SubmitEnv)
  | complete (k : Nat) (c : Completion)
  | destroy (client : Addr) (ret : Int)
  | erase (client : Addr)
  | release (client : Addr)
  | close (client : Addr)

/-- The requests that `p` holds of become orphans. -/
def orphaned (p : Request → Bool) (owed : List Request) : List Request :=
  owed.map fun r => { r with orphan := r.orphan || p r }

def step (s : Sys) : Label → Sys
  | .connect a e => { s with w := (ockRpcClientConnectWithCfg s.w a e).1 }
  | .call none e => { s with w := (ockRpcClientCallWithParam s.w none e).1 }
  | .call (some params) e =>
    let w := (ockRpcClientCallWithParam s.w (some params) e).1
    { w := w
      owed := s.owed ++ (w.inflight.drop s.w.inflight.length).map fun cb =>
        { cb := cb, client := params.client, blocks := taken (s.w.since w) } }
  | .complete k c =>
    match s.owed[k]? with
    | none => s
    | some r => { w := runCallback (dequeue s.w k) r.cb c, owed := s.owed.eraseIdx k }
  | .destroy client ret =>
    { w := destroyAllocator s.w client ret
      owed := orphaned (fun r => ret = ockRpcOk ∧
        s.w.gMemoryAllocator.find r.client = s.w.gMemoryAllocator.find client) s.owed }
  | .erase client =>
    { w := eraseAllocator s.w client
      owed := orphaned (fun r => r.client = client) s.owed }
  | .release client => { s with w := releaseRegion s.w client }
  | .close client => { s with w := closeChannel s.w client }

theorem disconnect_run (s : Sys) (client : Addr) (ret : Int) :
    ([.destroy client ret, .erase client, .release client, .close client].foldl step s).w =
      ockRpcClientDisconnect s.w client ret := (disconnect_steps s.w client ret).symm

/-- Nothing is allocated at `p`, nor is it the buffer of a region. -/
def Unused (w : World) (p : Addr) : Prop :=
  p ≠ 0 → (w.cbInfos p = none ∧ w.reqAddrs p = none) ∧
    ∀ c info, w.gMemoryRegion.find c = some info → info.mrInfo.lAddress ≠ p

/-- What `malloc`, the pools and the transport guarantee: a region reports the buffer it was registered
with, and no pool hands out a block that a request holds whose own pool still exists. -/
def Contract (s : Sys) : Label → Prop
  | .connect _ e => e.info.lAddress = e.malloc ∧ Unused s.w e.malloc
  | .call _ e => Unused s.w e.malloc ∧ Unused s.w e.mallocReqAddr ∧
      (e.malloc ≠ 0 → e.malloc ≠ e.mallocReqAddr) ∧
      ∀ r ∈ s.owed, r.orphan = false → ∀ j x, e.pack.addr j = some x → x ∉ r.blocks
  | _ => True

/-- Calls find the pool of their client, and no orphan gives blocks back. -/
def Timely (s : Sys) : Label → Prop
  | .call params e => ∀ p ∈ params, CallOk s.w p e
  | .complete k c => ∀ r ∈ s.owed[k]?, r.orphan = true →
      ¬ (c.QueriesOk ∧ c.ctxType ≠ some .oneSide)
  | _ => True

/-- The record of a request, as its call has left it. -/
structure Carries (w : World) (r : Request) (info : AsyncCbInfo) : Prop where
  owns : Owns w r.cb info
  arg_ne : r.cb.arg ≠ 0
  callback : r.cb.cb = .ockRpcCallbackFunc
  sgl : ∃ req rsp done p, p ≠ 0 ∧ info = sglInfo r.client req rsp done p
  array : ∀ p ∈ info.array, ∀ xs ∈ w.reqAddrs p, ∀ x ∈ xs, x ∈ r.blocks

/-- The allocator of the client is alive and has handed out the blocks. -/
def Held (w : World) (r : Request) : Prop :=
  ∃ a, w.gMemoryAllocator.find r.client = some a ∧ alive w.arenas a = true ∧
    ∀ x ∈ r.blocks, home w.arenas x = some a

structure Inv (s : Sys) : Prop where
  inflight : s.w.inflight = s.owed.map Request.cb
  carries : ∀ r ∈ s.owed, ∃ info, Carries s.w r info
  apart : s.owed.Pairwise fun r r' => List.Disjoint (ownedBy s.w r.cb) (ownedBy s.w r'.cb)
  buffers : ∀ c info, s.w.gMemoryRegion.find c = some info → s.w.FreshPtr info.mrInfo.lAddress
  held : ∀ r ∈ s.owed, r.orphan = false → Held s.w r
  home : FreesHome s.w.arenas

section Step

variable {s : Sys} {w w' : World} {r : Request} {info : AsyncCbInfo}

theorem Carries.agree (h : Carries w r info) (ha : Agree (ownedBy w r.cb) w w') :
    Carries w' r info := by
  refine ⟨h.owns.agree ha, h.arg_ne, h.callback, h.sgl, ?_⟩
  intro p hp xs hxs
  rw [(ha p (h.owns.mem_ownedBy hp)).2] at hxs
  exact h.array p hp xs hxs

/-- The record of a request is there. -/
def Live (w : World) (r : Request) : Prop := ∃ info, Carries w r info

theorem onOwned : OnOwned Request.cb Live := by
  constructor
  · rintro w r ⟨info, h⟩
    exact ⟨info, h.owns⟩
  · rintro w w' r ⟨info, h⟩ hag
    exact ⟨info, h.agree hag⟩

theorem Inv.owedHeap (I : Inv s) : OwedHeap Request.cb Live s.w s.owed :=
  ⟨I.inflight, I.carries, I.apart⟩

/-- Nothing a request owns is free to be used. -/
theorem Carries.notMem_fresh (h : Carries w r info) {p : Addr} (hf : w.FreshPtr p) :
    p ∉ ownedBy w r.cb := by
  intro hmem
  by_cases hp : p = 0
  · subst hp
    rw [h.owns.ownedBy] at hmem
    cases List.mem_cons.mp hmem with
    | inl heq => exact h.arg_ne heq.symm
    | inr hq => exact array_ne_zero (Option.mem_toList.mp hq) rfl
  · exact h.owns.ne_fresh hp hf hmem

theorem Unused.fresh {p : Addr} (h : Unused w p) : w.FreshPtr p := fun hp => (h hp).1

/-- A batch of one client leaves the blocks of a request where they are, unless it takes one of them. -/
theorem Held.batch {client : Addr} {fs bs : List Addr} (h : Held w r)
    (hb : Batch client fs bs w w') (hbs : ∀ x ∈ r.blocks, x ∉ bs) : Held w' r := by
  obtain ⟨a, hf, ha, hx⟩ := h
  refine ⟨a, hb.maps.allocator.find hf, ?_, ?_⟩
  · rw [hb.arenas, alive_frees, alive_allocs]
    exact ha
  · intro x hmem
    rw [hb.arenas, home_frees, home_allocs_of_notMem (hbs x hmem)]
    exact hx x hmem

theorem orphaned_none (owed : List Request) : orphaned (fun _ => false) owed = owed := by
  unfold orphaned
  simp

/-- A step that touches no heap object of a request that is owed. -/
theorem Inv.carry (I : Inv s) (p : Request → Bool) (hin : w'.inflight = s.w.inflight)
    (hag : ∀ r ∈ s.owed, Agree (ownedBy s.w r.cb) s.w w')
    (hbuf : ∀ c info, w'.gMemoryRegion.find c = some info → w'.FreshPtr info.mrInfo.lAddress)
    (hheld : ∀ r ∈ s.owed, r.orphan = false → p r = false → Held w' r)
    (hhome : FreesHome w'.arenas) : Inv { w := w', owed := orphaned p s.owed } := by
  have h := I.owedHeap.keep onOwned hin hag
  refine ⟨?_, ?_, List.pairwise_map.mpr h.apart, hbuf, ?_, hhome⟩
  · simp only [orphaned, List.map_map]
    exact h.inflight
  · intro r hr
    obtain ⟨r0, hr0, rfl⟩ := List.mem_map.mp hr
    obtain ⟨info, hc⟩ := h.live r0 hr0
    exact ⟨info, hc.owns, hc.arg_ne, hc.callback, hc.sgl, hc.array⟩
  · intro r hr horph
    obtain ⟨r0, hr0, rfl⟩ := List.mem_map.mp hr
    obtain ⟨h1, h2⟩ := Bool.or_eq_false_iff.mp horph
    exact hheld r0 hr0 h1 h2

/-- The same for a step that makes no orphans. -/
theorem Inv.keep (I : Inv s) (hin : w'.inflight = s.w.inflight)
    (hag : ∀ r ∈ s.owed, Agree (ownedBy s.w r.cb) s.w w')
    (hbuf : ∀ c info, w'.gMemoryRegion.find c = some info → w'.FreshPtr info.mrInfo.lAddress)
    (hheld : ∀ r ∈ s.owed, r.orphan = false → Held w' r)
    (hhome : FreesHome w'.arenas) : Inv { s with w := w' } := by
  have h := I.carry (fun _ => false) hin hag hbuf (fun r hr h1 _ => hheld r hr h1) hhome
  rwa [orphaned_none] at h

/-! ## Connects and disconnects -/

theorem arenaOps_onConnect {e : ConnectEnv} {evs : List Event} (h : ∀ ev ∈ evs, ev.onConnect e) :
    ∃ as : List Addr, arenaOps evs = as.map Op.create := by
  induction evs with
  | nil => exact ⟨[], rfl⟩
  | cons ev evs ih =>
    obtain ⟨as, has⟩ := ih fun x hx => h x (List.mem_cons_of_mem _ hx)
    have hev := h ev List.mem_cons_self
    cases ev with
    | poolCreate a option => exact ⟨a :: as, congrArg (List.cons (Op.create a)) has⟩
    | channelConnect service chan req => exact ⟨as, has⟩
    | poolBuffer p size => exact ⟨as, has⟩
    | mrRegister server mr address size => exact ⟨as, has⟩
    | poolSetKey a key => exact ⟨as, has⟩
    | _ => exact hev.elim

theorem inv_connect (I : Inv s) {a : ConnectArgs} {e : ConnectEnv} (hc : Contract s (.connect a e)) :
    Inv (step s (.connect a e)) := by
  obtain ⟨hl, hu⟩ := hc
  have hag : ∀ r ∈ s.owed, Agree (ownedBy s.w r.cb) s.w s.w := fun r _ x _ => ⟨rfl, rfl⟩
  rcases connect_cases s.w a e with ⟨evs, st, h, hevs, -⟩ | ⟨service, option, req, h⟩
  · obtain ⟨as, has⟩ := arenaOps_onConnect hevs
    have ht : (arenaOps (evs ++ s.w.trace)) = as.map Op.create ++ s.w.arenas := by
      rw [arenaOps_append, has]
      rfl
    simp only [step, h]
    refine I.keep rfl hag I.buffers ?_ ?_
    · intro r hr horph
      obtain ⟨x, hf, halive, hhome⟩ := I.held r hr horph
      refine ⟨x, hf, ?_, ?_⟩
      · rw [World.arenas, ht]
        exact alive_creates halive
      · intro y hy
        rw [World.arenas, ht, home_creates]
        exact hhome y hy
    · rw [World.arenas, ht]
      exact freesHome_creates I.home
  · simp only [step, h]
    refine I.keep rfl hag ?_ ?_ ?_
    · intro c info hfind
      simp only [StdMap.find_insertNew] at hfind
      split at hfind
      · cases hr : s.w.gMemoryRegion.find e.channel with
        | none =>
          rw [hr] at hfind
          cases hfind
          have hfresh := hu.fresh
          rw [← hl] at hfresh
          exact hfresh
        | some info' =>
          rw [hr] at hfind
          cases hfind
          exact I.buffers _ _ hr
      · exact I.buffers c info hfind
    · intro r hr horph
      obtain ⟨x, hf, halive, hhome⟩ := I.held r hr horph
      refine ⟨x, ?_, ?_, hhome⟩
      · simp only [StdMap.find_insertNew]
        split
        · rename_i hc
          rw [← hc, hf]
          rfl
        · exact hf
      · exact @alive_creates _ _ _ _ _ [e.allocator] halive
    · exact I.home

theorem arenas_poolDestroy (w : World) (a : Addr) (ret : Int) :
    (w.emit (.poolDestroy a ret)).arenas =
      if ret = ockRpcOk then .destroy a :: w.arenas else w.arenas := by
  by_cases h : ret = ockRpcOk
  · subst h
    rfl
  · simp [World.arenas, arenaOps, Event.arenaOp?, h]

theorem inv_destroy (I : Inv s) (client : Addr) (ret : Int) : Inv (step s (.destroy client ret)) := by
  simp only [step, destroyAllocator]
  cases hf : s.w.gMemoryAllocator.find client with
  | none =>
    exact I.carry _ rfl (fun r _ x _ => ⟨rfl, rfl⟩) I.buffers (fun r hr h1 _ => I.held r hr h1) I.home
  | some a =>
    have hop := arenas_poolDestroy s.w a ret
    refine I.carry _ rfl (fun r _ x _ => ⟨rfl, rfl⟩) I.buffers ?_ ?_
    · intro r hr h1 h2
      obtain ⟨x, hx, halive, hhome⟩ := I.held r hr h1
      by_cases hret : ret = ockRpcOk
      · have hne : a ≠ x := by
          rintro rfl
          simp [hret, hx] at h2
        rw [if_pos hret] at hop
        refine ⟨x, hx, ?_, ?_⟩
        · rw [hop]
          exact (if_neg hne).trans halive
        · rw [hop]
          exact hhome
      · rw [if_neg hret] at hop
        rw [Held, hop]
        exact ⟨x, hx, halive, hhome⟩
    · rw [hop]
      split
      · exact I.home
      · exact I.home

theorem inv_erase (I : Inv s) (client : Addr) : Inv (step s (.erase client)) := by
  refine I.carry _ rfl (fun r _ x _ => ⟨rfl, rfl⟩) I.buffers ?_ I.home
  intro r hr h1 h2
  obtain ⟨a, hf, halive, hhome⟩ := I.held r hr h1
  refine ⟨a, ?_, halive, hhome⟩
  have hne : r.client ≠ client := of_decide_eq_false h2
  simp only [eraseAllocator, StdMap.find_erase, if_neg hne]
  exact hf

theorem inv_release (I : Inv s) (client : Addr) : Inv (step s (.release client)) := by
  simp only [step, releaseRegion]
  cases hf : s.w.gMemoryRegion.find client with
  | none => exact I
  | some mrInfo =>
    have hfresh := I.buffers client mrInfo hf
    refine I.keep rfl ?_ ?_ I.held I.home
    · intro r hr x hx
      obtain ⟨info, hc⟩ := I.carries r hr
      have hne : x ≠ mrInfo.mrInfo.lAddress := by
        rintro rfl
        exact hc.notMem_fresh hfresh hx
      exact ⟨(stdFree_cbInfos _ _ _).trans (if_neg hne), (stdFree_reqAddrs _ _ _).trans (if_neg hne)⟩
    · intro c info hfind hne
      simp only [StdMap.find_erase] at hfind
      split at hfind
      · cases hfind
      · obtain ⟨h1, h2⟩ := I.buffers c info hfind hne
        constructor
        · refine (stdFree_cbInfos _ _ _).trans ?_
          split
          · rfl
          · exact h1
        · refine (stdFree_reqAddrs _ _ _).trans ?_
          split
          · rfl
          · exact h2

/-! ## Completions -/

/-- What a completion frees on the heap is no buffer of a region. -/
theorem freshPtr_frees {ps : List Addr} {p : Addr} (h : w.FreshPtr p) (hf : Frees ps w w')
    (hp : p ∉ ps) : w'.FreshPtr p := by
  intro hne
  rw [hf.cbInfos p hp, hf.reqAddrs p hp]
  exact h hne

/-- A completion gives back some of its request's blocks, an orphan's that is in time none. -/
theorem complete_batch (hc : Carries w r info) (c : Completion) :
    ∃ fs, Batch r.client fs [] w (runCallback w r.cb c) ∧ (∀ x ∈ fs, x ∈ r.blocks) ∧
      (¬ (c.QueriesOk ∧ c.ctxType ≠ some .oneSide) → fs = []) := by
  obtain ⟨req, rsp, done, p, hp, rfl⟩ := hc.sgl
  have harr : p ∈ (sglInfo r.client req rsp done p).array := by simp [AsyncCbInfo.array, sglInfo, hp]
  obtain ⟨hpa, hsome⟩ := hc.owns.array p harr
  obtain ⟨xs, hxs⟩ := Option.isSome_iff_exists.mp hsome
  obtain ⟨fs, hb, hfs, hnone⟩ := callback_batch (c := c) hc.owns.record hp hpa rfl rfl rfl rfl hxs
  have hrun : runCallback w r.cb c = ockRpcCallbackFunc w r.cb.arg c := by
    rw [runCallback, hc.callback]
  rw [hrun]
  exact ⟨fs, hb, fun x hx => hc.array p harr xs hxs x (hfs x hx), hnone⟩

theorem inv_complete (I : Inv s) {k : Nat} {c : Completion} (ht : Timely s (.complete k c)) :
    Inv (step s (.complete k c)) := by
  simp only [step]
  cases hk : s.owed[k]? with
  | none => exact I
  | some r =>
    simp only
    have hr : r ∈ s.owed := List.mem_of_getElem? hk
    obtain ⟨info, hc⟩ := I.carries r hr
    have hc0 : Carries (dequeue s.w k) r info :=
      ⟨⟨hc.owns.record, hc.owns.array⟩, hc.arg_ne, hc.callback, hc.sgl, hc.array⟩
    have hfr := runCallback_frees (dequeue s.w k) r.cb c
    obtain ⟨fs, hb, hfs, hnone⟩ := complete_batch hc0 c
    have hmem : ∀ r' ∈ s.owed.eraseIdx k, r' ∈ s.owed := fun r' hr' => List.mem_of_mem_eraseIdx hr'
    -- what stays owed shares no heap object with this request
    have h := I.owedHeap.remove onOwned hk hfr
    refine ⟨h.inflight, h.live, h.apart, ?_, ?_, ?_⟩
    · intro client mrInfo hfind
      simp only at hfind
      rw [hb.maps.region] at hfind
      have hfresh := I.buffers client mrInfo hfind
      exact freshPtr_frees (w := dequeue s.w k) hfresh hfr (hc.notMem_fresh hfresh)
    · intro r' hr' h1
      exact (I.held r' (hmem r' hr') h1).batch (w := dequeue s.w k) hb (by simp)
    · simp only
      rw [hb.arenas]
      cases horph : r.orphan with
      | true =>
        rw [hnone (ht r hk horph)]
        exact I.home
      | false =>
        obtain ⟨a, hf, halive, hhome⟩ := I.held r hr horph
        have ha : (dequeue s.w k).allocatorOf r.client = a := allocatorOf_of_find hf
        rw [ha]
        exact freesHome_frees I.home halive fun x hx => hhome x (hfs x hx)

/-! ## Calls -/

/-- What is free to be used when a call starts is so when it has handed over, if `malloc` did not return
it. -/
theorem freshPtr_handed {w1 : World} {e : SubmitEnv} {p : Addr} (H : Handed w w1 e info)
    (hf : w.FreshPtr p) (h1 : p ≠ e.malloc) (h2 : p ≠ e.mallocReqAddr) : w1.FreshPtr p := by
  intro hp
  rw [H.cbInfos p h1, H.reqAddrs p fun hq => h2 (H.array p hq).1]
  exact hf hp

section Call

variable {params : OckRpcClientCallParams} {e : SubmitEnv}

/-- The frees of a call go home, and no request loses its blocks. -/
theorem call_arenas (I : Inv s) (hc : Contract s (.call (some params) e))
    (ht : Timely s (.call (some params) e)) :
    FreesHome (ockRpcClientCallWithParam s.w (some params) e).1.arenas ∧
      (ockRpcClientCallWithParam s.w (some params) e).1.gMemoryRegion = s.w.gMemoryRegion ∧
      ∀ r ∈ s.owed, r.orphan = false →
        Held (ockRpcClientCallWithParam s.w (some params) e).1 r := by
  obtain ⟨-, -, hpq, hblocks⟩ := hc
  obtain ⟨fs, bs, hb, hbs, hok⟩ := call_batch hpq s.w params
  obtain ⟨hlive, hsub⟩ := hok (ht params rfl)
  refine ⟨?_, hb.maps.region, ?_⟩
  · rw [hb.arenas]
    cases hlive with
    | inl hnil =>
      subst hnil
      have hfs : fs = [] := List.eq_nil_iff_forall_not_mem.mpr fun x hx => by cases hsub x hx
      rw [hfs]
      exact I.home
    | inr hp =>
      obtain ⟨a, hf, halive⟩ := hp
      rw [allocatorOf_of_find hf]
      exact freesHome_batch I.home halive hsub
  · intro r hr h1
    refine (I.held r hr h1).batch hb fun x hx hmem => ?_
    obtain ⟨j, hj⟩ := hbs x hmem
    exact hblocks r hr h1 j x hj hx

theorem Unused.ne_buffer {p c : Addr} {mrInfo : OckRpcMrInfo} (h : Unused w p) (hp : p ≠ 0)
    (hf : w.gMemoryRegion.find c = some mrInfo) : mrInfo.mrInfo.lAddress ≠ p := (h hp).2 c mrInfo hf

/-- A call that is owed when it returns. -/
theorem inv_queue (I : Inv s) {w1 : World} {info' : AsyncCbInfo} (H : Handed s.w w1 e info')
    (hf : s.w.FreshPtr e.malloc) (hf' : s.w.FreshPtr e.mallocReqAddr) (harg : r.cb.arg = e.malloc)
    (hbuf : ∀ c info, w1.gMemoryRegion.find c = some info → w1.FreshPtr info.mrInfo.lAddress)
    (hheld : ∀ r ∈ s.owed, r.orphan = false → Held w1 r) (hhome : FreesHome w1.arenas)
    (hnew : Carries w1 r info) (hnewheld : Held w1 r) :
    Inv { w := { w1 with inflight := w1.inflight ++ [r.cb] }, owed := s.owed ++ [r] } := by
  have h := I.owedHeap.push onOwned H hf hf' harg ⟨info, hnew⟩
  refine ⟨h.inflight, h.live, h.apart, hbuf, ?_, hhome⟩
  intro r' hr' h1
  cases List.mem_append.mp hr' with
  | inl hold => exact hheld r' hold h1
  | inr hlast =>
    rw [List.mem_singleton.mp hlast]
    exact hnewheld

/-- Posting a packed request takes no blocks. -/
theorem taken_sglHandedOver {wp : World} (ht : wp.trace = w.since wp ++ w.trace) (client : Addr)
    (req : ServiceSglRequest) (rsp : Addr) (done : OckRpcCallDone) (e : SubmitEnv) :
    taken (w.since (sglHandedOver wp client req rsp done e)) = taken (w.since wp) := by
  have htr : (sglHandedOver wp client req rsp done e).trace =
      [(sglPost client req rsp).event (some ⟨.ockRpcCallbackFunc, e.malloc⟩) e.ret,
        .malloc e.mallocReqAddr, .malloc e.malloc] ++ wp.trace := rfl
  rw [World.since_append ht htr, taken_append]
  rfl

/-- The blocks a call has taken are at home in the allocator of its client. -/
theorem held_of_batch {w1 : World} {a : Addr} {bs : List Addr} {client : Addr} (cb : ChannelCallback)
    (hb : Batch client [] bs w w1) (hf : w.gMemoryAllocator.find client = some a)
    (halive : alive w.arenas a = true) : Held w1 { cb := cb, client := client, blocks := bs } := by
  refine ⟨a, hb.maps.allocator.find hf, ?_, ?_⟩
  · rw [hb.arenas, alive_frees, alive_allocs]
    exact halive
  · intro x hx
    rw [hb.arenas, home_frees, allocatorOf_of_find hf]
    exact home_allocs_of_mem hx

theorem inv_call (I : Inv s) (hc : Contract s (.call (some params) e))
    (ht : Timely s (.call (some params) e)) : Inv (step s (.call (some params) e)) := by
  obtain ⟨hhome, hregion, hheld⟩ := call_arenas I hc ht
  obtain ⟨hu, hu', hpq, -⟩ := hc
  rcases hr : ockRpcClientCallWithParam s.w (some params) e with ⟨w', st⟩
  rw [hr] at hhome hregion hheld
  simp only at hhome hregion hheld
  simp only [step, hr]
  by_cases hq : st ≠ ockRpcOk ∨ params.done = none
  · -- nothing was handed over
    have hcourse := @callWithParam_course (.call (.callWithParam params.client params.msgId params.reqIov)
      params.rspMsgs) params rfl rfl s.w e
    rw [hr] at hcourse
    have Q := hcourse.quiet hu.fresh hu'.fresh (hq.imp_right fun hd => ⟨hd, rfl⟩)
    rw [Q.inflight, List.drop_length, List.map_nil, List.append_nil]
    refine I.keep Q.inflight (fun r _ x _ => ⟨congrFun Q.cbInfos x, congrFun Q.reqAddrs x⟩) ?_ hheld
      hhome
    intro c mrInfo hfind
    rw [hregion] at hfind
    have hfresh := I.buffers c mrInfo hfind
    rw [World.FreshPtr, Q.cbInfos, Q.reqAddrs]
    exact hfresh
  · rw [not_or, not_not] at hq
    obtain ⟨rfl, hd⟩ := hq
    obtain ⟨done, hd⟩ := Option.ne_none_iff_exists'.mp hd
    obtain ⟨msgs, wp, req, hmsgs, hpack, ha, hw, hsub, hb⟩ := call_accepted hd hr
    have hp := packReqInfo_frame s.w params.client msgs params.msgId {} e.pack
    rw [hpack] at hp
    have H : Handed s.w (sglHandedOver wp params.client req params.rspMsgs done e) e
        (sglInfo params.client req params.rspMsgs done e.mallocReqAddr) :=
      hp.quiet.handed (placed_sglRecorded ha.1 ha.2.1).handed
    have hxs : (sglHandedOver wp params.client req params.rspMsgs done e).reqAddrs e.mallocReqAddr =
        some (iovAddrs req req.iovCount.toNat) := Function.update_self _ _ _
    have htaken := taken_sglHandedOver hp.trace_eq params.client req params.rspMsgs done e
    generalize hw1 : sglHandedOver wp params.client req params.rspMsgs done e = w1 at hw hb H hxs htaken
    have hbuf : ∀ c mrInfo, s.w.gMemoryRegion.find c = some mrInfo →
        w1.FreshPtr mrInfo.mrInfo.lAddress := by
      intro c mrInfo hfind
      exact freshPtr_handed H (I.buffers c mrInfo hfind) (hu.ne_buffer ha.1 hfind)
        (hu'.ne_buffer ha.2.1 hfind)
    have hown := H.owns hpq .ockRpcCallbackFunc
    have hlist : ownedBy w1 ⟨.ockRpcCallbackFunc, e.malloc⟩ = [e.malloc, e.mallocReqAddr] := by
      rw [hown.ownedBy]
      simp [AsyncCbInfo.array, sglInfo, ha.2.1]
    cases hearly : e.early with
    | some c =>
      -- the callback has run inside the primitive
      have h1 : w' = runCallback w1 ⟨.ockRpcCallbackFunc, e.malloc⟩ c := by
        rw [hw, World.handOver, hearly]
      have hfr := runCallback_frees w1 ⟨.ockRpcCallbackFunc, e.malloc⟩ c
      rw [← h1] at hfr
      have hin : w'.inflight = s.w.inflight := hfr.inflight.trans H.inflight
      rw [hin, List.drop_length, List.map_nil, List.append_nil]
      refine I.keep hin (I.owedHeap.agree_early onOwned H hu.fresh hu'.fresh hfr) ?_ hheld hhome
      · intro c mrInfo hfind
        rw [hregion] at hfind
        refine freshPtr_frees (hbuf c mrInfo hfind) hfr ?_
        rw [hlist]
        simp [hu.ne_buffer ha.1 hfind, hu'.ne_buffer ha.2.1 hfind]
    | none =>
      have h1 : w' = { w1 with inflight := w1.inflight ++ [⟨.ockRpcCallbackFunc, e.malloc⟩] } := by
        rw [hw, World.handOver, hearly]
      have hdrop : w'.inflight.drop s.w.inflight.length = [⟨.ockRpcCallbackFunc, e.malloc⟩] := by
        rw [h1]
        exact H.drop_queued _
      have hblk : taken (s.w.since w') = taken (s.w.since wp) := by
        rw [h1]
        exact htaken
      rw [hdrop, hblk, h1]
      rw [h1] at hhome hheld
      have hcar : Carries w1
          { cb := ⟨.ockRpcCallbackFunc, e.malloc⟩, client := params.client,
            blocks := taken (s.w.since wp) }
          (sglInfo params.client req params.rspMsgs done e.mallocReqAddr) := by
        refine ⟨hown, ha.1, rfl, ⟨req, _, done, _, ha.2.1, rfl⟩, ?_⟩
        intro p hp xs hmem x hx
        rw [(H.array p hp).1, hxs] at hmem
        cases hmem
        exact hsub x hx
      have hnew : Held w1
          { cb := ⟨.ockRpcCallbackFunc, e.malloc⟩, client := params.client,
            blocks := taken (s.w.since wp) } := by
        have halloc : e.pack.alloc 0 ≠ none := by
          intro h0
          rw [packReqInfo_noHeader h0] at hpack
          cases hpack
        obtain ⟨⟨a, hf, halive⟩, -⟩ := (ht params rfl msgs hmsgs).resolve_left halloc
        exact held_of_batch _ hb hf halive
      refine inv_queue I H hu.fresh hu'.fresh rfl (fun c mrInfo hfind => ?_) hheld hhome hcar hnew
      rw [hb.maps.region] at hfind
      exact hbuf c mrInfo hfind

end Call

theorem inv_step (I : Inv s) {l : Label} (hc : Contract s l) (ht : Timely s l) : Inv (step s l) := by
  cases l with
  | connect a e => exact inv_connect I hc
  | call params e =>
    cases params with
    | none => exact I
    | some params => exact inv_call I hc ht
  | complete k c => exact inv_complete I ht
  | destroy client ret => exact inv_destroy I client ret
  | erase client => exact inv_erase I client
  | release client => exact inv_release I client
  | close client =>
    exact I.keep rfl (fun r _ x _ => ⟨rfl, rfl⟩) I.buffers I.held I.home

end Step

theorem inv_init {w : World} (ht : w.trace = []) (hin : w.inflight = []) (hr : w.gMemoryRegion = ∅) :
    Inv { w := w } := by
  refine ⟨hin, ?_, List.Pairwise.nil, ?_, ?_, ?_⟩
  · intro r hr
    cases hr
  · intro c info hfind
    simp only [hr, StdMap.find_empty] at hfind
    cases hfind
  · intro r hr
    cases hr
  · simp only [World.arenas, ht]
    trivial

/-- **Blocks go home** in every run from the start of the process in which calls find the pool of their
client and no orphan gives blocks back: whenever `Net_MemoryAllocatorFree(a, x)` is issued, `a` is the
allocator that handed `x` out last, and it is alive. -/
theorem blocks_go_home {w : World} {s : Sys} (h0 : w.trace = []) (hin : w.inflight = [])
    (hr : w.gMemoryRegion = ∅)
    (hrun : Reached (fun s l => Contract s l ∧ Timely s l) step { w := w } s)
    {es fs : List Event} {a x : Addr} (ht : s.w.trace = es ++ .poolFree a x :: fs) :
    home (arenaOps fs) x = some a ∧ alive (arenaOps fs) a = true := by
  have I : Inv s := hrun.invariant (inv_init h0 hin hr) fun s l I hl => inv_step I hl.1 hl.2
  have hh := I.home
  rw [World.arenas, ht, arenaOps_append] at hh
  exact hh.of_append

/-! ### Two runs -/

/-- An asynchronous call of client 1 that the transport accepts. -/
def acceptedCall : Label :=
  .call (some oneMessageCall) { malloc := 900, mallocReqAddr := 950, pack := PackEnv.firstBlocks 4 }

def connected : Sys := step { w := oneService } (.connect defaultConnect (connectEnv 50 60))

theorem connect_contract : Contract { w := oneService } (.connect defaultConnect (connectEnv 50 60)) :=
  ⟨rfl, fun _ => ⟨⟨rfl, rfl⟩, fun _ _ h => by cases h⟩⟩

theorem connected_unused {p : Addr} (hp : p ≠ 5000) : Unused connected.w p := by
  refine fun _ => ⟨⟨rfl, rfl⟩, fun c info hfind => ?_⟩
  have hregion : connected.w.gMemoryRegion =
      StdMap.insertNew ∅ 1 ⟨60, ⟨5000, 7, 67108864⟩, 40⟩ := rfl
  rw [hregion, StdMap.find_insertNew] at hfind
  split at hfind
  · cases hfind
    exact hp.symm
  · cases hfind

theorem acceptedCall_contract : Contract connected acceptedCall :=
  ⟨connected_unused (by decide), connected_unused (by decide), fun _ => by decide,
    fun _ h => by cases h⟩

theorem acceptedCall_timely : Timely connected acceptedCall := by
  intro p hp msgs hmsgs
  cases hp
  have hone : checkedMsgs connected.w oneMessageCall = some [⟨some fun _ => 3, 4⟩] := rfl
  rw [hone] at hmsgs
  cases hmsgs
  refine .inr ⟨⟨50, rfl, rfl⟩, .inr (.inl fun k m hk => ?_)⟩
  cases k with
  | zero =>
    cases hk
    decide
  | succ k => cases hk

/-- The call completes while its client is connected. -/
def completed : Sys := step (step connected acceptedCall) (.complete 0 { ctxType := some .sentRaw })

/-- Its header goes back to the allocator of the connect. -/
theorem blocks_go_home_header :
    completed.w.trace = completed.w.trace.take 3 ++ .poolFree 50 100 :: completed.w.trace.drop 4 ∧
      home (arenaOps (completed.w.trace.drop 4)) 100 = some 50 ∧
      alive (arenaOps (completed.w.trace.drop 4)) 50 = true := by
  have hrun : Reached (fun s l => Contract s l ∧ Timely s l) step { w := oneService } completed := by
    refine ((Reached.refl.tail ⟨connect_contract, trivial⟩).tail
      ⟨acceptedCall_contract, acceptedCall_timely⟩).tail ⟨trivial, ?_⟩
    intro r hr horph
    cases hr
    cases horph
  have ht : completed.w.trace =
      completed.w.trace.take 3 ++ .poolFree 50 100 :: completed.w.trace.drop 4 := rfl
  exact ⟨ht, blocks_go_home rfl rfl rfl hrun ht⟩

/-- The client disconnects first, and the call completes when the channel has been closed. -/
def closedThenCompleted : Sys :=
  [.destroy 1 0, .erase 1, .release 1, .close 1, .complete 0 { ctxType := some .sentRaw }].foldl step
    (step connected acceptedCall)

/-- Its header goes back to a null allocator, and its own one is gone. -/
theorem block_freed_on_null :
    Reached Contract step { w := oneService } closedThenCompleted ∧
      closedThenCompleted.w.trace =
        closedThenCompleted.w.trace.take 3 ++ .poolFree 0 100 :: closedThenCompleted.w.trace.drop 4 ∧
      home (arenaOps (closedThenCompleted.w.trace.drop 4)) 100 = some 50 ∧
      alive (arenaOps (closedThenCompleted.w.trace.drop 4)) 50 = false := by
  have hrun : Reached Contract step { w := oneService } closedThenCompleted :=
    ((Reached.refl.tail connect_contract).tail acceptedCall_contract).extend
      ⟨trivial, trivial, trivial, trivial, trivial, trivial⟩
  exact ⟨hrun, rfl, rfl, rfl⟩

end Lifetime

end Hcom4db
