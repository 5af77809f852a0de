import Hcom4db.Base.Runs
import Hcom4db.PoolBuffers

/-!
# Hcom4db.Teardown

The order in which a disconnect releases what its client holds. `OckRpcClientDisconnect` is cut into the
steps between which the transport may act, and a run interleaves any number of disconnects with connects,
requests, completions and messages.

* `disconnect_run`: the steps are the function.
* `Safe`: the buffer of a registered region is allocated, and what the client of an open channel holds is
  not released.
* `freeBuffer_unsafe`: a disconnect that has found a region frees its buffer while it is registered.
* `teardown_safe`: runs in which the disconnects find no pool are safe.
-/

namespace Hcom4db

namespace Teardown

open HeapLog Runs

/-! ## The steps of a disconnect -/

/-- The step a disconnect comes to next, with the entries it has looked up. -/
inductive Stage where
  | findAllocator
  | destroyAllocator (allocator : Addr)
  | eraseAllocator
  | findRegion
  | freeBuffer (mrInfo : OckRpcMrInfo)
  | destroyRegion (mrInfo : OckRpcMrInfo)
  | eraseRegion
  | closeChannel

/-- One step of `OckRpcClientDisconnect`, and the one after it; `ret` is the answer of
`Net_MemoryAllocatorDestroy`. -/
def advance (w : World) (client : Addr) (ret : Int) : Stage → World × Option Stage
  | .findAllocator =>
    match w.gMemoryAllocator.find client with
    | none => (w, some .findRegion)
    | some allocator => (w, some (.destroyAllocator allocator))
  | .destroyAllocator allocator => (w.emit (.poolDestroy allocator ret), some .eraseAllocator)
  | .eraseAllocator =>
    ({ w with gMemoryAllocator := w.gMemoryAllocator.erase client }, some .findRegion)
  | .findRegion =>
    match w.gMemoryRegion.find client with
    | none => (w, some .closeChannel)
    | some mrInfo => (w, some (.freeBuffer mrInfo))
  | .freeBuffer mrInfo => (w.stdFree mrInfo.mrInfo.lAddress, some (.destroyRegion mrInfo))
  | .destroyRegion mrInfo => (w.emit (.mrDestroy mrInfo.server mrInfo.mr), some .eraseRegion)
  | .eraseRegion => ({ w with gMemoryRegion := w.gMemoryRegion.erase client }, some .closeChannel)
  | .closeChannel => (w.emit (.channelClose client), none)

structure Sys where
  w : World
  /-- The disconnects that have not returned. -/
  closing : List (Addr × Stage) := []
  /-- The clients whose channel is not closed, with what their connects have acquired. -/
  opened : List (Addr × List Resource) := []

inductive Label where
  | connect (a : ConnectArgs) (e : ConnectEnv)
  | submit (op : AsyncOp) (done : Option OckRpcCallDone) (e : SubmitEnv)
  /-- The transport runs callback `k` of those it owes. -/
  | complete (k : Nat) (c : Completion)
  | receive (ctx : Addr) (e : ReceiveEnv)
  | rndvReceive (ctx : Addr) (e : RndvEnv)
  /-- `OckRpcClientDisconnect` is called. -/
  | disconnect (client : Addr)
  /-- The next step of disconnect `k`. -/
  | tick (k : Nat) (ret : Int)

def tick (s : Sys) (k : Nat) (client : Addr) : World × Option Stage → Sys
  | (w, some stage) => { s with w := w, closing := s.closing.set k (client, stage) }
  | (w, none) =>
    { w := w, closing := s.closing.eraseIdx k, opened := s.opened.filter fun o => o.1 ≠ client }

def step (s : Sys) : Label → Sys
  | .connect a e =>
    let w := (ockRpcClientConnectWithCfg s.w a e).1
    { s with w := w, opened := (e.channel, acquired (s.w.since w)) :: s.opened }
  | .submit op done e => { s with w := (op.submit s.w done e).1 }
  | .complete k c =>
    match s.w.inflight[k]? with
    | none => s
    | some cb => { s with w := runCallback (dequeue s.w k) cb c }
  | .receive ctx e => { s with w := (ockRpcReceiveHandle s.w ctx e).1 }
  | .rndvReceive ctx e => { s with w := (ockRpcRndvReceiveHandler s.w ctx e).1 }
  | .disconnect client => { s with closing := s.closing ++ [(client, .findAllocator)] }
  | .tick k ret =>
    match s.closing[k]? with
    | none => s
    | some (client, stage) => tick s k client (advance s.w client ret stage)

/-- A disconnect that nothing interrupts. -/
theorem disconnect_run (w : World) (client : Addr) (ret : Int) : ∃ n,
    (List.replicate n (Label.tick 0 ret)).foldl step { w := w, closing := [(client, .findAllocator)] } =
      { w := ockRpcClientDisconnect w client ret } := by
  have hmid : ∀ w' : World, ∃ n,
      (List.replicate n (Label.tick 0 ret)).foldl step { w := w', closing := [(client, .findRegion)] } =
        { w := closeChannel (releaseRegion w' client) client } := by
    intro w'
    cases hr : w'.gMemoryRegion.find client with
    | none =>
      refine ⟨2, ?_⟩
      simp [List.replicate, step, tick, advance, hr, releaseRegion, closeChannel]
    | some mrInfo =>
      refine ⟨5, ?_⟩
      simp [List.replicate, step, tick, advance, hr, releaseRegion, closeChannel]
  rw [disconnect_steps]
  cases ha : w.gMemoryAllocator.find client with
  | none =>
    obtain ⟨n, hn⟩ := hmid w
    refine ⟨n + 1, ?_⟩
    have he : eraseAllocator w client = w := by rw [eraseAllocator, StdMap.erase_of_find_none ha]
    have hd : destroyAllocator w client ret = w := by rw [destroyAllocator, ha]
    rw [hd, he, ← hn]
    simp [List.replicate_succ, step, tick, advance, ha]
  | some allocator =>
    obtain ⟨n, hn⟩ := hmid (eraseAllocator (destroyAllocator w client ret) client)
    refine ⟨n + 3, ?_⟩
    rw [← hn]
    simp [List.replicate_succ, step, tick, advance, ha, destroyAllocator, eraseAllocator]

/-! ## Safety -/

/-- The buffer under a region that is registered. -/
def regionBuffer : List Event → Addr → Option Addr
  | [] => fun _ => none
  | .mrRegister _ mr address _ :: evs => Function.update (regionBuffer evs) mr (some address)
  | .mrDestroy _ mr :: evs => Function.update (regionBuffer evs) mr none
  | _ :: evs => regionBuffer evs

/-- Neither the buffer, the region nor the allocator of a connect is a channel. -/
def Resource.ofPool : Resource → Bool
  | .channel _ => false
  | _ => true

structure Safe (s : Sys) : Prop where
  buffers : ∀ mr p, regionBuffer s.w.trace mr = some p → s.w.held (.buffer p) = true
  opened : ∀ o ∈ s.opened, ∀ r ∈ o.2, Resource.ofPool r = true → s.w.held r = true

/-- A disconnect that frees the buffer of a region frees it while the region is registered. -/
theorem freeBuffer_unsafe {s : Sys} {k : Nat} {client : Addr} {mrInfo : OckRpcMrInfo} (ret : Int)
    (hk : s.closing[k]? = some (client, .freeBuffer mrInfo))
    (hreg : regionBuffer s.w.trace mrInfo.mr = some mrInfo.mrInfo.lAddress) :
    ¬ Safe (step s (.tick k ret)) := by
  intro hsafe
  have hstep : (step s (.tick k ret)).w = s.w.stdFree mrInfo.mrInfo.lAddress := by
    simp only [step, hk]
    rfl
  have hlive := hsafe.buffers mrInfo.mr mrInfo.mrInfo.lAddress (by rw [hstep]; exact hreg)
  have htrace : (s.w.stdFree mrInfo.mrInfo.lAddress).trace =
      [.stdFree mrInfo.mrInfo.lAddress] ++ s.w.trace := rfl
  rw [hstep, World.held_of_trace htrace] at hlive
  have hfreed : live s.w.held [Op.free (Resource.buffer mrInfo.mrInfo.lAddress)]
      (.buffer mrInfo.mrInfo.lAddress) = false := Function.update_self _ _ _
  exact absurd (hlive.symm.trans hfreed) (by decide)

/-! ## Runs -/

/-- What `malloc` and the transport guarantee: `malloc` returns what is not in use, an allocator is not
null, and a region reports the buffer it was registered with. -/
def Contract (s : Sys) : Label → Prop
  | .connect _ e => e.info.lAddress = e.malloc ∧ e.allocator ≠ 0 ∧
      ∀ cb ∈ s.w.inflight, e.malloc ∉ ownedBy s.w cb
  | .submit _ _ e => FreshHeap s.w e
  | _ => True

/-- A disconnect finds no region, and no allocator but the null one that `g_memoryAllocator[client]` has
entered. -/
def NoPool (s : Sys) : Label → Prop
  | .tick k _ => ∀ o ∈ s.closing[k]?, match o.2 with
      | .findAllocator => ∀ a ∈ s.w.gMemoryAllocator.find o.1, a = 0
      | .findRegion => s.w.gMemoryRegion.find o.1 = none
      | _ => True
  | _ => True

/-- The step releases nothing of a pool. -/
def Stage.Harmless : Stage → Prop
  | .destroyAllocator a => a = 0
  | .freeBuffer _ => False
  | .destroyRegion _ => False
  | _ => True

structure Inv (s : Sys) : Prop where
  apart : ∃ owed, Apart (fun _ => True) s.w [] owed
  safe : Safe s
  nonnull : ∀ o ∈ s.opened, .allocator 0 ∉ o.2
  closing : ∀ o ∈ s.closing, o.2.Harmless

section Step

variable {s : Sys} {w w' : World} {evs tr : List Event} {e : ConnectEnv} {op : Op Resource} {ps : List Addr}

/-- A trace without operations on regions. -/
theorem regionBuffer_append
    (h : ∀ op ∈ resourceOps evs, ∀ mr, op ≠ .alloc (.region mr) ∧ op ≠ .free (.region mr)) :
    regionBuffer (evs ++ tr) = regionBuffer tr := by
  induction evs with
  | nil => rfl
  | cons ev evs ih =>
    have hrest : regionBuffer (evs ++ tr) = regionBuffer tr := by
      refine ih fun op hop => h op ?_
      obtain ⟨ev', hev', hsome⟩ := List.mem_filterMap.mp hop
      exact List.mem_filterMap.mpr ⟨ev', List.mem_cons_of_mem _ hev', hsome⟩
    cases ev with
    | mrRegister server mr address size => exact absurd rfl (h _ List.mem_cons_self mr).1
    | mrDestroy server mr => exact absurd rfl (h _ List.mem_cons_self mr).2
    | _ => exact hrest

/-- A step that leaves what is held alone. -/
theorem Inv.keep (I : Inv s) {owed : List ChannelCallback} (A : Apart (fun _ => True) w' [] owed)
    (hheld : w'.held = s.w.held) (hreg : regionBuffer w'.trace = regionBuffer s.w.trace) :
    Inv { s with w := w' } := by
  refine ⟨⟨owed, A⟩, ⟨?_, ?_⟩, I.nonnull, I.closing⟩
  · intro mr p h
    simp only at h ⊢
    rw [hreg] at h
    rw [hheld]
    exact I.safe.buffers mr p h
  · simp only
    rw [hheld]
    exact I.safe.opened

theorem regionBuffer_call (h : CallFrame (Event.onCall ps) w w') :
    regionBuffer w'.trace = regionBuffer w.trace := by
  rw [h.trace_eq]
  refine regionBuffer_append ?_
  intro op hop mr
  obtain ⟨p, -, rfl⟩ := h.mem_resourceOps hop
  exact ⟨nofun, nofun⟩

theorem inv_submit (I : Inv s) {op : AsyncOp} {done : Option OckRpcCallDone} {e : SubmitEnv}
    (hf : FreshHeap s.w e) : Inv (step s (.submit op done e)) := by
  obtain ⟨owed, A⟩ := I.apart
  have hfr := op.submit_callFrame s.w done e
  have hheld := hfr.held hf.noBuffer
  obtain ⟨owed', A'⟩ := A.submits (op.submit_submits done hf) hf hheld
  exact I.keep A' hheld (regionBuffer_call hfr)

theorem inv_complete (I : Inv s) (k : Nat) (c : Completion) : Inv (step s (.complete k c)) := by
  obtain ⟨owed, A⟩ := I.apart
  simp only [step]
  cases hk : s.w.inflight[k]? with
  | none => exact I
  | some cb =>
    have hk' : owed[k]? = some cb := by rwa [A.inflight] at hk
    have hran := A.ran hk' c
    rw [List.length_nil, Nat.zero_add] at hran
    exact I.keep hran.2 hran.1
      (regionBuffer_call (w := dequeue s.w k) (runCallback_callFrame (dequeue s.w k) cb c).onCall)

/-! ### Messages -/

/-- A step that leaves the records alone and adds to the trace no operation on a resource. -/
theorem inv_silent (I : Inv s) (hin : w'.inflight = s.w.inflight) (hcb : w'.cbInfos = s.w.cbInfos)
    (hreq : w'.reqAddrs = s.w.reqAddrs) (ht : w'.trace = evs ++ s.w.trace) (hevs : resourceOps evs = []) :
    Inv { s with w := w' } := by
  obtain ⟨owed, A⟩ := I.apart
  have hheld : w'.held = s.w.held := by
    rw [World.held_of_trace ht, hevs]
    rfl
  have hreg : regionBuffer w'.trace = regionBuffer s.w.trace := by
    rw [ht]
    refine regionBuffer_append ?_
    rw [hevs]
    exact fun _ hop => absurd hop List.not_mem_nil
  have A' : Apart (fun _ => True) w' [] owed := by
    refine A.keep hin (fun cb _ x _ => ⟨congrFun hcb x, congrFun hreq x⟩) ?_
    intro p hp
    rw [hheld] at hp
    exact .inl hp
  exact I.keep A' hheld hreg

/-- A message adds events only. -/
theorem inv_events (I : Inv s) (h : MessageFrame s.w w') (ht : w'.trace = evs ++ s.w.trace)
    (hevs : resourceOps evs = []) : Inv { s with w := w' } := by
  have hrest := h.rest
  exact inv_silent I (by rw [hrest]) (by rw [hrest]) (by rw [hrest]) ht hevs

theorem dispatch_trace (w : World) (ctx : Addr) (msgId : UInt16) (off : Nat) (len : UInt64) :
    ∃ evs, (dispatch w ctx msgId off len).1.trace = evs ++ w.trace ∧ resourceOps evs = [] := by
  unfold dispatch
  split
  · exact ⟨[_], rfl, rfl⟩
  · exact ⟨[], rfl, rfl⟩

theorem receive_trace (w : World) (ctx : Addr) (e : ReceiveEnv) :
    ∃ evs, (ockRpcReceiveHandle w ctx e).1.trace = evs ++ w.trace ∧ resourceOps evs = [] := by
  unfold ockRpcReceiveHandle
  split
  · exact ⟨[], rfl, rfl⟩
  · split
    · exact ⟨[], rfl, rfl⟩
    · obtain ⟨evs, ht, hevs⟩ := dispatch_trace (w.emit (.msgRead 0 sizeofRawMessageHeader)) ctx
        (rawMsgId _) sizeofRawMessageHeader (e.dataLen.toUInt64 - UInt64.ofNat sizeofRawMessageHeader)
      refine ⟨evs ++ [.msgRead 0 sizeofRawMessageHeader], ?_, ?_⟩
      · rw [ht, List.append_assoc]
        rfl
      · rw [resourceOps, List.filterMap_append]
        exact List.append_eq_nil_iff.mpr ⟨hevs, rfl⟩
    · split
      · exact ⟨[], rfl, rfl⟩
      · exact dispatch_trace w ctx _ 0 _

theorem rndvReceive_trace (w : World) (ctx : Addr) (e : RndvEnv) :
    ∃ evs, (ockRpcRndvReceiveHandler w ctx e).1.trace = evs ++ w.trace ∧ resourceOps evs = [] := by
  unfold ockRpcRndvReceiveHandler
  cases e.message with
  | none => exact ⟨[], rfl, rfl⟩
  | some rndvMsg =>
    have hub : ∃ evs, (if maxMessageSglCount < rndvMsg.cnt.toNat then w.emit .ub else w).trace =
        evs ++ w.trace ∧ resourceOps evs = [] := by
      split
      · exact ⟨[_], rfl, rfl⟩
      · exact ⟨[], rfl, rfl⟩
    simp only
    split
    · exact hub
    · split
      · exact hub
      · split
        · obtain ⟨evs, ht, hevs⟩ := hub
          exact ⟨_ :: evs, congrArg (List.cons _) ht, hevs⟩
        · exact hub

/-! ### Connects -/

theorem mem_resourceOps_of_acquired {r : Resource} (h : r ∈ acquired evs) : .alloc r ∈ resourceOps evs := by
  obtain ⟨ev, hev, hr⟩ := List.mem_filterMap.mp h
  refine List.mem_filterMap.mpr ⟨ev, hev, ?_⟩
  rw [Event.resourceOp?, hr]
  rfl

section Connect

variable {service : Addr} {option : NetMemoryAllocatorOptions} {req : ConnectRequest}

/-- A connect acquires its own region, allocator, buffer and channel, and releases nothing. -/
theorem resourceOps_connect (h : evs <:+ poolEvents service option e ++ [.channelConnect service e.channel req])
    (hop : op ∈ resourceOps evs) : op = .alloc (.region e.mr) ∨ op = .alloc (.allocator e.allocator) ∨
      op = .alloc (.buffer e.malloc) ∨ op = .alloc (.channel e.channel) := by
  obtain ⟨ev, hev, hsome⟩ := List.mem_filterMap.mp hop
  have hmem : op ∈ resourceOps (poolEvents service option e ++ [.channelConnect service e.channel req]) :=
    List.mem_filterMap.mpr ⟨ev, h.subset hev, hsome⟩
  simpa [resourceOps, poolEvents, Event.resourceOp?, Event.acquired?, Event.released?] using hmem

/-- The region a connect registers is over the buffer it has allocated. -/
theorem regionBuffer_connect
    (h : evs <:+ poolEvents service option e ++ [.channelConnect service e.channel req])
    (haddr : option.address = e.malloc) {mr p : Addr} (hreg : regionBuffer (evs ++ tr) mr = some p) :
    regionBuffer tr mr = some p ∨ (p = e.malloc ∧ .alloc (.buffer p) ∈ resourceOps evs) := by
  have hregistered : ∀ new, Function.update (regionBuffer tr) e.mr (some option.address) mr = some p →
      .alloc (.buffer e.malloc) ∈ resourceOps new → regionBuffer tr mr = some p ∨
        (p = e.malloc ∧ .alloc (.buffer p) ∈ resourceOps new) := by
    intro new hupd hmem
    rw [Function.update_apply] at hupd
    split at hupd
    · rw [haddr] at hupd
      cases hupd
      exact .inr ⟨rfl, hmem⟩
    · exact .inl hupd
  rcases List.suffix_cons_iff.mp h with rfl | h
  · exact hregistered _ hreg (by simp [resourceOps, Event.resourceOp?, Event.acquired?])
  · rcases List.suffix_cons_iff.mp h with rfl | h
    · exact hregistered _ hreg (by simp [resourceOps, Event.resourceOp?, Event.acquired?])
    · -- the region is not registered
      rw [regionBuffer_append] at hreg
      · exact .inl hreg
      · intro op hop mr'
        obtain ⟨ev, hev, hsome⟩ := List.mem_filterMap.mp hop
        have hmem : op ∈ resourceOps [.poolCreate e.allocator option, .poolBuffer e.malloc option.size,
            .channelConnect service e.channel req] :=
          List.mem_filterMap.mpr ⟨ev, h.subset hev, hsome⟩
        simp only [resourceOps, List.filterMap_cons, Event.resourceOp?, Event.acquired?, Option.map_some,
          Option.some_or, List.filterMap_nil, List.mem_cons, List.not_mem_nil, or_false] at hmem
        rcases hmem with rfl | rfl | rfl
        · simp
        · simp
        · simp

end Connect

theorem inv_connect (I : Inv s) {a : ConnectArgs} (hc : Contract s (.connect a e)) :
    Inv (step s (.connect a e)) := by
  obtain ⟨-, hnull, hown⟩ := hc
  obtain ⟨owed, A⟩ := I.apart
  obtain ⟨service, option, req, evs, haddr, hevs, ht⟩ := connect_events s.w a e
  have hrest : (ockRpcClientConnectWithCfg s.w a e).1.inflight = s.w.inflight ∧
      (ockRpcClientConnectWithCfg s.w a e).1.cbInfos = s.w.cbInfos ∧
      (ockRpcClientConnectWithCfg s.w a e).1.reqAddrs = s.w.reqAddrs := by
    rcases connect_cases s.w a e with ⟨evs, st, h, -, -⟩ | ⟨server, option, req, h⟩
    · rw [h]
      exact ⟨rfl, rfl, rfl⟩
    · rw [h]
      exact ⟨rfl, rfl, rfl⟩
  simp only [step]
  generalize (ockRpcClientConnectWithCfg s.w a e).1 = w' at ht hrest ⊢
  have hheld := World.held_of_trace ht
  have hnofree : ∀ r, Op.free r ∉ resourceOps evs := by
    intro r hr
    rcases resourceOps_connect hevs hr with h | h | h | h
    all_goals cases h
  have hgrow : ∀ r, s.w.held r = true → w'.held r = true := by
    intro r hr
    rw [hheld]
    exact live_of_noFree hnofree (.inl hr)
  have hnew : ∀ r, .alloc r ∈ resourceOps evs → w'.held r = true := by
    intro r hr
    rw [hheld]
    exact live_of_noFree hnofree (.inr hr)
  rw [World.since_of_trace ht]
  refine ⟨⟨owed, A.keep hrest.1 ?_ ?_⟩, ⟨?_, ?_⟩, ?_, I.closing⟩
  · intro cb _ x _
    exact ⟨congrFun hrest.2.1 x, congrFun hrest.2.2 x⟩
  · intro p hp
    by_cases hmem : Op.alloc (.buffer p) ∈ resourceOps evs
    · rcases resourceOps_connect hevs hmem with h | h | h | h
      · cases h
      · cases h
      · cases h
        refine .inr fun cb hcb => hown cb ?_
        rw [A.inflight]
        exact hcb
      · cases h
    · rw [hheld, live_of_notMem hmem (hnofree _)] at hp
      exact .inl hp
  · intro mr p h
    rw [ht] at h
    rcases regionBuffer_connect hevs haddr h with hold | ⟨-, hmem⟩
    · exact hgrow _ (I.safe.buffers mr p hold)
    · exact hnew _ hmem
  · intro o ho r hr hpool
    cases List.mem_cons.mp ho with
    | inl heq =>
      subst heq
      exact hnew r (mem_resourceOps_of_acquired hr)
    | inr hold => exact hgrow r (I.safe.opened o hold r hr hpool)
  · intro o ho
    cases List.mem_cons.mp ho with
    | inl heq =>
      subst heq
      intro hmem
      rcases resourceOps_connect hevs (mem_resourceOps_of_acquired hmem) with h | h | h | h
      · cases h
      · exact hnull (Resource.allocator.inj (Op.alloc.inj h)).symm
      · cases h
      · cases h
    | inr hold => exact I.nonnull o hold

/-! ### Disconnects -/

/-- The disconnects and the channels that are left are some of those there were. -/
theorem Inv.restrict (I : Inv s) {closing : List (Addr × Stage)} {opened : List (Addr × List Resource)}
    (hc : ∀ o ∈ closing, o ∈ s.closing ∨ o.2.Harmless) (ho : ∀ o ∈ opened, o ∈ s.opened) :
    Inv { w := s.w, closing := closing, opened := opened } := by
  refine ⟨I.apart, ⟨I.safe.buffers, fun o h => I.safe.opened o (ho o h)⟩,
    fun o h => I.nonnull o (ho o h), ?_⟩
  intro o h
  cases hc o h with
  | inl hold => exact I.closing o hold
  | inr hnew => exact hnew

/-- The release of something that is neither a buffer nor a region, and of no pool. -/
theorem inv_release (I : Inv s) {ev : Event} {r : Resource} (hop : ev.resourceOp? = some (.free r))
    (hbuf : ∀ p, r ≠ .buffer p) (hreg : ∀ mr, r ≠ .region mr)
    (hopened : ∀ o ∈ s.opened, r ∈ o.2 → Resource.ofPool r = false) : Inv { s with w := s.w.emit ev } := by
  obtain ⟨owed, A⟩ := I.apart
  have hops : resourceOps [ev] = [.free r] := by rw [resourceOps, List.filterMap_cons, hop]; rfl
  have htrace : (s.w.emit ev).trace = [ev] ++ s.w.trace := rfl
  have hheld : ∀ x, x ≠ r → (s.w.emit ev).held x = s.w.held x := by
    intro x hx
    rw [World.held_of_trace htrace, hops]
    exact Function.update_of_ne hx _ _
  have htr : regionBuffer (s.w.emit ev).trace = regionBuffer s.w.trace := by
    rw [htrace]
    refine regionBuffer_append ?_
    rw [hops]
    intro op hmem mr
    rw [List.mem_singleton.mp hmem]
    constructor
    · intro h
      cases h
    · intro h
      exact hreg mr (Op.free.inj h)
  refine ⟨⟨owed, A.keep rfl (fun cb _ x _ => ⟨rfl, rfl⟩) ?_⟩, ⟨?_, ?_⟩, I.nonnull, I.closing⟩
  · intro p hp
    rw [hheld _ (hbuf p).symm] at hp
    exact .inl hp
  · intro mr p h
    simp only at h ⊢
    rw [htr] at h
    rw [hheld _ (hbuf p).symm]
    exact I.safe.buffers mr p h
  · intro o ho x hx hpool
    have hne : x ≠ r := by
      rintro rfl
      rw [hopened o ho hx] at hpool
      cases hpool
    rw [hheld x hne]
    exact I.safe.opened o ho x hx hpool

/-- A disconnect goes on to a harmless step. -/
theorem inv_advance (I : Inv s) (k : Nat) (client : Addr) {stage : Stage} (h : stage.Harmless) :
    Inv { s with closing := s.closing.set k (client, stage) } := by
  refine I.restrict ?_ fun _ h => h
  intro o ho
  cases List.mem_or_eq_of_mem_set ho with
  | inl hold => exact .inl hold
  | inr hnew =>
    rw [hnew]
    exact .inr h

theorem inv_tick (I : Inv s) {k : Nat} {ret : Int} (hno : NoPool s (.tick k ret)) :
    Inv (step s (.tick k ret)) := by
  simp only [step]
  cases hk : s.closing[k]? with
  | none => exact I
  | some o =>
    obtain ⟨client, stage⟩ := o
    have hnow := hno _ hk
    have hharmless : stage.Harmless := I.closing _ (List.mem_of_getElem? hk)
    cases stage with
    | findAllocator =>
      simp only [advance]
      cases ha : s.w.gMemoryAllocator.find client with
      | none => exact inv_advance I k client trivial
      | some a => exact inv_advance I k client (hnow a ha)
    | destroyAllocator a =>
      have ha : a = 0 := hharmless
      subst ha
      have I' : Inv { s with w := s.w.emit (.poolDestroy 0 ret) } := by
        by_cases hret : ret = ockRpcOk
        · have hop : (Event.poolDestroy 0 ret).resourceOp? = some (.free (.allocator 0)) := by
            rw [hret]
            rfl
          refine inv_release I hop (by simp) (by simp) ?_
          intro o ho hmem
          exact absurd hmem (I.nonnull o ho)
        · have hop : resourceOps [Event.poolDestroy 0 ret] = [] := by
            simp [resourceOps, Event.resourceOp?, Event.acquired?, Event.released?, hret]
          exact inv_silent I rfl rfl rfl rfl hop
      have hnext : Stage.eraseAllocator.Harmless := trivial
      exact inv_advance I' k client hnext
    | eraseAllocator =>
      have I' : Inv { s with w := { s.w with gMemoryAllocator := s.w.gMemoryAllocator.erase client } } :=
        inv_silent I rfl rfl rfl (List.nil_append _).symm rfl
      have hnext : Stage.findRegion.Harmless := trivial
      exact inv_advance I' k client hnext
    | findRegion =>
      have hnone : s.w.gMemoryRegion.find client = none := hnow
      simp only [advance, hnone]
      exact inv_advance I k client trivial
    | freeBuffer mrInfo => exact hharmless.elim
    | destroyRegion mrInfo => exact hharmless.elim
    | eraseRegion =>
      have I' : Inv { s with w := { s.w with gMemoryRegion := s.w.gMemoryRegion.erase client } } :=
        inv_silent I rfl rfl rfl (List.nil_append _).symm rfl
      have hnext : Stage.closeChannel.Harmless := trivial
      exact inv_advance I' k client hnext
    | closeChannel =>
      have I' : Inv { s with w := s.w.emit (.channelClose client) } :=
        inv_release I (r := .channel client) rfl (by simp) (by simp) fun _ _ _ => rfl
      exact I'.restrict (fun o ho => .inl (List.mem_of_mem_eraseIdx ho))
        fun o ho => (List.mem_filter.mp ho).1

theorem inv_step (I : Inv s) {l : Label} (hc : Contract s l) (hno : NoPool s l) : Inv (step s l) := by
  cases l with
  | connect a e => exact inv_connect I hc
  | submit op done e => exact inv_submit I hc
  | complete k c => exact inv_complete I k c
  | receive ctx e =>
    obtain ⟨evs, ht, hevs⟩ := receive_trace s.w ctx e
    exact inv_events I (receive_frame s.w ctx e) ht hevs
  | rndvReceive ctx e =>
    obtain ⟨evs, ht, hevs⟩ := rndvReceive_trace s.w ctx e
    exact inv_events I (rndvReceive_frame s.w ctx e) ht hevs
  | disconnect client =>
    refine I.restrict ?_ fun _ h => h
    intro o ho
    cases List.mem_append.mp ho with
    | inl hold => exact .inl hold
    | inr hnew =>
      rw [List.mem_singleton.mp hnew]
      exact .inr trivial
  | tick k ret => exact inv_tick I hno

end Step

theorem inv_start {w : World} (htrace : w.trace = []) (hidle : w.inflight = []) : Inv { w := w } := by
  have hheld : ∀ r, w.held r = false := by
    intro r
    rw [World.held, htrace]
    rfl
  refine ⟨⟨[], hidle, ⟨rfl, ?_, List.Pairwise.nil⟩, ?_⟩, ⟨?_, ?_⟩, ?_, ?_⟩
  case refine_3 =>
    intro mr p h
    simp only [htrace] at h
    cases h
  -- there are no callbacks, no open channels and no disconnects
  all_goals
    intro _ h
    cases h

/-- **Teardown frees no memory in use** in a run whose disconnects find no pool: in every state the buffer
of a registered region is allocated, and what the client of an open channel holds is not released. -/
theorem teardown_safe {w : World} {s : Sys} (htrace : w.trace = []) (hidle : w.inflight = [])
    (hrun : Reached (fun s l => Contract s l ∧ NoPool s l) step { w := w } s) : Safe s :=
  (hrun.invariant (inv_start htrace hidle) fun _ _ I h => inv_step I h.1 h.2).safe

section Examples

/-- A connect with pool segments of size 0. -/
def noPoolConnect : ConnectArgs :=
  ⟨some (cstr "10.0.0.1"), 1024, true, some
    { mask := ockRpcConfigUseRpcConfigs
      configs := ⟨1, some fun _ => ⟨some ockRpcStrPreSegmentSize, some ⟨700, cstr "0"⟩⟩⟩ }⟩

/-- Client 1 connects with a pool; client 2 connects without one and disconnects. -/
def withoutPool : Sys :=
  [.connect defaultConnect (connectEnv 50 60),
    .connect noPoolConnect { channel := 2, malloc := 6000, allocator := 51, mr := 61, info := ⟨6000, 7, 0⟩ },
    .disconnect 2, .tick 0 0, .tick 0 0, .tick 0 0].foldl step { w := oneService }

/-- Client 1 is open all along, and its pool is untouched. -/
theorem teardown_safe_withoutPool :
    Reached (fun s l => Contract s l ∧ NoPool s l) step { w := oneService } withoutPool ∧ Safe withoutPool ∧
      withoutPool.closing = [] ∧
      withoutPool.opened = [(1, [.region 60, .allocator 50, .buffer 5000, .channel 1])] ∧
      regionBuffer withoutPool.w.trace 60 = some 5000 ∧ withoutPool.w.held (.buffer 5000) = true ∧
      withoutPool.w.held (.allocator 50) = true ∧ withoutPool.w.held (.channel 2) = false := by
  have hrun : Reached (fun s l => Contract s l ∧ NoPool s l) step { w := oneService } withoutPool := by
    refine Reached.refl.extend ⟨⟨⟨rfl, by decide, nofun⟩, trivial⟩, ⟨⟨rfl, by decide, nofun⟩, trivial⟩,
      ⟨trivial, trivial⟩, ⟨trivial, ?_⟩, ⟨trivial, ?_⟩, ⟨trivial, ?_⟩, trivial⟩
    · intro o ho
      cases ho
      exact nofun
    · intro o ho
      cases ho
      rfl
    · intro o ho
      cases ho
      trivial
  have hsafe := teardown_safe rfl rfl hrun
  have hopened : withoutPool.opened = [(1, [.region 60, .allocator 50, .buffer 5000, .channel 1])] := rfl
  refine ⟨hrun, hsafe, rfl, hopened, rfl, hsafe.buffers 60 5000 rfl, ?_, rfl⟩
  refine hsafe.opened (1, [.region 60, .allocator 50, .buffer 5000, .channel 1]) ?_ _ ?_ rfl
  · rw [hopened]
    exact List.mem_singleton_self _
  · simp

/-- Client 1 has a pool, and its disconnect has come to the region. -/
def bufferFreed : Sys :=
  [.connect defaultConnect (connectEnv 50 60), .disconnect 1, .tick 0 0, .tick 0 0, .tick 0 0, .tick 0 0,
    .tick 0 0].foldl step { w := oneService }

/-- Region 60 is registered and the channel of client 1 is open; the buffer at 5000 and allocator 50 are
released. -/
theorem teardown_frees_registered : Reached Contract step { w := oneService } bufferFreed ∧
    regionBuffer bufferFreed.w.trace 60 = some 5000 ∧ bufferFreed.w.held (.buffer 5000) = false ∧
    (1, [.region 60, .allocator 50, .buffer 5000, .channel 1]) ∈ bufferFreed.opened ∧
    bufferFreed.w.held (.channel 1) = true ∧ bufferFreed.w.held (.allocator 50) = false ∧
    ¬ Safe bufferFreed := by
  have hrun : Reached Contract step { w := oneService } bufferFreed :=
    Reached.refl.extend ⟨⟨rfl, by decide, nofun⟩, trivial, trivial, trivial, trivial, trivial, trivial,
      trivial⟩
  refine ⟨hrun, rfl, rfl, List.mem_singleton.mpr rfl, rfl, rfl, ?_⟩
  intro hsafe
  have := hsafe.buffers 60 5000 rfl
  cases this

end Examples

end Teardown

end Hcom4db
