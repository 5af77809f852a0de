import Hcom4db.Base.Holdings
import Hcom4db.Base.Runs
import Hcom4db.ConnectUndo
import Hcom4db.Names
import Hcom4db.OtherOps

/-!
# Hcom4db.Resources

What a process holds of the transport library, over runs of every operation and completion in any order:
services, channels, allocators, memory regions and the buffers of pools.

The maps record what was acquired, and what they record is given back by a destroy or a disconnect. What is
acquired and not recorded is lost, and so is an allocator whose destroy fails, since the disconnect erases
its entry: nothing refers to it any more.

* `lostBy`, `lostServices`: what a step acquires and does not record.
* `lostByDisconnect`: what a disconnect erases and does not give back.
* `resources_accounted`: what is held is recorded or lost, and nothing else is.
* `all_released`: if no step loses anything, a process that has closed everything holds nothing.
-/

namespace Hcom4db

namespace Resources

open HeapLog Holdings Runs
open Servers (created destroyed)

/-! ## The system -/

structure Sys where
  w : World
  /-- The clients that were returned by a connect and are not disconnected. -/
  clients : List Addr := []
  /-- The services of the transport that are created and not destroyed. -/
  services : List Addr := []
  lost : List Resource := []
  lostServices : List Addr := []

inductive Label where
  | connect (a : ConnectArgs) (e : ConnectEnv)
  | disconnect (client : Addr) (ret : Int)
  | submit (op : AsyncOp) (done : Option OckRpcCallDone) (e : SubmitEnv)
  /-- The transport runs callback `k` of those it owes. -/
  | complete (k : Nat) (c : Completion)
  /-- An operation that works on no client. -/
  | other (op : OtherOp)
  /-- What touches neither a map nor a resource: timeouts, the logger, the memory and the pools of the user. -/
  | user (w' : World)

/-- No entry is made for what a connect that succeeds has acquired: the handle has one already. -/
def alreadyRecorded (w : World) (client : Addr) : Resource → Bool
  | .channel _ => false
  | .allocator _ => (w.gMemoryAllocator.find client).isSome
  | .buffer _ => (w.gMemoryRegion.find client).isSome
  | .region _ => (w.gMemoryRegion.find client).isSome

/-- What a connect acquires and does not record: everything if it fails, and otherwise what it makes no entry
for. -/
def lostBy (w : World) (a : ConnectArgs) (e : ConnectEnv) : List Resource :=
  let r := ockRpcClientConnectWithCfg w a e
  (acquired (w.since r.1)).filter fun x => r.2 ≠ ockRpcOk || alreadyRecorded w e.channel x

/-- The null allocators of clients without a pool are no allocators. -/
def allocatorEntry (w : World) (client : Addr) : Option Addr :=
  (w.gMemoryAllocator.find client).filter (· ≠ 0)

/-- A disconnect erases the entry of its allocator when `Net_MemoryAllocatorDestroy` fails, too. -/
def lostByDisconnect (w : World) (client : Addr) (ret : Int) : List Resource :=
  if ret = ockRpcOk then [] else (allocatorEntry w client).toList.map Resource.allocator

/-- A create whose name is there already makes no entry for its service. -/
def lostServices (w : World) : OtherOp → List Addr
  | .createServer a e =>
    if (a.name.bind w.gServiceMap.find).isSome then
      created (w.since (ockRpcServerCreateWithCfg w a e).1)
    else []
  | _ => []

def step (s : Sys) : Label → Sys
  | .connect a e =>
    let r := ockRpcClientConnectWithCfg s.w a e
    { s with
      w := r.1
      clients := if r.2 = ockRpcOk then e.channel :: s.clients else s.clients
      lost := lostBy s.w a e ++ s.lost }
  | .disconnect client ret =>
    { s with
      w := ockRpcClientDisconnect s.w client ret
      clients := s.clients.filter (· ≠ client)
      lost := lostByDisconnect s.w client ret ++ s.lost.filter (· ≠ .channel client) }
  | .submit op done e => { s with w := (op.submit s.w done e).1 }
  | .complete k c =>
    match s.w.inflight[k]? with
    | none => s
    | some cb => { s with w := runCallback (dequeue s.w k) cb c }
  | .other op =>
    let w := op.run s.w
    { s with
      w := w
      services := (created (s.w.since w) ++ s.services).filter (· ∉ destroyed (s.w.since w))
      lostServices := lostServices s.w op ++ s.lostServices }
  | .user w' => { s with w := w' }

/-- The operations that work on no client. -/
def servesOnly : OtherOp → Bool
  | .connect _ _ | .eraseAllocator _ | .releaseRegion _ | .closeChannel _ => false
  | _ => true

/-- What `malloc` and the transport hand out to a connect is not in use, and the region reports the
buffer it was registered with. -/
structure FreshConnect (w : World) (e : ConnectEnv) : Prop where
  allocator : w.held (.allocator e.allocator) = false
  notNull : e.allocator ≠ 0
  region : w.held (.region e.mr) = false
  buffer : w.held (.buffer e.malloc) = false
  noRecord : ∀ cb ∈ w.inflight, e.malloc ∉ ownedBy w cb
  reported : e.info.lAddress = e.malloc

/-- The events of no resource of a client. -/
def NoResource (ev : Event) : Prop := ev.resourceOp? = none

/-- A step that touches neither a map nor a resource. -/
structure Idle (w w' : World) : Prop where
  gServiceMap : w'.gServiceMap = w.gServiceMap
  gMemoryAllocator : w'.gMemoryAllocator = w.gMemoryAllocator
  gMemoryRegion : w'.gMemoryRegion = w.gMemoryRegion
  inflight : w'.inflight = w.inflight
  heap : ∀ x, w'.cbInfos x = w.cbInfos x ∧ w'.reqAddrs x = w.reqAddrs x
  trace : ∃ evs, w'.trace = evs ++ w.trace ∧ ∀ ev ∈ evs, NoResource ev

/-- `malloc` and the transport hand out what is not in use. -/
def Contract (s : Sys) : Label → Prop
  | .connect _ e => FreshConnect s.w e
  | .disconnect _ _ => True
  | .submit _ _ e => FreshHeap s.w e
  | .complete _ _ => True
  | .other op => servesOnly op = true ∧ ∀ a e, op = .createServer a e → e.service ∉ s.services
  | .user w' => Idle s.w w'

/-- What the maps record. -/
def Recorded (s : Sys) : Resource → Prop
  | .channel c => c ∈ s.clients
  | .allocator a => a ≠ 0 ∧ ∃ c, s.w.gMemoryAllocator.find c = some a
  | .region mr => ∃ c info, s.w.gMemoryRegion.find c = some info ∧ info.mr = mr
  | .buffer p => ∃ c info, s.w.gMemoryRegion.find c = some info ∧ info.mrInfo.lAddress = p

/-! ## The books -/

/-- What is held of one kind of resource. -/
def book (kind : Addr → Resource) (entry : Addr → Option Addr) (w : World) (lost : List Resource) :
    Books Addr Addr :=
  ⟨fun x => w.held (kind x) = true, entry, fun x => kind x ∈ lost⟩

def allocators (w : World) (lost : List Resource) : Books Addr Addr :=
  book .allocator (allocatorEntry w) w lost

def regions (w : World) (lost : List Resource) : Books Addr Addr :=
  book .region (fun c => (w.gMemoryRegion.find c).map OckRpcMrInfo.mr) w lost

def buffers (w : World) (lost : List Resource) : Books Addr Addr :=
  book .buffer (fun c => (w.gMemoryRegion.find c).map fun info => info.mrInfo.lAddress) w lost

def servers (s : Sys) : Books CStr Addr :=
  ⟨(· ∈ s.services), s.w.gServiceMap.find, (· ∈ s.lostServices)⟩

/-- What is held for clients. -/
structure Clients (w : World) (clients : List Addr) (lost : List Resource) : Prop where
  apart : ∃ owed, Apart (fun _ => True) w [] owed
  null : w.held (.allocator 0) = false
  channels : ∀ c, w.held (.channel c) = true ↔ c ∈ clients ∨ .channel c ∈ lost
  allocators : (allocators w lost).Kept
  regions : (regions w lost).Kept
  buffers : (buffers w lost).Kept

structure Inv (s : Sys) : Prop where
  clients : Clients s.w s.clients s.lost
  servers : (servers s).Kept

section Maps

variable {w w' w'' : World} {client : Addr}

theorem allocatorEntry_eq_some {a : Addr} :
    allocatorEntry w client = some a ↔ a ≠ 0 ∧ w.gMemoryAllocator.find client = some a := by
  simp only [allocatorEntry, Option.filter_eq_some_iff, decide_eq_true_eq]
  exact and_comm

theorem allocatorEntry_of_none (h : w.gMemoryAllocator.find client = none) : allocatorEntry w client = none := by
  rw [allocatorEntry, h]
  rfl

/-- Evaluating `g_memoryAllocator[client]` enters at most a null allocator. -/
theorem allocatorEntry_of_maps (h : MapFrame client w w') : allocatorEntry w' = allocatorEntry w := by
  funext c
  rcases h.allocator with heq | heq
  · rw [allocatorEntry, heq]
    rfl
  · rw [allocatorEntry, allocatorEntry, heq, find_touch]
    split
    · rename_i hc
      subst hc
      cases hf : w.gMemoryAllocator.find c with
      | none => simp [World.allocatorOf, StdMap.subscript, hf]
      | some a => rw [allocatorOf_of_find hf]
    · rfl

/-- An operation leaves the maps alone, but for null allocators it enters. -/
def MapsKept (w w' : World) : Prop := ∃ client, MapFrame client w w'

theorem MapsKept.of_eq (hr : w'.gMemoryRegion = w.gMemoryRegion)
    (ha : w'.gMemoryAllocator = w.gMemoryAllocator) : MapsKept w w' := ⟨0, MapFrame.of_eq hr ha⟩

theorem MapsKept.refl (w : World) : MapsKept w w := .of_eq rfl rfl

theorem runCallback_mapsKept (cb : ChannelCallback) (c : Completion)
    (hw : w'.gMemoryRegion = w.gMemoryRegion ∧ w'.gMemoryAllocator = w.gMemoryAllocator) :
    MapsKept w (runCallback w' cb c) := by
  rcases runCallback_maps w' cb c with ⟨ha, hr⟩ | ⟨client, -, hm⟩
  · exact .of_eq (hr.trans hw.1) (ha.trans hw.2)
  · exact ⟨client, (MapFrame.of_eq hw.1 hw.2).trans hm⟩

section Submit

variable {done : Option OckRpcCallDone} {e : SubmitEnv} {info : AsyncCbInfo} {p : Post}
  {cb : ChannelCallbackFunc}

theorem submitAsync_maps (w : World) : MapsKept w (submitAsync w e info cb p).1 := by
  unfold submitAsync
  split
  · exact .refl w
  · simp only [World.postAsync]
    split
    · exact .of_eq rfl rfl
    · rw [World.handOver]
      split
      · exact runCallback_mapsKept _ _ ⟨rfl, rfl⟩
      · exact .of_eq rfl rfl

theorem callForResponse_maps (w : World) (response : Addr) : MapsKept w (callForResponse w p response e).1 := by
  unfold callForResponse
  simp only
  split
  · exact .of_eq rfl rfl
  · exact .of_eq rfl rfl

theorem oneSided_maps (w : World) : MapsKept w (oneSided w p done e).1 := by
  cases done with
  | none => exact .of_eq rfl rfl
  | some d => exact submitAsync_maps w

theorem responseOp_maps (op : ResponseOp) (w : World) (rsp : Addr) : MapsKept w (op.submit w rsp done e).1 := by
  cases op with
  | clientCall client msgId request =>
    simp only [ResponseOp.submit, ockRpcClientCall]
    split
    · exact .refl w
    · split
      · exact .refl w
      · split
        · unfold ockRpcCallSync orErr
          split
          · exact callForResponse_maps w _
          · exact .of_eq rfl rfl
        · exact submitAsync_maps w
  | callWithParam client msgId reqIov =>
    rcases callWithParam_maps w ⟨client, msgId, reqIov, rsp, done⟩ e with ⟨-, h⟩ | ⟨-, h⟩
    · rw [ResponseOp.submit, h]
      exact .refl w
    · exact ⟨client, h⟩
  | callRndv client msgId request =>
    simp only [ResponseOp.submit, ockRpcClientCallRndv]
    split
    · exact .refl w
    · split
      · exact .refl w
      · split
        · exact callForResponse_maps w _
        · exact submitAsync_maps w
  | callRndvIov client msgId request =>
    simp only [ResponseOp.submit, ockRpcClientCallRndvIov]
    split
    · exact .refl w
    · split
      · exact callForResponse_maps w _
      · exact submitAsync_maps w

/-- An operation enters null allocators at most. -/
theorem submit_maps (op : AsyncOp) (w : World) : MapsKept w (op.submit w done e).1 := by
  cases op with
  | call op rsp => exact responseOp_maps op w rsp
  | read client req =>
    cases req with
    | none => exact .refl w
    | some req => exact oneSided_maps w
  | readSgl client req => exact oneSided_maps w
  | write client req =>
    cases req with
    | none => exact .refl w
    | some req => exact oneSided_maps w
  | writeSgl client req => exact oneSided_maps w
  | serverReply reply =>
    simp only [AsyncOp.submit, ockRpcServerReply]
    split
    · exact .refl w
    · split
      · exact .refl w
      · split
        · exact .refl w
        · exact submitAsync_maps w
  | serverReplyRndv ctx reply =>
    simp only [AsyncOp.submit, ockRpcServerReplyRndv]
    split
    · exact .refl w
    · split
      · exact .refl w
      · exact submitAsync_maps w

end Submit

end Maps

/-! ## Connect -/

section Connect

variable {w w' : World} {clients : List Addr} {lost lost' : List Resource} {a : ConnectArgs} {e : ConnectEnv}
  {kind : Addr → Resource} {entry entry' : Addr → Option Addr} {new : List Resource}

theorem resourceOps_of_released {evs : List Event} (h : released evs = []) :
    resourceOps evs = (acquired evs).map Op.alloc := by
  rw [resourceOps, acquired, List.map_filterMap]
  refine List.filterMap_congr fun ev hev => ?_
  have hnone : ev.released? = none := List.filterMap_eq_nil_iff.mp h ev hev
  rw [Event.resourceOp?, hnone]
  cases ev.acquired? <;> rfl

/-- A connect acquires its resources in order, up to some step. -/
theorem connect_acquired (w : World) (a : ConnectArgs) (e : ConnectEnv) :
    acquired (w.since (ockRpcClientConnectWithCfg w a e).1) <:+
        [.region e.mr, .allocator e.allocator, .buffer e.malloc, .channel e.channel] ∧
      ∀ r, (ockRpcClientConnectWithCfg w a e).1.held r = true ↔
        r ∈ acquired (w.since (ockRpcClientConnectWithCfg w a e).1) ∨ w.held r = true := by
  obtain ⟨service, option, req, evs, -, hevs, ht⟩ := connect_events w a e
  rw [World.since_of_trace ht]
  refine ⟨hevs.filterMap Event.acquired?, fun r => ?_⟩
  have hrel : released evs = [] := by
    have h : released evs <:+ [] := hevs.filterMap Event.released?
    exact List.suffix_nil.mp h
  rw [World.held_of_trace ht, resourceOps_of_released hrel, live_allocs]
  split
  · rename_i hr
    exact iff_of_true rfl (.inl hr)
  · rename_i hr
    exact (or_iff_right hr).symm

theorem mem_lostBy {r : Resource} : r ∈ lostBy w a e ↔
    r ∈ acquired (w.since (ockRpcClientConnectWithCfg w a e).1) ∧
      ((ockRpcClientConnectWithCfg w a e).2 ≠ ockRpcOk ∨ alreadyRecorded w e.channel r = true) := by
  simp [lostBy]

theorem book_lose (h : (book kind entry w lost).Kept) (hnew : ∀ x, kind x ∈ new → w.held (kind x) = false)
    (hheld : ∀ r, w'.held r = true ↔ r ∈ new ∨ w.held r = true) (hentry : ∀ c, entry' c = entry c)
    (hlost : ∀ x, kind x ∈ lost' ↔ kind x ∈ new ∨ kind x ∈ lost) : (book kind entry' w' lost').Kept :=
  h.lose (fun x hx => Bool.eq_false_iff.mp (hnew x hx)) (fun x => hheld (kind x)) hentry hlost

theorem book_record (h : (book kind entry w lost).Kept) {x client : Addr} (hx : w.held (kind x) = false)
    (hnew : ∀ y, kind y ∈ new ↔ y = x) (hheld : ∀ r, w'.held r = true ↔ r ∈ new ∨ w.held r = true)
    (hc : entry client = none) (hentry : ∀ c, entry' c = if c = client then some x else entry c)
    (hlost : ∀ y, kind y ∈ lost' ↔ kind y ∈ lost) : (book kind entry' w' lost').Kept := by
  refine h.record (Bool.eq_false_iff.mp hx) hc (fun y => ?_) hentry hlost
  exact (hheld (kind y)).trans (or_congr_left (hnew y))

theorem book_release (client : Addr) (h : (book kind entry w lost).Kept)
    (hheld : ∀ x, w'.held (kind x) = true ↔ entry client ≠ some x ∧ w.held (kind x) = true)
    (hentry : ∀ c, entry' c = if c = client then none else entry c)
    (hlost : ∀ x, kind x ∈ lost' ↔ kind x ∈ lost) : (book kind entry' w' lost').Kept :=
  h.release hheld hentry hlost

/-- What is as it was, but for resources of other kinds. -/
theorem book_congr (h : (book kind entry w lost).Kept)
    (hheld : ∀ x, w'.held (kind x) = true ↔ w.held (kind x) = true) (hentry : ∀ c, entry' c = entry c)
    (hlost : ∀ x, kind x ∈ lost' ↔ kind x ∈ lost) : (book kind entry' w' lost').Kept :=
  h.congr hheld hentry hlost

theorem FreshConnect.fresh (h : FreshConnect w e) {r : Resource}
    (hr : r ∈ acquired (w.since (ockRpcClientConnectWithCfg w a e).1)) (hne : ∀ c, r ≠ .channel c) :
    w.held r = false := by
  have hmem := (connect_acquired w a e).1.mem hr
  simp only [List.mem_cons, List.not_mem_nil, or_false] at hmem
  rcases hmem with rfl | rfl | rfl | rfl
  · exact h.region
  · exact h.allocator
  · exact h.buffer
  · exact absurd rfl (hne _)

theorem apart_connect (h : ∃ owed, Apart (fun _ => True) w [] owed) (hf : FreshConnect w e) :
    ∃ owed, Apart (fun _ => True) (ockRpcClientConnectWithCfg w a e).1 [] owed := by
  obtain ⟨owed, A⟩ := h
  have B := connect_beside w a e
  refine ⟨owed, A.keep B.inflight (fun cb _ x _ => B.heap x List.not_mem_nil) fun p hp => ?_⟩
  obtain ⟨hacq, hheld⟩ := connect_acquired w a e
  rcases (hheld _).mp hp with hnew | hold
  · have hmem := hacq.mem hnew
    simp only [List.mem_cons, reduceCtorEq, Resource.buffer.injEq, List.not_mem_nil, or_false, false_or] at hmem
    rw [hmem]
    exact .inr fun cb hcb => hf.noRecord cb (by rw [A.inflight]; exact hcb)
  · exact .inl hold

theorem Clients.connect_fails (C : Clients w clients lost) (hf : FreshConnect w e)
    (hst : (ockRpcClientConnectWithCfg w a e).2 ≠ ockRpcOk)
    (hmaps : (ockRpcClientConnectWithCfg w a e).1.gMemoryAllocator = w.gMemoryAllocator ∧
      (ockRpcClientConnectWithCfg w a e).1.gMemoryRegion = w.gMemoryRegion) :
    Clients (ockRpcClientConnectWithCfg w a e).1 clients (lostBy w a e ++ lost) := by
  obtain ⟨hacq, hheld⟩ := connect_acquired w a e
  have hlost : ∀ r, r ∈ lostBy w a e ++ lost ↔
      r ∈ acquired (w.since (ockRpcClientConnectWithCfg w a e).1) ∨ r ∈ lost := by
    intro r
    rw [List.mem_append, mem_lostBy]
    exact or_congr_left (and_iff_left (.inl hst))
  refine ⟨apart_connect C.apart hf, ?_, fun c => ?_, ?_, ?_, ?_⟩
  · refine Bool.eq_false_iff.mpr fun h0 => ?_
    rcases (hheld _).mp h0 with hnew | hold
    · have hmem := hacq.mem hnew
      simp only [List.mem_cons, reduceCtorEq, Resource.allocator.injEq, List.not_mem_nil, or_false,
        false_or] at hmem
      exact hf.notNull hmem.symm
    · rw [C.null] at hold
      cases hold
  · rw [hheld, hlost, C.channels]
    exact or_left_comm
  · refine book_lose C.allocators (fun x hx => hf.fresh hx (by simp)) hheld (fun c => ?_) fun x => hlost _
    rw [allocatorEntry, hmaps.1]
    rfl
  · refine book_lose C.regions (fun x hx => hf.fresh hx (by simp)) hheld (fun c => ?_) fun x => hlost _
    rw [hmaps.2]
  · refine book_lose C.buffers (fun x hx => hf.fresh hx (by simp)) hheld (fun c => ?_) fun x => hlost _
    rw [hmaps.2]

theorem Clients.connect_without_pool (C : Clients w clients lost) (hf : FreshConnect w e) {service : Addr}
    {req : ConnectRequest}
    (h : ockRpcClientConnectWithCfg w a e = (w.emit (.channelConnect service e.channel req), ockRpcOk)) :
    Clients (ockRpcClientConnectWithCfg w a e).1 (e.channel :: clients) (lostBy w a e ++ lost) := by
  have hapart := apart_connect C.apart hf (a := a)
  have hheld := (connect_acquired w a e).2
  have hacq : acquired (w.since (ockRpcClientConnectWithCfg w a e).1) = [.channel e.channel] := by
    have ht : (w.emit (.channelConnect service e.channel req)).trace =
        [.channelConnect service e.channel req] ++ w.trace := rfl
    rw [h, World.since_of_trace ht]
    rfl
  have hlost : lostBy w a e = [] := by
    refine List.eq_nil_iff_forall_not_mem.mpr fun r hr => ?_
    rw [mem_lostBy, hacq, h] at hr
    obtain ⟨hr, hno⟩ := hr
    rw [List.mem_singleton.mp hr] at hno
    rcases hno with hno | hno
    · exact hno rfl
    · cases hno
  rw [hacq] at hheld
  rw [hlost, List.nil_append]
  rw [h] at hheld hapart ⊢
  refine ⟨hapart, C.null, fun c => ?_, C.allocators.congr (fun x => ?_) (fun _ => rfl) (fun _ => Iff.rfl),
    C.regions.congr (fun x => ?_) (fun _ => rfl) (fun _ => Iff.rfl),
    C.buffers.congr (fun x => ?_) (fun _ => rfl) (fun _ => Iff.rfl)⟩
  · rw [hheld, C.channels, List.mem_singleton, Resource.channel.injEq, List.mem_cons, or_assoc]
  · exact (hheld _).trans (or_iff_right (by simp))
  · exact (hheld _).trans (or_iff_right (by simp))
  · exact (hheld _).trans (or_iff_right (by simp))

/-- A resource of a connect with a pool goes into its entry, or is lost if that is taken. -/
theorem book_enter (free : Prop) [Decidable free] (h : (book kind entry w lost).Kept) {x client : Addr}
    (hx : w.held (kind x) = false) (hnew : ∀ y, kind y ∈ new ↔ y = x)
    (hheld : ∀ r, w'.held r = true ↔ r ∈ new ∨ w.held r = true)
    (hc : free → entry client = none)
    (hentry : ∀ c, entry' c = if c = client ∧ free then some x else entry c)
    (hlost : ∀ y, kind y ∈ lost' ↔ (y = x ∧ ¬ free) ∨ kind y ∈ lost) : (book kind entry' w' lost').Kept := by
  by_cases hfree : free
  · refine book_record h hx hnew hheld (hc hfree) (fun c => ?_) fun y => ?_
    · rw [hentry]
      simp only [hfree, and_true]
    · rw [hlost]
      simp [hfree]
  · refine book_lose h (fun y hy => ?_) hheld (fun c => ?_) fun y => ?_
    · rw [(hnew y).mp hy, hx]
    · rw [hentry]
      simp [hfree]
    · rw [hlost, hnew]
      simp [hfree]

theorem Clients.connect_with_pool (C : Clients w clients lost) (hf : FreshConnect w e) {service : Addr}
    {option : NetMemoryAllocatorOptions} {req : ConnectRequest}
    (h : ockRpcClientConnectWithCfg w a e =
      ({ w with
          gMemoryAllocator := w.gMemoryAllocator.insertNew e.channel e.allocator
          gMemoryRegion := w.gMemoryRegion.insertNew e.channel ⟨e.mr, e.info, service⟩
          trace := poolEvents service option e ++ .channelConnect service e.channel req :: w.trace },
        ockRpcOk)) :
    Clients (ockRpcClientConnectWithCfg w a e).1 (e.channel :: clients) (lostBy w a e ++ lost) := by
  have hapart := apart_connect C.apart hf (a := a)
  have hheld := (connect_acquired w a e).2
  have hacq : acquired (w.since (ockRpcClientConnectWithCfg w a e).1) =
      [.region e.mr, .allocator e.allocator, .buffer e.malloc, .channel e.channel] := by
    have ht : poolEvents service option e ++ .channelConnect service e.channel req :: w.trace =
        (poolEvents service option e ++ [.channelConnect service e.channel req]) ++ w.trace := by
      rw [List.append_assoc]
      rfl
    rw [h, World.since_of_trace ht]
    rfl
  have hlost : ∀ r, r ∈ lostBy w a e ++ lost ↔
      (r ∈ [.region e.mr, .allocator e.allocator, .buffer e.malloc, .channel e.channel] ∧
        alreadyRecorded w e.channel r = true) ∨ r ∈ lost := by
    intro r
    rw [List.mem_append, mem_lostBy, hacq, h]
    simp
  rw [hacq] at hheld
  generalize lostBy w a e ++ lost = lost' at hlost ⊢
  rw [h] at hheld hapart ⊢
  refine ⟨hapart, ?_, fun c => ?_, ?_, ?_, ?_⟩
  · refine Bool.eq_false_iff.mpr fun h0 => ?_
    rcases (hheld _).mp h0 with hnew | hold
    · simp only [List.mem_cons, reduceCtorEq, Resource.allocator.injEq, List.not_mem_nil, or_false,
        false_or] at hnew
      exact hf.notNull hnew.symm
    · rw [C.null] at hold
      cases hold
  · rw [hheld, hlost, C.channels]
    simp [alreadyRecorded, or_assoc]
  · refine book_enter (w.gMemoryAllocator.find e.channel = none) C.allocators hf.allocator (fun y => by simp) hheld
      allocatorEntry_of_none (fun c => ?_) fun y => ?_
    · simp only [allocatorEntry, StdMap.find_insertNew]
      by_cases hc : c = e.channel
      · subst hc
        cases hfind : w.gMemoryAllocator.find e.channel with
        | none => simp [hf.notNull]
        | some x => simp
      · simp [hc]
    · rw [hlost]
      simp [alreadyRecorded, Option.isSome_iff_ne_none]
  · refine book_enter (w.gMemoryRegion.find e.channel = none) C.regions hf.region (fun y => by simp) hheld
      (fun hn => by rw [hn]; rfl) (fun c => ?_) fun y => ?_
    · simp only [StdMap.find_insertNew]
      by_cases hc : c = e.channel
      · subst hc
        cases hfind : w.gMemoryRegion.find e.channel with
        | none => simp
        | some x => simp
      · simp [hc]
    · rw [hlost]
      simp [alreadyRecorded, Option.isSome_iff_ne_none]
  · refine book_enter (w.gMemoryRegion.find e.channel = none) C.buffers hf.buffer (fun y => by simp) hheld
      (fun hn => by rw [hn]; rfl) (fun c => ?_) fun y => ?_
    · simp only [StdMap.find_insertNew]
      by_cases hc : c = e.channel
      · subst hc
        cases hfind : w.gMemoryRegion.find e.channel with
        | none => simp [hf.reported]
        | some x => simp
      · simp [hc]
    · rw [hlost]
      simp [alreadyRecorded, Option.isSome_iff_ne_none]

theorem Clients.connect (C : Clients w clients lost) (hf : FreshConnect w e) :
    Clients (ockRpcClientConnectWithCfg w a e).1
      (if (ockRpcClientConnectWithCfg w a e).2 = ockRpcOk then e.channel :: clients else clients)
      (lostBy w a e ++ lost) := by
  rcases connect_outcome w a e with ⟨evs, st, h, hst, -⟩ | ⟨service, req, h⟩ |
    ⟨ip, m, service, flags, option, req, -, h⟩
  · have hst' : (ockRpcClientConnectWithCfg w a e).2 ≠ ockRpcOk := by
      rw [h]
      exact hst
    rw [if_neg hst']
    refine C.connect_fails hf hst' ?_
    rw [h]
    exact ⟨rfl, rfl⟩
  · rw [if_pos (by rw [h])]
    exact C.connect_without_pool hf h
  · rw [if_pos (by rw [h])]
    exact C.connect_with_pool hf h

end Connect

/-! ## Disconnect -/

section Disconnect

variable {w w' : World} {clients : List Addr} {lost : List Resource} {client : Addr} {ret : Int}

theorem mem_released_disconnect {allocator : Option Addr} {region : Option OckRpcMrInfo} {r : Resource} :
    r ∈ released (disconnectEvents allocator region client ret) ↔ r = .channel client ∨
      (∃ info ∈ region, r = .region info.mr ∨ r = .buffer info.mrInfo.lAddress) ∨
      ret = ockRpcOk ∧ ∃ a ∈ allocator, r = .allocator a := by
  have hmem : released (disconnectEvents allocator region client ret) =
      Resource.channel client :: (region.elim [] fun info =>
        [.region info.mr, .buffer info.mrInfo.lAddress]) ++
          if ret = ockRpcOk then allocator.elim [] fun a => [.allocator a] else [] := by
    by_cases hret : ret = ockRpcOk
    · cases region <;> cases allocator <;>
        simp [disconnectEvents, released, Event.released?, hret]
    · cases region <;> cases allocator <;>
        simp [disconnectEvents, released, Event.released?, hret]
  rw [hmem]
  by_cases hret : ret = ockRpcOk
  · cases region <;> cases allocator <;> simp [hret, or_assoc]
  · cases region <;> simp [hret]

theorem disconnect_held (w : World) (client : Addr) (ret : Int) (r : Resource) :
    (ockRpcClientDisconnect w client ret).held r = true ↔
      r ∉ released (disconnectEvents (w.gMemoryAllocator.find client) (w.gMemoryRegion.find client) client ret) ∧
        w.held r = true := by
  rw [World.held_of_trace (disconnect_trace w client ret), Undo.resourceOps_disconnect, live_frees]
  split
  · rename_i hr
    exact iff_of_false (by simp) fun h => h.1 hr
  · rename_i hr
    exact (and_iff_right hr).symm

/-- A disconnect frees the buffer of its client. -/
theorem disconnect_heap {x : Addr} (hx : x ∉ w.regionBuffer client) :
    (ockRpcClientDisconnect w client ret).cbInfos x = w.cbInfos x ∧
      (ockRpcClientDisconnect w client ret).reqAddrs x = w.reqAddrs x := by
  have hd : ∀ w1 : World, (destroyAllocator w1 client ret).gMemoryRegion = w1.gMemoryRegion ∧
      (destroyAllocator w1 client ret).cbInfos = w1.cbInfos ∧
      (destroyAllocator w1 client ret).reqAddrs = w1.reqAddrs := by
    intro w1
    unfold destroyAllocator
    split
    · exact ⟨rfl, rfl, rfl⟩
    · exact ⟨rfl, rfl, rfl⟩
  rw [disconnect_steps]
  have hb := releaseRegion_beside (eraseAllocator (destroyAllocator w client ret) client) client
  have hx' : x ∉ (eraseAllocator (destroyAllocator w client ret) client).regionBuffer client := by
    rw [World.regionBuffer, eraseAllocator, (hd w).1]
    exact hx
  obtain ⟨h1, h2⟩ := hb.heap x hx'
  exact ⟨h1.trans (congrFun (hd w).2.1 x), h2.trans (congrFun (hd w).2.2 x)⟩

theorem apart_disconnect (C : Clients w clients lost) :
    ∃ owed, Apart (fun _ => True) (ockRpcClientDisconnect w client ret) [] owed := by
  obtain ⟨owed, A⟩ := C.apart
  have hin : (ockRpcClientDisconnect w client ret).inflight = w.inflight := by
    rw [(disconnect_frame w client ret).rest]
  refine ⟨owed, A.keep hin (fun cb hcb x hx => disconnect_heap fun hbuf => ?_) fun p hp => ?_⟩
  · -- the buffer is held, and no record is at a held buffer
    obtain ⟨info, hf, rfl⟩ : ∃ info, w.gMemoryRegion.find client = some info ∧ info.mrInfo.lAddress = x := by
      simpa [World.regionBuffer] using hbuf
    have hentry : (buffers w lost).entry client = some info.mrInfo.lAddress := by
      simp [buffers, book, hf]
    have hheld : w.held (.buffer info.mrInfo.lAddress) = true := C.buffers.held_of_entry hentry
    rw [A.buffers cb hcb _ hx] at hheld
    cases hheld
  · exact .inl ((disconnect_held w client ret _).mp hp).2

theorem mem_lostByDisconnect {r : Resource} : r ∈ lostByDisconnect w client ret ↔
    ret ≠ ockRpcOk ∧ ∃ a, allocatorEntry w client = some a ∧ r = .allocator a := by
  unfold lostByDisconnect
  split
  · rename_i hret
    simp [hret]
  · rename_i hret
    simp only [List.mem_map, Option.mem_toList]
    constructor
    · rintro ⟨a, ha, rfl⟩
      exact ⟨hret, a, ha, rfl⟩
    · rintro ⟨-, a, ha, rfl⟩
      exact ⟨a, ha, rfl⟩

theorem allocatorEntry_disconnect (w : World) (client : Addr) (ret : Int) (c : Addr) :
    allocatorEntry (ockRpcClientDisconnect w client ret) c =
      if c = client then none else allocatorEntry w c := by
  rw [allocatorEntry, (Registry.disconnect_maps w client ret).1, StdMap.find_erase]
  split
  · rfl
  · rfl

/-- The allocator is given back if its destroy succeeds, and is lost with its entry if not. -/
theorem allocators_disconnect (C : Clients w clients lost) (client : Addr) (ret : Int) :
    (allocators (ockRpcClientDisconnect w client ret)
      (lostByDisconnect w client ret ++ lost.filter (· ≠ .channel client))).Kept := by
  have hheld := disconnect_held w client ret
  simp only [mem_released_disconnect] at hheld
  have hlost : ∀ a, Resource.allocator a ∈ lostByDisconnect w client ret ++ lost.filter (· ≠ .channel client) ↔
      (ret ≠ ockRpcOk ∧ allocatorEntry w client = some a) ∨ .allocator a ∈ lost := by
    intro a
    rw [List.mem_append, mem_lostByDisconnect]
    simp
  by_cases hret : ret = ockRpcOk
  · refine book_release client C.allocators (fun a => ?_) (allocatorEntry_disconnect w client ret) fun a => ?_
    · rw [ne_eq, allocatorEntry_eq_some]
      refine (hheld _).trans ⟨fun h => ⟨fun hc => h.1 ?_, h.2⟩, fun h => ⟨fun hr => h.1 ?_, h.2⟩⟩
      · exact .inr (.inr ⟨hret, a, hc.2, rfl⟩)
      · simp only [reduceCtorEq, Resource.allocator.injEq, or_self, and_false, exists_false, false_or] at hr
        obtain ⟨-, a', ha', rfl⟩ := hr
        refine ⟨?_, ha'⟩
        rintro rfl
        rw [C.null] at h
        cases h.2
    · rw [hlost]
      simp [hret]
  · refine C.allocators.drop (fun a => ?_) (allocatorEntry_disconnect w client ret) fun a => ?_
    · refine (hheld _).trans (and_iff_right ?_)
      simp [hret]
    · refine (hlost a).trans ?_
      simp only [ne_eq, hret, not_false_eq_true, true_and]
      exact Iff.rfl

theorem Clients.disconnect (C : Clients w clients lost) (client : Addr) (ret : Int) :
    Clients (ockRpcClientDisconnect w client ret) (clients.filter (· ≠ client))
      (lostByDisconnect w client ret ++ lost.filter (· ≠ .channel client)) := by
  have hregions := (Registry.disconnect_maps w client ret).2
  have hheld := disconnect_held w client ret
  simp only [mem_released_disconnect] at hheld
  have hlost : ∀ r, (∀ a, r ≠ .allocator a) →
      (r ∈ lostByDisconnect w client ret ++ lost.filter (· ≠ .channel client) ↔
        r ∈ lost ∧ r ≠ .channel client) := by
    intro r hr
    rw [List.mem_append, List.mem_filter, decide_eq_true_eq]
    refine or_iff_right fun hmem => ?_
    obtain ⟨-, a, -, ha⟩ := mem_lostByDisconnect.mp hmem
    exact hr a ha
  refine ⟨apart_disconnect C, ?_, fun c => ?_, allocators_disconnect C client ret, ?_, ?_⟩
  · rw [← Bool.not_eq_true, hheld, C.null]
    simp
  · rw [hheld, C.channels, hlost _ (by simp)]
    simp only [List.mem_filter, decide_eq_true_eq, ne_eq, Resource.channel.injEq]
    simp
    tauto
  · refine book_release client C.regions (fun mr => ?_) (fun c => ?_) fun mr => ?_
    · refine (hheld _).trans (and_congr_left fun _ => not_congr ?_)
      simp [eq_comm]
    · rw [hregions, StdMap.find_erase]
      split
      · rfl
      · rfl
    · rw [hlost _ (by simp)]
      simp
  · refine book_release client C.buffers (fun p => ?_) (fun c => ?_) fun p => ?_
    · refine (hheld _).trans (and_congr_left fun _ => not_congr ?_)
      simp [eq_comm]
    · rw [hregions, StdMap.find_erase]
      split
      · rfl
      · rfl
    · rw [hlost _ (by simp)]
      simp

end Disconnect

/-! ## Requests, completions and servers -/

section Others

variable {w w' : World} {clients : List Addr} {lost : List Resource} {s : Sys}

/-- A step that holds and records the same for clients. -/
theorem Clients.keep (C : Clients w clients lost) (hheld : w'.held = w.held)
    (hallocators : allocatorEntry w' = allocatorEntry w) (hregions : w'.gMemoryRegion = w.gMemoryRegion)
    (hapart : ∃ owed, Apart (fun _ => True) w' [] owed) : Clients w' clients lost := by
  refine ⟨hapart, by rw [hheld]; exact C.null, fun c => by rw [hheld]; exact C.channels c, ?_, ?_, ?_⟩
  · refine book_congr C.allocators (fun x => by rw [hheld]) (fun c => ?_) fun _ => Iff.rfl
    rw [hallocators]
  · refine book_congr C.regions (fun x => by rw [hheld]) (fun c => ?_) fun _ => Iff.rfl
    rw [hregions]
  · refine book_congr C.buffers (fun x => by rw [hheld]) (fun c => ?_) fun _ => Iff.rfl
    rw [hregions]

theorem Clients.submit (C : Clients w clients lost) {op : AsyncOp} {done : Option OckRpcCallDone} {e : SubmitEnv}
    (hf : FreshHeap w e) : Clients (op.submit w done e).1 clients lost := by
  obtain ⟨owed, A⟩ := C.apart
  have hfr := op.submit_callFrame w done e
  have hheld := hfr.held hf.noBuffer
  obtain ⟨client, hmaps⟩ := @submit_maps done e op w
  exact C.keep hheld (allocatorEntry_of_maps hmaps) hfr.gMemoryRegion (A.submits (op.submit_submits done hf) hf hheld)

theorem Clients.complete (C : Clients w clients lost) {k : Nat} {cb : ChannelCallback}
    (hk : w.inflight[k]? = some cb) (c : Completion) :
    Clients (runCallback (dequeue w k) cb c) clients lost := by
  obtain ⟨owed, A⟩ := C.apart
  have hk' : owed[k]? = some cb := by rwa [A.inflight] at hk
  obtain ⟨hheld, A'⟩ := A.ran hk' c
  simp only [List.length_nil, Nat.zero_add] at hheld A'
  obtain ⟨client, hmaps⟩ := @runCallback_mapsKept w (dequeue w k) cb c ⟨rfl, rfl⟩
  exact C.keep hheld (allocatorEntry_of_maps hmaps) hmaps.region ⟨_, A'⟩

/-- What the operations that work on no client leave in the trace, but for creates and destroys. -/
def OnMessage : Event → Prop
  | .serviceStart _ _ | .msgRead _ _ | .handler _ _ _ _ | .rndvHandler _ _ _ | .ub => True
  | _ => False

/-- A step that works on no client. -/
structure Serves (P : Event → Prop) (w w' : World) : Prop where
  gMemoryAllocator : w'.gMemoryAllocator = w.gMemoryAllocator
  gMemoryRegion : w'.gMemoryRegion = w.gMemoryRegion
  trace : ∃ evs, w'.trace = evs ++ w.trace ∧ ∀ ev ∈ evs, P ev

namespace Serves

variable {P Q : Event → Prop}

theorem refl (w : World) : Serves P w w := ⟨rfl, rfl, [], rfl, by simp⟩

theorem trans {w'' : World} (h : Serves P w w') (h' : Serves P w' w'') : Serves P w w'' := by
  obtain ⟨evs, ht, hp⟩ := h.trace
  obtain ⟨evs', ht', hp'⟩ := h'.trace
  refine ⟨h'.gMemoryAllocator.trans h.gMemoryAllocator, h'.gMemoryRegion.trans h.gMemoryRegion, evs' ++ evs,
    by rw [ht', ht, List.append_assoc], fun ev hev => ?_⟩
  rcases List.mem_append.mp hev with hev | hev
  · exact hp' ev hev
  · exact hp ev hev

theorem mono (h : Serves P w w') (hpq : ∀ ev, P ev → Q ev) : Serves Q w w' := by
  obtain ⟨evs, ht, hp⟩ := h.trace
  exact ⟨h.gMemoryAllocator, h.gMemoryRegion, evs, ht, fun ev hev => hpq ev (hp ev hev)⟩

theorem emit (w : World) {ev : Event} (h : P ev) : Serves P w (w.emit ev) := by
  refine ⟨rfl, rfl, [ev], rfl, fun ev' hev => ?_⟩
  rw [List.mem_singleton.mp hev]
  exact h

theorem held (h : Serves NoResource w w') : w'.held = w.held := by
  obtain ⟨evs, ht, hp⟩ := h.trace
  have hnone : resourceOps evs = [] := List.filterMap_eq_nil_iff.mpr hp
  rw [World.held_of_trace ht, hnone]
  rfl

theorem of_built {m : ConfigMap} {e : CreateEnv} (h : Built w w' m e) : Serves NoResource w w' := by
  obtain ⟨lf, t, rs, ht⟩ := h.trace
  refine ⟨by rw [h.rest], by rw [h.rest], _, ht, fun ev hev => ?_⟩
  rcases List.mem_append.mp hev with hev | hev
  · obtain ⟨r, -, rfl⟩ := List.mem_map.mp hev
    rfl
  · rcases List.mem_pair.mp hev with rfl | rfl
    · rfl
    · rfl

theorem destroyServer (w : World) (server : Addr) (ret : Int) :
    Serves NoResource w (ockRpcServerDestroy w server ret) := by
  cases hk : serviceKey w server with
  | none =>
    rw [serverDestroy_missing hk]
    exact refl w
  | some name =>
    have hrest := (destroy_frame w server ret).rest
    refine ⟨by rw [hrest], by rw [hrest], _, serverDestroy_trace hk ret, fun ev hev => ?_⟩
    rcases List.mem_pair.mp hev with rfl | rfl
    · rfl
    · rfl

theorem createServer (w : World) (a : CreateArgs) (e : CreateEnv) :
    Serves NoResource w (ockRpcServerCreateWithCfg w a e).1 := by
  rcases serverCreate_ends w a e with ⟨-, hrej, -⟩ | ⟨_, _, _, -, hb, -⟩ | ⟨_, _, _, w1, -, -, hb, -, hr⟩
  · obtain ⟨lf, ct, evs, h, hevs⟩ := hrej
    rw [h]
    refine ⟨rfl, rfl, evs, rfl, fun ev hev => ?_⟩
    obtain ⟨l, rfl⟩ := hevs ev hev
    rfl
  · exact of_built hb
  · rw [hr]
    exact (of_built hb).trans (destroyServer w1 _ _)

theorem dispatch (w : World) (ctx : Addr) (msgId : UInt16) (off : Nat) (len : UInt64) :
    Serves OnMessage w (Hcom4db.dispatch w ctx msgId off len).1 := by
  unfold Hcom4db.dispatch
  split
  · exact emit w trivial
  · exact refl w

theorem receive (w : World) (ctx : Addr) (e : ReceiveEnv) :
    Serves OnMessage w (ockRpcReceiveHandle w ctx e).1 := by
  unfold ockRpcReceiveHandle
  split
  · exact refl w
  · split
    · exact refl w
    · exact (emit w trivial).trans (dispatch _ ctx _ _ _)
    · split
      · exact refl w
      · exact dispatch w ctx _ _ _

theorem rndvReceive (w : World) (ctx : Addr) (e : RndvEnv) :
    Serves OnMessage w (ockRpcRndvReceiveHandler w ctx e).1 := by
  unfold ockRpcRndvReceiveHandler
  split
  · exact refl w
  · rename_i rndvMsg _
    have hub : Serves OnMessage w (if maxMessageSglCount < rndvMsg.cnt.toNat then w.emit .ub else w) := by
      split
      · exact emit w trivial
      · exact refl w
    simp only
    split
    · exact hub
    · split
      · exact hub
      · split
        · exact hub.trans (emit _ trivial)
        · exact hub

/-- Which operations these are. -/
theorem run_cases (w : World) (op : OtherOp) (h : servesOnly op = true) :
    (∃ a e, op = .createServer a e) ∨ (∃ server ret, op = .destroyServer server ret) ∨
      Serves OnMessage w (op.run w) ∧ (op.run w).gServiceMap = w.gServiceMap ∧
        lostServices w op = [] := by
  cases op with
  | createServer a e => exact .inl ⟨a, e, rfl⟩
  | destroyServer server ret => exact .inr (.inl ⟨server, ret, rfl⟩)
  | startServer server ret => exact .inr (.inr ⟨emit w trivial, rfl, rfl⟩)
  | addService kind server service =>
    refine .inr (.inr ⟨?_, (addService_frame w kind server service).gServiceMap, rfl⟩)
    cases kind with
    | plain => exact ⟨rfl, rfl, [], rfl, by simp⟩
    | rndv => exact ⟨rfl, rfl, [], rfl, by simp⟩
  | receive ctx e => exact .inr (.inr ⟨receive w ctx e, (receive_frame w ctx e).gServiceMap, rfl⟩)
  | rndvReceive ctx e => exact .inr (.inr ⟨rndvReceive w ctx e, (rndvReceive_frame w ctx e).gServiceMap, rfl⟩)
  | _ => cases h

theorem noResource_of_onMessage (ev : Event) (h : OnMessage ev) : NoResource ev := by
  cases ev <;> first | rfl | exact h.elim

theorem run (w : World) (op : OtherOp) (h : servesOnly op = true) : Serves NoResource w (op.run w) := by
  rcases run_cases w op h with ⟨a, e, rfl⟩ | ⟨server, ret, rfl⟩ | ⟨S, -⟩
  · exact createServer w a e
  · exact destroyServer w server ret
  · exact S.mono noResource_of_onMessage

/-- Such a step creates and destroys no service. -/
theorem services (h : Serves OnMessage w w') : created (w.since w') = [] ∧ destroyed (w.since w') = [] := by
  obtain ⟨evs, ht, hp⟩ := h.trace
  rw [World.since_of_trace ht]
  refine ⟨List.filterMap_eq_nil_iff.mpr fun ev hev => ?_, List.filterMap_eq_nil_iff.mpr fun ev hev => ?_⟩
  · have hev := hp ev hev
    cases ev <;> first | rfl | exact hev.elim
  · have hev := hp ev hev
    cases ev <;> first | rfl | exact hev.elim

end Serves

theorem freed_of_servesOnly {op : OtherOp} (h : servesOnly op = true) : op.freed w = [] := by
  cases op with
  | releaseRegion client => cases h
  | _ => rfl

theorem Clients.serve (C : Clients w clients lost) (S : Serves NoResource w w')
    (hin : w'.inflight = w.inflight)
    (hheap : ∀ x, w'.cbInfos x = w.cbInfos x ∧ w'.reqAddrs x = w.reqAddrs x) : Clients w' clients lost := by
  obtain ⟨owed, A⟩ := C.apart
  refine C.keep S.held (by funext c; rw [allocatorEntry, S.gMemoryAllocator]; rfl) S.gMemoryRegion ⟨owed, ?_⟩
  refine A.keep hin (fun cb _ x _ => hheap x) fun p hp => .inl ?_
  rwa [S.held] at hp

theorem Clients.other (C : Clients w clients lost) {op : OtherOp} (h : servesOnly op = true) :
    Clients (op.run w) clients lost := by
  have B := op.beside w
  rw [freed_of_servesOnly h] at B
  exact C.serve (Serves.run w op h) B.inflight fun x => B.heap x List.not_mem_nil

/-! ### Services -/

/-- What a create or a destroy does to the services: nothing; it creates one, whose entry is new or taken; it
destroys one that has an entry; it creates one and destroys it again. -/
inductive ServiceStep (m : StdMap CStr Addr) : StdMap CStr Addr → List Addr → List Addr → List Addr → Prop where
  | quiet : ServiceStep m m [] [] []
  | made (name : CStr) (v : Addr) :
      ServiceStep m (m.insertNew name v) [v] [] (if (m.find name).isSome then [v] else [])
  | gone {name : CStr} {v : Addr} (h : m.find name = some v) : ServiceStep m (m.erase name) [] [v] []
  | undone {name k : CStr} {v : Addr} (h : (m.insertNew name v).find k = some v) :
      ServiceStep m ((m.insertNew name v).erase k) [v] [v] (if (m.find name).isSome then [v] else [])

theorem createServer_step (w : World) (a : CreateArgs) (e : CreateEnv) :
    (∀ v ∈ created (w.since (ockRpcServerCreateWithCfg w a e).1), v = e.service) ∧
    ServiceStep w.gServiceMap (ockRpcServerCreateWithCfg w a e).1.gServiceMap
      (created (w.since (ockRpcServerCreateWithCfg w a e).1))
      (destroyed (w.since (ockRpcServerCreateWithCfg w a e).1)) (lostServices w (.createServer a e)) := by
  have hlost : ∀ {ip configs m}, GetsService a e ip configs m → lostServices w (.createServer a e) =
      if (w.gServiceMap.find (configuredName m)).isSome then
        created (w.since (ockRpcServerCreateWithCfg w a e).1) else [] := by
    intro ip configs m hg
    rw [lostServices, Names.name_of_getsService hg]
    rfl
  rcases serverCreate_ends w a e with ⟨hno, hrej, -⟩ | ⟨ip, configs, m, hacc, hb, -⟩ |
    ⟨ip, configs, m, w1, hg, -, hb, -, hr⟩
  · obtain ⟨evs, ht, hc, hd, -⟩ := hrej.events
    have hmap : (ockRpcServerCreateWithCfg w a e).1.gServiceMap = w.gServiceMap := by
      obtain ⟨lf, ct, evs', hw, -⟩ := hrej
      rw [hw]
    have hl : lostServices w (.createServer a e) = [] := by
      rw [lostServices, World.since_of_trace ht, hc, ite_self]
    rw [World.since_of_trace ht, hc, hd, hmap, hl]
    exact ⟨by simp, .quiet⟩
  · obtain ⟨evs, ht, hc, hd, -⟩ := hb.events
    rw [hlost hacc.toGetsService, World.since_of_trace ht, hc, hd, hb.gServiceMap]
    exact ⟨by simp, .made _ _⟩
  · obtain ⟨evs, ht, hc, hd, -⟩ := hb.events
    rw [hlost hg, hr]
    cases hk : serviceKey w1 e.service with
    | none =>
      rw [serverDestroy_missing hk, World.since_of_trace ht, hc, hd, hb.gServiceMap]
      exact ⟨by simp, .made _ _⟩
    | some k =>
      have hfound := serviceKey_some hk
      rw [hb.gServiceMap] at hfound
      have htr := serverDestroy_trace hk e.destroyRet
      rw [ht, ← List.append_assoc] at htr
      have hcr : created ([.serviceDestroy e.service e.destroyRet, .serviceStop e.service] ++ evs) =
          [e.service] := by
        exact List.filterMap_append.trans (congrArg _ hc)
      rw [World.since_of_trace htr, hcr, destroyed_destroy, hd]
      refine ⟨by simp, ?_⟩
      rcases serverDestroy_found hk e.destroyRet with ⟨hret, hw⟩ | ⟨hret, hw⟩
      · rw [if_neg hret, hw, hb.gServiceMap]
        exact .made _ _
      · rw [if_pos hret, hw, hb.gServiceMap]
        exact .undone hfound

theorem destroyServer_step (w : World) (server : Addr) (ret : Int) :
    ServiceStep w.gServiceMap (ockRpcServerDestroy w server ret).gServiceMap
      (created (w.since (ockRpcServerDestroy w server ret)))
      (destroyed (w.since (ockRpcServerDestroy w server ret))) [] := by
  cases hk : serviceKey w server with
  | none =>
    rw [serverDestroy_missing hk, World.since_self]
    exact .quiet
  | some name =>
    have hde := destroyed_destroy server ret []
    rw [List.append_nil] at hde
    rw [World.since_of_trace (serverDestroy_trace hk ret), hde]
    rcases serverDestroy_found hk ret with ⟨hret, hw⟩ | ⟨hret, hw⟩
    · rw [if_neg hret, hw]
      exact .quiet
    · rw [if_pos hret, hw]
      exact .gone (serviceKey_some hk)

section Books

variable {m m' : StdMap CStr Addr} {services lost cs ds ls : List Addr} {name : CStr} {v : Addr}

theorem servers_made (h : Books.Kept ⟨(· ∈ services), m.find, (· ∈ lost)⟩) (hfresh : v ∉ services) (name : CStr) :
    Books.Kept ⟨(· ∈ v :: services), (m.insertNew name v).find,
      (· ∈ (if (m.find name).isSome then [v] else []) ++ lost)⟩ := by
  cases hf : m.find name with
  | none =>
    refine h.record hfresh hf (fun y => List.mem_cons) (fun k => ?_) fun y => Iff.rfl
    simp only [StdMap.find_insertNew, hf]
    rfl
  | some x =>
    refine @Books.Kept.lose _ _ _ _ h (· = v) ?_ (fun y => List.mem_cons) (fun k => ?_) fun y => List.mem_cons
    · rintro y rfl
      exact hfresh
    · simp only [StdMap.find_insertNew, hf]
      split
      · rename_i hk
        rw [hk, hf]
        rfl
      · rfl

theorem servers_gone (h : Books.Kept ⟨(· ∈ services), m.find, (· ∈ lost)⟩) (hf : m.find name = some v) :
    Books.Kept ⟨(· ∈ services.filter (· ∉ [v])), StdMap.find (m.erase name), (· ∈ lost)⟩ := by
  refine h.release (fun y => ?_) (fun k => StdMap.find_erase m name k) fun y => Iff.rfl
  simp only [hf, List.mem_filter, List.mem_singleton, decide_eq_true_eq, ne_eq, Option.some.injEq]
  rw [and_comm, eq_comm]

/-- The books of the services, whatever was done to them. -/
theorem servers_step (h : Books.Kept ⟨(· ∈ services), m.find, (· ∈ lost)⟩) (hs : ServiceStep m m' cs ds ls)
    (hfresh : ∀ v ∈ cs, v ∉ services) :
    Books.Kept ⟨(· ∈ (cs ++ services).filter (· ∉ ds)), m'.find, (· ∈ ls ++ lost)⟩ := by
  cases hs with
  | quiet => exact h.congr (fun y => by simp) (fun _ => rfl) fun _ => Iff.rfl
  | made name v =>
    refine (servers_made h (hfresh v List.mem_cons_self) name).congr (fun y => ?_) (fun _ => rfl) fun _ => Iff.rfl
    simp
  | gone hf => exact servers_gone h hf
  | @undone name k v hf =>
    have hmade := servers_made h (hfresh v List.mem_cons_self) name
    exact servers_gone hmade hf

end Books

/-! ## Runs -/

theorem Inv.keepServers (I : Inv s) {clients' : List Addr} {lost' : List Resource}
    (hmap : w'.gServiceMap = s.w.gServiceMap) (C : Clients w' clients' lost') :
    Inv { s with w := w', clients := clients', lost := lost' } := by
  exact ⟨C, I.servers.congr (fun _ => Iff.rfl) (fun k => congrArg (StdMap.find · k) hmap) fun _ => Iff.rfl⟩

theorem inv_other (I : Inv s) {op : OtherOp} (hc : Contract s (.other op)) : Inv (step s (.other op)) := by
  obtain ⟨hserves, hfresh⟩ := hc
  refine ⟨I.clients.other hserves, ?_⟩
  simp only [step]
  rcases Serves.run_cases s.w op hserves with ⟨a, e, rfl⟩ | ⟨server, ret, rfl⟩ | ⟨S, hmap, hlost⟩
  · obtain ⟨hv, hs⟩ := createServer_step s.w a e
    refine servers_step I.servers hs fun v hmem => ?_
    rw [hv v hmem]
    exact hfresh a e rfl
  · have hnone : created (s.w.since (ockRpcServerDestroy s.w server ret)) = [] := by
      obtain ⟨evs, ht, hcr, -⟩ := Names.destroy_effect s.w server ret
      rw [World.since_of_trace ht, hcr]
    refine servers_step I.servers (destroyServer_step s.w server ret) fun v hmem => ?_
    exact absurd (hnone ▸ hmem) List.not_mem_nil
  · obtain ⟨hcr, hde⟩ := S.services
    refine I.servers.congr (fun v => ?_) (fun k => ?_) fun v => ?_
    · simp [servers, hcr, hde]
    · simp only [servers, hmap]
    · simp [servers, hlost]

theorem inv_step (I : Inv s) {l : Label} (hc : Contract s l) : Inv (step s l) := by
  cases l with
  | connect a e => exact I.keepServers (connect_frame s.w a e).gServiceMap (I.clients.connect hc)
  | disconnect client ret =>
    exact I.keepServers (disconnect_frame s.w client ret).gServiceMap (I.clients.disconnect client ret)
  | submit op done e =>
    exact I.keepServers (by rw [(op.submit_callFrame s.w done e).rest]) (I.clients.submit hc)
  | complete k c =>
    simp only [step]
    cases hk : s.w.inflight[k]? with
    | none => exact I
    | some cb =>
      refine I.keepServers ?_ (I.clients.complete hk c)
      rw [(runCallback_callFrame (dequeue s.w k) cb c).rest]
      rfl
  | other op => exact inv_other I hc
  | user w' =>
    have hidle : Idle s.w w' := hc
    have S : Serves NoResource s.w w' := ⟨hidle.gMemoryAllocator, hidle.gMemoryRegion, hidle.trace⟩
    exact I.keepServers hidle.gServiceMap (I.clients.serve S hidle.inflight hidle.heap)

/-- A process that has not called the library yet. -/
structure Initial (w : World) : Prop where
  trace : w.trace = []
  inflight : w.inflight = []
  gServiceMap : ∀ k, w.gServiceMap.find k = none
  gMemoryAllocator : ∀ c, w.gMemoryAllocator.find c = none
  gMemoryRegion : ∀ c, w.gMemoryRegion.find c = none

theorem inv_init (h : Initial w) : Inv { w := w } := by
  have hheld : ∀ r, w.held r = false := by
    intro r
    rw [World.held, h.trace]
    rfl
  have hbook : ∀ (kind : Addr → Resource) (entry : Addr → Option Addr), (∀ c, entry c = none) →
      (book kind entry w []).Kept := by
    intro kind entry hnone
    exact .empty (fun x => by simp [book, hheld]) hnone fun x => by simp [book]
  refine ⟨⟨⟨[], h.inflight, ⟨rfl, by simp, List.Pairwise.nil⟩, by simp⟩, hheld _, fun c => ?_, ?_, ?_, ?_⟩, ?_⟩
  · simp [hheld]
  · exact hbook _ _ fun c => allocatorEntry_of_none (h.gMemoryAllocator c)
  · exact hbook _ _ fun c => by rw [h.gMemoryRegion c]; rfl
  · exact hbook _ _ fun c => by rw [h.gMemoryRegion c]; rfl
  · exact .empty (fun x => List.not_mem_nil) h.gServiceMap fun x => List.not_mem_nil

theorem recorded_iff (I : Inv s) (r : Resource) : s.w.held r = true ↔ Recorded s r ∨ r ∈ s.lost := by
  cases r with
  | channel c => exact I.clients.channels c
  | allocator a =>
    refine (I.clients.allocators.accounted a).trans (or_congr_left ?_)
    simp only [allocators, book, allocatorEntry_eq_some, exists_and_left]
    exact Iff.rfl
  | region mr =>
    refine (I.clients.regions.accounted mr).trans (or_congr_left ?_)
    simp only [regions, book, Option.map_eq_some_iff]
    exact Iff.rfl
  | buffer p =>
    refine (I.clients.buffers.accounted p).trans (or_congr_left ?_)
    simp only [buffers, book, Option.map_eq_some_iff]
    exact Iff.rfl

theorem inv_reached (h0 : Initial w) (hrun : Reached Contract step { w := w } s) : Inv s :=
  hrun.invariant (inv_init h0) fun _ _ I hl => inv_step I hl

/-- **Everything held is accounted for.** In every run of servers, clients, requests, completions and messages,
what the process holds of the transport library is what its maps record and what was lost; a connect loses what
it has acquired when it fails, or when its handle has an entry, a disconnect loses the allocator whose destroy
fails, and a create loses its service when its name is there already. -/
theorem resources_accounted (h0 : Initial w) (hrun : Reached Contract step { w := w } s) :
    (∀ r, s.w.held r = true ↔ Recorded s r ∨ r ∈ s.lost) ∧
      ∀ v, v ∈ s.services ↔ (∃ name, s.w.gServiceMap.find name = some v) ∨ v ∈ s.lostServices := by
  have I := inv_reached h0 hrun
  exact ⟨recorded_iff I, I.servers.accounted⟩

/-! ## Runs that lose nothing -/

/-- A connect that gets its channel prepares its pool and has no entry yet, the allocator of a disconnect is
destroyed, and a create that gets its service has a new name. -/
def Keeps (s : Sys) : Label → Prop
  | .connect a e => ∀ ip m service flags, Connects s.w a e ip m service flags →
      PreparesPool m e ∧ s.w.gMemoryAllocator.find e.channel = none ∧ s.w.gMemoryRegion.find e.channel = none
  | .disconnect client ret => ret = ockRpcOk ∨ allocatorEntry s.w client = none
  | .other op => ∀ a e, op = .createServer a e → ∀ ip configs m, GetsService a e ip configs m →
      s.w.gServiceMap.find (configuredName m) = none
  | _ => True

theorem lostBy_of_keeps {a : ConnectArgs} {e : ConnectEnv} (h : Keeps s (.connect a e)) :
    lostBy s.w a e = [] := by
  refine List.eq_nil_iff_forall_not_mem.mpr fun r hr => ?_
  obtain ⟨hacq, hlost⟩ := mem_lostBy.mp hr
  rcases connect_ends s.w a e with ⟨-, hw, -⟩ | ⟨ip, m, service, flags, req, hcon, hr⟩
  · rw [hw, World.since_self] at hacq
    cases hacq
  · obtain ⟨hprep, halloc, hregion⟩ := h ip m service flags hcon
    have hok := (prepareMemAllocator_ok_iff (s.w.emit (.channelConnect service e.channel req)) service
      e.channel m e).mpr hprep
    rcases hlost with hst | hrec
    · rw [hr, orErr] at hst
      simp [hok] at hst
    · cases r with
      | channel c => cases hrec
      | allocator x => simp [alreadyRecorded, halloc] at hrec
      | buffer x => simp [alreadyRecorded, hregion] at hrec
      | region x => simp [alreadyRecorded, hregion] at hrec

theorem lostByDisconnect_of_keeps {client : Addr} {ret : Int} (h : Keeps s (.disconnect client ret)) :
    lostByDisconnect s.w client ret = [] := by
  refine List.eq_nil_iff_forall_not_mem.mpr fun r hr => ?_
  obtain ⟨hret, a, ha, -⟩ := mem_lostByDisconnect.mp hr
  cases h with
  | inl hok => exact hret hok
  | inr hnone =>
    rw [hnone] at ha
    cases ha

theorem lostServices_of_keeps {op : OtherOp} (h : Keeps s (.other op)) : lostServices s.w op = [] := by
  cases op with
  | createServer a e =>
    rw [lostServices]
    rcases serverCreate_ends s.w a e with ⟨-, hrej, -⟩ | ⟨ip, configs, m, hacc, -⟩ | ⟨ip, configs, m, w1, hg, -⟩
    · obtain ⟨evs, ht, hcr, -⟩ := hrej.events
      rw [World.since_of_trace ht, hcr, ite_self]
    · rw [Names.name_of_getsService hacc.toGetsService, Option.bind_some,
        h a e rfl ip configs m hacc.toGetsService]
      rfl
    · rw [Names.name_of_getsService hg, Option.bind_some, h a e rfl ip configs m hg]
      rfl
  | _ => rfl

theorem nothing_lost_step (hl : s.lost = [] ∧ s.lostServices = []) {l : Label} (h : Keeps s l) :
    (step s l).lost = [] ∧ (step s l).lostServices = [] := by
  cases l with
  | connect a e => simp [step, lostBy_of_keeps h, hl]
  | disconnect client ret => simp [step, lostByDisconnect_of_keeps h, hl]
  | submit op done e => exact hl
  | complete k c =>
    simp only [step]
    split
    · exact hl
    · exact hl
  | other op => simp [step, lostServices_of_keeps h, hl]
  | user w' => exact hl

/-- **A process that has closed everything holds nothing**, if no connect has failed after it got its channel
or met an entry of its handle, the allocators of the disconnects were destroyed, and no create met its name. -/
theorem all_released (h0 : Initial w)
    (hrun : Reached (fun s l => Contract s l ∧ Keeps s l) step { w := w } s) (hclients : s.clients = [])
    (hallocators : ∀ c, allocatorEntry s.w c = none) (hregions : ∀ c, s.w.gMemoryRegion.find c = none)
    (hservers : ∀ name, s.w.gServiceMap.find name = none) : (∀ r, s.w.held r = false) ∧ s.services = [] := by
  have I : Inv s := inv_reached h0 (hrun.mono fun _ _ h => h.1)
  obtain ⟨hlost, hlostServices⟩ : s.lost = [] ∧ s.lostServices = [] := by
    refine @Reached.invariant _ _ _ _ _ _ (fun s : Sys => s.lost = [] ∧ s.lostServices = []) ⟨rfl, rfl⟩ ?_ hrun
    exact fun s l hl h => nothing_lost_step hl h.2
  constructor
  · intro r
    rw [← Bool.not_eq_true, recorded_iff I, hlost]
    rintro (hrec | hmem)
    · cases r with
      | channel c =>
        have hc : c ∈ s.clients := hrec
        rw [hclients] at hc
        cases hc
      | allocator a =>
        obtain ⟨hnull, c, hc⟩ := hrec
        have hentry := hallocators c
        rw [allocatorEntry_eq_some.mpr ⟨hnull, hc⟩] at hentry
        cases hentry
      | region mr =>
        obtain ⟨c, info, hc, -⟩ := hrec
        rw [hregions] at hc
        cases hc
      | buffer p =>
        obtain ⟨c, info, hc, -⟩ := hrec
        rw [hregions] at hc
        cases hc
    · cases hmem
  · refine List.eq_nil_iff_forall_not_mem.mpr fun v hv => ?_
    rcases (I.servers.accounted v).mp hv with ⟨name, hname⟩ | hmem
    · have hnone : s.w.gServiceMap.find name = none := hservers name
      rw [show s.w.gServiceMap.find name = some v from hname] at hnone
      cases hnone
    · have hmem' : v ∈ s.lostServices := hmem
      rw [hlostServices] at hmem'
      cases hmem'

end Others

section Examples

theorem initial_process : Initial {} :=
  ⟨rfl, rfl, fun _ => rfl, fun _ => rfl, fun _ => rfl⟩

def createsServer (service : Addr) : Label := .other (.createServer defaultServer { service := service })

/-- Server 40, a second server of its name, a client whose region cannot be registered, and a client whose
allocator cannot be destroyed. -/
def leaking : List Label :=
  [createsServer 40, createsServer 41,
    .connect defaultConnect { connectEnv 50 60 with registerRet := 1 },
    .connect defaultConnect { channel := 2, malloc := 6000, allocator := 51, mr := 61, info := ⟨6000, 7, 67108864⟩ },
    .disconnect 2 1]

theorem leaking_reached : Reached Contract step { w := {} } (leaking.foldl step { w := {} }) := by
  refine Reached.refl.extend ⟨⟨rfl, ?_⟩, ⟨rfl, ?_⟩, ⟨rfl, by decide, rfl, rfl, ?_, rfl⟩,
    ⟨rfl, by decide, rfl, rfl, ?_, rfl⟩, trivial, trivial⟩
  · intro a e h
    exact List.not_mem_nil
  · intro a e h
    cases h
    decide
  -- no callback is owed
  all_goals
    intro cb hcb
    cases hcb

/-- The second server, what the failing connect has acquired and the allocator of client 2 are lost, and
nothing else is held but server 40. -/
theorem resources_accounted_leaking :
    (∀ r, (leaking.foldl step { w := {} }).w.held r = true ↔
      r ∈ [.allocator 51, .allocator 50, .buffer 5000, .channel 1]) ∧
      (leaking.foldl step { w := {} }).services = [41, 40] ∧
      (leaking.foldl step { w := {} }).lostServices = [41] := by
  obtain ⟨hheld, -⟩ := resources_accounted initial_process leaking_reached
  have hlost : (leaking.foldl step { w := {} }).lost =
      [.allocator 51, .allocator 50, .buffer 5000, .channel 1] := rfl
  rw [hlost] at hheld
  refine ⟨fun r => (hheld r).trans (or_iff_right ?_), rfl, rfl⟩
  intro hrec
  cases r with
  | channel c => cases hrec
  | allocator a =>
    obtain ⟨-, c, hc⟩ := hrec
    cases hc
  | region mr =>
    obtain ⟨c, info, hc, -⟩ := hrec
    cases hc
  | buffer p =>
    obtain ⟨c, info, hc, -⟩ := hrec
    cases hc

/-- A server, a client that connects and disconnects, and the destroy of the server. -/
def closing : List Label :=
  [createsServer 40, .connect defaultConnect (connectEnv 50 60), .disconnect 1 0, .other (.destroyServer 40 0)]

theorem closing_reached :
    Reached (fun s l => Contract s l ∧ Keeps s l) step { w := {} } (closing.foldl step { w := {} }) := by
  refine Reached.refl.extend ⟨⟨⟨rfl, ?_⟩, ?_⟩, ⟨⟨rfl, by decide, rfl, rfl, ?_, rfl⟩, ?_⟩, ⟨trivial, .inl rfl⟩,
    ⟨⟨rfl, ?_⟩, ?_⟩, trivial⟩
  · intro a e h
    exact List.not_mem_nil
  · intro a e h ip configs m hg
    rfl
  · intro cb hcb
    cases hcb
  · intro ip m service flags hcon
    obtain ⟨configs, hcheck, hmap⟩ := hcon.checked
    cases hcheck
    cases hmap
    exact ⟨(prepareMemAllocator_ok_iff {} 0 0 ∅ _).mp rfl, rfl, rfl⟩
  · intro a e h
    cases h
  · intro a e h
    cases h

theorem all_released_closing : (∀ r, (closing.foldl step { w := {} }).w.held r = false) ∧
    (closing.foldl step { w := {} }).services = [] :=
  all_released initial_process closing_reached rfl (fun _ => rfl) (fun _ => rfl) fun _ => rfl

end Examples

end Resources

end Hcom4db
