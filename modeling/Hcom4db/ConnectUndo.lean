import Hcom4db.Base.Runs
import Hcom4db.PoolBuffers

/-!
# Hcom4db.ConnectUndo

Connecting and disconnecting again. Between the two, calls with parameters are made on the client and
complete; they may enter a null allocator for it.

* `Inv`: the calls of the client change nothing of what is held, and of the maps its own entry only.
* `Restored`: the maps and what is held of pools are as before, and what was acquired is released once.
* `disconnect_undoes_connect`: a disconnect restores the state before the connect.
-/

namespace Hcom4db

namespace Undo

open HeapLog Runs

inductive Label where
  | call (params : OckRpcClientCallParams) (e : SubmitEnv)
  /-- The transport runs callback `k` of those it owes. -/
  | complete (k : Nat) (c : Completion)

def step (w : World) : Label → World
  | .call params e => (ockRpcClientCallWithParam w (some params) e).1
  | .complete k c =>
    match w.inflight[k]? with
    | none => w
    | some cb => runCallback (dequeue w k) cb c

/-- A call on `client`, for which `malloc` returns what is not in use, or the completion of a callback
behind the first `n`. -/
def OfClient (client : Addr) (n : Nat) (w : World) : Label → Prop
  | .call params e => params.client = client ∧ FreshHeap w e
  | .complete k _ => n ≤ k

/-- What `malloc` and the transport hand out to a connect is not held, and null is no allocator. -/
structure FreshResources (w : World) (e : ConnectEnv) : Prop where
  buffer : w.held (.buffer e.malloc) = false
  allocator : w.held (.allocator e.allocator) = false
  region : w.held (.region e.mr) = false
  null : w.held (.allocator 0) = false

structure Restored (w w' : World) : Prop where
  gMemoryAllocator : w'.gMemoryAllocator = w.gMemoryAllocator
  gMemoryRegion : w'.gMemoryRegion = w.gMemoryRegion
  buffers : ∀ p, w'.held (.buffer p) = w.held (.buffer p)
  allocators : ∀ a, w'.held (.allocator a) = w.held (.allocator a)
  regions : ∀ mr, w'.held (.region mr) = w.held (.region mr)
  once : ∀ r ∈ acquired (w.since w'),
    (acquired (w.since w')).count r = 1 ∧ (released (w.since w')).count r = 1

/-! ## The calls in between -/

/-- The calls of `client` since `w1` have changed nothing of what is held, and of the maps at most the
client's own entry. -/
structure Inv (client : Addr) (w1 : World) (old : List ChannelCallback) (w : World) : Prop where
  apart : ∃ owed, Apart (fun info => info.client = some client) w old owed
  held : w.held = w1.held
  maps : MapFrame client w1 w
  trace : ∃ evs, w.trace = evs ++ w1.trace ∧ acquired evs = [] ∧ ∀ r ∈ released evs, w1.held r = false

section Step

variable {w w' w1 : World} {client : Addr} {old owed : List ChannelCallback} {ps : List Addr} {l : Label}

/-- A step that frees no buffer. -/
theorem Inv.keep (I : Inv client w1 old w) (A : Apart (fun info => info.client = some client) w' old owed)
    (hfr : CallFrame (Event.onCall ps) w w') (hps : ∀ p ∈ ps, w.held (.buffer p) = false)
    (hmaps : MapFrame client w w') : Inv client w1 old w' := by
  refine ⟨⟨owed, A⟩, (hfr.held hps).trans I.held, I.maps.trans hmaps, ?_⟩
  obtain ⟨evs, ht, hacq, hrel⟩ := I.trace
  refine ⟨w.since w' ++ evs, ?_, ?_, ?_⟩
  · rw [hfr.trace_eq, ht, List.append_assoc]
  · rw [acquired, List.filterMap_append]
    exact List.append_eq_nil_iff.mpr ⟨hfr.acquired, hacq⟩
  · intro r hr
    rw [released, List.filterMap_append] at hr
    cases List.mem_append.mp hr with
    | inl hnew =>
      obtain ⟨p, hp, rfl⟩ := hfr.released hnew
      rw [← I.held]
      exact hps p hp
    | inr hold => exact hrel r hold

theorem inv_step (I : Inv client w1 old w) (h : OfClient client old.length w l) :
    Inv client w1 old (step w l) := by
  obtain ⟨owed, A⟩ := I.apart
  cases l with
  | call params e =>
    obtain ⟨rfl, hf⟩ := h
    have hfr := callWithParam_callFrame w (some params) e
    obtain ⟨owed', A'⟩ := A.submits (callWithParam_submits params hf) hf (hfr.held hf.noBuffer)
    refine I.keep A' hfr hf.noBuffer ?_
    simp only [step]
    rcases callWithParam_maps w params e with ⟨-, hw⟩ | ⟨-, hm⟩
    · rw [hw]
      exact MapFrame.refl _ w
    · exact hm
  | complete k c =>
    simp only [step]
    cases hk : w.inflight[k]? with
    | none => exact I
    | some cb =>
      have hle : old.length ≤ k := h
      obtain ⟨j, rfl⟩ := Nat.exists_eq_add_of_le hle
      have hj : owed[j]? = some cb := by
        rwa [A.inflight, List.getElem?_append_right (Nat.le_add_right _ _), Nat.add_sub_cancel_left] at hk
      have hmem : cb ∈ owed := List.mem_of_getElem? hj
      obtain ⟨-, A'⟩ := A.ran hj c
      have hfr : CallFrame (Event.onCall (ownedBy w cb)) w (dequeue w (old.length + j)) :=
        ⟨rfl, [], rfl, fun _ h => absurd h List.not_mem_nil⟩
      refine I.keep A' (hfr.trans (runCallback_callFrame (dequeue w (old.length + j)) cb c).onCall)
        (A.buffers cb hmem) ?_
      rcases runCallback_maps (dequeue w (old.length + j)) cb c with ⟨ha, hr⟩ | ⟨client', hfree, hm⟩
      · exact MapFrame.of_eq hr ha
      · -- the record names the client whose block is freed
        obtain ⟨info, O, hc⟩ := A.heap.live cb hmem
        obtain ⟨-, -, info', hi, hc', -⟩ := hfree
        obtain rfl : info = info' := Option.some.inj (O.record.symm.trans hi)
        obtain rfl : client = client' := Option.some.inj (hc.symm.trans hc')
        exact ⟨hm.region, hm.allocator⟩

/-! ## The two ends -/

theorem resourceOps_disconnect (allocator : Option Addr) (region : Option OckRpcMrInfo) (client : Addr)
    (ret : Int) : resourceOps (disconnectEvents allocator region client ret) =
      (released (disconnectEvents allocator region client ret)).map Op.free := by
  cases allocator with
  | none =>
    cases region with
    | none => rfl
    | some info => rfl
  | some a =>
    -- the allocator is released if its destroy succeeds
    by_cases hret : ret = ockRpcOk
    · subst hret
      cases region with
      | none => rfl
      | some info => rfl
    · cases region with
      | none =>
        simp [disconnectEvents, resourceOps, released, Event.resourceOp?, Event.acquired?, Event.released?, hret]
      | some info =>
        simp [disconnectEvents, resourceOps, released, Event.resourceOp?, Event.acquired?, Event.released?, hret]

/-- A connect with the events `con`, the calls of its client and a disconnect with the events `dis`
restore what was held, if the disconnect releases what the connect acquired and nothing else of it. -/
theorem restored_of {con dis : List Event} {w3 : World} (hcon : w1.trace = con ++ w.trace)
    (I : Inv client w1 old w') (hdis : w3.trace = dis ++ w'.trace)
    (hconOps : resourceOps con = (acquired con).map Op.alloc)
    (hdisOps : resourceOps dis = (released dis).map Op.free)
    (hnone : released con = [] ∧ acquired dis = [])
    (honce : ∀ r ∈ acquired con, (acquired con).count r = 1 ∧ (released dis).count r = 1)
    (hfresh : ∀ r ∈ released dis, r ≠ .channel client → w.held r = false)
    (hmaps : w3.gMemoryAllocator = w.gMemoryAllocator ∧ w3.gMemoryRegion = w.gMemoryRegion) :
    Restored w w3 := by
  obtain ⟨evs, ht, hacq, hrel⟩ := I.trace
  have hafter : ∀ r, w1.held r = if r ∈ acquired con then true else w.held r := by
    intro r
    rw [World.held_of_trace hcon, hconOps, live_allocs]
  have hend : ∀ r, w3.held r = if r ∈ released dis then false else w1.held r := by
    intro r
    rw [World.held_of_trace hdis, hdisOps, live_frees, I.held]
  have hback : ∀ r, r ≠ .channel client → w3.held r = w.held r := by
    intro r hr
    rw [hend]
    split
    · rename_i hmem
      exact (hfresh r hmem hr).symm
    · rename_i hmem
      rw [hafter, if_neg]
      intro hin
      exact hmem (List.count_pos_iff.mp (by rw [(honce r hin).2]; exact Nat.one_pos))
  have hsince : w.since w3 = dis ++ (evs ++ con) := by
    refine World.since_of_trace ?_
    rw [hdis, ht, hcon, List.append_assoc, List.append_assoc]
  have hacquired : acquired (w.since w3) = acquired con := by
    rw [hsince, acquired, List.filterMap_append, List.filterMap_append]
    show acquired dis ++ (acquired evs ++ acquired con) = acquired con
    rw [hnone.2, hacq]
    rfl
  have hreleased : released (w.since w3) = released dis ++ released evs := by
    rw [hsince, released, List.filterMap_append, List.filterMap_append]
    show released dis ++ (released evs ++ released con) = released dis ++ released evs
    rw [hnone.1, List.append_nil]
  refine ⟨hmaps.1, hmaps.2, fun p => hback _ (by simp), fun a => hback _ (by simp), fun mr => hback _ (by simp), ?_⟩
  intro r hr
  rw [hacquired] at hr ⊢
  refine ⟨(honce r hr).1, ?_⟩
  have hheld : w1.held r = true := by rw [hafter, if_pos hr]
  have hnot : r ∉ released evs := by
    intro hmem
    rw [hrel r hmem] at hheld
    cases hheld
  rw [hreleased, List.count_append, (honce r hr).2, List.count_eq_zero.mpr hnot]

theorem inv_start (client : Addr) (w : World) : Inv client w w.inflight w := by
  refine ⟨⟨[], ?_, ⟨rfl, ?_, List.Pairwise.nil⟩, ?_⟩, rfl, MapFrame.refl _ _, [], rfl, rfl, ?_⟩
  case refine_1 => rw [List.append_nil]
  -- no callback is owed and nothing released
  all_goals
    intro _ h
    cases h

/-- After a connect without a pool: a null allocator may have been entered. -/
theorem restored_withoutPool {service : Addr} {req : ConnectRequest}
    (hnew : w.gMemoryAllocator.find client = none ∧ w.gMemoryRegion.find client = none)
    (hnull : w.held (.allocator 0) = false)
    (I : Inv client (w.emit (.channelConnect service client req)) old w') :
    Restored w (ockRpcClientDisconnect w' client ockRpcOk) := by
  have hdis := disconnect_trace w' client ockRpcOk
  have hmaps := Registry.disconnect_maps w' client ockRpcOk
  have hdisOps := resourceOps_disconnect (w'.gMemoryAllocator.find client) (w'.gMemoryRegion.find client)
    client ockRpcOk
  have hr0 : w'.gMemoryRegion.find client = none := by
    rw [I.maps.region]
    exact hnew.2
  have hgone : w'.gMemoryRegion.erase client = w.gMemoryRegion := by
    rw [StdMap.erase_of_find_none hr0, I.maps.region]
    rfl
  have hcon : (w.emit (.channelConnect service client req)).trace =
      [.channelConnect service client req] ++ w.trace := rfl
  rw [hr0] at hdis hdisOps
  rcases I.maps.allocator with heq | heq
  · have heq' : w'.gMemoryAllocator = w.gMemoryAllocator := heq
    have ha0 : w'.gMemoryAllocator.find client = none := by
      rw [heq']
      exact hnew.1
    rw [ha0] at hdis hdisOps
    refine restored_of hcon I hdis rfl hdisOps ⟨rfl, rfl⟩ ?_ ?_ ⟨?_, hmaps.2.trans hgone⟩
    · intro r hr
      rw [List.mem_singleton.mp hr]
      exact ⟨List.count_singleton_self, List.count_singleton_self⟩
    · intro r hr hne
      exact absurd (List.mem_singleton.mp hr) hne
    · rw [hmaps.1, StdMap.erase_of_find_none ha0, heq']
  · have heq' : w'.gMemoryAllocator = w.gMemoryAllocator.insertNew client 0 :=
      heq.trans (StdMap.subscript_of_none 0 hnew.1)
    have ha0 : w'.gMemoryAllocator.find client = some 0 := by
      rw [heq', StdMap.find_insertNew, if_pos rfl, hnew.1]
      rfl
    rw [ha0] at hdis hdisOps
    refine restored_of hcon I hdis rfl hdisOps ⟨rfl, rfl⟩ ?_ ?_ ⟨?_, hmaps.2.trans hgone⟩
    · intro r hr
      rw [List.mem_singleton.mp hr]
      refine ⟨List.count_singleton_self, ?_⟩
      show List.count (Resource.channel client) [.channel client, .allocator 0] = 1
      simp
    · intro r hr hne
      have hrel : r ∈ [Resource.channel client, .allocator 0] := hr
      rcases List.mem_pair.mp hrel with rfl | rfl
      · exact absurd rfl hne
      · exact hnull
    · rw [hmaps.1, heq', StdMap.erase_insertNew_of_find_none hnew.1]

/-- After a connect with a pool: both maps hold its entries. -/
theorem restored_withPool {service : Addr} {req : ConnectRequest} {option : NetMemoryAllocatorOptions}
    {e : ConnectEnv} (hfresh : FreshResources w e) (hinfo : e.info.lAddress = e.malloc)
    (hnew : w.gMemoryAllocator.find e.channel = none ∧ w.gMemoryRegion.find e.channel = none)
    (htrace : w1.trace = poolEvents service option e ++ .channelConnect service e.channel req :: w.trace)
    (hallocators : w1.gMemoryAllocator = w.gMemoryAllocator.insertNew e.channel e.allocator)
    (hregions : w1.gMemoryRegion = w.gMemoryRegion.insertNew e.channel ⟨e.mr, e.info, service⟩)
    (I : Inv e.channel w1 old w') : Restored w (ockRpcClientDisconnect w' e.channel ockRpcOk) := by
  have hdis := disconnect_trace w' e.channel ockRpcOk
  have hmaps := Registry.disconnect_maps w' e.channel ockRpcOk
  have hdisOps := resourceOps_disconnect (w'.gMemoryAllocator.find e.channel)
    (w'.gMemoryRegion.find e.channel) e.channel ockRpcOk
  have hfind : (w.gMemoryAllocator.insertNew e.channel e.allocator).find e.channel = some e.allocator := by
    rw [StdMap.find_insertNew, if_pos rfl, hnew.1]
    rfl
  have hregion : w'.gMemoryRegion = w.gMemoryRegion.insertNew e.channel ⟨e.mr, e.info, service⟩ :=
    I.maps.region.trans hregions
  have hallocator : w'.gMemoryAllocator = w.gMemoryAllocator.insertNew e.channel e.allocator := by
    rw [← hallocators]
    refine I.maps.of_entry ?_
    rw [hallocators, hfind]
    rfl
  have hr0 : w'.gMemoryRegion.find e.channel = some ⟨e.mr, e.info, service⟩ := by
    rw [hregion, StdMap.find_insertNew, if_pos rfl, hnew.2]
    rfl
  rw [hallocator, hfind, hr0] at hdis hdisOps
  have hcon : w1.trace =
      (poolEvents service option e ++ [.channelConnect service e.channel req]) ++ w.trace := by
    rw [htrace, List.append_assoc]
    rfl
  have hrel : released (disconnectEvents (some e.allocator) (some ⟨e.mr, e.info, service⟩) e.channel
      ockRpcOk) = [.channel e.channel, .region e.mr, .buffer e.malloc, .allocator e.allocator] := by
    rw [← hinfo]
    rfl
  refine restored_of hcon I hdis rfl hdisOps ⟨rfl, rfl⟩ ?_ ?_ ⟨?_, ?_⟩
  · intro r hr
    have hacq : r ∈ [Resource.region e.mr, .allocator e.allocator, .buffer e.malloc,
        .channel e.channel] := hr
    rw [hrel]
    show List.count r [Resource.region e.mr, .allocator e.allocator, .buffer e.malloc,
        .channel e.channel] = 1 ∧ _
    simp only [List.mem_cons, List.not_mem_nil, or_false] at hacq
    rcases hacq with rfl | rfl | rfl | rfl
    all_goals simp
  · intro r hr hne
    rw [hrel] at hr
    simp only [List.mem_cons, List.not_mem_nil, or_false] at hr
    rcases hr with rfl | rfl | rfl | rfl
    · exact absurd rfl hne
    · exact hfresh.region
    · exact hfresh.buffer
    · exact hfresh.allocator
  · rw [hmaps.1, hallocator, StdMap.erase_insertNew_of_find_none hnew.1]
  · rw [hmaps.2, hregion, StdMap.erase_insertNew_of_find_none hnew.2]

end Step

/-- **Disconnect undoes connect**, after any calls on the client, whether they have completed or not. -/
theorem disconnect_undoes_connect {w w' : World} {a : ConnectArgs} {e : ConnectEnv}
    (hok : (ockRpcClientConnectWithCfg w a e).2 = ockRpcOk)
    (hnew : w.gMemoryAllocator.find e.channel = none ∧ w.gMemoryRegion.find e.channel = none)
    (hfresh : FreshResources w e) (hinfo : e.info.lAddress = e.malloc)
    (hcalls : Reached (OfClient e.channel w.inflight.length) step (ockRpcClientConnectWithCfg w a e).1 w') :
    Restored w (ockRpcClientDisconnect w' e.channel ockRpcOk) := by
  rcases connect_outcome w a e with ⟨evs, st, h, hst, -⟩ | ⟨service, req, h⟩ |
    ⟨ip, m, service, flags, option, req, -, h⟩
  · rw [h] at hok
    exact absurd hok hst
  · rw [h] at hcalls
    refine restored_withoutPool hnew hfresh.null (hcalls.invariant (inv_start e.channel _) ?_)
    exact fun _ _ I hl => inv_step I hl
  · rw [h] at hcalls
    refine restored_withPool hfresh hinfo hnew rfl rfl rfl (hcalls.invariant (inv_start e.channel _) ?_)
    exact fun _ _ I hl => inv_step I hl

/-! ### A call in between -/

/-- The client of a connect with default settings. -/
def connected : World := (ockRpcClientConnectWithCfg oneService defaultConnect (connectEnv 50 60)).1

/-- A call of client 1 that the transport accepts, and its completion. -/
def callAndCompletion : List Label :=
  [.call oneMessageCall { malloc := 900, mallocReqAddr := 950, pack := PackEnv.firstBlocks 4 },
    .complete 0 { ctxType := some .sentRaw }]

theorem callAndCompletion_reached :
    Reached (OfClient 1 0) step connected (callAndCompletion.foldl step connected) := by
  refine Reached.refl.extend ⟨⟨rfl, ⟨?_, ?_, ?_, ?_⟩⟩, Nat.le_refl 0, trivial⟩
  · exact fun _ => ⟨rfl, rfl⟩
  · exact fun _ => ⟨rfl, rfl⟩
  · decide
  · intro p hp
    rcases List.mem_pair.mp hp with rfl | rfl
    · rfl
    · rfl

/-- The client connects, makes a call that completes, and disconnects. -/
theorem disconnect_undoes_connect_call : Restored oneService
    (ockRpcClientDisconnect (callAndCompletion.foldl step connected) 1 ockRpcOk) := by
  have hfresh : FreshResources oneService (connectEnv 50 60) := ⟨rfl, rfl, rfl, rfl⟩
  exact disconnect_undoes_connect (a := defaultConnect) (e := connectEnv 50 60) rfl ⟨rfl, rfl⟩ hfresh rfl
    callAndCompletion_reached

end Undo

end Hcom4db
