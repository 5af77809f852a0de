import Hcom4db.Base.Runs
import Hcom4db.Connect
import Hcom4db.RunCallback
import Hcom4db.SglConserve

/-!
# Hcom4db.Registry

The two client maps, `g_memoryAllocator` and `g_memoryRegion`, over runs of connects, disconnects,
scatter-gather calls and completions.

A connect enters a pool only if the handle has no entry, a disconnect erases both entries, and every
allocation or free evaluates `g_memoryAllocator[client]`, which inserts a null allocator for a client
without an entry.

* `MapFrame`: what a step leaves that does no more than that to the maps.
* `registry_in_sync`: the maps stay in step if no connect meets an entry of its handle and nobody
  allocates or frees for a client without one.
-/

namespace Hcom4db

/-! ## What calls and completions do to the maps -/

structure MapFrame (client : Addr) (w w' : World) : Prop where
  region : w'.gMemoryRegion = w.gMemoryRegion
  allocator : Touched client w w'

namespace MapFrame

variable {client : Addr} {w w' w'' : World}

theorem of_eq (hr : w'.gMemoryRegion = w.gMemoryRegion)
    (ha : w'.gMemoryAllocator = w.gMemoryAllocator) : MapFrame client w w' := ⟨hr, .inl ha⟩

theorem refl (client : Addr) (w : World) : MapFrame client w w := of_eq rfl rfl

theorem of_pool (h : PoolFrame client w w') : MapFrame client w w' := ⟨h.gMemoryRegion, h.allocator⟩

theorem trans (h : MapFrame client w w') (h' : MapFrame client w' w'') : MapFrame client w w'' :=
  ⟨h'.region.trans h.region, h.allocator.trans h'.allocator⟩

/-- For a client that has an entry nothing changes. -/
theorem of_entry (h : MapFrame client w w') (he : (w.gMemoryAllocator.find client).isSome) :
    w'.gMemoryAllocator = w.gMemoryAllocator := by
  obtain ⟨a, ha⟩ := Option.isSome_iff_exists.mp he
  cases h.allocator with
  | inl h => exact h
  | inr h => rw [h, touch_of_find ha]

end MapFrame

section Frames

variable {w w' : World} {client rsp : Addr} {req : ServiceSglRequest} {done : OckRpcCallDone}
  {e : SubmitEnv} {c : Completion} {info : AsyncCbInfo}

theorem respond_maps (w : World) (info : AsyncCbInfo) (rsp : Addr) (c : Completion) :
    (respond w info rsp c).gMemoryAllocator = w.gMemoryAllocator ∧
      (respond w info rsp c).gMemoryRegion = w.gMemoryRegion := by
  obtain ⟨mem, slots, evs, h, -⟩ := respond_rest w info rsp c
  rw [h]
  exact ⟨rfl, rfl⟩

/-- The clients whose blocks a completion frees. -/
def FreesFor (w : World) (arg : Addr) (c : Completion) (client : Addr) : Prop :=
  c.QueriesOk ∧ c.ctxType ≠ some .oneSide ∧ ∃ info, w.cbInfos arg = some info ∧
    info.client = some client ∧ info.reqAddr ≠ some 0

theorem releaseRequest_maps (h : releaseRequest w info = some w') :
    (w'.gMemoryAllocator = w.gMemoryAllocator ∧ w'.gMemoryRegion = w.gMemoryRegion) ∨
      ∃ client, info.client = some client ∧ info.reqAddr ≠ some 0 ∧ MapFrame client w w' := by
  unfold releaseRequest at h
  split at h
  · cases h
  · rename_i p hp
    split at h
    · cases h
      exact .inl ⟨rfl, rfl⟩
    · rename_i hne
      split at h
      · rename_i client n addrs hc _ _
        cases h
        refine .inr ⟨client, hc, ?_, (MapFrame.of_pool (memFreeList_frame client _ w)).trans
          (MapFrame.of_eq rfl rfl)⟩
        rw [hp]
        exact fun h => hne (Option.some.inj h)
      · cases h

/-- A completion leaves the maps alone, or frees the blocks of one client. -/
theorem callback_maps (w : World) (arg : Addr) (c : Completion) :
    ((ockRpcCallbackFunc w arg c).gMemoryAllocator = w.gMemoryAllocator ∧
      (ockRpcCallbackFunc w arg c).gMemoryRegion = w.gMemoryRegion) ∨
    ∃ client, FreesFor w arg c client ∧ MapFrame client w (ockRpcCallbackFunc w arg c) := by
  unfold ockRpcCallbackFunc
  split
  · exact .inl ⟨rfl, rfl⟩
  · rename_i hres
    split
    · exact .inl ⟨rfl, rfl⟩
    · rename_i t ht
      split
      · exact .inl ⟨rfl, rfl⟩
      · rename_i info hi
        split
        · exact .inl ⟨rfl, rfl⟩
        · rename_i hside
          split
          · rename_i w1 rsp hrel _
            obtain ⟨h1, h2⟩ := respond_maps w1 info rsp c
            cases releaseRequest_maps hrel with
            | inl hm => exact .inl ⟨h1.trans hm.1, h2.trans hm.2⟩
            | inr hm =>
              obtain ⟨client, hc, hne, hf⟩ := hm
              refine .inr ⟨client, ⟨⟨not_not.mp hres, by rw [ht]; rfl⟩, ?_, info, hi, hc, hne⟩, ?_⟩
              · rw [ht]
                exact fun h => hside (Option.some.inj h)
              · have h0 : MapFrame client w (w.stdFree arg) := MapFrame.of_eq rfl rfl
                exact (h0.trans hf).trans (MapFrame.of_eq h2 h1)
          · exact .inl ⟨rfl, rfl⟩

theorem callAsyncSgl_maps (w : World) (client : Addr) (req : ServiceSglRequest) (rsp : Addr)
    (done : OckRpcCallDone) (e : SubmitEnv) :
    MapFrame client w (ockRpcCallAsyncSgl w client req rsp done e).1 := by
  by_cases ha : SglAccepted e
  · rw [sgl_accepted ha]
    simp only [World.handOver]
    split
    · -- the callback runs inside the primitive, on the record of this call
      rename_i c _
      have h0 : MapFrame client w (sglHandedOver w client req rsp done e) := MapFrame.of_eq rfl rfl
      cases callback_maps (sglHandedOver w client req rsp done e) e.malloc c with
      | inl h => exact h0.trans (MapFrame.of_eq h.2 h.1)
      | inr h =>
        obtain ⟨client', ⟨-, -, info, hi, hc, -⟩, hf⟩ := h
        have hrec : (sglHandedOver w client req rsp done e).cbInfos e.malloc =
            some (sglInfo client req rsp done e.mallocReqAddr) := Function.update_self _ _ _
        rw [hrec] at hi
        cases hi
        cases hc
        exact h0.trans hf
    · exact MapFrame.of_eq rfl rfl
  · unfold ockRpcCallAsyncSgl
    split
    · exact MapFrame.refl client w
    · rename_i hm
      split
      · exact MapFrame.of_eq rfl rfl
      · rename_i hq
        have hret : e.ret ≠ 0 := fun hret => ha ⟨hm, hq, hret⟩
        simp only [World.postAsync, if_pos hret]
        refine MapFrame.of_eq ?_ ?_
        · simp only [stdFree_gMemoryRegion, World.emit_gMemoryRegion]
          rfl
        · simp only [stdFree_gMemoryAllocator, World.emit_gMemoryAllocator]
          rfl

theorem callSyncSgl_maps (w : World) (client : Addr) (req : ServiceSglRequest) (rsp : Addr)
    (e : SubmitEnv) : MapFrame client w (ockRpcCallSyncSgl w client req rsp e).1 := by
  unfold ockRpcCallSyncSgl callForResponse callNoResponse
  split
  · simp only
    split
    · exact MapFrame.of_eq rfl rfl
    · exact MapFrame.of_eq rfl rfl
  · exact MapFrame.of_eq rfl rfl

theorem runCallback_maps (w : World) (cb : ChannelCallback) (c : Completion) :
    ((runCallback w cb c).gMemoryAllocator = w.gMemoryAllocator ∧
      (runCallback w cb c).gMemoryRegion = w.gMemoryRegion) ∨
    ∃ client, FreesFor w cb.arg c client ∧ MapFrame client w (runCallback w cb c) := by
  obtain ⟨func, arg⟩ := cb
  cases func with
  | ockRpcCallbackFunc => exact callback_maps w arg c
  | responseCallBack =>
    simp only [runCallback, responseCallBack]
    split
    · exact .inl ⟨rfl, rfl⟩
    · split
      · exact .inl ⟨rfl, rfl⟩
      · exact .inl ⟨rfl, rfl⟩

theorem callWithParam_maps (w : World) (params : OckRpcClientCallParams) (e : SubmitEnv) :
    (checkedMsgs w params = none ∧ (ockRpcClientCallWithParam w (some params) e).1 = w) ∨
      ((checkedMsgs w params).isSome ∧
        MapFrame params.client w (ockRpcClientCallWithParam w (some params) e).1) := by
  unfold ockRpcClientCallWithParam
  simp only
  split
  · rename_i h
    exact .inl ⟨h, rfl⟩
  · rename_i msgs h
    refine .inr ⟨by rw [h]; rfl, ?_⟩
    have hp := MapFrame.of_pool (packReqInfo_frame w params.client msgs params.msgId {} e.pack)
    generalize packReqInfo w params.client msgs params.msgId {} e.pack = r at hp ⊢
    obtain ⟨wp, ret, req⟩ := r
    dsimp only at hp ⊢
    split
    · exact hp
    · split
      · exact (hp.trans (callSyncSgl_maps wp params.client req params.rspMsgs e)).trans
          (MapFrame.of_pool (memFreeList_frame params.client _ _))
      · rename_i done _
        exact hp.trans (callAsyncSgl_maps wp params.client req params.rspMsgs done e)

end Frames

/-! ## Runs -/

namespace Registry

open Runs

structure Sys where
  w : World
  /-- What the most recent successful connect that returned a handle created: an allocator and a region,
  or nothing. -/
  last : Addr → Option (Option (Addr × OckRpcMrInfo)) := fun _ => none

inductive Label where
  | connect (a : ConnectArgs) (e : ConnectEnv)
  | disconnect (client : Addr) (ret : Int)
  | call (params : Option OckRpcClientCallParams) (e : SubmitEnv)
  /-- The transport runs callback `k` of those it owes. -/
  | complete (k : Nat) (c : Completion)

def step (s : Sys) : Label → Sys
  | .connect a e =>
    let r := ockRpcClientConnectWithCfg s.w a e
    if r.2 = ockRpcOk then
      { w := r.1, last := Function.update s.last e.channel (some (createdBy e.info (s.w.since r.1))) }
    else { s with w := r.1 }
  | .disconnect client ret => { s with w := ockRpcClientDisconnect s.w client ret }
  | .call params e => { s with w := (ockRpcClientCallWithParam s.w params e).1 }
  | .complete k c =>
    match s.w.inflight[k]? with
    | none => s
    | some cb => { s with w := runCallback (dequeue s.w k) cb c }

/-- The client has an entry in `g_memoryAllocator`. -/
def HasEntry (w : World) (client : Addr) : Prop := (w.gMemoryAllocator.find client).isSome = true

/-- No connect succeeds with a handle that has an entry, and nothing is allocated from or given back to
the pool of a client that has none. -/
def Orderly (s : Sys) : Label → Prop
  | .connect a e => (ockRpcClientConnectWithCfg s.w a e).2 = ockRpcOk → ¬ HasEntry s.w e.channel
  | .disconnect _ _ => True
  | .call params _ => ∀ p ∈ params, (checkedMsgs s.w p).isSome → HasEntry s.w p.client
  | .complete k c => ∀ cb ∈ s.w.inflight[k]?, ∀ client, FreesFor s.w cb.arg c client →
      HasEntry s.w client

/-- The maps have the same keys, and what they hold was created by the last successful connect. -/
structure InSync (s : Sys) : Prop where
  keys : ∀ c, (s.w.gMemoryAllocator.find c).isSome = (s.w.gMemoryRegion.find c).isSome
  latest : ∀ c a info, s.w.gMemoryAllocator.find c = some a → s.w.gMemoryRegion.find c = some info →
    s.last c = some (some (a, info))

section Step

variable {s : Sys}

theorem inSync_of_maps (I : InSync s) {w' : World}
    (ha : w'.gMemoryAllocator = s.w.gMemoryAllocator) (hr : w'.gMemoryRegion = s.w.gMemoryRegion) :
    InSync { s with w := w' } := by
  constructor
  · intro c
    simp only
    rw [ha, hr]
    exact I.keys c
  · intro c a info h1 h2
    simp only at h1 h2
    rw [ha] at h1
    rw [hr] at h2
    exact I.latest c a info h1 h2

theorem inSync_connect (I : InSync s) {a : ConnectArgs} {e : ConnectEnv}
    (ho : Orderly s (.connect a e)) : InSync (step s (.connect a e)) := by
  rcases connect_cases s.w a e with ⟨evs, st, h, -, hcr⟩ | ⟨service, option, req, h⟩
  · simp only [step, h]
    split
    · -- the connect succeeds without a pool
      rename_i hst
      have hno : ¬ HasEntry s.w e.channel := by
        refine ho ?_
        rw [h]
        exact hst
      constructor
      · exact I.keys
      · intro c x info h1 h2
        have hne : c ≠ e.channel := by
          rintro rfl
          exact hno (by rw [HasEntry]; simp only at h1; rw [h1]; rfl)
        exact (Function.update_of_ne hne _ _).trans (I.latest c x info h1 h2)
    · exact inSync_of_maps I rfl rfl
  · have hno : ¬ HasEntry s.w e.channel := by
      refine ho ?_
      rw [h]
    have ha0 : s.w.gMemoryAllocator.find e.channel = none := by
      rw [HasEntry, Bool.not_eq_true, Option.isSome_eq_false_iff, Option.isNone_iff_eq_none] at hno
      exact hno
    have hr0 : s.w.gMemoryRegion.find e.channel = none := by
      have hk := I.keys e.channel
      rw [ha0, Option.isSome_none] at hk
      exact Option.not_isSome_iff_eq_none.mp (by rw [← hk]; exact Bool.false_ne_true)
    have hev : s.w.since (ockRpcClientConnectWithCfg s.w a e).1 =
        poolEvents service option e ++ [.channelConnect service e.channel req] := by
      rw [h]
      exact World.since_of_trace rfl
    simp only [step, hev, createdBy_poolEvents]
    rw [h]
    simp only [if_true]
    constructor
    · intro c
      simp only [StdMap.find_insertNew, ha0, hr0]
      split
      · rfl
      · exact I.keys c
    · intro c x info h1 h2
      simp only [StdMap.find_insertNew, ha0, hr0] at h1 h2
      split at h1
      · rename_i hc
        rw [if_pos hc] at h2
        subst hc
        cases h1
        cases h2
        exact Function.update_self _ _ _
      · rename_i hc
        rw [if_neg hc] at h2
        exact (Function.update_of_ne hc _ _).trans (I.latest c x info h1 h2)

theorem disconnect_maps (w : World) (client : Addr) (ret : Int) :
    (ockRpcClientDisconnect w client ret).gMemoryAllocator = w.gMemoryAllocator.erase client ∧
      (ockRpcClientDisconnect w client ret).gMemoryRegion = w.gMemoryRegion.erase client := by
  rw [disconnect_steps]
  have hd : (destroyAllocator w client ret).gMemoryAllocator = w.gMemoryAllocator ∧
      (destroyAllocator w client ret).gMemoryRegion = w.gMemoryRegion := by
    unfold destroyAllocator
    split
    · exact ⟨rfl, rfl⟩
    · exact ⟨rfl, rfl⟩
  have hr : ∀ w' : World, (releaseRegion w' client).gMemoryAllocator = w'.gMemoryAllocator ∧
      (releaseRegion w' client).gMemoryRegion = w'.gMemoryRegion.erase client := by
    intro w'
    unfold releaseRegion
    split
    · rename_i h
      exact ⟨rfl, (StdMap.erase_of_find_none h).symm⟩
    · exact ⟨rfl, rfl⟩
  obtain ⟨h1, h2⟩ := hr (eraseAllocator (destroyAllocator w client ret) client)
  constructor
  · rw [← hd.1]
    exact h1
  · rw [← hd.2]
    exact h2

theorem inSync_disconnect (I : InSync s) (client : Addr) (ret : Int) :
    InSync (step s (.disconnect client ret)) := by
  obtain ⟨ha, hr⟩ := disconnect_maps s.w client ret
  constructor
  · intro c
    simp only [step, ha, hr, StdMap.find_erase]
    split
    · rfl
    · exact I.keys c
  · intro c x info h1 h2
    simp only [step, ha, hr, StdMap.find_erase] at h1 h2
    split at h1
    · cases h1
    · rename_i hc
      rw [if_neg hc] at h2
      exact I.latest c x info h1 h2

theorem inSync_call (I : InSync s) {params : Option OckRpcClientCallParams} {e : SubmitEnv}
    (ho : Orderly s (.call params e)) : InSync (step s (.call params e)) := by
  cases params with
  | none => exact I
  | some p =>
    simp only [step]
    cases callWithParam_maps s.w p e with
    | inl h =>
      rw [h.2]
      exact I
    | inr h => exact inSync_of_maps I (h.2.of_entry (ho p rfl h.1)) h.2.region

theorem inSync_complete (I : InSync s) {k : Nat} {c : Completion} (ho : Orderly s (.complete k c)) :
    InSync (step s (.complete k c)) := by
  simp only [step]
  split
  · exact I
  · rename_i cb hk
    cases runCallback_maps (dequeue s.w k) cb c with
    | inl h => exact inSync_of_maps I h.1 h.2
    | inr h =>
      obtain ⟨client, hfree, hf⟩ := h
      have he : HasEntry s.w client := ho _ hk client hfree
      exact inSync_of_maps I (hf.of_entry he) hf.region

theorem inSync_step (I : InSync s) {l : Label} (ho : Orderly s l) : InSync (step s l) := by
  cases l with
  | connect a e => exact inSync_connect I ho
  | disconnect client ret => exact inSync_disconnect I client ret
  | call params e => exact inSync_call I ho
  | complete k c => exact inSync_complete I ho

end Step

/-- **The client maps stay in step** over every orderly run that starts without clients. -/
theorem registry_in_sync {w : World} {s : Sys} (ha : w.gMemoryAllocator = ∅)
    (hr : w.gMemoryRegion = ∅) (hrun : Reached Orderly step { w := w } s) : InSync s := by
  have h0 : InSync { w := w } := by
    constructor
    · intro c
      simp only [ha, hr, StdMap.find_empty]
      rfl
    · intro c a info h
      simp only [ha, StdMap.find_empty] at h
      cases h
  exact hrun.invariant h0 fun s l I ho => inSync_step I ho

/-! ### Two runs -/

/-- A connect that is given allocator `a` and region `mr`. -/
def connectWith (a mr : Addr) : Label := .connect defaultConnect (connectEnv a mr)

/-- An asynchronous call of client 1 that the transport accepts. -/
def acceptedCall : Label :=
  .call (some oneMessageCall) { malloc := 900, mallocReqAddr := 950, pack := PackEnv.firstBlocks 4 }

/-- A connect and a call that is still in flight. -/
theorem registry_in_sync_call :
    InSync (step (step { w := oneService } (connectWith 50 60)) acceptedCall) := by
  refine registry_in_sync (w := oneService) rfl rfl ((Reached.refl.tail ?_).tail ?_)
  · intro _ h
    cases h
  · intro p hp _
    cases hp
    rfl

/-- A call completes after its client has disconnected; the next connect that is given the same handle
finds the null allocator the completion has left and keeps it. -/
theorem registry_keeps_null_pool : ∃ s : Sys,
    Reached (fun _ _ => True) step { w := oneService } s ∧
      s.w.gMemoryAllocator.find 1 = some 0 ∧
      s.last 1 = some (some (51, ⟨61, ⟨5000, 7, 67108864⟩, 40⟩)) ∧ ¬ InSync s := by
  have hrun : Reached (fun _ _ => True) step { w := oneService }
      ([connectWith 50 60, acceptedCall, .disconnect 1 0, .complete 0 { ctxType := some .sentRaw },
        connectWith 51 61].foldl step { w := oneService }) :=
    Reached.refl.extend ⟨trivial, trivial, trivial, trivial, trivial, trivial⟩
  refine ⟨_, hrun, rfl, rfl, fun I => ?_⟩
  have h := I.latest 1 0 ⟨61, ⟨5000, 7, 67108864⟩, 40⟩ rfl rfl
  cases h

end Registry

end Hcom4db
