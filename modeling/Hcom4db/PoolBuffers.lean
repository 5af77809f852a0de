import Hcom4db.Base.HeapLog
import Hcom4db.Batches
import Hcom4db.ConnectFailure
import Hcom4db.Frames

/-!
# Hcom4db.PoolBuffers

What is held of the resources of clients. The buffers of the pools and the records of callbacks are on one
heap, and both are freed with `free`; nothing but the contract of `malloc` keeps them apart.

* `World.held`: a resource is acquired and not released.
* `Submits`: what an operation does to the records.
* `Apart`: the callbacks that are owed own their records, and no record is at a buffer.
* `Apart.submits`, `Apart.ran`: requests and completions keep it so, and release no resource of a client.
-/

namespace Hcom4db

open HeapLog

/-! ## What is held -/

def Event.resourceOp? (ev : Event) : Option (Op Resource) :=
  (ev.acquired?.map Op.alloc).or (ev.released?.map Op.free)

def resourceOps (evs : List Event) : List (Op Resource) := evs.filterMap Event.resourceOp?

/-- The resource is acquired and not released. -/
def World.held (w : World) : Resource → Bool := live (fun _ => false) (resourceOps w.trace)

section Held

variable {w w' : World} {evs : List Event} {ps : List Addr} {r : Resource}

theorem World.held_of_trace (h : w'.trace = evs ++ w.trace) : w'.held = live w.held (resourceOps evs) := by
  rw [World.held, h, resourceOps, List.filterMap_append, live_append]
  rfl

/-- A request or a completion acquires nothing, and releases what it frees. -/
theorem Event.onCall.resourceOp? {ev : Event} (h : ev.onCall ps) :
    ev.resourceOp? = none ∨ ∃ p ∈ ps, ev.resourceOp? = some (.free (.buffer p)) := by
  cases ev with
  | stdFree p => exact .inr ⟨p, h, rfl⟩
  | poolAlloc a size addr => exact .inl rfl
  | poolFree a addr => exact .inl rfl
  | store addr n => exact .inl rfl
  | iovStore i => exact .inl rfl
  | malloc p => exact .inl rfl
  | transport prim chan op req cb ret => exact .inl rfl
  | userCb cb arg st => exact .inl rfl
  | ub => exact .inl rfl
  | _ => exact h.elim

theorem CallFrame.mem_resourceOps (h : CallFrame (Event.onCall ps) w w') {op : Op Resource}
    (hop : op ∈ resourceOps (w.since w')) : ∃ p ∈ ps, op = .free (.buffer p) := by
  obtain ⟨ev, hev, hsome⟩ := List.mem_filterMap.mp hop
  rcases (h.since ev hev).resourceOp? with hnone | ⟨p, hp, hfree⟩
  · rw [hnone] at hsome
    cases hsome
  · rw [hfree] at hsome
    exact ⟨p, hp, (Option.some.inj hsome).symm⟩

theorem CallFrame.acquired (h : CallFrame (Event.onCall ps) w w') :
    Hcom4db.acquired (w.since w') = [] := by
  refine List.filterMap_eq_nil_iff.mpr ?_
  intro ev hev
  cases ha : ev.acquired? with
  | none => rfl
  | some r =>
    have hop : Op.alloc r ∈ resourceOps (w.since w') := by
      refine List.mem_filterMap.mpr ⟨ev, hev, ?_⟩
      rw [Event.resourceOp?, ha]
      rfl
    obtain ⟨p, -, hp⟩ := h.mem_resourceOps hop
    cases hp

theorem CallFrame.released (h : CallFrame (Event.onCall ps) w w')
    (hr : r ∈ Hcom4db.released (w.since w')) : ∃ p ∈ ps, r = .buffer p := by
  obtain ⟨ev, hev, hsome⟩ := List.mem_filterMap.mp hr
  have hnone := List.filterMap_eq_nil_iff.mp h.acquired ev hev
  have hop : Op.free r ∈ resourceOps (w.since w') := by
    refine List.mem_filterMap.mpr ⟨ev, hev, ?_⟩
    rw [Event.resourceOp?, hnone, hsome]
    rfl
  obtain ⟨p, hp, heq⟩ := h.mem_resourceOps hop
  exact ⟨p, hp, Op.free.inj heq⟩

/-- A request or a completion that frees no buffer releases nothing. -/
theorem CallFrame.held (h : CallFrame (Event.onCall ps) w w')
    (hps : ∀ p ∈ ps, w.held (.buffer p) = false) : w'.held = w.held := by
  funext r
  rw [World.held_of_trace h.trace_eq]
  have halloc : ∀ y, Op.alloc y ∉ resourceOps (w.since w') := by
    intro y hy
    obtain ⟨p, -, hp⟩ := h.mem_resourceOps hy
    cases hp
  by_cases hfree : Op.free r ∈ resourceOps (w.since w')
  · obtain ⟨p, hp, heq⟩ := h.mem_resourceOps hfree
    cases heq
    have hno := hps p hp
    rw [hno, ← Bool.not_eq_true]
    intro hlive
    rw [live_of_live halloc hlive] at hno
    cases hno
  · exact live_of_notMem (halloc r) hfree

/-- The same for one that is given as a completion. -/
theorem CallFrame.onCall (h : CallFrame (Event.onCompletion ps) w w') :
    CallFrame (Event.onCall ps) w w' := h.mono fun _ => Event.onCall_of_onCompletion

end Held

/-! ## Records and buffers -/

/-- A callback has its record, of which `Q` holds. -/
def HasRecord (Q : AsyncCbInfo → Prop) (w : World) (cb : ChannelCallback) : Prop :=
  ∃ info, Owns w cb info ∧ Q info

/-- An operation leaves nothing behind, or it hands a record over of which `Q` holds. -/
inductive Submits (Q : AsyncCbInfo → Prop) (w : World) (e : SubmitEnv) : World → Prop where
  | quiet {w' : World} (h : Quiet w w') : Submits Q w e w'
  | handed {w1 : World} {info : AsyncCbInfo} {func : ChannelCallbackFunc} (H : Handed w w1 e info)
      (hQ : Q info) : Submits Q w e (w1.handOver ⟨func, e.malloc⟩ e)

/-- What `malloc` returns to an operation is not in use. -/
structure FreshHeap (w : World) (e : SubmitEnv) : Prop where
  malloc : w.FreshPtr e.malloc
  mallocReqAddr : w.FreshPtr e.mallocReqAddr
  ne : e.malloc ≠ 0 → e.malloc ≠ e.mallocReqAddr
  noBuffer : ∀ p ∈ e.heap, w.held (.buffer p) = false

def World.owing (w : World) (owed : List ChannelCallback) : World := { w with inflight := owed }

/-- The callbacks `owed` are queued behind `old`, they have records, and no record is at a buffer. -/
structure Apart (Q : AsyncCbInfo → Prop) (w : World) (old owed : List ChannelCallback) : Prop where
  inflight : w.inflight = old ++ owed
  heap : OwedHeap id (HasRecord Q) (w.owing owed) owed
  buffers : ∀ cb ∈ owed, ∀ p ∈ ownedBy w cb, w.held (.buffer p) = false

section Records

variable {Q : AsyncCbInfo → Prop} {w w' w1 : World} {e : SubmitEnv} {info : AsyncCbInfo}
  {old owed : List ChannelCallback} {ps : List Addr}

theorem onOwned_hasRecord (Q : AsyncCbInfo → Prop) : OnOwned id (HasRecord Q) := by
  constructor
  · rintro w cb ⟨info, O, -⟩
    exact ⟨info, O⟩
  · rintro w w' cb ⟨info, O, hQ⟩ hag
    exact ⟨info, O.agree hag, hQ⟩

theorem AsyncOp.submit_submits (op : AsyncOp) (done : Option OckRpcCallDone) (hf : FreshHeap w e) :
    Submits (fun _ => True) w e (op.submit w done e).1 := by
  rcases hr : op.submit w done e with ⟨w', st⟩
  by_cases hq : st ≠ ockRpcOk ∨ (done = none ∧ op.isReply = false)
  · exact .quiet (AsyncOp.submit_quiet hf.malloc hf.mallocReqAddr hr hq)
  · rw [not_or, not_not] at hq
    obtain ⟨rfl, hq⟩ := hq
    have ha : done.isSome ∨ op.isReply = true := by
      by_contra hno
      rw [not_or, Option.not_isSome_iff_eq_none, Bool.not_eq_true] at hno
      exact hq hno
    obtain ⟨w1, info, rfl, H, -⟩ := AsyncOp.submit_ok ha hr
    exact .handed H trivial

theorem callWithParam_submits (params : OckRpcClientCallParams) (hf : FreshHeap w e) :
    Submits (fun info => info.client = some params.client) w e
      (ockRpcClientCallWithParam w (some params) e).1 := by
  rcases hr : ockRpcClientCallWithParam w (some params) e with ⟨w', st⟩
  by_cases hq : st ≠ ockRpcOk ∨ params.done = none
  · have hcourse := @callWithParam_course
      (.call (.callWithParam params.client params.msgId params.reqIov) params.rspMsgs) params rfl rfl w e
    rw [hr] at hcourse
    exact .quiet (hcourse.quiet hf.malloc hf.mallocReqAddr (hq.imp_right fun hd => ⟨hd, rfl⟩))
  · rw [not_or, not_not] at hq
    obtain ⟨rfl, hd⟩ := hq
    obtain ⟨done, hd⟩ := Option.ne_none_iff_exists'.mp hd
    obtain ⟨msgs, wp, req, -, hpack, ha, rfl, -, -⟩ := call_accepted hd hr
    have hp := packReqInfo_frame w params.client msgs params.msgId {} e.pack
    rw [hpack] at hp
    have H : Handed w (sglHandedOver wp params.client req params.rspMsgs done e) e
        (sglInfo params.client req params.rspMsgs done e.mallocReqAddr) :=
      hp.quiet.handed (placed_sglRecorded ha.1 ha.2.1).handed
    exact .handed H rfl

namespace Apart

/-- What holds while callbacks are owed and the heap is left alone. -/
theorem keep (A : Apart Q w old owed) (hin : w'.inflight = w.inflight)
    (hag : ∀ cb ∈ owed, Agree (ownedBy w cb) w w')
    (hheld : ∀ p, w'.held (.buffer p) = true → w.held (.buffer p) = true ∨
      ∀ cb ∈ owed, p ∉ ownedBy w cb) : Apart Q w' old owed := by
  have hheap : OwedHeap id (HasRecord Q) (w'.owing owed) owed :=
    A.heap.keep (onOwned_hasRecord Q) rfl hag
  refine ⟨hin.trans A.inflight, hheap, ?_⟩
  intro cb hcb p hp
  rw [ownedBy_agree (hag cb hcb)] at hp
  have hno := A.buffers cb hcb p hp
  rw [← Bool.not_eq_true]
  intro hyes
  cases hheld p hyes with
  | inl h =>
    rw [h] at hno
    cases hno
  | inr h => exact h cb hcb hp

/-- An operation leaves the owed callbacks their records, and its own is one of them if it is owed. -/
theorem submits (A : Apart Q w old owed) (hS : Submits Q w e w') (hf : FreshHeap w e)
    (hheld : w'.held = w.held) : ∃ owed', Apart Q w' old owed' := by
  cases hS with
  | quiet h =>
    refine ⟨owed, A.keep h.inflight ?_ ?_⟩
    · intro cb _ x _
      exact ⟨congrFun h.cbInfos x, congrFun h.reqAddrs x⟩
    · intro p hp
      rw [hheld] at hp
      exact .inl hp
  | @handed w1 info func H hQ =>
    have H' : Handed (w.owing owed) (w1.owing owed) e info :=
      ⟨H.malloc_ne, H.record, H.cbInfos, H.array, H.reqAddrs, rfl, H.trace⟩
    have hown := H.owns hf.ne func
    cases hearly : e.early with
    | none =>
      rw [World.handOver, hearly] at hheld ⊢
      refine ⟨owed ++ [⟨func, e.malloc⟩], ?_, ?_, ?_⟩
      · simp only
        rw [H.inflight, A.inflight, List.append_assoc]
      · exact A.heap.push (onOwned_hasRecord Q) H' hf.malloc hf.mallocReqAddr rfl
          ⟨info, ⟨hown.record, hown.array⟩, hQ⟩
      · intro cb hcb p hp
        rw [hheld]
        cases List.mem_append.mp hcb with
        | inl hcb =>
          have hag := A.heap.agree_handed (onOwned_hasRecord Q) H' hf.malloc hf.mallocReqAddr cb hcb
          exact A.buffers cb hcb p ((ownedBy_agree hag) ▸ hp)
        | inr hcb =>
          rw [List.mem_singleton.mp hcb] at hp
          refine hf.noBuffer p ?_
          have hp' : p ∈ ownedBy w1 ⟨func, e.malloc⟩ := hp
          rw [hown.ownedBy] at hp'
          cases List.mem_cons.mp hp' with
          | inl heq =>
            rw [heq]
            exact List.mem_cons_self
          | inr hmem =>
            rw [(H.array p (Option.mem_toList.mp hmem)).1]
            exact List.mem_cons_of_mem _ List.mem_cons_self
    | some c =>
      -- the callback has run inside the primitive
      rw [World.handOver, hearly] at hheld ⊢
      have hfr := runCallback_frees w1 ⟨func, e.malloc⟩ c
      have hfr' : Frees (ownedBy w1 ⟨func, e.malloc⟩) (w1.owing owed)
          ((runCallback w1 ⟨func, e.malloc⟩ c).owing owed) :=
        ⟨hfr.cbInfos, hfr.reqAddrs, rfl, hfr.trace⟩
      have hag : ∀ cb ∈ owed, Agree (ownedBy (w.owing owed) (id cb)) (w.owing owed)
          ((runCallback w1 ⟨func, e.malloc⟩ c).owing owed) :=
        A.heap.agree_early (onOwned_hasRecord Q) H' hf.malloc hf.mallocReqAddr hfr'
      refine ⟨owed, A.keep (hfr.inflight.trans H.inflight) hag ?_⟩
      intro p hp
      rw [hheld] at hp
      exact .inl hp

/-- A callback that is owed runs: it releases nothing, and the others keep their records. -/
theorem ran (A : Apart Q w old owed) {k : Nat} {cb : ChannelCallback} (hk : owed[k]? = some cb)
    (c : Completion) :
    (runCallback (dequeue w (old.length + k)) cb c).held = w.held ∧
      Apart Q (runCallback (dequeue w (old.length + k)) cb c) old (owed.eraseIdx k) := by
  have hcb : cb ∈ owed := List.mem_of_getElem? hk
  have hfr := runCallback_frees (dequeue w (old.length + k)) cb c
  have hheld : (runCallback (dequeue w (old.length + k)) cb c).held = w.held :=
    (runCallback_callFrame (dequeue w (old.length + k)) cb c).onCall.held (A.buffers cb hcb)
  have hfr' : Frees (ownedBy (dequeue (w.owing owed) k) (id cb)) (dequeue (w.owing owed) k)
      ((runCallback (dequeue w (old.length + k)) cb c).owing (owed.eraseIdx k)) :=
    ⟨hfr.cbInfos, hfr.reqAddrs, rfl, hfr.trace⟩
  refine ⟨hheld, ?_, ?_, ?_⟩
  · rw [hfr.inflight, dequeue, A.inflight, List.eraseIdx_append_of_length_le (Nat.le_add_right _ _),
      Nat.add_sub_cancel_left]
  · exact A.heap.remove (onOwned_hasRecord Q) hk hfr'
  · intro cb' hcb' p hp
    have hag : Agree (ownedBy (w.owing owed) cb') (w.owing owed)
        ((runCallback (dequeue w (old.length + k)) cb c).owing (owed.eraseIdx k)) :=
      A.heap.agree_ran hk hfr' hcb'
    have hsame : ownedBy (runCallback (dequeue w (old.length + k)) cb c) cb' = ownedBy w cb' :=
      ownedBy_agree hag
    rw [hsame] at hp
    rw [hheld]
    exact A.buffers cb' (List.mem_of_mem_eraseIdx hcb') p hp

end Apart

end Records

end Hcom4db
