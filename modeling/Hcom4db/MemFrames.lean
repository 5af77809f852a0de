import Hcom4db.Base.HeldBlocks
import Hcom4db.Batches
import Hcom4db.Frames
import Hcom4db.PackBounds

/-!
# Hcom4db.MemFrames

What requests and completions store in memory, and which blocks they take and give back.

* `Effect ops spans w w'`: a step does `ops` to the pools and stores into `spans` only.
* `runCallback_effect`: a completion gives back addresses of its record's array and stores into the
  caller's response.
* `packReqInfo_effect`: a packing that copies inside its blocks takes blocks first, stores into these, and
  gives back some of them or null addresses.
* `submit_plain`, `call_effect`: the operations.
-/

namespace Hcom4db

open FlatMem HeldBlocks WriteLog

/-! ## The pools -/

/-- What an event does to the pools. -/
def Event.poolOp? : Event → Option (Op Addr)
  | .poolAlloc a size x => some (.alloc a (x, size))
  | .poolFree _ x => some (.free x)
  | .poolDestroy a _ => some (.destroy a)
  | _ => none

def poolOps (evs : List Event) : List (Op Addr) := evs.filterMap Event.poolOp?

@[simp] theorem poolOps_nil : poolOps [] = [] := rfl

@[simp] theorem poolOps_append (es fs : List Event) : poolOps (es ++ fs) = poolOps es ++ poolOps fs :=
  List.filterMap_append

/-- Pool events of one allocator that hand nothing out. -/
theorem poolOps_of_frees {a : Addr} {evs : List Event} (hp : ∀ ev ∈ evs, ev.onPool a)
    (ht : taken evs = []) : poolOps evs = (poolFreed evs).map Op.free := by
  induction evs with
  | nil => rfl
  | cons ev evs ih =>
    have hev := hp ev List.mem_cons_self
    rw [taken_cons, List.append_eq_nil_iff] at ht
    have ih' := ih (fun e he => hp e (List.mem_cons_of_mem _ he)) ht.2
    cases ev with
    | poolAlloc a' size x => simp at ht
    | poolFree a' x =>
      rw [poolFreed_cons]
      exact congrArg _ ih'
    | store addr n => exact ih'
    | iovStore i => exact ih'
    | _ => exact hev.elim

/-- Pool events of one allocator that give nothing back. -/
theorem poolOps_of_allocs {a : Addr} {evs : List Event} (hp : ∀ ev ∈ evs, ev.onPool a)
    (ht : poolFreed evs = []) : poolOps evs = (blocks evs).map (Op.alloc a) := by
  induction evs with
  | nil => rfl
  | cons ev evs ih =>
    have hev := hp ev List.mem_cons_self
    rw [poolFreed_cons, List.append_eq_nil_iff] at ht
    have ih' := ih (fun e he => hp e (List.mem_cons_of_mem _ he)) ht.2
    cases ev with
    | poolFree a' x => simp at ht
    | poolAlloc a' size x =>
      obtain rfl : a' = a := hev
      rw [blocks_cons]
      exact congrArg _ ih'
    | store addr n => exact ih'
    | iovStore i => exact ih'
    | _ => exact hev.elim

theorem TakesFirst.poolOps {a : Addr} {evs : List Event} (h : TakesFirst evs)
    (hp : ∀ ev ∈ evs, ev.onPool a) :
    poolOps evs = (poolFreed evs).map Op.free ++ (blocks evs).map (Op.alloc a) := by
  obtain ⟨fs, es, rfl, h1, h2⟩ := h
  have h3 : blocks fs = [] := List.map_eq_nil_iff.mp h1
  rw [poolOps_append, poolFreed_append, blocks_append, h2, h3, List.append_nil, List.nil_append,
    poolOps_of_frees (fun ev hev => hp ev (List.mem_append_left _ hev)) h1,
    poolOps_of_allocs (fun ev hev => hp ev (List.mem_append_right _ hev)) h2]

/-! ## Memory -/

/-- Memory changes in the spans only. -/
def Writes (spans : List (Addr × Nat)) (w w' : World) : Prop :=
  ∀ x, (∀ s ∈ spans, ¬ (s.1 ≤ x ∧ x < s.1 + s.2)) → w'.mem x = w.mem x

namespace Writes

variable {spans spans' : List (Addr × Nat)} {w w' w'' : World}

theorem of_mem (h : w'.mem = w.mem) : Writes spans w w' := fun x _ => congrFun h x

theorem trans (h : Writes spans w w') (h' : Writes spans' w' w'') : Writes (spans' ++ spans) w w'' := by
  intro x hx
  rw [h' x fun s hs => hx s (List.mem_append_left _ hs), h x fun s hs => hx s (List.mem_append_right _ hs)]

theorem store (w : World) (a : Addr) (src : Buf) (n : Nat) : Writes [(a, n)] w (w.store a src n) := by
  intro x hx
  exact blit_apply_of_not_mem (hx (a, n) List.mem_cons_self)

/-- Spans may be replaced by ones they lie in. -/
theorem within (h : Writes spans w w') (hs : ∀ s ∈ spans, ∃ t ∈ spans', Within s t) :
    Writes spans' w w' := by
  intro x hx
  refine h x fun s hs' hmem => ?_
  obtain ⟨t, ht, h1, h2⟩ := hs s hs'
  exact hx t ht ⟨h1.trans hmem.1, Nat.lt_of_lt_of_le hmem.2 h2⟩

theorem mono (h : Writes spans w w') (hs : ∀ s ∈ spans, s ∈ spans') : Writes spans' w w' :=
  h.within fun s hs' => ⟨s, hs s hs', Nat.le_refl _, Nat.le_refl _⟩

/-- What is apart from the spans reads as before. -/
theorem bytesAt (h : Writes spans w w') {t : Addr × Nat} (ht : ∀ s ∈ spans, Span.Disjoint s t) :
    bytesAt w'.mem t.1 t.2 = bytesAt w.mem t.1 t.2 := by
  refine bytesAt_congr fun i hi => h _ fun s hs hmem => ?_
  exact ht s hs (t.1 + i) ⟨hmem, by omega⟩

end Writes

/-! ## Effects -/

structure Effect (ops : List (Op Addr)) (spans : List (Addr × Nat)) (w w' : World) : Prop where
  trace : ∃ evs, w'.trace = evs ++ w.trace ∧ poolOps evs = ops
  writes : Writes spans w w'

namespace Effect

variable {ops ops' : List (Op Addr)} {spans spans' : List (Addr × Nat)} {w w' w'' : World}

theorem refl (w : World) : Effect [] [] w w := ⟨⟨[], rfl, rfl⟩, Writes.of_mem rfl⟩

theorem trans (h : Effect ops spans w w') (h' : Effect ops' spans' w' w'') :
    Effect (ops' ++ ops) (spans' ++ spans) w w'' := by
  obtain ⟨evs, he, ho⟩ := h.trace
  obtain ⟨evs', he', ho'⟩ := h'.trace
  refine ⟨⟨evs' ++ evs, ?_, ?_⟩, h.writes.trans h'.writes⟩
  · rw [he', he, List.append_assoc]
  · rw [poolOps_append, ho, ho']

theorem mono (h : Effect ops spans w w') (hs : ∀ s ∈ spans, s ∈ spans') : Effect ops spans' w w' :=
  ⟨h.trace, h.writes.mono hs⟩

/-- A step that stores nothing and whose events are of no pool. -/
theorem of_events (evs : List Event) (ht : w'.trace = evs ++ w.trace) (hp : poolOps evs = [])
    (hm : w'.mem = w.mem) : Effect [] [] w w' := ⟨⟨evs, ht, hp⟩, Writes.of_mem hm⟩

theorem poolOps_since (h : Effect ops spans w w') : poolOps (w.since w') = ops := by
  obtain ⟨evs, he, ho⟩ := h.trace
  rw [World.since_of_trace he, ho]

theorem poolOps_trace (h : Effect ops spans w w') : poolOps w'.trace = ops ++ poolOps w.trace := by
  obtain ⟨evs, he, ho⟩ := h.trace
  rw [he, poolOps_append, ho]

theorem emit (w : World) (ev : Event) (h : ev.poolOp? = none) : Effect [] [] w (w.emit ev) :=
  of_events [ev] rfl (by rw [poolOps, List.filterMap_cons, h]; rfl) rfl

/-- Queueing a callback changes neither the pools nor memory. -/
theorem queue (h : Effect ops spans w w') (cbs : List ChannelCallback) :
    Effect ops spans w { w' with inflight := cbs } := ⟨h.trace, h.writes⟩

theorem stdFree (w : World) (p : Addr) : Effect [] [] w (w.stdFree p) := of_events [.stdFree p] rfl rfl rfl

theorem memFreeList (w : World) (client : Addr) (xs : List Addr) :
    Effect (xs.reverse.map Op.free) [] w (memFreeList w client xs) := by
  have hfr := memFreeList_frame client xs w
  refine ⟨⟨_, hfr.trace_eq, ?_⟩, Writes.of_mem (memFreeList_mem client xs w)⟩
  have ht : taken (w.since (Hcom4db.memFreeList w client xs)) = [] := taken_since_memFreeList w client xs
  rw [poolOps_of_frees hfr.onPool ht, poolFreed_since_memFreeList]

theorem store (w : World) (a : Addr) (src : Buf) (n : Nat) : Effect [] [(a, n)] w (w.store a src n) :=
  ⟨⟨[.store a n], rfl, rfl⟩, Writes.store w a src n⟩

theorem within (h : Effect ops spans w w') (hs : ∀ s ∈ spans, ∃ t ∈ spans', Within s t) :
    Effect ops spans' w w' := ⟨h.trace, h.writes.within hs⟩

/-- A bounded copy stays in its destination, whatever its outcome. -/
theorem memcpyS (w : World) (dest : Addr) (destMax : Nat) (src : Option Buf) (count : Nat)
    (overlap : Bool) :
    Effect [] [(dest, destMax)] w (memcpyS w dest destMax src count overlap).1 := by
  by_cases hc : CopyOk dest destMax src count overlap
  · obtain ⟨b, rfl⟩ := Option.isSome_iff_exists.mp hc.src_some
    rw [memcpyS_of_copyOk hc]
    refine (store w dest b count).within ?_
    have hfit := hc.fits
    simp only [List.mem_singleton, forall_eq, exists_eq_left, Within]
    omega
  · rcases memcpyS_not_copyOk (w := w) hc with ⟨-, h⟩ | ⟨-, h⟩
    · rw [h]
      exact store w dest _ destMax
    · rw [h]
      exact (refl w).mono (by simp)

end Effect

/-! ## Completions -/

section Completions

variable {w w' : World} {info : AsyncCbInfo}

/-- Where the response of a completion is stored. -/
def responseSpans (w : World) (rsp : Addr) (c : Completion) : List (Addr × Nat) :=
  if rsp = 0 then [] else [((responseSlot w rsp c).data, c.dataLen.toNat)]

theorem responseSpans_congr {rsp : Addr} {c : Completion} (h : w'.slots = w.slots) :
    responseSpans w' rsp c = responseSpans w rsp c := by
  unfold responseSpans responseSlot
  rw [h]

/-- The response struct a callback finds in its record. -/
def callbackRsp (w : World) (cb : ChannelCallback) : Addr :=
  ((w.cbInfos cb.arg).bind AsyncCbInfo.rsp).getD 0

theorem respond_effect (w : World) (info : AsyncCbInfo) (rsp : Addr) (c : Completion) :
    Effect [] (responseSpans w rsp c) w (respond w info rsp c) := by
  have hlen : (responseSlot w rsp c).len.toNat = c.dataLen.toNat := UInt32.toNat_toUInt64 _
  have hnotify : ∀ w1 : World, Effect [] [] w1
      (if info.cb = 0 then w1 else w1.emit (.userCb info.cb info.arg c.resultValue)) := by
    intro w1
    split
    · exact Effect.refl w1
    · exact Effect.emit w1 _ rfl
  unfold respond responseSpans
  by_cases hr : rsp = 0
  · simp only [hr, ne_eq, not_true_eq_false, if_false, if_true]
    exact hnotify w
  · simp only [ne_eq, hr, not_false_eq_true, if_true, if_false]
    have hstore := Effect.memcpyS { w with slots := Function.update w.slots rsp (responseSlot w rsp c) }
      (responseSlot w rsp c).data (responseSlot w rsp c).len.toNat c.data c.dataLen.toNat c.overlap
    rw [hlen] at hstore
    have h : Effect [] [((responseSlot w rsp c).data, c.dataLen.toNat)] w (storeResponse w rsp c) := by
      unfold storeResponse
      simp only [hlen]
      exact ⟨hstore.trace, hstore.writes⟩
    exact h.trans (hnotify _)

/-- What a completion may give back: the addresses in the array of its record. -/
def GivesBack (w : World) (cb : ChannelCallback) (x : Addr) : Prop :=
  ∃ info p xs, w.cbInfos cb.arg = some info ∧ p ∈ info.array ∧ w.reqAddrs p = some xs ∧ x ∈ xs

theorem releaseRequest_effect (h : releaseRequest w info = some w') :
    w'.slots = w.slots ∧ ∃ fs : List Addr, Effect (fs.map Op.free) [] w w' ∧
      ∀ x ∈ fs, ∃ p xs, p ∈ info.array ∧ w.reqAddrs p = some xs ∧ x ∈ xs := by
  refine ⟨(releaseRequest_rest h).1, ?_⟩
  unfold releaseRequest at h
  split at h
  · cases h
  · rename_i p hp
    split at h
    · cases h
      exact ⟨[], Effect.refl w, by simp⟩
    · rename_i hne
      split at h
      · rename_i client n addrs _ _ haddrs
        cases h
        refine ⟨(addrs.take n).reverse, (Effect.memFreeList w client _).trans (Effect.stdFree _ p), ?_⟩
        intro x hx
        refine ⟨p, addrs, ?_, haddrs, List.mem_of_mem_take (List.mem_reverse.mp hx)⟩
        simp [AsyncCbInfo.array, hp, hne]
      · cases h

theorem callback_effect (w : World) (arg : Addr) (c : Completion) :
    ∃ fs : List Addr,
      Effect (fs.map Op.free) (responseSpans w (callbackRsp w ⟨.ockRpcCallbackFunc, arg⟩) c) w
        (ockRpcCallbackFunc w arg c) ∧ ∀ x ∈ fs, GivesBack w ⟨.ockRpcCallbackFunc, arg⟩ x := by
  have hfree : Effect [] (responseSpans w (callbackRsp w ⟨.ockRpcCallbackFunc, arg⟩) c) w
      (w.stdFree arg) := (Effect.stdFree w arg).mono (by simp)
  unfold ockRpcCallbackFunc
  split
  · exact ⟨[], hfree, by simp⟩
  · split
    · exact ⟨[], hfree, by simp⟩
    · split
      · exact ⟨[], (Effect.emit w .ub rfl).mono (by simp), by simp⟩
      · rename_i info hi
        split
        · exact ⟨[], ((Effect.emit w (.userCb _ _ _) rfl).trans (Effect.stdFree _ arg)).mono
            (by simp), by simp⟩
        · split
          · rename_i w2 rsp hrel hrsp
            obtain ⟨hslots, fs, he, hfs⟩ := releaseRequest_effect hrel
            have hcb : callbackRsp w ⟨.ockRpcCallbackFunc, arg⟩ = rsp := by
              simp [callbackRsp, hi, hrsp]
            have h := ((Effect.stdFree w arg).trans he).trans (respond_effect w2 info rsp c)
            rw [List.append_nil, List.nil_append, List.append_nil, List.append_nil,
              responseSpans_congr hslots] at h
            rw [hcb]
            refine ⟨fs, h, fun x hx => ?_⟩
            obtain ⟨p, xs, hp, hxs, hmem⟩ := hfs x hx
            refine ⟨info, p, xs, hi, hp, ?_, hmem⟩
            rw [stdFree_reqAddrs] at hxs
            split at hxs
            · cases hxs
            · exact hxs
          · exact ⟨[], (hfree.trans (Effect.emit _ .ub rfl)), by simp⟩

theorem runCallback_effect (w : World) (cb : ChannelCallback) (c : Completion) :
    ∃ fs : List Addr, Effect (fs.map Op.free) (responseSpans w (callbackRsp w cb) c) w
      (runCallback w cb c) ∧ ∀ x ∈ fs, GivesBack w cb x := by
  obtain ⟨func, arg⟩ := cb
  cases func with
  | ockRpcCallbackFunc => exact callback_effect w arg c
  | responseCallBack =>
    refine ⟨[], ?_, by simp⟩
    simp only [runCallback, responseCallBack]
    split
    · exact (Effect.emit w .ub rfl).mono (by simp)
    · split
      · exact ((Effect.emit w (.userCb _ _ _) rfl).trans (Effect.stdFree _ arg)).mono (by simp)
      · exact (Effect.stdFree w arg).mono (by simp)

end Completions

/-! ## Operations that pack nothing -/

section Plain

variable {op : AsyncOp} {done : Option OckRpcCallDone} {w w' : World} {e : SubmitEnv} {st : Int}
  {info : AsyncCbInfo}

/-- Whether an operation packs its request into blocks. -/
def AsyncOp.packs : AsyncOp → Bool
  | .call (.callWithParam _ _ _) _ => true
  | _ => false

/-- Where the response of an operation is stored while it runs: by the transport if it is synchronous,
and by its callback if that runs inside the primitive. -/
def AsyncOp.responseSpans (op : AsyncOp) (w : World) (done : Option OckRpcCallDone) (e : SubmitEnv) :
    List (Addr × Nat) :=
  if op.slot = 0 then []
  else
    match done with
    | none => [(e.rsp.1, e.rsp.2.toNat)]
    | some _ => e.early.toList.flatMap fun c => Hcom4db.responseSpans w op.slot c

/-- The state in which a primitive gets a record without an array. -/
def posted (op : AsyncOp) (w : World) (e : SubmitEnv) (info : AsyncCbInfo) (p : Post) : World :=
  (w.newCbInfo e.malloc info).emit (p.event (some ⟨op.callback, e.malloc⟩) e.ret)

/-- How an operation that packs nothing can go: nothing is put on the heap, or a record without an array,
which is freed again or handed over. -/
inductive Plain (op : AsyncOp) (done : Option OckRpcCallDone) (w : World) (e : SubmitEnv) :
    World → Int → Prop where
  | direct {w' : World} {st : Int} (he : Effect [] (op.responseSpans w done e) w w') (hq : Quiet w w') :
      Plain op done w e w' st
  | refused {info : AsyncCbInfo} {st : Int} (p : Post) (hst : st ≠ ockRpcOk) :
      Plain op done w e ((posted op w e info p).stdFree e.malloc) st
  | handed {info : AsyncCbInfo} (p : Post) (hm : e.malloc ≠ 0) (ha : info.array = none)
      (hrsp : info.rsp = op.response) (hd : done.isSome ∨ op.slot = 0) :
      Plain op done w e ((posted op w e info p).handOver ⟨op.callback, e.malloc⟩ e) ockRpcOk

theorem Plain.orErr {r : World × Int} (h : Plain op done w e r.1 r.2) :
    Plain op done w e (orErr r).1 (orErr r).2 := by
  obtain ⟨w', st⟩ := r
  unfold Hcom4db.orErr
  simp only at h ⊢
  cases h with
  | direct he hq => exact .direct he hq
  | refused p hst =>
    rw [if_pos hst]
    exact .refused p ockRpcErr_ne_ok
  | handed p hm ha hrsp hd => exact .handed p hm ha hrsp hd

theorem plain_same (w : World) : Plain op done w e w st :=
  .direct ((Effect.refl w).mono (by simp)) (Quiet.refl w)

theorem plain_post (p : Post) : Plain op done w e (w.post p e) st :=
  .direct ((Effect.emit w _ rfl).mono (by simp)) (Still.emit w p none e.ret).quiet

theorem plain_callForResponse (p : Post) (response : Addr) (hslot : op.slot ≠ 0) :
    Plain op none w e (callForResponse w p response e).1 (callForResponse w p response e).2 := by
  unfold callForResponse
  simp only
  split
  · exact plain_post p
  · refine .direct ⟨⟨[p.event none e.ret], rfl, rfl⟩, ?_⟩ ⟨rfl, rfl, rfl, [p.event none e.ret], rfl, rfl⟩
    rw [AsyncOp.responseSpans, if_neg hslot]
    intro x hx
    exact blit_apply_of_not_mem (hx _ List.mem_cons_self)

theorem plain_submitAsync (p : Post) (ha : info.array = none) (hrsp : info.rsp = op.response)
    (hd : done.isSome ∨ op.slot = 0) :
    Plain op done w e (submitAsync w e info op.callback p).1 (submitAsync w e info op.callback p).2 := by
  unfold submitAsync
  split
  · exact plain_same w
  · rename_i hm
    simp only [World.postAsync]
    split
    · rename_i hret
      exact .refused p hret
    · exact .handed p hm ha hrsp hd

theorem plain_oneSided (p : Post) (hop : op.callback = .ockRpcCallbackFunc) (hrsp : op.response = none) :
    Plain op done w e (oneSided w p done e).1 (oneSided w p done e).2 := by
  cases done with
  | none => exact plain_post p
  | some d =>
    have h := @plain_submitAsync op (some d) w e { cb := d.cb, arg := d.arg } p rfl hrsp.symm (.inl rfl)
    rw [hop] at h
    exact h

/-- **Operations that pack nothing** take no block and give none back. -/
theorem submit_plain (op : AsyncOp) (h : op.packs = false) (w : World) (done : Option OckRpcCallDone)
    (e : SubmitEnv) : Plain op done w e (op.submit w done e).1 (op.submit w done e).2 := by
  cases op with
  | call op rsp =>
    have hasync (p : Post) (d : OckRpcCallDone) : Plain (.call op rsp) (some d) w e
        (submitAsync w e (callInfo d rsp) .ockRpcCallbackFunc p).1
        (submitAsync w e (callInfo d rsp) .ockRpcCallbackFunc p).2 :=
      @plain_submitAsync (.call op rsp) (some d) w e _ p rfl rfl (.inl rfl)
    cases op with
    | clientCall client msgId request =>
      simp only [AsyncOp.submit, ResponseOp.submit, ockRpcClientCall]
      split
      · exact plain_same w
      · split
        · exact plain_same w
        · split
          · refine .orErr ?_
            unfold ockRpcCallSync
            split
            · rename_i hrsp
              exact plain_callForResponse _ _ hrsp
            · exact plain_post _
          · exact .orErr (.orErr (hasync _ _))
    | callWithParam client msgId reqIov => cases h
    | callRndv client msgId request =>
      simp only [AsyncOp.submit, ResponseOp.submit, ockRpcClientCallRndv]
      split
      · exact plain_same w
      · split
        · exact plain_same w
        · rename_i hrsp
          split
          · exact .orErr (plain_callForResponse _ _ hrsp)
          · exact .orErr (hasync _ _)
    | callRndvIov client msgId request =>
      simp only [AsyncOp.submit, ResponseOp.submit, ockRpcClientCallRndvIov]
      split
      · exact plain_same w
      · rename_i segs hsegs
        have hrsp : rsp ≠ 0 := by
          rintro rfl
          unfold ockRpcRndvIovCheckParams at hsegs
          cases request <;> simp at hsegs
        split
        · exact .orErr (plain_callForResponse _ _ hrsp)
        · exact .orErr (hasync _ _)
  | read client req =>
    cases req with
    | none => exact plain_same w
    | some req => exact plain_oneSided _ rfl rfl
  | readSgl client req => exact plain_oneSided _ rfl rfl
  | write client req =>
    cases req with
    | none => exact plain_same w
    | some req => exact plain_oneSided _ rfl rfl
  | writeSgl client req => exact plain_oneSided _ rfl rfl
  | serverReply reply =>
    simp only [AsyncOp.submit, ockRpcServerReply]
    split
    · exact plain_same w
    · split
      · exact plain_same w
      · split
        · exact plain_same w
        · exact .orErr (@plain_submitAsync (.serverReply _) done w e _ _ (replyInfo_array done)
            (replyInfo_rsp done) (.inr rfl))
  | serverReplyRndv ctx reply =>
    simp only [AsyncOp.submit, ockRpcServerReplyRndv]
    split
    · exact plain_same w
    · split
      · exact plain_same w
      · exact .orErr (@plain_submitAsync (.serverReplyRndv _ _) done w e _ _ (replyInfo_array done)
          (replyInfo_rsp done) (.inr rfl))

theorem posted_effect (op : AsyncOp) (w : World) (e : SubmitEnv) (info : AsyncCbInfo) (p : Post) :
    Effect [] [] w (posted op w e info p) :=
  Effect.of_events [p.event (some ⟨op.callback, e.malloc⟩) e.ret, .malloc e.malloc] rfl rfl rfl

/-- A record without an array gives nothing back. -/
theorem no_givesBack (cb : ChannelCallback) (hi : w.cbInfos cb.arg = some info) (ha : info.array = none)
    (x : Addr) : ¬ GivesBack w cb x := by
  rintro ⟨info', p, xs, hi', hp, -, -⟩
  rw [hi] at hi'
  cases hi'
  rw [ha] at hp
  cases hp

theorem Plain.effect (h : Plain op done w e w' st) : Effect [] (op.responseSpans w done e) w w' := by
  cases h with
  | direct he hq => exact he
  | refused p hst => exact ((posted_effect op w e _ p).trans (Effect.stdFree _ _)).mono (by simp)
  | handed p hm ha hrsp hd =>
    rename_i info
    unfold World.handOver
    cases hearly : e.early with
    | none => exact ((posted_effect op w e info p).queue _).mono (by simp)
    | some c =>
      have hi : (posted op w e info p).cbInfos e.malloc = some info := Function.update_self _ _ _
      obtain ⟨fs, he, hfs⟩ := runCallback_effect (posted op w e info p) ⟨op.callback, e.malloc⟩ c
      have hnil : fs = [] := List.eq_nil_iff_forall_not_mem.mpr fun x hx =>
        no_givesBack ⟨op.callback, e.malloc⟩ hi ha x (hfs x hx)
      have hcb : callbackRsp (posted op w e info p) ⟨op.callback, e.malloc⟩ = op.slot := by
        rw [callbackRsp, hi, AsyncOp.slot, ← hrsp]
        rfl
      have hslots : (posted op w e info p).slots = w.slots := rfl
      rw [hnil, hcb, responseSpans_congr hslots] at he
      refine ((posted_effect op w e info p).trans he).mono fun s hs => ?_
      rw [List.append_nil] at hs
      unfold AsyncOp.responseSpans
      by_cases h0 : op.slot = 0
      · simp [Hcom4db.responseSpans, h0] at hs
      · obtain ⟨d, hd⟩ := Option.isSome_iff_exists.mp (hd.resolve_right h0)
        simpa [h0, hd, hearly] using hs

end Plain

/-! ## Packing -/

/-- Memory changes where the log says. -/
def Logged (w w' : World) : Prop := ∃ evs, w'.trace = evs ++ w.trace ∧ Writes (stores evs) w w'

namespace Logged

variable {w w' w'' : World}

theorem of_events (evs : List Event) (ht : w'.trace = evs ++ w.trace) (hm : w'.mem = w.mem) :
    Logged w w' := ⟨evs, ht, Writes.of_mem hm⟩

theorem trans (h : Logged w w') (h' : Logged w' w'') : Logged w w'' := by
  obtain ⟨evs, he, hw⟩ := h
  obtain ⟨evs', he', hw'⟩ := h'
  refine ⟨evs' ++ evs, by rw [he', he, List.append_assoc], ?_⟩
  rw [stores_append]
  exact hw.trans hw'

theorem store (w : World) (a : Addr) (src : Buf) (n : Nat) : Logged w (w.store a src n) :=
  ⟨[.store a n], rfl, Writes.store w a src n⟩

theorem memcpyS (w : World) (dest : Addr) (destMax : Nat) (src : Option Buf) (count : Nat)
    (overlap : Bool) : Logged w (memcpyS w dest destMax src count overlap).1 := by
  rcases memcpyS_cases w dest destMax src count overlap with h | ⟨b, n, h⟩
  · rw [h]
    exact of_events [] rfl rfl
  · rw [h]
    exact store w dest b n

theorem memFreeList (w : World) (client : Addr) (xs : List Addr) :
    Logged w (memFreeList w client xs) :=
  of_events _ (memFreeList_trace client xs w) (memFreeList_mem client xs w)

/-- A block is handed out, a message copied into it and its `iov` entry assigned. -/
theorem packed (w : World) (client : Addr) (n : Nat) (addr : Addr) (b : Buf) (len i : Nat) :
    Logged w (((w.allocated client n addr).store addr b len).emit (.iovStore i)) := by
  have h1 : Logged w (w.allocated client n addr) :=
    of_events [.poolAlloc (w.allocatorOf client) n addr] rfl rfl
  exact (h1.trans (store _ addr b len)).trans (of_events [.iovStore i] rfl rfl)

theorem writes (h : Logged w w') : Writes (stores (w.since w')) w w' := by
  obtain ⟨evs, he, hw⟩ := h
  rw [World.since_of_trace he]
  exact hw

end Logged

section Packing

variable {client : Addr} {env : PackEnv} {seg : UInt32} {count : Nat} {w w' : World}
  {req req' : ServiceSglRequest} {st : OckRpcStatus} {msgs : List ReqMessage} {msgId : UInt16}

theorem setReqInfoLoop_logged {ms : List ReqMessage} {i : Nat}
    (h : setReqInfoLoop client env seg count ms i w req = (w', st, req')) : Logged w w' := by
  induction ms generalizing i w req with
  | nil =>
    cases h
    exact .of_events [] rfl rfl
  | cons m ms ih =>
    rcases setReqInfoLoop_cons client env seg count i m ms w req with
      ⟨-, e⟩ | ⟨addr, key, -, -, e⟩ | ⟨addr, key, b, -, -, -, e⟩
    · rw [e] at h
      cases h
      have h0 : Logged w (w.touch client) := .of_events [] rfl rfl
      exact h0.trans (.memFreeList _ _ _)
    · rw [e] at h
      cases h
      have h0 : Logged w (w.allocated client (reqBlockSize seg count i m) addr) :=
        .of_events [.poolAlloc (w.allocatorOf client) (reqBlockSize seg count i m) addr] rfl rfl
      exact (h0.trans (.memcpyS _ _ _ _ _ _)).trans (.memFreeList _ _ _)
    · rw [e] at h
      exact (Logged.packed w client _ addr b _ _).trans (ih h)

theorem appendLoop_logged {k : Nat} {ms : List ReqMessage} {i : Nat}
    (h : appendLoop client env seg k ms i w req = (w', st, req')) : Logged w w' := by
  induction ms generalizing i w req with
  | nil =>
    cases h
    exact .of_events [] rfl rfl
  | cons m ms ih =>
    rcases appendLoop_cons client env seg k i m ms w req with ⟨-, e⟩ | ⟨b, -, -, e⟩
    · rw [e] at h
      cases h
      exact (Logged.memcpyS _ _ _ _ _ _).trans (.memFreeList _ _ _)
    · rw [e] at h
      have h0 : Logged w ((w.store ((req.iov k).lAddress + (req.iov k).size.toNat) b
          m.len.toNat).emit (.iovStore k)) :=
        (Logged.store w _ b _).trans (.of_events [.iovStore k] rfl rfl)
      exact h0.trans (ih h)

/-- What the copy loop gives back is null or was taken by it, and so is what it puts into the request. -/
theorem setReqInfoLoop_returns {ms : List ReqMessage} {i : Nat}
    (h : setReqInfoLoop client env seg count ms i w req = (w', st, req')) :
    (∀ x ∈ poolFreed (w.since w'), x = 0 ∨ x ∈ taken (w.since w')) ∧
      ∀ j, req'.iov j = req.iov j ∨ (req'.iov j).lAddress ∈ taken (w.since w') := by
  induction ms generalizing i w req with
  | nil =>
    cases h
    rw [World.since_self]
    exact ⟨by simp, fun j => .inl rfl⟩
  | cons m ms ih =>
    rcases setReqInfoLoop_cons client env seg count i m ms w req with
      ⟨-, e⟩ | ⟨addr, key, -, -, e⟩ | ⟨addr, key, b, -, -, -, e⟩
    · rw [e] at h
      cases h
      rw [(PoolFrame.touch client w).since_trans (memFreeList_frame client _ _), since_touch,
        List.append_nil, poolFreed_since_memFreeList]
      refine ⟨fun x hx => .inl ?_, fun j => .inl rfl⟩
      exact (List.mem_replicate.mp (List.mem_reverse.mp hx)).2
    · rw [e] at h
      cases h
      have hA := PoolFrame.allocated client w (reqBlockSize seg count i m) addr
      rw [(hA.trans PoolFrame.memcpyS).since_trans (memFreeList_frame client _ _),
        hA.since_trans PoolFrame.memcpyS, poolFreed_append, poolFreed_append,
        poolFreed_since_memFreeList, (memcpyS_since _ _ _ _ _ _).2, since_allocated]
      refine ⟨fun x hx => .inr ?_, fun j => .inl rfl⟩
      have hx' : x = addr := by simpa using hx
      simp [hx']
    · rw [e] at h
      have hA := packed_frame client w (reqBlockSize seg count i m) addr b m.len.toNat (i + 1)
      have hrest := setReqInfoLoop_frame client env seg count ms (i + 1)
        (((w.allocated client (reqBlockSize seg count i m) addr).store addr b m.len.toNat).emit
          (.iovStore (i + 1))) (req.packed i m addr key)
      rw [h] at hrest
      obtain ⟨h1, h2⟩ := ih h
      rw [hA.since_trans hrest, since_packed, poolFreed_append, taken_append]
      refine ⟨fun x hx => ?_, fun j => ?_⟩
      · have hx' := List.mem_append.mp hx
        rcases hx' with hx | hx
        · exact (h1 x hx).imp_right (List.mem_append_left _)
        · simp at hx
      · rcases h2 j with hj | hj
        · by_cases hji : j = i + 1
          · refine .inr (List.mem_append_right _ ?_)
            rw [hj, hji]
            simp [ServiceSglRequest.packed, ServiceSglRequest.assign]
          · refine .inl (hj.trans ?_)
            simp [ServiceSglRequest.packed, ServiceSglRequest.assign, hji]
        · exact .inr (List.mem_append_left _ hj)

/-- What the append loop gives back are segments of the request. -/
theorem appendLoop_returns {k : Nat} {ms : List ReqMessage} {i : Nat}
    (h : appendLoop client env seg k ms i w req = (w', st, req')) :
    ∀ x ∈ poolFreed (w.since w'), x ∈ iovAddrs req ockMaxIovCount := by
  by_cases hst : st = ockRpcOk
  · subst hst
    induction ms generalizing i w req with
    | nil =>
      cases h
      simp
    | cons m ms ih =>
      rcases appendLoop_cons client env seg k i m ms w req with ⟨-, e⟩ | ⟨b, -, -, e⟩
      · rw [e] at h
        cases h
      · rw [e] at h
        have hrest := appendLoop_frame client env seg k ms (i + 1)
          ((w.store ((req.iov k).lAddress + (req.iov k).size.toNat) b m.len.toNat).emit (.iovStore k))
          (req.assign k (req.iov k).lAddress (req.iov k).lKey ((req.iov k).size + m.len.toUInt32))
        rw [h] at hrest
        rw [(appended_frame client w _ b m.len.toNat k).since_trans hrest, since_appended,
          poolFreed_append]
        intro x hx
        have h1 := ih h x (by simpa using hx)
        rwa [iovAddrs_assign] at h1
  · rw [appendLoop_err h hst]
    exact fun x hx => List.mem_reverse.mp hx

/-! ### The whole packing -/

theorem withHeader_logged (w : World) (client : Addr) (msgId : UInt16) (addr : Addr) :
    Logged w (w.withHeader client msgId addr) := Logged.packed w client _ addr _ _ 0

/-- Its segments after the copy loop are null or were taken. -/
theorem iovAddrs_taken {addr : Addr} {key : UInt32} {evs : List Event}
    (h : ∀ j, req.iov j = (ServiceSglRequest.withHeader {} addr key).iov j ∨ (req.iov j).lAddress ∈ taken evs)
    {x : Addr} {n : Nat} (hx : x ∈ iovAddrs req n) : x = 0 ∨ x = addr ∨ x ∈ taken evs := by
  obtain ⟨j, -, rfl⟩ := List.mem_map.mp hx
  rcases h j with hj | hj
  · rw [hj]
    by_cases h0 : j = 0
    · subst h0
      exact .inr (.inl rfl)
    · rw [withHeader_iov addr key h0]
      exact .inl rfl
  · exact .inr (.inr hj)

theorem packReqInfo_logged_returns (h : packReqInfo w client msgs msgId {} env = (w', st, req')) :
    Logged w w' ∧ ∀ x ∈ poolFreed (w.since w'), x = 0 ∨ x ∈ taken (w.since w') := by
  rcases ha : env.alloc 0 with _ | ⟨addr, key⟩
  · rw [packReqInfo_noHeader ha] at h
    cases h
    exact ⟨.of_events [] rfl rfl, by simp⟩
  have hw := PoolFrame.withHeader client w msgId addr
  have hlog := withHeader_logged w client msgId addr
  -- what the copy loop and its caller give back, with the header's block among what was taken
  have key' {evs fs : List Event} (hf : blocks fs = [])
      (h1 : ∀ x ∈ poolFreed evs, x = 0 ∨ x ∈ taken evs)
      (h2 : ∀ x ∈ poolFreed fs, x = 0 ∨ x = addr ∨ x ∈ taken evs) :
      ∀ x ∈ poolFreed (fs ++ (evs ++ w.since (w.withHeader client msgId addr))),
        x = 0 ∨ x ∈ taken (fs ++ (evs ++ w.since (w.withHeader client msgId addr))) := by
    have ht : taken fs = [] := by rw [taken, hf]; rfl
    intro x hx
    rw [since_withHeader] at hx ⊢
    simp only [poolFreed_append, List.mem_append, taken_append, ht] at hx ⊢
    rcases hx with hx | hx | hx
    · rcases h2 x hx with h0 | rfl | hmem
      · exact .inl h0
      · exact .inr (.inr (.inr (by simp)))
      · exact .inr (.inr (.inl hmem))
    · exact (h1 x hx).imp_right fun hmem => .inr (.inl hmem)
    · simp at hx
  rcases Nat.lt_or_ge 3 msgs.length with hn | hn
  · rw [packReqInfo_long ha hn] at h
    rcases hr : setReqInfo (w.withHeader client msgId addr) client msgs 3
      (ServiceSglRequest.withHeader {} addr key) env with ⟨w1, ret, req1⟩
    have hf1 := setReqInfo_frame (w.withHeader client msgId addr) client msgs 3
      (ServiceSglRequest.withHeader {} addr key) env
    rw [hr] at h hf1
    have hl1 := hlog.trans (setReqInfoLoop_logged hr)
    obtain ⟨h1, h2⟩ := setReqInfoLoop_returns hr
    simp only at h hf1
    split at h
    · cases h
      have hlast : w1.since (ockRpcMemFree w1 client addr) =
          [.poolFree (w1.allocatorOf client) addr] := World.since_of_trace rfl
      refine ⟨hl1.trans (.of_events [.poolFree (w1.allocatorOf client) addr] rfl rfl), ?_⟩
      rw [(hw.trans hf1).since_trans (PoolFrame.memFree client w1 addr), hw.since_trans hf1, hlast]
      exact key' rfl h1 (by simp)
    · have hf2 := appendLoop_frame client env w1.gOptions.mrSendReceiveSegSize 3 (msgs.drop 3) 3 w1
        req1
      rw [h] at hf2
      refine ⟨hl1.trans (appendLoop_logged h), ?_⟩
      rw [(hw.trans hf1).since_trans hf2, hw.since_trans hf1]
      exact key' (appendLoop_blocks h) h1 fun x hx => iovAddrs_taken h2 (appendLoop_returns h x hx)
  · rw [packReqInfo_short ha hn] at h
    rcases hr : setReqInfo (w.withHeader client msgId addr) client msgs msgs.length
      (ServiceSglRequest.withHeader {} addr key) env with ⟨w1, ret, req1⟩
    have hf1 := setReqInfo_frame (w.withHeader client msgId addr) client msgs msgs.length
      (ServiceSglRequest.withHeader {} addr key) env
    rw [hr] at h hf1
    have hl1 := hlog.trans (setReqInfoLoop_logged hr)
    obtain ⟨h1, h2⟩ := setReqInfoLoop_returns hr
    simp only at h hf1
    split at h
    · cases h
      refine ⟨hl1.trans (.memFreeList _ _ _), ?_⟩
      rw [freeAllMemory, (hw.trans hf1).since_trans (memFreeList_frame client _ _), hw.since_trans hf1]
      refine key' (blocks_since_memFreeList _ _ _) h1 fun x hx =>
        iovAddrs_taken (n := ockMaxIovCount) h2 ?_
      rw [poolFreed_since_memFreeList] at hx
      exact List.mem_reverse.mp hx
    · cases h
      refine ⟨hl1, ?_⟩
      rw [hw.since_trans hf1]
      exact @key' _ [] rfl h1 (by simp)

/-- The copies of a packing stay in their blocks. -/
def CopiesStay (w : World) (env : PackEnv) (msgs : List ReqMessage) : Prop :=
  env.alloc 0 = none ∨
    CopiesInside env w.gOptions.mrSendReceiveSegSize (min msgs.length 3) 0 (msgs.take 3)

/-- **What a packing does**: it takes its blocks, stores into them, and gives back null addresses or
blocks it has taken. -/
theorem packReqInfo_effect (hlen : ∀ m ∈ msgs, m.len.toNat ≤ w.gOptions.mrSendReceiveSegSize.toNat)
    (hin : CopiesStay w env msgs) (h : packReqInfo w client msgs msgId {} env = (w', st, req')) :
    Effect ((poolFreed (w.since w')).map Op.free ++
        (blocks (w.since w')).map (Op.alloc (w.allocatorOf client))) (blocks (w.since w')) w w' ∧
      ∀ x ∈ poolFreed (w.since w'), x = 0 ∨ x ∈ taken (w.since w') := by
  obtain ⟨hlog, hback⟩ := packReqInfo_logged_returns h
  have hfr := packReqInfo_frame w client msgs msgId {} env
  rw [h] at hfr
  refine ⟨⟨⟨_, hfr.trace_eq, (packReqInfo_takesFirst h).poolOps hfr.onPool⟩, ?_⟩, hback⟩
  refine hlog.writes.within fun s hs => ?_
  have hbounds : InBounds Event.block? Event.stored? none (w.since w') := by
    rcases ha : env.alloc 0 with _ | ⟨addr, key⟩
    · rw [packReqInfo_noHeader ha] at h
      cases h
      rw [since_touch]
      trivial
    · refine (packReqInfo_inBounds ha hlen h).mpr (hin.resolve_left ?_)
      rw [ha]
      simp
  obtain ⟨b, hb, hw⟩ := hbounds.within hs
  exact ⟨b, hb.resolve_left (by simp), hw⟩

/-! ### The segments lie in the blocks -/

theorem segments_within {bs : List (Addr × Nat)} {ms : List ReqMessage}
    (h : List.Forall₂ (fun (b : Addr × Nat) (m : ReqMessage) => m.len.toNat ≤ b.2) bs ms) :
    ∀ t ∈ segments bs ms, ∃ b ∈ bs, Within t b := by
  induction h with
  | nil => simp [segments]
  | @cons b m bs ms hle _ ih =>
    intro t ht
    cases List.mem_cons.mp ht with
    | inl heq =>
      refine ⟨b, List.mem_cons_self, ?_⟩
      rw [heq]
      exact ⟨Nat.le_refl _, Nat.add_le_add_left hle _⟩
    | inr hmem =>
      obtain ⟨b', hb', hw⟩ := ih t hmem
      exact ⟨b', List.mem_cons_of_mem _ hb', hw⟩

/-- After the copy loop every segment lies in a block. -/
theorem PackedLoop.within {ms : List ReqMessage} {addr : Addr} {key : UInt32} {bs : List (Addr × Nat)}
    (P : PackedLoop seg count 0 ms w (ServiceSglRequest.withHeader {} addr key) w' req' bs) :
    ∀ t ∈ iovSpans req' 0 (1 + ms.length), ∃ b ∈ (addr, sizeofRawMessageHeader) :: bs, Within t b := by
  intro t ht
  have h0 : req'.iov 0 = (ServiceSglRequest.withHeader {} addr key).iov 0 := P.iovOther 0 (.inl (by omega))
  rw [Nat.add_comm, iovSpans_succ, P.iov, h0] at ht
  cases List.mem_cons.mp ht with
  | inl heq =>
    refine ⟨(addr, sizeofRawMessageHeader), List.mem_cons_self, ?_⟩
    rw [heq]
    exact ⟨Nat.le_refl _, Nat.le_refl _⟩
  | inr hmem =>
    obtain ⟨b, hb, hw⟩ := segments_within P.fits t hmem
    exact ⟨b, List.mem_cons_of_mem _ hb, hw⟩

theorem packReqInfo_ok_within (hlen : ∀ m ∈ msgs, m.len.toNat ≤ w.gOptions.mrSendReceiveSegSize.toNat)
    (h : packReqInfo w client msgs msgId {} env = (w', ockRpcOk, req')) :
    ∀ t ∈ req'.spans, ∃ b ∈ blocks (w.since w'), Within t b := by
  obtain ⟨hcount, -, -⟩ := packReqInfo_ok hlen h
  obtain ⟨addr, key, -, H⟩ := packReqInfo_ok_cases hlen h
  have hw := PoolFrame.withHeader client w msgId addr
  intro t ht
  rw [ServiceSglRequest.spans, hcount] at ht
  rcases H with ⟨hn, bs, hf, P⟩ | ⟨hn, w1, req1, bs, hf1, hf2, P, Q⟩
  · rw [Nat.min_eq_left hn] at ht
    obtain ⟨b, hb, hin⟩ := P.within t ht
    refine ⟨b, ?_, hin⟩
    rw [hw.since_trans hf, since_withHeader, blocks_append, P.blocks_eq, List.mem_append,
      List.mem_reverse]
    exact (List.mem_cons.mp hb).symm.imp_right fun heq => by simp [heq]
  · have htake : (msgs.take 3).length = 3 := by
      rw [List.length_take]
      omega
    have hblocks : blocks (w.since w') = bs.reverse ++ [(addr, sizeofRawMessageHeader)] := by
      rw [(hw.trans hf1).since_trans hf2, hw.since_trans hf1, since_withHeader, blocks_append,
        blocks_append, Q.blocks_eq, P.blocks_eq]
      rfl
    have hin := P.within
    rw [htake] at hin
    rw [Nat.min_eq_right hn.le] at ht
    -- the last segment has grown, inside its block
    obtain ⟨b1, b2, b3, rfl, -, -, -, -, hb3, -⟩ := P.three htake
    have hsplit : iovSpans req' 0 (3 + 1) = iovSpans req1 0 3 ++ [((req1.iov 3).lAddress,
        (req'.iov 3).size.toNat)] := by
      rw [iovSpans_add, iovSpans_congr fun j _ hj => Q.iovOther j (by omega), ← Q.lAddress]
      rfl
    rw [Nat.add_comm 1 3, hsplit] at ht
    rw [Nat.add_comm 1 3, iovSpans_add] at hin
    rw [hblocks]
    cases List.mem_append.mp ht with
    | inl hmem =>
      obtain ⟨b, hb, hw⟩ := hin t (List.mem_append_left _ hmem)
      refine ⟨b, ?_, hw⟩
      rw [List.mem_append, List.mem_reverse, List.mem_singleton]
      exact (List.mem_cons.mp hb).symm
    | inr hlast =>
      refine ⟨b3, by simp, ?_⟩
      rw [List.mem_singleton.mp hlast, ← hb3]
      exact ⟨Nat.le_refl _, Nat.add_le_add_left Q.size_le _⟩

end Packing

/-! ## Scatter-gather calls -/

section Call

variable {w w' wp : World} {e : SubmitEnv} {client rsp : Addr} {req : ServiceSglRequest}
  {done : OckRpcCallDone} {params : OckRpcClientCallParams} {msgs : List ReqMessage}

theorem sglHandedOver_effect (w : World) (client : Addr) (req : ServiceSglRequest) (rsp : Addr)
    (done : OckRpcCallDone) (e : SubmitEnv) : Effect [] [] w (sglHandedOver w client req rsp done e) :=
  Effect.of_events [(sglPost client req rsp).event (some ⟨.ockRpcCallbackFunc, e.malloc⟩) e.ret,
    .malloc e.mallocReqAddr, .malloc e.malloc] rfl rfl rfl

theorem sgl_refused_effect (h : ¬ SglAccepted e) :
    Effect [] [] w (ockRpcCallAsyncSgl w client req rsp done e).1 := by
  unfold ockRpcCallAsyncSgl
  split
  · exact Effect.refl w
  · rename_i hm
    split
    · exact .of_events [.stdFree e.malloc, .malloc e.malloc] rfl rfl rfl
    · rename_i hq
      have hret : e.ret ≠ 0 := fun hret => h ⟨hm, hq, hret⟩
      simp only [World.postAsync, if_pos hret]
      exact ((sglHandedOver_effect w client req rsp done e).trans (Effect.stdFree _ _)).trans
        (Effect.stdFree _ _)

theorem callSyncSgl_effect (w : World) (client : Addr) (req : ServiceSglRequest) (rsp : Addr)
    (e : SubmitEnv) : Effect [] (if rsp = 0 then [] else [(e.rsp.1, e.rsp.2.toNat)]) w
      (ockRpcCallSyncSgl w client req rsp e).1 := by
  unfold ockRpcCallSyncSgl callForResponse callNoResponse
  by_cases hrsp : rsp = 0
  · simp only [hrsp, ne_eq, not_true_eq_false, if_false, if_true]
    exact Effect.emit w _ rfl
  · simp only [ne_eq, hrsp, not_false_eq_true, if_true, if_false]
    split
    · exact (Effect.emit w _ rfl).mono (by simp)
    · refine ⟨⟨[Post.event _ none e.ret], rfl, rfl⟩, fun x hx => ?_⟩
      exact blit_apply_of_not_mem (hx _ List.mem_cons_self)

/-- A call that was accepted, to the return of the primitive. -/
theorem handOver_effect (ha : SglAccepted e) :
    ∃ fs : List Addr, Effect (fs.map Op.free) (e.early.toList.flatMap fun c => responseSpans w rsp c)
        (sglHandedOver w client req rsp done e)
        ((sglHandedOver w client req rsp done e).handOver ⟨.ockRpcCallbackFunc, e.malloc⟩ e) ∧
      ∀ x ∈ fs, x ∈ iovAddrs req req.iovCount.toNat := by
  unfold World.handOver
  cases hearly : e.early with
  | none => exact ⟨[], (Effect.refl _).queue _, by simp⟩
  | some c =>
    have hi : (sglHandedOver w client req rsp done e).cbInfos e.malloc =
        some (sglInfo client req rsp done e.mallocReqAddr) := Function.update_self _ _ _
    have hxs : (sglHandedOver w client req rsp done e).reqAddrs e.mallocReqAddr =
        some (iovAddrs req req.iovCount.toNat) := Function.update_self _ _ _
    obtain ⟨fs, he, hfs⟩ := runCallback_effect (sglHandedOver w client req rsp done e)
      ⟨.ockRpcCallbackFunc, e.malloc⟩ c
    have hcb : callbackRsp (sglHandedOver w client req rsp done e) ⟨.ockRpcCallbackFunc, e.malloc⟩ =
        rsp := by
      rw [callbackRsp, hi]
      rfl
    have hslots : (sglHandedOver w client req rsp done e).slots = w.slots := rfl
    rw [hcb, responseSpans_congr hslots] at he
    refine ⟨fs, he.mono (by simp), fun x hx => ?_⟩
    obtain ⟨info, p, xs, hi', hp, hxs', hmem⟩ := hfs x hx
    rw [hi] at hi'
    cases hi'
    have hp' : p = e.mallocReqAddr := by
      unfold AsyncCbInfo.array sglInfo at hp
      simp only [ha.2.1, if_false] at hp
      exact (Option.some.inj hp).symm
    rw [hp', hxs] at hxs'
    cases hxs'
    exact hmem

/-- The call as an operation. -/
def OckRpcClientCallParams.op (params : OckRpcClientCallParams) : AsyncOp :=
  .call (.callWithParam params.client params.msgId params.reqIov) params.rspMsgs

theorem responseSpans_of_early (hd : params.done = some done) (hs : wp.slots = w.slots) {s : Addr × Nat}
    (h : s ∈ e.early.toList.flatMap fun c => responseSpans wp params.rspMsgs c) :
    s ∈ params.op.responseSpans w params.done e := by
  simp only [responseSpans_congr hs] at h
  have hslot : params.op.slot = params.rspMsgs := rfl
  unfold AsyncOp.responseSpans
  rw [hslot, hd]
  by_cases h0 : params.rspMsgs = 0
  · simp [responseSpans, h0] at h
  · rw [if_neg h0]
    exact h

/-- **What a scatter-gather call does**, however it ends: it takes its blocks, stores into them and into
the response, and gives back null addresses or blocks it has taken. -/
theorem call_effect (w : World) (params : OckRpcClientCallParams) (e : SubmitEnv)
    (hin : ∀ msgs, checkedMsgs w params = some msgs → CopiesStay w e.pack msgs) :
    ∃ (fs : List Addr) (bs : List (Addr × Nat)),
      Effect (fs.map Op.free ++ bs.map (Op.alloc (w.allocatorOf params.client)))
          (params.op.responseSpans w params.done e ++ bs) w
          (ockRpcClientCallWithParam w (some params) e).1 ∧
        ∀ x ∈ fs, x = 0 ∨ x ∈ bs.map Prod.fst := by
  cases hmsgs : checkedMsgs w params with
  | none =>
    have hw : (ockRpcClientCallWithParam w (some params) e).1 = w := by
      unfold ockRpcClientCallWithParam
      simp only [hmsgs]
    rw [hw]
    exact ⟨[], [], (Effect.refl w).mono (by simp), by simp⟩
  | some msgs =>
    have hlen := checkedMsgs_len hmsgs
    rcases hpack : packReqInfo w params.client msgs params.msgId {} e.pack with ⟨wp, ret, req⟩
    obtain ⟨hp, hback⟩ := packReqInfo_effect hlen (hin msgs hmsgs) hpack
    have hfr := packReqInfo_frame w params.client msgs params.msgId {} e.pack
    rw [hpack] at hfr
    by_cases hret : ret = ockRpcOk
    · subst hret
      obtain ⟨hiov, hfree⟩ := packReqInfo_ok_blocks hlen hpack
      rw [hfree, List.map_nil, List.nil_append] at hp
      -- what follows the packing stores the response and gives back what was taken
      have key : ∀ (fs : List Addr) spans w', Effect (fs.map Op.free) spans wp w' →
          (∀ s ∈ spans, s ∈ params.op.responseSpans w params.done e) →
          (∀ x ∈ fs, x ∈ iovAddrs req req.iovCount.toNat) →
          ∃ (fs : List Addr) (bs : List (Addr × Nat)),
            Effect (fs.map Op.free ++ bs.map (Op.alloc (w.allocatorOf params.client)))
                (params.op.responseSpans w params.done e ++ bs) w w' ∧
              ∀ x ∈ fs, x = 0 ∨ x ∈ bs.map Prod.fst := by
        intro fs spans w' h hs hfs
        refine ⟨fs, blocks (w.since wp), (hp.trans h).mono fun s hmem => ?_, fun x hx => .inr ?_⟩
        · rcases List.mem_append.mp hmem with hmem | hmem
          · exact List.mem_append_left _ (hs s hmem)
          · exact List.mem_append_right _ hmem
        · have h1 := hfs x hx
          rw [hiov] at h1
          exact List.mem_reverse.mp h1
      unfold ockRpcClientCallWithParam
      simp only [hmsgs, hpack, ne_eq, not_true_eq_false, if_false]
      cases hd : params.done with
      | none =>
        simp only [orErr]
        have h1 := (callSyncSgl_effect wp params.client req params.rspMsgs e).trans
          (Effect.memFreeList _ params.client (iovAddrs req req.iovCount.toNat))
        rw [List.append_nil] at h1
        rw [hd] at key
        exact key _ _ _ h1 (fun s hs => hs) fun x hx => List.mem_reverse.mp hx
      | some done =>
        simp only [orErr]
        have hspans : ∀ s ∈ e.early.toList.flatMap fun c => responseSpans wp params.rspMsgs c,
            s ∈ params.op.responseSpans w params.done e :=
          fun s hs => responseSpans_of_early hd hfr.slots hs
        rw [hd] at key hspans
        by_cases ha : SglAccepted e
        · rw [sgl_accepted ha]
          obtain ⟨fs, h1, h2⟩ := @handOver_effect wp e params.client params.rspMsgs req done ha
          have h3 := (sglHandedOver_effect wp params.client req params.rspMsgs done e).trans h1
          rw [List.append_nil] at h3
          rw [List.append_nil] at h3
          exact key fs _ _ h3 hspans h2
        · exact key [] _ _ (sgl_refused_effect ha) (by simp) (by simp)
    · have hw : (ockRpcClientCallWithParam w (some params) e).1 = wp := by
        unfold ockRpcClientCallWithParam
        simp only [hmsgs, hpack, ne_eq, hret, not_false_eq_true, if_true]
      rw [hw]
      exact ⟨_, _, hp.mono fun s hs => List.mem_append_right _ hs, hback⟩

end Call

end Hcom4db
