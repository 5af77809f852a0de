import Hcom4db.Base.HeapLog
import Hcom4db.Base.Runs
import Hcom4db.RunCallback

/-!
# Hcom4db.Records

The life of a callback record, over runs of submissions and completions in any order. A callback that
calls the user before it frees its record runs in two steps, so that anything may happen while the user
has the call.

* `Placed.heap`, `Released`: what an operation and a callback do to the heap.
* `runCallback_eq`: the two steps are the callback.
* `Inv`: the records on the heap are those of the callbacks that are owed.
* `records_freed_once`: each record is freed once, by its operation or by its callback, and no callback
  acts on a record that is freed or on a field nobody set.
-/

namespace Hcom4db

open HeapLog Outstanding Runs

def Event.heapOp? : Event → Option (Op Addr)
  | .malloc p => some (.alloc p)
  | .stdFree p => some (.free p)
  | _ => none

def heapOps (evs : List Event) : List (Op Addr) := evs.filterMap Event.heapOp?

/-- Neither an access to freed memory or to a field nobody set, nor a call through a null pointer. -/
def Event.Clean : Event → Prop
  | .ub => False
  | .userCb cb _ _ => cb ≠ 0
  | _ => True

theorem heapOps_append (es fs : List Event) : heapOps (es ++ fs) = heapOps es ++ heapOps fs :=
  List.filterMap_append

theorem Event.onTransport.clean {ev : Event} (h : ev.onTransport) : ev.Clean := by
  cases ev <;> trivial

theorem heapOps_of_onTransport {evs : List Event} (h : ∀ ev ∈ evs, ev.onTransport) :
    heapOps evs = [] := by
  refine List.filterMap_eq_nil_iff.mpr fun ev hev => ?_
  have := h ev hev
  cases ev <;> first | rfl | exact this.elim

/-! ## What is on the heap -/

def World.onHeap (w : World) (p : Addr) : Bool := (w.cbInfos p).isSome || (w.reqAddrs p).isSome

/-- The log of the heap is in order and ends with what is allocated, and nothing went wrong. -/
structure HeapOk (w : World) : Prop where
  ok : Ok (fun _ => false) (heapOps w.trace)
  live : live (fun _ => false) (heapOps w.trace) = w.onHeap
  clean : ∀ ev ∈ w.trace, ev.Clean

section Heap

variable {w w' w'' w1 wp : World} {e : SubmitEnv} {info : AsyncCbInfo} {ps qs : List Addr}

theorem World.FreshPtr.notOnHeap {p : Addr} (h : w.FreshPtr p) (hp : p ≠ 0) :
    w.onHeap p = false := by
  obtain ⟨h1, h2⟩ := h hp
  simp [World.onHeap, h1, h2]

/-- A step with the operations `ops` on the heap. -/
theorem HeapOk.step (h : HeapOk w) {evs : List Event} {ops : List (Op Addr)}
    (he : w'.trace = evs ++ w.trace) (ho : heapOps evs = ops) (hc : ∀ ev ∈ evs, ev.Clean)
    (hok : Ok w.onHeap ops) (hl : HeapLog.live w.onHeap ops = w'.onHeap) : HeapOk w' := by
  refine ⟨?_, ?_, ?_⟩
  · rw [he, heapOps_append, ok_append, ho, h.live]
    exact ⟨h.ok, hok⟩
  · rw [he, heapOps_append, live_append, ho, h.live, hl]
  · intro ev hev
    rw [he] at hev
    rcases List.mem_append.mp hev with hev | hev
    · exact hc ev hev
    · exact h.clean ev hev

theorem Still.heapOps (h : Still w w') : heapOps (w.since w') = [] := by
  obtain ⟨evs, he, ht⟩ := h.trace
  rw [World.since_of_trace he]
  exact heapOps_of_onTransport ht

theorem HeapOk.still (h : HeapOk w) (hs : Still w w') : HeapOk w' := by
  obtain ⟨evs, he, ht⟩ := hs.trace
  refine h.step he (heapOps_of_onTransport ht) (fun ev hev => (ht ev hev).clean) trivial ?_
  funext p
  simp only [HeapLog.live, World.onHeap, hs.cbInfos, hs.reqAddrs]

/-! ### A record is put on the heap -/

/-- The blocks of a record, newest first. -/
def AsyncCbInfo.blocks (info : AsyncCbInfo) (p : Addr) : List Addr := info.array.toList ++ [p]

theorem place_trace (w : World) (p : Addr) (info : AsyncCbInfo) (addrs : List Addr) :
    (w.place p info addrs).trace = (info.blocks p).map Event.malloc ++ w.trace := by
  unfold World.place AsyncCbInfo.blocks
  cases info.array <;> rfl

theorem heapOps_mallocs (ps : List Addr) : Hcom4db.heapOps (ps.map Event.malloc) = ps.map Op.alloc := by
  induction ps with
  | nil => rfl
  | cons p ps ih => exact congrArg (List.cons (Op.alloc p)) ih

theorem place_onHeap (w : World) (p : Addr) (info : AsyncCbInfo) (addrs : List Addr) :
    HeapLog.live w.onHeap ((info.blocks p).map Op.alloc) = (w.place p info addrs).onHeap := by
  funext x
  rw [live_allocs]
  unfold World.place AsyncCbInfo.blocks World.onHeap
  cases info.array with
  | none =>
    by_cases hx : x = p
    · simp [hx]
    · simp [hx, Function.update_of_ne]
  | some q =>
    by_cases hx : x = p
    · simp [hx]
    · by_cases hq : x = q
      · simp [hq]
      · simp [hx, hq, Function.update_of_ne]

theorem Placed.heapOps (P : Placed w w1 e info) :
    Hcom4db.heapOps (w.since w1) = (info.blocks e.malloc).map Op.alloc := by
  obtain ⟨wp, addrs, h1, h2⟩ := P.steps
  have hmid : (wp.place e.malloc info addrs).trace =
      (info.blocks e.malloc).map Event.malloc ++ wp.trace := place_trace _ _ _ _
  have h12 := World.since_append h1.trace_eq hmid
  have htr : (wp.place e.malloc info addrs).trace =
      w.since (wp.place e.malloc info addrs) ++ w.trace := by
    rw [h12, hmid, h1.trace_eq, List.append_assoc]
  rw [World.since_append htr h2.trace_eq, h12, heapOps_append, heapOps_append, h1.heapOps, h2.heapOps,
    heapOps_mallocs, List.nil_append, List.append_nil]

theorem Placed.trace_eq (P : Placed w w1 e info) : w1.trace = w.since w1 ++ w.trace := by
  obtain ⟨evs, he, -⟩ := P.handed.trace
  rw [World.since_of_trace he, he]

theorem Placed.nodup (P : Placed w w1 e info) (hpq : e.malloc ≠ 0 → e.malloc ≠ e.mallocReqAddr) :
    (info.blocks e.malloc).Nodup := by
  unfold AsyncCbInfo.blocks
  cases hq : info.array with
  | none => simp
  | some q =>
    have hqe := P.array q hq
    have := hpq P.malloc_ne
    simp [hqe, Ne.symm this]

theorem HeapOk.placed (h : HeapOk w) (P : Placed w w1 e info) (hf : w.FreshPtr e.malloc)
    (hf' : w.FreshPtr e.mallocReqAddr) (hpq : e.malloc ≠ 0 → e.malloc ≠ e.mallocReqAddr) :
    HeapOk w1 := by
  obtain ⟨wp, addrs, h1, h2⟩ := P.steps
  refine HeapOk.still ?_ h2
  have hp := h.still h1
  refine hp.step (place_trace wp e.malloc info addrs) (heapOps_mallocs _) ?_
    (ok_allocs (P.nodup hpq) ?_) (place_onHeap wp e.malloc info addrs)
  · intro ev hev
    obtain ⟨p, -, rfl⟩ := List.mem_map.mp hev
    trivial
  · intro x hx
    unfold AsyncCbInfo.blocks at hx
    rcases List.mem_append.mp hx with hx | hx
    · have hq : x ∈ info.array := Option.mem_toList.mp hx
      have hx0 := array_ne_zero hq
      have hxe := P.array x hq
      subst hxe
      exact (h1.freshPtr hf').notOnHeap hx0
    · rw [List.mem_singleton.mp hx]
      exact (h1.freshPtr hf).notOnHeap P.malloc_ne

/-! ### Heap objects are freed -/

/-- A step that frees the heap objects `ps`, the newest first, and nothing else. -/
structure Released (ps : List Addr) (w w' : World) : Prop where
  cbInfos : ∀ x, w'.cbInfos x = if x ∈ ps then none else w.cbInfos x
  reqAddrs : ∀ x, w'.reqAddrs x = if x ∈ ps then none else w.reqAddrs x
  inflight : w'.inflight = w.inflight
  log : ∃ evs, w'.trace = evs ++ w.trace ∧ Hcom4db.heapOps evs = ps.map Op.free ∧
    ∀ ev ∈ evs, ev.Clean

namespace Released

theorem refl (w : World) : Released [] w w :=
  ⟨fun _ => by simp, fun _ => by simp, rfl, [], rfl, rfl, by simp⟩

theorem trans (h : Released ps w w') (h' : Released qs w' w'') : Released (qs ++ ps) w w'' := by
  obtain ⟨evs, he, ho, hc⟩ := h.log
  obtain ⟨evs', he', ho', hc'⟩ := h'.log
  refine ⟨fun x => ?_, fun x => ?_, h'.inflight.trans h.inflight, evs' ++ evs, ?_, ?_, ?_⟩
  · rw [h'.cbInfos, h.cbInfos]
    by_cases hx : x ∈ qs <;> simp [hx]
  · rw [h'.reqAddrs, h.reqAddrs]
    by_cases hx : x ∈ qs <;> simp [hx]
  · rw [he', he, List.append_assoc]
  · rw [heapOps_append, ho, ho', List.map_append]
  · intro ev hev
    rcases List.mem_append.mp hev with hev | hev
    · exact hc' ev hev
    · exact hc ev hev

theorem stdFree (w : World) (p : Addr) : Released [p] w (w.stdFree p) := by
  refine ⟨fun x => ?_, fun x => ?_, rfl, [.stdFree p], rfl, rfl, ?_⟩
  · rw [stdFree_cbInfos]
    simp
  · rw [stdFree_reqAddrs]
    simp
  · intro ev hev
    rw [List.mem_singleton.mp hev]
    trivial

theorem still (h : Still w w') : Released [] w w' := by
  obtain ⟨evs, he, ht⟩ := h.trace
  exact ⟨fun _ => by simp [h.cbInfos], fun _ => by simp [h.reqAddrs], h.inflight, evs, he,
    heapOps_of_onTransport ht, fun ev hev => (ht ev hev).clean⟩

theorem userCb (w : World) {cb : Addr} (arg : Addr) (st : OckRpcStatus) (hcb : cb ≠ 0) :
    Released [] w (w.emit (.userCb cb arg st)) := by
  refine ⟨fun _ => by simp, fun _ => by simp, rfl, [.userCb cb arg st], rfl, rfl, ?_⟩
  intro ev hev
  rw [List.mem_singleton.mp hev]
  exact hcb

theorem frees (h : Released ps w w') : Frees ps w w' := by
  obtain ⟨evs, he, -, -⟩ := h.log
  refine ⟨fun x hx => ?_, fun x hx => ?_, h.inflight, evs, he⟩
  · rw [h.cbInfos, if_neg hx]
  · rw [h.reqAddrs, if_neg hx]

theorem heapOps (h : Released ps w w') : Hcom4db.heapOps (w.since w') = ps.map Op.free := by
  obtain ⟨evs, he, ho, -⟩ := h.log
  rw [World.since_of_trace he, ho]

theorem trace_eq (h : Released ps w w') : w'.trace = w.since w' ++ w.trace := by
  obtain ⟨evs, he, -, -⟩ := h.log
  rw [World.since_of_trace he, he]

end Released

theorem HeapOk.released (h : HeapOk w) (R : Released ps w w') (hn : ps.Nodup)
    (ha : ∀ p ∈ ps, w.onHeap p = true) : HeapOk w' := by
  obtain ⟨evs, he, ho, hc⟩ := R.log
  refine h.step he ho hc (ok_frees hn ha) ?_
  funext x
  rw [live_frees, World.onHeap, World.onHeap, R.cbInfos, R.reqAddrs]
  split <;> rfl

/-- Freeing a record that was not handed over. -/
theorem unplace_released (w : World) (p : Addr) (info : AsyncCbInfo) :
    Released (info.blocks p).reverse w (w.unplace p info) := by
  unfold World.unplace AsyncCbInfo.blocks
  cases info.array with
  | none => exact Released.stdFree w p
  | some q => exact (Released.stdFree w q).trans (Released.stdFree _ p)

end Heap

/-! ## A callback in two steps -/

/-- The callback until it has called the user, and the record it has still to free. Where it frees the
record first, nothing is left to do. -/
def startCallback (w : World) (cb : ChannelCallback) (c : Completion) : World × Option Addr :=
  match cb.cb with
  | .responseCallBack =>
    match w.cbInfos cb.arg with
    | none => (w.emit .ub, none)
    | some info =>
      (if info.cb ≠ 0 then w.emit (.userCb info.cb info.arg c.resultValue) else w, some cb.arg)
  | .ockRpcCallbackFunc =>
    if c.QueriesOk ∧ c.ctxType = some .oneSide then
      match w.cbInfos cb.arg with
      | none => (w.emit .ub, none)
      | some info => (w.emit (.userCb info.cb info.arg c.resultValue), some cb.arg)
    else (ockRpcCallbackFunc w cb.arg c, none)

/-- The rest of the callback. -/
def finishCallback (r : World × Option Addr) : World :=
  match r with
  | (w, none) => w
  | (w, some p) => w.stdFree p

theorem runCallback_eq (w : World) (cb : ChannelCallback) (c : Completion) :
    runCallback w cb c = finishCallback (startCallback w cb c) := by
  obtain ⟨func, arg⟩ := cb
  unfold runCallback startCallback
  cases func with
  | responseCallBack =>
    simp only [responseCallBack]
    cases w.cbInfos arg with
    | none => rfl
    | some info =>
      simp only [finishCallback]
      split <;> rfl
  | ockRpcCallbackFunc =>
    simp only
    split
    · rename_i h
      obtain ⟨hq, ht⟩ := h
      cases hi : w.cbInfos arg with
      | none =>
        unfold ockRpcCallbackFunc
        rw [if_neg (not_not.mpr hq.1), ht]
        simp only [hi, finishCallback]
      | some info =>
        rw [callback_oneSide hq ht hi]
        rfl
    · rfl

/-- What the transport reports of an operation: a one-sided context for reads and writes and for
nothing else, where the query of it succeeds. -/
def AsyncOp.Reports (op : AsyncOp) (c : Completion) : Prop :=
  if op.isReply ∨ op.isCall then c.ctxType ≠ some .oneSide else ∀ t ∈ c.ctxType, t = .oneSide

section Callback

variable {op : AsyncOp} {done : OckRpcCallDone} {w w' : World} {cb : ChannelCallback}
  {info : AsyncCbInfo} {c : Completion}

theorem respond_released (w : World) (rsp : Addr) (c : Completion) (hcb : info.cb ≠ 0) :
    Released [] w (respond w info rsp c) := by
  obtain ⟨mem, slots, evs, h, -, -, -, hst⟩ := respond_rest w info rsp c
  have hn : notifyEvents info c = [.userCb info.cb info.arg c.resultValue] := if_neg hcb
  rw [h, hn]
  refine ⟨fun _ => by simp, fun _ => by simp, rfl,
    [.userCb info.cb info.arg c.resultValue] ++ evs, by simp, ?_, ?_⟩
  · refine List.filterMap_eq_nil_iff.mpr fun ev hev => ?_
    rcases List.mem_append.mp hev with hev | hev
    · rw [List.mem_singleton.mp hev]
      rfl
    · obtain ⟨a, n, rfl⟩ := hst ev hev
      rfl
  · intro ev hev
    rcases List.mem_append.mp hev with hev | hev
    · rw [List.mem_singleton.mp hev]
      exact hcb
    · obtain ⟨a, n, rfl⟩ := hst ev hev
      trivial

theorem Releasable.released (h : Releasable w info) :
    ∃ w', releaseRequest w info = some w' ∧ Released info.array.toList w w' := by
  rcases h with h | ⟨p, client, n, addrs, hp, h1, h2, h3, h4⟩
  · have harr : info.array = none := by simp [AsyncCbInfo.array, h]
    rw [harr]
    exact ⟨w, releaseRequest_of_null h, Released.refl w⟩
  · have harr : info.array = some p := by simp [AsyncCbInfo.array, h1, hp]
    rw [harr]
    refine ⟨_, releaseRequest_of_blocks hp h1 h2 h3 h4, ?_⟩
    exact (Released.still (.of_pool (memFreeList_frame client (addrs.take n) w))).trans
      (Released.stdFree _ p)

/-- What the first step of a callback does: the user has the call and the record is still there, or
the record is freed, with its array if the completion is two-sided. -/
theorem startCallback_cases (L : op.Live done w cb info) (hc : op.Reports c)
    (hcb : op.isReply = false → done.cb ≠ 0) :
    (∃ w1, startCallback w cb c = (w1, some cb.arg) ∧ Released [] w w1) ∨
    ∃ w1 qs, startCallback w cb c = (w1, none) ∧ (qs = [] ∨ qs = info.array.toList) ∧
      Released (qs ++ [cb.arg]) w w1 := by
  have hi := L.record
  have hf : cb.cb = op.callback := L.callback
  unfold startCallback
  cases hrep : op.isReply with
  | true =>
    rw [hf, AsyncOp.callback, if_pos hrep]
    simp only [hi]
    refine .inl ⟨_, rfl, ?_⟩
    split
    · rename_i hne
      exact Released.userCb w info.arg c.resultValue hne
    · exact Released.refl w
  | false =>
    have hne : info.cb ≠ 0 := by
      rw [L.records.cb]
      exact hcb hrep
    rw [hf, AsyncOp.callback, if_neg (by rw [hrep]; exact Bool.false_ne_true)]
    simp only
    split
    · simp only [hi]
      exact .inl ⟨_, rfl, Released.userCb w info.arg c.resultValue hne⟩
    · rename_i hone
      refine .inr ?_
      by_cases hq : c.QueriesOk
      · have ht : c.ctxType ≠ some .oneSide := fun ht => hone ⟨hq, ht⟩
        have hcall : op.isCall = true := by
          cases hcl : op.isCall with
          | true => rfl
          | false =>
            rw [AsyncOp.Reports, if_neg (by simp [hrep, hcl])] at hc
            obtain ⟨t, hct⟩ := Option.isSome_iff_exists.mp hq.2
            rw [hc t hct] at hct
            exact absurd hct ht
        obtain ⟨rsp, hrsp⟩ := Option.isSome_iff_exists.mp (L.records.call hcall).1
        obtain ⟨w2, hw2, R⟩ := (L.releasable hcall).released
        refine ⟨_, info.array.toList, rfl, .inr rfl, ?_⟩
        rw [callback_twoSided hq ht hi hw2 hrsp]
        exact ((Released.stdFree w cb.arg).trans R).trans (respond_released w2 rsp c hne)
      · refine ⟨_, [], rfl, .inl rfl, ?_⟩
        rw [callback_failed hq]
        exact Released.stdFree w cb.arg

/-- A whole callback frees its record. -/
theorem runCallback_released (L : op.Live done w cb info) (hc : op.Reports c)
    (hcb : op.isReply = false → done.cb ≠ 0) :
    ∃ qs, (qs = [] ∨ qs = info.array.toList) ∧ Released (qs ++ [cb.arg]) w (runCallback w cb c) := by
  rw [runCallback_eq]
  rcases startCallback_cases L hc hcb with ⟨w1, h, R⟩ | ⟨w1, qs, h, hqs, R⟩
  · rw [h]
    exact ⟨[], .inl rfl, R.trans (Released.stdFree w1 cb.arg)⟩
  · rw [h]
    exact ⟨qs, hqs, R⟩

/-- What a callback frees is its own, and on the heap. -/
theorem owned_released (O : Owns w cb info) {qs : List Addr}
    (hqs : qs = [] ∨ qs = info.array.toList) :
    (qs ++ [cb.arg]).Nodup ∧ (∀ p ∈ qs ++ [cb.arg], w.onHeap p = true) ∧
      ∀ p ∈ qs ++ [cb.arg], p ∈ ownedBy w cb := by
  have harg : w.onHeap cb.arg = true := by simp [World.onHeap, O.record]
  have hmem : cb.arg ∈ ownedBy w cb := List.mem_cons_self
  rcases hqs with rfl | rfl
  · simp [harg, hmem]
  · cases hq : info.array with
    | none => simp [harg, hmem]
    | some q =>
      obtain ⟨h1, h2⟩ := O.array q hq
      have h3 := O.mem_ownedBy hq
      have h4 : w.onHeap q = true := by simp [World.onHeap, h2]
      simp [harg, hmem, h1, h3, h4]

end Callback

/-! ## Runs -/

namespace Records

/-- A submission: where its record goes, and how often one was allocated there and freed, by the operation
and by its callback. -/
structure Sub where
  record : Addr
  mallocs : Nat
  frees : Nat
  deriving DecidableEq

/-- A callback the transport owes, with the number of its submission. -/
structure Owed where
  sub : Nat
  op : AsyncOp
  /-- The `done` of the operation; a null one counts as one with a null callback. -/
  target : OckRpcCallDone
  cb : ChannelCallback
  /-- The user has the call. -/
  started : Bool := false

structure Sys where
  w : World
  subs : List Sub := []
  owed : List Owed := []

inductive Label where
  | submit (op : AsyncOp) (done : Option OckRpcCallDone) (e : SubmitEnv)
  | start (k : Nat) (c : Completion)
  | finish (k : Nat)
  /-- A step that has nothing to do with the heap. -/
  | other (f : World → World)

def submitted (w w' : World) (p : Addr) : Sub :=
  ⟨p, (heapOps (w.since w')).count (.alloc p), (heapOps (w.since w')).count (.free p)⟩

/-- Callback `k` has run to its end, in the state `w`. -/
def ended (s : Sys) (k : Nat) (o : Owed) (w : World) : Sys :=
  { w := w
    subs := s.subs.modify o.sub fun sub =>
      { sub with frees := (heapOps (s.w.since w)).count (.free sub.record) + sub.frees }
    owed := s.owed.eraseIdx k }

def step (s : Sys) : Label → Sys
  | .submit op done e =>
    let r := op.submit s.w done e
    { w := r.1
      subs := s.subs ++ [submitted s.w r.1 e.malloc]
      owed := s.owed ++ (r.1.inflight.drop s.w.inflight.length).map fun cb =>
        ⟨s.subs.length, op, done.getD ⟨0, 0⟩, cb, false⟩ }
  | .start k c =>
    match s.owed[k]? with
    | none => s
    | some o =>
      if o.started then s
      else
        match startCallback s.w o.cb c with
        | (w, some _) => { s with w := w, owed := s.owed.set k { o with started := true } }
        | (w, none) => ended s k o (dequeue w k)
  | .finish k =>
    match s.owed[k]? with
    | none => s
    | some o => if o.started then ended s k o (dequeue (s.w.stdFree o.cb.arg) k) else s
  | .other f => { s with w := f s.w }

/-- What `malloc`, the transport and the callers guarantee: `malloc` returns what is not allocated, a
`done` has a callback, and a completion reports what its operation was. -/
def Contract (s : Sys) : Label → Prop
  | .submit op done e => s.w.FreshPtr e.malloc ∧ s.w.FreshPtr e.mallocReqAddr ∧
      (e.malloc ≠ 0 → e.malloc ≠ e.mallocReqAddr) ∧ (∀ d ∈ done, d.cb ≠ 0) ∧
      ∀ c ∈ e.early, op.Reports c
  | .start k c => ∀ o ∈ s.owed[k]?, o.op.Reports c
  | .finish _ => True
  | .other f => Still s.w (f s.w)

def Live (w : World) (o : Owed) : Prop :=
  (o.op.isReply = false → o.target.cb ≠ 0) ∧ ∃ info, o.op.Live o.target w o.cb info

theorem onOwned : OnOwned Owed.cb Live := by
  constructor
  · rintro w o ⟨-, info, L⟩
    exact ⟨info, L.toOwns⟩
  · rintro w w' o ⟨h, info, L⟩ hag
    exact ⟨h, info, L.agree hag⟩

structure Inv (s : Sys) : Prop where
  owed : OwedHeap Owed.cb Live s.w s.owed
  nodup : (s.owed.map Owed.sub).Nodup
  pending : ∀ o ∈ s.owed, s.subs[o.sub]? = some ⟨o.cb.arg, 1, 0⟩
  settled : ∀ n sub, s.subs[n]? = some sub → n ∉ s.owed.map Owed.sub →
    sub.mallocs ≤ 1 ∧ sub.frees = sub.mallocs
  records : ∀ p, (s.w.cbInfos p).isSome → p ∈ s.owed.map fun o => o.cb.arg
  heap : HeapOk s.w

section Step

variable {s : Sys} {k : Nat} {o : Owed} {w' : World}

theorem Inv.lt (I : Inv s) : ∀ o ∈ s.owed, o.sub < s.subs.length := by
  intro o ho
  exact (List.getElem?_eq_some_iff.mp (I.pending o ho)).1

/-- A submission that owes nothing when it returns. -/
theorem inv_extend (I : Inv s) {sub : Sub} (hin : w'.inflight = s.w.inflight)
    (hag : ∀ o ∈ s.owed, Agree (ownedBy s.w o.cb) s.w w') (hsub : sub.mallocs ≤ 1 ∧ sub.frees = sub.mallocs)
    (hrec : ∀ p, (w'.cbInfos p).isSome → (s.w.cbInfos p).isSome) (hheap : HeapOk w') :
    Inv { s with w := w', subs := s.subs ++ [sub] } := by
  refine ⟨I.owed.keep onOwned hin hag, I.nodup, ?_, ?_, fun p hp => I.records p (hrec p hp), hheap⟩
  · intro o ho
    rw [List.getElem?_append_left (I.lt o ho)]
    exact I.pending o ho
  · intro n sub' hn hnot
    rcases getElem?_concat_cases hn with h | ⟨-, rfl⟩
    · exact I.settled n sub' h hnot
    · exact hsub

theorem submitted_still {p : Addr} (h : Still s.w w') : submitted s.w w' p = ⟨p, 0, 0⟩ := by
  rw [submitted, h.heapOps]
  rfl

/-- The counts of an operation that put a record on the heap and freed `ps` of it. -/
theorem submitted_placed {w1 : World} {e : SubmitEnv} {info : AsyncCbInfo} {ps : List Addr}
    (P : Placed s.w w1 e info) (hpq : e.malloc ≠ 0 → e.malloc ≠ e.mallocReqAddr)
    (R : Released ps w1 w') : submitted s.w w' e.malloc = ⟨e.malloc, 1, ps.count e.malloc⟩ := by
  have hone : (info.blocks e.malloc).count e.malloc = 1 :=
    List.count_eq_one_of_mem (P.nodup hpq) (by simp [AsyncCbInfo.blocks])
  rw [submitted, World.since_append P.trace_eq R.trace_eq, heapOps_append, P.heapOps, R.heapOps,
    List.count_append, List.count_append, count_alloc_frees, count_alloc_allocs, count_free_frees,
    count_free_allocs, hone]
  rfl

/-- A submission whose callback is owed when it returns. -/
theorem inv_queue (I : Inv s) {op : AsyncOp} {target : OckRpcCallDone} {e : SubmitEnv} {w1 : World}
    {info : AsyncCbInfo} (P : Placed s.w w1 e info) (hf : s.w.FreshPtr e.malloc)
    (hf' : s.w.FreshPtr e.mallocReqAddr) (hpq : e.malloc ≠ 0 → e.malloc ≠ e.mallocReqAddr)
    (hlive : Live w1 ⟨s.subs.length, op, target, ⟨op.callback, e.malloc⟩, false⟩) :
    Inv { w := { w1 with inflight := w1.inflight ++ [⟨op.callback, e.malloc⟩] }
          subs := s.subs ++ [⟨e.malloc, 1, 0⟩]
          owed := s.owed ++ [⟨s.subs.length, op, target, ⟨op.callback, e.malloc⟩, false⟩] } := by
  have H := P.handed
  have hheap := I.heap.placed P hf hf' hpq
  refine ⟨I.owed.push onOwned H hf hf' rfl hlive, ?_, ?_, ?_, ?_, ⟨hheap.ok, hheap.live, hheap.clean⟩⟩
  · rw [List.map_append]
    refine nodup_concat I.nodup fun n hn => ?_
    obtain ⟨o, ho, rfl⟩ := List.mem_map.mp hn
    exact I.lt o ho
  · intro o ho
    rcases List.mem_append.mp ho with ho | ho
    · rw [List.getElem?_append_left (I.lt o ho)]
      exact I.pending o ho
    · rw [List.mem_singleton.mp ho]
      exact getElem?_concat_last _ _
  · intro n sub hn hnot
    simp only [List.map_append, List.mem_append, not_or, List.map_cons, List.map_nil,
      List.mem_singleton] at hnot
    rcases getElem?_concat_cases hn with h | ⟨hlast, -⟩
    · exact I.settled n sub h hnot.1
    · exact absurd hlast hnot.2
  · intro p hp
    rw [List.map_append, List.mem_append]
    by_cases h : p = e.malloc
    · exact .inr (by simp [h])
    · simp only at hp
      rw [H.cbInfos p h] at hp
      exact .inl (I.records p hp)

theorem inv_submit (I : Inv s) {op : AsyncOp} {done : Option OckRpcCallDone} {e : SubmitEnv}
    (hc : Contract s (.submit op done e)) : Inv (step s (.submit op done e)) := by
  obtain ⟨hf, hf', hpq, hcb, hearly⟩ := hc
  have hcourse := op.submit_course done s.w e
  have hstill : ∀ w', Still s.w w' → ∀ o ∈ s.owed, Agree (ownedBy s.w o.cb) s.w w' :=
    fun w' h o _ x _ => ⟨congrFun h.cbInfos x, congrFun h.reqAddrs x⟩
  rcases hr : op.submit s.w done e with ⟨w', st⟩
  rw [hr] at hcourse
  simp only at hcourse
  simp only [step, hr]
  cases hcourse with
  | stopped h _ =>
    rw [h.inflight, List.drop_length, submitted_still h, List.map_nil, List.append_nil]
    exact inv_extend I h.inflight (hstill _ h) ⟨Nat.zero_le _, rfl⟩ (fun p hp => by rwa [h.cbInfos] at hp)
      (I.heap.still h)
  | posted _ h _ _ _ _ =>
    rw [h.inflight, List.drop_length, submitted_still h, List.map_nil, List.append_nil]
    exact inv_extend I h.inflight (hstill _ h) ⟨Nat.zero_le _, rfl⟩ (fun p hp => by rwa [h.cbInfos] at hp)
      (I.heap.still h)
  | @refused w1 info _ P _ _ =>
    have Q := P.unplace_quiet hf hf'
    have R := unplace_released w1 e.malloc info
    have hnd := P.nodup hpq
    rw [Q.inflight, List.drop_length, submitted_placed P hpq R, List.map_nil, List.append_nil]
    refine inv_extend I Q.inflight (fun o _ x _ => ⟨congrFun Q.cbInfos x, congrFun Q.reqAddrs x⟩)
      ⟨Nat.le_refl _, ?_⟩ (fun p hp => by rwa [Q.cbInfos] at hp) ?_
    · simp only
      rw [List.count_reverse]
      exact List.count_eq_one_of_mem hnd (by simp [AsyncCbInfo.blocks])
    · have hown := (P.handed.owns hpq op.callback)
      refine (I.heap.placed P hf hf' hpq).released R (List.nodup_reverse.mpr hnd) fun p hp => ?_
      exact (owned_released hown (.inr rfl)).2.1 p (List.mem_reverse.mp hp)
  | @accepted w1 info P hd _ hrec _ =>
    have H := P.handed
    have hown := H.owns hpq op.callback
    have hlive : Live w1 ⟨s.subs.length, op, done.getD ⟨0, 0⟩, ⟨op.callback, e.malloc⟩, false⟩ := by
      refine ⟨fun hrep => ?_, info, hown, rfl, hrec⟩
      obtain ⟨d, rfl⟩ := Option.isSome_iff_exists.mp (hd.resolve_right (by rw [hrep]; decide))
      exact hcb d rfl
    unfold World.handOver
    cases he : e.early with
    | none =>
      have hsub : submitted s.w w1 e.malloc = ⟨e.malloc, 1, 0⟩ :=
        submitted_placed P hpq (Released.refl w1)
      simp only [H.drop_queued, List.map_cons, List.map_nil]
      rw [show submitted s.w { w1 with inflight := w1.inflight ++ [⟨op.callback, e.malloc⟩] } e.malloc =
        submitted s.w w1 e.malloc from rfl, hsub]
      exact inv_queue I P hf hf' hpq hlive
    | some c =>
      -- the callback has run inside the primitive
      have L : op.Live (done.getD ⟨0, 0⟩) w1 ⟨op.callback, e.malloc⟩ info := ⟨hown, rfl, hrec⟩
      obtain ⟨qs, hqs, R⟩ := runCallback_released L (hearly c he) hlive.1
      obtain ⟨hnd, hon, hmine⟩ := owned_released hown hqs
      have hin : (runCallback w1 ⟨op.callback, e.malloc⟩ c).inflight = s.w.inflight :=
        R.inflight.trans H.inflight
      simp only
      rw [hin, List.drop_length, submitted_placed P hpq R, List.map_nil, List.append_nil]
      refine inv_extend I hin ?_ ⟨Nat.le_refl _, ?_⟩ ?_
        ((I.heap.placed P hf hf' hpq).released R hnd hon)
      · exact I.owed.agree_early onOwned H hf hf' (R.frees.mono hmine)
      · exact List.count_eq_one_of_mem hnd (by simp)
      · intro p hp
        rw [R.cbInfos] at hp
        split at hp
        · cases hp
        · rename_i hnot
          have hne : p ≠ e.malloc := by
            rintro rfl
            exact hnot (by simp)
          rwa [H.cbInfos p hne] at hp

/-- Callback `k` has run to its end and has freed its record. -/
theorem inv_ended (I : Inv s) (hk : s.owed[k]? = some o) {info : AsyncCbInfo}
    (O : Owns s.w o.cb info) {qs : List Addr} (hqs : qs = [] ∨ qs = info.array.toList)
    (R : Released (qs ++ [o.cb.arg]) s.w w') : Inv (ended s k o (dequeue w' k)) := by
  have ho : o ∈ s.owed := List.mem_of_getElem? hk
  obtain ⟨hnd, hon, hmine⟩ := owned_released O hqs
  have hfrees : Frees (ownedBy (dequeue s.w k) o.cb) (dequeue s.w k) (dequeue w' k) := by
    have h := R.frees.mono hmine
    refine ⟨h.cbInfos, h.reqAddrs, ?_, h.trace⟩
    simp only [dequeue, h.inflight]
  have hsub := I.pending o ho
  have hcount : (heapOps (s.w.since (dequeue w' k))).count (.free o.cb.arg) = 1 := by
    have h : s.w.since (dequeue w' k) = s.w.since w' := rfl
    rw [h, R.heapOps, count_free_frees]
    exact List.count_eq_one_of_mem hnd (by simp)
  refine ⟨I.owed.remove onOwned hk hfrees, ?_, ?_, ?_, ?_, ?_⟩
  · simp only [ended, ← List.eraseIdx_map]
    exact I.nodup.sublist (List.eraseIdx_sublist _ _)
  · intro o' ho'
    have hne : o'.sub ≠ o.sub := key_ne_of_mem_eraseIdx I.nodup hk ho'
    simp only [ended, List.getElem?_modify_ne _ _ hne.symm]
    exact I.pending o' (List.mem_of_mem_eraseIdx ho')
  · intro n sub hn hnot
    simp only [ended] at hn hnot
    by_cases hno : n = o.sub
    · subst hno
      rw [List.getElem?_modify_eq, hsub] at hn
      simp only [Option.map_eq_map, Option.map_some, Option.some.injEq, hcount] at hn
      subst hn
      exact ⟨Nat.le_refl _, rfl⟩
    · rw [List.getElem?_modify_ne _ _ (Ne.symm hno)] at hn
      exact I.settled n sub hn fun hmem => hnot (mem_keys_eraseIdx hk hmem hno)
  · intro p hp
    simp only [ended, dequeue] at hp ⊢
    rw [R.cbInfos] at hp
    split at hp
    · cases hp
    · rename_i hnot
      refine mem_keys_eraseIdx hk (I.records p hp) fun heq => hnot ?_
      simp [heq]
  · have h := I.heap.released R hnd hon
    exact ⟨h.ok, h.live, h.clean⟩

theorem inv_start (I : Inv s) {c : Completion} (hc : Contract s (.start k c)) :
    Inv (step s (.start k c)) := by
  simp only [step]
  cases hk : s.owed[k]? with
  | none => exact I
  | some o =>
    simp only
    split
    · exact I
    have ho : o ∈ s.owed := List.mem_of_getElem? hk
    obtain ⟨hcb, info, L⟩ := I.owed.live o ho
    rcases startCallback_cases L (hc o hk) hcb with ⟨w1, h, R⟩ | ⟨w1, qs, h, hqs, R⟩
    · -- the user has the call, the heap is as before
      rw [h]
      simp only
      have hag : ∀ o', Agree (ownedBy s.w (Owed.cb o')) s.w w1 := fun o' x _ => by
        rw [R.cbInfos, R.reqAddrs]
        simp
      have howed := I.owed.keep onOwned R.inflight fun o' _ => hag o'
      -- `started` is the only field that changes
      have hmem : ∀ o' ∈ s.owed.set k { o with started := true },
          o' ∈ s.owed ∨ o' = { o with started := true } := fun o' h => List.mem_or_eq_of_mem_set h
      have hmap {β : Type} (f : Owed → β) (hf : f { o with started := true } = f o) :
          (s.owed.set k { o with started := true }).map f = s.owed.map f := by
        obtain ⟨hlt, hget⟩ := List.getElem?_eq_some_iff.mp hk
        have hlt' : k < (s.owed.map f).length := by rwa [List.length_map]
        have h0 : f o = (s.owed.map f)[k] := by rw [List.getElem_map, hget]
        rw [List.map_set, hf, h0]
        exact List.set_getElem_self hlt'
      refine ⟨⟨?_, ?_, ?_⟩, ?_, ?_, ?_, ?_, ?_⟩
      · rw [howed.inflight, hmap Owed.cb rfl]
      · intro o' ho'
        rcases hmem o' ho' with h | rfl
        · exact howed.live o' h
        · exact howed.live o ho
      · have hap : (s.owed.map Owed.cb).Pairwise fun cb cb' =>
            List.Disjoint (ownedBy w1 cb) (ownedBy w1 cb') := List.pairwise_map.mpr howed.apart
        rw [← hmap Owed.cb rfl] at hap
        exact (@List.pairwise_map _ _ Owed.cb (fun cb cb' =>
          List.Disjoint (ownedBy w1 cb) (ownedBy w1 cb')) _).mp hap
      · simp only
        rw [hmap Owed.sub rfl]
        exact I.nodup
      · intro o' ho'
        rcases hmem o' ho' with h | rfl
        · exact I.pending o' h
        · exact I.pending o ho
      · intro n sub hn hnot
        simp only at hnot
        rw [hmap Owed.sub rfl] at hnot
        exact I.settled n sub hn hnot
      · intro p hp
        simp only at hp ⊢
        rw [hmap (fun o => o.cb.arg) rfl]
        refine I.records p ?_
        rw [R.cbInfos] at hp
        simpa using hp
      · exact I.heap.released R List.nodup_nil (by simp)
    · rw [h]
      exact inv_ended I hk L.toOwns hqs R

theorem inv_finish (I : Inv s) (k : Nat) : Inv (step s (.finish k)) := by
  simp only [step]
  cases hk : s.owed[k]? with
  | none => exact I
  | some o =>
    simp only
    split
    · obtain ⟨-, info, L⟩ := I.owed.live o (List.mem_of_getElem? hk)
      exact inv_ended I hk L.toOwns (.inl rfl) (Released.stdFree s.w o.cb.arg)
    · exact I

theorem inv_other (I : Inv s) {f : World → World} (hc : Contract s (.other f)) :
    Inv (step s (.other f)) := by
  have h : Still s.w (f s.w) := hc
  refine ⟨I.owed.keep onOwned h.inflight fun o _ x _ => ⟨congrFun h.cbInfos x, congrFun h.reqAddrs x⟩,
    I.nodup, I.pending, I.settled, fun p hp => I.records p ?_, I.heap.still h⟩
  simp only [step] at hp
  rwa [h.cbInfos] at hp

theorem inv_step (I : Inv s) {l : Label} (hc : Contract s l) : Inv (step s l) := by
  cases l with
  | submit op done e => exact inv_submit I hc
  | start k c => exact inv_start I hc
  | finish k => exact inv_finish I k
  | other f => exact inv_other I hc

end Step

/-- Before the first operation nothing is on the heap. -/
structure Initial (w : World) : Prop where
  trace : w.trace = []
  inflight : w.inflight = []
  cbInfos : w.cbInfos = fun _ => none
  reqAddrs : w.reqAddrs = fun _ => none

theorem inv_init {w : World} (h : Initial w) : Inv { w := w } := by
  refine ⟨⟨h.inflight, by simp, List.Pairwise.nil⟩, List.nodup_nil, by simp, ?_, ?_, ?_, ?_, ?_⟩
  · intro n sub hn
    simp at hn
  · intro p hp
    rw [h.cbInfos] at hp
    cases hp
  · rw [h.trace]
    trivial
  · funext p
    rw [h.trace, World.onHeap, h.cbInfos, h.reqAddrs]
    rfl
  · rw [h.trace]
    simp

/-- **Callback records live exactly once**: the records on the heap are those of the callbacks that are
owed. Every other submission has allocated at most one record, and it has been freed exactly once, by the
operation or by its callback; no free of the whole run is of a block that is not allocated. No callback
has acted on a record that was freed or on a field that nobody set, nor called a null callback. -/
theorem records_freed_once {w : World} {s : Sys} (h0 : Initial w)
    (hrun : Reached Contract step { w := w } s) :
    (∀ ev ∈ s.w.trace, ev.Clean) ∧ Ok (fun _ => false) (heapOps s.w.trace) ∧
      (∀ p, (s.w.cbInfos p).isSome ↔ p ∈ s.owed.map fun o => o.cb.arg) ∧
      ∀ n sub, s.subs[n]? = some sub → sub.mallocs ≤ 1 ∧
        sub.frees = if n ∈ s.owed.map Owed.sub then 0 else sub.mallocs := by
  have I : Inv s := hrun.invariant (inv_init h0) fun s l I hl => inv_step I hl
  refine ⟨I.heap.clean, I.heap.ok, fun p => ⟨I.records p, fun hp => ?_⟩, fun n sub hn => ?_⟩
  · obtain ⟨o, ho, rfl⟩ := List.mem_map.mp hp
    obtain ⟨-, info, L⟩ := I.owed.live o ho
    simp only [L.record, Option.isSome_some]
  · split
    · rename_i hmem
      obtain ⟨o, ho, rfl⟩ := List.mem_map.mp hmem
      rw [I.pending o ho] at hn
      cases hn
      exact ⟨Nat.le_refl _, rfl⟩
    · rename_i hnot
      exact I.settled n sub hn hnot

/-- A read and a reply without `done`; the reply completes with a failed query, and the user of the read
has the call while the reply ends. -/
def readAndReply : List Label :=
  [.submit (.read 1 (some {})) (some ⟨11, 12⟩) { malloc := 900 },
    .submit (.serverReplyRndv 3 (some ⟨5, 4⟩)) none { malloc := 910 },
    .start 0 { ctxType := some .oneSide }, .start 1 { getResultRet := 1, ctxType := none }, .finish 1,
    .finish 0]

theorem readAndReply_contract : AllOk Contract step { w := {} } readAndReply := by
  refine ⟨⟨fun _ => ⟨rfl, rfl⟩, fun h => absurd rfl h, fun _ => by decide, ?_, ?_⟩,
    ⟨fun _ => ⟨rfl, rfl⟩, fun h => absurd rfl h, fun _ => by decide, ?_, ?_⟩, ?_, ?_, trivial, trivial,
    trivial⟩
  · rintro d ⟨⟩
    decide
  · rintro c ⟨⟩
  · rintro d ⟨⟩
  · rintro c ⟨⟩
  · rintro o ⟨⟩ t ⟨⟩
    rfl
  · rintro o ⟨⟩ ⟨⟩

theorem records_freed_once_two : ∃ s : Sys, s = readAndReply.foldl step { w := {} } ∧
    s.subs = [⟨900, 1, 1⟩, ⟨910, 1, 1⟩] ∧ ∀ p, s.w.cbInfos p = none := by
  have h := @records_freed_once {} _ ⟨rfl, rfl, rfl, rfl⟩
    (Reached.refl.extend readAndReply_contract)
  refine ⟨_, rfl, rfl, fun p => ?_⟩
  have hp := (h.2.2.1 p).mp
  cases hc : (readAndReply.foldl step { w := {} }).w.cbInfos p with
  | none => rfl
  | some info =>
    rw [hc] at hp
    cases hp rfl

end Records

end Hcom4db
