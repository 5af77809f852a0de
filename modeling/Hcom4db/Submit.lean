import Hcom4db.AsyncResponse

/-!
# Hcom4db.Submit

The ten operations that take a `done`, seen from the heap and from the callbacks.

* `AsyncOp.Course`: the four courses an operation can take; `submit_course`: it takes one of them.
* `Quiet`: a step that calls nobody, owes no callback and leaves the records as they are. It is what an
  operation that fails or that has no `done` amounts to (`submit_quiet`).
* `Handed`: an operation that returns `OCK_RPC_OK` has put one record, and perhaps one array, on the
  heap and has handed them over (`submit_ok`).
-/

namespace Hcom4db

open FlatMem

/-- The operations that take a `done`. -/
inductive AsyncOp where
  | call (op : ResponseOp) (rsp : Addr)
  | read (client : Addr) (req : Option ServiceRequest)
  | readSgl (client req : Addr)
  | write (client : Addr) (req : Option ServiceRequest)
  | writeSgl (client req : Addr)
  | serverReply (reply : Option (OckRpcMessage Addr))
  | serverReplyRndv (ctx : Addr) (reply : Option (OckRpcMessage Addr))

namespace AsyncOp

def submit (op : AsyncOp) (w : World) (done : Option OckRpcCallDone) (e : SubmitEnv) : World × Int :=
  match op with
  | .call op rsp => op.submit w rsp done e
  | .read client req => ockRpcRead w client req done e
  | .readSgl client req => ockRpcReadSgl w client req done e
  | .write client req => ockRpcWrite w client req done e
  | .writeSgl client req => ockRpcWriteSgl w client req done e
  | .serverReply reply => ockRpcServerReply w reply done e
  | .serverReplyRndv ctx reply => ockRpcServerReplyRndv w ctx reply done e

def isReply : AsyncOp → Bool
  | .serverReply _ => true
  | .serverReplyRndv _ _ => true
  | _ => false

def isCall : AsyncOp → Bool
  | .call _ _ => true
  | _ => false

def callback (op : AsyncOp) : ChannelCallbackFunc :=
  if op.isReply then .responseCallBack else .ockRpcCallbackFunc

/-- The `rsp` field of the record; only calls store one. -/
def response : AsyncOp → Option Addr
  | .call _ rsp => some rsp
  | _ => none

/-- The caller's response struct, 0 when there is none. -/
def slot (op : AsyncOp) : Addr := op.response.getD 0

end AsyncOp

/-! ## The heap -/

/-- The array a record owns. -/
def AsyncCbInfo.array (info : AsyncCbInfo) : Option Addr :=
  match info.reqAddr with
  | none => none
  | some p => if p = 0 then none else some p

/-- The heap objects of a callback that is owed. -/
def ownedBy (w : World) (cb : ChannelCallback) : List Addr :=
  cb.arg :: ((w.cbInfos cb.arg).bind AsyncCbInfo.array).toList

structure Quiet (w w' : World) : Prop where
  cbInfos : w'.cbInfos = w.cbInfos
  reqAddrs : w'.reqAddrs = w.reqAddrs
  inflight : w'.inflight = w.inflight
  trace : ∃ evs, w'.trace = evs ++ w.trace ∧ userCalls evs = []

theorem Quiet.refl (w : World) : Quiet w w := ⟨rfl, rfl, rfl, [], rfl, rfl⟩

theorem Quiet.trans {w w' w'' : World} (h : Quiet w w') (h' : Quiet w' w'') : Quiet w w'' := by
  obtain ⟨evs, he, hu⟩ := h.trace
  obtain ⟨evs', he', hu'⟩ := h'.trace
  refine ⟨h'.cbInfos.trans h.cbInfos, h'.reqAddrs.trans h.reqAddrs, h'.inflight.trans h.inflight,
    evs' ++ evs, by rw [he', he, List.append_assoc], by rw [userCalls_append, hu, hu']; rfl⟩

theorem PoolFrame.quiet {client : Addr} {w w' : World} (h : PoolFrame client w w') : Quiet w w' :=
  ⟨h.cbInfos, h.reqAddrs, h.inflight, w.since w', h.trace_eq, h.userCalls⟩

theorem Quiet.userCalls {w w' : World} (h : Quiet w w') : userCalls (w.since w') = [] := by
  obtain ⟨evs, he, hu⟩ := h.trace
  rw [World.since_of_trace he, hu]

/-- `malloc` returns an address at which nothing is allocated. -/
def World.FreshPtr (w : World) (p : Addr) : Prop := p ≠ 0 → w.cbInfos p = none ∧ w.reqAddrs p = none

/-- What is on the heap when an operation hands over: its record, and the array the record owns. -/
structure Handed (w w1 : World) (e : SubmitEnv) (info : AsyncCbInfo) : Prop where
  malloc_ne : e.malloc ≠ 0
  record : w1.cbInfos e.malloc = some info
  cbInfos : ∀ x, x ≠ e.malloc → w1.cbInfos x = w.cbInfos x
  array : ∀ q ∈ info.array, q = e.mallocReqAddr ∧ (w1.reqAddrs q).isSome
  reqAddrs : ∀ x, x ∉ info.array → w1.reqAddrs x = w.reqAddrs x
  inflight : w1.inflight = w.inflight
  trace : ∃ evs, w1.trace = evs ++ w.trace ∧ userCalls evs = []

/-- What is in flight since, once the callback is queued: the callback alone. -/
theorem Handed.drop_queued {w w1 : World} {e : SubmitEnv} {info : AsyncCbInfo} (H : Handed w w1 e info)
    (cb : ChannelCallback) : (w1.inflight ++ [cb]).drop w.inflight.length = [cb] := by
  rw [H.inflight, List.drop_left]

theorem Quiet.handed {w w' w1 : World} {e : SubmitEnv} {info : AsyncCbInfo} (h : Quiet w w')
    (H : Handed w' w1 e info) : Handed w w1 e info := by
  obtain ⟨evs, he, hu⟩ := h.trace
  obtain ⟨evs', he', hu'⟩ := H.trace
  refine ⟨H.malloc_ne, H.record, ?_, H.array, ?_, H.inflight.trans h.inflight, evs' ++ evs, ?_, ?_⟩
  · intro x hx
    rw [H.cbInfos x hx, h.cbInfos]
  · intro x hx
    rw [H.reqAddrs x hx, h.reqAddrs]
  · rw [he', he, List.append_assoc]
  · rw [userCalls_append, hu, hu']
    rfl

/-- What the record of an operation holds. -/
structure AsyncOp.Records (op : AsyncOp) (done : OckRpcCallDone) (info : AsyncCbInfo) : Prop where
  cb : info.cb = done.cb
  arg : info.arg = done.arg
  call : op.isCall → info.rsp.isSome ∧ (info.reqAddr = some 0 ∨
    ∃ p, p ≠ 0 ∧ info.reqAddr = some p ∧ info.client.isSome ∧ info.reqCnt.isSome)

section Fields

variable (w : World) (p : Addr) (info : AsyncCbInfo) (addrs : List Addr)

@[simp] theorem newCbInfo_trace : (w.newCbInfo p info).trace = .malloc p :: w.trace := rfl
@[simp] theorem newCbInfo_cbInfos :
    (w.newCbInfo p info).cbInfos = Function.update w.cbInfos p (some info) := rfl
@[simp] theorem newCbInfo_reqAddrs : (w.newCbInfo p info).reqAddrs = w.reqAddrs := rfl

@[simp] theorem newReqAddr_trace : (w.newReqAddr p addrs).trace = .malloc p :: w.trace := rfl
@[simp] theorem newReqAddr_cbInfos : (w.newReqAddr p addrs).cbInfos = w.cbInfos := rfl
@[simp] theorem newReqAddr_reqAddrs :
    (w.newReqAddr p addrs).reqAddrs = Function.update w.reqAddrs p (some addrs) := rfl

end Fields

/-! ## Steps that leave the heap alone -/

/-- What packing and the primitives leave in the trace. -/
def Event.onTransport : Event → Prop
  | .poolAlloc _ _ _ => True
  | .poolFree _ _ => True
  | .store _ _ => True
  | .iovStore _ => True
  | .transport _ _ _ _ _ _ => True
  | _ => False

structure Still (w w' : World) : Prop where
  cbInfos : w'.cbInfos = w.cbInfos
  reqAddrs : w'.reqAddrs = w.reqAddrs
  inflight : w'.inflight = w.inflight
  trace : ∃ evs, w'.trace = evs ++ w.trace ∧ ∀ ev ∈ evs, ev.onTransport

namespace Still

variable {w w' w'' : World}

theorem refl (w : World) : Still w w := ⟨rfl, rfl, rfl, [], rfl, fun _ h => nomatch h⟩

theorem trans (h : Still w w') (h' : Still w' w'') : Still w w'' := by
  obtain ⟨evs, he, ht⟩ := h.trace
  obtain ⟨evs', he', ht'⟩ := h'.trace
  refine ⟨h'.cbInfos.trans h.cbInfos, h'.reqAddrs.trans h.reqAddrs, h'.inflight.trans h.inflight,
    evs' ++ evs, by rw [he', he, List.append_assoc], ?_⟩
  intro ev hev
  rcases List.mem_append.mp hev with hev | hev
  · exact ht' ev hev
  · exact ht ev hev

theorem of_pool {client : Addr} (h : PoolFrame client w w') : Still w w' := by
  refine ⟨h.cbInfos, h.reqAddrs, h.inflight, w.since w', h.trace_eq, fun ev hev => ?_⟩
  have := h.onPool ev hev
  cases ev <;> trivial

theorem emit (w : World) (p : Post) (cb : Option ChannelCallback) (ret : Int) :
    Still w (w.emit (p.event cb ret)) :=
  ⟨rfl, rfl, rfl, [p.event cb ret], rfl, fun _ h => by rw [List.mem_singleton.mp h]; trivial⟩

theorem trace_eq (h : Still w w') : w'.trace = w.since w' ++ w.trace := by
  obtain ⟨evs, he, -⟩ := h.trace
  rw [World.since_of_trace he, he]

theorem quiet (h : Still w w') : Quiet w w' := by
  obtain ⟨evs, he, ht⟩ := h.trace
  refine ⟨h.cbInfos, h.reqAddrs, h.inflight, evs, he, List.filterMap_eq_nil_iff.mpr fun ev hev => ?_⟩
  have := ht ev hev
  cases ev <;> first | rfl | exact this.elim

theorem freshPtr (h : Still w w') {p : Addr} (hf : w.FreshPtr p) : w'.FreshPtr p := by
  intro hp
  rw [h.cbInfos, h.reqAddrs]
  exact hf hp

end Still

/-! ## Records -/

/-- Put a record on the heap, and the array it owns. -/
def World.place (w : World) (p : Addr) (info : AsyncCbInfo) (addrs : List Addr) : World :=
  match info.array with
  | none => w.newCbInfo p info
  | some q => (w.newCbInfo p info).newReqAddr q addrs

/-- Free a record that was not handed over, and its array. -/
def World.unplace (w : World) (p : Addr) (info : AsyncCbInfo) : World :=
  match info.array with
  | none => w.stdFree p
  | some q => (w.stdFree q).stdFree p

structure Placed (w w1 : World) (e : SubmitEnv) (info : AsyncCbInfo) : Prop where
  malloc_ne : e.malloc ≠ 0
  array : ∀ q ∈ info.array, q = e.mallocReqAddr
  steps : ∃ wp addrs, Still w wp ∧ Still (wp.place e.malloc info addrs) w1

section Records

variable {w w' w1 : World} {e : SubmitEnv} {info : AsyncCbInfo}

theorem array_ne_zero {q : Addr} (h : q ∈ info.array) : q ≠ 0 := by
  unfold AsyncCbInfo.array at h
  split at h
  · cases h
  · split at h
    · cases h
    · rename_i hne
      cases h
      exact hne

theorem Still.placed (h : Still w w') (P : Placed w' w1 e info) : Placed w w1 e info := by
  obtain ⟨wp, addrs, h1, h2⟩ := P.steps
  exact ⟨P.malloc_ne, P.array, wp, addrs, h.trans h1, h2⟩

theorem handed_place {addrs : List Addr} (hm : e.malloc ≠ 0)
    (ha : ∀ q ∈ info.array, q = e.mallocReqAddr) :
    Handed w (w.place e.malloc info addrs) e info := by
  unfold World.place
  cases hq : info.array with
  | none =>
    refine ⟨hm, Function.update_self _ _ _, fun x hx => Function.update_of_ne hx _ _, ?_,
      fun _ _ => rfl, rfl, [.malloc e.malloc], rfl, rfl⟩
    intro q hmem
    rw [hq] at hmem
    cases hmem
  | some q =>
    refine ⟨hm, Function.update_self _ _ _, fun x hx => Function.update_of_ne hx _ _, ?_, ?_, rfl,
      [.malloc q, .malloc e.malloc], rfl, rfl⟩
    · intro q' hmem
      have := ha q' hmem
      rw [hq] at hmem
      cases hmem
      exact ⟨this, by simp⟩
    · intro x hx
      exact Function.update_of_ne (fun h => hx (by rw [hq, h]; rfl)) _ _

theorem Placed.handed (P : Placed w w1 e info) : Handed w w1 e info := by
  obtain ⟨wp, addrs, h1, h2⟩ := P.steps
  obtain ⟨evs, he, hu⟩ := h2.quiet.trace
  obtain ⟨h3, h4, h5, h6, h7, h8, evs', he', hu'⟩ :=
    h1.quiet.handed (@handed_place wp e info addrs P.malloc_ne P.array)
  refine ⟨h3, ?_, ?_, ?_, ?_, h2.inflight.trans h8, evs ++ evs', ?_, ?_⟩
  · rw [h2.cbInfos, h4]
  · intro x hx
    rw [h2.cbInfos, h5 x hx]
  · intro q hq
    rw [h2.reqAddrs]
    exact h6 q hq
  · intro x hx
    rw [h2.reqAddrs, h7 x hx]
  · rw [he, he', List.append_assoc]
  · rw [userCalls_append, hu, hu']
    rfl

/-- Freeing what was put on the heap leaves it as it was. -/
theorem Placed.unplace_quiet (P : Placed w w1 e info) (hf : w.FreshPtr e.malloc)
    (hf' : w.FreshPtr e.mallocReqAddr) : Quiet w (w1.unplace e.malloc info) := by
  have H := P.handed
  obtain ⟨evs, he, hu⟩ := H.trace
  obtain ⟨h1, h2⟩ := hf P.malloc_ne
  unfold World.unplace
  cases hq : info.array with
  | none =>
    refine ⟨?_, ?_, H.inflight, .stdFree e.malloc :: evs, by simp [he], by simp [hu]⟩
    · funext x
      rw [stdFree_cbInfos]
      split
      · rename_i hx
        rw [hx, h1]
      · rename_i hx
        exact H.cbInfos x hx
    · funext x
      have hx' : x ∉ info.array := by rw [hq]; exact fun h => nomatch h
      rw [stdFree_reqAddrs, H.reqAddrs x hx']
      split
      · rename_i hx
        rw [hx, h2]
      · rfl
  | some q =>
    have hqa : q ∈ info.array := hq
    have hqe := P.array q hqa
    have h34 := hf' (hqe ▸ array_ne_zero hqa)
    rw [← hqe] at h34
    obtain ⟨h3, h4⟩ := h34
    refine ⟨?_, ?_, H.inflight, .stdFree e.malloc :: .stdFree q :: evs, by simp [he], by simp [hu]⟩
    · funext x
      rw [stdFree_cbInfos, stdFree_cbInfos]
      split
      · rename_i hx
        rw [hx, h1]
      · rename_i hx
        split
        · rename_i hx'
          rw [hx', h3]
        · exact H.cbInfos x hx
    · funext x
      rw [stdFree_reqAddrs, stdFree_reqAddrs]
      split
      · rename_i hx
        rw [hx, h2]
      · split
        · rename_i hx'
          rw [hx', h4]
        · rename_i hx'
          refine H.reqAddrs x fun hmem => hx' ?_
          rw [hq] at hmem
          exact (Option.some.inj hmem).symm

end Records

/-! ## The courses of an operation -/

/-- How an operation can go: it stops with an error, it has called a primitive without a callback, the
record it created was not handed over, or it was. -/
inductive AsyncOp.Course (op : AsyncOp) (done : Option OckRpcCallDone) (w : World) (e : SubmitEnv) :
    World → Int → Prop where
  | stopped {w' : World} {st : Int} (h : Still w w') (hst : st ≠ ockRpcOk) : Course op done w e w' st
  | posted {w' : World} (p : Post) (h : Still w w') (hd : done = none) (hr : op.isReply = false)
      (hret : e.ret = ockRpcOk) (hp : p.event none e.ret ∈ w.since w') : Course op done w e w' ockRpcOk
  | refused {w1 : World} {info : AsyncCbInfo} {st : Int} (P : Placed w w1 e info)
      (hd : done.isSome ∨ op.isReply = true) (hst : st ≠ ockRpcOk) :
      Course op done w e (w1.unplace e.malloc info) st
  | accepted {w1 : World} {info : AsyncCbInfo} (P : Placed w w1 e info)
      (hd : done.isSome ∨ op.isReply = true) (hret : e.ret = 0)
      (hrec : op.Records (done.getD ⟨0, 0⟩) info) (hrsp : info.rsp = op.response) :
      Course op done w e (w1.handOver ⟨op.callback, e.malloc⟩ e) ockRpcOk

section Common

variable {w w' wp : World} {e : SubmitEnv} {info : AsyncCbInfo} {p : Post} {st : Int} {op : AsyncOp}
  {done : Option OckRpcCallDone}

theorem AsyncOp.Course.orErr {r : World × Int} (h : op.Course done w e r.1 r.2) :
    op.Course done w e (orErr r).1 (orErr r).2 := by
  obtain ⟨w', st⟩ := r
  unfold Hcom4db.orErr
  simp only at h ⊢
  cases h with
  | stopped h hst =>
    rw [if_pos hst]
    exact .stopped h ockRpcErr_ne_ok
  | posted p h hd hr hret hp => exact .posted p h hd hr hret hp
  | refused P hd hst =>
    rw [if_pos hst]
    exact .refused P hd ockRpcErr_ne_ok
  | accepted P hd hret hrec hrsp => exact .accepted P hd hret hrec hrsp

/-- A course that starts after steps of the pool. -/
theorem AsyncOp.Course.after (hs : Still w wp) (h : op.Course done wp e w' st) :
    op.Course done w e w' st := by
  cases h with
  | stopped h hst => exact .stopped (hs.trans h) hst
  | posted p h hd hr hret hp =>
    refine .posted p (hs.trans h) hd hr hret ?_
    rw [World.since_append hs.trace_eq h.trace_eq]
    exact List.mem_append_left _ hp
  | refused P hd hst => exact .refused (hs.placed P) hd hst
  | accepted P hd hret hrec hrsp => exact .accepted (hs.placed P) hd hret hrec hrsp

/-- The operations that fill their record in and hand it over. -/
theorem submitAsync_course (hd : done.isSome ∨ op.isReply = true) (ha : info.array = none)
    (hrec : op.Records (done.getD ⟨0, 0⟩) info) (hrsp : info.rsp = op.response) :
    op.Course done w e (submitAsync w e info op.callback p).1
      (submitAsync w e info op.callback p).2 := by
  unfold submitAsync
  split
  · exact .stopped (Still.refl w) ockRpcErr_ne_ok
  · rename_i hm
    have P : Placed w ((w.newCbInfo e.malloc info).emit
        (p.event (some ⟨op.callback, e.malloc⟩) e.ret)) e info := by
      refine ⟨hm, fun q hq => ?_, w, [], Still.refl w, ?_⟩
      · rw [ha] at hq
        cases hq
      · rw [World.place, ha]
        exact Still.emit _ _ _ _
    simp only [World.postAsync]
    split
    · rename_i hret
      have h := AsyncOp.Course.refused P hd hret
      rw [World.unplace, ha] at h
      exact h
    · rename_i hret
      exact .accepted P hd (not_not.mp hret) hrec hrsp

/-! ### Operations without a callback -/

theorem since_post (w : World) (p : Post) (e : SubmitEnv) : w.since (w.post p e) = [p.event none e.ret] :=
  World.since_of_trace rfl

theorem callForResponse_course (hd : done = none) (hr : op.isReply = false) (response : Addr) :
    op.Course done w e (callForResponse w p response e).1 (callForResponse w p response e).2 := by
  unfold callForResponse
  simp only
  split
  · exact .stopped (Still.emit _ _ _ _) ockRpcErr_ne_ok
  · rename_i hret
    refine .posted p ?_ hd hr (not_not.mp hret) ?_
    · exact ⟨rfl, rfl, rfl, [p.event none e.ret], rfl,
        fun _ h => by rw [List.mem_singleton.mp h]; trivial⟩
    rw [World.since_of_trace (show _ = [p.event none e.ret] ++ w.trace from rfl)]
    exact List.mem_singleton_self _

theorem callNoResponse_course (hd : done = none) (hr : op.isReply = false) :
    op.Course done w e (callNoResponse w p e).1 (callNoResponse w p e).2 := by
  unfold callNoResponse
  by_cases hret : e.ret = ockRpcOk
  · rw [if_neg (not_not.mpr hret)]
    refine .posted p (Still.emit _ _ _ _) hd hr hret ?_
    rw [since_post]
    exact List.mem_singleton_self _
  · rw [if_pos hret]
    exact .stopped (Still.emit _ _ _ _) ockRpcErr_ne_ok

theorem callSyncSgl_course (hd : done = none) (hr : op.isReply = false) (client : Addr)
    (req : ServiceSglRequest) (rsp : Addr) :
    op.Course done w e (ockRpcCallSyncSgl w client req rsp e).1
      (ockRpcCallSyncSgl w client req rsp e).2 := by
  unfold ockRpcCallSyncSgl
  split
  · exact callForResponse_course hd hr _
  · exact callNoResponse_course hd hr

/-! ### Scatter-gather calls -/

theorem placed_sglRecorded {client rsp : Addr} {req : ServiceSglRequest} {done : OckRpcCallDone}
    {cb : Option ChannelCallback} (hm : e.malloc ≠ 0) (hq : e.mallocReqAddr ≠ 0) :
    Placed w ((sglRecorded w client req rsp done e).emit (p.event cb e.ret)) e
      (sglInfo client req rsp done e.mallocReqAddr) := by
  have harr : (sglInfo client req rsp done e.mallocReqAddr).array = some e.mallocReqAddr := by
    simp [sglInfo, AsyncCbInfo.array, hq]
  refine ⟨hm, fun q hmem => ?_, w, iovAddrs req req.iovCount.toNat, Still.refl w, ?_⟩
  · rw [harr] at hmem
    exact (Option.some.inj hmem).symm
  · rw [World.place, harr]
    exact Still.emit _ _ _ _

theorem callAsyncSgl_course {client rsp : Addr} {req : ServiceSglRequest} {d : OckRpcCallDone}
    (hd : done = some d) (hop : op.callback = .ockRpcCallbackFunc) (hrsp : op.response = some rsp) :
    op.Course done w e (ockRpcCallAsyncSgl w client req rsp d e).1
      (ockRpcCallAsyncSgl w client req rsp d e).2 := by
  have hsome : done.isSome ∨ op.isReply = true := .inl (by rw [hd]; rfl)
  unfold ockRpcCallAsyncSgl
  split
  · exact .stopped (Still.refl w) ockRpcErr_ne_ok
  · rename_i hm
    split
    · -- the record is freed again before anything was posted
      have harr : (sglInfo client req rsp d 0).array = none := rfl
      have P : Placed w (w.newCbInfo e.malloc (sglInfo client req rsp d 0)) e
          (sglInfo client req rsp d 0) := by
        refine ⟨hm, fun q hq => ?_, w, [], Still.refl w, Still.refl _⟩
        rw [harr] at hq
        cases hq
      exact .refused P hsome ockRpcErr_ne_ok
    · rename_i hq
      have P := @placed_sglRecorded w e (sglPost client req rsp) client rsp req d
        (some ⟨.ockRpcCallbackFunc, e.malloc⟩) hm hq
      have harr : (sglInfo client req rsp d e.mallocReqAddr).array = some e.mallocReqAddr := by
        simp [sglInfo, AsyncCbInfo.array, hq]
      simp only [World.postAsync]
      split
      · rename_i hret
        have h := AsyncOp.Course.refused P hsome ockRpcErr_ne_ok
        rw [World.unplace, harr] at h
        exact h
      · rename_i hret
        have hrec : op.Records (done.getD ⟨0, 0⟩) (sglInfo client req rsp d e.mallocReqAddr) := by
          rw [hd]
          exact ⟨rfl, rfl, fun _ => ⟨rfl, .inr ⟨e.mallocReqAddr, hq, rfl, rfl, rfl⟩⟩⟩
        have h := AsyncOp.Course.accepted P hsome (not_not.mp hret) hrec hrsp.symm
        rw [hop] at h
        exact h

theorem callWithParam_course {params : OckRpcClientCallParams} (hr : op.isReply = false)
    (hrsp : op.response = some params.rspMsgs) (w : World) (e : SubmitEnv) :
    op.Course params.done w e (ockRpcClientCallWithParam w (some params) e).1
      (ockRpcClientCallWithParam w (some params) e).2 := by
  have hop : op.callback = .ockRpcCallbackFunc := by rw [AsyncOp.callback, hr]; rfl
  unfold ockRpcClientCallWithParam
  simp only
  split
  · exact .stopped (Still.refl w) ockRpcErrInvalidParam_ne_ok
  · rename_i msgs hmsgs
    have hfr := packReqInfo_frame w params.client msgs params.msgId {} e.pack
    rcases hp : packReqInfo w params.client msgs params.msgId {} e.pack with ⟨wp, ret, req⟩
    rw [hp] at hfr
    simp only at hfr ⊢
    split
    · exact .stopped (.of_pool hfr) ockRpcErr_ne_ok
    · refine .after (.of_pool hfr) ?_
      split
      · -- the synchronous call frees the blocks itself
        rename_i hd
        refine .orErr ?_
        have h := @callSyncSgl_course wp e op params.done hd hr params.client req params.rspMsgs
        have hfree := memFreeList_frame params.client (iovAddrs req req.iovCount.toNat)
          (ockRpcCallSyncSgl wp params.client req params.rspMsgs e).1
        rcases hs : ockRpcCallSyncSgl wp params.client req params.rspMsgs e with ⟨w2, st⟩
        rw [hs] at h hfree
        cases h with
        | stopped h hst => exact .stopped (h.trans (.of_pool hfree)) hst
        | posted p h hd hr hret hp =>
          refine .posted p (h.trans (.of_pool hfree)) hd hr hret ?_
          rw [World.since_append h.trace_eq hfree.trace_eq]
          exact List.mem_append_right _ hp
        | refused P hd' hst => simp [hd, hr] at hd'
        | accepted P hd' hret hrec _ => simp [hd, hr] at hd'
      · rename_i d hd
        exact .orErr (callAsyncSgl_course hd hop hrsp)

end Common

/-! ## The operations -/

section Ops

variable {w w' : World} {e : SubmitEnv} {st : Int}

theorem replyInfo_array (done : Option OckRpcCallDone) : (replyInfo done).array = none := by
  cases done <;> rfl

theorem replyInfo_rsp (done : Option OckRpcCallDone) : (replyInfo done).rsp = none := by
  cases done <;> rfl

theorem records_callInfo (op : ResponseOp) (rsp : Addr) (done : OckRpcCallDone) :
    (AsyncOp.call op rsp).Records done (callInfo done rsp) :=
  ⟨rfl, rfl, fun _ => ⟨rfl, .inl rfl⟩⟩

theorem records_oneSided {op : AsyncOp} (hop : op.isCall = false) (done : OckRpcCallDone) :
    op.Records done { cb := done.cb, arg := done.arg } :=
  ⟨rfl, rfl, fun h => by rw [hop] at h; cases h⟩

theorem records_replyInfo {op : AsyncOp} (hop : op.isCall = false) (done : Option OckRpcCallDone) :
    op.Records (done.getD ⟨0, 0⟩) (replyInfo done) := by
  cases done <;> exact ⟨rfl, rfl, fun h => by rw [hop] at h; cases h⟩

theorem oneSided_course {op : AsyncOp} (hr : op.callback = .ockRpcCallbackFunc)
    (hrep : op.isReply = false) (hop : op.isCall = false) (hrsp : op.response = none) (p : Post)
    (done : Option OckRpcCallDone) :
    op.Course done w e (oneSided w p done e).1 (oneSided w p done e).2 := by
  cases done with
  | none =>
    simp only [oneSided]
    by_cases hret : e.ret = ockRpcOk
    · have h : op.Course none w e (w.emit (p.event none e.ret)) ockRpcOk :=
        .posted p (Still.emit w p none e.ret) rfl hrep hret
          (by rw [World.since_of_trace (show _ = [p.event none e.ret] ++ w.trace from rfl)]; simp)
      rw [hret] at h ⊢
      rw [World.post, hret]
      exact h
    · exact .stopped (Still.emit _ _ _ _) hret
  | some d =>
    have h := @submitAsync_course w e { cb := d.cb, arg := d.arg } p op (some d) (.inl rfl) rfl
      (records_oneSided hop d) hrsp.symm
    rw [hr] at h
    exact h

theorem ResponseOp.submit_course (op : ResponseOp) (rsp : Addr) (done : Option OckRpcCallDone)
    (w : World) (e : SubmitEnv) :
    (AsyncOp.call op rsp).Course done w e (op.submit w rsp done e).1 (op.submit w rsp done e).2 := by
  have hasync (p : Post) (d : OckRpcCallDone) : (AsyncOp.call op rsp).Course (some d) w e
      (submitAsync w e (callInfo d rsp) .ockRpcCallbackFunc p).1
      (submitAsync w e (callInfo d rsp) .ockRpcCallbackFunc p).2 :=
    submitAsync_course (.inl rfl) rfl (records_callInfo op rsp d) rfl
  cases op with
  | clientCall client msgId request =>
    simp only [submit, ockRpcClientCall]
    split
    · exact .stopped (Still.refl w) ockRpcErrInvalidParam_ne_ok
    · split
      · exact .stopped (Still.refl w) ockRpcErrInvalidParam_ne_ok
      · split
        · refine .orErr ?_
          unfold ockRpcCallSync
          split
          · exact callForResponse_course rfl rfl _
          · exact callNoResponse_course rfl rfl
        · exact .orErr (.orErr (hasync _ _))
  | callWithParam client msgId reqIov =>
    exact @callWithParam_course (.call (.callWithParam client msgId reqIov) rsp)
      ⟨client, msgId, reqIov, rsp, done⟩ rfl rfl w e
  | callRndv client msgId request =>
    simp only [submit, ockRpcClientCallRndv]
    split
    · exact .stopped (Still.refl w) ockRpcErrInvalidParam_ne_ok
    · split
      · exact .stopped (Still.refl w) ockRpcErrInvalidParam_ne_ok
      · split
        · exact .orErr (callForResponse_course rfl rfl _)
        · exact .orErr (hasync _ _)
  | callRndvIov client msgId request =>
    simp only [submit, ockRpcClientCallRndvIov]
    split
    · exact .stopped (Still.refl w) ockRpcErrInvalidParam_ne_ok
    · split
      · exact .orErr (callForResponse_course rfl rfl _)
      · exact .orErr (hasync _ _)

theorem AsyncOp.submit_course (op : AsyncOp) (done : Option OckRpcCallDone) (w : World)
    (e : SubmitEnv) : op.Course done w e (op.submit w done e).1 (op.submit w done e).2 := by
  cases op with
  | call op rsp => exact op.submit_course rsp done w e
  | read client req =>
    cases req with
    | none => exact .stopped (Still.refl w) ockRpcErrInvalidParam_ne_ok
    | some req => exact oneSided_course rfl rfl rfl rfl _ done
  | readSgl client req => exact oneSided_course rfl rfl rfl rfl _ done
  | write client req =>
    cases req with
    | none => exact .stopped (Still.refl w) ockRpcErrInvalidParam_ne_ok
    | some req => exact oneSided_course rfl rfl rfl rfl _ done
  | writeSgl client req => exact oneSided_course rfl rfl rfl rfl _ done
  | serverReply reply =>
    simp only [submit, ockRpcServerReply]
    split
    · exact .stopped (Still.refl w) ockRpcErrInvalidParam_ne_ok
    · split
      · exact .stopped (Still.refl w) ockRpcErrInvalidParam_ne_ok
      · split
        · exact .stopped (Still.refl w) ockRpcErr_ne_ok
        · exact .orErr (submitAsync_course (.inr rfl) (replyInfo_array done)
            (records_replyInfo rfl done) (replyInfo_rsp done))
  | serverReplyRndv ctx reply =>
    simp only [submit, ockRpcServerReplyRndv]
    split
    · exact .stopped (Still.refl w) ockRpcErrInvalidParam_ne_ok
    · split
      · exact .stopped (Still.refl w) ockRpcErrInvalidParam_ne_ok
      · exact .orErr (submitAsync_course (.inr rfl) (replyInfo_array done)
          (records_replyInfo rfl done) (replyInfo_rsp done))

/-- A course that fails, or that has no `done` and is no reply, leaves nothing behind. -/
theorem AsyncOp.Course.quiet {op : AsyncOp} {done : Option OckRpcCallDone}
    (h : op.Course done w e w' st) (hfresh : w.FreshPtr e.malloc)
    (hfresh' : w.FreshPtr e.mallocReqAddr)
    (hst : st ≠ ockRpcOk ∨ (done = none ∧ op.isReply = false)) : Quiet w w' := by
  cases h with
  | stopped h _ => exact h.quiet
  | posted p h _ _ _ _ => exact h.quiet
  | refused P _ _ => exact P.unplace_quiet hfresh hfresh'
  | accepted P hd _ _ _ =>
    obtain ⟨h1, h2⟩ := hst.resolve_left fun h => h rfl
    rw [h1, h2] at hd
    simp at hd

theorem AsyncOp.submit_quiet {op : AsyncOp} {done : Option OckRpcCallDone}
    (hfresh : w.FreshPtr e.malloc) (hfresh' : w.FreshPtr e.mallocReqAddr)
    (h : op.submit w done e = (w', st)) (hst : st ≠ ockRpcOk ∨ (done = none ∧ op.isReply = false)) :
    Quiet w w' := by
  have hc := op.submit_course done w e
  rw [h] at hc
  exact hc.quiet hfresh hfresh' hst

/-- How an operation that returned `OCK_RPC_OK` ended: `w1` is the state in which the transport got
the record. -/
def AsyncOp.HandsOver (op : AsyncOp) (w w' : World) (done : OckRpcCallDone) (e : SubmitEnv) : Prop :=
  ∃ w1 info, w' = w1.handOver ⟨op.callback, e.malloc⟩ e ∧ Handed w w1 e info ∧ op.Records done info

theorem AsyncOp.submit_ok {op : AsyncOp} {done : Option OckRpcCallDone}
    (ha : done.isSome ∨ op.isReply = true) (h : op.submit w done e = (w', ockRpcOk)) :
    op.HandsOver w w' (done.getD ⟨0, 0⟩) e := by
  have hc := op.submit_course done w e
  rw [h] at hc
  cases hc with
  | stopped _ hst => exact absurd rfl hst
  | posted _ _ hd hr _ _ => simp [hd, hr] at ha
  | refused _ _ hst => exact absurd rfl hst
  | accepted P _ _ hrec _ => exact ⟨_, _, rfl, P.handed, hrec⟩

end Ops

end Hcom4db
