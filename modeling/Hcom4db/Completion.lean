import Hcom4db.Async

/-!
# Hcom4db.Completion

What one run of `OckRpcCallbackFunc` does, by the branch it takes.

* `callback_failed`: a query fails. The record is freed and nothing else happens.
* `callback_oneSide`: the user's callback is called, null or not.
* `callback_twoSided`: the blocks are freed, the response is stored, the user's callback is called
  unless it is null.
* `storeResponse_since`: the response is stored with the received length as the room it has.
* `storeResponse_slots`, `storeResponse_mem`: what is then in the response.
-/

namespace Hcom4db

open FlatMem

/-- Both queries at the start of `OckRpcCallbackFunc` succeed. -/
def Completion.QueriesOk (c : Completion) : Prop := c.getResultRet = ockRpcOk ∧ c.ctxType.isSome

instance (c : Completion) : Decidable c.QueriesOk := inferInstanceAs (Decidable (_ ∧ _))

section

variable {w w' : World} {arg : Addr} {c : Completion} {info : AsyncCbInfo}

@[simp] theorem stdFree_trace (w : World) (p : Addr) :
    (w.stdFree p).trace = .stdFree p :: w.trace := rfl
@[simp] theorem stdFree_slots (w : World) (p : Addr) : (w.stdFree p).slots = w.slots := rfl
@[simp] theorem stdFree_gMemoryAllocator (w : World) (p : Addr) :
    (w.stdFree p).gMemoryAllocator = w.gMemoryAllocator := rfl
@[simp] theorem stdFree_gMemoryRegion (w : World) (p : Addr) :
    (w.stdFree p).gMemoryRegion = w.gMemoryRegion := rfl

theorem stdFree_cbInfos (w : World) (p x : Addr) :
    (w.stdFree p).cbInfos x = if x = p then none else w.cbInfos x := by
  simp [World.stdFree, Function.update_apply]

theorem stdFree_reqAddrs (w : World) (p x : Addr) :
    (w.stdFree p).reqAddrs x = if x = p then none else w.reqAddrs x := by
  simp [World.stdFree, Function.update_apply]

theorem callback_failed (h : ¬ c.QueriesOk) : ockRpcCallbackFunc w arg c = w.stdFree arg := by
  unfold ockRpcCallbackFunc
  by_cases h1 : c.getResultRet = ockRpcOk
  · rw [if_neg (not_not.mpr h1)]
    cases ht : c.ctxType with
    | none => rfl
    | some t => exact absurd ⟨h1, by rw [ht]; rfl⟩ h
  · rw [if_pos h1]

theorem callback_oneSide (h : c.QueriesOk) (ht : c.ctxType = some .oneSide)
    (hi : w.cbInfos arg = some info) :
    ockRpcCallbackFunc w arg c = (w.emit (.userCb info.cb info.arg c.resultValue)).stdFree arg := by
  unfold ockRpcCallbackFunc
  rw [if_neg (not_not.mpr h.1), ht]
  simp only [hi, if_true]

theorem since_callback_failed (h : ¬ c.QueriesOk) :
    w.since (ockRpcCallbackFunc w arg c) = [.stdFree arg] := by
  rw [callback_failed h]
  exact World.since_of_trace rfl

theorem since_callback_oneSide (h : c.QueriesOk) (ht : c.ctxType = some .oneSide)
    (hi : w.cbInfos arg = some info) :
    w.since (ockRpcCallbackFunc w arg c) =
      [.stdFree arg, .userCb info.cb info.arg c.resultValue] := by
  rw [callback_oneSide h ht hi]
  exact World.since_of_trace rfl

/-- A two-sided completion of a record whose blocks `releaseRequest` can free. -/
theorem callback_twoSided {rsp : Addr} (h : c.QueriesOk) (ht : c.ctxType ≠ some .oneSide)
    (hi : w.cbInfos arg = some info) (hrel : releaseRequest (w.stdFree arg) info = some w')
    (hr : info.rsp = some rsp) : ockRpcCallbackFunc w arg c = respond w' info rsp c := by
  unfold ockRpcCallbackFunc
  obtain ⟨t, hct⟩ := Option.isSome_iff_exists.mp h.2
  have hne : t ≠ .oneSide := fun hh => ht (hh ▸ hct)
  rw [if_neg (not_not.mpr h.1), hct]
  simp only [hi, if_neg hne, hrel, hr]

/-! ## The blocks -/

/-- What `releaseRequest` needs: no blocks, or the array of their addresses. -/
def Releasable (w : World) (info : AsyncCbInfo) : Prop :=
  info.reqAddr = some 0 ∨ ∃ p client n addrs, p ≠ 0 ∧ info.reqAddr = some p ∧
    info.client = some client ∧ info.reqCnt = some n ∧ w.reqAddrs p = some addrs

theorem releaseRequest_of_null (h : info.reqAddr = some 0) : releaseRequest w info = some w := by
  simp [releaseRequest, h]

theorem releaseRequest_of_blocks {p client : Addr} {n : Nat} {addrs : List Addr} (hp : p ≠ 0)
    (h1 : info.reqAddr = some p) (h2 : info.client = some client) (h3 : info.reqCnt = some n)
    (h4 : w.reqAddrs p = some addrs) :
    releaseRequest w info = some ((memFreeList w client (addrs.take n)).stdFree p) := by
  simp [releaseRequest, hp, h1, h2, h3, h4]

/-- What a callback frees on the heap and in the pool. -/
def Event.frees : Event → Prop
  | .poolFree _ _ => True
  | .stdFree _ => True
  | _ => False

theorem userCalls_of_frees {evs : List Event} (h : ∀ ev ∈ evs, ev.frees) : userCalls evs = [] := by
  refine List.filterMap_eq_nil_iff.mpr fun ev hev => ?_
  have := h ev hev
  cases ev <;> first | rfl | exact this.elim

theorem stores_of_frees {evs : List Event} (h : ∀ ev ∈ evs, ev.frees) : stores evs = [] := by
  refine List.filterMap_eq_nil_iff.mpr fun ev hev => ?_
  have := h ev hev
  cases ev <;> first | rfl | exact this.elim

/-- Releasing a request touches no response. -/
theorem releaseRequest_rest (h : releaseRequest w info = some w') :
    w'.slots = w.slots ∧ w'.mem = w.mem ∧ ∃ evs, w'.trace = evs ++ w.trace ∧
      ∀ ev ∈ evs, ev.frees := by
  unfold releaseRequest at h
  split at h
  · cases h
  · rename_i p _
    split at h
    · cases h
      exact ⟨rfl, rfl, [], rfl, fun _ h => nomatch h⟩
    · split at h
      · rename_i client n addrs _ _ _
        cases h
        have hfr := memFreeList_frame client (addrs.take n) w
        refine ⟨hfr.slots, memFreeList_mem client (addrs.take n) w, .stdFree p ::
          ((addrs.take n).map fun x => Event.poolFree (w.allocatorOf client) x).reverse, ?_, ?_⟩
        · rw [stdFree_trace, memFreeList_trace]
          rfl
        · intro ev hev
          cases hev with
          | head => trivial
          | tail _ hev =>
            obtain ⟨x, -, rfl⟩ := List.mem_map.mp (List.mem_reverse.mp hev)
            trivial
      · cases h

theorem Releasable.exists (h : Releasable w info) : ∃ w', releaseRequest w info = some w' := by
  rcases h with h | ⟨p, client, n, addrs, hp, h1, h2, h3, h4⟩
  · exact ⟨w, releaseRequest_of_null h⟩
  · exact ⟨_, releaseRequest_of_blocks hp h1 h2 h3 h4⟩

/-- A two-sided completion frees what the record owns, and then responds. -/
theorem callback_responds {rsp : Addr} (hi : w.cbInfos arg = some info)
    (hrel : Releasable (w.stdFree arg) info) (hrsp : info.rsp = some rsp) (hq : c.QueriesOk)
    (ht : c.ctxType ≠ some .oneSide) :
    ∃ w2 evs, ockRpcCallbackFunc w arg c = respond w2 info rsp c ∧ w2.slots = w.slots ∧
      w2.mem = w.mem ∧ w2.trace = evs ++ w.trace ∧ ∀ ev ∈ evs, ev.frees := by
  obtain ⟨w2, hw2⟩ := hrel.exists
  obtain ⟨hs, hm, evs, he, hev⟩ := releaseRequest_rest hw2
  refine ⟨w2, evs ++ [.stdFree arg], callback_twoSided hq ht hi hw2 hrsp, hs, hm, ?_, ?_⟩
  · rw [he, List.append_assoc]
    rfl
  · intro ev hmem
    rcases List.mem_append.mp hmem with hmem | hmem
    · exact hev ev hmem
    · rw [List.mem_singleton.mp hmem]
      trivial

/-! ## The response -/

/-- The destination of a response that the caller gave a buffer for: the whole received length is
stored there, unless it is nothing or more than `memcpy_s` takes. -/
theorem storeResponse_since {rsp : Addr} (hd : (w.slots rsp).data ≠ 0) :
    w.since (storeResponse w rsp c) =
      if c.dataLen = 0 ∨ securecMemMaxLen < c.dataLen.toNat then []
      else [.store (w.slots rsp).data c.dataLen.toNat] := by
  have hlen : c.dataLen.toUInt64.toNat = c.dataLen.toNat := UInt32.toNat_toUInt64 _
  simp only [storeResponse, responseSlot, if_neg hd, hlen]
  unfold memcpyS
  by_cases h0 : c.dataLen = 0 ∨ securecMemMaxLen < c.dataLen.toNat
  · have h0' : c.dataLen.toNat = 0 ∨ securecMemMaxLen < c.dataLen.toNat := by
      refine h0.imp_left fun h => ?_
      rw [h]; rfl
    rw [if_pos h0, if_pos h0']
    exact World.since_of_trace rfl
  · have h0' : ¬ (c.dataLen.toNat = 0 ∨ securecMemMaxLen < c.dataLen.toNat) := by
      refine fun h => h0 (h.imp_left fun h => ?_)
      exact UInt32.toNat_inj.mp h
    rw [if_neg h0, if_neg h0', if_neg hd]
    cases c.data with
    | none => exact World.since_of_trace rfl
    | some b =>
      simp only [Nat.lt_irrefl, if_false]
      split <;> exact World.since_of_trace rfl

/-- What a copy of the response puts there: the received bytes, or zeros when it fails. -/
def Completion.copied (c : Completion) : Buf :=
  match c.data with
  | none => fun _ => 0
  | some b => if c.overlap then fun _ => 0 else b

@[simp] theorem storeResponse_slots (w : World) (rsp : Addr) (c : Completion) :
    (storeResponse w rsp c).slots = Function.update w.slots rsp (responseSlot w rsp c) := by
  unfold storeResponse
  rcases memcpyS_cases { w with slots := Function.update w.slots rsp (responseSlot w rsp c) }
    (responseSlot w rsp c).data (responseSlot w rsp c).len.toNat c.data c.dataLen.toNat c.overlap
    with h | ⟨b, n, h⟩
  · rw [h]
  · rw [h]
    rfl

/-- Nothing is copied without a destination, without a length or with one `memcpy_s` does not take. -/
theorem storeResponse_mem_same {rsp : Addr} (h : (responseSlot w rsp c).data = 0 ∨ c.dataLen = 0 ∨
    securecMemMaxLen < c.dataLen.toNat) : (storeResponse w rsp c).mem = w.mem := by
  have hlen : (responseSlot w rsp c).len.toNat = c.dataLen.toNat := UInt32.toNat_toUInt64 _
  simp only [storeResponse, hlen]
  unfold memcpyS
  rcases h with h | h | h
  · rw [if_pos h]
    split <;> rfl
  · rw [if_pos (.inl (by rw [h]; rfl))]
  · rw [if_pos (.inr h)]

/-- Every other copy fills the whole destination, with the received bytes or with zeros. -/
theorem storeResponse_mem {rsp : Addr} (hd : (responseSlot w rsp c).data ≠ 0) (h0 : c.dataLen ≠ 0)
    (hmax : c.dataLen.toNat ≤ securecMemMaxLen) :
    (storeResponse w rsp c).mem =
      blit w.mem (responseSlot w rsp c).data c.copied c.dataLen.toNat := by
  have hlen : (responseSlot w rsp c).len.toNat = c.dataLen.toNat := UInt32.toNat_toUInt64 _
  have hpos : c.dataLen.toNat ≠ 0 := fun h => h0 (UInt32.toNat_inj.mp h)
  simp only [storeResponse, hlen]
  unfold memcpyS Completion.copied
  rw [if_neg (by omega), if_neg hd]
  cases c.data with
  | none => rfl
  | some b =>
    simp only [Nat.lt_irrefl, if_false]
    by_cases ho : c.overlap = true
    · rw [if_pos ⟨by omega, ho⟩, if_pos ho]
      rfl
    · rw [if_neg fun h => ho h.2, if_neg ho]
      rfl

/-- Storing a response changes the slot, memory and the trace. -/
theorem storeResponse_rest (w : World) (rsp : Addr) (c : Completion) :
    ∃ mem slots evs, storeResponse w rsp c =
        { w with mem := mem, slots := slots, trace := evs ++ w.trace } ∧
      userCalls evs = [] ∧ poolFreed evs = [] ∧ stdFreed evs = [] ∧
      ∀ ev ∈ evs, ∃ a n, ev = .store a n := by
  unfold storeResponse
  rcases memcpyS_cases { w with slots := Function.update w.slots rsp (responseSlot w rsp c) }
    (responseSlot w rsp c).data (responseSlot w rsp c).len.toNat c.data c.dataLen.toNat c.overlap
    with h | ⟨b, n, h⟩
  · rw [h]
    exact ⟨_, _, [], rfl, rfl, rfl, rfl, by simp⟩
  · rw [h]
    exact ⟨_, _, [.store _ n], rfl, rfl, rfl, rfl, by simp⟩

/-- The user's callback as an event, when it is called at all. -/
def notifyEvents (info : AsyncCbInfo) (c : Completion) : List Event :=
  if info.cb = 0 then [] else [.userCb info.cb info.arg c.resultValue]

theorem userCalls_notifyEvents {info : AsyncCbInfo} {c : Completion} :
    userCalls (notifyEvents info c) =
      if info.cb = 0 then [] else [(info.cb, info.arg, c.resultValue)] := by
  unfold notifyEvents
  split <;> rfl

/-- The callback of a reply. -/
theorem since_responseCallBack (hi : w.cbInfos arg = some info) :
    w.since (responseCallBack w arg c) = .stdFree arg :: notifyEvents info c := by
  refine World.since_of_trace ?_
  unfold responseCallBack notifyEvents
  simp only [hi]
  by_cases h : info.cb = 0
  · simp [h]
  · simp [h]

theorem respond_rest (w : World) (info : AsyncCbInfo) (rsp : Addr) (c : Completion) :
    ∃ mem slots evs, respond w info rsp c =
        { w with mem := mem, slots := slots, trace := notifyEvents info c ++ (evs ++ w.trace) } ∧
      userCalls evs = [] ∧ poolFreed evs = [] ∧ stdFreed evs = [] ∧
      ∀ ev ∈ evs, ∃ a n, ev = .store a n := by
  unfold respond notifyEvents
  by_cases hr : rsp = 0
  · refine ⟨w.mem, w.slots, [], ?_, rfl, rfl, rfl, by simp⟩
    simp only [hr, ne_eq, not_true_eq_false, if_false]
    split <;> rfl
  · obtain ⟨mem, slots, evs, h, h1, h2, h3⟩ := storeResponse_rest w rsp c
    refine ⟨mem, slots, evs, ?_, h1, h2, h3⟩
    simp only [ne_eq, hr, not_false_eq_true, if_true, h]
    split <;> rfl

/-- The events of a two-sided completion: those before the response, its copy, the user's callback. -/
theorem since_respond {w2 : World} {evs : List Event} (he : w2.trace = evs ++ w.trace)
    (info : AsyncCbInfo) (rsp : Addr) (c : Completion) :
    ∃ copy, w.since (respond w2 info rsp c) = notifyEvents info c ++ (copy ++ evs) ∧
      userCalls copy = [] ∧ ∀ ev ∈ copy, ∃ a n, ev = .store a n := by
  obtain ⟨mem, slots, copy, h, hu, -, -, hst⟩ := respond_rest w2 info rsp c
  refine ⟨copy, World.since_of_trace ?_, hu, hst⟩
  rw [h]
  simp [he]

end

end Hcom4db
