import Hcom4db.Base.Outstanding
import Hcom4db.Submit

/-!
# Hcom4db.RunCallback

What one run of a callback does, whichever of the two it is and however its queries end.

* `runCallback_frees`: it frees at most its record and its array and touches no other record.
* `runCallback_calls`: if the completion is one its operation expects, the `done` of the operation is
  notified once.
-/

namespace Hcom4db

open FlatMem Outstanding

/-- A step that frees at most the heap objects `ps` and hands nothing over. -/
structure Frees (ps : List Addr) (w w' : World) : Prop where
  cbInfos : ∀ x, x ∉ ps → w'.cbInfos x = w.cbInfos x
  reqAddrs : ∀ x, x ∉ ps → w'.reqAddrs x = w.reqAddrs x
  inflight : w'.inflight = w.inflight
  trace : ∃ evs, w'.trace = evs ++ w.trace

namespace Frees

variable {ps qs : List Addr} {w w' w'' : World}

theorem trans (h : Frees ps w w') (h' : Frees ps w' w'') : Frees ps w w'' := by
  obtain ⟨evs, he⟩ := h.trace
  obtain ⟨evs', he'⟩ := h'.trace
  refine ⟨fun x hx => (h'.cbInfos x hx).trans (h.cbInfos x hx),
    fun x hx => (h'.reqAddrs x hx).trans (h.reqAddrs x hx), h'.inflight.trans h.inflight, evs' ++ evs, ?_⟩
  rw [he', he, List.append_assoc]

theorem mono (h : Frees ps w w') (hs : ∀ x ∈ ps, x ∈ qs) : Frees qs w w' :=
  ⟨fun x hx => h.cbInfos x fun hp => hx (hs x hp), fun x hx => h.reqAddrs x fun hp => hx (hs x hp),
    h.inflight, h.trace⟩

theorem emit (ps : List Addr) (w : World) (ev : Event) : Frees ps w (w.emit ev) :=
  ⟨fun _ _ => rfl, fun _ _ => rfl, rfl, [ev], rfl⟩

theorem stdFree {p : Addr} (hp : p ∈ ps) (w : World) : Frees ps w (w.stdFree p) := by
  refine ⟨fun x hx => ?_, fun x hx => ?_, rfl, [.stdFree p], rfl⟩
  · rw [stdFree_cbInfos, if_neg fun h : x = p => hx (h ▸ hp)]
  · rw [stdFree_reqAddrs, if_neg fun h : x = p => hx (h ▸ hp)]

theorem of_quiet (ps : List Addr) (h : Quiet w w') : Frees ps w w' := by
  obtain ⟨evs, he, -⟩ := h.trace
  exact ⟨fun x _ => congrFun h.cbInfos x, fun x _ => congrFun h.reqAddrs x, h.inflight, evs, he⟩

end Frees

theorem respond_quiet_rest (w : World) (info : AsyncCbInfo) (rsp : Addr) (c : Completion)
    (ps : List Addr) : Frees ps w (respond w info rsp c) := by
  obtain ⟨mem, slots, evs, h, -⟩ := respond_rest w info rsp c
  rw [h]
  exact ⟨fun _ _ => rfl, fun _ _ => rfl, rfl, notifyEvents info c ++ evs, by simp⟩

theorem releaseRequest_frees {w w' : World} {info : AsyncCbInfo}
    (h : releaseRequest w info = some w') : Frees info.array.toList w w' := by
  unfold releaseRequest at h
  split at h
  · cases h
  · rename_i p hp
    split at h
    · cases h
      exact Frees.of_quiet _ (Quiet.refl w)
    · rename_i hne
      split at h
      · rename_i client n addrs _ _ _
        cases h
        refine (Frees.of_quiet _ (memFreeList_frame client _ w).quiet).trans (Frees.stdFree ?_ _)
        simp [AsyncCbInfo.array, hp, hne]
      · cases h

theorem callback_frees (w : World) (arg : Addr) (c : Completion) :
    Frees (ownedBy w ⟨.ockRpcCallbackFunc, arg⟩) w (ockRpcCallbackFunc w arg c) := by
  have harg : arg ∈ ownedBy w ⟨.ockRpcCallbackFunc, arg⟩ := List.mem_cons_self
  unfold ockRpcCallbackFunc
  split
  · exact Frees.stdFree harg w
  · split
    · exact Frees.stdFree harg w
    · split
      · exact Frees.emit _ w .ub
      · rename_i info hi
        split
        · exact (Frees.emit _ w _).trans (Frees.stdFree harg _)
        · split
          · rename_i w2 rsp hrel _
            have h2 := releaseRequest_frees hrel
            refine ((Frees.stdFree harg w).trans (h2.mono fun x hx => ?_)).trans
              (respond_quiet_rest w2 info rsp c _)
            refine List.mem_cons_of_mem _ ?_
            rw [hi]
            exact hx
          · exact (Frees.stdFree harg w).trans (Frees.emit _ _ .ub)

theorem runCallback_frees (w : World) (cb : ChannelCallback) (c : Completion) :
    Frees (ownedBy w cb) w (runCallback w cb c) := by
  obtain ⟨func, arg⟩ := cb
  cases func with
  | ockRpcCallbackFunc => exact callback_frees w arg c
  | responseCallBack =>
    have harg : arg ∈ ownedBy w ⟨.responseCallBack, arg⟩ := List.mem_cons_self
    simp only [runCallback, responseCallBack]
    split
    · exact Frees.emit _ w .ub
    · split
      · exact (Frees.emit _ w _).trans (Frees.stdFree harg _)
      · exact Frees.stdFree harg w

/-- The completions of an operation after which exactly its `done` was notified: a reply takes any; for
the others the queries must succeed if there is a callback, a null callback must not meet a one-sided
context, and the record of a one-sided operation must not meet a two-sided one. -/
def AsyncOp.CompletionOk (op : AsyncOp) (done : OckRpcCallDone) (c : Completion) : Prop :=
  op.isReply = true ∨
    ((done.cb ≠ 0 → c.QueriesOk) ∧ (done.cb = 0 → c.QueriesOk → c.ctxType ≠ some .oneSide) ∧
      (op.isCall = false → c.QueriesOk → c.ctxType = some .oneSide))

/-- A callback has its record, and the record its array. -/
structure Owns (w : World) (cb : ChannelCallback) (info : AsyncCbInfo) : Prop where
  record : w.cbInfos cb.arg = some info
  array : ∀ q ∈ info.array, q ≠ cb.arg ∧ (w.reqAddrs q).isSome

/-- What a callback needs when it runs. -/
structure AsyncOp.Live (op : AsyncOp) (done : OckRpcCallDone) (w : World) (cb : ChannelCallback)
    (info : AsyncCbInfo) : Prop extends Owns w cb info where
  callback : cb.cb = op.callback
  records : op.Records done info

theorem AsyncOp.Live.releasable {op : AsyncOp} {done : OckRpcCallDone} {w : World}
    {cb : ChannelCallback} {info : AsyncCbInfo} (L : op.Live done w cb info) (hc : op.isCall = true) :
    Releasable (w.stdFree cb.arg) info := by
  rcases (L.records.call hc).2 with h | ⟨p, hp, h1, h2, h3⟩
  · exact .inl h
  · obtain ⟨client, h2⟩ := Option.isSome_iff_exists.mp h2
    obtain ⟨n, h3⟩ := Option.isSome_iff_exists.mp h3
    have harr : p ∈ info.array := by simp [AsyncCbInfo.array, h1, hp]
    obtain ⟨hne, hs⟩ := L.array p harr
    obtain ⟨addrs, h4⟩ := Option.isSome_iff_exists.mp hs
    exact .inr ⟨p, client, n, addrs, hp, h1, h2, h3, by rw [stdFree_reqAddrs, if_neg hne, h4]⟩

/-- **A completion notifies its `done` once**, and never calls a null callback. -/
theorem runCallback_calls {op : AsyncOp} {done : OckRpcCallDone} {w : World} {cb : ChannelCallback}
    {info : AsyncCbInfo} {c : Completion} (L : op.Live done w cb info)
    (hc : op.CompletionOk done c) :
    userCalls (w.since (runCallback w cb c)) =
      if done.cb = 0 then [] else [(done.cb, done.arg, c.resultValue)] := by
  have hi := L.record
  obtain ⟨func, arg⟩ := cb
  have hf : func = op.callback := L.callback
  rw [← L.records.cb, ← L.records.arg]
  cases hr : op.isReply with
  | true =>
    rw [AsyncOp.callback, if_pos hr] at hf
    subst hf
    simp only [runCallback]
    rw [since_responseCallBack hi, userCalls_cons, userCalls_notifyEvents]
    rfl
  | false =>
    rw [AsyncOp.callback, if_neg (by rw [hr]; exact Bool.false_ne_true)] at hf
    subst hf
    obtain ⟨h1, h2, h3⟩ := hc.resolve_left (by rw [hr]; exact Bool.false_ne_true)
    rw [← L.records.cb] at h1 h2
    simp only [runCallback]
    by_cases hq : c.QueriesOk
    · by_cases ht : c.ctxType = some .oneSide
      · have hcb : info.cb ≠ 0 := fun h0 => h2 h0 hq ht
        rw [since_callback_oneSide hq ht hi, if_neg hcb]
        rfl
      · have hcall : op.isCall = true := by
          cases hcl : op.isCall with
          | true => rfl
          | false => exact absurd (h3 hcl hq) ht
        obtain ⟨rsp, hrsp⟩ := Option.isSome_iff_exists.mp (L.records.call hcall).1
        obtain ⟨w2, evs, h, -, -, he, hfrees⟩ :=
          callback_responds hi (L.releasable hcall) hrsp hq ht
        obtain ⟨copy, hsince, hcopy, -⟩ := since_respond he info rsp c
        rw [h, hsince, userCalls_append, userCalls_append, hcopy, userCalls_of_frees hfrees,
          userCalls_notifyEvents]
        simp
    · have hcb : info.cb = 0 := by
        by_contra hcb
        exact hq (h1 hcb)
      rw [since_callback_failed hq, if_pos hcb]
      rfl

/-- The transport takes callback `k` off its queue. -/
def dequeue (w : World) (k : Nat) : World :=
  { w with inflight := w.inflight.eraseIdx k }

/-! ## The heap objects of callbacks that are owed -/

/-- Two states agree on the heap objects `ps`. -/
def Agree (ps : List Addr) (w w' : World) : Prop :=
  ∀ x ∈ ps, w'.cbInfos x = w.cbInfos x ∧ w'.reqAddrs x = w.reqAddrs x

section Heap

variable {op : AsyncOp} {done : OckRpcCallDone} {w w' w1 : World} {cb : ChannelCallback}
  {info : AsyncCbInfo} {e : SubmitEnv} {ps : List Addr}

theorem ownedBy_agree (h : Agree (ownedBy w cb) w w') : ownedBy w' cb = ownedBy w cb := by
  rw [ownedBy, ownedBy, (h cb.arg List.mem_cons_self).1]

namespace Owns

theorem ownedBy (h : Owns w cb info) : ownedBy w cb = cb.arg :: info.array.toList := by
  rw [Hcom4db.ownedBy, h.record]
  rfl

theorem mem_ownedBy (h : Owns w cb info) {q : Addr} (hq : q ∈ info.array) :
    q ∈ Hcom4db.ownedBy w cb := by
  rw [h.ownedBy]
  exact List.mem_cons_of_mem _ (Option.mem_toList.mpr hq)

theorem agree (h : Owns w cb info) (ha : Agree (Hcom4db.ownedBy w cb) w w') : Owns w' cb info := by
  constructor
  · rw [(ha cb.arg List.mem_cons_self).1]
    exact h.record
  · intro q hq
    rw [(ha q (h.mem_ownedBy hq)).2]
    exact h.array q hq

/-- What a callback owns is allocated, so `malloc` does not return it. -/
theorem ne_fresh (h : Owns w cb info) {p : Addr} (hp : p ≠ 0) (hf : w.FreshPtr p) :
    p ∉ Hcom4db.ownedBy w cb := by
  intro hmem
  obtain ⟨h1, h2⟩ := hf hp
  rw [h.ownedBy] at hmem
  cases List.mem_cons.mp hmem with
  | inl heq =>
    rw [heq, h.record] at h1
    cases h1
  | inr hq =>
    have hs := (h.array p (Option.mem_toList.mp hq)).2
    rw [h2] at hs
    cases hs

/-- An operation that hands over does not touch what other callbacks own. -/
theorem agree_handed {info' : AsyncCbInfo} (h : Owns w cb info') (H : Handed w w1 e info)
    (hf : w.FreshPtr e.malloc) (hf' : w.FreshPtr e.mallocReqAddr) :
    Agree (Hcom4db.ownedBy w cb) w w1 := by
  intro x hx
  constructor
  · refine H.cbInfos x ?_
    rintro rfl
    exact h.ne_fresh H.malloc_ne hf hx
  · refine H.reqAddrs x fun hq => ?_
    have hne := array_ne_zero hq
    have h1 := (H.array x hq).1
    subst h1
    exact h.ne_fresh hne hf' hx

theorem disjoint_handed {info' : AsyncCbInfo} {func : ChannelCallbackFunc} (h : Owns w cb info')
    (H : Handed w w1 e info) (hf : w.FreshPtr e.malloc) (hf' : w.FreshPtr e.mallocReqAddr) :
    List.Disjoint (Hcom4db.ownedBy w cb) (Hcom4db.ownedBy w1 ⟨func, e.malloc⟩) := by
  intro x hx hx'
  rw [Hcom4db.ownedBy, H.record] at hx'
  cases List.mem_cons.mp hx' with
  | inl heq =>
    subst heq
    exact h.ne_fresh H.malloc_ne hf hx
  | inr hmem =>
    have hq : x ∈ info.array := Option.mem_toList.mp hmem
    have hne := array_ne_zero hq
    have h1 := (H.array x hq).1
    subst h1
    exact h.ne_fresh hne hf' hx

end Owns

theorem Handed.owns (H : Handed w w1 e info) (hpq : e.malloc ≠ 0 → e.malloc ≠ e.mallocReqAddr)
    (func : ChannelCallbackFunc) : Owns w1 ⟨func, e.malloc⟩ info := by
  refine ⟨H.record, fun q hq => ?_⟩
  obtain ⟨h1, h2⟩ := H.array q hq
  refine ⟨?_, h2⟩
  rw [h1]
  exact (hpq H.malloc_ne).symm

theorem AsyncOp.Live.agree (L : op.Live done w cb info) (h : Agree (ownedBy w cb) w w') :
    op.Live done w' cb info := ⟨L.toOwns.agree h, L.callback, L.records⟩

theorem Frees.agree {qs : List Addr} (h : Frees qs w w') (hd : List.Disjoint ps qs) :
    Agree ps w w' := fun x hx => ⟨h.cbInfos x (hd hx), h.reqAddrs x (hd hx)⟩

end Heap

/-! ### What the transport owes -/

section Owed

variable {β : Type} {cb : β → ChannelCallback} {Live : World → β → Prop} {w w' w1 : World}
  {owed : List β} {e : SubmitEnv} {info : AsyncCbInfo}

/-- `Live` speaks of what a callback owns, and of nothing else on the heap. -/
structure OnOwned (cb : β → ChannelCallback) (Live : World → β → Prop) : Prop where
  owns : ∀ w o, Live w o → ∃ info, Owns w (cb o) info
  agree : ∀ w w' o, Live w o → Agree (ownedBy w (cb o)) w w' → Live w' o

/-- The callbacks that are owed are queued and alive, and no two share a heap object. -/
structure OwedHeap (cb : β → ChannelCallback) (Live : World → β → Prop) (w : World) (owed : List β) :
    Prop where
  inflight : w.inflight = owed.map cb
  live : ∀ o ∈ owed, Live w o
  apart : owed.Pairwise fun o o' => List.Disjoint (ownedBy w (cb o)) (ownedBy w (cb o'))

namespace OwedHeap

/-- A step that touches nothing a callback owns. -/
theorem keep (hL : OnOwned cb Live) (h : OwedHeap cb Live w owed) (hin : w'.inflight = w.inflight)
    (hag : ∀ o ∈ owed, Agree (ownedBy w (cb o)) w w') : OwedHeap cb Live w' owed := by
  refine ⟨hin.trans h.inflight, fun o ho => hL.agree w w' o (h.live o ho) (hag o ho), ?_⟩
  refine h.apart.imp_of_mem fun {o o'} ho ho' hd => ?_
  rw [ownedBy_agree (hag o ho), ownedBy_agree (hag o' ho')]
  exact hd

/-- An operation that hands over touches nothing a callback owns. -/
theorem agree_handed (hL : OnOwned cb Live) (h : OwedHeap cb Live w owed) (H : Handed w w1 e info)
    (hf : w.FreshPtr e.malloc) (hf' : w.FreshPtr e.mallocReqAddr) :
    ∀ o ∈ owed, Agree (ownedBy w (cb o)) w w1 := by
  intro o ho
  obtain ⟨info', hown⟩ := hL.owns w o (h.live o ho)
  exact hown.agree_handed H hf hf'

/-- Nor does a callback that runs inside the primitive. -/
theorem agree_early (hL : OnOwned cb Live) (h : OwedHeap cb Live w owed) (H : Handed w w1 e info)
    (hf : w.FreshPtr e.malloc) (hf' : w.FreshPtr e.mallocReqAddr) {func : ChannelCallbackFunc}
    (hfr : Frees (ownedBy w1 ⟨func, e.malloc⟩) w1 w') :
    ∀ o ∈ owed, Agree (ownedBy w (cb o)) w w' := by
  intro o ho x hx
  obtain ⟨info', hown⟩ := hL.owns w o (h.live o ho)
  have hd : List.Disjoint (ownedBy w (cb o)) (ownedBy w1 ⟨func, e.malloc⟩) :=
    hown.disjoint_handed H hf hf'
  obtain ⟨h1, h2⟩ := hown.agree_handed H hf hf' x hx
  obtain ⟨h3, h4⟩ := hfr.agree hd x hx
  exact ⟨h3.trans h1, h4.trans h2⟩

/-- A record that was handed over is owed. -/
theorem push (hL : OnOwned cb Live) (h : OwedHeap cb Live w owed) (H : Handed w w1 e info)
    (hf : w.FreshPtr e.malloc) (hf' : w.FreshPtr e.mallocReqAddr) {o : β}
    (hcb : (cb o).arg = e.malloc) (ho : Live w1 o) :
    OwedHeap cb Live { w1 with inflight := w1.inflight ++ [cb o] } (owed ++ [o]) := by
  have hag := agree_handed hL h H hf hf'
  have hkeep := keep hL h H.inflight hag
  have hsame : ∀ o', Agree (ownedBy w1 (cb o')) w1 { w1 with inflight := w1.inflight ++ [cb o] } :=
    fun _ _ _ => ⟨rfl, rfl⟩
  refine ⟨?_, ?_, ?_⟩
  · simp only
    rw [hkeep.inflight, List.map_append]
    rfl
  · intro o' ho'
    rcases List.mem_append.mp ho' with ho' | ho'
    · exact hL.agree _ _ o' (hkeep.live o' ho') (hsame o')
    · rw [List.mem_singleton.mp ho']
      exact hL.agree _ _ o ho (hsame o)
  · have hown : ∀ cb : ChannelCallback,
        ownedBy { w1 with inflight := w1.inflight ++ [cb] } cb = ownedBy w1 cb := fun _ => rfl
    refine List.pairwise_append.mpr ⟨?_, List.pairwise_singleton _ _, ?_⟩
    · exact hkeep.apart
    · intro o1 h1 o2 h2
      rw [List.mem_singleton.mp h2]
      obtain ⟨info', hown'⟩ := hL.owns w o1 (h.live o1 h1)
      have hd : List.Disjoint (ownedBy w (cb o1)) (ownedBy w1 ⟨(cb o).cb, e.malloc⟩) :=
        hown'.disjoint_handed H hf hf'
      rw [← hcb, ← ownedBy_agree (hag o1 h1)] at hd
      exact hd

/-- The callback that runs frees nothing another one owns. -/
theorem agree_ran (h : OwedHeap cb Live w owed) {k : Nat} {o o' : β} (hk : owed[k]? = some o)
    (hf : Frees (ownedBy (dequeue w k) (cb o)) (dequeue w k) w') (ho' : o' ∈ owed.eraseIdx k) :
    Agree (ownedBy w (cb o')) w w' := by
  have hd : List.Disjoint (ownedBy w (cb o)) (ownedBy w (cb o')) :=
    @pairwise_eraseIdx β (fun o o' => List.Disjoint (ownedBy w (cb o)) (ownedBy w (cb o'))) _ _ _ _
      h.apart (fun _ _ h => h.symm) hk ho'
  exact fun x hx => hf.agree hd.symm x hx

/-- A callback that has run is no longer owed. -/
theorem remove (hL : OnOwned cb Live) (h : OwedHeap cb Live w owed) {k : Nat} {o : β}
    (hk : owed[k]? = some o) (hf : Frees (ownedBy (dequeue w k) (cb o)) (dequeue w k) w') :
    OwedHeap cb Live w' (owed.eraseIdx k) := by
  have hag : ∀ o' ∈ owed.eraseIdx k, Agree (ownedBy w (cb o')) w w' := fun o' ho' =>
    agree_ran h hk hf ho'
  refine ⟨?_, ?_, ?_⟩
  · rw [hf.inflight, dequeue, h.inflight, List.eraseIdx_map]
  · intro o' ho'
    exact hL.agree w w' o' (h.live o' (List.mem_of_mem_eraseIdx ho')) (hag o' ho')
  · refine (h.apart.sublist (List.eraseIdx_sublist _ _)).imp_of_mem fun {o1 o2} h1 h2 hd => ?_
    rw [ownedBy_agree (hag o1 h1), ownedBy_agree (hag o2 h2)]
    exact hd

end OwedHeap

end Owed

end Hcom4db
