import Hcom4db.InFlight
import Hcom4db.SyncConserve

/-!
# Hcom4db.BlockAccounts

The blocks the library takes from its pools, over runs of every operation, completion and disconnect in
any order. A packing takes blocks. They are given back when the call is over, or when its callback has
run; but some exits give nothing back.

* `Releases`: the completions that give back what their call has taken.
* `lostBy`: what a step leaves behind that nothing refers to any more.
* `Balanced`: the books of one step, `balanced_step`.
* `blocks_accounted`: whatever was taken is given back once, held by a call that is owed, or lost.
-/

namespace Hcom4db.BlockAccounts

open InFlight HeldBlocks Runs

/-- A completion that gives back the blocks of its call. -/
def Releases (c : Completion) : Prop := c.QueriesOk ∧ c.ctxType ≠ some .oneSide

instance (c : Completion) : Decidable (Releases c) := inferInstanceAs (Decidable (_ ∧ _))

def addrs (o : Owed) : List Addr := o.blocks.map Prod.fst

/-- The blocks a packed call leaves behind: those of a request for which `malloc` fails or which the transport
refuses, and those of one whose callback runs inside the primitive on a branch that releases nothing. -/
def lostByCall (w : World) (params : OckRpcClientCallParams) (e : SubmitEnv) : List Addr :=
  match params.done, checkedMsgs w params with
  | some _, some msgs =>
    match packReqInfo w params.client msgs params.msgId {} e.pack with
    | (wp, ret, _) =>
      if ret = ockRpcOk ∧ ¬ (SglAccepted e ∧ ∀ c ∈ e.early, Releases c) then taken (w.since wp) else []
  | _, _ => []

def lostBy (s : Sys) : Label → List Addr
  | .submit (.call (.callWithParam client msgId reqIov) rsp) done e =>
    lostByCall s.w ⟨client, msgId, reqIov, rsp, done⟩ e
  | .complete k c =>
    match s.owed[k]? with
    | none => []
    | some o => if Releases c then [] else addrs o
  | _ => []

/-- What the library does in a step; the rest is the user's. -/
def events (s : Sys) (l : Label) : List Event :=
  match l with
  | .allocate .. | .free .. | .destroyPool .. | .user .. => []
  | _ => s.w.since (step s l).w

/-- A run with its books: what the library has taken, given back and lost so far. -/
structure Books where
  s : Sys
  taken : List Addr := []
  given : List Addr := []
  lost : List Addr := []

def Books.step (b : Books) (l : Label) : Books :=
  { s := InFlight.step b.s l
    taken := Hcom4db.taken (events b.s l) ++ b.taken
    given := poolFreed (events b.s l) ++ b.given
    lost := lostBy b.s l ++ b.lost }

/-- `malloc` returns what is free, a pool hands out no block twice to one packing, and nobody else touches
a record of a callback that is owed. -/
def Contract (s : Sys) : Label → Prop
  | .submit op _ e => s.w.FreshPtr e.malloc ∧ s.w.FreshPtr e.mallocReqAddr ∧
      (e.malloc ≠ 0 → e.malloc ≠ e.mallocReqAddr) ∧ (op.packs = true → e.pack.Fresh)
  | .other op => ∀ x ∈ op.freed s.w, ∀ o ∈ s.owed, x ∉ ownedBy s.w o.cb
  | .user w' => w'.inflight = s.w.inflight ∧ ∀ o ∈ s.owed, Agree (ownedBy s.w o.cb) s.w w'
  | _ => True

/-- A packing that fails does so where its clean-up gives back what it took. -/
def Clean (s : Sys) : Label → Prop
  | .submit (.call (.callWithParam client msgId reqIov) rsp) done e =>
      ∀ msgs, checkedMsgs s.w ⟨client, msgId, reqIov, rsp, done⟩ = some msgs →
        (packReqInfo s.w client msgs msgId {} e.pack).2.1 ≠ ockRpcOk →
          GivesBackCond e.pack s.w.gOptions.mrSendReceiveSegSize msgs
  | _ => True

/-! ## Reading the books off an effect -/

def freed? : Op Addr → Option Addr
  | .free x => some x
  | _ => none

def taken? : Op Addr → Option Addr
  | .alloc _ b => some b.1
  | _ => none

theorem poolFreed_eq (evs : List Event) : poolFreed evs = (poolOps evs).filterMap freed? := by
  rw [poolFreed, poolOps, List.filterMap_filterMap]
  refine List.filterMap_congr fun ev _ => ?_
  cases ev <;> rfl

theorem taken_eq (evs : List Event) : taken evs = (poolOps evs).filterMap taken? := by
  rw [taken, blocks, poolOps, List.map_filterMap, List.filterMap_filterMap]
  refine List.filterMap_congr fun ev _ => ?_
  cases ev <;> rfl

/-- A step that only gives back. -/
structure Gives (fs : List Addr) (w w' : World) : Prop where
  trace : ∃ evs, w'.trace = evs ++ w.trace
  taken : taken (w.since w') = []
  freed : poolFreed (w.since w') = fs

namespace Gives

variable {fs fs' : List Addr} {w w' w'' : World}

theorem of_effect {spans : List (Addr × Nat)} (E : Effect (fs.map Op.free) spans w w') :
    Gives fs w w' := by
  obtain ⟨evs, he, -⟩ := E.trace
  have hops := E.poolOps_since
  refine ⟨⟨evs, he⟩, ?_, ?_⟩
  · rw [taken_eq, hops, List.filterMap_map]
    exact List.filterMap_eq_nil_iff.mpr fun x _ => rfl
  · rw [poolFreed_eq, hops, List.filterMap_map]
    exact List.filterMap_some

theorem of_beside {freed : List Addr} (h : Beside freed w w') : Gives [] w w' := of_effect h.effect

theorem refl (w : World) : Gives [] w w := of_effect (Effect.refl w)

/-- What a packing has taken and given back, and what follows it. -/
theorem after (h : Gives fs w' w'') (ht : w'.trace = w.since w' ++ w.trace) :
    Hcom4db.taken (w.since w'') = Hcom4db.taken (w.since w') ∧
      poolFreed (w.since w'') = fs ++ poolFreed (w.since w') := by
  obtain ⟨evs, he⟩ := h.trace
  have hs := World.since_of_trace he
  have hall := World.since_append ht he
  have h1 := h.taken
  have h2 := h.freed
  rw [hs] at h1 h2
  rw [hall, taken_append, poolFreed_append, h1, h2]
  exact ⟨rfl, rfl⟩

theorem trans (h : Gives fs w w') (h' : Gives fs' w' w'') : Gives (fs' ++ fs) w w'' := by
  obtain ⟨evs, he⟩ := h.trace
  obtain ⟨evs', he'⟩ := h'.trace
  obtain ⟨ht, hf⟩ := h'.after (by rw [World.since_of_trace he]; exact he)
  exact ⟨⟨evs' ++ evs, by rw [he', he, List.append_assoc]⟩, ht.trans h.taken, by rw [hf, h.freed]⟩

end Gives

/-! ## Completions -/

section Completions

variable {w : World} {cb : ChannelCallback} {info : AsyncCbInfo} {c : Completion}

/-- What a completion gives back whose record lists its blocks. -/
theorem callback_gives {arg p client n rsp : Addr} {xs : List Addr} (hi : w.cbInfos arg = some info)
    (hp : p ≠ 0) (hpa : p ≠ arg) (hra : info.reqAddr = some p) (hcl : info.client = some client)
    (hn : info.reqCnt = some n) (hr : info.rsp = some rsp) (hxs : w.reqAddrs p = some xs) :
    Gives (if Releases c then (xs.take n).reverse else []) w (ockRpcCallbackFunc w arg c) := by
  by_cases hc : Releases c
  · rw [if_pos hc]
    have hxs' : (w.stdFree arg).reqAddrs p = some xs := by rw [stdFree_reqAddrs, if_neg hpa, hxs]
    rw [callback_twoSided hc.1 hc.2 hi (releaseRequest_of_blocks hp hra hcl hn hxs') hr]
    have E1 := (Effect.stdFree w arg).trans (Effect.memFreeList (w.stdFree arg) client (xs.take n))
    have E2 := (E1.trans (Effect.stdFree _ p)).trans (respond_effect _ info rsp c)
    rw [List.append_nil, List.nil_append, List.nil_append] at E2
    exact Gives.of_effect E2
  · rw [if_neg hc]
    by_cases hq : c.QueriesOk
    · have ht : c.ctxType = some .oneSide := by
        by_contra ht
        exact hc ⟨hq, ht⟩
      rw [callback_oneSide hq ht hi]
      exact Gives.of_effect ((Effect.emit w _ rfl).trans (Effect.stdFree _ arg))
    · rw [callback_failed hq]
      exact Gives.of_effect (Effect.stdFree w arg)

/-- A record without an array gives nothing back. -/
theorem runCallback_gives_nothing (hi : w.cbInfos cb.arg = some info) (ha : info.array = none) :
    Gives [] w (runCallback w cb c) := by
  obtain ⟨fs, E, hfs⟩ := runCallback_effect w cb c
  have hnil : fs = [] := List.eq_nil_iff_forall_not_mem.mpr fun x hx =>
    no_givesBack cb hi ha x (hfs x hx)
  subst hnil
  exact Gives.of_effect E

end Completions

/-! ## What the records list -/

/-- The array of a record lists the blocks of its call. -/
def Lists (w : World) (m : Sent) (info : AsyncCbInfo) : Prop :=
  ∀ p n, info.reqAddr = some p → info.reqCnt = some n →
    ∃ xs, w.reqAddrs p = some xs ∧ (xs.take n).Perm (m.blocks.map Prod.fst)

def Live (w : World) (o : Owed) : Prop :=
  ∃ info, Owns w o.cb info ∧ (o.sent = none → info.array = none) ∧
    ∀ m ∈ o.sent, m.Recorded o.cb info ∧ Lists w m info

theorem onOwned : OnOwned Owed.cb Live := by
  constructor
  · rintro w o ⟨info, h, -⟩
    exact ⟨info, h⟩
  · rintro w w' o ⟨info, h, hnone, hsome⟩ hag
    refine ⟨info, h.agree hag, hnone, fun m hm => ⟨(hsome m hm).1, ?_⟩⟩
    intro p n hp hn
    obtain ⟨q, client, k, hne, h1, -, -⟩ := (hsome m hm).1.request
    have harr : p ∈ info.array := by
      rw [hp] at h1
      cases h1
      simp [AsyncCbInfo.array, hp, hne]
    rw [(hag p (h.mem_ownedBy harr)).2]
    exact (hsome m hm).2 p n hp hn

/-- A callback that is owed gives back the blocks of its call, or nothing. -/
theorem complete_gives {w : World} {o : Owed} (h : Live w o) (c : Completion) :
    ∃ fs, Gives fs w (runCallback w o.cb c) ∧ fs.Perm (if Releases c then addrs o else []) := by
  obtain ⟨info, hown, hnone, hsome⟩ := h
  cases hs : o.sent with
  | none =>
    have hblocks : addrs o = [] := by simp [addrs, Owed.blocks, hs]
    refine ⟨[], runCallback_gives_nothing hown.record (hnone hs), ?_⟩
    rw [hblocks, ite_self]
  | some m =>
    obtain ⟨hrec, hlist⟩ := hsome m hs
    obtain ⟨p, client, n, hp, hra, hcl, hn⟩ := hrec.request
    obtain ⟨xs, hxs, hperm⟩ := hlist p n hra hn
    have harr : p ∈ info.array := by simp [AsyncCbInfo.array, hra, hp]
    have hpa : p ≠ o.cb.arg := (hown.array p harr).1
    have hblocks : addrs o = m.blocks.map Prod.fst := by simp [addrs, Owed.blocks, hs]
    have hrun : runCallback w o.cb c = ockRpcCallbackFunc w o.cb.arg c := by
      rw [runCallback, hrec.callback]
    rw [hrun, hblocks]
    refine ⟨_, callback_gives hown.record hp hpa hra hcl hn hrec.rsp hxs, ?_⟩
    split
    · exact (List.reverse_perm _).trans hperm
    · exact List.Perm.refl _

/-! ## The books of a step -/

/-- The books of a step: what was held and what is taken is given back, held or lost. -/
def Balanced (s : Sys) (l : Label) : Prop :=
  (taken (events s l) ++ s.owed.flatMap addrs).Perm
    (poolFreed (events s l) ++ ((step s l).owed.flatMap addrs ++ lostBy s l))

section Steps

variable {s : Sys} {l : Label} {w' w1 : World}

/-- A step that moves nothing. -/
theorem balanced_of_same (hev : taken (events s l) = [] ∧ poolFreed (events s l) = [])
    (ho : (step s l).owed.flatMap addrs = s.owed.flatMap addrs) (hl : lostBy s l = []) :
    Balanced s l := by
  rw [Balanced, hev.1, hev.2, ho, hl, List.append_nil]

theorem events_complete (k : Nat) (c : Completion) :
    events s (.complete k c) = s.w.since (step s (.complete k c)).w := rfl

theorem events_submit (op : AsyncOp) (done : Option OckRpcCallDone) (e : SubmitEnv) :
    events s (.submit op done e) = s.w.since (op.submit s.w done e).1 := rfl

theorem flatMap_orphaned (a : Option Addr) (owed : List Owed) :
    (orphaned a owed).flatMap addrs = owed.flatMap addrs := by
  rw [orphaned, List.flatMap_map]
  rfl

theorem flatMap_eraseIdx_perm {owed : List Owed} {k : Nat} {o : Owed} (h : owed[k]? = some o) :
    (owed.flatMap addrs).Perm (addrs o ++ (owed.eraseIdx k).flatMap addrs) := by
  obtain ⟨hk, rfl⟩ := List.getElem?_eq_some_iff.mp h
  exact (List.Perm.flatMap_right addrs (List.getElem_cons_eraseIdx_perm hk).symm)

theorem balanced_complete (H : OwedHeap Owed.cb Live s.w s.owed) (k : Nat) (c : Completion) :
    Balanced s (.complete k c) := by
  cases hk : s.owed[k]? with
  | none =>
    have hstep : step s (.complete k c) = s := by simp only [step, hk]
    refine balanced_of_same ?_ (by rw [hstep]) (by simp only [lostBy, hk])
    rw [events_complete, hstep, World.since_self]
    exact ⟨rfl, rfl⟩
  | some o =>
    have ho : o ∈ s.owed := List.mem_of_getElem? hk
    have hlive : Live (dequeue s.w k) o :=
      onOwned.agree s.w _ o (H.live o ho) fun _ _ => ⟨rfl, rfl⟩
    obtain ⟨fs, G, hfs⟩ := complete_gives hlive c
    have hstep : step s (.complete k c) =
        { w := runCallback (dequeue s.w k) o.cb c, owed := s.owed.eraseIdx k } := by
      simp only [step, hk]
    have ht : taken (events s (.complete k c)) = [] := by
      rw [events_complete, hstep]
      exact G.taken
    have hf : poolFreed (events s (.complete k c)) = fs := by
      rw [events_complete, hstep]
      exact G.freed
    rw [Balanced, ht, hf, hstep]
    simp only [lostBy, hk, List.nil_append]
    refine (flatMap_eraseIdx_perm hk).trans ?_
    by_cases hc : Releases c
    · rw [if_pos hc, List.append_nil]
      rw [if_pos hc] at hfs
      exact hfs.symm.append_right _
    · rw [if_neg hc] at hfs ⊢
      rw [hfs.eq_nil, List.nil_append]
      exact List.perm_append_comm

end Steps

/-! ## Operations -/

section Submit

variable {s : Sys} {w' w1 : World} {op : AsyncOp} {done : Option OckRpcCallDone} {e : SubmitEnv}
  {info : AsyncCbInfo} {st : OckRpcStatus}

/-- An operation after which nothing new is owed. -/
theorem step_settled (hw : (op.submit s.w done e).1 = w') (hin : w'.inflight = s.w.inflight) :
    step s (.submit op done e) = { s with w := w' } := by
  simp only [step, hw]
  rw [hin, List.drop_length, List.map_nil, List.append_nil]

/-- An operation whose callback is owed when it returns. -/
theorem step_queued (H : Handed s.w w1 e info)
    (hw : (op.submit s.w done e).1 = { w1 with inflight := w1.inflight ++ [⟨op.callback, e.malloc⟩] }) :
    step s (.submit op done e) =
      { w := { w1 with inflight := w1.inflight ++ [⟨op.callback, e.malloc⟩] }
        owed := s.owed ++ [{ cb := ⟨op.callback, e.malloc⟩
                             sent := sentBy op done s.w (op.submit s.w done e).1 }] } := by
  have hdrop := H.drop_queued ⟨op.callback, e.malloc⟩
  simp only [step]
  rw [hw, hdrop, ← hw]
  rfl

theorem flatMap_concat (owed : List Owed) (o : Owed) :
    (owed ++ [o]).flatMap addrs = owed.flatMap addrs ++ addrs o := by simp

/-! ### Operations that pack nothing -/

theorem lostBy_plain (hop : op.packs = false) : lostBy s (.submit op done e) = [] := by
  cases op with
  | call op rsp =>
    cases op with
    | callWithParam client msgId reqIov => cases hop
    | _ => rfl
  | _ => rfl

theorem sentBy_plain (hop : op.packs = false) (w w' : World) : sentBy op done w w' = none := by
  cases op with
  | call op rsp =>
    cases op with
    | callWithParam client msgId reqIov => cases hop
    | _ => rfl
  | _ => rfl

theorem step_plain (H : OwedHeap Owed.cb Live s.w s.owed) (hop : op.packs = false)
    (hc : Contract s (.submit op done e)) :
    OwedHeap Owed.cb Live (step s (.submit op done e)).w (step s (.submit op done e)).owed ∧
      Balanced s (.submit op done e) := by
  obtain ⟨hf, hf', hpq, -⟩ := hc
  have P := submit_plain op hop s.w done e
  have G : Gives [] s.w (op.submit s.w done e).1 := Gives.of_effect P.effect
  have hev : taken (events s (.submit op done e)) = [] ∧ poolFreed (events s (.submit op done e)) = [] :=
    ⟨G.taken, G.freed⟩
  rcases hr : op.submit s.w done e with ⟨w', st⟩
  have hw : (op.submit s.w done e).1 = w' := congrArg Prod.fst hr
  rw [hr] at P
  simp only at P
  have settled : w'.inflight = s.w.inflight → (∀ o ∈ s.owed, Agree (ownedBy s.w o.cb) s.w w') →
      OwedHeap Owed.cb Live (step s (.submit op done e)).w (step s (.submit op done e)).owed ∧
        Balanced s (.submit op done e) := by
    intro hin hag
    have hstep := step_settled hw hin
    refine ⟨?_, balanced_of_same hev ?_ (lostBy_plain hop)⟩
    · rw [hstep]
      exact H.keep onOwned hin hag
    · rw [hstep]
  cases P with
  | direct he hq =>
    exact settled hq.inflight fun o _ x _ => ⟨congrFun hq.cbInfos x, congrFun hq.reqAddrs x⟩
  | refused p hst =>
    have Q := AsyncOp.submit_quiet hf hf' hr (.inl hst)
    exact settled Q.inflight fun o _ x _ => ⟨congrFun Q.cbInfos x, congrFun Q.reqAddrs x⟩
  | @handed info p hm ha hrsp hd =>
    have Hd : Handed s.w (posted op s.w e info p) e info := handed_posted hm ha p
    cases hearly : e.early with
    | some c =>
      have h1 : (posted op s.w e info p).handOver ⟨op.callback, e.malloc⟩ e =
          runCallback (posted op s.w e info p) ⟨op.callback, e.malloc⟩ c := by
        rw [World.handOver, hearly]
      have hfr := runCallback_frees (posted op s.w e info p) ⟨op.callback, e.malloc⟩ c
      rw [h1] at settled
      exact settled (hfr.inflight.trans Hd.inflight) (H.agree_early onOwned Hd hf hf' hfr)
    | none =>
      have h1 : (posted op s.w e info p).handOver ⟨op.callback, e.malloc⟩ e =
          { posted op s.w e info p with
            inflight := (posted op s.w e info p).inflight ++ [⟨op.callback, e.malloc⟩] } := by
        rw [World.handOver, hearly]
      rw [h1] at hw
      have hstep := step_queued Hd hw
      rw [sentBy_plain hop] at hstep
      refine ⟨?_, balanced_of_same hev ?_ (lostBy_plain hop)⟩
      · rw [hstep]
        refine H.push onOwned Hd hf hf' (o := { cb := ⟨op.callback, e.malloc⟩, sent := none }) rfl ?_
        exact ⟨info, Hd.owns hpq _, fun _ => ha, fun m hm => by cases hm⟩
      · rw [hstep, flatMap_concat]
        exact List.append_nil _

end Submit

/-! ### Scatter-gather calls -/

section Packed

variable {s : Sys} {w w' wp : World} {params : OckRpcClientCallParams} {msgs : List ReqMessage}
  {req : ServiceSglRequest} {d : OckRpcCallDone} {e : SubmitEnv} {st ret : OckRpcStatus}

theorem lostByCall_unchecked (h : checkedMsgs w params = none) : lostByCall w params e = [] := by
  unfold lostByCall
  rw [h]
  cases params.done <;> rfl

theorem lostByCall_sync (h : params.done = none) : lostByCall w params e = [] := by
  unfold lostByCall
  rw [h]

theorem lostByCall_packed (hd : params.done = some d) (hmsgs : checkedMsgs w params = some msgs)
    (hpack : packReqInfo w params.client msgs params.msgId {} e.pack = (wp, ret, req)) :
    lostByCall w params e =
      if ret = ockRpcOk ∧ ¬ (SglAccepted e ∧ ∀ c ∈ e.early, Releases c) then taken (w.since wp)
      else [] := by
  unfold lostByCall
  rw [hd, hmsgs]
  simp only [hpack]

/-- The books of a call by itself: what it takes, gives back, loses, and leaves to its callback. -/
def CallBooks (w w' : World) (params : OckRpcClientCallParams) (e : SubmitEnv) (held : List Addr) : Prop :=
  (taken (w.since w')).Perm (poolFreed (w.since w') ++ (held ++ lostByCall w params e))

/-- A packing that fails gives back what it took. -/
theorem callBooks_pack_failed (hfresh : e.pack.Fresh) (hmsgs : checkedMsgs w params = some msgs)
    (hpack : packReqInfo w params.client msgs params.msgId {} e.pack = (wp, ret, req))
    (hret : ret ≠ ockRpcOk) (hcond : GivesBackCond e.pack w.gOptions.mrSendReceiveSegSize msgs) :
    CallBooks w wp params e [] := by
  have hl : lostByCall w params e = [] := by
    cases hd : params.done with
    | none => exact lostByCall_sync hd
    | some d =>
      rw [lostByCall_packed hd hmsgs hpack]
      exact if_neg fun h => hret h.1
  have hn : (taken (w.since wp)).Nodup :=
    List.nodup_reverse.mp ((packReqInfo_taken hpack).nodup hfresh)
  have hb := (pack_failure_gives_back_iff hfresh (checkedMsgs_len hmsgs) hpack hret).mpr hcond
  rw [CallBooks, hl, List.append_nil, List.append_nil]
  exact ((Ledger.balanced_iff_perm hn).mp hb).symm

/-- A synchronous call gives back what it has packed. -/
theorem callBooks_sync (hd : params.done = none) (hmsgs : checkedMsgs w params = some msgs)
    (hpack : packReqInfo w params.client msgs params.msgId {} e.pack = (wp, ockRpcOk, req)) :
    CallBooks w (ockRpcClientCallWithParam w (some params) e).1 params e [] := by
  obtain ⟨-, ht, hf, -⟩ := @sync_blocks_conserved w wp req e params msgs hd hmsgs hpack
  rw [CallBooks, lostByCall_sync hd, ht, hf, List.append_nil, List.append_nil]

/-- What follows a packing that succeeded decides what becomes of its blocks. -/
theorem callBooks_after {fs held lost : List Addr} (hmsgs : checkedMsgs w params = some msgs)
    (hpack : packReqInfo w params.client msgs params.msgId {} e.pack = (wp, ockRpcOk, req))
    (G : Gives fs wp w') (hl : lostByCall w params e = lost)
    (h : (taken (w.since wp)).Perm (fs ++ (held ++ lost))) : CallBooks w w' params e held := by
  have hp := packReqInfo_frame w params.client msgs params.msgId {} e.pack
  rw [hpack] at hp
  obtain ⟨ht, hf⟩ := G.after hp.trace_eq
  rw [CallBooks, ht, hf, hl, (packReqInfo_ok_blocks (checkedMsgs_len hmsgs) hpack).2, List.append_nil]
  exact h

/-- A call that is synchronous or fails. -/
theorem callBooks_quiet (hfresh : e.pack.Fresh)
    (hclean : ∀ msgs, checkedMsgs w params = some msgs →
      (packReqInfo w params.client msgs params.msgId {} e.pack).2.1 ≠ ockRpcOk →
        GivesBackCond e.pack w.gOptions.mrSendReceiveSegSize msgs)
    (hq : (ockRpcClientCallWithParam w (some params) e).2 ≠ ockRpcOk ∨ params.done = none) :
    CallBooks w (ockRpcClientCallWithParam w (some params) e).1 params e [] := by
  cases hmsgs : checkedMsgs w params with
  | none =>
    have hw : (ockRpcClientCallWithParam w (some params) e).1 = w := by
      unfold ockRpcClientCallWithParam
      simp only [hmsgs]
    rw [hw, CallBooks, lostByCall_unchecked hmsgs, World.since_self]
    exact List.Perm.refl _
  | some msgs =>
    rcases hpack : packReqInfo w params.client msgs params.msgId {} e.pack with ⟨wp, ret, req⟩
    by_cases hret : ret = ockRpcOk
    · subst hret
      cases hd : params.done with
      | none => exact callBooks_sync hd hmsgs hpack
      | some d =>
        rw [callWithParam_packed hd hmsgs hpack] at hq ⊢
        have ha : ¬ SglAccepted e := by
          intro ha
          rw [sgl_accepted ha, hd] at hq
          simp [orErr] at hq
        have G : Gives [] wp (ockRpcCallAsyncSgl wp params.client req params.rspMsgs d e).1 :=
          Gives.of_effect (sgl_refused_effect ha)
        refine callBooks_after hmsgs hpack G ((lostByCall_packed hd hmsgs hpack).trans (if_pos ?_)) ?_
        · exact ⟨rfl, fun h => ha h.1⟩
        · exact List.Perm.refl _
    · have hw : (ockRpcClientCallWithParam w (some params) e).1 = wp := by
        unfold ockRpcClientCallWithParam
        simp only [hmsgs, hpack, ne_eq, hret, not_false_eq_true, if_true]
      rw [hw]
      exact callBooks_pack_failed hfresh hmsgs hpack hret (hclean msgs hmsgs (by rw [hpack]; exact hret))

/-- A call whose callback runs inside the primitive. -/
theorem callBooks_early {c : Completion} (hd : params.done = some d) (hmsgs : checkedMsgs w params = some msgs)
    (hpack : packReqInfo w params.client msgs params.msgId {} e.pack = (wp, ockRpcOk, req))
    (ha : SglAccepted e) (hpq : e.malloc ≠ e.mallocReqAddr) (hearly : e.early = some c) :
    CallBooks w (runCallback (sglHandedOver wp params.client req params.rspMsgs d e)
      ⟨.ockRpcCallbackFunc, e.malloc⟩ c) params e [] := by
  obtain ⟨hiov, -⟩ := packReqInfo_ok_blocks (checkedMsgs_len hmsgs) hpack
  have hlen : (iovAddrs req req.iovCount.toNat).length = req.iovCount.toNat := by simp [iovAddrs]
  have G := @callback_gives (sglHandedOver wp params.client req params.rspMsgs d e)
    (sglInfo params.client req params.rspMsgs d e.mallocReqAddr) c e.malloc e.mallocReqAddr params.client
    req.iovCount.toNat params.rspMsgs (iovAddrs req req.iovCount.toNat)
    (Function.update_self _ _ _) ha.2.1 hpq.symm rfl rfl rfl rfl (Function.update_self _ _ _)
  rw [List.take_of_length_le hlen.le, hiov, List.reverse_reverse] at G
  have G' : Gives (if Releases c then taken (w.since wp) else []) wp
      (runCallback (sglHandedOver wp params.client req params.rspMsgs d e)
        ⟨.ockRpcCallbackFunc, e.malloc⟩ c) := by
    have h0 : Gives [] wp (sglHandedOver wp params.client req params.rspMsgs d e) :=
      Gives.of_effect (sglHandedOver_effect wp params.client req params.rspMsgs d e)
    have h := h0.trans G
    rwa [List.append_nil] at h
  refine callBooks_after hmsgs hpack G' (lostByCall_packed hd hmsgs hpack) ?_
  by_cases hc : Releases c
  · rw [if_pos hc, if_neg]
    · rw [List.append_nil, List.append_nil]
    · rintro ⟨-, h⟩
      refine h ⟨ha, fun c' hc' => ?_⟩
      rw [hearly] at hc'
      cases hc'
      exact hc
  · rw [if_neg hc, if_pos]
    · exact List.Perm.refl _
    · exact ⟨rfl, fun h => hc (h.2 c hearly)⟩

/-- The array of a call the transport has accepted lists what its packing took. -/
theorem live_packed (hmsgs : checkedMsgs w params = some msgs)
    (hpack : packReqInfo w params.client msgs params.msgId {} e.pack = (wp, ockRpcOk, req))
    (ha : SglAccepted e) (hpq : e.malloc ≠ e.mallocReqAddr) :
    Live (sglHandedOver wp params.client req params.rspMsgs d e)
      { cb := ⟨.ockRpcCallbackFunc, e.malloc⟩, sent := some (packed w wp params req d) } := by
  obtain ⟨hiov, -⟩ := packReqInfo_ok_blocks (checkedMsgs_len hmsgs) hpack
  have hlen : (iovAddrs req req.iovCount.toNat).length = req.iovCount.toNat := by simp [iovAddrs]
  have H : Handed wp (sglHandedOver wp params.client req params.rspMsgs d e) e
      (sglInfo params.client req params.rspMsgs d e.mallocReqAddr) :=
    (placed_sglRecorded ha.1 ha.2.1).handed
  refine ⟨_, H.owns (fun _ => hpq) _, fun h => (Option.some_ne_none _ h).elim, fun m hm => ?_⟩
  cases hm
  refine ⟨⟨rfl, rfl, rfl, rfl, _, _, _, ha.2.1, rfl, rfl, rfl⟩, ?_⟩
  intro p n hp hn
  cases hp
  cases hn
  refine ⟨iovAddrs req req.iovCount.toNat, Function.update_self _ _ _, ?_⟩
  rw [List.take_of_length_le hlen.le, hiov]
  exact List.reverse_perm _

theorem balanced_of_callBooks {held : List Addr}
    (h : CallBooks s.w (ockRpcClientCallWithParam s.w (some params) e).1 params e held)
    (ho : (step s (.submit params.op params.done e)).owed.flatMap addrs = s.owed.flatMap addrs ++ held) :
    Balanced s (.submit params.op params.done e) := by
  have hev : events s (.submit params.op params.done e) =
      s.w.since (ockRpcClientCallWithParam s.w (some params) e).1 := events_submit _ _ _
  have hl : lostBy s (.submit params.op params.done e) = lostByCall s.w params e := rfl
  rw [Balanced, hev, hl, ho]
  refine List.perm_iff_count.mpr fun x => ?_
  have hx := List.perm_iff_count.mp h x
  simp only [List.count_append] at hx ⊢
  omega

theorem step_packed (H : OwedHeap Owed.cb Live s.w s.owed)
    (hc : Contract s (.submit params.op params.done e))
    (hclean : Clean s (.submit params.op params.done e)) :
    OwedHeap Owed.cb Live (step s (.submit params.op params.done e)).w
        (step s (.submit params.op params.done e)).owed ∧
      Balanced s (.submit params.op params.done e) := by
  obtain ⟨hf, hf', hpq, hfresh⟩ := hc
  have hsubmit : params.op.submit s.w params.done e = ockRpcClientCallWithParam s.w (some params) e := rfl
  have settled : ∀ w', (ockRpcClientCallWithParam s.w (some params) e).1 = w' →
      w'.inflight = s.w.inflight → (∀ o ∈ s.owed, Agree (ownedBy s.w o.cb) s.w w') →
      CallBooks s.w w' params e [] →
      OwedHeap Owed.cb Live (step s (.submit params.op params.done e)).w
          (step s (.submit params.op params.done e)).owed ∧
        Balanced s (.submit params.op params.done e) := by
    intro w' hw hin hag hb
    have hstep := step_settled (hsubmit ▸ hw) hin
    refine ⟨?_, balanced_of_callBooks (hw ▸ hb) ?_⟩
    · rw [hstep]
      exact H.keep onOwned hin hag
    · rw [hstep, List.append_nil]
  rcases hr : ockRpcClientCallWithParam s.w (some params) e with ⟨w', st⟩
  by_cases hq : st ≠ ockRpcOk ∨ params.done = none
  · have hq' : st ≠ ockRpcOk ∨ (params.done = none ∧ params.op.isReply = false) :=
      hq.imp_right fun h => ⟨h, rfl⟩
    have Q : Quiet s.w w' := AsyncOp.submit_quiet hf hf' (hsubmit.trans hr) hq'
    have hb := callBooks_quiet (hfresh rfl) hclean (by rw [hr]; exact hq)
    rw [hr] at hb
    exact settled w' (congrArg Prod.fst hr) Q.inflight
      (fun o _ x _ => ⟨congrFun Q.cbInfos x, congrFun Q.reqAddrs x⟩) hb
  rw [not_or, not_not] at hq
  obtain ⟨rfl, hd⟩ := hq
  obtain ⟨d, hd⟩ := Option.ne_none_iff_exists'.mp hd
  obtain ⟨msgs, wp, req, hmsgs, hpack, ha, hw1, -, -⟩ := call_accepted hd hr
  have hp := packReqInfo_frame s.w params.client msgs params.msgId {} e.pack
  rw [hpack] at hp
  have Hd : Handed s.w (sglHandedOver wp params.client req params.rspMsgs d e) e
      (sglInfo params.client req params.rspMsgs d e.mallocReqAddr) :=
    hp.quiet.handed (placed_sglRecorded ha.1 ha.2.1).handed
  cases hearly : e.early with
  | some c =>
    have hw2 : w' = runCallback (sglHandedOver wp params.client req params.rspMsgs d e)
        ⟨.ockRpcCallbackFunc, e.malloc⟩ c := by rw [hw1, World.handOver, hearly]
    have hfr := runCallback_frees (sglHandedOver wp params.client req params.rspMsgs d e)
      ⟨.ockRpcCallbackFunc, e.malloc⟩ c
    refine settled _ ((congrArg Prod.fst hr).trans hw2) (hfr.inflight.trans Hd.inflight)
      (H.agree_early onOwned Hd hf hf' hfr) ?_
    exact callBooks_early hd hmsgs hpack ha (hpq ha.1) hearly
  | none =>
    have hw2 : w' = { sglHandedOver wp params.client req params.rspMsgs d e with
        inflight := (sglHandedOver wp params.client req params.rspMsgs d e).inflight ++
          [⟨.ockRpcCallbackFunc, e.malloc⟩] } := by rw [hw1, World.handOver, hearly]
    have hw : (params.op.submit s.w params.done e).1 = w' := by rw [hsubmit, hr]
    have hsent : sentBy params.op params.done s.w w' = some (packed s.w wp params req d) := by
      rw [hd]
      exact sentBy_handed hpack (by rw [hw2])
    have hstep := step_queued Hd (hw.trans hw2)
    rw [hw, hsent] at hstep
    have hb : CallBooks s.w (ockRpcClientCallWithParam s.w (some params) e).1 params e
        (taken (s.w.since wp)) := by
      have hl : lostByCall s.w params e = [] := by
        rw [lostByCall_packed hd hmsgs hpack, hearly]
        exact if_neg fun h => h.2 ⟨ha, by simp⟩
      have G : Gives [] wp w' := by
        rw [hw2]
        exact Gives.of_effect ((sglHandedOver_effect wp params.client req params.rspMsgs d e).queue _)
      rw [hr]
      refine callBooks_after hmsgs hpack G hl ?_
      rw [List.append_nil, List.nil_append]
    refine ⟨?_, balanced_of_callBooks hb ?_⟩
    · rw [hstep]
      exact H.push onOwned Hd hf hf'
        (o := { cb := ⟨.ockRpcCallbackFunc, e.malloc⟩, sent := some (packed s.w wp params req d) }) rfl
        (live_packed hmsgs hpack ha (hpq ha.1))
    · rw [hstep, flatMap_concat]
      rfl

end Packed

/-! ## Runs -/

section Run

variable {s : Sys} {w' : World} {l : Label}

/-- A step of the user or of an operation that sends nothing. -/
theorem step_beside (H : OwedHeap Owed.cb Live s.w s.owed) (hstep : step s l = { s with w := w' })
    (hin : w'.inflight = s.w.inflight) (hag : ∀ o ∈ s.owed, Agree (ownedBy s.w o.cb) s.w w')
    (hev : taken (events s l) = [] ∧ poolFreed (events s l) = []) (hl : lostBy s l = []) :
    OwedHeap Owed.cb Live (step s l).w (step s l).owed ∧ Balanced s l := by
  refine ⟨?_, balanced_of_same hev ?_ hl⟩
  · rw [hstep]
    exact H.keep onOwned hin hag
  · rw [hstep]

/-- The calls of a pool become orphans. -/
theorem step_orphaned {a : Option Addr} (H : OwedHeap Owed.cb Live s.w s.owed)
    (hstep : step s l = { w := w', owed := orphaned a s.owed }) (hin : w'.inflight = s.w.inflight)
    (hag : ∀ o ∈ s.owed, Agree (ownedBy s.w o.cb) s.w w')
    (hev : taken (events s l) = [] ∧ poolFreed (events s l) = []) (hl : lostBy s l = []) :
    OwedHeap Owed.cb Live (step s l).w (step s l).owed ∧ Balanced s l := by
  refine ⟨?_, balanced_of_same hev ?_ hl⟩
  · rw [hstep]
    exact orphaned_heap (fun _ h => h) (H.keep onOwned hin hag)
  · rw [hstep]
    exact flatMap_orphaned a s.owed

theorem step_ok (H : OwedHeap Owed.cb Live s.w s.owed) (hc : Contract s l) (hclean : Clean s l) :
    OwedHeap Owed.cb Live (step s l).w (step s l).owed ∧ Balanced s l := by
  cases l with
  | submit op done e =>
    cases hop : op.packs with
    | false => exact step_plain H hop hc
    | true =>
      cases op with
      | call op rsp =>
        cases op with
        | callWithParam client msgId reqIov =>
          exact @step_packed s ⟨client, msgId, reqIov, rsp, done⟩ e H hc hclean
        | _ => cases hop
      | _ => cases hop
  | complete k c =>
    refine ⟨?_, balanced_complete H k c⟩
    simp only [step]
    cases hk : s.owed[k]? with
    | none => exact H
    | some o => exact H.remove onOwned hk (runCallback_frees (dequeue s.w k) o.cb c)
  | allocate allocator size res =>
    cases res with
    | none => exact step_beside H rfl rfl (fun _ _ _ _ => ⟨rfl, rfl⟩) ⟨rfl, rfl⟩ rfl
    | some r => exact step_beside H rfl rfl (fun _ _ _ _ => ⟨rfl, rfl⟩) ⟨rfl, rfl⟩ rfl
  | free allocator address => exact step_beside H rfl rfl (fun _ _ _ _ => ⟨rfl, rfl⟩) ⟨rfl, rfl⟩ rfl
  | destroyPool allocator ret =>
    exact step_orphaned H rfl rfl (fun _ _ _ _ => ⟨rfl, rfl⟩) ⟨rfl, rfl⟩ rfl
  | destroy client ret =>
    have G : Gives [] s.w (destroyAllocator s.w client ret) ∧
        ∀ o ∈ s.owed, Agree (ownedBy s.w o.cb) s.w (destroyAllocator s.w client ret) := by
      unfold destroyAllocator
      split
      · exact ⟨Gives.refl s.w, fun _ _ _ _ => ⟨rfl, rfl⟩⟩
      · rename_i a _
        have ht : (s.w.emit (.poolDestroy a ret)).trace = [.poolDestroy a ret] ++ s.w.trace := rfl
        have hs := World.since_of_trace ht
        exact ⟨⟨⟨_, ht⟩, by rw [hs]; rfl, by rw [hs]; rfl⟩, fun _ _ _ _ => ⟨rfl, rfl⟩⟩
    exact step_orphaned H rfl (by unfold destroyAllocator; split <;> rfl) G.2 ⟨G.1.taken, G.1.freed⟩ rfl
  | other op =>
    have hb := op.beside s.w
    have G := Gives.of_beside hb
    exact step_beside H rfl hb.inflight (fun o ho x hx => hb.heap x fun hmem => hc x hmem o ho hx)
      ⟨G.taken, G.freed⟩ rfl
  | user w' => exact step_beside H rfl hc.1 hc.2 ⟨rfl, rfl⟩ rfl

/-- The books of a run. -/
structure Accounts (b : Books) : Prop where
  heap : OwedHeap Owed.cb Live b.s.w b.s.owed
  balance : b.taken.Perm (b.given ++ (b.s.owed.flatMap addrs ++ b.lost))

theorem Accounts.step {b : Books} (A : Accounts b) (hc : Contract b.s l) (hclean : Clean b.s l) :
    Accounts (b.step l) := by
  obtain ⟨hheap, hstep⟩ := step_ok A.heap hc hclean
  refine ⟨hheap, List.perm_iff_count.mpr fun x => ?_⟩
  have h1 := List.perm_iff_count.mp A.balance x
  have h2 := List.perm_iff_count.mp hstep x
  simp only [Books.step, List.count_append] at h1 h2 ⊢
  omega

/-- **Every block is accounted for.** In every run in which a packing that fails does so where its
clean-up is complete, whatever the library has taken from the pools has been given back once, is held by a
call whose callback is owed, or was lost by a call for which `malloc` failed, by one the transport refused or
by a completion that releases nothing; and nothing else was given back. -/
theorem blocks_accounted {w : World} {b : Books} (hin : w.inflight = [])
    (hrun : Reached (fun b l => Contract b.s l ∧ Clean b.s l) Books.step { s := { w := w } } b) :
    b.taken.Perm (b.given ++ (b.s.owed.flatMap addrs ++ b.lost)) := by
  have h0 : Accounts { s := { w := w } } := ⟨⟨hin, by simp, List.Pairwise.nil⟩, List.Perm.refl _⟩
  exact (hrun.invariant h0 fun b l A hl => A.step hl.1 hl.2).balance

/-! ### Three calls -/

/-- A pool that hands out other blocks than `firstCall` gets. -/
def otherBlocks : PackEnv := { alloc := fun k => some (1000 * (k + 1), 7) }

theorem otherBlocks_fresh : otherBlocks.Fresh := by
  refine ⟨fun j h => ?_, fun j k x hj hk => ?_⟩
  · have h0 : 1000 * (j + 1) = 0 := Option.some.inj h
    omega
  · have h1 : 1000 * (j + 1) = x := Option.some.inj hj
    have h2 : 1000 * (k + 1) = x := Option.some.inj hk
    omega

/-- One call is in flight, the transport refuses the next, and the first one completes. -/
def refusedBetween : List Label :=
  [.submit oneMessageCall.op (some ⟨11, 12⟩) firstCall,
    .submit twoMessageCall.op (some ⟨13, 14⟩)
      { malloc := 901, mallocReqAddr := 951, ret := 3, pack := otherBlocks },
    .complete 0 { ctxType := some .sentRaw }]

theorem refusedBetween_ok :
    AllOk (fun b l => Contract b.s l ∧ Clean b.s l) Books.step { s := { w := eightByteSegs } }
      refusedBetween := by
  refine ⟨⟨⟨fun _ => ⟨rfl, rfl⟩, fun _ => ⟨rfl, rfl⟩, by decide, fun _ => PackEnv.firstBlocks_fresh 4⟩, ?_⟩,
    ⟨⟨fun _ => ⟨rfl, rfl⟩, fun _ => ⟨rfl, rfl⟩, by decide, fun _ => otherBlocks_fresh⟩, ?_⟩,
    ⟨trivial, trivial⟩, trivial⟩
  · intro msgs h hret
    obtain rfl : [⟨some fun _ => 3, 4⟩] = msgs := Option.some.inj h
    exact absurd rfl hret
  · intro msgs h hret
    have hmsgs : checkedMsgs eightByteSegs twoMessageCall = some [⟨some fun _ => 0, 2⟩, ⟨some fun _ => 1, 2⟩] :=
      rfl
    obtain rfl : [⟨some fun _ => 0, 2⟩, ⟨some fun _ => 1, 2⟩] = msgs :=
      Option.some.inj (hmsgs.symm.trans h)
    exact absurd rfl hret

/-- The two blocks of the first call are given back, the three of the second are lost. -/
theorem blocks_accounted_lost :
    let b := refusedBetween.foldl Books.step { s := { w := eightByteSegs } }
    b.lost = [3000, 2000, 1000] ∧ b.s.owed = [] ∧ b.taken.Perm (b.given ++ [3000, 2000, 1000]) := by
  have h := blocks_accounted rfl (Reached.refl.extend refusedBetween_ok)
  exact ⟨rfl, rfl, h⟩

end Run

end Hcom4db.BlockAccounts
