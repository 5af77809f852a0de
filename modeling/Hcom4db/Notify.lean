import Hcom4db.Base.Runs
import Hcom4db.RunCallback

/-!
# Hcom4db.Notify

Runs of submissions and completions in any order, and how often each `done` is called.

A run keeps, beside the state of the library, a list of all submissions with the calls their callbacks
made to the user, and the callbacks the transport owes, each with the number of its submission.

* `Inv`: every callback that is owed has its record, no two of them share a heap object, and every
  submission that is not owed is settled.
* `notified_exactly_once`: in a run whose completions are all ones the operations expect, a submission
  that returned `OCK_RPC_OK` notifies its `done` once, and no other call is made.
-/

namespace Hcom4db

namespace Notify

open Outstanding Runs

structure Sub where
  op : AsyncOp
  done : Option OckRpcCallDone
  ret : Int
  /-- The user's callbacks that the callback of this submission has called. -/
  calls : List (Addr × Addr × OckRpcStatus)

structure Sys where
  w : World
  subs : List Sub := []
  /-- The callbacks the transport owes, with the number of the submission. -/
  owed : List (Nat × ChannelCallback) := []

inductive Label where
  | submit (op : AsyncOp) (done : Option OckRpcCallDone) (e : SubmitEnv)
  | complete (k : Nat) (c : Completion)
  /-- A step of another part of the library or of the caller. -/
  | other (f : World → World)

def step (s : Sys) : Label → Sys
  | .submit op done e =>
    let r := op.submit s.w done e
    { w := r.1
      subs := s.subs ++ [⟨op, done, r.2, userCalls (s.w.since r.1)⟩]
      owed := s.owed ++ (r.1.inflight.drop s.w.inflight.length).map fun cb => (s.subs.length, cb) }
  | .complete k c =>
    match s.owed[k]? with
    | none => s
    | some (n, cb) =>
      let w := dequeue s.w k
      { w := runCallback w cb c
        subs := s.subs.modify n fun sub =>
          { sub with calls := userCalls (w.since (runCallback w cb c)) ++ sub.calls }
        owed := s.owed.eraseIdx k }
  | .other f => { s with w := f s.w }

/-- What `malloc` guarantees, and what the other steps leave alone. -/
def Contract (s : Sys) : Label → Prop
  | .submit _ _ e => s.w.FreshPtr e.malloc ∧ s.w.FreshPtr e.mallocReqAddr ∧
      (e.malloc ≠ 0 → e.malloc ≠ e.mallocReqAddr)
  | .complete _ _ => True
  | .other f => Quiet s.w (f s.w)

/-- The `done` of a submission; a null one counts as one with a null callback. -/
def Sub.target (sub : Sub) : OckRpcCallDone := sub.done.getD ⟨0, 0⟩

/-- The completion of this step is one its operation expects. -/
def Expected (s : Sys) : Label → Prop
  | .submit op done e => ∀ c ∈ e.early, op.CompletionOk (done.getD ⟨0, 0⟩) c
  | .complete k c => ∀ n cb sub, s.owed[k]? = some (n, cb) → s.subs[n]? = some sub →
      sub.op.CompletionOk sub.target c
  | .other _ => True

/-- The calls of a submission whose callback has run, or which has none to run. -/
def Sub.Settled (sub : Sub) : Prop :=
  if sub.ret = ockRpcOk ∧ sub.target.cb ≠ 0 then
    ∃ st, sub.calls = [(sub.target.cb, sub.target.arg, st)]
  else sub.calls = []

structure Inv (s : Sys) : Prop where
  inflight : s.w.inflight = s.owed.map Prod.snd
  nodup : (s.owed.map Prod.fst).Nodup
  live : ∀ o ∈ s.owed, ∃ sub info, s.subs[o.1]? = some sub ∧ sub.ret = ockRpcOk ∧ sub.calls = [] ∧
    sub.op.Live sub.target s.w o.2 info
  apart : s.owed.Pairwise fun o o' => List.Disjoint (ownedBy s.w o.2) (ownedBy s.w o'.2)
  settled : ∀ n sub, s.subs[n]? = some sub → n ∉ s.owed.map Prod.fst → sub.Settled

/-! ## What is owed -/

/-- The submission of a callback that is owed has called nobody, and its record is there. -/
def Live (subs : List Sub) (w : World) (o : Nat × ChannelCallback) : Prop :=
  ∃ sub info, subs[o.1]? = some sub ∧ sub.ret = ockRpcOk ∧ sub.calls = [] ∧
    sub.op.Live sub.target w o.2 info

theorem onOwned (subs : List Sub) : OnOwned Prod.snd (Live subs) := by
  constructor
  · rintro w o ⟨sub, info, -, -, -, L⟩
    exact ⟨info, L.toOwns⟩
  · rintro w w' o ⟨sub, info, h1, h2, h3, L⟩ hag
    exact ⟨sub, info, h1, h2, h3, L.agree hag⟩

/-! ## One step -/

section Step

variable {s : Sys}

theorem Inv.owedHeap (I : Inv s) : OwedHeap Prod.snd (Live s.subs) s.w s.owed :=
  ⟨I.inflight, I.live, I.apart⟩

theorem Inv.lt (I : Inv s) : ∀ o ∈ s.owed, o.1 < s.subs.length := by
  intro o ho
  obtain ⟨sub', info, h, -⟩ := I.live o ho
  exact (List.getElem?_eq_some_iff.mp h).1

/-- A further submission leaves the old ones where they are. -/
theorem Inv.owedHeap_concat (I : Inv s) (sub : Sub) :
    OwedHeap Prod.snd (Live (s.subs ++ [sub])) s.w s.owed := by
  refine ⟨I.inflight, fun o ho => ?_, I.apart⟩
  obtain ⟨sub', info, h1, h2, h3, L⟩ := I.live o ho
  refine ⟨sub', info, ?_, h2, h3, L⟩
  rw [List.getElem?_append_left (I.lt o ho)]
  exact h1

/-- A submission that owes nothing when it returns, in a state that agrees on what is owed. -/
theorem inv_extend (I : Inv s) {w' : World} (hin : w'.inflight = s.w.inflight)
    (hag : ∀ o ∈ s.owed, Agree (ownedBy s.w o.2) s.w w') {sub : Sub} (hsub : sub.Settled) :
    Inv { s with w := w', subs := s.subs ++ [sub] } := by
  have h := (I.owedHeap_concat sub).keep (onOwned _) hin hag
  refine ⟨h.inflight, I.nodup, h.live, h.apart, ?_⟩
  intro n sub' hn hnot
  rcases getElem?_concat_cases hn with h | ⟨-, rfl⟩
  · exact I.settled n sub' h hnot
  · exact hsub

/-- A submission whose callback is owed when it returns. -/
theorem inv_queue (I : Inv s) {op : AsyncOp} {done : Option OckRpcCallDone} {e : SubmitEnv}
    {w1 : World} {info : AsyncCbInfo} (H : Handed s.w w1 e info)
    (hr : op.Records (done.getD ⟨0, 0⟩) info) (hc : Contract s (.submit op done e)) :
    Inv { w := { w1 with inflight := w1.inflight ++ [⟨op.callback, e.malloc⟩] }
          subs := s.subs ++ [⟨op, done, ockRpcOk, []⟩]
          owed := s.owed ++ [(s.subs.length, ⟨op.callback, e.malloc⟩)] } := by
  obtain ⟨hf, hf', hpq⟩ := hc
  have hnew : Live (s.subs ++ [⟨op, done, ockRpcOk, []⟩]) w1
      (s.subs.length, ⟨op.callback, e.malloc⟩) :=
    ⟨_, info, getElem?_concat_last _ _, rfl, rfl, H.owns hpq _, rfl, hr⟩
  have h := (I.owedHeap_concat ⟨op, done, ockRpcOk, []⟩).push (onOwned _) H hf hf' rfl hnew
  refine ⟨h.inflight, ?_, h.live, h.apart, ?_⟩
  · rw [List.map_append]
    refine nodup_concat I.nodup fun k hk => ?_
    obtain ⟨o, ho, rfl⟩ := List.mem_map.mp hk
    exact I.lt o ho
  · intro n sub' hn hnot
    simp only [List.map_append, List.mem_append, not_or] at hnot
    rcases getElem?_concat_cases hn with h | ⟨rfl, -⟩
    · exact I.settled n sub' h hnot.1
    · exact absurd (by simp) hnot.2

theorem inv_submit (I : Inv s) {op : AsyncOp} {done : Option OckRpcCallDone} {e : SubmitEnv}
    (hc : Contract s (.submit op done e)) (hx : Expected s (.submit op done e)) :
    Inv (step s (.submit op done e)) := by
  obtain ⟨hf, hf', hpq⟩ := hc
  rcases hr : op.submit s.w done e with ⟨w', st⟩
  simp only [step, hr]
  by_cases hq : st ≠ ockRpcOk ∨ (done = none ∧ op.isReply = false)
  · -- nothing was handed over
    have Q := AsyncOp.submit_quiet hf hf' hr hq
    rw [Q.inflight, List.drop_length, Q.userCalls, List.map_nil, List.append_nil]
    refine inv_extend I Q.inflight
      (fun o _ => fun x _ => ⟨congrFun Q.cbInfos x, congrFun Q.reqAddrs x⟩) ?_
    rw [Sub.Settled, if_neg]
    rintro ⟨hst, hcb⟩
    obtain ⟨rfl, -⟩ := hq.resolve_left (not_not.mpr hst)
    exact hcb rfl
  · have hst : st = ockRpcOk := by
      by_contra hst
      exact hq (.inl hst)
    subst hst
    have hsome : done.isSome ∨ op.isReply = true := by
      cases done with
      | some d => exact .inl rfl
      | none =>
        refine .inr ?_
        by_contra hrep
        exact hq (.inr ⟨rfl, by simpa using hrep⟩)
    obtain ⟨w1, info, hw, H, hrec⟩ := AsyncOp.submit_ok hsome hr
    obtain ⟨evs, he, hu⟩ := H.trace
    cases hearly : e.early with
    | none =>
      have h1 : w' = { w1 with inflight := w1.inflight ++ [⟨op.callback, e.malloc⟩] } := by
        rw [hw, World.handOver, hearly]
      have ht : w'.trace = evs ++ s.w.trace := by
        rw [h1]
        exact he
      have h2 : userCalls (s.w.since w') = [] := by rw [World.since_of_trace ht, hu]
      have h3 : w'.inflight.drop s.w.inflight.length = [⟨op.callback, e.malloc⟩] := by
        rw [h1]
        exact H.drop_queued _
      rw [h2, h3, h1]
      exact inv_queue I H hrec ⟨hf, hf', hpq⟩
    | some c =>
      -- the callback has run inside the primitive
      have h1 : w' = runCallback w1 ⟨op.callback, e.malloc⟩ c := by rw [hw, World.handOver, hearly]
      have hL : op.Live (done.getD ⟨0, 0⟩) w1 ⟨op.callback, e.malloc⟩ info :=
        ⟨H.owns hpq _, rfl, hrec⟩
      have hcalls := runCallback_calls hL (hx c hearly)
      have hfr := runCallback_frees w1 ⟨op.callback, e.malloc⟩ c
      obtain ⟨evs', he'⟩ := hfr.trace
      have hin : w'.inflight = s.w.inflight := by rw [h1, hfr.inflight, H.inflight]
      have h2 : userCalls (s.w.since w') = userCalls (w1.since w') := by
        rw [h1, World.since_append he he', World.since_of_trace he', userCalls_append, hu,
          List.append_nil]
      rw [hin, List.drop_length, List.map_nil, List.append_nil, h2]
      refine inv_extend I hin ?_ ?_
      · rw [h1]
        exact I.owedHeap.agree_early (onOwned _) H hf hf' hfr
      · rw [h1, hcalls, Sub.Settled]
        simp only [Sub.target, true_and]
        by_cases hcb : (done.getD ⟨0, 0⟩).cb = 0
        · rw [if_neg (not_not.mpr hcb), if_pos hcb]
        · rw [if_pos hcb, if_neg hcb]
          exact ⟨_, rfl⟩

theorem inv_complete (I : Inv s) {k : Nat} {c : Completion} (hx : Expected s (.complete k c)) :
    Inv (step s (.complete k c)) := by
  simp only [step]
  cases hk : s.owed[k]? with
  | none => exact I
  | some o =>
    obtain ⟨n, cb⟩ := o
    simp only
    have ho : (n, cb) ∈ s.owed := List.mem_of_getElem? hk
    obtain ⟨sub, info, hsub, hret, hnocalls, L⟩ := I.live _ ho
    have L0 : sub.op.Live sub.target (dequeue s.w k) cb info :=
      ⟨⟨L.record, L.array⟩, L.callback, L.records⟩
    have hcalls := runCallback_calls L0 (hx n cb sub hk hsub)
    have hfr := runCallback_frees (dequeue s.w k) cb c
    -- what stays owed shares no heap object with this callback
    have h := I.owedHeap.remove (onOwned _) hk hfr
    refine ⟨h.inflight, ?_, ?_, h.apart, ?_⟩
    · rw [← List.eraseIdx_map]
      exact I.nodup.sublist (List.eraseIdx_sublist _ _)
    · intro o' ho'
      obtain ⟨sub', info', h1, h2, h3, L'⟩ := h.live o' ho'
      have hne : o'.1 ≠ n := key_ne_of_mem_eraseIdx I.nodup hk ho'
      refine ⟨sub', info', ?_, h2, h3, L'⟩
      simp only
      rw [List.getElem?_modify_ne _ _ hne.symm]
      exact h1
    · intro m sub' hm hnot
      simp only at hm hnot
      by_cases hmn : m = n
      · subst hmn
        rw [List.getElem?_modify_eq, hsub] at hm
        simp only [Option.map_eq_map, Option.map_some, Option.some.injEq] at hm
        subst hm
        simp only [Sub.Settled, Sub.target, hcalls, hnocalls, List.append_nil, hret, true_and]
        by_cases hcb : (sub.done.getD ⟨0, 0⟩).cb = 0
        · simp [hcb]
        · simp [hcb]
      · rw [List.getElem?_modify_ne _ _ (Ne.symm hmn)] at hm
        exact I.settled m sub' hm fun hmem => hnot (mem_keys_eraseIdx hk hmem hmn)

theorem inv_other (I : Inv s) {f : World → World} (hc : Contract s (.other f)) :
    Inv (step s (.other f)) := by
  have Q : Quiet s.w (f s.w) := hc
  have hag : ∀ cb, Agree (ownedBy s.w cb) s.w (f s.w) := fun cb x _ =>
    ⟨congrFun Q.cbInfos x, congrFun Q.reqAddrs x⟩
  have h := I.owedHeap.keep (onOwned _) Q.inflight fun o _ => hag o.2
  exact ⟨h.inflight, I.nodup, h.live, h.apart, I.settled⟩

theorem inv_step (I : Inv s) {l : Label} (hc : Contract s l) (hx : Expected s l) :
    Inv (step s l) := by
  cases l with
  | submit op done e => exact inv_submit I hc hx
  | complete k c => exact inv_complete I hx
  | other f => exact inv_other I hc

end Step

theorem inv_init {w : World} (h : w.inflight = []) : Inv { w := w } := by
  refine ⟨h, List.nodup_nil, ?_, List.Pairwise.nil, ?_⟩
  · intro o ho
    cases ho
  · intro n sub hn
    simp at hn

/-- **Completion is notified exactly once** in every run in which each completion is one its operation
expects: an operation that returned an error has made no call, nor has one whose callback is still
owed; every other has called a `done->cb` that is not null once, with `done->arg`, and a null one
never. -/
theorem notified_exactly_once {w : World} {s : Sys} (h0 : w.inflight = [])
    (hrun : Reached (fun s l => Contract s l ∧ Expected s l) step { w := w } s) {n : Nat} {sub : Sub}
    (hn : s.subs[n]? = some sub) :
    (sub.ret ≠ ockRpcOk → sub.calls = []) ∧
      (n ∈ s.owed.map Prod.fst → sub.calls = []) ∧
      ∀ done, sub.done = some done → sub.ret = ockRpcOk →
        (done.cb = 0 → sub.calls = []) ∧
        (n ∉ s.owed.map Prod.fst → done.cb ≠ 0 → ∃ st, sub.calls = [(done.cb, done.arg, st)]) := by
  have I : Inv s := hrun.invariant (inv_init h0) fun s l I hl => inv_step I hl.1 hl.2
  have howed : n ∈ s.owed.map Prod.fst → sub.ret = ockRpcOk ∧ sub.calls = [] := by
    intro hmem
    obtain ⟨o, ho, rfl⟩ := List.mem_map.mp hmem
    obtain ⟨sub', info, h1, h2, h3, -⟩ := I.live o ho
    rw [hn] at h1
    cases h1
    exact ⟨h2, h3⟩
  refine ⟨fun hret => ?_, fun hmem => (howed hmem).2, fun done hd hret => ⟨fun hcb => ?_,
    fun hnot hcb => ?_⟩⟩
  · have hset := I.settled n sub hn fun hmem => hret (howed hmem).1
    rw [Sub.Settled, if_neg fun h => hret h.1] at hset
    exact hset
  · by_cases hmem : n ∈ s.owed.map Prod.fst
    · exact (howed hmem).2
    · have hset := I.settled n sub hn hmem
      rw [Sub.Settled, if_neg fun h => h.2 (by rw [Sub.target, hd]; exact hcb)] at hset
      exact hset
  · have hset := I.settled n sub hn hnot
    have htarget : sub.target = done := by rw [Sub.target, hd]; rfl
    rw [Sub.Settled, htarget, if_pos ⟨hret, hcb⟩] at hset
    exact hset

/-- A read that is accepted, and its completion `c`. -/
def readRun (c : Completion) : List Label :=
  [.submit (.read 1 (some {})) (some ⟨11, 12⟩) { malloc := 900 }, .complete 0 c]

theorem readRun_contract (c : Completion) :
    AllOk Contract step { w := {} } (readRun c) :=
  ⟨⟨fun _ => ⟨rfl, rfl⟩, fun _ => ⟨rfl, rfl⟩, fun _ => by decide⟩, trivial, trivial⟩

/-- A read whose completion reports a one-sided context. -/
theorem notified_exactly_once_read : ∃ (s : Sys) (sub : Sub),
    s = (readRun { ctxType := some .oneSide }).foldl step { w := {} } ∧ s.subs[0]? = some sub ∧
      ∃ st, sub.calls = [(11, 12, st)] := by
  have hrun : Reached (fun s l => Contract s l ∧ Expected s l) step { w := {} }
      ((readRun { ctxType := some .oneSide }).foldl step { w := {} }) := by
    obtain ⟨h1, h2, -⟩ := readRun_contract { ctxType := some .oneSide }
    refine Reached.refl.extend ⟨⟨h1, ?_⟩, ⟨h2, ?_⟩, trivial⟩
    · intro c hc
      cases hc
    · intro n cb sub hk hn
      cases hk
      cases hn
      exact .inr ⟨fun _ => by decide, fun h => absurd h (by decide), fun _ _ => rfl⟩
  exact ⟨_, _, rfl, rfl, ((@notified_exactly_once {} _ rfl hrun 0 _ rfl).2.2 ⟨11, 12⟩ rfl rfl).2
    (by decide) (by decide)⟩

/-- `Service_GetResult` fails in the completion of an accepted read: its `done` is never called. -/
theorem notification_lost : ∃ (s : Sys) (sub : Sub) (done : OckRpcCallDone),
    Reached Contract step { w := {} } s ∧ s.subs[0]? = some sub ∧ sub.done = some done ∧
      done.cb ≠ 0 ∧ sub.ret = ockRpcOk ∧ s.owed = [] ∧ sub.calls = [] :=
  ⟨(readRun { getResultRet := 1, ctxType := some .oneSide }).foldl step { w := {} }, _, ⟨11, 12⟩,
    Reached.refl.extend (readRun_contract _), rfl, rfl, by decide, rfl, rfl, rfl⟩

end Notify

end Hcom4db
