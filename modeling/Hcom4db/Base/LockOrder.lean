import Mathlib.Data.List.Perm.Basic
import Mathlib.Logic.Hydra
import Hcom4db.Base.Locks

/-!
# Hcom4db.Base.LockOrder

When threads that take and release locks come to an end.

* `wpOn may c Q held`: started with the locks `held`, the code takes a lock only where `may` allows it, and
  ends with locks of which `Q` holds. With `Climbs` a lock is taken only above all that are held, with
  `Avoids` only outside a set and the locks of the thread itself.
* `Finishes`: whichever thread goes on, all of them come to their end.
* `finishes_of_climbs`: threads that climb along one order of the locks finish.
* `solo_apart`: a thread whose code avoids what the others hold comes to the end of it.
* `crossWait_forever`: two threads that wait for each other never go on.
-/

namespace Locks

open Runs

variable {L S : Type}

/-! ## Where locks are taken -/

section Rules

variable [DecidableEq L]

def wpOn (may : Held L → L → Prop) : Code L S → (Held L → Prop) → Held L → Prop
  | .done, Q, held => Q held
  | .acquire l m rest, Q, held => may held l ∧ wpOn may rest Q ((l, m) :: held)
  | .release l rest, Q, held => wpOn may rest Q (held.release l)
  | .act _ rest, Q, held => ∀ s, wpOn may (rest s) Q held

/-- Every lock that is held ranks below `l`. -/
def Climbs (rank : L → Nat) (held : Held L) (l : L) : Prop := ∀ h ∈ held, rank h.1 < rank l

/-- Neither the thread holds `l` nor is it in `busy`. -/
def Avoids (busy : Set L) (held : Held L) (l : L) : Prop := (∀ m, (l, m) ∉ held) ∧ l ∉ busy

variable {may : Held L → L → Prop} {c d : Code L S} {Q R : Held L → Prop} {held : Held L}

theorem wpOn_mono (hQR : ∀ held, Q held → R held) (h : wpOn may c Q held) : wpOn may c R held := by
  induction c generalizing held with
  | done => exact hQR held h
  | acquire l m rest ih => exact ⟨h.1, ih h.2⟩
  | release l rest ih => exact ih h
  | act f rest ih => exact fun s => ih s (h s)

theorem wpOn_seq (h : wpOn may c (wpOn may d Q) held) : wpOn may (c.seq d) Q held := by
  induction c generalizing held with
  | done => exact h
  | acquire l m rest ih => exact ⟨h.1, ih h.2⟩
  | release l rest ih => exact ih h
  | act f rest ih => exact fun s => ih s (h s)

/-- Codes that each leave the locks as they were do so together. -/
theorem wpOn_seqAll {cs : List (Code L S)} (h : ∀ c ∈ cs, wpOn may c (· = held) held) :
    wpOn may (Code.seqAll cs) (· = held) held := by
  induction cs with
  | nil => rfl
  | cons c cs ih =>
    refine wpOn_seq (wpOn_mono ?_ (h c List.mem_cons_self))
    rintro _ rfl
    exact ih fun d hd => h d (List.mem_cons_of_mem _ hd)

theorem wpOn_locked {l : L} {m : Mode} (hl : may held l)
    (h : wpOn may c (· = (l, m) :: held) ((l, m) :: held)) :
    wpOn may (c.locked l m) (· = held) held := by
  refine ⟨hl, wpOn_seq (wpOn_mono ?_ h)⟩
  rintro _ rfl
  simp [wpOn]

theorem wpOn_next {t : Thread L S} (h : wpOn may t.code Q t.held) (x : S) :
    wpOn may (t.next x).2.code Q (t.next x).2.held := by
  obtain ⟨code, held⟩ := t
  cases code with
  | done => exact h
  | acquire l m rest => exact h.2
  | release l rest => exact h
  | act f rest => exact h x

end Rules

/-! ## Beside threads that hold locks -/

section Others

variable {busy : Set L} {held : Held L} {threads : List (Thread L S)} {i : Nat}

/-- The other threads hold locks of `busy` only. -/
def HoldOnly (busy : Set L) (threads : List (Thread L S)) (i : Nat) : Prop :=
  ∀ j t, j ≠ i → threads[j]? = some t → ∀ h ∈ t.held, h.1 ∈ busy

theorem HoldOnly.set (h : HoldOnly busy threads i) (u : Thread L S) :
    HoldOnly busy (threads.set i u) i := by
  intro j t hj ht
  rw [List.getElem?_set_ne hj.symm] at ht
  exact h j t hj ht

/-- A lock that the thread avoids the others' locks with is granted to it. -/
theorem enabled_of_avoids {x : S} {l : L} {m : Mode} {rest : Code L S}
    (hi : threads[i]? = some ⟨.acquire l m rest, held⟩) (hothers : HoldOnly busy threads i)
    (h : Avoids busy held l) : Enabled ⟨x, threads⟩ i := by
  intro t ht l' m' rest' hc
  cases hi.symm.trans ht
  cases hc
  intro u hu m'' hm
  obtain ⟨j, hj⟩ := List.getElem?_of_mem hu
  by_cases hij : j = i
  · subst hij
    cases hi.symm.trans hj
    exact absurd hm (h.1 m'')
  · exact absurd (hothers j u hij hj _ hm) h.2

/-- A thread that is not at an acquire can go on. -/
theorem enabled_of_no_acquire {x : S} {c : Code L S} (hi : threads[i]? = some ⟨c, held⟩)
    (hc : ∀ l m rest, c ≠ .acquire l m rest) : Enabled ⟨x, threads⟩ i := by
  intro t ht l m rest hcode
  cases hi.symm.trans ht
  exact absurd hcode (hc l m rest)

end Others

/-! ## Coming to an end -/

/-- The thread has come to its end. -/
def Thread.Done (t : Thread L S) : Prop := t.code = .done

/-- Thread `i` has something left to do and can go on. -/
def Moves (s : Sys L S) (i : Nat) : Prop := Enabled s i ∧ ∃ t, s.threads[i]? = some t ∧ ¬ t.Done

/-- What is left after the next step. -/
inductive Rest : Code L S → Code L S → Prop where
  | acquire (l : L) (m : Mode) (rest : Code L S) : Rest rest (.acquire l m rest)
  | release (l : L) (rest : Code L S) : Rest rest (.release l rest)
  | act (f : S → S) (rest : S → Code L S) (s : S) : Rest (rest s) (.act f rest)

theorem wellFounded_rest : WellFounded (@Rest L S) := by
  refine ⟨fun c => ?_⟩
  induction c with
  | done => exact ⟨_, fun d hd => by cases hd⟩
  | acquire l m rest ih =>
    refine ⟨_, fun d hd => ?_⟩
    cases hd
    exact ih
  | release l rest ih =>
    refine ⟨_, fun d hd => ?_⟩
    cases hd
    exact ih
  | act f rest ih =>
    refine ⟨_, fun d hd => ?_⟩
    cases hd with
    | act _ _ s => exact ih s

variable [DecidableEq L]

theorem rest_next {t : Thread L S} (h : ¬ t.Done) (x : S) : Rest (t.next x).2.code t.code := by
  obtain ⟨code, held⟩ := t
  cases code with
  | done => exact absurd rfl h
  | acquire l m rest => exact .acquire l m rest
  | release l rest => exact .release l rest
  | act f rest => exact .act f rest x

/-- Whichever thread goes on, all of them come to their end: some thread can go on until all are done, and
that does not take forever. -/
inductive Finishes : Sys L S → Prop where
  | intro {s : Sys L S} (go : (∀ t ∈ s.threads, t.Done) ∨ ∃ i, Moves s i)
      (next : ∀ i, Moves s i → Finishes (step s i)) : Finishes s

section Finishes

variable {s s' : Sys L S} {i : Nat}

theorem step_of_done {t : Thread L S} (hi : s.threads[i]? = some t) (h : t.Done) : step s i = s := by
  obtain ⟨code, held⟩ := t
  obtain rfl : code = .done := h
  simp only [step, hi, Thread.next]
  rw [set_of_getElem? hi]

theorem Finishes.reached (h : Finishes s) (hrun : Reached Enabled step s s') : Finishes s' := by
  induction hrun with
  | refl => exact h
  | @tail s1 i hrun hen ih =>
    cases hi : s1.threads[i]? with
    | none =>
      have hstep : step s1 i = s1 := by rw [step, hi]
      rw [hstep]
      exact ih
    | some t =>
      by_cases hd : t.Done
      · rw [step_of_done hi hd]
        exact ih
      · cases ih with
        | intro _ next => exact next i ⟨hen, t, hi, hd⟩

/-- Threads that finish can be run to their end. -/
theorem Finishes.ends (h : Finishes s) : ∃ s', Reached Enabled step s s' ∧ ∀ t ∈ s'.threads, t.Done := by
  induction h with
  | @intro s go _ ih =>
    rcases go with hdone | ⟨i, hi⟩
    · exact ⟨s, .refl, hdone⟩
    · obtain ⟨s', hrun, hdone⟩ := ih i hi
      exact ⟨s', .head hi.1 hrun, hdone⟩

/-- A thread that never goes on keeps the others from finishing. -/
theorem not_finishes_of_stuck {t : Thread L S} (ht : ¬ t.Done)
    (hstuck : ∀ s', Reached Enabled step s s' → s'.threads[i]? = some t) : ¬ Finishes s := by
  intro h
  obtain ⟨s', hrun, hdone⟩ := h.ends
  exact ht (hdone t (List.mem_of_getElem? (hstuck s' hrun)))

/-- The codes that are left. -/
def codes (s : Sys L S) : Multiset (Code L S) := ((s.threads.map Thread.code : List _) : Multiset _)

/-- A step takes one code to a smaller one. -/
theorem cutExpand_step (h : Moves s i) : Relation.CutExpand Rest (codes (step s i)) (codes s) := by
  obtain ⟨-, t, hi, hd⟩ := h
  obtain ⟨hlt, rfl⟩ := List.getElem?_eq_some_iff.mp hi
  refine ⟨{((s.threads[i]).next s.state).2.code}, (s.threads[i]).code, ?_, ?_⟩
  · intro c hc
    rw [Multiset.mem_singleton.mp hc]
    exact rest_next hd s.state
  · have h1 : (step s i).threads = s.threads.set i ((s.threads[i]).next s.state).2 := by
      simp only [step, hi]
    have h2 := (List.set_perm_cons_eraseIdx hlt ((s.threads[i]).next s.state).2).map Thread.code
    have h3 := (List.getElem_cons_eraseIdx_perm hlt).map Thread.code
    rw [codes, codes, h1, Multiset.coe_eq_coe.mpr h2, ← Multiset.coe_eq_coe.mpr h3]
    simp only [List.map_cons, ← Multiset.cons_coe, ← Multiset.singleton_add]
    ac_rfl

/-- Threads of which one can always go on finish: no code goes on forever. -/
theorem finishes_of_progress {I : Sys L S → Prop} (h0 : I s)
    (hgo : ∀ s, I s → (∀ t ∈ s.threads, t.Done) ∨ ∃ i, Moves s i)
    (hstep : ∀ s i, I s → Moves s i → I (step s i)) : Finishes s := by
  have hwf : WellFounded fun s' s : Sys L S => Relation.CutExpand Rest (codes s') (codes s) :=
    InvImage.wf codes (WellFounded.cutExpand wellFounded_rest)
  induction s using hwf.induction with
  | _ s ih => exact .intro (hgo s h0) fun i hi => ih _ (cutExpand_step hi) (hstep s i h0 hi)

end Finishes

/-! ## An order of the locks -/

section Order

variable {rank : L → Nat} {s : Sys L S}

/-- Every thread climbs, and holds nothing at its end. -/
def AllClimb (rank : L → Nat) (s : Sys L S) : Prop :=
  ∀ t ∈ s.threads, wpOn (Climbs rank) t.code (· = []) t.held

/-- The rank of the lock a thread is at. -/
def wanted (rank : L → Nat) (t : Thread L S) : Nat :=
  match t.code with
  | .acquire l _ _ => rank l
  | _ => 0

/-- If no thread can go on, one that is not done waits for a thread that waits for a higher lock. -/
theorem blocked_by_higher (h : AllClimb rank s) (hno : ∀ i, ¬ Moves s i) {t : Thread L S}
    (ht : t ∈ s.threads) (hd : ¬ t.Done) :
    ∃ u ∈ s.threads, ¬ u.Done ∧ wanted rank t < wanted rank u := by
  obtain ⟨i, hi⟩ := List.getElem?_of_mem ht
  have hen : ¬ Enabled s i := fun hen => hno i ⟨hen, t, hi, hd⟩
  simp only [Enabled, not_forall] at hen
  obtain ⟨t', ht', l, m, rest, hcode, hgrant⟩ := hen
  obtain rfl : t = t' := Option.some.inj (hi.symm.trans ht')
  simp only [Grantable, not_forall] at hgrant
  obtain ⟨u, hu, m', hm', -⟩ := hgrant
  -- the holder is not done, since it holds something
  have hud : ¬ u.Done := by
    intro hdone
    have hc := h u hu
    rw [show u.code = .done from hdone] at hc
    rw [show u.held = [] from hc] at hm'
    cases hm'
  obtain ⟨j, hj⟩ := List.getElem?_of_mem hu
  have hen' : ¬ Enabled s j := fun hen => hno j ⟨hen, u, hj, hud⟩
  simp only [Enabled, not_forall] at hen'
  obtain ⟨u', hu', l', m'', rest', hcode', -⟩ := hen'
  obtain rfl : u = u' := Option.some.inj (hj.symm.trans hu')
  refine ⟨u, hu, hud, ?_⟩
  have hc := h u hu
  rw [hcode'] at hc
  rw [wanted, wanted, hcode, hcode']
  exact hc.1 _ hm'

/-- **Threads that climb do not block one another.** -/
theorem moves_of_climbs (h : AllClimb rank s) : (∀ t ∈ s.threads, t.Done) ∨ ∃ i, Moves s i := by
  by_contra hcon
  rw [not_or, not_exists] at hcon
  obtain ⟨hnot, hno⟩ := hcon
  simp only [not_forall] at hnot
  obtain ⟨t, ht, hd⟩ := hnot
  -- a thread that is not done, at a lock of any rank
  have hunbounded : ∀ n, ∃ t ∈ s.threads, ¬ t.Done ∧ n ≤ wanted rank t := by
    intro n
    induction n with
    | zero => exact ⟨t, ht, hd, Nat.zero_le _⟩
    | succ n ih =>
      obtain ⟨t, ht, hd, hn⟩ := ih
      obtain ⟨u, hu, hud, hlt⟩ := blocked_by_higher h hno ht hd
      exact ⟨u, hu, hud, by omega⟩
  obtain ⟨u, hu, -, hn⟩ := hunbounded ((s.threads.map (wanted rank)).sum + 1)
  have := List.le_sum_of_mem (List.mem_map_of_mem (f := wanted rank) hu)
  omega

theorem allClimb_step (h : AllClimb rank s) (i : Nat) : AllClimb rank (step s i) := by
  unfold step
  cases hi : s.threads[i]? with
  | none => exact h
  | some t =>
    intro u hu
    rcases List.mem_or_eq_of_mem_set hu with hold | rfl
    · exact h u hold
    · exact wpOn_next (h t (List.mem_of_getElem? hi)) s.state

/-- **Threads that climb along one order of the locks finish.** -/
theorem finishes_of_climbs (h : AllClimb rank s) : Finishes s :=
  finishes_of_progress h (fun _ => moves_of_climbs) fun _ i h _ => allClimb_step h i

end Order

/-! ## Going on beside the others -/

section Apart

variable {busy : Set L} {Q : Held L → Prop} {held : Held L} {threads : List (Thread L S)} {i : Nat}

/-- A thread whose code avoids the locks the others hold comes to the end of it. -/
theorem solo_apart {c : Code L S} (h : wpOn (Avoids busy) c Q held) (x : S) {k : Code L S}
    (hi : threads[i]? = some ⟨c.seq k, held⟩) (hothers : HoldOnly busy threads i) :
    ∃ held', Q held' ∧ Reached Enabled step ⟨x, threads⟩ ⟨c.run x, threads.set i ⟨k, held'⟩⟩ := by
  induction c generalizing x held threads with
  | done =>
    have hset : threads.set i ⟨k, held⟩ = threads := set_of_getElem? hi
    refine ⟨held, h, ?_⟩
    rw [hset]
    exact .refl
  | acquire l m rest ih =>
    have hstep : step ⟨x, threads⟩ i = ⟨x, threads.set i ⟨rest.seq k, (l, m) :: held⟩⟩ := by
      simp only [step, hi, Thread.next, Code.seq]
    obtain ⟨held', hQ, hrun⟩ := ih h.2 x (getElem?_set_of_getElem? hi _) (hothers.set _)
    rw [List.set_set, ← hstep] at hrun
    exact ⟨held', hQ, .head (enabled_of_avoids hi hothers h.1) hrun⟩
  | release l rest ih =>
    have hstep : step ⟨x, threads⟩ i = ⟨x, threads.set i ⟨rest.seq k, held.release l⟩⟩ := by
      simp only [step, hi, Thread.next, Code.seq]
    obtain ⟨held', hQ, hrun⟩ := ih h x (getElem?_set_of_getElem? hi _) (hothers.set _)
    rw [List.set_set, ← hstep] at hrun
    exact ⟨held', hQ, .head (enabled_of_no_acquire hi (by simp [Code.seq])) hrun⟩
  | act f rest ih =>
    have hstep : step ⟨x, threads⟩ i = ⟨f x, threads.set i ⟨(rest x).seq k, held⟩⟩ := by
      simp only [step, hi, Thread.next, Code.seq]
    obtain ⟨held', hQ, hrun⟩ := ih x (h x) (f x) (getElem?_set_of_getElem? hi _) (hothers.set _)
    rw [List.set_set, ← hstep] at hrun
    exact ⟨held', hQ, .head (enabled_of_no_acquire hi (by simp [Code.seq])) hrun⟩

/-- A thread enters a section and comes to what the first step in it decides. -/
theorem enter_apart {f : S → S} {g : S → Code L S} {l : L} {m : Mode} {x : S}
    (hi : threads[i]? = some ⟨(Code.act f g).locked l m, held⟩) (hothers : HoldOnly busy threads i)
    (h : Avoids busy held l) :
    Reached Enabled step ⟨x, threads⟩
      ⟨f x, threads.set i ⟨(g x).seq (.release l .done), (l, m) :: held⟩⟩ := by
  have hacquire : step ⟨x, threads⟩ i =
      ⟨x, threads.set i ⟨.act f fun s => (g s).seq (.release l .done), (l, m) :: held⟩⟩ := by
    simp only [step, hi, Thread.next, Code.locked, Code.seq]
  have hact : step (step ⟨x, threads⟩ i) i =
      ⟨f x, threads.set i ⟨(g x).seq (.release l .done), (l, m) :: held⟩⟩ := by
    rw [hacquire]
    simp only [step, getElem?_set_of_getElem? hi, Thread.next, List.set_set]
  rw [← hact]
  refine (Reached.refl.tail (enabled_of_avoids hi hothers h)).tail ?_
  rw [hacquire]
  exact enabled_of_no_acquire (getElem?_set_of_getElem? hi _) (by simp)

end Apart

/-- **Two threads that wait for each other** never go on. -/
theorem crossWait_forever {s s' : Sys L S} {i j : Nat} {t u : Thread L S} {l l' : L} {m m' : Mode}
    {rest rest' : Code L S} (hi : s.threads[i]? = some t) (hj : s.threads[j]? = some u)
    (ht : t.code = .acquire l .exclusive rest) (hu : u.code = .acquire l' .exclusive rest')
    (htheld : (l', m') ∈ t.held) (huheld : (l, m) ∈ u.held) (hrun : Reached Enabled step s s') :
    s'.threads[i]? = some t ∧ s'.threads[j]? = some u := by
  refine @Reached.invariant _ _ _ _ s s'
    (fun x : Sys L S => x.threads[i]? = some t ∧ x.threads[j]? = some u) ⟨hi, hj⟩ ?_ hrun
  rintro x k ⟨hxi, hxj⟩ hk
  have hki : k ≠ i := by
    rintro rfl
    have hgrant := hk t hxi l .exclusive rest ht u (List.mem_of_getElem? hxj) m huheld
    cases hgrant.1
  have hkj : k ≠ j := by
    rintro rfl
    have hgrant := hk u hxj l' .exclusive rest' hu t (List.mem_of_getElem? hxi) m' htheld
    cases hgrant.1
  unfold step
  cases hv : x.threads[k]? with
  | none => exact ⟨hxi, hxj⟩
  | some v =>
    simp only
    rw [List.getElem?_set_ne hki, List.getElem?_set_ne hkj]
    exact ⟨hxi, hxj⟩

end Locks
