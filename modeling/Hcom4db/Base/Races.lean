import Hcom4db.Base.Discipline

/-!
# Hcom4db.Base.Races

Threads that tell where they read and write the data their locks guard, and the data races between them.

* `Crew`: such threads on a shared state. A release ends a hold of its lock in whatever mode it was taken, as
  it does in `Base.Locks`; `plain_reached`: without the accesses, a run of a crew is a run of threads.
* `wpAt ok may p Q held`: started with the locks `held`, every access of `p` is one that `ok` allows with the
  locks that are held there, every step on the state one that `may` allows, and `p` ends with locks of which
  `Q` holds.
* `Race c x`: one thread is about to write `x`, and another is about to read it or to write it.
* `no_race_of_guarded`, `no_race_of_unwritten`: the two ways not to race.
* `frozen_while_held`: what is changed under an exclusive lock only stays as it is while a thread shares that
  lock.
-/

namespace Locks

open Runs

variable {L M S : Type}

/-! ## Threads that tell their accesses -/

structure Worker (L M S : Type) where
  prog : Prog L M S
  held : Held L := []

structure Crew (L M S : Type) where
  state : S
  workers : List (Worker L M S)

/-- The threads without their accesses. -/
def Worker.plain (t : Worker L M S) : Thread L S := ⟨t.prog.forget, t.held⟩

def Crew.plain (c : Crew L M S) : Sys L S := ⟨c.state, c.workers.map Worker.plain⟩

theorem plain_get {c : Crew L M S} {i : Nat} {t : Worker L M S} (hi : c.workers[i]? = some t) :
    c.plain.threads[i]? = some t.plain := by
  simp only [Crew.plain, List.getElem?_map, hi, Option.map_some]

section Machine

variable [DecidableEq L]

/-- The locks that are held after an event; a release ends a hold whatever its mode. -/
def LockEvent.on (held : Held L) : LockEvent L M → Held L
  | .acquire l m => (l, m) :: held
  | .release l _ => held.release l
  | .read _ => held
  | .write _ => held

/-- The lock can be taken in mode `m`: nobody holds it, or everybody shares it. -/
def grants (workers : List (Worker L M S)) (l : L) (m : Mode) : Bool :=
  workers.all fun t => t.held.all fun h => h.1 ≠ l || (m = .shared && h.2 = .shared)

/-- A thread can go on, unless it is at an acquire that is not granted. -/
def Crew.ready (c : Crew L M S) (i : Nat) : Bool :=
  match c.workers[i]? with
  | none => true
  | some t =>
    match t.prog with
    | .event (.acquire l m) _ => grants c.workers l m
    | _ => true

def Worker.next (t : Worker L M S) (s : S) : S × Worker L M S :=
  match t.prog with
  | .done => (s, t)
  | .event e rest => (s, ⟨rest, e.on t.held⟩)
  | .act f rest => (f s, ⟨rest s, t.held⟩)

/-- The next step of thread `i`. -/
def Crew.step (c : Crew L M S) (i : Nat) : Crew L M S :=
  match c.workers[i]? with
  | none => c
  | some t => ⟨(t.next c.state).1, c.workers.set i (t.next c.state).2⟩

/-- `c'` comes from `c` when the threads go on in some order. -/
abbrev Crew.Reaches (c c' : Crew L M S) : Prop := Reached (fun c i => c.ready i = true) Crew.step c c'

variable {c c' : Crew L M S} {i : Nat} {t : Worker L M S}

theorem step_of_get (hi : c.workers[i]? = some t) :
    c.step i = ⟨(t.next c.state).1, c.workers.set i (t.next c.state).2⟩ := by
  simp only [Crew.step, hi]

/-- Where a thread comes from in a step. -/
theorem mem_step {u : Worker L M S} (h : u ∈ (c.step i).workers) :
    u ∈ c.workers ∨ ∃ t ∈ c.workers, u = (t.next c.state).2 := by
  unfold Crew.step at h
  cases hi : c.workers[i]? with
  | none =>
    rw [hi] at h
    exact .inl h
  | some t =>
    rw [hi] at h
    rcases List.mem_or_eq_of_mem_set h with hold | hnew
    · exact .inl hold
    · exact .inr ⟨t, List.mem_of_getElem? hi, hnew⟩

/-! ## Without the accesses -/

theorem grantable_of_grants {l : L} {m : Mode} (h : grants c.workers l m = true) :
    Grantable c.plain.threads l m := by
  intro u hu m' hm'
  obtain ⟨t, ht, rfl⟩ := List.mem_map.mp hu
  have hall := List.all_eq_true.mp (List.all_eq_true.mp h t ht) (l, m') hm'
  simpa using hall

theorem plain_step_of_next (hi : c.workers[i]? = some t)
    (hnext : t.plain.next c.state = ((t.next c.state).1, (t.next c.state).2.plain)) :
    (c.step i).plain = step c.plain i := by
  rw [step_of_get hi, step, plain_get hi]
  simp only [Crew.plain, hnext, List.map_set]

/-- An access is no step of the threads without accesses. -/
theorem plain_step_of_access (hi : c.workers[i]? = some t) (hstate : (t.next c.state).1 = c.state)
    (hplain : (t.next c.state).2.plain = t.plain) : (c.step i).plain = c.plain := by
  rw [step_of_get hi, Crew.plain, hstate, List.map_set, hplain]
  simp only [Crew.plain]
  rw [set_of_getElem?]
  exact plain_get hi

theorem plain_step (h : c.ready i = true) : Reached Enabled step c.plain (c.step i).plain := by
  cases hi : c.workers[i]? with
  | none =>
    have hstep : c.step i = c := by simp only [Crew.step, hi]
    rw [hstep]
    exact .refl
  | some t =>
    have hgo : (∀ l m rest, t.plain.code = .acquire l m rest → Grantable c.plain.threads l m) →
        Enabled c.plain i := by
      intro hg u hu l m rest hcode
      cases (plain_get hi).symm.trans hu
      exact hg l m rest hcode
    obtain ⟨prog, held⟩ := t
    cases prog with
    | done =>
      rw [plain_step_of_next hi rfl]
      exact .tail .refl (hgo fun _ _ _ hcode => by cases hcode)
    | act f rest =>
      rw [plain_step_of_next hi rfl]
      exact .tail .refl (hgo fun _ _ _ hcode => by cases hcode)
    | event e rest =>
      cases e with
      | acquire l m =>
        rw [plain_step_of_next hi rfl]
        refine .tail .refl (hgo fun l' m' rest' hcode => ?_)
        cases hcode
        simp only [Crew.ready, hi] at h
        exact grantable_of_grants h
      | release l m =>
        rw [plain_step_of_next hi rfl]
        exact .tail .refl (hgo fun _ _ _ hcode => by cases hcode)
      | read x =>
        rw [plain_step_of_access hi rfl rfl]
        exact .refl
      | write x =>
        rw [plain_step_of_access hi rfl rfl]
        exact .refl

/-- **Telling the accesses changes nothing**: a run of a crew is a run of its threads. -/
theorem plain_reached (h : c.Reaches c') : Reached Enabled step c.plain c'.plain := by
  induction h with
  | refl => exact .refl
  | tail _ hi ih => exact ih.trans (plain_step hi)

end Machine

/-! ## Holding a lock for oneself -/

section Exclusive

variable {s s' : Sys L S}

/-- A lock that one thread holds for itself is held by no other. -/
def Exclusive (s : Sys L S) : Prop :=
  ∀ (i j : Nat) (t u : Thread L S), s.threads[i]? = some t → s.threads[j]? = some u → i ≠ j →
    ∀ l m, (l, .exclusive) ∈ t.held → (l, m) ∉ u.held

theorem exclusive_of_none (h : ∀ t ∈ s.threads, t.held = []) : Exclusive s := by
  intro i j t u ht _ _ l m hl
  rw [h t (List.mem_of_getElem? ht)] at hl
  cases hl

variable [DecidableEq L]

/-- What a thread holds after a step, it held before or was granted. -/
theorem mem_held_next {t : Thread L S} {x : S} {h : L × Mode} (hh : h ∈ (t.next x).2.held) :
    h ∈ t.held ∨ ∃ rest, t.code = .acquire h.1 h.2 rest := by
  obtain ⟨code, held⟩ := t
  cases code with
  | done => exact .inl hh
  | acquire l m rest =>
    rcases List.mem_cons.mp hh with rfl | hold
    · exact .inr ⟨rest, rfl⟩
    · exact .inl hold
  | release l rest => exact .inl (List.mem_of_mem_eraseP hh)
  | act f rest => exact .inl hh

theorem exclusive_step (h : Exclusive s) {k : Nat} (hk : Enabled s k) : Exclusive (step s k) := by
  unfold step
  cases hs : s.threads[k]? with
  | none => exact h
  | some v =>
    intro i j t u ht hu hij l m hl hm
    by_cases hik : i = k
    · subst hik
      rw [List.getElem?_set_ne hij] at hu
      cases (getElem?_set_of_getElem? hs _).symm.trans ht
      rcases mem_held_next hl with hold | ⟨rest, hcode⟩
      · exact h i j v u hs hu hij l m hold hm
      · exact absurd (hk v hs l .exclusive rest hcode u (List.mem_of_getElem? hu) m hm).1 (by decide)
    · rw [List.getElem?_set_ne (Ne.symm hik)] at ht
      by_cases hjk : j = k
      · subst hjk
        cases (getElem?_set_of_getElem? hs _).symm.trans hu
        rcases mem_held_next hm with hold | ⟨rest, hcode⟩
        · exact h i j t v ht hs hij l m hl hold
        · exact absurd (hk v hs l m rest hcode t (List.mem_of_getElem? ht) .exclusive hl).2 (by decide)
      · rw [List.getElem?_set_ne (Ne.symm hjk)] at hu
        exact h i j t u ht hu hij l m hl hm

theorem exclusive_reached (h : Exclusive s) (hrun : Reached Enabled step s s') : Exclusive s' :=
  hrun.invariant h fun _ _ h hk => exclusive_step h hk

end Exclusive

/-! ## Which accesses are made under which locks -/

section Accesses

variable [DecidableEq L]

def wpAt (ok : Held L → LockEvent L M → Prop) (may : Held L → (S → S) → Prop) :
    Prog L M S → (Held L → Prop) → Held L → Prop
  | .done, Q, held => Q held
  | .event (.acquire l m) rest, Q, held => wpAt ok may rest Q ((l, m) :: held)
  | .event (.release l _) rest, Q, held => wpAt ok may rest Q (held.release l)
  | .event (.read x) rest, Q, held => ok held (.read x) ∧ wpAt ok may rest Q held
  | .event (.write x) rest, Q, held => ok held (.write x) ∧ wpAt ok may rest Q held
  | .act f rest, Q, held => may held f ∧ ∀ s, wpAt ok may (rest s) Q held

variable {ok : Held L → LockEvent L M → Prop} {may : Held L → (S → S) → Prop} {p q : Prog L M S}
  {Q R : Held L → Prop} {held : Held L}

theorem wpAt_mono (hQR : ∀ held, Q held → R held) (h : wpAt ok may p Q held) : wpAt ok may p R held := by
  induction p generalizing held with
  | done => exact hQR held h
  | event e rest ih =>
    cases e with
    | acquire l m => exact ih h
    | release l m => exact ih h
    | read x => exact ⟨h.1, ih h.2⟩
    | write x => exact ⟨h.1, ih h.2⟩
  | act f rest ih => exact ⟨h.1, fun s => ih s (h.2 s)⟩

theorem wpAt_seq (h : wpAt ok may p (wpAt ok may q Q) held) : wpAt ok may (p.seq q) Q held := by
  induction p generalizing held with
  | done => exact h
  | event e rest ih =>
    cases e with
    | acquire l m => exact ih h
    | release l m => exact ih h
    | read x => exact ⟨h.1, ih h.2⟩
    | write x => exact ⟨h.1, ih h.2⟩
  | act f rest ih => exact ⟨h.1, fun s => ih s (h.2 s)⟩

theorem wpAt_seqAll {ps : List (Prog L M S)} (h : ∀ p ∈ ps, wpAt ok may p (· = held) held) :
    wpAt ok may (Prog.seqAll ps) (· = held) held := by
  induction ps with
  | nil => rfl
  | cons p ps ih =>
    refine wpAt_seq (wpAt_mono ?_ (h p List.mem_cons_self))
    rintro _ rfl
    exact ih fun q hq => h q (List.mem_cons_of_mem _ hq)

theorem wpAt_next {t : Worker L M S} (h : wpAt ok may t.prog Q t.held) (x : S) :
    wpAt ok may (t.next x).2.prog Q (t.next x).2.held := by
  obtain ⟨prog, held⟩ := t
  cases prog with
  | done => exact h
  | event e rest =>
    cases e with
    | acquire l m => exact h
    | release l m => exact h
    | read x => exact h.2
    | write x => exact h.2
  | act f rest => exact h.2 x

theorem wpAt_reached {c c' : Crew L M S} (h : ∀ t ∈ c.workers, wpAt ok may t.prog Q t.held)
    (hrun : c.Reaches c') : ∀ t ∈ c'.workers, wpAt ok may t.prog Q t.held := by
  refine @Reached.invariant _ _ _ _ c c' (fun d : Crew L M S => ∀ t ∈ d.workers, wpAt ok may t.prog Q t.held)
    h ?_ hrun
  intro d i hd _ u hu
  rcases mem_step hu with hold | ⟨t, ht, rfl⟩
  · exact hd u hold
  · exact wpAt_next (hd t ht) d.state

end Accesses

/-! ## Data races -/

/-- The next thing the thread does is this access. -/
def Worker.At (t : Worker L M S) (e : LockEvent L M) : Prop := ∃ rest, t.prog = .event e rest

/-- One thread is about to write `x`, and another to read it or to write it. -/
def Race (c : Crew L M S) (x : M) : Prop :=
  ∃ i j : Nat, ∃ t u : Worker L M S, i ≠ j ∧ c.workers[i]? = some t ∧ c.workers[j]? = some u ∧ t.At (.write x) ∧
    (u.At (.read x) ∨ u.At (.write x))

/-- `x` is read under its lock and written under its exclusive lock. -/
def Guarded (guard : M → L) (x : M) (held : Held L) (e : LockEvent L M) : Prop :=
  (e = .read x → ∃ m, (guard x, m) ∈ held) ∧ (e = .write x → (guard x, .exclusive) ∈ held)

theorem guarded_read {guard : M → L} {x y : M} {held : Held L} (h : y = x → ∃ m, (guard x, m) ∈ held) :
    Guarded guard x held (.read y) :=
  ⟨fun he => h (LockEvent.read.inj he), fun he => by cases he⟩

theorem guarded_write {guard : M → L} {x y : M} {held : Held L}
    (h : y = x → (guard x, .exclusive) ∈ held) : Guarded guard x held (.write y) :=
  ⟨(fun he => by cases he), fun he => h (LockEvent.write.inj he)⟩

/-- The access does not write `x`. -/
def Unwritten (x : M) (_ : Held L) (e : LockEvent L M) : Prop := e ≠ .write x

section Races

variable [DecidableEq L] {ok : Held L → LockEvent L M → Prop} {may : Held L → (S → S) → Prop} {guard : M → L}
  {x : M} {c c' : Crew L M S} {Q : Held L → Prop}

theorem ok_of_read {t : Worker L M S} (h : wpAt ok may t.prog Q t.held) (ht : t.At (.read x)) :
    ok t.held (.read x) := by
  obtain ⟨rest, hp⟩ := ht
  rw [hp] at h
  exact h.1

theorem ok_of_write {t : Worker L M S} (h : wpAt ok may t.prog Q t.held) (ht : t.At (.write x)) :
    ok t.held (.write x) := by
  obtain ⟨rest, hp⟩ := ht
  rw [hp] at h
  exact h.1

/-- **Data that is read under its lock and written under its exclusive lock is not raced for.** -/
theorem no_race_of_guarded (h : ∀ t ∈ c.workers, wpAt (Guarded guard x) may t.prog Q t.held)
    (hfree : ∀ t ∈ c.workers, t.held = []) (hrun : c.Reaches c') : ¬ Race c' x := by
  rintro ⟨i, j, t, u, hij, ht, hu, hw, hru⟩
  have hall := wpAt_reached h hrun
  have hex : Exclusive c'.plain := by
    refine exclusive_reached (exclusive_of_none fun v hv => ?_) (plain_reached hrun)
    obtain ⟨w, hw, rfl⟩ := List.mem_map.mp hv
    exact hfree w hw
  -- the writer holds the lock for itself
  have hlock := (ok_of_write (hall t (List.mem_of_getElem? ht)) hw).2 rfl
  have hother : ∃ m, (guard x, m) ∈ u.held := by
    rcases hru with hr | hw'
    · exact (ok_of_read (hall u (List.mem_of_getElem? hu)) hr).1 rfl
    · exact ⟨_, (ok_of_write (hall u (List.mem_of_getElem? hu)) hw').2 rfl⟩
  obtain ⟨m, hm⟩ := hother
  exact hex i j t.plain u.plain (plain_get ht) (plain_get hu) hij (guard x) m hlock hm

/-- **Data that nobody writes is not raced for.** -/
theorem no_race_of_unwritten (h : ∀ t ∈ c.workers, wpAt (Unwritten x) may t.prog Q t.held)
    (hrun : c.Reaches c') : ¬ Race c' x := by
  rintro ⟨i, j, t, u, -, ht, -, hw, -⟩
  exact ok_of_write (wpAt_reached h hrun t (List.mem_of_getElem? ht)) hw rfl

end Races

/-! ## What stays as it is -/

/-- A lock that a thread holds for itself is not shared, by that thread or by another. -/
def Unshared (s : Sys L S) : Prop :=
  ∀ t ∈ s.threads, ∀ u ∈ s.threads, ∀ l, (l, .exclusive) ∈ t.held → (l, .shared) ∉ u.held

/-- A step on the state leaves `view` alone, or is made under the exclusive lock. -/
def ChangedUnder {V : Type} (l : L) (view : S → V) (held : Held L) (f : S → S) : Prop :=
  (∀ s, view (f s) = view s) ∨ (l, .exclusive) ∈ held

/-- Thread `i` shares the lock. -/
def Crew.Shares (c : Crew L M S) (i : Nat) (l : L) : Prop :=
  ∃ t, c.workers[i]? = some t ∧ (l, .shared) ∈ t.held

/-- `c'` comes from `c` when the threads go on and thread `i` shares the lock all the time. -/
abbrev Crew.ReachesSharing [DecidableEq L] (i : Nat) (l : L) (c c' : Crew L M S) : Prop :=
  Reached (fun c j => c.ready j = true ∧ c.Shares i l) Crew.step c c'

section Frozen

variable {s s' : Sys L S}

theorem unshared_of_none (h : ∀ t ∈ s.threads, t.held = []) : Unshared s := by
  intro t ht _ _ l hl
  rw [h t ht] at hl
  cases hl

variable [DecidableEq L]

theorem unshared_step (h : Unshared s) {k : Nat} (hk : Enabled s k) : Unshared (step s k) := by
  unfold step
  cases hs : s.threads[k]? with
  | none => exact h
  | some v =>
    intro t ht u hu l hl hm
    have hv : v ∈ s.threads := List.mem_of_getElem? hs
    -- each hold is an old one, or what thread `k` was granted
    have hold : ∀ x ∈ s.threads.set k (v.next s.state).2, ∀ m, (l, m) ∈ x.held →
        (∃ y ∈ s.threads, (l, m) ∈ y.held) ∨ ∃ rest, v.code = .acquire l m rest := by
      intro x hx m hxm
      rcases List.mem_or_eq_of_mem_set hx with hx | rfl
      · exact .inl ⟨x, hx, hxm⟩
      · rcases mem_held_next hxm with hxm | hcode
        · exact .inl ⟨v, hv, hxm⟩
        · exact .inr hcode
    rcases hold t ht _ hl with ⟨t', ht', hl'⟩ | ⟨rest, hcode⟩
    · rcases hold u hu _ hm with ⟨u', hu', hm'⟩ | ⟨rest, hcode⟩
      · exact h t' ht' u' hu' l hl' hm'
      · exact absurd (hk v hs l .shared rest hcode t' ht' .exclusive hl').2 (by decide)
    · rcases hold u hu _ hm with ⟨u', hu', hm'⟩ | ⟨rest', hcode'⟩
      · exact absurd (hk v hs l .exclusive rest hcode u' hu' .shared hm').1 (by decide)
      · rw [hcode] at hcode'
        cases hcode'

variable {V : Type} {ok : Held L → LockEvent L M → Prop} {l : L} {view : S → V} {c c' : Crew L M S}
  {Q : Held L → Prop} {i : Nat}

theorem unshared_reached (h : ∀ t ∈ c.workers, t.held = []) (hrun : c.Reaches c') : Unshared c'.plain := by
  refine (plain_reached hrun).invariant (unshared_of_none fun v hv => ?_) fun _ _ h hk => unshared_step h hk
  obtain ⟨t, ht, rfl⟩ := List.mem_map.mp hv
  exact h t ht

/-- A step changes nothing that is changed under a lock only which a thread shares. -/
theorem view_step (h : ∀ t ∈ c.workers, wpAt ok (ChangedUnder l view) t.prog Q t.held)
    (hun : Unshared c.plain) (hi : c.Shares i l) (j : Nat) : view (c.step j).state = view c.state := by
  cases hj : c.workers[j]? with
  | none =>
    have hstep : c.step j = c := by simp only [Crew.step, hj]
    rw [hstep]
  | some t =>
    rw [step_of_get hj]
    have ht : t ∈ c.workers := List.mem_of_getElem? hj
    have hw := h t ht
    obtain ⟨u, hu, hshared⟩ := hi
    have hno : (l, .exclusive) ∉ t.held := fun hl =>
      hun t.plain (List.mem_map_of_mem ht) u.plain (List.mem_map_of_mem (List.mem_of_getElem? hu)) l hl hshared
    obtain ⟨prog, held⟩ := t
    cases prog with
    | done => rfl
    | event e rest => rfl
    | act f rest =>
      rcases hw.1 with hkeep | hl
      · exact hkeep c.state
      · exact absurd hl hno

/-- **What is changed under the exclusive lock only stays as it is while a thread shares the lock.** -/
theorem frozen_while_held {c0 : Crew L M S}
    (h : ∀ t ∈ c0.workers, wpAt ok (ChangedUnder l view) t.prog Q t.held)
    (hfree : ∀ t ∈ c0.workers, t.held = []) (h0 : c0.Reaches c)
    (hrun : Crew.ReachesSharing i l c c') :
    view c'.state = view c.state := by
  induction hrun with
  | refl => rfl
  | @tail d j hd hok ih =>
    have hreach : c0.Reaches d := h0.trans (hd.mono fun _ _ h => h.1)
    exact (view_step (wpAt_reached h hreach) (unshared_reached hfree hreach) hok.2 j).trans ih

end Frozen

end Locks
