import Hcom4db.Base.Runs

/-!
# Hcom4db.Base.Locks

Threads that take and release locks around steps on a shared state. A lock is held in a mode, and does not
know its holders: a thread can be kept waiting by itself.

* `Code`: what a thread has left to do. A step on the state decides what comes after it.
* `wp c Q held`: started with the locks `held`, the code `c` never comes to a lock it holds, and ends with
  locks of which `Q` holds.
* `no_selfWait`: in no interleaving of threads with such code does one wait for a lock it holds itself.
* `solo`: while the other threads hold no lock, a thread with such code comes to the end of it.
* `selfWait_forever`: a thread that waits for a lock of its own to be free never goes on.
-/

namespace Locks

open Runs

inductive Mode where
  | shared | exclusive
  deriving DecidableEq

/-- What is left to do; a step on the state decides the rest. -/
inductive Code (L S : Type) where
  | done
  | acquire (l : L) (m : Mode) (rest : Code L S)
  | release (l : L) (rest : Code L S)
  | act (f : S → S) (rest : S → Code L S)

variable {L S : Type}

namespace Code

def seq : Code L S → Code L S → Code L S
  | .done, d => d
  | .acquire l m rest, d => .acquire l m (rest.seq d)
  | .release l rest, d => .release l (rest.seq d)
  | .act f rest, d => .act f fun s => (rest s).seq d

/-- The codes one after the other. -/
def seqAll : List (Code L S) → Code L S
  | [] => .done
  | c :: cs => c.seq (seqAll cs)

/-- A section that takes a lock and releases it at its end. -/
def locked (c : Code L S) (l : L) (m : Mode) : Code L S := .acquire l m (c.seq (.release l .done))

/-- What the code does to the state when nothing comes between its steps. -/
def run : Code L S → S → S
  | .done, s => s
  | .acquire _ _ rest, s => rest.run s
  | .release _ rest, s => rest.run s
  | .act f rest, s => (rest s).run (f s)

theorem seq_assoc (c d k : Code L S) : (c.seq d).seq k = c.seq (d.seq k) := by
  induction c with
  | done => rfl
  | acquire l m rest ih => exact congrArg (Code.acquire l m) ih
  | release l rest ih => exact congrArg (Code.release l) ih
  | act f rest ih => exact congrArg (Code.act f) (funext ih)

@[simp] theorem seq_done (c : Code L S) : c.seq .done = c := by
  induction c with
  | done => rfl
  | acquire l m rest ih => exact congrArg (Code.acquire l m) ih
  | release l rest ih => exact congrArg (Code.release l) ih
  | act f rest ih => exact congrArg (Code.act f) (funext ih)

@[simp] theorem run_seq (c d : Code L S) (s : S) : (c.seq d).run s = d.run (c.run s) := by
  induction c generalizing s with
  | done => rfl
  | acquire l m rest ih => exact ih s
  | release l rest ih => exact ih s
  | act f rest ih => exact ih s (f s)

theorem seqAll_append (cs ds : List (Code L S)) : seqAll (cs ++ ds) = (seqAll cs).seq (seqAll ds) := by
  induction cs with
  | nil => rfl
  | cons c cs ih => rw [List.cons_append, seqAll, seqAll, ih, seq_assoc]

end Code

/-- The locks a thread holds, the newest first. -/
abbrev Held (L : Type) := List (L × Mode)

/-! ## Threads -/

structure Thread (L S : Type) where
  code : Code L S
  held : Held L := []

structure Sys (L S : Type) where
  state : S
  threads : List (Thread L S)

/-- The lock can be taken in mode `m`: nobody holds it, or everybody shares it. -/
def Grantable (threads : List (Thread L S)) (l : L) (m : Mode) : Prop :=
  ∀ t ∈ threads, ∀ m', (l, m') ∈ t.held → m = .shared ∧ m' = .shared

/-- A thread can go on, unless it is at an acquire that is not granted. -/
def Enabled (s : Sys L S) (i : Nat) : Prop :=
  ∀ t ∈ s.threads[i]?, ∀ l m rest, t.code = .acquire l m rest → Grantable s.threads l m

section Threads

variable {threads : List (Thread L S)} {i : Nat} {t : Thread L S}

theorem set_of_getElem? (hi : threads[i]? = some t) : threads.set i t = threads := by
  apply List.ext_getElem?
  intro j
  by_cases hij : i = j
  · subst hij
    rw [List.getElem?_set_self (List.getElem?_eq_some_iff.mp hi).1, hi]
  · exact List.getElem?_set_ne hij

theorem getElem?_set_of_getElem? (hi : threads[i]? = some t) (u : Thread L S) :
    (threads.set i u)[i]? = some u :=
  List.getElem?_set_self (List.getElem?_eq_some_iff.mp hi).1

theorem idle_set (hidle : ∀ j t, j ≠ i → threads[j]? = some t → t.held = []) (u : Thread L S) :
    ∀ j t, j ≠ i → (threads.set i u)[j]? = some t → t.held = [] := by
  intro j t hj ht
  rw [List.getElem?_set_ne hj.symm] at ht
  exact hidle j t hj ht

/-- A lock that the thread does not hold is granted to it when nobody else holds any. -/
theorem enabled_of_free {x : S} {l : L} {m : Mode} {rest : Code L S} {held : Held L}
    (hi : threads[i]? = some ⟨.acquire l m rest, held⟩)
    (hidle : ∀ j t, j ≠ i → threads[j]? = some t → t.held = []) (hfree : ∀ m', (l, m') ∉ held) :
    Enabled ⟨x, threads⟩ i := by
  intro t ht l' m' rest' hc
  cases hi.symm.trans ht
  cases hc
  intro u hu m'' hm
  obtain ⟨j, hj⟩ := List.getElem?_of_mem hu
  by_cases hij : j = i
  · subst hij
    cases hi.symm.trans hj
    exact absurd hm (hfree m'')
  · rw [hidle j u hij hj] at hm
    cases hm

end Threads

variable [DecidableEq L]

/-! ## Never coming to a lock of one's own -/

/-- The locks that are left when `l` is released, in whatever mode it was held. -/
def Held.release (held : Held L) (l : L) : Held L := held.eraseP fun h => h.1 = l

/-- Started with the locks `held`, the code never comes to a lock it holds, and ends in `Q`. -/
def wp : Code L S → (Held L → Prop) → Held L → Prop
  | .done, Q, held => Q held
  | .acquire l m rest, Q, held => (∀ m', (l, m') ∉ held) ∧ wp rest Q ((l, m) :: held)
  | .release l rest, Q, held => wp rest Q (held.release l)
  | .act _ rest, Q, held => ∀ s, wp (rest s) Q held

section Rules

variable {c d : Code L S} {Q R : Held L → Prop} {held : Held L}

theorem wp_mono (hQR : ∀ held, Q held → R held) (h : wp c Q held) : wp c R held := by
  induction c generalizing held with
  | done => exact hQR held h
  | acquire l m rest ih => exact ⟨h.1, ih h.2⟩
  | release l rest ih => exact ih h
  | act f rest ih => exact fun s => ih s (h s)

theorem wp_seq (h : wp c (wp d Q) held) : wp (c.seq d) Q held := by
  induction c generalizing held with
  | done => exact h
  | acquire l m rest ih => exact ⟨h.1, ih h.2⟩
  | release l rest ih => exact ih h
  | act f rest ih => exact fun s => ih s (h s)

/-- Codes that each leave the locks as they were do so together. -/
theorem wp_seqAll {cs : List (Code L S)} (h : ∀ c ∈ cs, wp c (· = held) held) :
    wp (Code.seqAll cs) (· = held) held := by
  induction cs with
  | nil => rfl
  | cons c cs ih =>
    refine wp_seq (wp_mono ?_ (h c List.mem_cons_self))
    rintro _ rfl
    exact ih fun d hd => h d (List.mem_cons_of_mem _ hd)

@[simp] theorem release_cons (l : L) (m : Mode) (held : Held L) : Held.release ((l, m) :: held) l = held := by
  simp [Held.release]

theorem wp_locked {l : L} {m : Mode} (hfree : ∀ m', (l, m') ∉ held)
    (h : wp c (· = (l, m) :: held) ((l, m) :: held)) : wp (c.locked l m) (· = held) held := by
  refine ⟨hfree, wp_seq (wp_mono ?_ h)⟩
  rintro _ rfl
  simp [wp]

end Rules

/-! ## Runs -/

def Thread.next (t : Thread L S) (s : S) : S × Thread L S :=
  match t.code with
  | .done => (s, t)
  | .acquire l m rest => (s, ⟨rest, (l, m) :: t.held⟩)
  | .release l rest => (s, ⟨rest, t.held.release l⟩)
  | .act f rest => (f s, ⟨rest s, t.held⟩)

/-- The next step of thread `i`. -/
def step (s : Sys L S) (i : Nat) : Sys L S :=
  match s.threads[i]? with
  | none => s
  | some t => ⟨(t.next s.state).1, s.threads.set i (t.next s.state).2⟩

/-- The thread is at an acquire of a lock it holds. -/
def Thread.SelfWaits (t : Thread L S) : Prop :=
  ∃ l m rest m', t.code = .acquire l m rest ∧ (l, m') ∈ t.held

section Runs

variable {t : Thread L S} {s s' : Sys L S} {Q : Held L → Prop}

theorem not_selfWaits (h : wp t.code Q t.held) : ¬ t.SelfWaits := by
  rintro ⟨l, m, rest, m', hc, hm⟩
  rw [hc] at h
  exact h.1 m' hm

theorem wp_next (h : wp t.code Q t.held) (x : S) : wp (t.next x).2.code Q (t.next x).2.held := by
  obtain ⟨code, held⟩ := t
  cases code with
  | done => exact h
  | acquire l m rest => exact h.2
  | release l rest => exact h
  | act f rest => exact h x

/-- **No thread waits for itself** in a run of threads whose code never comes to a lock it holds. -/
theorem no_selfWait (h0 : ∀ t ∈ s.threads, wp t.code (fun _ => True) t.held)
    (hrun : Reached Enabled step s s') : ∀ t ∈ s'.threads, ¬ t.SelfWaits := by
  have hinv : ∀ t ∈ s'.threads, wp t.code (fun _ => True) t.held := by
    refine @Reached.invariant _ _ _ _ s s'
      (fun x : Sys L S => ∀ t ∈ x.threads, wp t.code (fun _ => True) t.held) h0 ?_ hrun
    intro x i hx _ t ht
    unfold step at ht
    cases hi : x.threads[i]? with
    | none =>
      rw [hi] at ht
      exact hx t ht
    | some u =>
      rw [hi] at ht
      cases List.mem_or_eq_of_mem_set ht with
      | inl hold => exact hx t hold
      | inr hnew =>
        rw [hnew]
        exact wp_next (hx u (List.mem_of_getElem? hi)) x.state
  exact fun t ht => not_selfWaits (hinv t ht)

/-- While the other threads hold no lock, a thread runs through code that never comes to a lock it holds. -/
theorem solo {c : Code L S} {held : Held L} (h : wp c Q held) (x : S) {threads : List (Thread L S)} {i : Nat}
    {k : Code L S} (hi : threads[i]? = some ⟨c.seq k, held⟩)
    (hidle : ∀ j t, j ≠ i → threads[j]? = some t → t.held = []) :
    ∃ held', Q held' ∧ Reached Enabled step ⟨x, threads⟩ ⟨c.run x, threads.set i ⟨k, held'⟩⟩ := by
  induction c generalizing x held threads with
  | done =>
    have hset : threads.set i ⟨k, held⟩ = threads := set_of_getElem? hi
    refine ⟨held, h, ?_⟩
    rw [hset]
    exact .refl
  | acquire l m rest ih =>
    have hstep : step ⟨x, threads⟩ i = ⟨x, threads.set i ⟨rest.seq k, (l, m) :: held⟩⟩ := by
      simp only [step, hi, Thread.next, Code.seq]
    obtain ⟨held', hQ, hrun⟩ := ih h.2 x (getElem?_set_of_getElem? hi _) (idle_set hidle _)
    rw [List.set_set, ← hstep] at hrun
    refine ⟨held', hQ, Reached.head ?_ hrun⟩
    exact enabled_of_free hi hidle h.1
  | release l rest ih =>
    have hstep : step ⟨x, threads⟩ i = ⟨x, threads.set i ⟨rest.seq k, held.release l⟩⟩ := by
      simp only [step, hi, Thread.next, Code.seq]
    obtain ⟨held', hQ, hrun⟩ := ih h x (getElem?_set_of_getElem? hi _) (idle_set hidle _)
    rw [List.set_set, ← hstep] at hrun
    refine ⟨held', hQ, Reached.head ?_ hrun⟩
    intro t ht l' m' rest' hc
    cases hi.symm.trans ht
    cases hc
  | act f rest ih =>
    have hstep : step ⟨x, threads⟩ i = ⟨f x, threads.set i ⟨(rest x).seq k, held⟩⟩ := by
      simp only [step, hi, Thread.next, Code.seq]
    obtain ⟨held', hQ, hrun⟩ := ih x (h x) (f x) (getElem?_set_of_getElem? hi _) (idle_set hidle _)
    rw [List.set_set, ← hstep] at hrun
    refine ⟨held', hQ, Reached.head ?_ hrun⟩
    intro t ht l' m' rest' hc
    cases hi.symm.trans ht
    cases hc

/-- A thread enters a section and comes to what the first step in it decides. -/
theorem enter {f : S → S} {g : S → Code L S} {l : L} {m : Mode} {held : Held L} {x : S}
    {threads : List (Thread L S)} {i : Nat}
    (hi : threads[i]? = some ⟨(Code.act f g).locked l m, held⟩)
    (hidle : ∀ j t, j ≠ i → threads[j]? = some t → t.held = []) (hfree : ∀ m', (l, m') ∉ held) :
    Reached Enabled step ⟨x, threads⟩
      ⟨f x, threads.set i ⟨(g x).seq (.release l .done), (l, m) :: held⟩⟩ := by
  have hacquire : step ⟨x, threads⟩ i =
      ⟨x, threads.set i ⟨.act f fun s => (g s).seq (.release l .done), (l, m) :: held⟩⟩ := by
    simp only [step, hi, Thread.next, Code.locked, Code.seq]
  have hact : step (step ⟨x, threads⟩ i) i =
      ⟨f x, threads.set i ⟨(g x).seq (.release l .done), (l, m) :: held⟩⟩ := by
    rw [hacquire]
    simp only [step, getElem?_set_of_getElem? hi, Thread.next, List.set_set]
  rw [← hact]
  refine (Reached.refl.tail (enabled_of_free hi hidle hfree)).tail ?_
  intro t ht l' m' rest' hc
  rw [hacquire] at ht
  cases (getElem?_set_of_getElem? hi _).symm.trans ht
  cases hc

/-- A thread that waits to have a lock of its own for itself never goes on. -/
theorem selfWait_forever {i : Nat} {l : L} {m : Mode} {rest : Code L S}
    (hi : s.threads[i]? = some t) (hc : t.code = .acquire l .exclusive rest) (hm : (l, m) ∈ t.held)
    (hrun : Reached Enabled step s s') : s'.threads[i]? = some t := by
  refine @Reached.invariant _ _ _ _ s s' (fun x : Sys L S => x.threads[i]? = some t) hi ?_ hrun
  intro x j hx hj
  by_cases hij : j = i
  · subst hij
    have hgrant := hj t hx l .exclusive rest hc t (List.mem_of_getElem? hx) m hm
    cases hgrant.1
  · unfold step
    cases hu : x.threads[j]? with
    | none => exact hx
    | some u =>
      simp only
      rw [List.getElem?_set_ne hij]
      exact hx

end Runs

end Locks
