import Hcom4db.Base.Locks

/-!
# Hcom4db.Base.Discipline

Code that says in which mode it takes and releases its locks, and where it reads and writes the data that the
locks guard.

* `Prog`: such code. `forget` leaves the code of `Base.Locks`; `trace` is what one run of it says.
* `Disciplined`: every release ends a hold of its lock in its own mode, data is read under its lock and written
  under its exclusive lock, and no lock is held at the end.
* `Traced`: a run changes only data that its trace writes; one rule for each way to build code.
* `disciplined_iff`: the discipline, event by event.
* `Disciplined.balanced`: a disciplined trace releases a lock in each mode as often as it takes it.
-/

namespace Locks

inductive LockEvent (L M : Type) where
  | acquire (l : L) (m : Mode)
  | release (l : L) (m : Mode)
  | read (x : M)
  | write (x : M)
  deriving DecidableEq

/-- What is left to do, with the events on the way; a step on the state decides the rest. -/
inductive Prog (L M S : Type) where
  | done
  | event (e : LockEvent L M) (rest : Prog L M S)
  | act (f : S → S) (rest : S → Prog L M S)

variable {L M S : Type}

/-! ## Programs -/

namespace Prog

/-- The events one after the other, then the rest. -/
def events (t : List (LockEvent L M)) (rest : Prog L M S) : Prog L M S := t.foldr .event rest

def seq : Prog L M S → Prog L M S → Prog L M S
  | .done, q => q
  | .event e rest, q => .event e (rest.seq q)
  | .act f rest, q => .act f fun s => (rest s).seq q

def seqAll : List (Prog L M S) → Prog L M S
  | [] => .done
  | p :: ps => p.seq (seqAll ps)

/-- The code without the accesses and the modes of the releases. -/
def forget : Prog L M S → Code L S
  | .done => .done
  | .event (.acquire l m) rest => .acquire l m rest.forget
  | .event (.release l _) rest => .release l rest.forget
  | .event (.read _) rest => rest.forget
  | .event (.write _) rest => rest.forget
  | .act f rest => .act f fun s => (rest s).forget

def run (p : Prog L M S) (s : S) : S := p.forget.run s

/-- The events of a run from `s` when nothing comes between its steps. -/
def trace : Prog L M S → S → List (LockEvent L M)
  | .done, _ => []
  | .event e rest, s => e :: rest.trace s
  | .act f rest, s => (rest s).trace (f s)

theorem forget_seq (p q : Prog L M S) : (p.seq q).forget = p.forget.seq q.forget := by
  induction p with
  | done => rfl
  | event e rest ih =>
    cases e with
    | acquire l m => exact congrArg (Code.acquire l m) ih
    | release l m => exact congrArg (Code.release l) ih
    | read x => exact ih
    | write x => exact ih
  | act f rest ih => exact congrArg (Code.act f) (funext ih)

theorem forget_seqAll (ps : List (Prog L M S)) : (seqAll ps).forget = Code.seqAll (ps.map forget) := by
  induction ps with
  | nil => rfl
  | cons p ps ih => rw [seqAll, forget_seq, ih, List.map_cons, Code.seqAll]

@[simp] theorem run_event (e : LockEvent L M) (rest : Prog L M S) (s : S) :
    (Prog.event e rest).run s = rest.run s := by
  cases e <;> rfl

@[simp] theorem run_act (f : S → S) (rest : S → Prog L M S) (s : S) :
    (Prog.act f rest).run s = (rest s).run (f s) := rfl

@[simp] theorem trace_event (e : LockEvent L M) (rest : Prog L M S) (s : S) :
    (Prog.event e rest).trace s = e :: rest.trace s := rfl

@[simp] theorem trace_act (f : S → S) (rest : S → Prog L M S) (s : S) :
    (Prog.act f rest).trace s = (rest s).trace (f s) := rfl

@[simp] theorem trace_done (s : S) : (Prog.done : Prog L M S).trace s = [] := rfl

@[simp] theorem trace_events (t : List (LockEvent L M)) (rest : Prog L M S) (s : S) :
    (events t rest).trace s = t ++ rest.trace s := by
  induction t with
  | nil => rfl
  | cons e t ih => exact congrArg (e :: ·) ih

@[simp] theorem trace_seq (p q : Prog L M S) (s : S) :
    (p.seq q).trace s = p.trace s ++ q.trace (p.run s) := by
  induction p generalizing s with
  | done => rfl
  | event e rest ih => rw [seq, trace_event, ih s, run_event, trace_event, List.cons_append]
  | act f rest ih => exact ih s (f s)

@[simp] theorem run_seq (p q : Prog L M S) (s : S) : (p.seq q).run s = q.run (p.run s) := by
  unfold run
  rw [forget_seq, Code.run_seq]

/-! ## What a run changes -/

section Traced

variable {V : M → Type} {view : (x : M) → S → V x} {p q : Prog L M S}

/-- A run changes only data that its trace writes; `view` is the data in a state. -/
def Traced (view : (x : M) → S → V x) (p : Prog L M S) : Prop :=
  ∀ s x, .write x ∉ p.trace s → view x (p.run s) = view x s

theorem traced_done : Traced view (.done : Prog L M S) := fun _ _ _ => rfl

theorem Traced.event (e : LockEvent L M) (h : Traced view p) : Traced view (.event e p) := by
  intro s x hx
  rw [run_event]
  exact h s x fun hmem => hx (List.mem_cons_of_mem e hmem)

theorem traced_act {f : S → S} {rest : S → Prog L M S} (hf : ∀ s x, view x (f s) = view x s)
    (h : ∀ s, Traced view (rest s)) : Traced view (.act f rest) :=
  fun s x hx => (h s (f s) x hx).trans (hf s x)

theorem Traced.seq (hp : Traced view p) (hq : Traced view q) : Traced view (p.seq q) := by
  intro s x hx
  rw [trace_seq, List.mem_append, not_or] at hx
  rw [run_seq]
  exact (hq _ x hx.2).trans (hp s x hx.1)

theorem traced_seqAll {ps : List (Prog L M S)} (h : ∀ p ∈ ps, Traced view p) : Traced view (seqAll ps) := by
  induction ps with
  | nil => exact traced_done
  | cons p ps ih =>
    exact (h p List.mem_cons_self).seq (ih fun q hq => h q (List.mem_cons_of_mem _ hq))

end Traced

end Prog

/-! ## The discipline -/

variable [DecidableEq L]

/-- The locks that are held after an event. -/
def LockEvent.after (held : Held L) : LockEvent L M → Held L
  | .acquire l m => (l, m) :: held
  | .release l m => held.erase (l, m)
  | .read _ => held
  | .write _ => held

def heldAfter (held : Held L) (t : List (LockEvent L M)) : Held L := t.foldl LockEvent.after held

/-- What the discipline asks of an event when `held` is held before it. -/
def LockEvent.Allowed (guard : M → L) (held : Held L) : LockEvent L M → Prop
  | .acquire _ _ => True
  | .release l m => (l, m) ∈ held
  | .read x => ∃ m, (guard x, m) ∈ held
  | .write x => (guard x, .exclusive) ∈ held

structure Disciplined (guard : M → L) (t : List (LockEvent L M)) : Prop where
  allowed : ∀ before e rest, t = before ++ e :: rest → e.Allowed guard (heldAfter [] before)
  /-- What was taken has been released. -/
  released : heldAfter [] t = []

/-- The trace is disciplined when `held` is held before it. -/
def Follows (guard : M → L) : Held L → List (LockEvent L M) → Prop
  | held, [] => held = []
  | held, e :: t => e.Allowed guard held ∧ Follows guard (e.after held) t

/-- As many releases of a lock in a mode as acquires. -/
def Balanced [DecidableEq M] (t : List (LockEvent L M)) : Prop :=
  ∀ l m, t.count (.acquire l m) = t.count (.release l m)

section Rules

variable {guard : M → L} {held : Held L} {t u : List (LockEvent L M)}

theorem follows_iff : Follows guard held t ↔
    (∀ before e rest, t = before ++ e :: rest → e.Allowed guard (heldAfter held before)) ∧
      heldAfter held t = [] := by
  induction t generalizing held with
  | nil =>
    constructor
    · intro h
      refine ⟨fun before e rest heq => ?_, h⟩
      exact absurd heq.symm (List.append_ne_nil_of_right_ne_nil _ (List.cons_ne_nil _ _))
    · intro h
      exact h.2
  | cons e t ih =>
    rw [Follows, ih]
    constructor
    · rintro ⟨he, hall, hend⟩
      refine ⟨fun before e' rest heq => ?_, hend⟩
      cases before with
      | nil =>
        cases heq
        exact he
      | cons b before =>
        cases heq
        exact hall before e' rest rfl
    · rintro ⟨hall, hend⟩
      exact ⟨hall [] e t rfl, fun before e' rest heq => hall (e :: before) e' rest (by rw [heq]; rfl), hend⟩

theorem disciplined_iff : Disciplined guard t ↔ Follows guard [] t :=
  ⟨fun h => follows_iff.mpr ⟨h.allowed, h.released⟩, fun h => ⟨(follows_iff.mp h).1, (follows_iff.mp h).2⟩⟩

theorem disciplined_nil : Disciplined guard ([] : List (LockEvent L M)) := disciplined_iff.mpr rfl

theorem follows_append (h : heldAfter held t = []) :
    Follows guard held (t ++ u) ↔ Follows guard held t ∧ Follows guard [] u := by
  induction t generalizing held with
  | nil =>
    cases h
    exact (and_iff_right rfl).symm
  | cons e t ih => rw [List.cons_append, Follows, Follows, ih h, and_assoc]

/-- Behind a trace that leaves nothing held, a trace is on its own. -/
theorem disciplined_append_iff (h : heldAfter [] t = []) :
    Disciplined guard (t ++ u) ↔ Disciplined guard t ∧ Disciplined guard u := by
  rw [disciplined_iff, disciplined_iff, disciplined_iff, follows_append h]

variable [DecidableEq M]

theorem count_of_follows (h : Follows guard held t) (l : L) (m : Mode) :
    held.count (l, m) + t.count (.acquire l m) = t.count (.release l m) := by
  induction t generalizing held with
  | nil =>
    cases h
    rfl
  | cons e t ih =>
    have hrest := ih h.2
    cases e with
    | acquire l' m' =>
      simp only [LockEvent.after, List.count_cons, beq_iff_eq, Prod.mk.injEq, LockEvent.acquire.injEq,
        reduceCtorEq, if_false] at hrest ⊢
      omega
    | release l' m' =>
      have hmem : (l', m') ∈ held := h.1
      have hpos := List.count_pos_iff.mpr hmem
      simp only [LockEvent.after, List.count_cons, List.count_erase, beq_iff_eq, Prod.mk.injEq,
        LockEvent.release.injEq, reduceCtorEq, if_false] at hrest ⊢
      by_cases heq : l' = l ∧ m' = m
      · obtain ⟨rfl, rfl⟩ := heq
        simp only [and_self, if_true] at hrest ⊢
        omega
      · simp only [heq, if_false] at hrest ⊢
        omega
    | read x => simpa [LockEvent.after] using hrest
    | write x => simpa [LockEvent.after] using hrest

theorem Disciplined.balanced (h : Disciplined guard t) : Balanced t := by
  intro l m
  simpa using count_of_follows (disciplined_iff.mp h) l m

theorem Balanced.append (ht : Balanced t) (hu : Balanced u) : Balanced (t ++ u) := by
  intro l m
  rw [List.count_append, List.count_append, ht l m, hu l m]

theorem balanced_seqAll {ps : List (Prog L M S)} (h : ∀ p ∈ ps, ∀ s, Balanced (p.trace s)) (s : S) :
    Balanced ((Prog.seqAll ps).trace s) := by
  induction ps generalizing s with
  | nil => exact fun _ _ => rfl
  | cons p ps ih =>
    rw [Prog.seqAll, Prog.trace_seq]
    exact (h p List.mem_cons_self s).append (ih (fun q hq => h q (List.mem_cons_of_mem _ hq)) _)

/-- A hold that the rest of the trace does not end in its mode. -/
theorem not_disciplined_of_unreleased {l : L} {m : Mode} (h : t.count (.acquire l m) = t.count (.release l m)) :
    ¬ Disciplined guard (.acquire l m :: t) := by
  intro hd
  have hbal := hd.balanced l m
  simp [h] at hbal

end Rules

end Locks
