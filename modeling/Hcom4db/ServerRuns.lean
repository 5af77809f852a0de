import Hcom4db.Base.Runs
import Hcom4db.CreateAccepts

/-!
# Hcom4db.ServerRuns

Runs of creates, starts and destroys of any number of servers, and the options each start passes on.

Beside the state of the library a run keeps what the create of each live server computed, which server's
create was the last to write `g_options`, and the starts so far.

* `starts_own_options`: if every start of a live server comes while its own create is the last that wrote
  `g_options`, every start passes the options its server's create computed.
-/

namespace Hcom4db

namespace Servers

open Runs

/-! ## Reading a trace -/

def createdService? : Event → Option Addr
  | .serviceCreate _ _ service => some service
  | _ => none

/-- The service an event destroys. -/
def destroyedService? : Event → Option Addr
  | .serviceDestroy service ret => if ret = ockRpcOk then some service else none
  | _ => none

def started? : Event → Option (Addr × ServiceOptions)
  | .serviceStart service options => some (service, options)
  | _ => none

def created (evs : List Event) : List Addr := evs.filterMap createdService?
def destroyed (evs : List Event) : List Addr := evs.filterMap destroyedService?
def started (evs : List Event) : List (Addr × ServiceOptions) := evs.filterMap started?

/-! ## The system -/

structure Start where
  server : Addr
  passed : ServiceOptions
  own : ServiceOptions

structure Sys where
  w : World
  /-- What the create of a live server computed. -/
  computed : Addr → Option ServiceOptions := fun _ => none
  /-- The server whose create was the last to write `g_options`, `none` when a destroy has reset them since.
  A create that fails counts as a write only if it has changed them or destroyed its service. -/
  writer : Option Addr := none
  /-- The starts of live servers. -/
  starts : List Start := []

inductive Label where
  | create (a : CreateArgs) (e : CreateEnv)
  | start (server : Addr) (ret : Int)
  | destroy (server : Addr) (ret : Int)

/-- The servers that are still live after `evs`. -/
def forget (computed : Addr → Option ServiceOptions) (evs : List Event) :
    Addr → Option ServiceOptions :=
  fun server => if server ∈ destroyed evs then none else computed server

def step (s : Sys) : Label → Sys
  | .create a e =>
    let r := ockRpcServerCreateWithCfg s.w a e
    let evs := s.w.since r.1
    if r.2 = ockRpcOk then
      { s with
        w := r.1
        computed := Function.update s.computed e.service (some r.1.gOptions)
        writer := some e.service }
    else
      { s with
        w := r.1
        computed := forget s.computed evs
        writer := if r.1.gOptions = s.w.gOptions ∧ destroyed evs = [] then s.writer else none }
  | .start server ret =>
    let r := ockRpcServerStart s.w server ret
    { s with
      w := r.1
      starts := (started (s.w.since r.1)).filterMap (fun p =>
        (s.computed p.1).map fun own => ⟨p.1, p.2, own⟩) ++ s.starts }
  | .destroy server ret =>
    let w' := ockRpcServerDestroy s.w server ret
    let evs := s.w.since w'
    { s with
      w := w'
      computed := forget s.computed evs
      writer := if destroyed evs = [] then s.writer else none }

/-- A live server is started while its own create is the last that wrote `g_options`. -/
def StartsLast (s : Sys) : Label → Prop
  | .start server _ => (s.computed server).isSome → s.writer = some server
  | _ => True

structure Inv (s : Sys) : Prop where
  written : ∀ server, s.writer = some server → s.computed server = some s.w.gOptions
  starts : ∀ t ∈ s.starts, t.passed = t.own

/-! ## Runs -/

/-- A destroy that destroys nothing leaves the options alone. -/
theorem destroy_options (w : World) (server : Addr) (ret : Int)
    (h : destroyed (w.since (ockRpcServerDestroy w server ret)) = []) :
    (ockRpcServerDestroy w server ret).gOptions = w.gOptions := by
  unfold ockRpcServerDestroy at h ⊢
  split
  · rfl
  · rename_i name hk
    simp only [hk] at h ⊢
    split
    · rfl
    · rename_i hret
      rw [if_neg hret] at h
      rw [World.since_of_trace (show _ = [.serviceDestroy server ret, .serviceStop server] ++ w.trace
        from rfl)] at h
      simp [destroyed, destroyedService?, not_not.mp hret] at h

section Step

variable {s : Sys}

theorem forget_of_nil {computed : Addr → Option ServiceOptions} {evs : List Event}
    (h : destroyed evs = []) : forget computed evs = computed := by
  funext server
  simp [forget, h]

theorem inv_create (I : Inv s) (a : CreateArgs) (e : CreateEnv) : Inv (step s (.create a e)) := by
  simp only [step]
  split
  · refine ⟨fun server h => ?_, I.starts⟩
    simp only [Option.some.injEq] at h
    subst h
    exact Function.update_self _ _ _
  · refine ⟨fun server h => ?_, I.starts⟩
    simp only at h ⊢
    split at h
    · rename_i hkept
      obtain ⟨hoptions, hdestroyed⟩ := hkept
      rw [forget_of_nil hdestroyed, hoptions]
      exact I.written server h
    · cases h

theorem inv_start (I : Inv s) {server : Addr} {ret : Int} (hl : StartsLast s (.start server ret)) :
    Inv (step s (.start server ret)) := by
  have hev : s.w.since (ockRpcServerStart s.w server ret).1 = [.serviceStart server s.w.gOptions] :=
    World.since_of_trace rfl
  refine ⟨I.written, fun t ht => ?_⟩
  simp only [step, hev] at ht
  rcases List.mem_append.mp ht with ht | ht
  · obtain ⟨p, hp, hown⟩ := List.mem_filterMap.mp ht
    simp only [started, started?, List.filterMap_cons, List.filterMap_nil, List.mem_singleton] at hp
    subst hp
    obtain ⟨own, ho, rfl⟩ := Option.map_eq_some_iff.mp hown
    have hw := I.written server (hl (by rw [ho]; rfl))
    rw [ho] at hw
    exact (Option.some.inj hw).symm
  · exact I.starts t ht

theorem inv_destroy (I : Inv s) (server : Addr) (ret : Int) : Inv (step s (.destroy server ret)) := by
  refine ⟨fun server' h => ?_, I.starts⟩
  simp only [step] at h ⊢
  split at h
  · rename_i hd
    rw [forget_of_nil hd, destroy_options s.w server ret hd]
    exact I.written server' h
  · cases h

theorem inv_step (I : Inv s) {l : Label} (hl : StartsLast s l) : Inv (step s l) := by
  cases l with
  | create a e => exact inv_create I a e
  | start server ret => exact inv_start I hl
  | destroy server ret => exact inv_destroy I server ret

end Step

/-- **A server starts with its own options** in every run in which each live server is started while its
own create is the last that wrote `g_options`. -/
theorem starts_own_options {w : World} {s : Sys} (hrun : Reached StartsLast step { w := w } s) :
    ∀ t ∈ s.starts, t.passed = t.own := by
  have h0 : Inv { w := w } := by
    constructor
    · intro server h
      cases h
    · intro t ht
      cases ht
  have I : Inv s := hrun.invariant h0 fun s l I hl => inv_step I hl
  exact I.starts

/-- A create with a name and a segment size. -/
def namedServer (name segSize : String) : CreateArgs :=
  ⟨some (cstr "10.0.0.1"), 0, true, some
    { mask := 1
      configs := ⟨2, some fun i =>
        if i = 0 then ⟨some ockRpcStrServerName, some ⟨700, cstr name⟩⟩
        else ⟨some ockRpcStrPreSegmentSize, some ⟨710, cstr segSize⟩⟩⟩ }⟩

/-- A server is created and started. -/
theorem starts_own_options_one : ∃ t,
    (step (step { w := {} } (.create (namedServer "a" "8") { service := 40 })) (.start 40 0)).starts =
      [t] ∧ t.server = 40 ∧ t.passed = t.own := by
  have hrun : Reached StartsLast step { w := {} }
      (step (step { w := {} } (.create (namedServer "a" "8") { service := 40 })) (.start 40 0)) :=
    (Reached.refl.tail trivial).tail fun _ => rfl
  exact ⟨_, rfl, rfl, starts_own_options hrun _ (List.mem_singleton_self _)⟩

/-- A second server is created before the first one is started: the first one starts with the segment
size of the second. -/
theorem starts_with_other_options : ∃ (s : Sys) (t : Start),
    Reached (fun _ _ => True) step { w := {} } s ∧ t ∈ s.starts ∧ t.server = 40 ∧
      t.own.mrSendReceiveSegSize = 8 ∧ t.passed.mrSendReceiveSegSize = 16 :=
  ⟨step (step (step { w := {} } (.create (namedServer "a" "8") { service := 40 }))
      (.create (namedServer "b" "16") { service := 41 })) (.start 40 0), _,
    ((Reached.refl.tail trivial).tail trivial).tail trivial, List.mem_cons_self, rfl, rfl, rfl⟩

end Servers

end Hcom4db
