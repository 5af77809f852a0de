import Hcom4db.Services
import Hcom4db.Base.Runs

/-!
# Hcom4db.RndvContexts

Who releases the context of a rendezvous message. The transport keeps it until `Service_RndvFreeContext`
is called, and only the user's handler does that, through `OckRpcServerCleanupRndvCtx`. A message that
reaches no handler keeps its context, and one with more segments than the arrays of the message have is
written past their end.

* `freed_receive`: what one delivery releases.
* `rndv_released_iff`: a context is released exactly when its message fits and reaches a handler.
* `drained_run`: no context is left after a run in which every message does.
-/

namespace Hcom4db

namespace RndvContexts

/-- A call in the body of a user's handler. -/
inductive HandlerCall where
  | cleanupRndvCtx (ctx : Addr)
  | other
  deriving DecidableEq

/-- `OckRpcServerCleanupRndvCtx`: what it calls `Service_RndvFreeContext` on. -/
def ockRpcServerCleanupRndvCtx (ctx : Addr) : List Addr := [ctx]

def HandlerCall.freed : HandlerCall → List Addr
  | .cleanupRndvCtx ctx => ockRpcServerCleanupRndvCtx ctx
  | .other => []

/-- The calls each handler makes for a context and a message. -/
abbrev Handlers := Addr → Addr → OckRpcRndvMessage → List HandlerCall

/-- Every handler cleans up the context it is given, once. -/
def CleansUp (H : Handlers) : Prop :=
  ∀ h ctx msg, (H h ctx msg).count (.cleanupRndvCtx ctx) = 1

/-- The contexts released while these events happen. -/
def freed (H : Handlers) (evs : List Event) : List Addr :=
  evs.flatMap fun
    | .rndvHandler h ctx msg => (H h ctx msg).flatMap HandlerCall.freed
    | _ => []

/-- A delivery stays in the arrays of its message and releases its context once. -/
def Released (H : Handlers) (w : World) (ctx : Addr) (e : RndvEnv) : Prop :=
  let evs := w.since (ockRpcRndvReceiveHandler w ctx e).1
  Event.ub ∉ evs ∧ (freed H evs).count ctx = 1

/-- The message fits in its array, the three queries succeed and a handler is registered for the id. -/
structure Handled (w : World) (e : RndvEnv) : Prop where
  fits : e.WithinArray
  found : ∃ id h, e.msgId = some id ∧ w.gRndvHandleMap.find id.toInt16 = some h

/-! ## One message -/

section

variable {H : Handlers}

theorem count_freed_calls (calls : List HandlerCall) (ctx : Addr) :
    (calls.flatMap HandlerCall.freed).count ctx = calls.count (.cleanupRndvCtx ctx) := by
  induction calls with
  | nil => rfl
  | cons c calls ih =>
    rw [List.flatMap_cons, List.count_append, ih, List.count_cons]
    cases c with
    | cleanupRndvCtx ctx' =>
      simp only [HandlerCall.freed, ockRpcServerCleanupRndvCtx, List.count_cons, List.count_nil,
        beq_iff_eq, HandlerCall.cleanupRndvCtx.injEq]
      omega
    | other => simp [HandlerCall.freed]

/-- A delivery releases its context once or, without a handler, nothing at all; it leaves the arrays
exactly when the message does not fit. -/
theorem freed_receive (hH : CleansUp H) (w : World) (ctx : Addr) (e : RndvEnv) :
    (Event.ub ∈ w.since (ockRpcRndvReceiveHandler w ctx e).1 ↔ ¬ e.WithinArray) ∧
    ((∃ id h, e.msgId = some id ∧ w.gRndvHandleMap.find id.toInt16 = some h) ∧
        (freed H (w.since (ockRpcRndvReceiveHandler w ctx e).1)).count ctx = 1 ∨
      (¬ ∃ id h, e.msgId = some id ∧ w.gRndvHandleMap.find id.toInt16 = some h) ∧
        freed H (w.since (ockRpcRndvReceiveHandler w ctx e).1) = []) := by
  obtain ⟨msg, evs, hevs, hsince⟩ := Services.since_rndvReceive w ctx e
  have hnone : freed H evs = [] := by
    obtain ⟨-, rfl⟩ | ⟨-, rfl⟩ := hevs
    · rfl
    · rfl
  have hub : Event.ub ∈ evs ↔ ¬ e.WithinArray := by
    obtain ⟨h, rfl⟩ | ⟨h, rfl⟩ := hevs
    · simp [h]
    · simp [h]
  rw [hsince]
  constructor
  · rw [List.mem_append, hub, or_iff_right_iff_imp]
    intro hmem
    obtain ⟨h, -, hh⟩ := Option.map_eq_some_iff.mp (Option.mem_toList.mp hmem)
    cases hh
  · cases hfind : e.msgId.bind fun id => w.gRndvHandleMap.find id.toInt16 with
    | none =>
      refine .inr ⟨?_, hnone⟩
      rintro ⟨id, h, hid, hh⟩
      rw [hid, Option.bind_some, hh] at hfind
      cases hfind
    | some h =>
      obtain ⟨id, hid, hh⟩ := Option.bind_eq_some_iff.mp hfind
      refine .inl ⟨⟨id, h, hid, hh⟩, ?_⟩
      have happ : freed H ((some (Event.rndvHandler h ctx msg)).toList ++ evs) =
          (H h ctx msg).flatMap HandlerCall.freed ++ freed H evs := rfl
      rw [Option.map_some, happ, hnone, List.append_nil, count_freed_calls, hH h ctx msg]

theorem released_iff (hH : CleansUp H) (w : World) (ctx : Addr) (e : RndvEnv) :
    Released H w ctx e ↔ Handled w e := by
  obtain ⟨hub, hfreed⟩ := freed_receive hH w ctx e
  have hin : Event.ub ∉ w.since (ockRpcRndvReceiveHandler w ctx e).1 ↔ e.WithinArray := by
    rw [hub, not_not]
  unfold Released
  simp only [hin]
  obtain ⟨hfound, hcount⟩ | ⟨hnot, hnil⟩ := hfreed
  · constructor
    · rintro ⟨hfits, -⟩
      exact ⟨hfits, hfound⟩
    · intro h
      exact ⟨h.fits, hcount⟩
  · refine iff_of_false ?_ fun h => hnot h.found
    rw [hnil]
    simp

end

/-- Handlers that reply and then clean up. -/
def replyAndClean : Handlers := fun _ ctx _ => [.other, .cleanupRndvCtx ctx]

theorem replyAndClean_cleansUp : CleansUp replyAndClean := by
  intro h ctx msg
  simp [replyAndClean]

/-! ## Many messages -/

/-- The services of the process, and the contexts the transport keeps. -/
structure Sys where
  services : Services.Sys := {}
  live : List Addr := []

/-- No context is left with the transport. -/
def Sys.Drained (s : Sys) : Prop := s.live = []

/-- What a step releases is taken out; a delivery first brings its context. -/
def step (H : Handlers) (s : Sys) (l : Services.Label) : Sys :=
  let services := Services.step s.services l
  let released := freed H (s.services.w.since services.w)
  match l with
  | .rndvReceive ctx _ => ⟨services, (ctx :: s.live).filter fun c => c ∉ released⟩
  | _ => ⟨services, s.live⟩

/-- A message that is delivered fits and reaches a handler. -/
def Delivers (s : Sys) : Services.Label → Prop
  | .rndvReceive _ e => Handled s.services.w e
  | _ => True

theorem step_drained {H : Handlers} (hH : CleansUp H) {s : Sys} (l : Services.Label)
    (hs : s.Drained) (hl : Delivers s l) : (step H s l).Drained := by
  unfold Sys.Drained at hs ⊢
  cases l with
  | rndvReceive ctx e =>
    obtain ⟨-, hcount⟩ := (released_iff hH s.services.w ctx e).mpr hl
    have hmem : ctx ∈ freed H (s.services.w.since (ockRpcRndvReceiveHandler s.services.w ctx e).1) :=
      List.count_pos_iff.mp (by omega)
    simp only [step, Services.step, hs]
    simp [hmem]
  | add kind server service => exact hs
  | create a e => exact hs
  | destroy server ret => exact hs
  | receive ctx e => exact hs

/-- A run in which every message reaches a handler keeps no context. -/
theorem drained_run {H : Handlers} (hH : CleansUp H) {s : Sys}
    (h : Runs.Reached Delivers (step H) {} s) : s.Drained :=
  h.invariant (show Sys.Drained {} from rfl) fun _ l hs hl => step_drained hH l hs hl

/-- A message's context is released, and once, exactly when the message fits in its array and reaches a
handler: on the other four exits nobody owns it. After a run of messages that all do, none is left. -/
theorem rndv_released_iff (H : Handlers) (hH : CleansUp H) :
    (∀ (w : World) (ctx : Addr) (e : RndvEnv), Released H w ctx e ↔ Handled w e) ∧
    ∀ s, Runs.Reached Delivers (step H) {} s → s.Drained :=
  ⟨released_iff hH, fun _ h => drained_run hH h⟩

/-- With a handler for 5 the context 7 of a message with that id is released once. -/
theorem rndv_released_five :
    Released replyAndClean { gRndvHandleMap := (∅ : StdMap Int16 Addr).insertNew 5 12 } 7
      Services.idFive :=
  ((rndv_released_iff replyAndClean replyAndClean_cleansUp).1 _ 7 Services.idFive).mpr
    ⟨Services.idFive_withinArray, 5, 12, rfl, rfl⟩

/-- Without one it is not released, whatever the handlers there are do. -/
theorem rndv_kept_without_handler :
    (freed replyAndClean (World.since {} (ockRpcRndvReceiveHandler {} 7 Services.idFive).1)).count 7 = 0 ∧
    ¬ ∀ H, CleansUp H → ∀ (w : World) (ctx : Addr) (e : RndvEnv),
      (freed H (w.since (ockRpcRndvReceiveHandler w ctx e).1)).count ctx = 1 := by
  have h0 : (freed replyAndClean
      (World.since {} (ockRpcRndvReceiveHandler {} 7 Services.idFive).1)).count 7 = 0 := by decide
  refine ⟨h0, fun h => ?_⟩
  have h1 := h replyAndClean replyAndClean_cleansUp {} 7 Services.idFive
  rw [h0] at h1
  cases h1

end RndvContexts

end Hcom4db
