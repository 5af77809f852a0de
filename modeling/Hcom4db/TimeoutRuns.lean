import Hcom4db.Base.TwoRuns
import Hcom4db.Timeout

/-!
# Hcom4db.TimeoutRuns

Who decides the timeout of a request. `OckRpcClientSetTimeout` takes a client, and writes a global the
calls of every client read.

* `inv_run`: in every run of the library, the global holds what the last setting stored.
* `timeout_per_client`: two runs that differ in the settings on one client send a request with the same
  timeout, if the last setting before it was not made on that client in either run.
-/

namespace Hcom4db

namespace Timeouts

open Runs

structure Sys where
  w : World := {}
  /-- The client of the last setting. -/
  setter : Option Addr := none

inductive Label where
  | setTimeout (client : Addr) (timeout : Int64)
  | submit (op : AsyncOp) (done : Option OckRpcCallDone) (e : SubmitEnv)
  /-- The transport runs callback `k` of those it owes. -/
  | complete (k : Nat) (c : Completion)
  | connect (a : ConnectArgs) (e : ConnectEnv)
  | disconnect (client : Addr) (ret : Int)
  | create (a : CreateArgs) (e : CreateEnv)
  | start (server : Addr) (ret : Int)
  | destroy (server : Addr) (ret : Int)
  | add (kind : ServiceKind) (server : Addr) (service : Option OckRpcService)
  | receive (ctx : Addr) (e : ReceiveEnv)
  | rndvReceive (ctx : Addr) (e : RndvEnv)

/-- The transport runs one of the callbacks it owes. -/
def complete (w : World) (k : Nat) (c : Completion) : World :=
  match w.inflight[k]? with
  | none => w
  | some cb => runCallback (dequeue w k) cb c

def step (s : Sys) : Label → Sys
  | .setTimeout client timeout =>
    { w := ockRpcClientSetTimeout s.w client timeout, setter := some client }
  | .submit op done e => { s with w := (op.submit s.w done e).1 }
  | .complete k c => { s with w := complete s.w k c }
  | .connect a e => { s with w := (ockRpcClientConnectWithCfg s.w a e).1 }
  | .disconnect client ret => { s with w := ockRpcClientDisconnect s.w client ret }
  | .create a e => { s with w := (ockRpcServerCreateWithCfg s.w a e).1 }
  | .start server ret => { s with w := (ockRpcServerStart s.w server ret).1 }
  | .destroy server ret => { s with w := ockRpcServerDestroy s.w server ret }
  | .add kind server service => { s with w := (addService s.w kind server service).1 }
  | .receive ctx e => { s with w := (ockRpcReceiveHandle s.w ctx e).1 }
  | .rndvReceive ctx e => { s with w := (ockRpcRndvReceiveHandler s.w ctx e).1 }

/-- A run from the start of the process. -/
def run (labels : List Label) : Sys := labels.foldl step {}

/-- The setting of a timeout a label makes. -/
def Label.setting? : Label → Option (Addr × Int64)
  | .setTimeout client timeout => some (client, timeout)
  | _ => none

/-- A setting of the timeout of `client`. -/
def Label.sets (client : Addr) (l : Label) : Bool := decide (l.setting?.map Prod.fst = some client)

section Step

variable {s t : Sys} {client : Addr}

theorem complete_gTimeoutTime (w : World) (k : Nat) (c : Completion) :
    (complete w k c).gTimeoutTime = w.gTimeoutTime := by
  unfold complete
  split
  · rfl
  · exact (runCallback_callFrame (dequeue w k) _ c).gTimeoutTime

/-- A setting replaces the timeout and records its client, every other step leaves both alone. -/
theorem step_cases (s : Sys) (l : Label) :
    (∃ client timeout, l = .setTimeout client timeout ∧
      (step s l).w.gTimeoutTime = timeoutSeconds timeout ∧ (step s l).setter = some client) ∨
    (l.setting? = none ∧ (step s l).w.gTimeoutTime = s.w.gTimeoutTime ∧
      (step s l).setter = s.setter) := by
  cases l with
  | setTimeout client timeout => exact .inl ⟨client, timeout, rfl, rfl, rfl⟩
  | submit op done e => exact .inr ⟨rfl, (op.submit_callFrame s.w done e).gTimeoutTime, rfl⟩
  | complete k c => exact .inr ⟨rfl, complete_gTimeoutTime s.w k c, rfl⟩
  | connect a e => exact .inr ⟨rfl, (connect_frame s.w a e).gTimeoutTime, rfl⟩
  | disconnect client ret => exact .inr ⟨rfl, (disconnect_frame s.w client ret).gTimeoutTime, rfl⟩
  | create a e => exact .inr ⟨rfl, (create_frame s.w a e).gTimeoutTime, rfl⟩
  | start server ret => exact .inr ⟨rfl, (start_frame s.w server ret).gTimeoutTime, rfl⟩
  | destroy server ret => exact .inr ⟨rfl, (destroy_frame s.w server ret).gTimeoutTime, rfl⟩
  | add kind server service =>
    exact .inr ⟨rfl, (addService_frame s.w kind server service).gTimeoutTime, rfl⟩
  | receive ctx e => exact .inr ⟨rfl, (receive_frame s.w ctx e).gTimeoutTime, rfl⟩
  | rndvReceive ctx e => exact .inr ⟨rfl, (rndvReceive_frame s.w ctx e).gTimeoutTime, rfl⟩

/-- The two states agree on the timeout, unless the last setting of one of them was made on `client`. -/
def SameUnlessSet (client : Addr) (s t : Sys) : Prop :=
  s.setter = some client ∨ t.setter = some client ∨
    (s.setter = t.setter ∧ s.w.gTimeoutTime = t.w.gTimeoutTime)

theorem sameUnlessSet_symm (h : SameUnlessSet client s t) : SameUnlessSet client t s := by
  rcases h with h | h | ⟨h, h'⟩
  · exact .inr (.inl h)
  · exact .inl h
  · exact .inr (.inr ⟨h.symm, h'.symm⟩)

theorem sameUnlessSet_both (h : SameUnlessSet client s t) (l : Label) :
    SameUnlessSet client (step s l) (step t l) := by
  rcases step_cases s l with ⟨c, timeout, rfl, h1, h2⟩ | ⟨hl, h1, h2⟩
  · exact .inr (.inr ⟨rfl, rfl⟩)
  · rcases step_cases t l with ⟨c, timeout, rfl, -⟩ | ⟨-, h3, h4⟩
    · cases hl
    · unfold SameUnlessSet
      rw [h1, h2, h3, h4]
      exact h

theorem sameUnlessSet_left {l : Label} (hl : l.sets client = true) :
    SameUnlessSet client (step s l) t := by
  cases l with
  | setTimeout c timeout =>
    refine .inl ?_
    exact of_decide_eq_true hl
  | _ => cases of_decide_eq_true hl

theorem sameUnlessSet_unwinds (client : Addr) :
    Unwinds (fun _ _ => True) step (fun l => !l.sets client) (SameUnlessSet client) := by
  refine Unwinds.of_symm (fun _ _ => sameUnlessSet_symm) ?_ ?_
  · intro s t l h _ _ _
    exact sameUnlessSet_both h l
  · intro s t l _ hl _
    exact sameUnlessSet_left (by simpa using hl)

end Step

theorem allOk_true (s : Sys) (l : List Label) : AllOk (fun _ _ => True) step s l := by
  induction l generalizing s with
  | nil => trivial
  | cons a l ih => exact ⟨trivial, ih _⟩

/-- A request whose op info takes its timeout from `g_timeoutTime`. -/
def ReadsTimeout : ResponseOp → Prop
  | .clientCall _ _ _ => True
  | .callWithParam _ _ _ => False
  | .callRndv _ _ _ => True
  | .callRndvIov _ _ _ => False

theorem opInfo_congr {op : ResponseOp} {t t' : Int32} (h : ReadsTimeout op → t = t') :
    op.opInfo t = op.opInfo t' := by
  cases op with
  | clientCall client msgId request => rw [h trivial]
  | callWithParam client msgId reqIov => rfl
  | callRndv client msgId request => rw [h trivial]
  | callRndvIov client msgId request => rfl

theorem sentOps_congr {op : ResponseOp} {w w' : World}
    (h : ReadsTimeout op → w.gTimeoutTime = w'.gTimeoutTime) (rsp : Addr)
    (done : Option OckRpcCallDone) (e : SubmitEnv) :
    sentOps (w.since (op.submit w rsp done e).1) = sentOps (w'.since (op.submit w' rsp done e).1) := by
  by_cases hs : op.Sends rsp done e
  · rw [ResponseOp.sentOps_submit hs, ResponseOp.sentOps_submit hs, opInfo_congr h]
  · rw [ResponseOp.sentOps_unsent hs, ResponseOp.sentOps_unsent hs]

/-- **Timeouts across clients.** Two runs that differ in the settings on `client` send the same op info
with a request, if the request takes no timeout or the last setting before it was made on another client in
both runs. -/
theorem timeout_per_client {client : Addr} {l l' : List Label}
    (hsame : l.filter (fun a => !a.sets client) = l'.filter (fun a => !a.sets client))
    {op : ResponseOp}
    (hlast : ReadsTimeout op → (run l).setter ≠ some client ∧ (run l').setter ≠ some client)
    (rsp : Addr) (done : Option OckRpcCallDone) (e : SubmitEnv) :
    sentOps ((run l).w.since (op.submit (run l).w rsp done e).1) =
      sentOps ((run l').w.since (op.submit (run l').w rsp done e).1) := by
  have hR : SameUnlessSet client (run l) (run l') :=
    (sameUnlessSet_unwinds client).unwinding (.inr (.inr ⟨rfl, rfl⟩)) hsame (allOk_true {} l)
      (allOk_true {} l')
  refine sentOps_congr ?_ rsp done e
  intro hread
  rcases hR with h | h | ⟨-, h⟩
  · exact absurd h (hlast hread).1
  · exact absurd h (hlast hread).2
  · exact h

/-- Client 2 sets its timeout after client 1 has. -/
theorem timeout_own_setting :
    sentOps ((run [.setTimeout 1 5000, .setTimeout 2 7000]).w.since
        ((ResponseOp.clientCall 2 5 (some ⟨64, 8⟩)).submit
          (run [.setTimeout 1 5000, .setTimeout 2 7000]).w 96 none {}).1) =
      sentOps ((run [.setTimeout 2 7000]).w.since
        ((ResponseOp.clientCall 2 5 (some ⟨64, 8⟩)).submit (run [.setTimeout 2 7000]).w 96 none {}).1) :=
  @timeout_per_client 1 [.setTimeout 1 5000, .setTimeout 2 7000] [.setTimeout 2 7000] rfl
    (.clientCall 2 5 (some ⟨64, 8⟩)) (fun _ => ⟨by decide, by decide⟩) 96 none {}

/-- Client 1 sets 0, and the requests of client 2 return at once. -/
theorem timeout_of_other_client :
    let l : List Label := [.setTimeout 2 7000, .setTimeout 1 0]
    let l' : List Label := [.setTimeout 2 7000]
    let call := ResponseOp.clientCall 2 5 (some ⟨64, 8⟩)
    l.filter (fun a => !a.sets 1) = l'.filter (fun a => !a.sets 1) ∧
      sentOps ((run l).w.since (call.submit (run l).w 96 none {}).1) = [{ opCode := 5, timeout := 0 }] ∧
      sentOps ((run l').w.since (call.submit (run l').w 96 none {}).1) =
        [{ opCode := 5, timeout := 7 }] := by
  refine ⟨rfl, ?_, ?_⟩
  · decide
  · decide

end Timeouts

end Hcom4db
