import Hcom4db.ServerEffects

/-!
# Hcom4db.TlsCallbacks

The four callbacks the library registers for TLS, over runs of creates, destroys and handshakes.

The functions of all servers live in the one `g_tlsFunc`: a create with TLS writes three of them, the
callback for the private key the fourth, and a destroy clears them. `ockRpcTlsGetCACb` tests the pointer
it was given for the verify function, not the function stored there.

* `callbacks_serve_own`: a callback of a server calls that server's functions and hands out no null
  pointer, as long as the last function written for it is its own and the user's functions hand out what
  goes with the paths.
-/

namespace Hcom4db

/-! ## The callbacks -/

/-- What the user's function for the private key stores through its pointers. -/
structure KeyAnswer where
  priKeyPath : Addr
  keyPass : Addr
  erase : Addr

/-- What the user's function for the CA stores; `verifyPtr` is where it is told to store `verify`. -/
structure CaAnswer where
  caPath : Addr
  crlPath : Addr
  verify : Addr
  verifyPtr : Addr

def ockRpcTlsGetCertCb (w : World) (certPath : Addr) : World × Int :=
  (w.emit (.tlsCall w.gTlsFunc.getCert), if certPath = 0 then ockRpcErr else ockRpcOk)

def ockRpcTlsKeypassEraseCb (w : World) : World := w.emit (.tlsCall w.gTlsFunc.eraseKeyPass)

/-- The erase function the transport is given is always `OckRpcTlsKeypassEraseCb`. -/
def ockRpcTlsGetPrivateKeyCb (w : World) (k : KeyAnswer) : World × Int :=
  let w := w.emit (.tlsCall w.gTlsFunc.getPriKey)
  ({ w with gTlsFunc := { w.gTlsFunc with eraseKeyPass := k.erase } },
    if k.priKeyPath = 0 ∨ k.keyPass = 0 then ockRpcErr else ockRpcOk)

def ockRpcTlsGetCACb (w : World) (c : CaAnswer) : World × Int :=
  (w.emit (.tlsCall w.gTlsFunc.getCaAndVerify),
    if c.caPath = 0 ∨ c.crlPath = 0 ∨ c.verifyPtr = 0 then ockRpcErr else ockRpcOk)

/-- A callback of the transport, with what the user's function stores. -/
inductive TlsCallback where
  | getCert (certPath : Addr)
  | getPrivateKey (k : KeyAnswer)
  | getCA (c : CaAnswer)
  | keypassErase

def runTlsCallback (w : World) : TlsCallback → World × Int
  | .getCert certPath => ockRpcTlsGetCertCb w certPath
  | .getPrivateKey k => ockRpcTlsGetPrivateKeyCb w k
  | .getCA c => ockRpcTlsGetCACb w c
  | .keypassErase => (ockRpcTlsKeypassEraseCb w, ockRpcOk)

/-- The function of a server a callback has to call. -/
def TlsCallback.function (tls : TlsFuncs) : TlsCallback → Addr
  | .getCert _ => tls.getCert
  | .getPrivateKey _ => tls.getPriKey
  | .getCA _ => tls.getCaAndVerify
  | .keypassErase => tls.eraseKeyPass

/-- The pointers a callback hands out; behind the erase function stands the one in `g_tlsFunc`. -/
def TlsCallback.handedOut (w' : World) : TlsCallback → List Addr
  | .getCert certPath => [certPath]
  | .getPrivateKey k => [k.priKeyPath, k.keyPass, w'.gTlsFunc.eraseKeyPass]
  | .getCA c => [c.caPath, c.crlPath, c.verify]
  | .keypassErase => []

/-- The user function an event calls. -/
def Event.tlsCalled? : Event → Option Addr
  | .tlsCall f => some f
  | _ => none

def tlsCalled (evs : List Event) : List Addr := evs.filterMap Event.tlsCalled?

theorem since_runTlsCallback (w : World) (cb : TlsCallback) :
    tlsCalled (w.since (runTlsCallback w cb).1) = [cb.function w.gTlsFunc] := by
  cases cb with
  | getCert certPath =>
    rw [World.since_of_trace (show _ = [.tlsCall w.gTlsFunc.getCert] ++ w.trace from rfl)]
    rfl
  | getPrivateKey k =>
    rw [World.since_of_trace (show _ = [.tlsCall w.gTlsFunc.getPriKey] ++ w.trace from rfl)]
    rfl
  | getCA c =>
    rw [World.since_of_trace (show _ = [.tlsCall w.gTlsFunc.getCaAndVerify] ++ w.trace from rfl)]
    rfl
  | keypassErase =>
    rw [World.since_of_trace (show _ = [.tlsCall w.gTlsFunc.eraseKeyPass] ++ w.trace from rfl)]
    rfl

namespace Tls

open Runs
open Servers (created destroyed)

/-! ## The system -/

/-- A callback of a live server: the functions it called, the one it had to call, what it returned and
what it handed out. -/
structure Call where
  called : List Addr
  expected : Addr
  status : Int
  handedOut : List Addr

structure Call.Good (c : Call) : Prop where
  own : c.called = [c.expected]
  function_ne : c.expected ≠ 0
  handedOut : c.status = ockRpcOk → ∀ p ∈ c.handedOut, p ≠ 0

structure Sys where
  w : World := {}
  /-- The functions given to the create of a live server with TLS; the erase function is the one its
  callback for the key has got last. -/
  own : Addr → Option TlsFuncs := fun _ => none
  /-- The functions given to the last create that turned TLS on, `none` after a destroy. -/
  written : Option TlsFuncs := none
  /-- The erase function the last callback for a key has got, `none` after a destroy. -/
  erased : Option Addr := none
  calls : List Call := []

inductive Label where
  | create (a : CreateArgs) (e : CreateEnv)
  | destroy (server : Addr) (ret : Int)
  | callback (server : Addr) (cb : TlsCallback)

/-- What the ghost state keeps of a value that a destroy clears. -/
def keptBy {α : Type} (evs : List Event) (x : Option α) : Option α :=
  if destroyed evs = [] then x else none

def liveAfter (evs : List Event) (own : Addr → Option TlsFuncs) : Addr → Option TlsFuncs :=
  fun server => if server ∈ destroyed evs then none else own server

def step (s : Sys) : Label → Sys
  | .create a e =>
    let r := ockRpcServerCreateWithCfg s.w a e
    let evs := s.w.since r.1
    if r.2 = ockRpcOk then
      let given := if r.1.gOptions.enableTls then a.configs.map fun configs => configs.tlsFuncs {}
        else none
      { s with
        w := r.1
        own := Function.update s.own e.service given
        written := given.or s.written }
    else
      { s with
        w := r.1
        own := liveAfter evs s.own
        written := keptBy evs s.written
        erased := keptBy evs s.erased }
  | .destroy server ret =>
    let w' := ockRpcServerDestroy s.w server ret
    let evs := s.w.since w'
    { s with
      w := w'
      own := liveAfter evs s.own
      written := keptBy evs s.written
      erased := keptBy evs s.erased }
  | .callback server cb =>
    match s.own server with
    | none => s
    | some tls =>
      let r := runTlsCallback s.w cb
      let s := { s with
        w := r.1
        calls := ⟨tlsCalled (s.w.since r.1), cb.function tls, r.2, cb.handedOut r.1⟩ :: s.calls }
      match cb with
      | .getPrivateKey k =>
        { s with
          own := Function.update s.own server (some { tls with eraseKeyPass := k.erase })
          erased := some k.erase }
      | _ => s

/-- The function of the last create with TLS, and no destroy since, is that of the server; the erase
function is the one the last callback for a key has got; the user's functions hand out a function with
the paths. -/
def OwnLast (s : Sys) : Label → Prop
  | .callback server cb => ∀ tls, s.own server = some tls →
    match cb with
    | .getCert _ => ∃ f, s.written = some f ∧ f.getCert = tls.getCert
    | .getPrivateKey k => (∃ f, s.written = some f ∧ f.getPriKey = tls.getPriKey) ∧
        (k.priKeyPath ≠ 0 → k.keyPass ≠ 0 → k.erase ≠ 0)
    | .getCA c => (∃ f, s.written = some f ∧ f.getCaAndVerify = tls.getCaAndVerify) ∧
        (c.caPath ≠ 0 → c.crlPath ≠ 0 → c.verifyPtr ≠ 0 → c.verify ≠ 0)
    | .keypassErase => s.erased = some tls.eraseKeyPass ∧ tls.eraseKeyPass ≠ 0
  | _ => True

/-! ## Invariant -/

/-- The three functions a create writes. -/
def SameGetters (tls tls' : TlsFuncs) : Prop :=
  tls.getCaAndVerify = tls'.getCaAndVerify ∧ tls.getCert = tls'.getCert ∧ tls.getPriKey = tls'.getPriKey

structure Inv (s : Sys) : Prop where
  own : ∀ server tls, s.own server = some tls →
    tls.getCaAndVerify ≠ 0 ∧ tls.getCert ≠ 0 ∧ tls.getPriKey ≠ 0
  written : ∀ f, s.written = some f → SameGetters s.w.gTlsFunc f
  erased : ∀ p, s.erased = some p → s.w.gTlsFunc.eraseKeyPass = p
  calls : ∀ c ∈ s.calls, c.Good

section Step

variable {s : Sys} {w' : World}

theorem keptBy_some {α : Type} {evs : List Event} {x : Option α} {y : α}
    (h : keptBy evs x = some y) : x = some y ∧ destroyed evs = [] := by
  unfold keptBy at h
  split at h
  · rename_i hd
    exact ⟨h, hd⟩
  · cases h

theorem liveAfter_some {evs : List Event} {own : Addr → Option TlsFuncs} {server : Addr}
    {tls : TlsFuncs} (h : liveAfter evs own server = some tls) : own server = some tls := by
  unfold liveAfter at h
  split at h
  · cases h
  · exact h

/-- An operation that leaves the functions alone unless it destroys a service. -/
theorem inv_kept (I : Inv s) {evs : List Event}
    (h : destroyed evs = [] → w'.gTlsFunc = s.w.gTlsFunc) :
    Inv { s with
      w := w'
      own := liveAfter evs s.own
      written := keptBy evs s.written
      erased := keptBy evs s.erased } := by
  constructor
  · intro server tls ho
    exact I.own server tls (liveAfter_some ho)
  · intro f hf
    obtain ⟨hf, hd⟩ := keptBy_some hf
    simp only [h hd]
    exact I.written f hf
  · intro p hp
    obtain ⟨hp, hd⟩ := keptBy_some hp
    simp only [h hd]
    exact I.erased p hp
  · exact I.calls

theorem destroy_tls (w : World) (server : Addr) (ret : Int) :
    ∃ evs, (ockRpcServerDestroy w server ret).trace = evs ++ w.trace ∧
      (destroyed evs = [] → (ockRpcServerDestroy w server ret).gTlsFunc = w.gTlsFunc) := by
  cases hk : serviceKey w server with
  | none =>
    rw [serverDestroy_missing hk]
    exact ⟨[], rfl, fun _ => rfl⟩
  | some name =>
    refine ⟨_, serverDestroy_trace hk ret, ?_⟩
    intro hd
    rcases serverDestroy_found hk ret with ⟨-, hw⟩ | ⟨hret, -⟩
    · rw [hw]
    · have h := destroyed_destroy server ret []
      rw [if_pos hret] at h
      rw [List.append_nil, hd] at h
      cases h

theorem inv_create (I : Inv s) (a : CreateArgs) (e : CreateEnv) : Inv (step s (.create a e)) := by
  simp only [step]
  rcases serverCreate_ends s.w a e with ⟨-, hrej, hst⟩ |
    ⟨ip, configs, m, hacc, -, hst, hon, htls, hoff⟩ | ⟨ip, configs, m, w1, -, -, hb, htls, hr⟩
  · rw [if_neg hst]
    obtain ⟨lf, ct, evs, hw, -⟩ := hrej
    exact inv_kept I fun _ => by rw [hw]
  · rw [if_pos hst]
    by_cases hset : SetsTls configs m
    · rw [if_pos (hon.mpr hset), hacc.configs_eq]
      have ht := htls hset
      constructor
      · intro server tls ho
        simp only [Option.map_some, Function.update_apply] at ho
        split at ho
        · cases ho
          exact hset.funcs
        · exact I.own server tls ho
      · intro f hf
        cases hf
        simp only [ht]
        exact ⟨rfl, rfl, rfl⟩
      · intro p hp
        simp only [ht]
        exact I.erased p hp
      · exact I.calls
    · rw [if_neg fun h => hset (hon.mp h)]
      have ht := hoff hset
      constructor
      · intro server tls ho
        simp only [Function.update_apply] at ho
        split at ho
        · cases ho
        · exact I.own server tls ho
      · intro f hf
        simp only [ht]
        exact I.written f hf
      · intro p hp
        simp only [ht]
        exact I.erased p hp
      · exact I.calls
  · have hst : (ockRpcServerCreateWithCfg s.w a e).2 ≠ ockRpcOk := by
      rw [hr]
      exact ockRpcErrInvalidParam_ne_ok
    rw [if_neg hst, hr]
    refine inv_kept I ?_
    intro hd
    obtain ⟨evs, ht, -⟩ := hb.events
    obtain ⟨evs', ht', hsame⟩ := destroy_tls w1 e.service e.destroyRet
    rw [World.since_append ht ht', destroyed_append] at hd
    rw [hsame (List.append_eq_nil_iff.mp hd).1, htls]

theorem inv_destroy (I : Inv s) (server : Addr) (ret : Int) : Inv (step s (.destroy server ret)) := by
  obtain ⟨evs, ht, hsame⟩ := destroy_tls s.w server ret
  simp only [step, World.since_of_trace ht]
  exact inv_kept I hsame

/-- Under the condition a callback calls the server's own function, which is not null. -/
theorem function_own (I : Inv s) {server : Addr} {tls : TlsFuncs} {cb : TlsCallback}
    (ho : s.own server = some tls) (hl : OwnLast s (.callback server cb)) :
    cb.function s.w.gTlsFunc = cb.function tls ∧ cb.function tls ≠ 0 := by
  obtain ⟨h1, h2, h3⟩ := I.own server tls ho
  have hcond := hl tls ho
  cases cb with
  | getCert certPath =>
    obtain ⟨f, hf, heq⟩ := hcond
    exact ⟨(I.written f hf).2.1.trans heq, h2⟩
  | getPrivateKey k =>
    obtain ⟨⟨f, hf, heq⟩, -⟩ := hcond
    exact ⟨(I.written f hf).2.2.trans heq, h3⟩
  | getCA c =>
    obtain ⟨⟨f, hf, heq⟩, -⟩ := hcond
    exact ⟨(I.written f hf).1.trans heq, h1⟩
  | keypassErase =>
    obtain ⟨he, hne⟩ := hcond
    exact ⟨I.erased _ he, hne⟩

/-- Under the condition a callback that succeeds hands out no null pointer. -/
theorem handedOut_ne {server : Addr} {tls : TlsFuncs} {cb : TlsCallback}
    (ho : s.own server = some tls) (hl : OwnLast s (.callback server cb))
    (hst : (runTlsCallback s.w cb).2 = ockRpcOk) :
    ∀ p ∈ cb.handedOut (runTlsCallback s.w cb).1, p ≠ 0 := by
  have hcond := hl tls ho
  intro p hp
  cases cb with
  | getCert certPath =>
    rw [List.mem_singleton.mp hp]
    intro h0
    simp only [runTlsCallback, ockRpcTlsGetCertCb, if_pos h0] at hst
    exact ockRpcErr_ne_ok hst
  | getPrivateKey k =>
    simp only [runTlsCallback, ockRpcTlsGetPrivateKeyCb] at hst
    split at hst
    · cases hst
    · rename_i hpath
      rw [not_or] at hpath
      have herase := hcond.2 hpath.1 hpath.2
      simp only [TlsCallback.handedOut, runTlsCallback, ockRpcTlsGetPrivateKeyCb, List.mem_cons,
        List.not_mem_nil, or_false] at hp
      rcases hp with rfl | rfl | rfl
      · exact hpath.1
      · exact hpath.2
      · exact herase
  | getCA c =>
    simp only [runTlsCallback, ockRpcTlsGetCACb] at hst
    split at hst
    · cases hst
    · rename_i hpath
      rw [not_or, not_or] at hpath
      have hverify := hcond.2 hpath.1 hpath.2.1 hpath.2.2
      simp only [TlsCallback.handedOut, List.mem_cons, List.not_mem_nil, or_false] at hp
      rcases hp with rfl | rfl | rfl
      · exact hpath.1
      · exact hpath.2.1
      · exact hverify
  | keypassErase => cases hp

theorem call_good (I : Inv s) {server : Addr} {tls : TlsFuncs} {cb : TlsCallback}
    (ho : s.own server = some tls) (hl : OwnLast s (.callback server cb)) :
    Call.Good ⟨tlsCalled (s.w.since (runTlsCallback s.w cb).1), cb.function tls,
      (runTlsCallback s.w cb).2, cb.handedOut (runTlsCallback s.w cb).1⟩ := by
  obtain ⟨h1, h2⟩ := function_own I ho hl
  constructor
  · simp only
    rw [since_runTlsCallback, h1]
  · exact h2
  · exact handedOut_ne ho hl

theorem inv_callback (I : Inv s) {server : Addr} {cb : TlsCallback}
    (hl : OwnLast s (.callback server cb)) : Inv (step s (.callback server cb)) := by
  simp only [step]
  split
  · exact I
  · rename_i tls ho
    have hgood := call_good I ho hl
    have hcalls : ∀ c ∈ (⟨tlsCalled (s.w.since (runTlsCallback s.w cb).1), cb.function tls,
        (runTlsCallback s.w cb).2, cb.handedOut (runTlsCallback s.w cb).1⟩ : Call) :: s.calls,
        c.Good := by
      intro c hc
      rcases List.mem_cons.mp hc with rfl | hc
      · exact hgood
      · exact I.calls c hc
    cases cb with
    | getCert certPath => exact ⟨I.own, I.written, I.erased, hcalls⟩
    | getPrivateKey k =>
      refine ⟨?_, I.written, ?_, hcalls⟩
      · intro server' tls' ho'
        simp only [Function.update_apply] at ho'
        split at ho'
        · cases ho'
          exact I.own server tls ho
        · exact I.own server' tls' ho'
      · intro p hp
        cases hp
        rfl
    | getCA c => exact ⟨I.own, I.written, I.erased, hcalls⟩
    | keypassErase => exact ⟨I.own, I.written, I.erased, hcalls⟩

theorem inv_step (I : Inv s) {l : Label} (hl : OwnLast s l) : Inv (step s l) := by
  cases l with
  | create a e => exact inv_create I a e
  | destroy server ret => exact inv_destroy I server ret
  | callback server cb => exact inv_callback I hl

end Step

theorem inv_start : Inv {} := by
  constructor
  · intro server tls h
    cases h
  · intro f h
    cases h
  · intro p h
    cases h
  · intro c h
    cases h

/-- **TLS callbacks serve the server they belong to** in every run in which each callback meets the
condition. -/
theorem callbacks_serve_own {s : Sys} (hrun : Reached OwnLast step {} s) :
    ∀ c ∈ s.calls, c.Good := by
  have I : Inv s := hrun.invariant inv_start fun s l I hl => inv_step I hl
  exact I.calls

section Examples

/-- A server with TLS whose functions are at `base`, `base + 1` and `base + 2`. -/
def tlsServer (name : String) (base : Addr) : CreateArgs :=
  ⟨some (cstr "10.0.0.1"), 0, true, some
    { mask := 5
      configs := ⟨1, some fun _ => ⟨some ockRpcStrServerName, some ⟨700, cstr name⟩⟩⟩
      getCaAndVerify := base
      getCert := base + 1
      getPriKey := base + 2 }⟩

/-- A handshake of a server: its key, then the erase function. -/
def keyThenErase (s : Sys) (server : Addr) : Sys :=
  step (step s (.callback server (.getPrivateKey ⟨1, 2, 50⟩))) (.callback server .keypassErase)

/-- One server with TLS asks for its key and erases it. -/
theorem callbacks_serve_own_one : ∃ s : Sys, s.calls.length = 2 ∧ ∀ c ∈ s.calls, c.Good := by
  have hrun : Reached OwnLast step {}
      (keyThenErase (step {} (.create (tlsServer "a" 20) { service := 40 })) 40) := by
    refine ((Reached.refl.tail trivial).tail ?_).tail ?_
    · intro tls ho
      cases ho
      exact ⟨⟨_, rfl, rfl⟩, fun _ _ => by decide⟩
    · intro tls ho
      cases ho
      exact ⟨rfl, by decide⟩
  exact ⟨_, rfl, callbacks_serve_own hrun⟩

/-- A second server with TLS is created: a handshake of the first one calls the function of the second. -/
theorem callbacks_serve_other : ∃ (s : Sys) (c : Call), Reached (fun _ _ => True) step {} s ∧
    c ∈ s.calls ∧ c.called = [31] ∧ c.expected = 21 ∧ ¬ c.Good := by
  refine ⟨step (step (step {} (.create (tlsServer "a" 20) { service := 40 }))
    (.create (tlsServer "b" 30) { service := 41 })) (.callback 40 (.getCert 9)), _,
    ((Reached.refl.tail trivial).tail trivial).tail trivial, List.mem_cons_self, rfl, rfl, ?_⟩
  intro h
  have := h.own
  cases this

-- no verify function is stored, and the callback succeeds
example : (ockRpcTlsGetCACb {} ⟨1, 2, 0, 3⟩).2 = ockRpcOk := rfl

end Examples

end Tls

end Hcom4db
