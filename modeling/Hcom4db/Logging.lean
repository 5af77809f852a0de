import Hcom4db.LogLevel

/-!
# Hcom4db.Logging

Where a message goes: those of the library itself, and those the transport passes to the handler it was
given. The library keeps the user's logger twice, in its logger and in `g_logFunc`; a create hands
`g_logFunc` to the transport, or `HcomLog` when there is none.

* `LogSys`, `step`: the logger, `g_logFunc` and the handler of the transport.
* `Router`: where messages go, without any of these.
* `step_refines`: the two go together, as long as the logger can be allocated.
* `messages_routed`: over any run; and the messages of level 3 all go out.
-/

namespace Hcom4db

namespace Hcom4dbLog

/-- A value of type `OckRpcLogHandler`. -/
inductive LogHandler where
  | null
  /-- The function `HcomLog`, which nobody but the transport is given. -/
  | hcomLog
  | user (h : Addr)
  deriving DecidableEq

/-- What a user passes. -/
def LogHandler.ofAddr (h : Addr) : LogHandler := if h = 0 then .null else .user h

/-- A message that went out, to a logger or to the standard output. -/
structure Line where
  dest : Option Addr
  level : Int32
  text : String
  deriving DecidableEq

structure LogSys where
  settings : LogState := {}
  /-- `gLogger`, with its `mLogFunc`. -/
  gLogger : Option LogHandler := none
  gLogFunc : LogHandler := .null
  /-- The handler the transport was given last. -/
  transport : LogHandler := .null
  lines : List Line := []
  /-- The behaviour is undefined from here on. -/
  ub : Bool := false

def LogSys.put (s : LogSys) (x : Line) : LogSys := { s with lines := s.lines ++ [x] }

/-- What `Instance()` finds: the environment, and whether `new` succeeds. -/
structure InstanceEnv where
  env : Option CStr := none
  newOk : Bool := true

/-- `Instance()`. -/
def LogSys.instance_ (s : LogSys) (e : InstanceEnv) : LogSys :=
  match s.gLogger with
  | some _ => s
  | none =>
    if e.newOk then { s with gLogger := some .null, settings := setLogLevelEnv e.env s.settings }
    else
      let out := s.settings.out ++ ["Failed to new Hcom4dbLog, probably out of memory"]
      { s with settings := setLogLevelEnv e.env { s.settings with out := out } }

/-- `Instance()->Log(level, oss)` behind the comparison of the levels. A member function is called on what
`Instance()` returns, null or not. -/
def LogSys.log (s : LogSys) (e : InstanceEnv) (level : Int32) (text : String) : LogSys :=
  let s := s.instance_ e
  match s.gLogger with
  | none => { s with ub := true }
  | some mLogFunc =>
    if level < s.settings.logLevel then s
    else
      match mLogFunc with
      | .null => s.put ⟨none, level, text⟩
      | .user h => s.put ⟨some h, level, text⟩
      -- `HcomLog` would call `Log` again
      | .hcomLog => { s with ub := true }

def levelPrefix (level : Int32) : String :=
  if level = 0 then "[DEBUG]"
  else if level = 1 then "[INFO]"
  else if level = 2 then "[WARN]"
  else if level = 3 then "[ERROR]"
  else ""

/-- `OCK_RPC_LOG`. -/
def ockRpcLog (s : LogSys) (e : InstanceEnv) (level : Int32) (file : String) (line : Nat) (args : String) :
    LogSys :=
  s.log e level (levelPrefix level ++ "[HCOM4DB " ++ file ++ ":" ++ toString line ++ "] (" ++ args ++ ")")

/-- `HcomLog`, which is `OCK_RPC_HCOM_LOG`. -/
def hcomLog (s : LogSys) (e : InstanceEnv) (level : Int32) (msg : String) : LogSys :=
  s.log e level (levelPrefix level ++ msg)

def ockRpcSetExternalLogger (s : LogSys) (e : InstanceEnv) (h : LogHandler) : LogSys :=
  let s := s.instance_ e
  match s.gLogger with
  | none => { s with ub := true }
  | some _ => { s with gLogger := some h, gLogFunc := h }

/-- What `OckRpcServerCreateWithCfg` does with the loggers; `loaded` says whether the library exports
`Service_SetExternalLogger`. -/
def createLogger (s : LogSys) (loaded : Bool) : LogSys :=
  let s := if s.gLogFunc = .null then { s with gLogFunc := .hcomLog } else s
  if loaded then { s with transport := s.gLogFunc } else s

/-- The transport has a message. -/
def transportMessage (s : LogSys) (e : InstanceEnv) (level : Int32) (msg : String) : LogSys :=
  match s.transport with
  | .null => s
  | .hcomLog => hcomLog s e level msg
  | .user h => s.put ⟨some h, level, msg⟩

inductive LogOp where
  | setLogger (e : InstanceEnv) (h : Addr)
  | setLevel (level : Int32)
  | create (loaded : Bool)
  | message (e : InstanceEnv) (level : Int32) (file : String) (line : Nat) (args : String)
  | transport (e : InstanceEnv) (level : Int32) (msg : String)

def LogOp.newOk : LogOp → Bool
  | .setLogger e _ | .message e _ _ _ _ | .transport e _ _ => e.newOk
  | .setLevel _ | .create _ => true

def LogSys.step (s : LogSys) : LogOp → LogSys
  | .setLogger e h => ockRpcSetExternalLogger s e (.ofAddr h)
  | .setLevel level => { s with settings := setLogLevel level s.settings }
  | .create loaded => createLogger s loaded
  | .message e level file line args => ockRpcLog s e level file line args
  | .transport e level msg => transportMessage s e level msg

/-! ## Where messages go -/

/-- The logger in use, the one that was in use at the last create, and the level. -/
structure Router where
  settings : LogState := {}
  started : Bool := false
  current : Option Addr := none
  /-- What a create has handed over: a logger, or none; `none` before the first. -/
  given : Option (Option Addr) := none
  lines : List Line := []

namespace Router

def put (r : Router) (x : Line) : Router := { r with lines := r.lines ++ [x] }

/-- The environment is read when the logger is used first. -/
def start (r : Router) (e : InstanceEnv) : Router :=
  if r.started then r else { r with started := true, settings := setLogLevelEnv e.env r.settings }

/-- A message of the library, or one of the transport that `HcomLog` gets. -/
def filtered (r : Router) (e : InstanceEnv) (level : Int32) (text : String) : Router :=
  let r := r.start e
  if level < r.settings.logLevel then r else r.put ⟨r.current, level, text⟩

def step (r : Router) : LogOp → Router
  | .setLogger e h => { r.start e with current := if h = 0 then none else some h }
  | .setLevel level => { r with settings := setLogLevel level r.settings }
  | .create loaded => if loaded then { r with given := some r.current } else r
  | .message e level file line args =>
    r.filtered e level
      (levelPrefix level ++ "[HCOM4DB " ++ file ++ ":" ++ toString line ++ "] (" ++ args ++ ")")
  | .transport e level msg =>
    match r.given with
    | none => r
    | some none => r.filtered e level (levelPrefix level ++ msg)
    -- a logger that was set before the create gets the message as it is
    | some (some h) => r.put ⟨some h, level, msg⟩

end Router

/-! ## Refinement -/

def handlerOf : Option Addr → LogHandler
  | none => .null
  | some h => .user h

/-- What the transport has for what a create has handed over. -/
def givenHandler : Option (Option Addr) → LogHandler
  | none => .null
  | some none => .hcomLog
  | some (some h) => .user h

structure Refines (s : LogSys) (r : Router) : Prop where
  settings : s.settings = r.settings
  logger : s.gLogger = if r.started then some (handlerOf r.current) else none
  unstarted : r.started = false → r.current = none
  logFunc : s.gLogFunc = handlerOf r.current ∨ r.current = none ∧ s.gLogFunc = .hcomLog
  transport : s.transport = givenHandler r.given
  lines : s.lines = r.lines
  defined : s.ub = false

section

variable {s : LogSys} {r : Router} {e : InstanceEnv} {l : LogOp}

/-- After `Instance()` there is a logger. -/
theorem Refines.instance_ (R : Refines s r) (hnew : e.newOk = true) :
    Refines (s.instance_ e) (r.start e) ∧
      (s.instance_ e).gLogger = some (handlerOf (r.start e).current) ∧ (r.start e).started = true := by
  have hlog := R.logger
  cases hst : r.started with
  | true =>
    have hstart : r.start e = r := if_pos hst
    rw [hst] at hlog
    have hsame : s.instance_ e = s := by
      unfold LogSys.instance_
      rw [hlog]
      rfl
    rw [hstart, hsame]
    exact ⟨R, hlog, hst⟩
  | false =>
    have hstart : r.start e = { r with started := true, settings := setLogLevelEnv e.env r.settings } := by
      simp [Router.start, hst]
    rw [hst] at hlog
    have hnone : s.gLogger = none := hlog
    have hcur := R.unstarted hst
    have hsys : s.instance_ e =
        { s with gLogger := some .null, settings := setLogLevelEnv e.env s.settings } := by
      simp [LogSys.instance_, hnone, hnew]
    rw [hstart, hsys]
    refine ⟨⟨?_, ?_, ?_, R.logFunc, R.transport, R.lines, R.defined⟩, ?_, rfl⟩
    · simp only [R.settings]
    · simp [hcur, handlerOf]
    · intro h
      cases h
    · simp [hcur, handlerOf]

theorem Refines.put (R : Refines s r) (x : Line) : Refines (s.put x) (r.put x) :=
  ⟨R.settings, R.logger, R.unstarted, R.logFunc, R.transport, by
    simp only [LogSys.put, Router.put, R.lines], R.defined⟩

/-- What the logger does with a message, once it is there. -/
theorem log_eq {level : Int32} {text : String} {cur : Option Addr}
    (h : (s.instance_ e).gLogger = some (handlerOf cur)) :
    s.log e level text =
      if level < (s.instance_ e).settings.logLevel then s.instance_ e
      else (s.instance_ e).put ⟨cur, level, text⟩ := by
  unfold LogSys.log
  simp only [h]
  cases cur <;> rfl

/-- A message that is compared with the level. -/
theorem Refines.log (R : Refines s r) (hnew : e.newOk = true) (level : Int32) (text : String) :
    Refines (s.log e level text) (r.filtered e level text) := by
  obtain ⟨R', hlog, -⟩ := R.instance_ hnew
  rw [log_eq hlog, R'.settings]
  unfold Router.filtered
  by_cases hlt : level < (r.start e).settings.logLevel
  · simp only [if_pos hlt]
    exact R'
  · simp only [if_neg hlt]
    exact R'.put _

theorem Refines.setLogger (R : Refines s r) (hnew : e.newOk = true) (h : Addr) :
    Refines (ockRpcSetExternalLogger s e (.ofAddr h)) (r.step (.setLogger e h)) := by
  obtain ⟨R', hlog, hst⟩ := R.instance_ hnew
  have hof : LogHandler.ofAddr h = handlerOf (if h = 0 then none else some h) := by
    unfold LogHandler.ofAddr
    split <;> rfl
  have heq : ockRpcSetExternalLogger s e (.ofAddr h) =
      { s.instance_ e with gLogger := some (.ofAddr h), gLogFunc := .ofAddr h } := by
    unfold ockRpcSetExternalLogger
    simp only [hlog]
  rw [heq]
  refine ⟨R'.settings, ?_, ?_, .inl hof, R'.transport, R'.lines, R'.defined⟩
  · simp only [Router.step, hst, if_true, hof]
  · intro h'
    simp only [Router.step] at h'
    rw [hst] at h'
    cases h'

/-- A create hands over the logger in use, and `HcomLog` when there is none. -/
theorem Refines.create (R : Refines s r) (loaded : Bool) :
    Refines (createLogger s loaded) (r.step (.create loaded)) := by
  -- `g_logFunc` after the test for null
  have hfunc : ∃ f, (if s.gLogFunc = .null then { s with gLogFunc := .hcomLog } else s) =
      { s with gLogFunc := f } ∧ f = givenHandler (some r.current) := by
    rcases R.logFunc with h | ⟨hc, h⟩
    · cases hc : r.current with
      | none =>
        rw [hc] at h
        exact ⟨.hcomLog, if_pos h, rfl⟩
      | some a =>
        rw [hc] at h
        refine ⟨s.gLogFunc, ?_, h⟩
        rw [if_neg (by rw [h]; simp [handlerOf])]
    · refine ⟨.hcomLog, ?_, by rw [hc]; rfl⟩
      rw [if_neg (by rw [h]; simp), ← h]
  obtain ⟨f, hs, hf⟩ := hfunc
  have hlog : f = handlerOf r.current ∨ r.current = none ∧ f = .hcomLog := by
    rw [hf]
    cases r.current with
    | none => exact .inr ⟨rfl, rfl⟩
    | some a => exact .inl rfl
  unfold createLogger
  simp only [hs]
  cases loaded with
  | false => exact ⟨R.settings, R.logger, R.unstarted, hlog, R.transport, R.lines, R.defined⟩
  | true => exact ⟨R.settings, R.logger, R.unstarted, hlog, hf, R.lines, R.defined⟩

theorem Refines.transportMessage (R : Refines s r) (hnew : e.newOk = true) (level : Int32) (msg : String) :
    Refines (transportMessage s e level msg) (r.step (.transport e level msg)) := by
  have ht := R.transport
  unfold Hcom4dbLog.transportMessage
  simp only [Router.step]
  cases hg : r.given with
  | none =>
    rw [hg] at ht
    rw [ht]
    exact R
  | some g =>
    rw [hg] at ht
    cases g with
    | none =>
      rw [ht]
      exact R.log hnew level _
    | some h =>
      rw [ht]
      exact R.put _

/-- **One step** of the loggers. -/
theorem step_refines (R : Refines s r) (hnew : l.newOk = true) : Refines (s.step l) (r.step l) := by
  cases l with
  | setLogger e h => exact R.setLogger hnew h
  | setLevel level =>
    refine ⟨?_, R.logger, R.unstarted, R.logFunc, R.transport, R.lines, R.defined⟩
    simp only [LogSys.step, Router.step, R.settings]
  | create loaded => exact R.create loaded
  | message e level file line args => exact R.log hnew level _
  | transport e level msg => exact R.transportMessage hnew level msg

theorem Router.start_inRange (h : r.settings.InRange) (e : InstanceEnv) :
    (r.start e).settings.InRange := by
  unfold Router.start
  split
  · exact h
  · exact apply_inRange (.environment e.env) h

/-- The level stays in range, whoever sets it. -/
theorem Router.step_inRange (h : r.settings.InRange) : (r.step l).settings.InRange := by
  have hfiltered : ∀ e level text, (r.filtered e level text).settings.InRange := by
    intro e level text
    unfold Router.filtered
    simp only
    split
    · exact Router.start_inRange h e
    · exact Router.start_inRange h e
  cases l with
  | setLogger e _ => exact Router.start_inRange h e
  | setLevel level => exact apply_inRange (.call level) h
  | create loaded => cases loaded <;> exact h
  | message e level file line args => exact hfiltered e level _
  | transport e level msg =>
    simp only [Router.step]
    split
    · exact h
    · exact hfiltered e level _
    · exact h

theorem run_refines {ops : List LogOp} (R : Refines s r) (hr : r.settings.InRange)
    (hnew : ∀ l ∈ ops, l.newOk = true) :
    Refines (ops.foldl LogSys.step s) (ops.foldl Router.step r) ∧
      (ops.foldl Router.step r).settings.InRange := by
  induction ops generalizing s r with
  | nil => exact ⟨R, hr⟩
  | cons l ops ih =>
    exact ih (step_refines R (hnew l List.mem_cons_self)) (Router.step_inRange hr) fun l' hl' =>
      hnew l' (List.mem_cons_of_mem _ hl')

/-- No level keeps an error back. -/
theorem Router.filtered_error (h : r.settings.InRange) (text : String) :
    r.filtered e 3 text = (r.start e).put ⟨(r.start e).current, 3, text⟩ := by
  have hlevel := (Router.start_inRange h e).2
  have hge : ¬ (3 : Int32) < (r.start e).settings.logLevel := by
    rw [Int32.lt_iff_toInt_lt]
    exact Int.not_lt.mpr hlevel
  unfold Router.filtered
  simp only [if_neg hge]

theorem Router.start_same (r : Router) (e : InstanceEnv) :
    (r.start e).current = r.current ∧ (r.start e).lines = r.lines := by
  unfold Router.start
  split <;> exact ⟨rfl, rfl⟩

/-- **Where messages go.** In every run in which the logger can be allocated the behaviour is defined, and
the messages that went out are those of the router; an error of the library always goes out, to the logger
set last. -/
theorem messages_routed {ops : List LogOp} (hnew : ∀ l ∈ ops, l.newOk = true) :
    (ops.foldl LogSys.step {}).ub = false ∧
      (ops.foldl LogSys.step {}).lines = (ops.foldl Router.step {}).lines ∧
      ∀ e file line args, e.newOk = true →
        (ockRpcLog (ops.foldl LogSys.step {}) e 3 file line args).lines =
          (ops.foldl LogSys.step {}).lines ++ [⟨(ops.foldl Router.step {}).current, 3,
            "[ERROR][HCOM4DB " ++ file ++ ":" ++ toString line ++ "] (" ++ args ++ ")"⟩] := by
  have R0 : Refines {} {} := ⟨rfl, rfl, fun _ => rfl, .inl rfl, rfl, rfl, rfl⟩
  obtain ⟨R, hr⟩ := run_refines R0 ⟨by decide, by decide⟩ hnew
  refine ⟨R.defined, R.lines, fun e file line args he => ?_⟩
  have htext : levelPrefix 3 ++ "[HCOM4DB " = "[ERROR][HCOM4DB " := rfl
  obtain ⟨hcur, hlines⟩ := Router.start_same (ops.foldl Router.step {}) e
  have Rlog := R.log he 3 ("[ERROR][HCOM4DB " ++ file ++ ":" ++ toString line ++ "] (" ++ args ++ ")")
  rw [Router.filtered_error hr] at Rlog
  unfold ockRpcLog
  rw [htext, Rlog.lines, Router.put, hcur, hlines, R.lines]

/-- A create without a logger, then one is set: the transport still has `HcomLog`, so its messages go to the
new logger, through the level. -/
def loggerAfterCreate : List LogOp :=
  [.create true, .setLogger {} 70, .transport {} 0 "queue pair up", .transport {} 2 "retry",
    .create true, .setLogger {} 80, .transport {} 0 "queue pair down"]

/-- The second create gives the transport the logger itself; the one set after it gets nothing of the
transport's. -/
theorem messages_routed_after_create :
    (loggerAfterCreate.foldl LogSys.step {}).lines =
      [⟨some 70, 2, "[WARN]retry"⟩, ⟨some 70, 0, "queue pair down"⟩] := by
  have h := @messages_routed loggerAfterCreate (by decide)
  exact h.2.1.trans (by decide)

end

end Hcom4dbLog

end Hcom4db
