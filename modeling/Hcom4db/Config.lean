import Hcom4db.State

/-!
# Hcom4db.Config

The configuration of a create or a connect: `OckRpcCreateConfig`, the map its pairs are put into, and
the numbers read out of that map.

A value is a `const char *` that is a string for most keys and a disguised function pointer for some,
so `CharPtr` keeps both the address and the characters behind it.

* `initConfigMap_find`: the effective value of a key is the first one given.
-/

namespace Hcom4db

/-! ## Keys -/

def ockRpcStrServerName : CStr := cstr "server.create.name"
def ockRpcStrServerPortRange : CStr := cstr "server.create.range"
def ockRpcStrCommunicationType : CStr := cstr "server.create.type"
def ockRpcStrPreSegmentSize : CStr := cstr "server.create.segsize"
def ockRpcStrPreSegmentCount : CStr := cstr "server.create.segcount"
def ockRpcStrClientNew : CStr := cstr "server.client.new"
def ockRpcStrClientBreak : CStr := cstr "server.client.break"
def ockRpcStrWrkThrGrp : CStr := cstr "worker.thread.groups"
def ockRpcStrWrkCpuSet : CStr := cstr "worker.thread.cpuset"
def ockRpcStrEnablePollWorker : CStr := cstr "worker.poll.enable"
def ockRpcStrEnableSendRndv : CStr := cstr "server.rndv.enable"
def ockRpcStrRndvMalloc : CStr := cstr "server.rndv.malloc"
def ockRpcStrRndvMfree : CStr := cstr "server.rndv.mfree"
def ockRpcStrHeatbeatIdle : CStr := cstr "server.heartbeat.idle"
def ockRpcStrEnableTls : CStr := cstr "server.tls.enable"
def ockRpcStrClientCreateInfo : CStr := cstr "client.create.info"
def ockRpcStrEnableSelfpolling : CStr := cstr "client.enable.selfpolling"

/-! ## The arguments of a create -/

/-- A `const char *` that is not null. -/
structure CharPtr where
  addr : Addr
  str : CStr

structure RpcConfigPair where
  key : Option CStr
  value : Option CharPtr

structure RpcConfigs where
  size : Int32
  pairs : Option (Nat → RpcConfigPair)

/-- `OCK_RPC_CONFIG_USE_RPC_CONFIGS`. -/
def ockRpcConfigUseRpcConfigs : UInt64 := 1

/-- `OCK_RPC_CONFIG_USE_SSL_CALLBACK`. -/
def ockRpcConfigUseSslCallback : UInt64 := 4

/-- `OckRpcCreateConfig`, without the two deprecated handlers nothing reads. -/
structure OckRpcCreateConfig where
  mask : UInt64
  configs : RpcConfigs
  getCaAndVerify : Addr := 0
  getCert : Addr := 0
  getPriKey : Addr := 0

/-- `configs->mask & bit`. -/
def OckRpcCreateConfig.uses (configs : OckRpcCreateConfig) (bit : UInt64) : Bool :=
  configs.mask &&& bit != 0

/-- The checks `OckRpcCheckServerCreateCfg` and `OckRpcCheckClientCreateCfg` have in common, every one of
which answers `OCK_RPC_ERR_INVALID_PARAM`: the arguments of a call that passes them. `out` says whether
the pointer for the handle is there. -/
def checkCreateCfg (ip : Option CStr) (port : UInt16) (out : Bool)
    (configs : Option OckRpcCreateConfig) : Option (CStr × OckRpcCreateConfig) :=
  match ip with
  | none => none
  | some ip =>
    if port ≠ 0 ∧ port.toNat < ockMinPortNum then none
    else if out = false then none
    else configs.map fun configs => (ip, configs)

/-! ## The map -/

abbrev ConfigMap := StdMap CStr CharPtr

def initConfigMapLoop : List RpcConfigPair → ConfigMap → Option ConfigMap
  | [], configMap => some configMap
  | p :: ps, configMap =>
    match p.key, p.value with
    | some key, some value => initConfigMapLoop ps (configMap.insertNew key value)
    | _, _ => none

/-- The pairs the loop goes over. -/
def RpcConfigs.toList (configs : RpcConfigs) (pairs : Nat → RpcConfigPair) : List RpcConfigPair :=
  (List.range configs.size.toInt.toNat).map pairs

/-- `OckRpcInitConfigMap`, `none` for an error. -/
def ockRpcInitConfigMap (configs : OckRpcCreateConfig) : Option ConfigMap :=
  if configs.uses ockRpcConfigUseRpcConfigs then
    match configs.configs.pairs with
    | none => none
    | some pairs =>
      if configs.configs.size.toInt < 0 then none
      else initConfigMapLoop (configs.configs.toList pairs) ∅
  else some ∅

/-- The value of the first pair with this key. -/
def firstValue (key : CStr) (ps : List RpcConfigPair) : Option CharPtr :=
  (ps.find? fun p => p.key == some key).bind RpcConfigPair.value

/-- A loop that succeeds keeps what the map had and adds the first value of every other key. -/
theorem initConfigMapLoop_find {ps : List RpcConfigPair} {m m' : ConfigMap}
    (h : initConfigMapLoop ps m = some m') (key : CStr) :
    m'.find key = (m.find key).or (firstValue key ps) := by
  induction ps generalizing m with
  | nil =>
    cases h
    simp [firstValue]
  | cons p ps ih =>
    obtain ⟨pk, pv⟩ := p
    cases pk with
    | none => cases h
    | some k =>
      cases pv with
      | none => cases h
      | some v =>
        rw [ih h, StdMap.find_insertNew]
        by_cases hk : key = k
        · subst hk
          rw [if_pos rfl]
          cases hm : m.find key with
          | some x => rfl
          | none => simp [firstValue]
        · have hne : ((some k : Option CStr) == some key) = false := by simp [Ne.symm hk]
          rw [if_neg hk, firstValue, firstValue, List.find?_cons, hne]

theorem initConfigMap_find {configs : OckRpcCreateConfig} {pairs : Nat → RpcConfigPair}
    {m : ConfigMap} (hmask : configs.uses ockRpcConfigUseRpcConfigs = true)
    (hp : configs.configs.pairs = some pairs) (h : ockRpcInitConfigMap configs = some m)
    (key : CStr) : m.find key = firstValue key (configs.configs.toList pairs) := by
  unfold ockRpcInitConfigMap at h
  rw [if_pos hmask, hp] at h
  simp only at h
  split at h
  · cases h
  · rw [initConfigMapLoop_find h, StdMap.find_empty, Option.none_or]

/-! ## Numbers -/

/-- `isspace` in the C locale. -/
def isSpace (c : UInt8) : Bool := c == 32 || (9 ≤ c && c ≤ 13)

def isDigit (c : UInt8) : Bool := 48 ≤ c && c ≤ 57

/-- The number a string of digits denotes. -/
def digitsValue (ds : CStr) : Nat := ds.foldl (fun n c => 10 * n + (c.toNat - 48)) 0

/-- An optional sign: whether it is a minus, and the rest. -/
def takeSign : CStr → Bool × CStr
  | [] => (false, [])
  | c :: s => if c = 45 then (true, s) else if c = 43 then (false, s) else (false, c :: s)

/-- What `std::stoi` throws. -/
inductive StoiError where
  | invalidArgument | outOfRange
  deriving DecidableEq

/-- `std::stoi(s)`: blanks, a sign, digits; whatever follows the digits is ignored. -/
def stoi (s : CStr) : Except StoiError Int32 :=
  let (neg, s) := takeSign (s.dropWhile isSpace)
  let ds := s.takeWhile isDigit
  if ds = [] then .error .invalidArgument
  else
    let n : Int := if neg then -(digitsValue ds : Int) else digitsValue ds
    if n < Int32.minValue.toInt ∨ Int32.maxValue.toInt < n then .error .outOfRange
    else .ok (Int32.ofInt n)

/-- `OckRpcString2Num`, `none` for an error; a key that is absent leaves `size`. -/
def ockRpcString2Num (configMap : ConfigMap) (key : CStr) (size : UInt32) : Option UInt32 :=
  match configMap.find key with
  | none => some size
  | some value =>
    match stoi value.str with
    | .ok n => some n.toUInt32
    | .error _ => none

example : stoi (cstr " +64kb") = .ok 64 := by decide

/-- A key whose value must be "yes" or "no"; `dflt` when it is absent, `none` for another value. -/
def readYesNo (configMap : ConfigMap) (key : CStr) (dflt : Bool) : Option Bool :=
  match configMap.find key with
  | none => some dflt
  | some value =>
    if value.str = cstr "yes" then some true
    else if value.str = cstr "no" then some false
    else none

end Hcom4db
