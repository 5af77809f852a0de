import Mathlib.Data.List.TakeWhile
import Hcom4db.Leftovers

/-!
# Hcom4db.StringOptions

The four strings the options hold. `strcpy_s` refuses a string that leaves no room for its terminator; the port
range is stored by `memcpy_s` with its length, which fills an array of zeros up to the last byte.

* `holds_memcpyS_iff`: when a copy without the terminator leaves a string.
* `strings_stored_iff`: the configurations whose strings are all stored in full and terminated.
-/

namespace Hcom4db

open Leftovers

/-- The array holds the string: a terminator is in it, and what stands before that is `s`. -/
structure CharArray.Holds {n : Nat} (a : CharArray n) (s : CStr) : Prop where
  terminated : 0 ∈ List.ofFn a
  str : a.str = s

/-- The value of a key whose default is the empty string. -/
def configuredString (m : ConfigMap) (key : CStr) : CStr :=
  match m.find key with
  | some value => value.str
  | none => []

/-- The arguments are C strings: no byte before the terminator is zero. -/
structure CStrings (m : ConfigMap) (ip : CStr) : Prop where
  ip : 0 ∉ ip
  values : ∀ key, ∀ value ∈ m.find key, 0 ∉ value.str

/-- Each of the four arrays holds the string that is configured, or its default, in full. -/
structure StringsStored (m : ConfigMap) (ip : CStr) (options : ServiceOptions) : Prop where
  portRange : options.oobPortRange.Holds (configuredPortRange m)
  ipMask : options.netDeviceIpMask.Holds (ip ++ cstr "/24")
  groups : options.workerGroups.Holds (configuredString m ockRpcStrWrkThrGrp)
  cpuSet : options.workerGroupsCpuSet.Holds (configuredString m ockRpcStrWrkCpuSet)

section Strings

variable {n : Nat} {dest : CharArray n} {src : CStr} {m : ConfigMap} {key : CStr}

theorem takeWhile_eq_self_of_not_mem (h : 0 ∉ src) : src.takeWhile (· ≠ 0) = src :=
  List.takeWhile_eq_self_iff.mpr (ne_zero_of_not_mem h)

theorem holds_strcpyS (h : src.length < n) (hz : 0 ∉ src) : (dest.strcpyS src).1.Holds src := by
  refine ⟨?_, ?_⟩
  · rw [strcpyS_eq_memcpyS h, memcpyS_bytes (by simp; omega)]
    simp
  · rw [strcpyS_str h, takeWhile_eq_self_of_not_mem hz]

/-- Without its own terminator, the string ends where the array has a zero behind it. -/
theorem holds_memcpyS_iff (h : src.length ≤ n) (hz : 0 ∉ src) :
    (dest.memcpyS src).1.Holds src ↔ (List.ofFn dest)[src.length]? = some 0 := by
  have hbytes := @memcpyS_bytes n dest src h
  rw [← List.head?_drop]
  constructor
  · rintro ⟨hmem, hstr⟩
    rw [CharArray.str, CharArray.strFrom, List.drop_zero, hbytes,
      List.takeWhile_append_of_pos (ne_zero_of_not_mem hz), List.append_right_eq_self] at hstr
    rw [hbytes, List.mem_append] at hmem
    have hmem' := hmem.resolve_left hz
    cases htail : (List.ofFn dest).drop src.length with
    | nil =>
      rw [htail] at hmem'
      cases hmem'
    | cons c tail =>
      rw [htail] at hstr
      by_contra hc
      have hc' : c ≠ 0 := fun h0 => hc (congrArg some h0)
      simp [hc'] at hstr
  · intro hhead
    obtain ⟨tail, htail⟩ : ∃ tail, (List.ofFn dest).drop src.length = 0 :: tail :=
      List.head?_eq_some_iff.mp hhead
    rw [htail] at hbytes
    refine ⟨?_, ?_⟩
    · rw [hbytes]
      simp
    · rw [CharArray.str, CharArray.strFrom, List.drop_zero, hbytes, takeWhile_append_zero,
        takeWhile_eq_self_of_not_mem hz]

theorem holds_zeros (h : 0 < n) : CharArray.Holds (fun _ : Fin n => (0 : UInt8)) [] := by
  obtain ⟨k, rfl⟩ : ∃ k, n = k + 1 := ⟨n - 1, by omega⟩
  refine ⟨?_, ?_⟩
  · simp
  · simp [CharArray.str, CharArray.strFrom, List.ofFn_succ]

/-- In an array of zeros, only a string as long as the array loses its terminator. -/
theorem holds_memcpyS_zeros_iff (h : src.length ≤ n) (hz : 0 ∉ src) :
    (CharArray.memcpyS (fun _ : Fin n => (0 : UInt8)) src).1.Holds src ↔ src.length ≠ n := by
  rw [holds_memcpyS_iff h hz]
  by_cases hlt : src.length < n
  · simp [hlt]
    omega
  · simp [hlt]
    omega

theorem holds_configure_zeros (hn : 0 < n) (h : ∀ value ∈ m.find key, value.str.length < n)
    (hz : ∀ value ∈ m.find key, 0 ∉ value.str) :
    (CharArray.configure (fun _ : Fin n => (0 : UInt8)) m key).1.Holds (configuredString m key) := by
  unfold CharArray.configure configuredString
  cases hf : m.find key with
  | none => exact holds_zeros hn
  | some value => exact holds_strcpyS (h value hf) (hz value hf)

end Strings

section Options

variable {w : World} {service : Addr} {configs : OckRpcCreateConfig} {m : ConfigMap} {ip : CStr}

/-- The options a create computes when `g_options` is zeroed. -/
def initZeroedOptions (w : World) (service : Addr) (configs : OckRpcCreateConfig) (m : ConfigMap) (ip : CStr) :
    World × OckRpcStatus :=
  ockRpcExpandOptionInit (w.setOptions (ockRpcDefaultOptionInit m {} ip).1) service configs m

theorem find_of_not_uses (hm : ockRpcInitConfigMap configs = some m)
    (hu : ¬ configs.uses ockRpcConfigUseRpcConfigs = true) (key : CStr) : m.find key = none := by
  unfold ockRpcInitConfigMap at hm
  rw [if_neg hu] at hm
  cases hm
  exact StdMap.find_empty key

/-- A worker string that starts as zeros, with the mask bit or without it. -/
theorem holds_worker {n : Nat} {key : CStr} (hn : 0 < n) (hm : ockRpcInitConfigMap configs = some m)
    (h : configs.uses ockRpcConfigUseRpcConfigs = true → ∀ value ∈ m.find key, value.str.length < n)
    (hz : ∀ value ∈ m.find key, 0 ∉ value.str) :
    CharArray.Holds (if configs.uses ockRpcConfigUseRpcConfigs then
      (CharArray.configure (fun _ : Fin n => (0 : UInt8)) m key).1 else fun _ => 0)
      (configuredString m key) := by
  by_cases hu : configs.uses ockRpcConfigUseRpcConfigs = true
  · rw [if_pos hu]
    exact holds_configure_zeros hn (h hu) hz
  · rw [if_neg hu, configuredString, find_of_not_uses hm hu]
    exact holds_zeros hn

theorem CStrings.portRange (C : CStrings m ip) : 0 ∉ configuredPortRange m := by
  unfold configuredPortRange
  cases hf : m.find ockRpcStrServerPortRange with
  | none =>
    simp only
    decide
  | some value => exact C.values _ value hf

theorem CStrings.ipMask (C : CStrings m ip) : 0 ∉ ip ++ cstr "/24" := by
  rw [List.mem_append, not_or]
  exact ⟨C.ip, by decide⟩

/-- **The strings of the options**: from zeroed options, a configuration that both steps accept has every
string stored in full and terminated, exactly when its port range does not have sixteen characters. -/
theorem strings_stored_iff (hm : ockRpcInitConfigMap configs = some m) (C : CStrings m ip)
    (hdefault : (ockRpcDefaultOptionInit m {} ip).2 = ockRpcOk)
    (hexpand : (initZeroedOptions w service configs m ip).2 = ockRpcOk) :
    StringsStored m ip (initZeroedOptions w service configs m ip).1.gOptions ↔
      (configuredPortRange m).length ≠ 16 := by
  have haccepts := defaultOptionInit_ok_iff.mp hdefault
  obtain ⟨size, count, -, -, hdef⟩ := defaultOptionInit_stores hdefault
  unfold initZeroedOptions at hexpand ⊢
  obtain ⟨idle, rndv, tls, -, -, -, hworkers, hexp⟩ := expandOptionInit_stores hexpand
  obtain ⟨mode, hwork, -, hopt⟩ := initWorkers_stores hworkers
  rw [hexp, hopt]
  simp only [World.setOptions, hdef]
  have hrange := holds_memcpyS_zeros_iff haccepts.portRange C.portRange
  constructor
  · intro h
    exact hrange.mp h.portRange
  · intro hlen
    have hmask : (ip ++ cstr "/24").length < 256 := by
      have h3 : (cstr "/24").length = 3 := by decide
      have := haccepts.ip
      rw [List.length_append, h3]
      omega
    exact {
      portRange := hrange.mpr hlen
      ipMask := holds_strcpyS hmask C.ipMask
      groups := holds_worker (by decide) hm (fun hu => (hwork hu).groups) (C.values _)
      cpuSet := holds_worker (by decide) hm (fun hu => (hwork hu).cpuSet) (C.values _) }

end Options

section Examples

/-- A configuration with a port range and worker groups. -/
def rangeConfigs (range : String) : OckRpcCreateConfig :=
  { mask := 1
    configs := ⟨2, some fun i =>
      match i with
      | 0 => ⟨some ockRpcStrServerPortRange, some ⟨700, cstr range⟩⟩
      | _ => ⟨some ockRpcStrWrkThrGrp, some ⟨710, cstr "1,3,3"⟩⟩⟩ }

/-- The map of its pairs. -/
def rangeMap (range : String) : ConfigMap :=
  ((∅ : ConfigMap).insertNew ockRpcStrServerPortRange ⟨700, cstr range⟩).insertNew ockRpcStrWrkThrGrp
    ⟨710, cstr "1,3,3"⟩

theorem rangeMap_cstrings {range : String} {ip : CStr} (hrange : 0 ∉ cstr range) (hip : 0 ∉ ip) :
    CStrings (rangeMap range) ip := by
  refine ⟨hip, fun key value hv => ?_⟩
  unfold rangeMap at hv
  rw [StdMap.find_insertNew] at hv
  split at hv
  · rw [StdMap.find_insertNew, if_neg (by decide), StdMap.find_empty] at hv
    cases hv
    decide
  · rw [StdMap.find_insertNew] at hv
    split at hv
    · rw [StdMap.find_empty] at hv
      cases hv
      exact hrange
    · rw [StdMap.find_empty] at hv
      cases hv

/-- Fifteen characters leave room for the terminator. -/
theorem strings_stored_fifteen :
    StringsStored (rangeMap "040000-00050000") (cstr "10.0.0.1")
      (initZeroedOptions {} 40 (rangeConfigs "040000-00050000") (rangeMap "040000-00050000")
        (cstr "10.0.0.1")).1.gOptions :=
  (strings_stored_iff rfl (rangeMap_cstrings (by decide) (by decide)) rfl rfl).mpr (by decide)

/-- A port range of sixteen characters is accepted, and no byte of its array is zero. -/
theorem portRange_unterminated :
    (ockRpcDefaultOptionInit (rangeMap "0040000-00050000") {} (cstr "10.0.0.1")).2 = ockRpcOk ∧
    (initZeroedOptions {} 40 (rangeConfigs "0040000-00050000") (rangeMap "0040000-00050000")
      (cstr "10.0.0.1")).2 = ockRpcOk ∧
    0 ∉ List.ofFn (initZeroedOptions {} 40 (rangeConfigs "0040000-00050000") (rangeMap "0040000-00050000")
      (cstr "10.0.0.1")).1.gOptions.oobPortRange ∧
    ¬ ∀ w service configs m ip, ockRpcInitConfigMap configs = some m → CStrings m ip →
      (ockRpcDefaultOptionInit m {} ip).2 = ockRpcOk → (initZeroedOptions w service configs m ip).2 = ockRpcOk →
      StringsStored m ip (initZeroedOptions w service configs m ip).1.gOptions := by
  have hfull : 0 ∉ List.ofFn (initZeroedOptions {} 40 (rangeConfigs "0040000-00050000")
      (rangeMap "0040000-00050000") (cstr "10.0.0.1")).1.gOptions.oobPortRange := by decide
  refine ⟨rfl, rfl, hfull, ?_⟩
  intro h
  have hstored := h {} 40 (rangeConfigs "0040000-00050000") (rangeMap "0040000-00050000") (cstr "10.0.0.1")
    rfl (rangeMap_cstrings (by decide) (by decide)) rfl rfl
  exact hfull hstored.portRange.terminated

end Examples

end Hcom4db
