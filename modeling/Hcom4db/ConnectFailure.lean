import Mathlib.Data.List.Count
import Hcom4db.Base.Ledger
import Hcom4db.Connect

/-!
# Hcom4db.ConnectFailure

What a connect that fails leaves behind. The resources of a connect are the channel, the buffer of the
pool, its allocator and its memory region. No path of a connect releases any of them, so the ones acquired
before a failing step stay.

* `prepareMemAllocator_ok_iff`: when the preparation of the pool succeeds.
* `connect_all_or_nothing_iff`: a connect is all-or-nothing exactly when no step after `Service_Connect`
  fails.
-/

namespace Hcom4db

/-! ## Resources -/

inductive Resource where
  | channel (chan : Addr)
  | buffer (p : Addr)
  | allocator (a : Addr)
  | region (mr : Addr)
  deriving DecidableEq

def Event.acquired? : Event → Option Resource
  | .channelConnect _ chan _ => some (.channel chan)
  | .poolBuffer p _ => some (.buffer p)
  | .poolCreate a _ => some (.allocator a)
  | .mrRegister _ mr _ _ => some (.region mr)
  | _ => none

/-- A `Net_MemoryAllocatorDestroy` that fails releases nothing. -/
def Event.released? : Event → Option Resource
  | .channelClose chan => some (.channel chan)
  | .stdFree p => some (.buffer p)
  | .poolDestroy a ret => if ret = ockRpcOk then some (.allocator a) else none
  | .mrDestroy _ mr => some (.region mr)
  | _ => none

def acquired (evs : List Event) : List Resource := evs.filterMap Event.acquired?
def released (evs : List Event) : List Resource := evs.filterMap Event.released?

/-- Both client maps are as before, and what was acquired is released once. -/
structure Undone (w w' : World) : Prop where
  gMemoryAllocator : w'.gMemoryAllocator = w.gMemoryAllocator
  gMemoryRegion : w'.gMemoryRegion = w.gMemoryRegion
  released : Ledger.Balanced (acquired (w.since w')) (released (w.since w'))

/-! ## When the steps succeed -/

/-- The sizes a configuration gives for the pool. -/
structure PoolSizes (m : ConfigMap) (maxSize maxCount : UInt32) : Prop where
  size : ockRpcString2Num m ockRpcStrPreSegmentSize ockMaxMessagSize = some maxSize
  size_le : maxSize ≤ maxSegmentSize
  count : ockRpcString2Num m ockRpcStrPreSegmentCount ockMaxMessagCount = some maxCount
  count_le : maxCount ≤ maxSegmentCount

/-- Every step of the transport library and `malloc` succeeds. -/
structure PoolSteps (e : ConnectEnv) : Prop where
  malloc : e.malloc ≠ 0
  create : e.createRet = ockRpcOk
  register : e.registerRet = ockRpcOk
  info : e.infoRet = ockRpcOk
  setKey : e.setKeyRet = ockRpcOk

/-- The sizes are in range, and they ask for no pool or every step succeeds. -/
def PreparesPool (m : ConfigMap) (e : ConnectEnv) : Prop :=
  ∃ maxSize maxCount, PoolSizes m maxSize maxCount ∧ (maxSize * maxCount = 0 ∨ PoolSteps e)

/-- A connect whose arguments pass and for which `Service_Connect` succeeds. -/
structure Connects (w : World) (a : ConnectArgs) (e : ConnectEnv) (ip : CStr) (m : ConfigMap)
    (service : Addr) (flags : UInt32) : Prop where
  checked : ∃ configs, ockRpcCheckClientCreateCfg a = some (ip, configs) ∧
    ockRpcInitConfigMap configs = some m
  service : ockRpcGetCurService w m = some service
  option : ockRpcSetConnectionOption m = some flags
  connect : e.connectRet = ockRpcOk

section

variable {w w' : World} {a : ConnectArgs} {e : ConnectEnv} {m : ConfigMap}

theorem PoolSizes.unique {x y x' y' : UInt32} (h : PoolSizes m x y) (h' : PoolSizes m x' y') :
    x = x' ∧ y = y' := by
  have h1 := h.size
  rw [h'.size] at h1
  have h2 := h.count
  rw [h'.count] at h2
  exact ⟨(Option.some.inj h1).symm, (Option.some.inj h2).symm⟩

/-- The options of an allocator are refused, or there is no pool, or a buffer is there for it. -/
theorem setAllocatorOption_ends (w : World) (m : ConfigMap) (malloc : Addr) :
    ((ockRpcSetAllocatorOption w m malloc).2 = .error ockRpcErr ∧
      ∀ x y, PoolSizes m x y → x * y ≠ 0 ∧ malloc = 0) ∨
    ((ockRpcSetAllocatorOption w m malloc).2 = .error ockRpcErrInvalidParam ∧
      ∃ x y, PoolSizes m x y ∧ x * y = 0) ∨
    (∃ option, (ockRpcSetAllocatorOption w m malloc).2 = .ok option ∧
      ∃ x y, PoolSizes m x y ∧ x * y ≠ 0 ∧ malloc ≠ 0) := by
  have hzero : ∀ x : UInt32, x.toUInt64 = 0 ↔ x = 0 := by
    intro x
    rw [← UInt64.toNat_inj, ← UInt32.toNat_inj, UInt32.toNat_toUInt64]
    rfl
  unfold ockRpcSetAllocatorOption
  split
  · rename_i hs
    refine .inl ⟨rfl, ?_⟩
    intro x y h
    have := h.size
    rw [hs] at this
    cases this
  · rename_i maxSize hs
    split
    · rename_i hgt
      refine .inl ⟨rfl, ?_⟩
      intro x y h
      have hx := h.size
      rw [hs] at hx
      cases hx
      exact absurd hgt (UInt32.not_lt.mpr h.size_le)
    · rename_i hle
      split
      · rename_i hc
        refine .inl ⟨rfl, ?_⟩
        intro x y h
        have := h.count
        rw [hc] at this
        cases this
      · rename_i maxCount hc
        split
        · rename_i hgt
          refine .inl ⟨rfl, ?_⟩
          intro x y h
          have hy := h.count
          rw [hc] at hy
          cases hy
          exact absurd hgt (UInt32.not_lt.mpr h.count_le)
        · rename_i hle'
          have hsizes : PoolSizes m maxSize maxCount :=
            ⟨hs, UInt32.not_lt.mp hle, hc, UInt32.not_lt.mp hle'⟩
          simp only
          split
          · rename_i h0
            exact .inr (.inl ⟨rfl, maxSize, maxCount, hsizes, (hzero _).mp h0⟩)
          · rename_i h0
            have h0' : maxSize * maxCount ≠ 0 := fun h => h0 ((hzero _).mpr h)
            split
            · rename_i hm
              refine .inl ⟨rfl, ?_⟩
              intro x y h
              obtain ⟨rfl, rfl⟩ := hsizes.unique h
              exact ⟨h0', hm⟩
            · rename_i hm
              exact .inr (.inr ⟨_, rfl, maxSize, maxCount, hsizes, h0', hm⟩)

/-- The preparation of a pool succeeds exactly when there is none to prepare, or every step succeeds. -/
theorem prepareMemAllocator_ok_iff (w : World) (server client : Addr) (m : ConfigMap)
    (e : ConnectEnv) :
    (ockRpcPrepareMemAllocator w server client m e).2 = ockRpcOk ↔ PreparesPool m e := by
  unfold ockRpcPrepareMemAllocator
  rcases setAllocatorOption_ends w m e.malloc with ⟨hr, hno⟩ | ⟨hr, x, y, hs, h0⟩ |
    ⟨option, hr, x, y, hs, h0, hm⟩
  all_goals
    generalize ockRpcSetAllocatorOption w m e.malloc = r at hr ⊢
    obtain ⟨w1, opt⟩ := r
    simp only at hr ⊢
    subst hr
  · -- the options are refused
    refine iff_of_false ockRpcErr_ne_ok ?_
    rintro ⟨x, y, hs, h0 | hsteps⟩
    · exact (hno x y hs).1 h0
    · exact hsteps.malloc (hno x y hs).2
  · exact iff_of_true rfl ⟨x, y, hs, .inl h0⟩
  · -- a pool has to be prepared, so every step counts
    have hiff : PreparesPool m e ↔ PoolSteps e := by
      constructor
      · rintro ⟨x', y', hs', h | h⟩
        · obtain ⟨rfl, rfl⟩ := hs.unique hs'
          exact absurd h h0
        · exact h
      · intro h
        exact ⟨x, y, hs, .inr h⟩
    rw [hiff]
    simp only
    split
    · rename_i hc
      exact iff_of_false ockRpcErr_ne_ok fun h => hc h.create
    · rename_i hc
      unfold ockRpcRegisterMr
      by_cases hreg : e.registerRet = ockRpcOk
      · rw [if_neg (not_not.mpr hreg)]
        by_cases hinfo : e.infoRet = ockRpcOk
        · rw [if_neg (not_not.mpr hinfo)]
          simp only [ne_eq, not_true_eq_false, if_false]
          split
          · rename_i hk
            exact iff_of_false ockRpcErr_ne_ok fun h => hk h.setKey
          · rename_i hk
            exact iff_of_true rfl ⟨hm, not_not.mp hc, hreg, hinfo, not_not.mp hk⟩
        · rw [if_pos hinfo]
          exact iff_of_false ockRpcErr_ne_ok fun h => hinfo h.info
      · rw [if_pos hreg]
        exact iff_of_false ockRpcErr_ne_ok fun h => hreg h.register

/-! ## The whole connect -/

theorem Connects.unique {ip ip' : CStr} {m' : ConfigMap} {service service' : Addr}
    {flags flags' : UInt32} (h : Connects w a e ip m service flags)
    (h' : Connects w a e ip' m' service' flags') : m = m' := by
  obtain ⟨configs, h1, h2⟩ := h.checked
  obtain ⟨configs', h1', h2'⟩ := h'.checked
  rw [h1] at h1'
  cases h1'
  rw [h2] at h2'
  exact Option.some.inj h2'

/-- A connect that gets no channel changes nothing; one that does ends with its pool. -/
theorem connect_ends (w : World) (a : ConnectArgs) (e : ConnectEnv) :
    ((∀ ip m service flags, ¬ Connects w a e ip m service flags) ∧
      (ockRpcClientConnectWithCfg w a e).1 = w ∧
      (ockRpcClientConnectWithCfg w a e).2 ≠ ockRpcOk) ∨
    (∃ ip m service flags req, Connects w a e ip m service flags ∧
      ockRpcClientConnectWithCfg w a e =
        orErr (ockRpcPrepareMemAllocator (w.emit (.channelConnect service e.channel req)) service
          e.channel m e)) := by
  unfold ockRpcClientConnectWithCfg
  split
  · rename_i hc
    refine .inl ⟨?_, rfl, ockRpcErrInvalidParam_ne_ok⟩
    intro ip m service flags h
    obtain ⟨configs, h1, -⟩ := h.checked
    rw [hc] at h1
    cases h1
  · rename_i ip configs hc
    split
    · rename_i hm
      refine .inl ⟨?_, rfl, ockRpcErrInvalidParam_ne_ok⟩
      intro ip' m service flags h
      obtain ⟨configs', h1, h2⟩ := h.checked
      rw [hc] at h1
      cases h1
      rw [hm] at h2
      cases h2
    · rename_i m hm
      have hsame : ∀ {ip' m' service flags}, Connects w a e ip' m' service flags → m' = m := by
        intro ip' m' service flags h
        obtain ⟨configs', h1, h2⟩ := h.checked
        rw [hc] at h1
        cases h1
        rw [hm] at h2
        exact (Option.some.inj h2).symm
      split
      · rename_i hsv
        refine .inl ⟨?_, rfl, ockRpcErrInvalidParam_ne_ok⟩
        intro ip' m' service flags h
        have h1 := h.service
        rw [hsame h, hsv] at h1
        cases h1
      · rename_i service hsv
        split
        · rename_i hf
          refine .inl ⟨?_, rfl, ockRpcErrInvalidParam_ne_ok⟩
          intro ip' m' service flags h
          have h1 := h.option
          rw [hsame h, hf] at h1
          cases h1
        · rename_i flags hf
          split
          · rename_i hcon
            refine .inl ⟨?_, rfl, ockRpcErr_ne_ok⟩
            intro ip' m' service flags h
            exact hcon h.connect
          · rename_i hcon
            refine .inr ⟨ip, m, service, flags, ⟨ip, a.port, configuredPayLoad m, 1, flags⟩,
              ⟨⟨configs, hc, hm⟩, hsv, hf, not_not.mp hcon⟩, ?_⟩
            simp only [orErr]
            split
            · rfl
            · rfl

/-- The three ends of a connect: it fails and leaves the maps alone; it succeeds without a pool; it enters
its pool in both maps. -/
theorem connect_outcome (w : World) (a : ConnectArgs) (e : ConnectEnv) :
    (∃ evs st, ockRpcClientConnectWithCfg w a e = ({ w with trace := evs ++ w.trace }, st) ∧
      st ≠ ockRpcOk ∧ ∀ ev ∈ evs, ev.onConnect e) ∨
    (∃ service req, ockRpcClientConnectWithCfg w a e =
      (w.emit (.channelConnect service e.channel req), ockRpcOk)) ∨
    (∃ ip m service flags option req, Connects w a e ip m service flags ∧
      ockRpcClientConnectWithCfg w a e =
        ({ w with
            gMemoryAllocator := w.gMemoryAllocator.insertNew e.channel e.allocator
            gMemoryRegion := w.gMemoryRegion.insertNew e.channel ⟨e.mr, e.info, service⟩
            trace := poolEvents service option e ++ .channelConnect service e.channel req :: w.trace },
          ockRpcOk)) := by
  rcases connect_ends w a e with ⟨-, hw, hst⟩ | ⟨ip, m, service, flags, req, hcon, hr⟩
  · exact .inl ⟨[], _, Prod.ext hw rfl, hst, by simp⟩
  · rcases prepareMemAllocator_cases (w.emit (.channelConnect service e.channel req)) service
      e.channel m e with ⟨evs, st, h, hevs, hok⟩ | ⟨option, h⟩
    · rw [hr, h]
      by_cases hst : st = ockRpcOk
      · rw [hok hst]
        refine .inr (.inl ⟨service, req, ?_⟩)
        rw [orErr, if_neg (not_not.mpr hst)]
        rfl
      · refine .inl ⟨evs ++ [.channelConnect service e.channel req], ockRpcErr, ?_, ockRpcErr_ne_ok, ?_⟩
        · rw [orErr, if_pos hst, List.append_assoc]
          rfl
        · intro ev hev
          rcases List.mem_append.mp hev with hev | hev
          · exact hevs ev hev
          · rw [List.mem_singleton.mp hev]
            rfl
    · rw [hr, h]
      exact .inr (.inr ⟨ip, m, service, flags, option, req, hcon, rfl⟩)

/-- The preparation of a pool leaves what one that goes through has left up to some step. -/
theorem prepare_events (w : World) (server client : Addr) (m : ConfigMap) (e : ConnectEnv) :
    ∃ option evs, option.address = e.malloc ∧ evs <:+ poolEvents server option e ∧
      (ockRpcPrepareMemAllocator w server client m e).1.trace = evs ++ w.trace := by
  unfold ockRpcPrepareMemAllocator
  rcases setAllocatorOption_cases w m e.malloc with ⟨ret, h⟩ | ⟨option, h2, haddr, h1⟩
  · rw [h]
    refine ⟨⟨e.malloc, 0, 0, 0, 0, 0, 0, .power⟩, [], rfl, List.nil_suffix, ?_⟩
    simp only
    split
    · rfl
    · rfl
  · have h : ockRpcSetAllocatorOption w m e.malloc =
        (w.emit (.poolBuffer e.malloc option.size), .ok option) := Prod.ext h1 h2
    rw [h]
    simp only
    split
    · exact ⟨option, [.poolBuffer e.malloc option.size], haddr, ⟨[_, _, _], rfl⟩, rfl⟩
    · unfold ockRpcRegisterMr
      by_cases hreg : e.registerRet = ockRpcOk
      · rw [if_neg (not_not.mpr hreg)]
        by_cases hinfo : e.infoRet = ockRpcOk
        · rw [if_neg (not_not.mpr hinfo), if_neg (not_not.mpr rfl)]
          split
          · exact ⟨option, (poolEvents server option e).tail, haddr, List.tail_suffix _, rfl⟩
          · exact ⟨option, poolEvents server option e, haddr, List.suffix_rfl, rfl⟩
        · rw [if_pos hinfo, if_pos ockRpcErr_ne_ok]
          exact ⟨option, (poolEvents server option e).tail, haddr, List.tail_suffix _, rfl⟩
      · rw [if_pos hreg]
        simp only
        rw [if_pos ockRpcErr_ne_ok]
        exact ⟨option, [.poolCreate e.allocator option, .poolBuffer e.malloc option.size], haddr,
          ⟨[_, _], rfl⟩, rfl⟩

/-- A connect leaves what one that goes through has left up to some step. -/
theorem connect_events (w : World) (a : ConnectArgs) (e : ConnectEnv) :
    ∃ service option req evs, option.address = e.malloc ∧
      evs <:+ poolEvents service option e ++ [.channelConnect service e.channel req] ∧
      (ockRpcClientConnectWithCfg w a e).1.trace = evs ++ w.trace := by
  rcases connect_ends w a e with ⟨-, hw, -⟩ | ⟨ip, m, service, flags, req, -, hr⟩
  · refine ⟨0, ⟨e.malloc, 0, 0, 0, 0, 0, 0, .power⟩, ⟨[], 0, [], 0, 0⟩, [], rfl, List.nil_suffix, ?_⟩
    rw [hw]
    rfl
  · obtain ⟨option, evs, haddr, ⟨later, hlater⟩, ht⟩ := prepare_events
      (w.emit (.channelConnect service e.channel req)) service e.channel m e
    refine ⟨service, option, req, evs ++ [.channelConnect service e.channel req], haddr,
      ⟨later, by rw [← hlater, List.append_assoc]⟩, ?_⟩
    have hst : (orErr (ockRpcPrepareMemAllocator (w.emit (.channelConnect service e.channel req))
        service e.channel m e)).1 = (ockRpcPrepareMemAllocator
          (w.emit (.channelConnect service e.channel req)) service e.channel m e).1 := by
      unfold orErr
      split
      · rfl
      · rfl
    rw [hr, hst, ht, List.append_assoc]
    rfl

/-- Nothing a connect does releases a resource. -/
theorem released_onConnect {evs : List Event} (h : ∀ ev ∈ evs, ev.onConnect e) : released evs = [] := by
  refine List.filterMap_eq_nil_iff.mpr ?_
  intro ev hev
  have hon := h ev hev
  cases ev with
  | channelConnect service chan req => rfl
  | poolBuffer p size => rfl
  | poolCreate a options => rfl
  | mrRegister server mr address size => rfl
  | poolSetKey a key => rfl
  | _ => cases hon

/-- A connect that fails with its channel there does not close it. -/
theorem not_undone_of_prepare {service : Addr} {req : ConnectRequest}
    (hne : (ockRpcPrepareMemAllocator (w.emit (.channelConnect service e.channel req)) service
      e.channel m e).2 ≠ ockRpcOk) :
    ¬ Undone w (ockRpcPrepareMemAllocator (w.emit (.channelConnect service e.channel req)) service
      e.channel m e).1 := by
  rcases prepareMemAllocator_cases (w.emit (.channelConnect service e.channel req)) service e.channel m
    e with ⟨evs, st, h, hevs, -⟩ | ⟨option, h⟩
  · rw [h]
    have hsince : w.since { w.emit (.channelConnect service e.channel req) with
        trace := evs ++ (w.emit (.channelConnect service e.channel req)).trace } =
        evs ++ [.channelConnect service e.channel req] :=
      @World.since_append w (w.emit (.channelConnect service e.channel req)) _ _ _ rfl rfl
    intro hun
    have hbal := hun.released (.channel e.channel)
    rw [hsince] at hbal
    have hrel : released (evs ++ [.channelConnect service e.channel req]) = [] := by
      refine released_onConnect (e := e) ?_
      intro ev hev
      rcases List.mem_append.mp hev with hev | hev
      · exact hevs ev hev
      · rw [List.mem_singleton.mp hev]
        rfl
    have hacq : Resource.channel e.channel ∈
        acquired (evs ++ [.channelConnect service e.channel req]) := by
      refine List.mem_filterMap.mpr ⟨.channelConnect service e.channel req, ?_, rfl⟩
      simp
    rw [hrel, if_pos hacq] at hbal
    cases hbal
  · rw [h] at hne
    exact absurd rfl hne

/-- **Connect is all-or-nothing** exactly when it gets no channel, or the pool of its channel is
prepared. -/
theorem connect_all_or_nothing_iff (w : World) (a : ConnectArgs) (e : ConnectEnv) :
    ((ockRpcClientConnectWithCfg w a e).2 ≠ ockRpcOk →
        Undone w (ockRpcClientConnectWithCfg w a e).1) ↔
      ∀ ip m service flags, Connects w a e ip m service flags → PreparesPool m e := by
  rcases connect_ends w a e with ⟨hno, hw, -⟩ | ⟨ip, m, service, flags, req, hcon, hr⟩
  · refine iff_of_true ?_ fun ip m service flags h => absurd h (hno ip m service flags)
    intro _
    rw [hw]
    refine ⟨rfl, rfl, ?_⟩
    intro x
    rw [World.since_self]
    rfl
  · rw [hr]
    have hok := prepareMemAllocator_ok_iff (w.emit (.channelConnect service e.channel req)) service
      e.channel m e
    have hst : (orErr (ockRpcPrepareMemAllocator (w.emit (.channelConnect service e.channel req))
        service e.channel m e)).2 ≠ ockRpcOk ↔ ¬ PreparesPool m e := by
      rw [← hok]
      simp only [orErr]
      split
      · rename_i h
        exact iff_of_true ockRpcErr_ne_ok h
      · rename_i h
        exact iff_of_false (fun h => h rfl) h
    rw [hst]
    constructor
    · intro hun ip' m' service' flags' hcon'
      obtain rfl := hcon.unique hcon'
      by_contra hp
      exact not_undone_of_prepare (fun h => hp (hok.mp h)) (hun hp)
    · intro hall hp
      exact absurd (hall ip m service flags hcon) hp

end

/-- The memory region cannot be registered: the channel, the buffer and the allocator stay. -/
theorem connect_leaks : ∃ (w : World) (a : ConnectArgs) (e : ConnectEnv),
    (ockRpcClientConnectWithCfg w a e).2 = ockRpcErr ∧
      acquired (w.since (ockRpcClientConnectWithCfg w a e).1) =
        [.allocator 70, .buffer 5000, .channel 1] ∧
      released (w.since (ockRpcClientConnectWithCfg w a e).1) = [] ∧
      ¬ Undone w (ockRpcClientConnectWithCfg w a e).1 := by
  refine ⟨oneService, defaultConnect, { connectEnv 70 80 with registerRet := 1 }, rfl, rfl, rfl, ?_⟩
  intro h
  have := h.released (.channel 1)
  cases this

end Hcom4db
