import Hcom4db.Base.Arena
import Hcom4db.PackFailure

/-!
# Hcom4db.BlockHome

The allocators as arenas: what a packing and a freeing loop do to them.

* `packReqInfo_batch`: a packing takes its blocks first and frees afterwards, all on one allocator.
* `packReqInfo_freed_taken`: what it frees it has taken, unless its clean-up passes the null addresses
  of blocks that were refused (`FreesOwn`).
-/

namespace Hcom4db

open FlatMem Arena

/-- What an event does to the allocators. -/
def Event.arenaOp? : Event → Option (Op Addr Addr)
  | .poolCreate a _ => some (.create a)
  | .poolDestroy a ret => if ret = ockRpcOk then some (.destroy a) else none
  | .poolAlloc a _ x => some (.alloc a x)
  | .poolFree a x => some (.free a x)
  | _ => none

def arenaOps (evs : List Event) : Trace Addr Addr := evs.filterMap Event.arenaOp?

@[simp] theorem arenaOps_append (es fs : List Event) :
    arenaOps (es ++ fs) = arenaOps es ++ arenaOps fs := List.filterMap_append

/-- The events of a pool operation on `a` that allocates nothing are frees. -/
theorem arenaOps_of_frees {a : Addr} {evs : List Event} (hp : ∀ ev ∈ evs, ev.onPool a)
    (ht : taken evs = []) : arenaOps evs = (poolFreed evs).map (Op.free a) := by
  induction evs with
  | nil => rfl
  | cons ev evs ih =>
    have hev := hp ev List.mem_cons_self
    rw [taken_cons, List.append_eq_nil_iff] at ht
    have ih' := ih (fun e he => hp e (List.mem_cons_of_mem _ he)) ht.2
    cases ev with
    | poolAlloc a' size x => simp at ht
    | poolFree a' x =>
      obtain rfl : a' = a := hev
      rw [poolFreed_cons]
      exact congrArg _ ih'
    | store addr n => exact ih'
    | iovStore i => exact ih'
    | _ => exact hev.elim

theorem arenaOps_of_allocs {a : Addr} {evs : List Event} (hp : ∀ ev ∈ evs, ev.onPool a)
    (ht : poolFreed evs = []) : arenaOps evs = (taken evs).map (Op.alloc a) := by
  induction evs with
  | nil => rfl
  | cons ev evs ih =>
    have hev := hp ev List.mem_cons_self
    rw [poolFreed_cons, List.append_eq_nil_iff] at ht
    have ih' := ih (fun e he => hp e (List.mem_cons_of_mem _ he)) ht.2
    cases ev with
    | poolFree a' x => simp at ht
    | poolAlloc a' size x =>
      obtain rfl : a' = a := hev
      rw [taken_cons]
      exact congrArg _ ih'
    | store addr n => exact ih'
    | iovStore i => exact ih'
    | _ => exact hev.elim

/-! ## The order of a packing -/

/-- Everything is taken before anything is freed. -/
def TakesFirst (evs : List Event) : Prop :=
  ∃ fs es, evs = fs ++ es ∧ taken fs = [] ∧ poolFreed es = []

theorem TakesFirst.of_taken {evs : List Event} (h : taken evs = []) : TakesFirst evs :=
  ⟨evs, [], (List.append_nil evs).symm, h, rfl⟩

theorem TakesFirst.of_freed {evs : List Event} (h : poolFreed evs = []) : TakesFirst evs :=
  ⟨[], evs, rfl, rfl, h⟩

/-- Events that free nothing may come before. -/
theorem TakesFirst.append_old {evs old : List Event} (h : TakesFirst evs) (ho : poolFreed old = []) :
    TakesFirst (evs ++ old) := by
  obtain ⟨fs, es, rfl, h1, h2⟩ := h
  exact ⟨fs, es ++ old, by rw [List.append_assoc], h1, by rw [poolFreed_append, h2, ho]; rfl⟩

/-- Events that take nothing may follow. -/
theorem TakesFirst.append_new {evs new : List Event} (h : TakesFirst evs) (hn : taken new = []) :
    TakesFirst (new ++ evs) := by
  obtain ⟨fs, es, rfl, h1, h2⟩ := h
  exact ⟨new ++ fs, es, by rw [List.append_assoc], by rw [taken_append, hn, h1]; rfl, h2⟩

theorem TakesFirst.arenaOps {a : Addr} {evs : List Event} (h : TakesFirst evs)
    (hp : ∀ ev ∈ evs, ev.onPool a) :
    arenaOps evs = (poolFreed evs).map (Op.free a) ++ (taken evs).map (Op.alloc a) := by
  obtain ⟨fs, es, rfl, h1, h2⟩ := h
  rw [arenaOps_append, poolFreed_append, taken_append, h1, h2, List.append_nil, List.nil_append,
    arenaOps_of_frees (fun ev hev => hp ev (List.mem_append_left _ hev)) h1,
    arenaOps_of_allocs (fun ev hev => hp ev (List.mem_append_right _ hev)) h2]

section

variable {client : Addr} {env : PackEnv} {seg : UInt32} {count : Nat} {w w' : World}
  {req req' : ServiceSglRequest} {st : OckRpcStatus}

theorem taken_since_memFreeList (w : World) (client : Addr) (xs : List Addr) :
    taken (w.since (memFreeList w client xs)) = [] := by
  rw [taken, blocks_since_memFreeList]
  rfl

theorem setReqInfoLoop_takesFirst {ms : List ReqMessage} {i : Nat}
    (h : setReqInfoLoop client env seg count ms i w req = (w', st, req')) :
    TakesFirst (w.since w') := by
  induction ms generalizing i w req with
  | nil =>
    simp only [setReqInfoLoop, Prod.mk.injEq] at h
    obtain ⟨rfl, -, -⟩ := h
    rw [World.since_self]
    exact TakesFirst.of_freed rfl
  | cons m ms ih =>
    rcases setReqInfoLoop_cons client env seg count i m ms w req with
      ⟨-, e⟩ | ⟨addr, key, -, -, e⟩ | ⟨addr, key, b, -, -, -, e⟩
    · rw [e] at h
      cases h
      rw [(PoolFrame.touch client w).since_trans (memFreeList_frame client _ _), since_touch,
        List.append_nil]
      exact TakesFirst.of_taken (taken_since_memFreeList _ _ _)
    · rw [e] at h
      cases h
      have hA := PoolFrame.allocated client w (reqBlockSize seg count i m) addr
      rw [(hA.trans PoolFrame.memcpyS).since_trans (memFreeList_frame client _ _)]
      refine (TakesFirst.of_taken (taken_since_memFreeList _ _ _)).append_old ?_
      rw [hA.since_trans PoolFrame.memcpyS, poolFreed_append, (memcpyS_since _ _ _ _ _ _).2,
        since_allocated]
      rfl
    · rw [e] at h
      have hA := packed_frame client w (reqBlockSize seg count i m) addr b m.len.toNat (i + 1)
      have hrest := setReqInfoLoop_frame client env seg count ms (i + 1)
        (((w.allocated client (reqBlockSize seg count i m) addr).store addr b m.len.toNat).emit
          (.iovStore (i + 1))) (req.packed i m addr key)
      rw [h] at hrest
      rw [hA.since_trans hrest, since_packed]
      exact (ih h).append_old rfl

theorem packReqInfo_takesFirst {msgs : List ReqMessage} {msgId : UInt16}
    (h : packReqInfo w client msgs msgId {} env = (w', st, req')) : TakesFirst (w.since w') := by
  rcases ha : env.alloc 0 with _ | ⟨addr, key⟩
  · rw [packReqInfo_noHeader ha] at h
    cases h
    rw [since_touch]
    exact TakesFirst.of_freed rfl
  have hw := PoolFrame.withHeader client w msgId addr
  have hhead : poolFreed (w.since (w.withHeader client msgId addr)) = [] := by
    rw [since_withHeader]
    rfl
  rcases Nat.lt_or_ge 3 msgs.length with hn | hn
  · rw [packReqInfo_long ha hn] at h
    rcases hr : setReqInfo (w.withHeader client msgId addr) client msgs 3
      (ServiceSglRequest.withHeader {} addr key) env with ⟨w1, ret, req1⟩
    have hf1 := setReqInfo_frame (w.withHeader client msgId addr) client msgs 3
      (ServiceSglRequest.withHeader {} addr key) env
    rw [hr] at h hf1
    have hset := (setReqInfoLoop_takesFirst hr).append_old hhead
    simp only at h hf1
    split at h
    · cases h
      have hlast : w1.since (ockRpcMemFree w1 client addr) =
          [.poolFree (w1.allocatorOf client) addr] := World.since_of_trace rfl
      rw [(hw.trans hf1).since_trans (PoolFrame.memFree client w1 addr), hw.since_trans hf1]
      exact hset.append_new (by rw [hlast]; rfl)
    · have hf2 := appendLoop_frame client env w1.gOptions.mrSendReceiveSegSize 3 (msgs.drop 3) 3 w1
        req1
      rw [h] at hf2
      rw [(hw.trans hf1).since_trans hf2, hw.since_trans hf1]
      exact hset.append_new (by rw [taken, appendLoop_blocks h]; rfl)
  · rw [packReqInfo_short ha hn] at h
    rcases hr : setReqInfo (w.withHeader client msgId addr) client msgs msgs.length
      (ServiceSglRequest.withHeader {} addr key) env with ⟨w1, ret, req1⟩
    have hf1 := setReqInfo_frame (w.withHeader client msgId addr) client msgs msgs.length
      (ServiceSglRequest.withHeader {} addr key) env
    rw [hr] at h hf1
    have hset := (setReqInfoLoop_takesFirst hr).append_old hhead
    simp only at h hf1
    split at h
    · cases h
      rw [freeAllMemory, (hw.trans hf1).since_trans (memFreeList_frame client _ _),
        hw.since_trans hf1]
      exact hset.append_new (taken_since_memFreeList _ _ _)
    · cases h
      rw [hw.since_trans hf1]
      exact hset

/-! ## What a packing frees -/

/-- When a packing that fails frees only what it has taken: the header is refused, or every message of
`SetReqInfo` is packed, or there are more than three messages and `SetReqInfo` is refused no block but
its first. -/
def FreesOwn (env : PackEnv) (seg : UInt32) (msgs : List ReqMessage) : Prop :=
  env.alloc 0 = none ∨ (∀ k m, (msgs.take 3)[k]? = some m → SetOk env seg k m) ∨
    (3 < msgs.length ∧ ∀ k, 0 < k → k < 3 → (∀ j m, j < k → msgs[j]? = some m → SetOk env seg j m) →
      (env.alloc (k + 1)).isSome)

/-- Then the clean-up of `SetReqInfo` frees no null address: a block it was refused was its first. -/
theorem StoppedAt.refused_first {msgs : List ReqMessage} {k : Nat} {evs : List Event} {x : Addr}
    {key : UInt32} (S : StoppedAt env seg 0 k (msgs.take 3) req req' evs)
    (ha : env.alloc 0 = some (x, key)) (hown : FreesOwn env seg msgs)
    (hnone : env.addr (k + 1) = none) : k = 0 := by
  obtain ⟨m, hm, hfail⟩ := S.failed
  rw [Nat.zero_add] at hfail
  rcases hown with h0 | h0 | ⟨-, h0⟩
  · rw [ha] at h0
    cases h0
  · exact absurd (h0 k m hm) hfail
  · by_contra hk
    have hlt : k < 3 := by
      have h1 := (List.getElem?_eq_some_iff.mp hm).1
      rw [List.length_take] at h1
      omega
    have h2 := h0 k (by omega) hlt fun j m' hj hm' => by
      have h3 := S.before j m' hj (by rw [List.getElem?_take_of_lt (by omega)]; exact hm')
      rwa [Nat.zero_add] at h3
    rw [PackEnv.addr, Option.map_eq_none_iff] at hnone
    rw [hnone] at h2
    cases h2

theorem StoppedAt.freed_taken {ms : List ReqMessage} {k : Nat} {evs : List Event}
    (S : StoppedAt env seg 0 k ms req req' evs) (hans : env.Answers 1 (taken evs).reverse)
    (hfirst : env.addr (k + 1) = none → k = 0) : ∀ x ∈ poolFreed evs, x ∈ taken evs := by
  intro x hx
  rcases S.freed with ⟨hnone, -, hf⟩ | ⟨a, hs, ht, hf⟩
  · rw [Nat.zero_add] at hnone
    rw [hf, hfirst hnone] at hx
    cases hx
  · rw [hf, List.mem_replicate] at hx
    obtain ⟨-, rfl⟩ := hx
    -- the block the failing copy was for is the last one taken
    have hlt : k < (taken evs).reverse.length := by
      rw [List.length_reverse, ht]
      omega
    have h1 := hans.addr_eq (List.getElem?_eq_getElem hlt)
    rw [show 1 + k = 0 + k + 1 by omega, hs] at h1
    rw [Option.some.inj h1]
    exact List.mem_reverse.mp (List.getElem_mem hlt)

/-- Whatever a failed packing frees it has taken: one case for each place where it can fail. -/
theorem PackFailed.freed_taken {msgs : List ReqMessage} {addr : Addr} {key : UInt32}
    {ts fs : List Addr} (F : PackFailed env seg msgs addr key ts fs)
    (ha : env.alloc 0 = some (addr, key)) (hown : FreesOwn env seg msgs) : ∀ x ∈ fs, x ∈ ts := by
  intro x hx
  cases F with
  | setReqInfo long S hans =>
    rcases List.mem_cons.mp hx with rfl | hx
    · exact List.mem_append_right _ (List.mem_singleton_self _)
    · exact List.mem_append_left _ (S.freed_taken hans (S.refused_first ha hown) x hx)
  | append long ok P hans =>
    have hms : (msgs.take 3).length = 3 := by
      rw [List.length_take]
      omega
    have hiov := P.iovAddrs
    rw [hms] at hiov
    rw [ockMaxIovCount, hiov, List.reverse_cons, List.reverse_reverse] at hx
    exact hx
  | short short S hans =>
    -- every message of `SetReqInfo` is packed, so it cannot fail here
    exfalso
    obtain ⟨m, hm, hfail⟩ := S.failed
    rw [Nat.zero_add] at hfail
    have hk := (List.getElem?_eq_some_iff.mp hm).1
    rcases hown with h0 | h0 | ⟨h0, -⟩
    · rw [ha] at h0
      cases h0
    · exact hfail (h0 _ m (by rw [List.getElem?_take_of_lt (by omega)]; exact hm))
    · omega

theorem packReqInfo_freed_taken {msgs : List ReqMessage} {msgId : UInt16}
    (hlen : ∀ m ∈ msgs, m.len.toNat ≤ w.gOptions.mrSendReceiveSegSize.toNat)
    (hown : FreesOwn env w.gOptions.mrSendReceiveSegSize msgs)
    (h : packReqInfo w client msgs msgId {} env = (w', st, req')) :
    ∀ x ∈ poolFreed (w.since w'), x ∈ taken (w.since w') := by
  by_cases hst : st = ockRpcOk
  · subst hst
    rw [(packReqInfo_ok_blocks hlen h).2]
    intro x hx
    cases hx
  rcases ha : env.alloc 0 with _ | ⟨addr, key⟩
  · rw [packReqInfo_noHeader ha] at h
    cases h
    rw [since_touch]
    intro x hx
    cases hx
  · exact (packReqInfo_failed hlen ha h hst).freed_taken ha hown

end

end Hcom4db
