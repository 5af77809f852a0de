import Hcom4db.Securec

/-!
# Hcom4db.Pool

The block pool of a client: `OckRpcMemAlloc` and `OckRpcMemFree`, and the loops that free a list of
addresses. Both functions look the allocator up with `g_memoryAllocator[client]`, so they insert a
null allocator for a client that has none (`World.touch`).

`PoolFrame client w w'` is what any sequence of pool operations of one client and stores into memory
leaves: only `mem`, `g_memoryAllocator` (at most touched at `client`) and the trace change.
-/

namespace Hcom4db

open FlatMem

/-- The allocator `g_memoryAllocator[client]` yields. -/
def World.allocatorOf (w : World) (client : Addr) : Addr :=
  (w.gMemoryAllocator.subscript 0 client).1

/-- What evaluating `g_memoryAllocator[client]` leaves. -/
def World.touch (w : World) (client : Addr) : World :=
  { w with gMemoryAllocator := (w.gMemoryAllocator.subscript 0 client).2 }

/-- `OckRpcMemAlloc`: `res` is the answer of `Net_MemoryAllocatorAllocate`, `none` for an error. -/
def ockRpcMemAlloc (w : World) (client : Addr) (memSize : Nat) (res : Option (Addr × UInt32)) :
    World × Option (Addr × UInt32) :=
  match res with
  | none => (w.touch client, none)
  | some (addr, key) =>
    ((w.touch client).emit (.poolAlloc (w.allocatorOf client) memSize addr), some (addr, key))

def ockRpcMemFree (w : World) (client addr : Addr) : World :=
  (w.touch client).emit (.poolFree (w.allocatorOf client) addr)

/-- `OckRpcMemFree` on each address of a list, in order. -/
def memFreeList (w : World) (client : Addr) : List Addr → World
  | [] => w
  | x :: xs => memFreeList (ockRpcMemFree w client x) client xs

/-! ## The allocator map -/

@[simp] theorem touch_touch (w : World) (client : Addr) :
    (w.touch client).touch client = w.touch client := by
  simp [World.touch, StdMap.subscript_subscript]

@[simp] theorem allocatorOf_touch (w : World) (client : Addr) :
    (w.touch client).allocatorOf client = w.allocatorOf client := by
  simp [World.touch, World.allocatorOf, StdMap.subscript_subscript]

@[simp] theorem touch_emit (w : World) (client : Addr) (e : Event) :
    (w.emit e).touch client = (w.touch client).emit e := rfl

@[simp] theorem allocatorOf_emit (w : World) (client : Addr) (e : Event) :
    (w.emit e).allocatorOf client = w.allocatorOf client := rfl

@[simp] theorem touch_trace (w : World) (client : Addr) : (w.touch client).trace = w.trace := rfl
@[simp] theorem touch_mem (w : World) (client : Addr) : (w.touch client).mem = w.mem := rfl

@[simp] theorem since_touch (w : World) (client : Addr) : w.since (w.touch client) = [] := by
  simp [World.since]

theorem touch_of_find {w : World} {client a : Addr} (h : w.gMemoryAllocator.find client = some a) :
    w.touch client = w := by
  simp [World.touch, StdMap.subscript_of_find 0 h]

theorem allocatorOf_of_find {w : World} {client a : Addr}
    (h : w.gMemoryAllocator.find client = some a) : w.allocatorOf client = a := by
  simp [World.allocatorOf, StdMap.subscript_of_find 0 h]

theorem find_touch (w : World) (client c : Addr) :
    (w.touch client).gMemoryAllocator.find c =
      if c = client then some (w.allocatorOf client) else w.gMemoryAllocator.find c := by
  rw [World.touch, StdMap.find_subscript]
  unfold World.allocatorOf StdMap.subscript
  cases w.gMemoryAllocator.find client <;> rfl

/-! ## Frame -/

/-- What pool operations on allocator `a` and stores leave in the trace. -/
def Event.onPool (a : Addr) : Event → Prop
  | .poolAlloc a' _ _ => a' = a
  | .poolFree a' _ => a' = a
  | .store _ _ => True
  | .iovStore _ => True
  | _ => False

/-- The allocator map is as it was, or `g_memoryAllocator[client]` has been evaluated. -/
def Touched (client : Addr) (w w' : World) : Prop :=
  w'.gMemoryAllocator = w.gMemoryAllocator ∨ w'.gMemoryAllocator = (w.touch client).gMemoryAllocator

namespace Touched

variable {client : Addr} {w w' w'' : World}

theorem trans (h : Touched client w w') (h' : Touched client w' w'') : Touched client w w'' := by
  cases h with
  | inl ha =>
    cases h' with
    | inl hb => exact .inl (hb.trans ha)
    | inr hb =>
      refine .inr ?_
      rw [hb, World.touch, World.touch, ha]
  | inr ha =>
    cases h' with
    | inl hb => exact .inr (hb.trans ha)
    | inr hb =>
      refine .inr ?_
      have h2 := congrArg World.gMemoryAllocator (touch_touch w client)
      rw [hb]
      simpa [World.touch, ha] using h2

/-- The allocator of the client does not change. -/
theorem allocatorOf (h : Touched client w w') : w'.allocatorOf client = w.allocatorOf client := by
  cases h with
  | inl ha => simp [World.allocatorOf, ha]
  | inr ha =>
    have h2 := allocatorOf_touch w client
    simpa [World.allocatorOf, ha] using h2

/-- An entry stays. -/
theorem find (h : Touched client w w') {c a : Addr} (ha : w.gMemoryAllocator.find c = some a) :
    w'.gMemoryAllocator.find c = some a := by
  cases h with
  | inl hm => rw [hm, ha]
  | inr hm =>
    rw [hm, find_touch]
    split
    · rename_i hc
      subst hc
      rw [allocatorOf_of_find ha]
    · exact ha

end Touched

structure PoolFrame (client : Addr) (w w' : World) : Prop where
  rest : w' = { w with mem := w'.mem, gMemoryAllocator := w'.gMemoryAllocator, trace := w'.trace }
  allocator : Touched client w w'
  trace : ∃ evs, w'.trace = evs ++ w.trace ∧ ∀ ev ∈ evs, ev.onPool (w.allocatorOf client)

namespace PoolFrame

variable {client : Addr} {w w' w'' : World}

theorem allocatorOf (h : PoolFrame client w w') : w'.allocatorOf client = w.allocatorOf client :=
  h.allocator.allocatorOf

theorem refl (client : Addr) (w : World) : PoolFrame client w w :=
  ⟨rfl, .inl rfl, [], rfl, fun _ h => nomatch h⟩

theorem trans (h : PoolFrame client w w') (h' : PoolFrame client w' w'') :
    PoolFrame client w w'' := by
  obtain ⟨evs, he, hp⟩ := h.trace
  obtain ⟨evs', he', hp'⟩ := h'.trace
  refine ⟨?_, h.allocator.trans h'.allocator, evs' ++ evs, by rw [he', he, List.append_assoc], ?_⟩
  · have h1 := h'.rest
    rw [h.rest] at h1
    exact h1
  · intro ev hev
    rcases List.mem_append.mp hev with hev | hev
    · rw [← h.allocatorOf]
      exact hp' ev hev
    · exact hp ev hev

theorem touch (client : Addr) (w : World) : PoolFrame client w (w.touch client) :=
  ⟨rfl, .inr rfl, [], rfl, fun _ h => nomatch h⟩

theorem emit (client : Addr) (w : World) {ev : Event} (h : ev.onPool (w.allocatorOf client)) :
    PoolFrame client w (w.emit ev) := by
  refine ⟨rfl, .inl rfl, [ev], rfl, fun x hx => ?_⟩
  rw [List.mem_singleton.mp hx]
  exact h

theorem iovStore (client : Addr) (w : World) (i : Nat) : PoolFrame client w (w.emit (.iovStore i)) :=
  emit client w trivial

theorem store (client : Addr) (w : World) (a : Addr) (src : Buf) (n : Nat) :
    PoolFrame client w (w.store a src n) :=
  ⟨rfl, .inl rfl, [.store a n], rfl, fun x hx => by rw [List.mem_singleton.mp hx]; trivial⟩

theorem memcpyS {dest : Addr} {destMax : Nat} {src : Option Buf} {count : Nat} {overlap : Bool} :
    PoolFrame client w (memcpyS w dest destMax src count overlap).1 := by
  rcases memcpyS_cases w dest destMax src count overlap with h | ⟨b, n, h⟩
  · rw [h]; exact refl client w
  · rw [h]; exact store client w dest b n

theorem memFree (client : Addr) (w : World) (addr : Addr) :
    PoolFrame client w (ockRpcMemFree w client addr) :=
  (touch client w).trans (emit client _ (allocatorOf_touch w client).symm)

theorem gOptions (h : PoolFrame client w w') : w'.gOptions = w.gOptions := by rw [h.rest]
theorem cbInfos (h : PoolFrame client w w') : w'.cbInfos = w.cbInfos := by rw [h.rest]
theorem reqAddrs (h : PoolFrame client w w') : w'.reqAddrs = w.reqAddrs := by rw [h.rest]
theorem slots (h : PoolFrame client w w') : w'.slots = w.slots := by rw [h.rest]
theorem inflight (h : PoolFrame client w w') : w'.inflight = w.inflight := by rw [h.rest]
theorem gMemoryRegion (h : PoolFrame client w w') : w'.gMemoryRegion = w.gMemoryRegion := by
  rw [h.rest]

theorem trace_eq (h : PoolFrame client w w') : w'.trace = w.since w' ++ w.trace := by
  obtain ⟨evs, he, -⟩ := h.trace
  rw [World.since_of_trace he, he]

theorem onPool (h : PoolFrame client w w') : ∀ ev ∈ w.since w', ev.onPool (w.allocatorOf client) := by
  obtain ⟨evs, he, hp⟩ := h.trace
  rw [World.since_of_trace he]
  exact hp

/-- Pool operations call no user's callback. -/
theorem userCalls (h : PoolFrame client w w') : userCalls (w.since w') = [] := by
  refine List.filterMap_eq_nil_iff.mpr fun ev hev => ?_
  have := h.onPool ev hev
  cases ev <;> first | rfl | exact this.elim

theorem since_trans (h : PoolFrame client w w') (h' : PoolFrame client w' w'') :
    w.since w'' = w'.since w'' ++ w.since w' :=
  World.since_append h.trace_eq h'.trace_eq

end PoolFrame

/-! ## Freeing a list -/

theorem memFreeList_frame (client : Addr) (xs : List Addr) :
    ∀ w : World, PoolFrame client w (memFreeList w client xs) := by
  induction xs with
  | nil => exact PoolFrame.refl client
  | cons x xs ih => intro w; exact (PoolFrame.memFree client w x).trans (ih _)

/-- The events of a freeing loop: one `Net_MemoryAllocatorFree` for each address, all on the
allocator the map holds. -/
theorem memFreeList_trace (client : Addr) (xs : List Addr) :
    ∀ w : World, (memFreeList w client xs).trace =
      (xs.map fun x => Event.poolFree (w.allocatorOf client) x).reverse ++ w.trace := by
  induction xs with
  | nil => intro w; rfl
  | cons x xs ih =>
    intro w
    rw [memFreeList, ih]
    simp [ockRpcMemFree]

theorem memFreeList_mem (client : Addr) (xs : List Addr) :
    ∀ w : World, (memFreeList w client xs).mem = w.mem := by
  induction xs with
  | nil => intro w; rfl
  | cons x xs ih => intro w; rw [memFreeList, ih]; rfl

theorem poolFreed_since_memFreeList (w : World) (client : Addr) (xs : List Addr) :
    poolFreed (w.since (memFreeList w client xs)) = xs.reverse := by
  rw [World.since_of_trace (memFreeList_trace client xs w), ← List.map_reverse]
  induction xs.reverse with
  | nil => rfl
  | cons x xs ih => simp [ih]

/-- A projection of the trace that ignores the pool sees nothing of a freeing loop. -/
theorem filterMap_since_memFreeList {β : Type} {f : Event → Option β}
    (hf : ∀ a x, f (.poolFree a x) = none) (w : World) (client : Addr) (xs : List Addr) :
    (w.since (memFreeList w client xs)).filterMap f = [] := by
  rw [World.since_of_trace (memFreeList_trace client xs w), ← List.map_reverse]
  induction xs.reverse with
  | nil => rfl
  | cons x xs ih => simp [hf, ih]

theorem blocks_since_memFreeList (w : World) (client : Addr) (xs : List Addr) :
    blocks (w.since (memFreeList w client xs)) = [] :=
  filterMap_since_memFreeList (fun _ _ => rfl) w client xs

end Hcom4db
