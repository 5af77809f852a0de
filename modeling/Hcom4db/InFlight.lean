import Hcom4db.Base.Runs
import Hcom4db.OtherOps
import Hcom4db.RoundTrip

/-!
# Hcom4db.InFlight

The bytes of the scatter-gather calls the transport has accepted and not completed, over runs of every
operation, completion and disconnect in any order.

A call returns before the transport has read its segments. They are in blocks of a pool that other calls
take blocks from and give blocks back to, and completions store responses wherever the caller said.

* `Contract`, `Safe`: what the allocator and the callers promise, and that no copy of a packing leaves
  its block.
* `Inv`: the blocks of a call that is owed are held by it alone, and its segments are the message.
* `in_flight_delivered`: whenever the transport reads the segments, the peer's handler gets the payload
  of the call.
-/

namespace Hcom4db

def sentSegs (evs : List Event) : List ServiceRequest := (evs.filterMap Event.segs?).flatten

namespace InFlight

open FlatMem HeldBlocks Outstanding Runs WriteLog

/-- The payload a caller passes: its messages one after the other. -/
def payload (iov : OckRpcMessageIov) : List UInt8 :=
  match iov.msgs with
  | none => []
  | some msgs => ((List.range iov.count.toNat).map msgs).flatMap ReqMessage.payload

/-- A scatter-gather call the transport has accepted. -/
structure Sent where
  msgId : UInt16
  payload : List UInt8
  segs : List ServiceRequest
  /-- The caller's response struct, 0 for none, and its callback. -/
  rsp : Addr
  done : OckRpcCallDone
  /-- The allocator of the client, and the blocks the call has taken from it. -/
  allocator : Addr
  blocks : List (Addr × Nat)

def Sent.spans (m : Sent) : List (Addr × Nat) := m.segs.map fun r => (r.lAddress, r.size.toNat)

/-- A callback the transport owes. -/
structure Owed where
  cb : ChannelCallback
  sent : Option Sent := none
  /-- The allocator of the call has been destroyed. -/
  orphan : Bool := false

def Owed.blocks (o : Owed) : List (Addr × Nat) := (o.sent.map Sent.blocks).getD []

/-- The blocks of the calls whose pool is alive. -/
def ownedBlocks (owed : List Owed) : List (Addr × Nat) :=
  (owed.filter (!·.orphan)).flatMap Owed.blocks

structure Sys where
  w : World
  owed : List Owed := []

inductive Label where
  | submit (op : AsyncOp) (done : Option OckRpcCallDone) (e : SubmitEnv)
  | complete (k : Nat) (c : Completion)
  /-- The user works on a pool of its own. -/
  | allocate (allocator : Addr) (size : UInt64) (res : Option (Addr × UInt32))
  | free (allocator address : Addr)
  | destroyPool (allocator : Addr) (ret : Int)
  /-- The first step of a disconnect. -/
  | destroy (client : Addr) (ret : Int)
  | other (op : OtherOp)
  /-- The user stores into memory of its own. -/
  | user (w' : World)

/-- What a call that was accepted between the two states has sent. -/
def sentBy (op : AsyncOp) (done : Option OckRpcCallDone) (w w' : World) : Option Sent :=
  match op, done with
  | .call (.callWithParam client msgId reqIov) rsp, some d =>
    some ⟨msgId, payload reqIov, sentSegs (w.since w'), rsp, d, w.allocatorOf client,
      blocks (w.since w')⟩
  | _, _ => none

def Owed.orphanedBy (a : Option Addr) (o : Owed) : Owed :=
  { o with orphan := o.orphan || o.sent.any fun m => a = some m.allocator }

/-- The calls of an allocator become orphans. -/
def orphaned (a : Option Addr) (owed : List Owed) : List Owed := owed.map (Owed.orphanedBy a)

def step (s : Sys) : Label → Sys
  | .submit op done e =>
    let w := (op.submit s.w done e).1
    { w := w
      owed := s.owed ++ (w.inflight.drop s.w.inflight.length).map fun cb =>
        { cb := cb, sent := sentBy op done s.w w } }
  | .complete k c =>
    match s.owed[k]? with
    | none => s
    | some o => { w := runCallback (dequeue s.w k) o.cb c, owed := s.owed.eraseIdx k }
  | .allocate allocator size res => { s with w := ockRpcMemoryAllocatorAllocate s.w allocator size res }
  | .free allocator address => { s with w := ockRpcMemoryAllocatorFree s.w allocator address }
  | .destroyPool allocator ret =>
    { w := ockRpcMemoryAllocatorDestroy s.w allocator ret, owed := orphaned (some allocator) s.owed }
  | .destroy client ret =>
    { w := destroyAllocator s.w client ret
      owed := orphaned (s.w.gMemoryAllocator.find client) s.owed }
  | .other op => { s with w := op.run s.w }
  | .user w' => { s with w := w' }

/-- The spans are in no block of a call that is owed. -/
def Apart (s : Sys) (spans : List (Addr × Nat)) : Prop :=
  ∀ t ∈ spans, ∀ b ∈ ownedBlocks s.owed, Span.Disjoint t b

instance (s : Sys) (spans : List (Addr × Nat)) : Decidable (Apart s spans) :=
  inferInstanceAs (Decidable (∀ t ∈ spans, ∀ b ∈ ownedBlocks s.owed, Span.Disjoint t b))

/-- A step that touches nothing a call that is owed rests on. -/
structure Elsewhere (s : Sys) (w' : World) : Prop where
  inflight : w'.inflight = s.w.inflight
  heap : ∀ o ∈ s.owed, Agree (ownedBy s.w o.cb) s.w w'
  effect : ∃ spans, Effect [] spans s.w w' ∧ Apart s spans

/-- What `malloc` and the pools guarantee, and the callers: a response is stored in no block of a call
that is owed, and nobody gives such a block back. The buffer of a region is no object of a callback. -/
def Contract (s : Sys) : Label → Prop
  | .submit op done e => s.w.FreshPtr e.malloc ∧ s.w.FreshPtr e.mallocReqAddr ∧
      (e.malloc ≠ 0 → e.malloc ≠ e.mallocReqAddr) ∧
      Honest (poolOps (op.submit s.w done e).1.trace) ∧ Apart s (op.responseSpans s.w done e)
  | .complete k c => ∀ o ∈ s.owed[k]?, Apart s (responseSpans s.w (callbackRsp s.w o.cb) c)
  | .allocate allocator size res =>
    Honest (poolOps (ockRpcMemoryAllocatorAllocate s.w allocator size res).trace)
  | .free _ address => ∀ b ∈ ownedBlocks s.owed, address ≠ b.1
  | .destroyPool _ _ => True
  | .destroy _ _ => True
  | .other op => ∀ x ∈ op.freed s.w, ∀ o ∈ s.owed, x ∉ ownedBy s.w o.cb
  | .user w' => Elsewhere s w'

/-- The copies of a packing stay in their blocks, and an orphan gives no block back that somebody else
has been given. -/
def Safe (s : Sys) : Label → Prop
  | .submit (.call (.callWithParam client msgId reqIov) rsp) done e =>
      ∀ msgs, checkedMsgs s.w ⟨client, msgId, reqIov, rsp, done⟩ = some msgs →
        CopiesStay s.w e.pack msgs
  | .complete k _ => ∀ o ∈ s.owed[k]?, o.orphan = true →
      ∀ b ∈ o.blocks, ∀ b' ∈ ownedBlocks s.owed, b.1 ≠ b'.1
  | _ => True

/-! ## The blocks -/

/-- The segments are the message, and lie in the blocks of the call. -/
structure Intact (w : World) (m : Sent) : Prop where
  inside : ∀ t ∈ m.spans, ∃ b ∈ m.blocks, Within t b
  bytes : gather w.mem m.spans = RawFrame.encode m.msgId m.payload

structure Kept (w : World) (owed : List Owed) : Prop where
  honest : Honest (poolOps w.trace)
  holds : ∀ o ∈ owed, o.orphan = false → ∀ m ∈ o.sent, ∀ b ∈ m.blocks,
    (m.allocator, b) ∈ held (poolOps w.trace)
  distinct : owed.Pairwise fun o o' => o.orphan = false → o'.orphan = false →
    ∀ b ∈ o.blocks, ∀ b' ∈ o'.blocks, b.1 ≠ b'.1
  intact : ∀ o ∈ owed, o.orphan = false → ∀ m ∈ o.sent, Intact w m

section Kept

variable {w w' : World} {owed owed' : List Owed} {o : Owed} {m : Sent} {b : Addr × Nat}
  {ops : List (Op Addr)} {spans : List (Addr × Nat)}

theorem mem_ownedBlocks : b ∈ ownedBlocks owed ↔ ∃ o ∈ owed, o.orphan = false ∧ b ∈ o.blocks := by
  simp [ownedBlocks, and_assoc]

theorem mem_owed_blocks : b ∈ o.blocks ↔ ∃ m ∈ o.sent, b ∈ m.blocks := by
  unfold Owed.blocks
  cases o.sent <;> simp

theorem ownedBlocks_of_mem (ho : o ∈ owed) (horph : o.orphan = false) (hm : m ∈ o.sent)
    (hb : b ∈ m.blocks) : b ∈ ownedBlocks owed :=
  mem_ownedBlocks.mpr ⟨o, ho, horph, mem_owed_blocks.mpr ⟨m, hm, hb⟩⟩

/-- What is apart from its blocks does not change a message. -/
theorem Intact.frame (h : Intact w m) (hw : Writes spans w w')
    (hs : ∀ t ∈ spans, ∀ b ∈ m.blocks, Span.Disjoint t b) : Intact w' m := by
  refine ⟨h.inside, ?_⟩
  rw [← h.bytes]
  refine gather_congr fun t ht => hw.bytesAt fun t' ht' => ?_
  obtain ⟨b, hb, h1, h2⟩ := h.inside t ht
  intro x hx
  exact hs t' ht' b hb x ⟨hx.1, h1.trans hx.2.1, Nat.lt_of_lt_of_le hx.2.2 h2⟩

namespace Kept

/-- A block of a call that is owed is held. -/
theorem exists_held (K : Kept w owed) (hb : b ∈ ownedBlocks owed) :
    ∃ a, (a, b) ∈ held (poolOps w.trace) := by
  obtain ⟨o, ho, horph, hb⟩ := mem_ownedBlocks.mp hb
  obtain ⟨m, hm, hb⟩ := mem_owed_blocks.mp hb
  exact ⟨m.allocator, K.holds o ho horph m hm b hb⟩

theorem ne_zero (K : Kept w owed) (hb : b ∈ ownedBlocks owed) : b.1 ≠ 0 := by
  obtain ⟨a, ha⟩ := K.exists_held hb
  exact K.honest.ne_zero ha

theorem congr (K : Kept w owed) (hm : w'.mem = w.mem) (ht : w'.trace = w.trace) : Kept w' owed := by
  refine ⟨by rw [ht]; exact K.honest, by rw [ht]; exact K.holds, K.distinct, fun o ho h m hmem => ?_⟩
  have h := K.intact o ho h m hmem
  exact ⟨h.inside, by rw [hm]; exact h.bytes⟩

/-- Fewer calls. -/
theorem sublist (K : Kept w owed) (h : owed'.Sublist owed) : Kept w owed' :=
  ⟨K.honest, fun o ho => K.holds o (h.subset ho), K.distinct.sublist h,
    fun o ho => K.intact o (h.subset ho)⟩

/-- A step that gives back no block of a call that is owed, destroys no pool and stores elsewhere. -/
theorem step (K : Kept w owed) (E : Effect ops spans w w') (hh : Honest (poolOps w'.trace))
    (hf : ∀ x, .free x ∈ ops → ∀ b ∈ ownedBlocks owed, x ≠ b.1) (hd : ∀ a, .destroy a ∉ ops)
    (hs : ∀ t ∈ spans, ∀ b ∈ ownedBlocks owed, Span.Disjoint t b) : Kept w' owed := by
  refine ⟨hh, ?_, K.distinct, ?_⟩
  · intro o ho horph m hm b hb
    rw [E.poolOps_trace]
    refine mem_held_append (K.holds o ho horph m hm b hb) (fun x hx => ?_) (hd _)
    exact hf x hx b (ownedBlocks_of_mem ho horph hm hb)
  · intro o ho horph m hm
    refine (K.intact o ho horph m hm).frame E.writes fun t ht b hb => ?_
    exact hs t ht b (ownedBlocks_of_mem ho horph hm hb)

/-- A call takes blocks, stores into them and into `spans`, and gives back null addresses or blocks it has
taken. -/
theorem call {a : Addr} {fs : List Addr} {bs : List (Addr × Nat)} (K : Kept w owed)
    (E : Effect (fs.map Op.free ++ bs.map (Op.alloc a)) (spans ++ bs) w w')
    (hh : Honest (poolOps w'.trace)) (hfs : ∀ x ∈ fs, x = 0 ∨ x ∈ bs.map Prod.fst)
    (hs : ∀ t ∈ spans, ∀ b ∈ ownedBlocks owed, Span.Disjoint t b) : Kept w' owed := by
  have hbs : ∀ b ∈ bs, Fresh (held (poolOps w.trace)) b := by
    have h1 := hh
    rw [E.poolOps_trace, List.append_assoc] at h1
    exact h1.of_append.allocs.1
  refine K.step E hh ?_ ?_ ?_
  · intro x hx b hb
    have hx' : x ∈ fs := by simpa using hx
    rcases hfs x hx' with rfl | hmem
    · exact (K.ne_zero hb).symm
    · obtain ⟨b', hb', rfl⟩ := List.mem_map.mp hmem
      obtain ⟨a', ha'⟩ := K.exists_held hb
      exact ((hbs b' hb').2 _ ha').1.symm
  · intro a' ha'
    simp at ha'
  · intro t ht b hb
    rcases List.mem_append.mp ht with ht | ht
    · exact hs t ht b hb
    · obtain ⟨a', ha'⟩ := K.exists_held hb
      exact ((hbs t ht).2 _ ha').2.symm

/-- One more call, whose blocks no other call has. -/
theorem push (K : Kept w owed) (hheld : ∀ m ∈ o.sent, ∀ b ∈ m.blocks,
      (m.allocator, b) ∈ held (poolOps w.trace))
    (hnew : ∀ b ∈ o.blocks, ∀ b' ∈ ownedBlocks owed, b'.1 ≠ b.1)
    (hint : ∀ m ∈ o.sent, Intact w m) : Kept w (owed ++ [o]) := by
  refine ⟨K.honest, ?_, ?_, ?_⟩
  · intro o' ho' horph
    rcases List.mem_append.mp ho' with ho' | ho'
    · exact K.holds o' ho' horph
    · rw [List.mem_singleton.mp ho']
      exact hheld
  · refine List.pairwise_append.mpr ⟨K.distinct, List.pairwise_singleton _ _, ?_⟩
    intro o1 h1 o2 h2 horph _ b hb b' hb'
    rw [List.mem_singleton.mp h2] at hb'
    exact hnew b' hb' b (mem_ownedBlocks.mpr ⟨o1, h1, horph, hb⟩)
  · intro o' ho' horph
    rcases List.mem_append.mp ho' with ho' | ho'
    · exact K.intact o' ho' horph
    · rw [List.mem_singleton.mp ho']
      exact hint

/-- A pool is destroyed: its calls become orphans, the others keep their blocks. -/
theorem destroy (K : Kept w owed) (a : Addr) (ret : Int) :
    Kept (w.emit (.poolDestroy a ret)) (orphaned (some a) owed) := by
  have hops : poolOps (w.emit (.poolDestroy a ret)).trace = .destroy a :: poolOps w.trace := rfl
  refine ⟨K.honest, ?_, ?_, ?_⟩
  · intro o ho horph m hm b hb
    obtain ⟨o0, ho0, rfl⟩ := List.mem_map.mp ho
    obtain ⟨h1, h2⟩ := Bool.or_eq_false_iff.mp horph
    rw [hops]
    refine mem_held_destroy.mpr ⟨K.holds o0 ho0 h1 m hm b hb, ?_⟩
    rintro rfl
    have hsent : o0.sent = some m := hm
    simp [hsent] at h2
  · refine List.pairwise_map.mpr (K.distinct.imp ?_)
    intro o o' h h1 h2
    exact h (Bool.or_eq_false_iff.mp h1).1 (Bool.or_eq_false_iff.mp h2).1
  · intro o ho horph m hm
    obtain ⟨o0, ho0, rfl⟩ := List.mem_map.mp ho
    have h := K.intact o0 ho0 (Bool.or_eq_false_iff.mp horph).1 m hm
    exact ⟨h.inside, h.bytes⟩

end Kept

end Kept

/-! ## The state -/

/-- The record a scatter-gather call has written. -/
structure Sent.Recorded (m : Sent) (cb : ChannelCallback) (info : AsyncCbInfo) : Prop where
  callback : cb.cb = .ockRpcCallbackFunc
  cb : info.cb = m.done.cb
  arg : info.arg = m.done.arg
  rsp : info.rsp = some m.rsp
  request : ∃ p client n, p ≠ 0 ∧ info.reqAddr = some p ∧ info.client = some client ∧
    info.reqCnt = some n

theorem Sent.Recorded.releasable {m : Sent} {w : World} {cb : ChannelCallback} {info : AsyncCbInfo}
    (h : m.Recorded cb info) (ho : Owns w cb info) : Releasable (w.stdFree cb.arg) info := by
  obtain ⟨p, client, n, hp, h1, h2, h3⟩ := h.request
  have harr : p ∈ info.array := by simp [AsyncCbInfo.array, h1, hp]
  obtain ⟨hne, hs⟩ := ho.array p harr
  obtain ⟨addrs, h4⟩ := Option.isSome_iff_exists.mp hs
  exact .inr ⟨p, client, n, addrs, hp, h1, h2, h3, by rw [stdFree_reqAddrs, if_neg hne, h4]⟩

/-- The record of a callback is there, and its array holds addresses of blocks of the call. -/
def Live (w : World) (o : Owed) : Prop :=
  ∃ info, Owns w o.cb info ∧ (∀ m ∈ o.sent, m.Recorded o.cb info) ∧
    ∀ p ∈ info.array, ∀ xs ∈ w.reqAddrs p, ∀ x ∈ xs, x ∈ o.blocks.map Prod.fst

/-- The transport was given the segments with the callback. -/
def Posted (w : World) (o : Owed) : Prop :=
  ∀ m ∈ o.sent, ∃ prim chan op, .transport prim chan op (.sgl m.segs) (some o.cb) 0 ∈ w.trace

structure Inv (s : Sys) : Prop where
  heap : OwedHeap Owed.cb Live s.w s.owed
  kept : Kept s.w s.owed
  posted : ∀ o ∈ s.owed, Posted s.w o

theorem onOwned : OnOwned Owed.cb Live := by
  constructor
  · rintro w o ⟨info, h, -⟩
    exact ⟨info, h⟩
  · rintro w w' o ⟨info, h, hrec, harr⟩ hag
    refine ⟨info, h.agree hag, hrec, fun p hp xs hxs => ?_⟩
    rw [(hag p (h.mem_ownedBy hp)).2] at hxs
    exact harr p hp xs hxs

section Step

variable {s : Sys} {w' w1 : World} {ops : List (Op Addr)} {spans : List (Addr × Nat)} {o : Owed}

theorem Posted.mono {w : World} (h : Posted w o) (ht : ∃ evs, w'.trace = evs ++ w.trace) :
    Posted w' o := by
  intro m hm
  obtain ⟨prim, chan, op, hmem⟩ := h m hm
  obtain ⟨evs, he⟩ := ht
  refine ⟨prim, chan, op, ?_⟩
  rw [he]
  exact List.mem_append_right _ hmem

/-- A step after which the same callbacks are owed. -/
theorem Inv.keep (I : Inv s) (hin : w'.inflight = s.w.inflight)
    (hag : ∀ o ∈ s.owed, Agree (ownedBy s.w o.cb) s.w w') (E : Effect ops spans s.w w')
    (K : Kept w' s.owed) : Inv { s with w := w' } := by
  refine ⟨I.heap.keep onOwned hin hag, K, fun o ho => (I.posted o ho).mono ?_⟩
  obtain ⟨evs, he, -⟩ := E.trace
  exact ⟨evs, he⟩

theorem orphaned_heap {L : World → Owed → Prop} {w : World} {owed : List Owed} {a : Option Addr}
    (hL : ∀ o, L w o → L w (o.orphanedBy a)) (h : OwedHeap Owed.cb L w owed) :
    OwedHeap Owed.cb L w (orphaned a owed) := by
  refine ⟨?_, ?_, List.pairwise_map.mpr h.apart⟩
  · rw [h.inflight, orphaned, List.map_map]
    rfl
  · intro o ho
    obtain ⟨o0, ho0, rfl⟩ := List.mem_map.mp ho
    exact hL o0 (h.live o0 ho0)

theorem inv_destroyPool (I : Inv s) (a : Addr) (ret : Int) : Inv (step s (.destroyPool a ret)) := by
  have hheap : OwedHeap Owed.cb Live (s.w.emit (.poolDestroy a ret)) s.owed :=
    I.heap.keep onOwned rfl fun o _ x _ => ⟨rfl, rfl⟩
  refine ⟨orphaned_heap (fun _ h => h) hheap, I.kept.destroy a ret, ?_⟩
  intro o ho
  obtain ⟨o0, ho0, rfl⟩ := List.mem_map.mp ho
  exact (I.posted o0 ho0).mono ⟨[.poolDestroy a ret], rfl⟩

theorem inv_destroy (I : Inv s) (client : Addr) (ret : Int) : Inv (step s (.destroy client ret)) := by
  simp only [step, destroyAllocator]
  cases hf : s.w.gMemoryAllocator.find client with
  | none =>
    have hnone : orphaned none s.owed = s.owed :=
      (List.map_congr_left fun o _ => by simp [Owed.orphanedBy]).trans (List.map_id _)
    simp only [hnone]
    exact I
  | some a => exact inv_destroyPool I a ret

theorem elsewhere_of_beside {freed : List Addr} (h : Beside freed s.w w')
    (hf : ∀ x ∈ freed, ∀ o ∈ s.owed, x ∉ ownedBy s.w o.cb) : Elsewhere s w' :=
  ⟨h.inflight, fun o ho x hx => h.heap x fun hmem => hf x hmem o ho hx, [], h.effect, by
    intro t ht
    cases ht⟩

theorem inv_elsewhere (I : Inv s) (hc : Elsewhere s w') : Inv { s with w := w' } := by
  obtain ⟨hin, hag, spans, E, hs⟩ := hc
  refine I.keep hin hag E (I.kept.step E ?_ (by simp) (by simp) hs)
  rw [E.poolOps_trace]
  exact I.kept.honest

theorem inv_free (I : Inv s) {allocator address : Addr} (hc : Contract s (.free allocator address)) :
    Inv (step s (.free allocator address)) := by
  have E : Effect [.free address] [] s.w (ockRpcMemoryAllocatorFree s.w allocator address) :=
    ⟨⟨[.poolFree allocator address], rfl, rfl⟩, Writes.of_mem rfl⟩
  refine I.keep rfl (fun o _ x _ => ⟨rfl, rfl⟩) E (I.kept.step E ?_ ?_ (by simp) (by simp))
  · rw [E.poolOps_trace]
    exact I.kept.honest
  · intro x hx
    cases List.mem_singleton.mp hx
    exact hc

theorem inv_allocate (I : Inv s) {allocator : Addr} {size : UInt64} {res : Option (Addr × UInt32)}
    (hc : Contract s (.allocate allocator size res)) : Inv (step s (.allocate allocator size res)) := by
  cases res with
  | none => exact I
  | some r =>
    have E : Effect [.alloc allocator (r.1, size.toNat)] [] s.w
        (ockRpcMemoryAllocatorAllocate s.w allocator size (some r)) :=
      ⟨⟨[.poolAlloc allocator size.toNat r.1], rfl, rfl⟩, Writes.of_mem rfl⟩
    exact I.keep rfl (fun o _ x _ => ⟨rfl, rfl⟩) E (I.kept.step E hc (by simp) (by simp) (by simp))

/-! ## Completions -/

theorem inv_complete (I : Inv s) {k : Nat} {c : Completion} (hc : Contract s (.complete k c))
    (hsafe : Safe s (.complete k c)) : Inv (step s (.complete k c)) := by
  simp only [step]
  cases hk : s.owed[k]? with
  | none => exact I
  | some o =>
    simp only
    have ho : o ∈ s.owed := List.mem_of_getElem? hk
    obtain ⟨fs, E, hfs⟩ := runCallback_effect (dequeue s.w k) o.cb c
    have hheap := I.heap.remove onOwned hk (runCallback_frees (dequeue s.w k) o.cb c)
    have hsub : (s.owed.eraseIdx k).Sublist s.owed := List.eraseIdx_sublist _ _
    -- what is given back are blocks of this call
    have hown : ∀ x ∈ fs, x ∈ o.blocks.map Prod.fst := by
      intro x hx
      obtain ⟨info, p, xs, hi, hp, hxs, hmem⟩ := hfs x hx
      obtain ⟨info', hrec, -, harr⟩ := I.heap.live o ho
      have heq : info = info' := Option.some.inj (hi.symm.trans hrec.record)
      exact harr p (heq ▸ hp) xs hxs x hmem
    have hw : Effect (fs.map Op.free) (responseSpans s.w (callbackRsp s.w o.cb) c) s.w
        (runCallback (dequeue s.w k) o.cb c) := ⟨E.trace, E.writes⟩
    refine ⟨hheap, (I.kept.sublist hsub).step hw ?_ ?_ (by simp) ?_, ?_⟩
    · rw [hw.poolOps_trace]
      exact Honest.frees I.kept.honest
    · intro x hx b hb
      have hx' : x ∈ fs := by simpa using hx
      obtain ⟨b0, hb0, rfl⟩ := List.mem_map.mp (hown x hx')
      obtain ⟨o', ho', horph', hb'⟩ := mem_ownedBlocks.mp hb
      cases horph : o.orphan with
      | true =>
        exact hsafe o hk horph b0 hb0 b (mem_ownedBlocks.mpr ⟨o', hsub.subset ho', horph', hb'⟩)
      | false =>
        have hd := @pairwise_eraseIdx Owed (fun o o' => o.orphan = false → o'.orphan = false →
          ∀ b ∈ o.blocks, ∀ b' ∈ o'.blocks, b.1 ≠ b'.1) _ _ _ _ I.kept.distinct
          (fun _ _ h h1 h2 b hb b' hb' => (h h2 h1 b' hb' b hb).symm) hk ho'
        exact hd horph horph' b0 hb0 b hb'
    · intro t ht b hb
      obtain ⟨o', ho', horph', hb'⟩ := mem_ownedBlocks.mp hb
      exact hc o hk t ht b (mem_ownedBlocks.mpr ⟨o', hsub.subset ho', horph', hb'⟩)
    · intro o' ho'
      obtain ⟨evs, he, -⟩ := hw.trace
      exact (I.posted o' (hsub.subset ho')).mono ⟨evs, he⟩

/-! ## Operations -/

section Submit

variable {op : AsyncOp} {done : Option OckRpcCallDone} {e : SubmitEnv} {info : AsyncCbInfo}
  {st : OckRpcStatus}

/-- An operation after which nothing new is owed. -/
theorem inv_settled (I : Inv s) (hw : (op.submit s.w done e).1 = w') (hin : w'.inflight = s.w.inflight)
    (hag : ∀ o ∈ s.owed, Agree (ownedBy s.w o.cb) s.w w') (E : Effect ops spans s.w w')
    (K : Kept w' s.owed) : Inv (step s (.submit op done e)) := by
  simp only [step, hw]
  rw [hin, List.drop_length, List.map_nil, List.append_nil]
  exact I.keep hin hag E K

/-- An operation whose callback is owed when it returns. -/
theorem inv_queued (I : Inv s) (H : Handed s.w w1 e info)
    (hw : (op.submit s.w done e).1 = { w1 with inflight := w1.inflight ++ [⟨op.callback, e.malloc⟩] })
    (hf : s.w.FreshPtr e.malloc) (hf' : s.w.FreshPtr e.mallocReqAddr)
    (ho : o = { cb := ⟨op.callback, e.malloc⟩, sent := sentBy op done s.w (op.submit s.w done e).1 })
    (hlive : Live w1 o) (K : Kept w1 (s.owed ++ [o])) (hp : Posted w1 o) :
    Inv (step s (.submit op done e)) := by
  have hcb : o.cb = ⟨op.callback, e.malloc⟩ := by rw [ho]
  have hdrop := H.drop_queued ⟨op.callback, e.malloc⟩
  have hnew : ((op.submit s.w done e).1.inflight.drop s.w.inflight.length).map
      (fun cb => ({ cb := cb, sent := sentBy op done s.w (op.submit s.w done e).1 } : Owed)) = [o] := by
    rw [hw, hdrop, ← hw, ho]
    rfl
  simp only [step]
  rw [hnew, hw]
  have harg : o.cb.arg = e.malloc := by rw [hcb]
  have hheap := I.heap.push onOwned H hf hf' harg hlive
  rw [hcb] at hheap
  refine ⟨hheap, K.congr rfl rfl, ?_⟩
  · intro o' ho'
    rcases List.mem_append.mp ho' with ho' | ho'
    · obtain ⟨evs, he, -⟩ := H.trace
      exact (I.posted o' ho').mono ⟨evs, he⟩
    · rw [List.mem_singleton.mp ho']
      exact hp

theorem handed_posted {w : World} (hm : e.malloc ≠ 0) (ha : info.array = none) (p : Post) :
    Handed w (posted op w e info p) e info := by
  refine ⟨hm, Function.update_self _ _ _, fun x hx => Function.update_of_ne hx _ _, ?_, fun _ _ => rfl,
    rfl, [p.event (some ⟨op.callback, e.malloc⟩) e.ret, .malloc e.malloc], rfl, rfl⟩
  intro q hq
  rw [ha] at hq
  cases hq

theorem inv_plain (I : Inv s) (hop : op.packs = false) (hc : Contract s (.submit op done e)) :
    Inv (step s (.submit op done e)) := by
  obtain ⟨hf, hf', hpq, hh, hs⟩ := hc
  have P := submit_plain op hop s.w done e
  have E := P.effect
  have K : Kept (op.submit s.w done e).1 s.owed := I.kept.step E hh (by simp) (by simp) hs
  rcases hr : op.submit s.w done e with ⟨w', st⟩
  have hw : (op.submit s.w done e).1 = w' := congrArg Prod.fst hr
  rw [hr] at P E K
  simp only at P E K
  cases P with
  | direct he hq =>
    exact inv_settled I hw hq.inflight
      (fun o _ x _ => ⟨congrFun hq.cbInfos x, congrFun hq.reqAddrs x⟩) E K
  | refused p hst =>
    have Q := AsyncOp.submit_quiet hf hf' hr (.inl hst)
    exact inv_settled I hw Q.inflight
      (fun o _ x _ => ⟨congrFun Q.cbInfos x, congrFun Q.reqAddrs x⟩) E K
  | @handed info p hm ha hrsp hd =>
    have H : Handed s.w (posted op s.w e info p) e info := handed_posted hm ha p
    cases hearly : e.early with
    | some c =>
      have h1 : (posted op s.w e info p).handOver ⟨op.callback, e.malloc⟩ e =
          runCallback (posted op s.w e info p) ⟨op.callback, e.malloc⟩ c := by
        rw [World.handOver, hearly]
      have hfr := runCallback_frees (posted op s.w e info p) ⟨op.callback, e.malloc⟩ c
      rw [h1] at hw E K
      exact inv_settled I hw (hfr.inflight.trans H.inflight)
        (I.heap.agree_early onOwned H hf hf' hfr) E K
    | none =>
      have h1 : (posted op s.w e info p).handOver ⟨op.callback, e.malloc⟩ e =
          { posted op s.w e info p with
            inflight := (posted op s.w e info p).inflight ++ [⟨op.callback, e.malloc⟩] } := by
        rw [World.handOver, hearly]
      rw [h1] at hw K
      have hsent : ∀ w', sentBy op done s.w w' = none := by
        intro w'
        unfold sentBy
        split
        · cases hop
        · rfl
      have hlive : Live (posted op s.w e info p)
          { cb := ⟨op.callback, e.malloc⟩, sent := none } := by
        refine ⟨info, H.owns hpq _, by simp, fun q hq => ?_⟩
        rw [ha] at hq
        cases hq
      refine inv_queued (o := { cb := ⟨op.callback, e.malloc⟩, sent := none }) I H hw hf hf' ?_ hlive ?_ ?_
      · rw [hsent]
      · have hp : Kept (posted op s.w e info p) s.owed := K.congr rfl rfl
        refine hp.push ?_ ?_ ?_
        · intro m hm
          cases hm
        · intro b hb
          simp [Owed.blocks] at hb
        · intro m hm
          cases hm
      · intro m hm
        cases hm

/-! ### Scatter-gather calls -/

theorem checkedMsgs_payload {w : World} {params : OckRpcClientCallParams} {msgs : List ReqMessage}
    (h : checkedMsgs w params = some msgs) : payload params.reqIov = msgs.flatMap ReqMessage.payload := by
  unfold checkedMsgs at h
  unfold payload
  cases hf : params.reqIov.msgs with
  | none =>
    rw [hf] at h
    cases h
  | some f =>
    rw [hf] at h
    simp only at h
    split at h
    · cases h
    · split at h
      · cases h
      · cases h
        rfl

/-- The spans of the segments the transport gets. -/
theorem spans_segs (req : ServiceSglRequest) :
    req.segs.map (fun r => (r.lAddress, r.size.toNat)) = req.spans := by
  rw [ServiceSglRequest.segs, ServiceSglRequest.spans, iovSpans, List.map_map, List.range_eq_range']
  rfl

/-- A packing hands nothing to the transport. -/
theorem sentSegs_pool {w w' : World} {client : Addr} (h : PoolFrame client w w') :
    (w.since w').filterMap Event.segs? = [] := by
  refine List.filterMap_eq_nil_iff.mpr fun ev hev => ?_
  have := h.onPool ev hev
  cases ev <;> first | rfl | exact this.elim

/-- What a call has sent whose packing has led from `w` to `wp`. -/
def packed (w wp : World) (params : OckRpcClientCallParams) (req : ServiceSglRequest)
    (d : OckRpcCallDone) : Sent :=
  ⟨params.msgId, payload params.reqIov, req.segs, params.rspMsgs, d, w.allocatorOf params.client,
    blocks (w.since wp)⟩

section Packed

variable {w wp : World} {params : OckRpcClientCallParams} {msgs : List ReqMessage}
  {req : ServiceSglRequest} {d : OckRpcCallDone}

theorem sentBy_handed (hpack : packReqInfo w params.client msgs params.msgId {} e.pack = (wp, st, req))
    (ht : w'.trace = (sglHandedOver wp params.client req params.rspMsgs d e).trace) :
    sentBy params.op (some d) w w' = some (packed w wp params req d) := by
  have hp := packReqInfo_frame w params.client msgs params.msgId {} e.pack
  rw [hpack] at hp
  have htrace : w'.trace = [(sglPost params.client req params.rspMsgs).event
      (some ⟨.ockRpcCallbackFunc, e.malloc⟩) e.ret, .malloc e.mallocReqAddr, .malloc e.malloc] ++
      wp.trace := ht
  have hsince := World.since_append hp.trace_eq htrace
  have hblocks : blocks (w.since w') = blocks (w.since wp) := by
    rw [hsince, blocks_append]
    rfl
  have hsegs : sentSegs (w.since w') = req.segs := by
    rw [sentSegs, hsince, List.filterMap_append, sentSegs_pool hp]
    exact List.append_nil _
  simp only [sentBy, OckRpcClientCallParams.op, packed, hblocks, hsegs]

/-- The blocks of a packing that succeeded are held by it, and nobody had them before. -/
theorem packed_held (hlen : ∀ m ∈ msgs, m.len.toNat ≤ w.gOptions.mrSendReceiveSegSize.toNat)
    (hin : CopiesStay w e.pack msgs)
    (hpack : packReqInfo w params.client msgs params.msgId {} e.pack = (wp, ockRpcOk, req))
    (hh : Honest (poolOps wp.trace)) :
    (∀ b ∈ (packed w wp params req d).blocks, Fresh (held (poolOps w.trace)) b) ∧
      (packed w wp params req d).blocks.Pairwise (fun b b' => b.1 ≠ b'.1 ∧ Span.Disjoint b b') ∧
      ∀ b ∈ (packed w wp params req d).blocks,
        ((packed w wp params req d).allocator, b) ∈ held (poolOps wp.trace) := by
  obtain ⟨E, -⟩ := packReqInfo_effect hlen hin hpack
  have hpools := E.poolOps_trace
  rw [(packReqInfo_ok_blocks hlen hpack).2, List.map_nil, List.nil_append] at hpools
  rw [hpools] at hh ⊢
  obtain ⟨h1, h2, h3, -⟩ := hh.allocs
  exact ⟨h1, h2, h3⟩

theorem packed_intact (hmsgs : checkedMsgs w params = some msgs)
    (hpack : packReqInfo w params.client msgs params.msgId {} e.pack = (wp, ockRpcOk, req))
    (hd : (packed w wp params req d).blocks.Pairwise Span.Disjoint) :
    Intact wp (packed w wp params req d) := by
  have hlen := checkedMsgs_len hmsgs
  have hspans : (packed w wp params req d).spans = req.spans := spans_segs req
  obtain ⟨-, -, hbytes⟩ := packReqInfo_ok hlen hpack
  refine ⟨?_, ?_⟩
  · rw [hspans]
    exact packReqInfo_ok_within hlen hpack
  · rw [hspans, hbytes hd, ← checkedMsgs_payload hmsgs]
    exact headerBytes_eq_encode _ _

theorem posted_handed (ha : SglAccepted e) :
    Posted (sglHandedOver wp params.client req params.rspMsgs d e)
      { cb := ⟨.ockRpcCallbackFunc, e.malloc⟩, sent := some (packed w wp params req d) } := by
  intro m hm
  cases hm
  refine ⟨if params.rspMsgs ≠ 0 then .asyncCallRawSgl else .postSendRawSgl, params.client, none, ?_⟩
  rw [← ha.2.2]
  exact List.mem_cons_self

end Packed

theorem inv_packed (I : Inv s) {params : OckRpcClientCallParams}
    (hc : Contract s (.submit params.op params.done e)) (hsafe : Safe s (.submit params.op params.done e)) :
    Inv (step s (.submit params.op params.done e)) := by
  obtain ⟨hf, hf', hpq, hh, hs⟩ := hc
  have hsubmit : params.op.submit s.w params.done e = ockRpcClientCallWithParam s.w (some params) e := rfl
  have hin : ∀ msgs, checkedMsgs s.w params = some msgs → CopiesStay s.w e.pack msgs := hsafe
  obtain ⟨fs, bs, E, hfs⟩ := call_effect s.w params e hin
  rw [← hsubmit] at E
  have K := I.kept.call E hh hfs hs
  rcases hr : ockRpcClientCallWithParam s.w (some params) e with ⟨w', st⟩
  have hw : (params.op.submit s.w params.done e).1 = w' := by rw [hsubmit, hr]
  rw [hw] at E K hh
  by_cases hq : st ≠ ockRpcOk ∨ (params.done = none ∧ params.op.isReply = false)
  · have Q : Quiet s.w w' := AsyncOp.submit_quiet hf hf' (hsubmit.trans hr) hq
    exact inv_settled I hw Q.inflight
      (fun o _ x _ => ⟨congrFun Q.cbInfos x, congrFun Q.reqAddrs x⟩) E K
  rw [not_or, not_not, not_and_or] at hq
  obtain ⟨rfl, hd⟩ := hq
  obtain ⟨d, hd⟩ := Option.ne_none_iff_exists'.mp (hd.resolve_right fun h => h rfl)
  obtain ⟨msgs, wp, req, hmsgs, hpack, ha, hw1, hsub, -⟩ := call_accepted hd hr
  have hp := packReqInfo_frame s.w params.client msgs params.msgId {} e.pack
  rw [hpack] at hp
  have H : Handed s.w (sglHandedOver wp params.client req params.rspMsgs d e) e
      (sglInfo params.client req params.rspMsgs d e.mallocReqAddr) :=
    hp.quiet.handed (placed_sglRecorded ha.1 ha.2.1).handed
  cases hearly : e.early with
  | some c =>
    have hw2 : w' = runCallback (sglHandedOver wp params.client req params.rspMsgs d e)
        ⟨.ockRpcCallbackFunc, e.malloc⟩ c := by rw [hw1, World.handOver, hearly]
    have hfr := runCallback_frees (sglHandedOver wp params.client req params.rspMsgs d e)
      ⟨.ockRpcCallbackFunc, e.malloc⟩ c
    have hag := I.heap.agree_early onOwned H hf hf' hfr
    rw [← hw2] at hfr hag
    exact inv_settled I hw (hfr.inflight.trans H.inflight) hag E K
  | none =>
    have hw2 : w' = { sglHandedOver wp params.client req params.rspMsgs d e with
        inflight := (sglHandedOver wp params.client req params.rspMsgs d e).inflight ++
          [⟨.ockRpcCallbackFunc, e.malloc⟩] } := by rw [hw1, World.handOver, hearly]
    have hlen := checkedMsgs_len hmsgs
    have hmem : w'.mem = (sglHandedOver wp params.client req params.rspMsgs d e).mem := by rw [hw2]
    have htrace : w'.trace = (sglHandedOver wp params.client req params.rspMsgs d e).trace := by rw [hw2]
    have hpools : poolOps w'.trace = poolOps wp.trace := by
      rw [htrace, (sglHandedOver_effect wp params.client req params.rspMsgs d e).poolOps_trace]
      rfl
    rw [hpools] at hh
    obtain ⟨hfresh, hpair, hheld⟩ := packed_held hlen (hin msgs hmsgs) hpack hh
    have hint := packed_intact hmsgs hpack (hpair.imp fun h => h.2)
    refine inv_queued (o := { cb := ⟨.ockRpcCallbackFunc, e.malloc⟩, sent := some (packed s.w wp params req d) })
      I H (hw.trans hw2) hf hf' ?_ ?_ ?_ (posted_handed ha)
    · rw [hw, hd, sentBy_handed hpack htrace]
      rfl
    · refine ⟨_, H.owns hpq _, ?_, fun q hq xs hxs x hx => ?_⟩
      · intro m hm
        cases hm
        exact ⟨rfl, rfl, rfl, rfl, _, _, _, ha.2.1, rfl, rfl, rfl⟩
      have hxs' : (sglHandedOver wp params.client req params.rspMsgs d e).reqAddrs e.mallocReqAddr =
          some (iovAddrs req req.iovCount.toNat) := Function.update_self _ _ _
      rw [(H.array q hq).1, hxs'] at hxs
      cases hxs
      exact hsub x hx
    · refine (K.congr hmem.symm htrace.symm).push ?_ ?_ ?_
      · intro m hm b hb
        cases hm
        rw [← htrace, hpools]
        exact hheld b hb
      · intro b hb b' hb'
        obtain ⟨a', ha'⟩ := I.kept.exists_held hb'
        exact ((hfresh b hb).2 _ ha').1
      · intro m hm
        cases hm
        exact ⟨hint.inside, hint.bytes⟩

end Submit

theorem inv_step (I : Inv s) {l : Label} (hc : Contract s l) (hsafe : Safe s l) : Inv (step s l) := by
  cases l with
  | submit op done e =>
    cases hop : op.packs with
    | false => exact inv_plain I hop hc
    | true =>
      cases op with
      | call op rsp =>
        cases op with
        | callWithParam client msgId reqIov =>
          exact @inv_packed s e I ⟨client, msgId, reqIov, rsp, done⟩ hc hsafe
        | _ => cases hop
      | _ => cases hop
  | complete k c => exact inv_complete I hc hsafe
  | allocate allocator size res => exact inv_allocate I hc
  | free allocator address => exact inv_free I hc
  | destroyPool allocator ret => exact inv_destroyPool I allocator ret
  | destroy client ret => exact inv_destroy I client ret
  | other op => exact inv_elsewhere I (elsewhere_of_beside (op.beside s.w) hc)
  | user w' => exact inv_elsewhere I hc

end Step

theorem inv_init {w : World} (ht : w.trace = []) (hin : w.inflight = []) : Inv { w := w } := by
  refine ⟨⟨hin, by simp, List.Pairwise.nil⟩, ⟨?_, by simp, List.Pairwise.nil, by simp⟩, by simp⟩
  rw [ht]
  trivial

/-- **What is in flight arrives.** In every run in which no copy of a packing leaves its block, for every
scatter-gather call the transport has accepted and not completed, and whose pool is alive: the transport
was given its segments, these hold the frame of the call now, and whoever receives them hands the payload
to the handler of the id. -/
theorem in_flight_delivered {w : World} {s : Sys} (h0 : w.trace = []) (hin : w.inflight = [])
    (hrun : Reached (fun s l => Contract s l ∧ Safe s l) step { w := w } s) {o : Owed} {m : Sent}
    (ho : o ∈ s.owed) (hm : o.sent = some m) (horph : o.orphan = false) :
    (∃ prim chan op, .transport prim chan op (.sgl m.segs) (some o.cb) 0 ∈ s.w.trace) ∧
      gather s.w.mem m.spans = RawFrame.encode m.msgId m.payload ∧
      ∀ (wr : World) (ctx h : Addr) (b : Buf) (e : ReceiveEnv),
        wr.gHandleMap.find m.msgId.toInt16 = some h →
        e.data = some b → e.ctxType = some .receivedRaw →
        bytesAt b 0 e.dataLen.toNat = gather s.w.mem m.spans →
        (ockRpcReceiveHandle wr ctx e).2 = ockRpcOk ∧
          ∃ off len, handledMsgs (wr.since (ockRpcReceiveHandle wr ctx e).1) = [(h, ctx, off, len)] ∧
            bytesAt b off len.toNat = m.payload := by
  have I : Inv s := hrun.invariant (inv_init h0 hin) fun s l I hl => inv_step I hl.1 hl.2
  have hint := I.kept.intact o ho horph m hm
  refine ⟨I.posted o ho m hm, hint.bytes, ?_⟩
  intro wr ctx h b e hreg hdata htype hbytes
  have hdec : RawFrame.decode (bytesAt b 0 e.dataLen.toNat) = some (m.msgId, m.payload) := by
    rw [hbytes, hint.bytes, RawFrame.decode_encode]
  obtain ⟨hst, off, len, hcall, -, hpay⟩ := receive_decodes hdata htype hdec hreg
  exact ⟨hst, off, len, hcall, hpay⟩

/-! ### Two calls -/

/-- A call of another client whose blocks come from elsewhere, with a response of two words at 700. -/
def twoMessageCall : OckRpcClientCallParams :=
  ⟨2, 6, ⟨2, some fun i => ⟨some fun _ => UInt8.ofNat i, 2⟩⟩, 700, some ⟨13, 14⟩⟩

def firstCall : SubmitEnv := { malloc := 900, mallocReqAddr := 950, pack := PackEnv.firstBlocks 4 }

def secondCall : SubmitEnv :=
  { malloc := 901, mallocReqAddr := 951, pack := { alloc := fun k => some (1000 * (k + 1), 7) } }

theorem twoMessageCall_safe (s : Sys) (h : s.w.gOptions.mrSendReceiveSegSize = 8) :
    Safe s (.submit twoMessageCall.op (some ⟨13, 14⟩) secondCall) := by
  intro msgs hm
  have hmsgs : checkedMsgs s.w twoMessageCall = some [⟨some fun _ => 0, 2⟩, ⟨some fun _ => 1, 2⟩] := by
    unfold checkedMsgs
    rw [h]
    rfl
  obtain rfl : [⟨some fun _ => 0, 2⟩, ⟨some fun _ => 1, 2⟩] = msgs :=
    Option.some.inj (hmsgs.symm.trans hm)
  refine .inr ?_
  rw [h]
  refine ⟨fun addr h => .inr (.inr ?_), fun _ => ⟨fun addr h => .inr (.inr ?_), fun _ => trivial⟩⟩
  · obtain rfl : 2000 = addr := Option.some.inj h
    decide
  · obtain rfl : 3000 = addr := Option.some.inj h
    decide

/-- Both calls are accepted, and the second one completes with a response of eight bytes. -/
def twoCalls : List Label :=
  [.submit oneMessageCall.op (some ⟨11, 12⟩) firstCall,
    .submit twoMessageCall.op (some ⟨13, 14⟩) secondCall,
    .complete 1 { ctxType := some .received, data := some fun _ => 9, dataLen := 8, malloc := 5000 }]

theorem twoCalls_ok :
    AllOk (fun s l => Contract s l ∧ Safe s l) step { w := eightByteSegs } twoCalls := by
  refine ⟨⟨⟨fun _ => ⟨rfl, rfl⟩, fun _ => ⟨rfl, rfl⟩, by decide, by decide, by decide⟩, ?_⟩,
    ⟨⟨fun _ => ⟨rfl, rfl⟩, fun _ => ⟨rfl, rfl⟩, by decide, by decide, by decide⟩, ?_⟩,
    ⟨?_, ?_⟩, trivial⟩
  · intro msgs h
    obtain rfl : [⟨some fun _ => 3, 4⟩] = msgs := Option.some.inj h
    refine .inr ⟨fun addr h => .inr (.inr ?_), fun _ => trivial⟩
    obtain rfl : 200 = addr := Option.some.inj h
    decide
  · exact twoMessageCall_safe _ rfl
  · intro o ho
    cases ho
    decide
  · intro o ho horph
    cases ho
    cases horph

/-- The first call is in flight still, and its segments are what it sent. -/
theorem in_flight_delivered_two :
    let s := twoCalls.foldl step { w := eightByteSegs }
    ∃ o ∈ s.owed, ∃ m, o.sent = some m ∧ gather s.w.mem m.spans = [5, 0, 3, 3, 3, 3] :=
  ⟨_, List.mem_cons_self, _, rfl,
    (in_flight_delivered rfl rfl (Reached.refl.extend twoCalls_ok) List.mem_cons_self rfl rfl).2.1⟩

end InFlight

end Hcom4db
