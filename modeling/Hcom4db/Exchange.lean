import Hcom4db.BlockingResult
import Hcom4db.InFlight
import Hcom4db.SuccessStatus

/-!
# Hcom4db.Exchange

Scatter-gather calls between a client and a server process, from the request to the response, over every
interleaving of the two and of the transport between them.

The transport reads the segments of a call, delivers what it has read under a context, and gives the context
a tag: the channel and the response context `OckRpcServerReply` asks it for. It knows a reply by its tag only,
and completes the call that waits for that tag. What the library adds is that the segments still are the
request when they are read, that the dispatcher takes the frame apart again and passes the context on, that
the reply is handed over whole under the tag of its context, and that the callback has the record of its own
call.

* `Stage`: how far a call has got, with the bytes that were seen on the way.
* `Stage.answer`: what the transport does with a reply.
* `exchange_correct`: the response of a call is what the handler of its id has answered to its payload.
-/

namespace Hcom4db

namespace Exchange

open FlatMem InFlight Runs

/-! ## The system -/

/-- What `Service_GetChannel` and `Service_GetRspCtx` answer for the context of a message. -/
structure Tag where
  channel : Addr
  rspCtx : Addr
  deriving DecidableEq

/-- The answers of the context of a raw message. -/
def Tag.answers (tag : Tag) : ReplyCtx := ⟨tag.channel, tag.rspCtx, .receivedRaw⟩

/-- A handler that was called, with the context and the bytes it was given. -/
structure HandlerCall where
  handler : Addr
  ctx : Addr
  bytes : List UInt8

/-- How far a call has got. `calls` are the handlers its message was given to and `regs` those that were
registered then. -/
inductive Stage where
  | posted
  | read (bytes : List UInt8)
  /-- Delivered under `ctx`; the transport waits for a reply with the tag. -/
  | handled (ctx : Addr) (tag : Tag) (regs : StdMap Int16 Addr) (calls : List HandlerCall)
  /-- `reply` is what was passed to `OckRpcServerReply` with the context `ctx` or a copy of it, `wire` what
  the transport was handed. -/
  | answered (ctx : Addr) (regs : StdMap Int16 Addr) (calls : List HandlerCall) (reply wire : List UInt8)

/-- The transport waits for a reply with the tag. -/
def Stage.Waits (tag : Tag) : Stage → Prop
  | .handled _ tag' _ _ => tag' = tag
  | _ => False

/-- A reply with this tag arrives, passed with the context `origin` or a copy of it. -/
def Stage.answer (tag : Tag) (origin : Addr) (reply wire : List UInt8) : Stage → Stage
  | .handled ctx tag' regs calls =>
    if tag' = tag then .answered origin regs calls reply wire else .handled ctx tag' regs calls
  | st => st

/-- A context the server may reply with: `origin` is the one its message was delivered under. -/
structure Context where
  origin : Addr
  tag : Tag

structure Sys where
  client : InFlight.Sys
  server : World
  /-- The stages of the calls the transport owes a completion for, in the order of these. -/
  net : List Stage := []
  contexts : Addr → Option Context := fun _ => none

inductive Label where
  | client (l : InFlight.Label)
  /-- The transport reads the segments of call `k`. -/
  | transmit (k : Nat)
  /-- What was read arrives in the buffer `b` under a context, and the server dispatches it. -/
  | deliver (k : Nat) (ctx : Addr) (tag : Tag) (b : Buf)
  /-- `OckRpcServerReply` is called with a context. -/
  | reply (ctx : Addr) (reply : Option (OckRpcMessage Addr)) (done : Option OckRpcCallDone) (e : SubmitEnv)
  /-- `OckRpcCloneCtx` -/
  | clone (ctx ctx' : Addr)
  /-- A context is given up: by `OckRpcDeCloneCtx`, or because its handler has returned. -/
  | drop (ctx : Addr)
  /-- Whatever else happens in the server's process. -/
  | server (w' : World)

/-- The reply an event hands to the transport, with its tag. -/
def Event.reply? : Event → Option (Tag × ServiceMessage)
  | .transport .postResponseRaw channel _ (.response rspCtx m) _ ret =>
    if ret = 0 then some (⟨channel, rspCtx⟩, m) else none
  | _ => none

def replies (evs : List Event) : List (Tag × ServiceMessage) := evs.filterMap Event.reply?

/-- What the context of a delivered message answers to the dispatcher. -/
def deliveryEnv (b : Buf) (bytes : List UInt8) : ReceiveEnv :=
  { data := some b, dataLen := UInt32.ofNat bytes.length, ctxType := some .receivedRaw }

/-- The handlers an event list has called, with the bytes of the message they got. -/
def handedOver (b : Buf) (evs : List Event) : List HandlerCall :=
  (handledMsgs evs).map fun c => ⟨c.1, c.2.1, bytesAt b c.2.2.1 c.2.2.2.toNat⟩

/-- The bytes of a message. -/
def replyBytes (w : World) (reply : Option (OckRpcMessage Addr)) : List UInt8 :=
  match reply with
  | none => []
  | some r => bytesAt w.mem r.data r.len.toNat

def clientNet (s : Sys) (l : InFlight.Label) : List Stage :=
  match l with
  | .complete k _ => s.net.eraseIdx k
  | _ => s.net ++
    List.replicate ((InFlight.step s.client l).owed.length - s.client.owed.length) .posted

/-- The contexts after a delivery: nobody has that of a message that no handler was given. -/
def contextsAfter (s : Sys) (ctx : Addr) (tag : Tag) (calls : List HandlerCall) : Addr → Option Context :=
  Function.update s.contexts ctx (if calls.isEmpty then none else some ⟨ctx, tag⟩)

def step (s : Sys) : Label → Sys
  | .client l => { s with client := InFlight.step s.client l, net := clientNet s l }
  | .transmit k =>
    match s.client.owed[k]?.bind Owed.sent, s.net[k]? with
    | some m, some .posted =>
      { s with net := s.net.set k (.read (gather s.client.w.mem m.spans)) }
    | _, _ => s
  | .deliver k ctx tag b =>
    match s.net[k]? with
    | some (.read bytes) =>
      let server := (ockRpcReceiveHandle s.server ctx (deliveryEnv b bytes)).1
      let calls := handedOver b (s.server.since server)
      { s with
        server := server
        net := s.net.set k (.handled ctx tag s.server.gHandleMap calls)
        contexts := contextsAfter s ctx tag calls }
    | _ => s
  | .reply ctx reply done e =>
    let server := (ockRpcServerReply s.server reply done e).1
    match s.contexts ctx, replies (s.server.since server) with
    | some x, (tag, m) :: _ =>
      { s with
        server := server
        net := s.net.map (Stage.answer tag x.origin (replyBytes s.server reply)
          (bytesAt s.server.mem m.data m.size.toNat)) }
    | _, _ => { s with server := server }
  | .clone ctx ctx' => { s with contexts := Function.update s.contexts ctx' (s.contexts ctx) }
  | .drop ctx => { s with contexts := Function.update s.contexts ctx none }
  | .server w' => { s with server := w' }

/-- What the client's side promises, and the transport: it reads no segments of a pool that is gone, delivers
what it has read under a tag that no context has and no message waits for, and answers the queries for a
context with the tag of that context. What else the server replies to has other tags. -/
def Contract (s : Sys) : Label → Prop
  | .client l => InFlight.Contract s.client l ∧ InFlight.Safe s.client l
  | .transmit k => ∀ o ∈ s.client.owed[k]?, o.orphan = false
  | .deliver k _ tag b => (∀ bytes, s.net[k]? = some (.read bytes) →
        bytes.length < UInt32.size ∧ bytesAt b 0 bytes.length = bytes) ∧
      (∀ c x, s.contexts c = some x → x.tag ≠ tag) ∧ ∀ st ∈ s.net, ¬ st.Waits tag
  | .reply ctx _ _ e => ∀ p ∈ e.ctx, ∃ x, s.contexts ctx = some x ∧ p = x.tag.answers
  | .clone _ _ => True
  | .drop _ => True
  | .server w' => ∀ r ∈ replies (s.server.since w'), ∀ st ∈ s.net, ¬ st.Waits r.1

/-! ## The invariant -/

/-- The one call a dispatcher with these handlers makes for a message. -/
def handlerCalls (regs : StdMap Int16 Addr) (ctx : Addr) (m : Sent) : List HandlerCall :=
  (regs.find m.msgId.toInt16).toList.map fun h => ⟨h, ctx, m.payload⟩

/-- What has been seen of a call is its own. -/
def Stage.Of (m : Sent) : Stage → Prop
  | .posted => True
  | .read bytes => bytes = RawFrame.encode m.msgId m.payload
  | .handled ctx _ regs calls => calls = handlerCalls regs ctx m
  | .answered ctx regs calls reply wire => calls = handlerCalls regs ctx m ∧ calls ≠ [] ∧ wire = reply

/-- Every call has its own stage. -/
structure Tracked (owed : List Owed) (net : List Stage) : Prop where
  length : net.length = owed.length
  of : ∀ {k : Nat} {o : Owed} {st : Stage}, owed[k]? = some o → net[k]? = some st →
    ∀ m ∈ o.sent, st.Of m

/-- The tag of a context is waited for by the message that was delivered under it, if by any, and a handler
was given that message. -/
def Matched (contexts : Addr → Option Context) (net : List Stage) : Prop :=
  ∀ c x, contexts c = some x → ∀ ctx regs calls, .handled ctx x.tag regs calls ∈ net →
    ctx = x.origin ∧ calls ≠ []

structure Inv (s : Sys) : Prop where
  client : InFlight.Inv s.client
  tracked : Tracked s.client.owed s.net
  matched : Matched s.contexts s.net

section Tracked

variable {owed owed' : List Owed} {net net' : List Stage} {k : Nat} {st : Stage}
  {contexts contexts' : Addr → Option Context}

theorem Tracked.eraseIdx (h : Tracked owed net) (k : Nat) : Tracked (owed.eraseIdx k) (net.eraseIdx k) := by
  refine ⟨by rw [List.length_eraseIdx, List.length_eraseIdx, h.length], ?_⟩
  intro j o st ho hst
  rw [List.getElem?_eraseIdx] at ho hst
  split at ho
  · rename_i hj
    rw [if_pos hj] at hst
    exact h.of ho hst
  · rename_i hj
    rw [if_neg hj] at hst
    exact h.of ho hst

theorem Tracked.set (h : Tracked owed net) (hst : ∀ o ∈ owed[k]?, ∀ m ∈ o.sent, st.Of m) :
    Tracked owed (net.set k st) := by
  refine ⟨by rw [List.length_set, h.length], ?_⟩
  intro j o st' ho hst'
  rw [List.getElem?_set] at hst'
  split at hst'
  · rename_i hkj
    split at hst'
    · cases hst'
      exact hst o (hkj ▸ ho)
    · cases hst'
  · exact h.of ho hst'

/-- Calls that are still owed, and new ones after them. -/
theorem Tracked.extend (h : Tracked owed net) (f : Owed → Owed) (hf : ∀ o, (f o).sent = o.sent)
    (new : List Owed) :
    Tracked (owed.map f ++ new) (net ++ List.replicate new.length .posted) := by
  refine ⟨by simp [h.length], ?_⟩
  intro j o st ho hst m hm
  rw [List.getElem?_append, List.length_map] at ho
  rw [List.getElem?_append, h.length] at hst
  split at ho
  · rename_i hj
    rw [if_pos hj] at hst
    rw [List.getElem?_map] at ho
    obtain ⟨o0, ho0, rfl⟩ := Option.map_eq_some_iff.mp ho
    rw [hf] at hm
    exact h.of ho0 hst m hm
  · rename_i hj
    rw [if_neg hj] at hst
    obtain ⟨-, rfl⟩ := List.mem_replicate.mp (List.mem_of_getElem? hst)
    trivial

/-- Some calls are answered. -/
theorem Tracked.map (h : Tracked owed net) (f : Stage → Stage)
    (hf : ∀ {k : Nat} {o : Owed} {st : Stage}, owed[k]? = some o → net[k]? = some st → ∀ m ∈ o.sent,
      (f st).Of m) : Tracked owed (net.map f) := by
  refine ⟨by rw [List.length_map, h.length], ?_⟩
  intro j o st ho hst
  rw [List.getElem?_map] at hst
  obtain ⟨st0, hst0, rfl⟩ := Option.map_eq_some_iff.mp hst
  exact hf ho hst0

/-- No message has come to wait for a reply. -/
theorem Matched.of_net (h : Matched contexts net)
    (hnet : ∀ {ctx tag regs calls}, Stage.handled ctx tag regs calls ∈ net' →
      .handled ctx tag regs calls ∈ net) : Matched contexts net' :=
  fun c x hx ctx regs calls hmem => h c x hx ctx regs calls (hnet hmem)

/-- There are no new contexts but copies. -/
theorem Matched.of_contexts (h : Matched contexts net)
    (hctx : ∀ c x, contexts' c = some x → ∃ c', contexts c' = some x) : Matched contexts' net := by
  intro c x hx
  obtain ⟨c', hx'⟩ := hctx c x hx
  exact h c' x hx'

end Tracked

/-! ## The steps -/

section Steps

variable {s : Sys} {k : Nat}

/-- What a step of the client does to the calls it owes. -/
theorem client_owed (c : InFlight.Sys) (l : InFlight.Label) :
    (∃ k e, l = .complete k e ∧ (InFlight.step c l).owed = c.owed.eraseIdx k) ∨
      (∀ k e, l ≠ .complete k e) ∧ ∃ f new, (∀ o : Owed, (f o).sent = o.sent) ∧
        (InFlight.step c l).owed = c.owed.map f ++ new := by
  have hsame : ∀ c' : InFlight.Sys, c'.owed = c.owed →
      ∃ f new, (∀ o : Owed, (f o).sent = o.sent) ∧ c'.owed = c.owed.map f ++ new :=
    fun c' h => ⟨id, [], fun _ => rfl, by simp [h]⟩
  cases l with
  | complete k e =>
    refine .inl ⟨k, e, rfl, ?_⟩
    simp only [InFlight.step]
    cases hk : c.owed[k]? with
    | none => exact (List.eraseIdx_of_length_le (List.getElem?_eq_none_iff.mp hk)).symm
    | some o => rfl
  | submit op done e => exact .inr ⟨by simp, id, _, fun _ => rfl, by rw [List.map_id]; rfl⟩
  | allocate allocator size res => exact .inr ⟨by simp, hsame _ rfl⟩
  | free allocator address => exact .inr ⟨by simp, hsame _ rfl⟩
  | destroyPool allocator ret =>
    exact .inr ⟨by simp, Owed.orphanedBy (some allocator), [], fun _ => rfl, (List.append_nil _).symm⟩
  | destroy client ret =>
    refine .inr ⟨by simp, Owed.orphanedBy (c.w.gMemoryAllocator.find client), [], fun _ => rfl, ?_⟩
    rw [List.append_nil]
    rfl
  | other op => exact .inr ⟨by simp, hsame _ rfl⟩
  | user w' => exact .inr ⟨by simp, hsame _ rfl⟩

theorem matched_client (M : Matched s.contexts s.net) (l : InFlight.Label) :
    Matched s.contexts (clientNet s l) := by
  refine M.of_net fun hmem => ?_
  unfold clientNet at hmem
  split at hmem
  · exact List.mem_of_mem_eraseIdx hmem
  · cases List.mem_append.mp hmem with
    | inl hold => exact hold
    | inr hnew => cases List.eq_of_mem_replicate hnew

theorem tracked_client (T : Tracked s.client.owed s.net) (l : InFlight.Label) :
    Tracked (InFlight.step s.client l).owed (clientNet s l) := by
  rcases client_owed s.client l with ⟨k, e, rfl, h⟩ | ⟨hl, f, new, hf, h⟩
  · rw [h]
    exact T.eraseIdx k
  · have hnet : clientNet s l = s.net ++ List.replicate new.length .posted := by
      have hlen : (InFlight.step s.client l).owed.length - s.client.owed.length = new.length := by
        rw [h]
        simp
      unfold clientNet
      split
      · exact absurd rfl (hl _ _)
      · rw [hlen]
    rw [h, hnet]
    exact T.extend f hf new

theorem inv_transmit (I : Inv s) (hc : Contract s (.transmit k)) : Inv (step s (.transmit k)) := by
  simp only [step]
  split
  · rename_i m hm _
    obtain ⟨o, ho, hsent⟩ := Option.bind_eq_some_iff.mp hm
    refine ⟨I.client, I.tracked.set ?_, I.matched.of_net fun hmem => ?_⟩
    · intro o' ho' m' hm'
      obtain rfl : o = o' := Option.some.inj (ho.symm.trans ho')
      obtain rfl : m = m' := Option.some.inj (hsent.symm.trans hm')
      exact (I.client.kept.intact o (List.mem_of_getElem? ho) (hc o ho) m hsent).bytes
    · cases List.mem_or_eq_of_mem_set hmem with
      | inl hold => exact hold
      | inr hnew => cases hnew
  · exact I

/-- The dispatcher gives the payload of a frame to the handler of its id, with the context. -/
theorem handedOver_of_frame {w : World} {ctx : Addr} {b : Buf} {m : Sent} {bytes : List UInt8}
    (hframe : bytes = RawFrame.encode m.msgId m.payload) (hlen : bytes.length < UInt32.size)
    (hb : bytesAt b 0 bytes.length = bytes) :
    handedOver b (w.since (ockRpcReceiveHandle w ctx (deliveryEnv b bytes)).1) =
      handlerCalls w.gHandleMap ctx m := by
  have hdl : (deliveryEnv b bytes).dataLen.toNat = bytes.length := UInt32.toNat_ofNat_of_lt' hlen
  have hdec : RawFrame.decode (bytesAt b 0 (deliveryEnv b bytes).dataLen.toNat) =
      some (m.msgId, m.payload) := by
    rw [hdl, hb, hframe, RawFrame.decode_encode]
  unfold handlerCalls
  cases hf : w.gHandleMap.find m.msgId.toInt16 with
  | none =>
    have hid : rawMsgId b = m.msgId := by
      have h2 := RawFrame.length_of_decode hdec
      rw [length_bytesAt] at h2
      rw [h2, RawFrame.decode_bytesAt] at hdec
      exact (Prod.mk.inj (Option.some.inj hdec)).1
    rw [handedOver, since_receive_raw rfl rfl, hid, hf]
    rfl
  | some h =>
    obtain ⟨-, off, len, hcall, -, hpay⟩ := receive_decodes rfl rfl hdec hf
    rw [handedOver, hcall, List.map_cons, hpay]
    rfl

/-- A message is delivered under a new tag. -/
theorem matched_deliver (M : Matched s.contexts s.net) {ctx : Addr} {tag : Tag} {regs : StdMap Int16 Addr}
    {calls : List HandlerCall} (hctx : ∀ c x, s.contexts c = some x → x.tag ≠ tag)
    (hnet : ∀ st ∈ s.net, ¬ st.Waits tag) :
    Matched (contextsAfter s ctx tag calls) (s.net.set k (.handled ctx tag regs calls)) := by
  intro c x hx ctx' regs' calls' hmem
  rw [contextsAfter, Function.update_apply] at hx
  split at hx
  · -- the new context: only the new message waits for its tag
    split at hx
    · cases hx
    · rename_i hne
      cases hx
      cases List.mem_or_eq_of_mem_set hmem with
      | inl hold => exact absurd rfl (hnet _ hold)
      | inr hnew =>
        cases hnew
        refine ⟨rfl, ?_⟩
        rintro rfl
        exact hne rfl
  · cases List.mem_or_eq_of_mem_set hmem with
    | inl hold => exact M c x hx ctx' regs' calls' hold
    | inr hnew =>
      cases hnew
      exact absurd rfl (hctx c x hx)

theorem inv_deliver (I : Inv s) {ctx : Addr} {tag : Tag} {b : Buf} (hc : Contract s (.deliver k ctx tag b)) :
    Inv (step s (.deliver k ctx tag b)) := by
  obtain ⟨hbytes, hctx, hnet⟩ := hc
  simp only [step]
  split
  · rename_i bytes hk
    obtain ⟨hlen, hb⟩ := hbytes bytes hk
    refine ⟨I.client, I.tracked.set ?_, matched_deliver I.matched hctx hnet⟩
    intro o ho m hm
    have hframe : bytes = RawFrame.encode m.msgId m.payload := I.tracked.of ho hk m hm
    exact handedOver_of_frame hframe hlen hb
  · exact I

theorem replies_append (es fs : List Event) : replies (es ++ fs) = replies es ++ replies fs :=
  List.filterMap_append

/-- The only reply of an operation that hands a reply over. -/
theorem replies_submitAsync {w : World} {e : SubmitEnv} {info : AsyncCbInfo} {channel rspCtx : Addr}
    {msg : ServiceMessage} {r : Tag × ServiceMessage} (hr : r ∈ replies (w.since
      (submitAsync w e info .responseCallBack ⟨.postResponseRaw, channel, none, .response rspCtx msg⟩).1)) :
    r = (⟨channel, rspCtx⟩, msg) := by
  have hlast : ∀ (w' : World) (evs : List Event), replies evs = [] →
      w'.trace = (evs ++ [.transport .postResponseRaw channel none (.response rspCtx msg)
        (some ⟨.responseCallBack, e.malloc⟩) e.ret, .malloc e.malloc]) ++ w.trace →
      r ∈ replies (w.since w') → r = (⟨channel, rspCtx⟩, msg) := by
    intro w' evs hevs ht h
    rw [World.since_of_trace ht, replies_append, hevs, List.nil_append] at h
    unfold replies at h
    simp only [List.filterMap_cons, Event.reply?, List.filterMap_nil] at h
    split at h
    · cases h
    · rename_i heq
      split at heq
      · cases heq
        exact List.mem_singleton.mp h
      · cases heq
  unfold submitAsync at hr
  split at hr
  · rw [World.since_self] at hr
    cases hr
  · simp only [World.postAsync] at hr
    split at hr
    · exact hlast _ [.stdFree e.malloc] rfl rfl hr
    · rw [World.handOver] at hr
      split at hr
      · -- the callback runs before the primitive returns
        rename_i c _
        have hi : ((w.newCbInfo e.malloc info).emit (.transport .postResponseRaw channel none
            (.response rspCtx msg) (some ⟨.responseCallBack, e.malloc⟩) e.ret)).cbInfos e.malloc = some info :=
          Function.update_self _ _ _
        obtain ⟨evs, he⟩ := (runCallback_frees ((w.newCbInfo e.malloc info).emit (.transport .postResponseRaw
          channel none (.response rspCtx msg) (some ⟨.responseCallBack, e.malloc⟩) e.ret))
          ⟨.responseCallBack, e.malloc⟩ c).trace
        have hevs : evs = .stdFree e.malloc :: notifyEvents info c :=
          (World.since_of_trace he).symm.trans (since_responseCallBack hi)
        refine hlast _ evs ?_ ?_ hr
        · rw [hevs, notifyEvents]
          split <;> rfl
        · rw [List.append_assoc]
          exact he
      · exact hlast _ [] rfl rfl hr

/-- A reply that is handed over is handed over whole, under the tag its context answers. -/
theorem replies_whole {w : World} {reply : Option (OckRpcMessage Addr)} {done : Option OckRpcCallDone}
    {e : SubmitEnv} {r : Tag × ServiceMessage}
    (hr : r ∈ replies (w.since (ockRpcServerReply w reply done e).1)) :
    ∀ tag : Tag, (∀ p ∈ e.ctx, p = tag.answers) →
      r.1 = tag ∧ bytesAt w.mem r.2.data r.2.size.toNat = replyBytes w reply := by
  intro tag hctx
  unfold ockRpcServerReply at hr
  have hself : ∀ st : OckRpcStatus, r ∉ replies (w.since (w, st).1) := by
    intro st
    rw [World.since_self]
    exact List.not_mem_nil
  split at hr
  · exact absurd hr (hself _)
  · rename_i msg
    split at hr
    · exact absurd hr (hself _)
    · rename_i hlen
      split at hr
      · exact absurd hr (hself _)
      · rename_i channel rspCtx ctxType hctx'
        have hp := hctx _ hctx'
        simp only [Tag.answers, ReplyCtx.mk.injEq] at hp
        obtain ⟨rfl, rfl, hraw⟩ := hp
        simp only [orErr, if_pos hraw] at hr
        have hsize : msg.len.toUInt32.toNat = msg.len.toNat := by
          rw [UInt64.toNat_toUInt32]
          unfold uint32Max at hlen
          omega
        rw [replies_submitAsync hr]
        exact ⟨rfl, by rw [replyBytes, hsize]⟩

theorem inv_reply (I : Inv s) {ctx : Addr} {reply : Option (OckRpcMessage Addr)}
    {done : Option OckRpcCallDone} {e : SubmitEnv} (hc : Contract s (.reply ctx reply done e)) :
    Inv (step s (.reply ctx reply done e)) := by
  simp only [step]
  split
  · rename_i x tag m ms hx hr
    have hown : ∀ p ∈ e.ctx, p = x.tag.answers := by
      intro p hp
      obtain ⟨x', hx', hp'⟩ := hc p hp
      obtain rfl : x = x' := Option.some.inj (hx.symm.trans hx')
      exact hp'
    obtain ⟨htag, hwhole⟩ := replies_whole (hr ▸ List.mem_cons_self) x.tag hown
    simp only at htag hwhole
    subst htag
    refine ⟨I.client, I.tracked.map _ ?_, I.matched.of_net ?_⟩
    · intro k o st ho hst m' hm'
      have hof := I.tracked.of ho hst m' hm'
      cases st with
      | handled ctx' tag' regs calls =>
        simp only [Stage.answer]
        split
        · rename_i heq
          subst heq
          obtain ⟨rfl, hne⟩ := I.matched ctx x hx ctx' regs calls (List.mem_of_getElem? hst)
          exact ⟨hof, hne, hwhole⟩
        · exact hof
      | _ => exact hof
    · intro ctx' tag' regs calls hmem
      obtain ⟨st, hst, heq⟩ := List.mem_map.mp hmem
      cases st with
      | handled ctx0 tag0 regs0 calls0 =>
        simp only [Stage.answer] at heq
        split at heq
        · cases heq
        · exact heq ▸ hst
      | _ => cases heq
  · exact ⟨I.client, I.tracked, I.matched⟩

theorem inv_step (I : Inv s) {l : Label} (hc : Contract s l) : Inv (step s l) := by
  cases l with
  | client l =>
    exact ⟨InFlight.inv_step I.client hc.1 hc.2, tracked_client I.tracked l, matched_client I.matched l⟩
  | transmit k => exact inv_transmit I hc
  | deliver k ctx tag b => exact inv_deliver I hc
  | reply ctx reply done e => exact inv_reply I hc
  | clone ctx ctx' =>
    refine ⟨I.client, I.tracked, I.matched.of_contexts fun c x hx => ?_⟩
    simp only [step, Function.update_apply] at hx
    split at hx
    · exact ⟨ctx, hx⟩
    · exact ⟨c, hx⟩
  | drop ctx =>
    refine ⟨I.client, I.tracked, I.matched.of_contexts fun c x hx => ?_⟩
    simp only [step, Function.update_apply] at hx
    split at hx
    · cases hx
    · exact ⟨c, hx⟩
  | server w' => exact ⟨I.client, I.tracked, I.matched⟩

end Steps

theorem inv_init {wc ws : World} (ht : wc.trace = []) (hin : wc.inflight = []) :
    Inv { client := { w := wc }, server := ws } :=
  ⟨InFlight.inv_init ht hin, ⟨rfl, fun h => by simp at h⟩, nofun⟩

/-! ## The response -/

/-- A completion that brings `wire`, into a response that has room for it or gets some. -/
structure Brings (w : World) (rsp : Addr) (c : Completion) (wire : List UInt8) : Prop where
  queries : c.QueriesOk
  twoSided : c.ctxType ≠ some .oneSide
  len : c.dataLen.toNat = wire.length
  data : ∃ b, c.data = some b ∧ bytesAt b 0 wire.length = wire
  room : (responseSlot w rsp c).data ≠ 0
  short : wire.length ≤ securecMemMaxLen
  apart : c.overlap = false

/-- The response struct holds these bytes. -/
def Holds (w : World) (rsp : Addr) (bytes : List UInt8) : Prop :=
  (w.slots rsp).len.toNat = bytes.length ∧ bytesAt w.mem (w.slots rsp).data bytes.length = bytes

theorem storeResponse_holds {w : World} {rsp : Addr} {c : Completion} {wire : List UInt8}
    (h : Brings w rsp c wire) : Holds (storeResponse w rsp c) rsp wire := by
  obtain ⟨b, hb, hbytes⟩ := h.data
  have hlen : (responseSlot w rsp c).len.toNat = wire.length := by
    rw [← h.len]
    exact UInt32.toNat_toUInt64 _
  unfold Holds
  rw [storeResponse_slots, Function.update_self]
  refine ⟨hlen, ?_⟩
  by_cases h0 : c.dataLen = 0
  · have hnil : wire.length = 0 := by rw [← h.len, h0]; rfl
    rw [hnil, List.eq_nil_of_length_eq_zero hnil]
    rfl
  · rw [storeResponse_mem h.room h0 (h.len ▸ h.short), ← h.len, bytesAt_blit_self, Completion.copied, hb,
      h.apart, h.len]
    exact hbytes

/-- **Request and response belong together.** In every interleaving of client, server and transport,
when a scatter-gather call completes with what the transport took as its reply: the reply was passed with the
context under which the handler of the id was given the payload of this call and of no other, the caller's
response holds it to the byte, and the callback is called once, with the result of the completion. -/
theorem exchange_correct {wc ws : World} {s : Sys} (h0 : wc.trace = []) (hin : wc.inflight = [])
    (hrun : Reached Contract step { client := { w := wc }, server := ws } s) {k : Nat} {o : Owed}
    {m : Sent} {ctx : Addr} {regs : StdMap Int16 Addr} {calls : List HandlerCall}
    {reply wire : List UInt8} {c : Completion} (ho : s.client.owed[k]? = some o) (hm : o.sent = some m)
    (hst : s.net[k]? = some (.answered ctx regs calls reply wire))
    (hc : Brings s.client.w m.rsp c wire) (hr : m.rsp ≠ 0) :
    (∃ h, regs.find m.msgId.toInt16 = some h ∧ calls = [⟨h, ctx, m.payload⟩]) ∧
      let w' := (InFlight.step s.client (.complete k c)).w
      Holds w' m.rsp reply ∧ userCalls (s.client.w.since w') =
        if m.done.cb = 0 then [] else [(m.done.cb, m.done.arg, c.resultValue)] := by
  have I : Inv s := hrun.invariant (inv_init h0 hin) fun s l I hl => inv_step I hl
  obtain ⟨hcalls, hne, rfl⟩ := I.tracked.of ho hst m hm
  refine ⟨?_, ?_⟩
  · cases hf : regs.find m.msgId.toInt16 with
    | none =>
      rw [handlerCalls, hf] at hcalls
      exact absurd hcalls hne
    | some h =>
      rw [handlerCalls, hf] at hcalls
      exact ⟨h, rfl, hcalls⟩
  · obtain ⟨info, hown, hrec, -⟩ := I.client.heap.live o (List.mem_of_getElem? ho)
    have R := hrec m hm
    have hw : (InFlight.step s.client (.complete k c)).w =
        ockRpcCallbackFunc (dequeue s.client.w k) o.cb.arg c := by
      simp only [InFlight.step, ho, runCallback, R.callback]
    have hown' : Owns (dequeue s.client.w k) o.cb info := ⟨hown.record, hown.array⟩
    obtain ⟨w2, evs, hresp, hslots, -, ht, hfrees⟩ :=
      callback_responds hown'.record (R.releasable hown') R.rsp hc.queries hc.twoSided
    simp only [hw]
    refine ⟨?_, ?_⟩
    · have hc2 : Brings w2 m.rsp c wire :=
        { hc with room := by rw [responseSlot, hslots]; exact hc.room }
      obtain ⟨hs, hm2⟩ := @respond_response w2 m.rsp c info hr
      rw [hresp, Holds, hs, hm2]
      exact storeResponse_holds hc2
    · have hsince : ∀ w', s.client.w.since w' = (dequeue s.client.w k).since w' := fun _ => rfl
      obtain ⟨copy, hall, hcopy, -⟩ := since_respond ht info m.rsp c
      rw [hsince, hresp, hall, userCalls_append, userCalls_append, hcopy, userCalls_of_frees hfrees,
        userCalls_notifyEvents, R.cb, R.arg]
      simp

/-! ### Two calls and a response -/

/-- A server with handlers for the ids 5 and 6. -/
def twoHandlers : World :=
  { gHandleMap := ((∅ : StdMap Int16 Addr).insertNew 5 76).insertNew 6 77, mem := UInt8.ofNat }

def answer : Completion :=
  { ctxType := some .receivedRaw, data := some fun i => UInt8.ofNat (600 + i), dataLen := 3, malloc := 5000 }

/-- Both calls are sent and delivered, the second one first, and this one is answered with three bytes. -/
def answeredCall : List Label :=
  [.client (.submit oneMessageCall.op (some ⟨11, 12⟩) firstCall),
    .client (.submit twoMessageCall.op (some ⟨13, 14⟩) secondCall), .transmit 0, .transmit 1,
    .deliver 1 9 ⟨7, 8⟩ (fun i => [6, 0, 0, 0, 1, 1].getD i 0),
    .deliver 0 10 ⟨7, 9⟩ (fun i => [5, 0, 3, 3, 3, 3].getD i 0),
    .reply 9 (some ⟨600, 3⟩) none { malloc := 800, ctx := some ⟨7, 8, .receivedRaw⟩ }]

def start : Sys := { client := { w := eightByteSegs }, server := twoHandlers }

set_option maxRecDepth 20000 in
theorem net_read : ((answeredCall.take 4).foldl step start).net =
    [.read [5, 0, 3, 3, 3, 3], .read [6, 0, 0, 0, 1, 1]] := rfl

set_option maxRecDepth 20000 in
theorem net_delivered : ((answeredCall.take 5).foldl step start).net =
    [.read [5, 0, 3, 3, 3, 3], .handled 9 ⟨7, 8⟩ twoHandlers.gHandleMap [⟨77, 9, [0, 0, 1, 1]⟩]] := rfl

set_option maxRecDepth 20000 in
theorem contexts_delivered : ((answeredCall.take 5).foldl step start).contexts =
    Function.update (fun _ => none) 9 (some ⟨9, ⟨7, 8⟩⟩) := rfl

set_option maxRecDepth 20000 in
theorem net_answered : (answeredCall.foldl step start).net =
    [.handled 10 ⟨7, 9⟩ twoHandlers.gHandleMap [⟨76, 10, [3, 3, 3, 3]⟩],
      .answered 9 twoHandlers.gHandleMap [⟨77, 9, [0, 0, 1, 1]⟩] [88, 89, 90] [88, 89, 90]] := rfl

theorem answeredCall_ok : AllOk Contract step start answeredCall := by
  obtain ⟨⟨h1, hsafe1⟩, ⟨h2, hsafe2⟩, -⟩ := twoCalls_ok
  refine ⟨⟨h1, hsafe1⟩, ⟨h2, hsafe2⟩, ?_, ?_, ⟨?_, ?_, ?_⟩, ⟨?_, ?_, ?_⟩, ?_, trivial⟩
  · intro o ho
    cases ho
    rfl
  · intro o ho
    cases ho
    rfl
  · intro bytes h
    have hnet := congrArg (·[1]?) net_read
    obtain rfl : [6, 0, 0, 0, 1, 1] = bytes := Stage.read.inj (Option.some.inj (hnet.symm.trans h))
    decide
  · intro c x hx
    cases hx
  · intro st hst
    have hmem : st ∈ [Stage.read [5, 0, 3, 3, 3, 3], .read [6, 0, 0, 0, 1, 1]] := net_read ▸ hst
    rcases List.mem_pair.mp hmem with rfl | rfl
    · exact not_false
    · exact not_false
  · intro bytes h
    have hnet := congrArg (·[0]?) net_delivered
    obtain rfl : [5, 0, 3, 3, 3, 3] = bytes := Stage.read.inj (Option.some.inj (hnet.symm.trans h))
    decide
  · intro c x hx
    have hx' := (congrFun contexts_delivered c).symm.trans hx
    rw [Function.update_apply] at hx'
    split at hx'
    · cases hx'
      decide
    · cases hx'
  · intro st hst
    have hmem : st ∈ [Stage.read [5, 0, 3, 3, 3, 3],
      .handled 9 ⟨7, 8⟩ twoHandlers.gHandleMap [⟨77, 9, [0, 0, 1, 1]⟩]] := net_delivered ▸ hst
    rcases List.mem_pair.mp hmem with rfl | rfl
    · exact not_false
    · simp [Stage.Waits]
  · intro p hp
    cases hp
    exact ⟨⟨9, ⟨7, 8⟩⟩, rfl, rfl⟩

/-- The three bytes are in the response of the second call. -/
theorem exchange_correct_three :
    let s := answeredCall.foldl step start
    let w' := (InFlight.step s.client (.complete 1 answer)).w
    Holds w' 700 [88, 89, 90] ∧ userCalls (s.client.w.since w') = [(13, 14, ockRpcOk)] := by
  intro s
  have hb : Brings s.client.w 700 answer [88, 89, 90] :=
    ⟨⟨rfl, rfl⟩, by decide, rfl, ⟨_, rfl, by decide⟩, by decide, by decide, rfl⟩
  obtain ⟨o, m, ho, hm, hr, hd⟩ : ∃ o m, s.client.owed[1]? = some o ∧ o.sent = some m ∧
      m.rsp = 700 ∧ m.done = ⟨13, 14⟩ := ⟨_, _, rfl, rfl, rfl, rfl⟩
  have h := (exchange_correct rfl rfl (Reached.refl.extend answeredCall_ok) ho hm
    (congrArg (·[1]?) net_answered) (hr ▸ hb) (by rw [hr]; decide)).2
  rw [hr, hd] at h
  exact h

end Exchange

end Hcom4db
