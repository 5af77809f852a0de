import Hcom4db.State

/-!
# Hcom4db.Receive

`OckRpcReceiveHandle`, the dispatcher of plain messages.

`RawFrame` is the wire format on its own terms: a two-byte id, then the payload. `decode` rejects
what is shorter than an id. `receive_decodes`: on a raw message at least as long as the header the
dispatcher calls the handler of the decoded id with the decoded payload; `receive_raw_bad`: the
dispatcher has no length check, so a shorter message is read past its end and handed on with a length
that wrapped.
-/

namespace Hcom4db

open FlatMem

/-! ## The wire format -/

namespace RawFrame

def encode (msgId : UInt16) (payload : List UInt8) : List UInt8 :=
  bytesAt (rawMessageHeader msgId) 0 sizeofRawMessageHeader ++ payload

def decode : List UInt8 → Option (UInt16 × List UInt8)
  | lo :: hi :: payload => some (UInt16.ofNat (lo.toNat + 256 * hi.toNat), payload)
  | _ => none

theorem decode_encode (msgId : UInt16) (payload : List UInt8) :
    decode (encode msgId payload) = some (msgId, payload) := by
  have h := rawMsgId_rawMessageHeader msgId
  simp only [encode, sizeofRawMessageHeader, bytesAt, List.range_succ, List.range_zero, List.nil_append,
    List.cons_append, List.map_cons, List.map_nil, decode, Nat.zero_add]
  rw [← rawMsgId, h]

/-- What is decoded is a header's worth of bytes longer than its payload. -/
theorem length_of_decode {bs payload : List UInt8} {msgId : UInt16}
    (h : decode bs = some (msgId, payload)) : bs.length = sizeofRawMessageHeader + payload.length := by
  match bs, h with
  | _ :: _ :: _, h =>
    simp only [decode, Option.some.injEq, Prod.mk.injEq] at h
    rw [← h.2, sizeofRawMessageHeader, List.length_cons, List.length_cons]
    omega

theorem decode_bytesAt (b : Buf) (n : Nat) :
    decode (bytesAt b 0 (sizeofRawMessageHeader + n)) =
      some (rawMsgId b, bytesAt b sizeofRawMessageHeader n) := by
  rw [bytesAt_add]
  simp [bytesAt, sizeofRawMessageHeader, List.range_succ, decode, rawMsgId]

end RawFrame

/-! ## The dispatcher -/

/-- What the context of a received message answers. -/
structure ReceiveEnv where
  /-- `Service_GetMessageData` -/
  data : Option Buf
  /-- `Service_GetMessageDataLen` -/
  dataLen : UInt32
  /-- `Service_GetContextType`, `none` when it fails. -/
  ctxType : Option ServiceContextType
  /-- `opCode` of `Service_GetOpInfo`, `none` when it fails. -/
  opCode : Option UInt16 := none

/-- The lookup in `g_handleMap`, whose key is an `int16_t`, and the call. -/
def dispatch (w : World) (ctx : Addr) (msgId : UInt16) (off : Nat) (len : UInt64) : World × Int :=
  match w.gHandleMap.find msgId.toInt16 with
  | some h => (w.emit (.handler h ctx off len), ockRpcOk)
  | none => (w, ockRpcOk)

def ockRpcReceiveHandle (w : World) (ctx : Addr) (e : ReceiveEnv) : World × Int :=
  match e.data with
  | none => (w, ockRpcErr)
  | some b =>
    let len := e.dataLen.toUInt64
    match e.ctxType with
    | none => (w, ockRpcErr)
    | some .receivedRaw =>
      dispatch (w.emit (.msgRead 0 sizeofRawMessageHeader)) ctx (rawMsgId b) sizeofRawMessageHeader
        (len - UInt64.ofNat sizeofRawMessageHeader)
    | some _ =>
      match e.opCode with
      | none => (w, ockRpcErr)
      | some opCode => dispatch w ctx opCode 0 len

section

variable {w : World} {ctx : Addr} {e : ReceiveEnv} {b : Buf}

theorem receive_raw (hd : e.data = some b) (ht : e.ctxType = some .receivedRaw) :
    ockRpcReceiveHandle w ctx e =
      dispatch (w.emit (.msgRead 0 sizeofRawMessageHeader)) ctx (rawMsgId b) sizeofRawMessageHeader
        (e.dataLen.toUInt64 - UInt64.ofNat sizeofRawMessageHeader) := by
  simp only [ockRpcReceiveHandle, hd, ht]

/-- A message that is not raw is dispatched by its operation code. -/
theorem receive_op {t : ServiceContextType} (hd : e.data = some b) (ht : e.ctxType = some t)
    (hne : t ≠ .receivedRaw) :
    ockRpcReceiveHandle w ctx e = match e.opCode with
      | none => (w, ockRpcErr)
      | some opCode => dispatch w ctx opCode 0 e.dataLen.toUInt64 := by
  simp only [ockRpcReceiveHandle, hd, ht]

theorem since_dispatch {msgId : UInt16} {off : Nat} {len : UInt64} :
    w.since (dispatch w ctx msgId off len).1 =
      ((w.gHandleMap.find msgId.toInt16).map fun h => Event.handler h ctx off len).toList := by
  unfold dispatch
  cases w.gHandleMap.find msgId.toInt16 with
  | some h => exact World.since_of_trace rfl
  | none => simp

theorem dispatch_trace {msgId : UInt16} {off : Nat} {len : UInt64} :
    (dispatch w ctx msgId off len).1.trace =
      w.since (dispatch w ctx msgId off len).1 ++ w.trace := by
  rw [since_dispatch]
  unfold dispatch
  cases w.gHandleMap.find msgId.toInt16 <;> rfl

@[simp] theorem dispatch_status {msgId : UInt16} {off : Nat} {len : UInt64} :
    (dispatch w ctx msgId off len).2 = ockRpcOk := by
  unfold dispatch
  cases w.gHandleMap.find msgId.toInt16 <;> rfl

/-- The events of the dispatcher on a raw message: the header is read, then the handler of the id in
it is called, if there is one. -/
theorem since_receive_raw (hd : e.data = some b) (ht : e.ctxType = some .receivedRaw) :
    w.since (ockRpcReceiveHandle w ctx e).1 =
      ((w.gHandleMap.find (rawMsgId b).toInt16).map fun h =>
        Event.handler h ctx sizeofRawMessageHeader
          (e.dataLen.toUInt64 - UInt64.ofNat sizeofRawMessageHeader)).toList ++
        [.msgRead 0 sizeofRawMessageHeader] := by
  have h0 : (w.emit (.msgRead 0 sizeofRawMessageHeader)).trace =
      [.msgRead 0 sizeofRawMessageHeader] ++ w.trace := rfl
  rw [receive_raw hd ht, World.since_append h0 dispatch_trace, since_dispatch]
  rfl

/-- The length the handler is given does not wrap when the message holds a header. -/
theorem rawLen_of_le (h : sizeofRawMessageHeader ≤ e.dataLen.toNat) :
    (e.dataLen.toUInt64 - UInt64.ofNat sizeofRawMessageHeader).toNat =
      e.dataLen.toNat - sizeofRawMessageHeader := by
  have h2 : (UInt64.ofNat sizeofRawMessageHeader).toNat = sizeofRawMessageHeader := rfl
  rw [UInt64.toNat_sub_of_le, h2, UInt32.toNat_toUInt64]
  rw [UInt64.le_iff_toNat_le, h2, UInt32.toNat_toUInt64]
  exact h

/-- On a message that holds a header the dispatcher decodes the frame. -/
theorem receive_decodes {h : Addr} (hd : e.data = some b) (ht : e.ctxType = some .receivedRaw)
    {msgId : UInt16} {payload : List UInt8}
    (hf : RawFrame.decode (bytesAt b 0 e.dataLen.toNat) = some (msgId, payload))
    (hreg : w.gHandleMap.find msgId.toInt16 = some h) :
    (ockRpcReceiveHandle w ctx e).2 = ockRpcOk ∧
      ∃ off len, handledMsgs (w.since (ockRpcReceiveHandle w ctx e).1) = [(h, ctx, off, len)] ∧
        len.toNat = payload.length ∧ bytesAt b off len.toNat = payload := by
  have hlen := RawFrame.length_of_decode hf
  rw [length_bytesAt] at hlen
  rw [hlen, RawFrame.decode_bytesAt] at hf
  simp only [Option.some.injEq, Prod.mk.injEq] at hf
  obtain ⟨rfl, hp⟩ := hf
  have hn := rawLen_of_le (e := e) (by omega)
  refine ⟨by rw [receive_raw hd ht, dispatch_status], sizeofRawMessageHeader,
    e.dataLen.toUInt64 - UInt64.ofNat sizeofRawMessageHeader, ?_, ?_, ?_⟩
  · rw [since_receive_raw hd ht, hreg]
    rfl
  · rw [hn]; omega
  · rw [hn, hlen, Nat.add_sub_cancel_left, hp]

end

/-! ## Malformed raw messages -/

/-- How a raw message of `T` bytes must be treated, given the events of the dispatch and its return
value: the header is read only if it is there, a handler gets the rest of the message and nothing
beyond it, and a message without a header is refused. -/
structure RawHandled (T : Nat) (evs : List Event) (ret : Int) : Prop where
  header : ∀ off n, Event.msgRead off n ∈ evs → sizeofRawMessageHeader ≤ T ∧ off + n ≤ T
  range : ∀ h ctx off len, (h, ctx, off, len) ∈ handledMsgs evs →
    off + len.toNat ≤ T ∧ len.toNat + sizeofRawMessageHeader = T
  refused : T < sizeofRawMessageHeader → handledMsgs evs = [] ∧ ret ≠ ockRpcOk

/-- **Raw messages are handled properly exactly when they hold a header** (or are dropped before the
header is looked at, because the context yields no data or no type). -/
theorem receive_raw_handled_iff (w : World) (ctx : Addr) (e : ReceiveEnv)
    (hraw : ∀ t, e.ctxType = some t → t = .receivedRaw) :
    RawHandled e.dataLen.toNat (w.since (ockRpcReceiveHandle w ctx e).1)
        (ockRpcReceiveHandle w ctx e).2 ↔
      e.data = none ∨ e.ctxType = none ∨ sizeofRawMessageHeader ≤ e.dataLen.toNat := by
  rcases hd : e.data with _ | b
  · have hr : ockRpcReceiveHandle w ctx e = (w, ockRpcErr) := by simp only [ockRpcReceiveHandle, hd]
    rw [hr, World.since_self]
    refine ⟨fun _ => .inl rfl, fun _ => ⟨by simp, by simp, fun _ => ⟨rfl, ockRpcErr_ne_ok⟩⟩⟩
  rcases ht : e.ctxType with _ | t
  · have hr : ockRpcReceiveHandle w ctx e = (w, ockRpcErr) := by
      simp only [ockRpcReceiveHandle, hd, ht]
    rw [hr, World.since_self]
    refine ⟨fun _ => .inr (.inl rfl), fun _ => ⟨by simp, by simp, fun _ => ⟨rfl, ockRpcErr_ne_ok⟩⟩⟩
  obtain rfl := hraw t ht
  rw [since_receive_raw hd ht]
  constructor
  · intro H
    exact .inr (.inr (H.header 0 sizeofRawMessageHeader (by simp)).1)
  · intro H
    have hT : sizeofRawMessageHeader ≤ e.dataLen.toNat := by simpa using H
    have hn := rawLen_of_le hT
    refine ⟨?_, ?_, fun h => absurd h (by omega)⟩
    · intro off n hm
      rcases List.mem_append.mp hm with hm | hm
      · cases hf : w.gHandleMap.find (rawMsgId b).toInt16 <;> simp [hf] at hm
      · simp only [List.mem_singleton, Event.msgRead.injEq] at hm
        omega
    · intro h ctx' off len hm
      cases hf : w.gHandleMap.find (rawMsgId b).toInt16 with
      | none => simp [hf] at hm
      | some h0 =>
        simp only [hf, Option.map_some, Option.toList_some, List.cons_append, List.nil_append,
          handledMsgs_cons, Event.handled?, Option.toList_none, handledMsgs_nil, List.mem_cons,
          Prod.mk.injEq, List.not_mem_nil, or_false] at hm
        obtain ⟨-, -, rfl, rfl⟩ := hm
        rw [hn]
        omega

/-- A message that is a header and nothing more. -/
theorem receive_raw_handled_iff_two : RawHandled 2 (World.since {} (ockRpcReceiveHandle {} 7
    { data := some fun _ => 0, dataLen := 2, ctxType := some .receivedRaw }).1)
      (ockRpcReceiveHandle {} 7
        { data := some fun _ => 0, dataLen := 2, ctxType := some .receivedRaw }).2 :=
  (receive_raw_handled_iff {} 7 { data := some fun _ => 0, dataLen := 2, ctxType := some .receivedRaw }
    (by simp)).mpr (.inr (.inr (by decide)))

/-- A one-byte message: the dispatcher reads the header past its end, and the handler of the id it
finds there is told that `2 ^ 64 - 1` bytes follow. -/
theorem receive_raw_bad : ∃ (w : World) (ctx : Addr) (e : ReceiveEnv),
    e.data.isSome ∧ e.ctxType = some .receivedRaw ∧ e.dataLen.toNat = 1 ∧
      handledMsgs (w.since (ockRpcReceiveHandle w ctx e).1) = [(9, ctx, 2, 18446744073709551615)] ∧
      ¬ RawHandled e.dataLen.toNat (w.since (ockRpcReceiveHandle w ctx e).1)
        (ockRpcReceiveHandle w ctx e).2 := by
  refine ⟨{ gHandleMap := StdMap.insertNew ∅ 0 9 }, 7,
    { data := some fun _ => 0, dataLen := 1, ctxType := some .receivedRaw }, rfl, rfl, rfl, ?_, ?_⟩
  · rw [since_receive_raw rfl rfl]
    rfl
  · intro H
    rw [since_receive_raw rfl rfl] at H
    have h1 := (H.header 0 sizeofRawMessageHeader (by simp)).1
    exact absurd h1 (by decide)

end Hcom4db
