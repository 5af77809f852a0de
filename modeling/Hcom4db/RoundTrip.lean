import Mathlib.Algebra.GroupWithZero.Nat
import Hcom4db.PackLayout
import Hcom4db.Receive

/-!
# Hcom4db.RoundTrip

A raw scatter-gather request, end to end: what `PackReqInfo` lays out in the segments is what the
dispatcher of the peer hands to the handler.
-/

namespace Hcom4db

open FlatMem

theorem headerBytes_eq_encode (msgId : UInt16) (payload : List UInt8) :
    headerBytes msgId ++ payload = RawFrame.encode msgId payload := rfl

/-- The payloads are as long as the messages say, when no message has a null pointer. -/
theorem length_flatMap_payload {msgs : List ReqMessage} (h : ∀ m ∈ msgs, m.data.isSome) :
    (msgs.flatMap ReqMessage.payload).length = (msgs.map fun m => m.len.toNat).sum := by
  induction msgs with
  | nil => rfl
  | cons m ms ih =>
    obtain ⟨b, hb⟩ := Option.isSome_iff_exists.mp (h m List.mem_cons_self)
    rw [List.flatMap_cons, List.length_append, ih fun m' hm' => h m' (List.mem_cons_of_mem _ hm'),
      List.map_cons, List.sum_cons, ReqMessage.payload_of_data hb, length_bytesAt]

/-- **Raw round trip.** If the packing of any number of messages succeeds and the blocks of the pool
do not overlap, the segments are the header and the payloads, and a dispatcher that receives them
calls the handler of the id with the payloads. -/
theorem raw_round_trip {w w' : World} {client : Addr} {msgs : List ReqMessage} {msgId : UInt16}
    {env : PackEnv} {req : ServiceSglRequest}
    (hmsg : ∀ m ∈ msgs, m.data.isSome ∧ m.len.toNat ≤ w.gOptions.mrSendReceiveSegSize.toNat)
    (hok : packReqInfo w client msgs msgId {} env = (w', ockRpcOk, req))
    (hdisj : (blocks (w.since w')).Pairwise Span.Disjoint) :
    req.iovCount.toNat = 1 + min msgs.length 3 ∧
      (∀ j ∈ iovIndices (w.since w'), j < ockMaxIovCount) ∧
      gather w'.mem req.spans = headerBytes msgId ++ msgs.flatMap ReqMessage.payload ∧
      ∀ (wr : World) (ctx h : Addr) (b : Buf) (e : ReceiveEnv),
        wr.gHandleMap.find msgId.toInt16 = some h →
        e.data = some b → e.ctxType = some .receivedRaw →
        bytesAt b 0 e.dataLen.toNat = gather w'.mem req.spans →
        (ockRpcReceiveHandle wr ctx e).2 = ockRpcOk ∧
          ∃ off len,
            handledMsgs (wr.since (ockRpcReceiveHandle wr ctx e).1) = [(h, ctx, off, len)] ∧
            len.toNat = (msgs.map fun m => m.len.toNat).sum ∧
            bytesAt b off len.toNat = msgs.flatMap ReqMessage.payload := by
  obtain ⟨hcount, hidx, hgather⟩ := packReqInfo_ok (fun m hm => (hmsg m hm).2) hok
  have hg := hgather hdisj
  refine ⟨hcount, hidx, hg, ?_⟩
  intro wr ctx h b e hreg hdata htype hbytes
  have hdec : RawFrame.decode (bytesAt b 0 e.dataLen.toNat) =
      some (msgId, msgs.flatMap ReqMessage.payload) := by
    rw [hbytes, hg, headerBytes_eq_encode, RawFrame.decode_encode]
  obtain ⟨hst, off, len, hcall, hlen, hpay⟩ := receive_decodes hdata htype hdec hreg
  refine ⟨hst, off, len, hcall, ?_, hpay⟩
  rw [hlen, length_flatMap_payload fun m hm => (hmsg m hm).1]

/-- Four messages, the last two of them in one block. -/
theorem raw_round_trip_four : ∃ (w w' : World) (req : ServiceSglRequest),
    packReqInfo w 1 [⟨some fun _ => 1, 2⟩, ⟨some fun _ => 2, 0⟩, ⟨some fun _ => 3, 1⟩,
      ⟨some fun _ => 4, 3⟩] 258 {} PackEnv.spaced = (w', ockRpcOk, req) ∧
      gather w'.mem req.spans = [2, 1, 1, 1, 3, 4, 4, 4] :=
  ⟨{ gOptions := { mrSendReceiveSegSize := 8 } }, _, _, rfl,
    (@raw_round_trip { gOptions := { mrSendReceiveSegSize := 8 } } _ 1
      [⟨some fun _ => 1, 2⟩, ⟨some fun _ => 2, 0⟩, ⟨some fun _ => 3, 1⟩, ⟨some fun _ => 4, 3⟩] 258
      PackEnv.spaced _ (by decide) rfl (by decide)).2.2.1⟩

end Hcom4db
