import Mathlib.Algebra.GroupWithZero.Nat
import Hcom4db.PackFailure

/-!
# Hcom4db.PackAccepts

Which requests are packed when the allocator answers every request. Up to three messages always are. Of
more, the third and those after it share one block of a segment size, and the bounded copy refuses a
destination of size 0 even for an empty message: a block that is exactly full takes no further message.

* `RoomFor`: what the append loop needs; `roomFor_iff` puts it in closed form.
* `packReqInfo_status_iff`: which requests are packed.
* `pack_accepts_iff`: where that is "the sum of the rest fits a segment".
-/

namespace Hcom4db

/-- How many bytes the messages are together. -/
def totalLen (ms : List ReqMessage) : Nat := (ms.map fun m => m.len.toNat).sum

/-- Each message meets at least a byte of room and fits it, when `cur` bytes are taken before them. -/
def RoomFor (seg : Nat) : Nat → List ReqMessage → Prop
  | _, [] => True
  | cur, m :: ms => cur < seg ∧ cur + m.len.toNat ≤ seg ∧ RoomFor seg (cur + m.len.toNat) ms

theorem totalLen_cons (m : ReqMessage) (ms : List ReqMessage) :
    totalLen (m :: ms) = m.len.toNat + totalLen ms := by
  rw [totalLen, List.map_cons, List.sum_cons]
  rfl

theorem roomFor_iff {seg cur : Nat} {ms : List ReqMessage} :
    RoomFor seg cur ms ↔
      ms = [] ∨ cur + totalLen ms ≤ seg ∧ cur + totalLen ms.dropLast < seg := by
  induction ms generalizing cur with
  | nil => exact iff_of_true trivial (.inl rfl)
  | cons m ms ih =>
    rw [RoomFor, ih, totalLen_cons]
    cases ms with
    | nil =>
      simp [totalLen]
      omega
    | cons m' ms =>
      rw [List.dropLast_cons_cons, totalLen_cons m]
      simp only [reduceCtorEq, false_or]
      omega

/-! ## The input -/

/-- What a request that was checked brings, and an allocator that answers it: blocks that are not null,
and that no message of the user lies in. -/
structure Packable (seg : UInt32) (msgs : List ReqMessage) (env : PackEnv) : Prop where
  count_pos : 1 ≤ msgs.length
  count_le : msgs.length ≤ 8
  data : ∀ m ∈ msgs, m.data.isSome
  len : ∀ m ∈ msgs, m.len.toNat ≤ seg.toNat
  seg_pos : 0 < seg.toNat
  seg_le : seg.toNat ≤ securecMemMaxLen
  alloc : ∀ j ≤ min msgs.length 3, ∃ addr ∈ env.addr j, addr ≠ 0
  apart : ∀ i, env.overlap i = false

section

variable {client : Addr} {msgs : List ReqMessage} {env : PackEnv} {seg : UInt32} {w : World}

theorem Packable.setOk (h : Packable seg msgs env) {k : Nat} {m : ReqMessage}
    (hk : (msgs.take 3)[k]? = some m) : SetOk env seg k m := by
  have hmem : m ∈ msgs := List.mem_of_mem_take (List.mem_of_getElem? hk)
  obtain ⟨hlt, -⟩ := List.getElem?_eq_some_iff.mp hk
  rw [List.length_take] at hlt
  obtain ⟨addr, haddr, hne⟩ := h.alloc (k + 1) (by omega)
  refine ⟨addr, haddr, ?_⟩
  exact { max_pos := h.seg_pos, max_le := h.seg_le, dest_ne := hne, src_some := h.data m hmem,
          fits := h.len m hmem, apart := fun ho => absurd ((h.apart k).symm.trans ho) (by decide) }

/-- The loop of `SetReqInfo` packs what gets a block and fits it. -/
theorem setReqInfoLoop_accepts {count i : Nat} {ms : List ReqMessage} {req : ServiceSglRequest}
    (h : ∀ k m, ms[k]? = some m → SetOk env seg (i + k) m) :
    ∃ w' req', setReqInfoLoop client env seg count ms i w req = (w', ockRpcOk, req') := by
  rcases hr : setReqInfoLoop client env seg count ms i w req with ⟨w', st, req'⟩
  by_cases hst : st = ockRpcOk
  · exact ⟨w', req', by rw [hst]⟩
  · obtain ⟨k, S⟩ := setReqInfoLoop_err hr hst
    obtain ⟨m, hm, hnot⟩ := S.failed
    exact absurd (h k m hm) hnot

/-- One copy of the append loop. -/
theorem copyOk_append_iff {addr cur : Nat} {m : ReqMessage} (hmax : seg.toNat ≤ securecMemMaxLen)
    (haddr : addr ≠ 0) (hdata : m.data.isSome) :
    CopyOk (addr + cur) (seg.toNat - cur) m.data m.len.toNat false ↔
      cur < seg.toNat ∧ cur + m.len.toNat ≤ seg.toNat := by
  constructor
  · intro h
    have hpos := h.max_pos
    have hfits := h.fits
    omega
  · intro h
    have hdest : addr + cur ≠ 0 := fun h0 => haddr (Nat.eq_zero_of_add_eq_zero_right h0)
    exact { max_pos := by omega, max_le := by omega, dest_ne := hdest, src_some := hdata,
            fits := by omega, apart := fun ho => absurd ho (by decide) }

theorem appendLoop_status_iff {k i : Nat} {ms : List ReqMessage} {req : ServiceSglRequest}
    (hap : ∀ i, env.overlap i = false) (hmax : seg.toNat ≤ securecMemMaxLen)
    (hdata : ∀ m ∈ ms, m.data.isSome) (haddr : (req.iov k).lAddress ≠ 0)
    (hsz : (req.iov k).size.toNat ≤ seg.toNat) :
    (appendLoop client env seg k ms i w req).2.1 = ockRpcOk ↔
      RoomFor seg.toNat (req.iov k).size.toNat ms := by
  induction ms generalizing i w req with
  | nil => exact iff_of_true rfl trivial
  | cons m ms ih =>
    have hm : m.data.isSome := hdata m List.mem_cons_self
    have hroom : (seg - (req.iov k).size).toNat = seg.toNat - (req.iov k).size.toNat :=
      UInt32.toNat_sub_of_le _ _ (UInt32.le_iff_toNat_le.mpr hsz)
    have hcopy := @copyOk_append_iff seg _ (req.iov k).size.toNat m hmax haddr hm
    rw [RoomFor]
    rcases appendLoop_cons client env seg k i m ms w req with ⟨hc, e⟩ | ⟨b, hb, hc, e⟩
    · rw [hap, hroom, hcopy] at hc
      rw [e]
      exact iff_of_false ockRpcErr_ne_ok fun h => hc ⟨h.1, h.2.1⟩
    · rw [hap, hroom, hcopy] at hc
      have hle : m.len.toNat ≤ seg.toNat := by omega
      have hlt := seg.toNat_lt
      have hnew : ((req.iov k).size + m.len.toUInt32).toNat =
          (req.iov k).size.toNat + m.len.toNat := by
        rw [UInt32.toNat_add, toNat_toUInt32_of_le hle]
        exact Nat.mod_eq_of_lt (by omega)
      have hiov : (req.assign k (req.iov k).lAddress (req.iov k).lKey
          ((req.iov k).size + m.len.toUInt32)).iov k =
          { req.iov k with size := (req.iov k).size + m.len.toUInt32 } := by
        simp [ServiceSglRequest.assign]
      have hrec := @ih
        ((w.store ((req.iov k).lAddress + (req.iov k).size.toNat) b m.len.toNat).emit (.iovStore k))
        (i + 1) (req.assign k (req.iov k).lAddress (req.iov k).lKey ((req.iov k).size + m.len.toUInt32))
        (fun m' hm' => hdata m' (List.mem_cons_of_mem _ hm')) (by rw [hiov]; exact haddr)
        (by rw [hiov, hnew]; exact hc.2)
      rw [hiov] at hrec
      simp only [hnew] at hrec
      rw [e, hrec]
      exact ⟨fun h => ⟨hc.1, hc.2, h⟩, fun h => h.2.2⟩

/-- The third segment before the append loop: the third message, in a block that is not null. -/
theorem third_segment {a b c : ReqMessage} {w1 : World} {req req1 : ServiceSglRequest}
    (hlen : ∀ m ∈ [a, b, c], m.len.toNat ≤ seg.toNat) (haddr : ∃ x ∈ env.addr 3, x ≠ 0)
    (h : setReqInfoLoop client env seg 3 [a, b, c] 0 w req = (w1, ockRpcOk, req1)) :
    (req1.iov 3).size.toNat = c.len.toNat ∧ (req1.iov 3).lAddress ≠ 0 := by
  obtain ⟨bs, P⟩ := setReqInfoLoop_ok hlen h
  obtain ⟨b1, b2, b3, rfl⟩ := List.length_eq_three.mp P.length_eq
  have hans := setReqInfoLoop_taken h
  rw [taken, P.blocks_eq, List.map_reverse, List.reverse_reverse] at hans
  have h3 : env.addr 3 = some b3.1 := hans.addr_eq (k := 2) rfl
  have hiov := P.iov
  simp only [List.length_cons, List.length_nil, iovSpans_succ, segments, List.zipWith_cons_cons,
    List.cons.injEq, Prod.mk.injEq, Nat.zero_add, Nat.reduceAdd] at hiov
  obtain ⟨-, -, ⟨hthird, hsize⟩, -⟩ := hiov
  obtain ⟨x, hx, hne⟩ := haddr
  rw [h3] at hx
  cases hx
  exact ⟨hsize, by rw [hthird]; exact hne⟩

/-- Which requests are packed: those of at most three messages, and those whose messages from the third
on fit a segment and leave room in it before the last one. -/
theorem packReqInfo_status_iff (h : Packable w.gOptions.mrSendReceiveSegSize msgs env)
    (client : Addr) (msgId : UInt16) :
    (packReqInfo w client msgs msgId {} env).2.1 = ockRpcOk ↔
      msgs.length ≤ 3 ∨ totalLen (msgs.drop 2) ≤ w.gOptions.mrSendReceiveSegSize.toNat ∧
        totalLen (msgs.drop 2).dropLast < w.gOptions.mrSendReceiveSegSize.toNat := by
  obtain ⟨addr, haddr, -⟩ := h.alloc 0 (Nat.zero_le _)
  obtain ⟨⟨x, key⟩, ha, rfl⟩ := Option.map_eq_some_iff.mp haddr
  have hseg : (w.withHeader client msgId x).gOptions = w.gOptions :=
    (PoolFrame.withHeader client w msgId x).gOptions
  rcases Nat.lt_or_ge 3 msgs.length with hn | hn
  · -- three messages by `SetReqInfo`, the others behind the third
    match msgs, hn, h with
    | a :: b :: c :: rest, hn, h =>
      have hrest : rest ≠ [] := by
        rintro rfl
        exact absurd hn (by simp)
      rw [packReqInfo_long ha hn]
      obtain ⟨w1, req1, hr⟩ := @setReqInfoLoop_accepts client env w.gOptions.mrSendReceiveSegSize
        (w.withHeader client msgId x) 3 0 [a, b, c] (ServiceSglRequest.withHeader {} x key)
        (fun k m hk => by rw [Nat.zero_add]; exact h.setOk hk)
      have hset : setReqInfo (w.withHeader client msgId x) client (a :: b :: c :: rest) 3
          (ServiceSglRequest.withHeader {} x key) env = (w1, ockRpcOk, req1) := by
        rw [setReqInfo, hseg]
        exact hr
      have hf1 := setReqInfo_frame (w.withHeader client msgId x) client (a :: b :: c :: rest) 3
        (ServiceSglRequest.withHeader {} x key) env
      rw [hset] at hf1
      obtain ⟨hsize, hne⟩ := third_segment
        (fun m hm => h.len m (List.mem_of_mem_take (i := 3) hm)) (h.alloc 3 (by simp)) hr
      rw [hset]
      simp only [ne_eq, not_true_eq_false, if_false]
      rw [hf1.gOptions, hseg]
      have hc : c.len.toNat ≤ w.gOptions.mrSendReceiveSegSize.toNat := h.len c (by simp)
      have hdata : ∀ m ∈ rest, m.data.isSome := fun m hm => h.data m (by simp [hm])
      have happ := @appendLoop_status_iff client env w.gOptions.mrSendReceiveSegSize w1 3 3 rest req1
        h.apart h.seg_le hdata hne (by rw [hsize]; exact hc)
      rw [hsize, roomFor_iff] at happ
      have hdrop : (c :: rest).dropLast = c :: rest.dropLast := List.dropLast_cons_of_ne_nil hrest
      simp only [List.drop_succ_cons, List.drop_zero]
      rw [happ, hdrop, totalLen_cons, totalLen_cons]
      exact or_congr_left (iff_of_false hrest (by omega))
  · rw [packReqInfo_short ha hn]
    obtain ⟨w1, req1, hr⟩ := @setReqInfoLoop_accepts client env w.gOptions.mrSendReceiveSegSize
      (w.withHeader client msgId x) msgs.length 0 msgs (ServiceSglRequest.withHeader {} x key)
      (fun k m hk => by
        rw [Nat.zero_add]
        exact h.setOk (by rw [List.take_of_length_le hn]; exact hk))
    have hset : setReqInfo (w.withHeader client msgId x) client msgs msgs.length
        (ServiceSglRequest.withHeader {} x key) env = (w1, ockRpcOk, req1) := by
      rw [setReqInfo, List.take_length, hseg]
      exact hr
    rw [hset]
    exact iff_of_true rfl (.inl hn)

/-- The last of several messages apart. -/
theorem totalLen_dropLast {ms : List ReqMessage} {m : ReqMessage} (h : ms.getLast? = some m) :
    totalLen ms = totalLen ms.dropLast + m.len.toNat := by
  obtain ⟨ys, rfl⟩ := List.getLast?_eq_some_iff.mp h
  simp [totalLen]

/-- **Packing accepts what fits** for exactly the requests that do not end in an empty message behind a
block that is full without it. -/
theorem pack_accepts_iff (h : Packable w.gOptions.mrSendReceiveSegSize msgs env) (client : Addr)
    (msgId : UInt16) :
    ((packReqInfo w client msgs msgId {} env).2.1 = ockRpcOk ↔
        msgs.length ≤ 3 ∨ totalLen (msgs.drop 2) ≤ w.gOptions.mrSendReceiveSegSize.toNat) ↔
      ¬ (3 < msgs.length ∧ totalLen (msgs.drop 2) = w.gOptions.mrSendReceiveSegSize.toNat ∧
        ∃ m ∈ msgs.getLast?, m.len = 0) := by
  rw [packReqInfo_status_iff h client msgId]
  by_cases hn : msgs.length ≤ 3
  · refine iff_of_true (iff_of_true (.inl hn) (.inl hn)) ?_
    rintro ⟨h3, -⟩
    omega
  · obtain ⟨m, hm⟩ : ∃ m, msgs.getLast? = some m := by
      cases hlast : msgs.getLast? with
      | none =>
        rw [List.getLast?_eq_none_iff.mp hlast] at hn
        exact absurd (Nat.zero_le 3) hn
      | some m => exact ⟨m, rfl⟩
    have hdrop : (msgs.drop 2).getLast? = some m := by
      rw [List.getLast?_drop, if_neg (by omega), hm]
    have hsum := totalLen_dropLast hdrop
    have hempty : m.len = 0 ↔ m.len.toNat = 0 := by
      rw [← UInt64.toNat_inj]
      rfl
    simp only [hm, Option.mem_some_iff, exists_eq_left', hempty]
    omega

end

/-- Five messages of the given lengths, each from a buffer of its own. -/
def fiveMessages (l1 l2 l3 l4 l5 : UInt64) : List ReqMessage :=
  [l1, l2, l3, l4, l5].map fun len => ⟨some fun _ => 3, len⟩

theorem fiveMessages_packable {l3 l4 l5 : UInt64} (h3 : l3.toNat ≤ 8) (h4 : l4.toNat ≤ 8)
    (h5 : l5.toNat ≤ 8) : Packable 8 (fiveMessages 1 1 l3 l4 l5) PackEnv.spaced where
  count_pos := by simp [fiveMessages]
  count_le := by simp [fiveMessages]
  data := by simp [fiveMessages]
  len := by
    simp only [fiveMessages, List.map_cons, List.map_nil, List.mem_cons, List.not_mem_nil, or_false]
    rintro m (rfl | rfl | rfl | rfl | rfl)
    · decide
    · decide
    · exact h3
    · exact h4
    · exact h5
  seg_pos := by decide
  seg_le := by decide
  alloc := fun j _ => ⟨100 * (j + 1), rfl, Nat.mul_ne_zero (by decide) (Nat.succ_ne_zero j)⟩
  apart := fun _ => rfl

/-- Lengths 3, 0 and 5 from the third message on. -/
theorem pack_accepts_five :
    (packReqInfo { gOptions := { mrSendReceiveSegSize := 8 } } 1 (fiveMessages 1 1 3 0 5) 7 {}
        PackEnv.spaced).2.1 = ockRpcOk ↔
      (fiveMessages 1 1 3 0 5).length ≤ 3 ∨ totalLen ((fiveMessages 1 1 3 0 5).drop 2) ≤ 8 :=
  (@pack_accepts_iff (fiveMessages 1 1 3 0 5) PackEnv.spaced
    { gOptions := { mrSendReceiveSegSize := 8 } }
    (fiveMessages_packable (by decide) (by decide) (by decide)) 1 7).mpr (by decide)

/-- Lengths 3, 5 and 0 from the third message on, in segments of 8 bytes: the sum fits, and the request is
refused. With the empty message before the one of 5 it is accepted. -/
theorem packReqInfo_full_refused :
    let w : World := { gOptions := { mrSendReceiveSegSize := 8 } }
    Packable 8 (fiveMessages 1 1 3 5 0) PackEnv.spaced ∧
    totalLen ((fiveMessages 1 1 3 5 0).drop 2) = 8 ∧
    (packReqInfo w 1 (fiveMessages 1 1 3 5 0) 7 {} PackEnv.spaced).2.1 = ockRpcErr ∧
    (packReqInfo w 1 (fiveMessages 1 1 3 0 5) 7 {} PackEnv.spaced).2.1 = ockRpcOk ∧
    ¬ ((packReqInfo w 1 (fiveMessages 1 1 3 5 0) 7 {} PackEnv.spaced).2.1 = ockRpcOk ↔
      (fiveMessages 1 1 3 5 0).length ≤ 3 ∨ totalLen ((fiveMessages 1 1 3 5 0).drop 2) ≤ 8) := by
  refine ⟨fiveMessages_packable (by decide) (by decide) (by decide), by decide, by decide, by decide, ?_⟩
  decide

end Hcom4db
