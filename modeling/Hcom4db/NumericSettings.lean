import Hcom4db.Leftovers
import Hcom4db.Numbers

/-!
# Hcom4db.NumericSettings

The three numeric settings of a create. `std::stoi` skips blanks, takes a sign and stops at the first
character that is no digit; its `int` becomes a `uint32_t`, and the heartbeat a `uint16_t` after that.

* `string2Num_asWritten_iff`: when a number that was read is the one that was written.
* `numbers_as_written_iff`: the creates whose settings are taken as written or refused.
-/

namespace Hcom4db

/-- What is given for the key is a numeral, and it denotes `n`. -/
def AsWritten (m : ConfigMap) (key : CStr) (n : Nat) : Prop :=
  ∀ value ∈ m.find key, IsNumeral value.str ∧ digitsValue value.str = n

/-- Blanks or a sign stand before the digits that are read, or something stands after them. -/
def Decorated (s : CStr) : Prop := ∃ neg ds rest, Reads s neg ds rest ∧ s ≠ ds

/-- The settings after a create are the numbers that are given. -/
structure NumbersAsWritten (m : ConfigMap) (r : ServiceOptions) : Prop where
  segSize : AsWritten m ockRpcStrPreSegmentSize r.mrSendReceiveSegSize.toNat
  segCount : AsWritten m ockRpcStrPreSegmentCount r.mrSendReceiveSegCount.toNat
  heartbeat : AsWritten m ockRpcStrHeatbeatIdle r.heartBeatIdleTime.toNat
  heartbeat_pos : ∀ value ∈ m.find ockRpcStrHeatbeatIdle, 1 ≤ digitsValue value.str

/-- No numeric setting is decorated, and the digits of the heartbeat denote a positive `uint16_t`. -/
structure PlainNumbers (m : ConfigMap) : Prop where
  segSize : ∀ value ∈ m.find ockRpcStrPreSegmentSize, ¬ Decorated value.str
  segCount : ∀ value ∈ m.find ockRpcStrPreSegmentCount, ¬ Decorated value.str
  heartbeat : ∀ value ∈ m.find ockRpcStrHeatbeatIdle, ¬ Decorated value.str
  heartbeat_range : ∀ value ∈ m.find ockRpcStrHeatbeatIdle, ∀ neg ds rest,
    Reads value.str neg ds rest → 1 ≤ digitsValue ds ∧ digitsValue ds < 65536

section

variable {m : ConfigMap} {key : CStr} {size n : UInt32}

/-- A string that is read and not decorated is a numeral; a numeral is not decorated. -/
theorem isNumeral_iff_of_reads {s ds rest : CStr} {neg : Bool} (h : Reads s neg ds rest) :
    IsNumeral s ↔ ¬ Decorated s := by
  constructor
  · rintro hs ⟨neg', ds', rest', h', hne⟩
    exact hne ((reads_of_isNumeral hs).unique h').2.1
  · intro hno
    obtain rfl : s = ds := by
      by_contra hne
      exact hno ⟨neg, ds, rest, h, hne⟩
    obtain ⟨-, -, -, -, -, hne, hds, -⟩ := h
    exact ⟨hne, hds⟩

theorem toNat_toUInt32_of_nonneg {n : Int32} {k : Nat} (h : n.toInt = k) : n.toUInt32.toNat = k := by
  have hlt := n.toInt_lt
  have hn : n.toUInt32.toNat = n.toInt.toNat := Int32.toNat_toUInt32_of_le (by
    rw [Int32.le_iff_toInt_le, h]
    exact Int.natCast_nonneg k)
  rw [hn, h, Int.toNat_natCast]

/-- The value of a numeric key, as `std::stoi` reads it. -/
theorem string2Num_reads (h : ockRpcString2Num m key size = some n) {value : CharPtr}
    (hv : m.find key = some value) : ∃ k neg ds rest, Reads value.str neg ds rest ∧
      signedValue neg ds = k.toInt ∧ n = Int32.toUInt32 k := by
  unfold ockRpcString2Num at h
  rw [hv] at h
  simp only at h
  split at h
  · rename_i k hk
    cases h
    obtain ⟨neg, ds, rest, hreads, hval⟩ := stoi_ok_iff.mp hk
    exact ⟨k, neg, ds, rest, hreads, hval, rfl⟩
  · cases h

theorem string2Num_asWritten_iff (h : ockRpcString2Num m key size = some n) :
    AsWritten m key n.toNat ↔ ∀ value ∈ m.find key, ¬ Decorated value.str := by
  unfold AsWritten
  refine forall₂_congr fun value hv => ?_
  obtain ⟨k, neg, ds, rest, hreads, hval, rfl⟩ := string2Num_reads h hv
  rw [isNumeral_iff_of_reads hreads]
  refine and_iff_left_of_imp fun hno => ?_
  -- a numeral is read in full and without a sign
  have hs := (isNumeral_iff_of_reads hreads).mpr hno
  obtain ⟨rfl, rfl, rfl⟩ := (reads_of_isNumeral hs).unique hreads
  exact (toNat_toUInt32_of_nonneg hval.symm).symm

/-- The heartbeat is cut to sixteen bits after it was read. -/
theorem heartbeat_asWritten_iff {idle : UInt32}
    (h : ockRpcString2Num m ockRpcStrHeatbeatIdle size = some idle) :
    (AsWritten m ockRpcStrHeatbeatIdle idle.toUInt16.toNat ∧
        ∀ value ∈ m.find ockRpcStrHeatbeatIdle, 1 ≤ digitsValue value.str) ↔
      ∀ value ∈ m.find ockRpcStrHeatbeatIdle, ¬ Decorated value.str ∧
        ∀ neg ds rest, Reads value.str neg ds rest → 1 ≤ digitsValue ds ∧ digitsValue ds < 65536 := by
  have hread := string2Num_asWritten_iff h
  unfold AsWritten at hread ⊢
  rw [← forall₂_and]
  refine forall₂_congr fun value hv => ?_
  obtain ⟨k, neg, ds, rest, hreads, hval, hk⟩ := string2Num_reads h hv
  have h16 : idle.toUInt16.toNat = idle.toNat % 65536 := UInt32.toNat_toUInt16 idle
  have hlt := idle.toUInt16.toNat_lt
  -- only this value is there
  have hone : (IsNumeral value.str ∧ digitsValue value.str = idle.toNat) ↔ ¬ Decorated value.str := by
    refine ⟨fun hn => (isNumeral_iff_of_reads hreads).mp hn.1, fun hno => ?_⟩
    exact hread.mpr (fun value' hv' => by cases hv.symm.trans hv'; exact hno) value hv
  rw [h16] at hlt ⊢
  constructor
  · rintro ⟨⟨hnum, hvalue⟩, hpos⟩
    refine ⟨(isNumeral_iff_of_reads hreads).mp hnum, fun neg' ds' rest' hr => ?_⟩
    obtain ⟨-, rfl, -⟩ := (reads_of_isNumeral hnum).unique hr
    exact ⟨hpos, by omega⟩
  · rintro ⟨hno, hrange⟩
    obtain ⟨hnum, hvalue⟩ := hone.mpr hno
    obtain ⟨hpos, hsmall⟩ := hrange _ _ _ (reads_of_isNumeral hnum)
    exact ⟨⟨hnum, by omega⟩, hpos⟩

theorem plainNumbers_iff : PlainNumbers m ↔
    (∀ value ∈ m.find ockRpcStrPreSegmentSize, ¬ Decorated value.str) ∧
    (∀ value ∈ m.find ockRpcStrPreSegmentCount, ¬ Decorated value.str) ∧
    ∀ value ∈ m.find ockRpcStrHeatbeatIdle, ¬ Decorated value.str ∧
      ∀ neg ds rest, Reads value.str neg ds rest → 1 ≤ digitsValue ds ∧ digitsValue ds < 65536 := by
  constructor
  · intro h
    exact ⟨h.segSize, h.segCount, fun value hv => ⟨h.heartbeat value hv, h.heartbeat_range value hv⟩⟩
  · rintro ⟨hsize, hcount, hidle⟩
    exact ⟨hsize, hcount, fun value hv => (hidle value hv).1, fun value hv => (hidle value hv).2⟩

theorem numbersAsWritten_iff {r : ServiceOptions} : NumbersAsWritten m r ↔
    AsWritten m ockRpcStrPreSegmentSize r.mrSendReceiveSegSize.toNat ∧
    AsWritten m ockRpcStrPreSegmentCount r.mrSendReceiveSegCount.toNat ∧
    AsWritten m ockRpcStrHeatbeatIdle r.heartBeatIdleTime.toNat ∧
      ∀ value ∈ m.find ockRpcStrHeatbeatIdle, 1 ≤ digitsValue value.str :=
  ⟨fun h => ⟨h.segSize, h.segCount, h.heartbeat, h.heartbeat_pos⟩,
    fun ⟨h1, h2, h3, h4⟩ => ⟨h1, h2, h3, h4⟩⟩

theorem Leftovers.Stored.asWritten_iff {configs : OckRpcCreateConfig} {ip : CStr} {o r : ServiceOptions}
    (S : Stored configs m ip o r) : NumbersAsWritten m r ↔ PlainNumbers m := by
  obtain ⟨idle, hidle, htime⟩ := S.heartbeat
  rw [numbersAsWritten_iff, plainNumbers_iff, htime, string2Num_asWritten_iff S.segSize,
    string2Num_asWritten_iff S.segCount, heartbeat_asWritten_iff hidle]

end

/-- **A create takes the numbers as they are written, or it is refused**, exactly when one of its checks
refuses it or every number it reads is plain. -/
theorem numbers_as_written_iff (w : World) (a : CreateArgs) (e : CreateEnv) :
    ((ockRpcServerCreateWithCfg w a e).2 = ockRpcOk → ∀ configs m, a.configs = some configs →
        ockRpcInitConfigMap configs = some m →
        NumbersAsWritten m (ockRpcServerCreateWithCfg w a e).1.gOptions) ↔
      (CreateAccepts a e → ∀ configs m, a.configs = some configs →
        ockRpcInitConfigMap configs = some m → PlainNumbers m) := by
  rw [serverCreate_ok_iff]
  refine forall_congr' fun haccepts => forall₂_congr fun configs m => forall₂_congr fun hconfigs hm => ?_
  obtain ⟨ip, configs', m', hg, S⟩ := Leftovers.create_stores (serverCreate_ok_iff.mpr haccepts)
  cases hg.configs_eq.symm.trans hconfigs
  cases hg.map.symm.trans hm
  exact S.asWritten_iff

/-- A create with a segment size, a segment count and a heartbeat. -/
def numberedServer (size count idle : String) : CreateArgs :=
  ⟨some (cstr "10.0.0.1"), 0, true, some
    { mask := 1
      configs := ⟨3, some fun i =>
        match i with
        | 0 => ⟨some ockRpcStrPreSegmentSize, some ⟨700, cstr size⟩⟩
        | 1 => ⟨some ockRpcStrPreSegmentCount, some ⟨710, cstr count⟩⟩
        | _ => ⟨some ockRpcStrHeatbeatIdle, some ⟨720, cstr idle⟩⟩⟩ }⟩

/-- "-1", " 64kb" and "65536" are accepted, and set 4294967295, 64 and 0. -/
theorem numbers_misread :
    (ockRpcServerCreateWithCfg {} (numberedServer "-1" " 64kb" "65536") { service := 40 }).2 = ockRpcOk ∧
    (fun o : ServiceOptions => (o.mrSendReceiveSegSize, o.mrSendReceiveSegCount, o.heartBeatIdleTime))
        (ockRpcServerCreateWithCfg {} (numberedServer "-1" " 64kb" "65536") { service := 40 }).1.gOptions =
      (4294967295, 64, 0) ∧
    ¬ ∀ w a e, (ockRpcServerCreateWithCfg w a e).2 = ockRpcOk → ∀ configs m, a.configs = some configs →
      ockRpcInitConfigMap configs = some m →
      NumbersAsWritten m (ockRpcServerCreateWithCfg w a e).1.gOptions := by
  refine ⟨rfl, by decide, ?_⟩
  intro h
  have hnum := (h {} (numberedServer "-1" " 64kb" "65536") { service := 40 } rfl _ _ rfl rfl).segSize
    ⟨700, cstr "-1"⟩ rfl
  exact absurd hnum.1 (by decide)

end Hcom4db
