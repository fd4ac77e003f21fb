import Mt7603u.Base.Segments
import Mt7603u.Proof.Builders
import Mt7603u.Rust.RegMap

/-!
# Register addresses do not alias

`physicalAddrMap` translates by a table of 24 segments (`toNat_physicalAddrMap`), and that table
overlaps nowhere (`sound_SEGMENTS`). So it moves no two registers to one place, keeps distances in a
segment and leaves what it has moved; built with overflow checks it never panics, whatever the order
of `MAC_CR_RANGES` (`physicalAddrMapChecked_eq`).

`seqGen_mapped`: every address in a register sequence is one of the table.
-/

namespace Rust

open Slice Slice.Out Word

/-! ## The table -/

/-- A row of `MAC_CR_RANGES`. -/
def rangeSegment (r : U32 × U32 × U32) : Segment := ⟨r.1.toNat, r.2.1.toNat, r.2.2.toNat⟩

/-- TOP_CFG, MCU_CFG, PDMA_CFG, PSE_CFG and WF_PHY. -/
def LOW_SEGMENTS : List Segment :=
  [⟨0x80020000, 0, 0x2000⟩, ⟨0x80000000, 0x2000, 0x2000⟩, ⟨0x50000000, 0x4000, 0x4000⟩,
   ⟨0xa0000000, 0x8000, 0x8000⟩, ⟨0x60200000, 0x10000, 0x10000⟩]

/-- WTBL and PSE Client. -/
def HIGH_SEGMENTS : List Segment := [⟨0xa5000000, 0x40000, 0x40000⟩, ⟨0x800c0000, 0xc0000, 0x100⟩]

def MAC_SEGMENTS : List Segment := MAC_CR_RANGES.map rangeSegment

/-- All segments. -/
def SEGMENTS : List Segment := LOW_SEGMENTS ++ MAC_SEGMENTS ++ HIGH_SEGMENTS

theorem sound_SEGMENTS : Segment.Sound SEGMENTS :=
  ⟨by decide +kernel, by decide +kernel, by decide +kernel⟩

theorem apart_MAC_SEGMENTS : MAC_SEGMENTS.Pairwise Segment.RangesApart := by decide +kernel

/-- Neither the range nor the image of a row reaches the end of the address space. -/
def RowFits (r : U32 × U32 × U32) : Prop :=
  r.2.1.toNat + r.2.2.toNat < 2 ^ 32 ∧ r.1.toNat + r.2.2.toNat < 2 ^ 32

instance (r : U32 × U32 × U32) : Decidable (RowFits r) := inferInstanceAs (Decidable (_ ∧ _))

theorem rowFits_MAC : ∀ r ∈ MAC_CR_RANGES, RowFits r := by
  have h : MAC_CR_RANGES.all (fun r => decide (RowFits r)) = true := by decide +kernel
  intro r hr
  exact of_decide_eq_true (List.all_eq_true.1 h r hr)

/-- The rows of the table are for addresses from 0x20000 up to 0x40000. -/
theorem bounds_MAC : ∀ s ∈ MAC_SEGMENTS, 0x20000 ≤ s.start ∧ s.start + s.len ≤ 0x40000 := by
  decide +kernel

/-! ## The mapping is the translation -/

theorem holds_rangeSegment {r : U32 × U32 × U32} {a : U32} (hr : RowFits r) :
    (rangeSegment r).Holds a.toNat ↔ r.2.1 ≤ a ∧ a < r.2.1 + r.2.2 := by
  rw [BitVec.le_def, BitVec.lt_def, BitVec.toNat_add, Nat.mod_eq_of_lt hr.1]
  rfl

theorem toNat_macCrRangeMap (a : U32) :
    (macCrRangeMap a).toNat = Segment.translate MAC_SEGMENTS a.toNat := by
  unfold macCrRangeMap
  cases hf : MAC_CR_RANGES.find? fun r => decide (r.2.1 ≤ a ∧ a < r.2.1 + r.2.2) with
  | none =>
    refine (Segment.translate_of_none fun s hs ha => ?_).symm
    obtain ⟨r, hr, rfl⟩ := List.mem_map.1 hs
    have hn := List.find?_eq_none.1 hf r hr
    exact hn (decide_eq_true ((holds_rangeSegment (rowFits_MAC r hr)).1 ha))
  | some r =>
    have hm := List.mem_of_find?_eq_some hf
    have ha := List.find?_some hf
    have hs := (holds_rangeSegment (rowFits_MAC r hm)).2 (of_decide_eq_true ha)
    have hfit := (rowFits_MAC r hm).2
    rw [Segment.translate_of_holds apart_MAC_SEGMENTS (List.mem_map_of_mem hm) hs]
    obtain ⟨base, segStart, segLen⟩ := r
    unfold Segment.Holds rangeSegment at hs
    unfold Segment.image rangeSegment
    dsimp only at hs hfit ⊢
    rw [BitVec.toNat_add, BitVec.toNat_sub_of_le (BitVec.le_def.2 hs.1),
      Nat.mod_eq_of_lt (by omega)]

theorem translate_segment {s : Segment} {a : Nat} (hs : s ∈ SEGMENTS) (ha : s.Holds a) :
    Segment.translate SEGMENTS a = s.base + (a - s.start) :=
  Segment.translate_of_holds sound_SEGMENTS.ranges hs ha

theorem bounds_LOW : ∀ s ∈ LOW_SEGMENTS, s.start + s.len ≤ 0x20000 := by decide

theorem bounds_HIGH : ∀ s ∈ HIGH_SEGMENTS, 0x40000 ≤ s.start := by decide

theorem translate_mac {a : Nat} (h1 : 0x20000 ≤ a) (h2 : a < 0x40000) :
    Segment.translate SEGMENTS a = Segment.translate MAC_SEGMENTS a := by
  have hlow : ∀ s ∈ LOW_SEGMENTS, ¬s.Holds a := by
    intro s hs ha
    have hb := bounds_LOW s hs
    unfold Segment.Holds at ha
    omega
  have hhigh : ∀ s ∈ HIGH_SEGMENTS, ¬s.Holds a := by
    intro s hs ha
    have hb := bounds_HIGH s hs
    unfold Segment.Holds at ha
    omega
  rw [SEGMENTS, Segment.translate_append_left hhigh, Segment.translate_append_right hlow]

theorem translate_above {a : Nat} (h : 0x80000 ≤ a) (hc : ¬(0xc0000 ≤ a ∧ a < 0xc0100)) :
    Segment.translate SEGMENTS a = a := by
  refine Segment.translate_of_none fun s hs ha => ?_
  unfold Segment.Holds at ha
  rcases List.mem_append.1 hs with hs | hs
  · rcases List.mem_append.1 hs with hs | hs
    · have hb := bounds_LOW s hs
      omega
    · have hb := bounds_MAC s hs
      omega
  · simp only [HIGH_SEGMENTS, List.mem_cons, List.not_mem_nil, or_false] at hs
    rcases hs with rfl | rfl
    · exact absurd ha.2 (by simp only; omega)
    · exact hc ha

/-- A segment outside the table of ranges. -/
theorem moveChecked_spec {base a start : U32} (len : Nat)
    (hs : ⟨base.toNat, start.toNat, len⟩ ∈ SEGMENTS) (h : start.toNat ≤ a.toNat)
    (h' : a.toNat < start.toNat + len) (hlt : base.toNat + a.toNat < 2 ^ 32) :
    moveChecked base a start = .ok (base + a - start) ∧
      (base + a - start).toNat = Segment.translate SEGMENTS a.toNat := by
  have hadd : (base + a).toNat = base.toNat + a.toNat := by
    rw [BitVec.toNat_add, Nat.mod_eq_of_lt hlt]
  have hle : start ≤ base + a := by
    rw [BitVec.le_def, hadd]
    omega
  constructor
  · rw [moveChecked, addChecked, if_pos hlt, ok_bind, subChecked, if_pos hle]
  · rw [translate_segment hs ⟨h, h'⟩, BitVec.toNat_sub_of_le hle, hadd]
    dsimp only
    omega

theorem addChecked_spec {a : U32} (h : a.toNat < 0x2000) :
    addChecked 0x80020000 a = .ok (0x80020000 + a) ∧
      (0x80020000 + a : U32).toNat = Segment.translate SEGMENTS a.toNat := by
  have hlt : (0x80020000 : U32).toNat + a.toNat < 2 ^ 32 := by
    rw [show (0x80020000 : U32).toNat = 0x80020000 from rfl]
    omega
  refine ⟨by rw [addChecked, if_pos hlt], ?_⟩
  rw [translate_segment (s := ⟨0x80020000, 0, 0x2000⟩) (by decide) ⟨Nat.zero_le _, by omega⟩,
    BitVec.toNat_add, Nat.mod_eq_of_lt hlt]
  rfl

theorem macCrRangeMapChecked_spec {ranges : List (U32 × U32 × U32)} (hr : ∀ r ∈ ranges, RowFits r)
    (a : U32) : ∃ v, macCrRangeMapChecked a ranges = .ok v ∧
      v.toNat = Segment.translate (ranges.map rangeSegment) a.toNat := by
  induction ranges with
  | nil => exact ⟨a, rfl, rfl⟩
  | cons r ranges ih =>
    have hfit := hr r (List.mem_cons_self ..)
    have ih := ih fun r' hr' => hr r' (List.mem_cons_of_mem _ hr')
    have hholds := holds_rangeSegment (a := a) hfit
    obtain ⟨base, segStart, segLen⟩ := r
    dsimp only at hholds
    unfold RowFits at hfit
    dsimp only at hfit
    rw [List.map_cons, Segment.translate_cons, macCrRangeMapChecked, addChecked, if_pos hfit.1]
    by_cases h1 : segStart ≤ a
    · rw [if_pos h1, ok_bind]
      by_cases h2 : a < segStart + segLen
      · have hseg := hholds.2 ⟨h1, h2⟩
        rw [if_pos h2, if_pos hseg, subChecked, if_pos h1, ok_bind]
        unfold Segment.Holds rangeSegment at hseg
        dsimp only at hseg
        have hsub := BitVec.toNat_sub_of_le h1
        have hlt : base.toNat + (a - segStart).toNat < 2 ^ 32 := by omega
        refine ⟨base + (a - segStart), by rw [addChecked, if_pos hlt], ?_⟩
        rw [BitVec.toNat_add, Nat.mod_eq_of_lt hlt, hsub]
        rfl
      · rw [if_neg h2, if_neg (fun h => h2 (hholds.1 h).2)]
        exact ih
    · rw [if_neg h1, if_neg (fun h => h1 (hholds.1 h).1)]
      exact ih

/-- **The mapping translates by the table**, in any order of the ranges and without overflow. -/
theorem physicalAddrMap_spec {ranges : List (U32 × U32 × U32)} (hp : ranges.Perm MAC_CR_RANGES)
    (a : U32) : physicalAddrMapChecked ranges a = .ok (physicalAddrMap a) ∧
      (physicalAddrMap a).toNat = Segment.translate SEGMENTS a.toNat := by
  have hlt : ∀ n : U32, ¬a < n → n.toNat ≤ a.toNat := fun n h => BitVec.not_lt.1 h
  unfold physicalAddrMapChecked physicalAddrMap
  by_cases h0 : a < 0x2000
  · rw [if_pos h0, if_pos h0]
    exact addChecked_spec h0
  rw [if_neg h0, if_neg h0]
  by_cases h1 : a < 0x4000
  · rw [if_pos h1, if_pos h1]
    exact moveChecked_spec 0x2000 (by decide) (hlt _ h0) h1 (by bv_omega)
  rw [if_neg h1, if_neg h1]
  by_cases h2 : a < 0x8000
  · rw [if_pos h2, if_pos h2]
    exact moveChecked_spec 0x4000 (by decide) (hlt _ h1) h2 (by bv_omega)
  rw [if_neg h2, if_neg h2]
  by_cases h3 : a < 0x10000
  · rw [if_pos h3, if_pos h3]
    exact moveChecked_spec 0x8000 (by decide) (hlt _ h2) h3 (by bv_omega)
  rw [if_neg h3, if_neg h3]
  by_cases h4 : a < 0x20000
  · rw [if_pos h4, if_pos h4]
    exact moveChecked_spec 0x10000 (by decide) (hlt _ h3) h4 (by bv_omega)
  rw [if_neg h4, if_neg h4]
  by_cases h5 : a < 0x40000
  · rw [if_pos h5, if_pos h5, translate_mac (hlt _ h4) h5]
    have hfit : ∀ r ∈ ranges, RowFits r := fun r hr => rowFits_MAC r (hp.mem_iff.1 hr)
    obtain ⟨v, hv, hn⟩ := macCrRangeMapChecked_spec hfit a
    have hperm := Segment.translate_perm apart_MAC_SEGMENTS (hp.map rangeSegment) a.toNat
    have he : v = macCrRangeMap a :=
      BitVec.eq_of_toNat_eq (by rw [hn, toNat_macCrRangeMap]; exact hperm)
    rw [hv, he]
    exact ⟨rfl, toNat_macCrRangeMap a⟩
  rw [if_neg h5, if_neg h5]
  by_cases h6 : a < 0x80000
  · rw [if_pos h6, if_pos h6]
    exact moveChecked_spec 0x40000 (by decide) (hlt _ h5) h6 (by bv_omega)
  rw [if_neg h6, if_neg h6]
  by_cases h7 : 0xc0000 ≤ a ∧ a < 0xc0100
  · rw [if_pos h7, if_pos h7]
    exact moveChecked_spec 0x100 (by decide) h7.1 h7.2 (by bv_omega)
  · rw [if_neg h7, if_neg h7, translate_above (hlt _ h6) h7]
    exact ⟨rfl, rfl⟩

theorem toNat_physicalAddrMap (a : U32) :
    (physicalAddrMap a).toNat = Segment.translate SEGMENTS a.toNat :=
  (physicalAddrMap_spec (.refl _) a).2

/-! ## Mapped addresses -/

/-- The addresses that have a place in the device. -/
def Mapped (a : U32) : Prop :=
  a < 0x20000 ∨ (∃ r ∈ MAC_CR_RANGES, r.2.1 ≤ a ∧ a < r.2.1 + r.2.2) ∨
    (0x40000 ≤ a ∧ a < 0x80000) ∨ (0xc0000 ≤ a ∧ a < 0xc0100)

instance (a : U32) : Decidable (Mapped a) := inferInstanceAs (Decidable (_ ∨ _))

theorem mapped_iff {a : U32} : Mapped a ↔ ∃ s ∈ SEGMENTS, s.Holds a.toNat := by
  constructor
  · rintro (h | ⟨r, hr, ha⟩ | h | h)
    · have ha : a.toNat < 0x20000 := h
      have hlow : ∃ s ∈ LOW_SEGMENTS, s.Holds a.toNat := by
        simp only [LOW_SEGMENTS, Segment.Holds, List.mem_cons, List.not_mem_nil, or_false,
          exists_eq_or_imp, exists_eq_left]
        omega
      obtain ⟨s, hs, ha⟩ := hlow
      exact ⟨s, List.mem_append_left _ (List.mem_append_left _ hs), ha⟩
    · refine ⟨rangeSegment r, ?_, (holds_rangeSegment (rowFits_MAC r hr)).2 ha⟩
      exact List.mem_append_left _ (List.mem_append_right _ (List.mem_map_of_mem hr))
    · exact ⟨⟨0xa5000000, 0x40000, 0x40000⟩, by decide, h⟩
    · exact ⟨⟨0x800c0000, 0xc0000, 0x100⟩, by decide, h⟩
  · rintro ⟨s, hs, ha⟩
    rcases List.mem_append.1 hs with hs | hs
    · rcases List.mem_append.1 hs with hs | hs
      · have hb := bounds_LOW s hs
        refine .inl (BitVec.lt_def.2 ?_)
        exact Nat.lt_of_lt_of_le ha.2 hb
      · obtain ⟨r, hr, rfl⟩ := List.mem_map.1 hs
        exact .inr (.inl ⟨r, hr, (holds_rangeSegment (rowFits_MAC r hr)).1 ha⟩)
    · simp only [HIGH_SEGMENTS, List.mem_cons, List.not_mem_nil, or_false] at hs
      rcases hs with rfl | rfl
      · exact .inr (.inr (.inl ha))
      · exact .inr (.inr (.inr ha))

theorem physicalAddrMap_mapped_inj {a b : U32} (ha : Mapped a) (hb : Mapped b)
    (h : physicalAddrMap a = physicalAddrMap b) : a = b := by
  obtain ⟨s, hs, ha⟩ := mapped_iff.1 ha
  obtain ⟨t, ht, hb⟩ := mapped_iff.1 hb
  have he := congrArg BitVec.toNat h
  rw [toNat_physicalAddrMap, toNat_physicalAddrMap] at he
  exact BitVec.eq_of_toNat_eq (Segment.translate_inj sound_SEGMENTS hs ht ha hb he)

/-! ## The register sequences -/

/-- The addresses of a sequence decide. -/
theorem mapped_of_addrs {seq : List RegWriteOp} (addrs : List U32)
    (h : seq.map RegWriteOp.addr = addrs) (ha : addrs.all (fun a => decide (Mapped a)) = true) :
    ∀ op ∈ seq, Mapped op.addr := by
  intro op hop
  have hm : op.addr ∈ addrs := h ▸ List.mem_map_of_mem hop
  exact of_decide_eq_true (List.all_eq_true.1 ha _ hm)

theorem mapped_wtbl2Dw15 (wcid : U8) : Mapped (wtbl2Dw15 wcid) := by
  have hw : wcid.toNat < 256 := wcid.isLt
  refine .inr (.inr (.inl ?_))
  unfold wtbl2Dw15
  bv_omega

/-- **Every builder stays in the map**, on every argument. -/
theorem seqGen_mapped (g : SeqGen) (buf ops : List RegWriteOp) (h : callOn g.run buf = .ok ops) :
    ∀ op ∈ ops, Mapped op.addr := by
  cases g with
  | macInit =>
    rw [callOn_sized_ok fills_buildMacInitSequence rfl h]
    decide +kernel
  | ownMac mac =>
    rw [callOn_sized_ok (fills_buildOwnMacSequence mac) rfl h]
    exact mapped_of_addrs [RMAC_OMA0R0, RMAC_OMA0R1] rfl (by decide +kernel)
  | channel ch bw =>
    change callOn (buildChannelSequence ch bw) buf = .ok ops at h
    unfold buildChannelSequence at h
    split at h
    · cases h
    · rw [callOn_sized_ok fills_copySeq rfl h]
      decide +kernel
  | rxFilter promisc fcsFail =>
    rw [callOn_sized_ok (fills_buildRxFilterSequence promisc fcsFail) rfl h]
    exact mapped_of_addrs [RMAC_RFCR, RMAC_RFCR1] rfl (by decide +kernel)
  | baSession wcid tid baSize enable prevDw15 =>
    change callOn (buildBaSessionSequence wcid tid baSize enable prevDw15) buf = .ok ops at h
    unfold buildBaSessionSequence at h
    split at h
    · cases h
    · have hseq := callOn_sized_ok (n := 1) (fills_setSeq rfl) rfl h
      intro op hop
      rw [hseq] at hop
      rw [List.mem_singleton.1 hop]
      exact mapped_wtbl2Dw15 wcid
  | apBssSync beaconPeriod enable =>
    rw [callOn_sized_ok (fills_buildApBssSyncSequence beaconPeriod enable) rfl h]
    cases enable with
    | true =>
      exact mapped_of_addrs
        [LPON_T0TPCR, LPON_MPTCR0, LPON_PISR, LPON_T0CR, ARB_SCR, ARB_BCNQCR0] rfl
        (by decide +kernel)
    | false =>
      exact mapped_of_addrs [LPON_T0TPCR, LPON_MPTCR0, ARB_SCR, ARB_BCNQCR1] rfl (by decide +kernel)
  | wtblSta bssid =>
    rw [callOn_sized_ok (fills_buildWtblStaSequence bssid) rfl h]
    exact mapped_of_addrs ((wtblStaSeq ⟨0, 0, 0, 0, 0, 0⟩).map RegWriteOp.addr) rfl
      (by decide +kernel)

/-- **Address mapping never aliases two registers.** Mapped addresses are those of the 24 segments
and go to different places; in a segment distances stay; the order of `MAC_CR_RANGES` does not
matter and nothing overflows; mapping twice is mapping once; every builder writes mapped addresses
only. -/
theorem address_map_sound :
    (∀ a b : U32, Mapped a → Mapped b → a ≠ b → physicalAddrMap a ≠ physicalAddrMap b) ∧
    (∀ a : U32, Mapped a ↔ ∃ s ∈ SEGMENTS, s.Holds a.toNat) ∧
    (∀ s ∈ SEGMENTS, ∀ a b : U32, s.Holds a.toNat → s.Holds b.toNat →
      ((physicalAddrMap a).toNat : Int) - (physicalAddrMap b).toNat = (a.toNat : Int) - b.toNat) ∧
    (∀ ranges : List (U32 × U32 × U32), ranges.Perm MAC_CR_RANGES →
      ∀ a : U32, physicalAddrMapChecked ranges a = .ok (physicalAddrMap a)) ∧
    (∀ a : U32, physicalAddrMap (physicalAddrMap a) = physicalAddrMap a) ∧
    ∀ (g : SeqGen) (buf ops : List RegWriteOp), callOn g.run buf = .ok ops →
      ∀ op ∈ ops, Mapped op.addr := by
  refine ⟨fun a b ha hb hne h => hne (physicalAddrMap_mapped_inj ha hb h), fun a => mapped_iff,
    fun s hs a b ha hb => ?_, fun ranges hp a => (physicalAddrMap_spec hp a).1, fun a => ?_,
    seqGen_mapped⟩
  · rw [toNat_physicalAddrMap, toNat_physicalAddrMap]
    exact Segment.translate_dist sound_SEGMENTS.ranges hs ha hb
  · apply BitVec.eq_of_toNat_eq
    rw [toNat_physicalAddrMap, toNat_physicalAddrMap]
    exact Segment.translate_idem sound_SEGMENTS a.toNat

end Rust
