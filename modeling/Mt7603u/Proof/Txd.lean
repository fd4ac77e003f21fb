import Mt7603u.Base.Packed
import Mt7603u.Proof.Builders

/-!
# The TX descriptor by its bit layout

Each word of the descriptor that `buildTxwi` packs, decoded by the layout of the long TXD: the
named fields have the parameters' values and every other bit is zero.
-/

namespace Rust

open Slice Word Packed

/-- Flags are 0 or 1 and the other parameters fit their fields. -/
structure TxParams.Fits (p : TxParams) : Prop where
  hdrLen : p.hdrLen ≤ 62
  frmType : p.frmType ≤ 3
  subType : p.subType ≤ 15
  noAck : p.noAck ≤ 1
  isBm : p.isBm ≤ 1
  bw : p.bw ≤ 1
  protectFrm : p.protectFrm ≤ 1
  /-- A short guard interval is asked for at HT rates only. -/
  gi : p.preamble &&& 0x2 ≠ 0 → isHt (p.rateMode.setWidth 32)

/-! ## Values of fields -/

theorem toNat_mask1 : ∀ x : U8, x ≤ 1 → (x.setWidth 32 &&& 0x1 : U32).toNat = x.toNat := by
  decide +kernel

theorem toNat_mask2 : ∀ x : U8, x ≤ 3 → (x.setWidth 32 &&& 0x03 : U32).toNat = x.toNat := by
  decide +kernel

theorem toNat_mask4 : ∀ x : U8, (x.setWidth 32 &&& 0x0f : U32).toNat = x.toNat % 16 := by
  decide +kernel

theorem toNat_mask8 : ∀ x : U8, (x.setWidth 32 &&& 0xff : U32).toNat = x.toNat := by
  decide +kernel

/-- The header padding, as the descriptor has it. -/
theorem toNat_hdrPad : ∀ h : U8, ((TMI_HDR_PAD_MODE_TAIL <<< 2 |||
    (hdrPadLen (h.setWidth 32) &&& 0x03)) &&& 0x07 : U32).toNat = (4 - h.toNat % 4) % 4 := by
  decide +kernel

theorem toNat_hdrInfo : ∀ h : U8, h ≤ 62 →
    ((h.setWidth 32 >>> 1) &&& 0x1f : U32).toNat = h.toNat / 2 := by
  decide +kernel

theorem toNat_bw : ∀ bw : U8, bw ≤ 1 →
    (bit 2 ||| (bw.setWidth 32 &&& 0x3) : U32).toNat = 4 + bw.toNat := by
  decide +kernel

/-! ## Words -/

section
variable {p : TxParams}

/-- A length and a queue. -/
theorem decodes_lenQueue (n : U16) (queue : U8) :
    Decodes (n.setWidth 32 ||| (queue.setWidth 32 &&& 0x0f) <<< 27)
      [⟨0, 16, n.toNat⟩, ⟨27, 4, queue.toNat % 16⟩] := by
  have hn : (n.setWidth 32 : U32).toNat = n.toNat := by
    rw [BitVec.toNat_setWidth, Nat.mod_eq_of_lt (by omega)]
  have hq := toNat_mask4 queue
  have h := (decodes_low (n.setWidth 32) 16 (by omega) (by omega)).or
    (queue.setWidth 32 &&& 0x0f) 27 4 (by simp) (by omega) (by omega)
  rw [hn, hq] at h
  exact h

theorem txwiDw1_decodes (hf : p.Fits) :
    Decodes (txwiDw1 p)
      [⟨0, 8, p.pid.toNat⟩, ⟨8, 5, p.hdrLen.toNat / 2⟩, ⟨13, 2, 2⟩, ⟨15, 1, 1⟩,
       ⟨16, 3, (4 - p.hdrLen.toNat % 4) % 4⟩, ⟨19, 1, p.noAck.toNat⟩,
       ⟨23, 1, p.protectFrm.toNat⟩] := by
  have h0 := toNat_mask8 p.pid
  have h1 := toNat_hdrInfo p.hdrLen hf.hdrLen
  have h4 := toNat_hdrPad p.hdrLen
  have h5 := toNat_mask1 p.noAck hf.noAck
  have h6 := toNat_mask1 p.protectFrm hf.protectFrm
  have hn : p.noAck.toNat ≤ 1 := hf.noAck
  have hp : p.protectFrm.toNat ≤ 1 := hf.protectFrm
  have hl : p.hdrLen.toNat ≤ 62 := hf.hdrLen
  have h := ((((((decodes_low (p.pid.setWidth 32 &&& 0xff) 8 (by omega) (by omega)).or
    ((p.hdrLen.setWidth 32 >>> 1) &&& 0x1f) 8 5 (by simp) (by omega)
      (by omega)).or
    TMI_HDR_FT_NOR_80211 13 2 (by simp) (by decide) (by omega)).or
    TMI_FT_LONG 15 1 (by simp) (by decide) (by omega)).or
    ((TMI_HDR_PAD_MODE_TAIL <<< 2 ||| (hdrPadLen (p.hdrLen.setWidth 32) &&& 0x03)) &&& 0x07)
      16 3 (by simp) (by omega) (by omega)).or
    (p.noAck.setWidth 32 &&& 0x1) 19 1 (by simp) (by omega) (by omega)).or
    (p.protectFrm.setWidth 32 &&& 0x1) 23 1 (by simp) (by omega) (by omega)
  rw [h0, h1, h4, h5, h6] at h
  exact h

theorem txwiDw0_eq (h : p.pktLen.toNat + (4 - p.hdrLen.toNat % 4) % 4 + 32 < 2 ^ 16) :
    txwiDw0 p =
      (BitVec.ofNat 16 (p.pktLen.toNat + (4 - p.hdrLen.toNat % 4) % 4 + 32)).setWidth 32 |||
        (p.queue.setWidth 32 &&& 0x0f) <<< 27 := by
  have hpad : ∀ h : U8, (hdrPadLen (h.setWidth 32)).toNat = (4 - h.toNat % 4) % 4 := by
    decide +kernel
  have hl : (p.pktLen.setWidth 32 + hdrPadLen (p.hdrLen.setWidth 32) +
        BitVec.ofNat 32 TXWI_SIZE : U32) =
      (BitVec.ofNat 16 (p.pktLen.toNat + (4 - p.hdrLen.toNat % 4) % 4 + 32)).setWidth 32 := by
    apply BitVec.eq_of_toNat_eq
    simp only [BitVec.toNat_add, BitVec.toNat_setWidth, BitVec.toNat_ofNat, hpad, TXWI_SIZE]
    omega
  have h31 : (P_IDX_LMAC <<< 31 : U32) = 0#32 := rfl
  rw [txwiDw0, hl, h31, BitVec.or_zero]

theorem txwiDw2_decodes (hf : p.Fits) :
    Decodes (txwiDw2 p)
      [⟨0, 4, p.subType.toNat⟩, ⟨4, 2, p.frmType.toNat⟩, ⟨10, 1, p.isBm.toNat⟩, ⟨29, 1, 1⟩,
       ⟨31, 1, 1⟩] := by
  have hs : p.subType.toNat ≤ 15 := hf.subType
  have ht : p.frmType.toNat ≤ 3 := hf.frmType
  have hb : p.isBm.toNat ≤ 1 := hf.isBm
  have h0 := toNat_mask4 p.subType
  rw [Nat.mod_eq_of_lt (by omega)] at h0
  have h1 := toNat_mask2 p.frmType hf.frmType
  have h2 := toNat_mask1 p.isBm hf.isBm
  have h := ((((decodes_low (p.subType.setWidth 32 &&& 0x0f) 4 (by omega)
      (by omega)).or
    (p.frmType.setWidth 32 &&& 0x03) 4 2 (by simp) (by omega) (by omega)).or
    (p.isBm.setWidth 32 &&& 0x1) 10 1 (by simp) (by omega) (by omega)).or
    1 29 1 (by simp) (by decide) (by omega)).or
    1 31 1 (by simp) (by decide) (by omega)
  rw [h0, h1, h2] at h
  exact h

theorem txwiDw6_decodes (hf : p.Fits) (rate : U32) :
    Decodes (txwiDw6 p rate)
      [⟨8, 3, 4 + p.bw.toNat⟩, ⟨11, 1, 1⟩, ⟨18, 12, (rate &&& 0x0fff).toNat⟩,
       ⟨31, 1, ((p.preamble >>> 1) &&& 1).toNat⟩] := by
  have hb : p.bw.toNat ≤ 1 := hf.bw
  have h0 := toNat_bw p.bw hf.bw
  have hr : (rate &&& 0x0fff).toNat < 2 ^ 12 := by
    rw [BitVec.toNat_and]
    exact Nat.lt_of_le_of_lt Nat.and_le_right (by decide)
  have hbit : ∀ x : U8,
      (if x &&& 0x2 ≠ 0 then (1 : U32) else 0).toNat = ((x >>> 1) &&& 1).toNat := by
    decide +kernel
  have hgi : (txwiGi p).toNat = ((p.preamble >>> 1) &&& 1).toNat := by
    rw [← hbit]
    unfold txwiGi
    by_cases h2 : p.preamble &&& 0x2 ≠ 0
    · rw [if_pos ⟨hf.gi h2, h2⟩, if_pos h2]
    · rw [if_neg fun h => h2 h.2, if_neg h2]
  have hg1 : ((p.preamble >>> 1) &&& 1).toNat < 2 := by
    rw [BitVec.toNat_and]
    exact Nat.lt_of_le_of_lt Nat.and_le_right (by decide)
  have h := (((decodes_first (bit 2 ||| (p.bw.setWidth 32 &&& 0x3)) 8 3
      (by omega) (by omega)).or
    1 11 1 (by simp) (by decide) (by omega)).or
    (rate &&& 0x0fff) 18 12 (by simp) hr (by omega)).or
    (txwiGi p) 31 1 (by simp) (by omega) (by omega)
  rw [h0, hgi] at h
  exact h

theorem txwiDw3_decodes : Decodes txwiDw3 [⟨11, 5, 15⟩] :=
  decodes_first (MT_TX_SHORT_RETRY &&& 0x1f) 11 5 (by decide) (by omega)

theorem txwiDw5_decodes : Decodes txwiDw5 [⟨12, 1, 1⟩] := by
  have h : txwiDw5 = TMI_BSN_CFG_BY_SW <<< 12 := by decide
  rw [h]
  exact decodes_first TMI_BSN_CFG_BY_SW 12 1 (by decide) (by omega)

/-- The fifth word with a status report asked for. -/
theorem txwiDw5_status_decodes : Decodes 0x1442 [⟨0, 8, 0x42⟩, ⟨10, 1, 1⟩, ⟨12, 1, 1⟩] := by
  have h := ((decodes_low 0x42 8 (by decide) (by omega)).or
    1 10 1 (by simp) (by decide) (by omega)).or
    1 12 1 (by simp) (by decide) (by omega)
  exact h

end

/-! ## The descriptor in a buffer -/

/-- The little-endian word `i` of a buffer. -/
def wordAt (l : List U8) (i : Nat) : U32 :=
  le32 (l.getD (4 * i) 0) (l.getD (4 * i + 1) 0) (l.getD (4 * i + 2) 0) (l.getD (4 * i + 3) 0)

/-- The first 32 bytes of a buffer, read as a long TXD: what each word holds, and nothing else. -/
structure TxdHas (l : List U8) (byteCnt : Nat) (p : TxParams) (rate : U32) : Prop where
  /-- `tx_byte_cnt`, `q_idx`. -/
  dw0 : Decodes (wordAt l 0) [⟨0, 16, byteCnt⟩, ⟨27, 4, p.queue.toNat % 16⟩]
  /-- `wlan_idx`, `hdr_info`, `hdr_format`, `ft`, `hdr_pad`, `no_ack`, `protect_frm`. -/
  dw1 : Decodes (wordAt l 1)
    [⟨0, 8, p.pid.toNat⟩, ⟨8, 5, p.hdrLen.toNat / 2⟩, ⟨13, 2, 2⟩, ⟨15, 1, 1⟩,
     ⟨16, 3, (4 - p.hdrLen.toNat % 4) % 4⟩, ⟨19, 1, p.noAck.toNat⟩, ⟨23, 1, p.protectFrm.toNat⟩]
  /-- `sub_type`, `frm_type`, `bc_mc_pkt`, `ba_disable`, `fix_rate`. -/
  dw2 : Decodes (wordAt l 2)
    [⟨0, 4, p.subType.toNat⟩, ⟨4, 2, p.frmType.toNat⟩, ⟨10, 1, p.isBm.toNat⟩, ⟨29, 1, 1⟩,
     ⟨31, 1, 1⟩]
  /-- `remain_tx_cnt`. -/
  dw3 : Decodes (wordAt l 3) [⟨11, 5, 15⟩]
  dw4 : Decodes (wordAt l 4) []
  /-- `bar_sn_ctrl`; for a data frame also `pid` and `tx_status_2_host`. -/
  dw5 : Decodes (wordAt l 5)
    (if p.frmType = 2 then [⟨0, 8, 0x42⟩, ⟨10, 1, 1⟩, ⟨12, 1, 1⟩] else [⟨12, 1, 1⟩])
  /-- `bw`, `spe_en`, `tx_rate`, `gi`. -/
  dw6 : Decodes (wordAt l 6)
    [⟨8, 3, 4 + p.bw.toNat⟩, ⟨11, 1, 1⟩, ⟨18, 12, (rate &&& 0x0fff).toNat⟩,
     ⟨31, 1, ((p.preamble >>> 1) &&& 1).toNat⟩]
  dw7 : Decodes (wordAt l 7) []

/-- Eight words as bytes. -/
def words8 (w0 w1 w2 w3 w4 w5 w6 w7 : U32) : List U8 :=
  toLe32 w0 ++ toLe32 w1 ++ toLe32 w2 ++ toLe32 w3 ++ toLe32 w4 ++ toLe32 w5 ++ toLe32 w6 ++
    toLe32 w7

/-- A descriptor with its first and sixth word patched. -/
def patchedTxd (p : TxParams) (rate : U32) (n : U16) : List U8 :=
  words8 (n.setWidth 32 ||| (p.queue.setWidth 32 &&& 0x0f) <<< 27) (txwiDw1 p) (txwiDw2 p) txwiDw3 0
    (if p.frmType = 2 then 0x1442 else txwiDw5) (txwiDw6 p rate) 0

theorem length_patchedTxd (p : TxParams) (rate : U32) (n : U16) :
    (patchedTxd p rate n).length = 32 := rfl

theorem wordAt_zero (w : U32) (l : List U8) : wordAt (toLe32 w ++ l) 0 = w := le32_toLe32 w

theorem wordAt_succ (w : U32) (l : List U8) (i : Nat) :
    wordAt (toLe32 w ++ l) (i + 1) = wordAt l i := by
  have hd : ∀ j, (toLe32 w ++ l).getD (j + 4) 0 = l.getD j 0 := fun _ => rfl
  have hi : 4 * (i + 1) = 4 * i + 4 := by omega
  unfold wordAt
  rw [hi, hd, ← hd (4 * i + 1), ← hd (4 * i + 2), ← hd (4 * i + 3)]

theorem wordAt_words8 (w0 w1 w2 w3 w4 w5 w6 w7 : U32) (rest : List U8) :
    let l := words8 w0 w1 w2 w3 w4 w5 w6 w7 ++ rest
    wordAt l 0 = w0 ∧ wordAt l 1 = w1 ∧ wordAt l 2 = w2 ∧ wordAt l 3 = w3 ∧ wordAt l 4 = w4 ∧
      wordAt l 5 = w5 ∧ wordAt l 6 = w6 ∧ wordAt l 7 = w7 := by
  simp only [words8, List.append_assoc, wordAt_succ, wordAt_zero, and_self]

/-- **The patched descriptor decodes to the parameters.** -/
theorem txdHas_patchedTxd {p : TxParams} (hf : p.Fits) (rate : U32) (n : U16) (rest : List U8) :
    TxdHas (patchedTxd p rate n ++ rest) n.toNat p rate := by
  obtain ⟨h0, h1, h2, h3, h4, h5, h6, h7⟩ := wordAt_words8
    (n.setWidth 32 ||| (p.queue.setWidth 32 &&& 0x0f) <<< 27) (txwiDw1 p) (txwiDw2 p) txwiDw3 0
    (if p.frmType = 2 then 0x1442 else txwiDw5) (txwiDw6 p rate) 0 rest
  unfold patchedTxd
  constructor
  · rw [h0]
    exact decodes_lenQueue n p.queue
  · rw [h1]
    exact txwiDw1_decodes hf
  · rw [h2]
    exact txwiDw2_decodes hf
  · rw [h3]
    exact txwiDw3_decodes
  · rw [h4]
    exact decodes_zero
  · rw [h5]
    split
    · exact txwiDw5_status_decodes
    · exact txwiDw5_decodes
  · rw [h6]
    exact txwiDw6_decodes hf rate
  · rw [h7]
    exact decodes_zero

/-- The length field is the low half of the first word. -/
theorem overwrite_len (L n : U16) (q w1 w2 w3 w4 w5 w6 w7 : U32) :
    overwrite 0 (toLe16 L) (words8 (n.setWidth 32 ||| q <<< 27) w1 w2 w3 w4 w5 w6 w7) =
      words8 (L.setWidth 32 ||| q <<< 27) w1 w2 w3 w4 w5 w6 w7 := by
  have hw : ∀ m : U16, toLe32 (m.setWidth 32 ||| q <<< 27) =
      toLe16 m ++ [(q <<< 27).extractLsb' 16 8, (q <<< 27).extractLsb' 24 8] := by
    intro m
    simp only [toLe32, toLe16, List.cons_append, List.nil_append, List.cons.injEq, and_true]
    refine ⟨?_, ?_, ?_, ?_⟩ <;>
    · apply BitVec.eq_of_getLsbD_eq
      intro i hi
      simp only [BitVec.getLsbD_extractLsb', BitVec.getLsbD_or, BitVec.getLsbD_shiftLeft,
        BitVec.getLsbD_setWidth]
      interval_cases i <;> simp
  unfold words8
  rw [hw, hw]
  rfl

end Rust
