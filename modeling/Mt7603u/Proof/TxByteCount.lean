import Mt7603u.Proof.TxFrame

/-!
# The length in the descriptor

`build_txwi` refuses a frame whose length and the descriptor do not fit 16 bits, but what it stores
also counts the header padding, and off the management path the driver rounds it up once more. So
the last lengths below the limit wrap: `txByteCnt_exact_iff` says which.
-/

namespace Driver

open Slice Skb Word Packed Rust

/-! ## What the driver stores -/

section
variable {k : Kernel} {skb skb' : SkBuff U8}

theorem padHeader_len {h pad : Nat} (hp : padHeader k skb h pad = .ok (some skb')) :
    skb'.len = skb.len + pad := by
  unfold padHeader at hp
  split at hp
  · cases he : expandTail k skb pad with
    | none =>
      rw [he] at hp
      cases hp
    | some skb₁ =>
      have hd := ((expandTail_spec k skb pad).1 skb₁ he).1
      rw [he] at hp
      dsimp only at hp
      obtain ⟨skb₂, h2, hp⟩ := bind_ok hp
      obtain ⟨skb₃, h3, hp⟩ := bind_ok hp
      obtain ⟨skb₄, h4, hp⟩ := bind_ok hp
      obtain rfl := Option.some.inj (Except.ok.inj hp)
      rw [SkBuff.store_len h4, SkBuff.move_len h3, SkBuff.put_len h2, SkBuff.len, hd, SkBuff.len]
  · have hz : pad = 0 := by omega
    obtain rfl := Option.some.inj (Except.ok.inj hp)
    rw [hz, Nat.add_zero]

end

/-- What the call of `build_txwi` gives. -/
theorem callOn_buildTxwi {p : TxParams} {buf : List U8} (hb : 32 ≤ buf.length)
    (he : p.hdrLen.toNat % 2 = 0) :
    (65535 < p.pktLen.toNat + 32 ∧ callOn (buildTxwi p) buf = .error (.errno (-22))) ∨
      (p.pktLen.toNat + 32 ≤ 65535 ∧
        ((∃ rate, callOn (buildTxwi p) buf = .ok (txwiImage p rate)) ∨
          callOn (buildTxwi p) buf = .error .panic)) := by
  have heven : ∀ h : U8, h.toNat % 2 = 0 → h.setWidth 32 &&& 1 = (0 : U32) := by decide +kernel
  by_cases hl : 65535 < p.pktLen.toNat + 32
  · refine .inl ⟨hl, ?_⟩
    unfold callOn buildTxwi
    rw [Out.len_bind, if_neg (by unfold TXWI_SIZE; omega), if_pos (by unfold TXWI_SIZE; omega)]
    rfl
  · refine .inr ⟨by omega, ?_⟩
    unfold callOn
    rw [buildTxwi_eq p buf hb (by unfold TXWI_SIZE; omega) (heven _ he)]
    cases hr : txwiRate p with
    | ok rate => exact .inl ⟨rate, congrArg Except.ok (List.take_left' rfl)⟩
    | error e =>
      rw [txRateToTmi_error hr]
      exact .inr rfl

theorem buffer_of_buildTxwi {p : TxParams} {buf txwi : List U8}
    (h : callOn (buildTxwi p) buf = .ok txwi) : 32 ≤ buf.length := by
  by_contra hb
  unfold callOn buildTxwi at h
  rw [Out.len_bind, if_pos (by unfold TXWI_SIZE; omega)] at h
  cases h

/-- A header of odd length is refused. -/
theorem even_of_buildTxwi {p : TxParams} {buf txwi : List U8}
    (h : callOn (buildTxwi p) buf = .ok txwi) : p.hdrLen.toNat % 2 = 0 := by
  have hodd : ∀ h : U8, h.toNat % 2 ≠ 0 → h.setWidth 32 &&& 1 ≠ (0 : U32) := by decide +kernel
  have hb := buffer_of_buildTxwi h
  by_contra hc
  unfold callOn buildTxwi at h
  rw [Out.len_bind, if_neg (by unfold TXWI_SIZE; omega)] at h
  by_cases hl : 0xffff < p.pktLen.toNat + TXWI_SIZE
  · rw [if_pos hl] at h
    cases h
  · rw [if_neg hl, Out.fill_bind (by omega) (by unfold TXWI_SIZE; omega),
      if_pos (hodd _ hc)] at h
    cases h

/-- **What a successful `build_txwi` tells.** -/
theorem rustCall_buildTxwi_ok {p : TxParams} {txwi : List U8}
    (h : rustCall (buildTxwi p) 32 = .ok txwi) :
    p.hdrLen.toNat % 2 = 0 ∧ p.pktLen.toNat + 32 ≤ 65535 ∧ ∃ rate, txwi = txwiImage p rate := by
  unfold rustCall at h
  have he := even_of_buildTxwi h
  rcases @callOn_buildTxwi p (List.replicate 32 default) (by simp) he with
    ⟨-, hc⟩ | ⟨hl, ⟨rate, hc⟩ | hc⟩
  · rw [hc] at h
    cases h
  · rw [hc] at h
    obtain rfl := Except.ok.inj h
    exact ⟨he, hl, rate, rfl⟩
  · rw [hc] at h
    cases h

/-- The length field of a buffer. -/
def storedLen (data : List U8) : Nat := (le16 (data.getD 0 0) (data.getD 1 0)).toNat

theorem storedLen_overwrite (n : U16) {txwi : List U8} (rest : List U8) :
    storedLen (overwrite 0 (toLe16 n) txwi ++ rest) = n.toNat := by
  unfold storedLen
  rw [overwrite_zero, List.append_assoc]
  exact congrArg BitVec.toNat (le16_toLe16 n)

theorem length_requestStatus (txwi : List U8) : (requestStatus txwi).length = txwi.length := by
  rw [requestStatus, List.length_modify, List.length_set]

/-- **A frame that is submitted** got its descriptor, its header padding, room in front, the
descriptor there and the padding behind. -/
theorem mac80211Tx_submitted {k : Kernel} {dev : Dev} {info : TxInfo} {skb : SkBuff U8}
    {t : Transfer} (ht : mac80211Tx k dev info skb = .ok (some t)) :
    ∃ txwi skb₁ skb₂ skb₃, rustCall (buildTxwi (txParams k dev info skb)) 32 = .ok txwi ∧
      padHeader k skb (txParams k dev info skb).hdrLen.toNat
        (padOf (txParams k dev info skb).hdrLen.toNat) = .ok (some skb₁) ∧
      expandHead k skb₁ 32 = some skb₂ ∧
      pushTxd skb₂ (if (txParams k dev info skb).frmType = 2 then requestStatus txwi else txwi)
        (isMgmt (frameControl k skb)) = .ok skb₃ ∧ padTail k skb₃ = .ok (some t.skb) ∧
      t.ep = if isMgmt (frameControl k skb) then MT7603_MGMT_BULK_OUT
        else MT7603_DATA_BULK_OUT := by
  unfold mac80211Tx at ht
  dsimp only at ht
  generalize txParams k dev info skb = p at *
  split at ht
  · cases ht
  cases hr : rustCall (buildTxwi p) 32 with
  | error e =>
    rw [hr] at ht
    cases e <;> cases ht
  | ok txwi =>
    rw [hr, hdrPadLen_eq] at ht
    dsimp only at ht
    obtain ⟨r₁, h₁, ht⟩ := bind_ok ht
    cases r₁ with
    | none => cases ht
    | some skb₁ =>
      dsimp only at ht
      cases h₂ : expandHead k skb₁ 32 with
      | none =>
        rw [h₂] at ht
        cases ht
      | some skb₂ =>
        rw [h₂] at ht
        obtain ⟨skb₃, h₃, ht⟩ := bind_ok ht
        obtain ⟨r₄, h₄, ht⟩ := bind_ok ht
        cases r₄ with
        | none => cases ht
        | some skb₄ =>
          dsimp only at ht
          split at ht
          · obtain rfl := Option.some.inj (Except.ok.inj ht)
            exact ⟨txwi, skb₁, skb₂, skb₃, rfl, h₁, h₂, h₃, h₄, rfl⟩
          · cases ht

/-- Descriptor, frame and header padding: what the transfer has before the padding behind. -/
def dmaLen (k : Kernel) (dev : Dev) (info : TxInfo) (skb : SkBuff U8) : Nat :=
  32 + padOf (txParams k dev info skb).hdrLen.toNat + skb.len

/-- **The submitted buffer** starts with the descriptor of the Rust side, with its length
overwritten off the management path. -/
theorem mac80211Tx_data {k : Kernel} {dev : Dev} {info : TxInfo} {skb : SkBuff U8} {t : Transfer}
    (ht : mac80211Tx k dev info skb = .ok (some t)) :
    ∃ txwi rest, rustCall (buildTxwi (txParams k dev info skb)) 32 = .ok txwi ∧
      t.skb.data = (if isMgmt (frameControl k skb) then
          (if (txParams k dev info skb).frmType = 2 then requestStatus txwi else txwi)
        else overwrite 0 (toLe16 (BitVec.ofNat 16 (roundup4 (dmaLen k dev info skb))))
          (if (txParams k dev info skb).frmType = 2 then requestStatus txwi else txwi)) ++ rest ∧
      t.ep = if isMgmt (frameControl k skb) then MT7603_MGMT_BULK_OUT
        else MT7603_DATA_BULK_OUT := by
  obtain ⟨txwi, skb₁, skb₂, skb₃, hr, h₁, h₂, h₃, h₄, hep⟩ := mac80211Tx_submitted ht
  unfold dmaLen
  generalize txParams k dev info skb = p at *
  obtain ⟨-, -, rate, rfl⟩ := rustCall_buildTxwi_ok hr
  have hlen : (if p.frmType = 2 then requestStatus (txwiImage p rate)
      else txwiImage p rate).length = 32 := by
    split
    · rw [length_requestStatus]
      rfl
    · rfl
  obtain ⟨hd₂, hroom⟩ := (expandHead_spec k skb₁ 32).1 skb₂ h₂
  obtain ⟨skb₃', h₃', hd₃⟩ := pushTxd_eq skb₂ _ (isMgmt (frameControl k skb)) hlen hroom
  obtain rfl : skb₃ = skb₃' := Except.ok.inj (h₃.symm.trans h₃')
  obtain ⟨r, hr₄, hd₄, -⟩ := @padTail_yields k skb₃
  obtain rfl : some t.skb = r := Except.ok.inj (h₄.symm.trans hr₄)
  have hsum : 32 + skb₂.len = 32 + padOf p.hdrLen.toNat + skb.len := by
    rw [SkBuff.len, hd₂, ← SkBuff.len, padHeader_len h₁]
    omega
  rw [hsum] at hd₃
  refine ⟨_, skb₂.data ++ List.replicate (roundup4 skb₃.len + 4 - skb₃.len) 0, hr, ?_, hep⟩
  rw [hd₄ t.skb rfl, hd₃, List.append_assoc]

/-- The length the driver stores for a frame that is not for management. -/
theorem storedLen_tx {k : Kernel} {dev : Dev} {info : TxInfo} {skb : SkBuff U8} {t : Transfer}
    (hm : isMgmt (frameControl k skb) = false) (ht : mac80211Tx k dev info skb = .ok (some t)) :
    (txParams k dev info skb).pktLen.toNat + 32 ≤ 65535 ∧
      storedLen t.skb.data = roundup4 (dmaLen k dev info skb) % 2 ^ 16 := by
  obtain ⟨txwi, rest, hr, hd, -⟩ := mac80211Tx_data ht
  refine ⟨(rustCall_buildTxwi_ok hr).2.1, ?_⟩
  rw [hd, hm, if_neg (by simp), storedLen_overwrite, BitVec.toNat_ofNat]

/-! ## Which lengths are exact -/

/-- Descriptor, frame and header padding. -/
def frameBytes (pktLen : U16) (hdrLen : U8) : Nat := 32 + pktLen.toNat + padOf hdrLen.toNat

/-- The length in every descriptor for these lengths is exact, also in the one the driver submits;
lengths that do not fit are refused. -/
structure TxByteCntExact (pktLen : U16) (hdrLen : U8) : Prop where
  txwi : ∀ (p : TxParams) (buf txwi : List U8), p.pktLen = pktLen → p.hdrLen = hdrLen →
    callOn (buildTxwi p) buf = .ok txwi →
      ((wordAt txwi 0).extractLsb' 0 16).toNat = frameBytes pktLen hdrLen ∧
        (wordAt txwi 0).extractLsb' 16 11 = 0
  refused : 2 ^ 16 ≤ frameBytes pktLen hdrLen → ∀ (p : TxParams) (buf : List U8),
    p.pktLen = pktLen → p.hdrLen = hdrLen → 32 ≤ buf.length →
      callOn (buildTxwi p) buf = .error (.errno (-22))
  tx : ∀ (k : Kernel) (dev : Dev) (info : TxInfo) (skb : SkBuff U8) (t : Transfer),
    isMgmt (frameControl k skb) = false → (txParams k dev info skb).pktLen = pktLen →
    (txParams k dev info skb).hdrLen = hdrLen → mac80211Tx k dev info skb = .ok (some t) →
      storedLen t.skb.data = roundup4 (frameBytes pktLen hdrLen)

section
variable {p : TxParams} {pktLen : U16} {hdrLen : U8}

theorem txwiDw0_len (h : frameBytes p.pktLen p.hdrLen < 2 ^ 16) :
    ((txwiDw0 p).extractLsb' 0 16).toNat = frameBytes p.pktLen p.hdrLen ∧
      (txwiDw0 p).extractLsb' 16 11 = 0 := by
  have hn : p.pktLen.toNat + (4 - p.hdrLen.toNat % 4) % 4 + 32 = frameBytes p.pktLen p.hdrLen := by
    unfold frameBytes padOf
    omega
  have hd := decodes_lenQueue (BitVec.ofNat 16 (frameBytes p.pktLen p.hdrLen)) p.queue
  rw [BitVec.toNat_ofNat, Nat.mod_eq_of_lt h] at hd
  rw [txwiDw0_eq (by omega), hn]
  refine ⟨hd.val ⟨0, 16, frameBytes p.pktLen p.hdrLen⟩ (List.mem_cons_self ..), ?_⟩
  apply BitVec.eq_of_getLsbD_eq
  intro i hi
  rw [BitVec.getLsbD_extractLsb', hd.rest (16 + i) (by omega)]
  · simp
  · simp only [List.mem_cons, List.not_mem_nil, or_false, forall_eq_or_imp, forall_eq,
      BitField.Covers]
    omega

theorem txwi_exact (he : hdrLen.toNat % 2 = 0) (h : frameBytes pktLen hdrLen < 2 ^ 16)
    {buf txwi : List U8} (hp : p.pktLen = pktLen) (hh : p.hdrLen = hdrLen)
    (hc : callOn (buildTxwi p) buf = .ok txwi) :
    ((wordAt txwi 0).extractLsb' 0 16).toNat = frameBytes pktLen hdrLen ∧
      (wordAt txwi 0).extractLsb' 16 11 = 0 := by
  subst hp hh
  rcases callOn_buildTxwi (buffer_of_buildTxwi hc) he with ⟨-, hc'⟩ | ⟨-, ⟨rate, hc'⟩ | hc'⟩
  · rw [hc'] at hc
    cases hc
  · rw [hc'] at hc
    obtain rfl := Except.ok.inj hc
    have hw : wordAt (txwiImage p rate) 0 = txwiDw0 p := le32_toLe32 (txwiDw0 p)
    rw [hw]
    exact txwiDw0_len h
  · rw [hc'] at hc
    cases hc

/-- Frames of these lengths are stored with their length rounded up, modulo 2^16. -/
theorem tx_exact (h : frameBytes pktLen hdrLen ≤ 65532) {k : Kernel}
    {dev : Dev} {info : TxInfo} {skb : SkBuff U8} {t : Transfer}
    (hm : isMgmt (frameControl k skb) = false) (hp : (txParams k dev info skb).pktLen = pktLen)
    (hh : (txParams k dev info skb).hdrLen = hdrLen)
    (ht : mac80211Tx k dev info skb = .ok (some t)) :
    storedLen t.skb.data = roundup4 (frameBytes pktLen hdrLen) := by
  have hpkt : pktLen.toNat = skb.len % 2 ^ 16 := by
    rw [← hp, txParams_pktLen, BitVec.toNat_ofNat]
  obtain ⟨-, hs⟩ := storedLen_tx hm ht
  rw [hs, dmaLen, hh]
  unfold frameBytes at h ⊢
  unfold roundup4
  omega

theorem exact_of_fits (he : hdrLen.toNat % 2 = 0) (h : frameBytes pktLen hdrLen ≤ 65532) :
    TxByteCntExact pktLen hdrLen where
  txwi _ _ _ hp hh hc := txwi_exact he (by omega) hp hh hc
  refused h' := absurd h' (by omega)
  tx _ _ _ _ _ hm hp hh ht := tx_exact h hm hp hh ht

/-- Of a frame that is refused nothing is stored. -/
theorem exact_of_refused (he : hdrLen.toNat % 2 = 0) (hl : 65535 < pktLen.toNat + 32) :
    TxByteCntExact pktLen hdrLen := by
  have hcall : ∀ (p : TxParams) (buf : List U8), p.pktLen = pktLen → p.hdrLen = hdrLen →
      32 ≤ buf.length → callOn (buildTxwi p) buf = .error (.errno (-22)) := by
    intro p buf hp hh hb
    subst hp hh
    rcases callOn_buildTxwi hb he with ⟨-, hc⟩ | ⟨hl', -⟩
    · exact hc
    · omega
  refine ⟨fun p buf txwi hp hh hc => ?_, fun _ => hcall, fun k dev info skb t hm hp hh ht => ?_⟩
  · rw [hcall p buf hp hh (buffer_of_buildTxwi hc)] at hc
    cases hc
  · have hl' := (storedLen_tx hm ht).1
    rw [hp] at hl'
    omega

end

/-! ## The lengths that wrap -/

/-- A kernel with headers of one length. -/
def kernelOf (hdrLen : U8) : Kernel := { sampleKernel with hdrlen := fun _ => hdrLen.toNat }

/-- A data frame of `n` bytes. -/
def dataFrame (n : Nat) : SkBuff U8 := ⟨[], 0x08 :: 0x00 :: List.replicate (n - 2) 0, []⟩

theorem dataFrame_not_mgmt (hdrLen : U8) (n : Nat) :
    isMgmt (frameControl (kernelOf hdrLen) (dataFrame n)) = false := by
  have hfc : frameControl (kernelOf hdrLen) (dataFrame n) = le16 0x08 0x00 := rfl
  rw [hfc]
  decide

/-- Lengths that only just fit are submitted. -/
theorem dataFrame_submitted {pktLen : U16} {hdrLen : U8} (he : hdrLen.toNat % 2 = 0)
    (hlong : 256 ≤ pktLen.toNat) (h : frameBytes pktLen hdrLen ≤ 65535) :
    ∃ t, mac80211Tx (kernelOf hdrLen) sampleDev sampleTxInfo (dataFrame pktLen.toNat) =
        .ok (some t) ∧
      isMgmt (frameControl (kernelOf hdrLen) (dataFrame pktLen.toNat)) = false ∧
      (txParams (kernelOf hdrLen) sampleDev sampleTxInfo (dataFrame pktLen.toNat)).pktLen = pktLen ∧
      (txParams (kernelOf hdrLen) sampleDev sampleTxInfo (dataFrame pktLen.toNat)).hdrLen =
        hdrLen := by
  have hlen : (dataFrame pktLen.toNat).len = pktLen.toNat := by
    simp only [dataFrame, SkBuff.len, List.length_cons, List.length_replicate]
    omega
  have hh : (txParams (kernelOf hdrLen) sampleDev sampleTxInfo (dataFrame pktLen.toNat)).hdrLen =
      hdrLen := by
    rw [txParams_hdrLen]
    exact BitVec.ofNat_toNat ..
  have hp : (txParams (kernelOf hdrLen) sampleDev sampleTxInfo (dataFrame pktLen.toNat)).pktLen =
      pktLen := by
    rw [txParams_pktLen, hlen]
    exact BitVec.ofNat_toNat ..
  have hb : hdrLen.toNat < 256 := hdrLen.isLt
  unfold frameBytes at h
  obtain ⟨r, hr, -, hsome⟩ := mac80211Tx_yields (kernelOf hdrLen) sampleDev sampleTxInfo
    (dataFrame pktLen.toNat) rfl (congrArg BitVec.toNat hh) he (by omega) (by omega)
  have hnever : (kernelOf hdrLen).NeverFails := ⟨fun _ _ _ => rfl, fun _ _ => rfl, rfl⟩
  obtain ⟨t, rfl⟩ := Option.isSome_iff_exists.1 (hsome hnever)
  exact ⟨t, hr, dataFrame_not_mgmt hdrLen _, hp, hh⟩

/-- A frame that is long enough to wrap only with its padding is not refused. -/
theorem not_refused {pktLen : U16} {hdrLen : U8} (he : hdrLen.toNat % 2 = 0)
    (hl : pktLen.toNat + 32 ≤ 65535) :
    callOn (buildTxwi { pktLen, hdrLen }) (List.replicate 32 0) ≠ .error (.errno (-22)) := by
  intro hc
  rcases @callOn_buildTxwi { pktLen, hdrLen } (List.replicate 32 0) (by simp) he with
    ⟨hl', -⟩ | ⟨-, ⟨rate, hc'⟩ | hc'⟩
  · exact absurd hl' (Nat.not_lt.2 hl)
  · rw [hc'] at hc
    cases hc
  · rw [hc'] at hc
    cases hc

/-- The guard lets a frame through whose length does not fit with its padding, or with the driver's
rounding. -/
theorem not_exact {pktLen : U16} {hdrLen : U8} (he : hdrLen.toNat % 2 = 0)
    (hl : pktLen.toNat + 32 ≤ 65535) (hw : 65532 < frameBytes pktLen hdrLen) :
    ¬TxByteCntExact pktLen hdrLen := by
  intro h
  by_cases h16 : 2 ^ 16 ≤ frameBytes pktLen hdrLen
  · exact not_refused he hl
      (h.refused h16 { pktLen, hdrLen } (List.replicate 32 0) rfl rfl (by simp))
  · obtain ⟨t, ht, hm, hp, hh⟩ := @dataFrame_submitted pktLen _ he
      (by unfold frameBytes padOf at hw; omega) (by omega)
    have hs := h.tx _ _ _ _ t hm hp hh ht
    have hlt : storedLen t.skb.data < 2 ^ 16 := BitVec.isLt _
    rw [hs] at hlt
    unfold roundup4 at hlt
    omega

/-- **When `tx_byte_cnt` is exact.** Of all lengths with an even header length, those are right that
are refused or that fit 16 bits with descriptor, padding and rounding. -/
theorem txByteCnt_exact_iff (pktLen : U16) (hdrLen : U8) (he : hdrLen.toNat % 2 = 0) :
    TxByteCntExact pktLen hdrLen ↔
      65535 < pktLen.toNat + 32 ∨ 32 + pktLen.toNat + (4 - hdrLen.toNat % 4) % 4 ≤ 65532 := by
  have hn : 32 + pktLen.toNat + (4 - hdrLen.toNat % 4) % 4 = frameBytes pktLen hdrLen := rfl
  rw [hn]
  constructor
  · intro h
    by_contra hc
    obtain ⟨hl, hw⟩ := not_or.1 hc
    exact not_exact he (Nat.not_lt.1 hl) (Nat.not_le.1 hw) h
  · intro h
    cases h with
    | inl hl => exact exact_of_refused he hl
    | inr hf => exact exact_of_fits he hf

theorem txByteCnt_exact_qosData : TxByteCntExact 1500 26 :=
  (txByteCnt_exact_iff 1500 26 (by decide)).2 (.inr (by decide))

/-- The longest frame that is let through, with the header of a QoS data frame: two bytes of padding
carry the sum to 65537, and the descriptor has a length of one. -/
theorem txByteCnt_padding_wraps : ¬TxByteCntExact 65503 26 ∧
    (callOn (buildTxwi { pktLen := 65503, hdrLen := 26 }) (List.replicate 32 0)).map (wordAt · 0) =
      .ok 0x00010001 :=
  ⟨not_exact (by decide) (by decide) (by decide), by decide +kernel⟩

end Driver
