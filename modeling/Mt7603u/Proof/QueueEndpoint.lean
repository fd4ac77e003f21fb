import Mt7603u.Proof.TxByteCount

/-!
# Queue and endpoint of a transmitted frame

The queue in the descriptor is chosen twice: by the frame's type, and once more for injected frames
and in monitor mode. The endpoint and the rewrite of the length follow the type alone. So an
injected frame that is not a management frame is sent to the data endpoint with the management
queue in its descriptor (`queue_agrees_iff`).
-/

namespace Driver

open Slice Skb Word Packed Rust

/-! ## Reading the descriptor of a transfer -/

/-- `q_idx` of the descriptor in front of a buffer. -/
def qIdx (data : List U8) : BitVec 4 := (wordAt data 0).extractLsb' 27 4

/-- `tx_byte_cnt` of the descriptor in front of a buffer. -/
def byteCnt (data : List U8) : U16 := (wordAt data 0).extractLsb' 0 16

/-- The bits of the first word of a descriptor from the Rust side: the length may run into bit 16,
the queue stands clear of it. -/
theorem txwiDw0_decodes (p : TxParams) :
    Decodes (txwiDw0 p)
      [⟨0, 17, p.pktLen.toNat + padOf p.hdrLen.toNat + 32⟩, ⟨27, 4, p.queue.toNat % 16⟩] := by
  have hpad : ∀ h : U8, (hdrPadLen (h.setWidth 32)).toNat = padOf h.toNat := by decide +kernel
  have hlt : padOf p.hdrLen.toNat < 4 := Nat.mod_lt _ (by decide)
  have hl : (p.pktLen.setWidth 32 + hdrPadLen (p.hdrLen.setWidth 32) +
      BitVec.ofNat 32 TXWI_SIZE : U32).toNat = p.pktLen.toNat + padOf p.hdrLen.toNat + 32 := by
    have := p.pktLen.isLt
    simp only [BitVec.toNat_add, BitVec.toNat_setWidth, BitVec.toNat_ofNat, hpad, TXWI_SIZE]
    omega
  have hq := toNat_mask4 p.queue
  have h := (decodes_low _ 17 (by rw [hl]; have := p.pktLen.isLt; omega) (by omega)).or
    (p.queue.setWidth 32 &&& 0x0f) 27 4 (by simp) (by omega) (by omega)
  rw [hl, hq] at h
  have h31 : (P_IDX_LMAC <<< 31 : U32) = 0#32 := rfl
  rw [txwiDw0, h31, BitVec.or_zero]
  exact h

theorem txwiDw0_queue (p : TxParams) :
    (txwiDw0 p).extractLsb' 27 4 = p.queue.setWidth 4 := by
  apply BitVec.eq_of_toNat_eq
  rw [(txwiDw0_decodes p).val ⟨27, 4, p.queue.toNat % 16⟩ (by simp), BitVec.toNat_setWidth]

theorem txwiDw0_byteCnt (p : TxParams) :
    (txwiDw0 p).extractLsb' 0 16 =
      BitVec.ofNat 16 (32 + padOf p.hdrLen.toNat + p.pktLen.toNat) := by
  have h := (txwiDw0_decodes p).val ⟨0, 17, p.pktLen.toNat + padOf p.hdrLen.toNat + 32⟩ (by simp)
  rw [BitVec.extractLsb'_toNat, Nat.shiftRight_zero] at h
  dsimp only at h
  apply BitVec.eq_of_toNat_eq
  rw [BitVec.extractLsb'_toNat, Nat.shiftRight_zero, BitVec.toNat_ofNat]
  omega

/-- The length field is replaced, the queue stays. -/
theorem wordAt_overwrite_len (n : U16) (w : U32) (l rest : List U8) :
    (wordAt (overwrite 0 (toLe16 n) (toLe32 w ++ l) ++ rest) 0).extractLsb' 0 16 = n ∧
      (wordAt (overwrite 0 (toLe16 n) (toLe32 w ++ l) ++ rest) 0).extractLsb' 27 4 =
        w.extractLsb' 27 4 := by
  have hw : wordAt (overwrite 0 (toLe16 n) (toLe32 w ++ l) ++ rest) 0 =
      le32 (n.extractLsb' 0 8) (n.extractLsb' 8 8) (w.extractLsb' 16 8) (w.extractLsb' 24 8) := rfl
  rw [hw]
  constructor
  · apply BitVec.eq_of_getLsbD_eq
    intro i hi
    simp only [le32, BitVec.getLsbD_append, BitVec.getLsbD_extractLsb']
    interval_cases i <;> simp
  · apply BitVec.eq_of_getLsbD_eq
    intro i hi
    simp only [le32, BitVec.getLsbD_append, BitVec.getLsbD_extractLsb']
    interval_cases i <;> simp

/-! ## What a transfer has -/

section
variable {k : Kernel} {dev : Dev} {info : TxInfo} {skb : SkBuff U8} {t : Transfer}

/-- The queue is that of the management frames also for injected frames. -/
theorem txParams_queue : (txParams k dev info skb).queue =
    if isInjected dev info ∨ isMgmt (frameControl k skb) then 0x04 else 0x01 := by
  unfold txParams
  dsimp only
  obtain ⟨mode, mcs, preamble, bw, -, -, he⟩ :=
    txRate_cases dev info (isMgmt (frameControl k skb)) _
  rw [he]
  cases hi : isInjected dev info with
  | true => simp
  | false => simp

/-- **Queue, length and endpoint of a submitted transfer.** -/
theorem tx_routing (ht : mac80211Tx k dev info skb = .ok (some t)) :
    qIdx t.skb.data = (txParams k dev info skb).queue.setWidth 4 ∧
      byteCnt t.skb.data =
        BitVec.ofNat 16 (txByteCnt (isMgmt (frameControl k skb)) (dmaLen k dev info skb)) ∧
      t.ep = if isMgmt (frameControl k skb) then MT7603_MGMT_BULK_OUT
        else MT7603_DATA_BULK_OUT := by
  obtain ⟨txwi, rest, hr, hd, hep⟩ := mac80211Tx_data ht
  obtain ⟨-, -, rate, rfl⟩ := rustCall_buildTxwi_ok hr
  have hword := statusTxd_eq (txParams k dev info skb) rate
  simp only [words8, List.append_assoc] at hword
  rw [hword] at hd
  unfold qIdx byteCnt
  cases hm : isMgmt (frameControl k skb) with
  | true =>
    rw [hm, if_pos rfl, List.append_assoc] at hd
    refine ⟨?_, ?_, by rw [hep, hm]⟩
    · rw [hd, wordAt_zero, txwiDw0_queue]
    · rw [hd, wordAt_zero, txwiDw0_byteCnt, txParams_pktLen, BitVec.toNat_ofNat]
      apply BitVec.eq_of_toNat_eq
      simp only [BitVec.toNat_ofNat, txByteCnt, dmaLen, if_true]
      omega
  | false =>
    rw [hm, if_neg (by simp)] at hd
    obtain ⟨hlen, hq⟩ := wordAt_overwrite_len
      (BitVec.ofNat 16 (roundup4 (dmaLen k dev info skb))) (txwiDw0 (txParams k dev info skb)) _
      rest
    refine ⟨?_, ?_, by rw [hep, hm]⟩
    · rw [hd, hq, txwiDw0_queue]
    · rw [hd, hlen]
      rfl

end

/-! ## Where they agree -/

/-- The endpoint and the rounding of the length are those of the queue in the descriptor, and
injected frames are on the management queue and endpoint. -/
structure QueueAgrees (k : Kernel) (dev : Dev) (info : TxInfo) (skb : SkBuff U8) (t : Transfer) :
    Prop where
  mgmt : t.ep = 0x08 ∧ byteCnt t.skb.data = BitVec.ofNat 16 (dmaLen k dev info skb) ↔
    qIdx t.skb.data = 0x04
  data : t.ep = 0x05 ∧ byteCnt t.skb.data = BitVec.ofNat 16 (roundup4 (dmaLen k dev info skb)) ↔
    qIdx t.skb.data = 0x01
  injected : isInjected dev info → qIdx t.skb.data = 0x04 ∧ t.ep = 0x08

section
variable {k : Kernel} {dev : Dev} {info : TxInfo} {skb : SkBuff U8} {t : Transfer}

theorem agrees_mgmt (hm : isMgmt (frameControl k skb) = true)
    (ht : mac80211Tx k dev info skb = .ok (some t)) : QueueAgrees k dev info skb t := by
  obtain ⟨hq, hb, hep⟩ := tx_routing ht
  rw [txParams_queue, if_pos (.inr hm)] at hq
  rw [hm] at hb hep
  replace hep : t.ep = 0x08 := hep
  replace hq : qIdx t.skb.data = 0x04 := hq
  refine ⟨?_, ?_, fun _ => ⟨hq, hep⟩⟩
  · rw [hq, hep, hb]
    simp [txByteCnt]
  · rw [hq, hep]
    simp

theorem agrees_data (hm : isMgmt (frameControl k skb) = false) (hi : isInjected dev info = false)
    (ht : mac80211Tx k dev info skb = .ok (some t)) : QueueAgrees k dev info skb t := by
  obtain ⟨hq, hb, hep⟩ := tx_routing ht
  rw [txParams_queue, if_neg (by simp [hm, hi])] at hq
  rw [hm] at hb hep
  replace hep : t.ep = 0x05 := hep
  replace hq : qIdx t.skb.data = 0x01 := hq
  refine ⟨?_, ?_, fun h => absurd h (by simp [hi])⟩
  · rw [hq, hep]
    simp
  · rw [hq, hep, hb]
    simp [txByteCnt]

/-- An injected frame of another type has the management queue and the data endpoint. -/
theorem injected_split (hm : isMgmt (frameControl k skb) = false)
    (hi : isInjected dev info = true) (ht : mac80211Tx k dev info skb = .ok (some t)) :
    qIdx t.skb.data = 0x04 ∧ t.ep = 0x05 := by
  obtain ⟨hq, -, hep⟩ := tx_routing ht
  rw [txParams_queue, if_pos (.inl hi)] at hq
  rw [hm] at hep
  exact ⟨hq, hep⟩

theorem not_agrees_injected (hm : isMgmt (frameControl k skb) = false)
    (hi : isInjected dev info = true) (ht : mac80211Tx k dev info skb = .ok (some t)) :
    ¬QueueAgrees k dev info skb t := by
  intro h
  have hep := (injected_split hm hi ht).2
  rw [(h.injected hi).2] at hep
  cases hep

/-- **When queue and endpoint agree.** Of all frames that are submitted, on every device, exactly
those of a management frame and those that are not injected go to the endpoint of their queue. -/
theorem queue_agrees_iff (k : Kernel) (dev : Dev) (info : TxInfo) (skb : SkBuff U8) (t : Transfer)
    (ht : mac80211Tx k dev info skb = .ok (some t)) :
    QueueAgrees k dev info skb t ↔
      isMgmt (frameControl k skb) = true ∨ isInjected dev info = false := by
  constructor
  · intro h
    cases hm : isMgmt (frameControl k skb) with
    | true => exact .inl rfl
    | false =>
      cases hi : isInjected dev info with
      | false => exact .inr rfl
      | true => exact absurd h (not_agrees_injected hm hi ht)
  · intro h
    cases hm : isMgmt (frameControl k skb) with
    | true => exact agrees_mgmt hm ht
    | false =>
      rw [hm] at h
      exact agrees_data hm (h.resolve_left (by simp)) ht

end

/-! ## Samples -/

/-- The sample frame is submitted whatever its flags and rate. -/
theorem sampleQosData_submitted (info : TxInfo) :
    ∃ t, mac80211Tx sampleKernel sampleDev info sampleQosData = .ok (some t) := by
  have hh : (txParams sampleKernel sampleDev info sampleQosData).hdrLen.toNat = 26 := by
    rw [txParams_hdrLen]
    rfl
  obtain ⟨r, hr, -, hsome⟩ := mac80211Tx_yields sampleKernel sampleDev info sampleQosData rfl hh
    (by decide) (by decide) (by decide)
  obtain ⟨t, rfl⟩ := Option.isSome_iff_exists.1 (hsome sampleKernel_neverFails)
  exact ⟨t, hr⟩

theorem queue_agrees_qosData : ∃ t,
    mac80211Tx sampleKernel sampleDev sampleTxInfo sampleQosData = .ok (some t) ∧
      QueueAgrees sampleKernel sampleDev sampleTxInfo sampleQosData t := by
  obtain ⟨t, ht⟩ := sampleQosData_submitted sampleTxInfo
  exact ⟨t, ht, (queue_agrees_iff _ _ _ _ t ht).2 (.inr (by decide))⟩

/-- An injected frame, as a monitor interface hands it over. -/
def injectedTxInfo : TxInfo := { sampleTxInfo with flags := IEEE80211_TX_CTL_INJECTED }

/-- **An injected data frame** goes to endpoint 0x05 with queue 0x04 in its descriptor. -/
theorem queue_differs_injected : ∃ t,
    mac80211Tx sampleKernel sampleDev injectedTxInfo sampleQosData = .ok (some t) ∧
      ¬QueueAgrees sampleKernel sampleDev injectedTxInfo sampleQosData t ∧
      qIdx t.skb.data = 0x04 ∧ t.ep = 0x05 := by
  obtain ⟨t, ht⟩ := sampleQosData_submitted injectedTxInfo
  have hm : isMgmt (frameControl sampleKernel sampleQosData) = false := by decide
  have hi : isInjected sampleDev injectedTxInfo = true := by decide
  exact ⟨t, ht, not_agrees_injected hm hi ht, injected_split hm hi ht⟩

end Driver
