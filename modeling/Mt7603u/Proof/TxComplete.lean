import Mt7603u.Proof.TxFrame

/-!
# Completion undoes framing

`txComplete` on the buffer `mac80211Tx` submitted gives the frame back, whatever room the frame's
buffer had and whichever copies were made on the way (`txComplete_restores`).
-/

namespace Driver

open Slice Skb Word Packed Rust

/-- The word kept for completion, by its fields. -/
theorem txMeta_decodes (p : TxParams) {pad : Nat} (hp : pad < 256) :
    Decodes (txMeta p pad) [⟨0, 16, p.pktLen.toNat⟩, ⟨16, 8, p.hdrLen.toNat⟩, ⟨24, 8, pad⟩] := by
  have h0 : (p.pktLen.setWidth 32 : U32).toNat = p.pktLen.toNat := by
    rw [BitVec.toNat_setWidth, Nat.mod_eq_of_lt (by omega)]
  have h1 : (p.hdrLen.setWidth 32 : U32).toNat = p.hdrLen.toNat := by
    rw [BitVec.toNat_setWidth, Nat.mod_eq_of_lt (by omega)]
  have h2 : (BitVec.ofNat 32 pad).toNat = pad := by
    rw [BitVec.toNat_ofNat, Nat.mod_eq_of_lt (by omega)]
  have h := ((decodes_low (p.pktLen.setWidth 32) 16 (by omega) (by omega)).or
    (p.hdrLen.setWidth 32) 16 8 (by simp) (by omega) (by omega)).or
    (BitVec.ofNat 32 pad) 24 8 (by simp) (by omega) (by omega)
  rw [h0, h1, h2] at h
  exact h

/-- Trimming to the original length is the last step either way. -/
theorem trim_guard {skb : SkBuff U8} {n : Nat} (hn : 0 < n) :
    (if 0 < n ∧ n < skb.len then skb.trim n else skb) = skb.trim n := by
  split
  · rfl
  · rename_i h
    rw [SkBuff.trim, if_neg (by omega)]

/-- **Stripping a submitted buffer** leaves the frame. -/
theorem stripFrame_txBuffer {skb : SkBuff U8} {txd f : List U8} {p : TxParams} {h : Nat}
    (hd : skb.data = txBuffer txd f h) (ht : txd.length = 32) (hh : p.hdrLen.toNat = h)
    (hp : p.pktLen.toNat = f.length) (hle : h ≤ f.length) (h0 : 0 < f.length) :
    ∃ skb', stripFrame skb (txMeta p (padOf h)) = .ok skb' ∧ skb'.data = f := by
  have hpad : padOf h < 256 := by
    unfold padOf
    omega
  have hm := txMeta_decodes p hpad
  have hlen : (txMeta p (padOf h) &&& 0xffff).toNat = f.length := by
    have := hm.shift_and 0 16 p.pktLen.toNat (by simp) (by omega)
    rw [BitVec.ushiftRight_zero] at this
    exact this.trans hp
  have hhdr : ((txMeta p (padOf h) >>> 16) &&& 0xff).toNat = h :=
    (hm.shift_and 16 8 p.hdrLen.toNat (by simp) (by omega)).trans hh
  have hhpad : ((txMeta p (padOf h) >>> 24) &&& 0xff).toNat = padOf h :=
    hm.shift_and 24 8 (padOf h) (by simp) (by omega)
  have ha : (f.take h).length = h := by simp [hle]
  -- what is left of the buffer without the descriptor
  obtain ⟨w, hpull⟩ : ∃ w, (if 32 ≤ skb.len then skb.pull 32 else skb).data =
      f.take h ++ (List.replicate (padOf h) 0 ++ (f.drop h ++ w)) := by
    refine ⟨List.replicate
      (roundup4 (32 + padOf h + f.length) + 4 - (32 + padOf h + f.length)) 0, ?_⟩
    have h32 : 32 ≤ skb.len := by
      rw [SkBuff.len, hd, txBuffer, List.append_assoc, List.length_append, ht]
      omega
    rw [if_pos h32, SkBuff.pull, if_pos h32]
    simp only [hd, txBuffer, List.append_assoc, List.drop_left' ht]
  unfold stripFrame
  dsimp only
  rw [hlen, hhdr, hhpad]
  generalize (if 32 ≤ skb.len then skb.pull 32 else skb) = skb₁ at hpull ⊢
  split
  · obtain ⟨skb₂, hmove, htrim⟩ := SkBuff.move_trim hpull
    rw [ha, List.length_replicate] at hmove
    rw [List.take_append_drop] at htrim
    rw [hmove, ok_bind, trim_guard h0]
    exact ⟨_, rfl, htrim⟩
  · rename_i hn
    have hz : padOf h = 0 := by
      have : h + padOf h ≤ skb₁.len := by
        rw [SkBuff.len, hpull, List.length_append, ha, List.length_append, List.length_replicate]
        omega
      omega
    rw [hz, List.replicate_zero, List.nil_append, ← List.append_assoc,
      List.take_append_drop] at hpull
    rw [ok_bind, trim_guard h0]
    exact ⟨_, rfl, SkBuff.trim_append hpull⟩

/-- **Completion undoes framing.** -/
theorem txComplete_restores (k : Kernel) (dev : Dev) (info : TxInfo) (skb : SkBuff U8)
    (hrun : dev.running = true) (he : k.hdrlen (frameControl k skb) % 2 = 0)
    (hle : k.hdrlen (frameControl k skb) ≤ skb.len) (h0 : 0 < skb.len)
    (hl : 32 + padOf (k.hdrlen (frameControl k skb)) + skb.len ≤ 65535) :
    ∃ r, mac80211Tx k dev info skb = .ok r ∧ (k.NeverFails → r.isSome) ∧
      ∀ t, r = some t → ∀ (dev' : Dev) (info' : TxInfo) (status : Int), ∃ skb' outcome,
        txComplete k dev' info' status t.skb t.metaWord = .ok (skb', outcome) ∧
          skb'.data = skb.data := by
  -- the header length is kept in 8 bits
  obtain ⟨h, hh⟩ : ∃ h, (txParams k dev info skb).hdrLen.toNat = h := ⟨_, rfl⟩
  have hmod : h = k.hdrlen (frameControl k skb) % 256 := by
    rw [← hh, txParams_hdrLen, BitVec.toNat_ofNat]
  have hpad : padOf h = padOf (k.hdrlen (frameControl k skb)) := by
    unfold padOf
    omega
  have hpkt : (txParams k dev info skb).pktLen.toNat = skb.data.length := by
    rw [txParams_pktLen, BitVec.toNat_ofNat, Nat.mod_eq_of_lt (by omega), SkBuff.len]
  obtain ⟨r, htx, hr, hok⟩ := mac80211Tx_yields k dev info skb hrun hh (by omega) (by omega)
    (by omega)
  refine ⟨r, htx, hok, fun t ht dev' info' status => ?_⟩
  obtain ⟨rate, -, hd, hmeta⟩ := hr t ht
  obtain ⟨skb', hs, hf⟩ := stripFrame_txBuffer hd (length_patchedTxd _ _ _) hh hpkt
    (by rw [← SkBuff.len]; omega) h0
  unfold txComplete
  rw [hmeta, hs, ok_bind]
  dsimp only
  generalize (if 2 ≤ skb'.len then frameControl k skb' else 0) = fc
  split
  · exact ⟨_, _, rfl, hf⟩
  · exact ⟨_, _, rfl, hf⟩

/-- A padded data frame comes back. -/
theorem txComplete_restores_qosData : ∃ t skb' outcome,
    mac80211Tx sampleKernel sampleDev sampleTxInfo sampleQosData = .ok (some t) ∧
      txComplete sampleKernel sampleDev sampleTxInfo 0 t.skb t.metaWord = .ok (skb', outcome) ∧
      skb'.data = sampleQosData.data := by
  obtain ⟨r, htx, hok, ht⟩ := txComplete_restores sampleKernel sampleDev sampleTxInfo sampleQosData
    rfl (by decide) (by decide) (by decide) (by decide)
  obtain ⟨t, rfl⟩ := Option.isSome_iff_exists.1 (hok sampleKernel_neverFails)
  obtain ⟨skb', outcome, hc, hd⟩ := ht t rfl sampleDev sampleTxInfo 0
  exact ⟨t, skb', outcome, htx, hc, hd⟩

end Driver
