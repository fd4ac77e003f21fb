import Mt7603u.Driver.TxPath
import Mt7603u.Proof.Txd

/-!
# What is submitted for a frame

`mac80211Tx` never panics and fails only where an allocation does. The buffer it submits is the
descriptor, the header, the padding, the body and zeros (`mac80211Tx_yields`), and the descriptor
decodes to the parameters (`tx_transfer`).
-/

namespace Driver

open Slice Skb Word Rust

/-! ## Results that may be dropped -/

/-- `x` does not fail, ends in `Q` if it ends with a value, and does so if `ok` holds. -/
def Yields {α : Type} (ok : Prop) (x : Rs (Option α)) (Q : α → Prop) : Prop :=
  ∃ r, x = .ok r ∧ (∀ a, r = some a → Q a) ∧ (ok → r.isSome)

section
variable {α β : Type} {ok : Prop} {Q : α → Prop} {R : β → Prop}

theorem yields_some {a : α} (h : Q a) : Yields ok (.ok (some a)) Q := by
  refine ⟨some a, rfl, fun b hb => ?_, fun _ => rfl⟩
  obtain rfl := Option.some.inj hb
  exact h

theorem yields_none (h : ¬ok) : Yields ok (.ok none) Q :=
  ⟨none, rfl, by simp, fun hok => absurd hok h⟩

/-- One step after the other; a dropped frame stays dropped. -/
theorem Yields.bind {x : Rs (Option α)} {g : Option α → Rs (Option β)} (hx : Yields ok x Q)
    (hn : g none = .ok none) (hg : ∀ a, Q a → Yields ok (g (some a)) R) :
    Yields ok (x >>= g) R := by
  obtain ⟨r, rfl, hq, hr⟩ := hx
  rw [ok_bind]
  cases r with
  | none =>
    rw [hn]
    exact yields_none fun h => absurd (hr h) (by simp)
  | some a => exact hg a (hq a rfl)

end

/-! ## Parameters -/

/-- The rates `txRate` chooses from: CCK, OFDM or HT. -/
inductive RateChoice : U8 → U8 → U8 → Prop
  | cck {mcs preamble} : mcs < 4 → preamble ≤ 1 → RateChoice 0 mcs preamble
  | ofdm {mcs} : mcs < 8 → RateChoice 1 mcs 1
  | ht {mcs preamble} : RateChoice 2 mcs preamble

theorem txRate_cases (dev : Dev) (info : TxInfo) (m : Bool) (p : TxParams) :
    ∃ mode mcs preamble bw, RateChoice mode mcs preamble ∧ bw ≤ 1 ∧
      txRate dev info m p =
        { p with rateMode := mode, rateMcs := mcs, preamble := preamble, bw := bw } := by
  unfold txRate
  split
  · rename_i hd
    split
    · refine ⟨2, _, _, _, .ht, ?_, rfl⟩
      split
      · decide
      · exact dev.currentBw_le
    · split
      · rename_i h4
        have hmcs : info.rateIdx < 4 := by
          have h0 := hd.2
          rw [BitVec.toInt_eq_toNat_cond] at h0 h4
          bv_omega
        refine ⟨0, _, _, 0, .cck hmcs ?_, by decide, rfl⟩
        split <;> decide
      · refine ⟨1, _, 1, 0, .ofdm ?_, by decide, rfl⟩
        have : ∀ x : U8, x &&& 0x07 < 8 := by decide +kernel
        exact this _
  · split
    · exact ⟨1, 0, 1, _, .ofdm (by decide), dev.currentBw_le, rfl⟩
    · exact ⟨0, 0, 1, _, .cck (by decide) (by decide), dev.currentBw_le, rfl⟩

theorem get_bind_ok {l : List U32} {i : Nat} (h : i < l.length) (f : U32 → U32) :
    ∃ r, (do return f (← Slice.get l i) : Rs U32) = .ok r :=
  ⟨f l[i], by rw [get_of_lt h]; rfl⟩

/-- A chosen rate is in the tables. -/
theorem txwiRate_choice {p : TxParams} (h : RateChoice p.rateMode p.rateMcs p.preamble) :
    ∃ r, txwiRate p = .ok r := by
  unfold txwiRate txRateToTmi
  generalize p.rateMode = mode at h ⊢
  generalize p.preamble = preamble at h ⊢
  have hlen : (p.rateMcs.setWidth 32 : U32).toNat = p.rateMcs.toNat := by
    rw [BitVec.toNat_setWidth, Nat.mod_eq_of_lt (by omega)]
  cases h with
  | cck hmcs hpre =>
    rw [if_pos (by decide)]
    have hlt : p.rateMcs.toNat < 4 := hmcs
    split
    · exact get_bind_ok (l := cckLp) (by rw [hlen]; exact hlt) _
    · exact get_bind_ok (l := cckSp) (by rw [hlen]; exact hlt) _
  | ofdm hmcs =>
    rw [if_neg (by decide), if_pos (by decide)]
    have hlt : p.rateMcs.toNat < 8 := hmcs
    exact get_bind_ok (l := ofdm) (by rw [hlen]; exact hlt) _
  | ht => exact ⟨_, by rw [if_neg (by decide), if_neg (by decide), if_pos (by decide)]; rfl⟩

theorem and_setWidth_le (x : U16) {m : Nat} (hm : m < 256) :
    (x &&& BitVec.ofNat 16 m).setWidth 8 ≤ BitVec.ofNat 8 m := by
  have h : (x &&& BitVec.ofNat 16 m).toNat ≤ m := by
    rw [BitVec.toNat_and, BitVec.toNat_ofNat, Nat.mod_eq_of_lt (by omega)]
    exact Nat.and_le_right
  rw [BitVec.le_def, BitVec.toNat_setWidth, BitVec.toNat_ofNat]
  omega

section
variable (k : Kernel) (dev : Dev) (info : TxInfo) (skb : SkBuff U8)

/-- **What the parameters can be.** -/
theorem txParams_cases : ∃ mode mcs preamble bw noAck queue pid,
    RateChoice mode mcs preamble ∧ bw ≤ 1 ∧ noAck ≤ 1 ∧
    txParams k dev info skb =
      { hdrLen := BitVec.ofNat 8 (k.hdrlen (frameControl k skb))
        frmType := ((frameControl k skb >>> 2) &&& 0x3).setWidth 8
        subType := ((frameControl k skb >>> 4) &&& 0xf).setWidth 8
        isBm := k.byte skb 4 &&& 0x01
        pktLen := BitVec.ofNat 16 skb.len
        protectFrm := if info.hwKey then 1 else 0
        rateMode := mode, rateMcs := mcs, preamble := preamble, bw := bw
        noAck := noAck, queue := queue, pid := pid } := by
  have hbm : ∀ b : U8, b &&& 0x01 ≤ 1 := by decide +kernel
  unfold txParams
  dsimp only
  obtain ⟨mode, mcs, preamble, bw, hr, hbw, he⟩ :=
    txRate_cases dev info (isMgmt (frameControl k skb)) _
  rw [he]
  split
  · refine ⟨mode, mcs, preamble, bw, _, _, _, hr, hbw, ?_, rfl⟩
    dsimp only
    split <;> decide
  · exact ⟨mode, mcs, preamble, bw, _, _, _, hr, hbw, hbm _, rfl⟩

theorem txParams_hdrLen :
    (txParams k dev info skb).hdrLen = BitVec.ofNat 8 (k.hdrlen (frameControl k skb)) := by
  obtain ⟨_, _, _, _, _, _, _, -, -, -, he⟩ := txParams_cases k dev info skb
  rw [he]

theorem txParams_pktLen : (txParams k dev info skb).pktLen = BitVec.ofNat 16 skb.len := by
  obtain ⟨_, _, _, _, _, _, _, -, -, -, he⟩ := txParams_cases k dev info skb
  rw [he]

/-- The rate is one of the tables'. -/
theorem txParams_rate : ∃ r, txwiRate (txParams k dev info skb) = .ok r := by
  obtain ⟨_, _, _, _, _, _, _, hr, -, -, he⟩ := txParams_cases k dev info skb
  apply txwiRate_choice
  rw [he]
  exact hr

/-- Only HT rates have a guard interval. -/
theorem RateChoice.isHt {mode mcs preamble : U8} (h : RateChoice mode mcs preamble)
    (hp : preamble &&& 0x2 ≠ 0) : Rust.isHt (mode.setWidth 32) := by
  have hlow : ∀ x : U8, x ≤ 1 → x &&& 0x2 = 0 := by decide +kernel
  cases h with
  | cck hmcs hpre => exact absurd (hlow _ hpre) hp
  | ofdm hmcs => exact absurd rfl hp
  | ht => rfl

/-- The parameters fit the descriptor. -/
theorem txParams_fits (hh : k.hdrlen (frameControl k skb) ≤ 62) :
    (txParams k dev info skb).Fits := by
  have hbm : ∀ b : U8, b &&& 0x01 ≤ 1 := by decide +kernel
  obtain ⟨mode, mcs, preamble, bw, noAck, queue, pid, hr, hbw, hna, he⟩ :=
    txParams_cases k dev info skb
  rw [he]
  constructor
  · rw [BitVec.le_def, BitVec.toNat_ofNat]
    exact Nat.le_trans (Nat.mod_le _ _) hh
  · exact and_setWidth_le _ (by decide)
  · exact and_setWidth_le _ (by decide)
  · exact hna
  · exact hbm _
  · exact hbw
  · dsimp only
    split <;> decide
  · exact hr.isHt

end

/-! ## Framing -/

theorem sub32_eq {a b : Nat} (hb : b ≤ a) (ha : a < 2 ^ 32) : sub32 a b = a - b := by
  unfold sub32
  omega

section
variable {k : Kernel} {skb : SkBuff U8}

theorem expandTail_spec (k : Kernel) (skb : SkBuff U8) (n : Nat) :
    (∀ skb', expandTail k skb n = some skb' → skb'.data = skb.data ∧ n ≤ skb'.tailroom) ∧
      (k.NeverFails → (expandTail k skb n).isSome) := by
  unfold expandTail
  split
  · refine ⟨fun skb' h => ?_, fun h => h.copyExpand _ _ _⟩
    obtain ⟨h1, -, h3⟩ := k.copyExpand_spec h
    exact ⟨h1, h3⟩
  · refine ⟨fun skb' h => ?_, fun _ => rfl⟩
    obtain rfl := Option.some.inj h
    exact ⟨rfl, by omega⟩

theorem expandHead_spec (k : Kernel) (skb : SkBuff U8) (n : Nat) :
    (∀ skb', expandHead k skb n = some skb' → skb'.data = skb.data ∧ n ≤ skb'.headroom) ∧
      (k.NeverFails → (expandHead k skb n).isSome) := by
  unfold expandHead
  split
  · exact ⟨fun skb' h => k.reallocHeadroom_spec h, fun h => h.reallocHeadroom _ _⟩
  · refine ⟨fun skb' h => ?_, fun _ => rfl⟩
    obtain rfl := Option.some.inj h
    exact ⟨rfl, by omega⟩

/-- A gap of zeros behind the header. -/
theorem padHeader_yields {h pad : Nat} (hh : h ≤ skb.len) (hl : skb.len + pad < 2 ^ 32) :
    Yields k.NeverFails (padHeader k skb h pad) fun skb' =>
      skb'.data = skb.data.take h ++ List.replicate pad 0 ++ skb.data.drop h := by
  unfold padHeader
  split
  · obtain ⟨hs, ho⟩ := expandTail_spec k skb pad
    cases he : expandTail k skb pad with
    | none => exact yields_none fun h => absurd (ho h) (by simp [he])
    | some skb' =>
      obtain ⟨hd, ht⟩ := hs skb' he
      have hlen : skb'.len = skb.len := by rw [SkBuff.len, hd, ← SkBuff.len]
      obtain ⟨s', hput, hl', hgap⟩ := SkBuff.put_move_store skb' h (List.replicate pad 0) (by omega)
        (by simpa using ht)
      rw [List.length_replicate] at hput hl' hgap
      have h1 : sub32 (skb'.len + pad) h = skb'.len + pad - h := sub32_eq (by omega) (by omega)
      have h2 : sub32 (skb'.len + pad - h) pad = skb'.len - h := by
        rw [sub32_eq (by omega) (by omega)]
        omega
      dsimp only
      rw [hput, ok_bind, hl', h1, h2, ← bind_assoc, hgap, hd]
      exact yields_some rfl
  · have hp : pad = 0 := by omega
    subst hp
    exact yields_some (by simp)

/-- The descriptor in front, with the length of the DMA in it off the management path. -/
theorem pushTxd_eq (skb : SkBuff U8) (txwi : List U8) (m : Bool) (hw : txwi.length = 32)
    (hr : 32 ≤ skb.headroom) :
    ∃ skb', pushTxd skb txwi m = .ok skb' ∧
      skb'.data = (if m then txwi else
        overwrite 0 (toLe16 (BitVec.ofNat 16 (roundup4 (32 + skb.len)))) txwi) ++ skb.data := by
  have hpush := SkBuff.push_store skb txwi (by omega)
  rw [hw] at hpush
  unfold pushTxd
  rw [← bind_assoc, hpush, ok_bind]
  cases m with
  | true => exact ⟨_, rfl, rfl⟩
  | false =>
    have hlen : (txwi ++ skb.data).length = 32 + skb.len := by
      rw [List.length_append, hw, SkBuff.len]
    rw [if_neg (by simp), SkBuff.store,
      if_pos (by simp only [SkBuff.len, hlen, length_toLe16]; omega)]
    refine ⟨_, rfl, ?_⟩
    rw [if_neg (by simp)]
    simp only [SkBuff.len, hlen]
    exact overwrite_append (by rw [length_toLe16, hw]; omega)

/-- Zeros up to a multiple of four, and four more. -/
theorem padTail_yields :
    Yields k.NeverFails (padTail k skb) fun skb' =>
      skb'.data = skb.data ++ List.replicate (roundup4 skb.len + 4 - skb.len) 0 := by
  unfold padTail
  dsimp only
  generalize hn : roundup4 skb.len + 4 - skb.len = n
  obtain ⟨hs, ho⟩ := expandTail_spec k skb n
  cases he : expandTail k skb n with
  | none => exact yields_none fun h => absurd (ho h) (by simp [he])
  | some skb' =>
    obtain ⟨hd, ht⟩ := hs skb' he
    have hput := SkBuff.put_store skb' (List.replicate n 0) (by simpa using ht)
    rw [List.length_replicate] at hput
    dsimp only
    rw [← bind_assoc, hput, hd]
    exact yields_some rfl

end

/-! ## The whole path -/

/-- The descriptor from the Rust side. -/
theorem rustCall_buildTxwi {p : TxParams} {rate : U32} (hr : txwiRate p = .ok rate)
    (hl : p.pktLen.toNat + 32 ≤ 0xffff) (he : p.hdrLen.toNat % 2 = 0) :
    rustCall (buildTxwi p) 32 = .ok (txwiImage p rate) := by
  have heven : ∀ h : U8, h.toNat % 2 = 0 → h.setWidth 32 &&& 1 = (0 : U32) := by decide +kernel
  unfold rustCall callOn
  rw [buildTxwi_eq p _ (by simp [TXWI_SIZE]) hl (heven _ he), hr]
  rfl

/-- The descriptor with the status report asked for, word by word. -/
theorem statusTxd_eq (p : TxParams) (rate : U32) :
    (if p.frmType = 2 then requestStatus (txwiImage p rate) else txwiImage p rate) =
      words8 (txwiDw0 p) (txwiDw1 p) (txwiDw2 p) txwiDw3 0
        (if p.frmType = 2 then 0x1442 else txwiDw5) (txwiDw6 p rate) 0 := by
  split
  · have h5 : toLe32 0x1442 = [0x42, txwiDw5.extractLsb' 8 8 ||| 0x04, txwiDw5.extractLsb' 16 8,
        txwiDw5.extractLsb' 24 8] := by decide
    unfold words8
    rw [h5]
    rfl
  · rfl

/-- The header padding. -/
def padOf (hdrLen : Nat) : Nat := (4 - hdrLen % 4) % 4

theorem hdrPadLen_eq : ∀ h : U8, (4 - (h.toNat &&& 0x03)) &&& 0x03 = padOf h.toNat := by
  decide +kernel

/-- The buffer for a frame: descriptor, header, padding, body, zeros. -/
def txBuffer (txd f : List U8) (h : Nat) : List U8 :=
  txd ++ (f.take h ++ List.replicate (padOf h) 0 ++ f.drop h) ++
    List.replicate (roundup4 (32 + padOf h + f.length) + 4 - (32 + padOf h + f.length)) 0

/-- The length the descriptor announces. -/
def txByteCnt (mgmt : Bool) (n : Nat) : Nat := if mgmt then n else roundup4 n

/-- Both patches on the descriptor. -/
theorem patchedTxd_eq {p : TxParams} {rate : U32} {n : Nat}
    (hn : n = 32 + padOf p.hdrLen.toNat + p.pktLen.toNat) (hl : n ≤ 65535) (m : Bool) :
    (if m then (if p.frmType = 2 then requestStatus (txwiImage p rate) else txwiImage p rate)
      else overwrite 0 (toLe16 (BitVec.ofNat 16 (roundup4 n)))
        (if p.frmType = 2 then requestStatus (txwiImage p rate) else txwiImage p rate)) =
      patchedTxd p rate (BitVec.ofNat 16 (txByteCnt m n)) := by
  have hsum : p.pktLen.toNat + (4 - p.hdrLen.toNat % 4) % 4 + 32 = n := by
    rw [hn, padOf]
    omega
  rw [statusTxd_eq, txwiDw0_eq (by omega), hsum]
  cases m with
  | true => rfl
  | false => exact overwrite_len _ _ _ _ _ _ _ _ _ _

section
variable (k : Kernel) (dev : Dev) (info : TxInfo) (skb : SkBuff U8)

/-- **What is submitted**, for any frame that is long enough for its header and fits the length
field of the descriptor. -/
theorem mac80211Tx_yields (hrun : dev.running = true) {h : Nat}
    (hh : (txParams k dev info skb).hdrLen.toNat = h) (he : h % 2 = 0) (hle : h ≤ skb.len)
    (hl : 32 + padOf h + skb.len ≤ 65535) :
    Yields k.NeverFails (mac80211Tx k dev info skb) fun t =>
      ∃ rate, txwiRate (txParams k dev info skb) = .ok rate ∧
        t.skb.data = txBuffer (patchedTxd (txParams k dev info skb) rate (BitVec.ofNat 16
          (txByteCnt (isMgmt (frameControl k skb)) (32 + padOf h + skb.len)))) skb.data h ∧
        t.metaWord = txMeta (txParams k dev info skb) (padOf h) := by
  obtain ⟨rate, hrate⟩ := txParams_rate k dev info skb
  have hpkt : (txParams k dev info skb).pktLen.toNat = skb.len := by
    rw [txParams_pktLen, BitVec.toNat_ofNat, Nat.mod_eq_of_lt (by omega)]
  unfold mac80211Tx
  generalize txParams k dev info skb = p at *
  dsimp only
  rw [if_neg (by simp [hrun]), rustCall_buildTxwi hrate (by omega) (by rw [hh]; exact he),
    hdrPadLen_eq, hh]
  dsimp only
  refine Yields.bind (padHeader_yields hle (by omega)) rfl fun skb₁ hd₁ => ?_
  dsimp only
  obtain ⟨hs, ho⟩ := expandHead_spec k skb₁ 32
  cases hx : expandHead k skb₁ 32 with
  | none => exact yields_none fun hok => absurd (ho hok) (by simp [hx])
  | some skb₂ =>
    obtain ⟨hd₂, hroom⟩ := hs skb₂ hx
    have hlen₂ : 32 + skb₂.len = 32 + padOf h + skb.len := by
      rw [SkBuff.len, hd₂, hd₁, SkBuff.len]
      simp only [List.length_append, List.length_take, List.length_drop, List.length_replicate]
      rw [SkBuff.len] at hle
      omega
    obtain ⟨skb₃, hpush, hd₃⟩ := pushTxd_eq skb₂
      (if p.frmType = 2 then requestStatus (txwiImage p rate) else txwiImage p rate)
      (isMgmt (frameControl k skb)) (by rw [statusTxd_eq]; rfl) hroom
    rw [hlen₂, patchedTxd_eq (by rw [hh, hpkt]) hl, hd₂, hd₁] at hd₃
    have hlen₃ : skb₃.len = 32 + padOf h + skb.len := by
      rw [← hlen₂, SkBuff.len, hd₃, ← hd₁, ← hd₂, List.length_append, length_patchedTxd, SkBuff.len]
    dsimp only
    rw [hpush, ok_bind]
    refine Yields.bind padTail_yields rfl fun skb₄ hd₄ => ?_
    dsimp only
    split
    · refine yields_some ⟨rate, hrate, ?_, rfl⟩
      dsimp only
      rw [hd₄, hlen₃, hd₃]
      rfl
    · rename_i hu
      exact yields_none fun hok => hu hok.allocUrb

end

/-! ## The transfer -/

/-- The buffer `d` carries the frame `f` with a header of `h` bytes. -/
structure Carries (d f : List U8) (h : Nat) : Prop where
  length : d.length = roundup4 (32 + padOf h + f.length) + 4
  header : (d.drop 32).take h = f.take h
  pad : (d.drop (32 + h)).take (padOf h) = List.replicate (padOf h) 0
  body : (d.drop (32 + h + padOf h)).take (f.length - h) = f.drop h
  zeros : ∀ b ∈ d.drop (32 + padOf h + f.length), b = 0

theorem carries_txBuffer {txd f : List U8} {h : Nat} (ht : txd.length = 32) (hh : h ≤ f.length) :
    Carries (txBuffer txd f h) f h := by
  have ha : (f.take h).length = h := by simp [hh]
  have hb : (f.drop h).length = f.length - h := List.length_drop
  have hz : (List.replicate (padOf h) (0 : U8)).length = padOf h := List.length_replicate
  have hr : 32 + padOf h + f.length ≤ roundup4 (32 + padOf h + f.length) := by
    unfold roundup4
    omega
  have h32 : (txBuffer txd f h).drop 32 = f.take h ++ (List.replicate (padOf h) 0 ++ (f.drop h ++
      List.replicate (roundup4 (32 + padOf h + f.length) + 4 - (32 + padOf h + f.length)) 0)) := by
    rw [txBuffer, List.append_assoc, List.drop_left' ht]
    simp only [List.append_assoc]
  have hpad : (txBuffer txd f h).drop (32 + h) = List.replicate (padOf h) 0 ++ (f.drop h ++
      List.replicate (roundup4 (32 + padOf h + f.length) + 4 - (32 + padOf h + f.length)) 0) := by
    rw [← List.drop_drop, h32, List.drop_left' ha]
  have hbody : (txBuffer txd f h).drop (32 + h + padOf h) = f.drop h ++
      List.replicate (roundup4 (32 + padOf h + f.length) + 4 - (32 + padOf h + f.length)) 0 := by
    rw [← List.drop_drop, hpad, List.drop_left' hz]
  refine ⟨?_, ?_, ?_, ?_, ?_⟩
  · unfold txBuffer
    simp only [List.length_append, List.length_replicate, ht, ha, hb]
    omega
  · rw [h32, List.take_left' ha]
  · rw [hpad, List.take_left' hz]
  · rw [hbody, List.take_left' hb]
  · rw [show 32 + padOf h + f.length = 32 + h + padOf h + (f.length - h) by omega,
      ← List.drop_drop, hbody, List.drop_left' hb]
    exact fun b hb => List.eq_of_mem_replicate hb

/-- **What the device reads.** -/
theorem tx_transfer (k : Kernel) (dev : Dev) (info : TxInfo) (skb : SkBuff U8)
    (hrun : dev.running = true) (he : k.hdrlen (frameControl k skb) % 2 = 0)
    (h62 : k.hdrlen (frameControl k skb) ≤ 62) (hle : k.hdrlen (frameControl k skb) ≤ skb.len)
    (hl : 32 + padOf (k.hdrlen (frameControl k skb)) + skb.len ≤ 65532) :
    ∃ txwi rate r, rustCall (buildTxwi (txParams k dev info skb)) 32 = .ok txwi ∧
      txwiRate (txParams k dev info skb) = .ok rate ∧
      (txParams k dev info skb).hdrLen.toNat = k.hdrlen (frameControl k skb) ∧
      mac80211Tx k dev info skb = .ok r ∧ (k.NeverFails → r.isSome) ∧
      ∀ t, r = some t →
        Carries t.skb.data skb.data (k.hdrlen (frameControl k skb)) ∧
        TxdHas t.skb.data (txByteCnt (isMgmt (frameControl k skb))
          (32 + padOf (k.hdrlen (frameControl k skb)) + skb.len))
          (txParams k dev info skb) rate := by
  have hh : (txParams k dev info skb).hdrLen.toNat = k.hdrlen (frameControl k skb) := by
    rw [txParams_hdrLen, BitVec.toNat_ofNat, Nat.mod_eq_of_lt (by omega)]
  have hfits := txParams_fits k dev info skb h62
  have hpkt : (txParams k dev info skb).pktLen.toNat = skb.len := by
    rw [txParams_pktLen, BitVec.toNat_ofNat, Nat.mod_eq_of_lt (by omega)]
  obtain ⟨rate, hrate⟩ := txParams_rate k dev info skb
  obtain ⟨r, htx, hr, hok⟩ := mac80211Tx_yields k dev info skb hrun hh he hle (by omega)
  refine ⟨_, rate, r, rustCall_buildTxwi hrate (by omega) (by rw [hh]; exact he), hrate, hh, htx,
    hok, fun t ht => ?_⟩
  obtain ⟨rate', hrate', hd, -⟩ := hr t ht
  obtain rfl : rate' = rate := by
    rw [hrate] at hrate'
    exact (Except.ok.inj hrate').symm
  rw [hd]
  have hcnt : txByteCnt (isMgmt (frameControl k skb))
      (32 + padOf (k.hdrlen (frameControl k skb)) + skb.len) < 2 ^ 16 := by
    unfold txByteCnt roundup4
    split <;> omega
  have htxd := txdHas_patchedTxd hfits rate' (BitVec.ofNat 16 (txByteCnt
    (isMgmt (frameControl k skb)) (32 + padOf (k.hdrlen (frameControl k skb)) + skb.len)))
  refine ⟨carries_txBuffer (length_patchedTxd _ _ _) hle, ?_⟩
  rw [BitVec.toNat_ofNat, Nat.mod_eq_of_lt hcnt] at htxd
  rw [txBuffer, List.append_assoc]
  exact htxd _

/-- A kernel whose allocations succeed and give exactly the room asked for. -/
def sampleKernel : Kernel where
  hdrlen fc := if fc &&& 0x008C = 0x0088 then 26 else 24
  behind _ := 0
  copyExpand skb h t := some ⟨List.replicate h 0, skb.data, List.replicate t 0⟩
  reallocHeadroom skb h := some ⟨List.replicate h 0, skb.data, skb.tail⟩
  allocUrb := true
  copyExpand_spec h := by
    obtain rfl := Option.some.inj h
    simp [SkBuff.headroom, SkBuff.tailroom]
  reallocHeadroom_spec h := by
    obtain rfl := Option.some.inj h
    simp [SkBuff.headroom]

theorem sampleKernel_neverFails : sampleKernel.NeverFails := ⟨fun _ _ _ => rfl, fun _ _ => rfl, rfl⟩

/-- A QoS data frame with a body of four bytes, in a buffer without room to spare. -/
def sampleQosData : SkBuff U8 :=
  ⟨[], [0x88, 0x01] ++ List.replicate 24 0 ++ [0xAA, 0xAA, 0x03, 0x00], []⟩

def sampleTxInfo : TxInfo := ⟨0, true, 7, IEEE80211_TX_RC_MCS⟩

/-- The device in use. -/
def sampleDev : Dev := { Dev.zeroed with running := true, currentChannel := 6 }

theorem tx_transfer_qosData : ∃ t rate,
    mac80211Tx sampleKernel sampleDev sampleTxInfo sampleQosData = .ok (some t) ∧
      Carries t.skb.data sampleQosData.data 26 ∧
      TxdHas t.skb.data 64 (txParams sampleKernel sampleDev sampleTxInfo sampleQosData) rate := by
  obtain ⟨txwi, rate, r, -, -, -, htx, hok, ht⟩ := tx_transfer sampleKernel sampleDev sampleTxInfo
    sampleQosData rfl (by decide) (by decide) (by decide) (by decide)
  obtain ⟨t, rfl⟩ := Option.isSome_iff_exists.1 (hok sampleKernel_neverFails)
  obtain ⟨hc, hd⟩ := ht t rfl
  exact ⟨t, rate, htx, hc, hd⟩

end Driver
