import Mt7603u.Proof.QueueEndpoint
import Mt7603u.Proof.RadioExchange
import Mt7603u.Proof.RxReport

/-!
# Rates and channels between mac80211 and the air

mac80211 names a rate by its index in the tables the driver registers. The TX descriptor and the
vector in front of a received frame name it by codes of the chip, each with a table of its own
(`tx.rs`, `rx.rs`). `rate_round_trip`: when what the receiver's driver makes of the codes the
sender's driver chose is the rate mac80211 asked for. `delivered_status`: in every state calls can
lead to, the status of a received frame names a registered rate and the channel.
-/

namespace Driver

open Effect Slice Skb Word Packed Rust

/-! ## Codes -/

/-- A rate as the chip names it: code, mode, width and short guard interval. -/
structure AirRate where
  code : BitVec 6
  mode : BitVec 3
  width : BitVec 2
  shortGi : Bool
  deriving DecidableEq, Repr

/-- The rate in word 6 of a TX descriptor. -/
def sentRate (dw6 : U32) : AirRate :=
  ⟨dw6.extractLsb' 18 6, dw6.extractLsb' 24 3, dw6.extractLsb' 8 2, dw6.getLsbD 31⟩

/-- The rate in the first word of the RX vector. -/
def vectorRate (rxv1Dw0 : U32) : AirRate :=
  ⟨rxv1Dw0.extractLsb' 0 6, rxv1Dw0.extractLsb' 12 3, rxv1Dw0.extractLsb' 15 2,
    rxv1Dw0.getLsbD 19⟩

/-- The rate byte of a rate on the air. -/
def AirRate.enc (a : AirRate) : U8 :=
  let enc : U8 := (if a.width = 1 then 0x40 else 0) ||| (if a.shortGi then 0x20 else 0)
  if 2 ≤ a.mode then enc ||| (0x80 ||| (a.code.setWidth 8 &&& 0x0f))
  else if a.mode = 1 then enc ||| ofdmIdx (a.code.setWidth 8 &&& 0x0f)
  else enc ||| (a.code.setWidth 8 &&& 0x03)

/-- A field of a word, masked and moved down. -/
theorem field_setWidth (w : U32) (lo n : Nat) :
    (w >>> lo &&& BitVec.ofNat 32 (2 ^ n - 1)).setWidth 8 = (w.extractLsb' lo n).setWidth 8 := by
  apply BitVec.eq_of_getLsbD_eq
  intro i hi
  have h32 : i < 32 := by omega
  simp only [BitVec.getLsbD_setWidth, BitVec.getLsbD_and, BitVec.getLsbD_ushiftRight,
    BitVec.getLsbD_extractLsb', BitVec.getLsbD_ofNat, Nat.testBit_two_pow_sub_one, h32,
    decide_true, Bool.true_and]
  rw [Bool.and_comm (w.getLsbD (lo + i))]

/-- `parse_rx_frame` reads nothing but these four fields. -/
theorem rateEnc_eq (w : U32) : rateEnc w = (vectorRate w).enc := by
  have hcode : (w &&& 0x7f).setWidth 8 &&& 0x0f =
      ((w.extractLsb' 0 6).setWidth 8 &&& 0x0f : U8) := by
    apply BitVec.eq_of_getLsbD_eq
    intro i hi
    simp only [BitVec.getLsbD_setWidth, BitVec.getLsbD_and, BitVec.getLsbD_extractLsb']
    interval_cases i <;> simp
  have hcck : ((w &&& 0x7f).setWidth 8 &&& 0x03 : U8) =
      (w.extractLsb' 0 6).setWidth 8 &&& 0x03 := by
    apply BitVec.eq_of_getLsbD_eq
    intro i hi
    simp only [BitVec.getLsbD_setWidth, BitVec.getLsbD_and, BitVec.getLsbD_extractLsb']
    interval_cases i <;> simp
  have hmode : (w >>> 12 &&& 0x07).setWidth 8 = ((w.extractLsb' 12 3).setWidth 8 : U8) :=
    field_setWidth w 12 3
  have hwidth : (w >>> 15 &&& 0x03).setWidth 8 = ((w.extractLsb' 15 2).setWidth 8 : U8) :=
    field_setWidth w 15 2
  have hgi : (w >>> 19 &&& 0x01).setWidth 8 = ((w.extractLsb' 19 1).setWidth 8 : U8) :=
    field_setWidth w 19 1
  have hmode1 : ∀ m : BitVec 3,
      ((2 : U8) ≤ m.setWidth 8 ↔ 2 ≤ m) ∧ ((m.setWidth 8 : U8) = 1 ↔ m = 1) := by
    decide
  have hwidth1 : ∀ m : BitVec 2, (m.setWidth 8 : U8) = 1 ↔ m = 1 := by decide
  have hgi1 : ∀ b : BitVec 1, (b.setWidth 8 : U8) ≠ 0 ↔ b.getLsbD 0 = true := by decide
  have hbit : (w.extractLsb' 19 1).getLsbD 0 = w.getLsbD 19 := by simp
  unfold rateEnc AirRate.enc vectorRate
  dsimp only
  simp only [hcck, hcode, hmode, hwidth, hgi]
  simp only [(hmode1 _).1, (hmode1 _).2, hwidth1, hgi1, hbit]

/-! ## From mac80211 to the descriptor -/

/-- A rate as mac80211 names it, with width and guard interval. -/
abbrev RateName := RxEncoding × U8 × Bool × Bool

/-- The rate mac80211 asks for, in the first entry of `control.rates`. -/
def askedRate (info : TxInfo) : RateName :=
  if info.rateFlags &&& IEEE80211_TX_RC_MCS ≠ 0 then
    (.ht, info.rateIdx, decide (info.rateFlags &&& IEEE80211_TX_RC_40_MHZ_WIDTH ≠ 0),
      decide (info.rateFlags &&& IEEE80211_TX_RC_SHORT_GI ≠ 0))
  else (.legacy, info.rateIdx, false, false)

/-- The entry is there, and its index is one of the tables the driver registers. -/
def TxInfo.InTables (info : TxInfo) : Prop :=
  0 ≤ info.rateIdx.toInt ∧ info.rateIdx.toInt <
    if info.rateFlags &&& IEEE80211_TX_RC_MCS ≠ 0 then mt7603Mcs else mt7603Rates2ghz.length

/-- What the receiver makes of the rate a descriptor has with these parameters. -/
def nameOf (mode mcs preamble bw : U8) : Option RateName :=
  let p : TxParams := { rateMode := mode, rateMcs := mcs, preamble := preamble, bw := bw }
  match txwiRate p with
  | .ok rate => some (rateStatus (sentRate (txwiDw6 p rate)).enc)
  | .error _ => none

/-- The tables, code by code: frames without a choice, MCS, CCK and OFDM. With a short preamble
there is no code for the lowest CCK rate. -/
theorem nameOf_tables :
    (∀ bw : Fin 2, nameOf 0 0 1 (BitVec.ofNat 8 bw) = some (.legacy, 0, false, false) ∧
      nameOf 1 0 1 (BitVec.ofNat 8 bw) = some (.legacy, 4, false, false)) ∧
    (∀ (m : Fin 16) (b : Fin 2) (wide sgi : Bool),
      nameOf 2 (BitVec.ofNat 8 m &&& 0x0f) (if sgi then 2 else 0)
          (if wide then 1 else BitVec.ofNat 8 b) =
        some (.ht, BitVec.ofNat 8 m, decide (wide ∨ BitVec.ofNat 8 b = 1), sgi)) ∧
    (∀ (m : Fin 4) (short : Bool), nameOf 0 (BitVec.ofNat 8 m) (if short then 0 else 1) 0 =
      some (.legacy, if BitVec.ofNat 8 m = 0 ∧ short then 1 else BitVec.ofNat 8 m, false, false)) ∧
    (∀ m : Fin 12, 4 ≤ (BitVec.ofNat 8 m).toInt →
      nameOf 1 ((BitVec.ofNat 8 m - 4) &&& 0x07) 1 0 =
        some (.legacy, BitVec.ofNat 8 m, false, false)) :=
  ⟨by decide +kernel, by decide +kernel, by decide +kernel, by decide +kernel⟩

/-- When the receiver names the rate as it was asked for. A management frame goes out at the lowest
rate whatever was asked for, an MCS at 40 MHz also if only the device is that wide, and the lowest
rate with a short preamble as the second. -/
def RateKept (dev : Dev) (info : TxInfo) (isMgmt : Bool) : Prop :=
  if isMgmt then info.rateFlags &&& IEEE80211_TX_RC_MCS = 0 ∧ info.rateIdx = 0
  else if info.rateFlags &&& IEEE80211_TX_RC_MCS ≠ 0 then
    info.rateFlags &&& IEEE80211_TX_RC_40_MHZ_WIDTH ≠ 0 ∨ dev.currentBw ≠ 1
  else ¬(info.rateIdx = 0 ∧ info.rateFlags &&& IEEE80211_TX_RC_USE_SHORT_PREAMBLE ≠ 0)

/-- A small index that is not negative, as a number. -/
theorem eq_ofNat_of_toInt {x : U8} {n : Nat} (h0 : 0 ≤ x.toInt) (hn : x.toInt < n) :
    ∃ m : Fin n, x = BitVec.ofNat 8 m := by
  refine ⟨⟨x.toNat, ?_⟩, by simp⟩
  rw [BitVec.toInt_eq_toNat_cond] at h0 hn
  split at hn <;> omega

theorem currentBw_ofNat (dev : Dev) : ∃ b : Fin 2, dev.currentBw = BitVec.ofNat 8 b :=
  ⟨⟨dev.currentBw.toNat, Nat.lt_succ_of_le dev.currentBw_le⟩, by simp⟩

section
variable {dev : Dev} {info : TxInfo}

theorem nameOf_mcs (h0 : 0 ≤ info.rateIdx.toInt) (h16 : info.rateIdx.toInt < 16) (wide sgi : Bool) :
    nameOf 2 (info.rateIdx &&& 0x0f) (if sgi then 2 else 0) (if wide then 1 else dev.currentBw) =
      some (.ht, info.rateIdx, decide (wide ∨ dev.currentBw = 1), sgi) := by
  obtain ⟨b, hbw⟩ := currentBw_ofNat dev
  obtain ⟨m, hm⟩ := eq_ofNat_of_toInt (n := 16) h0 h16
  rw [hm, hbw]
  exact nameOf_tables.2.1 m b wide sgi

theorem nameOf_cck (h0 : 0 ≤ info.rateIdx.toInt) (h4 : info.rateIdx.toInt < 4) (short : Bool) :
    nameOf 0 info.rateIdx (if short then 0 else 1) 0 =
      some (.legacy, if info.rateIdx = 0 ∧ short then 1 else info.rateIdx, false, false) := by
  obtain ⟨m, hm⟩ := eq_ofNat_of_toInt (n := 4) h0 h4
  rw [hm]
  exact nameOf_tables.2.2.1 m short

theorem nameOf_ofdm (h4 : 4 ≤ info.rateIdx.toInt) (h12 : info.rateIdx.toInt < 12) :
    nameOf 1 ((info.rateIdx - 4) &&& 0x07) 1 0 = some (.legacy, info.rateIdx, false, false) := by
  obtain ⟨m, hm⟩ := eq_ofNat_of_toInt (n := 12) (by omega) h12
  rw [hm] at h4 ⊢
  exact nameOf_tables.2.2.2 m h4

/-- A management frame is named as asked for if the lowest rate was asked for. -/
theorem lowest_iff : ((.legacy, 0, false, false) : RateName) = askedRate info ↔
    info.rateFlags &&& IEEE80211_TX_RC_MCS = 0 ∧ info.rateIdx = 0 := by
  unfold askedRate
  split
  · rename_i hmcs
    exact iff_of_false (fun h => by cases congrArg Prod.fst h) fun h => hmcs h.1
  · rename_i hmcs
    constructor
    · exact fun h => ⟨not_not.1 hmcs, (congrArg (fun n => n.2.1) h).symm⟩
    · rintro ⟨-, h⟩
      rw [h]

/-- **The rate of the parameters**, on a channel of the band. -/
theorem nameOf_txRate (m : Bool) (p : TxParams) (hch : dev.currentChannel ≤ 14)
    (ht : info.InTables) :
    ∃ name, nameOf (txRate dev info m p).rateMode (txRate dev info m p).rateMcs
        (txRate dev info m p).preamble (txRate dev info m p).bw = some name ∧
      (name = askedRate info ↔ RateKept dev info m) := by
  obtain ⟨h0, hlt⟩ := ht
  unfold txRate RateKept
  cases m with
  | true =>
    obtain ⟨b, hbw⟩ := currentBw_ofNat dev
    rw [if_neg fun h => h.1 rfl, if_neg (BitVec.not_lt.2 hch), if_pos rfl]
    exact ⟨_, hbw ▸ (nameOf_tables.1 b).1, lowest_iff⟩
  | false =>
    rw [if_pos ⟨by decide, h0⟩, if_neg (by decide : ¬false = true)]
    by_cases hmcs : info.rateFlags &&& IEEE80211_TX_RC_MCS = 0
    swap
    · rw [if_pos hmcs] at hlt
      have h := @nameOf_mcs dev info h0 hlt
        (decide (info.rateFlags &&& IEEE80211_TX_RC_40_MHZ_WIDTH ≠ 0))
        (decide (info.rateFlags &&& IEEE80211_TX_RC_SHORT_GI ≠ 0))
      simp only [decide_eq_true_eq] at h
      rw [askedRate, if_pos hmcs, if_pos hmcs, if_pos hmcs]
      refine ⟨_, h, ?_⟩
      -- only the width can differ
      simp only [Prod.mk.injEq, true_and, and_true, decide_eq_decide]
      tauto
    rw [if_neg (not_not.2 hmcs)] at hlt
    rw [askedRate, if_neg (not_not.2 hmcs), if_neg (not_not.2 hmcs), if_neg (not_not.2 hmcs)]
    by_cases h4 : info.rateIdx.toInt < 4
    · rw [if_pos h4]
      have h := nameOf_cck h0 h4
        (decide (info.rateFlags &&& IEEE80211_TX_RC_USE_SHORT_PREAMBLE ≠ 0))
      simp only [decide_eq_true_eq] at h
      refine ⟨_, h, ?_⟩
      by_cases hsp : info.rateIdx = 0 ∧ info.rateFlags &&& IEEE80211_TX_RC_USE_SHORT_PREAMBLE ≠ 0
      · rw [if_pos hsp, iff_false_right (not_not.2 hsp), hsp.1]
        decide
      · rw [if_neg hsp]
        exact iff_of_true rfl hsp
    · rw [if_neg h4]
      refine ⟨_, nameOf_ofdm (Int.not_lt.1 h4) hlt, iff_of_true rfl fun hc => h4 ?_⟩
      rw [hc.1]
      decide

end

/-! ## The channel -/

/-- After every exchange with the radio, the noted channel is one of those it can be tuned to. -/
theorem radio_channel {d d' : Dev} {tr : List (Event sig)} (h : Radio d tr d') :
    d.currentChannel ≤ 14 → d'.currentChannel ≤ 14 := by
  have hkeep : ∀ {d d' : Dev}, d'.tuning = d.tuning → d.currentChannel ≤ 14 →
      d'.currentChannel ≤ 14 := by
    intro d d' ht hd
    rw [show d'.currentChannel = d.currentChannel from congrArg Prod.fst ht]
    exact hd
  induction h with
  | still _ hr => exact hkeep (congrArg Prod.fst hr)
  | startRefused hr => exact hkeep (congrArg Prod.fst hr)
  | command _ _ _ hr => exact hkeep (congrArg Prod.fst hr)
  | @switch d d' channel _ _ _ _ _ _ _ _ hr =>
    intro _
    have hch : d'.currentChannel = clampChannel channel := congrArg (fun r => r.1.1) hr
    rw [hch, clampChannel]
    split
    · decide
    · rename_i hc
      exact BitVec.not_lt.1 fun h14 => hc (.inr h14)
  | append _ _ ih₁ ih₂ => exact fun hd => ih₂ (ih₁ hd)

theorem channel_runCalls {macAddr : MacAddr} {eepromValid : Bool} {rssiOffset2g : Int}
    {eeprom : List U8} {acts : List Action} {h : Host} {tr : List (Event sig)}
    (ht : Trace (runCalls acts (.registered macAddr eepromValid rssiOffset2g eeprom)) tr h) :
    h.dev.currentChannel ≤ 14 :=
  radio_channel (operates_runCalls acts _ tr h ht) (show (0 : U8) ≤ 14 by decide)

/-! ## From one driver to the other -/

section
variable {k : Kernel} {dev : Dev} {info : TxInfo} {skb : SkBuff U8} {t : Transfer}

/-- The length in front of eight words changes the first of them only. -/
theorem overwrite_words8 (n : U16) (w0 w1 w2 w3 w4 w5 w6 w7 : U32) :
    overwrite 0 (toLe16 n) (words8 w0 w1 w2 w3 w4 w5 w6 w7) =
      words8 (le32 (n.extractLsb' 0 8) (n.extractLsb' 8 8) (w0.extractLsb' 16 8)
        (w0.extractLsb' 24 8)) w1 w2 w3 w4 w5 w6 w7 := by
  have h0 : toLe32 (le32 (n.extractLsb' 0 8) (n.extractLsb' 8 8) (w0.extractLsb' 16 8)
      (w0.extractLsb' 24 8)) = toLe16 n ++ (toLe32 w0).drop 2 := toLe32_le32 _ _ _ _
  unfold words8
  rw [h0]
  rfl

/-- Word 6 of the descriptor of a submitted transfer is that of the Rust side. -/
theorem transfer_dw6 (ht : mac80211Tx k dev info skb = .ok (some t)) :
    ∃ rate, txwiRate (txParams k dev info skb) = .ok rate ∧
      wordAt t.skb.data 6 = txwiDw6 (txParams k dev info skb) rate := by
  obtain ⟨txwi, rest, hr, hd, -⟩ := mac80211Tx_data ht
  obtain ⟨rate, hrate⟩ := txParams_rate k dev info skb
  obtain ⟨heven, hlen, -⟩ := rustCall_buildTxwi_ok hr
  obtain rfl := Except.ok.inj ((rustCall_buildTxwi hrate hlen heven).symm.trans hr)
  refine ⟨rate, hrate, ?_⟩
  rw [hd, statusTxd_eq (txParams k dev info skb) rate]
  have h6 := fun n => wordAt_words8 n (txwiDw1 (txParams k dev info skb))
    (txwiDw2 (txParams k dev info skb)) txwiDw3 0
    (if (txParams k dev info skb).frmType = 2 then 0x1442 else txwiDw5)
    (txwiDw6 (txParams k dev info skb) rate) 0 rest
  split
  · exact (h6 _).2.2.2.2.2.2.1
  · rw [overwrite_words8]
    exact (h6 _).2.2.2.2.2.2.1

/-- What the receiver makes of the rate of a submitted transfer. -/
theorem transfer_rate (ht : mac80211Tx k dev info skb = .ok (some t)) :
    nameOf (txParams k dev info skb).rateMode (txParams k dev info skb).rateMcs
        (txParams k dev info skb).preamble (txParams k dev info skb).bw =
      some (rateStatus (sentRate (wordAt t.skb.data 6)).enc) := by
  obtain ⟨rate, hrate, h6⟩ := transfer_dw6 ht
  unfold nameOf
  rw [h6]
  generalize txParams k dev info skb = p at *
  have hp : txwiRate ⟨0, 0, 0, 0, 0, 0, 0, 0, p.rateMode, p.rateMcs, p.preamble, p.bw, 0, 0⟩ =
      .ok rate := hrate
  dsimp only
  rw [hp]
  rfl

end

/-- The part of the device state RX completion reads. -/
def Dev.rx (dev : Dev) : RxDev := ⟨dev.running, dev.currentChannel, dev.rssiOffset2g⟩

/-- The rate of a status. -/
def RxStatus.rate (st : RxStatus) : RateName := (st.encoding, st.rateIdx, st.bw40, st.shortGi)

/-- The first word of the RX vector of the descriptor that starts with `s`. -/
def rxv1Dw0 (s : List U8) : U32 :=
  le32 (byteAt s (grp3Off (grpVldOf s))) (byteAt s (grp3Off (grpVldOf s) + 1))
    (byteAt s (grp3Off (grpVldOf s) + 2)) (byteAt s (grp3Off (grpVldOf s) + 3))

/-- The descriptor that starts with `s` is there with its RX vector, and names the rate that the
transfer `t` was sent with. -/
def SentAs (t : Transfer) (s : List U8) : Prop :=
  grpVldOf s &&& 0x04 ≠ 0 ∧ vectorRate (rxv1Dw0 s) = sentRate (wordAt t.skb.data 6)

/-- Where a delivered frame comes from. -/
theorem frameAt_of_mem {dbg : Bool} {uninit : Nat → RxInfo} {dev : RxDev} {status : Int}
    {buf : List U8} {ds : List Delivery} {resubmit : Bool}
    (hrun : rxComplete dbg uninit dev status buf = .ok (ds, resubmit)) {d : Delivery}
    (hd : d ∈ ds) : frameAt dev buf d.curPos = some d := by
  obtain ⟨hok, hub⟩ := rxComplete_outcome dbg uninit dev status buf
  by_cases hfit : dbg = true → status = 0 → DumpsFit uninit buf 0
  swap
  · -- a dump out of range delivers nothing
    push Not at hfit
    rw [hub hfit.1 fun h => hfit.2.2 (h hfit.2.1)] at hrun
    cases hrun
  obtain ⟨ds', resubmit', hrun', hds⟩ := hok hfit
  obtain ⟨rfl, rfl⟩ := Prod.mk.inj (Except.ok.inj (hrun'.symm.trans hrun))
  obtain ⟨c, -, hframe⟩ := hds d hd
  rw [(frameAt_some hframe).1]
  exact hframe

theorem status_frameAt {dev : RxDev} {buf : List U8} {c : Nat} {d : Delivery}
    (h : frameAt dev buf c = some d) :
    ∃ b9 b10, d.status = rxStatus dev
      (infoOf (buf.drop c) dev.rssiOffset2g (byteCntOf (buf.drop c)))
      (le16 (byteAt d.data 0) (byteAt d.data 1)) b9 b10 := by
  unfold frameAt at h
  dsimp only at h
  split at h
  · rename_i hg
    have hbyte : ∀ i < 2, byteAt (((buf.drop c).take (byteCntOf (buf.drop c))).drop
        (infoLenOf (buf.drop c))) i = byteAt (buf.drop c) (infoLenOf (buf.drop c) + i) := by
      intro i hi
      rw [byteAt_drop, byteAt_take (by omega)]
    obtain rfl := Option.some.inj h
    refine ⟨byteAt (buf.drop c) 9, byteAt (buf.drop c) 10, ?_⟩
    dsimp only
    rw [hbyte 0 (by decide), hbyte 1 (by decide)]
    rfl
  · cases h

/-- The rate of a delivered frame with a vector. -/
theorem rate_frameAt {dev : RxDev} {buf : List U8} {c : Nat} {d : Delivery}
    (h : frameAt dev buf c = some d) :
    d.status.rate = rateStatus
      (if grpVldOf (buf.drop c) &&& 0x04 ≠ 0 then (vectorRate (rxv1Dw0 (buf.drop c))).enc
        else 0) := by
  obtain ⟨b9, b10, hst⟩ := status_frameAt h
  have hrate : d.status.rate =
      rateStatus (grp3Of (buf.drop c) dev.rssiOffset2g).2 := by
    rw [hst]
    rfl
  rw [hrate, ← rateEnc_eq, grp3Of]
  split
  · rfl
  · rfl

/-- **A rate survives the air.** In every state of a sending driver that calls can lead to, for
every frame it submits with a rate of the registered tables, and for every frame a receiving driver
delivers whose vector names the rate of that transfer: the receiver reports the rate, width and
guard interval mac80211 asked for in exactly the cases of `RateKept`. -/
theorem rate_round_trip {macAddr : MacAddr} {eepromValid : Bool} {rssiOffset2g : Int}
    {eeprom : List U8} {acts : List Action} {h : Host} {tr : List (Event sig)}
    (hcalls : Trace (runCalls acts (.registered macAddr eepromValid rssiOffset2g eeprom)) tr h)
    {k : Kernel} {info : TxInfo} {skb : SkBuff U8} {t : Transfer}
    (ht : mac80211Tx k h.dev info skb = .ok (some t)) (htab : info.InTables)
    {dbg : Bool} {uninit : Nat → RxInfo} {dev : RxDev} {status : Int} {buf : List U8}
    {ds : List Delivery} {resubmit : Bool}
    (hrun : rxComplete dbg uninit dev status buf = .ok (ds, resubmit)) {d : Delivery} (hd : d ∈ ds)
    (hair : SentAs t (buf.drop d.curPos)) :
    d.status.rate = askedRate info ↔ RateKept h.dev info (isMgmt (frameControl k skb)) := by
  obtain ⟨p, hp⟩ : ∃ p, txParams k h.dev info skb =
      txRate h.dev info (isMgmt (frameControl k skb)) p := ⟨_, rfl⟩
  obtain ⟨name, hname, hkept⟩ := @nameOf_txRate h.dev info (isMgmt (frameControl k skb)) p
    (channel_runCalls hcalls) htab
  have hsent := transfer_rate ht
  rw [hp, hname] at hsent
  have hrate := rate_frameAt (frameAt_of_mem hrun hd)
  rw [if_pos hair.1, hair.2, ← Option.some.inj hsent] at hrate
  rw [hrate, hkept]

/-- MCS 7 at 40 MHz with a short guard interval. -/
def fastTxInfo : TxInfo :=
  ⟨0, true, 7, IEEE80211_TX_RC_MCS ||| IEEE80211_TX_RC_40_MHZ_WIDTH ||| IEEE80211_TX_RC_SHORT_GI⟩

/-- A frame of 8 bytes behind a descriptor whose vector names that rate. -/
def fastReceived : List U8 :=
  [48, 0, 0, 0x48] ++ List.replicate 12 0 ++ [0x07, 0xa0, 0x08, 0x00] ++ List.replicate 28 0

theorem fastReceived_sentAs {dev : Dev} {t : Transfer}
    (ht : mac80211Tx sampleKernel dev fastTxInfo sampleQosData = .ok (some t)) :
    SentAs t fastReceived := by
  obtain ⟨rate, hrate, h6⟩ := transfer_dw6 ht
  obtain ⟨p, hp⟩ : ∃ p : TxParams, txParams sampleKernel dev fastTxInfo sampleQosData =
      { p with rateMode := 2, rateMcs := 7, preamble := 2, bw := 1 } := ⟨_, rfl⟩
  rw [hp] at hrate h6
  have hcode : txwiRate { rateMode := 2, rateMcs := 7, preamble := 2, bw := 1 } = .ok rate := hrate
  replace h6 : wordAt t.skb.data 6 =
    txwiDw6 { rateMode := 2, rateMcs := 7, preamble := 2, bw := 1 } rate := h6
  obtain rfl : 0x87 = rate := Except.ok.inj ((by decide : _ = _).symm.trans hcode)
  refine ⟨by decide, ?_⟩
  rw [h6]
  decide

/-- A device after its start, on a host where everything goes well. -/
def startedHost : Host :=
  Prog.eval (S := sig) willing
    (runCalls [.start] (.registered ⟨0x00, 0x0c, 0x43, 0x76, 0x03, 0x01⟩ false 0 []))

theorem trace_startedHost : ∃ tr, Trace (runCalls [.start]
    (.registered ⟨0x00, 0x0c, 0x43, 0x76, 0x03, 0x01⟩ false 0 [])) tr startedHost := by
  obtain ⟨tr, ht, -⟩ := trace_eval (S := sig) willing (runCalls [.start]
    (.registered ⟨0x00, 0x0c, 0x43, 0x76, 0x03, 0x01⟩ false 0 []))
  exact ⟨tr, ht⟩

/-- It is running, on channel 1. -/
theorem startedHost_rx : startedHost.dev.rx = ⟨true, 1, 0⟩ := by decide +kernel

theorem rate_round_trip_fast :
    ∃ tr t d, Trace (runCalls [.start]
        (.registered ⟨0x00, 0x0c, 0x43, 0x76, 0x03, 0x01⟩ false 0 [])) tr startedHost ∧
      mac80211Tx sampleKernel startedHost.dev fastTxInfo sampleQosData = .ok (some t) ∧
      rxComplete false (fun _ => {}) ⟨true, 6, 0⟩ 0 fastReceived = .ok ([d], true) ∧
      d.status.rate = askedRate fastTxInfo ∧ askedRate fastTxInfo = (.ht, 7, true, true) := by
  obtain ⟨tr, ht⟩ := trace_startedHost
  have hrun : startedHost.dev.running = true := congrArg RxDev.running startedHost_rx
  have hh : (txParams sampleKernel startedHost.dev fastTxInfo sampleQosData).hdrLen.toNat = 26 := by
    rw [txParams_hdrLen]
    rfl
  obtain ⟨r, hr, -, hsome⟩ := mac80211Tx_yields sampleKernel startedHost.dev fastTxInfo
    sampleQosData hrun hh (by decide) (by decide) (by decide)
  obtain ⟨t, rfl⟩ := Option.isSome_iff_exists.1 (hsome sampleKernel_neverFails)
  have hrx : rxComplete false (fun _ => {}) ⟨true, 6, 0⟩ 0 fastReceived = .ok ([⟨0, 40,
      List.replicate 8 0, ⟨2437, none, .ht, 7, true, true, false⟩⟩], true) := by decide
  have hkept : RateKept startedHost.dev fastTxInfo
      (isMgmt (frameControl sampleKernel sampleQosData)) := .inl (by decide)
  refine ⟨tr, t, _, ht, hr, hrx, ?_, by decide⟩
  exact (rate_round_trip ht hr (by unfold TxInfo.InTables; decide) hrx (List.mem_singleton.2 rfl)
    (fastReceived_sentAs hr)).2 hkept

/-! ## What mac80211 can do with a status -/

/-- mac80211 finds the rate in the registered tables, and takes a frame for decrypted only if it
says that it was protected. -/
structure Delivery.Accepted (d : Delivery) : Prop where
  legacy : d.status.encoding = .legacy → d.status.rateIdx.toNat < mt7603Rates2ghz.length
  ht : d.status.encoding = .ht → d.status.rateIdx.toNat < mt7603Mcs
  wide : d.status.encoding = .legacy → d.status.bw40 = false ∧ d.status.shortGi = false
  isProtected : d.status.decrypted = true → byteAt d.data 1 &&& 0x40 ≠ 0

/-- What the driver makes of a rate byte whose fifth index bit is clear. -/
theorem rateStatus_index : ∀ r : U8,
    ((rateStatus r).1 = .legacy → (rateStatus r).2.1.toNat < 12 ∧
      (rateStatus r).2.2 = (false, false)) ∧
    (r &&& 0x10 = 0 → (rateStatus r).2.1.toNat < 16) := by
  decide +kernel

/-- The parser leaves that bit clear, whatever the vector says. -/
theorem enc_index (a : AirRate) : a.enc &&& 0x10 = 0 := by
  have hmask : ∀ c m : U8, m &&& 0x10 = 0 → (c &&& m) &&& 0x10 = 0 := by
    intro c m hm
    rw [BitVec.and_assoc, hm]
    exact BitVec.and_zero
  have hofdm : ∀ c : U8, ofdmIdx c &&& 0x10 = 0 := by
    intro c
    unfold ofdmIdx
    split_ifs <;> rfl
  have hor : ∀ x : U8, x &&& 0x10 = 0 → ∀ (w gi : Prop) [Decidable w] [Decidable gi],
      ((if w then 0x40 else 0) ||| (if gi then 0x20 else 0) ||| x) &&& 0x10 = 0 := by
    intro x hx w gi _ _
    rw [BitVec.and_or_distrib_right, hx]
    split <;> split <;> rfl
  unfold AirRate.enc
  dsimp only
  split
  · refine hor _ ?_ _ _
    rw [BitVec.and_or_distrib_right, hmask _ 0x0f rfl]
    rfl
  · split
    · exact hor _ (hofdm _) _ _
    · exact hor _ (hmask _ 0x03 rfl) _ _

/-- The protected bit of the frame control word is that of its second byte. -/
theorem protected_le16 {b0 b1 : U8} (h : b1 &&& 0x40 = 0) : le16 b0 b1 &&& 0x4000 = 0 := by
  have h6 : b1[6] = false := by simpa using congrArg (·.getLsbD 6) h
  apply BitVec.eq_of_getLsbD_eq
  intro i hi
  simp only [le16, BitVec.getLsbD_and, BitVec.getLsbD_append]
  interval_cases i <;> simp [h6]

theorem accepted_of_frameAt {dev : RxDev} {buf : List U8} {c : Nat} {d : Delivery}
    (h : frameAt dev buf c = some d) : d.Accepted := by
  have hrate := rate_frameAt h
  obtain ⟨r, hr, hidx⟩ : ∃ r, d.status.rate = rateStatus r ∧ r &&& 0x10 = 0 := by
    refine ⟨_, hrate, ?_⟩
    split
    · exact enc_index _
    · rfl
  have henc : d.status.encoding = (rateStatus r).1 := congrArg Prod.fst hr
  have hix : d.status.rateIdx = (rateStatus r).2.1 := congrArg (fun n => n.2.1) hr
  have hwide : (d.status.bw40, d.status.shortGi) = (rateStatus r).2.2 :=
    congrArg (fun n => n.2.2) hr
  refine ⟨fun hl => ?_, fun _ => ?_, fun hl => ?_, fun hdec => ?_⟩
  · rw [hix]
    exact ((rateStatus_index r).1 (henc.symm.trans hl)).1
  · rw [hix]
    exact (rateStatus_index r).2 hidx
  · rw [((rateStatus_index r).1 (henc.symm.trans hl)).2] at hwide
    exact Prod.mk.inj hwide
  · obtain ⟨b9, b10, hst⟩ := status_frameAt h
    rw [hst] at hdec
    have hfc : le16 (byteAt d.data 0) (byteAt d.data 1) &&& 0x4000 ≠ 0 :=
      (of_decide_eq_true hdec).1
    exact fun h0 => hfc (protected_le16 h0)

/-- **What is delivered can be accepted.** In every state that calls can lead to, RX completion of
any transfer delivers only frames whose status names a registered rate and whose decryption flags
stand on protected frames; their frequency is that of the registered channel the device is noted
to be on, if and only if that is not channel 14. Before a channel is noted (0) they are reported on
channel 1. -/
theorem delivered_status {macAddr : MacAddr} {eepromValid : Bool} {rssiOffset2g : Int}
    {eeprom : List U8} {acts : List Action} {h : Host} {tr : List (Event sig)}
    (hcalls : Trace (runCalls acts (.registered macAddr eepromValid rssiOffset2g eeprom)) tr h)
    {dbg : Bool} {uninit : Nat → RxInfo} {status : Int} {buf : List U8} {ds : List Delivery}
    {resubmit : Bool} (hrun : rxComplete dbg uninit h.dev.rx status buf = .ok (ds, resubmit))
    {d : Delivery} (hd : d ∈ ds) :
    d.Accepted ∧
      ((∃ c ∈ mt7603Channels2ghz, c.centerFreq = d.status.freq ∧
          c.hwValue = if h.dev.currentChannel ≠ 0 then h.dev.currentChannel else 1) ↔
        h.dev.currentChannel ≠ 14) := by
  have hframe := frameAt_of_mem hrun hd
  refine ⟨accepted_of_frameAt hframe, ?_⟩
  obtain ⟨b9, b10, hst⟩ := status_frameAt hframe
  have hfreq : d.status.freq =
      2407 + (if h.dev.currentChannel ≠ 0 then h.dev.currentChannel.toNat else 1) * 5 := by
    rw [hst]
    rfl
  have htable : ∀ ch : U8, ch ≤ 14 → ((∃ c ∈ mt7603Channels2ghz,
      c.centerFreq = 2407 + (if ch ≠ 0 then ch.toNat else 1) * 5 ∧
        c.hwValue = if ch ≠ 0 then ch else 1) ↔ ch ≠ 14) := by
    decide +kernel
  rw [hfreq]
  exact htable _ (channel_runCalls hcalls)

/-- The frame above, received on channel 1. -/
theorem delivered_status_fast :
    ∃ tr d, Trace (runCalls [.start]
        (.registered ⟨0x00, 0x0c, 0x43, 0x76, 0x03, 0x01⟩ false 0 [])) tr startedHost ∧
      rxComplete false (fun _ => {}) startedHost.dev.rx 0 fastReceived = .ok ([d], true) ∧
      d.Accepted ∧ ∃ c ∈ mt7603Channels2ghz, c.centerFreq = d.status.freq := by
  obtain ⟨tr, ht⟩ := trace_startedHost
  have hrx : rxComplete false (fun _ => {}) startedHost.dev.rx 0 fastReceived = .ok ([⟨0, 40,
      List.replicate 8 0, ⟨2412, none, .ht, 7, true, true, false⟩⟩], true) := by
    rw [startedHost_rx]
    decide
  obtain ⟨hacc, hfreq⟩ := delivered_status ht hrx (List.mem_singleton.2 rfl)
  have hch : startedHost.dev.currentChannel = 1 := congrArg RxDev.currentChannel startedHost_rx
  obtain ⟨c, hc, hcf, -⟩ := hfreq.2 (by rw [hch]; decide)
  exact ⟨tr, _, ht, hrx, hacc, c, hc, hcf⟩

end Driver
