import Mt7603u.Proof.Callbacks
import Mt7603u.Proof.Exchange
import Mt7603u.Proof.FwTxd

/-!
# Channel switches on the bus

What `setChannelExt` exchanges with the device (`trace_setChannelExt`): the channel switch command,
the write of `RMAC_CHFREQ` and the TX power command. Each command is either sent or, for lack of
memory, skipped (`Sent`); `decodeRun` reads a transfer back as the device does.

Two results compare commands with each other: the two of one switch (`chandef_centres_agree_iff`),
and those by which different callbacks tune to one channel definition (`retune_paths_agree_iff`).
-/

namespace Driver

open Effect Slice Word Rust

/-! ## Commands of the running firmware -/

/-- The frame of a command. -/
def cmdImage (extCid seq : U8) (payload : List U8) : List U8 :=
  fwTxdImage EXT_CID P1_Q0 CMD_SET extCid seq true FW_TXD_FULL_SIZE payload

/-- A transfer as the device reads it, without its padding. -/
def decodeRun (buf : List U8) : Option FwTxd :=
  decodeFwTxd FW_TXD_FULL_SIZE (buf.take (buf.length - MT7603_USB_END_PADDING))

section
variable {extCid seq : U8} {payload : List U8} {max : Nat}

theorem length_cmdImage : (cmdImage extCid seq payload).length = payload.length + 32 :=
  length_fwTxdImage

theorem fills_extCmd (h : payload.length ≤ 1000) :
    (extCmd extCid seq payload).Fills (cmdImage extCid seq payload) :=
  fills_buildFwTxdFrame (by unfold FW_TXD_HDR_SIZE FW_TXD_FULL_SIZE; omega)
    (by unfold FW_TXD_FULL_SIZE; omega)

theorem decodeRun_padded : decodeRun (padded (cmdImage extCid seq payload)) =
    some ⟨BitVec.ofNat 16 (payload.length + FW_TXD_FULL_SIZE), P1_Q0, EXT_CID, CMD_SET, seq, extCid,
      extCidOption EXT_CID CMD_SET seq true, payload⟩ := by
  have htake : (padded (cmdImage extCid seq payload)).take
      ((padded (cmdImage extCid seq payload)).length - MT7603_USB_END_PADDING) =
      cmdImage extCid seq payload := by
    rw [padded, List.length_append, List.length_replicate, Nat.add_sub_cancel, List.take_left]
  rw [decodeRun, htake]
  exact decode_fwTxdImage (by decide)

/-- A command is built, so sending it is `mt7603_usb_send_cmd`. -/
theorem sendBuilt_extCmd (h : payload.length ≤ 1000) (hm : payload.length + 32 ≤ max) :
    sendBuilt (extCmd extCid seq payload) max =
      (usbSendCmd (cmdImage extCid seq payload) >>= fun _ => return ()) := by
  have hne : cmdImage extCid seq payload ≠ [] := by
    rw [← List.length_pos_iff, length_cmdImage]
    omega
  unfold sendBuilt
  rw [rustCall_of_fills (fills_extCmd h) (by rw [length_cmdImage]; exact hm)]
  exact if_pos hne

/-- Sending a command allocates its transfer and sends it. -/
theorem all_sendCmd {X : Req → Prop} (h : payload.length ≤ 1000) (hm : payload.length + 32 ≤ max)
    (ha : X (.alloc (payload.length + 36)))
    (hb : X (.bulkOut MT7603_CMD_BULK_OUT (padded (cmdImage extCid seq payload)))) :
    All (S := sig) X (sendBuilt (extCmd extCid seq payload) max) := by
  rw [sendBuilt_extCmd h hm]
  have halloc : X (.alloc ((cmdImage extCid seq payload).length + MT7603_USB_END_PADDING)) := by
    rw [length_cmdImage]
    exact ha
  refine all_bind (all_bind (all_alloc halloc) fun ok => ?_) fun _ => trivial
  cases ok with
  | false => trivial
  | true => exact all_bind (all_request.2 hb) fun _ => trivial

end

/-- The exchange of a command: no memory for it, or its transfer. -/
def Sent (frame : List U8) (tr : List (Event sig)) : Prop :=
  tr = [⟨.alloc (frame.length + MT7603_USB_END_PADDING), false⟩] ∨
    ∃ r : Int, tr = [⟨.alloc (frame.length + MT7603_USB_END_PADDING), true⟩,
      ⟨.bulkOut MT7603_CMD_BULK_OUT (padded frame), r⟩]

theorem trace_sendExt {extCid seq : U8} {payload : List U8} {max : Nat} {tr : List (Event sig)}
    {u : Unit} (h : payload.length ≤ 1000) (hm : payload.length + 32 ≤ max)
    (ht : Trace (sendBuilt (extCmd extCid seq payload) max) tr u) :
    Sent (cmdImage extCid seq payload) tr := by
  rw [sendBuilt_extCmd h hm] at ht
  obtain ⟨ret, t₁, t₂, rfl, h1, h2⟩ := trace_bind.1 ht
  obtain ⟨-, rfl⟩ := trace_ret.1 h2
  rw [List.append_nil]
  rcases trace_usbSendCmd h1 with ⟨-, hf⟩ | ⟨r, hs, -⟩
  · exact .inl hf
  · exact .inr ⟨r, hs⟩

/-! ## One switch -/

/-- The parameters as `mt7603_set_channel_ext` limits them. -/
def clampChannel (channel : U8) : U8 := if channel < 1 ∨ 14 < channel then 1 else channel

def clampCentral (channel centralCh : U8) : U8 :=
  if centralCh < 1 ∨ 14 < centralCh then clampChannel channel else centralCh

def clampBw (bw : U8) : U8 := if 1 < bw then 0 else bw

/-- The channel switch command. -/
def switchCmd (seq channel bw centralCh : U8) : List U8 :=
  cmdImage EXT_CMD_CHANNEL_SWITCH seq
    (channelSwitchPayload (clampChannel channel) (clampCentral channel centralCh) (clampBw bw) 2 2)

/-- The TX power command. -/
def powerCmd (eeprom : List U8) (seq channel : U8) : List U8 :=
  cmdImage EXT_CMD_SET_TX_POWER_CTRL seq (txPowerCtrlPayload eeprom (clampChannel channel))

theorem length_txPowerCtrlPayload {eeprom : List U8} {centralCh : U8} :
    (txPowerCtrlPayload eeprom centralCh).length = 44 := by
  simp [txPowerCtrlPayload, List.range_succ]

/-- **The exchange of a channel switch**, and the device state after it. -/
theorem trace_setChannelExt {dev dev' : Dev} {channel bw centralCh : U8} {tr : List (Event sig)}
    (h : Trace (setChannelExt dev channel bw centralCh) tr dev') :
    (∃ t₁ r t₂, tr = t₁ ++ writeEvent RMAC_CHFREQ 1 r :: t₂ ∧
      Sent (switchCmd (nextSeq dev.cmdSeq) channel bw centralCh) t₁ ∧
      Sent (powerCmd dev.eeprom (nextSeq (nextSeq dev.cmdSeq)) channel) t₂) ∧
    dev'.currentChannel = clampChannel channel ∧ dev'.currentBw = clampBw bw := by
  unfold setChannelExt at h
  obtain ⟨_, t₁, t₂, rfl, h1, h2⟩ := trace_bind.1 h
  obtain ⟨_, t₃, t₄, rfl, h3, h4⟩ := trace_bind.1 h2
  obtain ⟨_, t₅, t₆, rfl, h5, h6⟩ := trace_bind.1 h4
  obtain ⟨rfl, rfl⟩ := trace_ret.1 h6
  obtain ⟨r, rfl, -⟩ := trace_usbWriteReg h3
  have hsw : (channelSwitchPayload (clampChannel channel) (clampCentral channel centralCh)
      (clampBw bw) 2 2).length = 36 := rfl
  have hpw := @length_txPowerCtrlPayload dev.eeprom (clampChannel channel)
  refine ⟨⟨t₁, r, t₅, by rw [List.append_nil]; rfl, ?_, ?_⟩, rfl, rfl⟩
  · exact trace_sendExt (by omega) (by omega) h1
  · exact trace_sendExt (by omega) (by omega) h5

theorem Sent.sends {frame : List U8} {tr : List (Event sig)} (h : Sent frame tr) :
    (sends tr = [] ∧ ∃ n, (⟨.alloc n, false⟩ : Event sig) ∈ tr) ∨
      (sends tr = [padded frame] ∧ ∀ n, (⟨.alloc n, false⟩ : Event sig) ∉ tr) := by
  rcases h with rfl | ⟨r, rfl⟩
  · exact .inl ⟨rfl, _, List.mem_singleton.2 rfl⟩
  · refine .inr ⟨rfl, fun n hn => ?_⟩
    rcases List.mem_cons.1 hn with hn | hn
    · cases hn
    · cases List.mem_singleton.1 hn

/-! ## The two commands of one switch -/

theorem toNat_nextSeq (seq : U8) : (nextSeq seq).toNat = seq.toNat % 15 + 1 := by
  have h15 : (15 : U8).toNat = 15 := rfl
  have h1 : (1 : U8).toNat = 1 := rfl
  rw [nextSeq, BitVec.toNat_add, BitVec.toNat_umod, h15, h1]
  omega

theorem nextSeq_ne_zero (seq : U8) : nextSeq seq ≠ 0 := by
  intro h
  have h0 := congrArg BitVec.toNat h
  rw [toNat_nextSeq] at h0
  simp at h0

theorem nextSeq_ne (seq : U8) : nextSeq seq ≠ nextSeq (nextSeq seq) := by
  intro h
  have h0 := congrArg BitVec.toNat h
  rw [toNat_nextSeq, toNat_nextSeq, toNat_nextSeq] at h0
  omega

/-- The centre channel a definition with control channel `ch` asks for. -/
def ChanDef.centre (chandef : ChanDef) (ch : U8) : U8 :=
  let c := (chandef.centerFreq1 - 2407) / 5
  if chandef.width40 = true ∧ 1 ≤ c ∧ c ≤ 14 then BitVec.ofNat 8 c else ch

/-- There was no memory for a transfer. -/
def MemoryRefused (tr : List (Event sig)) : Prop := ∃ n, (⟨.alloc n, false⟩ : Event sig) ∈ tr

/-- If both commands go out: `RMAC_CHFREQ` is written 1 between them, both name `centre` as the
centre channel, and their sequence numbers are not zero and differ. -/
def CentresAgree (centre : U8) (tr : List (Event sig)) : Prop :=
  ∀ sw pw, sends tr = [sw, pw] →
    (∃ t₁ r t₂, tr = t₁ ++ writeEvent RMAC_CHFREQ 1 r :: t₂ ∧ sends t₁ = [sw] ∧ sends t₂ = [pw]) ∧
    ∃ a b : FwTxd, decodeRun sw = some a ∧ decodeRun pw = some b ∧
      a.extCid = EXT_CMD_CHANNEL_SWITCH ∧ b.extCid = EXT_CMD_SET_TX_POWER_CTRL ∧
      a.payload[1]? = some centre ∧ b.payload[0]? = some centre ∧
      a.seq ≠ b.seq ∧ a.seq ≠ 0 ∧ b.seq ≠ 0

theorem clampChannel_of_valid {ch : U8} (h1 : 1 ≤ ch) (h14 : ch ≤ 14) : clampChannel ch = ch := by
  refine if_neg ?_
  rintro (h | h)
  · exact absurd h1 (BitVec.not_le.2 h)
  · exact absurd h14 (BitVec.not_le.2 h)

/-- What `mt7603_set_chandef` passes on ends up as the centre channel the definition asks for. -/
theorem clampCentral_chandef {chandef : ChanDef} {ch : U8} (h1 : 1 ≤ ch) (h14 : ch ≤ 14)
    (hf : chandef.centerFreq1 < 2500) :
    clampCentral ch (if (if chandef.width40 then (1 : U8) else 0) ≠ 0 ∧ 2412 ≤ chandef.centerFreq1
      then BitVec.ofNat 8 ((chandef.centerFreq1 - 2407) / 5) else ch) = chandef.centre ch := by
  have hself : clampCentral ch ch = ch := by
    unfold clampCentral
    rw [clampChannel_of_valid h1 h14, ite_self]
  unfold ChanDef.centre
  generalize hc : (chandef.centerFreq1 - 2407) / 5 = c
  cases chandef.width40 with
  | false => simpa using hself
  | true =>
    have hlt : c < 256 := by omega
    have hone : BitVec.ofNat 8 c < 1 ↔ c < 1 := by
      rw [BitVec.lt_def, BitVec.toNat_ofNat, Nat.mod_eq_of_lt hlt]
      rfl
    have hfourteen : 14 < BitVec.ofNat 8 c ↔ 14 < c := by
      rw [BitVec.lt_def, BitVec.toNat_ofNat, Nat.mod_eq_of_lt hlt]
      rfl
    by_cases h2412 : 2412 ≤ chandef.centerFreq1
    · rw [if_pos ⟨by decide, h2412⟩, clampCentral, clampChannel_of_valid h1 h14]
      by_cases hin : 1 ≤ c ∧ c ≤ 14
      · rw [if_neg (by rw [hone, hfourteen]; omega)]
        exact (if_pos ⟨rfl, hin⟩).symm
      · rw [if_pos (by rw [hone, hfourteen]; omega)]
        exact (if_neg fun h => hin h.2).symm
    · rw [if_neg fun h => h2412 h.2, hself]
      exact (if_neg fun h => by omega).symm

/-- The exchange of a channel definition. -/
theorem trace_setChandef {dev dev' : Dev} {chandef : ChanDef} {ch : U8} {tr : List (Event sig)}
    (hch : chandef.chan = some ch) (h1 : 1 ≤ ch) (h14 : ch ≤ 14) (hf : chandef.centerFreq1 < 2500)
    (h : Trace (setChandef dev chandef) tr dev') :
    (∃ t₁ r t₂, tr = t₁ ++ writeEvent RMAC_CHFREQ 1 r :: t₂ ∧
      Sent (cmdImage EXT_CMD_CHANNEL_SWITCH (nextSeq dev.cmdSeq) (channelSwitchPayload ch
        (chandef.centre ch) (if chandef.width40 then 1 else 0) 2 2)) t₁ ∧
      Sent (cmdImage EXT_CMD_SET_TX_POWER_CTRL (nextSeq (nextSeq dev.cmdSeq))
        (txPowerCtrlPayload dev.eeprom ch)) t₂) ∧
    dev'.currentChannel = ch ∧ dev'.currentBw = if chandef.width40 then 1 else 0 := by
  unfold setChandef at h
  rw [hch] at h
  have hswitch := trace_setChannelExt h
  rw [switchCmd, powerCmd, Option.getD_some, clampCentral_chandef h1 h14 hf,
    clampChannel_of_valid h1 h14] at hswitch
  have hbw : clampBw (if chandef.width40 then 1 else 0) = if chandef.width40 then 1 else 0 := by
    cases chandef.width40 <;> rfl
  rw [hbw] at hswitch
  exact hswitch

/-- The centre channel is the control channel. -/
theorem centre_eq_iff {chandef : ChanDef} {ch : U8} :
    chandef.centre ch = ch ↔ chandef.width40 = false ∨ (chandef.centerFreq1 - 2407) / 5 < 1 ∨
      14 < (chandef.centerFreq1 - 2407) / 5 ∨ (chandef.centerFreq1 - 2407) / 5 = ch.toNat := by
  unfold ChanDef.centre
  generalize (chandef.centerFreq1 - 2407) / 5 = c
  cases chandef.width40 with
  | false => simp
  | true =>
    by_cases hin : 1 ≤ c ∧ c ≤ 14
    · have hval : (if true = true ∧ 1 ≤ c ∧ c ≤ 14 then BitVec.ofNat 8 c else ch) =
          BitVec.ofNat 8 c := if_pos ⟨rfl, hin⟩
      have hnat : (BitVec.ofNat 8 c).toNat = c := by
        rw [BitVec.toNat_ofNat, Nat.mod_eq_of_lt (by omega)]
      rw [hval]
      constructor
      · intro h
        exact .inr (.inr (.inr (by rw [← h, hnat])))
      · rintro (h | h | h | h)
        · cases h
        · omega
        · omega
        · rw [h, BitVec.ofNat_toNat, BitVec.setWidth_eq]
    · have hval : (if true = true ∧ 1 ≤ c ∧ c ≤ 14 then BitVec.ofNat 8 c else ch) = ch :=
        if_neg fun h => hin h.2
      rw [hval]
      simp only [true_iff]
      omega

theorem sends_around {t₁ t₂ : List (Event sig)} {addr val : U32} {r : Int} :
    sends (t₁ ++ writeEvent addr val r :: t₂) = sends t₁ ++ sends t₂ := sends_append t₁ _

theorem mem_around {t₁ t₂ : List (Event sig)} {addr val : U32} {r : Int} {n : Nat} :
    (⟨.alloc n, false⟩ : Event sig) ∈ t₁ ++ writeEvent addr val r :: t₂ ↔
      (⟨.alloc n, false⟩ : Event sig) ∈ t₁ ∨ (⟨.alloc n, false⟩ : Event sig) ∈ t₂ := by
  have hne : (⟨.alloc n, false⟩ : Event sig) ≠ writeEvent addr val r := by
    intro h
    cases h
  simp only [List.mem_append, List.mem_cons, hne, false_or]

/-- Either one of the two commands is not sent, for lack of memory, or both are. -/
theorem sends_pair {f g : List U8} {t₁ t₂ : List (Event sig)} {r : Int} (hf : Sent f t₁)
    (hg : Sent g t₂) :
    (MemoryRefused (t₁ ++ writeEvent RMAC_CHFREQ 1 r :: t₂) ∧
      (sends (t₁ ++ writeEvent RMAC_CHFREQ 1 r :: t₂)).length < 2) ∨
    (¬MemoryRefused (t₁ ++ writeEvent RMAC_CHFREQ 1 r :: t₂) ∧
      sends t₁ = [padded f] ∧ sends t₂ = [padded g]) := by
  unfold MemoryRefused
  simp only [sends_around, mem_around, List.length_append]
  rcases hf.sends with ⟨hs, n, hn⟩ | ⟨hs, hn⟩ <;> rcases hg.sends with ⟨hs', m, hm⟩ | ⟨hs', hm⟩
  · exact .inl ⟨⟨n, .inl hn⟩, by simp [hs, hs']⟩
  · exact .inl ⟨⟨n, .inl hn⟩, by simp [hs, hs']⟩
  · exact .inl ⟨⟨m, .inr hm⟩, by simp [hs, hs']⟩
  · exact .inr ⟨by rintro ⟨n, h | h⟩ <;> [exact hn n h; exact hm n h], hs, hs'⟩

/-- With memory for them both commands go out. -/
theorem sends_setChandef {dev dev' : Dev} {chandef : ChanDef} {ch : U8} {tr : List (Event sig)}
    (hch : chandef.chan = some ch) (h1 : 1 ≤ ch) (h14 : ch ≤ 14) (hf : chandef.centerFreq1 < 2500)
    (h : Trace (setChandef dev chandef) tr dev') (hm : ¬MemoryRefused tr) :
    ∃ sw pw, sends tr = [sw, pw] := by
  obtain ⟨⟨t₁, r, t₂, rfl, hsw, hpw⟩, -⟩ := trace_setChandef hch h1 h14 hf h
  rcases @sends_pair _ _ t₁ t₂ r hsw hpw with ⟨hm', -⟩ | ⟨-, hs₁, hs₂⟩
  · exact absurd hm' hm
  · have hsends := @sends_around t₁ t₂ RMAC_CHFREQ 1 r
    rw [hs₁, hs₂, List.singleton_append] at hsends
    exact ⟨_, _, hsends⟩

/-- The commands agree if the centre channel is the control channel: the TX power command always
names the control channel. -/
theorem centresAgree_iff {dev dev' : Dev} {chandef : ChanDef} {ch : U8} {tr : List (Event sig)}
    (hch : chandef.chan = some ch) (h1 : 1 ≤ ch) (h14 : ch ≤ 14) (hf : chandef.centerFreq1 < 2500)
    (h : Trace (setChandef dev chandef) tr dev') :
    CentresAgree (chandef.centre ch) tr ↔ MemoryRefused tr ∨ chandef.centre ch = ch := by
  obtain ⟨⟨t₁, r, t₂, rfl, hsw, hpw⟩, -⟩ := trace_setChandef hch h1 h14 hf h
  rcases @sends_pair _ _ t₁ t₂ r hsw hpw with ⟨hm, hlen⟩ | ⟨hm, hs₁, hs₂⟩
  · -- with one command missing there is nothing to compare
    refine ⟨fun _ => .inl hm, fun _ sw pw hsends => ?_⟩
    rw [hsends] at hlen
    exact absurd hlen (Nat.lt_irrefl 2)
  · have hsends := @sends_around t₁ t₂ RMAC_CHFREQ 1 r
    rw [hs₁, hs₂, List.singleton_append] at hsends
    constructor
    · intro hagree
      obtain ⟨-, a, b, ha, hb, -, -, -, hcentre, -⟩ := hagree _ _ hsends
      rw [decodeRun_padded, Option.some.injEq] at hb
      rw [← hb] at hcentre
      exact .inr (Option.some.inj hcentre).symm
    · rintro (hmem | hcentre) sw pw hboth
      · exact absurd hmem hm
      · rw [hsends, List.cons.injEq, List.cons.injEq] at hboth
        obtain ⟨rfl, rfl, -⟩ := hboth
        refine ⟨⟨t₁, r, t₂, rfl, hs₁, hs₂⟩, _, _, decodeRun_padded, decodeRun_padded, rfl, rfl,
          rfl, ?_, nextSeq_ne _, nextSeq_ne_zero _, nextSeq_ne_zero _⟩
        exact congrArg some hcentre.symm

/-- **Both commands of a switch name one centre channel** exactly where the definition's centre
channel is its control channel (or where one of the commands is not sent for lack of memory). -/
theorem chandef_centres_agree_iff (dev dev' : Dev) (chandef : ChanDef) (ch : U8)
    (tr : List (Event sig)) (hch : chandef.chan = some ch) (h1 : 1 ≤ ch) (h14 : ch ≤ 14)
    (hf : chandef.centerFreq1 < 2500) (h : Trace (setChandef dev chandef) tr dev') :
    CentresAgree (chandef.centre ch) tr ↔
      MemoryRefused tr ∨ chandef.width40 = false ∨ (chandef.centerFreq1 - 2407) / 5 < 1 ∨
        14 < (chandef.centerFreq1 - 2407) / 5 ∨
        (chandef.centerFreq1 - 2407) / 5 = ch.toNat := by
  rw [centresAgree_iff hch h1 h14 hf h, centre_eq_iff]

/-- The answers of a host and a device without failures. -/
def willing (e : Req) : e.Resp := (regDevice (fun _ => 0) e).1

theorem not_memoryRefused {tr : List (Event sig)} (h : ∀ ev ∈ tr, ev.resp = willing ev.req) :
    ¬MemoryRefused tr := by
  rintro ⟨n, hn⟩
  cases h _ hn

/-- Channel 6 at 20 MHz: both commands go out and name channel 6 as the centre. -/
theorem chandef_centres_agree_20mhz :
    ∃ tr dev' sw pw a b, Trace (setChandef Dev.zeroed ⟨some 6, false, 2437⟩) tr dev' ∧
      sends tr = [sw, pw] ∧ decodeRun sw = some a ∧ decodeRun pw = some b ∧
      a.payload[1]? = some 6 ∧ b.payload[0]? = some 6 ∧ a.seq ≠ b.seq := by
  obtain ⟨tr, ht, hresp⟩ :=
    trace_eval (S := sig) willing (setChandef Dev.zeroed ⟨some 6, false, 2437⟩)
  have hagree := (chandef_centres_agree_iff _ _ _ 6 tr rfl (by decide) (by decide) (by decide)
    ht).2 (.inr (.inl rfl))
  obtain ⟨sw, pw, hsends⟩ := sends_setChandef rfl (by decide) (by decide) (by decide) ht
    (not_memoryRefused hresp)
  obtain ⟨-, a, b, ha, hb, -, -, hsw, hpw, hne, -⟩ := hagree sw pw hsends
  exact ⟨tr, _, sw, pw, a, b, ht, hsends, ha, hb, hsw, hpw, hne⟩

/-- Channel 6 at 40 MHz, with its centre at channel 8: the TX power command names channel 6. -/
theorem chandef_centres_differ_40mhz :
    ∃ tr dev', Trace (setChandef Dev.zeroed ⟨some 6, true, 2447⟩) tr dev' ∧
      (ChanDef.centre ⟨some 6, true, 2447⟩ 6 = 8) ∧
      ¬CentresAgree (ChanDef.centre ⟨some 6, true, 2447⟩ 6) tr := by
  obtain ⟨tr, ht, hresp⟩ :=
    trace_eval (S := sig) willing (setChandef Dev.zeroed ⟨some 6, true, 2447⟩)
  refine ⟨tr, _, ht, by decide, fun hagree => ?_⟩
  rcases (centresAgree_iff rfl (by decide) (by decide) (by decide) ht).1 hagree with h | h
  · exact not_memoryRefused hresp h
  · exact absurd h (by decide)

/-! ## Paths to one definition -/

/-- The control channel, the centre channel and the bandwidth of a channel switch command. -/
def switchFields (buf : List U8) : Option (U8 × U8 × U8) :=
  match decodeRun buf with
  | some ⟨_, _, _, _, _, extCid, _, ctrlCh :: centralCh :: bw :: _⟩ =>
    if extCid = EXT_CMD_CHANNEL_SWITCH then some (ctrlCh, centralCh, bw) else none
  | _ => none

theorem switchFields_switch {seq ctrlCh centralCh bw : U8} :
    switchFields (padded (cmdImage EXT_CMD_CHANNEL_SWITCH seq
      (channelSwitchPayload ctrlCh centralCh bw 2 2))) = some (ctrlCh, centralCh, bw) := by
  rw [switchFields, decodeRun_padded]
  exact if_pos rfl

/-- The channel switch command an exchange opens with, if it is sent. -/
def opensWith (tr : List (Event sig)) : Option (U8 × U8 × U8) :=
  (sends (tr.take 2)).head?.bind switchFields

/-- Two exchanges tune alike: the commands they open with carry the same channels and bandwidth, and
the device notes the same bandwidth. -/
def TunesAlike (tr : List (Event sig)) (dev : Dev) (tr' : List (Event sig)) (dev' : Dev) : Prop :=
  (∀ a b, opensWith tr = some a → opensWith tr' = some b → a = b) ∧
    dev.currentBw = dev'.currentBw

theorem opensWith_switch {seq ctrlCh centralCh bw : U8} {t₁ t : List (Event sig)}
    {a : U8 × U8 × U8} (h : Sent (cmdImage EXT_CMD_CHANNEL_SWITCH seq
      (channelSwitchPayload ctrlCh centralCh bw 2 2)) t₁) {r : Int}
    (ha : opensWith (t₁ ++ writeEvent RMAC_CHFREQ 1 r :: t) = some a) :
    a = (ctrlCh, centralCh, bw) := by
  rcases h with rfl | ⟨x, rfl⟩
  · cases ha
  · have hs := @switchFields_switch seq ctrlCh centralCh bw
    exact Option.some.inj (ha.symm.trans hs)

/-- What the device notes of its tuning: the channel and the bandwidth. -/
def Dev.tuning (dev : Dev) : U8 × U8 := (dev.currentChannel, dev.currentBw)

/-- What a part of the driver that sends no command keeps: the tuning and the command number. -/
def Dev.radio (dev : Dev) : (U8 × U8) × U8 := (dev.tuning, dev.cmdSeq)

section
variable {dev : Dev} {vif : Option Vif} {info : Option BssConf} {changed : BitVec 64}

theorem radio_programAp :
    Ends (S := sig) (fun d => d.radio = dev.radio) (programAp dev vif) := by
  unfold programAp
  cases vif with
  | none => rfl
  | some v =>
    dsimp only
    split
    · exact ends_next fun _ => ends_next fun _ => ends_next fun _ => rfl
    · rfl

theorem radio_disableBeacon :
    Ends (S := sig) (fun d => d.radio = dev.radio) (disableBeacon dev changed) := by
  unfold disableBeacon
  split
  · exact ends_next fun _ => ends_next fun _ => rfl
  · rfl

theorem radio_beaconChanged :
    Ends (S := sig) (fun d => d.radio = dev.radio) (beaconChanged dev vif info changed) := by
  unfold beaconChanged
  refine ends_bind radio_programAp fun d hd => ?_
  rw [← hd]
  cases info with
  | none => exact radio_disableBeacon
  | some bss =>
    dsimp only
    split
    · exact ends_next fun _ => ends_next fun _ => rfl
    · exact radio_disableBeacon

theorem radio_bssidCleared :
    Ends (S := sig) (fun d => d.radio = dev.radio) (bssidCleared dev vif) :=
  ends_next fun _ => rfl

/-- A switch takes two numbers. -/
theorem seq_setChannelExt {channel bw centralCh : U8} :
    Ends (S := sig) (fun d => d.cmdSeq = nextSeq (nextSeq dev.cmdSeq))
      (setChannelExt dev channel bw centralCh) :=
  ends_next fun _ => ends_next fun _ => ends_next fun _ => rfl

/-- `mt7603_set_channel` notes 20 MHz. -/
theorem bw_setChannel {channel : U8} :
    Ends (S := sig) (fun d => d.currentBw = 0) (setChannel dev channel) := by
  unfold setChannel setChannelExt
  exact ends_next fun _ => ends_next fun _ => ends_next fun _ => rfl

theorem bw_tuneTo {channel : U8} (h : dev.currentBw = 0) :
    Ends (S := sig) (fun d => d.currentBw = 0) (tuneTo dev channel) := by
  unfold tuneTo
  split
  · exact bw_setChannel
  · exact h

theorem bw_tuneToPeer {addr : MacAddr} {fallback : Option U8} (h : dev.currentBw = 0) :
    Ends (S := sig) (fun d => d.currentBw = 0) (tuneToPeer dev addr fallback) := by
  refine ends_next fun r => ?_
  cases r with
  | some ch =>
    cases ch with
    | some ch => exact bw_tuneTo h
    | none => exact h
  | none =>
    cases fallback with
    | some ch => exact bw_tuneTo h
    | none => exact h

theorem bw_bssidChanged (h : dev.currentBw = 0) :
    Ends (S := sig) (fun d => d.currentBw = 0) (bssidChanged dev vif info) := by
  have hclear : Ends (S := sig) (fun d => d.currentBw = 0) (bssidCleared dev vif) :=
    ends_mono radio_bssidCleared fun d hd => (congrArg (·.1.2) hd).trans h
  unfold bssidChanged
  split
  · split
    · exact hclear
    · refine ends_bind (bw_tuneToPeer h) fun d hd => ?_
      exact ends_next fun _ => ends_next fun _ => ends_next fun _ => ends_next fun _ => hd
  · exact hclear

/-- What follows the retuning in `bss_info_changed`. -/
def afterTuning (vif : Option Vif) (info : Option BssConf) (changed : BitVec 64) (dev : Dev) :
    P Dev := do
  let dev ← (if changed &&& BEACON_CHANGES ≠ 0 then beaconChanged dev vif info changed
    else pure dev : P Dev)
  if changed &&& (BSS_CHANGED_BSSID ||| BSS_CHANGED_ASSOC) ≠ 0 then bssidChanged dev vif info
  else return dev

theorem bssInfoChanged_eq : bssInfoChanged dev vif info changed =
    tuneToOper dev info >>= afterTuning vif info changed := rfl

theorem bw_afterTuning (h : dev.currentBw = 0) :
    Ends (S := sig) (fun d => d.currentBw = 0) (afterTuning vif info changed dev) := by
  have hbeacon : Ends (S := sig) (fun d => d.currentBw = 0)
      (if changed &&& BEACON_CHANGES ≠ 0 then beaconChanged dev vif info changed
        else pure dev : P Dev) := by
    split
    · exact ends_mono radio_beaconChanged fun d hd => (congrArg (·.1.2) hd).trans h
    · exact h
  refine ends_bind hbeacon fun d hd => ?_
  split
  · exact bw_bssidChanged hd
  · exact hd

/-- `bss_info_changed` opens with a switch to the bare channel. -/
theorem trace_bssInfoChanged_tunes {bss : BssConf} {ch : U8} {dev' : Dev} {tr : List (Event sig)}
    (hoper : bss.operChan = some ch) (hne : dev.currentChannel ≠ ch) (h1 : 1 ≤ ch) (h14 : ch ≤ 14)
    (h : Trace (bssInfoChanged dev vif (some bss) changed) tr dev') :
    (∀ a, opensWith tr = some a → a = (ch, ch, 0)) ∧ dev'.currentBw = 0 := by
  rw [bssInfoChanged_eq] at h
  obtain ⟨d, t, t', rfl, htune, hrest⟩ := trace_bind.1 h
  have hset : tuneToOper dev (some bss) = setChannel dev ch := by
    unfold tuneToOper tuneTo
    rw [Option.bind_some, hoper]
    exact if_pos hne.symm
  rw [hset] at htune
  obtain ⟨⟨t₁, r, t₂, rfl, hsw, -⟩, -, hbw⟩ := trace_setChannelExt htune
  refine ⟨fun a ha => ?_,
    runs_ends (Q := fun d : Dev => d.currentBw = 0) (bw_afterTuning hbw) hrest⟩
  rw [List.append_assoc, List.cons_append] at ha
  have hfields := opensWith_switch hsw ha
  rwa [clampCentral, clampChannel_of_valid h1 h14, ite_self] at hfields

/-- `config` passes the definition on. -/
theorem trace_config_tunes {chandef : ChanDef} {ch : U8} {confChanged : U32} {dev' : Dev}
    {tr : List (Event sig)} (hch : chandef.chan = some ch) (hne : dev.currentChannel ≠ ch)
    (h1 : 1 ≤ ch) (h14 : ch ≤ 14) (h : Trace (config dev chandef confChanged) tr dev') :
    (chandef.width40 = false → ∀ a, opensWith tr = some a → a = (ch, ch, 0)) ∧
      dev'.currentBw = if chandef.width40 then 1 else 0 := by
  have hset : config dev chandef confChanged = setChandef dev chandef := by
    unfold config
    rw [hch]
    exact if_pos (.inr hne.symm)
  rw [hset, setChandef, hch] at h
  obtain ⟨⟨t₁, r, t₂, rfl, hsw, -⟩, -, hbw⟩ := trace_setChannelExt h
  constructor
  · intro hw a ha
    have hfields := opensWith_switch hsw ha
    rwa [hw, if_neg Bool.false_ne_true, if_neg (fun h => h.1 rfl), Option.getD_some, clampCentral,
      clampChannel_of_valid h1 h14, ite_self] at hfields
  · rw [hbw]
    cases chandef.width40 <;> rfl

end

/-- **The paths agree on a channel definition** exactly if it is 20 MHz wide: `bss_info_changed`
tunes to the bare control channel. -/
theorem retune_paths_agree_iff (dev dev₁ dev₂ : Dev) (vif : Option Vif) (bss : BssConf)
    (chandef : ChanDef) (ch : U8) (confChanged : U32) (bssChanged : BitVec 64)
    (tr₁ tr₂ : List (Event sig)) (hch : chandef.chan = some ch) (h1 : 1 ≤ ch) (h13 : ch ≤ 13)
    (hoper : bss.operChan = some ch) (hne : dev.currentChannel ≠ ch)
    (hconf : Trace (config dev chandef confChanged) tr₁ dev₁)
    (hbss : Trace (bssInfoChanged dev vif (some bss) bssChanged) tr₂ dev₂) :
    TunesAlike tr₁ dev₁ tr₂ dev₂ ↔ chandef.width40 = false := by
  have h14 : ch ≤ 14 := BitVec.le_trans h13 (by decide)
  obtain ⟨hopen₁, hbw₁⟩ := trace_config_tunes hch hne h1 h14 hconf
  obtain ⟨hopen₂, hbw₂⟩ := trace_bssInfoChanged_tunes hoper hne h1 h14 hbss
  constructor
  · rintro ⟨-, hbw⟩
    rw [hbw₁, hbw₂] at hbw
    cases hw : chandef.width40 with
    | false => rfl
    | true =>
      rw [hw] at hbw
      exact absurd hbw (by decide)
  · intro hw
    refine ⟨fun a b ha hb => (hopen₁ hw a ha).trans (hopen₂ b hb).symm, ?_⟩
    rw [hbw₁, hbw₂, hw]
    rfl

/-- Channel 6 at 20 MHz, from a device that was never tuned. -/
theorem retune_paths_agree_20mhz :
    ∃ tr₁ dev₁ tr₂ dev₂,
      Trace (config Dev.zeroed ⟨some 6, false, 2437⟩ 0) tr₁ dev₁ ∧
      Trace (bssInfoChanged Dev.zeroed none (some ⟨none, some 6, false, 0, none⟩) 0) tr₂ dev₂ ∧
      TunesAlike tr₁ dev₁ tr₂ dev₂ := by
  obtain ⟨tr₁, ht₁, -⟩ :=
    trace_eval (S := sig) willing (config Dev.zeroed ⟨some 6, false, 2437⟩ 0)
  obtain ⟨tr₂, ht₂, -⟩ := trace_eval (S := sig) willing
    (bssInfoChanged Dev.zeroed none (some ⟨none, some 6, false, 0, none⟩) 0)
  have h := (retune_paths_agree_iff _ _ _ none _ _ 6 0 0 tr₁ tr₂ rfl (by decide) (by decide) rfl
    (by decide) ht₁ ht₂).2 rfl
  exact ⟨tr₁, _, tr₂, _, ht₁, ht₂, h⟩

/-- Channel 6 at 40 MHz: one path notes 40 MHz, the other 20 MHz. -/
theorem retune_paths_differ_40mhz :
    ∃ tr₁ dev₁ tr₂ dev₂,
      Trace (config Dev.zeroed ⟨some 6, true, 2447⟩ 0) tr₁ dev₁ ∧
      Trace (bssInfoChanged Dev.zeroed none (some ⟨none, some 6, false, 0, none⟩) 0) tr₂ dev₂ ∧
      dev₁.currentBw = 1 ∧ dev₂.currentBw = 0 ∧ ¬TunesAlike tr₁ dev₁ tr₂ dev₂ := by
  obtain ⟨tr₁, ht₁, -⟩ :=
    trace_eval (S := sig) willing (config Dev.zeroed ⟨some 6, true, 2447⟩ 0)
  obtain ⟨tr₂, ht₂, -⟩ := trace_eval (S := sig) willing
    (bssInfoChanged Dev.zeroed none (some ⟨none, some 6, false, 0, none⟩) 0)
  have hbw₁ := (trace_config_tunes rfl (by decide) (by decide) (by decide) ht₁).2
  have hbw₂ := (trace_bssInfoChanged_tunes rfl (by decide) (by decide) (by decide) ht₂).2
  refine ⟨tr₁, _, tr₂, _, ht₁, ht₂, hbw₁, hbw₂, fun h => ?_⟩
  have hbw := h.2
  rw [hbw₁, hbw₂] at hbw
  exact absurd hbw (by decide)

end Driver
