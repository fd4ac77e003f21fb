import Mt7603u.Proof.Download
import Mt7603u.Proof.QueueEndpoint
import Mt7603u.Proof.RadioExchange

/-!
# Commands and frames on one endpoint

Commands for the firmware and management frames leave through the same bulk endpoint, 0x08. The
device tells them apart by the port in the first word of the descriptor. `CommandOut` are all
transfers of commands, by the calls of mac80211 and by the firmware download; `FrameOut` are all
transfers of frames.

`out_told_apart`: whatever has been configured and whatever is sent, a command has the port of the
MCU and announces its own length, and a frame has the port of the LMAC.
-/

namespace Driver

open Effect Slice Skb Word Packed Rust

/-- `p_idx` of the descriptor in front of a buffer: the MCU's. -/
def portMcu (buf : List U8) : Bool := (wordAt buf 0).getLsbD 31

/-- A command goes out, in calls of mac80211 or during the download. -/
inductive CommandOut (ep : U8) (buf : List U8) : Prop
  | call {acts : List Action} {h h' : Host} {tr : List (Event sig)} {r : Int}
      (ht : Trace (runCalls acts h) tr h') (hm : (⟨.bulkOut ep buf, r⟩ : Event sig) ∈ tr)
  | download {fw : List U8} {ret : Int} {tr : List (Event sig)} {r : Int}
      (ht : Trace (downloadFirmware fw) tr ret) (hm : (⟨.bulkOut ep buf, r⟩ : Event sig) ∈ tr)

/-- A frame is submitted. -/
def FrameOut (ep : U8) (buf : List U8) : Prop :=
  ∃ k dev info skb t, mac80211Tx k dev info skb = .ok (some t) ∧ t.ep = ep ∧ t.skb.data = buf

/-! ## Commands -/

/-- A command as the device has to find it. -/
structure CommandShape (buf : List U8) : Prop where
  port : portMcu buf = true
  length : byteCnt buf = BitVec.ofNat 16 (buf.length - MT7603_USB_END_PADDING)
  padding : buf.drop (buf.length - MT7603_USB_END_PADDING) =
    List.replicate MT7603_USB_END_PADDING 0

/-- Two half words in a row. -/
theorem le32_halves (lo hi : U16) :
    le32 (lo.extractLsb' 0 8) (lo.extractLsb' 8 8) (hi.extractLsb' 0 8) (hi.extractLsb' 8 8) =
      hi ++ lo := by
  apply BitVec.eq_of_getLsbD_eq
  intro i hi
  simp only [le32, BitVec.getLsbD_append, BitVec.getLsbD_extractLsb']
  interval_cases i <;> simp

theorem commandShape_padded {cid : U8} {pqId : U16} {setQuery extCid seq : U8} {needRsp : Bool}
    {hdrSize : Nat} {payload : List U8} (hh : FW_TXD_HDR_SIZE ≤ hdrSize)
    (hp : pqId.getLsbD 15 = true) :
    CommandShape (padded (fwTxdImage cid pqId setQuery extCid seq needRsp hdrSize payload)) := by
  have hlen : (padded (fwTxdImage cid pqId setQuery extCid seq needRsp hdrSize payload)).length -
      MT7603_USB_END_PADDING = payload.length + hdrSize := by
    rw [padded, List.length_append, List.length_replicate, length_fwTxdImage]
    omega
  have hword : wordAt (padded (fwTxdImage cid pqId setQuery extCid seq needRsp hdrSize payload)) 0 =
      pqId ++ BitVec.ofNat 16 (payload.length + hdrSize) := by
    rw [padded, fwTxdImage_eq hh]
    exact le32_halves _ _
  refine ⟨?_, ?_, ?_⟩
  · rw [portMcu, hword, BitVec.getLsbD_append]
    exact hp
  · rw [byteCnt, hword, hlen]
    apply BitVec.eq_of_getLsbD_eq
    intro i hi
    simp only [BitVec.getLsbD_extractLsb', BitVec.getLsbD_append]
    simp [hi]
  · rw [hlen, padded, ← length_fwTxdImage, List.drop_left]

/-- An exchange whose bulk transfers are commands. -/
def Commands (tr : List (Event sig)) : Prop :=
  ∀ ev ∈ tr, ∀ ep buf, ev.req = .bulkOut ep buf → ep = MT7603_CMD_BULK_OUT ∧ CommandShape buf

theorem Commands.append {t t' : List (Event sig)} (h : Commands t) (h' : Commands t') :
    Commands (t ++ t') := by
  intro ev hev
  rcases List.mem_append.1 hev with hev | hev
  · exact h ev hev
  · exact h' ev hev

theorem commands_sent {extCid seq : U8} {payload : List U8} {tr : List (Event sig)}
    (h : Sent (cmdImage extCid seq payload) tr) : Commands tr := by
  have hshape : CommandShape (padded (cmdImage extCid seq payload)) :=
    commandShape_padded (by decide) (by decide)
  rcases h with rfl | ⟨r, rfl⟩
  · intro ev hev ep buf he
    rw [List.mem_singleton.1 hev] at he
    cases he
  · intro ev hev ep buf he
    rcases List.mem_pair.1 hev with rfl | rfl
    · cases he
    · cases he
      exact ⟨rfl, hshape⟩

/-- **What the calls of mac80211 send** are commands. -/
theorem commands_radio {d d' : Dev} {tr : List (Event sig)} (h : Radio d tr d') :
    Commands tr := by
  induction h with
  | still hno _ =>
    intro ev hev ep buf he
    have hn := hno ev hev
    rw [he] at hn
    exact hn.elim
  | startRefused _ =>
    intro ev hev ep buf he
    rw [List.mem_singleton.1 hev] at he
    cases he
  | command _ _ hs _ => exact commands_sent hs
  | @switch _ _ _ _ _ _ r _ _ hsw hpw _ =>
    refine (commands_sent hsw).append ?_
    intro ev hev ep buf he
    rcases List.mem_cons.1 hev with rfl | hev
    · cases he
    · exact commands_sent hpw ev hev ep buf he
  | append _ _ ih₁ ih₂ => exact ih₁.append ih₂

/-- A bulk transfer to the command endpoint, or none. -/
def ToCommands (e : Req) : Prop := ∀ ep buf, e = .bulkOut ep buf → ep = MT7603_CMD_BULK_OUT

theorem toCommands_quiet {e : Req} (h : Quiet e) : ToCommands e := by
  intro ep buf he
  rw [he] at h
  exact h.elim

theorem toCommands_usbSendCmd {frame : List U8} :
    All (S := sig) ToCommands (usbSendCmd frame) := by
  refine all_bind (all_request.2 (toCommands_quiet trivial)) fun ok => ?_
  split
  · refine all_bind (all_request.2 fun ep buf he => ?_) fun _ => trivial
    cases he
    rfl
  · trivial

theorem toCommands_sendWaiting {cmd : List U8} :
    All (S := sig) ToCommands (sendWaiting cmd) :=
  all_next (all_request.2 (toCommands_quiet trivial))
    (all_next toCommands_usbSendCmd (all_waitDone (toCommands_quiet trivial)))

theorem toCommands_restartIfRunning {misc2 : U32} :
    All (S := sig) ToCommands (restartIfRunning misc2) := by
  unfold restartIfRunning
  split
  · refine all_bind (all_withFrame fun _ => ?_) fun _ => trivial
    refine all_next (all_request.2 (toCommands_quiet trivial)) ?_
    refine all_next (all_request.2 (toCommands_quiet trivial)) ?_
    exact all_next toCommands_usbSendCmd
      (all_bind (all_request.2 (toCommands_quiet trivial)) fun _ => trivial)
  · trivial

theorem toCommands_scatterLoop {fw : List U8} {dlLen offset : Nat} :
    All (S := sig) ToCommands (scatterLoop fw dlLen offset) := by
  induction offset using scatterLoop.induct dlLen with
  | case1 offset h chunkLen ih =>
    unfold scatterLoop
    rw [if_pos h]
    exact all_withFrame fun cmd => all_next toCommands_usbSendCmd ih
  | case2 offset h =>
    unfold scatterLoop
    rw [if_neg h]
    trivial

theorem toCommands_downloadBody {fw : List U8} {seq : U8} :
    All (S := sig) ToCommands (downloadBody fw seq) := by
  have hpoll : ∀ {mask expect : U32} {n : Nat},
      All (S := sig) ToCommands (pollTopMisc2 mask expect n) :=
    all_pollTopMisc2 (toCommands_quiet trivial)
  refine all_bind hpoll fun ret => ?_
  split
  · exact all_bind (all_usbReadReg (toCommands_quiet trivial)) fun _ => trivial
  cases fwDlLen fw with
  | none => trivial
  | some dlLen =>
    refine all_withFrame fun cmd => all_next toCommands_sendWaiting ?_
    split
    · trivial
    · refine all_next toCommands_scatterLoop (all_withFrame fun cmd => ?_)
      exact all_next toCommands_sendWaiting hpoll

theorem toCommands_downloadFirmware (fw : List U8) :
    All (S := sig) ToCommands (downloadFirmware fw) := by
  have hq : ∀ {e : Req}, Quiet e → ToCommands e := toCommands_quiet
  refine all_next (all_usbEnableUdma (hq trivial) fun _ => hq trivial) ?_
  refine all_bind (all_usbReadReg (hq trivial)) fun ⟨ret, misc2⟩ => ?_
  dsimp only
  split
  · trivial
  refine all_bind toCommands_restartIfRunning fun seq => ?_
  refine all_next (all_mono all_enterBypass fun _ h => hq h.1) ?_
  refine all_bind (all_request.2 (hq trivial)) fun ok => all_bind ?_ fun ret => ?_
  · split
    · exact toCommands_downloadBody
    · trivial
  · refine all_bind (all_mono all_leaveBypass fun e h => hq ?_) fun _ => trivial
    cases e with
    | bulkOut ep buf => exact h.elim
    | _ => trivial

/-- **What the download sends** are commands. -/
theorem commands_download {fw : List U8} {tr : List (Event sig)} {ret : Int}
    (h : Trace (downloadFirmware fw) tr ret) : Commands tr := by
  obtain ⟨rs, dlLen, ps, seq, hst, -, hpre, -⟩ := download_transfers h
  intro ev hev ep buf he
  refine ⟨trace_all (toCommands_downloadFirmware fw) h ev hev ep buf he, ?_⟩
  have hmem : buf ∈ sends tr := List.mem_filterMap.2 ⟨ev, hev, by rw [he]⟩
  have hall : ∀ buf ∈ rs.map waitTransfer ++ bodyTransfers dlLen ps seq, ∃ pqId needRsp c,
      pqId.getLsbD 15 = true ∧ buf = cmdTransfer pqId needRsp c := by
    intro buf hb
    simp only [bodyTransfers, List.mem_append, List.mem_map, List.mem_singleton] at hb
    rcases hb with ⟨c, -, rfl⟩ | rfl | ⟨c, -, rfl⟩ | rfl
    · exact ⟨P1_Q0, true, c, by decide, rfl⟩
    · exact ⟨P1_Q0, true, _, by decide, rfl⟩
    · exact ⟨FW_SCATTER_PQ_ID, false, _, by decide, rfl⟩
    · exact ⟨P1_Q0, true, _, by decide, rfl⟩
  obtain ⟨pqId, needRsp, c, hp, rfl⟩ := hall buf (hpre.subset hmem)
  exact commandShape_padded (Nat.le_refl _) hp

/-! ## Frames -/

theorem txwiDw0_port (p : TxParams) : (txwiDw0 p).getLsbD 31 = false :=
  (txwiDw0_decodes p).above (by simp) (Nat.le_refl 31)

theorem port_overwrite_len (n : U16) (w : U32) (l rest : List U8) :
    portMcu (overwrite 0 (toLe16 n) (toLe32 w ++ l) ++ rest) = w.getLsbD 31 := by
  have hw : wordAt (overwrite 0 (toLe16 n) (toLe32 w ++ l) ++ rest) 0 =
      le32 (n.extractLsb' 0 8) (n.extractLsb' 8 8) (w.extractLsb' 16 8) (w.extractLsb' 24 8) := rfl
  rw [portMcu, hw]
  simp only [le32, BitVec.getLsbD_append, BitVec.getLsbD_extractLsb']
  simp

theorem port_frame {k : Kernel} {dev : Dev} {info : TxInfo} {skb : SkBuff U8} {t : Transfer}
    (ht : mac80211Tx k dev info skb = .ok (some t)) : portMcu t.skb.data = false := by
  obtain ⟨txwi, rest, hr, hd, -⟩ := mac80211Tx_data ht
  obtain ⟨-, -, rate, rfl⟩ := rustCall_buildTxwi_ok hr
  have hword := statusTxd_eq (txParams k dev info skb) rate
  simp only [words8, List.append_assoc] at hword
  rw [hword] at hd
  cases hm : isMgmt (frameControl k skb) with
  | true =>
    rw [hm, if_pos rfl, List.append_assoc] at hd
    rw [hd, portMcu, wordAt_zero, txwiDw0_port]
  | false =>
    rw [hm, if_neg (by simp)] at hd
    rw [hd, port_overwrite_len, txwiDw0_port]

/-- **Commands and frames are told apart**: every command goes to the command endpoint, has the port
of the MCU, its own length in front and four zero bytes behind; no frame has that port. -/
theorem out_told_apart (ep : U8) (buf : List U8) :
    (CommandOut ep buf → ep = MT7603_CMD_BULK_OUT ∧ CommandShape buf) ∧
      (FrameOut ep buf → portMcu buf = false) := by
  constructor
  · rintro (⟨ht, hm⟩ | ⟨ht, hm⟩)
    · exact commands_radio (operates_runCalls _ _ _ _ ht) _ hm ep buf rfl
    · exact commands_download ht _ hm ep buf rfl
  · rintro ⟨k, dev, info, skb, t, ht, -, rfl⟩
    exact port_frame ht

/-- A probe request, in a buffer without room to spare. -/
def sampleProbeReq : SkBuff U8 := ⟨[], [0x40, 0x00] ++ List.replicate 22 0xFF, []⟩

/-- A transfer that goes out comes from a request on some endpoint. -/
theorem mem_of_sends {tr : List (Event sig)} {buf : List U8} (h : buf ∈ sends tr) :
    ∃ ep, ∃ r : Int, (⟨.bulkOut ep buf, r⟩ : Event sig) ∈ tr := by
  obtain ⟨⟨e, r⟩, hev, hs⟩ := List.mem_filterMap.1 h
  cases e with
  | bulkOut ep b =>
    obtain rfl := Option.some.inj hs
    exact ⟨ep, r, hev⟩
  | _ => cases hs

/-- A probe request goes out through the endpoint of management frames. -/
theorem sampleProbeReq_out : ∃ frame, FrameOut 0x08 frame := by
  have hh : (txParams sampleKernel sampleDev sampleTxInfo sampleProbeReq).hdrLen.toNat = 24 := by
    rw [txParams_hdrLen]
    rfl
  obtain ⟨r, hr, -, hsome⟩ := mac80211Tx_yields sampleKernel sampleDev sampleTxInfo
    sampleProbeReq rfl hh (by decide) (by decide) (by decide)
  obtain ⟨t, rfl⟩ := Option.isSome_iff_exists.1 (hsome sampleKernel_neverFails)
  exact ⟨_, _, _, _, _, t, hr, (tx_routing hr).2.2, rfl⟩

/-- A start and a change to channel 6 send commands. -/
theorem channel6_out : ∃ ep cmd, CommandOut ep cmd := by
  obtain ⟨tr, ht, hresp⟩ := trace_eval (S := sig) willing
    (runCalls [.start, .call ⟨0, .station, ⟨2, 0, 0, 0, 0, 1⟩, none⟩
      (.config ⟨some 6, false, 2437⟩ IEEE80211_CONF_CHANGE_CHANNEL)]
      (.registered ⟨2, 0, 0, 0, 0, 1⟩ false 0 []))
  have hall := ht
  obtain ⟨h₁, t₁, t₂, rfl, -, hrest⟩ := trace_bind.1 ht
  obtain ⟨h₂, t₃, t₄, rfl, hcall, -⟩ := trace_bind.1 hrest
  obtain ⟨dev, t₅, t₆, rfl, hconf, -⟩ := trace_bind.1 hcall
  have hchandef : Trace (setChandef h₁.dev ⟨some 6, false, 2437⟩) t₅ dev := hconf
  obtain ⟨sw, pw, hsends⟩ := sends_setChandef rfl (by decide) (by decide) (by decide) hchandef
    (not_memoryRefused fun ev hev => hresp ev (by simp [hev]))
  obtain ⟨ep, r, hm⟩ := mem_of_sends (by simp [hsends] : sw ∈ sends t₅)
  exact ⟨ep, sw, .call hall (r := r) (by simp [hm])⟩

/-- Channel 6 is tuned to and a probe request is sent: both leave through endpoint 0x08. -/
theorem out_told_apart_probeReq : ∃ cmd frame, CommandOut 0x08 cmd ∧ FrameOut 0x08 frame ∧
    CommandShape cmd ∧ portMcu frame = false := by
  obtain ⟨ep, cmd, hc⟩ := channel6_out
  obtain ⟨frame, hf⟩ := sampleProbeReq_out
  obtain ⟨rfl, hshape⟩ := (out_told_apart ep cmd).1 hc
  exact ⟨cmd, frame, hc, hf, hshape, (out_told_apart 0x08 frame).2 hf⟩

end Driver
