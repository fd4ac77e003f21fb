import Mt7603u.Rust.Ap
import Mt7603u.Rust.Mcu
import Mt7603u.Rust.Tx

/-!
# The builders leak nothing

What each builder of the Rust library writes (`Fills`), and that neither its outcome nor anything
it leaves behind depends on what the output buffer held before (`NoLeak`):

* the register sequence generators write their sequence (`fills_setSeq`);
* a command frame is its header, the reserved block and the payload (`fills_buildFwTxdFrame`), if
  the frame is at least as long as the 12 header bytes it always stores;
* the management frames clear their buffer first (`noLeak_cleared`);
* a TX descriptor is its eight words (`buildTxwi_eq`).

`builders_noLeak` puts them together: the only builder that can touch more than it reports is
`buildFwTxdFrame` on a frame shorter than its header.
-/

namespace Rust

open Slice Slice.Out Word

/-! ## Register sequences -/

theorem fills_setSeq {n : Nat} {code : Int} {seq : List RegWriteOp} (h : seq.length = n) :
    (sized n code (setFrom 0 seq)).Fills seq :=
  fills_sized h fun _ _ hp => setFrom_front (by omega)

theorem noLeak_setSeq {n : Nat} {code : Int} {seq : List RegWriteOp} (h : seq.length = n) :
    (sized n code (setFrom 0 seq)).NoLeak :=
  noLeak_sized h fun _ _ hp => setFrom_front (by omega)

theorem noLeak_copySeq {code : Int} {seq : List RegWriteOp} :
    (sized seq.length code (copyFromSlice 0 seq.length seq)).NoLeak :=
  noLeak_sized rfl fun _ _ hp => copyFromSlice_front hp

theorem fills_copySeq {code : Int} {seq : List RegWriteOp} :
    (sized seq.length code (copyFromSlice 0 seq.length seq)).Fills seq :=
  fills_sized rfl fun _ _ hp => copyFromSlice_front hp

theorem fills_buildMacInitSequence : buildMacInitSequence.Fills macInitSeq := fills_copySeq

theorem fills_buildOwnMacSequence (mac : MacAddr) :
    (buildOwnMacSequence mac).Fills (ownMacSeq mac) := fills_setSeq rfl

theorem fills_buildRxFilterSequence (promisc fcsFail : Bool) :
    (buildRxFilterSequence promisc fcsFail).Fills (rxFilterSeq promisc fcsFail) :=
  fills_setSeq rfl

theorem fills_buildWtblStaSequence (bssid : MacAddr) :
    (buildWtblStaSequence bssid).Fills (wtblStaSeq bssid) := fills_setSeq rfl

theorem fills_buildApBssSyncSequence (period : U16) (enable : Bool) :
    (buildApBssSyncSequence period enable).Fills (apBssSyncSeq period enable) := fills_setSeq rfl

/-! ## Command frames -/

/-- The 12 bytes every command frame starts with. -/
def fwTxdHeader (cid : U8) (pqId : U16) (setQuery extCid seq : U8) (needRsp : Bool)
    (totalLen : Nat) : List U8 :=
  toLe16 (BitVec.ofNat 16 totalLen) ++ toLe16 pqId ++
    [cid, PKT_ID_CMD, setQuery, seq, 0x00, extCid, 0x00, extCidOption cid setQuery seq needRsp]

/-- A command frame: the header, the reserved block, the payload. -/
def fwTxdImage (cid : U8) (pqId : U16) (setQuery extCid seq : U8) (needRsp : Bool)
    (hdrSize : Nat) (payload : List U8) : List U8 :=
  (fwTxdHeader cid pqId setQuery extCid seq needRsp (payload.length + hdrSize) ++
    List.replicate (hdrSize - FW_TXD_HDR_SIZE) 0).take hdrSize ++ payload

section
variable {cid : U8} {pqId : U16} {setQuery extCid seq : U8} {needRsp : Bool} {hdrSize : Nat}
  {payload : List U8}

theorem length_fwTxdImage :
    (fwTxdImage cid pqId setQuery extCid seq needRsp hdrSize payload).length =
      payload.length + hdrSize := by
  simp only [fwTxdImage, fwTxdHeader, FW_TXD_HDR_SIZE, List.length_append, List.length_take,
    List.length_replicate, List.length_cons, List.length_nil, length_toLe16]
  omega

/-- The stores of a command frame, on a front part of the frame's length. -/
theorem fwTxdFrame_stores (h : FW_TXD_HDR_SIZE ≤ payload.length + hdrSize) (p t : List U8)
    (hp : p.length = payload.length + hdrSize) :
    (do
      writeVolatileFrom FW_TXD_HDR_SIZE (List.replicate (hdrSize - FW_TXD_HDR_SIZE) 0)
      setFrom 0 (fwTxdHeader cid pqId setQuery extCid seq needRsp (payload.length + hdrSize))
      copyBytes hdrSize (payload.length + hdrSize) payload : Out U8 Unit) (p ++ t) =
      (.ok (), fwTxdImage cid pqId setQuery extCid seq needRsp hdrSize payload ++ t) := by
  set hdr := fwTxdHeader cid pqId setQuery extCid seq needRsp (payload.length + hdrSize) with hh
  have hl : hdr.length = 12 := rfl
  unfold FW_TXD_HDR_SIZE at h ⊢
  set gap : List U8 := List.replicate (hdrSize - 12) 0 with hg
  have hgl : gap.length = hdrSize - 12 := by simp [hg]
  have h1 : (overwrite 12 gap p).length = p.length := length_overwrite (by omega)
  have h2 : (overwrite 0 hdr (overwrite 12 gap p)).length = p.length := by
    rw [length_overwrite (by omega), h1]
  rw [bind_of_ok (writeVolatileFrom_eq (by simp; omega)), overwrite_append (by omega),
    bind_of_ok (setFrom_eq (by simp; omega)), overwrite_append (by omega), copyBytes,
    if_pos (by simp; omega), if_pos (by omega), overwrite_append (by omega)]
  -- the front part is now the header and the gap up to `hdrSize`, then the payload
  have h3 : overwrite 0 hdr (overwrite 12 gap p) = hdr ++ gap ++ p.drop (12 + gap.length) := by
    rw [overwrite_zero, hl, overwrite, List.append_assoc, List.drop_append_of_le_length (by
      simp; omega), List.drop_of_length_le (by simp), List.nil_append, List.append_assoc]
  have h4 : overwrite hdrSize payload (overwrite 0 hdr (overwrite 12 gap p)) =
      fwTxdImage cid pqId setQuery extCid seq needRsp hdrSize payload := by
    rw [overwrite, List.drop_of_length_le (by omega), List.append_nil, h3,
      List.take_append_of_le_length (by simp [hl, hgl]; omega)]
    rfl
  rw [h4]

/-- **A command frame that is at least as long as its header.** -/
theorem fills_buildFwTxdFrame (h : FW_TXD_HDR_SIZE ≤ payload.length + hdrSize)
    (hlt : payload.length + hdrSize < 2 ^ 64) :
    (buildFwTxdFrame cid pqId setQuery extCid seq needRsp hdrSize payload).Fills
      (fwTxdImage cid pqId setQuery extCid seq needRsp hdrSize payload) := by
  unfold buildFwTxdFrame
  rw [Nat.mod_eq_of_lt hlt]
  exact fills_sized length_fwTxdImage fun p t hp => fwTxdFrame_stores h p t hp

theorem noLeak_buildFwTxdFrame (h : FW_TXD_HDR_SIZE ≤ payload.length + hdrSize)
    (hlt : payload.length + hdrSize < 2 ^ 64) :
    (buildFwTxdFrame cid pqId setQuery extCid seq needRsp hdrSize payload).NoLeak := by
  unfold buildFwTxdFrame
  rw [Nat.mod_eq_of_lt hlt]
  exact noLeak_sized length_fwTxdImage fun p t hp => fwTxdFrame_stores h p t hp

/-- What the stores leave behind a frame shorter than its header: the rest of the header. -/
theorem fwTxdFrame_short (h : payload.length + hdrSize < FW_TXD_HDR_SIZE) :
    buildFwTxdFrame cid pqId setQuery extCid seq needRsp hdrSize payload
        (List.replicate 12 0xFF) =
      (.ok (payload.length + hdrSize), overwrite hdrSize payload
        (fwTxdHeader cid pqId setQuery extCid seq needRsp (payload.length + hdrSize))) := by
  unfold FW_TXD_HDR_SIZE at h
  have hl : (fwTxdHeader cid pqId setQuery extCid seq needRsp
    (payload.length + hdrSize)).length = 12 := rfl
  unfold buildFwTxdFrame sized FW_TXD_HDR_SIZE
  rw [Nat.mod_eq_of_lt (by omega), len_bind, if_neg (by simp; omega),
    show hdrSize - 12 = 0 by omega]
  refine bind_of_ok (a := ()) ?_
  rw [bind_of_ok (writeVolatileFrom_eq (by simp)), List.replicate_zero, overwrite_nil]
  refine (bind_of_ok (setFrom_eq (by simp))).trans ?_
  rw [overwrite_zero, List.drop_of_length_le (by simp), List.append_nil]
  show copyBytes hdrSize (payload.length + hdrSize) payload (fwTxdHeader cid pqId setQuery extCid
    seq needRsp (payload.length + hdrSize)) = _
  rw [copyBytes, if_pos (by omega), if_pos (by omega)]

/-- A frame shorter than its header stores header bytes behind its end. -/
theorem leak_buildFwTxdFrame (h : payload.length + hdrSize < FW_TXD_HDR_SIZE) :
    ¬(buildFwTxdFrame cid pqId setQuery extCid seq needRsp hdrSize payload).NoLeak := by
  intro hB
  have hout := @fwTxdFrame_short cid pqId setQuery extCid seq needRsp hdrSize payload h
  obtain ⟨-, -, hk⟩ := hB (List.replicate 12 0xFF) (List.replicate 12 0xFF) rfl
  have hdrop := (hk (payload.length + hdrSize) (by rw [hout])).2.2.2.2.1
  rw [hout] at hdrop
  unfold FW_TXD_HDR_SIZE at h
  -- the twelfth byte is the option byte, which is never `0xFF`
  have h11 := congrArg (fun l => l[11 - (payload.length + hdrSize)]?) hdrop
  simp only [List.getElem?_drop, overwrite,
    show payload.length + hdrSize + (11 - (payload.length + hdrSize)) = 11 by omega] at h11
  rw [List.getElem?_append_right (by simp [fwTxdHeader]; omega), List.getElem?_drop] at h11
  have hi : hdrSize + payload.length + (11 - ((fwTxdHeader cid pqId setQuery extCid seq needRsp
      (payload.length + hdrSize)).take hdrSize ++ payload).length) = 11 := by
    simp [fwTxdHeader]
    omega
  rw [hi] at h11
  have hopt : extCidOption cid setQuery seq needRsp = 0xFF := by
    simpa [fwTxdHeader, toLe16] using h11
  unfold extCidOption EXT_CID_OPTION_NEED_ACK EXT_CID_OPTION_NO_NEED_ACK at hopt
  split at hopt <;> exact absurd hopt (by decide)

end

/-! ## Management frames -/

theorem noLeak_buildProbeRequest (ssid : List U8) (srcMac : MacAddr) :
    (buildProbeRequest ssid srcMac).NoLeak := by
  refine noLeak_cleared ?_
  refine edits_bind (edits_set (by omega)) (edits_bind (edits_set (by omega)) ?_)
  refine edits_bind (edits_fill (by omega) (by omega)) ?_
  refine edits_bind (edits_copyFromSlice rfl (by omega) (by omega)) ?_
  refine edits_bind (edits_fill (by omega) (by omega)) ?_
  refine edits_bind (edits_set (by omega)) (edits_bind (edits_set (by omega)) ?_)
  refine edits_bind (edits_set (by omega)) (edits_bind (edits_set (by omega)) ?_)
  refine edits_bind (edits_copyBytes (by omega) (by omega) (by omega)) ?_
  refine edits_bind (edits_set (by omega)) (edits_bind (edits_set (by omega)) ?_)
  exact edits_copyBytes (by simp [SUPPORTED_RATES]) (by omega) (by omega)

theorem noLeak_buildBeacon (ssid : List U8) (bssid : MacAddr) (channel : U8) :
    (buildBeacon ssid bssid channel).NoLeak := by
  refine noLeak_cleared ?_
  refine edits_bind (edits_set (by omega)) (edits_bind (edits_set (by omega)) ?_)
  refine edits_bind (edits_fill (by omega) (by omega)) ?_
  refine edits_bind (edits_copyFromSlice rfl (by omega) (by omega)) ?_
  refine edits_bind (edits_copyFromSlice rfl (by omega) (by omega)) ?_
  refine edits_bind (edits_set (by omega)) (edits_bind (edits_set (by omega)) ?_)
  refine edits_bind (edits_set (by omega)) (edits_bind (edits_set (by omega)) ?_)
  refine edits_bind (edits_set (by omega)) (edits_bind (edits_set (by omega)) ?_)
  refine edits_bind (edits_copyBytes (by omega) (by omega) (by omega)) ?_
  refine edits_bind (edits_set (by omega)) (edits_bind (edits_set (by omega)) ?_)
  refine edits_bind (edits_copyBytes (by simp [SUPPORTED_RATES]) (by omega) (by omega)) ?_
  exact edits_bind (edits_set (by omega)) (edits_bind (edits_set (by omega))
    (edits_set (by omega)))

theorem noLeak_buildAssocResp (staMac bssid : MacAddr) (aid statusCode : U16) :
    (buildAssocResp staMac bssid aid statusCode).NoLeak := by
  refine noLeak_cleared ?_
  refine edits_bind (edits_set (by omega)) (edits_bind (edits_set (by omega)) ?_)
  refine edits_bind (edits_copyFromSlice rfl (by omega) (by omega)) ?_
  refine edits_bind (edits_copyFromSlice rfl (by omega) (by omega)) ?_
  refine edits_bind (edits_copyFromSlice rfl (by omega) (by omega)) ?_
  refine edits_bind (edits_set (by omega)) (edits_bind (edits_set (by omega)) ?_)
  refine edits_bind (edits_set (by omega)) (edits_bind (edits_set (by omega)) ?_)
  refine edits_bind (edits_set (by omega)) (edits_bind (edits_set (by omega)) ?_)
  refine edits_bind (edits_set (by omega)) (edits_bind (edits_set (by omega)) ?_)
  exact edits_copyFromSlice rfl (by omega) (by omega)

/-! ## TX descriptors -/

/-- The eight words of a descriptor. -/
def txwiImage (p : TxParams) (txRate : U32) : List U8 :=
  toLe32 (txwiDw0 p) ++ toLe32 (txwiDw1 p) ++ toLe32 (txwiDw2 p) ++ toLe32 txwiDw3 ++
    toLe32 0 ++ toLe32 txwiDw5 ++ toLe32 (txwiDw6 p txRate) ++ toLe32 0

/-- The rate field of the parameters. -/
def txwiRate (p : TxParams) : Rs U32 :=
  txRateToTmi (p.rateMode.setWidth 32) (p.rateMcs.setWidth 32) 0 (txwiNss p)
    ((p.preamble &&& 0x1).setWidth 32)

/-- **`buildTxwi` on a buffer with room for it.** -/
theorem buildTxwi_eq (p : TxParams) (buf : List U8) (hb : TXWI_SIZE ≤ buf.length)
    (hl : p.pktLen.toNat + TXWI_SIZE ≤ 0xffff) (he : p.hdrLen.setWidth 32 &&& 1 = (0 : U32)) :
    buildTxwi p buf =
      match txwiRate p with
      | .ok txRate => (.ok TXWI_SIZE, txwiImage p txRate ++ buf.drop TXWI_SIZE)
      | .error e => (.error e, List.replicate TXWI_SIZE 0 ++ buf.drop TXWI_SIZE) := by
  unfold TXWI_SIZE at *
  obtain ⟨q, t, hq, rfl⟩ : ∃ q t : List U8, q.length = 32 ∧ buf = q ++ t :=
    ⟨buf.take 32, buf.drop 32, by simp; omega, (List.take_append_drop 32 buf).symm⟩
  unfold buildTxwi TXWI_SIZE
  rw [len_bind, if_neg (by omega), if_neg (by omega),
    fill_bind (by omega) (by omega), if_neg (by simpa using he), overwrite_append (by simp [hq]),
    overwrite_zero, List.drop_of_length_le (by simp [hq]), List.append_nil,
    List.drop_left' hq]
  show (Out.ofRs (txwiRate p) >>= _) _ = _
  cases txwiRate p with
  | error e => rfl
  | ok r =>
    have hr : (Out.ofRs (.ok r) : Out U8 U32) (List.replicate 32 0 ++ t) =
        (.ok r, List.replicate 32 0 ++ t) := rfl
    refine (bind_of_ok hr).trans ?_
    rw [copyFromSlice_append_bind rfl (by omega) (Nat.le_of_ble_eq_true rfl),
      copyFromSlice_append_bind rfl (by omega) (Nat.le_of_ble_eq_true rfl),
      copyFromSlice_append_bind rfl (by omega) (Nat.le_of_ble_eq_true rfl),
      copyFromSlice_append_bind rfl (by omega) (Nat.le_of_ble_eq_true rfl),
      copyFromSlice_append_bind rfl (by omega) (Nat.le_of_ble_eq_true rfl),
      copyFromSlice_append_bind rfl (by omega) (Nat.le_of_ble_eq_true rfl)]
    rfl

/-- A rate lookup can only panic. -/
theorem txRateToTmi_error {rateMode mcs stbc nss preamble : U32} {e : Fail}
    (h : txRateToTmi rateMode mcs stbc nss preamble = .error e) : e = .panic := by
  have hget : ∀ {l : List U32} {i : Nat} {f : U32 → U32},
      (do return f (← Slice.get l i) : Rs U32) = .error e → e = .panic := by
    intro l i f hb
    cases hl : l[i]? <;> simp [Slice.get, hl, pure, Except.pure] at hb
    exact hb.symm
  unfold txRateToTmi at h
  split at h
  · exact hget h
  split at h
  · exact hget h
  split at h <;> cases h

theorem noLeak_buildTxwi (p : TxParams) : (buildTxwi p).NoLeak := by
  refine noLeak_of_cases fun n => ?_
  by_cases hn : n < TXWI_SIZE
  · refine .inr ⟨.errno (-ENOSPC), by simp, fun buf hb => ?_⟩
    rw [buildTxwi, len_bind, if_pos (by omega)]
    rfl
  by_cases hl : 0xffff < p.pktLen.toNat + TXWI_SIZE
  · refine .inr ⟨.errno (-EINVAL), by simp, fun buf hb => ?_⟩
    rw [buildTxwi, len_bind, if_neg (by omega), if_pos hl]
    rfl
  by_cases he : p.hdrLen.setWidth 32 &&& 1 = (0 : U32)
  · cases hr : txwiRate p with
    | ok r =>
      refine .inl ⟨txwiImage p r, by simpa [txwiImage, TXWI_SIZE] using hn, fun buf hb => ?_⟩
      rw [buildTxwi_eq p buf (by omega) (by omega) he, hr]
      rfl
    | error e =>
      refine .inr ⟨e, ?_, fun buf hb => by rw [buildTxwi_eq p buf (by omega) (by omega) he, hr]⟩
      rw [txRateToTmi_error hr]
      simp
  · refine .inr ⟨.errno (-EINVAL), by simp, fun buf hb => ?_⟩
    rw [buildTxwi, len_bind, if_neg (by omega), if_neg hl, fill_bind (by omega) (by omega),
      if_pos he]
    rfl

/-! ## All builders -/

/-- A call of one of the byte encoders, with its arguments. -/
inductive Encoder
  | txwi (p : TxParams)
  | beacon (ssid : List U8) (bssid : MacAddr) (channel : U8)
  | assocResp (staMac bssid : MacAddr) (aid statusCode : U16)
  | probeRequest (ssid : List U8) (srcMac : MacAddr)
  | fwTxdFrame (cid : U8) (pqId : U16) (setQuery extCid seq : U8) (needRsp : Bool)
      (hdrSize : Nat) (payload : List U8)
  | addrLenReq (address dlLen : U32) (seq : U8)
  | fwStartReq (override address : U32) (seq : U8)
  | restartDlReq (seq : U8)
  | fwScatterFrame (chunk : List U8)
  | channelSwitchCmd (ctrlCh centralCh bw txStreams rxStreams seq : U8)
  | txPowerCtrlCmd (eeprom : List U8) (centralCh seq : U8)
  | efuseBufferModeCmd (eeprom : List U8) (seq : U8)
  | chPrivilegeCmd (channel seq : U8)
  | radioOnOffCmd (on : Bool) (seq : U8)
  | edcaSetCmd (seq : U8)

def Encoder.run : Encoder → Out U8 Nat
  | .txwi p => buildTxwi p
  | .beacon ssid bssid channel => buildBeacon ssid bssid channel
  | .assocResp staMac bssid aid statusCode => buildAssocResp staMac bssid aid statusCode
  | .probeRequest ssid srcMac => buildProbeRequest ssid srcMac
  | .fwTxdFrame cid pqId setQuery extCid seq needRsp hdrSize payload =>
    buildFwTxdFrame cid pqId setQuery extCid seq needRsp hdrSize payload
  | .addrLenReq address dlLen seq => buildAddrLenReq address dlLen seq
  | .fwStartReq override address seq => buildFwStartReq override address seq
  | .restartDlReq seq => buildRestartDlReq seq
  | .fwScatterFrame chunk => buildFwScatterFrame chunk
  | .channelSwitchCmd ctrlCh centralCh bw txStreams rxStreams seq =>
    buildChannelSwitchCmd ctrlCh centralCh bw txStreams rxStreams seq
  | .txPowerCtrlCmd eeprom centralCh seq => buildTxPowerCtrlCmd eeprom centralCh seq
  | .efuseBufferModeCmd eeprom seq => buildEfuseBufferModeCmd eeprom seq
  | .chPrivilegeCmd channel seq => buildChPrivilegeCmd channel seq
  | .radioOnOffCmd on seq => buildRadioOnOffCmd on seq
  | .edcaSetCmd seq => buildEdcaSetCmd seq

/-- The frame is at least as long as the header it stores, and its length is a `usize`. Only a
direct call of `buildFwTxdFrame` can ask for another one: 12 and 32 are the header sizes it is
meant for. -/
def Encoder.FitsHeader : Encoder → Prop
  | .fwTxdFrame _ _ _ _ _ _ hdrSize payload =>
    FW_TXD_HDR_SIZE ≤ payload.length + hdrSize ∧ payload.length + hdrSize < 2 ^ 64
  | _ => True

/-- A call of one of the register sequence generators, with its arguments. -/
inductive SeqGen
  | macInit
  | ownMac (mac : MacAddr)
  | channel (ch bw : U8)
  | rxFilter (promisc fcsFail : Bool)
  | baSession (wcid tid baSize : U8) (enable : Bool) (prevDw15 : U32)
  | apBssSync (beaconPeriod : U16) (enable : Bool)
  | wtblSta (bssid : MacAddr)

def SeqGen.run : SeqGen → Out RegWriteOp Nat
  | .macInit => buildMacInitSequence
  | .ownMac mac => buildOwnMacSequence mac
  | .channel ch bw => buildChannelSequence ch bw
  | .rxFilter promisc fcsFail => buildRxFilterSequence promisc fcsFail
  | .baSession wcid tid baSize enable prevDw15 =>
    buildBaSessionSequence wcid tid baSize enable prevDw15
  | .apBssSync beaconPeriod enable => buildApBssSyncSequence beaconPeriod enable
  | .wtblSta bssid => buildWtblStaSequence bssid

theorem noLeak_extCmd {extCid seq : U8} {payload : List U8} (h : payload.length ≤ 1000) :
    (extCmd extCid seq payload).NoLeak :=
  noLeak_buildFwTxdFrame (by unfold FW_TXD_HDR_SIZE FW_TXD_FULL_SIZE; omega)
    (by unfold FW_TXD_FULL_SIZE; omega)

theorem Encoder.noLeak (e : Encoder) (h : e.FitsHeader) : e.run.NoLeak := by
  have short {cid : U8} {pqId : U16} {setQuery extCid seq : U8} {needRsp : Bool}
      {payload : List U8} (hp : payload.length ≤ FW_SCATTER_MAX_PAYLOAD) :
      (buildFwTxdFrame cid pqId setQuery extCid seq needRsp FW_TXD_HDR_SIZE payload).NoLeak := by
    unfold FW_SCATTER_MAX_PAYLOAD MT_UPLOAD_FW_UNIT at hp
    exact noLeak_buildFwTxdFrame (by omega) (by unfold FW_TXD_HDR_SIZE; omega)
  cases e with
  | txwi p => exact noLeak_buildTxwi p
  | beacon ssid bssid channel => exact noLeak_buildBeacon ssid bssid channel
  | assocResp staMac bssid aid statusCode => exact noLeak_buildAssocResp staMac bssid aid statusCode
  | probeRequest ssid srcMac => exact noLeak_buildProbeRequest ssid srcMac
  | fwTxdFrame cid pqId setQuery extCid seq needRsp hdrSize payload =>
    exact noLeak_buildFwTxdFrame h.1 h.2
  | addrLenReq address dlLen seq => exact short (Nat.le_of_ble_eq_true rfl)
  | fwStartReq override address seq => exact short (Nat.le_of_ble_eq_true rfl)
  | restartDlReq seq => exact short (by decide)
  | fwScatterFrame chunk =>
    show (buildFwScatterFrame chunk).NoLeak
    unfold buildFwScatterFrame
    split
    · exact noLeak_of_fails (e := .errno (-EINVAL)) (by simp) fun _ => rfl
    · exact short (by omega)
  | channelSwitchCmd ctrlCh centralCh bw txStreams rxStreams seq =>
    exact noLeak_extCmd (Nat.le_of_ble_eq_true rfl)
  | txPowerCtrlCmd eeprom centralCh seq => exact noLeak_extCmd (Nat.le_of_ble_eq_true rfl)
  | efuseBufferModeCmd eeprom seq => exact noLeak_extCmd (by rw [List.length_replicate]; decide)
  | chPrivilegeCmd channel seq =>
    exact noLeak_buildFwTxdFrame (by unfold FW_TXD_HDR_SIZE FW_TXD_FULL_SIZE; omega)
      (by unfold FW_TXD_FULL_SIZE chPrivilegePayload; simp)
  | radioOnOffCmd on seq => exact noLeak_extCmd (Nat.le_of_ble_eq_true rfl)
  | edcaSetCmd seq => exact noLeak_extCmd (Nat.le_of_ble_eq_true rfl)

theorem SeqGen.noLeak (g : SeqGen) : g.run.NoLeak := by
  cases g with
  | macInit => exact noLeak_copySeq
  | ownMac mac => exact noLeak_setSeq rfl
  | channel ch bw =>
    show (buildChannelSequence ch bw).NoLeak
    unfold buildChannelSequence
    split
    · exact noLeak_of_fails (e := .errno (-EINVAL)) (by simp) fun _ => rfl
    · exact noLeak_copySeq
  | rxFilter promisc fcsFail => exact noLeak_setSeq rfl
  | baSession wcid tid baSize enable prevDw15 =>
    show (buildBaSessionSequence wcid tid baSize enable prevDw15).NoLeak
    unfold buildBaSessionSequence
    split
    · exact noLeak_of_fails (e := .errno (-EINVAL)) (by simp) fun _ => rfl
    · exact noLeak_setSeq rfl
  | apBssSync beaconPeriod enable => exact noLeak_setSeq rfl
  | wtblSta bssid => exact noLeak_setSeq rfl

/-- **No builder leaks or depends on old buffer contents**, on any arguments, except for a command
frame that is asked to be shorter than its own header. -/
theorem builders_noLeak :
    (∀ e : Encoder, e.FitsHeader → e.run.NoLeak) ∧ ∀ g : SeqGen, g.run.NoLeak :=
  ⟨Encoder.noLeak, SeqGen.noLeak⟩

/-- A restart request, framed by hand with the short header. -/
def restartFrame : Encoder := .fwTxdFrame MT_RESTART_DL_REQ P1_Q0 CMD_NA EXT_CMD_NA 1 true 12 []

/-- In two buffers of 16 bytes it is the same 12 bytes, and the other four are as they were; so with
the two operations of an own address, in three places. -/
theorem builders_noLeak_restart :
    ((restartFrame.run (List.replicate 16 0xAA)).1 = .ok 12 ∧
      (restartFrame.run (List.replicate 16 0xAA)).2.take 12 =
        (restartFrame.run (List.replicate 16 0x55)).2.take 12 ∧
      (restartFrame.run (List.replicate 16 0xAA)).2.drop 12 = List.replicate 4 0xAA ∧
      (restartFrame.run (List.replicate 16 0x55)).2.drop 12 = List.replicate 4 0x55) ∧
    ((SeqGen.ownMac ⟨2, 0, 0, 0, 0, 1⟩).run (List.replicate 3 ⟨0, 0⟩)).2.take 2 =
        ((SeqGen.ownMac ⟨2, 0, 0, 0, 0, 1⟩).run (List.replicate 3 ⟨1, 1⟩)).2.take 2 ∧
      ((SeqGen.ownMac ⟨2, 0, 0, 0, 0, 1⟩).run (List.replicate 3 ⟨1, 1⟩)).2.drop 2 = [⟨1, 1⟩] := by
  obtain ⟨hframes, hseqs⟩ := builders_noLeak
  have hfits : restartFrame.FitsHeader := ⟨by decide, by decide⟩
  have hok : (restartFrame.run (List.replicate 16 0xAA)).1 = .ok 12 := by decide
  have hseq : ((SeqGen.ownMac ⟨2, 0, 0, 0, 0, 1⟩).run (List.replicate 3 ⟨0, 0⟩)).1 = .ok 2 := by
    decide
  obtain ⟨-, -, htwo⟩ := hframes restartFrame hfits (List.replicate 16 0xAA)
    (List.replicate 16 0x55) rfl
  obtain ⟨-, -, -, htake, hdrop, hdrop'⟩ := htwo 12 hok
  obtain ⟨-, -, hops⟩ := hseqs (.ownMac ⟨2, 0, 0, 0, 0, 1⟩) (List.replicate 3 ⟨0, 0⟩)
    (List.replicate 3 ⟨1, 1⟩) rfl
  obtain ⟨-, -, -, htakeOps, -, hdropOps⟩ := hops 2 hseq
  exact ⟨⟨hok, htake, hdrop, hdrop'⟩, htakeOps, hdropOps⟩

/-- A frame with no header and no payload reports 0 bytes and overwrites 12. -/
theorem fwTxdFrame_without_header_leaks :
    ¬∀ e : Encoder, e.run.NoLeak := by
  intro h
  have hleak : ¬(buildFwTxdFrame 0 0 0 0 0 false 0 []).NoLeak := leak_buildFwTxdFrame (by decide)
  exact hleak (h (.fwTxdFrame 0 0 0 0 0 false 0 []))

end Rust
