import Mt7603u.Proof.Builders

/-!
# Command frames read back

`decodeFwTxd` reads a command frame by the documented layout of `FW_TXD`, given the size of its
header. It recovers what `buildFwTxdFrame` was given (`decode_fwTxdImage`), so that two different
calls never give one frame. `mcu_frames` says which header the exported command builders use: the
short one as long as the firmware is being loaded, the full one once it runs.
-/

namespace Rust

open Slice Slice.Out Word

/-- The fields of a command frame. -/
structure FwTxd where
  length : U16
  pqId : U16
  cid : U8
  setQuery : U8
  seq : U8
  extCid : U8
  option : U8
  payload : List U8
  deriving DecidableEq, Repr

/-- The fields of a frame; none if the packet type is wrong or a reserved byte is not zero. -/
def decodeFwTxd (hdrSize : Nat) : List U8 → Option FwTxd
  | l0 :: l1 :: p0 :: p1 :: cid :: pktType :: setQuery :: seq :: r8 :: extCid :: r10 :: option ::
      rest =>
    let gap := hdrSize - FW_TXD_HDR_SIZE
    if pktType = PKT_ID_CMD ∧ r8 = 0 ∧ r10 = 0 ∧ rest.take gap = List.replicate gap 0 then
      some ⟨le16 l0 l1, le16 p0 p1, cid, setQuery, seq, extCid, option, rest.drop gap⟩
    else none
  | _ => none

section
variable {cid : U8} {pqId : U16} {setQuery extCid seq : U8} {needRsp : Bool} {hdrSize : Nat}
  {payload : List U8}

/-- The image with its parts in a row. -/
theorem fwTxdImage_eq (h : FW_TXD_HDR_SIZE ≤ hdrSize) :
    fwTxdImage cid pqId setQuery extCid seq needRsp hdrSize payload =
      fwTxdHeader cid pqId setQuery extCid seq needRsp (payload.length + hdrSize) ++
        (List.replicate (hdrSize - FW_TXD_HDR_SIZE) 0 ++ payload) := by
  have hl : (fwTxdHeader cid pqId setQuery extCid seq needRsp (payload.length + hdrSize) ++
      List.replicate (hdrSize - FW_TXD_HDR_SIZE) 0).length = hdrSize := by
    rw [List.length_append, List.length_replicate]
    exact Nat.add_sub_cancel' h
  rw [fwTxdImage, List.take_of_length_le (Nat.le_of_eq hl), List.append_assoc]

theorem decode_fwTxdImage (h : FW_TXD_HDR_SIZE ≤ hdrSize) :
    decodeFwTxd hdrSize (fwTxdImage cid pqId setQuery extCid seq needRsp hdrSize payload) =
      some ⟨BitVec.ofNat 16 (payload.length + hdrSize), pqId, cid, setQuery, seq, extCid,
        extCidOption cid setQuery seq needRsp, payload⟩ := by
  have htake : (List.replicate (hdrSize - FW_TXD_HDR_SIZE) (0 : U8) ++ payload).take
      (hdrSize - FW_TXD_HDR_SIZE) = List.replicate (hdrSize - FW_TXD_HDR_SIZE) 0 :=
    List.take_left' (List.length_replicate ..)
  have hdrop : (List.replicate (hdrSize - FW_TXD_HDR_SIZE) (0 : U8) ++ payload).drop
      (hdrSize - FW_TXD_HDR_SIZE) = payload :=
    List.drop_left' (List.length_replicate ..)
  rw [fwTxdImage_eq h, fwTxdHeader, toLe16, toLe16]
  simp only [List.cons_append, List.nil_append, decodeFwTxd]
  rw [htake, hdrop, le16_toLe16, le16_toLe16]
  exact if_pos ⟨trivial, trivial, trivial, rfl⟩

end

section
variable {cid : U8} {pqId : U16} {setQuery extCid seq : U8} {needRsp : Bool} {hdrSize : Nat}
  {payload buf : List U8}

theorem fwTxdFrame_ok (h : FW_TXD_HDR_SIZE ≤ hdrSize) (hlt : hdrSize + payload.length < 2 ^ 64)
    (hb : hdrSize + payload.length ≤ buf.length) :
    buildFwTxdFrame cid pqId setQuery extCid seq needRsp hdrSize payload buf =
      (.ok (hdrSize + payload.length),
        fwTxdImage cid pqId setQuery extCid seq needRsp hdrSize payload ++
          buf.drop (hdrSize + payload.length)) := by
  rw [fills_buildFwTxdFrame (by omega) (by omega) buf (by rw [length_fwTxdImage]; omega),
    length_fwTxdImage, Nat.add_comm]

theorem callOn_fwTxdFrame (h : FW_TXD_HDR_SIZE ≤ hdrSize) (hlt : hdrSize + payload.length < 2 ^ 64)
    (hb : hdrSize + payload.length ≤ buf.length) :
    callOn (buildFwTxdFrame cid pqId setQuery extCid seq needRsp hdrSize payload) buf =
      .ok (fwTxdImage cid pqId setQuery extCid seq needRsp hdrSize payload) := by
  refine callOn_of_fills (fills_buildFwTxdFrame (by omega) (by omega)) ?_
  rw [length_fwTxdImage]
  omega

theorem fwTxdFrame_full (hlt : hdrSize + payload.length < 2 ^ 64)
    (hb : buf.length < hdrSize + payload.length) :
    buildFwTxdFrame cid pqId setQuery extCid seq needRsp hdrSize payload buf =
      (.error (.errno (-ENOSPC)), buf) := by
  unfold buildFwTxdFrame sized
  rw [Nat.mod_eq_of_lt (by omega), len_bind, if_pos (by omega)]
  rfl

theorem extCidOption_needAck :
    extCidOption cid setQuery seq needRsp = EXT_CID_OPTION_NEED_ACK ↔
      cid = EXT_CID ∧ (setQuery = CMD_SET ∨ setQuery = CMD_QUERY) ∧ needRsp = true ∧ seq ≠ 0 := by
  unfold extCidOption
  split
  · rename_i h
    exact ⟨fun _ => h, fun _ => rfl⟩
  · rename_i h
    exact ⟨fun he => absurd he (by decide), fun hc => absurd hc h⟩

/-- An image tells everything it was made from. -/
theorem fwTxdImage_inj {cid' : U8} {pqId' : U16} {setQuery' extCid' seq' : U8} {needRsp' : Bool}
    {payload' : List U8} (h : FW_TXD_HDR_SIZE ≤ hdrSize)
    (he : fwTxdImage cid' pqId' setQuery' extCid' seq' needRsp' hdrSize payload' =
      fwTxdImage cid pqId setQuery extCid seq needRsp hdrSize payload) :
    cid' = cid ∧ pqId' = pqId ∧ setQuery' = setQuery ∧ extCid' = extCid ∧ seq' = seq ∧
      payload' = payload := by
  have hd := congrArg (decodeFwTxd hdrSize) he
  rw [decode_fwTxdImage h, decode_fwTxdImage h] at hd
  simp only [Option.some.injEq, FwTxd.mk.injEq] at hd
  obtain ⟨-, hpq, hcid, hsq, hseq, hext, -, hpay⟩ := hd
  exact ⟨hcid, hpq, hsq, hext, hseq, hpay⟩

end

/-! ## The exported builders -/

/-- The stage of the firmware a command is for. -/
inductive FwStage
  | download
  | runTime
  deriving DecidableEq, Repr

def FwStage.hdrSize : FwStage → Nat
  | .download => FW_TXD_HDR_SIZE
  | .runTime => FW_TXD_FULL_SIZE

/-- The stage of an exported command builder. -/
def Encoder.stage : Encoder → Option FwStage
  | .addrLenReq _ _ _ => some .download
  | .fwStartReq _ _ _ => some .download
  | .restartDlReq _ => some .download
  | .fwScatterFrame _ => some .download
  | .channelSwitchCmd _ _ _ _ _ _ => some .runTime
  | .txPowerCtrlCmd _ _ _ => some .runTime
  | .efuseBufferModeCmd _ _ => some .runTime
  | .chPrivilegeCmd _ _ => some .runTime
  | .radioOnOffCmd _ _ => some .runTime
  | .edcaSetCmd _ => some .runTime
  | _ => none

/-- `B` frames a payload behind the header of this size, in less than one upload unit. -/
def Frames (hdrSize : Nat) (B : Out U8 Nat) : Prop :=
  ∃ cid pqId setQuery extCid seq needRsp payload, hdrSize + payload.length < MT_UPLOAD_FW_UNIT ∧
    B = buildFwTxdFrame cid pqId setQuery extCid seq needRsp hdrSize payload

theorem frames_extCmd {extCid seq : U8} {payload : List U8} (h : payload.length ≤ 1000) :
    Frames FW_TXD_FULL_SIZE (extCmd extCid seq payload) :=
  ⟨_, _, _, _, _, _, payload, by unfold FW_TXD_FULL_SIZE MT_UPLOAD_FW_UNIT; omega, rfl⟩

/-- **The header of an exported command** is that of its stage; a scatter chunk that does not fit is
refused. -/
theorem mcu_frames (e : Encoder) (stage : FwStage) (h : e.stage = some stage) :
    Frames stage.hdrSize e.run ∨
      ∃ chunk, e = .fwScatterFrame chunk ∧ FW_SCATTER_MAX_PAYLOAD < chunk.length ∧
        ∀ buf, e.run buf = (.error (.errno (-EINVAL)), buf) := by
  cases e with
  | addrLenReq address dlLen seq =>
    cases h
    exact .inl ⟨_, _, _, _, _, _, _, Nat.le_of_ble_eq_true rfl, rfl⟩
  | fwStartReq override address seq =>
    cases h
    exact .inl ⟨_, _, _, _, _, _, _, Nat.le_of_ble_eq_true rfl, rfl⟩
  | restartDlReq seq =>
    cases h
    exact .inl ⟨_, _, _, _, _, _, _, Nat.le_of_ble_eq_true rfl, rfl⟩
  | fwScatterFrame chunk =>
    cases h
    by_cases hc : FW_SCATTER_MAX_PAYLOAD < chunk.length
    · refine .inr ⟨chunk, rfl, hc, fun buf => ?_⟩
      show buildFwScatterFrame chunk buf = _
      rw [buildFwScatterFrame, if_pos hc]
      rfl
    · refine .inl ⟨_, _, _, _, _, _, chunk, ?_, if_neg hc⟩
      have hm : FW_TXD_HDR_SIZE + FW_SCATTER_MAX_PAYLOAD < MT_UPLOAD_FW_UNIT := by decide
      show FW_TXD_HDR_SIZE + chunk.length < MT_UPLOAD_FW_UNIT
      omega
  | channelSwitchCmd ctrlCh centralCh bw txStreams rxStreams seq =>
    cases h
    exact .inl (frames_extCmd (Nat.le_of_ble_eq_true rfl))
  | txPowerCtrlCmd eeprom centralCh seq =>
    cases h
    exact .inl (frames_extCmd (Nat.le_of_ble_eq_true rfl))
  | efuseBufferModeCmd eeprom seq =>
    cases h
    exact .inl (frames_extCmd (by rw [List.length_replicate]; decide))
  | chPrivilegeCmd channel seq =>
    cases h
    exact .inl ⟨_, _, _, _, _, _, _, Nat.le_of_ble_eq_true rfl, rfl⟩
  | radioOnOffCmd on seq =>
    cases h
    exact .inl (frames_extCmd (Nat.le_of_ble_eq_true rfl))
  | edcaSetCmd seq =>
    cases h
    exact .inl (frames_extCmd (Nat.le_of_ble_eq_true rfl))
  | _ => cases h

/-! ## The round trip -/

/-- **Command frames round-trip.** On a buffer with room for it, a frame with either header is
written, read back with everything it was built from, and given by no other call with this header;
a shorter buffer is refused. -/
theorem fw_txd_round_trip (cid : U8) (pqId : U16) (setQuery extCid seq : U8) (needRsp : Bool)
    (hdrSize : Nat) (payload buf : List U8)
    (hh : hdrSize = FW_TXD_HDR_SIZE ∨ hdrSize = FW_TXD_FULL_SIZE)
    (hp : hdrSize + payload.length ≤ 65535) :
    (hdrSize + payload.length ≤ buf.length →
      (buildFwTxdFrame cid pqId setQuery extCid seq needRsp hdrSize payload buf).1 =
          .ok (hdrSize + payload.length) ∧
        ∃ frame, callOn (buildFwTxdFrame cid pqId setQuery extCid seq needRsp hdrSize payload) buf =
            .ok frame ∧
          frame.length = hdrSize + payload.length ∧
          (∃ f, decodeFwTxd hdrSize frame = some f ∧ f.length.toNat = hdrSize + payload.length ∧
            f.pqId = pqId ∧ f.cid = cid ∧ f.setQuery = setQuery ∧ f.extCid = extCid ∧
            f.seq = seq ∧ f.payload = payload ∧
            (f.option = EXT_CID_OPTION_NEED_ACK ↔
              cid = EXT_CID ∧ (setQuery = CMD_SET ∨ setQuery = CMD_QUERY) ∧ needRsp = true ∧
                seq ≠ 0)) ∧
          ∀ cid' pqId' setQuery' extCid' seq' needRsp' payload' buf',
            hdrSize + payload'.length ≤ 65535 → hdrSize + payload'.length ≤ buf'.length →
            callOn (buildFwTxdFrame cid' pqId' setQuery' extCid' seq' needRsp' hdrSize payload')
              buf' = .ok frame →
            cid' = cid ∧ pqId' = pqId ∧ setQuery' = setQuery ∧ extCid' = extCid ∧ seq' = seq ∧
              payload' = payload) ∧
      (buf.length < hdrSize + payload.length →
        buildFwTxdFrame cid pqId setQuery extCid seq needRsp hdrSize payload buf =
          (.error (.errno (-28)), buf)) ∧
      ∀ (e : Encoder) (stage : FwStage), e.stage = some stage →
        Frames stage.hdrSize e.run ∨
          ∃ chunk, e = .fwScatterFrame chunk ∧ FW_SCATTER_MAX_PAYLOAD < chunk.length ∧
            ∀ buf, e.run buf = (.error (.errno (-EINVAL)), buf) := by
  have h12 : FW_TXD_HDR_SIZE ≤ hdrSize := by
    rcases hh with rfl | rfl <;> decide
  refine ⟨fun hb => ?_, fun hb => fwTxdFrame_full (by omega) hb, mcu_frames⟩
  refine ⟨by rw [fwTxdFrame_ok h12 (by omega) hb], _, callOn_fwTxdFrame h12 (by omega) hb, ?_, ?_,
    ?_⟩
  · rw [length_fwTxdImage]
    omega
  · refine ⟨_, decode_fwTxdImage h12, ?_, rfl, rfl, rfl, rfl, rfl, rfl, extCidOption_needAck⟩
    rw [BitVec.toNat_ofNat, Nat.mod_eq_of_lt (by omega), Nat.add_comm]
  · intro cid' pqId' setQuery' extCid' seq' needRsp' payload' buf' hp' hb' he
    rw [callOn_fwTxdFrame h12 (by omega) hb'] at he
    exact fwTxdImage_inj h12 (Except.ok.inj he)

/-- The restart request: written in a buffer of 16 bytes and read back, refused in one of 11. -/
theorem fw_txd_round_trip_restart :
    (∃ frame f, callOn (buildFwTxdFrame MT_RESTART_DL_REQ P1_Q0 CMD_NA EXT_CMD_NA 1 true
        FW_TXD_HDR_SIZE []) (List.replicate 16 0xAA) = .ok frame ∧ frame.length = 12 ∧
      decodeFwTxd FW_TXD_HDR_SIZE frame = some f ∧ f.cid = MT_RESTART_DL_REQ ∧ f.pqId = P1_Q0 ∧
      f.seq = 1 ∧ f.payload = []) ∧
    buildFwTxdFrame MT_RESTART_DL_REQ P1_Q0 CMD_NA EXT_CMD_NA 1 true FW_TXD_HDR_SIZE []
      (List.replicate 11 0xAA) = (.error (.errno (-28)), List.replicate 11 0xAA) := by
  have hroom := fw_txd_round_trip MT_RESTART_DL_REQ P1_Q0 CMD_NA EXT_CMD_NA 1 true
    FW_TXD_HDR_SIZE [] (List.replicate 16 0xAA) (.inl rfl) (by decide)
  have hfull := fw_txd_round_trip MT_RESTART_DL_REQ P1_Q0 CMD_NA EXT_CMD_NA 1 true
    FW_TXD_HDR_SIZE [] (List.replicate 11 0xAA) (.inl rfl) (by decide)
  obtain ⟨-, frame, hframe, hlen, ⟨f, hf, -, hpq, hcid, -, -, hseq, hpay, -⟩, -⟩ :=
    hroom.1 (by decide)
  exact ⟨⟨frame, f, hframe, hlen, hf, hcid, hpq, hseq, hpay⟩, hfull.2.1 (by decide)⟩

end Rust
