import Mt7603u.Rust.Ffi

/-!
# MCU firmware and command frames (`src/rust/src/mcu.rs`)

Every command is framed by `buildFwTxdFrame`: a header of 12 bytes during firmware download and of
32 bytes afterwards, then the payload. The commands differ only in their ids and their payload,
which is a definition of its own for each.
-/

namespace Rust

open Slice Word

def FW_TXD_HDR_SIZE : Nat := 12
def FW_TXD_FULL_SIZE : Nat := 32

def MT_TARGET_ADDRESS_LEN_REQ : U8 := 0x01
def MT_FW_START_REQ : U8 := 0x02
def MT_FW_SCATTER : U8 := 0xEE
def MT_RESTART_DL_REQ : U8 := 0xEF
def EXT_CID : U8 := 0xED
def EXT_CMD_NA : U8 := 0
def EXT_CMD_RADIO_ON_OFF_CTRL : U8 := 0x05
def EXT_CMD_EDCA_SET : U8 := 0x27
def EXT_CMD_CHANNEL_SWITCH : U8 := 0x08
def EXT_CMD_SET_TX_POWER_CTRL : U8 := 0x11
def EXT_CMD_EFUSE_BUFFER_MODE : U8 := 0x21
def CMD_CH_PRIVILEGE : U8 := 0x20

def PKT_ID_CMD : U8 := 0xA0
def CMD_SET : U8 := 1
def CMD_QUERY : U8 := 0
def CMD_NA : U8 := 3
def EXT_CID_OPTION_NEED_ACK : U8 := 1
def EXT_CID_OPTION_NO_NEED_ACK : U8 := 0

def P1_Q0 : U16 := 0x8000
def FW_SCATTER_PQ_ID : U16 := 0xC000

def TARGET_ADDR_LEN_NEED_RSP : U32 := 0x80000000
def MT_UPLOAD_FW_UNIT : Nat := 4096
def FW_SCATTER_MAX_PAYLOAD : Nat := MT_UPLOAD_FW_UNIT - FW_TXD_FULL_SIZE

/-! ## Framing -/

/-- `ext_cid_option`. -/
def extCidOption (cid setQuery seq : U8) (needRsp : Bool) : U8 :=
  if cid = EXT_CID ∧ (setQuery = CMD_SET ∨ setQuery = CMD_QUERY) ∧ needRsp ∧ seq ≠ 0 then
    EXT_CID_OPTION_NEED_ACK
  else EXT_CID_OPTION_NO_NEED_ACK

/-- `build_fw_txd_frame`, as a release build compiles it: the `debug_assert!` that `hdrSize` is 12
or 32 is not there, so other header sizes run too, and `usize` arithmetic wraps. -/
def buildFwTxdFrame (cid : U8) (pqId : U16) (setQuery extCid seq : U8) (needRsp : Bool)
    (hdrSize : Nat) (payload : List U8) : Out U8 Nat :=
  let totalLen := (payload.length + hdrSize) % 2 ^ 64
  let lenField := BitVec.ofNat 16 totalLen
  .sized totalLen (-ENOSPC) do
    -- the reserved block between the 12 bytes below and the payload
    .writeVolatileFrom FW_TXD_HDR_SIZE (List.replicate (hdrSize - FW_TXD_HDR_SIZE) 0)
    .setFrom 0
      [lenField.extractLsb' 0 8, lenField.extractLsb' 8 8,
       pqId.extractLsb' 0 8, pqId.extractLsb' 8 8,
       cid, PKT_ID_CMD, setQuery, seq, 0x00, extCid, 0x00, extCidOption cid setQuery seq needRsp]
    .copyBytes hdrSize totalLen payload

/-! ## Firmware download -/

def addrLenPayload (address dlLen : U32) : List U8 :=
  toLe32 address ++ toLe32 dlLen ++ toLe32 TARGET_ADDR_LEN_NEED_RSP

/-- `build_addr_len_req`. -/
def buildAddrLenReq (address dlLen : U32) (seq : U8) : Out U8 Nat :=
  buildFwTxdFrame MT_TARGET_ADDRESS_LEN_REQ P1_Q0 CMD_NA EXT_CMD_NA seq true FW_TXD_HDR_SIZE
    (addrLenPayload address dlLen)

def fwStartPayload (override address : U32) : List U8 := toLe32 override ++ toLe32 address

/-- `build_fw_start_req`. -/
def buildFwStartReq (override address : U32) (seq : U8) : Out U8 Nat :=
  buildFwTxdFrame MT_FW_START_REQ P1_Q0 CMD_NA EXT_CMD_NA seq true FW_TXD_HDR_SIZE
    (fwStartPayload override address)

/-- `build_restart_dl_req`. -/
def buildRestartDlReq (seq : U8) : Out U8 Nat :=
  buildFwTxdFrame MT_RESTART_DL_REQ P1_Q0 CMD_NA EXT_CMD_NA seq true FW_TXD_HDR_SIZE []

/-- `build_fw_scatter_frame`. -/
def buildFwScatterFrame (chunk : List U8) : Out U8 Nat :=
  if FW_SCATTER_MAX_PAYLOAD < chunk.length then .fail (.errno (-EINVAL))
  else buildFwTxdFrame MT_FW_SCATTER FW_SCATTER_PQ_ID CMD_NA EXT_CMD_NA 0 false FW_TXD_HDR_SIZE
    chunk

/-- `fw_dl_len`: the word in the last four bytes, plus 4, in 32 bits. -/
def fwDlLen (fw : List U8) : Option U32 :=
  match fw.drop (fw.length - 4) with
  | [t0, t1, t2, t3] => some (le32 t0 t1 t2 t3 + 4)
  | _ => none

/-- `verify_firmware`. -/
def verifyFirmware (fw : List U8) : Rs Unit :=
  if fw.length < 1024 then .error (.errno (-EINVAL))
  else if fw.take 4 ≠ [0x46, 0x00, 0x01, 0x00] then .error (.errno (-EINVAL))
  else .ok ()

/-! ## Runtime commands -/

/-- A command of the running firmware that asks for an acknowledgement. -/
def extCmd (extCid seq : U8) (payload : List U8) : Out U8 Nat :=
  buildFwTxdFrame EXT_CID P1_Q0 CMD_SET extCid seq true FW_TXD_FULL_SIZE payload

def channelSwitchPayload (ctrlCh centralCh bw txStreams rxStreams : U8) : List U8 :=
  [ctrlCh, centralCh, bw, txStreams, rxStreams] ++ List.replicate 7 0 ++
    List.replicate 21 0xFF ++ List.replicate 3 0

/-- `build_channel_switch_cmd`. -/
def buildChannelSwitchCmd (ctrlCh centralCh bw txStreams rxStreams seq : U8) : Out U8 Nat :=
  extCmd EXT_CMD_CHANNEL_SWITCH seq (channelSwitchPayload ctrlCh centralCh bw txStreams rxStreams)

/-- A 16-bit word of the EEPROM image; bytes past its end read `0xff`. -/
def read16 (eeprom : List U8) (addr : Nat) : U8 × U8 :=
  (eeprom.getD addr 0xff, eeprom.getD (addr + 1) 0xff)

def NIC_CONFIGURE_1 : Nat := 0x36
def G_BAND_20_40_BW_PWR_DELTA : Nat := 0x50
def TX0_G_BAND_TARGET_PWR : Nat := 0x58
def TX0_G_BAND_CHL_PWR_DELTA_MID : Nat := 0x5A
def TX1_G_BAND_TARGET_PWR : Nat := 0x5E
def TX1_G_BAND_CHL_PWR_DELTA_MID : Nat := 0x60
def TX_PWR_CCK_1_2M : Nat := 0xA0
def STEP_NUM_NEG_7 : Nat := 0xC6

def txPowerCtrlPayload (eeprom : List U8) (centralCh : U8) : List U8 :=
  let lo addr := (read16 eeprom addr).1
  let hi addr := (read16 eeprom addr).2
  [centralCh, hi NIC_CONFIGURE_1, lo NIC_CONFIGURE_1,
    lo TX0_G_BAND_TARGET_PWR, lo TX1_G_BAND_TARGET_PWR] ++
  (List.range 7).flatMap (fun i => [lo (TX_PWR_CCK_1_2M + i * 2), hi (TX_PWR_CCK_1_2M + i * 2)]) ++
  [lo G_BAND_20_40_BW_PWR_DELTA,
    hi TX0_G_BAND_TARGET_PWR, lo TX0_G_BAND_CHL_PWR_DELTA_MID, hi TX0_G_BAND_CHL_PWR_DELTA_MID,
    hi TX1_G_BAND_TARGET_PWR, lo TX1_G_BAND_CHL_PWR_DELTA_MID, hi TX1_G_BAND_CHL_PWR_DELTA_MID] ++
  -- the high byte of the ninth step is not sent
  (List.range 8).flatMap (fun i => [lo (STEP_NUM_NEG_7 + i * 2), hi (STEP_NUM_NEG_7 + i * 2)]) ++
  [lo (STEP_NUM_NEG_7 + 16), 0]

/-- `build_tx_power_ctrl_cmd`. -/
def buildTxPowerCtrlCmd (eeprom : List U8) (centralCh seq : U8) : Out U8 Nat :=
  extCmd EXT_CMD_SET_TX_POWER_CTRL seq (txPowerCtrlPayload eeprom centralCh)

/-- `build_efuse_buffer_mode_cmd`: eFuse source mode, no entries; the image is not sent. -/
def buildEfuseBufferModeCmd (_eeprom : List U8) (seq : U8) : Out U8 Nat :=
  extCmd EXT_CMD_EFUSE_BUFFER_MODE seq (List.replicate (4 + 0xf0 * 4) 0)

def chPrivilegePayload (channel : U8) : List U8 :=
  [0, 0, 0, channel] ++ List.replicate 12 0

/-- `build_ch_privilege_cmd`: the one runtime command that is not an extended one. -/
def buildChPrivilegeCmd (channel seq : U8) : Out U8 Nat :=
  buildFwTxdFrame CMD_CH_PRIVILEGE P1_Q0 CMD_SET EXT_CMD_NA seq false FW_TXD_FULL_SIZE
    (chPrivilegePayload channel)

/-- `build_radio_on_off_cmd`. -/
def buildRadioOnOffCmd (on : Bool) (seq : U8) : Out U8 Nat :=
  extCmd EXT_CMD_RADIO_ON_OFF_CTRL seq [if on then 1 else 2, 0, 0, 0]

def WMM_EDCA_AIFSN : List U8 := [3, 7, 2, 2]
def WMM_EDCA_CWMIN : List Nat := [4, 4, 3, 2]
def WMM_EDCA_CWMAX : List Nat := [10, 10, 4, 3]
def WMM_EDCA_TXOP : List U16 := [0, 0, 0x60, 0x2F]
def WMM_ACI_TO_HW_QUEUE : List Nat := [1, 0, 2, 3]

/-- `TX_AC_PARAM_T` of an access category. -/
def edcaAcParam (ac : Nat) : List U8 :=
  let winMax := (1 : U16) <<< WMM_EDCA_CWMAX.getD ac 0 - 1
  [BitVec.ofNat 8 ac, 0x0F, WMM_EDCA_AIFSN.getD ac 0,
    ((1 : U16) <<< WMM_EDCA_CWMIN.getD ac 0).setWidth 8 - 1] ++
  toLe16 winMax ++ toLe16 (WMM_EDCA_TXOP.getD ac 0)

/-- The parameters, each at the place of its hardware queue. -/
def edcaSetPayload : List U8 :=
  [0, 1, 2, 3].foldl
    (fun p ac => overwrite (4 + WMM_ACI_TO_HW_QUEUE.getD ac 0 * 8) (edcaAcParam ac) p)
    (4 :: List.replicate 35 0)

/-- `build_edca_set_cmd`. -/
def buildEdcaSetCmd (seq : U8) : Out U8 Nat := extCmd EXT_CMD_EDCA_SET seq edcaSetPayload

end Rust
