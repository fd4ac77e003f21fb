import Mt7603u.Rust.Ap
import Mt7603u.Rust.Eeprom
import Mt7603u.Rust.Mcu
import Mt7603u.Rust.Rx
import Mt7603u.Rust.Tx

/-!
# The exported functions (`src/rust/src/lib.rs`)

A pointer argument is an `Option`: null, or the object it points to. An exported function gets the
caller's output objects as they are before the call and gives its return code, with the objects as
they are afterwards; a call that does not return (a panic) has no code.

All functions have one of three shapes: a builder writes into a buffer and stores how much
(`buildInto`), a parser stores what it read (`parseInto`), and `build_txwi` stores no length.
-/

namespace Rust

open Slice Word

section
variable {α β : Type}

/-- Check the pointers, then build into the buffer and store the number of elements. `build` is
missing if an input pointer is null. -/
def buildInto (build : Option (Out β Nat)) (buf : Option (List β)) (written : Option Nat) :
    Rs Int × Option (List β) × Option Nat :=
  match build, buf, written with
  | some B, some b, some _ =>
    match B b with
    | (.ok n, b') => (.ok 0, some b', some n)
    | (.error (.errno code), b') => (.ok code, some b', written)
    | (.error e, b') => (.error e, some b', written)
  | _, _, _ => (.ok (-EINVAL), buf, written)

/-- Check the pointers, then parse and store the result. -/
def parseInto (parsed : Option (Rs α)) (out : Option α) : Rs Int × Option α :=
  match parsed, out with
  | some r, some _ =>
    match r with
    | .ok a => (.ok 0, some a)
    | .error (.errno code) => (.ok code, out)
    | .error e => (.error e, out)
  | _, _ => (.ok (-EINVAL), out)

end

/-! ## Parsers -/

/-- `mt7603_rust_parse_eeprom`. -/
def rustParseEeprom (buf : Option (List U8)) : Option EepromData → Rs Int × Option EepromData :=
  parseInto (buf.map parseEeprom)

/-- `mt7603_rust_parse_rx_frame`. -/
def rustParseRxFrame (data : Option (List U8)) (rssiOffset : Int) :
    Option RxInfo → Rs Int × Option RxInfo :=
  parseInto (data.map (parseRxFrame · rssiOffset))

/-- `mt7603_rust_parse_beacon`. -/
def rustParseBeacon (frameBuf : Option (List U8)) :
    Option StaBssInfo → Rs Int × Option StaBssInfo :=
  parseInto (frameBuf.map parseBeacon)

/-- `mt7603_rust_fw_dl_len`: no length is `-EINVAL`. -/
def rustFwDlLen (fw : Option (List U8)) : Option U32 → Rs Int × Option U32 :=
  parseInto (fw.map fun fw => (fwDlLen fw).elim (.error (.errno (-EINVAL))) .ok)

/-- `mt7603_rust_parse_assoc_req`: three output pointers, all of them needed. -/
def rustParseAssocReq (frameBuf : Option (List U8))
    (outs : Option MacAddr × Option U16 × Option U16) :
    Rs Int × Option MacAddr × Option U16 × Option U16 :=
  match frameBuf, outs with
  | some frame, (some _, some _, some _) =>
    match parseAssocReq frame with
    | .ok (staMac, cap, listen) => (.ok 0, some staMac, some cap, some listen)
    | .error (.errno code) => (.ok code, outs)
    | .error e => (.error e, outs)
  | _, _ => (.ok (-EINVAL), outs)

/-- `mt7603_rust_verify_firmware`: no output. -/
def rustVerifyFirmware (fw : Option (List U8)) : Rs Int :=
  match fw with
  | none => .ok (-EINVAL)
  | some fw =>
    match verifyFirmware fw with
    | .ok () => .ok 0
    | .error (.errno code) => .ok code
    | .error e => .error e

/-! ## Register sequences -/

/-- `ops_buf` and `out_count`. -/
abbrev OpsOut := Option (List RegWriteOp) × Option Nat

/-- `mt7603_rust_get_mac_init_sequence`. -/
def rustGetMacInitSequence (outs : OpsOut) : Rs Int × OpsOut :=
  buildInto (some buildMacInitSequence) outs.1 outs.2

/-- `mt7603_rust_get_channel_sequence`. -/
def rustGetChannelSequence (channel bw : U8) (outs : OpsOut) : Rs Int × OpsOut :=
  buildInto (some (buildChannelSequence channel bw)) outs.1 outs.2

/-- `mt7603_rust_build_own_mac_sequence`. -/
def rustBuildOwnMacSequence (mac : Option MacAddr) (outs : OpsOut) : Rs Int × OpsOut :=
  buildInto (mac.map buildOwnMacSequence) outs.1 outs.2

/-- `mt7603_rust_build_wtbl_sta_sequence`. -/
def rustBuildWtblStaSequence (bssid : Option MacAddr) (outs : OpsOut) : Rs Int × OpsOut :=
  buildInto (bssid.map buildWtblStaSequence) outs.1 outs.2

/-- `mt7603_rust_build_ap_bss_sync_sequence`. -/
def rustBuildApBssSyncSequence (beaconPeriod : U16) (enable : Bool) (outs : OpsOut) :
    Rs Int × OpsOut :=
  buildInto (some (buildApBssSyncSequence beaconPeriod enable)) outs.1 outs.2

/-- `mt7603_rust_build_rx_filter_sequence`. -/
def rustBuildRxFilterSequence (promisc fcsFail : Bool) (outs : OpsOut) : Rs Int × OpsOut :=
  buildInto (some (buildRxFilterSequence promisc fcsFail)) outs.1 outs.2

/-- `mt7603_rust_build_ba_session_sequence`. -/
def rustBuildBaSessionSequence (wcid tid baSize : U8) (enable : Bool) (prevDw15 : U32)
    (outs : OpsOut) : Rs Int × OpsOut :=
  buildInto (some (buildBaSessionSequence wcid tid baSize enable prevDw15)) outs.1 outs.2

/-! ## Frames -/

/-- `out_buf` and `out_written`. -/
abbrev BytesOut := Option (List U8) × Option Nat

/-- `mt7603_rust_build_txwi`: the length is not stored, it is always 32. -/
def rustBuildTxwi (params : Option TxParams) (txwiBuf : Option (List U8)) :
    Rs Int × Option (List U8) :=
  match params, txwiBuf with
  | some p, some buf =>
    match buildTxwi p buf with
    | (.ok _, buf') => (.ok 0, some buf')
    | (.error (.errno code), buf') => (.ok code, some buf')
    | (.error e, buf') => (.error e, some buf')
  | _, _ => (.ok (-EINVAL), txwiBuf)

/-- `mt7603_rust_build_addr_len_req`. -/
def rustBuildAddrLenReq (address dlLen : U32) (seq : U8) (outs : BytesOut) : Rs Int × BytesOut :=
  buildInto (some (buildAddrLenReq address dlLen seq)) outs.1 outs.2

/-- `mt7603_rust_build_fw_start_req`. -/
def rustBuildFwStartReq (override address : U32) (seq : U8) (outs : BytesOut) :
    Rs Int × BytesOut :=
  buildInto (some (buildFwStartReq override address seq)) outs.1 outs.2

/-- `mt7603_rust_build_restart_dl_req`. -/
def rustBuildRestartDlReq (seq : U8) (outs : BytesOut) : Rs Int × BytesOut :=
  buildInto (some (buildRestartDlReq seq)) outs.1 outs.2

/-- `mt7603_rust_build_fw_scatter_frame`. -/
def rustBuildFwScatterFrame (chunk : Option (List U8)) (outs : BytesOut) : Rs Int × BytesOut :=
  buildInto (chunk.map buildFwScatterFrame) outs.1 outs.2

/-- `mt7603_rust_build_probe_req`: a null `ssid` is the empty one. -/
def rustBuildProbeReq (ssid : Option (List U8)) (srcMac : Option MacAddr) (outs : BytesOut) :
    Rs Int × BytesOut :=
  buildInto (srcMac.map (buildProbeRequest (ssid.getD []))) outs.1 outs.2

/-- `mt7603_rust_build_beacon`. -/
def rustBuildBeacon (ssid : Option (List U8)) (bssid : Option MacAddr) (channel : U8)
    (outs : BytesOut) : Rs Int × BytesOut :=
  buildInto (bssid.map (buildBeacon (ssid.getD []) · channel)) outs.1 outs.2

/-- `mt7603_rust_build_assoc_resp`. -/
def rustBuildAssocResp (staMac bssid : Option MacAddr) (aid statusCode : U16) (outs : BytesOut) :
    Rs Int × BytesOut :=
  buildInto (staMac.bind fun sta => bssid.map (buildAssocResp sta · aid statusCode)) outs.1 outs.2

/-- `mt7603_rust_build_chan_switch_cmd`. -/
def rustBuildChanSwitchCmd (ctrlCh centralCh bw txStreams rxStreams seq : U8) (outs : BytesOut) :
    Rs Int × BytesOut :=
  buildInto (some (buildChannelSwitchCmd ctrlCh centralCh bw txStreams rxStreams seq)) outs.1 outs.2

/-- `mt7603_rust_build_tx_power_ctrl_cmd`. -/
def rustBuildTxPowerCtrlCmd (eeprom : Option (List U8)) (centralCh seq : U8) (outs : BytesOut) :
    Rs Int × BytesOut :=
  buildInto (eeprom.map (buildTxPowerCtrlCmd · centralCh seq)) outs.1 outs.2

/-- `mt7603_rust_build_efuse_buffer_mode_cmd`. -/
def rustBuildEfuseBufferModeCmd (eeprom : Option (List U8)) (seq : U8) (outs : BytesOut) :
    Rs Int × BytesOut :=
  buildInto (eeprom.map (buildEfuseBufferModeCmd · seq)) outs.1 outs.2

/-- `mt7603_rust_build_radio_on_off_cmd`. -/
def rustBuildRadioOnOffCmd (on : Bool) (seq : U8) (outs : BytesOut) : Rs Int × BytesOut :=
  buildInto (some (buildRadioOnOffCmd on seq)) outs.1 outs.2

/-- `mt7603_rust_build_edca_set_cmd`. -/
def rustBuildEdcaSetCmd (seq : U8) (outs : BytesOut) : Rs Int × BytesOut :=
  buildInto (some (buildEdcaSetCmd seq)) outs.1 outs.2

/-- `mt7603_rust_build_ch_privilege_cmd`. -/
def rustBuildChPrivilegeCmd (channel seq : U8) (outs : BytesOut) : Rs Int × BytesOut :=
  buildInto (some (buildChPrivilegeCmd channel seq)) outs.1 outs.2

end Rust
