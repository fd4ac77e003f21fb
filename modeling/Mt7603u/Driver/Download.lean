import Mt7603u.Driver.RegOps
import Mt7603u.Rust.Mcu

/-!
# Firmware download (`src/c/usb.c`)

`downloadFirmware` with its parts: enabling the bulk paths, sending the running firmware back to
ROM, the bypass mode of the scheduler, the polls of `TOP_MISC2`, the requests that wait for a
response and the loop that uploads the image.
-/

namespace Driver

open Effect Slice Word Rust

def MT7603_CMD_RSP_BULK_IN : U8 := 0x85
def MT7603_DATA_BULK_IN : U8 := 0x84

def MT7603_SCH_REG4 : U32 := 0x4594
def MT7603_TOP_MISC2 : U32 := 0x1134
def MT7603_SCH_REG4_FORCE_QID_MASK : U32 := 0x0f
def MT7603_SCH_REG4_BYPASS_MODE_MASK : U32 := bit 5
def MT7603_SCH_REG4_FORCE_QID_USB : U32 := 8
def MT7603_SCH_REG4_PSE_RESET_BIT : U32 := bit 8

def MT7603_UDMA_WLCFG_0 : U32 := 0x50029018
def MT7603_UDMA_RX_AGG_TOUT : U32 := 0x80
def MT7603_UDMA_RX_AGG_LMT : U32 := 0x15
def MT7603_UDMA_RX_MPSZ_PAD0 : U32 := bit 18
def MT7603_UDMA_RX_AGG_EN : U32 := bit 21
def MT7603_UDMA_RX_BULK_EN : U32 := bit 22
def MT7603_UDMA_TX_BULK_EN : U32 := bit 23

def MT7603_FW_CODE_START_ADDRESS1 : U32 := 0x100000
def MT7603_FW_SCATTER_MAX_PAYLOAD : Nat := 4064
def MT7603_ROM_READY_POLL_MAX : Nat := 500

def EIO : Int := 5
def ETIMEDOUT : Int := 110

/-! ## Parts -/

/-- `UDMA_WLCFG_0` with the bulk paths on. -/
def udmaConfig (rxAgg : Bool) (val : U32) : U32 :=
  let val := val &&& ~~~(0x0000ffff ||| MT7603_UDMA_RX_AGG_EN)
  let val := val ||| (MT7603_UDMA_RX_AGG_TOUT ||| MT7603_UDMA_RX_AGG_LMT <<< 8)
  let val := if rxAgg then val ||| MT7603_UDMA_RX_AGG_EN else val
  val ||| MT7603_UDMA_RX_MPSZ_PAD0 ||| (MT7603_UDMA_RX_BULK_EN ||| MT7603_UDMA_TX_BULK_EN)

/-- `mt7603_usb_enable_udma`. -/
def usbEnableUdma (rxAgg : Bool) : P Int := do
  let (ret, val) ← usbCfgRead MT7603_UDMA_WLCFG_0 0
  if ret < 0 then return ret
  else do
    let ret ← usbCfgWrite MT7603_UDMA_WLCFG_0 (udmaConfig rxAgg val)
    if ret < 0 then return ret
    else do
      let _ ← usbCfgRead MT7603_UDMA_WLCFG_0 0
      return 0

theorem all_usbCfgRead {p : Req → Prop} {addr val : U32} (h : p (.readReg addr)) :
    All (S := sig) p (usbCfgRead addr val) := ⟨h, fun _ => trivial⟩

theorem all_usbCfgWrite {p : Req → Prop} {addr val : U32} (h : p (.writeReg addr val)) :
    All (S := sig) p (usbCfgWrite addr val) := ⟨h, fun _ => trivial⟩

/-- Enabling the bulk engine reads and writes one register. -/
theorem all_usbEnableUdma {p : Req → Prop} {rxAgg : Bool} (hr : p (.readReg MT7603_UDMA_WLCFG_0))
    (hw : ∀ v, p (.writeReg MT7603_UDMA_WLCFG_0 v)) :
    All (S := sig) p (usbEnableUdma rxAgg) := by
  refine all_bind (all_usbCfgRead hr) fun ⟨ret, val⟩ => ?_
  dsimp only
  split
  · trivial
  · refine all_bind (all_usbCfgWrite (hw _)) fun ret => ?_
    split
    · trivial
    · exact all_bind (all_usbCfgRead hr) fun _ => trivial

/-- `mt7603_poll_top_misc2`, with the number of polls left. -/
def pollTopMisc2 (mask expect : U32) : Nat → P Int
  | 0 => return -ETIMEDOUT
  | n + 1 => do
    let (ret, val) ← usbReadReg MT7603_TOP_MISC2 0
    if ret < 0 then return (- EIO)
    else if val &&& mask = expect then return 0
    else pollTopMisc2 mask expect n

/-- `mt7603_next_cmd_seq`. -/
def nextCmdSeq (seq : U8) : U8 := if 0xf ≤ seq then 1 else seq + 1

/-- `mt7603_restart_dl_rsp`: a missing acknowledgement is no failure. -/
def restartDlRsp (cmd : List U8) : P Int := do
  let ret ← submitRsp MT7603_DATA_BULK_IN
  if ret < 0 then return ret
  else do
    let ret ← submitRsp MT7603_CMD_RSP_BULK_IN
    if ret < 0 then return ret
    else do
      let ret ← usbSendCmd cmd
      if ret < 0 then return ret
      else do
        let _ ← waitRsp
        return 0

/-- Send a request whose response is waited for, but not looked at. -/
def sendWaiting (cmd : List U8) : P Int := do
  let ret ← submitRsp MT7603_DATA_BULK_IN
  if ret < 0 then return ret
  else do
    let ret ← usbSendCmd cmd
    if ret < 0 then return ret
    else do
      let _ ← waitRsp
      return 0

/-- A built frame, or the builder's error; `x` goes on with the frame. -/
def withFrame (B : Out U8 Nat) (x : List U8 → P Int) : P Int :=
  match rustCall B (MT7603_FW_SCATTER_MAX_PAYLOAD + 32) with
  | .ok cmd => x cmd
  | .error (.errno code) => return code
  -- a panic, which none of the builders used here can reach
  | .error _ => return -EINVAL

/-- The upload loop, from `offset` on. -/
def scatterLoop (fw : List U8) (dlLen offset : Nat) : P Int :=
  if offset < dlLen then
    let chunkLen := min (dlLen - offset) MT7603_FW_SCATTER_MAX_PAYLOAD
    withFrame (buildFwScatterFrame ((fw.drop offset).take chunkLen)) fun cmd => do
      let ret ← usbSendCmd cmd
      if ret < 0 then return ret else scatterLoop fw dlLen (offset + chunkLen)
  else return 0
termination_by dlLen - offset
decreasing_by
  have : 0 < MT7603_FW_SCATTER_MAX_PAYLOAD := by decide
  omega

/-- From the ROM-ready poll to the poll for the running firmware. -/
def downloadBody (fw : List U8) (seq : U8) : P Int := do
  let ret ← pollTopMisc2 0x01 0x01 MT7603_ROM_READY_POLL_MAX
  if ret < 0 then do
    let _ ← usbReadReg MT7603_TOP_MISC2 0
    return ret
  else
    match fwDlLen fw with
    | none => return -EINVAL
    | some dlLen =>
      let seq := nextCmdSeq seq
      withFrame (buildAddrLenReq MT7603_FW_CODE_START_ADDRESS1 dlLen seq) fun cmd => do
        let ret ← sendWaiting cmd
        if ret < 0 then return ret
        else if fw.length < dlLen.toNat then return -EINVAL
        else do
          let ret ← scatterLoop fw dlLen.toNat 0
          if ret < 0 then return ret
          else
            withFrame (buildFwStartReq 1 MT7603_FW_CODE_START_ADDRESS1 (nextCmdSeq seq))
              fun cmd => do
                let ret ← sendWaiting cmd
                if ret < 0 then return ret
                else pollTopMisc2 0x02 0x02 MT7603_ROM_READY_POLL_MAX

/-- If RAM firmware runs, ask it to go back to ROM; the sequence number used last. -/
def restartIfRunning (misc2 : U32) : P U8 :=
  if misc2 &&& 0x02 = 0x02 then do
    let seq := nextCmdSeq 0
    let _ ← withFrame (buildRestartDlReq seq) restartDlRsp
    return seq
  else return 0

/-- Bypass the scheduler and force the queue of USB. -/
def enterBypass : P Int := do
  let (ret, val) ← usbReadReg MT7603_SCH_REG4 0
  if ret < 0 then return ret
  else do
    let val := (val &&& ~~~MT7603_SCH_REG4_BYPASS_MODE_MASK) ||| MT7603_SCH_REG4_BYPASS_MODE_MASK
    let val := (val &&& ~~~MT7603_SCH_REG4_FORCE_QID_MASK) ||| MT7603_SCH_REG4_FORCE_QID_USB
    let ret ← usbWriteReg MT7603_SCH_REG4 val
    if ret < 0 then return ret
    else do
      let _ ← usbReadReg MT7603_SCH_REG4 0
      return 0

/-- Back to normal mode, with a pulse on the PSE reset bit. -/
def leaveBypass : P Unit := do
  let (ret, val) ← usbReadReg MT7603_SCH_REG4 0
  if ret = 0 then do
    let val := val &&& ~~~MT7603_SCH_REG4_BYPASS_MODE_MASK &&& ~~~MT7603_SCH_REG4_FORCE_QID_MASK
    let _ ← usbWriteReg MT7603_SCH_REG4 val
    let val := val ||| MT7603_SCH_REG4_PSE_RESET_BIT
    let _ ← usbWriteReg MT7603_SCH_REG4 val
    let val := val &&& ~~~MT7603_SCH_REG4_PSE_RESET_BIT
    let _ ← usbWriteReg MT7603_SCH_REG4 val
    return ()
  else return ()

/-- `mt7603_download_firmware`. -/
def downloadFirmware (fw : List U8) : P Int := do
  let ret ← usbEnableUdma true
  if ret < 0 then return ret
  else do
    let (ret, misc2) ← usbReadReg MT7603_TOP_MISC2 0
    if ret < 0 then return ret
    else do
      let seq ← restartIfRunning misc2
      let ret ← enterBypass
      if ret < 0 then return ret
      else do
        let ok ← alloc (MT7603_FW_SCATTER_MAX_PAYLOAD + 32)
        let ret ← (if ok then downloadBody fw seq else pure (-ENOMEM) : P Int)
        leaveBypass
        return ret

end Driver
