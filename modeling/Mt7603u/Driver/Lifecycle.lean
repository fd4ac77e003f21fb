import Mt7603u.Driver.Download
import Mt7603u.Driver.Mac80211
import Mathlib.Logic.Relation

/-!
# The device as mac80211 drives it (`src/c/mac80211.c`)

`start` and `stop` bring the device up and down. `Host` is the device with what mac80211 knows
about it: whether it has been started, and which interfaces have been added. An `Action` is one
call of the driver, `Action.Allowed` says when mac80211 issues it: nothing but `start` before the
device is up, `start` only while it is not, and calls about an interface only between its
`add_interface` and its `remove_interface`.

`Sys` puts the registers beside the host. `Reaches C σ τ`: the system gets from `σ` to `τ` by
allowed calls that satisfy `C`, with register writes succeeding and everything else answered freely.
-/

namespace Driver

open Effect Slice Word Rust

/-! ## Receive ring -/

def MT7603_NUM_RX_URBS : Nat := 4
def MT7603_RX_BUF_SIZE : Nat := 24576

/-- `struct mt7603_rx_urb`: which of its objects are there. -/
structure RxUrb where
  buf : Bool
  urb : Bool
  deriving DecidableEq, Repr

/-- `rx_urbs`, `cmd_buf` and `cmd_urb`. -/
structure RxRing where
  rxUrbs : List RxUrb
  cmdBuf : Bool
  cmdUrb : Bool
  deriving DecidableEq, Repr

/-- The ring of a device that is down. -/
def RxRing.empty : RxRing := ⟨List.replicate MT7603_NUM_RX_URBS ⟨false, false⟩, false, false⟩

/-- One of the URBs with its buffer. -/
inductive RingSlot
  | rx (i : Nat)
  | cmd
  deriving DecidableEq, Repr

/-- The endpoint it is submitted on. -/
def RingSlot.ep : RingSlot → U8
  | .rx _ => MT7603_DATA_BULK_IN
  | .cmd => MT7603_CMD_RSP_BULK_IN

/-- The requests `mt7603_start_rx` makes, in the signature of the one who calls it. -/
structure RxOps (M : Type → Type) where
  kmalloc : RingSlot → Nat → M Bool
  allocUrb : RingSlot → M Bool
  /-- `usb_fill_bulk_urb` and `usb_submit_urb`: 0 or an error. -/
  submit : RingSlot → M Int

section
variable {M : Type → Type} [Monad M]

/-- `if (!p) p = alloc()`: whether `p` is there afterwards. -/
def allocUnless (there : Bool) (alloc : M Bool) : M Bool := if there then return true else alloc

/-- The loop of `mt7603_start_rx` from entry `i` on: the code and the entries after it. -/
def startRxUrbs (ops : RxOps M) (i : Nat) : List RxUrb → M (Int × List RxUrb)
  | [] => return (0, [])
  | e :: es => do
    let buf ← allocUnless e.buf (ops.kmalloc (.rx i) MT7603_RX_BUF_SIZE)
    if buf then do
      let urb ← allocUnless e.urb (ops.allocUrb (.rx i))
      if urb then do
        -- a failed submission is only logged
        let _ ← ops.submit (.rx i)
        let (ret, es) ← startRxUrbs ops (i + 1) es
        return (ret, ⟨true, true⟩ :: es)
      else return (-ENOMEM, ⟨true, false⟩ :: es)
    else return (-ENOMEM, e :: es)

/-- `mt7603_start_rx`, by the requests `ops`. -/
def startRxBy (ops : RxOps M) (ring : RxRing) : M (Int × RxRing) := do
  let (ret, rxUrbs) ← startRxUrbs ops 0 ring.rxUrbs
  if ret < 0 then return (ret, { ring with rxUrbs })
  else do
    let cmdBuf ← allocUnless ring.cmdBuf (ops.kmalloc .cmd 512)
    if cmdBuf ∧ ¬ring.cmdUrb then do
      let cmdUrb ← ops.allocUrb .cmd
      if cmdUrb then do
        let _ ← ops.submit .cmd
        return (0, ⟨rxUrbs, cmdBuf, true⟩)
      else return (0, ⟨rxUrbs, cmdBuf, false⟩)
    else return (0, ⟨rxUrbs, cmdBuf, ring.cmdUrb⟩)

end

/-- Without the URBs in view. -/
def rxOps : RxOps P := ⟨fun _ size => alloc size, fun _ => alloc 0, fun u => submitRsp u.ep⟩

/-- `mt7603_start_rx`. -/
def startRx (ring : RxRing) : P (Int × RxRing) := startRxBy rxOps ring

/-! ## Start and stop -/

def DMA_TCFR1 : U32 := 0x00021C84

def BCAST_ADDR : MacAddr := ⟨0xff, 0xff, 0xff, 0xff, 0xff, 0xff⟩

/-- Push the calibration data, if there is any. -/
def uploadEfuse (dev : Dev) : P Dev :=
  if dev.eepromValid then do
    sendBuilt (buildEfuseBufferModeCmd dev.eeprom dev.cmdSeq) (MT7603_EEPROM_SIZE + 64)
    return { dev with cmdSeq := nextSeq dev.cmdSeq }
  else return dev

/-- The end of `mt7603_mac80211_start`, once the receive URBs are out. -/
def startTail (dev : Dev) (ring : RxRing) : P (Int × Dev × RxRing) := do
  let ok ← alloc (MT7603_EEPROM_SIZE + 64)
  if ok then do
    let dev ← uploadEfuse dev
    executeBuilt buildMacInitSequence 128
    executeBuilt (buildOwnMacSequence dev.macAddr) 128
    executeBuilt (buildWtblStaSequence BCAST_ADDR) 128
    sendBuilt (buildRadioOnOffCmd true dev.cmdSeq) (MT7603_EEPROM_SIZE + 64)
    let dev := { dev with cmdSeq := nextSeq dev.cmdSeq }
    sendBuilt (buildEdcaSetCmd dev.cmdSeq) (MT7603_EEPROM_SIZE + 64)
    let _ ← usbWriteReg DMA_TCFR1 (bit 8 ||| bit 16)
    let dev ← setChannel dev 1
    return (0, dev, ring)
  else return (-ENOMEM, dev, ring)

/-- `mt7603_mac80211_start`. -/
def start (dev : Dev) (ring : RxRing) : P (Int × Dev × RxRing) := do
  let dev := { dev with cmdSeq := nextSeq dev.cmdSeq, running := true }
  let _ ← usbEnableUdma true
  let (_, ring) ← startRx ring
  startTail dev ring

/-- `mt7603_mac80211_stop`, with `mt7603_stop_rx`. -/
def stop (dev : Dev) : P (Dev × RxRing) := do
  let dev := { dev with running := false, beaconEnabled := false }
  cancelBeacon
  return (dev, .empty)

/-! ## The host -/

/-- The device and mac80211's view of it. -/
structure Host where
  dev : Dev
  ring : RxRing
  up : Bool
  /-- The interfaces added and not removed again, with their types. -/
  vifs : List (Nat × IfType)

/-- A channel of the band: `center_freq` and `hw_value`. -/
structure Channel where
  centerFreq : Nat
  hwValue : U8
  deriving DecidableEq, Repr

/-- `mt7603_channels_2ghz`. -/
def mt7603Channels2ghz : List Channel :=
  [⟨2412, 1⟩, ⟨2417, 2⟩, ⟨2422, 3⟩, ⟨2427, 4⟩, ⟨2432, 5⟩, ⟨2437, 6⟩, ⟨2442, 7⟩, ⟨2447, 8⟩,
   ⟨2452, 9⟩, ⟨2457, 10⟩, ⟨2462, 11⟩, ⟨2467, 12⟩, ⟨2472, 13⟩]

/-- The bitrates of `mt7603_rates_2ghz`, in units of 100 kbit/s. -/
def mt7603Rates2ghz : List Nat := [10, 20, 55, 110, 60, 90, 120, 180, 240, 360, 480, 540]

/-- The rates in `rx_mask` of the band's HT capabilities: MCS 0 to 15. -/
def mt7603Mcs : Nat := 16

/-- `mt7603_register_mac80211`: the device before its first start. -/
def Host.registered (macAddr : MacAddr) (eepromValid : Bool) (rssiOffset2g : Int)
    (eeprom : List U8) : Host where
  dev := { Dev.zeroed with macAddr, eepromValid, rssiOffset2g, eeprom }
  ring := .empty
  up := false
  vifs := []

/-- One call mac80211 makes. -/
inductive Action
  | start
  | stop
  | removeInterface (vif : Vif)
  | call (vif : Vif) (cb : Callback)

/-- The interfaces after a callback. -/
def Host.afterCall (vifs : List (Nat × IfType)) (vif : Vif) : Callback → List (Nat × IfType)
  | .addInterface => (vif.id, vif.type) :: vifs
  | _ => vifs

/-- The host after the call. -/
def Action.run (h : Host) : Action → P Host
  | .start => do
    let (ret, dev, ring) ← Driver.start h.dev h.ring
    return { h with dev, ring, up := ret = 0 }
  | .stop => do
    let (dev, ring) ← Driver.stop h.dev
    return { h with dev, ring, up := false }
  | .removeInterface vif => do
    let dev ← Driver.removeInterface h.dev vif
    return { h with dev, vifs := h.vifs.erase (vif.id, vif.type) }
  | .call vif cb => do
    let dev ← cb.run vif h.dev
    return { h with dev, vifs := Host.afterCall h.vifs vif cb }

/-- When mac80211 makes the call. -/
def Action.Allowed (h : Host) : Action → Prop
  | .start => h.up = false
  | .stop => h.up = true
  | .removeInterface vif => h.up = true ∧ (vif.id, vif.type) ∈ h.vifs
  | .call vif .addInterface => h.up = true ∧ vif.id ∉ h.vifs.map (·.1)
  | .call _ (.config _ _) => h.up = true
  | .call _ (.configureFilter _ _) => h.up = true
  | .call vif _ => h.up = true ∧ (vif.id, vif.type) ∈ h.vifs

/-! ## The system -/

/-- The host and the device's registers. -/
structure Sys where
  host : Host
  regs : RegFile

/-- An allowed call takes the system from `σ` to `τ`. -/
def Step (a : Action) (σ τ : Sys) : Prop :=
  a.Allowed σ.host ∧ Runs (regEnv False) (a.run σ.host) σ.regs τ.host τ.regs

/-- From `σ` to `τ` by calls that satisfy `C`. -/
def Reaches (C : Host → Action → Prop) : Sys → Sys → Prop :=
  Relation.ReflTransGen fun σ τ => ∃ a, C σ.host a ∧ Step a σ τ

end Driver
