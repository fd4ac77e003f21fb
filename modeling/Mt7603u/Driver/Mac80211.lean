import Mt7603u.Driver.RegOps
import Mt7603u.Rust.Ap
import Mt7603u.Rust.Mcu

/-!
# mac80211 callbacks (`src/c/mac80211.c`)

The device state `Dev` and the callbacks that change registers. Each callback is a program from
the device state to the device state, with the requests it issues on the way. The kernel's version
switches are taken on the side of a current kernel.

`Callback` is one call on a given interface, `runAll` a sequence of them.
-/

namespace Driver

open Effect Slice Word Rust

/-! ## State -/

inductive IfType
  | station
  | ap
  | monitor
  deriving DecidableEq, Repr

/-- What the driver reads of `ieee80211_vif`; `id` is the pointer. -/
structure Vif where
  id : Nat
  type : IfType
  addr : MacAddr
  /-- `vif->bss_conf.bss->channel->hw_value`. -/
  bssChan : Option U8
  deriving DecidableEq, Repr

/-- `struct mt7603u_dev`, without the USB objects. The bandwidth is only ever set by
`setChannelExt`, which keeps it to 20 or 40 MHz. -/
structure Dev where
  apVif : Option Nat
  beaconInt : U16
  beaconEnabled : Bool
  macAddr : MacAddr
  currentChannel : U8
  currentBw : U8
  monitorCount : Nat
  filterFlags : BitVec 64
  cmdSeq : U8
  running : Bool
  eepromValid : Bool
  rssiOffset2g : Int
  eeprom : List U8
  currentBw_le : currentBw ≤ 1

def MT7603_EEPROM_SIZE : Nat := 1024

/-- `hw->priv` as `ieee80211_alloc_hw` returns it. -/
def Dev.zeroed : Dev where
  apVif := none
  beaconInt := 0
  beaconEnabled := false
  macAddr := ⟨0, 0, 0, 0, 0, 0⟩
  currentChannel := 0
  currentBw := 0
  monitorCount := 0
  filterFlags := 0
  cmdSeq := 0
  running := false
  eepromValid := false
  rssiOffset2g := 0
  eeprom := List.replicate MT7603_EEPROM_SIZE 0
  currentBw_le := by decide

def Vif.isAp (vif : Option Vif) : Bool :=
  match vif with
  | some v => v.type = .ap
  | none => false

/-! ## Channel -/

/-- The next MCU command number: 1..15. -/
def nextSeq (seq : U8) : U8 := seq % 15 + 1

/-- `mt7603_set_channel_ext`. -/
def setChannelExt (dev : Dev) (channel bw centralCh : U8) : P Dev := do
  let channel := if channel < 1 ∨ 14 < channel then 1 else channel
  let centralCh := if centralCh < 1 ∨ 14 < centralCh then channel else centralCh
  let seq := nextSeq dev.cmdSeq
  sendBuilt (buildChannelSwitchCmd channel centralCh (if 1 < bw then 0 else bw) 2 2 seq) 128
  let _ ← usbWriteReg RMAC_CHFREQ 1
  let seq := nextSeq seq
  sendBuilt (buildTxPowerCtrlCmd dev.eeprom channel seq) 128
  return { dev with
    cmdSeq := seq
    currentChannel := channel
    currentBw := if 1 < bw then 0 else bw
    currentBw_le := by split <;> simp_all }

/-- `mt7603_set_channel`. -/
def setChannel (dev : Dev) (channel : U8) : P Dev := setChannelExt dev channel 0 channel

/-- `if (c) { ... }`. -/
def onlyIf (c : Prop) [Decidable c] (x : P Unit) : P Unit := if c then x else return ()

/-- Tune to a channel unless the device is there already. -/
def tuneTo (dev : Dev) (channel : U8) : P Dev :=
  if channel ≠ dev.currentChannel then setChannel dev channel else return dev

/-- What the driver reads of `cfg80211_chan_def`. -/
structure ChanDef where
  /-- `chan->hw_value`. -/
  chan : Option U8
  width40 : Bool
  centerFreq1 : Nat
  deriving DecidableEq, Repr

/-- `mt7603_set_chandef`. -/
def setChandef (dev : Dev) (chandef : ChanDef) : P Dev :=
  let ch := chandef.chan.getD 1
  let bw : U8 := if chandef.width40 then 1 else 0
  let centralCh : U8 :=
    if bw ≠ 0 ∧ 2412 ≤ chandef.centerFreq1 then BitVec.ofNat 8 ((chandef.centerFreq1 - 2407) / 5)
    else ch
  setChannelExt dev ch bw centralCh

def IEEE80211_CONF_CHANGE_CHANNEL : U32 := 0x40

/-- `mt7603_mac80211_config`. -/
def config (dev : Dev) (chandef : ChanDef) (changed : U32) : P Dev :=
  match chandef.chan with
  | some ch =>
    if changed &&& IEEE80211_CONF_CHANGE_CHANNEL ≠ 0 ∨ ch ≠ dev.currentChannel then
      setChandef dev chandef
    else return dev
  | none => return dev

/-! ## Interfaces and filters -/

/-- The two words of an address, as the driver packs them by hand. -/
def packLo (a : MacAddr) : U32 :=
  a.b0.setWidth 32 ||| a.b1.setWidth 32 <<< 8 ||| a.b2.setWidth 32 <<< 16 |||
    a.b3.setWidth 32 <<< 24
def packHi (a : MacAddr) : U32 := a.b4.setWidth 32 ||| a.b5.setWidth 32 <<< 8 ||| bit 16

def RMAC_CB0R0 : U32 := 0x00021804
def RMAC_CB0R1 : U32 := 0x00021808

/-- Write the current BSSID. -/
def writeBssid (a : MacAddr) : P Unit := do
  let _ ← usbWriteReg RMAC_CB0R0 (packLo a)
  let _ ← usbWriteReg RMAC_CB0R1 (packHi a)
  return ()

/-- Clear the current BSSID. -/
def clearBssid : P Unit := do
  let _ ← usbWriteReg RMAC_CB0R0 0
  let _ ← usbWriteReg RMAC_CB0R1 0
  return ()

def FIF_FCSFAIL : BitVec 64 := 0x4
def FIF_BCN_PRBRESP_PROMISC : BitVec 64 := 0x10

/-- `FIF_ALLMULTI | FIF_BCN_PRBRESP_PROMISC | FIF_CONTROL | FIF_OTHER_BSS | FIF_FCSFAIL |
FIF_PLCPFAIL | FIF_PSPOLL`. -/
def supportedFilters : U32 := 0x2 ||| 0x10 ||| 0x20 ||| 0x40 ||| 0x4 ||| 0x8 ||| 0x80

/-- `mt7603_mac80211_add_interface`. -/
def addInterface (dev : Dev) (vif : Vif) : P Dev := do
  let dev := if vif.type = .monitor then { dev with monitorCount := dev.monitorCount + 1 } else dev
  onlyIf (vif.type = .monitor ∧ dev.running)
    (executeBuilt (buildRxFilterSequence true (dev.filterFlags &&& FIF_FCSFAIL ≠ 0)) 4)
  if vif.addr.isZero then return dev
  else do
    executeBuilt (buildOwnMacSequence vif.addr) 32
    if vif.type = .ap then do
      writeBssid vif.addr
      return { dev with apVif := some vif.id }
    else return dev

/-- `mt7603_mac80211_remove_interface`. -/
def removeInterface (dev : Dev) (vif : Vif) : P Dev := do
  let dev := if vif.type = .monitor then { dev with monitorCount := dev.monitorCount - 1 } else dev
  onlyIf (vif.type = .monitor ∧ dev.monitorCount = 0 ∧ dev.running)
    (executeBuilt (buildRxFilterSequence false false) 4)
  if dev.apVif = some vif.id then do
    cancelBeacon
    return { dev with beaconEnabled := false, apVif := none }
  else return dev

/-- `mt7603_mac80211_configure_filter`: the device and the flags it accepts. -/
def configureFilter (dev : Dev) (totalFlags : U32) (flags : BitVec 64) : P (Dev × U32) := do
  let promisc := 0 < dev.monitorCount ∨ flags &&& FIF_BCN_PRBRESP_PROMISC ≠ 0
  onlyIf dev.running
    (executeBuilt (buildRxFilterSequence promisc (flags &&& FIF_FCSFAIL ≠ 0)) 4)
  return ({ dev with filterFlags := flags }, totalFlags &&& supportedFilters)

/-! ## BSS changes -/

/-- What the driver reads of `ieee80211_bss_conf`. -/
structure BssConf where
  bssid : Option MacAddr
  /-- `chanreq.oper.chan->hw_value`. -/
  operChan : Option U8
  enableBeacon : Bool
  beaconInt : U16
  /-- `bss->channel->hw_value`. -/
  bssChan : Option U8
  deriving DecidableEq, Repr

def BSS_CHANGED_ASSOC : BitVec 64 := 0x1
def BSS_CHANGED_BEACON_INT : BitVec 64 := 0x40
def BSS_CHANGED_BSSID : BitVec 64 := 0x80
def BSS_CHANGED_BEACON : BitVec 64 := 0x100
def BSS_CHANGED_BEACON_ENABLED : BitVec 64 := 0x200

/-- Leave multi-BSSID mode: clear bits 25:24 of `RMAC_RMACDR`. -/
def clearMbssid : P Unit := do
  let (ret, rmacdr) ← usbReadReg RMAC_RMACDR 0
  if ret = 0 then do
    let _ ← usbWriteReg RMAC_RMACDR (rmacdr &&& ~~~((0x3 : U32) <<< 24))
    return ()
  else return ()

/-- WTBL2 DW15 of WCID 1. -/
def WTBL2_DW15_1 : U32 := 0x0004007C

/-- Fill WTBL1 entries 0 and 1 for a peer and clear its BlockAck word. -/
def programPeer (addr : MacAddr) : P Unit :=
  match rustCall (buildWtblStaSequence addr) 32 with
  | .ok ops =>
    if ops ≠ [] then do
      let _ ← executeRegOps ops
      let _ ← usbWriteReg WTBL2_DW15_1 0
      return ()
    else return ()
  | .error _ => return ()

/-- Clear the first three words of WTBL1 entry 1. -/
def clearEntry1 : P Unit := do
  let _ ← usbWriteReg (WTBL1_BASE + WTBL1_ENTRY_SIZE) 0
  let _ ← usbWriteReg (WTBL1_BASE + WTBL1_ENTRY_SIZE + 0x04) 0
  let _ ← usbWriteReg (WTBL1_BASE + WTBL1_ENTRY_SIZE + 0x08) 0
  return ()

/-- Tune to a peer's channel: the scan cache's, else `fallback`. -/
def tuneToPeer (dev : Dev) (addr : MacAddr) (fallback : Option U8) : P Dev := do
  match ← getBss addr with
  | some (some ch) => tuneTo dev ch
  | some none => return dev
  | none =>
    match fallback with
    | some ch => tuneTo dev ch
    | none => return dev

/-- Write an access point's own address and BSSID again. -/
def programAp (dev : Dev) (vif : Option Vif) : P Dev :=
  match vif with
  | some v =>
    if v.type = .ap ∧ ¬v.addr.isZero then do
      executeBuilt (buildOwnMacSequence v.addr) 32
      writeBssid v.addr
      clearMbssid
      return { dev with apVif := some v.id }
    else return dev
  | none => return dev

def disableBeacon (dev : Dev) (changed : BitVec 64) : P Dev :=
  if changed &&& BSS_CHANGED_BEACON_ENABLED ≠ 0 then do
    cancelBeacon
    executeBuilt (buildApBssSyncSequence 0 false) 32
    return { dev with beaconEnabled := false }
  else return dev

/-- The beacon part of `bss_info_changed`. -/
def beaconChanged (dev : Dev) (vif : Option Vif) (info : Option BssConf) (changed : BitVec 64) :
    P Dev := do
  let dev ← programAp dev vif
  match info with
  | some bss =>
    if bss.enableBeacon then do
      let beaconInt := if bss.beaconInt ≠ 0 then bss.beaconInt else 100
      executeBuilt (buildApBssSyncSequence beaconInt true) 32
      scheduleBeacon
      return { dev with beaconInt := beaconInt, beaconEnabled := true }
    else disableBeacon dev changed
  | none => disableBeacon dev changed

/-- The peer's registers are cleared when a station interface loses its BSSID. -/
def bssidCleared (dev : Dev) (vif : Option Vif) : P Dev := do
  onlyIf (¬Vif.isAp vif) do
    clearBssid
    clearEntry1
  return dev

/-- The BSSID part of `bss_info_changed`. -/
def bssidChanged (dev : Dev) (vif : Option Vif) (info : Option BssConf) : P Dev :=
  match info.bind (·.bssid) with
  | some bssid =>
    if bssid.isZero then bssidCleared dev vif
    else do
      let fallback := (info.bind (·.bssChan)).orElse fun _ => vif.bind (·.bssChan)
      let dev ← tuneToPeer dev bssid fallback
      let r ← usbWriteReg RMAC_CB0R0 (packLo bssid)
      onlyIf (r = 0) do
        let _ ← usbWriteReg RMAC_CB0R1 (packHi bssid)
        return ()
      clearMbssid
      onlyIf (¬Vif.isAp vif) (programPeer bssid)
      return dev
  | none => bssidCleared dev vif

/-- Follow the channel the interface operates on. -/
def tuneToOper (dev : Dev) (info : Option BssConf) : P Dev :=
  match info.bind (·.operChan) with
  | some ch => tuneTo dev ch
  | none => return dev

def BEACON_CHANGES : BitVec 64 :=
  BSS_CHANGED_BEACON ||| BSS_CHANGED_BEACON_ENABLED ||| BSS_CHANGED_BEACON_INT

/-- `mt7603_mac80211_bss_info_changed`. -/
def bssInfoChanged (dev : Dev) (vif : Option Vif) (info : Option BssConf) (changed : BitVec 64) :
    P Dev := do
  let dev ← tuneToOper dev info
  let dev ← (if changed &&& BEACON_CHANGES ≠ 0 then beaconChanged dev vif info changed
    else pure dev : P Dev)
  if changed &&& (BSS_CHANGED_BSSID ||| BSS_CHANGED_ASSOC) ≠ 0 then bssidChanged dev vif info
  else return dev

/-! ## Stations -/

/-- `mt7603_mac80211_sta_add`. -/
def staAdd (dev : Dev) (vif : Option Vif) (sta : MacAddr) : P Dev :=
  if sta.isZero then return dev
  else do
    let dev ←
      (if ¬Vif.isAp vif then tuneToPeer dev sta (vif.bind (·.bssChan)) else pure dev : P Dev)
    onlyIf (¬Vif.isAp vif) (writeBssid sta)
    programPeer sta
    return dev

/-- `mt7603_mac80211_sta_remove`; which station it is does not matter. -/
def staRemove (dev : Dev) (vif : Option Vif) : P Dev := do
  onlyIf (¬Vif.isAp vif) clearBssid
  clearEntry1
  return dev

/-! ## Keys -/

inductive SetKeyCmd
  | setKey
  | disableKey
  deriving DecidableEq, Repr

/-- What the driver reads of `ieee80211_key_conf`; `key` holds the first 16 bytes of the key. -/
structure KeyConf where
  cipher : U32
  keyidx : U8
  flags : U16
  key : Vector U8 16
  deriving DecidableEq

def IEEE80211_KEY_FLAG_PAIRWISE : U16 := 0x8
def WLAN_CIPHER_SUITE_CCMP : U32 := 0x000FAC04
def EOPNOTSUPP : Int := 95

def KeyConf.pairwise (key : KeyConf) : Bool := key.flags &&& IEEE80211_KEY_FLAG_PAIRWISE ≠ 0

/-- The table slot of a key: 1 for a pairwise key or a station's, else 0. -/
def keyWcid (sta : Option MacAddr) (key : KeyConf) : U32 :=
  if key.pairwise then 1
  else
    match sta with
    | some a => if a.isZero then 0 else 1
    | none => 0

/-- Word `i` of the key. -/
def KeyConf.word (key : KeyConf) (i : Nat) : U32 :=
  (key.key.getD (i * 4) 0).setWidth 32 |||
    (key.key.getD (i * 4 + 1) 0).setWidth 32 <<< 8 |||
    (key.key.getD (i * 4 + 2) 0).setWidth 32 <<< 16 |||
    (key.key.getD (i * 4 + 3) 0).setWidth 32 <<< 24

/-- Read a register and, if that worked, write it back changed. -/
def updateReg (addr : U32) (f : U32 → U32) : P Unit := do
  let (ret, dw) ← usbReadReg addr 0
  if ret = 0 then do
    let _ ← usbWriteReg addr (f dw)
    return ()
  else return ()

/-- WTBL1 DW0 of a removed key: `rkv` and `kid` cleared. -/
def clearKeyDw0 (dw : U32) : U32 := dw &&& ~~~(bit 26 ||| (0x3 : U32) <<< 23)

/-- WTBL1 DW2 of a removed key: `cipher_suit` cleared. -/
def clearKeyDw2 (dw : U32) : U32 := dw &&& ~~~(0x78 : U32)

/-- WTBL1 DW0 of an installed key; the access point's group key is for transmission only. -/
def setKeyDw0 (wcid : U32) (vif : Option Vif) (keyidx : U8) (dw : U32) : U32 :=
  let dw := dw &&& ~~~((0x3 : U32) <<< 23)
  let dw := dw ||| (bit 28 ||| bit 22 ||| bit 25 ||| (keyidx &&& 0x3).setWidth 32 <<< 23)
  if wcid ≠ 0 ∨ ¬Vif.isAp vif then dw ||| bit 26 else dw &&& ~~~(bit 26)

/-- WTBL1 DW2 of an installed key: CCMP, admitted. -/
def setKeyDw2 (dw : U32) : U32 := (dw &&& ~~~(0x78 : U32)) ||| (4 : U32) <<< 3 ||| bit 30

/-- `mt7603_mac80211_set_key`. -/
def setKey (cmd : SetKeyCmd) (vif : Option Vif) (sta : Option MacAddr) (key : KeyConf) : P Int := do
  let wcid := keyWcid sta key
  let wtbl1Base := WTBL1_BASE + wcid * WTBL1_ENTRY_SIZE
  if cmd ≠ .setKey then do
    updateReg wtbl1Base clearKeyDw0
    updateReg (wtbl1Base + 0x08) clearKeyDw2
    return 0
  else if key.cipher ≠ WLAN_CIPHER_SUITE_CCMP then return -EOPNOTSUPP
  else do
    let keyBase := WTBL3_KEY_BASE + wcid * WTBL3_ENTRY_SIZE
    let _ ← usbWriteReg keyBase (key.word 0)
    let _ ← usbWriteReg (keyBase + 4) (key.word 1)
    let _ ← usbWriteReg (keyBase + 8) (key.word 2)
    let _ ← usbWriteReg (keyBase + 12) (key.word 3)
    -- the packet number of the new key starts at 1
    let wtbl2Base := (0x00040000 : U32) + wcid * 64
    let _ ← usbWriteReg wtbl2Base 1
    let _ ← usbWriteReg (wtbl2Base + 4) 0
    updateReg wtbl1Base (setKeyDw0 wcid vif key.keyidx)
    updateReg (wtbl1Base + 0x08) setKeyDw2
    let _ ← usbWriteReg WTBL1OR 0x80000000
    let _ ← usbWriteReg WTBL1OR 0x00000000
    return 0

/-! ## BlockAck -/

inductive AmpduAction
  | rxStart
  | rxStop
  | txStart
  | txStopCont
  | txStopFlush
  | txStopFlushCont
  | txOperational
  deriving DecidableEq, Repr

/-- What the driver reads of `ieee80211_ampdu_params`. -/
structure AmpduParams where
  action : AmpduAction
  sta : Option MacAddr
  tid : U16
  bufSize : U16
  deriving DecidableEq, Repr

def IEEE80211_AMPDU_TX_START_IMMEDIATE : Int := 1

def RMAC_BSCR0 : U32 := 0x00021868
def RMAC_BSCR1 : U32 := 0x0002186C

/-- The station of a BlockAck call, if it has an address. -/
def AmpduParams.peer (params : AmpduParams) : Option MacAddr := params.sta.filter (¬·.isZero)

/-- `mt7603_mac80211_ampdu_action`. -/
def ampduAction (vif : Option Vif) (params : AmpduParams) : P Int := do
  let wcid : U8 := if params.peer.isSome then 1 else 0
  let tid := params.tid.setWidth 8
  let (_, dw15) ← usbReadReg (wtbl2Dw15 wcid) 0
  match params.action with
  | .rxStart =>
    match params.peer with
    | some a => do
      let hi := a.b4.setWidth 32 ||| a.b5.setWidth 32 <<< 8 |||
        params.tid.setWidth 32 <<< 16 ||| bit 22
      let _ ← usbWriteReg RMAC_BSCR0 (packLo a)
      let _ ← usbWriteReg RMAC_BSCR1 hi
      return 0
    | none => return 0
  | .txStart => return IEEE80211_AMPDU_TX_START_IMMEDIATE
  | .txOperational => do
    let bufSize := if params.bufSize ≠ 0 then params.bufSize.setWidth 8 else 64
    executeBuilt (buildBaSessionSequence wcid tid bufSize true dw15) 4
    return 0
  | .txStopCont | .txStopFlush | .txStopFlushCont => do
    executeBuilt (buildBaSessionSequence wcid tid 0 false dw15) 4
    match vif, params.sta with
    | some _, some a => do
      stopTxBaCb a params.tid
      return 0
    | _, _ => return 0
  | .rxStop => return 0

/-! ## Sequences of callbacks -/

/-- One call of a callback on an interface. -/
inductive Callback
  | addInterface
  | config (chandef : ChanDef) (changed : U32)
  | configureFilter (totalFlags : U32) (flags : BitVec 64)
  | bssInfoChanged (info : Option BssConf) (changed : BitVec 64)
  | staAdd (sta : MacAddr)
  | staRemove (sta : MacAddr)
  | ampduAction (params : AmpduParams)
  | setKey (cmd : SetKeyCmd) (sta : Option MacAddr) (key : KeyConf)

/-- The device after the call; return codes are of no further use to the driver. -/
def Callback.run (vif : Vif) (dev : Dev) : Callback → P Dev
  | .addInterface => Driver.addInterface dev vif
  | .config chandef changed => Driver.config dev chandef changed
  | .configureFilter totalFlags flags => do
    let (dev, _) ← Driver.configureFilter dev totalFlags flags
    return dev
  | .bssInfoChanged info changed => Driver.bssInfoChanged dev (some vif) info changed
  | .staAdd sta => Driver.staAdd dev (some vif) sta
  | .staRemove _ => Driver.staRemove dev (some vif)
  | .ampduAction params => do
    let _ ← Driver.ampduAction (some vif) params
    return dev
  | .setKey cmd sta key => do
    let _ ← Driver.setKey cmd (some vif) sta key
    return dev

/-- The calls one after the other. -/
def runAll (vif : Vif) : List Callback → Dev → P Dev
  | [], dev => return dev
  | cb :: cbs, dev => do
    let dev ← cb.run vif dev
    runAll vif cbs dev

end Driver
