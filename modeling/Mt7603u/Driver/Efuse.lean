import Mt7603u.Driver.Lifecycle
import Mt7603u.Rust.Eeprom

/-!
# The calibration image (`src/c/regops.c`, `mt7603_register_mac80211`)

The image is read block by block through the eFuse controller: the block's address goes into
`EFUSE_CTRL` together with the bit that starts the read (`KICK`), the driver polls the register
until the bit is clear, and the block is then in the four `EFUSE_RDATA` registers. `data` is what
lies behind the pointer a function gets: it is returned as it is afterwards, also on failure.
-/

namespace Driver

open Effect Slice Word Rust

def MT_EFUSE_BASE_CTRL : U32 := 0x81070000
def MT_EFUSE_CTRL : U32 := 0x81070008
def MT_EFUSE_RDATA (n : Nat) : U32 := 0x81070030 + 4 * BitVec.ofNat 32 n
def MT_EFUSE_CTRL_AIN : U32 := 0x3ff <<< 16
def MT_EFUSE_CTRL_MODE : U32 := 0x3 <<< 6
def MT_EFUSE_CTRL_KICK : U32 := 1 <<< 30
def MT_EFUSE_CTRL_AOUT : U32 := 0x3f
def MT_EFUSE_CTRL_VALID : U32 := 1 <<< 29
def MT_EFUSE_BASE_CTRL_EMPTY : U32 := 1 <<< 30

def ENODATA : Int := 61

/-- Wait for the controller, for at most `n` polls: the code and the last value read. -/
def efusePoll : Nat → U32 → P (Int × U32)
  | 0, val => return (0, val)
  | n + 1, val => do
    let (ret, val) ← usbReadReg MT_EFUSE_CTRL val
    if ret ≠ 0 then return (ret, val)
    else if val &&& MT_EFUSE_CTRL_KICK = 0 then return (0, val)
    else efusePoll n val

/-- The words of a block, from the ones with the given numbers. -/
def efuseWords : List Nat → List U8 → P (Int × List U8)
  | [], data => return (0, data)
  | i :: is, data => do
    let (ret, val) ← usbReadReg (MT_EFUSE_RDATA i) 0
    if ret ≠ 0 then return (ret, data)
    else efuseWords is (overwrite (4 * i) (toLe32 val) data)

/-- The value that starts the read of a block: everything but the fields is written back. -/
def efuseKick (val : U32) (addr : U16) : U32 :=
  (val &&& ~~~(MT_EFUSE_CTRL_AIN ||| MT_EFUSE_CTRL_MODE)) |||
    ((addr.setWidth 32 &&& ~~~0xf) <<< 16 ||| MT_EFUSE_CTRL_KICK)

/-- `mt7603_efuse_read_block`. -/
def efuseReadBlock (addr : U16) (data : List U8) : P (Int × List U8) := do
  let (ret, val) ← usbReadReg MT_EFUSE_CTRL 0
  if ret ≠ 0 then return (ret, data)
  else do
    let val := efuseKick val addr
    let ret ← usbWriteReg MT_EFUSE_CTRL val
    if ret ≠ 0 then return (ret, data)
    else do
      let (ret, val) ← efusePoll 100 val
      if ret ≠ 0 then return (ret, data)
      else if val &&& MT_EFUSE_CTRL_KICK ≠ 0 then return (-ETIMEDOUT, data)
      else do
        let (ret, val) ← usbReadReg MT_EFUSE_CTRL val
        if ret ≠ 0 then return (ret, data)
        else if val &&& MT_EFUSE_CTRL_AOUT = MT_EFUSE_CTRL_AOUT ∨
            val &&& MT_EFUSE_CTRL_VALID = 0 then
          return (0, overwrite 0 (List.replicate 16 0xff) data)
        else efuseWords [0, 1, 2, 3] data

/-- The loop of `mt7603_efuse_read_all`, from `i` on. -/
def efuseBlocks (len i : Nat) (buf : List U8) : P (Int × List U8) :=
  if i + 16 ≤ len then do
    let (ret, data) ← efuseReadBlock (BitVec.ofNat 16 i) (buf.drop i)
    let buf := buf.take i ++ data
    if ret ≠ 0 then return (ret, buf) else efuseBlocks len (i + 16) buf
  else return (0, buf)
termination_by len - i

/-- `mt7603_efuse_read_all`. -/
def efuseReadAll (buf : List U8) (len : Nat) : P (Int × List U8) := do
  let (ret, val) ← usbReadReg MT_EFUSE_BASE_CTRL 0
  if ret ≠ 0 then return (ret, buf)
  else if val &&& MT_EFUSE_BASE_CTRL_EMPTY ≠ 0 then return (-ENODATA, buf)
  else efuseBlocks len 0 buf

/-! ## Registration -/

/-- The image of a device without one: the default address, everything else unprogrammed. -/
def dummyE2p : List U8 :=
  List.replicate 4 0xff ++ DEFAULT_MAC.toList ++ List.replicate 502 0xff

/-- The part of `mt7603_register_mac80211` that reads the image: the device before its first start.
`uninit` is what the local `eeprom` holds before it is filled. -/
def registerMac80211 (uninit : EepromData) : P Host := do
  let (ret, image) ←
    efuseReadAll (List.replicate MT7603_EEPROM_SIZE 0xff) MT7603_EEPROM_SIZE
  let eepromValid := decide (ret = 0)
  let e2p := if eepromValid then image.take 512 else dummyE2p
  let (parsed, eeprom) :=
    match parseEeprom e2p with
    | .ok data => (true, data)
    | .error _ => (false, uninit)
  let macAddr := if parsed ∧ eeprom.isValid ≠ 0 then eeprom.macAddr else DEFAULT_MAC
  let rssiOffset2g := if eepromValid then eeprom.rssiOffset2g else 0
  return .registered macAddr eepromValid rssiOffset2g image

end Driver
