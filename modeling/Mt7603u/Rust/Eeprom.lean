import Mt7603u.Rust.Ffi

/-!
# The EEPROM image (`src/rust/src/eeprom.rs`)

`parseEeprom` takes the hardware address, the TX power table and the RSSI calibration offset out of
the image. An address of all zeros or all ones is an unprogrammed one and is replaced.
-/

namespace Rust

open Slice Word

/-- The address of a device whose image has none. -/
def DEFAULT_MAC : MacAddr := ⟨0x00, 0x0C, 0x43, 0x76, 0x03, 0x01⟩

/-- `ffi::EepromData` and its default; `txPower2g` has 14 bytes, `countryCode` two. -/
structure EepromData where
  macAddr : MacAddr := DEFAULT_MAC
  txPower2g : List U8 := List.replicate 14 0
  nicConfig : U8 := 0
  countryCode : List U8 := [0x55, 0x53]
  eepromVersion : U16 := 0x7603
  rssiOffset2g : Int := 0
  isValid : U8 := 0
  deriving DecidableEq, Repr

/-- The calibration offset a byte of the image stands for. -/
def rssiOffsetOf (b : U8) : Int := if -10 ≤ b.toInt ∧ b.toInt ≤ 10 then b.toInt else 0

/-- `parse_eeprom`. -/
def parseEeprom (buf : List U8) : Rs EepromData :=
  if buf.length < 256 then .error (.errno (-EINVAL))
  else do
    let m0 ← get buf 0x04
    let m1 ← get buf 0x05
    let m2 ← get buf 0x06
    let m3 ← get buf 0x07
    let m4 ← get buf 0x08
    let m5 ← get buf 0x09
    let mac : MacAddr := ⟨m0, m1, m2, m3, m4, m5⟩
    let unprogrammed := mac.toList.all (· == 0x00) || mac.toList.all (· == 0xFF)
    let data : EepromData := { macAddr := if unprogrammed then DEFAULT_MAC else mac }
    let data := if 0x50 + 14 ≤ buf.length then { data with txPower2g := (buf.drop 0x50).take 14 }
      else data
    let data ← (if 0x47 ≤ buf.length then do
        let offset ← get buf 0x46
        return { data with rssiOffset2g := rssiOffsetOf offset }
      else return data : Rs EepromData)
    return { data with isValid := 1 }

end Rust
