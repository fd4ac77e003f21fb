import Mt7603u.Rust.Mac
import Mt7603u.Rust.Sta

/-!
# Access point operations (`src/rust/src/ap.rs`)

Beacon and association response frames, the association request parser, and the register sequences
that start and stop the beacon timer.
-/

namespace Rust

open Slice Word

/-- `build_beacon`. -/
def buildBeacon (ssid : List U8) (bssid : MacAddr) (channel : U8) : Out U8 Nat :=
  let totalLen := 24 + 12 + 2 + ssid.length + 10 + 3
  let pos := 36 + 2 + ssid.length
  .sized totalLen (-ENOSPC) do
    .fill 0 totalLen 0
    .set 0 0x80
    .set 1 0x00
    .fill 4 10 0xFF
    .copyFromSlice 10 16 bssid.toList
    .copyFromSlice 16 22 bssid.toList
    .set 32 0x64
    .set 33 0x00
    .set 34 0x01
    .set 35 0x00
    .set 36 0
    .set 37 (BitVec.ofNat 8 ssid.length)
    .copyBytes 38 (38 + ssid.length) ssid
    .set pos 1
    .set (pos + 1) 8
    .copyBytes (pos + 2) (pos + 10) SUPPORTED_RATES
    .set (pos + 10) 3
    .set (pos + 11) 1
    .set (pos + 12) channel

/-- `build_assoc_resp`. -/
def buildAssocResp (staMac bssid : MacAddr) (aid statusCode : U16) : Out U8 Nat :=
  let aidVal : U16 := 0xC000 ||| (aid &&& 0x3FFF)
  .sized (24 + 6 + 10) (-ENOSPC) do
    .fill 0 (24 + 6 + 10) 0
    .set 0 0x10
    .set 1 0x00
    .copyFromSlice 4 10 staMac.toList
    .copyFromSlice 10 16 bssid.toList
    .copyFromSlice 16 22 bssid.toList
    .set 24 0x01
    .set 25 0x00
    .set 26 (statusCode.extractLsb' 0 8)
    .set 27 (statusCode.extractLsb' 8 8)
    .set 28 (aidVal.extractLsb' 0 8)
    .set 29 (aidVal.extractLsb' 8 8)
    .set 30 1
    .set 31 8
    .copyFromSlice 32 40 SUPPORTED_RATES

/-- `parse_assoc_req`: the station's address, its capabilities and its listen interval. -/
def parseAssocReq (frameBuf : List U8) : Rs (MacAddr × U16 × U16) :=
  if frameBuf.length < 28 then .error (.errno (-EINVAL))
  else do
    let f0 ← get frameBuf 0
    let f1 ← get frameBuf 1
    let fc := le16 f0 f1
    -- association or reassociation request
    if fc &&& 0x00FC ≠ 0x0000 ∧ fc &&& 0x00FC ≠ 0x0020 then .error (.errno (-EINVAL))
    else do
      let b0 ← get frameBuf 10
      let b1 ← get frameBuf 11
      let b2 ← get frameBuf 12
      let b3 ← get frameBuf 13
      let b4 ← get frameBuf 14
      let b5 ← get frameBuf 15
      let c0 ← get frameBuf 24
      let c1 ← get frameBuf 25
      let l0 ← get frameBuf 26
      let l1 ← get frameBuf 27
      return (⟨b0, b1, b2, b3, b4, b5⟩, le16 c0 c1, le16 l0 l1)

/-! ## Beacon timer -/

def ARB_BCNQCR0 : U32 := 0x00021518
def ARB_BCNQCR1 : U32 := 0x0002151C
def LPON_T0CR : U32 := 0x00024010
def LPON_PISR : U32 := 0x00024030
def LPON_T0TPCR : U32 := 0x00024034
def LPON_MPTCR0 : U32 := 0x0002405C

def apBssSyncSeq (beaconPeriod : U16) (enable : Bool) : List RegWriteOp :=
  if enable then
    let period : U32 := if beaconPeriod = 0 then 100 else beaconPeriod.setWidth 32
    [⟨LPON_T0TPCR, (period &&& 0xFFFF) ||| 0x80000000⟩,
     ⟨LPON_MPTCR0, 0x00000099⟩,
     ⟨LPON_PISR, 0x00000050⟩,
     ⟨LPON_T0CR, 0x0000000C⟩,
     ⟨ARB_SCR, 0x00000001⟩,
     ⟨ARB_BCNQCR0, 0x00000001⟩]
  else
    [⟨LPON_T0TPCR, 0x00000000⟩,
     ⟨LPON_MPTCR0, 0x00000000⟩,
     ⟨ARB_SCR, 0x00000000⟩,
     ⟨ARB_BCNQCR1, 0x00000001⟩]

/-- `build_ap_bss_sync_sequence`. -/
def buildApBssSyncSequence (beaconPeriod : U16) (enable : Bool) : Out RegWriteOp Nat :=
  let seq := apBssSyncSeq beaconPeriod enable
  .sized seq.length (-ENOSPC) (.setFrom 0 seq)

end Rust
