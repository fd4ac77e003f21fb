import Mt7603u.Base.Slice
import Mt7603u.Base.Word

/-!
# RX descriptor parsing (`src/rust/src/rx.rs`)

`parseRxFrame`: one received subframe, as the hardware hands it over, to an `RxInfo`. The first 16
bytes are always there; `grp_vld` (four bits) says which descriptor groups follow, in the order
4, 1, 2, 3. The length of that header is computed once for the header (`rmacInfoLen`) and once
more, up to group 3, for the reads in it (`grp3Off`).
-/

namespace Rust

open Slice Word

def RMAC_RXD_MIN_SIZE : Nat := 16

/-- `ffi::RxInfo`. -/
structure RxInfo where
  pktLen : U16 := 0
  hdrLen : U16 := 0
  rssi : Int := 0
  channel : U8 := 0
  rate : U8 := 0
  isBeacon : U8 := 0
  isData : U8 := 0
  isCrcError : U8 := 0
  deriving DecidableEq, Repr

/-- The descriptor's length: the base, the groups in `grpVld` and the two bytes of
`hdr_offset`. -/
def rmacInfoLen (grpVld hdrOffset : U8) : Nat :=
  RMAC_RXD_MIN_SIZE
    + (if grpVld &&& 0x08 ≠ 0 then 16 else 0)
    + (if grpVld &&& 0x01 ≠ 0 then 16 else 0)
    + (if grpVld &&& 0x02 ≠ 0 then 8 else 0)
    + (if grpVld &&& 0x04 ≠ 0 then 24 else 0)
    + (if hdrOffset = 1 then 2 else 0)

/-- Where group 3 starts. -/
def grp3Off (grpVld : U8) : Nat :=
  RMAC_RXD_MIN_SIZE
    + (if grpVld &&& 0x08 ≠ 0 then 16 else 0)
    + (if grpVld &&& 0x01 ≠ 0 then 16 else 0)
    + (if grpVld &&& 0x02 ≠ 0 then 8 else 0)

/-- The OFDM rate code of the vector to the index in the driver's rate table. -/
def ofdmIdx (code : U8) : U8 :=
  if code = 11 then 4
  else if code = 15 then 5
  else if code = 10 then 6
  else if code = 14 then 7
  else if code = 9 then 8
  else if code = 13 then 9
  else if code = 8 then 10
  else if code = 12 then 11
  else 4

/-- The rate byte of the first word of the RX vector: bit 7 HT, bit 6 40 MHz, bit 5 short GI,
below the index. -/
def rateEnc (rxv1Dw0 : U32) : U8 :=
  let txRate := (rxv1Dw0 &&& 0x7f).setWidth 8
  let txMode := (rxv1Dw0 >>> 12 &&& 0x07).setWidth 8
  let frMode := (rxv1Dw0 >>> 15 &&& 0x03).setWidth 8
  let shortGi := (rxv1Dw0 >>> 19 &&& 0x01).setWidth 8
  let enc : U8 := (if frMode = 1 then 0x40 else 0) ||| (if shortGi ≠ 0 then 0x20 else 0)
  if 2 ≤ txMode then enc ||| (0x80 ||| (txRate &&& 0x0f))
  else if txMode = 1 then enc ||| ofdmIdx (txRate &&& 0x0f)
  else enc ||| (txRate &&& 0x03)

/-- RSSI and rate from group 3, if it is there. -/
def readGrp3 (buf : List U8) (grpVld : U8) (rssiOffset : Int) : Rs (Int × U8) :=
  if grpVld &&& 0x04 ≠ 0 then do
    let off := grp3Off grpVld
    let ibrssi0 ← get buf (off + 12)
    let rssi := if ibrssi0 ≠ 0 then satI8 (ibrssi0.toInt + rssiOffset) else 0
    let d0 ← get buf off
    let d1 ← get buf (off + 1)
    let d2 ← get buf (off + 2)
    let d3 ← get buf (off + 3)
    return (rssi, rateEnc (le32 d0 d1 d2 d3))
  else return (0, 0)

/-- Beacon and data flags from the frame control byte at `off`, if the frame has one. -/
def classify (buf : List U8) (off mpduLen : Nat) (beaconMc beaconUc : U8) : Rs (U8 × U8) :=
  if 2 ≤ mpduLen then do
    let frameCtrl ← get buf off
    let frameType := frameCtrl >>> 2 &&& 0x03
    let frameSubtype := frameCtrl >>> 4 &&& 0x0F
    if (frameType = 0 ∧ frameSubtype = 8) ∨ beaconMc ≠ 0 ∨ beaconUc ≠ 0 then return (1, 0)
    else if frameType = 2 then return (0, 1)
    else return (0, 0)
  else return (0, 0)

/-- `parse_rx_frame`. -/
def parseRxFrame (buf : List U8) (rssiOffset : Int) : Rs RxInfo :=
  if buf.length < RMAC_RXD_MIN_SIZE then .error (.errno (-22))
  else do
    let b0 ← get buf 0
    let b1 ← get buf 1
    let rxByteCnt := le16 b0 b1
    let b3 ← get buf 3
    let grpVld := b3 >>> 1 &&& 0x0F
    let pktType := b3 >>> 5 &&& 0x07
    if pktType ≠ 0x02 ∧ pktType ≠ 0x03 then return { pktLen := 0 }
    else do
      let b6 ← get buf 6
      let hdrOffset := b6 >>> 6 &&& 0x01
      let infoLen := rmacInfoLen grpVld hdrOffset
      let b10 ← get buf 10
      let fcsErr := b10 >>> 1 &&& 0x01
      if buf.length < infoLen then .error (.errno (-22))
      else do
        let (rssi, rate) ← readGrp3 buf grpVld rssiOffset
        let totalLen :=
          if rxByteCnt.toNat ≤ buf.length ∧ 0 < rxByteCnt.toNat then rxByteCnt.toNat
          else buf.length
        let mpduLen := totalLen - infoLen
        let channel ← get buf 5
        let b4 ← get buf 4
        let (isBeacon, isData) ←
          classify buf infoLen mpduLen (b4 >>> 4 &&& 0x01) (b4 >>> 5 &&& 0x01)
        return {
          pktLen := BitVec.ofNat 16 mpduLen
          hdrLen := BitVec.ofNat 16 infoLen
          rssi, channel, rate, isBeacon, isData
          isCrcError := fcsErr }

end Rust
