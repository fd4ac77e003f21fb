import Mt7603u.Rust.Ffi

/-!
# Station operations (`src/rust/src/sta.rs`)

The probe request, the beacon parser, and the register sequence that fills WTBL1 entries 0
(broadcast) and 1 (the peer). The last words of an entry link to its pages in the other tables
(`wtblEntry234`).
-/

namespace Rust

open Slice Word

/-- The supported rates element of every management frame the library builds. -/
def SUPPORTED_RATES : List U8 := [0x82, 0x84, 0x8b, 0x96, 0x24, 0x30, 0x48, 0x6c]

/-- `build_probe_request`. -/
def buildProbeRequest (ssid : List U8) (srcMac : MacAddr) : Out U8 Nat :=
  let totalLen := 24 + 2 + ssid.length + 10
  let pos := 24 + 2 + ssid.length
  .sized totalLen (-ENOSPC) do
    .fill 0 totalLen 0
    .set 0 0x40
    .set 1 0x00
    .fill 4 10 0xFF
    .copyFromSlice 10 16 srcMac.toList
    .fill 16 22 0xFF
    .set 22 0x00
    .set 23 0x00
    .set 24 0
    .set 25 (BitVec.ofNat 8 ssid.length)
    .copyBytes 26 (26 + ssid.length) ssid
    .set pos 1
    .set (pos + 1) 8
    .copyBytes (pos + 2) (pos + 10) SUPPORTED_RATES

/-! ## Beacons -/

/-- `ffi::StaBssInfo`; `ssid` has 32 bytes. -/
structure StaBssInfo where
  bssid : MacAddr := ⟨0, 0, 0, 0, 0, 0⟩
  ssid : List U8 := List.replicate 32 0
  ssidLen : U8 := 0
  channel : U8 := 0
  rssi : Int := 0
  capability : U16 := 0
  deriving DecidableEq, Repr

/-- What one information element adds: the first SSID, or a channel. -/
def StaBssInfo.addElement (info : StaBssInfo) (ieId : U8) (iePayload : List U8) : Rs StaBssInfo :=
  if ieId = 0 ∧ info.ssidLen = 0 then
    let copyLen := min iePayload.length 32
    return { info with
      ssid := overwrite 0 (iePayload.take copyLen) info.ssid
      ssidLen := BitVec.ofNat 8 copyLen }
  else if ieId = 3 ∧ 1 ≤ iePayload.length then do
    let channel ← get iePayload 0
    return { info with channel }
  else return info

/-- The loop of `parse_beacon`, from `pos` on. -/
def parseElements (frameBuf : List U8) (info : StaBssInfo) (pos : Nat) : Rs StaBssInfo :=
  if pos + 2 ≤ frameBuf.length then do
    let ieId ← get frameBuf pos
    let ieLen ← get frameBuf (pos + 1)
    if ieLen = 0 ∨ frameBuf.length < pos + 2 + ieLen.toNat then return info
    else do
      let info ← info.addElement ieId ((frameBuf.drop (pos + 2)).take ieLen.toNat)
      parseElements frameBuf info (pos + 2 + ieLen.toNat)
  else return info
termination_by frameBuf.length - pos

/-- `parse_beacon`. -/
def parseBeacon (frameBuf : List U8) : Rs StaBssInfo :=
  if frameBuf.length < 36 then .error (.errno (-EINVAL))
  else do
    let b0 ← get frameBuf 16
    let b1 ← get frameBuf 17
    let b2 ← get frameBuf 18
    let b3 ← get frameBuf 19
    let b4 ← get frameBuf 20
    let b5 ← get frameBuf 21
    let c0 ← get frameBuf 34
    let c1 ← get frameBuf 35
    parseElements frameBuf { bssid := ⟨b0, b1, b2, b3, b4, b5⟩, capability := le16 c0 c1 } 36

/-! ## The wireless table -/

def WTBL1_BASE : U32 := 0x00028000
def WTBL1_ENTRY_SIZE : U32 := 0x20
def WTBL1OR : U32 := 0x0002A300
def WTBL3_KEY_BASE : U32 := 0x00042000
def WTBL3_ENTRY_SIZE : U32 := 0x40

/-- Fragment and entry ids of a WCID's pages in the tables 2, 3 and 4. -/
structure WtblLinks where
  fid2 : U32
  eid2 : U32
  fid3 : U32
  eid3 : U32
  fid4 : U32
  eid4 : U32
  deriving DecidableEq, Repr

/-- `wtbl_entry234`. -/
def wtblEntry234 (wcid : U32) : WtblLinks :=
  let ecnt2 : U32 := 128 / 64
  let ecnt3 : U32 := 128 / 64
  let ecnt4 : U32 := 128 / 32
  -- `div_ceil`; both counts divide 128
  let pageCnt2 : U32 := 128 / ecnt2
  let pageCnt3 : U32 := 128 / ecnt3
  let baseFid2 : U32 := 0
  let baseFid3 := baseFid2 + pageCnt2
  let baseFid4 := baseFid3 + pageCnt3
  { fid2 := baseFid2 + wcid / ecnt2
    eid2 := wcid % ecnt2
    fid3 := baseFid3 + wcid / ecnt3
    eid3 := wcid % ecnt3 * 2
    fid4 := baseFid4 + wcid / ecnt4
    eid4 := wcid % ecnt4 }

/-- `wtbl_dw3_dw4`. -/
def wtblDw3Dw4 (wcid : U32) : U32 × U32 :=
  let l := wtblEntry234 wcid
  (bit 29 ||| bit 28 ||| l.fid2 ||| l.eid2 <<< 11 ||| l.fid4 <<< 16,
    l.fid3 ||| l.eid3 <<< 11 ||| l.eid4 <<< 17)

/-- DW0 of the broadcast entry. -/
def dw0Mcast : U32 :=
  bit 29 ||| bit 28 ||| bit 22 ||| (0x0E : U32) <<< 16 ||| (0xFF : U32) <<< 8 ||| 0xFF

/-- DW0 of the peer's entry: valid, with the last two bytes of its address. -/
def dw0Ap (bssid : MacAddr) : U32 :=
  bit 29 ||| bit 28 ||| bssid.b5.setWidth 32 <<< 8 ||| bssid.b4.setWidth 32

/-- DW1 of the peer's entry: the first four bytes of its address. -/
def dw1Ap (bssid : MacAddr) : U32 := le32 bssid.b0 bssid.b1 bssid.b2 bssid.b3

/-- DW2 of the peer's entry: admitted, HT, QoS, no cipher yet. -/
def dw2Ap : U32 := bit 30 ||| bit 28 ||| bit 27 ||| bit 21 ||| bit 20

def wtblStaSeq (bssid : MacAddr) : List RegWriteOp :=
  [⟨WTBL1_BASE, dw0Mcast⟩,
   ⟨WTBL1_BASE + 0x04, 0xFFFFFFFF⟩,
   ⟨WTBL1_BASE + 0x08, 0x00000000⟩,
   ⟨WTBL1_BASE + WTBL1_ENTRY_SIZE, dw0Ap bssid⟩,
   ⟨WTBL1_BASE + WTBL1_ENTRY_SIZE + 0x04, dw1Ap bssid⟩,
   ⟨WTBL1_BASE + WTBL1_ENTRY_SIZE + 0x08, dw2Ap⟩,
   -- the flag unlocks DW3 and DW4
   ⟨WTBL1OR, 0x80000000⟩,
   ⟨WTBL1_BASE + 0x0C, (wtblDw3Dw4 0).1⟩,
   ⟨WTBL1_BASE + 0x10, (wtblDw3Dw4 0).2⟩,
   ⟨WTBL1_BASE + WTBL1_ENTRY_SIZE + 0x0C, (wtblDw3Dw4 1).1⟩,
   ⟨WTBL1_BASE + WTBL1_ENTRY_SIZE + 0x10, (wtblDw3Dw4 1).2⟩,
   ⟨WTBL1OR, 0x00000000⟩]

/-- `build_wtbl_sta_sequence`. -/
def buildWtblStaSequence (bssid : MacAddr) : Out RegWriteOp Nat :=
  .sized 12 (-ENOSPC) (.setFrom 0 (wtblStaSeq bssid))

end Rust
