import Mt7603u.Rust.Ffi

/-!
# TX descriptors (`src/rust/src/tx.rs`)

`buildTxwi` packs the parameters of a frame into the 32-byte long TXD. The rate goes through the
tables of `txRateToTmi`, whose lookups panic on an index out of range.
-/

namespace Rust

open Slice Word

def TXWI_SIZE : Nat := 32

def P_IDX_LMAC : U32 := 0
def TMI_HDR_FT_NOR_80211 : U32 := 0x2
def TMI_FT_LONG : U32 := 0x1
def MT_TX_SHORT_RETRY : U32 := 0x0f
def TMI_DAS_FROM_MPDU : U32 := 0
def TMI_BSN_CFG_BY_SW : U32 := 0x1
def TMI_PM_BIT_CFG_BY_HW : U32 := 0x0
def TMI_HDR_PAD_MODE_TAIL : U32 := 0

def MODE_CCK : U32 := 0
def MODE_OFDM : U32 := 1
def MODE_HTMIX : U32 := 2
def MODE_HTGF : U32 := 3
def LONG_PREAMBLE : U32 := 1

/-- The rate codes of CCK with long and short preamble and of OFDM. -/
def cckLp : List U32 := [0, 1, 2, 3]
def cckSp : List U32 := [5, 5, 6, 7]
def ofdm : List U32 := [11, 15, 10, 14, 9, 13, 8, 12]

/-- `tx_rate_to_tmi`. -/
def txRateToTmi (rateMode mcs stbc nss preamble : U32) : Rs U32 :=
  if rateMode = MODE_CCK then do
    let mcsId ← get (if preamble = LONG_PREAMBLE then cckLp else cckSp) mcs.toNat
    return MODE_CCK <<< 6 ||| mcsId
  else if rateMode = MODE_OFDM then do
    let mcsId ← get ofdm mcs.toNat
    return MODE_OFDM <<< 6 ||| mcsId
  else if rateMode = MODE_HTMIX ∨ rateMode = MODE_HTGF then
    return stbc <<< 11 ||| ((nss - 1) &&& 0x3) <<< 9 ||| rateMode <<< 6 ||| mcs
  else return 0

/-! ## The words of the descriptor -/

/-- `hdr_pad_len`. -/
def hdrPadLen (hdrLen : U32) : U32 := (4 - (hdrLen &&& 0x03)) &&& 0x03

def isHt (rateMode : U32) : Bool := rateMode = MODE_HTMIX ∨ rateMode = MODE_HTGF

def txwiDw0 (p : TxParams) : U32 :=
  (p.pktLen.setWidth 32 + hdrPadLen (p.hdrLen.setWidth 32) + BitVec.ofNat 32 TXWI_SIZE) |||
    (p.queue.setWidth 32 &&& 0x0f) <<< 27 ||| P_IDX_LMAC <<< 31

def txwiDw1 (p : TxParams) : U32 :=
  let hdrLen := p.hdrLen.setWidth 32
  let hdrPad := TMI_HDR_PAD_MODE_TAIL <<< 2 ||| (hdrPadLen hdrLen &&& 0x03)
  (p.pid.setWidth 32 &&& 0xff) ||| ((hdrLen >>> 1) &&& 0x1f) <<< 8 |||
    TMI_HDR_FT_NOR_80211 <<< 13 ||| TMI_FT_LONG <<< 15 ||| (hdrPad &&& 0x07) <<< 16 |||
    (p.noAck.setWidth 32 &&& 0x1) <<< 19 ||| (p.protectFrm.setWidth 32 &&& 0x1) <<< 23

def txwiDw2 (p : TxParams) : U32 :=
  (p.subType.setWidth 32 &&& 0x0f) ||| (p.frmType.setWidth 32 &&& 0x03) <<< 4 |||
    (p.isBm.setWidth 32 &&& 0x1) <<< 10 ||| bit 29 ||| bit 31

def txwiDw3 : U32 := (MT_TX_SHORT_RETRY &&& 0x1f) <<< 11

def txwiDw5 : U32 :=
  TMI_DAS_FROM_MPDU <<< 11 ||| TMI_BSN_CFG_BY_SW <<< 12 ||| TMI_PM_BIT_CFG_BY_HW <<< 13

/-- The number of spatial streams. -/
def txwiNss (p : TxParams) : U32 :=
  if isHt (p.rateMode.setWidth 32) ∧ p.rateMcs.setWidth 32 ≠ (32 : U32) then
    1 + p.rateMcs.setWidth 32 >>> 3
  else 1

def txwiGi (p : TxParams) : U32 :=
  if isHt (p.rateMode.setWidth 32) ∧ p.preamble &&& 0x2 ≠ 0 then 1 else 0

def txwiDw6 (p : TxParams) (txRate : U32) : U32 :=
  (bit 2 ||| (p.bw.setWidth 32 &&& 0x3)) <<< 8 ||| bit 11 ||| (txRate &&& 0x0fff) <<< 18 |||
    txwiGi p <<< 31

/-- `build_txwi`. -/
def buildTxwi (p : TxParams) : Out U8 Nat := do
  let room ← Out.len
  if room < TXWI_SIZE then .fail (.errno (-ENOSPC))
  else if 0xffff < p.pktLen.toNat + TXWI_SIZE then .fail (.errno (-EINVAL))
  else do
    .fill 0 TXWI_SIZE 0
    if p.hdrLen.setWidth 32 &&& 1 ≠ (0 : U32) then .fail (.errno (-EINVAL))
    else do
      let txRate ← .ofRs (txRateToTmi (p.rateMode.setWidth 32) (p.rateMcs.setWidth 32) 0
        (txwiNss p) ((p.preamble &&& 0x1).setWidth 32))
      .copyFromSlice 0 4 (toLe32 (txwiDw0 p))
      .copyFromSlice 4 8 (toLe32 (txwiDw1 p))
      .copyFromSlice 8 12 (toLe32 (txwiDw2 p))
      .copyFromSlice 12 16 (toLe32 txwiDw3)
      .copyFromSlice 20 24 (toLe32 txwiDw5)
      .copyFromSlice 24 28 (toLe32 (txwiDw6 p txRate))
      pure TXWI_SIZE

end Rust
