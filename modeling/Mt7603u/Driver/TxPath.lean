import Mt7603u.Base.Skb
import Mt7603u.Driver.Mac80211
import Mt7603u.Rust.Tx

/-!
# Transmission (`mt7603_mac80211_tx` and `mt7603_tx_complete` in `src/c/mac80211.c`)

`mac80211Tx` turns a frame into the buffer of a bulk transfer: the header is padded to a multiple of
four, the 32-byte TXD goes in front and zeros behind. `txComplete` undoes this before the frame is
reported. Debug output and the submission itself are left out: the result is what is handed to
`usb_submit_urb`, or `none` when the frame was dropped.
-/

namespace Driver

open Slice Skb Word Rust

/-! ## The kernel's side -/

/-- What the transmission path uses of the kernel, with what is documented of it. -/
structure Kernel where
  /-- `ieee80211_hdrlen`. -/
  hdrlen : U16 → Nat
  /-- What is in memory behind the end of a buffer. -/
  behind : Nat → U8
  /-- `skb_copy_expand(skb, newheadroom, newtailroom, GFP_ATOMIC)`. -/
  copyExpand : SkBuff U8 → Nat → Nat → Option (SkBuff U8)
  /-- `skb_realloc_headroom(skb, headroom)`. -/
  reallocHeadroom : SkBuff U8 → Nat → Option (SkBuff U8)
  /-- `usb_alloc_urb` does not fail. -/
  allocUrb : Bool
  copyExpand_spec : ∀ {skb h t skb'}, copyExpand skb h t = some skb' →
    skb'.data = skb.data ∧ skb'.headroom = h ∧ t ≤ skb'.tailroom
  reallocHeadroom_spec : ∀ {skb h skb'}, reallocHeadroom skb h = some skb' →
    skb'.data = skb.data ∧ h ≤ skb'.headroom

/-- No allocation fails. -/
structure Kernel.NeverFails (k : Kernel) : Prop where
  copyExpand : ∀ skb h t, (k.copyExpand skb h t).isSome
  reallocHeadroom : ∀ skb h, (k.reallocHeadroom skb h).isSome
  allocUrb : k.allocUrb = true

/-- `skb->data[i]`; nothing keeps a read inside the data. -/
def Kernel.byte (k : Kernel) (skb : SkBuff U8) (i : Nat) : U8 :=
  (skb.data ++ skb.tail).getD i (k.behind i)

/-- What the driver reads of `ieee80211_tx_info`. -/
structure TxInfo where
  flags : U32
  /-- `control.hw_key` is set. -/
  hwKey : Bool
  /-- `control.rates[0].idx`, signed. -/
  rateIdx : BitVec 8
  /-- `control.rates[0].flags`. -/
  rateFlags : U16
  deriving DecidableEq, Repr

def IEEE80211_TX_CTL_NO_ACK : U32 := bit 2
def IEEE80211_TX_CTL_INJECTED : U32 := bit 7
def IEEE80211_TX_RC_USE_SHORT_PREAMBLE : U16 := 0x4
def IEEE80211_TX_RC_MCS : U16 := 0x8
def IEEE80211_TX_RC_40_MHZ_WIDTH : U16 := 0x20
def IEEE80211_TX_RC_SHORT_GI : U16 := 0x80

/-- `ieee80211_is_mgmt`. -/
def isMgmt (fc : U16) : Bool := fc &&& 0x000C = 0

/-- `ieee80211_is_beacon`. -/
def isBeacon (fc : U16) : Bool := fc &&& 0x00FC = 0x0080

/-! ## Parameters -/

/-- `get_unaligned_le16(skb->data)`. -/
def frameControl (k : Kernel) (skb : SkBuff U8) : U16 := le16 (k.byte skb 0) (k.byte skb 1)

/-- Rate, preamble and bandwidth: mac80211's choice for a data frame, else the lowest rate. -/
def txRate (dev : Dev) (info : TxInfo) (isMgmt : Bool) (p : TxParams) : TxParams :=
  if ¬isMgmt ∧ 0 ≤ info.rateIdx.toInt then
    if info.rateFlags &&& IEEE80211_TX_RC_MCS ≠ 0 then
      { p with
        rateMode := 2
        rateMcs := info.rateIdx &&& 0x0f
        bw := if info.rateFlags &&& IEEE80211_TX_RC_40_MHZ_WIDTH ≠ 0 then 1 else dev.currentBw
        preamble := if info.rateFlags &&& IEEE80211_TX_RC_SHORT_GI ≠ 0 then 2 else 0 }
    else if info.rateIdx.toInt < 4 then
      { p with
        rateMode := 0
        rateMcs := info.rateIdx
        preamble := if info.rateFlags &&& IEEE80211_TX_RC_USE_SHORT_PREAMBLE ≠ 0 then 0 else 1
        bw := 0 }
    else
      { p with
        rateMode := 1
        rateMcs := (info.rateIdx - 4) &&& 0x07
        preamble := 1
        bw := 0 }
  else if 14 < dev.currentChannel then
    { p with rateMode := 1, rateMcs := 0, preamble := 1, bw := dev.currentBw }
  else { p with rateMode := 0, rateMcs := 0, preamble := 1, bw := dev.currentBw }

/-- Injected or monitor mode frames. -/
def isInjected (dev : Dev) (info : TxInfo) : Bool :=
  info.flags &&& IEEE80211_TX_CTL_INJECTED ≠ 0 ∨ (0 < dev.monitorCount ∧ dev.apVif = none)

/-- The descriptor's parameters. -/
def txParams (k : Kernel) (dev : Dev) (info : TxInfo) (skb : SkBuff U8) : TxParams :=
  let fc := frameControl k skb
  let isBm := k.byte skb 4 &&& 0x01
  let p : TxParams :=
    { hdrLen := BitVec.ofNat 8 (k.hdrlen fc)
      frmType := ((fc >>> 2) &&& 0x3).setWidth 8
      subType := ((fc >>> 4) &&& 0xf).setWidth 8
      isBm := isBm
      noAck := isBm
      queue := if isMgmt fc then 0x04 else 0x01
      pid := if isBm ≠ 0 then 0 else 1
      pktLen := BitVec.ofNat 16 skb.len
      protectFrm := if info.hwKey then 1 else 0 }
  let p :=
    if isInjected dev info then
      { p with
        noAck := if isBm ≠ 0 ∨ info.flags &&& IEEE80211_TX_CTL_NO_ACK ≠ 0 then 1 else 0
        queue := 0x04
        pid := 0 }
    else p
  txRate dev info (isMgmt fc) p

/-! ## Framing -/

/-- `(n + 3) & ~3`. -/
def roundup4 (n : Nat) : Nat := (n + 3) / 4 * 4

/-- Data frames ask for a status report under the process id 0x42. -/
def requestStatus (txwi : List U8) : List U8 := (txwi.set 20 0x42).modify 21 (· ||| 0x04)

/-- A copy with more room at the end if there is too little. -/
def expandTail (k : Kernel) (skb : SkBuff U8) (n : Nat) : Option (SkBuff U8) :=
  if skb.tailroom < n then k.copyExpand skb skb.headroom n else some skb

/-- A copy with more room in front if there is too little. -/
def expandHead (k : Kernel) (skb : SkBuff U8) (n : Nat) : Option (SkBuff U8) :=
  if skb.headroom < n then k.reallocHeadroom skb n else some skb

/-- Unsigned 32-bit subtraction. -/
def sub32 (a b : Nat) : Nat := (a + (2 ^ 32 - b % 2 ^ 32)) % 2 ^ 32

/-- Insert `pad` zeros behind the header. -/
def padHeader (k : Kernel) (skb : SkBuff U8) (hdrLen pad : Nat) : Rs (Option (SkBuff U8)) :=
  if 0 < pad then
    match expandTail k skb pad with
    | none => return none
    | some skb => do
      let skb ← skb.put pad
      let skb ← skb.move (hdrLen + pad) hdrLen (sub32 (sub32 skb.len hdrLen) pad)
      let skb ← skb.store hdrLen (List.replicate pad 0)
      return some skb
  else return some skb

/-- Put the descriptor in front; off the management path the length in it is that of the DMA. -/
def pushTxd (skb : SkBuff U8) (txwi : List U8) (isMgmt : Bool) : Rs (SkBuff U8) := do
  let skb ← skb.push 32
  let skb ← skb.store 0 txwi
  if isMgmt then return skb
  else skb.store 0 (toLe16 (BitVec.ofNat 16 (roundup4 skb.len)))

/-- Append zeros up to a multiple of four, and four more. -/
def padTail (k : Kernel) (skb : SkBuff U8) : Rs (Option (SkBuff U8)) :=
  let padLen := roundup4 skb.len + 4 - skb.len
  match expandTail k skb padLen with
  | none => return none
  | some skb => do
    let skb' ← skb.put padLen
    let skb' ← skb'.store skb.len (List.replicate padLen 0)
    return some skb'

def MT7603_DATA_BULK_OUT : U8 := 0x05
def MT7603_MGMT_BULK_OUT : U8 := 0x08

/-- What is submitted: the endpoint, the buffer, and the word kept for completion. -/
structure Transfer where
  ep : U8
  skb : SkBuff U8
  metaWord : U32

/-- Length, header length and header padding in one word. -/
def txMeta (p : TxParams) (pad : Nat) : U32 :=
  p.pktLen.setWidth 32 ||| p.hdrLen.setWidth 32 <<< 16 ||| BitVec.ofNat 32 pad <<< 24

/-- `mt7603_mac80211_tx`. -/
def mac80211Tx (k : Kernel) (dev : Dev) (info : TxInfo) (skb : SkBuff U8) : Rs (Option Transfer) :=
  if ¬dev.running then return none
  else
    let fc := frameControl k skb
    let p := txParams k dev info skb
    let pad := (4 - (p.hdrLen.toNat &&& 0x03)) &&& 0x03
    match rustCall (buildTxwi p) 32 with
    | .error (.errno _) => return none
    | .error e => .error e
    | .ok txwi => do
      let txwi := if p.frmType = 2 then requestStatus txwi else txwi
      match ← padHeader k skb p.hdrLen.toNat pad with
      | none => return none
      | some skb =>
        match expandHead k skb 32 with
        | none => return none
        | some skb => do
          let skb ← pushTxd skb txwi (isMgmt fc)
          match ← padTail k skb with
          | none => return none
          | some skb =>
            if k.allocUrb then
              return some ⟨if isMgmt fc then MT7603_MGMT_BULK_OUT else MT7603_DATA_BULK_OUT, skb,
                txMeta p pad⟩
            else return none

/-! ## Completion -/

/-- What becomes of a completed frame. -/
inductive TxOutcome
  | status (ack : Bool)
  | freed
  deriving DecidableEq, Repr

/-- The frame in a completed buffer. -/
def stripFrame (skb : SkBuff U8) (metaWord : U32) : Rs (SkBuff U8) := do
  let origLen := (metaWord &&& 0xffff).toNat
  let hdrLen := ((metaWord >>> 16) &&& 0xff).toNat
  let hdrPadLen := ((metaWord >>> 24) &&& 0xff).toNat
  let skb := if 32 ≤ skb.len then skb.pull 32 else skb
  let skb ← (if 0 < hdrPadLen ∧ hdrLen + hdrPadLen ≤ skb.len then
      skb.move hdrLen (hdrLen + hdrPadLen) (skb.len - hdrLen - hdrPadLen)
    else .ok skb)
  return if 0 < origLen ∧ origLen < skb.len then skb.trim origLen else skb

/-- `mt7603_tx_complete`: the buffer it ends up with and what it does with it. -/
def txComplete (k : Kernel) (dev : Dev) (info : TxInfo) (status : Int) (skb : SkBuff U8)
    (metaWord : U32) : Rs (SkBuff U8 × TxOutcome) := do
  let skb ← stripFrame skb metaWord
  let fc := if 2 ≤ skb.len then frameControl k skb else 0
  if dev.running ∧ ¬isBeacon fc then
    return (skb, .status (status = 0 ∧ info.flags &&& IEEE80211_TX_CTL_NO_ACK = 0))
  else return (skb, .freed)

end Driver
