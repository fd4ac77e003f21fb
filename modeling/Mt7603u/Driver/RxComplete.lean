import Mt7603u.Rust.Rx

/-!
# RX completion (`src/c/mac80211.c`, `mt7603_rx_complete`)

One completed bulk-IN transfer carries several subframes, each padded to 4 bytes and followed by
a 4-byte checksum-offload word. `rxLoop` walks them; `rxSubframe` handles the one at `curPos`: a
TX status report is logged, anything else is parsed by `parseRxFrame` *on the whole rest of the
transfer* and, if it is a good frame, handed to `ieee80211_rx`.

Every read of the transfer buffer is a `load`, so a read out of range is the outcome `Fail.ub`.
`dbg` is `mt7603_dbg_rx`; with it on the log lines read the buffer too. `rx_info` is a local of the
loop's body that nothing initialises: `uninit c` is what it holds in the round at position `c`,
until the parser fills it. The parser leaves it alone when it fails.
-/

namespace Driver

open Slice Word Rust

/-! ## What is handed to mac80211 -/

/-- `status->encoding`. -/
inductive RxEncoding
  | legacy
  | ht
  deriving DecidableEq, Repr

/-- The fields of `ieee80211_rx_status` the driver fills. `signal = none` is
`RX_FLAG_NO_SIGNAL_VAL`; `decrypted` stands for the three flags `RX_FLAG_DECRYPTED`,
`RX_FLAG_IV_STRIPPED` and `RX_FLAG_MIC_STRIPPED`, which are set together. -/
structure RxStatus where
  freq : Nat
  signal : Option Int
  encoding : RxEncoding
  rateIdx : U8
  bw40 : Bool
  shortGi : Bool
  decrypted : Bool
  deriving DecidableEq, Repr

/-- A call of `ieee80211_rx`, with the position of its subframe in the transfer. -/
structure Delivery where
  curPos : Nat
  offset : Nat
  data : List U8
  status : RxStatus
  deriving DecidableEq, Repr

/-- The fields of `mt7603u_dev` the RX path reads. -/
structure RxDev where
  running : Bool
  currentChannel : U8
  rssiOffset2g : Int
  deriving DecidableEq, Repr

/-- Rate, width and guard interval of the status from the parsed rate byte. -/
def rateStatus (rate : U8) : RxEncoding × U8 × Bool × Bool :=
  if rate &&& 0x80 ≠ 0 then
    (.ht, rate &&& 0x1f, decide (rate &&& 0x40 ≠ 0), decide (rate &&& 0x20 ≠ 0))
  else if rate &&& 0x1f < 12 then (.legacy, rate &&& 0x1f, false, false)
  else (.legacy, 0, false, false)

/-- The status of a frame: from the parsed info, the frame control word `fc` and the bytes 9 and
10 of the descriptor. -/
def rxStatus (dev : RxDev) (info : RxInfo) (fc : U16) (b9 b10 : U8) : RxStatus :=
  let (encoding, rateIdx, bw40, shortGi) := rateStatus info.rate
  let secMode := b9 >>> 4 &&& 0x0f
  let rxSecErr := b10 >>> 2 &&& 0x0f
  { freq := 2407 + (if dev.currentChannel ≠ 0 then dev.currentChannel.toNat else 1) * 5
    signal := if info.rssi ≠ 0 then some info.rssi else none
    encoding, rateIdx, bw40, shortGi
    decrypted := decide (fc &&& 0x4000 ≠ 0 ∧ secMode ≠ 0 ∧ rxSecErr = 0) }

/-! ## Reads of the transfer buffer -/

/-- `n` bytes from `off` on (`skb_put_data`, `%pM`). -/
def loadRange (buf : List U8) (off n : Nat) : Rs (List U8) :=
  if off + n ≤ buf.length then .ok ((buf.drop off).take n) else .error .ub

/-- The TX status entries of a report at `framePtr`, as the log prints them: `(pid, ME)`. -/
def txsEntries (buf : List U8) (framePtr : Nat) : Nat → Rs (List (U8 × Bool))
  | 0 => .ok []
  | n + 1 => do
    let rest ← txsEntries buf framePtr n
    let e := framePtr + 4 + n * 20
    let d0 ← load buf e
    let d1 ← load buf (e + 1)
    let d2 ← load buf (e + 2)
    let d3 ← load buf (e + 3)
    let q0 ← load buf (e + 16)
    let q1 ← load buf (e + 17)
    let q2 ← load buf (e + 18)
    let q3 ← load buf (e + 19)
    let pid := (le32 q0 q1 q2 q3 >>> 14 &&& 0xff).setWidth 8
    let me := decide (le32 d0 d1 d2 d3 >>> 16 &&& 0x1 ≠ 0)
    return rest ++ [(pid, me)]

/-- A TX status report: the entries are read only if their number fits the byte count. -/
def txsReport (buf : List U8) (curPos rxByteCnt : Nat) : Rs (List (U8 × Bool)) := do
  let b2 ← load buf (curPos + 2)
  let txsCnt := (b2 &&& 0x1f).toNat
  if 0 < txsCnt ∧ rxByteCnt = txsCnt * 20 + 4 ∧ curPos + rxByteCnt ≤ buf.length then
    txsEntries buf curPos txsCnt
  else return []

/-- The `SHORTFRAME` dump, if logging is on: 16 raw bytes and up to three addresses from the
frame's start. It looks at `rx_info` whether or not the parser filled it. -/
def dumpShortFrame (dbg : Bool) (buf : List U8) (curPos : Nat) (info : RxInfo) : Rs Unit :=
  if 2 ≤ info.pktLen.toNat ∧ info.pktLen.toNat ≤ 60 ∧ info.isCrcError = 0 ∧ dbg then do
    let off := info.hdrLen.toNat
    let addrAt (d : Nat) : Rs (List U8) :=
      if off + d ≤ buf.length - curPos then loadRange buf (curPos + off + d) 6 else .ok []
    let _ ← loadRange buf (curPos + off) 16
    let _ ← addrAt 4
    let _ ← addrAt 10
    let _ ← addrAt 16
    return ()
  else return ()

/-- The beacon and data log lines, if logging is on. -/
def logFrame (dbg : Bool) (buf : List U8) (hdr : Nat) (fc : U16) (payloadLen : Nat) : Rs Unit :=
  if dbg ∧ fc &&& 0x00FC = 0x0080 ∧ 24 ≤ payloadLen then do
    let _ ← loadRange buf (hdr + 16) 6
    return ()
  else if dbg ∧ fc &&& 0x000C = 0x0008 ∧ 24 ≤ payloadLen then do
    let _ ← loadRange buf (hdr + 4) 6
    let _ ← loadRange buf (hdr + 10) 6
    let _ ← loadRange buf (hdr + 16) 6
    return ()
  else return ()

/-! ## The loop -/

/-- `mt7603_rust_parse_rx_frame`: the return code, and `rx_info` after the call. -/
def rustParseRxFrame (data : List U8) (rssiOffset : Int) (out : RxInfo) : Rs (Int × RxInfo) :=
  match parseRxFrame data rssiOffset with
  | .ok info => .ok (0, info)
  | .error (.errno e) => .ok (e, out)
  | .error f => .error f

/-- Hand a parsed frame to mac80211: the checks on `rx_info`, the copy and the status. -/
def deliver (dbg : Bool) (dev : RxDev) (buf : List U8) (curPos : Nat) (ret : Int) (info : RxInfo) :
    Rs (List Delivery) :=
  if ret = 0 ∧ 4 < info.pktLen.toNat ∧ info.isCrcError = 0 then
    let offset := info.hdrLen.toNat
    let payloadLen := info.pktLen.toNat
    if offset + payloadLen ≤ buf.length - curPos then do
      let h0 ← load buf (curPos + offset)
      let h1 ← load buf (curPos + offset + 1)
      let fc := le16 h0 h1
      let _ ← logFrame dbg buf (curPos + offset) fc payloadLen
      let data ← loadRange buf (curPos + offset) payloadLen
      let b9 ← load buf (curPos + 9)
      let b10 ← load buf (curPos + 10)
      return [{ curPos, offset, data, status := rxStatus dev info fc b9 b10 }]
    else return []
  else return []

/-- The subframe at `curPos` with byte count `rxByteCnt`. -/
def rxSubframe (dbg : Bool) (uninit : RxInfo) (dev : RxDev) (buf : List U8)
    (curPos rxByteCnt : Nat) : Rs (List Delivery) := do
  let b3 ← load buf (curPos + 3)
  let pktType := b3 >>> 5 &&& 0x07
  if pktType = 0x00 then do
    -- the entries only go to the log
    let _ ← txsReport buf curPos rxByteCnt
    return []
  else do
    let (ret, info) ← rustParseRxFrame (buf.drop curPos) dev.rssiOffset2g uninit
    let _ ← dumpShortFrame dbg buf curPos info
    deliver dbg dev buf curPos ret info

/-- The step from one subframe to the next: the byte count, its padding to 4 and the
checksum-offload word. -/
def subframeLen (rxByteCnt : Nat) : Nat := rxByteCnt + (4 - rxByteCnt % 4) % 4 + 4

/-- The `while` loop from `curPos`, for at most `fuel` rounds. -/
def rxLoop (dbg : Bool) (uninit : Nat → RxInfo) (dev : RxDev) (buf : List U8) :
    Nat → Nat → Rs (List Delivery)
  | 0, _ => .error .diverge
  | fuel + 1, curPos =>
    if curPos + 16 ≤ buf.length then do
      let b0 ← load buf curPos
      let b1 ← load buf (curPos + 1)
      let rxByteCnt := (le16 b0 b1).toNat
      if rxByteCnt = 0 ∨ buf.length - curPos < rxByteCnt then return []
      else do
        let ds ← rxSubframe dbg (uninit curPos) dev buf curPos rxByteCnt
        if subframeLen rxByteCnt < 16 then return ds
        else do
          let rest ← rxLoop dbg uninit dev buf fuel (curPos + subframeLen rxByteCnt)
          return ds ++ rest
    else return []

def ENOENT : Int := 2
def ESHUTDOWN : Int := 108
def ECONNRESET : Int := 104

/-- `mt7603_rx_complete` on a transfer of `buf.length` bytes: the frames handed to mac80211 and
whether the URB is submitted again. -/
def rxComplete (dbg : Bool) (uninit : Nat → RxInfo) (dev : RxDev) (status : Int)
    (buf : List U8) : Rs (List Delivery × Bool) := do
  let _ ← (if dbg ∧ status = 0 ∧ 0 < buf.length then load buf 0 else .ok 0 : Rs U8)
  let ds ← (if status = 0 ∧ 16 ≤ buf.length then rxLoop dbg uninit dev buf (buf.length + 1) 0
    else .ok [] : Rs (List Delivery))
  return (ds, dev.running && status ≠ -ENOENT && status ≠ -ESHUTDOWN && status ≠ -ECONNRESET)

end Driver
