import Mt7603u.Rust.Ffi

/-!
# MAC initialisation and register sequences (`src/rust/src/mac.rs`)

Every generator is an `Out RegWriteOp Nat`; the sequence it writes is a definition of its own, so
that the callers' proofs can speak about it.
-/

namespace Rust

open Slice Word

/-! ## Registers -/

def TMAC_TCR : U32 := 0x00021600
def TMAC_CDTR : U32 := 0x00021608
def TMAC_RRCR : U32 := 0x0002160C
def TMAC_TRCR : U32 := 0x00021614
def ARB_SCR : U32 := 0x00021480
def ARB_RQCR : U32 := 0x00021470
def ARB_TQCR0 : U32 := 0x00021500
def RMAC_RFCR : U32 := 0x00021800
def RMAC_OMA0R0 : U32 := 0x00021824
def RMAC_OMA0R1 : U32 := 0x00021828
def RMAC_RMACDR : U32 := 0x00021878
def RMAC_RMCR : U32 := 0x00021880
def RMAC_MAXMINLEN : U32 := 0x00021898
def RMAC_RFCR1 : U32 := 0x000218A4
def AGG_AWSCR : U32 := 0x00021248
def AGG_AWSCR1 : U32 := 0x0002124C
def AGG_AALCR : U32 := 0x00021250
def AGG_AALCR1 : U32 := 0x00021254
def DMA_DCR1 : U32 := 0x00021C04
def DMA_RCFR0 : U32 := 0x00021C70
def DMA_VCFR0 : U32 := 0x00021C7C
def WTBL_OFF_RMVTCR : U32 := 0x00023008
def USB_DMA_CFG : U32 := 0x00024000
def FC_FRP : U32 := 0x00008138
def MT_TXTIME_THD_0 : U32 := 0x00004500
def MT_TXTIME_THD_1 : U32 := 0x00004504
def MT_TXTIME_THD_2 : U32 := 0x00004508
def MT_TXTIME_THD_3 : U32 := 0x0000450C
def MT_TXTIME_THD_4 : U32 := 0x00004510
def MT_TXTIME_THD_5 : U32 := 0x00004514
def MT_TXTIME_THD_6 : U32 := 0x00004518
def MT_TXTIME_THD_7 : U32 := 0x0000451C
def MT_TXTIME_THD_8 : U32 := 0x00004520
def MT_TXTIME_THD_9 : U32 := 0x00004524
def MT_TXTIME_THD_10 : U32 := 0x00004528
def MT_TXTIME_THD_11 : U32 := 0x0000452C
def MT_TXTIME_THD_12 : U32 := 0x00004530
def MT_TXTIME_THD_13 : U32 := 0x00004534
def MT_TXTIME_THD_14 : U32 := 0x00004538
def MT_TXTIME_THD_15 : U32 := 0x0000453C
def MT_PAGE_CNT_0 : U32 := 0x00004540
def MT_PAGE_CNT_1 : U32 := 0x00004544
def MT_PAGE_CNT_2 : U32 := 0x00004548
def MT_PAGE_CNT_3 : U32 := 0x0000454C
def MT_PAGE_CNT_4 : U32 := 0x00004550
def MT_PAGE_CNT_5 : U32 := 0x00004554
def MT_PAGE_CNT_7 : U32 := 0x0000455C
def MT_PAGE_CNT_8 : U32 := 0x00004560
def MT_QUEUE_PRIORITY_1 : U32 := 0x00004580
def MT_QUEUE_PRIORITY_2 : U32 := 0x00004584
def MT_SCH_REG_1 : U32 := 0x00004588
def MT_SCH_REG_2 : U32 := 0x0000458C
def SCH_REG4 : U32 := 0x00004594
def MT_GROUP_THD_0 : U32 := 0x00004598
def MT_GROUP_THD_1 : U32 := 0x0000459C
def MT_GROUP_THD_2 : U32 := 0x000045A0
def MT_BMAP_0 : U32 := 0x000045B0
def MT_BMAP_1 : U32 := 0x000045B4
def MT_HIGH_PRIORITY_1 : U32 := 0x000045BC
def MT_HIGH_PRIORITY_2 : U32 := 0x000045C0
def MT_PRIORITY_MASK : U32 := 0x000045C4
def MT_RSV_MAX_THD : U32 := 0x000045C8
def PSE_CLIENT_TX_PAD_DW2 : U32 := 0x000C0040
def PSE_CLIENT_TX_PAD_DW3 : U32 := 0x000C0044
def PSE_CLIENT_TX_PAD_DW4 : U32 := 0x000C0048
def PSE_CLIENT_TX_PAD_DW5 : U32 := 0x000C004C
def PSE_CLIENT_TX_PAD_DW6 : U32 := 0x000C0050
def PSE_CLIENT_RXINF : U32 := 0x000C0068
def RMAC_CHFREQ : U32 := 0x00021890

/-! ## Initialisation -/

def macInitSeq : List RegWriteOp :=
  [⟨USB_DMA_CFG, 0x00180000⟩, ⟨FC_FRP, 0x00004037⟩, ⟨MT_HIGH_PRIORITY_1, 0x55555555⟩,
   ⟨MT_HIGH_PRIORITY_2, 0x78555555⟩, ⟨MT_QUEUE_PRIORITY_1, 0x2B1A096E⟩,
   ⟨MT_QUEUE_PRIORITY_2, 0x785F4D3C⟩, ⟨MT_PRIORITY_MASK, 0xFFFFFFFF⟩, ⟨MT_SCH_REG_1, 0x20000288⟩,
   ⟨MT_SCH_REG_2, 0x0000000E⟩, ⟨MT_PAGE_CNT_0, 0x0000000E⟩, ⟨MT_PAGE_CNT_1, 0x0000000E⟩,
   ⟨MT_PAGE_CNT_2, 0x0000000E⟩, ⟨MT_PAGE_CNT_3, 0x0000000E⟩, ⟨MT_PAGE_CNT_4, 0x0000000E⟩,
   ⟨MT_PAGE_CNT_5, 0x00000020⟩, ⟨MT_PAGE_CNT_7, 0x0000000E⟩, ⟨MT_PAGE_CNT_8, 0x00000032⟩,
   ⟨MT_RSV_MAX_THD, 0x00000288⟩, ⟨MT_GROUP_THD_0, 0x0000025A⟩, ⟨MT_GROUP_THD_1, 0x0000000E⟩,
   ⟨MT_BMAP_0, 0x0080FF5F⟩, ⟨MT_GROUP_THD_2, 0x00000020⟩, ⟨MT_BMAP_1, 0x00000020⟩,
   ⟨MT_TXTIME_THD_0, 0x000FFFFF⟩, ⟨MT_TXTIME_THD_1, 0x000FFFFF⟩, ⟨MT_TXTIME_THD_2, 0x000FFFFF⟩,
   ⟨MT_TXTIME_THD_3, 0x000FFFFF⟩, ⟨MT_TXTIME_THD_4, 0x000FFFFF⟩, ⟨MT_TXTIME_THD_5, 0x000FFFFF⟩,
   ⟨MT_TXTIME_THD_6, 0x000FFFFF⟩, ⟨MT_TXTIME_THD_7, 0x000FFFFF⟩, ⟨MT_TXTIME_THD_8, 0x000FFFFF⟩,
   ⟨MT_TXTIME_THD_9, 0x000FFFFF⟩, ⟨MT_TXTIME_THD_10, 0x000FFFFF⟩, ⟨MT_TXTIME_THD_11, 0x000FFFFF⟩,
   ⟨MT_TXTIME_THD_12, 0x000FFFFF⟩, ⟨MT_TXTIME_THD_13, 0x000FFFFF⟩, ⟨MT_TXTIME_THD_14, 0x000FFFFF⟩,
   ⟨MT_TXTIME_THD_15, 0x000FFFFF⟩, ⟨SCH_REG4, 0x00000040⟩, ⟨PSE_CLIENT_RXINF, 0x00000007⟩,
   ⟨PSE_CLIENT_TX_PAD_DW2, 0x00000000⟩, ⟨PSE_CLIENT_TX_PAD_DW3, 0x00000001⟩,
   ⟨PSE_CLIENT_TX_PAD_DW4, 0x00000000⟩, ⟨PSE_CLIENT_TX_PAD_DW5, 0x00000020⟩,
   ⟨PSE_CLIENT_TX_PAD_DW6, 0x00000000⟩, ⟨TMAC_TCR, 0x00040001⟩, ⟨TMAC_CDTR, 0x003000E7⟩,
   ⟨TMAC_RRCR, 0x00000004⟩, ⟨TMAC_TRCR, 0x80000000⟩, ⟨ARB_SCR, 0x00000000⟩,
   ⟨ARB_TQCR0, 0xFFFFFFFF⟩, ⟨ARB_RQCR, 0x0000000F⟩, ⟨RMAC_RMACDR, 0x40000000⟩,
   ⟨RMAC_MAXMINLEN, 0x0E019000⟩, ⟨RMAC_RFCR, 0x00000002⟩, ⟨RMAC_RFCR1, 0x00000000⟩,
   ⟨RMAC_RMCR, 0x00F00000⟩, ⟨AGG_AWSCR, 0x00000040⟩, ⟨AGG_AWSCR1, 0x2A151410⟩,
   ⟨AGG_AALCR, 0x00000010⟩, ⟨AGG_AALCR1, 0x15151515⟩, ⟨DMA_RCFR0, 0xC0210000⟩,
   ⟨DMA_VCFR0, 0x00002000⟩, ⟨DMA_DCR1, 0x00003800⟩, ⟨WTBL_OFF_RMVTCR, 0x00800000⟩,
   ⟨PSE_CLIENT_RXINF, 0x00000007⟩]

/-- `build_mac_init_sequence`. -/
def buildMacInitSequence : Out RegWriteOp Nat :=
  .sized macInitSeq.length (-ENOSPC) (.copyFromSlice 0 macInitSeq.length macInitSeq)

/-! ## Addresses -/

/-- The low four bytes of an address as a register word. -/
def ownMacLo (mac : MacAddr) : U32 :=
  mac.b0.setWidth 32 ||| mac.b1.setWidth 32 <<< 8 ||| mac.b2.setWidth 32 <<< 16 |||
    mac.b3.setWidth 32 <<< 24

/-- The high two bytes with `ENABLE_OWN_MAC`. -/
def ownMacHi (mac : MacAddr) : U32 :=
  mac.b4.setWidth 32 ||| mac.b5.setWidth 32 <<< 8 ||| bit 16

def ownMacSeq (mac : MacAddr) : List RegWriteOp :=
  [⟨RMAC_OMA0R0, ownMacLo mac⟩, ⟨RMAC_OMA0R1, ownMacHi mac⟩]

/-- `build_own_mac_sequence`. -/
def buildOwnMacSequence (mac : MacAddr) : Out RegWriteOp Nat :=
  .sized 2 (-ENOSPC) (.setFrom 0 (ownMacSeq mac))

/-! ## Channel and filter -/

def channelSeq : List RegWriteOp :=
  [⟨RMAC_CHFREQ, 1⟩, ⟨RMAC_RMCR, 0x00F00000⟩, ⟨ARB_RQCR, 0x0000000F⟩, ⟨ARB_SCR, 0x00000000⟩]

/-- `build_channel_sequence`; the bandwidth is not used. -/
def buildChannelSequence (channel _bw : U8) : Out RegWriteOp Nat :=
  if ¬(1 ≤ channel ∧ channel ≤ 14) then .fail (.errno (-EINVAL))
  else .sized channelSeq.length (-ENOSPC) (.copyFromSlice 0 channelSeq.length channelSeq)

def rxFilterSeq (promisc fcsFail : Bool) : List RegWriteOp :=
  let rfcr : U32 :=
    if promisc then if fcsFail then 0x00000004 else 0x00000006
    else 0x001D93A2
  [⟨RMAC_RFCR, rfcr⟩, ⟨RMAC_RFCR1, 0x00000000⟩]

/-- `build_rx_filter_sequence`. -/
def buildRxFilterSequence (promisc fcsFail : Bool) : Out RegWriteOp Nat :=
  .sized 2 (-ENOSPC) (.setFrom 0 (rxFilterSeq promisc fcsFail))

/-! ## BlockAck sessions -/

def BA_RANGE : List U8 := [4, 5, 8, 10, 16, 20, 21, 42]

/-- The index of the largest window that does not exceed `baSize` (0 if all do). -/
def baRangeIdx (baSize : U8) : Nat :=
  -- the scan stops at index 7 at the latest
  let idx := ((BA_RANGE.take 7).takeWhile fun r => decide (r < baSize)).length
  if 0 < idx ∧ baSize < BA_RANGE.getD idx 0 then idx - 1 else idx

/-- WTBL2 DW15 of a WCID. -/
def wtbl2Dw15 (wcid : U8) : U32 := 0x00040000 + wcid.setWidth 32 * 64 + 15 * 4

def baDw15 (tid baSize : U8) (enable : Bool) (prevDw15 : U32) : U32 :=
  let shift := tid.toNat * 3
  let cleared := prevDw15 &&& ~~~((0x7 : U32) <<< shift)
  let baEnBit := bit (24 + tid.toNat)
  if enable then
    cleared ||| (baEnBit ||| ((BitVec.ofNat 32 (baRangeIdx baSize) &&& 0x7) <<< shift))
  else cleared &&& ~~~baEnBit

/-- `build_ba_session_sequence`. -/
def buildBaSessionSequence (wcid tid baSize : U8) (enable : Bool) (prevDw15 : U32) :
    Out RegWriteOp Nat :=
  if 8 ≤ tid then .fail (.errno (-EINVAL))
  else .sized 1 (-ENOSPC) (.setFrom 0 [⟨wtbl2Dw15 wcid, baDw15 tid baSize enable prevDw15⟩])

end Rust
