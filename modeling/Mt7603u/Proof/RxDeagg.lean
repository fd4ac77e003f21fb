import Mt7603u.Driver.RxComplete
import Mt7603u.Proof.RxParse

/-!
# RX de-aggregation is safe and exact

`frameAt dev buf c` says, as a plain function of the bytes, which frame the subframe at `c` gives.
`rxSubframe_eq`: inside the loop's checks no read of `rxSubframe` can fail and it delivers exactly
that frame, as long as the log does not dump past the end (`DumpFits`). With the log off, two
results follow:

* `rxComplete_safe` (any bytes): the loop ends, nothing is read out of range, and every delivered
  frame is a range of its own subframe, in increasing order, of type 2 or 3 and without the FCS
  error bit.
* `rxComplete_layout` (subframes laid out as the hardware does): the frames delivered are the ones
  `alone` computes from each subframe by itself, in order. The parser sees the whole rest of the
  transfer, so this needs that all it reads lies below the byte count (`infoOf_congr`).
-/

namespace Driver

open Slice Word Rust

/-! ## One subframe -/

/-- The frame of the subframe at `c`. -/
def frameAt (dev : RxDev) (buf : List U8) (c : Nat) : Option Delivery :=
  let s := buf.drop c
  let off := infoLenOf s
  if (pktTypeOf s = 0x02 ∨ pktTypeOf s = 0x03) ∧ off + 4 < byteCntOf s ∧ fcsErrOf s = 0 then
    some {
      curPos := c
      offset := off
      data := (s.take (byteCntOf s)).drop off
      status := rxStatus dev (infoOf s dev.rssiOffset2g (byteCntOf s))
        (le16 (byteAt s off) (byteAt s (off + 1))) (byteAt s 9) (byteAt s 10) }
  else none

theorem byteCntOf_lt (buf : List U8) : byteCntOf buf < 65536 := (le16 _ _).isLt

theorem loadRange_ok {buf : List U8} {off n : Nat} (h : off + n ≤ buf.length) :
    loadRange buf off n = .ok ((buf.drop off).take n) := if_pos h

theorem load_drop {buf : List U8} {c i : Nat} (h : c + i < buf.length) :
    load buf (c + i) = .ok (byteAt (buf.drop c) i) := by
  rw [load_eq h, byteAt_drop]

/-- The entries of a report that fits the transfer can be read. -/
theorem txsEntries_ok (buf : List U8) (c : Nat) :
    ∀ n : Nat, c + (n * 20 + 4) ≤ buf.length → ∃ es, txsEntries buf c n = .ok es
  | 0, _ => ⟨[], rfl⟩
  | n + 1, h => by
    obtain ⟨es, hes⟩ := txsEntries_ok buf c n (by omega)
    unfold txsEntries
    rw [hes]
    simp only [ok_bind]
    rw [load_eq (by omega), load_eq (by omega), load_eq (by omega), load_eq (by omega),
      load_eq (by omega), load_eq (by omega), load_eq (by omega), load_eq (by omega)]
    exact ⟨_, rfl⟩

theorem txsReport_ok {buf : List U8} {c n : Nat} (h : c + 16 ≤ buf.length) :
    ∃ es, txsReport buf c n = .ok es := by
  unfold txsReport
  rw [load_eq (by omega)]
  simp only [ok_bind]
  split
  · rename_i hn
    exact txsEntries_ok buf _ _ (by omega)
  · exact ⟨[], rfl⟩

/-- The log lines of a frame inside the transfer. -/
theorem logFrame_ok {dbg : Bool} {buf : List U8} {hdr n : Nat} {fc : U16}
    (h : hdr + n ≤ buf.length) : logFrame dbg buf hdr fc n = .ok () := by
  unfold logFrame
  split
  · rw [loadRange_ok (by omega)]
    rfl
  split
  · rw [loadRange_ok (by omega), loadRange_ok (by omega), loadRange_ok (by omega)]
    rfl
  · rfl

/-- What is delivered once the parser has filled `rx_info`. -/
theorem deliver_infoOf {dbg : Bool} {dev : RxDev} {buf : List U8} {c : Nat}
    (h16 : c + 16 ≤ buf.length) (hcnt : byteCntOf (buf.drop c) ≤ buf.length - c)
    (ht : pktTypeOf (buf.drop c) = 0x02 ∨ pktTypeOf (buf.drop c) = 0x03) :
    deliver dbg dev buf c 0
        (infoOf (buf.drop c) dev.rssiOffset2g (byteCntOf (buf.drop c))) =
      .ok (frameAt dev buf c).toList := by
  have hlt := byteCntOf_lt (buf.drop c)
  unfold deliver frameAt
  simp only [hdrLen_infoOf, pktLen_infoOf _ _ hlt, isCrcError_infoOf, true_and, ht]
  by_cases hd : infoLenOf (buf.drop c) + 4 < byteCntOf (buf.drop c) ∧ fcsErrOf (buf.drop c) = 0
  · rw [if_pos hd, if_pos ⟨by omega, hd.2⟩, if_pos (by omega), load_drop (by omega),
      show c + infoLenOf (buf.drop c) + 1 = c + (infoLenOf (buf.drop c) + 1) by omega,
      load_drop (by omega), load_drop (by omega), load_drop (by omega)]
    simp only [ok_bind]
    rw [logFrame_ok (by omega), loadRange_ok (by omega), List.drop_take, List.drop_drop]
    rfl
  · rw [if_neg hd, if_neg fun h => hd ⟨by omega, h.2⟩]
    rfl

/-! ## The dump of short frames -/

/-- A frame is dumped if the parsed length is short and there is no FCS error. -/
def Dumped (pktLen : Nat) (crcError : U8) : Prop := 2 ≤ pktLen ∧ pktLen ≤ 60 ∧ crcError = 0

/-- The dump of the subframe that starts with `s` stays inside `s`: 16 raw bytes and the three
addresses, 22 bytes from the frame's start on. If the descriptor does not fit, the frame is where
`uninit` says. -/
def DumpFits (uninit : RxInfo) (s : List U8) : Prop :=
  pktTypeOf s = 0x02 ∨ pktTypeOf s = 0x03 →
    (s.length < infoLenOf s → Dumped uninit.pktLen.toNat uninit.isCrcError →
      uninit.hdrLen.toNat + 22 ≤ s.length) ∧
    (infoLenOf s ≤ s.length → Dumped (byteCntOf s - infoLenOf s) (fcsErrOf s) →
      infoLenOf s + 22 ≤ s.length)

theorem dump_ok {dbg : Bool} {buf : List U8} {c : Nat} {info : RxInfo} (hc : c ≤ buf.length)
    (h : dbg = true → Dumped info.pktLen.toNat info.isCrcError →
      info.hdrLen.toNat + 22 ≤ buf.length - c) :
    dumpShortFrame dbg buf c info = .ok () := by
  unfold dumpShortFrame
  split
  · rename_i hs
    have h22 := h hs.2.2.2 ⟨hs.1, hs.2.1, hs.2.2.1⟩
    dsimp only
    rw [loadRange_ok (by omega), if_pos (by omega), if_pos (by omega), if_pos (by omega),
      loadRange_ok (by omega), loadRange_ok (by omega), loadRange_ok (by omega)]
    rfl
  · rfl

/-- A dump that does not fit reads past the end: if the raw bytes are there, the third address is
not. -/
theorem dump_ub {buf : List U8} {c : Nat} {info : RxInfo}
    (hs : Dumped info.pktLen.toNat info.isCrcError)
    (h : buf.length - c < info.hdrLen.toNat + 22) :
    dumpShortFrame true buf c info = .error .ub := by
  have hub {off n : Nat} (ho : buf.length < off + n) : loadRange buf off n = .error .ub :=
    if_neg (by omega)
  unfold dumpShortFrame
  rw [if_pos ⟨hs.1, hs.2.1, hs.2.2, rfl⟩]
  dsimp only
  by_cases h16 : c + info.hdrLen.toNat + 16 ≤ buf.length
  · rw [loadRange_ok h16, if_pos (by omega), if_pos (by omega), if_pos (by omega)]
    simp only [ok_bind]
    rcases Nat.lt_or_ge buf.length (c + info.hdrLen.toNat + 4 + 6) with h4 | h4
    · rw [hub h4]
      rfl
    rw [loadRange_ok h4, ok_bind]
    rcases Nat.lt_or_ge buf.length (c + info.hdrLen.toNat + 10 + 6) with h10 | h10
    · rw [hub h10]
      rfl
    rw [loadRange_ok h10, ok_bind, hub (by omega)]
    rfl
  · rw [hub (by omega)]
    rfl

/-! ## One subframe of the loop -/

/-- The loop takes the subframe at `c`. -/
def Taken (buf : List U8) (c : Nat) : Prop :=
  c + 16 ≤ buf.length ∧ 0 < byteCntOf (buf.drop c) ∧ byteCntOf (buf.drop c) ≤ buf.length - c

section
variable {uninit : RxInfo} {dev : RxDev} {buf : List U8} {c : Nat}

theorem frameAt_of_type (hn : pktTypeOf (buf.drop c) ≠ 0x02 ∧ pktTypeOf (buf.drop c) ≠ 0x03) :
    frameAt dev buf c = none :=
  if_neg fun h => h.1.elim hn.1 hn.2

theorem Taken.totalLen (h : Taken buf c) : totalLenOf (buf.drop c) = byteCntOf (buf.drop c) := by
  rw [totalLenOf, List.length_drop, if_pos ⟨h.2.2, h.2.1⟩]

/-- The parser's answer inside the loop's checks, for a received frame. -/
theorem Taken.parse (h : Taken buf c)
    (ht : pktTypeOf (buf.drop c) = 0x02 ∨ pktTypeOf (buf.drop c) = 0x03) :
    rustParseRxFrame (buf.drop c) dev.rssiOffset2g uninit =
      if buf.length - c < infoLenOf (buf.drop c) then .ok (-22, uninit)
      else .ok (0, infoOf (buf.drop c) dev.rssiOffset2g (byteCntOf (buf.drop c))) := by
  have hlen : (buf.drop c).length = buf.length - c := List.length_drop ..
  have h16 := h.1
  unfold rustParseRxFrame
  rw [parseRxFrame_eq _ (by omega), h.totalLen, if_neg fun hn => ht.elim hn.1 hn.2, hlen]
  by_cases hl : buf.length - c < infoLenOf (buf.drop c)
  · rw [if_pos hl, if_pos hl]
  · rw [if_neg hl, if_neg hl]

/-- A received frame is parsed, dumped and delivered. -/
theorem rxSubframe_received {dbg : Bool} (h : Taken buf c)
    (ht : pktTypeOf (buf.drop c) = 0x02 ∨ pktTypeOf (buf.drop c) = 0x03) :
    rxSubframe dbg uninit dev buf c (byteCntOf (buf.drop c)) =
      if buf.length - c < infoLenOf (buf.drop c) then do
        let _ ← dumpShortFrame dbg buf c uninit
        return []
      else do
        let _ ← dumpShortFrame dbg buf c
          (infoOf (buf.drop c) dev.rssiOffset2g (byteCntOf (buf.drop c)))
        return (frameAt dev buf c).toList := by
  have h0 : pktTypeOf (buf.drop c) ≠ 0x00 := by rcases ht with h | h <;> rw [h] <;> decide
  have h16 := h.1
  unfold rxSubframe
  rw [load_drop (by omega), ok_bind]
  show (if pktTypeOf (buf.drop c) = 0x00 then _ else _) = _
  rw [if_neg h0, h.parse ht]
  split
  · rfl
  · rw [ok_bind]
    dsimp only
    rw [deliver_infoOf h.1 h.2.2 ht]
    rfl

/-- Anything else delivers nothing, with the log on or off. -/
theorem rxSubframe_other {dbg : Bool} (h : Taken buf c)
    (hn : pktTypeOf (buf.drop c) ≠ 0x02 ∧ pktTypeOf (buf.drop c) ≠ 0x03) :
    rxSubframe dbg uninit dev buf c (byteCntOf (buf.drop c)) = .ok [] := by
  have hlen : (buf.drop c).length = buf.length - c := List.length_drop ..
  have h16 := h.1
  unfold rxSubframe
  rw [load_drop (by omega), ok_bind]
  show (if pktTypeOf (buf.drop c) = 0x00 then _ else _) = _
  split
  · -- a TX status report is logged
    obtain ⟨es, hes⟩ := txsReport_ok (n := byteCntOf (buf.drop c)) h.1
    rw [hes]
    rfl
  · unfold rustParseRxFrame
    rw [parseRxFrame_eq _ (by omega), if_pos hn]
    rfl

/-- **One subframe**: inside the loop's checks it gives exactly `frameAt`, unless a dump reads past
the end. -/
theorem rxSubframe_eq {dbg : Bool} (h : Taken buf c)
    (hd : dbg = true → DumpFits uninit (buf.drop c)) :
    rxSubframe dbg uninit dev buf c (byteCntOf (buf.drop c)) =
      .ok (frameAt dev buf c).toList := by
  have hlen : (buf.drop c).length = buf.length - c := List.length_drop ..
  have hlt := byteCntOf_lt (buf.drop c)
  have h16 := h.1
  by_cases ht : pktTypeOf (buf.drop c) = 0x02 ∨ pktTypeOf (buf.drop c) = 0x03
  · rw [rxSubframe_received h ht]
    split
    · rename_i hl
      have hno : frameAt dev buf c = none := if_neg fun hf => by have := h.2.2; omega
      rw [dump_ok (by omega) fun hdbg hs => hlen ▸ (hd hdbg ht).1 (by omega) hs, hno]
      rfl
    · rename_i hl
      rw [dump_ok (by omega) fun hdbg hs => ?_]
      · rfl
      · rw [hdrLen_infoOf, ← hlen]
        rw [pktLen_infoOf _ _ hlt, isCrcError_infoOf] at hs
        exact (hd hdbg ht).2 (by omega) hs
  · have hn : pktTypeOf (buf.drop c) ≠ 0x02 ∧ pktTypeOf (buf.drop c) ≠ 0x03 := by tauto
    rw [rxSubframe_other h hn, frameAt_of_type hn]
    rfl

/-- With the log on, a dump that does not fit is an access out of range. -/
theorem rxSubframe_ub (h : Taken buf c) (hd : ¬DumpFits uninit (buf.drop c)) :
    rxSubframe true uninit dev buf c (byteCntOf (buf.drop c)) = .error .ub := by
  have hlen : (buf.drop c).length = buf.length - c := List.length_drop ..
  have hlt := byteCntOf_lt (buf.drop c)
  unfold DumpFits at hd
  push Not at hd
  obtain ⟨ht, hd⟩ := hd
  rw [rxSubframe_received h ht]
  split
  · rename_i hl
    by_cases hfit : Dumped uninit.pktLen.toNat uninit.isCrcError →
        uninit.hdrLen.toNat + 22 ≤ (buf.drop c).length
    · obtain ⟨hge, -⟩ := hd fun _ => hfit
      omega
    · push Not at hfit
      rw [dump_ub hfit.1 (by omega)]
      rfl
  · rename_i hl
    obtain ⟨-, hs, hshort⟩ := hd fun hlt => absurd hlt (by omega)
    rw [dump_ub (by rw [pktLen_infoOf _ _ hlt, isCrcError_infoOf]; exact hs)
      (by rw [hdrLen_infoOf]; omega)]
    rfl

end

/-! ## The loop -/

section
variable {dbg : Bool} {uninit : Nat → RxInfo} {dev : RxDev} {buf : List U8} {fuel c : Nat}

theorem rxLoop_stop (h : ¬Taken buf c) :
    rxLoop dbg uninit dev buf (fuel + 1) c = .ok [] := by
  unfold rxLoop
  split
  · rename_i h16
    unfold Taken at h
    rw [← Nat.add_zero c, load_drop (by omega), load_drop (by omega)]
    simp only [ok_bind, Nat.add_zero]
    rw [if_pos (by rw [show (le16 (byteAt (buf.drop c) 0) (byteAt (buf.drop c) 1)).toNat =
      byteCntOf (buf.drop c) from rfl]; omega)]
    rfl
  · rfl

/-- One round of the loop. -/
theorem rxLoop_round (h : Taken buf c) :
    rxLoop dbg uninit dev buf (fuel + 1) c = (do
      let ds ← rxSubframe dbg (uninit c) dev buf c (byteCntOf (buf.drop c))
      if subframeLen (byteCntOf (buf.drop c)) < 16 then return ds
      else do
        let rest ← rxLoop dbg uninit dev buf fuel (c + subframeLen (byteCntOf (buf.drop c)))
        return ds ++ rest) := by
  obtain ⟨h16, hpos, hcnt⟩ := h
  rw [rxLoop, if_pos h16, ← Nat.add_zero c, load_drop (by omega), load_drop (by omega)]
  simp only [ok_bind, Nat.add_zero]
  rw [show (le16 (byteAt (buf.drop c) 0) (byteAt (buf.drop c) 1)).toNat =
    byteCntOf (buf.drop c) from rfl, if_neg (by omega)]

theorem rxLoop_step (h : Taken buf c) (hd : dbg = true → DumpFits (uninit c) (buf.drop c)) :
    rxLoop dbg uninit dev buf (fuel + 1) c =
      if subframeLen (byteCntOf (buf.drop c)) < 16 then .ok (frameAt dev buf c).toList
      else do
        let rest ← rxLoop dbg uninit dev buf fuel (c + subframeLen (byteCntOf (buf.drop c)))
        return (frameAt dev buf c).toList ++ rest := by
  rw [rxLoop_round h, rxSubframe_eq h hd]
  rfl

end

/-- The positions the loop visits. -/
inductive SubframeStart (buf : List U8) : Nat → Prop
  | zero : SubframeStart buf 0
  | next {c : Nat} : SubframeStart buf c → c + 16 ≤ buf.length →
      byteCntOf (buf.drop c) ≤ buf.length - c →
      SubframeStart buf (c + subframeLen (byteCntOf (buf.drop c)))

/-- The end of the subframe at `c`. -/
def subframeEnd (buf : List U8) (c : Nat) : Nat := c + byteCntOf (buf.drop c)

/-- A delivered frame is the part of its own subframe behind the descriptor, and the subframe is
one that may be delivered. -/
structure Delivery.Sound (buf : List U8) (d : Delivery) : Prop where
  start : SubframeStart buf d.curPos
  end_le : subframeEnd buf d.curPos ≤ buf.length
  hdr_ge : 16 ≤ d.offset
  hdr_le : d.curPos + d.offset ≤ subframeEnd buf d.curPos
  data_eq : d.data = (buf.take (subframeEnd buf d.curPos)).drop (d.curPos + d.offset)
  fcs_ok : fcsErrOf (buf.drop d.curPos) = 0
  pkt_type : pktTypeOf (buf.drop d.curPos) = 0x02 ∨ pktTypeOf (buf.drop d.curPos) = 0x03

theorem frameAt_sound {dev : RxDev} {buf : List U8} {c : Nat} {d : Delivery}
    (hs : SubframeStart buf c) (h16 : c + 16 ≤ buf.length)
    (hcnt : byteCntOf (buf.drop c) ≤ buf.length - c) (hd : frameAt dev buf c = some d) :
    d.curPos = c ∧ d.Sound buf := by
  unfold frameAt at hd
  dsimp only at hd
  split at hd
  · rename_i h
    obtain rfl := Option.some.inj hd
    refine ⟨rfl, hs, ?_, infoLenOf_ge _, ?_, ?_, h.2.2, h.1⟩
    · dsimp only [subframeEnd]
      omega
    · dsimp only [subframeEnd]
      omega
    · dsimp only [subframeEnd]
      rw [List.drop_take, List.drop_take, List.drop_drop]
      congr 1
      omega
  · cases hd

/-- **The loop from any position**: it ends, and what it delivers from `c` on is sound, starts at
`c` or later and never overlaps. -/
theorem rxLoop_safe (uninit : Nat → RxInfo) (dev : RxDev) (buf : List U8) :
    ∀ fuel c : Nat, buf.length - c < fuel → SubframeStart buf c →
      ∃ ds, rxLoop false uninit dev buf fuel c = .ok ds ∧
        (∀ d ∈ ds, d.Sound buf ∧ c ≤ d.curPos) ∧
        ds.Pairwise fun d d' => subframeEnd buf d.curPos ≤ d'.curPos
  | 0, c, hf, _ => absurd hf (by omega)
  | fuel + 1, c, hf, hs => by
    by_cases hg : Taken buf c
    · obtain ⟨h16, hpos, hcnt⟩ := id hg
      have hhd : ∀ d ∈ (frameAt dev buf c).toList, d.curPos = c ∧ d.Sound buf := fun d hd =>
        frameAt_sound hs h16 hcnt (Option.mem_toList.1 hd)
      rw [rxLoop_step hg (by simp)]
      split
      · refine ⟨_, rfl, fun d hd => ⟨(hhd d hd).2, (hhd d hd).1.ge⟩, ?_⟩
        cases frameAt dev buf c <;> simp
      · -- progress: a subframe that does not stop the loop is at least 16 bytes long
        rename_i h
        obtain ⟨ds, hrun, hds, hpw⟩ := rxLoop_safe uninit dev buf fuel
          (c + subframeLen (byteCntOf (buf.drop c))) (by omega) (hs.next h16 hcnt)
        rw [hrun]
        refine ⟨_, rfl, fun d hd => ?_, List.pairwise_append.2 ⟨?_, hpw, fun d hd d' hd' => ?_⟩⟩
        · rcases List.mem_append.1 hd with hd | hd
          · exact ⟨(hhd d hd).2, (hhd d hd).1.ge⟩
          · exact ⟨(hds d hd).1, by have := (hds d hd).2; omega⟩
        · cases frameAt dev buf c <;> simp
        · have := (hds d' hd').2
          unfold subframeEnd
          rw [(hhd d hd).1]
          unfold subframeLen at this
          omega
    · exact ⟨[], rxLoop_stop hg, by simp, .nil⟩

/-- **RX completion is safe on arbitrary bytes**: whatever the transfer holds, it ends without an
access out of range, and the frames handed to mac80211 are sound and lie one behind the other. -/
theorem rxComplete_safe (uninit : Nat → RxInfo) (dev : RxDev) (status : Int) (buf : List U8) :
    ∃ ds resubmit, rxComplete false uninit dev status buf = .ok (ds, resubmit) ∧
      (∀ d ∈ ds, d.Sound buf) ∧
      ds.Pairwise fun d d' => subframeEnd buf d.curPos ≤ d'.curPos + d'.offset := by
  unfold rxComplete
  simp only [Bool.false_eq_true, false_and, if_false, ok_bind]
  by_cases h : status = 0 ∧ 16 ≤ buf.length
  · rw [if_pos h]
    obtain ⟨ds, hrun, hds, hpw⟩ := rxLoop_safe uninit dev buf (buf.length + 1) 0 (by omega) .zero
    rw [hrun]
    exact ⟨ds, _, rfl, fun d hd => (hds d hd).1, hpw.imp fun h => by omega⟩
  · rw [if_neg h]
    exact ⟨[], _, rfl, by simp, .nil⟩

/-! ## Well-formed transfers -/

/-- A subframe as the hardware lays it out: its bytes start with their number, the padding fills
up to a multiple of 4, and the checksum-offload word follows. -/
structure Subframe where
  bytes : List U8
  pad : List U8
  cso : List U8
  len_ge : 9 ≤ bytes.length
  len_le : bytes.length ≤ 65535
  count : bytes.take 2 = toLe16 (BitVec.ofNat 16 bytes.length)
  pad_len : pad.length = (4 - bytes.length % 4) % 4
  cso_len : cso.length = 4

/-- The transfer that carries the subframes. -/
def layout : List Subframe → List U8
  | [] => []
  | s :: ss => s.bytes ++ (s.pad ++ s.cso ++ layout ss)

/-- What a subframe gives by itself: the parser is applied to its bytes alone. -/
def alone (dev : RxDev) (s : List U8) : Option (List U8 × RxStatus) :=
  if pktTypeOf s = 0x00 then none
  else
    match parseRxFrame s dev.rssiOffset2g with
    | .ok info =>
      let off := info.hdrLen.toNat
      if 4 < info.pktLen.toNat ∧ info.isCrcError = 0 then
        some (s.drop off, rxStatus dev info (le16 (byteAt s off) (byteAt s (off + 1)))
          (byteAt s 9) (byteAt s 10))
      else none
    | .error _ => none

theorem Subframe.byteCnt (s : Subframe) : byteCntOf s.bytes = s.bytes.length := by
  have hlt : s.bytes.length < 65536 := by have := s.len_le; omega
  have h9 := s.len_ge
  have hc := s.count
  generalize s.bytes.length = n at hc hlt h9 ⊢
  match hb : s.bytes with
  | b0 :: b1 :: rest =>
    rw [hb] at hc
    simp only [List.take_succ_cons, List.take_zero, toLe16, List.cons.injEq, and_true] at hc
    show (le16 b0 b1).toNat = n
    rw [hc.1, hc.2, le16_toLe16, BitVec.toNat_ofNat, Nat.mod_eq_of_lt hlt]
  | [_] => simp [hb, toLe16] at hc
  | [] => simp [hb, toLe16] at hc

/-- **A subframe's frame does not depend on its neighbours**: at a position where the rest of the
transfer starts with the bytes `s`, the loop delivers what `s` gives alone. -/
theorem frameAt_alone (dev : RxDev) {buf s t : List U8} {c : Nat} (hb : buf.drop c = s ++ t)
    (h9 : 9 ≤ s.length) (hcnt : byteCntOf s = s.length) :
    (frameAt dev buf c).map (fun d => (d.data, d.status)) = alone dev s := by
  have hbyte : ∀ i < s.length, byteAt (s ++ t) i = byteAt s i := fun i hi => byteAt_append hi
  have hty : pktTypeOf (s ++ t) = pktTypeOf s := by unfold pktTypeOf; rw [hbyte 3 (by omega)]
  have hin : infoLenOf (s ++ t) = infoLenOf s := by
    unfold infoLenOf grpVldOf; rw [hbyte 3 (by omega), hbyte 6 (by omega)]
  have hcn : byteCntOf (s ++ t) = s.length := by
    rw [← hcnt]; unfold byteCntOf; rw [hbyte 0 (by omega), hbyte 1 (by omega)]
  have h16 := infoLenOf_ge s
  unfold frameAt alone
  simp only [hb, hty, hin, hcn]
  by_cases hs : s.length < 16
  · -- too short for a descriptor: the parser refuses it alone, its byte count leaves no frame
    rw [if_neg (by omega), show parseRxFrame s dev.rssiOffset2g = .error (.errno (-22)) from
      if_pos hs]
    simp
  have hfc : fcsErrOf (s ++ t) = fcsErrOf s := by unfold fcsErrOf; rw [hbyte 10 (by omega)]
  have htot : totalLenOf s = s.length := by
    rw [totalLenOf, hcnt, if_pos ⟨Nat.le_refl _, by omega⟩]
  have hlt : s.length < 65536 := hcnt ▸ byteCntOf_lt s
  rw [parseRxFrame_eq _ (by omega), htot, hfc]
  by_cases ht : pktTypeOf s = 0x02 ∨ pktTypeOf s = 0x03
  · have h0 : pktTypeOf s ≠ 0x00 := by rcases ht with h | h <;> rw [h] <;> decide
    rw [if_neg h0, if_neg (show ¬(pktTypeOf s ≠ 0x02 ∧ pktTypeOf s ≠ 0x03) from
      fun h => ht.elim h.1 h.2)]
    by_cases hl : s.length < infoLenOf s
    · rw [if_pos hl, if_neg fun h => by omega]
      rfl
    · rw [if_neg hl]
      simp only [hdrLen_infoOf, pktLen_infoOf _ _ hlt, isCrcError_infoOf, ht, true_and]
      by_cases hd : infoLenOf s + 4 < s.length ∧ fcsErrOf s = 0
      · rw [if_pos hd, if_pos ⟨by omega, hd.2⟩,
          infoOf_congr _ (by omega) (Nat.le_refl _) (by omega), hbyte _ (by omega),
          hbyte _ (by omega), hbyte 9 (by omega), hbyte 10 (by omega), List.take_left]
        rfl
      · rw [if_neg hd, if_neg fun h => hd ⟨by omega, h.2⟩]
        rfl
  · have hn : pktTypeOf s ≠ 0x02 ∧ pktTypeOf s ≠ 0x03 :=
      ⟨fun h => ht (.inl h), fun h => ht (.inr h)⟩
    rw [if_pos hn, if_neg (fun h => ht h.1)]
    simp

theorem subframeLen_eq (s : Subframe) :
    subframeLen s.bytes.length = (s.bytes ++ (s.pad ++ s.cso)).length := by
  simp only [subframeLen, List.length_append, s.pad_len, s.cso_len]
  omega

/-- The loop on a laid-out transfer, from the start of any subframe. -/
theorem rxLoop_layout (uninit : Nat → RxInfo) (dev : RxDev) (ss : List Subframe) :
    ∀ (pre : List U8) (fuel : Nat), ss.length < fuel →
      ∃ ds, rxLoop false uninit dev (pre ++ layout ss) fuel pre.length = .ok ds ∧
        ds.map (fun d => (d.data, d.status)) = ss.filterMap fun s => alone dev s.bytes := by
  induction ss with
  | nil =>
    intro pre fuel hf
    obtain ⟨fuel, rfl⟩ : ∃ k, fuel = k + 1 := ⟨fuel - 1, by simp at hf; omega⟩
    exact ⟨[], rxLoop_stop (by simp [Taken, layout]), rfl⟩
  | cons s ss ih =>
    intro pre fuel hf
    obtain ⟨fuel, rfl⟩ : ∃ k, fuel = k + 1 := ⟨fuel - 1, by omega⟩
    have hdrop : (pre ++ layout (s :: ss)).drop pre.length =
        s.bytes ++ (s.pad ++ s.cso ++ layout ss) := List.drop_left
    have hlen := subframeLen_eq s
    have h9 := s.len_ge
    have hcnt : byteCntOf ((pre ++ layout (s :: ss)).drop pre.length) = s.bytes.length := by
      rw [hdrop, ← s.byteCnt]
      unfold byteCntOf
      rw [byteAt_append (by omega), byteAt_append (by omega)]
    have htot : (pre ++ layout (s :: ss)).length =
        pre.length + subframeLen s.bytes.length + (layout ss).length := by
      rw [hlen, layout]
      simp only [List.length_append]
      omega
    have h16 : 16 ≤ subframeLen s.bytes.length := by unfold subframeLen; omega
    have hle : s.bytes.length ≤ subframeLen s.bytes.length := by unfold subframeLen; omega
    have htaken : Taken (pre ++ layout (s :: ss)) pre.length :=
      ⟨by omega, by omega, by omega⟩
    rw [rxLoop_step htaken (by simp), hcnt, if_neg (by omega)]
    obtain ⟨ds, hrun, hds⟩ := ih (pre ++ (s.bytes ++ (s.pad ++ s.cso))) fuel (by simp at hf; omega)
    rw [hlen, ← List.length_append,
      show pre ++ layout (s :: ss) = pre ++ (s.bytes ++ (s.pad ++ s.cso)) ++ layout ss by
        simp [layout], hrun]
    refine ⟨_, rfl, ?_⟩
    rw [List.map_append, hds, List.filterMap_cons,
      ← frameAt_alone dev hdrop h9 s.byteCnt]
    simp only [layout, List.append_assoc]
    cases frameAt dev (pre ++ (s.bytes ++ (s.pad ++ (s.cso ++ layout ss)))) pre.length <;> simp

theorem length_layout (ss : List Subframe) : ss.length ≤ (layout ss).length := by
  induction ss with
  | nil => simp [layout]
  | cons s ss ih =>
    have := s.len_ge
    simp only [layout, List.length_cons, List.length_append]
    omega

/-- **De-aggregation loses, duplicates and mixes nothing**: from a transfer of laid-out subframes
mac80211 gets exactly the frame each subframe gives alone, in order. -/
theorem rxComplete_layout (uninit : Nat → RxInfo) (dev : RxDev) (ss : List Subframe) :
    ∃ ds resubmit, rxComplete false uninit dev 0 (layout ss) = .ok (ds, resubmit) ∧
      ds.map (fun d => (d.data, d.status)) = ss.filterMap fun s => alone dev s.bytes := by
  unfold rxComplete
  simp only [Bool.false_eq_true, false_and, if_false, ok_bind, true_and]
  obtain ⟨ds, hrun, hds⟩ := rxLoop_layout uninit dev ss [] ((layout ss).length + 1)
    (Nat.lt_succ_of_le (length_layout ss))
  simp only [List.nil_append, List.length_nil] at hrun
  by_cases h : 16 ≤ (layout ss).length
  · rw [if_pos h, hrun]
    exact ⟨ds, _, rfl, hds⟩
  · rw [if_neg h]
    rw [rxLoop_stop fun ht => h (by have := ht.1; omega)] at hrun
    obtain rfl := Except.ok.inj hrun
    exact ⟨[], _, rfl, hds⟩

/-- A data frame of 9 bytes, so padded, without signal information. -/
def sampleQuiet : Subframe where
  bytes := [25, 0, 0, 0x40] ++ List.replicate 12 0 ++ [0x08, 0, 1, 2, 3, 4, 5, 6, 7]
  pad := [0xEE, 0xEE, 0xEE]
  cso := [1, 2, 3, 4]
  len_ge := by decide
  len_le := by decide
  count := by decide
  pad_len := rfl
  cso_len := rfl

/-- A TX status report, which is no frame. -/
def sampleReport : Subframe where
  bytes := [24, 0, 1, 0] ++ List.replicate 20 0
  pad := []
  cso := [0, 0, 0, 0]
  len_ge := by decide
  len_le := by decide
  count := by decide
  pad_len := rfl
  cso_len := rfl

/-- A beacon of 8 bytes behind a vector of group 3: HT, rate 7, measured at -60. -/
def sampleLoud : Subframe where
  bytes := [48, 0, 0, 0x48] ++ List.replicate 12 0 ++
    ([0x07, 0x20, 0, 0] ++ List.replicate 8 0 ++ [0xC4] ++ List.replicate 11 0) ++
    [0x80, 0, 9, 8, 7, 6, 5, 4]
  pad := []
  cso := [0, 0, 0, 0]
  len_ge := by decide
  len_le := by decide
  count := by decide
  pad_len := rfl
  cso_len := rfl

/-- Three subframes, two frames: each with its own bytes, and the signal and rate of its own
descriptor. -/
theorem rxComplete_layout_three :
    ∃ ds resubmit, rxComplete false (fun _ => {}) ⟨true, 6, 0⟩ 0
        (layout [sampleQuiet, sampleReport, sampleLoud]) = .ok (ds, resubmit) ∧
      ds.map (fun d => (d.data, d.status)) =
        [([0x08, 0, 1, 2, 3, 4, 5, 6, 7], ⟨2437, none, .legacy, 0, false, false, false⟩),
          ([0x80, 0, 9, 8, 7, 6, 5, 4], ⟨2437, some (-60), .ht, 7, false, false, false⟩)] := by
  obtain ⟨ds, resubmit, hrun, hds⟩ := rxComplete_layout (fun _ => {}) ⟨true, 6, 0⟩
    [sampleQuiet, sampleReport, sampleLoud]
  exact ⟨ds, resubmit, hrun, hds.trans (by decide +kernel)⟩

end Driver
