import Mt7603u.Proof.RxDeagg
import Mt7603u.Rust.Lib

/-!
# What RX completion logs and reports

`rxLoop_outcome` runs the loop with the log on or off: if the dump of every subframe it handles
stays inside the transfer, it delivers the frames of these subframes (`frameAt`), and if one does
not, that dump is an access out of range. From it:

* `rxComplete_log_iff`: with `mt7603_dbg_rx` on, a transfer is read in range if and only if every
  dumped frame has 22 bytes of the transfer behind its start. The checks of the dump are on the
  first byte of an address only, the 16 raw bytes are not checked at all, and a descriptor that
  does not fit leaves the place to whatever `rx_info` held.
* `delivered_signal_iff`: the signal of a delivered frame is the measured one, unless reading and
  calibration offset cancel out. `rssi = 0` is "no signal" to the driver.
-/

namespace Driver

open Slice Word Rust

/-- The parser as the driver calls it is the exported one, with both pointers there. -/
theorem rustParseRxFrame_exported (data : List U8) (rssiOffset : Int) (out : RxInfo) :
    Rust.rustParseRxFrame (some data) rssiOffset (some out) =
      match Driver.rustParseRxFrame data rssiOffset out with
      | .ok (ret, info) => (.ok ret, some info)
      | .error e => (.error e, some out) := by
  unfold Rust.rustParseRxFrame Driver.rustParseRxFrame parseInto
  simp only [Option.map_some]
  cases parseRxFrame data rssiOffset with
  | ok info => rfl
  | error e => cases e <;> rfl

/-- From `c` on, the loop handles the subframe at `c'`. -/
inductive Handles (buf : List U8) : Nat → Nat → Prop
  | here {c : Nat} : Taken buf c → Handles buf c c
  | next {c c' : Nat} : Taken buf c → 16 ≤ subframeLen (byteCntOf (buf.drop c)) →
      Handles buf (c + subframeLen (byteCntOf (buf.drop c))) c' → Handles buf c c'

/-- Every dump of the loop from `c` on stays inside the transfer. -/
def DumpsFit (uninit : Nat → RxInfo) (buf : List U8) (c : Nat) : Prop :=
  ∀ c', Handles buf c c' → DumpFits (uninit c') (buf.drop c')

section
variable {uninit : Nat → RxInfo} {dev : RxDev} {buf : List U8} {c : Nat}

theorem dumpsFit_of_not_taken (h : ¬Taken buf c) : DumpsFit uninit buf c := by
  intro c' hc
  cases hc with
  | here ht => exact absurd ht h
  | next ht => exact absurd ht h

/-- If the loop stops behind the subframe at `c`, that is the only one it handles. -/
theorem dumpsFit_last (h : Taken buf c) (hl : subframeLen (byteCntOf (buf.drop c)) < 16) :
    DumpsFit uninit buf c ↔ DumpFits (uninit c) (buf.drop c) := by
  refine ⟨fun hd => hd c (.here h), fun hd c' hc => ?_⟩
  cases hc with
  | here => exact hd
  | next _ h16 => omega

theorem dumpsFit_step (h : Taken buf c) (hl : 16 ≤ subframeLen (byteCntOf (buf.drop c))) :
    DumpsFit uninit buf c ↔ DumpFits (uninit c) (buf.drop c) ∧
      DumpsFit uninit buf (c + subframeLen (byteCntOf (buf.drop c))) := by
  refine ⟨fun hd => ⟨hd c (.here h), fun c' hc => hd c' (.next h hl hc)⟩, fun hd c' hc => ?_⟩
  cases hc with
  | here => exact hd.1
  | next _ _ hc => exact hd.2 c' hc

end

section
variable {dbg : Bool} {uninit : Nat → RxInfo} {dev : RxDev} {buf : List U8}

/-- **The loop with the log on or off**, from any position. -/
theorem rxLoop_outcome : ∀ fuel c : Nat, buf.length - c < fuel →
    ((dbg = true → DumpsFit uninit buf c) →
      ∃ ds, rxLoop dbg uninit dev buf fuel c = .ok ds ∧
        ∀ d ∈ ds, ∃ c', Handles buf c c' ∧ frameAt dev buf c' = some d) ∧
    (dbg = true → ¬DumpsFit uninit buf c → rxLoop dbg uninit dev buf fuel c = .error .ub)
  | 0, c, hf => absurd hf (by omega)
  | fuel + 1, c, hf => by
    by_cases hg : Taken buf c
    swap
    · exact ⟨fun _ => ⟨[], rxLoop_stop hg, by simp⟩,
        fun _ hd => absurd (dumpsFit_of_not_taken hg) hd⟩
    have hhere : ∀ d ∈ (frameAt dev buf c).toList, ∃ c', Handles buf c c' ∧
        frameAt dev buf c' = some d := fun d hd => ⟨c, .here hg, Option.mem_toList.1 hd⟩
    by_cases hl : subframeLen (byteCntOf (buf.drop c)) < 16
    · rw [dumpsFit_last hg hl]
      refine ⟨fun hd => ?_, fun hdbg hd => ?_⟩
      · rw [rxLoop_step hg hd, if_pos hl]
        exact ⟨_, rfl, hhere⟩
      · subst hdbg
        rw [rxLoop_round hg, rxSubframe_ub hg hd]
        rfl
    · rw [dumpsFit_step hg (by omega)]
      obtain ⟨ihOk, ihUb⟩ := rxLoop_outcome fuel (c + subframeLen (byteCntOf (buf.drop c)))
        (by have := hg.1; omega)
      refine ⟨fun hd => ?_, fun hdbg hd => ?_⟩
      · obtain ⟨rest, hrun, hrest⟩ := ihOk fun hdbg => (hd hdbg).2
        rw [rxLoop_step hg fun hdbg => (hd hdbg).1, if_neg hl, hrun]
        refine ⟨_, rfl, fun d hd => ?_⟩
        rcases List.mem_append.1 hd with hd | hd
        · exact hhere d hd
        · obtain ⟨c', hc, hfr⟩ := hrest d hd
          exact ⟨c', .next hg (by omega) hc, hfr⟩
      · -- either this dump is out of range or a later one
        by_cases hfit : DumpFits (uninit c) (buf.drop c)
        · rw [rxLoop_step hg fun _ => hfit, if_neg hl, ihUb hdbg fun hr => hd ⟨hfit, hr⟩]
          rfl
        · subst hdbg
          rw [rxLoop_round hg, rxSubframe_ub hg hfit]
          rfl

end

/-! ## The log stays in the transfer -/

/-- The transfer as a whole: the loop from its start, if it is one of the good ones. -/
theorem rxComplete_outcome (dbg : Bool) (uninit : Nat → RxInfo) (dev : RxDev) (status : Int)
    (buf : List U8) :
    ((dbg = true → status = 0 → DumpsFit uninit buf 0) →
      ∃ ds resubmit, rxComplete dbg uninit dev status buf = .ok (ds, resubmit) ∧
        ∀ d ∈ ds, ∃ c, Handles buf 0 c ∧ frameAt dev buf c = some d) ∧
    (dbg = true → ¬(status = 0 → DumpsFit uninit buf 0) →
      rxComplete dbg uninit dev status buf = .error .ub) := by
  have hfirst : ∃ b, (if dbg ∧ status = 0 ∧ 0 < buf.length then load buf 0 else .ok 0 : Rs U8) =
      .ok b := by
    split
    · rename_i h
      exact ⟨_, load_eq h.2.2⟩
    · exact ⟨0, rfl⟩
  obtain ⟨b, hb⟩ := hfirst
  obtain ⟨hok, hub⟩ := @rxLoop_outcome dbg uninit dev buf (buf.length + 1) 0 (by omega)
  unfold rxComplete
  rw [hb, ok_bind]
  refine ⟨fun hfit => ?_, fun hdbg hfit => ?_⟩
  · split
    · rename_i h
      obtain ⟨ds, hrun, hds⟩ := hok fun hdbg => hfit hdbg h.1
      rw [hrun]
      exact ⟨ds, _, rfl, hds⟩
    · exact ⟨[], _, rfl, by simp⟩
  · push Not at hfit
    have h16 : 16 ≤ buf.length := by
      by_contra hlt
      exact hfit.2 (dumpsFit_of_not_taken fun ht => hlt (by have := ht.1; omega))
    rw [if_pos ⟨hfit.1, h16⟩, hub hdbg hfit.2]
    rfl

/-- **Logging, exactly**: with `mt7603_dbg_rx` on and whatever `rx_info` held before, RX completion
reads inside the transfer if and only if the dump of every subframe it handles does, and then it
ends. -/
theorem rxComplete_log_iff (uninit : Nat → RxInfo) (dev : RxDev) (status : Int) (buf : List U8) :
    (rxComplete true uninit dev status buf ≠ .error .ub ↔
      (status = 0 → ∀ c, Handles buf 0 c → DumpFits (uninit c) (buf.drop c))) ∧
    (rxComplete true uninit dev status buf ≠ .error .ub →
      ∃ ds resubmit, rxComplete true uninit dev status buf = .ok (ds, resubmit)) := by
  obtain ⟨hok, hub⟩ := rxComplete_outcome true uninit dev status buf
  by_cases hfit : status = 0 → DumpsFit uninit buf 0
  · obtain ⟨ds, resubmit, hrun, -⟩ := hok fun _ => hfit
    rw [hrun]
    exact ⟨⟨fun _ => hfit, fun _ => nofun⟩, fun _ => ⟨ds, resubmit, rfl⟩⟩
  · have hrun := hub rfl hfit
    exact ⟨⟨fun h => absurd hrun h, fun h => absurd h hfit⟩, fun h => absurd hrun h⟩

/-- A frame of 4 bytes that ends the transfer: the dump reads 18 bytes behind it. -/
theorem rxComplete_log_past_end :
    rxComplete true (fun _ => {}) ⟨true, 6, 0⟩ 0
      [20, 0, 0, 0x40, 0, 0, 0, 0, 0, 0, 0, 0, 0, 0, 0, 0, 0xd4, 0, 0, 0] = .error .ub := by
  decide

/-! ## The signal of a delivered frame -/

/-- The calibration offset in an image: byte 0x46, signed, if it lies in -10..10. -/
def calibration (image : List U8) : Int :=
  if -10 ≤ (byteAt image 0x46).toInt ∧ (byteAt image 0x46).toInt ≤ 10 then
    (byteAt image 0x46).toInt
  else 0

/-- The reading in the descriptor that starts with `s`: `IBRssi0`, if group 3 is there and the
byte is not zero. -/
def reading (s : List U8) : Option Int :=
  if grpVldOf s &&& 0x04 ≠ 0 ∧ byteAt s (grp3Off (grpVldOf s) + 12) ≠ 0 then
    some (byteAt s (grp3Off (grpVldOf s) + 12)).toInt
  else none

/-- The signal to report: the calibrated reading. -/
def measuredSignal (image s : List U8) : Option Int :=
  (reading s).map fun r => satI8 (r + calibration image)

/-- An image of 256 bytes or more is accepted, with its calibration offset. -/
theorem parseEeprom_ok {image : List U8} (h : 256 ≤ image.length) :
    ∃ data, parseEeprom image = .ok data ∧ data.rssiOffset2g = calibration image := by
  have hget : ∀ i < 256, get image i = .ok (byteAt image i) := fun i hi => get_eq (by omega)
  unfold parseEeprom
  rw [if_neg (by omega)]
  simp only [hget 0x04 (by decide), hget 0x05 (by decide), hget 0x06 (by decide),
    hget 0x07 (by decide), hget 0x08 (by decide), hget 0x09 (by decide),
    hget 0x46 (by decide), if_pos (show 0x47 ≤ image.length by omega), ok_bind]
  exact ⟨_, rfl, rfl⟩

theorem rssiOffset2g_parseEeprom {image : List U8} {data : EepromData}
    (h : parseEeprom image = .ok data) : data.rssiOffset2g = calibration image := by
  by_cases hlen : image.length < 256
  · rw [parseEeprom, if_pos hlen] at h
    cases h
  · obtain ⟨data', hok, hoff⟩ := parseEeprom_ok (Nat.not_lt.1 hlen)
    obtain rfl := Except.ok.inj (hok.symm.trans h)
    exact hoff

theorem rssi_infoOf (s : List U8) (r : Int) (n : Nat) :
    (infoOf s r n).rssi = ((reading s).map fun ib => satI8 (ib + r)).getD 0 := by
  show (grp3Of s r).1 = _
  unfold grp3Of reading
  dsimp only
  by_cases hg : grpVldOf s &&& 0x04 ≠ 0
  · by_cases hb : byteAt s (grp3Off (grpVldOf s) + 12) ≠ 0
    · rw [if_pos hg, if_pos hb, if_pos ⟨hg, hb⟩]
      rfl
    · rw [if_pos hg, if_neg hb, if_neg fun h => hb h.2]
      rfl
  · rw [if_neg hg, if_neg fun h => hg h.1]
    rfl

theorem frameAt_some {dev : RxDev} {buf : List U8} {c : Nat} {d : Delivery}
    (h : frameAt dev buf c = some d) : d.curPos = c ∧
      d.status.signal = if (infoOf (buf.drop c) dev.rssiOffset2g (byteCntOf (buf.drop c))).rssi ≠ 0
        then some (infoOf (buf.drop c) dev.rssiOffset2g (byteCntOf (buf.drop c))).rssi
        else none := by
  unfold frameAt at h
  dsimp only at h
  split at h
  · obtain rfl := Option.some.inj h
    exact ⟨rfl, rfl⟩
  · cases h

theorem satI8_eq_zero {x : Int} : satI8 x = 0 ↔ x = 0 := by
  unfold satI8
  omega

/-- **The reported signal, exactly**: a frame delivered by a device calibrated from the image has
the measured signal, if and only if reading and calibration do not cancel out. -/
theorem delivered_signal_iff {image : List U8} {data : EepromData}
    (himage : parseEeprom image = .ok data) {dbg running : Bool} {currentChannel : U8}
    {uninit : Nat → RxInfo} {status : Int} {buf : List U8} {ds : List Delivery} {resubmit : Bool}
    (hrun : rxComplete dbg uninit ⟨running, currentChannel, data.rssiOffset2g⟩ status buf =
      .ok (ds, resubmit)) {d : Delivery} (hd : d ∈ ds) :
    d.status.signal = measuredSignal image (buf.drop d.curPos) ↔
      ∀ r, reading (buf.drop d.curPos) = some r → r + calibration image ≠ 0 := by
  obtain ⟨hok, hub⟩ := rxComplete_outcome dbg uninit ⟨running, currentChannel, data.rssiOffset2g⟩
    status buf
  by_cases hfit : dbg = true → status = 0 → DumpsFit uninit buf 0
  swap
  · -- a dump out of range delivers nothing
    push Not at hfit
    rw [hub hfit.1 fun h => hfit.2.2 (h hfit.2.1)] at hrun
    cases hrun
  obtain ⟨ds', resubmit', hrun', hds⟩ := hok hfit
  obtain ⟨rfl, rfl⟩ := Prod.mk.inj (Except.ok.inj (hrun'.symm.trans hrun))
  obtain ⟨c, -, hframe⟩ := hds d hd
  obtain ⟨hpos, hsignal⟩ := frameAt_some hframe
  rw [hsignal, hpos, rssi_infoOf, rssiOffset2g_parseEeprom himage, measuredSignal]
  cases hr : reading (buf.drop c) with
  | none => simp
  | some r =>
    by_cases h0 : r + calibration image = 0
    · simp [h0, satI8]
    · simp [h0, satI8_eq_zero]

/-- An image whose calibration offset is 5. -/
def imageFive : List U8 := List.replicate 0x46 0 ++ 5 :: List.replicate 185 0

/-- A transfer with one frame of 8 bytes behind a descriptor with group 3 and the reading `ib`. -/
def transferWith (ib : U8) : List U8 :=
  [48, 0, 0, 0x48] ++ List.replicate 24 0 ++ ib :: List.replicate 19 0

/-- The frame in it, with the signal reported for it. -/
def frameWith (signal : Option Int) : Delivery where
  curPos := 0
  offset := 40
  data := List.replicate 8 0
  status := ⟨2437, signal, .legacy, 0, false, false, false⟩

theorem parseEeprom_imageFive :
    parseEeprom imageFive = .ok { rssiOffset2g := 5, isValid := 1 } := by
  decide +kernel

/-- A reading of -64 is reported as -59. -/
theorem delivered_signal_reading :
    rxComplete false (fun _ => {}) ⟨true, 6, 5⟩ 0 (transferWith 0xC0) =
        .ok ([frameWith (some (-59))], true) ∧
      (frameWith (some (-59))).status.signal = measuredSignal imageFive (transferWith 0xC0) := by
  have hrun : rxComplete false (fun _ => {}) ⟨true, 6, 5⟩ 0 (transferWith 0xC0) =
      .ok ([frameWith (some (-59))], true) := by decide
  have hr : reading (transferWith 0xC0) = some (-64) := by decide
  have hcal : calibration imageFive = 5 := by decide +kernel
  refine ⟨hrun, (delivered_signal_iff parseEeprom_imageFive hrun (List.mem_singleton.2 rfl)).2 ?_⟩
  intro r hr'
  obtain rfl := Option.some.inj (hr.symm.trans hr')
  rw [hcal]
  decide

/-- A reading of -5 cancels out with the offset and is reported as none. -/
theorem delivered_signal_lost :
    ∃ data, parseEeprom imageFive = .ok data ∧
      rxComplete false (fun _ => {}) ⟨true, 6, data.rssiOffset2g⟩ 0 (transferWith 0xFB) =
        .ok ([frameWith none], true) ∧
      reading (transferWith 0xFB) = some (-5) ∧
      measuredSignal imageFive (transferWith 0xFB) = some 0 :=
  ⟨_, parseEeprom_imageFive, by decide, by decide, by decide +kernel⟩

end Driver
