import Mt7603u.Rust.Rx

/-!
# What `parseRxFrame` computes

On a buffer of at least 16 bytes no read of `parseRxFrame` can fail, so it is a plain function of
the buffer's bytes (`parseRxFrame_eq`): `infoOf`, unless the packet type is not a received frame
or the descriptor is longer than the buffer. All it reads of the buffer lies below the byte count
(`infoOf_congr`), so a buffer and the subframe it starts with give the same `RxInfo`.
-/

namespace Rust

open Slice Word

/-- The byte at `i` (0 past the end). -/
def byteAt (buf : List U8) (i : Nat) : U8 := buf.getD i 0

theorem byteAt_append {s t : List U8} {i : Nat} (h : i < s.length) :
    byteAt (s ++ t) i = byteAt s i := by
  simp [byteAt, List.getD_eq_getElem?_getD, List.getElem?_append_left h]

theorem byteAt_drop {buf : List U8} {c i : Nat} : byteAt (buf.drop c) i = byteAt buf (c + i) := by
  simp [byteAt, List.getD_eq_getElem?_getD, List.getElem?_drop]

theorem byteAt_take {buf : List U8} {n i : Nat} (h : i < n) :
    byteAt (buf.take n) i = byteAt buf i := by
  simp [byteAt, List.getD_eq_getElem?_getD, h]

theorem get_eq {buf : List U8} {i : Nat} (h : i < buf.length) : get buf i = .ok (byteAt buf i) := by
  simp [get_of_lt h, byteAt, List.getD_eq_getElem?_getD, h]

theorem load_eq {buf : List U8} {i : Nat} (h : i < buf.length) :
    load buf i = .ok (byteAt buf i) := by
  simp [load_of_lt h, byteAt, List.getD_eq_getElem?_getD, h]

/-! ## The descriptor -/

/-- DW0 bits 31:29. -/
def pktTypeOf (buf : List U8) : U8 := byteAt buf 3 >>> 5 &&& 0x07

/-- DW0 bits 28:25. -/
def grpVldOf (buf : List U8) : U8 := byteAt buf 3 >>> 1 &&& 0x0F

/-- The length of the descriptor in front of the frame. -/
def infoLenOf (buf : List U8) : Nat := rmacInfoLen (grpVldOf buf) (byteAt buf 6 >>> 6 &&& 0x01)

/-- DW2 bit 17. -/
def fcsErrOf (buf : List U8) : U8 := byteAt buf 10 >>> 1 &&& 0x01

/-- DW0 bits 15:0. -/
def byteCntOf (buf : List U8) : Nat := (le16 (byteAt buf 0) (byteAt buf 1)).toNat

/-- RSSI and rate of group 3. -/
def grp3Of (buf : List U8) (rssiOffset : Int) : Int × U8 :=
  let off := grp3Off (grpVldOf buf)
  if grpVldOf buf &&& 0x04 ≠ 0 then
    (if byteAt buf (off + 12) ≠ 0 then satI8 ((byteAt buf (off + 12)).toInt + rssiOffset) else 0,
      rateEnc (le32 (byteAt buf off) (byteAt buf (off + 1)) (byteAt buf (off + 2))
        (byteAt buf (off + 3))))
  else (0, 0)

/-- Beacon and data flags. -/
def classOf (buf : List U8) (off mpduLen : Nat) (beaconMc beaconUc : U8) : U8 × U8 :=
  if 2 ≤ mpduLen then
    if (byteAt buf off >>> 2 &&& 0x03 = 0 ∧ byteAt buf off >>> 4 &&& 0x0F = 8) ∨ beaconMc ≠ 0 ∨
        beaconUc ≠ 0 then (1, 0)
    else if byteAt buf off >>> 2 &&& 0x03 = 2 then (0, 1)
    else (0, 0)
  else (0, 0)

/-- The frame's info when the subframe is `totalLen` bytes long. -/
def infoOf (buf : List U8) (rssiOffset : Int) (totalLen : Nat) : RxInfo :=
  let mpduLen := totalLen - infoLenOf buf
  let g3 := grp3Of buf rssiOffset
  let cl := classOf buf (infoLenOf buf) mpduLen (byteAt buf 4 >>> 4 &&& 0x01)
    (byteAt buf 4 >>> 5 &&& 0x01)
  { pktLen := BitVec.ofNat 16 mpduLen
    hdrLen := BitVec.ofNat 16 (infoLenOf buf)
    rssi := g3.1
    channel := byteAt buf 5
    rate := g3.2
    isBeacon := cl.1
    isData := cl.2
    isCrcError := fcsErrOf buf }

/-- The length the parser works with: the byte count if it fits the buffer. -/
def totalLenOf (buf : List U8) : Nat :=
  if byteCntOf buf ≤ buf.length ∧ 0 < byteCntOf buf then byteCntOf buf else buf.length

theorem totalLenOf_le (buf : List U8) : totalLenOf buf ≤ buf.length := by
  unfold totalLenOf
  split <;> omega

theorem rmacInfoLen_ge (g o : U8) : 16 ≤ rmacInfoLen g o := by
  unfold rmacInfoLen RMAC_RXD_MIN_SIZE
  omega

theorem rmacInfoLen_le (g o : U8) : rmacInfoLen g o ≤ 82 := by
  unfold rmacInfoLen RMAC_RXD_MIN_SIZE
  repeat' split
  all_goals omega

/-- Group 3 lies inside the descriptor. -/
theorem grp3Off_le {g : U8} (o : U8) (h : g &&& 0x04 ≠ 0) : grp3Off g + 24 ≤ rmacInfoLen g o := by
  unfold grp3Off rmacInfoLen
  rw [if_pos h]
  omega

theorem infoLenOf_ge (buf : List U8) : 16 ≤ infoLenOf buf := rmacInfoLen_ge _ _

theorem infoLenOf_le (buf : List U8) : infoLenOf buf ≤ 82 := rmacInfoLen_le _ _

@[simp] theorem hdrLen_infoOf (buf : List U8) (r : Int) (n : Nat) :
    (infoOf buf r n).hdrLen.toNat = infoLenOf buf := by
  have := infoLenOf_le buf
  simp only [infoOf, BitVec.toNat_ofNat]
  omega

theorem pktLen_infoOf (buf : List U8) (r : Int) {n : Nat} (h : n < 65536) :
    (infoOf buf r n).pktLen.toNat = n - infoLenOf buf := by
  simp only [infoOf, BitVec.toNat_ofNat]
  omega

@[simp] theorem isCrcError_infoOf (buf : List U8) (r : Int) (n : Nat) :
    (infoOf buf r n).isCrcError = fcsErrOf buf := rfl

/-! ## The parser -/

theorem readGrp3_eq {buf : List U8} (r : Int) (h : infoLenOf buf ≤ buf.length) :
    readGrp3 buf (grpVldOf buf) r = .ok (grp3Of buf r) := by
  unfold readGrp3 grp3Of
  split
  · rename_i hg
    have := grp3Off_le (byteAt buf 6 >>> 6 &&& 0x01) hg
    unfold infoLenOf at h
    dsimp only
    rw [get_eq (show grp3Off (grpVldOf buf) + 12 < buf.length by omega),
      get_eq (show grp3Off (grpVldOf buf) < buf.length by omega),
      get_eq (show grp3Off (grpVldOf buf) + 1 < buf.length by omega),
      get_eq (show grp3Off (grpVldOf buf) + 2 < buf.length by omega),
      get_eq (show grp3Off (grpVldOf buf) + 3 < buf.length by omega)]
    rfl
  · rfl

theorem classify_eq {buf : List U8} {off n : Nat} (mc uc : U8) (h : 2 ≤ n → off < buf.length) :
    classify buf off n mc uc = .ok (classOf buf off n mc uc) := by
  unfold classify classOf
  by_cases hn : 2 ≤ n
  · rw [if_pos hn, if_pos hn, get_eq (h hn)]
    simp only [ok_bind]
    split
    · rfl
    · split <;> rfl
  · rw [if_neg hn, if_neg hn]
    rfl

/-- **`parseRxFrame` on at least 16 bytes.** -/
theorem parseRxFrame_eq {buf : List U8} (r : Int) (h : 16 ≤ buf.length) :
    parseRxFrame buf r =
      if pktTypeOf buf ≠ 0x02 ∧ pktTypeOf buf ≠ 0x03 then .ok { pktLen := 0 }
      else if buf.length < infoLenOf buf then .error (.errno (-22))
      else .ok (infoOf buf r (totalLenOf buf)) := by
  unfold parseRxFrame
  rw [if_neg (by unfold RMAC_RXD_MIN_SIZE; omega), get_eq (show 0 < buf.length by omega),
    get_eq (show 1 < buf.length by omega), get_eq (show 3 < buf.length by omega)]
  simp only [ok_bind]
  rw [show byteAt buf 3 >>> 5 &&& 0x07 = pktTypeOf buf from rfl,
    show byteAt buf 3 >>> 1 &&& 0x0F = grpVldOf buf from rfl]
  split
  · rfl
  rw [get_eq (show 6 < buf.length by omega), get_eq (show 10 < buf.length by omega)]
  simp only [ok_bind]
  rw [show rmacInfoLen (grpVldOf buf) (byteAt buf 6 >>> 6 &&& 0x01) = infoLenOf buf from rfl]
  split
  · rfl
  rename_i hlen
  rw [readGrp3_eq r (by omega), get_eq (show 5 < buf.length by omega),
    get_eq (show 4 < buf.length by omega)]
  simp only [ok_bind]
  have htot := totalLenOf_le buf
  rw [classify_eq _ _ fun hm => ?_]
  · rfl
  · unfold totalLenOf byteCntOf at htot
    omega

/-- **Only the bytes below the byte count matter**: a subframe and the same subframe with anything
behind it give the same info. -/
theorem infoOf_congr {s t : List U8} (r : Int) {n : Nat} (h16 : 16 ≤ s.length)
    (hn : n ≤ s.length) (hl : infoLenOf s ≤ n) : infoOf (s ++ t) r n = infoOf s r n := by
  have hb : ∀ i < s.length, byteAt (s ++ t) i = byteAt s i := fun i hi => byteAt_append hi
  have hg : grpVldOf (s ++ t) = grpVldOf s := by unfold grpVldOf; rw [hb 3 (by omega)]
  have hi : infoLenOf (s ++ t) = infoLenOf s := by
    unfold infoLenOf; rw [hg, hb 6 (by omega)]
  have hg3 : grp3Of (s ++ t) r = grp3Of s r := by
    unfold grp3Of
    rw [hg]
    split
    · rename_i h
      have := grp3Off_le (byteAt s 6 >>> 6 &&& 0x01) h
      unfold infoLenOf at hl
      dsimp only
      rw [hb _ (show grp3Off (grpVldOf s) + 12 < s.length by omega),
        hb _ (show grp3Off (grpVldOf s) < s.length by omega),
        hb _ (show grp3Off (grpVldOf s) + 1 < s.length by omega),
        hb _ (show grp3Off (grpVldOf s) + 2 < s.length by omega),
        hb _ (show grp3Off (grpVldOf s) + 3 < s.length by omega)]
    · rfl
  have hc : ∀ mc uc, classOf (s ++ t) (infoLenOf s) (n - infoLenOf s) mc uc =
      classOf s (infoLenOf s) (n - infoLenOf s) mc uc := by
    intro mc uc
    unfold classOf
    split
    · rw [hb _ (show infoLenOf s < s.length by omega)]
    · rfl
  have hf : fcsErrOf (s ++ t) = fcsErrOf s := by unfold fcsErrOf; rw [hb 10 (by omega)]
  unfold infoOf
  rw [hi, hb 4 (by omega), hb 5 (by omega), hg3, hf]
  simp only [hc]

end Rust
