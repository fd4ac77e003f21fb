import Mathlib.Data.List.Basic
import Mathlib.Tactic.IntervalCases

/-!
# Words and their bytes

Fixed-width words as `BitVec`s: the little-endian split into bytes and back (`le16`, `le32`,
`toLe16`, `toLe32`, inverse to each other), a byte's position in an assembled word, and signed
8-bit saturation.
-/

namespace Word

abbrev U8 := BitVec 8
abbrev U16 := BitVec 16
abbrev U32 := BitVec 32

/-- `u16::from_le_bytes`. -/
def le16 (b0 b1 : U8) : U16 := b1 ++ b0

/-- `u32::from_le_bytes`. -/
def le32 (b0 b1 b2 b3 : U8) : U32 := b3 ++ b2 ++ b1 ++ b0

/-- `u16::to_le_bytes`. -/
def toLe16 (w : U16) : List U8 := [w.extractLsb' 0 8, w.extractLsb' 8 8]

/-- `u32::to_le_bytes`. -/
def toLe32 (w : U32) : List U8 :=
  [w.extractLsb' 0 8, w.extractLsb' 8 8, w.extractLsb' 16 8, w.extractLsb' 24 8]

@[simp] theorem length_toLe16 (w : U16) : (toLe16 w).length = 2 := rfl

@[simp] theorem length_toLe32 (w : U32) : (toLe32 w).length = 4 := rfl

theorem le16_toLe16 (w : U16) : le16 (w.extractLsb' 0 8) (w.extractLsb' 8 8) = w := by
  apply BitVec.eq_of_getLsbD_eq
  intro i hi
  simp only [le16, BitVec.getLsbD_append, BitVec.getLsbD_extractLsb']
  interval_cases i <;> simp

theorem le32_toLe32 (w : U32) :
    le32 (w.extractLsb' 0 8) (w.extractLsb' 8 8) (w.extractLsb' 16 8) (w.extractLsb' 24 8) = w := by
  apply BitVec.eq_of_getLsbD_eq
  intro i hi
  simp only [le32, BitVec.getLsbD_append, BitVec.getLsbD_extractLsb']
  interval_cases i <;> simp

/-- Four bytes joined by shift and or are the little-endian word. -/
theorem or_shift_eq_le32 (b0 b1 b2 b3 : U8) :
    b0.setWidth 32 ||| b1.setWidth 32 <<< 8 ||| b2.setWidth 32 <<< 16 ||| b3.setWidth 32 <<< 24 =
      le32 b0 b1 b2 b3 := by
  apply BitVec.eq_of_getLsbD_eq
  intro i hi
  simp only [le32, BitVec.getLsbD_append, BitVec.getLsbD_or, BitVec.getLsbD_shiftLeft,
    BitVec.getLsbD_setWidth]
  interval_cases i <;> simp

/-- The bytes of an assembled word. -/
theorem toLe32_le32 (b0 b1 b2 b3 : U8) : toLe32 (le32 b0 b1 b2 b3) = [b0, b1, b2, b3] := by
  simp only [toLe32, List.cons.injEq, and_true]
  refine ⟨?_, ?_, ?_, ?_⟩ <;>
  · apply BitVec.eq_of_getLsbD_eq
    intro i hi
    simp only [le32, BitVec.getLsbD_append, BitVec.getLsbD_extractLsb']
    interval_cases i <;> simp

theorem toLe32_inj {v w : U32} : toLe32 v = toLe32 w ↔ v = w := by
  refine ⟨fun h => ?_, fun h => by rw [h]⟩
  simp only [toLe32, List.cons.injEq, and_true] at h
  rw [← le32_toLe32 v, ← le32_toLe32 w, h.1, h.2.1, h.2.2.1, h.2.2.2]

theorem toLe32_append_inj {v w : U32} {l l' : List U8} :
    toLe32 v ++ l = toLe32 w ++ l' ↔ v = w ∧ l = l' := by
  constructor
  · intro h
    obtain ⟨h1, h2⟩ := List.append_inj h rfl
    exact ⟨toLe32_inj.1 h1, h2⟩
  · rintro ⟨rfl, rfl⟩
    rfl

/-- The word with one bit set. -/
def bit (n : Nat) : U32 := 1#32 <<< n

theorem bit_getLsbD (n i : Nat) : (bit n).getLsbD i = (decide (i < 32) && decide (i = n)) := by
  simp only [bit, BitVec.getLsbD_shiftLeft, BitVec.getLsbD_one]
  by_cases h : i = n
  · simp [h]
  · have hn : n ≤ i → i - n ≠ 0 := by omega
    by_cases h' : n ≤ i
    · simp [h, hn h']
    · simp [h, h']

/-- A mask of `k` ones from bit `s` on. -/
theorem ones_getLsbD (k s i : Nat) :
    (BitVec.ofNat 32 (2 ^ k - 1) <<< s).getLsbD i =
      (decide (i < 32) && decide (s ≤ i ∧ i < s + k)) := by
  rw [BitVec.getLsbD_shiftLeft, BitVec.getLsbD_ofNat, Nat.testBit_two_pow_sub_one]
  rcases Nat.lt_or_ge i s with h | h
  · simp [h]
  · have h1 : i - s < k ↔ i < s + k := by omega
    have h2 : i < 32 → i - s < 32 := by omega
    simp only [h, h1, Bool.decide_and, decide_true, Nat.not_lt.2 h, decide_false, Bool.not_false,
      Bool.and_true, Bool.true_and]
    by_cases hi : i < 32 <;> simp [hi, h2]

/-- `i8` saturation. -/
def satI8 (x : Int) : Int := max (-128) (min 127 x)

end Word
