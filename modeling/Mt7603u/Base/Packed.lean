import Mt7603u.Base.Word

/-!
# Words packed from bit fields

`Decodes w fs`: read by the bit layout `fs`, the word `w` has the value of every field in it, and
every bit outside the fields is zero. A word packed by or-ing shifted values from the low end up
decodes to these values (`decodes_zero`, `Decodes.or`).
-/

namespace Packed

open Word

/-- A value in a range of bits. -/
structure BitField where
  pos : Nat
  width : Nat
  val : Nat
  deriving DecidableEq, Repr

/-- Bit `i` belongs to the field. -/
def BitField.Covers (f : BitField) (i : Nat) : Prop := f.pos ≤ i ∧ i < f.pos + f.width

instance (f : BitField) (i : Nat) : Decidable (f.Covers i) := inferInstanceAs (Decidable (_ ∧ _))

structure Decodes (w : U32) (fs : List BitField) : Prop where
  val : ∀ f ∈ fs, (w.extractLsb' f.pos f.width).toNat = f.val
  rest : ∀ i < 32, (∀ f ∈ fs, ¬f.Covers i) → w.getLsbD i = false

theorem decodes_zero : Decodes 0 [] := ⟨by simp, by simp⟩

theorem getLsbD_of_lt {w : U32} {n i : Nat} (h : w.toNat < 2 ^ n) (hi : n ≤ i) :
    w.getLsbD i = false := by
  rw [BitVec.getLsbD, Nat.testBit_lt_two_pow]
  exact Nat.lt_of_lt_of_le h (Nat.pow_le_pow_right (by decide) hi)

section
variable {w v : U32} {fs : List BitField} {pos width : Nat}

/-- Nothing is set above the fields. -/
theorem Decodes.above (h : Decodes w fs) (hfs : ∀ f ∈ fs, f.pos + f.width ≤ pos) {i : Nat}
    (hi : pos ≤ i) : w.getLsbD i = false := by
  rcases Nat.lt_or_ge i 32 with h32 | h32
  · refine h.rest i h32 fun f hf hc => ?_
    have := hfs f hf
    unfold BitField.Covers at hc
    omega
  · exact BitVec.getLsbD_of_ge w i h32

/-- **One more field**, above all others. -/
theorem Decodes.or (h : Decodes w fs) (v : U32) (pos width : Nat)
    (hfs : ∀ f ∈ fs, f.pos + f.width ≤ pos) (hv : v.toNat < 2 ^ width) (hp : pos + width ≤ 32) :
    Decodes (w ||| v <<< pos) (fs ++ [⟨pos, width, v.toNat⟩]) := by
  constructor
  · intro f hf
    rcases List.mem_append.1 hf with hf | hf
    · rw [← h.val f hf]
      congr 1
      apply BitVec.eq_of_getLsbD_eq
      intro i hi
      have := hfs f hf
      simp [show f.pos + i < pos by omega]
    · obtain rfl := List.mem_singleton.1 hf
      have hx : (w ||| v <<< pos).extractLsb' pos width = v.setWidth width := by
        apply BitVec.eq_of_getLsbD_eq
        intro i hi
        rw [BitVec.getLsbD_extractLsb', BitVec.getLsbD_or, h.above hfs (Nat.le_add_right pos i),
          Bool.false_or, BitVec.getLsbD_shiftLeft, BitVec.getLsbD_setWidth]
        simp [show pos + i < 32 by omega]
      rw [hx, BitVec.toNat_setWidth, Nat.mod_eq_of_lt hv]
  · intro i hi hc
    have hw := h.rest i hi fun f hf => hc f (List.mem_append_left _ hf)
    have hcov : ¬(pos ≤ i ∧ i < pos + width) := hc ⟨pos, width, v.toNat⟩ (by simp)
    rw [BitVec.getLsbD_or, hw, Bool.false_or, BitVec.getLsbD_shiftLeft]
    rcases Nat.lt_or_ge i pos with hlt | hge
    · simp [hlt]
    · rw [getLsbD_of_lt hv (by omega), Bool.and_false]

/-- The lowest field. -/
theorem decodes_first (v : U32) (pos width : Nat) (hv : v.toNat < 2 ^ width)
    (hp : pos + width ≤ 32) : Decodes (v <<< pos) [⟨pos, width, v.toNat⟩] := by
  have h := decodes_zero.or v pos width (by simp) hv hp
  simpa using h

theorem decodes_low (v : U32) (width : Nat) (hv : v.toNat < 2 ^ width) (hp : width ≤ 32) :
    Decodes v [⟨0, width, v.toNat⟩] := by
  simpa using decodes_first v 0 width hv (by omega)

/-- A field read by shift and mask. -/
theorem Decodes.shift_and (h : Decodes w fs) (pos width val : Nat) (hf : ⟨pos, width, val⟩ ∈ fs)
    (hw : width < 32) : ((w >>> pos) &&& BitVec.ofNat 32 (2 ^ width - 1)).toNat = val := by
  have hlt : 2 ^ width - 1 < 2 ^ 32 :=
    Nat.lt_of_le_of_lt (Nat.sub_le _ _) (Nat.pow_lt_pow_right (by decide) hw)
  have hv := h.val _ hf
  rw [BitVec.extractLsb'_toNat] at hv
  rw [BitVec.toNat_and, BitVec.toNat_ushiftRight, BitVec.toNat_ofNat, Nat.mod_eq_of_lt hlt,
    Nat.and_two_pow_sub_one_eq_mod]
  exact hv

end

end Packed
