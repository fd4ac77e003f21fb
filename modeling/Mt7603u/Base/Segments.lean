import Mathlib.Data.List.Pairwise
import Mathlib.Data.List.Perm.Basic

/-!
# Address translation by segments

A table of segments moves each of its address ranges to another place (`translate`). If the ranges
do not overlap, the segment that holds an address decides (`translate_of_holds`), whatever the order
of the table (`translate_perm`). If moreover the images overlap neither each other nor the ranges
(`Sound`), no two addresses of the table are moved to one place (`translate_inj`) and a translated
address is not moved again (`translate_idem`).
-/

/-- The addresses from `start` on, `len` of them, are moved to `base`. -/
structure Segment where
  base : Nat
  start : Nat
  len : Nat
  deriving DecidableEq, Repr

namespace Segment

/-- The address is in the range of the segment. -/
def Holds (s : Segment) (a : Nat) : Prop := s.start ≤ a ∧ a < s.start + s.len

instance (s : Segment) (a : Nat) : Decidable (s.Holds a) := inferInstanceAs (Decidable (_ ∧ _))

/-- Where the segment moves an address. -/
def image (s : Segment) (a : Nat) : Nat := s.base + (a - s.start)

/-- Two stretches of addresses do not overlap. -/
def Apart (a n b m : Nat) : Prop := a + n ≤ b ∨ b + m ≤ a

instance (a n b m : Nat) : Decidable (Apart a n b m) := inferInstanceAs (Decidable (_ ∨ _))

/-- The ranges do not overlap. -/
def RangesApart (s t : Segment) : Prop := Apart s.start s.len t.start t.len

instance (s t : Segment) : Decidable (RangesApart s t) := inferInstanceAs (Decidable (Apart ..))

/-- The images do not overlap. -/
def ImagesApart (s t : Segment) : Prop := Apart s.base s.len t.base t.len

instance (s t : Segment) : Decidable (ImagesApart s t) := inferInstanceAs (Decidable (Apart ..))

/-- Where the table moves an address: by the first segment that holds it. -/
def translate (segs : List Segment) (a : Nat) : Nat :=
  match segs.find? fun s => decide (s.Holds a) with
  | some s => s.image a
  | none => a

/-- A table without overlaps. -/
structure Sound (segs : List Segment) : Prop where
  ranges : segs.Pairwise RangesApart
  images : segs.Pairwise ImagesApart
  fixed : ∀ s ∈ segs, ∀ t ∈ segs, Apart s.base s.len t.start t.len

section
variable {segs : List Segment} {s t : Segment} {a b : Nat}

instance : Std.Symm RangesApart := ⟨fun _ _ => Or.symm⟩

instance : Std.Symm ImagesApart := ⟨fun _ _ => Or.symm⟩

theorem holds_of_find (h : segs.find? (fun s => decide (s.Holds a)) = some s) :
    s ∈ segs ∧ s.Holds a := by
  have ha := List.find?_some h
  exact ⟨List.mem_of_find?_eq_some h, of_decide_eq_true ha⟩

/-- Only one segment holds an address. -/
theorem eq_of_holds (h : segs.Pairwise RangesApart) (hs : s ∈ segs) (ht : t ∈ segs)
    (ha : s.Holds a) (ha' : t.Holds a) : s = t := by
  by_contra hne
  have hd := h.forall hs ht hne
  unfold RangesApart Apart at hd
  unfold Holds at ha ha'
  omega

theorem translate_of_holds (h : segs.Pairwise RangesApart) (hs : s ∈ segs) (ha : s.Holds a) :
    translate segs a = s.image a := by
  unfold translate
  cases hf : segs.find? fun s => decide (s.Holds a) with
  | none =>
    have hn := List.find?_eq_none.1 hf s hs
    exact absurd (decide_eq_true ha) hn
  | some t =>
    obtain ⟨hm, ht⟩ := holds_of_find hf
    rw [eq_of_holds h hs hm ha ht]

theorem find_none (h : ∀ s ∈ segs, ¬s.Holds a) :
    segs.find? (fun s => decide (s.Holds a)) = none :=
  List.find?_eq_none.2 fun s hs => by simpa using h s hs

theorem translate_of_none (h : ∀ s ∈ segs, ¬s.Holds a) : translate segs a = a := by
  rw [translate, find_none h]

theorem translate_cons : translate (s :: segs) a =
    if s.Holds a then s.image a else translate segs a := by
  unfold translate
  rw [List.find?_cons]
  by_cases h : s.Holds a
  · rw [decide_eq_true h, if_pos h]
  · rw [decide_eq_false h, if_neg h]

/-- The part of a table that holds the address decides. -/
theorem translate_append_right {segs' : List Segment} (h : ∀ s ∈ segs, ¬s.Holds a) :
    translate (segs ++ segs') a = translate segs' a := by
  rw [translate, translate, List.find?_append, find_none h, Option.none_or]

theorem translate_append_left {segs' : List Segment} (h : ∀ s ∈ segs', ¬s.Holds a) :
    translate (segs ++ segs') a = translate segs a := by
  rw [translate, translate, List.find?_append, find_none h, Option.or_none]

/-- An address is in the table or left alone. -/
theorem translate_cases (segs : List Segment) (a : Nat) :
    (∃ s ∈ segs, s.Holds a ∧ translate segs a = s.image a) ∨ translate segs a = a := by
  unfold translate
  cases hf : segs.find? fun s => decide (s.Holds a) with
  | none => exact .inr rfl
  | some s =>
    obtain ⟨hm, hs⟩ := holds_of_find hf
    exact .inl ⟨s, hm, hs, rfl⟩

/-- **The order of the table does not matter.** -/
theorem translate_perm {segs' : List Segment} (h : segs.Pairwise RangesApart)
    (hp : segs'.Perm segs) (a : Nat) : translate segs' a = translate segs a := by
  have h' : segs'.Pairwise RangesApart := (hp.pairwise_iff fun {_ _} => Or.symm).2 h
  by_cases hs : ∃ s ∈ segs, s.Holds a
  · obtain ⟨s, hs, ha⟩ := hs
    rw [translate_of_holds h hs ha, translate_of_holds h' (hp.mem_iff.2 hs) ha]
  · have hn : ∀ s ∈ segs, ¬s.Holds a := fun s hm ha => hs ⟨s, hm, ha⟩
    rw [translate_of_none hn, translate_of_none fun s hm => hn s (hp.mem_iff.1 hm)]

/-- Addresses of one segment keep their distance. -/
theorem translate_dist (h : segs.Pairwise RangesApart) (hs : s ∈ segs) (ha : s.Holds a)
    (hb : s.Holds b) : (translate segs a : Int) - translate segs b = (a : Int) - b := by
  rw [translate_of_holds h hs ha, translate_of_holds h hs hb]
  unfold image
  unfold Holds at ha hb
  omega

/-- **No two addresses of the table meet.** -/
theorem translate_inj (h : Sound segs) (hs : s ∈ segs) (ht : t ∈ segs) (ha : s.Holds a)
    (hb : t.Holds b) (he : translate segs a = translate segs b) : a = b := by
  rw [translate_of_holds h.ranges hs ha, translate_of_holds h.ranges ht hb] at he
  unfold Holds at ha hb
  unfold image at he
  by_cases hst : s = t
  · subst hst
    omega
  · have hd := h.images.forall hs ht hst
    unfold ImagesApart Apart at hd
    omega

/-- **Translating twice is translating once.** -/
theorem translate_idem (h : Sound segs) (a : Nat) :
    translate segs (translate segs a) = translate segs a := by
  rcases translate_cases segs a with ⟨s, hs, ha, he⟩ | he
  · rw [he]
    refine translate_of_none fun t ht hi => ?_
    have hd := h.fixed s hs t ht
    unfold Apart at hd
    unfold Holds image at *
    omega
  · rw [he, he]

end

end Segment
