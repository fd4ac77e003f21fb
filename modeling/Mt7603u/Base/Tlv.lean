import Mt7603u.Base.Word

/-!
# Element streams

Type-length-value elements with one byte for the type and one for the length. `encode` puts them in
a row; `split` cuts a row of bytes by reading each element's own length byte, and fails if anything
is left over. The two are inverse to each other (`split_eq_some_iff`), so a row of bytes is a stream
of elements in at most one way.
-/

namespace Tlv

open Word

/-- A complete element. -/
structure Elem where
  id : U8
  payload : List U8
  fits : payload.length < 256
  deriving DecidableEq, Repr

/-- The element as it is in a row. -/
def Elem.bytes (e : Elem) : List U8 := e.id :: BitVec.ofNat 8 e.payload.length :: e.payload

def encode (es : List Elem) : List U8 := es.flatMap Elem.bytes

/-- What is behind an element is shorter than what began with it. -/
theorem length_behind_lt (id len : U8) (rest : List U8) :
    (rest.drop len.toNat).length < (id :: len :: rest).length := by
  simp only [List.length_drop, List.length_cons]
  omega

/-- Cuts off one element after the other; nothing may be left over. -/
def split : List U8 → Option (List Elem)
  | [] => some []
  | [_] => none
  | id :: len :: rest =>
    if len.toNat ≤ rest.length then
      (split (rest.drop len.toNat)).map
        (⟨id, rest.take len.toNat,
          Nat.lt_of_le_of_lt (List.length_take_le _ _) len.isLt⟩ :: ·)
    else none
termination_by bs => bs.length
decreasing_by exact length_behind_lt id len rest

section
variable {e : Elem} {es es' : List Elem} {bs : List U8}

@[simp] theorem encode_nil : encode [] = [] := rfl

@[simp] theorem encode_cons : encode (e :: es) = e.bytes ++ encode es := rfl

theorem encode_append : encode (es ++ es') = encode es ++ encode es' := List.flatMap_append

/-- The length byte says the length. -/
theorem Elem.toNat_len (e : Elem) : (BitVec.ofNat 8 e.payload.length).toNat = e.payload.length := by
  rw [BitVec.toNat_ofNat, Nat.mod_eq_of_lt e.fits]

@[simp] theorem Elem.length_bytes (e : Elem) : e.bytes.length = 2 + e.payload.length := by
  simp only [Elem.bytes, List.length_cons]
  omega

/-- One element in front is cut off. -/
theorem split_bytes (e : Elem) (rest : List U8) :
    split (e.bytes ++ rest) = (split rest).map (e :: ·) := by
  rw [Elem.bytes, List.cons_append, List.cons_append, split]
  simp only [e.toNat_len, List.length_append, Nat.le_add_right, if_true, List.drop_left,
    List.take_left]

theorem split_encode (es : List Elem) : split (encode es) = some es := by
  induction es with
  | nil => rw [encode_nil, split]
  | cons e es ih => rw [encode_cons, split_bytes, ih, Option.map_some]

theorem encode_of_split (h : split bs = some es) : encode es = bs := by
  induction bs using split.induct generalizing es with
  | case1 =>
    rw [split, Option.some.injEq] at h
    rw [← h, encode_nil]
  | case2 b =>
    rw [split] at h
    cases h
  | case3 id len rest hlen ih =>
    rw [split, if_pos hlen] at h
    obtain ⟨es', hes', rfl⟩ := Option.map_eq_some_iff.1 h
    rw [encode_cons, ih hes', Elem.bytes]
    simp only [List.length_take, Nat.min_eq_left hlen, BitVec.ofNat_toNat, BitVec.setWidth_eq,
      List.cons_append, List.take_append_drop]
  | case4 id len rest hlen =>
    rw [split, if_neg hlen] at h
    cases h

/-- **Cutting inverts putting in a row**, in both directions. -/
theorem split_eq_some_iff : split bs = some es ↔ encode es = bs := by
  constructor
  · exact encode_of_split
  · rintro rfl
    exact split_encode es

end

end Tlv
