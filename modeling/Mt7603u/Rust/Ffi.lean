import Mt7603u.Base.Slice
import Mt7603u.Base.Word

/-!
# The boundary between the C driver and the Rust library (`src/rust/src/ffi.rs`, `lib.rs`)

A builder is an `Out β Nat`: it writes into the caller's buffer and returns how much. `rustCall`
is what a C caller gets from it: a buffer of `n` elements is passed and the first `written` of
them are used afterwards. The buffer is uninitialised memory in C; `rustCall_any` says that for a
builder that leaks nothing its contents do not matter.
-/

namespace Rust

open Slice Word

/-- `ffi::RegWriteOp`. -/
structure RegWriteOp where
  addr : U32
  val : U32
  deriving DecidableEq, Repr, Inhabited

/-- A 6-byte hardware address. -/
structure MacAddr where
  b0 : U8
  b1 : U8
  b2 : U8
  b3 : U8
  b4 : U8
  b5 : U8
  deriving DecidableEq, Repr

namespace MacAddr

def toList (m : MacAddr) : List U8 := [m.b0, m.b1, m.b2, m.b3, m.b4, m.b5]

/-- `is_zero_ether_addr`. -/
def isZero (m : MacAddr) : Bool := m = ⟨0, 0, 0, 0, 0, 0⟩

end MacAddr

/-- `ffi::TxParams`. -/
structure TxParams where
  rateIdx : U8 := 0
  pid : U8 := 0
  queue : U8 := 0
  hdrLen : U8 := 0
  frmType : U8 := 0
  subType : U8 := 0
  noAck : U8 := 0
  isBm : U8 := 0
  rateMode : U8 := 0
  rateMcs : U8 := 0
  preamble : U8 := 0
  bw : U8 := 0
  pktLen : U16 := 0
  protectFrm : U8 := 0
  deriving DecidableEq, Repr

def EINVAL : Int := 22
def ENOSPC : Int := 28

section
variable {β : Type}

/-- A builder called on the buffer `buf`: what it wrote, or its error. -/
def callOn (B : Out β Nat) (buf : List β) : Rs (List β) :=
  match B buf with
  | (.ok written, out) => .ok (out.take written)
  | (.error e, _) => .error e

/-- A builder called from C on a local buffer of `n` elements. It is irreducible: proofs go through
what a builder is known to write and never run it. -/
@[irreducible] def rustCall [Inhabited β] (B : Out β Nat) (n : Nat) : Rs (List β) :=
  callOn B (List.replicate n default)

/-- What the buffer held before the call does not matter. -/
theorem rustCall_any [Inhabited β] {B : Out β Nat} {n : Nat} {buf : List β} (h : B.NoLeak)
    (hb : buf.length = n) : callOn B buf = rustCall B n := by
  obtain ⟨h1, -, h2⟩ := h buf (List.replicate n default) (by simp [hb])
  unfold rustCall callOn
  cases hB : B buf with
  | mk r out =>
    cases hB' : B (List.replicate n default) with
    | mk r' out' =>
      rw [hB, hB'] at h1 h2
      obtain rfl : r = r' := h1
      cases r with
      | error e => rfl
      | ok k => exact congrArg Except.ok (h2 k rfl).2.2.2.1

/-- A builder that fills its buffer hands over exactly its image. -/
theorem callOn_of_fills {B : Out β Nat} {img buf : List β} (h : B.Fills img)
    (hb : img.length ≤ buf.length) : callOn B buf = .ok img := by
  unfold callOn
  rw [h buf hb]
  exact congrArg Except.ok List.take_left

/-- A sized builder refuses a buffer that is too short. -/
theorem callOn_sized_short {n : Nat} {code : Int} {x : Out β Unit} {buf : List β}
    (h : buf.length < n) : callOn (.sized n code x) buf = .error (.errno code) := by
  have hshort : Out.sized n code x buf = (.error (.errno code), buf) := by
    unfold Out.sized
    rw [Out.len_bind, if_pos h]
    rfl
  rw [callOn, hshort]

theorem callOn_sized_ok {n : Nat} {code : Int} {x : Out β Unit} {img buf out : List β}
    (hf : (Out.sized n code x).Fills img) (hn : img.length = n)
    (h : callOn (.sized n code x) buf = .ok out) : out = img := by
  by_cases hb : n ≤ buf.length
  · rw [callOn_of_fills hf (by omega)] at h
    exact (Except.ok.inj h).symm
  · rw [callOn_sized_short (by omega)] at h
    cases h

theorem rustCall_of_fills [Inhabited β] {B : Out β Nat} {img : List β} {n : Nat}
    (h : B.Fills img) (hn : img.length ≤ n) : rustCall B n = .ok img := by
  unfold rustCall
  exact callOn_of_fills h (by rwa [List.length_replicate])

theorem rustCall_fail [Inhabited β] {e : Fail} {n : Nat} :
    rustCall (.fail e : Out β Nat) n = .error e := by
  unfold rustCall
  rfl

end

end Rust
