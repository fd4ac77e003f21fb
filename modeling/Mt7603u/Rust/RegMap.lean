import Mt7603u.Base.Slice
import Mt7603u.Base.Word

/-!
# Register address mapping (`src/rust/src/regmap.rs`)

The driver names registers by their address in the host interface; the USB vendor request needs
the global physical address. `physicalAddrMapChecked` is the same function built with overflow
checks, for any order of the range table.
-/

namespace Rust

open Slice Word

/-- MAC register ranges: global base, start of the segment, its length. -/
def MAC_CR_RANGES : List (U32 × U32 × U32) :=
  [(0x60000000, 0x20000, 0x200),
   (0x60100000, 0x21000, 0x200),
   (0x60110000, 0x21200, 0x200),
   (0x60120000, 0x21400, 0x200),
   (0x60130000, 0x21600, 0x200),
   (0x60140000, 0x21800, 0x200),
   (0x60150000, 0x21a00, 0x200),
   (0x60160000, 0x21c00, 0x200),
   (0x60170000, 0x21e00, 0x200),
   (0x60180000, 0x22000, 0x1000),
   (0x60190000, 0x23000, 0x200),
   (0x601a0000, 0x23200, 0x200),
   (0x60300000, 0x24000, 0x400),
   (0x60310000, 0x24400, 0x200),
   (0x60320000, 0x28000, 0x4000),
   (0x60330000, 0x2c000, 0x200),
   (0x60400000, 0x2d000, 0x200)]

/-- `mac_cr_range_map`: the first range that holds the address, else the address itself. -/
def macCrRangeMap (addr : U32) : U32 :=
  match MAC_CR_RANGES.find? fun r => decide (r.2.1 ≤ addr ∧ addr < r.2.1 + r.2.2) with
  | some (base, segStart, _) => base + (addr - segStart)
  | none => addr

/-- `physical_addr_map`. -/
def physicalAddrMap (a : U32) : U32 :=
  if a < 0x2000 then 0x80020000 + a
  else if a < 0x4000 then 0x80000000 + a - 0x2000
  else if a < 0x8000 then 0x50000000 + a - 0x4000
  else if a < 0x10000 then 0xa0000000 + a - 0x8000
  else if a < 0x20000 then 0x60200000 + a - 0x10000
  else if a < 0x40000 then macCrRangeMap a
  else if a < 0x80000 then 0xa5000000 + a - 0x40000
  else if 0xc0000 ≤ a ∧ a < 0xc0100 then 0x800c0000 + a - 0xc0000
  else a

/-! ## With overflow checks -/

/-- `a + b`, checked. -/
def addChecked (a b : U32) : Rs U32 :=
  if a.toNat + b.toNat < 2 ^ 32 then .ok (a + b) else .error .panic

/-- `a - b`, checked. -/
def subChecked (a b : U32) : Rs U32 := if b ≤ a then .ok (a - b) else .error .panic

/-- The loop of `mac_cr_range_map` over a table. -/
def macCrRangeMapChecked (addr : U32) : List (U32 × U32 × U32) → Rs U32
  | [] => return addr
  | (base, segStart, segLen) :: ranges =>
    if segStart ≤ addr then do
      let segEnd ← addChecked segStart segLen
      if addr < segEnd then do
        let off ← subChecked addr segStart
        addChecked base off
      else macCrRangeMapChecked addr ranges
    else macCrRangeMapChecked addr ranges

/-- `base + a - start`, checked. -/
def moveChecked (base a start : U32) : Rs U32 := do
  let sum ← addChecked base a
  subChecked sum start

/-- `physical_addr_map`, built with overflow checks. -/
def physicalAddrMapChecked (ranges : List (U32 × U32 × U32)) (a : U32) : Rs U32 :=
  if a < 0x2000 then addChecked 0x80020000 a
  else if a < 0x4000 then moveChecked 0x80000000 a 0x2000
  else if a < 0x8000 then moveChecked 0x50000000 a 0x4000
  else if a < 0x10000 then moveChecked 0xa0000000 a 0x8000
  else if a < 0x20000 then moveChecked 0x60200000 a 0x10000
  else if a < 0x40000 then macCrRangeMapChecked a ranges
  else if a < 0x80000 then moveChecked 0xa5000000 a 0x40000
  else if 0xc0000 ≤ a ∧ a < 0xc0100 then moveChecked 0x800c0000 a 0xc0000
  else return a

end Rust
