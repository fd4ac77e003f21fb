import Mt7603u.Base.Effect
import Mt7603u.Rust.Ffi
import Mt7603u.Rust.RegMap
import Mathlib.Data.List.Pairwise

/-!
# Register and command access (`src/c/regops.c`, `src/c/usb.c`)

What the driver asks of the host controller, the device and mac80211 is a `Req`; a driver function
is a program `P` over these requests. A register access or the submission of a response URB is one
request, the allocation of its buffer included: `-ENOMEM` is one of its answers. Log lines, sleeps
and frees have no effect and are left out.

`regEnv` is the environment in which register writes succeed and a register holds what was last
written to it; everything else is answered freely, reads too unless they are said to succeed.
`wp_usbWriteReg`, `wp_usbReadReg` and `wp_executeRegOps` execute accesses in it, and
`all_usbWriteReg` is their share of the frame rule.
-/

namespace Driver

open Effect Slice Word Rust

/-! ## Requests -/

inductive Req
  /-- Vendor request `0x63` at a physical address: the length or an error, and the word. -/
  | readReg (addr : U32)
  /-- Vendor request `0x66`: the length or an error. -/
  | writeReg (addr val : U32)
  /-- `usb_bulk_msg` on an OUT endpoint. -/
  | bulkOut (ep : U8) (buf : List U8)
  /-- A response URB allocated and submitted on an IN endpoint. -/
  | submitRsp (ep : U8)
  /-- Wait for a response; 0 or an error. -/
  | waitRsp
  /-- `kmalloc`. -/
  | alloc (size : Nat)
  /-- `cfg80211_get_bss`: the cached entry's channel, if there is an entry and it has one. -/
  | getBss (addr : MacAddr)
  /-- `schedule_delayed_work(&dev->beacon_work, 0)`. -/
  | scheduleBeacon
  /-- `cancel_delayed_work_sync(&dev->beacon_work)`. -/
  | cancelBeacon
  /-- `ieee80211_stop_tx_ba_cb_irqsafe`. -/
  | stopTxBaCb (addr : MacAddr) (tid : U16)

/-- The answer to a request. -/
def Req.Resp : Req → Type
  | .readReg _ => Int × U32
  | .writeReg _ _ => Int
  | .bulkOut _ _ => Int
  | .submitRsp _ => Int
  | .waitRsp => Int
  | .alloc _ => Bool
  | .getBss _ => Option (Option U8)
  | .scheduleBeacon => Unit
  | .cancelBeacon => Unit
  | .stopTxBaCb _ _ => Unit

abbrev sig : Sig := ⟨Req, Req.Resp⟩

/-- A driver function. -/
abbrev P := Prog sig

def ctrlRead (addr : U32) : P (Int × U32) := Prog.request (S := sig) (.readReg addr)
def ctrlWrite (addr val : U32) : P Int := Prog.request (S := sig) (.writeReg addr val)
def bulkOut (ep : U8) (buf : List U8) : P Int := Prog.request (S := sig) (.bulkOut ep buf)
def submitRsp (ep : U8) : P Int := Prog.request (S := sig) (.submitRsp ep)
def waitRsp : P Int := Prog.request (S := sig) .waitRsp
def alloc (size : Nat) : P Bool := Prog.request (S := sig) (.alloc size)
def getBss (addr : MacAddr) : P (Option (Option U8)) := Prog.request (S := sig) (.getBss addr)
def scheduleBeacon : P Unit := Prog.request (S := sig) .scheduleBeacon
def cancelBeacon : P Unit := Prog.request (S := sig) .cancelBeacon
def stopTxBaCb (addr : MacAddr) (tid : U16) : P Unit :=
  Prog.request (S := sig) (.stopTxBaCb addr tid)

/-! ## Access functions -/

/-- `mt7603_usb_read_reg(addr, &val)`: the return code and `val` afterwards. -/
def usbReadReg (addr val : U32) : P (Int × U32) := do
  let (ret, w) ← ctrlRead (physicalAddrMap addr)
  return if 0 ≤ ret then (0, w) else (ret, val)

/-- `mt7603_usb_write_reg`. -/
def usbWriteReg (addr val : U32) : P Int := do
  let ret ← ctrlWrite (physicalAddrMap addr) val
  return if ret < 0 then ret else 0

/-- `mt7603_usb_cfg_read`: the address is not mapped. -/
def usbCfgRead (addr val : U32) : P (Int × U32) := do
  let (ret, w) ← ctrlRead addr
  return if 0 ≤ ret then (0, w) else (ret, val)

/-- `mt7603_usb_cfg_write`. -/
def usbCfgWrite (addr val : U32) : P Int := do
  let ret ← ctrlWrite addr val
  return if ret < 0 then ret else 0

/-- `mt7603_execute_reg_ops`. -/
def executeRegOps : List RegWriteOp → P Int
  | [] => return 0
  | op :: ops => do
    let ret ← usbWriteReg op.addr op.val
    if ret < 0 then return ret else executeRegOps ops

def MT7603_CMD_BULK_OUT : U8 := 0x08
def MT7603_USB_END_PADDING : Nat := 4

def ENOMEM : Int := 12

/-- `mt7603_usb_send_cmd`: the frame with four zero bytes behind it, in a buffer of its own. -/
def usbSendCmd (frame : List U8) : P Int := do
  let ok ← alloc (frame.length + MT7603_USB_END_PADDING)
  if ok then do
    let ret ← bulkOut MT7603_CMD_BULK_OUT (frame ++ List.replicate MT7603_USB_END_PADDING 0)
    return if ret < 0 then ret else 0
  else return -ENOMEM

/-- Build a register sequence into `max` slots and, if that worked, execute it. -/
def executeBuilt (B : Out RegWriteOp Nat) (max : Nat) : P Unit :=
  match rustCall B max with
  | .ok ops => if ops ≠ [] then do let _ ← executeRegOps ops; return () else return ()
  | .error _ => return ()

/-- Build a command into `max` bytes and, if that worked, send it. -/
def sendBuilt (B : Out U8 Nat) (max : Nat) : P Unit :=
  match rustCall B max with
  | .ok frame => if frame ≠ [] then do let _ ← usbSendCmd frame; return () else return ()
  | .error _ => return ()

/-! ## Registers that keep what is written -/

/-- The device's registers, by physical address. -/
abbrev RegFile := U32 → U32

/-- A register of the file, named as the driver names it. -/
def RegFile.reg (s : RegFile) (addr : U32) : U32 := s (physicalAddrMap addr)

/-- The file after one write. -/
def RegFile.write (s : RegFile) (addr val : U32) : RegFile :=
  fun a => if a = physicalAddrMap addr then val else s a

/-- The file after a sequence of writes. -/
def RegFile.apply (s : RegFile) (ops : List RegWriteOp) : RegFile :=
  ops.foldl (fun s op => s.write op.addr op.val) s

/-- Register writes succeed and act on the file. If `reads` holds, reads succeed too and give what
the file holds; else they are answered freely, as all other requests are. -/
def regEnv (reads : Prop) : Env sig RegFile
  | s, .readReg a, r, s' => (reads → (0 : Int) ≤ r.1 ∧ r.2 = s a) ∧ s' = s
  | s, .writeReg a v, r, s' => (0 : Int) ≤ r ∧ s' = fun b => if b = a then v else s b
  | s, _, _, s' => s' = s

/-- The answers of a device without failures. -/
def regDevice (s : RegFile) : (e : Req) → e.Resp × RegFile
  | .readReg a => ((4, s a), s)
  | .writeReg a v => ((4 : Int), fun b => if b = a then v else s b)
  | .bulkOut _ buf => ((buf.length : Int), s)
  | .submitRsp _ => ((0 : Int), s)
  | .waitRsp => ((0 : Int), s)
  | .alloc _ => (true, s)
  | .getBss _ => (none, s)
  | .scheduleBeacon => ((), s)
  | .cancelBeacon => ((), s)
  | .stopTxBaCb _ _ => ((), s)

theorem regDevice_answers {reads : Prop} (s : RegFile) (e : Req) :
    regEnv reads s e (regDevice s e).1 (regDevice s e).2 := by
  cases e with
  | readReg a => exact ⟨fun _ => ⟨Int.zero_le_ofNat 4, rfl⟩, rfl⟩
  | writeReg a v => exact ⟨Int.zero_le_ofNat 4, rfl⟩
  | _ => rfl

/-- Every program has a run. -/
theorem regEnv_total (reads : Prop) {α : Type} (p : P α) (s : RegFile) :
    ∃ a s', Runs (regEnv reads) p s a s' :=
  ⟨_, _, runs_run regDevice_answers p s⟩

section
variable {reads : Prop} {s : RegFile}

theorem wp_ctrlRead {addr : U32} {Q : Int × U32 → RegFile → Prop} :
    wp (regEnv reads) (ctrlRead addr) s Q ↔ ∀ (r : Int × U32) s₁,
      ((reads → 0 ≤ r.1 ∧ r.2 = s addr) ∧ s₁ = s) → Q r s₁ :=
  wp_request (S := sig) (regEnv reads) (e := .readReg addr)

theorem wp_ctrlWrite {addr val : U32} {Q : Int → RegFile → Prop} :
    wp (regEnv reads) (ctrlWrite addr val) s Q ↔ ∀ (r : Int) s₁,
      (0 ≤ r ∧ s₁ = fun b => if b = addr then val else s b) → Q r s₁ :=
  wp_request (S := sig) (regEnv reads) (e := .writeReg addr val)

@[simp] theorem wp_usbReadReg {addr val : U32} {Q : Int × U32 → RegFile → Prop} :
    wp (regEnv True) (usbReadReg addr val) s Q ↔ Q (0, s.reg addr) s := by
  unfold usbReadReg
  rw [wp_bind, wp_ctrlRead]
  constructor
  · intro h
    simpa using h (4, s.reg addr) s ⟨fun _ => ⟨Int.zero_le_ofNat 4, rfl⟩, rfl⟩
  · rintro h ⟨ret, w⟩ s₁ ⟨hr, rfl⟩
    obtain ⟨hret, hw⟩ := hr trivial
    obtain rfl : w = s₁.reg addr := hw
    simpa [hret] using h

@[simp] theorem wp_usbWriteReg {addr val : U32} {Q : Int → RegFile → Prop} :
    wp (regEnv reads) (usbWriteReg addr val) s Q ↔ Q 0 (s.write addr val) := by
  unfold usbWriteReg
  rw [wp_bind, wp_ctrlWrite]
  constructor
  · intro h
    simpa using h 4 (s.write addr val) ⟨Int.zero_le_ofNat 4, rfl⟩
  · rintro h ret s₁ ⟨hret, rfl⟩
    simp only [Int.not_lt.2 hret, if_false, Prog.pure_eq, wp_ret]
    exact h

@[simp] theorem wp_scheduleBeacon {Q : Unit → RegFile → Prop} :
    wp (regEnv reads) scheduleBeacon s Q ↔ Q () s := by
  refine (wp_request (S := sig) (regEnv reads) (e := .scheduleBeacon)).trans ⟨fun h => ?_, ?_⟩
  · exact h () s rfl
  · rintro h r s₁ rfl
    exact h

@[simp] theorem wp_cancelBeacon {Q : Unit → RegFile → Prop} :
    wp (regEnv reads) cancelBeacon s Q ↔ Q () s := by
  refine (wp_request (S := sig) (regEnv reads) (e := .cancelBeacon)).trans ⟨fun h => ?_, ?_⟩
  · exact h () s rfl
  · rintro h r s₁ rfl
    exact h

@[simp] theorem wp_executeRegOps {ops : List RegWriteOp} {Q : Int → RegFile → Prop} :
    wp (regEnv reads) (executeRegOps ops) s Q ↔ Q 0 (s.apply ops) := by
  induction ops generalizing s with
  | nil => simp [executeRegOps, RegFile.apply]
  | cons op ops ih =>
    rw [executeRegOps, wp_bind, wp_usbWriteReg]
    simp only [lt_irrefl, if_false, ih]
    rfl

/-- A built sequence is applied to the file. -/
theorem wp_executeBuilt {B : Out RegWriteOp Nat} {ops : List RegWriteOp} {max : Nat}
    {Q : Unit → RegFile → Prop} (hB : B.Fills ops) (hm : ops.length ≤ max) :
    wp (regEnv reads) (executeBuilt B max) s Q ↔ Q () (s.apply ops) := by
  unfold executeBuilt
  rw [rustCall_of_fills hB hm]
  dsimp only
  split
  · simp [wp_bind]
  · rename_i h
    obtain rfl : ops = [] := by simpa using h
    simp [RegFile.apply]

end

/-! ## Register contents -/

section
variable {s : RegFile}

theorem reg_write {a b v : U32} :
    (s.write a v).reg b = if physicalAddrMap b = physicalAddrMap a then v else s.reg b := rfl

@[simp] theorem reg_write_same {a v : U32} : (s.write a v).reg a = v := by simp [reg_write]

theorem reg_write_other {a b v : U32} (h : physicalAddrMap b ≠ physicalAddrMap a) :
    (s.write a v).reg b = s.reg b := by
  rw [reg_write, if_neg h]

@[simp] theorem apply_nil : s.apply [] = s := rfl

@[simp] theorem apply_cons {op : RegWriteOp} {ops : List RegWriteOp} :
    s.apply (op :: ops) = (s.write op.addr op.val).apply ops := rfl

/-- The registers in `ops` hold the values in `ops`. -/
def Holds (ops : List RegWriteOp) (s : RegFile) : Prop := ∀ op ∈ ops, s.reg op.addr = op.val

/-- A write that meets the registers in `ops` only with the value they have there. -/
def Agrees (ops : List RegWriteOp) (a v : U32) : Prop :=
  ∀ op ∈ ops, physicalAddrMap op.addr = physicalAddrMap a → op.val = v

theorem holds_write {ops : List RegWriteOp} {a v : U32} (h : Agrees ops a v) (hs : Holds ops s) :
    Holds ops (s.write a v) := by
  intro op hop
  rw [reg_write]
  split
  · rename_i he
    exact (h op hop he).symm
  · exact hs op hop

theorem write_other {b v p : U32} (h : p ≠ physicalAddrMap b) : s.write b v p = s p := if_neg h

theorem apply_other {ops : List RegWriteOp} {p : U32}
    (h : ∀ op ∈ ops, p ≠ physicalAddrMap op.addr) : s.apply ops p = s p := by
  induction ops generalizing s with
  | nil => rfl
  | cons op ops ih =>
    rw [apply_cons, ih fun op hop => h op (List.mem_cons_of_mem _ hop)]
    exact write_other (h op (List.mem_cons_self ..))

theorem reg_apply_other {ops : List RegWriteOp} {b : U32}
    (h : ∀ op ∈ ops, physicalAddrMap b ≠ physicalAddrMap op.addr) :
    (s.apply ops).reg b = s.reg b := apply_other h

/-- No register is written twice. -/
def Distinct (ops : List RegWriteOp) : Prop :=
  ops.Pairwise fun a b => physicalAddrMap a.addr ≠ physicalAddrMap b.addr

theorem agrees_of_mem {ops : List RegWriteOp} {a v : U32} (hd : Distinct ops)
    (h : ⟨a, v⟩ ∈ ops) : Agrees ops a v := by
  intro op hop he
  by_cases hne : op = ⟨a, v⟩
  · rw [hne]
  · have hs : Std.Symm fun a b : RegWriteOp => physicalAddrMap a.addr ≠ physicalAddrMap b.addr :=
      ⟨fun _ _ h => h.symm⟩
    exact absurd he (List.Pairwise.forall hd hop h hne)

theorem holds_apply {ops : List RegWriteOp} (hd : Distinct ops) : Holds ops (s.apply ops) := by
  induction ops generalizing s with
  | nil => simp [Holds]
  | cons op ops ih =>
    obtain ⟨h0, hd'⟩ := List.pairwise_cons.1 hd
    intro op' hop'
    rcases List.mem_cons.1 hop' with rfl | hop'
    · rw [apply_cons, reg_apply_other h0, reg_write_same]
    · exact ih hd' op' hop'

end

/-! ## The frame rule for registers -/

section
variable {p : Req → Prop} {addr val : U32}

theorem all_usbReadReg (h : p (.readReg (physicalAddrMap addr))) :
    All (S := sig) p (usbReadReg addr val) := ⟨h, fun _ => trivial⟩

theorem all_usbWriteReg (h : p (.writeReg (physicalAddrMap addr) val)) :
    All (S := sig) p (usbWriteReg addr val) := ⟨h, fun _ => trivial⟩

theorem all_alloc {size : Nat} (h : p (.alloc size)) : All (S := sig) p (alloc size) :=
  ⟨h, fun _ => trivial⟩

theorem all_usbSendCmd {frame : List U8} (ha : ∀ size, p (.alloc size))
    (h : ∀ ep buf, p (.bulkOut ep buf)) : All (S := sig) p (usbSendCmd frame) := by
  refine all_bind (all_alloc (ha _)) fun ok => ?_
  cases ok with
  | true => exact ⟨h _ _, fun _ => trivial⟩
  | false => trivial

theorem all_executeRegOps {ops : List RegWriteOp}
    (h : ∀ op ∈ ops, p (.writeReg (physicalAddrMap op.addr) op.val)) :
    All (S := sig) p (executeRegOps ops) := by
  induction ops with
  | nil => trivial
  | cons op ops ih =>
    unfold executeRegOps
    refine all_bind (all_usbWriteReg (h op (by simp))) fun ret => ?_
    split
    · trivial
    · exact ih fun op hop => h op (List.mem_cons_of_mem _ hop)

theorem all_executeBuilt {B : Out RegWriteOp Nat} {max : Nat}
    (h : ∀ ops, rustCall B max = .ok ops →
      ∀ op ∈ ops, p (.writeReg (physicalAddrMap op.addr) op.val)) :
    All (S := sig) p (executeBuilt B max) := by
  unfold executeBuilt
  split
  · rename_i ops hB
    split
    · exact all_bind (all_executeRegOps (h ops hB)) fun _ => trivial
    · trivial
  · trivial

theorem all_sendBuilt {B : Out U8 Nat} {max : Nat} (ha : ∀ size, p (.alloc size))
    (h : ∀ ep buf, p (.bulkOut ep buf)) : All (S := sig) p (sendBuilt B max) := by
  unfold sendBuilt
  split
  · split
    · exact all_bind (all_usbSendCmd ha h) fun _ => trivial
    · trivial
  · trivial

end

end Driver
