import Mt7603u.Base.Refine
import Mt7603u.Driver.RegOps

/-!
# Register accesses as control transfers (`src/c/regops.c`)

One level below `RegOps`: an access allocates a buffer, issues a vendor request whose setup packet
carries the two halves of the address, moves a little-endian word through the buffer and frees it.
`lower` carries out the register requests of a driver function this way; the four access functions
of the source are what it makes of those in `RegOps` (`usbReadRegMsg_eq` and the others, in
`Proof.ControlMsg`).

`msgEnv` is a device with registers behind the host controller, and the kernel's allocator. A
request may fail, before or after it took effect, and a read may be short: then the buffer keeps
what was in it. `broken` records the use of a buffer that is not allocated or too small.
-/

namespace Driver

open Effect Slice Word Rust

/-! ## Requests -/

/-- What `usb_control_msg` sends first. -/
structure Setup where
  requestType : U8
  request : U8
  value : U16
  index : U16
  length : Nat
  deriving DecidableEq, Repr

def USB_DIR_OUT : U8 := 0x00
def USB_DIR_IN : U8 := 0x80
def USB_TYPE_VENDOR : U8 := 0x40
def USB_RECIP_DEVICE : U8 := 0x00
def MT_VEND_REQ_READ : U8 := 0x63
def MT_VEND_REQ_WRITE : U8 := 0x66

inductive MsgReq
  | kmalloc (size : Nat)
  | kfree (buf : Nat)
  /-- `*buf`. -/
  | load (buf : Nat)
  /-- `*buf = ...`. -/
  | store (buf : Nat) (data : List U8)
  /-- `usb_control_msg`: the length or an error. -/
  | control (setup : Setup) (buf : Nat)
  | other (e : Req)

def MsgReq.Resp : MsgReq → Type
  | .kmalloc _ => Option Nat
  | .kfree _ => Unit
  | .load _ => List U8
  | .store _ _ => Unit
  | .control _ _ => Int
  | .other e => e.Resp

abbrev msgSig : Sig := ⟨MsgReq, MsgReq.Resp⟩

abbrev MP := Prog msgSig

def kmalloc (size : Nat) : MP (Option Nat) := Prog.request (S := msgSig) (.kmalloc size)
def kfree (buf : Nat) : MP Unit := Prog.request (S := msgSig) (.kfree buf)
def loadBuf (buf : Nat) : MP (List U8) := Prog.request (S := msgSig) (.load buf)
def storeBuf (buf : Nat) (data : List U8) : MP Unit := Prog.request (S := msgSig) (.store buf data)
def usbControlMsg (setup : Setup) (buf : Nat) : MP Int :=
  Prog.request (S := msgSig) (.control setup buf)

/-! ## Access functions -/

/-- `wValue = addr[31:16]`, `wIndex = addr[15:0]`. -/
def vendorSetup (dir request : U8) (addr : U32) : Setup where
  requestType := dir ||| USB_TYPE_VENDOR ||| USB_RECIP_DEVICE
  request := request
  value := (addr >>> 16).setWidth 16
  index := (addr &&& 0xffff).setWidth 16
  length := 4

def vendorRead (addr : U32) : Setup := vendorSetup USB_DIR_IN MT_VEND_REQ_READ addr
def vendorWrite (addr : U32) : Setup := vendorSetup USB_DIR_OUT MT_VEND_REQ_WRITE addr

/-- `le32_to_cpu`, of a buffer of four bytes. -/
def le32OfBytes : List U8 → U32
  | b0 :: b1 :: b2 :: b3 :: _ => le32 b0 b1 b2 b3
  | _ => 0

/-- A vendor read: the return code and `val` afterwards. -/
def vendorReadMsg (addr val : U32) : MP (Int × U32) := do
  match ← kmalloc 4 with
  | none => return (-ENOMEM, val)
  | some buf => do
    let ret ← usbControlMsg (vendorRead addr) buf
    if 0 ≤ ret then do
      let bytes ← loadBuf buf
      kfree buf
      return (0, le32OfBytes bytes)
    else do
      kfree buf
      return (ret, val)

/-- A vendor write. -/
def vendorWriteMsg (addr val : U32) : MP Int := do
  match ← kmalloc 4 with
  | none => return -ENOMEM
  | some buf => do
    storeBuf buf (toLe32 val)
    let ret ← usbControlMsg (vendorWrite addr) buf
    kfree buf
    return if ret < 0 then ret else 0

/-- `mt7603_usb_read_reg`. -/
def usbReadRegMsg (addr val : U32) : MP (Int × U32) := vendorReadMsg (physicalAddrMap addr) val

/-- `mt7603_usb_write_reg`. -/
def usbWriteRegMsg (addr val : U32) : MP Int := vendorWriteMsg (physicalAddrMap addr) val

/-- `mt7603_usb_cfg_read`: the address is not mapped. -/
def usbCfgReadMsg (addr val : U32) : MP (Int × U32) := vendorReadMsg addr val

/-- `mt7603_usb_cfg_write`. -/
def usbCfgWriteMsg (addr val : U32) : MP Int := vendorWriteMsg addr val

/-- `mt7603_execute_reg_ops`. -/
def executeRegOpsMsg : List RegWriteOp → MP Int
  | [] => return 0
  | op :: ops => do
    let ret ← usbWriteRegMsg op.addr op.val
    if ret < 0 then return ret else executeRegOpsMsg ops

/-- One read, with the length or error that `usb_control_msg` returns. -/
def readMsg (addr : U32) : MP (Int × U32) := do
  match ← kmalloc 4 with
  | none => return (-ENOMEM, 0)
  | some buf => do
    let ret ← usbControlMsg (vendorRead addr) buf
    if 0 ≤ ret then do
      let bytes ← loadBuf buf
      kfree buf
      return (ret, le32OfBytes bytes)
    else do
      kfree buf
      return (ret, 0)

/-- One write. -/
def writeMsg (addr val : U32) : MP Int := do
  match ← kmalloc 4 with
  | none => return -ENOMEM
  | some buf => do
    storeBuf buf (toLe32 val)
    let ret ← usbControlMsg (vendorWrite addr) buf
    kfree buf
    return ret

/-- How the requests of `RegOps` are carried out. -/
def lower : (e : Req) → MP e.Resp
  | .readReg addr => readMsg addr
  | .writeReg addr val => writeMsg addr val
  | e => Prog.request (S := msgSig) (.other e)

/-! ## The device and the allocator -/

/-- The address a device reads from a setup packet. -/
def Setup.addr (setup : Setup) : U32 := setup.value ++ setup.index

/-- What a device with the registers `regs` may do with a request: the host's buffer before and
after, the result, and the registers afterwards. -/
inductive Serves (regs : RegFile) : Setup → List U8 → Int → List U8 → RegFile → Prop
  /-- A read of up to four bytes. -/
  | read {setup : Setup} {buf : List U8} {n : Nat} (hr : setup.request = MT_VEND_REQ_READ)
      (ht : setup.requestType = USB_DIR_IN ||| USB_TYPE_VENDOR) (hn : n ≤ min setup.length 4) :
      Serves regs setup buf n ((toLe32 (regs setup.addr)).take n ++ buf.drop n) regs
  | write {setup : Setup} {v : U32} {rest : List U8} (hr : setup.request = MT_VEND_REQ_WRITE)
      (ht : setup.requestType = USB_DIR_OUT ||| USB_TYPE_VENDOR) (hl : setup.length = 4) :
      Serves regs setup (toLe32 v ++ rest) 4 (toLe32 v ++ rest)
        fun a => if a = setup.addr then v else regs a
  /-- An error; an interrupted read may have changed the buffer. -/
  | fail {setup : Setup} {buf buf' : List U8} {ret : Int} (hr : ret < 0)
      (hl : buf'.length = buf.length) : Serves regs setup buf ret buf' regs
  /-- An error, though the write was done. -/
  | late {setup : Setup} {v : U32} {rest : List U8} {ret : Int} (hn : ret < 0)
      (hr : setup.request = MT_VEND_REQ_WRITE)
      (ht : setup.requestType = USB_DIR_OUT ||| USB_TYPE_VENDOR) (hl : setup.length = 4) :
      Serves regs setup (toLe32 v ++ rest) ret (toLe32 v ++ rest)
        fun a => if a = setup.addr then v else regs a

structure MsgState where
  regs : RegFile
  /-- The buffers that are allocated. -/
  heap : Nat → Option (List U8)
  broken : Bool

def MsgState.setBuf (w : MsgState) (buf : Nat) (data : Option (List U8)) : MsgState :=
  { w with heap := Function.update w.heap buf data }

/-- If `healthy`, no allocation and no transfer fails, and no read is short. -/
def msgEnv (healthy : Prop) : Env msgSig MsgState
  | w, .kmalloc size, r, w' =>
    match (r : Option Nat) with
    | none => ¬healthy ∧ w' = w
    | some buf => w.heap buf = none ∧ ∃ old : List U8, old.length = size ∧ w' = w.setBuf buf old
  | w, .kfree buf, _, w' =>
    w' = { w.setBuf buf none with broken := w.broken || (w.heap buf).isNone }
  | w, .load buf, r, w' =>
    match w.heap buf with
    | none => w' = { w with broken := true }
    | some data => r = data ∧ w' = w
  | w, .store buf data, _, w' =>
    match w.heap buf with
    | none => w' = { w with broken := true }
    | some old =>
      if old.length < data.length then w' = { w with broken := true }
      else w' = w.setBuf buf (data ++ old.drop data.length)
  | w, .control setup buf, r, w' =>
    match w.heap buf with
    | none => w' = { w with broken := true }
    | some data =>
      if data.length < setup.length then w' = { w with broken := true }
      else ∃ data' regs', Serves w.regs setup data r data' regs' ∧
        (healthy → r = (setup.length : Int)) ∧ w' = { w.setBuf buf data' with regs := regs' }
  | w, .other _, _, w' => w' = w

/-! ## The accesses as one request -/

/-- Registers whose accesses may fail: a failed read changes nothing, a failed write has been done
or not, and a read that returns all four bytes gives what the register holds. -/
def accessEnv (healthy : Prop) : Env sig RegFile
  | s, .readReg a, r, s' =>
    (r.1 = (4 : Int) → r.2 = s a) ∧ (healthy → r.1 = (4 : Int)) ∧ s' = s
  | s, .writeReg a v, r, s' =>
    (s' = (fun b => if b = a then v else s b) ∨ (¬(0 : Int) ≤ r ∧ s' = s)) ∧
      (healthy → (0 : Int) ≤ r)
  | s, _, _, s' => s' = s

end Driver
