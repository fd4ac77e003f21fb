import Mt7603u.Base.Refine
import Mt7603u.Driver.Download

/-!
# Response URBs of the firmware download (`src/c/usb.c`)

The download once more, at the level of the URBs that wait for a response: `mt7603_rsp_submit`
allocates a buffer and an URB and submits it, `mt7603_rsp_wait` frees it, `mt7603_restart_dl_rsp`
has two of them and frees both on its way out. What does not concern these URBs is the download of
`Driver.Download`, issued through `UrbReq.io`.

A submitted URB is in flight until it completes or is killed. It completes when the device answers,
at any time and without a call of the driver (`Completes`); `mt7603_rsp_complete` may submit it
again, which leaves it in flight.
-/

namespace Driver

open Effect Slice Word Rust

def MT7603_CMD_RSP_BULK_SIZE : Nat := 512
def MT7603_DATA_RSP_BULK_SIZE : Nat := 24576

/-! ## Requests -/

/-- The response URBs of a download, by the request whose response they are for. -/
inductive RspUrb
  | restart84
  | restart85
  | addrLen
  | start
  deriving DecidableEq, Repr

/-- The endpoint it is submitted on. -/
def RspUrb.ep : RspUrb → U8
  | .restart85 => MT7603_CMD_RSP_BULK_IN
  | _ => MT7603_DATA_BULK_IN

inductive UrbReq
  /-- Any other request; `of` is the URB whose command is being sent. -/
  | io (of : Option RspUrb) (e : Req)
  /-- `kmalloc` of the response buffer. -/
  | kmalloc (u : RspUrb) (size : Nat)
  | allocUrb (u : RspUrb)
  /-- `usb_submit_urb`: 0 or an error. -/
  | submit (u : RspUrb)
  /-- `wait_for_completion_timeout(&s->done, ..)`: the URB's status, or nothing in time. -/
  | wait (u : RspUrb)
  /-- The same on the gate that both restart URBs open: whether it was opened in time. -/
  | waitGate
  | kill (u : RspUrb)
  | freeUrb (u : RspUrb)
  /-- `kfree` of the response buffer. -/
  | kfree (u : RspUrb)

def UrbReq.Resp : UrbReq → Type
  | .io _ e => e.Resp
  | .kmalloc _ _ => Bool
  | .allocUrb _ => Bool
  | .submit _ => Int
  | .wait _ => Option Int
  | .waitGate => Bool
  | .kill _ => Unit
  | .freeUrb _ => Unit
  | .kfree _ => Unit

abbrev urbSig : Sig := ⟨UrbReq, UrbReq.Resp⟩

abbrev UP := Prog urbSig

/-- A part of the download that does not touch a response URB. -/
def io (of : Option RspUrb) {α : Type} (p : P α) : UP α :=
  @Prog.via sig urbSig α (UrbReq.io of) (fun _ r => r) p

def kmallocRsp (u : RspUrb) (size : Nat) : UP Bool := Prog.request (S := urbSig) (.kmalloc u size)
def allocUrb (u : RspUrb) : UP Bool := Prog.request (S := urbSig) (.allocUrb u)
def submitUrb (u : RspUrb) : UP Int := Prog.request (S := urbSig) (.submit u)
def waitUrb (u : RspUrb) : UP (Option Int) := Prog.request (S := urbSig) (.wait u)
def waitGate : UP Bool := Prog.request (S := urbSig) .waitGate
def killUrb (u : RspUrb) : UP Unit := Prog.request (S := urbSig) (.kill u)
def freeUrb (u : RspUrb) : UP Unit := Prog.request (S := urbSig) (.freeUrb u)
def kfreeRsp (u : RspUrb) : UP Unit := Prog.request (S := urbSig) (.kfree u)

/-! ## The download -/

/-- `mt7603_rsp_submit`. -/
def rspSubmit (u : RspUrb) : UP Int := do
  let ok ← kmallocRsp u (if u.ep = MT7603_DATA_BULK_IN then MT7603_DATA_RSP_BULK_SIZE
    else MT7603_CMD_RSP_BULK_SIZE)
  if ok then do
    let ok ← allocUrb u
    if ok then do
      let ret ← submitUrb u
      if ret < 0 then do
        freeUrb u
        kfreeRsp u
        return ret
      else return 0
    else do
      kfreeRsp u
      return -ENOMEM
  else return -ENOMEM

/-- `mt7603_rsp_wait`; it is only called with an URB. -/
def rspWait (u : RspUrb) : UP Int := do
  match ← waitUrb u with
  | none => do
    killUrb u
    freeUrb u
    kfreeRsp u
    return -ETIMEDOUT
  | some status => do
    freeUrb u
    kfreeRsp u
    return status

/-- `usb_kill_urb`, `usb_free_urb`, `kfree`. -/
def release (u : RspUrb) : UP Unit := do
  killUrb u
  freeUrb u
  kfreeRsp u

/-- `mt7603_restart_dl_rsp`. -/
def restartDlUrbs (cmd : List U8) : UP Int := do
  let ret ← rspSubmit .restart84
  if ret < 0 then return ret
  else do
    let ret ← rspSubmit .restart85
    if ret < 0 then do
      release .restart84
      return ret
    else do
      let ret ← io none (usbSendCmd cmd)
      let ret ← (if ret < 0 then pure ret else do let _ ← waitGate; return 0 : UP Int)
      release .restart84
      release .restart85
      return ret

/-- The address/length or the start request: when it cannot be sent, `goto free_cmd`. -/
def sendWaitingUrb (u : RspUrb) (cmd : List U8) : UP Int := do
  let ret ← rspSubmit u
  if ret < 0 then return ret
  else do
    let ret ← io (some u) (usbSendCmd cmd)
    if ret < 0 then return ret
    else do
      let _ ← rspWait u
      return 0

/-- A built frame, or the builder's error. -/
def withFrameUrb (B : Out U8 Nat) (x : List U8 → UP Int) : UP Int :=
  match rustCall B (MT7603_FW_SCATTER_MAX_PAYLOAD + 32) with
  | .ok cmd => x cmd
  | .error (.errno code) => return code
  | .error _ => return -EINVAL

/-- From the ROM-ready poll to the poll for the running firmware. -/
def downloadBodyUrb (fw : List U8) (seq : U8) : UP Int := do
  let ret ← io none (pollTopMisc2 0x01 0x01 MT7603_ROM_READY_POLL_MAX)
  if ret < 0 then do
    let _ ← io none (usbReadReg MT7603_TOP_MISC2 0)
    return ret
  else
    match fwDlLen fw with
    | none => return -EINVAL
    | some dlLen =>
      let seq := nextCmdSeq seq
      withFrameUrb (buildAddrLenReq MT7603_FW_CODE_START_ADDRESS1 dlLen seq) fun cmd => do
        let ret ← sendWaitingUrb .addrLen cmd
        if ret < 0 then return ret
        else if fw.length < dlLen.toNat then return -EINVAL
        else do
          let ret ← io none (scatterLoop fw dlLen.toNat 0)
          if ret < 0 then return ret
          else
            withFrameUrb (buildFwStartReq 1 MT7603_FW_CODE_START_ADDRESS1 (nextCmdSeq seq))
              fun cmd => do
                let ret ← sendWaitingUrb .start cmd
                if ret < 0 then return ret
                else io none (pollTopMisc2 0x02 0x02 MT7603_ROM_READY_POLL_MAX)

/-- If RAM firmware runs, ask it to go back to ROM. -/
def restartUrbsIfRunning (misc2 : U32) : UP U8 :=
  if misc2 &&& 0x02 = 0x02 then do
    let seq := nextCmdSeq 0
    let _ ← withFrameUrb (buildRestartDlReq seq) restartDlUrbs
    return seq
  else return 0

/-- `mt7603_download_firmware`. -/
def downloadFirmwareUrbs (fw : List U8) : UP Int := do
  let ret ← io none (usbEnableUdma true)
  if ret < 0 then return ret
  else do
    let (ret, misc2) ← io none (usbReadReg MT7603_TOP_MISC2 0)
    if ret < 0 then return ret
    else do
      let seq ← restartUrbsIfRunning misc2
      let ret ← io none enterBypass
      if ret < 0 then return ret
      else do
        let ok ← io none (alloc (MT7603_FW_SCATTER_MAX_PAYLOAD + 32))
        let ret ← (if ok then downloadBodyUrb fw seq else pure (-ENOMEM) : UP Int)
        io none leaveBypass
        return ret

/-! ## The URBs -/

/-- A response URB: whether `mt7603_rsp_submit` has submitted it, whether it is in flight, and how
often it was freed. -/
structure UrbState where
  submitted : Bool := false
  inFlight : Bool := false
  freed : Nat := 0
  deriving DecidableEq, Repr

/-- The URBs and the exchange so far. -/
structure Urbs where
  urb : RspUrb → UrbState := fun _ => {}
  log : List (Event urbSig) := []

/-- Some of the URBs in flight complete. -/
def Completes (urb urb' : RspUrb → UrbState) : Prop :=
  ∀ u, urb' u = urb u ∨ urb' u = { urb u with inFlight := false }

/-- The URBs with one of them changed. -/
def setUrb (urb : RspUrb → UrbState) (u : RspUrb) (s : UrbState) : RspUrb → UrbState :=
  fun v => if v = u then s else urb v

/-- What a request does to the URBs. -/
def urbStep (urb : RspUrb → UrbState) : (e : UrbReq) → e.Resp → RspUrb → UrbState
  | .submit u, (r : Int) =>
    if r < 0 then urb else setUrb urb u { urb u with submitted := true, inFlight := true }
  | .kill u, _ => setUrb urb u { urb u with inFlight := false }
  | .freeUrb u, _ => setUrb urb u { urb u with freed := (urb u).freed + 1 }
  | _, _ => urb

/-- Which answers are possible: a wait ends early only with an URB that has completed. -/
def UrbAnswer (urb : RspUrb → UrbState) : (e : UrbReq) → e.Resp → Prop
  | .wait u, some _ => (urb u).inFlight = false
  | .waitGate, true => (urb .restart84).inFlight = false ∨ (urb .restart85).inFlight = false
  | _, _ => True

/-- The device and the USB core: URBs complete at any time, and answers are what they are. -/
def urbEnv : Env urbSig Urbs := fun s e r s' =>
  ∃ urb, Completes s.urb urb ∧ UrbAnswer urb e r ∧ s' = ⟨urbStep urb e r, s.log ++ [⟨e, r⟩]⟩

end Driver
