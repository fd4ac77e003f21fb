import Mt7603u.Base.Interleave
import Mt7603u.Base.Refine
import Mt7603u.Driver.Lifecycle
import Mt7603u.Driver.RxComplete

/-!
# The receive URBs (`src/c/mac80211.c`)

Start and stop once more, at the level of the URBs they leave behind: four for received data and
one for command responses. `mt7603_start_rx` allocates what is missing and submits,
`mt7603_stop_rx` kills and frees. In between an URB completes whenever the device has something:
`mt7603_rx_complete` and `mt7603_cmd_rsp_complete` submit it again as long as the device is running.
What does not concern these URBs is the start of `Driver.Lifecycle`, issued through `RingReq.io`.

`RingWorld` is the memory and the host controller's side of it. `broken` records a misuse: an URB
or a buffer that is freed twice, freed or submitted while it is in flight, used without having been
allocated, or allocated over another one.
-/

namespace Driver

open Effect Slice Word Rust Relation

/-! ## Requests -/

inductive RingReq
  /-- Any other request. -/
  | io (e : Req)
  /-- `dev->running = on`, which the completion handlers look at. -/
  | running (on : Bool)
  | kmalloc (u : RingSlot) (size : Nat)
  | allocUrb (u : RingSlot)
  /-- `usb_fill_bulk_urb` and `usb_submit_urb`: 0 or an error. -/
  | submit (u : RingSlot)
  | kill (u : RingSlot)
  | freeUrb (u : RingSlot)
  | kfree (u : RingSlot)

def RingReq.Resp : RingReq → Type
  | .io e => e.Resp
  | .running _ => Unit
  | .kmalloc _ _ => Bool
  | .allocUrb _ => Bool
  | .submit _ => Int
  | .kill _ => Unit
  | .freeUrb _ => Unit
  | .kfree _ => Unit

abbrev ringSig : Sig := ⟨RingReq, RingReq.Resp⟩

abbrev RP := Prog ringSig

/-- A part that does not touch the receive URBs. -/
def ringIo {α : Type} (p : P α) : RP α := @Prog.via sig ringSig α RingReq.io (fun _ r => r) p

def setRunning (on : Bool) : RP Unit := Prog.request (S := ringSig) (.running on)
def ringKmalloc (u : RingSlot) (size : Nat) : RP Bool :=
  Prog.request (S := ringSig) (.kmalloc u size)
def ringAllocUrb (u : RingSlot) : RP Bool := Prog.request (S := ringSig) (.allocUrb u)
def ringSubmit (u : RingSlot) : RP Int := Prog.request (S := ringSig) (.submit u)
def ringKill (u : RingSlot) : RP Unit := Prog.request (S := ringSig) (.kill u)
def ringFreeUrb (u : RingSlot) : RP Unit := Prog.request (S := ringSig) (.freeUrb u)
def ringKfree (u : RingSlot) : RP Unit := Prog.request (S := ringSig) (.kfree u)

/-! ## Start and stop -/

def ringOps : RxOps RP := ⟨ringKmalloc, ringAllocUrb, ringSubmit⟩

/-- `mt7603_start_rx` with the URBs in view. -/
def startRxRing (ring : RxRing) : RP (Int × RxRing) := startRxBy ringOps ring

/-- `mt7603_mac80211_start`. -/
def startUrbs (dev : Dev) (ring : RxRing) : RP (Int × Dev × RxRing) := do
  let dev := { dev with cmdSeq := nextSeq dev.cmdSeq, running := true }
  setRunning true
  let _ ← ringIo (usbEnableUdma true)
  let (_, ring) ← startRxRing ring
  ringIo (startTail dev ring)

/-- `usb_kill_urb`, `usb_free_urb` and `kfree` of what an entry has. -/
def releaseSlot (u : RingSlot) (e : RxUrb) : RP Unit := do
  if e.urb then do
    ringKill u
    ringFreeUrb u
  if e.buf then ringKfree u

/-- The loop of `mt7603_stop_rx`, from entry `i` on. -/
def releaseSlots (i : Nat) : List RxUrb → RP Unit
  | [] => return ()
  | e :: es => do
    releaseSlot (.rx i) e
    releaseSlots (i + 1) es

/-- `mt7603_stop_rx`: all pointers are null afterwards. -/
def stopRxRing (ring : RxRing) : RP RxRing := do
  releaseSlot .cmd ⟨ring.cmdBuf, ring.cmdUrb⟩
  releaseSlots 0 ring.rxUrbs
  return .empty

/-- `mt7603_mac80211_stop`; `mt7603_unregister_mac80211` begins in the same way. -/
def stopUrbs (dev : Dev) (ring : RxRing) : RP (Dev × RxRing) := do
  let dev := { dev with running := false, beaconEnabled := false }
  setRunning false
  ringIo cancelBeacon
  let ring ← stopRxRing ring
  return (dev, ring)

/-! ## The URBs -/

/-- `mt7603_cmd_rsp_complete`: whether the URB is submitted again. -/
def cmdRspComplete (running : Bool) (status : Int) : Bool :=
  running && status ≠ -ENOENT && status ≠ -ESHUTDOWN && status ≠ -ECONNRESET

/-- An URB with its buffer: what is allocated, and whether it is in flight. -/
structure RingUrb where
  buf : Bool := false
  urb : Bool := false
  inFlight : Bool := false
  deriving DecidableEq, Repr

/-- The part the driver has a pointer to. -/
def RingUrb.has (x : RingUrb) : RxUrb := ⟨x.buf, x.urb⟩

structure RingWorld where
  running : Bool := false
  urb : RingSlot → RingUrb := fun _ => {}
  broken : Bool := false

/-- One URB changed, in a way that was a misuse or not. -/
def RingWorld.set (w : RingWorld) (u : RingSlot) (x : RingUrb) (misuse : Bool) : RingWorld :=
  { w with urb := fun v => if v = u then x else w.urb v, broken := w.broken || misuse }

/-- What a request does. -/
def ringStep (w : RingWorld) : (e : RingReq) → e.Resp → RingWorld
  | .io _, _ => w
  | .running on, _ => { w with running := on }
  | .kmalloc u _, (ok : Bool) =>
    if ok then w.set u { w.urb u with buf := true } (w.urb u).buf else w
  | .allocUrb u, (ok : Bool) =>
    if ok then w.set u { w.urb u with urb := true } (w.urb u).urb else w
  | .submit u, (r : Int) =>
    let x := w.urb u
    w.set u { x with inFlight := x.inFlight || 0 ≤ r } (x.inFlight || !x.buf || !x.urb)
  | .kill u, _ => w.set u { w.urb u with inFlight := false } (!(w.urb u).urb)
  | .freeUrb u, _ =>
    w.set u { w.urb u with urb := false } ((w.urb u).inFlight || !(w.urb u).urb)
  | .kfree u, _ =>
    w.set u { w.urb u with buf := false } ((w.urb u).inFlight || !(w.urb u).buf)

/-- The URB `u` completes with a status, and its handler submits it again or not; `r` is the answer
to that. The handler looks at the buffer. -/
def giveBack (w : RingWorld) (u : RingSlot) (status r : Int) : RingWorld :=
  let x := w.urb u
  w.set u { x with inFlight := cmdRspComplete w.running status && 0 ≤ r } (!x.buf || !x.urb)

/-- The statuses of an URB that was unlinked. -/
def Unlinked (status : Int) : Prop :=
  status = -ENOENT ∨ status = -ESHUTDOWN ∨ status = -ECONNRESET

/-- A completion. If all goes well (`healthy`), an URB is only unlinked when the driver kills it,
and the handler's submission is accepted. -/
def Gives (healthy : Prop) (w w' : RingWorld) : Prop :=
  ∃ u status r, (w.urb u).inFlight = true ∧ (healthy → ¬Unlinked status ∧ 0 ≤ r) ∧
    w' = giveBack w u status r

/-- The answers of a host on which all goes well. -/
def RingFine : (e : RingReq) → e.Resp → Prop
  | .kmalloc _ _, ok => ok = true
  | .allocUrb _, ok => ok = true
  | .submit _, (r : Int) => 0 ≤ r
  | _, _ => True

/-- Requests act on the world, URBs complete at any time before them. -/
def ringEnv (healthy : Prop) : Env ringSig RingWorld :=
  Env.beside (fun w e r w' => (healthy → RingFine e r) ∧ w' = ringStep w e r) (Gives healthy)

/-! ## The system -/

/-- The device, the pointers it has, and the URBs. -/
structure RingSys where
  dev : Dev
  ring : RxRing
  up : Bool
  world : RingWorld

/-- A device as `mt7603_register_mac80211` leaves it. -/
def RingSys.registered (dev : Dev) : RingSys := ⟨{ dev with running := false }, .empty, false, {}⟩

/-- No data URB is in flight. -/
def RingWorld.DataIdle (w : RingWorld) : Prop := ∀ i, (w.urb (.rx i)).inFlight = false

/-- What can happen: mac80211 starts the device, in a state that satisfies `C`, stops it, makes
another call, or the device is unregistered; and URBs complete. -/
inductive RingSys.Step (healthy : Prop) (C : RingSys → Prop) : RingSys → RingSys → Prop
  | start {σ : RingSys} {ret : Int} {dev : Dev} {ring : RxRing} {w : RingWorld}
      (hup : σ.up = false) (hC : C σ)
      (hrun : Runs (ringEnv healthy) (startUrbs σ.dev σ.ring) σ.world (ret, dev, ring) w) :
      Step healthy C σ ⟨dev, ring, ret = 0, w⟩
  | stop {σ : RingSys} {dev : Dev} {ring : RxRing} {w : RingWorld}
      (hup : σ.up = true)
      (hrun : Runs (ringEnv healthy) (stopUrbs σ.dev σ.ring) σ.world (dev, ring) w) :
      Step healthy C σ ⟨dev, ring, false, w⟩
  | unregister {σ : RingSys} {dev : Dev} {ring : RxRing} {w : RingWorld}
      (hrun : Runs (ringEnv healthy) (stopUrbs σ.dev σ.ring) σ.world (dev, ring) w) :
      Step healthy C σ ⟨dev, ring, false, w⟩
  | call {σ : RingSys} {dev : Dev} (hup : σ.up = true) (hrun : dev.running = σ.dev.running) :
      Step healthy C σ { σ with dev }
  | gives {σ : RingSys} {w : RingWorld} (h : Gives healthy σ.world w) :
      Step healthy C σ { σ with world := w }

end Driver
