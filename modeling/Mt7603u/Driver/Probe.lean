import Mt7603u.Base.Interleave
import Mt7603u.Base.Refine
import Mt7603u.Driver.BeaconWork
import Mt7603u.Driver.Efuse

/-!
# Binding and unbinding (`mt7603u_probe`, `mt7603u_disconnect` in `src/c/usb.c`)

`probe` fetches and downloads the firmware and registers a device with mac80211, `disconnect`
unregisters it. Their requests are those about kernel objects (the firmware image, the
`ieee80211_hw` with the device in it, the interface's data pointer) and, as `io`, those of the
device.

`Life` is one USB interface with these objects. While an hw is registered, mac80211 calls the driver
and the beacon work runs (`Life.Calls`), also in the middle of `disconnect`; it makes its last call
inside `ieee80211_unregister_hw`, which takes every interface down first. `broken` records an object
used or freed while it is not there, registered twice, or freed while something still refers to it:
the work is pending, or receive URBs are left.
-/

namespace Driver

open Effect Slice Skb Word Rust Relation

/-! ## Requests -/

inductive BindReq
  /-- `request_firmware`: a handle and the image, or an error. -/
  | requestFirmware
  | releaseFirmware (fw : Nat)
  /-- `ieee80211_alloc_hw`. -/
  | allocHw
  /-- The fields of `hw->priv` are set. -/
  | setPriv (hw : Nat) (host : Host)
  /-- `ieee80211_register_hw`, with the permanent address. -/
  | registerHw (hw : Nat) (macAddr : MacAddr)
  /-- `dev->running = false; dev->beacon_enabled = false`. -/
  | clearRunning (hw : Nat)
  /-- `cancel_delayed_work_sync(&dev->beacon_work)`. -/
  | cancelWork (hw : Nat)
  /-- `mt7603_stop_rx`. -/
  | stopRx (hw : Nat)
  /-- `usb_kill_anchored_urbs(&dev->tx_anchor)`. -/
  | killTx (hw : Nat)
  | unregisterHw (hw : Nat)
  | freeHw (hw : Nat)
  | setIntfdata (hw : Option Nat)
  | getIntfdata
  | io (e : Req)

def BindReq.Resp : BindReq → Type
  | .requestFirmware => Except Int (Nat × List U8)
  | .allocHw => Option Nat
  | .registerHw _ _ => Int
  | .getIntfdata => Option Nat
  | .io e => e.Resp
  | _ => Unit

abbrev bindSig : Sig := ⟨BindReq, BindReq.Resp⟩

abbrev BP := Prog bindSig

def bindReq (e : BindReq) : BP e.Resp := Prog.request (S := bindSig) e

/-- A function of the driver. -/
def bindIo {α : Type} (p : P α) : BP α := p.via BindReq.io fun _ r => r

/-! ## Probe -/

/-- `mt7603_register_mac80211`: the code and the hw. -/
def registerMac80211Hw (uninit : EepromData) : BP (Int × Option Nat) := do
  match ← bindReq .allocHw with
  | none => return (-ENOMEM, none)
  | some (hw : Nat) => do
    let host ← bindIo (registerMac80211 uninit)
    bindReq (.setPriv hw host)
    let (ret : Int) ← bindReq (.registerHw hw host.dev.macAddr)
    if ret < 0 then do
      bindReq (.freeHw hw)
      return (ret, none)
    else return (0, some hw)

/-- The steps of `mt7603u_probe` after the download. -/
def probeRegister (uninit : EepromData) : BP Int :=
  match rustCall buildMacInitSequence 128 with
  | .error (.errno code) => return code
  -- a panic, which the builder cannot reach
  | .error _ => return -EINVAL
  | .ok ops => do
    -- a failure is only logged
    let _ ← bindIo (executeRegOps ops)
    let (ret, hw) ← registerMac80211Hw uninit
    if ret < 0 then return ret
    else do
      bindReq (.setIntfdata hw)
      return 0

/-- The steps of `mt7603u_probe` with an image at hand. -/
def probeImage (uninit : EepromData) (fw : Nat) (image : List U8) : BP Int :=
  match verifyFirmware image with
  | .error (.errno code) => do
    bindReq (.releaseFirmware fw)
    return code
  | .error _ => do
    bindReq (.releaseFirmware fw)
    return -EINVAL
  | .ok () => do
    let ret ← bindIo (downloadFirmware image)
    bindReq (.releaseFirmware fw)
    if ret < 0 then return ret else probeRegister uninit

/-- `mt7603u_probe`. -/
def probe (uninit : EepromData) : BP Int := do
  match ← bindReq .requestFirmware with
  | .error ret => return ret
  | .ok (fw, image) => probeImage uninit fw image

/-! ## Disconnect -/

/-- `mt7603_unregister_mac80211`. -/
def unregisterMac80211 : Option Nat → BP Unit
  | none => return ()
  | some hw => do
    bindReq (.clearRunning hw)
    bindReq (.cancelWork hw)
    bindReq (.stopRx hw)
    bindReq (.killTx hw)
    bindReq (.unregisterHw hw)
    bindReq (.freeHw hw)

/-- `mt7603u_disconnect`. -/
def disconnect : BP Unit := do
  let hw ← bindReq .getIntfdata
  unregisterMac80211 hw
  bindReq (.setIntfdata none)

/-! ## The interface and its objects -/

structure Life where
  /-- The firmware images that are held. -/
  fw : Nat → Bool
  /-- The hws that are allocated, and whether they are registered. -/
  hw : Nat → Option Bool
  intfdata : Option Nat
  /-- The device in the hw. -/
  host : Host
  /-- The beacon work is pending. -/
  pending : Bool
  broken : Bool

def Life.setFw (w : Life) (fw : Nat) (held : Bool) : Life :=
  { w with fw := Function.update w.fw fw held }

def Life.setHw (w : Life) (hw : Nat) (x : Option Bool) : Life :=
  { w with hw := Function.update w.hw hw x }

/-- The state after a request; `bad` is a misuse. -/
def Life.flag (w : Life) (bad : Bool) : Life := { w with broken := w.broken || bad }

/-- The hw is not allocated. -/
def Life.missing (w : Life) (hw : Nat) : Bool := (w.hw hw).isNone

/-- What mac80211 and the beacon work do while an hw is registered. -/
def Life.Calls (C : Host → Action → Prop) (k : Kernel) (w w' : Life) : Prop :=
  (∃ hw, w.hw hw = some true) ∧ ∃ σ, BeaconSys.Step C k ⟨w.host, w.pending⟩ σ ∧
    w' = { w with host := σ.host, pending := σ.pending }

/-- A code that is no error. -/
def succeeded (ret : Int) : Bool := 0 ≤ ret

/-- The kernel's answers. `ieee80211_unregister_hw` returns when mac80211 has taken the device
down. -/
def lifeEnv (C : Host → Action → Prop) (k : Kernel) : Env bindSig Life
  | w, .requestFirmware, r, w' =>
    match (r : Except Int (Nat × List U8)) with
    | .error ret => ret < 0 ∧ w' = w
    | .ok (fw, _) => w.fw fw = false ∧ w' = w.setFw fw true
  | w, .releaseFirmware fw, _, w' => w' = (w.flag (!w.fw fw)).setFw fw false
  | w, .allocHw, r, w' =>
    match (r : Option Nat) with
    | none => w' = w
    | some hw => w.hw hw = none ∧ w' = w.setHw hw (some false)
  | w, .setPriv hw host, _, w' => w' = { w.flag (w.missing hw) with host, pending := false }
  | w, .registerHw hw _, r, w' =>
    w' = (w.flag (w.hw hw != some false)).setHw hw (some (succeeded r))
  | w, .clearRunning hw, _, w' =>
    w' = { w.flag (w.missing hw) with
      host := { w.host with dev := { w.host.dev with running := false, beaconEnabled := false } } }
  | w, .cancelWork hw, _, w' => w' = { w.flag (w.missing hw) with pending := false }
  | w, .stopRx hw, _, w' =>
    w' = { w.flag (w.missing hw) with host := { w.host with ring := .empty } }
  | w, .killTx hw, _, w' => w' = w.flag (w.missing hw)
  | w, .unregisterHw hw, _, w' =>
    ∃ w₁, ReflTransGen (Life.Calls C k) w w₁ ∧ w₁.host.up = false ∧
      w' = (w₁.flag (w₁.hw hw != some true)).setHw hw (some false)
  | w, .freeHw hw, _, w' =>
    w' = (w.flag (w.hw hw != some false || w.pending || w.host.ring != .empty)).setHw hw none
  | w, .setIntfdata hw, _, w' => w' = { w with intfdata := hw }
  | w, .getIntfdata, r, w' => r = w.intfdata ∧ w' = w
  | w, .io _, _, w' => w' = w

/-! ## The system -/

/-- One interface: whether the driver is bound to it. -/
structure LifeSys where
  bound : Bool
  life : Life

/-- An interface before the first probe. -/
def LifeSys.fresh (host : Host) : LifeSys :=
  ⟨false, ⟨fun _ => false, fun _ => none, none, host, false, false⟩⟩

/-- mac80211 does not start the device. -/
def NotStart (_ : Host) (a : Action) : Prop := a ≠ .start

/-- The USB core probes an interface that is not bound, and disconnects one that is. A device that
is being disconnected is not started any more. -/
inductive LifeSys.Step (C : Host → Action → Prop) (k : Kernel) : LifeSys → LifeSys → Prop
  | probe {σ : LifeSys} {uninit : EepromData} {ret : Int} {w : Life} (hb : σ.bound = false)
      (hrun : Runs ((lifeEnv C k).beside (Life.Calls C k)) (Driver.probe uninit) σ.life ret w) :
      Step C k σ ⟨ret = 0, w⟩
  | calls {σ : LifeSys} {w : Life} (h : Life.Calls C k σ.life w) : Step C k σ { σ with life := w }
  | disconnect {σ : LifeSys} {w : Life} (hb : σ.bound = true)
      (hrun : Runs ((lifeEnv NotStart k).beside (Life.Calls NotStart k)) Driver.disconnect σ.life
        () w) :
      Step C k σ ⟨false, w⟩

end Driver
