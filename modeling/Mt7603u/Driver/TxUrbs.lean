import Mt7603u.Base.Pool
import Mt7603u.Driver.TxPath

/-!
# Buffers and URBs on the transmission path (`src/c/mac80211.c`)

`mt7603_mac80211_tx` once more, with the socket buffers and URBs it allocates, hands over and frees.
Several calls of it run at the same time, and so do completions: mac80211 sends from several queues,
the beacon work sends too, and `mt7603_tx_complete` runs whenever the host controller is done with
an URB. `TxSys` is the pool of these calls over one memory; each step is one request of one call.

Every buffer and URB has an owner, a call in progress or the USB core (`Holder`). `broken` records a
misuse: a call that touches what it does not own, or an operation on a buffer that leaves it. One
read is kept apart from it, in `staleLog`: the log line behind a successful submission looks at the
length of a buffer that has been handed over, and may have been freed since. The name of a buffer
stands for its allocation, so it is not given to another one later.
-/

namespace Driver

open Effect Slice Skb Word Rust

/-! ## Requests -/

inductive TxReq
  /-- A look at the fields of `mt7603u_dev`. -/
  | getDev
  | copyExpand (s : Nat) (skb : SkBuff U8) (headroom tailroom : Nat)
  | reallocHeadroom (s : Nat) (skb : SkBuff U8) (headroom : Nat)
  /-- `dev_kfree_skb_any`. -/
  | freeSkb (s : Nat)
  | allocUrb
  | anchorUrb (u : Nat)
  /-- `usb_submit_urb` of an URB filled with the transfer: 0 or an error. -/
  | submitUrb (u s : Nat) (t : Transfer) (info : TxInfo)
  | unanchorUrb (u : Nat)
  /-- `usb_free_urb`: one reference less. -/
  | freeUrb (u : Nat)
  /-- `ieee80211_tx_status_irqsafe`: the buffer goes back to mac80211. -/
  | txStatus (s : Nat) (data : List U8) (ack : Bool)
  /-- `skb->len` for a log line. -/
  | logLen (s : Nat)
  /-- An operation on a buffer that leaves it, or a panic of the Rust side. -/
  | oops

/-- The answer to a request: a new buffer or URB comes with its name. -/
def TxReq.Resp : TxReq → Type
  | .getDev => Dev
  | .copyExpand _ _ _ _ => Option (Nat × SkBuff U8)
  | .reallocHeadroom _ _ _ => Option (Nat × SkBuff U8)
  | .allocUrb => Option Nat
  | .submitUrb _ _ _ _ => Int
  | _ => Unit

abbrev txSig : Sig := ⟨TxReq, TxReq.Resp⟩

abbrev TP := Prog txSig

def txGetDev : TP Dev := Prog.request (S := txSig) .getDev
def txCopyExpand (s : Nat) (skb : SkBuff U8) (headroom tailroom : Nat) :
    TP (Option (Nat × SkBuff U8)) :=
  Prog.request (S := txSig) (.copyExpand s skb headroom tailroom)
def txReallocHeadroom (s : Nat) (skb : SkBuff U8) (headroom : Nat) :
    TP (Option (Nat × SkBuff U8)) :=
  Prog.request (S := txSig) (.reallocHeadroom s skb headroom)
def txFreeSkb (s : Nat) : TP Unit := Prog.request (S := txSig) (.freeSkb s)
def txAllocUrb : TP (Option Nat) := Prog.request (S := txSig) .allocUrb
def txAnchorUrb (u : Nat) : TP Unit := Prog.request (S := txSig) (.anchorUrb u)
def txSubmitUrb (u s : Nat) (t : Transfer) (info : TxInfo) : TP Int :=
  Prog.request (S := txSig) (.submitUrb u s t info)
def txUnanchorUrb (u : Nat) : TP Unit := Prog.request (S := txSig) (.unanchorUrb u)
def txFreeUrb (u : Nat) : TP Unit := Prog.request (S := txSig) (.freeUrb u)
def txReport (s : Nat) (data : List U8) (ack : Bool) : TP Unit :=
  Prog.request (S := txSig) (.txStatus s data ack)
def txLogLen (s : Nat) : TP Unit := Prog.request (S := txSig) (.logLen s)
def txOops : TP Unit := Prog.request (S := txSig) .oops

/-! ## Transmission -/

/-- A buffer with its name. -/
abbrev Named := Nat × SkBuff U8

/-- An operation on the bytes of a buffer. -/
def onBytes (s : Nat) (x : Rs (SkBuff U8)) : TP (Option Named) :=
  match x with
  | .ok skb => return some (s, skb)
  | .error _ => do
    txOops
    return none

/-- A copy with more room at the end if there is too little; the original is freed either way. -/
def tailPath (s : Nat) (skb : SkBuff U8) (n : Nat) : TP (Option Named) :=
  if skb.tailroom < n then do
    let nskb ← txCopyExpand s skb skb.headroom n
    txFreeSkb s
    return nskb
  else return some (s, skb)

/-- A copy with more room in front if there is too little. -/
def headPath (s : Nat) (skb : SkBuff U8) (n : Nat) : TP (Option Named) :=
  if skb.headroom < n then do
    let nskb ← txReallocHeadroom s skb n
    txFreeSkb s
    return nskb
  else return some (s, skb)

/-- `skb_put`, `memmove` and `memset` behind the header. -/
def openGap (skb : SkBuff U8) (hdrLen pad : Nat) : Rs (SkBuff U8) := do
  let skb ← skb.put pad
  let skb ← skb.move (hdrLen + pad) hdrLen (sub32 (sub32 skb.len hdrLen) pad)
  skb.store hdrLen (List.replicate pad 0)

/-- Insert `pad` zeros behind the header. -/
def gapPath (s : Nat) (skb : SkBuff U8) (hdrLen pad : Nat) : TP (Option Named) :=
  if 0 < pad then do
    match ← tailPath s skb pad with
    | none => return none
    | some (s, skb) => onBytes s (openGap skb hdrLen pad)
  else return some (s, skb)

/-- `memset(skb_put(skb, n), 0, n)`. -/
def appendZeros (skb : SkBuff U8) (n : Nat) : Rs (SkBuff U8) := do
  let skb' ← skb.put n
  skb'.store skb.len (List.replicate n 0)

/-- The buffer of the transfer: padding, descriptor, padding. -/
def framePath (p : TxParams) (fc : U16) (txwi : List U8) (s : Nat) (skb : SkBuff U8) :
    TP (Option Named) := do
  let pad := (4 - (p.hdrLen.toNat &&& 0x03)) &&& 0x03
  match ← gapPath s skb p.hdrLen.toNat pad with
  | none => return none
  | some (s, skb) =>
    match ← headPath s skb 32 with
    | none => return none
    | some (s, skb) =>
      match ← onBytes s (pushTxd skb txwi (isMgmt fc)) with
      | none => return none
      | some (s, skb) =>
        let padLen := roundup4 skb.len + 4 - skb.len
        match ← tailPath s skb padLen with
        | none => return none
        | some (s, skb) => onBytes s (appendZeros skb padLen)

/-- Everything up to the URB: the buffer, the URB and what it is filled with. -/
def preparePath (k : Kernel) (dev : Dev) (info : TxInfo) (s : Nat) (skb : SkBuff U8) :
    TP (Option (Nat × Nat × Transfer)) :=
  if ¬dev.running then do
    txFreeSkb s
    return none
  else
    let fc := frameControl k skb
    let p := txParams k dev info skb
    match rustCall (buildTxwi p) 32 with
    | .error (.errno _) => do
      txFreeSkb s
      return none
    | .error _ => do
      txOops
      return none
    | .ok txwi => do
      let txwi := if p.frmType = 2 then requestStatus txwi else txwi
      match ← framePath p fc txwi s skb with
      | none => return none
      | some (s, skb) =>
        match ← txAllocUrb with
        | none => do
          txFreeSkb s
          return none
        | some u =>
          let pad := (4 - (p.hdrLen.toNat &&& 0x03)) &&& 0x03
          return some (s, u, ⟨if isMgmt fc then MT7603_MGMT_BULK_OUT else MT7603_DATA_BULK_OUT,
            skb, txMeta p pad⟩)

/-- `mt7603_mac80211_tx`. -/
def txPath (k : Kernel) (info : TxInfo) (s : Nat) (skb : SkBuff U8) : TP Unit := do
  let dev ← txGetDev
  match ← preparePath k dev info s skb with
  | none => return ()
  | some (s, u, t) => do
    txAnchorUrb u
    let ret ← txSubmitUrb u s t info
    if ret < 0 then do
      txUnanchorUrb u
      txFreeUrb u
      txFreeSkb s
    else txLogLen s

/-- Report a completed frame, or free it. -/
def settle (s : Nat) (skb : SkBuff U8) : TxOutcome → TP Unit
  | .status ack => txReport s skb.data ack
  | .freed => txFreeSkb s

/-- `mt7603_tx_complete`, and behind it the reference the USB core itself held. -/
def completePath (k : Kernel) (u s : Nat) (info : TxInfo) (status : Int) (skb : SkBuff U8)
    (metaWord : U32) : TP Unit := do
  let dev ← txGetDev
  match txComplete k dev info status skb metaWord with
  | .error _ => txOops
  | .ok (skb, outcome) => do
    settle s skb outcome
    txFreeUrb u
    txFreeUrb u

/-! ## Memory -/

/-- Who something belongs to: a call in progress, or the USB core while an URB is in flight. -/
inductive Holder
  | call (t : Nat)
  | core (u : Nat)
  deriving DecidableEq, Repr

/-- A socket buffer: the number of the frame in it, and its owner. -/
structure TxSkb where
  frame : Nat
  owner : Holder
  deriving DecidableEq, Repr

/-- What an URB in flight was filled with. -/
structure Flight where
  s : Nat
  t : Transfer
  info : TxInfo

structure TxUrb where
  refs : Nat
  anchored : Bool
  owner : Holder
  flight : Option Flight

/-- What mac80211 was told about a frame. -/
structure TxReport where
  frame : Nat
  data : List U8
  ack : Bool
  deriving DecidableEq, Repr

structure TxWorld where
  running : Bool
  /-- The frames handed to the driver so far; a frame's number is its place. -/
  frames : List (List U8)
  skb : Nat → Option TxSkb
  urb : Nat → Option TxUrb
  /-- The buffers that are gone. -/
  freed : Nat → Bool
  reports : List TxReport
  broken : Bool
  /-- A log line has looked at the length of a buffer that was gone. -/
  staleLog : Bool

/-- A device that has been started, before the first frame. -/
def TxWorld.started : TxWorld :=
  ⟨true, [], fun _ => none, fun _ => none, fun _ => false, [], false, false⟩

/-- The call `t` owns the buffer `s`. -/
def TxWorld.ownsSkb (w : TxWorld) (t s : Nat) : Bool := (w.skb s).any (·.owner = .call t)

/-- The call `t` owns the URB `u`. -/
def TxWorld.ownsUrb (w : TxWorld) (t u : Nat) : Bool := (w.urb u).any (·.owner = .call t)

def TxWorld.setSkb (w : TxWorld) (s : Nat) (x : Option TxSkb) : TxWorld :=
  { w with
    skb := Function.update w.skb s x
    freed := Function.update w.freed s (w.freed s || x.isNone) }

/-- `s` is the name of a buffer, or was. -/
def TxWorld.named (w : TxWorld) (s : Nat) : Bool := (w.skb s).isSome || w.freed s

def TxWorld.setUrb (w : TxWorld) (u : Nat) (x : Option TxUrb) : TxWorld :=
  { w with urb := Function.update w.urb u x }

/-- mac80211 is told about a frame. -/
def TxWorld.told (w : TxWorld) (r : Option TxReport) : TxWorld :=
  { w with reports := w.reports ++ r.toList }

/-- Only the owner may do it. -/
def TxWorld.mustOwn (w : TxWorld) (owns : Bool) : TxWorld := { w with broken := w.broken || !owns }

/-- The URB with one reference less; the last one frees it. -/
def TxUrb.drop (x : TxUrb) : Option TxUrb :=
  if x.refs ≤ 1 then none else some { x with refs := x.refs - 1 }

/-- The URB off its anchor, which holds a reference. -/
def TxUrb.unanchor (x : TxUrb) : Option TxUrb :=
  if x.anchored then { x with anchored := false }.drop else some x

/-- A copy of the buffer `s`, for the same owner. -/
def TxWorld.copied (w : TxWorld) (s : Nat) (r : Option Named) : TxWorld :=
  match r with
  | some (s', _) => w.setSkb s' (w.skb s)
  | none => w

/-- What a request of the call `t` does. -/
def txStep (t : Nat) (w : TxWorld) : (e : TxReq) → e.Resp → TxWorld
  | .getDev, _ => w
  | .copyExpand s _ _ _, r => (w.copied s r).mustOwn (w.ownsSkb t s)
  | .reallocHeadroom s _ _, r => (w.copied s r).mustOwn (w.ownsSkb t s)
  | .freeSkb s, _ => (w.setSkb s none).mustOwn (w.ownsSkb t s)
  | .allocUrb, r =>
    match r with
    | some (u : Nat) => w.setUrb u (some ⟨1, false, .call t, none⟩)
    | none => w
  | .anchorUrb u, _ =>
    (w.setUrb u ((w.urb u).map fun x => { x with refs := x.refs + 1, anchored := true })).mustOwn
      (w.ownsUrb t u)
  | .submitUrb u s tr info, (r : Int) =>
    if r < 0 then w.mustOwn (w.ownsUrb t u && w.ownsSkb t s)
    else
      ((w.setUrb u ((w.urb u).map fun x =>
        { x with refs := x.refs + 1, owner := .core u, flight := some ⟨s, tr, info⟩ })).setSkb s
          ((w.skb s).map fun x => { x with owner := .core u })).mustOwn
        (w.ownsUrb t u && w.ownsSkb t s)
  | .unanchorUrb u, _ => (w.setUrb u ((w.urb u).bind (·.unanchor))).mustOwn (w.ownsUrb t u)
  | .freeUrb u, _ => (w.setUrb u ((w.urb u).bind (·.drop))).mustOwn (w.ownsUrb t u)
  | .txStatus s data ack, _ =>
    ((w.setSkb s none).told ((w.skb s).map fun x => ⟨x.frame, data, ack⟩)).mustOwn (w.ownsSkb t s)
  | .logLen s, _ =>
    { w with
      staleLog := w.staleLog || (w.skb s).isNone
      broken := w.broken || !w.named s }
  | .oops, _ => { w with broken := true }

/-- The answers a request can get. What is new was not there before, and copies are as documented;
if all goes well (`healthy`), nothing is refused. -/
def TxAnswers (healthy : Prop) (w : TxWorld) : (e : TxReq) → e.Resp → Prop
  | .getDev, (dev : Dev) => dev.running = w.running
  | .copyExpand _ skb headroom tailroom, (r : Option Named) =>
    (healthy → r.isSome) ∧ ∀ s' skb', r = some (s', skb') → w.named s' = false ∧
      skb'.data = skb.data ∧ skb'.headroom = headroom ∧ tailroom ≤ skb'.tailroom
  | .reallocHeadroom _ skb headroom, (r : Option Named) =>
    (healthy → r.isSome) ∧ ∀ s' skb', r = some (s', skb') → w.named s' = false ∧
      skb'.data = skb.data ∧ headroom ≤ skb'.headroom
  | .allocUrb, (r : Option Nat) => (healthy → r.isSome) ∧ ∀ u, r = some u → w.urb u = none
  | .submitUrb _ _ _ _, (r : Int) => healthy → 0 ≤ r
  | _, _ => True

/-- The memory, for the requests of the call `t`. -/
def txEnv (healthy : Prop) (t : Nat) : Env txSig TxWorld :=
  fun w e r w' => TxAnswers healthy w e r ∧ w' = txStep t w e r

/-! ## The system -/

/-- A frame as mac80211 builds them: there is room for its header, and its length fits. -/
structure Sendable (k : Kernel) (skb : SkBuff U8) : Prop where
  even : k.hdrlen (frameControl k skb) % 2 = 0
  header : k.hdrlen (frameControl k skb) ≤ skb.len
  nonempty : 0 < skb.len
  fits : 32 + (4 - k.hdrlen (frameControl k skb) % 4) % 4 + skb.len ≤ 65535

structure TxSys where
  calls : Pool txSig Nat
  world : TxWorld

def TxSys.started : TxSys := ⟨fun _ => none, .started⟩

/-- A frame is handed to the driver in a new buffer. -/
def TxWorld.handed (w : TxWorld) (t s : Nat) (data : List U8) : TxWorld :=
  { w.setSkb s (some ⟨w.frames.length, .call t⟩) with frames := w.frames ++ [data] }

/-- The USB core takes an URB off its anchor and gives it back, with the buffer, to the call of its
completion handler. -/
def TxWorld.givenBack (w : TxWorld) (t u : Nat) (x : TxUrb) (fl : Flight) : TxWorld :=
  (w.setUrb u (({ x with owner := .call t, flight := none } : TxUrb).unanchor)).setSkb fl.s
    ((w.skb fl.s).map fun y => { y with owner := .call t })

/-- What can happen: a frame is handed over, a call issues its next request or ends, an URB
completes, and the device is stopped or started. -/
inductive TxSys.Step (healthy : Prop) (k : Kernel) : TxSys → TxSys → Prop
  | tx {σ : TxSys} {t s : Nat} {skb : SkBuff U8} {info : TxInfo} (ht : σ.calls t = none)
      (hs : σ.world.named s = false) (hskb : Sendable k skb) :
      Step healthy k σ ⟨σ.calls.put t (some (txPath k info s skb)), σ.world.handed t s skb.data⟩
  | request {σ : TxSys} {t : Nat} {e : TxReq} {rest : e.Resp → TP Unit} {r : e.Resp} {w : TxWorld}
      (ht : σ.calls t = some (.op e rest)) (hD : txEnv healthy t σ.world e r w) :
      Step healthy k σ ⟨σ.calls.put t (some (rest r)), w⟩
  | finish {σ : TxSys} {t : Nat} (ht : σ.calls t = some (.ret ())) :
      Step healthy k σ ⟨σ.calls.put t none, σ.world⟩
  | complete {σ : TxSys} {t u : Nat} {x : TxUrb} {fl : Flight} {status : Int}
      (ht : σ.calls t = none) (hu : σ.world.urb u = some x) (hx : x.flight = some fl) :
      Step healthy k σ
        ⟨σ.calls.put t (some (completePath k u fl.s fl.info status fl.t.skb fl.t.metaWord)),
          σ.world.givenBack t u x fl⟩
  | running {σ : TxSys} {on : Bool} (hon : healthy → on = true) :
      Step healthy k σ ⟨σ.calls, { σ.world with running := on }⟩

end Driver
