import Mt7603u.Proof.ChannelSwitch
import Mt7603u.Proof.Lifecycle

/-!
# The driver's exchanges with the radio

`Radio d tr d'`: an exchange `tr` that takes the tuning and the command number from what is noted in
`d` to what is noted in `d'`. It is made of parts without a command, of single commands, of channel
switches, and of a start that gets no buffer. Every callback is made of these (`operates_callback`),
and with them every run (`operates_runCalls`): what holds of a run's commands is proved by induction
on `Radio`, not by going through the driver again.
-/

namespace Driver

open Effect Slice Word Rust

/-! ## Exchanges -/

/-- A buffer of this size is a command's transfer: it is none of the receive ring's, and not the one
`start` builds its commands in. -/
def CommandAlloc (n : Nat) : Prop :=
  n ≠ MT7603_RX_BUF_SIZE ∧ n ≠ 512 ∧ n ≠ 0 ∧ n ≠ MT7603_EEPROM_SIZE + 64

instance (n : Nat) : Decidable (CommandAlloc n) := inferInstanceAs (Decidable (_ ∧ _))

/-- A request that is no part of a command. -/
def NoCommand : Req → Prop
  | .bulkOut _ _ => False
  | .alloc n => ¬CommandAlloc n
  | _ => True

/-- The exchange takes the radio from the state noted in `d` to the one noted in `d'`. -/
inductive Radio : Dev → List (Event sig) → Dev → Prop
  | still {d d' : Dev} {tr : List (Event sig)} : (∀ ev ∈ tr, NoCommand ev.req) →
      d'.radio = d.radio → Radio d tr d'
  | startRefused {d d' : Dev} : d'.radio = (d.tuning, nextSeq d.cmdSeq) →
      Radio d [⟨.alloc (MT7603_EEPROM_SIZE + 64), false⟩] d'
  | command {d d' : Dev} {extCid : U8} {payload : List U8} {tr : List (Event sig)} :
      extCid ≠ EXT_CMD_CHANNEL_SWITCH → CommandAlloc (payload.length + 36) →
      Sent (cmdImage extCid (nextSeq d.cmdSeq) payload) tr →
      d'.radio = (d.tuning, nextSeq d.cmdSeq) → Radio d tr d'
  | switch {d d' : Dev} {channel bw centralCh : U8} {eeprom : List U8} {r : Int}
      {t₁ t₂ : List (Event sig)} :
      Sent (switchCmd (nextSeq d.cmdSeq) channel bw centralCh) t₁ →
      Sent (powerCmd eeprom (nextSeq (nextSeq d.cmdSeq)) channel) t₂ →
      d'.radio = ((clampChannel channel, clampBw bw), nextSeq (nextSeq d.cmdSeq)) →
      Radio d (t₁ ++ writeEvent RMAC_CHFREQ 1 r :: t₂) d'
  | append {d d₁ d₂ : Dev} {t₁ t₂ : List (Event sig)} : Radio d t₁ d₁ → Radio d₁ t₂ d₂ →
      Radio d (t₁ ++ t₂) d₂

/-- From the state in `d` on, every exchange of `p` ends in the state of the device it returns. -/
def Operates {α : Type} (d : Dev) (dev : α → Dev) (p : P α) : Prop :=
  ∀ tr a, Trace p tr a → Radio d tr (dev a)

section
variable {α β : Type} {d : Dev} {dev : α → Dev} {dev' : β → Dev}

theorem operates_bind {p : P α} {f : α → P β} (hp : Operates d dev p)
    (hf : ∀ a, Operates (dev a) dev' (f a)) : Operates d dev' (p >>= f) := by
  intro tr b ht
  obtain ⟨a, t₁, t₂, rfl, h1, h2⟩ := trace_bind.1 ht
  exact .append (hp t₁ a h1) (hf a t₂ b h2)

/-- A part without a command that keeps what is noted. -/
theorem operates_still {p : P α} (hp : All (S := sig) NoCommand p)
    (he : Ends (S := sig) (fun a => (dev a).radio = d.radio) p) : Operates d dev p :=
  fun _ _ ht => .still (trace_all hp ht) (runs_ends (Q := fun a => (dev a).radio = d.radio) he ht)

/-- A part without a command, in front of one that operates the radio. -/
theorem operates_next {p : P α} {f : α → P β} (hp : All (S := sig) NoCommand p)
    (hf : ∀ a, Operates d dev' (f a)) : Operates d dev' (p >>= f) := by
  intro tr b ht
  obtain ⟨a, t₁, t₂, rfl, h1, h2⟩ := trace_bind.1 ht
  exact .append (.still (trace_all hp h1) rfl) (hf a t₂ b h2)

theorem operates_ret {a : α} (h : (dev a).radio = d.radio) : Operates d dev (return a) :=
  operates_still trivial h

/-- A command with the next number, in front of what goes on from there. -/
theorem operates_command {extCid seq : U8} {payload : List U8} {max : Nat} {v : Dev}
    {f : Unit → P β} (hx : extCid ≠ EXT_CMD_CHANNEL_SWITCH)
    (hs : CommandAlloc (payload.length + 36)) (h : payload.length ≤ 1000)
    (hm : payload.length + 32 ≤ max) (hseq : seq = nextSeq d.cmdSeq)
    (hv : v.radio = (d.tuning, seq)) (hf : Operates v dev' (f ())) :
    Operates d dev' (sendBuilt (extCmd extCid seq payload) max >>= f) := by
  subst hseq
  intro tr b ht
  obtain ⟨_, t₁, t₂, rfl, h1, h2⟩ := trace_bind.1 ht
  exact .append (.command hx hs (trace_sendExt h hm h1) hv) (hf t₂ b h2)

end

/-- **A channel switch operates the radio.** -/
theorem operates_setChannelExt {dev : Dev} {channel bw centralCh : U8} :
    Operates dev id (setChannelExt dev channel bw centralCh) := by
  intro tr d ht
  have hseq := runs_ends (Q := fun d : Dev => d.cmdSeq = nextSeq (nextSeq dev.cmdSeq))
    seq_setChannelExt ht
  obtain ⟨⟨t₁, r, t₂, rfl, hsw, hpw⟩, hch, hbw⟩ := trace_setChannelExt ht
  refine .switch hsw hpw ?_
  rw [id, Dev.radio, Dev.tuning, hch, hbw, hseq]

/-! ## Parts that only access registers -/

theorem noCommand_write {addr val : U32} : All (S := sig) NoCommand (usbWriteReg addr val) :=
  all_usbWriteReg trivial

theorem noCommand_built {B : Out RegWriteOp Nat} {max : Nat} :
    All (S := sig) NoCommand (executeBuilt B max) :=
  all_executeBuilt fun _ _ _ _ => trivial

theorem noCommand_updateReg {addr : U32} {f : U32 → U32} :
    All (S := sig) NoCommand (updateReg addr f) :=
  all_updateReg trivial fun _ => trivial

theorem noCommand_clearMbssid : All (S := sig) NoCommand clearMbssid :=
  @noCommand_updateReg RMAC_RMACDR fun dw => dw &&& ~~~((0x3 : U32) <<< 24)

theorem noCommand_writeBssid {a : MacAddr} : All (S := sig) NoCommand (writeBssid a) :=
  all_bind noCommand_write fun _ => all_bind noCommand_write fun _ => trivial

theorem noCommand_clearBssid : All (S := sig) NoCommand clearBssid :=
  all_bind noCommand_write fun _ => all_bind noCommand_write fun _ => trivial

theorem noCommand_clearEntry1 : All (S := sig) NoCommand clearEntry1 :=
  all_bind noCommand_write fun _ => all_bind noCommand_write fun _ =>
    all_bind noCommand_write fun _ => trivial

theorem noCommand_programPeer {addr : MacAddr} : All (S := sig) NoCommand (programPeer addr) := by
  unfold programPeer
  split
  · split
    · exact all_bind (all_executeRegOps fun op _ => trivial) fun _ =>
        all_bind noCommand_write fun _ => trivial
    · trivial
  · trivial

section
variable {dev : Dev} {vif : Option Vif} {info : Option BssConf} {changed : BitVec 64}

theorem noCommand_programAp : All (S := sig) NoCommand (programAp dev vif) := by
  unfold programAp
  cases vif with
  | none => trivial
  | some v =>
    dsimp only
    split
    · exact all_bind noCommand_built fun _ => all_bind noCommand_writeBssid fun _ =>
        all_bind noCommand_clearMbssid fun _ => trivial
    · trivial

theorem noCommand_disableBeacon : All (S := sig) NoCommand (disableBeacon dev changed) := by
  unfold disableBeacon
  split
  · exact all_bind (all_request.2 trivial) fun _ => all_bind noCommand_built fun _ => trivial
  · trivial

theorem noCommand_beaconChanged :
    All (S := sig) NoCommand (beaconChanged dev vif info changed) := by
  refine all_bind noCommand_programAp fun d => ?_
  cases info with
  | none => exact noCommand_disableBeacon
  | some bss =>
    dsimp only
    split
    · exact all_bind noCommand_built fun _ => all_bind (all_request.2 trivial) fun _ => trivial
    · exact noCommand_disableBeacon

theorem noCommand_bssidCleared : All (S := sig) NoCommand (bssidCleared dev vif) :=
  all_bind (all_onlyIf fun _ => all_bind noCommand_clearBssid fun _ => noCommand_clearEntry1)
    fun _ => trivial

theorem noCommand_ampduAction {params : AmpduParams} :
    All (S := sig) NoCommand (ampduAction vif params) := by
  refine all_bind (all_usbReadReg trivial) fun ⟨ret, dw15⟩ => ?_
  obtain ⟨action, sta, tid, bufSize⟩ := params
  cases action with
  | rxStart =>
    dsimp only
    split
    · exact all_bind noCommand_write fun _ => all_bind noCommand_write fun _ => trivial
    · trivial
  | rxStop | txStart => trivial
  | txOperational => exact all_bind noCommand_built fun _ => trivial
  | txStopCont | txStopFlush | txStopFlushCont =>
    refine all_bind noCommand_built fun _ => ?_
    split
    · exact all_bind (all_request.2 trivial) fun _ => trivial
    · trivial

theorem noCommand_setKey {cmd : SetKeyCmd} {sta : Option MacAddr} {key : KeyConf} :
    All (S := sig) NoCommand (setKey cmd vif sta key) := by
  unfold setKey
  split
  · exact all_bind noCommand_updateReg fun _ => all_bind noCommand_updateReg fun _ => trivial
  · split
    · trivial
    · refine all_bind noCommand_write fun _ => all_bind noCommand_write fun _ => ?_
      refine all_bind noCommand_write fun _ => all_bind noCommand_write fun _ => ?_
      refine all_bind noCommand_write fun _ => all_bind noCommand_write fun _ => ?_
      refine all_bind noCommand_updateReg fun _ => all_bind noCommand_updateReg fun _ => ?_
      exact all_bind noCommand_write fun _ => all_bind noCommand_write fun _ => trivial

end

/-! ## Callbacks -/

section
variable {dev : Dev} {vif : Option Vif} {info : Option BssConf} {changed : BitVec 64}

theorem operates_tuneTo {channel : U8} : Operates dev id (tuneTo dev channel) := by
  unfold tuneTo
  split
  · exact operates_setChannelExt
  · exact operates_ret rfl

theorem operates_tuneToPeer {addr : MacAddr} {fallback : Option U8} :
    Operates dev id (tuneToPeer dev addr fallback) := by
  refine operates_next (all_request.2 trivial) fun r => ?_
  cases r with
  | some ch =>
    cases ch with
    | some ch => exact operates_tuneTo
    | none => exact operates_ret rfl
  | none =>
    cases fallback with
    | some ch => exact operates_tuneTo
    | none => exact operates_ret rfl

theorem operates_config {chandef : ChanDef} {changed : U32} :
    Operates dev id (config dev chandef changed) := by
  unfold config
  split
  · split
    · exact operates_setChannelExt
    · exact operates_ret rfl
  · exact operates_ret rfl

theorem operates_bssidChanged : Operates dev id (bssidChanged dev vif info) := by
  have hclear : Operates dev id (bssidCleared dev vif) :=
    operates_still noCommand_bssidCleared radio_bssidCleared
  unfold bssidChanged
  split
  · split
    · exact hclear
    · refine operates_bind operates_tuneToPeer fun d => ?_
      refine operates_next noCommand_write fun _ => ?_
      refine operates_next (all_onlyIf fun _ => all_bind noCommand_write fun _ => trivial)
        fun _ => ?_
      refine operates_next noCommand_clearMbssid fun _ => ?_
      exact operates_next (all_onlyIf fun _ => noCommand_programPeer) fun _ => operates_ret rfl
  · exact hclear

theorem operates_bssInfoChanged : Operates dev id (bssInfoChanged dev vif info changed) := by
  have hoper : Operates dev id (tuneToOper dev info) := by
    unfold tuneToOper
    split
    · exact operates_tuneTo
    · exact operates_ret rfl
  have hbeacon : ∀ d : Dev, Operates d id (if changed &&& BEACON_CHANGES ≠ 0 then
      beaconChanged d vif info changed else pure d : P Dev) := by
    intro d
    split
    · exact operates_still noCommand_beaconChanged radio_beaconChanged
    · exact operates_ret rfl
  refine operates_bind hoper fun d => operates_bind (hbeacon d) fun d => ?_
  split
  · exact operates_bssidChanged
  · exact operates_ret rfl

theorem operates_staAdd {sta : MacAddr} : Operates dev id (staAdd dev vif sta) := by
  have hpeer : Operates dev id (if ¬Vif.isAp vif then
      tuneToPeer dev sta (vif.bind (·.bssChan)) else pure dev : P Dev) := by
    split
    · exact operates_tuneToPeer
    · exact operates_ret rfl
  unfold staAdd
  split
  · exact operates_ret rfl
  · refine operates_bind hpeer fun d => ?_
    refine operates_next (all_onlyIf fun _ => noCommand_writeBssid) fun _ => ?_
    exact operates_next noCommand_programPeer fun _ => operates_ret rfl

theorem operates_addInterface {vif : Vif} : Operates dev id (addInterface dev vif) := by
  unfold addInterface
  refine operates_next (all_onlyIf fun _ => noCommand_built) fun _ => ?_
  have hmon : (if vif.type = .monitor then { dev with monitorCount := dev.monitorCount + 1 }
      else dev).radio = dev.radio := by split <;> rfl
  split
  · exact operates_ret hmon
  · refine operates_next noCommand_built fun _ => ?_
    split
    · exact operates_next noCommand_writeBssid fun _ => operates_ret hmon
    · exact operates_ret hmon

theorem operates_removeInterface {vif : Vif} : Operates dev id (removeInterface dev vif) := by
  have hmon : (if vif.type = .monitor then { dev with monitorCount := dev.monitorCount - 1 }
      else dev).radio = dev.radio := by split <;> rfl
  unfold removeInterface
  generalize (if vif.type = .monitor then { dev with monitorCount := dev.monitorCount - 1 }
    else dev : Dev) = d at hmon ⊢
  refine operates_next (all_onlyIf fun _ => noCommand_built) fun _ => ?_
  split
  · exact operates_next (all_request.2 trivial) fun _ => operates_ret hmon
  · exact operates_ret hmon

/-- **Every callback is made of exchanges with the radio.** -/
theorem operates_callback {vif : Vif} (cb : Callback) : Operates dev id (cb.run vif dev) := by
  cases cb with
  | addInterface => exact operates_addInterface
  | config chandef changed => exact operates_config
  | configureFilter totalFlags flags =>
    refine operates_still ?_ ?_
    · exact all_bind (all_bind (all_onlyIf fun _ => noCommand_built) fun _ => trivial)
        fun _ => trivial
    · exact ends_bind (Q := fun r : Dev × U32 => r.1.radio = dev.radio) (ends_next fun _ => rfl)
        fun r hr => hr
  | bssInfoChanged info changed => exact operates_bssInfoChanged
  | staAdd sta => exact operates_staAdd
  | staRemove sta =>
    refine operates_next (all_onlyIf fun _ => noCommand_clearBssid) fun _ => ?_
    exact operates_next noCommand_clearEntry1 fun _ => operates_ret rfl
  | ampduAction params => exact operates_next noCommand_ampduAction fun _ => operates_ret rfl
  | setKey cmd sta key => exact operates_next noCommand_setKey fun _ => operates_ret rfl

end

/-! ## Starting -/

/-- What follows the calibration upload in `start`. -/
def afterUpload (ring : RxRing) (dev : Dev) : P (Int × Dev × RxRing) := do
  executeBuilt buildMacInitSequence 128
  executeBuilt (buildOwnMacSequence dev.macAddr) 128
  executeBuilt (buildWtblStaSequence BCAST_ADDR) 128
  sendBuilt (buildRadioOnOffCmd true dev.cmdSeq) (MT7603_EEPROM_SIZE + 64)
  let dev := { dev with cmdSeq := nextSeq dev.cmdSeq }
  sendBuilt (buildEdcaSetCmd dev.cmdSeq) (MT7603_EEPROM_SIZE + 64)
  let _ ← usbWriteReg DMA_TCFR1 (bit 8 ||| bit 16)
  let dev ← setChannel dev 1
  return (0, dev, ring)

/-- The number of the first command is taken before: `v` is the device without it. -/
theorem operates_afterUpload {v dev : Dev} {ring : RxRing}
    (h : dev.radio = (v.tuning, nextSeq v.cmdSeq)) :
    Operates v (fun r : Int × Dev × RxRing => r.2.1) (afterUpload ring dev) := by
  refine operates_next noCommand_built fun _ => operates_next noCommand_built fun _ => ?_
  refine operates_next noCommand_built fun _ => ?_
  refine operates_command (v := dev) (by decide) (by decide) (by decide) (by decide)
    (congrArg Prod.snd h) (h.trans (congrArg (v.tuning, ·) (congrArg Prod.snd h).symm)) ?_
  refine operates_command (v := { dev with cmdSeq := nextSeq dev.cmdSeq }) (by decide) (by decide)
    (by decide) (by decide) rfl rfl ?_
  refine operates_next noCommand_write fun _ => ?_
  exact operates_bind operates_setChannelExt fun d => operates_ret rfl

theorem operates_upload {dev : Dev} {ring : RxRing} :
    Operates dev (fun r : Int × Dev × RxRing => r.2.1)
      (uploadEfuse { dev with cmdSeq := nextSeq dev.cmdSeq, running := true } >>=
        afterUpload ring) := by
  intro tr out ht
  obtain ⟨d, t₁, t₂, rfl, h1, h2⟩ := trace_bind.1 ht
  unfold uploadEfuse at h1
  split at h1
  · obtain ⟨_, t₃, t₄, rfl, h3, h4⟩ := trace_bind.1 h1
    obtain ⟨rfl, rfl⟩ := trace_ret.1 h4
    have hlen : (List.replicate (4 + 0xf0 * 4) (0 : U8)).length = 964 := List.length_replicate
    have hsent := trace_sendExt (by rw [hlen]; decide) (by rw [hlen]; decide) h3
    have hcmd : Radio dev t₃ { dev with cmdSeq := nextSeq dev.cmdSeq } :=
      .command (by decide) (by rw [hlen]; decide) hsent rfl
    rw [List.append_nil]
    exact .append hcmd (operates_afterUpload rfl _ _ h2)
  · obtain ⟨rfl, rfl⟩ := trace_ret.1 h1
    exact operates_afterUpload rfl _ _ h2

theorem operates_start {dev : Dev} {ring : RxRing} :
    Operates dev (fun r : Int × Dev × RxRing => r.2.1) (start dev ring) := by
  unfold start startTail
  refine operates_next (all_usbEnableUdma trivial fun _ => trivial) fun _ => ?_
  refine operates_next (all_startRx (fun h => h.1 rfl) (fun h => h.2.2.1 rfl) (fun h => h.2.1 rfl)
    fun _ => trivial) fun ⟨_, ring⟩ => ?_
  intro tr out ht
  obtain ⟨ok, t₁, t₂, rfl, h1, h2⟩ := trace_bind.1 ht
  obtain rfl := (trace_request (S := sig) (e := .alloc _)).1 h1
  cases ok with
  | false =>
    obtain ⟨rfl, rfl⟩ := trace_ret.1 h2
    exact .startRefused rfl
  | true =>
    rw [if_pos rfl] at h2
    have hbuf : Radio dev [⟨.alloc (MT7603_EEPROM_SIZE + 64), true⟩] dev :=
      .still (List.forall_mem_singleton.2 fun h => h.2.2.2 rfl) rfl
    exact .append hbuf (operates_upload t₂ out h2)

/-! ## Runs -/

/-- The calls one after the other, whether mac80211 would make them or not. -/
def runCalls : List Action → Host → P Host
  | [], h => return h
  | a :: as, h => do
    let h ← a.run h
    runCalls as h

theorem operates_action (a : Action) (h : Host) :
    Operates h.dev (fun h' : Host => h'.dev) (a.run h) := by
  cases a with
  | start => exact operates_bind operates_start fun r => operates_ret rfl
  | stop =>
    refine operates_still ?_ ?_
    · exact all_bind (all_bind (all_request.2 trivial) fun _ => trivial) fun _ => trivial
    · exact ends_bind (Q := fun r : Dev × RxRing => r.1.radio = h.dev.radio)
        (ends_next fun _ => rfl) fun r hr => hr
  | removeInterface vif => exact operates_bind operates_removeInterface fun d => operates_ret rfl
  | call vif cb => exact operates_bind (operates_callback cb) fun d => operates_ret rfl

/-- **Every run is made of exchanges with the radio.** -/
theorem operates_runCalls (acts : List Action) (h : Host) :
    Operates h.dev (fun h' : Host => h'.dev) (runCalls acts h) := by
  induction acts generalizing h with
  | nil => exact operates_ret rfl
  | cons a acts ih => exact operates_bind (operates_action a h) fun h' => ih h'

end Driver
