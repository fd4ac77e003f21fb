import Mt7603u.Driver.Lifecycle
import Mt7603u.Proof.Callbacks

/-!
# What a call changes

The registers a call may write (`action_frame`), and its effect on the part of the device state
that decides about beacons and filters. That part is the `Mode`; whatever the device answers, a call
moves it by `Action.mode`, a function of the call alone (`action_mode`), and the interfaces by
`Action.vifs`. A statement about all runs is then an induction over the modes.
-/

namespace Driver

open Effect Slice Word Rust

/-! ## Modes -/

/-- The device state that decides about beacons and filters. -/
structure Mode where
  apVif : Option Nat
  beaconInt : U16
  beaconEnabled : Bool
  monitorCount : Nat
  filterFlags : BitVec 64
  running : Bool
  deriving DecidableEq

def Dev.mode (dev : Dev) : Mode :=
  ⟨dev.apVif, dev.beaconInt, dev.beaconEnabled, dev.monitorCount, dev.filterFlags, dev.running⟩

/-- What a change of the BSS asks of the beacon timer: nothing, or a period and on or off. -/
def beaconCmd (info : Option BssConf) (changed : BitVec 64) : Option (U16 × Bool) :=
  let off := if changed &&& BSS_CHANGED_BEACON_ENABLED ≠ 0 then some (0, false) else none
  if changed &&& BEACON_CHANGES = 0 then none
  else
    match info with
    | some bss =>
      if bss.enableBeacon then some (if bss.beaconInt ≠ 0 then bss.beaconInt else 100, true)
      else off
    | none => off

section
variable {info : Option BssConf} {changed : BitVec 64}

theorem beaconCmd_none (h : changed &&& BEACON_CHANGES = 0) : beaconCmd info changed = none := by
  simp [beaconCmd, h]

theorem beaconCmd_on (hc : changed &&& BEACON_CHANGES ≠ 0) {bss : BssConf}
    (he : bss.enableBeacon = true) :
    beaconCmd (some bss) changed =
      some (if bss.beaconInt ≠ 0 then bss.beaconInt else 100, true) := by
  simp only [beaconCmd, if_neg hc, he, if_true]

theorem beaconCmd_off (hc : changed &&& BEACON_CHANGES ≠ 0)
    (he : ∀ bss, info = some bss → ¬bss.enableBeacon = true) :
    beaconCmd info changed =
      if changed &&& BSS_CHANGED_BEACON_ENABLED ≠ 0 then some (0, false) else none := by
  cases info with
  | none => simp only [beaconCmd, if_neg hc]
  | some bss => simp only [beaconCmd, if_neg hc, if_neg (he bss rfl)]

/-- The period of a timer that is turned on is not 0. -/
theorem beaconCmd_period {beaconInt : U16} (h : beaconCmd info changed = some (beaconInt, true)) :
    beaconInt ≠ 0 := by
  by_cases hc : changed &&& BEACON_CHANGES = 0
  · rw [beaconCmd_none hc] at h
    cases h
  · by_cases he : ∃ bss, info = some bss ∧ bss.enableBeacon = true
    · obtain ⟨bss, rfl, he⟩ := he
      rw [beaconCmd_on hc he] at h
      simp only [Option.some.injEq, Prod.mk.injEq, and_true] at h
      subst h
      split
      · assumption
      · decide
    · rw [beaconCmd_off hc fun bss hb hbe => he ⟨bss, hb, hbe⟩] at h
      split at h <;> simp at h

end

def Mode.bssInfoChanged (m : Mode) (vif : Vif) (info : Option BssConf) (changed : BitVec 64) :
    Mode :=
  { m with
    apVif :=
      if changed &&& BEACON_CHANGES ≠ 0 ∧ vif.type = .ap ∧ ¬vif.addr.isZero then some vif.id
      else m.apVif
    beaconInt :=
      match beaconCmd info changed with
      | some (beaconInt, true) => beaconInt
      | _ => m.beaconInt
    beaconEnabled :=
      match beaconCmd info changed with
      | some (_, enable) => enable
      | none => m.beaconEnabled }

def Mode.addInterface (m : Mode) (vif : Vif) : Mode :=
  { m with
    monitorCount := if vif.type = .monitor then m.monitorCount + 1 else m.monitorCount
    apVif := if vif.type = .ap ∧ ¬vif.addr.isZero then some vif.id else m.apVif }

def Mode.removeInterface (m : Mode) (vif : Vif) : Mode :=
  { m with
    monitorCount := if vif.type = .monitor then m.monitorCount - 1 else m.monitorCount
    beaconEnabled := if m.apVif = some vif.id then false else m.beaconEnabled
    apVif := if m.apVif = some vif.id then none else m.apVif }

def Callback.mode (vif : Vif) (m : Mode) : Callback → Mode
  | .addInterface => m.addInterface vif
  | .configureFilter _ flags => { m with filterFlags := flags }
  | .bssInfoChanged info changed => m.bssInfoChanged vif info changed
  | _ => m

/-- The mode after a call. -/
def Action.mode (m : Mode) : Action → Mode
  | .start => { m with running := true }
  | .stop => { m with running := false, beaconEnabled := false }
  | .removeInterface vif => m.removeInterface vif
  | .call vif cb => cb.mode vif m

/-! ## Modes of the callbacks -/

section
variable {dev : Dev} {vif : Vif}

theorem mode_setChannelExt {channel bw centralCh : U8} :
    Ends (S := sig) (fun d => d.mode = dev.mode) (setChannelExt dev channel bw centralCh) := by
  unfold setChannelExt
  exact ends_next fun _ => ends_next fun _ => ends_next fun _ => rfl

theorem mode_tuneTo {channel : U8} :
    Ends (S := sig) (fun d => d.mode = dev.mode) (tuneTo dev channel) := by
  unfold tuneTo setChannel
  split
  · exact mode_setChannelExt
  · rfl

theorem mode_tuneToPeer {addr : MacAddr} {fallback : Option U8} :
    Ends (S := sig) (fun d => d.mode = dev.mode) (tuneToPeer dev addr fallback) := by
  refine ends_next fun r => ?_
  match r with
  | some (some ch) => exact mode_tuneTo
  | some none => rfl
  | none =>
    cases fallback with
    | some ch => exact mode_tuneTo
    | none => rfl

theorem mode_tuneToOper {info : Option BssConf} :
    Ends (S := sig) (fun d => d.mode = dev.mode) (tuneToOper dev info) := by
  unfold tuneToOper
  split
  · exact mode_tuneTo
  · rfl

theorem mode_config {chandef : ChanDef} {changed : U32} :
    Ends (S := sig) (fun d => d.mode = dev.mode) (config dev chandef changed) := by
  unfold config
  split
  · split
    · exact mode_setChannelExt
    · rfl
  · rfl

theorem mode_programAp :
    Ends (S := sig) (fun d => d.mode = { dev.mode with
        apVif := if vif.type = .ap ∧ ¬vif.addr.isZero then some vif.id else dev.apVif })
      (programAp dev (some vif)) := by
  unfold programAp
  dsimp only
  split
  · exact ends_next fun _ => ends_next fun _ => ends_next fun _ => rfl
  · rfl

theorem mode_bssidCleared :
    Ends (S := sig) (fun d => d.mode = dev.mode) (bssidCleared dev (some vif)) :=
  ends_next fun _ => rfl

theorem mode_bssidChanged {info : Option BssConf} :
    Ends (S := sig) (fun d => d.mode = dev.mode) (bssidChanged dev (some vif) info) := by
  unfold bssidChanged
  split
  · split
    · exact mode_bssidCleared
    · refine ends_bind mode_tuneToPeer fun d hd => ?_
      refine ends_next fun _ => ends_next fun _ => ends_next fun _ => ends_next fun _ => ?_
      exact hd
  · exact mode_bssidCleared

theorem mode_staAdd {sta : MacAddr} :
    Ends (S := sig) (fun d => d.mode = dev.mode) (staAdd dev (some vif) sta) := by
  unfold staAdd
  split
  · rfl
  · refine ends_bind (Q := fun d => d.mode = dev.mode) ?_ fun d hd => ?_
    · split
      · exact mode_tuneToPeer
      · rfl
    · refine ends_next fun _ => ends_next fun _ => ?_
      exact hd

theorem mode_addInterface :
    Ends (S := sig) (fun d => d.mode = dev.mode.addInterface vif) (addInterface dev vif) := by
  unfold addInterface Mode.addInterface
  refine ends_next fun _ => ?_
  by_cases hz : vif.addr.isZero = true
  · rw [if_pos hz, if_neg (fun h => h.2 hz)]
    split <;> rfl
  · rw [if_neg hz]
    refine ends_next fun _ => ?_
    by_cases ha : vif.type = .ap
    · simp only [ha, hz]
      exact ends_next fun _ => rfl
    · simp only [ha, false_and, if_false]
      split <;> rfl

theorem mode_removeInterface :
    Ends (S := sig) (fun d => d.mode = dev.mode.removeInterface vif) (removeInterface dev vif) := by
  unfold removeInterface Mode.removeInterface
  refine ends_next fun _ => ?_
  by_cases hm : vif.type = .monitor <;> by_cases ha : dev.apVif = some vif.id
  · simp only [Dev.mode, hm, ha, if_true]
    exact ends_next fun _ => rfl
  · simp only [Dev.mode, hm, ha, if_true, if_false]
    rfl
  · simp only [Dev.mode, hm, ha, if_true, if_false]
    exact ends_next fun _ => rfl
  · simp only [Dev.mode, hm, ha, if_false]
    rfl

theorem mode_disableBeacon {changed : BitVec 64} :
    Ends (S := sig) (fun d => d.mode = { dev.mode with
        beaconEnabled :=
          if changed &&& BSS_CHANGED_BEACON_ENABLED ≠ 0 then false else dev.beaconEnabled })
      (disableBeacon dev changed) := by
  unfold disableBeacon
  split
  · exact ends_next fun _ => ends_next fun _ => rfl
  · rfl

theorem mode_beaconChanged {info : Option BssConf} {changed : BitVec 64}
    (hc : changed &&& BEACON_CHANGES ≠ 0) :
    Ends (S := sig) (fun d => d.mode = dev.mode.bssInfoChanged vif info changed)
      (beaconChanged dev (some vif) info changed) := by
  have hoff : ∀ d : Dev, (∀ bss, info = some bss → ¬bss.enableBeacon = true) →
      d.mode = { dev.mode with
        apVif := if vif.type = .ap ∧ ¬vif.addr.isZero then some vif.id else dev.apVif } →
      Ends (S := sig) (fun d => d.mode = dev.mode.bssInfoChanged vif info changed)
        (disableBeacon d changed) := by
    intro d he hd
    refine ends_mono mode_disableBeacon fun d' hd' => ?_
    have hb : d.beaconEnabled = dev.beaconEnabled := congrArg Mode.beaconEnabled hd
    rw [hd', hd, hb, Mode.bssInfoChanged, beaconCmd_off hc he]
    by_cases ho : changed &&& BSS_CHANGED_BEACON_ENABLED = 0
    · simp only [hc, ho, ne_eq, not_false_eq_true, true_and, not_true, if_false]
      rfl
    · simp only [hc, ho, ne_eq, not_false_eq_true, true_and, if_true]
      rfl
  unfold beaconChanged
  refine ends_bind mode_programAp fun d hd => ?_
  cases info with
  | none => exact hoff d (by simp) hd
  | some bss =>
    by_cases he : bss.enableBeacon = true
    · simp only [he, if_true]
      refine ends_next fun _ => ends_next fun _ => ?_
      simp only [Mode.bssInfoChanged, beaconCmd_on hc he, hc, ne_eq, not_false_eq_true, true_and]
      exact congrArg (fun m : Mode => { m with
        beaconInt := if bss.beaconInt ≠ 0 then bss.beaconInt else 100, beaconEnabled := true }) hd
    · simp only [he]
      exact hoff d (by simpa using he) hd

theorem mode_bssInfoChanged {info : Option BssConf} {changed : BitVec 64} :
    Ends (S := sig) (fun d => d.mode = dev.mode.bssInfoChanged vif info changed)
      (bssInfoChanged dev (some vif) info changed) := by
  unfold bssInfoChanged
  refine ends_bind mode_tuneToOper fun d hd => ?_
  refine ends_bind (Q := fun d => d.mode = dev.mode.bssInfoChanged vif info changed) ?_
    fun d hd => ?_
  · by_cases hc : changed &&& BEACON_CHANGES = 0
    · simp only [hc, ne_eq, not_true, if_false]
      simpa [Mode.bssInfoChanged, beaconCmd_none hc, hc] using hd
    · simp only [hc, ne_eq, not_false_eq_true, if_true]
      rw [← hd]
      exact mode_beaconChanged hc
  · rw [← hd]
    split
    · exact mode_bssidChanged
    · rfl

theorem mode_configureFilter {totalFlags : U32} {flags : BitVec 64} :
    Ends (S := sig) (fun r => r.1.mode = { dev.mode with filterFlags := flags })
      (configureFilter dev totalFlags flags) :=
  ends_next fun _ => rfl

theorem callback_mode (cb : Callback) :
    Ends (S := sig) (fun d => d.mode = cb.mode vif dev.mode) (cb.run vif dev) := by
  cases cb with
  | addInterface => exact mode_addInterface
  | config chandef changed => exact mode_config
  | configureFilter totalFlags flags => exact ends_bind mode_configureFilter fun _ hr => hr
  | bssInfoChanged info changed => exact mode_bssInfoChanged
  | staAdd sta => exact mode_staAdd
  | staRemove sta => exact ends_next fun _ => ends_next fun _ => rfl
  | ampduAction params => exact ends_next fun _ => rfl
  | setKey cmd sta key => exact ends_next fun _ => rfl

theorem mode_stop : Ends (S := sig)
    (fun r => r.1.mode = { dev.mode with running := false, beaconEnabled := false }) (stop dev) :=
  ends_next fun _ => rfl

theorem mode_start {ring : RxRing} :
    Ends (S := sig) (fun r => r.2.1.mode = { dev.mode with running := true }) (start dev ring) := by
  unfold start startTail
  refine ends_next fun _ => ends_next fun _ => ends_next fun ok => ?_
  cases ok with
  | false => exact rfl
  | true =>
    rw [if_pos rfl]
    refine ends_bind (Q := fun d => d.mode = { dev.mode with running := true }) ?_ fun d hd => ?_
    · unfold uploadEfuse
      split
      · exact ends_next fun _ => rfl
      · rfl
    · refine ends_next fun _ => ends_next fun _ => ends_next fun _ => ends_next fun _ => ?_
      refine ends_next fun _ => ends_next fun _ => ?_
      refine ends_bind mode_setChannelExt fun d' hd' => ?_
      exact hd'.trans hd

end

/-! ## Calls -/

/-- The interfaces after a call. -/
def Action.vifs (vifs : List (Nat × IfType)) : Action → List (Nat × IfType)
  | .removeInterface vif => vifs.erase (vif.id, vif.type)
  | .call vif cb => Host.afterCall vifs vif cb
  | _ => vifs

/-- Whether the device can be up after a call. -/
def Action.Ups (up up' : Bool) : Action → Prop
  | .start => True
  | .stop => up' = false
  | _ => up' = up

/-- **The host after a call**, whatever the device answers. -/
theorem action_mode (a : Action) (h : Host) :
    Ends (S := sig) (fun h' => h'.dev.mode = a.mode h.dev.mode ∧ h'.vifs = a.vifs h.vifs ∧
      a.Ups h.up h'.up) (a.run h) := by
  cases a with
  | start => exact ends_bind mode_start fun r hr => ⟨hr, rfl, trivial⟩
  | stop => exact ends_bind mode_stop fun r hr => ⟨hr, rfl, rfl⟩
  | removeInterface vif => exact ends_bind mode_removeInterface fun d hd => ⟨hd, rfl, rfl⟩
  | call vif cb => exact ends_bind (callback_mode cb) fun d hd => ⟨hd, rfl, rfl⟩

/-! ## Registers -/

/-- The registers `start` writes besides those of the initialisation sequence. -/
def startAddrs : List U32 :=
  [MT7603_UDMA_WLCFG_0, RMAC_OMA0R0, RMAC_OMA0R1] ++ peerAddrs ++ [DMA_TCFR1, RMAC_CHFREQ]

/-- What a call may write. -/
def Action.Writes : Action → U32 → U32 → Prop
  | .start, a, v => ⟨a, v⟩ ∈ macInitSeq ∨ a ∈ startAddrs
  | .stop, _, _ => False
  | .removeInterface _, a, _ => a ∈ [RMAC_RFCR, RMAC_RFCR1]
  | .call vif cb, a, v => cb.WritesOn vif a v

section
variable {X : Req → Prop}

theorem all_allocUnless {there : Bool} {size : Nat} (h : X (.alloc size)) :
    All (S := sig) X (allocUnless there (alloc size)) := by
  cases there with
  | true => trivial
  | false => exact all_alloc h

theorem all_startRxUrbs {i : Nat} {es : List RxUrb} (hb : X (.alloc MT7603_RX_BUF_SIZE))
    (hu : X (.alloc 0)) (hs : X (.submitRsp MT7603_DATA_BULK_IN)) :
    All (S := sig) X (startRxUrbs rxOps i es) := by
  induction es generalizing i with
  | nil => trivial
  | cons e es ih =>
    refine all_bind (all_allocUnless hb) fun buf => ?_
    cases buf with
    | false => trivial
    | true =>
      refine all_bind (all_allocUnless hu) fun urb => ?_
      cases urb with
      | false => trivial
      | true => exact all_bind (all_request.2 hs) fun _ => all_bind ih fun _ => trivial

/-- Starting the receive rings allocates and submits. -/
theorem all_startRx {ring : RxRing} (hb : X (.alloc MT7603_RX_BUF_SIZE)) (hu : X (.alloc 0))
    (hc : X (.alloc 512)) (hs : ∀ ep, X (.submitRsp ep)) : All (S := sig) X (startRx ring) := by
  refine all_bind (all_startRxUrbs hb hu (hs _)) fun ⟨ret, rxUrbs⟩ => ?_
  dsimp only
  split
  · trivial
  · refine all_bind (all_allocUnless hc) fun cmdBuf => ?_
    split
    · refine all_bind (all_alloc hu) fun cmdUrb => ?_
      cases cmdUrb with
      | false => trivial
      | true => exact all_bind (all_request.2 (hs _)) fun _ => trivial
    · trivial

end

section
variable {W : U32 → U32 → Prop} {dev : Dev}

theorem all_uploadEfuse : All (S := sig) (Issues W) (uploadEfuse dev) := by
  unfold uploadEfuse
  split
  · exact all_bind all_send fun _ => trivial
  · trivial

theorem all_start {ring : RxRing} :
    All (S := sig) (Issues Action.start.Writes) (start dev ring) := by
  have hs : ∀ a ∈ startAddrs, ∀ v, Action.start.Writes a v := fun a ha v => .inr ha
  -- the address is that of no mapped range, so it stands for itself
  have hudma : ∀ v, Issues Action.start.Writes (.writeReg MT7603_UDMA_WLCFG_0 v) := fun v =>
    ⟨MT7603_UDMA_WLCFG_0, rfl, hs _ (by simp [startAddrs]) v⟩
  refine all_bind (all_usbEnableUdma trivial hudma) fun _ => ?_
  refine all_bind (all_startRx trivial trivial trivial fun _ => trivial) fun ⟨_, ring⟩ => ?_
  refine all_bind (all_alloc trivial) fun ok => ?_
  cases ok with
  | false => trivial
  | true =>
    rw [if_pos rfl]
    refine all_bind all_uploadEfuse fun dev => ?_
    refine all_bind (all_built fills_buildMacInitSequence (Nat.le_of_ble_eq_true rfl)
      fun op hop => .inl hop) fun _ => ?_
    refine all_bind (all_built (fills_buildOwnMacSequence _) (Nat.le_of_ble_eq_true rfl)
      fun op hop => hs _ ?_ _) fun _ => ?_
    · simp only [ownMacSeq, List.mem_cons, List.not_mem_nil, or_false] at hop
      rcases hop with rfl | rfl <;> simp [startAddrs]
    · refine all_bind (all_built (fills_buildWtblStaSequence _) (Nat.le_of_ble_eq_true rfl)
        fun op hop => hs _ ?_ _) fun _ => ?_
      · have hp := wtblStaSeq_addr (List.mem_append_left [⟨WTBL2_DW15_1, 0⟩] hop)
        simp only [startAddrs, List.mem_append]
        exact .inl (.inr hp)
      · refine all_bind all_send fun _ => all_bind all_send fun _ => ?_
        refine all_bind (all_write (hs _ (by simp [startAddrs]) _)) fun _ => ?_
        exact all_bind (all_setChannelExt (hs _ (by simp [startAddrs]) _)) fun _ => trivial

theorem all_removeInterface {vif : Vif} :
    All (S := sig) (Issues (Action.removeInterface vif).Writes) (removeInterface dev vif) := by
  unfold removeInterface
  generalize (if vif.type = .monitor then { dev with monitorCount := dev.monitorCount - 1 }
    else dev : Dev) = d
  refine all_bind (all_onlyIf fun _ => all_rxFilter fun a ha v => ha) fun _ => ?_
  split
  · exact all_bind (all_request.2 trivial) fun _ => trivial
  · trivial

end

/-- **What a call writes.** -/
theorem action_writes (a : Action) (h : Host) :
    All (S := sig) (Issues a.Writes) (a.run h) := by
  cases a with
  | start => exact all_bind all_start fun _ => trivial
  | stop => exact all_bind (all_bind (all_request.2 trivial) fun _ => trivial) fun _ => trivial
  | removeInterface vif => exact all_bind all_removeInterface fun _ => trivial
  | call vif cb => exact all_bind (callback_writesOn cb) fun _ => trivial

/-- The registers a call writes. -/
def Action.addrs : Action → List U32
  | .start => macInitSeq.map (·.addr) ++ startAddrs
  | .stop => []
  | .removeInterface _ => [RMAC_RFCR, RMAC_RFCR1]
  | .call _ cb => cb.addrs ++ cb.extraAddrs

theorem mem_actionAddrs {act : Action} {a v : U32} (h : act.Writes a v) : a ∈ act.addrs := by
  cases act with
  | start =>
    rcases h with h | h
    · exact List.mem_append_left _ (List.mem_map_of_mem (f := RegWriteOp.addr) h)
    · exact List.mem_append_right _ h
  | stop => exact h.elim
  | removeInterface vif => exact h
  | call vif cb =>
    rcases h with h | ⟨-, h⟩
    · exact List.mem_append_left _ (mem_addrs h)
    · exact List.mem_append_right _ h

/-- The registers calls of a kind write, whatever their arguments. -/
def Action.kindAddrs : Action → List U32
  | .call _ (.staAdd sta) => peerAddrs ++ (Callback.staAdd sta).extraAddrs
  | .call _ (.setKey _ _ _) => keyAddrs 0 ++ keyAddrs 1
  | a => a.addrs

theorem addrs_avoid {a : Action} {l : List U32} (h : a.kindAddrs.all (avoids l) = true) :
    a.addrs.all (avoids l) = true := by
  cases a with
  | call vif cb =>
    cases cb with
    | staAdd sta =>
      simp only [Action.kindAddrs, List.all_append, Bool.and_eq_true] at h
      simp only [Action.addrs, Callback.addrs, List.all_append, Bool.and_eq_true]
      refine ⟨?_, h.2⟩
      split
      · rfl
      · exact h.1
    | setKey cmd sta key =>
      simp only [Action.kindAddrs, List.all_append, Bool.and_eq_true] at h
      simp only [Action.addrs, Callback.addrs, Callback.extraAddrs, List.append_nil]
      rcases keyWcid_cases sta key with hw | hw
      · rw [hw]
        exact h.1
      · rw [hw]
        exact h.2
    | _ => exact h
  | _ => exact h

/-- **Registers a call does not write** keep their contents. -/
theorem action_frame {act : Action} {l : List U32} (hl : act.addrs.all (avoids l) = true)
    {h h' : Host} {s s' : RegFile} (hr : Runs (regEnv False) (act.run h) s h' s') :
    ∀ r ∈ l, s'.reg r = s.reg r := by
  refine wp_issues (action_writes act h) (I := fun s' => ∀ r ∈ l, s'.reg r = s.reg r) ?_
    (fun _ _ => rfl) h' s' hr
  intro a v s₁ hw hs r hrl
  have hne := List.all_eq_true.1 (List.all_eq_true.1 hl a (mem_actionAddrs hw)) r hrl
  rw [reg_write_other (by simpa using hne), hs r hrl]

/-! ## Runs -/

theorem step_host {a : Action} {σ τ : Sys} (h : Step a σ τ) :
    τ.host.dev.mode = a.mode σ.host.dev.mode ∧ τ.host.vifs = a.vifs σ.host.vifs ∧
      a.Ups σ.host.up τ.host.up :=
  wp_ends (action_mode a σ.host) τ.host τ.regs h.2

theorem step_call {vif : Vif} {cb : Callback} {σ τ : Sys} (h : Step (.call vif cb) σ τ) :
    Runs (regEnv False) (cb.run vif σ.host.dev) σ.regs τ.host.dev τ.regs := by
  obtain ⟨d, s, hr, hd, hs⟩ := (runs_bind _).1 h.2
  rw [hd, hs]
  exact hr

theorem step_removeInterface {vif : Vif} {σ τ : Sys} (h : Step (.removeInterface vif) σ τ) :
    Runs (regEnv False) (removeInterface σ.host.dev vif) σ.regs τ.host.dev τ.regs := by
  obtain ⟨d, s, hr, hd, hs⟩ := (runs_bind _).1 h.2
  rw [hd, hs]
  exact hr

/-- **An invariant of every step** holds after any number of them. -/
theorem reaches_inv {C : Host → Action → Prop} {I : Sys → Prop}
    (hI : ∀ a σ τ, C σ.host a → Step a σ τ → I σ → I τ) {σ τ : Sys} (h : Reaches C σ τ)
    (hσ : I σ) : I τ := by
  induction h with
  | refl => exact hσ
  | tail _ hs ih =>
    obtain ⟨a, hc, hs⟩ := hs
    exact hI a _ _ hc hs ih

theorem reaches_mono {C C' : Host → Action → Prop} (hC : ∀ h a, C h a → C' h a) {σ τ : Sys}
    (h : Reaches C σ τ) : Reaches C' σ τ := by
  induction h with
  | refl => exact .refl
  | tail _ hs ih =>
    obtain ⟨a, hc, hs⟩ := hs
    exact ih.tail ⟨a, hC _ a hc, hs⟩

/-- The system after a call that a device without failures answers. -/
def Sys.next (σ : Sys) (a : Action) : Sys :=
  ⟨((a.run σ.host).run regDevice σ.regs).1, ((a.run σ.host).run regDevice σ.regs).2⟩

theorem step_next {a : Action} {σ : Sys} (h : a.Allowed σ.host) : Step a σ (σ.next a) :=
  ⟨h, runs_run regDevice_answers _ _⟩

theorem next_host (σ : Sys) (a : Action) :
    (σ.next a).host.dev.mode = a.mode σ.host.dev.mode ∧
      (σ.next a).host.vifs = a.vifs σ.host.vifs ∧ a.Ups σ.host.up (σ.next a).host.up :=
  wp_ends (action_mode a σ.host) _ _ (runs_run (@regDevice_answers False) _ σ.regs)

/-- A device without failures starts. -/
theorem next_start_up (σ : Sys) : (σ.next .start).host.up = true := by
  simp only [Sys.next, Action.run, run_bind, start, startTail]
  simp only [alloc, Prog.request, Prog.run, regDevice, if_true, run_bind]
  rfl

/-- A registered device with the driver's fallback address, not started yet. -/
def newDevice : Sys :=
  ⟨.registered ⟨0x00, 0x0c, 0x43, 0x76, 0x03, 0x01⟩ false 0 [], fun _ => 0⟩

/-- The device started. -/
def started : Sys := newDevice.next .start

theorem started_host : started.host.dev.mode = ⟨none, 0, false, 0, 0, true⟩ ∧
    started.host.vifs = [] ∧ started.host.up = true := by
  obtain ⟨hm, hv, -⟩ := next_host newDevice .start
  exact ⟨hm, hv, next_start_up newDevice⟩

theorem step_started : Step .start newDevice started := step_next rfl

end Driver
