import Mt7603u.Proof.Lifecycle

/-!
# The beacon timer and the beacon flag

`beacon_enabled` and the registers of the beacon timer over all runs. `bss_info_changed` moves both
together (`wp_bssInfoChanged_beacon`); `stop` and the removal of the beaconing interface clear the
flag and leave the registers as they are. In runs that never do this while the flag is set
(`BeaconSafe`) the registers follow the flag (`beacon_regs_follow_flag`); in others the timer goes
on after the interface is gone (`beacon_outlives_interface`).
-/

namespace Driver

open Effect Slice Word Rust

/-! ## Registers of the timer -/

def beaconRegs : List U32 := [LPON_T0TPCR, LPON_MPTCR0, ARB_SCR]

/-- The timer runs with this period and the arbiter is in access point mode. -/
def BeaconOn (beaconInt : U16) (s : RegFile) : Prop :=
  s.reg LPON_T0TPCR = beaconInt.setWidth 32 ||| bit 31 ∧ s.reg ARB_SCR = 1

/-- The timer stands still. -/
def BeaconOff (s : RegFile) : Prop := ∀ r ∈ beaconRegs, s.reg r = 0

/-- The registers after a command to the timer. -/
def BeaconAfter (s s' : RegFile) : Option (U16 × Bool) → Prop
  | some (beaconInt, true) => BeaconOn beaconInt s'
  | some (_, false) => BeaconOff s'
  | none => ∀ r ∈ beaconRegs, s'.reg r = s.reg r

section
variable {s s₁ s₂ s' : RegFile}

theorem beaconOn_congr {beaconInt : U16} (h : ∀ r ∈ beaconRegs, s'.reg r = s.reg r)
    (hs : BeaconOn beaconInt s) : BeaconOn beaconInt s' := by
  unfold BeaconOn
  rw [h _ (by simp [beaconRegs]), h _ (by simp [beaconRegs])]
  exact hs

theorem beaconOff_congr (h : ∀ r ∈ beaconRegs, s'.reg r = s.reg r) (hs : BeaconOff s) :
    BeaconOff s' := by
  intro r hr
  rw [h r hr, hs r hr]

/-- What leaves the registers alone may stand before and behind a command. -/
theorem beaconAfter_congr {cmd : Option (U16 × Bool)} (h : ∀ r ∈ beaconRegs, s₁.reg r = s.reg r)
    (h' : ∀ r ∈ beaconRegs, s'.reg r = s₂.reg r) (hc : BeaconAfter s₁ s₂ cmd) :
    BeaconAfter s s' cmd := by
  match cmd with
  | some (beaconInt, true) => exact beaconOn_congr h' hc
  | some (_, false) => exact beaconOff_congr h' hc
  | none =>
    intro r hr
    rw [h' r hr, hc r hr, h r hr]

theorem distinct_bssSync (beaconInt : U16) (enable : Bool) :
    Distinct (apBssSyncSeq beaconInt enable) := by
  cases enable with
  | true =>
    have h : ([LPON_T0TPCR, LPON_MPTCR0, LPON_PISR, LPON_T0CR, ARB_SCR, ARB_BCNQCR0].map
        physicalAddrMap).Pairwise (· ≠ ·) := by decide +kernel
    change ((apBssSyncSeq beaconInt true).map fun op => physicalAddrMap op.addr).Pairwise _ at h
    exact List.pairwise_map.1 h
  | false =>
    have h : ([LPON_T0TPCR, LPON_MPTCR0, ARB_SCR, ARB_BCNQCR1].map
        physicalAddrMap).Pairwise (· ≠ ·) := by decide +kernel
    change ((apBssSyncSeq beaconInt false).map fun op => physicalAddrMap op.addr).Pairwise _ at h
    exact List.pairwise_map.1 h

theorem period_word {beaconInt : U16} (h : beaconInt ≠ 0) :
    ((if beaconInt = 0 then (100 : U32) else beaconInt.setWidth 32) &&& 0xFFFF) ||| 0x80000000 =
      beaconInt.setWidth 32 ||| bit 31 := by
  rw [if_neg h]
  apply BitVec.eq_of_toNat_eq
  have hm : (beaconInt.toNat % 2 ^ 32) &&& 65535 = beaconInt.toNat % 2 ^ 32 := by
    rw [show 65535 = 2 ^ 16 - 1 by rfl, Nat.and_two_pow_sub_one_eq_mod]
    omega
  simp only [BitVec.toNat_or, BitVec.toNat_and, BitVec.toNat_setWidth]
  change (beaconInt.toNat % 2 ^ 32) &&& 65535 ||| 2147483648 = _
  rw [hm]
  rfl

/-- The sequence of a command puts the registers where they belong. -/
theorem beaconAfter_apply {beaconInt : U16} {enable : Bool} (h : enable = true → beaconInt ≠ 0) :
    BeaconAfter s (s.apply (apBssSyncSeq beaconInt enable)) (some (beaconInt, enable)) := by
  have hh := holds_apply (s := s) (distinct_bssSync beaconInt enable)
  cases enable with
  | true =>
    refine ⟨(hh ⟨LPON_T0TPCR, _⟩ (List.mem_cons_self ..)).trans (period_word (h rfl)), ?_⟩
    exact hh ⟨ARB_SCR, 1⟩ (by simp [apBssSyncSeq])
  | false =>
    intro r hr
    simp only [beaconRegs, List.mem_cons, List.not_mem_nil, or_false] at hr
    rcases hr with rfl | rfl | rfl
    · exact hh ⟨LPON_T0TPCR, 0⟩ (by simp [apBssSyncSeq])
    · exact hh ⟨LPON_MPTCR0, 0⟩ (by simp [apBssSyncSeq])
    · exact hh ⟨ARB_SCR, 0⟩ (by simp [apBssSyncSeq])

end

/-! ## BSS changes -/

section
variable {reads : Prop} {dev : Dev} {vif : Vif} {s : RegFile}

/-- The registers a change of the BSS writes outside the timer. -/
def bssOtherAddrs : List U32 := [RMAC_CHFREQ, RMAC_RMACDR] ++ apAddrs ++ peerAddrs

theorem bssOther_avoids {a : U32} (h : a ∈ bssOtherAddrs) : avoids beaconRegs a = true := by
  have hd : bssOtherAddrs.all (avoids beaconRegs) = true := by decide +kernel
  exact List.all_eq_true.1 hd a h

theorem beaconFrame_tuneToOper {info : Option BssConf} :
    All (S := sig) (Issues fun a _ => avoids beaconRegs a = true) (tuneToOper dev info) := by
  unfold tuneToOper
  split
  · exact all_tuneTo (bssOther_avoids (by simp [bssOtherAddrs]))
  · trivial

theorem beaconFrame_programAp :
    All (S := sig) (Issues fun a _ => avoids beaconRegs a = true) (programAp dev (some vif)) := by
  refine all_programAp (fun _ op hop => bssOther_avoids ?_)
    fun _ => bssOther_avoids (by simp [bssOtherAddrs])
  simp only [bssOtherAddrs, List.mem_append]
  exact .inl (.inr (apAddrOps_addr hop))

theorem beaconFrame_bssidChanged {info : Option BssConf} :
    All (S := sig) (Issues fun a _ => avoids beaconRegs a = true)
      (bssidChanged dev (some vif) info) := by
  refine all_bssidChanged (bssOther_avoids (by simp [bssOtherAddrs]))
    (fun _ => bssOther_avoids (by simp [bssOtherAddrs])) (fun _ _ _ => ⟨?_, ?_⟩)
    fun _ a ha _ => bssOther_avoids ?_
  · exact bssOther_avoids (by simp [bssOtherAddrs, apAddrs])
  · exact bssOther_avoids (by simp [bssOtherAddrs, apAddrs])
  · rcases List.mem_append.1 ha with ha | ha
    · simp only [bssOtherAddrs, apAddrs, List.mem_append, List.mem_cons] at ha ⊢
      tauto
    · exact List.mem_append_right _ ha

theorem wp_bssSync {beaconInt : U16} {enable : Bool} {Q : Unit → RegFile → Prop} :
    wp (regEnv reads) (executeBuilt (buildApBssSyncSequence beaconInt enable) 32) s Q ↔
      Q () (s.apply (apBssSyncSeq beaconInt enable)) := by
  refine wp_executeBuilt (fills_buildApBssSyncSequence beaconInt enable) ?_
  cases enable <;> exact Nat.le_of_ble_eq_true rfl

theorem wp_disableBeacon {changed : BitVec 64} :
    wp (regEnv reads) (disableBeacon dev changed) s fun _ s' => BeaconAfter s s'
      (if changed &&& BSS_CHANGED_BEACON_ENABLED ≠ 0 then some (0, false) else none) := by
  unfold disableBeacon
  by_cases hc : changed &&& BSS_CHANGED_BEACON_ENABLED ≠ 0
  · rw [if_pos hc, if_pos hc, wp_bind, wp_cancelBeacon, wp_bind, wp_bssSync]
    exact (wp_ret _).2 (beaconAfter_apply (by simp))
  · rw [if_neg hc, if_neg hc]
    exact (wp_ret _).2 fun _ _ => rfl

theorem wp_beaconChanged {info : Option BssConf} {changed : BitVec 64}
    (hc : changed &&& BEACON_CHANGES ≠ 0) :
    wp (regEnv reads) (beaconChanged dev (some vif) info changed) s fun _ s' =>
      BeaconAfter s s' (beaconCmd info changed) := by
  unfold beaconChanged
  rw [wp_bind]
  refine wp_mono (wp_frame beaconFrame_programAp) fun d s₁ h1 => ?_
  cases info with
  | none =>
    rw [beaconCmd_off hc (by simp)]
    exact wp_mono wp_disableBeacon fun _ s₂ h2 => beaconAfter_congr h1 (fun _ _ => rfl) h2
  | some bss =>
    by_cases he : bss.enableBeacon = true
    · have hi := beaconCmd_period (beaconCmd_on hc he)
      simp only [he, if_true, beaconCmd_on hc he]
      rw [wp_bind, wp_bssSync, wp_bind, wp_scheduleBeacon]
      exact (wp_ret _).2 (beaconAfter_congr h1 (fun _ _ => rfl) (beaconAfter_apply fun _ => hi))
    · rw [beaconCmd_off hc (by simpa using he)]
      simp only [he]
      exact wp_mono wp_disableBeacon fun _ s₂ h2 => beaconAfter_congr h1 (fun _ _ => rfl) h2

/-- **A change of the BSS** does to the timer what `beaconCmd` says, and nothing else. -/
theorem wp_bssInfoChanged_beacon {info : Option BssConf} {changed : BitVec 64} :
    wp (regEnv reads) (bssInfoChanged dev (some vif) info changed) s fun _ s' =>
      BeaconAfter s s' (beaconCmd info changed) := by
  unfold bssInfoChanged
  rw [wp_bind]
  refine wp_mono (wp_frame beaconFrame_tuneToOper) fun d s₁ h1 => ?_
  rw [wp_bind]
  have hmid : wp (regEnv reads) (if changed &&& BEACON_CHANGES ≠ 0 then
      beaconChanged d (some vif) info changed else pure d : P Dev) s₁ fun _ s₂ =>
      BeaconAfter s₁ s₂ (beaconCmd info changed) := by
    by_cases hc : changed &&& BEACON_CHANGES ≠ 0
    · rw [if_pos hc]
      exact wp_beaconChanged hc
    · rw [if_neg hc, beaconCmd_none (by simpa using hc)]
      exact (wp_ret _).2 fun _ _ => rfl
  refine wp_mono hmid fun d s₂ h2 => ?_
  split
  · exact wp_mono (wp_frame beaconFrame_bssidChanged) fun _ s₃ h3 => beaconAfter_congr h1 h3 h2
  · exact (wp_ret _).2 (beaconAfter_congr h1 (fun _ _ => rfl) h2)

end

/-! ## Calls -/

/-- What a call asks of the timer. -/
def Action.beaconCmd : Action → Option (U16 × Bool)
  | .call _ (.bssInfoChanged info changed) => Driver.beaconCmd info changed
  | _ => none

/-- Calls other than `start` and a change of the BSS do not touch the timer. -/
theorem beaconRegs_avoided {a : Action} (hs : a ≠ .start)
    (hb : ∀ vif info changed, a ≠ .call vif (.bssInfoChanged info changed)) :
    a.addrs.all (avoids beaconRegs) = true := by
  apply addrs_avoid
  cases a with
  | start => exact absurd rfl hs
  | stop => rfl
  | removeInterface vif =>
    simp only [Action.kindAddrs, Action.addrs]
    decide +kernel
  | call vif cb =>
    cases cb with
    | bssInfoChanged info changed => exact absurd rfl (hb vif info changed)
    | _ =>
      simp only [Action.kindAddrs, Action.addrs, Callback.addrs, Callback.extraAddrs]
      decide +kernel

/-- The timer after a call. -/
theorem step_beacon {a : Action} {σ τ : Sys} (h : Step a σ τ) (hs : a ≠ .start) :
    BeaconAfter σ.regs τ.regs a.beaconCmd := by
  by_cases hb : ∀ vif info changed, a ≠ .call vif (.bssInfoChanged info changed)
  · have hc : a.beaconCmd = none := by
      unfold Action.beaconCmd
      split
      · exact absurd rfl (hb _ _ _)
      · rfl
    rw [hc]
    exact action_frame (beaconRegs_avoided hs hb) h.2
  · simp only [ne_eq, not_forall, not_not] at hb
    obtain ⟨vif, info, changed, rfl⟩ := hb
    exact wp_bssInfoChanged_beacon _ _ (step_call h)

/-- `start` writes nothing but 0 to the timer's registers. -/
theorem start_beaconOff {σ τ : Sys} (h : Step .start σ τ) (hs : BeaconOff σ.regs) :
    BeaconOff τ.regs := by
  have hd : List.all macInitSeq (fun op => avoids beaconRegs op.addr || op.val == 0) = true := by
    decide +kernel
  have hd' : startAddrs.all (avoids beaconRegs) = true := by decide +kernel
  refine wp_issues (action_writes .start σ.host) (I := BeaconOff) ?_ hs τ.host τ.regs h.2
  intro a v s hw hs r hr
  have hv : avoids beaconRegs a = true ∨ v = 0 := by
    rcases hw with hw | hw
    · simpa using List.all_eq_true.1 hd _ hw
    · exact .inl (List.all_eq_true.1 hd' a hw)
  rw [reg_write]
  split
  · rename_i he
    rcases hv with hv | hv
    · exact absurd he (by simpa using List.all_eq_true.1 hv r hr)
    · exact hv
  · exact hs r hr

/-- The device is not stopped, and the beaconing interface not removed, while the beacon flag
is set. -/
def BeaconSafe (h : Host) : Action → Prop
  | .stop => h.dev.beaconEnabled = false
  | .removeInterface vif => h.dev.apVif = some vif.id → h.dev.beaconEnabled = false
  | _ => True

/-- The flag after a safe call. -/
theorem mode_beacon {h : Host} {a : Action} (hc : BeaconSafe h a) :
    match a.beaconCmd with
    | some (beaconInt, true) => (a.mode h.dev.mode).beaconEnabled = true ∧
        (a.mode h.dev.mode).beaconInt = beaconInt
    | some (_, false) => (a.mode h.dev.mode).beaconEnabled = false
    | none => (a.mode h.dev.mode).beaconEnabled = h.dev.beaconEnabled ∧
        (a.mode h.dev.mode).beaconInt = h.dev.beaconInt := by
  cases a with
  | start => exact ⟨rfl, rfl⟩
  | stop => exact ⟨hc.symm, rfl⟩
  | removeInterface vif =>
    refine ⟨?_, rfl⟩
    simp only [Action.mode, Mode.removeInterface]
    split
    · rename_i hv
      exact (hc hv).symm
    · rfl
  | call vif cb =>
    cases cb with
    | bssInfoChanged info changed =>
      simp only [Action.beaconCmd, Action.mode, Callback.mode, Mode.bssInfoChanged]
      generalize Driver.beaconCmd info changed = cmd
      cases cmd with
      | none => exact ⟨rfl, rfl⟩
      | some c =>
        obtain ⟨beaconInt, enable⟩ := c
        cases enable with
        | true => exact ⟨rfl, rfl⟩
        | false => rfl
    | _ => exact ⟨rfl, rfl⟩

/-! ## Runs -/

/-- A device that is down has the flag cleared. -/
def Idle (σ : Sys) : Prop := σ.host.up = false → σ.host.dev.beaconEnabled = false

/-- The registers agree with the flag; with a cleared flag only if `strict`. -/
def Follows (strict : Prop) (σ : Sys) : Prop :=
  (σ.host.dev.beaconEnabled = true → BeaconOn σ.host.dev.beaconInt σ.regs) ∧
    (strict → σ.host.dev.beaconEnabled = false → BeaconOff σ.regs)

section
variable {a : Action} {σ τ : Sys}

theorem idle_step (hs : Step a σ τ) (h : Idle σ) : Idle τ := by
  obtain ⟨hm, -, hu⟩ := step_host hs
  have hb : τ.host.dev.beaconEnabled = (a.mode σ.host.dev.mode).beaconEnabled :=
    congrArg Mode.beaconEnabled hm
  intro hup
  rw [hb]
  cases a with
  | start => exact h hs.1
  | stop => rfl
  | removeInterface vif =>
    exact absurd (hs.1.1.symm.trans (hu.symm.trans hup)) (by decide)
  | call vif cb =>
    have hu' : σ.host.up = true := by
      have ha := hs.1
      cases cb <;> first | exact ha | exact ha.1
    exact absurd (hu'.symm.trans (hu.symm.trans hup)) (by decide)

theorem follows_step {strict : Prop} (hc : BeaconSafe σ.host a) (hs : Step a σ τ) (hi : Idle σ)
    (h : Follows strict σ) : Follows strict τ := by
  obtain ⟨hm, -, -⟩ := step_host hs
  have hb : τ.host.dev.beaconEnabled = (a.mode σ.host.dev.mode).beaconEnabled :=
    congrArg Mode.beaconEnabled hm
  have hi' : τ.host.dev.beaconInt = (a.mode σ.host.dev.mode).beaconInt :=
    congrArg Mode.beaconInt hm
  unfold Follows
  rw [hb, hi']
  by_cases hst : a = .start
  · -- the device was down, so the flag is cleared and stays so
    subst hst
    have hf : σ.host.dev.beaconEnabled = false := hi hs.1
    refine ⟨fun ht => ?_, fun hstrict _ => start_beaconOff hs (h.2 hstrict hf)⟩
    exact absurd (hf.symm.trans ht) (by decide)
  · have hr := step_beacon hs hst
    have hmode := mode_beacon hc
    cases hcmd : a.beaconCmd with
    | none =>
      rw [hcmd] at hr hmode
      obtain ⟨he, hint⟩ := hmode
      rw [he, hint]
      exact ⟨fun ht => beaconOn_congr hr (h.1 ht), fun hstrict hf =>
        beaconOff_congr hr (h.2 hstrict hf)⟩
    | some c =>
      obtain ⟨beaconInt, enable⟩ := c
      rw [hcmd] at hr hmode
      cases enable with
      | true =>
        obtain ⟨he, hint⟩ := hmode
        rw [he, hint]
        exact ⟨fun _ => hr, fun _ hf => absurd hf (by decide)⟩
      | false =>
        dsimp only at hmode
        rw [hmode]
        exact ⟨fun ht => absurd ht (by decide), fun _ _ => hr⟩

end

theorem follows_reaches {strict : Prop} {σ τ : Sys} (h : Reaches BeaconSafe σ τ) (hi : Idle σ)
    (hf : Follows strict σ) : Idle τ ∧ Follows strict τ :=
  reaches_inv (I := fun σ => Idle σ ∧ Follows strict σ)
    (fun _ _ _ hc hs ⟨hi, hf⟩ => ⟨idle_step hs hi, follows_step hc hs hi hf⟩) h ⟨hi, hf⟩

/-- With `σ` before `τ`: the timer runs in `τ` if the flag is set there, and stands still if the
flag was set in `σ` and is cleared in `τ`. -/
def BeaconFollows (σ τ : Sys) : Prop :=
  (τ.host.dev.beaconEnabled = true → BeaconOn τ.host.dev.beaconInt τ.regs) ∧
    (σ.host.dev.beaconEnabled = true → τ.host.dev.beaconEnabled = false → BeaconOff τ.regs)

/-- **The beacon timer follows the beacon flag** in every run in which the device is not stopped
and the beaconing interface not removed while the flag is set. -/
theorem beacon_regs_follow_flag (macAddr : MacAddr) (eepromValid : Bool) (rssiOffset2g : Int)
    (eeprom : List U8) (s : RegFile) (σ τ : Sys)
    (hσ : Reaches BeaconSafe ⟨.registered macAddr eepromValid rssiOffset2g eeprom, s⟩ σ)
    (hτ : Reaches BeaconSafe σ τ) : BeaconFollows σ τ := by
  have h0 : Idle σ ∧ Follows False σ := by
    refine follows_reaches hσ (fun _ => rfl) ⟨fun ht => ?_, False.elim⟩
    exact Bool.noConfusion (ht : false = true)
  have h1 : Follows (σ.host.dev.beaconEnabled = true) σ := by
    refine ⟨h0.2.1, fun ht hf => ?_⟩
    exact absurd (ht.symm.trans hf) (by decide)
  exact (follows_reaches hτ h0.1 h1).2

/-! ## A hotspot -/

def hotspot : Vif := ⟨0, .ap, ⟨0x00, 0x0c, 0x43, 0x76, 0x03, 0x01⟩, none⟩

/-- hostapd turns the hotspot's beacon on or off. -/
def hotspotBeacon (enable : Bool) : Action :=
  .call hotspot
    (.bssInfoChanged (some ⟨some hotspot.addr, none, enable, 100, none⟩) BSS_CHANGED_BEACON_ENABLED)

/-- The device started, with the hotspot's interface. -/
def withHotspot : Sys := started.next (.call hotspot .addInterface)

/-- The hotspot beacons. -/
def beaconing : Sys := withHotspot.next (hotspotBeacon true)

theorem withHotspot_host : withHotspot.host.dev.mode = ⟨some 0, 0, false, 0, 0, true⟩ ∧
    withHotspot.host.vifs = [(0, .ap)] ∧ withHotspot.host.up = true := by
  obtain ⟨hm, hv, hu⟩ := next_host started (.call hotspot .addInterface)
  obtain ⟨hm', hv', hu'⟩ := started_host
  refine ⟨?_, ?_, Eq.trans hu hu'⟩
  · rw [withHotspot, hm, hm']
    rfl
  · rw [withHotspot, hv, hv']
    rfl

theorem beaconing_host : beaconing.host.dev.mode = ⟨some 0, 100, true, 0, 0, true⟩ ∧
    beaconing.host.vifs = [(0, .ap)] ∧ beaconing.host.up = true := by
  obtain ⟨hm, hv, hu⟩ := next_host withHotspot (hotspotBeacon true)
  obtain ⟨hm', hv', hu'⟩ := withHotspot_host
  refine ⟨?_, ?_, Eq.trans hu hu'⟩
  · rw [beaconing, hm, hm']
    decide
  · rw [beaconing, hv, hv']
    rfl

theorem reaches_beaconing : Reaches BeaconSafe newDevice beaconing := by
  have h1 : Step (.call hotspot .addInterface) started withHotspot :=
    step_next ⟨started_host.2.2, by rw [started_host.2.1]; decide⟩
  have h2 : Step (hotspotBeacon true) withHotspot beaconing :=
    step_next ⟨withHotspot_host.2.2, by rw [withHotspot_host.2.1]; decide⟩
  exact ((Relation.ReflTransGen.single ⟨.start, trivial, step_started⟩).tail
    ⟨.call hotspot .addInterface, trivial, h1⟩).tail ⟨hotspotBeacon true, trivial, h2⟩

theorem beaconing_enabled : beaconing.host.dev.beaconEnabled = true :=
  congrArg Mode.beaconEnabled beaconing_host.1

/-- The hotspot's beacon turned off again: the timer stands still. -/
theorem hotspot_beacon_off : beaconing.host.dev.beaconEnabled = true ∧
    (beaconing.next (hotspotBeacon false)).host.dev.beaconEnabled = false ∧
      BeaconOff (beaconing.next (hotspotBeacon false)).regs := by
  have hs : Step (hotspotBeacon false) beaconing (beaconing.next (hotspotBeacon false)) :=
    step_next ⟨beaconing_host.2.2, by rw [beaconing_host.2.1]; decide⟩
  have hf : (beaconing.next (hotspotBeacon false)).host.dev.beaconEnabled = false := by
    have hm := (next_host beaconing (hotspotBeacon false)).1
    rw [beaconing_host.1] at hm
    exact (congrArg Mode.beaconEnabled hm).trans (by decide)
  refine ⟨beaconing_enabled, hf, ?_⟩
  exact (beacon_regs_follow_flag _ _ _ _ _ _ _ reaches_beaconing
    (.single ⟨hotspotBeacon false, trivial, hs⟩)).2 beaconing_enabled hf

/-- **The hotspot removed while it beacons**: the flag is cleared, the timer still runs. -/
theorem beacon_outlives_interface :
    ¬∀ (macAddr : MacAddr) (eepromValid : Bool) (rssiOffset2g : Int) (eeprom : List U8)
      (s : RegFile) (σ τ : Sys),
      Reaches (fun _ _ => True) ⟨.registered macAddr eepromValid rssiOffset2g eeprom, s⟩ σ →
        Reaches (fun _ _ => True) σ τ → BeaconFollows σ τ := by
  intro h
  have hs : Step (.removeInterface hotspot) beaconing (beaconing.next (.removeInterface hotspot)) :=
    step_next ⟨beaconing_host.2.2, by rw [beaconing_host.2.1]; decide⟩
  have hf : (beaconing.next (.removeInterface hotspot)).host.dev.beaconEnabled = false := by
    have hm := (next_host beaconing (.removeInterface hotspot)).1
    rw [beaconing_host.1] at hm
    exact (congrArg Mode.beaconEnabled hm).trans (by decide)
  have hoff := (h _ _ _ _ _ beaconing _ (reaches_mono (fun _ _ _ => trivial) reaches_beaconing)
    (.single ⟨_, trivial, hs⟩)).2 beaconing_enabled hf
  -- the removal writes no register of the timer, which was running
  have hfr := action_frame (beaconRegs_avoided (by simp) (by simp)) hs.2
  have hon := (@follows_reaches False _ _ reaches_beaconing (fun _ => rfl)
    ⟨fun ht => Bool.noConfusion (ht : false = true), False.elim⟩).2.1 beaconing_enabled
  have hint : beaconing.host.dev.beaconInt = 100 := congrArg Mode.beaconInt beaconing_host.1
  have h0 := hoff LPON_T0TPCR (by simp [beaconRegs])
  rw [hfr LPON_T0TPCR (by simp [beaconRegs]), hon.1, hint] at h0
  exact absurd h0 (by decide)

end Driver
