import Mt7603u.Base.Refine
import Mt7603u.Proof.ChipView
import Mt7603u.Proof.ControlMsg
import Mt7603u.Proof.RadioExchange

/-!
# The registers mean what the calls say

`wp_runCalls`: with register accesses succeeding, after any calls of mac80211 on any interfaces the
registers mean what the same calls make of their first meaning. The callbacks are taken apart into
the writes of `ChipView`; what they ask the device besides and write elsewhere is not seen
(`means_quiet`). `calls_follow` is this over control transfers.
-/

namespace Driver

open Effect Slice Word Rust

/-! ## Callbacks -/

/-- Seen in the registers' meaning, the program is the function `f`. -/
def Means {α : Type} (p : P α) (f : Chip → Chip) : Prop := ActsAs (regEnv True) chipOf p f

/-- The registers the driver writes that are not of the meaning. -/
def otherAddrs : List U32 :=
  [RMAC_RMACDR, RMAC_CHFREQ, RMAC_RFCR, RMAC_RFCR1, RMAC_BSCR0, RMAC_BSCR1, MT7603_UDMA_WLCFG_0,
    DMA_TCFR1] ++ bssAddrs ++ macInitSeq.map (·.addr)

theorem avoids_other : ∀ a ∈ otherAddrs, avoids chipAddrs a = true :=
  List.all_eq_true.1 rfl

section
variable {vif : Vif} {dev : Dev}

/-- A program that writes none of the registers of the meaning. -/
theorem means_quiet {α : Type} {p : P α}
    (hp : All (S := sig) (Issues fun a _ => avoids chipAddrs a = true) p) : Means p id :=
  fun _ => wp_mono (wp_frame hp) fun _ _ h => chipOf_congr h

theorem means_onlyIf_quiet {c : Prop} [Decidable c] {x : P Unit} (h : c → Means x id) :
    Means (onlyIf c x) id := by
  unfold onlyIf
  split
  · rename_i hc
    exact h hc
  · exact actsAs_ret

theorem means_ownMac (a : MacAddr) {max : Nat} (hm : 2 ≤ max) :
    Means (executeBuilt (buildOwnMacSequence a) max) fun c => { c with own := some a } := by
  intro s
  rw [wp_executeBuilt (fills_buildOwnMacSequence a) hm]
  exact chipOf_ownMac a

theorem means_writeBssid (a : MacAddr) :
    Means (writeBssid a) fun c => { c with bssid := some a } := by
  intro s
  rw [wp_writeBssid]
  exact chipOf_setBssid a

theorem means_clearBssid : Means clearBssid fun c => { c with bssid := none } := by
  intro s
  simp only [clearBssid, wp_bind, wp_usbWriteReg, Prog.pure_eq, wp_ret]
  exact chipOf_clearBssid

theorem means_programPeer (a : MacAddr) : Means (programPeer a) fun c => c.newPeer a := by
  intro s
  rw [wp_programPeer]
  exact chipOf_addPeer a

theorem means_clearEntry1 : Means clearEntry1 Chip.dropPeer := by
  intro s
  simp only [clearEntry1, wp_bind, wp_usbWriteReg, Prog.pure_eq, wp_ret]
  exact chipOf_clearPeer

theorem means_clearMbssid : Means clearMbssid id :=
  means_quiet (all_clearMbssid fun _ => avoids_other _ (by simp [otherAddrs]))

theorem means_tuneToPeer {addr : MacAddr} {fallback : Option U8} :
    Means (tuneToPeer dev addr fallback) id :=
  means_quiet (all_tuneToPeer (avoids_other _ (by simp [otherAddrs])))

theorem avoids_rfcr : ∀ a ∈ [RMAC_RFCR, RMAC_RFCR1], ∀ _v : U32, avoids chipAddrs a = true := by
  intro a ha _
  have hl : [RMAC_RFCR, RMAC_RFCR1] ⊆ otherAddrs := by simp [otherAddrs]
  exact avoids_other a (hl ha)

theorem means_rxFilter {promisc fcsFail : Bool} :
    Means (executeBuilt (buildRxFilterSequence promisc fcsFail) 4) id :=
  means_quiet (all_rxFilter avoids_rfcr)

theorem means_bssSync {period : U16} {enable : Bool} :
    Means (executeBuilt (buildApBssSyncSequence period enable) 32) id :=
  means_quiet (all_bssSync (by decide) fun a ha _ =>
    avoids_other a (List.mem_append_left _ (List.mem_append_right _ ha)))

theorem means_request {e : Req} (h : ∀ a v, e ≠ .writeReg a v) :
    Means (Prog.request (S := sig) e) id := by
  refine means_quiet (all_request.2 ?_)
  cases e with
  | writeReg a v => exact absurd rfl (h a v)
  | _ => trivial

theorem isAp_some : Vif.isAp (some vif) = decide (vif.type = .ap) := rfl

theorem means_addInterface :
    Means (addInterface dev vif) fun c => Callback.addInterface.chip vif c := by
  unfold addInterface
  refine ActsAs.after_quiet (means_onlyIf_quiet fun _ => means_rxFilter) fun _ => ?_
  unfold Callback.chip
  by_cases hz : vif.addr.isZero
  · simp only [hz, if_true]
    exact actsAs_ret
  by_cases hv : vif.type = .ap
  · simp only [hz, hv, if_true]
    exact actsAs_bind (means_ownMac vif.addr (by decide)) fun _ =>
      (means_writeBssid vif.addr).then_quiet fun _ => actsAs_ret
  · simp only [hz, hv, if_false]
    exact (means_ownMac vif.addr (by decide)).then_quiet fun _ => actsAs_ret

theorem means_programAp : Means (programAp dev (some vif)) fun c => c.setAp vif := by
  unfold programAp Chip.setAp
  dsimp only
  by_cases hv : vif.type = .ap ∧ ¬vif.addr.isZero
  · simp only [if_pos hv]
    refine actsAs_bind (means_ownMac vif.addr (by decide)) fun _ =>
      actsAs_bind (means_writeBssid vif.addr) fun _ =>
        means_clearMbssid.after_quiet fun _ => actsAs_ret
  · simp only [if_neg hv]
    exact actsAs_ret

theorem means_disableBeacon {changed : BitVec 64} : Means (disableBeacon dev changed) id := by
  unfold disableBeacon
  split
  · refine (means_request (by simp)).after_quiet fun _ => ?_
    exact means_bssSync.then_quiet fun _ => actsAs_ret
  · exact actsAs_ret

theorem means_beaconChanged {info : Option BssConf} {changed : BitVec 64} :
    Means (beaconChanged dev (some vif) info changed) fun c => c.setAp vif := by
  unfold beaconChanged
  refine means_programAp.then_quiet fun d => ?_
  split
  · split
    · exact means_bssSync.after_quiet fun _ =>
        (means_request (by simp)).then_quiet fun _ => actsAs_ret
    · exact means_disableBeacon
  · exact means_disableBeacon

theorem means_bssidCleared :
    Means (bssidCleared dev (some vif)) fun c =>
      if vif.type = .ap then c else { c with bssid := none }.dropPeer := by
  unfold bssidCleared onlyIf
  rw [isAp_some]
  by_cases hv : vif.type = .ap
  · simp only [hv, decide_true, not_true, if_false, if_true]
    exact actsAs_ret
  · simp only [hv, decide_false, Bool.false_eq_true, not_false_eq_true, if_true, if_false]
    exact (actsAs_bind means_clearBssid fun _ => means_clearEntry1).then_quiet fun _ => actsAs_ret

/-- After the BSSID: a station interface's peer. -/
theorem means_bssidPeer {b : MacAddr} :
    Means (do
      clearMbssid
      onlyIf (¬Vif.isAp (some vif)) (programPeer b)
      return dev) fun c => if vif.type = .ap then c else c.newPeer b := by
  refine means_clearMbssid.after_quiet fun _ => ?_
  unfold onlyIf
  rw [isAp_some]
  by_cases hv : vif.type = .ap
  · simp only [hv, decide_true, not_true, if_false, if_true]
    exact ActsAs.after_quiet actsAs_ret fun _ => actsAs_ret
  · simp only [hv, decide_false, Bool.false_eq_true, not_false_eq_true, if_true, if_false]
    exact (means_programPeer b).then_quiet fun _ => actsAs_ret

theorem means_bssidChanged {info : Option BssConf} :
    Means (bssidChanged dev (some vif) info) fun c => c.setBssid vif (info.bind (·.bssid)) := by
  unfold bssidChanged Chip.setBssid
  cases info.bind (·.bssid) with
  | none => exact means_bssidCleared
  | some b =>
    dsimp only
    by_cases hz : b.isZero
    · simp only [hz, if_true]
      exact means_bssidCleared
    simp only [hz, Bool.false_eq_true, if_false]
    refine means_tuneToPeer.after_quiet fun d s => ?_
    rw [wp_bind, wp_usbWriteReg, onlyIf, if_pos rfl, wp_bind, wp_bind, wp_usbWriteReg, Prog.pure_eq,
      wp_ret]
    refine wp_mono (means_bssidPeer _) fun _ s' h => ?_
    rw [h, chipOf_setBssid]

theorem means_bssInfoChanged {info : Option BssConf} {changed : BitVec 64} :
    Means (bssInfoChanged dev (some vif) info changed) fun c =>
      (Callback.bssInfoChanged info changed).chip vif c := by
  have hoper : Means (tuneToOper dev info) id := by
    unfold tuneToOper
    split
    · exact means_quiet (all_tuneTo (avoids_other _ (by simp [otherAddrs])))
    · exact actsAs_ret
  unfold bssInfoChanged Callback.chip
  refine hoper.after_quiet fun d => ?_
  refine actsAs_bind
    (f := fun c : Chip => if changed &&& BEACON_CHANGES ≠ 0 then c.setAp vif else c)
    (g := fun c : Chip => if changed &&& (BSS_CHANGED_BSSID ||| BSS_CHANGED_ASSOC) ≠ 0 then
      c.setBssid vif (info.bind (·.bssid)) else c) ?_ fun d => ?_
  · by_cases hc : changed &&& BEACON_CHANGES ≠ 0
    · simp only [if_pos hc]
      exact means_beaconChanged
    · simp only [if_neg hc]
      exact actsAs_ret
  · by_cases hc : changed &&& (BSS_CHANGED_BSSID ||| BSS_CHANGED_ASSOC) ≠ 0
    · simp only [if_pos hc]
      exact means_bssidChanged
    · simp only [if_neg hc]
      exact actsAs_ret

theorem means_staAdd {sta : MacAddr} :
    Means (staAdd dev (some vif) sta) fun c => (Callback.staAdd sta).chip vif c := by
  unfold staAdd Callback.chip onlyIf
  rw [isAp_some]
  by_cases hz : sta.isZero
  · simp only [hz, if_true]
    exact actsAs_ret
  by_cases hv : vif.type = .ap
  · simp only [hz, hv, decide_true, not_true, if_false, if_true, Bool.false_eq_true]
    refine actsAs_ret.after_quiet fun d => ActsAs.after_quiet actsAs_ret fun _ => ?_
    exact (means_programPeer sta).then_quiet fun _ => actsAs_ret
  · simp only [hz, hv, decide_false, Bool.false_eq_true, not_false_eq_true, if_true, if_false]
    refine means_tuneToPeer.after_quiet fun d => ?_
    exact actsAs_bind (means_writeBssid sta) fun _ =>
      (means_programPeer sta).then_quiet fun _ => actsAs_ret

theorem means_staRemove {sta : MacAddr} :
    Means (staRemove dev (some vif)) fun c => (Callback.staRemove sta).chip vif c := by
  unfold staRemove Callback.chip onlyIf
  rw [isAp_some]
  by_cases hv : vif.type = .ap
  · simp only [hv, decide_true, not_true, if_false, if_true]
    exact ActsAs.after_quiet actsAs_ret fun _ => means_clearEntry1.then_quiet fun _ => actsAs_ret
  · simp only [hv, decide_false, Bool.false_eq_true, not_false_eq_true, if_true, if_false]
    exact actsAs_bind means_clearBssid fun _ => means_clearEntry1.then_quiet fun _ => actsAs_ret

theorem means_setKey {cmd : SetKeyCmd} {sta : Option MacAddr} {key : KeyConf} :
    Means (setKey cmd (some vif) sta key) fun c => (Callback.setKey cmd sta key).chip vif c := by
  intro s
  have hw := keyWcid_cases sta key
  cases cmd with
  | disableKey =>
    rw [wp_setKey_remove]
    exact chipOf_removeKey hw
  | setKey =>
    by_cases hk : key.cipher = WLAN_CIPHER_SUITE_CCMP
    · rw [wp_setKey_install hk, chipOf_installKey hw]
      simp only [Callback.chip, if_pos hk, isAp_some, decide_eq_false_iff_not, ne_eq]
    · rw [wp_setKey_refused hk]
      simp only [Callback.chip, if_neg hk]

/-- The session part of a BlockAck call. -/
theorem wp_buildBa {wcid tid baSize : U8} {enable : Bool} {dw15 : U32} {s : RegFile}
    {Q : Unit → RegFile → Prop} :
    wp (regEnv True) (executeBuilt (buildBaSessionSequence wcid tid baSize enable dw15) 4) s Q ↔
      Q () (if tid < 8 then s.write (wtbl2Dw15 wcid) (baDw15 tid baSize enable dw15) else s) := by
  unfold buildBaSessionSequence
  by_cases ht : tid < 8
  · rw [if_neg (BitVec.not_le.2 ht), if_pos ht]
    have hB : (Out.sized 1 (-ENOSPC) (.setFrom 0
        [⟨wtbl2Dw15 wcid, baDw15 tid baSize enable dw15⟩]) : Out RegWriteOp Nat).Fills
          [⟨wtbl2Dw15 wcid, baDw15 tid baSize enable dw15⟩] := fills_setSeq rfl
    exact wp_executeBuilt hB (Nat.le_of_ble_eq_true rfl)
  · rw [if_pos (BitVec.not_lt.1 ht), if_neg ht]
    unfold executeBuilt
    rw [rustCall_fail]
    exact wp_ret _

theorem chipOf_ba {params : AmpduParams} {baSize : U8} {enable : Bool} {s : RegFile}
    (h : params.session = some (baSize, enable)) :
    chipOf (if params.baTid < 8 then
        s.write (wtbl2Dw15 params.wcid)
          (baDw15 params.baTid baSize enable (s.reg (wtbl2Dw15 params.wcid)))
      else s) = (chipOf s).ampdu params := by
  by_cases ht : params.baTid < 8
  · have hw : params.wcid = 0 ∨ params.wcid = 1 := by
      unfold AmpduParams.wcid
      split <;> simp
    have hwin : params.window = some (⟨params.baTid.toNat, ht⟩,
        if enable then some (BitVec.ofNat 3 (baRangeIdx baSize)) else none) := by
      simp only [AmpduParams.window, h, dif_pos ht]
    rw [if_pos ht, Chip.ampdu, hwin]
    dsimp only
    rcases hw with hw | hw
    · rw [hw]
      refine (chipOf_dw15 (.inl rfl : (0 : U32) = 0 ∨ _) _).trans ?_
      rw [sessionsOf_baDw15 ht]
      rfl
    · rw [hw]
      refine (chipOf_dw15 (.inr rfl : (1 : U32) = 0 ∨ _) _).trans ?_
      rw [sessionsOf_baDw15 ht]
      rfl
  · have hwin : params.window = none := by simp only [AmpduParams.window, h, dif_neg ht]
    rw [if_neg ht, Chip.ampdu, hwin]

/-- The end of a session tells mac80211 about it. -/
theorem means_stopReport {p : P Int}
    (hp : p = (return 0) ∨ ∃ a tid, p = (do stopTxBaCb a tid; return 0)) : Means p id := by
  rcases hp with rfl | ⟨a, tid, rfl⟩
  · exact actsAs_ret
  · exact (means_request (by simp)).then_quiet fun _ => actsAs_ret

theorem means_ampduAction {params : AmpduParams} :
    Means (ampduAction (some vif) params) fun c => c.ampdu params := by
  intro s
  have hnone : params.session = none → chipOf s = (chipOf s).ampdu params := by
    intro h
    simp only [Chip.ampdu, AmpduParams.window, h]
  unfold ampduAction
  rw [wp_bind, wp_usbReadReg]
  cases ha : params.action with
  | rxStart =>
    have hs := hnone (by simp only [AmpduParams.session, ha])
    dsimp only
    cases params.peer with
    | none => exact (wp_ret _).2 hs
    | some a =>
      have hl : List.all [RMAC_BSCR0, RMAC_BSCR1] (avoids chipAddrs) = true := by
        simp [avoids_other _ (show RMAC_BSCR0 ∈ otherAddrs by simp [otherAddrs]),
          avoids_other _ (show RMAC_BSCR1 ∈ otherAddrs by simp [otherAddrs])]
      simp only [wp_bind, wp_usbWriteReg, Prog.pure_eq, wp_ret]
      refine (chipOf_congr fun r hr => ?_).trans hs
      exact @reg_apply_avoids _ [⟨RMAC_BSCR0, _⟩, ⟨RMAC_BSCR1, _⟩] _ _ rfl hl r hr
  | rxStop => exact (wp_ret _).2 (hnone (by simp only [AmpduParams.session, ha]))
  | txStart => exact (wp_ret _).2 (hnone (by simp only [AmpduParams.session, ha]))
  | txStopCont | txStopFlush | txStopFlushCont =>
    dsimp only
    rw [wp_bind, wp_buildBa]
    have hs : params.session = some (0, false) := by rw [AmpduParams.session, ha]
    refine wp_mono (means_stopReport ?_ _) fun _ s'' h' => h'.trans (chipOf_ba hs)
    cases params.sta with
    | none => exact .inl rfl
    | some a => exact .inr ⟨a, _, rfl⟩
  | txOperational =>
    dsimp only
    rw [wp_bind, wp_buildBa]
    exact (wp_ret _).2 (chipOf_ba (by simp only [AmpduParams.session, ha]))

theorem means_config {chandef : ChanDef} {changed : U32} :
    Means (config dev chandef changed) id := by
  unfold config
  split
  · split
    · exact means_quiet (all_setChannelExt (avoids_other _ (by simp [otherAddrs])))
    · exact actsAs_ret
  · exact actsAs_ret

theorem callback_means (cb : Callback) : Means (cb.run vif dev) fun c => cb.chip vif c := by
  cases cb with
  | addInterface => exact means_addInterface
  | config chandef changed => exact means_config
  | configureFilter totalFlags flags =>
    refine ActsAs.then_quiet ?_ fun _ => actsAs_ret
    exact (means_onlyIf_quiet fun _ => means_rxFilter).then_quiet fun _ => actsAs_ret
  | bssInfoChanged info changed => exact means_bssInfoChanged
  | staAdd sta => exact means_staAdd
  | staRemove sta => exact means_staRemove
  | ampduAction params => exact means_ampduAction.then_quiet fun _ => actsAs_ret
  | setKey cmd sta key => exact means_setKey.then_quiet fun _ => actsAs_ret

end

/-! ## The device's own address -/

section
variable {vif : Vif} {dev : Dev}

theorem mac_setChannelExt {channel bw centralCh : U8} :
    Ends (S := sig) (fun d => d.macAddr = dev.macAddr) (setChannelExt dev channel bw centralCh) :=
  ends_next fun _ => ends_next fun _ => ends_next fun _ => rfl

theorem mac_tuneTo {channel : U8} :
    Ends (S := sig) (fun d => d.macAddr = dev.macAddr) (tuneTo dev channel) := by
  unfold tuneTo setChannel
  split
  · exact mac_setChannelExt
  · rfl

theorem mac_tuneToPeer {addr : MacAddr} {fallback : Option U8} :
    Ends (S := sig) (fun d => d.macAddr = dev.macAddr) (tuneToPeer dev addr fallback) := by
  refine ends_next fun r => ?_
  match r with
  | some (some ch) => exact mac_tuneTo
  | some none => rfl
  | none =>
    cases fallback with
    | some ch => exact mac_tuneTo
    | none => rfl

theorem mac_config {chandef : ChanDef} {changed : U32} :
    Ends (S := sig) (fun d => d.macAddr = dev.macAddr) (config dev chandef changed) := by
  unfold config
  split
  · split
    · exact mac_setChannelExt
    · rfl
  · rfl

theorem mac_addInterface :
    Ends (S := sig) (fun d => d.macAddr = dev.macAddr) (addInterface dev vif) := by
  have hd : (if vif.type = .monitor then { dev with monitorCount := dev.monitorCount + 1 }
      else dev : Dev).macAddr = dev.macAddr := by split <;> rfl
  unfold addInterface
  refine ends_next fun _ => ?_
  split
  · exact hd
  · refine ends_next fun _ => ?_
    split
    · exact ends_next fun _ => hd
    · exact hd

theorem mac_removeInterface :
    Ends (S := sig) (fun d => d.macAddr = dev.macAddr) (removeInterface dev vif) := by
  have hd : (if vif.type = .monitor then { dev with monitorCount := dev.monitorCount - 1 }
      else dev : Dev).macAddr = dev.macAddr := by split <;> rfl
  unfold removeInterface
  generalize (if vif.type = .monitor then { dev with monitorCount := dev.monitorCount - 1 }
    else dev : Dev) = d at hd ⊢
  refine ends_next fun _ => ?_
  split
  · exact ends_next fun _ => hd
  · exact hd

theorem mac_disableBeacon {changed : BitVec 64} :
    Ends (S := sig) (fun d => d.macAddr = dev.macAddr) (disableBeacon dev changed) := by
  unfold disableBeacon
  split
  · exact ends_next fun _ => ends_next fun _ => rfl
  · rfl

theorem mac_beaconChanged {info : Option BssConf} {changed : BitVec 64} :
    Ends (S := sig) (fun d => d.macAddr = dev.macAddr)
      (beaconChanged dev (some vif) info changed) := by
  unfold beaconChanged
  refine ends_bind (Q := fun d => d.macAddr = dev.macAddr) ?_ fun d hd => ?_
  · unfold programAp
    dsimp only
    split
    · exact ends_next fun _ => ends_next fun _ => ends_next fun _ => rfl
    · rfl
  · rw [← hd]
    split
    · split
      · exact ends_next fun _ => ends_next fun _ => rfl
      · exact mac_disableBeacon
    · exact mac_disableBeacon

theorem mac_bssidChanged {info : Option BssConf} :
    Ends (S := sig) (fun d => d.macAddr = dev.macAddr) (bssidChanged dev (some vif) info) := by
  unfold bssidChanged
  split
  · split
    · exact ends_next fun _ => rfl
    · refine ends_bind mac_tuneToPeer fun d hd => ?_
      refine ends_next fun _ => ends_next fun _ => ends_next fun _ => ends_next fun _ => ?_
      exact hd
  · exact ends_next fun _ => rfl

theorem mac_bssInfoChanged {info : Option BssConf} {changed : BitVec 64} :
    Ends (S := sig) (fun d => d.macAddr = dev.macAddr)
      (bssInfoChanged dev (some vif) info changed) := by
  unfold bssInfoChanged tuneToOper
  refine ends_bind (Q := fun d => d.macAddr = dev.macAddr) ?_ fun d hd => ?_
  · split
    · exact mac_tuneTo
    · rfl
  rw [← hd]
  refine ends_bind (Q := fun d' => d'.macAddr = d.macAddr) ?_ fun d' hd' => ?_
  · split
    · exact mac_beaconChanged
    · rfl
  rw [← hd']
  split
  · exact mac_bssidChanged
  · rfl

theorem mac_staAdd {sta : MacAddr} :
    Ends (S := sig) (fun d => d.macAddr = dev.macAddr) (staAdd dev (some vif) sta) := by
  unfold staAdd
  split
  · rfl
  · refine ends_bind (Q := fun d => d.macAddr = dev.macAddr) ?_ fun d hd => ?_
    · split
      · exact mac_tuneToPeer
      · rfl
    · exact ends_next fun _ => ends_next fun _ => hd

theorem mac_callback (cb : Callback) :
    Ends (S := sig) (fun d => d.macAddr = dev.macAddr) (cb.run vif dev) := by
  cases cb with
  | addInterface => exact mac_addInterface
  | config chandef changed => exact mac_config
  | configureFilter totalFlags flags =>
    have hf : Ends (S := sig) (fun r : Dev × U32 => r.1.macAddr = dev.macAddr)
        (configureFilter dev totalFlags flags) := ends_next fun _ => rfl
    exact ends_bind hf fun _ hr => hr
  | bssInfoChanged info changed => exact mac_bssInfoChanged
  | staAdd sta => exact mac_staAdd
  | staRemove sta => exact ends_next fun _ => ends_next fun _ => rfl
  | ampduAction params => exact ends_next fun _ => rfl
  | setKey cmd sta key => exact ends_next fun _ => rfl

end

/-! ## Start -/

section
variable {dev : Dev}

/-- What `start` does once it has its buffer and the calibration data is uploaded. -/
theorem wp_afterUpload {macAddr : MacAddr} (hd : dev.macAddr = macAddr) {ring : RxRing}
    (s : RegFile) :
    wp (regEnv True) (do
      executeBuilt buildMacInitSequence 128
      executeBuilt (buildOwnMacSequence dev.macAddr) 128
      executeBuilt (buildWtblStaSequence BCAST_ADDR) 128
      sendBuilt (buildRadioOnOffCmd true dev.cmdSeq) (MT7603_EEPROM_SIZE + 64)
      let dev := { dev with cmdSeq := nextSeq dev.cmdSeq }
      sendBuilt (buildEdcaSetCmd dev.cmdSeq) (MT7603_EEPROM_SIZE + 64)
      let _ ← usbWriteReg DMA_TCFR1 (bit 8 ||| bit 16)
      let dev ← setChannel dev 1
      return ((0 : Int), dev, ring)) s fun r s' =>
        r.1 = 0 ∧ chipOf s' = (chipOf s).started macAddr := by
  have hinit : Means (executeBuilt buildMacInitSequence 128) id := by
    refine means_quiet (all_built fills_buildMacInitSequence (Nat.le_of_ble_eq_true rfl) ?_)
    exact fun op hop => avoids_other _ (List.mem_append_right _ (List.mem_map_of_mem hop))
  have hrows : Means (executeBuilt (buildWtblStaSequence BCAST_ADDR) 128)
      fun c => c.fillRows BCAST_ADDR := by
    intro s
    rw [wp_executeBuilt (fills_buildWtblStaSequence _) (Nat.le_of_ble_eq_true rfl)]
    exact chipOf_wtblSta _
  rw [← hd]
  intro r s' hr
  refine ⟨wp_ends (Q := fun r => r.1 = 0) ?_ r s' hr,
    ActsAs.after_quiet (f := fun c : Chip => c.started dev.macAddr) hinit (fun _ => ?_) s r s' hr⟩
  · refine ends_next fun _ => ends_next fun _ => ends_next fun _ => ends_next fun _ => ?_
    exact ends_next fun _ => ends_next fun _ => ends_next fun _ => rfl
  · refine actsAs_bind (means_ownMac dev.macAddr (by decide)) fun _ => hrows.then_quiet fun _ => ?_
    refine (means_quiet all_send).after_quiet fun _ => ?_
    refine (means_quiet all_send).after_quiet fun _ => ?_
    refine (means_quiet (all_write (avoids_other _ (by simp [otherAddrs])))).after_quiet fun _ => ?_
    refine ActsAs.then_quiet (means_quiet (all_setChannelExt ?_)) fun _ => actsAs_ret
    exact avoids_other _ (by simp [otherAddrs])

theorem mac_uploadEfuse :
    Ends (S := sig) (fun d => d.macAddr = dev.macAddr) (uploadEfuse dev) := by
  unfold uploadEfuse
  split
  · exact ends_next fun _ => rfl
  · rfl

theorem mac_start {ring : RxRing} :
    Ends (S := sig) (fun r => r.2.1.macAddr = dev.macAddr) (start dev ring) := by
  unfold start startTail
  refine ends_next fun _ => ends_next fun _ => ends_next fun ok => ?_
  cases ok with
  | false => exact rfl
  | true =>
    rw [if_pos rfl]
    refine ends_bind mac_uploadEfuse fun d hd => ?_
    refine ends_next fun _ => ends_next fun _ => ends_next fun _ => ends_next fun _ => ?_
    refine ends_next fun _ => ends_next fun _ => ?_
    exact ends_bind mac_setChannelExt fun d' hd' => hd'.trans hd

/-- A start that succeeds has filled the rows, one that fails has not touched them. -/
theorem wp_start_chip {ring : RxRing} (s : RegFile) :
    wp (regEnv True) (start dev ring) s fun r s' =>
      chipOf s' = if r.1 = 0 then (chipOf s).started dev.macAddr else chipOf s := by
  have hudma := avoids_other MT7603_UDMA_WLCFG_0 (by simp [otherAddrs])
  have hudma : Means (usbEnableUdma true) id :=
    means_quiet (all_usbEnableUdma trivial fun _ => ⟨MT7603_UDMA_WLCFG_0, rfl, hudma⟩)
  have hrx : Means (startRx ring) id :=
    means_quiet (all_startRx trivial trivial trivial fun _ => trivial)
  unfold start startTail
  rw [wp_bind]
  refine wp_mono (hudma s) fun _ s₁ h₁ => ?_
  rw [wp_bind]
  refine wp_mono (hrx s₁) fun _ s₂ h₂ => ?_
  rw [wp_bind]
  refine wp_mono (means_quiet (all_alloc trivial) s₂) fun ok s₃ h₃ => ?_
  have hs : chipOf s₃ = chipOf s := by rw [h₃, h₂, h₁]; rfl
  cases ok with
  | false =>
    refine (wp_ret _).2 ?_
    rw [if_neg (show ¬(-ENOMEM : Int) = 0 by decide)]
    exact hs
  | true =>
    rw [if_pos rfl, wp_bind]
    intro d s₄ hr
    have hc := means_quiet all_uploadEfuse s₃ d s₄ hr
    have hm := wp_ends mac_uploadEfuse d s₄ hr
    refine wp_mono (wp_afterUpload hm s₄) fun r s' htail => ?_
    obtain ⟨h0, h⟩ := htail
    rw [if_pos h0, h, hc, ← hs]
    rfl

end

/-! ## Runs -/

theorem action_chip (a : Action) (h : Host) (s : RegFile) :
    wp (regEnv True) (a.run h) s fun h' s' =>
      chipOf s' = a.chip h.dev.macAddr h'.up (chipOf s) ∧ h'.dev.macAddr = h.dev.macAddr := by
  cases a with
  | start =>
    rw [Action.run, wp_bind]
    intro r s' hr
    have hc := wp_start_chip s _ _ hr
    have hm := wp_ends mac_start _ _ hr
    refine (wp_ret _).2 ⟨?_, hm⟩
    simp only [Action.chip, decide_eq_true_eq]
    exact hc
  | stop =>
    rw [Action.run, wp_bind]
    intro r s' hr
    have hq : Means (stop h.dev) id :=
      means_quiet (all_bind (all_request.2 trivial) fun _ => trivial)
    have hm : Ends (S := sig) (fun r => r.1.macAddr = h.dev.macAddr) (stop h.dev) :=
      ends_next fun _ => rfl
    exact (wp_ret _).2 ⟨hq s r s' hr, wp_ends hm r s' hr⟩
  | removeInterface vif =>
    rw [Action.run, wp_bind]
    intro dev s' hr
    have hq : Means (removeInterface h.dev vif) id := means_quiet <|
      all_mono all_removeInterface fun e he => issues_mono (fun a v ha => avoids_rfcr a ha v) he
    exact (wp_ret _).2 ⟨hq s dev s' hr, wp_ends mac_removeInterface dev s' hr⟩
  | call vif cb =>
    rw [Action.run, wp_bind]
    intro dev s' hr
    exact (wp_ret _).2 ⟨callback_means cb s dev s' hr, wp_ends (mac_callback cb) dev s' hr⟩

/-- With register accesses succeeding, after each of any calls on any interfaces the registers mean
what the call makes of their meaning before. -/
theorem wp_runCalls (acts : List Action) (h : Host) (s : RegFile) :
    wp (regEnv True) (runCalls acts h) s fun h' s' => ChipRun h.dev.macAddr acts h s h' s' := by
  induction acts generalizing h s with
  | nil => exact (wp_ret _).2 ⟨rfl, rfl⟩
  | cons a acts ih =>
    rw [runCalls, wp_bind]
    intro h₁ s₁ hrun
    obtain ⟨hc, hm⟩ := action_chip a h s h₁ s₁ hrun
    refine wp_mono (ih h₁ s₁) fun h' s' hr => ?_
    rw [hm] at hr
    exact ⟨h₁, s₁, hrun, hc, hr⟩

/-- **The chip is set up as the calls say.** Any calls of mac80211 on any interfaces, carried out by
control transfers on a bus without failures: what the registers mean after each call is what it
makes of their meaning before, every transfer buffer has been freed, and none was misused. -/
theorem calls_follow (acts : List Action) (h : Host) {w : MsgState} (hb : w.broken = false) :
    wp (msgEnv True) ((runCalls acts h).handle lower) w fun h' w' =>
      ChipRun h.dev.macAddr acts h w.regs h' w'.regs ∧ w'.heap = w.heap ∧ w'.broken = false :=
  wp_handle_lower hb (wp_runCalls acts h w.regs)

/-- A station interface, and the access point it joins. -/
def sampleStation : Vif := ⟨1, .station, ⟨2, 0, 0, 0, 0, 1⟩, none⟩
def sampleBss : MacAddr := ⟨2, 0, 0, 0, 0, 9⟩

/-- The station joins and gets its key. -/
def joinCalls : List Action :=
  [.call sampleStation (.staAdd sampleBss),
   .call sampleStation (.setKey .setKey (some sampleBss) samplePtk.conf)]

theorem up_call {vif : Vif} {cb : Callback} {h : Host} :
    Ends (S := sig) (fun h' => h'.up = h.up) (Action.run h (.call vif cb)) :=
  ends_next fun _ => rfl

/-- The device is started, and the station joins: a run, and what its registers mean. -/
theorem calls_follow_joined : ∃ h' w',
    Runs (msgEnv True) ((runCalls (.start :: joinCalls) newDevice.host).handle lower) oneRegister
      h' w' ∧ h'.up = true ∧
      (chipOf w'.regs).own = some newDevice.host.dev.macAddr ∧
      (chipOf w'.regs).bssid = some sampleBss ∧ (chipOf w'.regs).peer.addr = sampleBss ∧
      (chipOf w'.regs).peer.crypt = some ⟨samplePtk.conf.keyidx.extractLsb' 0 2, true,
        samplePtk.conf.key.toList⟩ ∧ w'.heap = oneRegister.heap := by
  have hrun := runs_handle_lower (runCalls (.start :: joinCalls) newDevice.host)
    fun _ => 0x12345678
  have hup : ((runCalls (.start :: joinCalls) newDevice.host).run regDevice
      fun _ => 0x12345678).1.up = true := by decide +kernel
  obtain ⟨hchip, hheap, -⟩ :=
    calls_follow (.start :: joinCalls) newDevice.host (w := oneRegister) rfl _ _ hrun
  refine ⟨_, _, hrun, hup, ?_⟩
  obtain ⟨h₁, s₁, -, hstart, h₂, s₂, hadd, hpeer, h₃, s₃, hset, hkey, hh, hs⟩ := hchip
  -- the device has been up since the start
  have hup₁ : h₁.up = true := by
    rw [← runs_ends up_call hadd, ← runs_ends up_call hset, ← hh]
    exact hup
  rw [hup₁] at hstart
  rw [hs, hkey, hpeer, hstart]
  exact ⟨rfl, rfl, rfl, rfl, hheap⟩

end Driver
