import Mt7603u.Driver.BeaconWork
import Mt7603u.Proof.BeaconTimer
import Mt7603u.Proof.QueueEndpoint
import Mt7603u.Proof.TxUrbs

/-!
# The beacon work over whole runs

Whether the work is pending, over every run of calls and of the work itself.

* `beacon_work_safe`: a pending work belongs to a device that runs and beacons, and the work never
  asks for the beacon of an interface that is not there as an access point.
* `beacon_work_goes_on`: if beacons are only enabled on access points with an address, the work is
  pending exactly while beacons are enabled, and each of its runs asks for a beacon and schedules
  the next one.
* `beaconWork_frame`: what it sends. With beacons as mac80211 builds them no run of the work gets
  stuck (`beaconWork_ok`).
-/

namespace Driver

open Effect Slice Skb Word Rust Relation

/-! ## Calls and the timer -/

/-- The requests that leave the work alone. -/
def TimerFree : Req → Prop
  | .scheduleBeacon => False
  | .cancelBeacon => False
  | _ => True

section
variable {dev : Dev} {vif : Vif}

theorem wp_timerFree {α : Type} {p : P α} (h : All (S := sig) TimerFree p) (pending : Bool) :
    wp timerEnv p pending fun _ pending' => pending' = pending := by
  refine wp_inv (I := (· = pending)) ?_ h rfl
  intro s e r s' he hD hs
  cases e with
  | scheduleBeacon => cases he
  | cancelBeacon => cases he
  | _ => exact Eq.trans hD hs

theorem timerFree_built {B : Out RegWriteOp Nat} {max : Nat} :
    All (S := sig) TimerFree (executeBuilt B max) :=
  all_executeBuilt fun _ _ _ _ => trivial

theorem timerFree_send {B : Out U8 Nat} {max : Nat} : All (S := sig) TimerFree (sendBuilt B max) :=
  all_sendBuilt (fun _ => trivial) fun _ _ => trivial

theorem timerFree_write {addr val : U32} : All (S := sig) TimerFree (usbWriteReg addr val) :=
  all_usbWriteReg trivial

theorem timerFree_setChannelExt {channel bw centralCh : U8} :
    All (S := sig) TimerFree (setChannelExt dev channel bw centralCh) :=
  all_bind timerFree_send fun _ => all_bind timerFree_write fun _ =>
    all_bind timerFree_send fun _ => trivial

theorem timerFree_tuneTo {channel : U8} : All (S := sig) TimerFree (tuneTo dev channel) := by
  unfold tuneTo
  split
  · exact timerFree_setChannelExt
  · trivial

theorem timerFree_tuneToPeer {addr : MacAddr} {fallback : Option U8} :
    All (S := sig) TimerFree (tuneToPeer dev addr fallback) := by
  refine all_bind (all_request.2 trivial) fun r => ?_
  match r with
  | some (some ch) => exact timerFree_tuneTo
  | some none => trivial
  | none =>
    cases fallback with
    | some ch => exact timerFree_tuneTo
    | none => trivial

theorem timerFree_tuneToOper {info : Option BssConf} :
    All (S := sig) TimerFree (tuneToOper dev info) := by
  unfold tuneToOper
  split
  · exact timerFree_tuneTo
  · trivial

theorem timerFree_config {chandef : ChanDef} {changed : U32} :
    All (S := sig) TimerFree (config dev chandef changed) := by
  unfold config
  split
  · split
    · exact timerFree_setChannelExt
    · trivial
  · trivial

theorem timerFree_writeBssid {a : MacAddr} : All (S := sig) TimerFree (writeBssid a) :=
  all_bind timerFree_write fun _ => all_bind timerFree_write fun _ => trivial

theorem timerFree_update {addr : U32} {f : U32 → U32} :
    All (S := sig) TimerFree (updateReg addr f) :=
  all_updateReg trivial fun _ => trivial

theorem timerFree_clearMbssid : All (S := sig) TimerFree clearMbssid := by
  refine all_bind (all_usbReadReg trivial) fun ⟨ret, rmacdr⟩ => ?_
  dsimp only
  split
  · exact all_bind timerFree_write fun _ => trivial
  · trivial

theorem timerFree_programAp : All (S := sig) TimerFree (programAp dev (some vif)) := by
  unfold programAp
  dsimp only
  split
  · exact all_bind timerFree_built fun _ => all_bind timerFree_writeBssid fun _ =>
      all_bind timerFree_clearMbssid fun _ => trivial
  · trivial

theorem timerFree_programPeer {addr : MacAddr} :
    All (S := sig) TimerFree (programPeer addr) := by
  unfold programPeer
  split
  · split
    · exact all_bind (all_executeRegOps fun _ _ => trivial) fun _ =>
        all_bind timerFree_write fun _ => trivial
    · trivial
  · trivial

theorem timerFree_clearEntry1 : All (S := sig) TimerFree clearEntry1 :=
  all_bind timerFree_write fun _ => all_bind timerFree_write fun _ =>
    all_bind timerFree_write fun _ => trivial

theorem timerFree_clearBssid : All (S := sig) TimerFree clearBssid :=
  all_bind timerFree_write fun _ => all_bind timerFree_write fun _ => trivial

theorem timerFree_bssidCleared :
    All (S := sig) TimerFree (bssidCleared dev (some vif)) := by
  refine all_bind (all_onlyIf fun _ => ?_) fun _ => trivial
  exact all_bind timerFree_clearBssid fun _ => timerFree_clearEntry1

theorem timerFree_bssidChanged {info : Option BssConf} :
    All (S := sig) TimerFree (bssidChanged dev (some vif) info) := by
  unfold bssidChanged
  split
  · split
    · exact timerFree_bssidCleared
    · refine all_bind timerFree_tuneToPeer fun d => all_bind timerFree_write fun r => ?_
      refine all_bind (all_onlyIf fun _ => ?_) fun _ => ?_
      · exact all_bind timerFree_write fun _ => trivial
      · exact all_bind timerFree_clearMbssid fun _ =>
          all_bind (all_onlyIf fun _ => timerFree_programPeer) fun _ => trivial
  · exact timerFree_bssidCleared

theorem timerFree_staAdd {sta : MacAddr} :
    All (S := sig) TimerFree (staAdd dev (some vif) sta) := by
  unfold staAdd
  split
  · trivial
  · refine all_bind ?_ fun d => all_bind (all_onlyIf fun _ => timerFree_writeBssid) fun _ =>
      all_bind timerFree_programPeer fun _ => trivial
    split
    · exact timerFree_tuneToPeer
    · trivial

theorem timerFree_addInterface : All (S := sig) TimerFree (addInterface dev vif) := by
  unfold addInterface
  refine all_bind (all_onlyIf fun _ => timerFree_built) fun _ => ?_
  split
  · trivial
  · refine all_bind timerFree_built fun _ => ?_
    split
    · exact all_bind timerFree_writeBssid fun _ => trivial
    · trivial

theorem timerFree_ampduAction {params : AmpduParams} :
    All (S := sig) TimerFree (ampduAction (some vif) params) := by
  refine all_bind (all_usbReadReg trivial) fun ⟨ret, dw15⟩ => ?_
  dsimp only
  cases params.action with
  | rxStart =>
    dsimp only
    split
    · exact all_bind timerFree_write fun _ => all_bind timerFree_write fun _ => trivial
    · trivial
  | txStart => trivial
  | txOperational => exact all_bind timerFree_built fun _ => trivial
  | rxStop => trivial
  | _ =>
    refine all_bind timerFree_built fun _ => ?_
    split
    · exact all_bind (all_request.2 trivial) fun _ => trivial
    · trivial

theorem timerFree_setKey {cmd : SetKeyCmd} {sta : Option MacAddr} {key : KeyConf} :
    All (S := sig) TimerFree (setKey cmd (some vif) sta key) := by
  unfold setKey
  dsimp only
  split
  · exact all_bind timerFree_update fun _ => all_bind timerFree_update fun _ => trivial
  · split
    · trivial
    · refine all_bind timerFree_write fun _ => all_bind timerFree_write fun _ => ?_
      refine all_bind timerFree_write fun _ => all_bind timerFree_write fun _ => ?_
      refine all_bind timerFree_write fun _ => all_bind timerFree_write fun _ => ?_
      refine all_bind timerFree_update fun _ => all_bind timerFree_update fun _ => ?_
      exact all_bind timerFree_write fun _ => all_bind timerFree_write fun _ => trivial

theorem timerFree_start {ring : RxRing} : All (S := sig) TimerFree (start dev ring) := by
  have hudma : All (S := sig) TimerFree (usbEnableUdma true) :=
    all_usbEnableUdma trivial fun _ => trivial
  have hrx : All (S := sig) TimerFree (startRx ring) :=
    all_startRx trivial trivial trivial fun _ => trivial
  refine all_bind hudma fun _ => all_bind hrx fun ⟨_, ring⟩ => ?_
  refine all_bind (all_alloc trivial) fun ok => ?_
  cases ok with
  | false => trivial
  | true =>
    rw [if_pos rfl]
    refine all_bind ?_ fun dev => ?_
    · unfold uploadEfuse
      split
      · exact all_bind timerFree_send fun _ => trivial
      · trivial
    · refine all_bind timerFree_built fun _ => all_bind timerFree_built fun _ => ?_
      refine all_bind timerFree_built fun _ => all_bind timerFree_send fun _ => ?_
      refine all_bind timerFree_send fun _ => all_bind timerFree_write fun _ => ?_
      exact all_bind timerFree_setChannelExt fun _ => trivial

/-! The work after a call. -/

def pendingAfter (cmd : Option (U16 × Bool)) (pending : Bool) : Bool :=
  match cmd with
  | some (_, enable) => enable
  | none => pending

def Action.pending (m : Mode) (pending : Bool) : Action → Bool
  | .stop => false
  | .removeInterface vif => if m.apVif = some vif.id then false else pending
  | .call _ (.bssInfoChanged info changed) => pendingAfter (Driver.beaconCmd info changed) pending
  | _ => pending

variable {pending : Bool}

theorem wp_schedule {Q : Unit → Bool → Prop} (h : Q () true) :
    wp timerEnv scheduleBeacon pending Q :=
  (wp_op _).2 fun _ _ hD => (wp_ret _).2 (hD ▸ h)

theorem wp_cancel {Q : Unit → Bool → Prop} (h : Q () false) :
    wp timerEnv cancelBeacon pending Q :=
  (wp_op _).2 fun _ _ hD => (wp_ret _).2 (hD ▸ h)

/-- A part in front that leaves the work alone. -/
theorem wp_timer_bind {α β : Type} {p : P α} {f : α → P β} {Q : β → Bool → Prop}
    (hp : All (S := sig) TimerFree p) (h : ∀ a, wp timerEnv (f a) pending Q) :
    wp timerEnv (p >>= f) pending Q := by
  rw [wp_bind]
  refine wp_mono (wp_timerFree hp pending) ?_
  rintro a _ rfl
  exact h a

theorem wp_disableBeacon_timer {changed : BitVec 64} :
    wp timerEnv (disableBeacon dev changed) pending fun _ pending' =>
      pending' = if changed &&& BSS_CHANGED_BEACON_ENABLED ≠ 0 then false else pending := by
  unfold disableBeacon
  split
  · rw [wp_bind]
    exact wp_cancel (wp_timer_bind timerFree_built fun _ => (wp_ret _).2 rfl)
  · exact (wp_ret _).2 rfl

theorem wp_beaconChanged_timer {info : Option BssConf} {changed : BitVec 64}
    (hc : changed &&& BEACON_CHANGES ≠ 0) :
    wp timerEnv (beaconChanged dev (some vif) info changed) pending fun _ pending' =>
      pending' = pendingAfter (beaconCmd info changed) pending := by
  have hoff : ∀ d : Dev, (∀ bss, info = some bss → ¬bss.enableBeacon = true) →
      wp timerEnv (disableBeacon d changed) pending fun _ pending' =>
        pending' = pendingAfter (beaconCmd info changed) pending := by
    intro d he
    refine wp_mono wp_disableBeacon_timer ?_
    rintro _ _ rfl
    rw [beaconCmd_off hc he]
    split <;> rfl
  unfold beaconChanged
  refine wp_timer_bind timerFree_programAp fun d => ?_
  cases info with
  | none => exact hoff d (by simp)
  | some bss =>
    by_cases he : bss.enableBeacon = true
    · simp only [he, if_true]
      refine wp_timer_bind timerFree_built fun _ => ?_
      rw [wp_bind]
      refine wp_schedule ((wp_ret _).2 ?_)
      rw [beaconCmd_on hc he]
      rfl
    · simp only [he]
      exact hoff d (by simpa using he)

theorem wp_bssInfoChanged_timer {info : Option BssConf} {changed : BitVec 64} :
    wp timerEnv (bssInfoChanged dev (some vif) info changed) pending fun _ pending' =>
      pending' = pendingAfter (beaconCmd info changed) pending := by
  unfold bssInfoChanged
  refine wp_timer_bind timerFree_tuneToOper fun d => ?_
  rw [wp_bind]
  have hrest : ∀ d : Dev, All (S := sig) TimerFree
      (if changed &&& (BSS_CHANGED_BSSID ||| BSS_CHANGED_ASSOC) ≠ 0 then
        bssidChanged d (some vif) info else return d) := by
    intro d
    split
    · exact timerFree_bssidChanged
    · trivial
  have hbeacon : wp timerEnv (if changed &&& BEACON_CHANGES ≠ 0 then
        beaconChanged d (some vif) info changed else pure d : P Dev) pending fun _ pending' =>
      pending' = pendingAfter (beaconCmd info changed) pending := by
    by_cases hc : changed &&& BEACON_CHANGES = 0
    · simp only [hc, ne_eq, not_true, if_false]
      rw [beaconCmd_none hc]
      exact (wp_ret _).2 rfl
    · simp only [hc, ne_eq, not_false_eq_true, if_true]
      exact wp_beaconChanged_timer hc
  refine wp_mono hbeacon ?_
  rintro d' _ rfl
  exact wp_timerFree (hrest d') _

/-- **The work after a call.** -/
theorem action_pending (a : Action) (h : Host) :
    wp timerEnv (a.run h) pending fun _ pending' => pending' = a.pending h.dev.mode pending := by
  have hfree : ∀ {p : P Dev} {f : Dev → Host}, All (S := sig) TimerFree p →
      wp timerEnv (p >>= fun d => return f d) pending fun _ pending' => pending' = pending :=
    fun hp => wp_timer_bind hp fun _ => (wp_ret _).2 rfl
  cases a with
  | start => exact wp_timer_bind timerFree_start fun _ => (wp_ret _).2 rfl
  | stop =>
    simp only [Action.run, wp_bind, stop]
    exact wp_cancel ((wp_ret _).2 ((wp_ret _).2 rfl))
  | removeInterface vif =>
    simp only [Action.run, Driver.removeInterface, Action.pending]
    rw [wp_bind]
    refine wp_timer_bind (all_onlyIf fun _ => timerFree_built) fun _ => ?_
    have hap : (if vif.type = .monitor then { h.dev with monitorCount := h.dev.monitorCount - 1 }
        else h.dev : Dev).apVif = h.dev.mode.apVif := by split <;> rfl
    rw [hap]
    split
    · rw [wp_bind]
      exact wp_cancel ((wp_ret _).2 ((wp_ret _).2 rfl))
    · exact (wp_ret _).2 ((wp_ret _).2 rfl)
  | call vif cb =>
    cases cb with
    | addInterface => exact hfree timerFree_addInterface
    | config chandef changed => exact hfree timerFree_config
    | configureFilter totalFlags flags =>
      refine hfree (all_bind ?_ fun _ => trivial)
      exact all_bind (all_onlyIf fun _ => timerFree_built) fun _ => trivial
    | bssInfoChanged info changed =>
      simp only [Action.run, wp_bind]
      exact wp_mono wp_bssInfoChanged_timer fun _ _ hp => (wp_ret _).2 hp
    | staAdd sta => exact hfree timerFree_staAdd
    | staRemove sta =>
      refine hfree (all_bind (all_onlyIf fun _ => timerFree_clearBssid) fun _ => ?_)
      exact all_bind timerFree_clearEntry1 fun _ => trivial
    | ampduAction params => exact hfree (all_bind timerFree_ampduAction fun _ => trivial)
    | setKey cmd sta key => exact hfree (all_bind timerFree_setKey fun _ => trivial)

end

/-! ## What it sends -/

/-- A beacon with its timestamp. -/
def stamped (data : List U8) (now : BitVec 64) : List U8 :=
  if 32 ≤ data.length then data.take 24 ++ toLe64 now ++ data.drop 32 else data

theorem stampBeacon_eq (skb : SkBuff U8) (now : BitVec 64) :
    stampBeacon skb now = .ok { skb with data := stamped skb.data now } := by
  unfold stampBeacon stamped
  by_cases hl : 32 ≤ skb.len
  · have hl' : 32 ≤ skb.data.length := hl
    rw [if_pos hl, if_pos hl', SkBuff.store, if_pos (by rw [SkBuff.len]; exact hl)]
    rfl
  · have hl' : ¬32 ≤ skb.data.length := hl
    rw [if_neg hl, if_neg hl']
    rfl

theorem length_stamped (data : List U8) (now : BitVec 64) :
    (stamped data now).length = data.length := by
  unfold stamped
  split
  · have hlen : (toLe64 now).length = 8 := rfl
    simp only [List.length_append, List.length_take, List.length_drop, hlen]
    omega
  · rfl

/-- The timestamp is behind the frame control. -/
theorem frameControl_stamped (k : Kernel) (skb : SkBuff U8) (now : BitVec 64) :
    frameControl k { skb with data := stamped skb.data now } = frameControl k skb := by
  obtain ⟨head, data, tail⟩ := skb
  have hbyte : ∀ i < 2, k.byte ⟨head, stamped data now, tail⟩ i = k.byte ⟨head, data, tail⟩ i := by
    intro i hi
    unfold Kernel.byte stamped
    dsimp only
    split
    · rename_i hl
      have h24 : i < (data.take 24).length := by
        rw [List.length_take]
        omega
      rw [List.getD_eq_getElem?_getD, List.getD_eq_getElem?_getD, List.append_assoc,
        List.append_assoc, List.getElem?_append_left h24, List.getElem?_append_left (by omega),
        List.getElem?_take_of_lt (by omega)]
    · rfl
  unfold frameControl
  dsimp only
  rw [hbyte 0 (by omega), hbyte 1 (by omega)]

theorem sendable_stamped {k : Kernel} {skb : SkBuff U8} {now : BitVec 64} (h : Sendable k skb) :
    Sendable k { skb with data := stamped skb.data now } := by
  have hlen : SkBuff.len { skb with data := stamped skb.data now } = skb.len :=
    length_stamped skb.data now
  obtain ⟨he, hh, hn, hf⟩ := h
  rw [← frameControl_stamped k skb now] at he hh hf
  rw [← hlen] at hh hn hf
  exact ⟨he, hh, hn, hf⟩

/-- **A frame as mac80211 builds them** is sent so that completion gives it back. -/
theorem mac80211Tx_restores {k : Kernel} {dev : Dev} {info : TxInfo} {skb : SkBuff U8}
    (hrun : dev.running = true) (hk : Sendable k skb) :
    Yields k.NeverFails (mac80211Tx k dev info skb) (Restores · skb.data) := by
  obtain ⟨he, hle, h0, hl⟩ := hk
  obtain ⟨h, hh⟩ : ∃ h, (txParams k dev info skb).hdrLen.toNat = h := ⟨_, rfl⟩
  have hmod : h = k.hdrlen (frameControl k skb) % 256 := by
    rw [← hh, txParams_hdrLen, BitVec.toNat_ofNat]
  have hpkt : (txParams k dev info skb).pktLen.toNat = skb.data.length := by
    rw [txParams_pktLen, BitVec.toNat_ofNat, Nat.mod_eq_of_lt (by omega), SkBuff.len]
  have hfit : 32 + padOf h + skb.len ≤ 65535 := by
    unfold padOf
    omega
  obtain ⟨r, htx, hr, hok⟩ := mac80211Tx_yields k dev info skb hrun hh (by omega) (by omega) hfit
  refine ⟨r, htx, fun t ht => ?_, hok⟩
  obtain ⟨rate, -, hd, hmeta⟩ := hr t ht
  obtain ⟨skb', hs, hf⟩ := stripFrame_txBuffer hd (length_patchedTxd _ _ _) hh hpkt
    (by rw [← SkBuff.len]; omega) h0
  exact ⟨skb', by rw [hmeta]; exact hs, hf⟩

theorem beaconData_stamped (data : List U8) (now : BitVec 64) :
    beaconData (stamped data now) = beaconData data := by
  unfold stamped
  split
  · rename_i hl
    rcases data with _ | ⟨b0, _ | ⟨b1, bs⟩⟩
    · cases hl
    · exact absurd hl (by simp)
    · rfl
  · rfl

/-- A beacon is a management frame. -/
theorem isMgmt_of_beaconData {k : Kernel} {skb : SkBuff U8} (h : beaconData skb.data = true) :
    isMgmt (frameControl k skb) = true := by
  have hb : isBeacon (if 2 ≤ skb.len then frameControl k skb else 0) = true := by
    rw [isBeacon_data, h]
  have hall : ∀ fc : U16, isBeacon fc = true → isMgmt fc = true := by
    intro fc hfc
    simp only [isBeacon, isMgmt, decide_eq_true_eq] at hfc ⊢
    have h0c : (0x000C : U16) = 0x00FC &&& 0x000C := rfl
    rw [h0c, ← BitVec.and_assoc, hfc]
    rfl
  split at hb
  · exact hall _ hb
  · cases hb

section
variable {k : Kernel} {dev : Dev} {get : Nat → Option (TxInfo × SkBuff U8)} {now : BitVec 64}
  {vif : Nat} {info : TxInfo} {skb : SkBuff U8}

/-- A run that gets a beacon hands it to the transmission path. -/
theorem beaconWork_sends (now : BitVec 64) (hrun : dev.running = true)
    (hen : dev.beaconEnabled = true) (hv : dev.apVif = some vif)
    (hg : get vif = some (info, skb)) (hk : Sendable k skb) :
    ∃ sent, beaconWork k dev get now = .ok ⟨some vif, sent, some (beaconDelay dev.beaconInt)⟩ ∧
      mac80211Tx k dev info { skb with data := stamped skb.data now } = .ok sent ∧
      (∀ t, sent = some t → Restores t (stamped skb.data now)) ∧
      (k.NeverFails → sent.isSome) := by
  have hstamped : Sendable k { skb with data := stamped skb.data now } := sendable_stamped hk
  obtain ⟨sent, htx, hsent, hok⟩ : Yields k.NeverFails
      (mac80211Tx k dev info { skb with data := stamped skb.data now })
      (Restores · (stamped skb.data now)) := mac80211Tx_restores hrun hstamped
  refine ⟨sent, ?_, htx, hsent, hok⟩
  unfold beaconWork
  rw [if_neg (by simp [hrun, hen]), hv]
  simp only [hg]
  rw [stampBeacon_eq, ok_bind, htx, ok_bind]
  rfl

/-- With the beacons mac80211 builds, every run of the work comes to its end. -/
theorem beaconWork_ok (hk : ∀ i info skb, get i = some (info, skb) → Sendable k skb) :
    ∃ r, beaconWork k dev get now = .ok r := by
  by_cases hon : dev.running = true ∧ dev.beaconEnabled = true
  · obtain ⟨hrun, hen⟩ := hon
    cases hv : dev.apVif with
    | none =>
      refine ⟨⟨none, none, none⟩, ?_⟩
      unfold beaconWork
      rw [if_neg (by simp [hrun, hen]), hv]
      rfl
    | some i =>
      cases hg : get i with
      | none =>
        refine ⟨⟨some i, none, some (beaconDelay dev.beaconInt)⟩, ?_⟩
        unfold beaconWork
        rw [if_neg (by simp [hrun, hen]), hv]
        simp only [hg]
        rfl
      | some given =>
        obtain ⟨info, skb⟩ := given
        obtain ⟨sent, hround, -⟩ := beaconWork_sends now hrun hen hv hg (hk i info skb hg)
        exact ⟨_, hround⟩
  · refine ⟨⟨none, none, none⟩, ?_⟩
    unfold beaconWork
    rw [if_pos (not_and_or.1 hon)]
    rfl

/-- **What a run of the work sends**: the beacon mac80211 built, with only the timestamp changed,
on the management endpoint and queue; its completion is not reported to mac80211. -/
theorem beaconWork_frame (hrun : dev.running = true) (hen : dev.beaconEnabled = true)
    (hv : dev.apVif = some vif) (hg : get vif = some (info, skb)) (hb : beaconData skb.data = true)
    (hk : Sendable k skb) :
    ∃ r, beaconWork k dev get now = .ok r ∧ r.again = some (beaconDelay dev.beaconInt) ∧
      (k.NeverFails → r.sent.isSome) ∧ ∀ t, r.sent = some t →
        t.ep = MT7603_MGMT_BULK_OUT ∧ qIdx t.skb.data = 0x04 ∧
        ∀ dev' info' status, ∃ skb', txComplete k dev' info' status t.skb t.metaWord =
          .ok (skb', .freed) ∧ skb'.data = stamped skb.data now := by
  obtain ⟨sent, hround, htx, hsent, hok⟩ := beaconWork_sends now hrun hen hv hg hk
  refine ⟨_, hround, rfl, hok, fun t ht => ?_⟩
  have hmgmt : isMgmt (frameControl k { skb with data := stamped skb.data now }) = true :=
    isMgmt_of_beaconData (by rw [beaconData_stamped, hb])
  obtain ⟨hq, -, hep⟩ := tx_routing (htx.trans (congrArg _ ht))
  refine ⟨by rw [hep, if_pos hmgmt], ?_, fun dev' info' status => ?_⟩
  · rw [hq, txParams_queue, hmgmt]
    simp
  obtain ⟨skb', hs, hd⟩ := hsent t ht
  refine ⟨skb', ?_, hd⟩
  unfold txComplete
  rw [hs, ok_bind]
  dsimp only
  rw [isBeacon_data, hd, beaconData_stamped, hb]
  simp
  rfl

end

/-! ## The work itself -/

section
variable {k : Kernel} {dev : Dev} {get : Nat → Option (TxInfo × SkBuff U8)} {now : BitVec 64}
  {r : BeaconRound}

/-- The work does something if the device runs and beacons for an interface, and then it schedules
itself. -/
theorem beaconWork_round (h : beaconWork k dev get now = .ok r) :
    (dev.running = true ∧ dev.beaconEnabled = true ∧ dev.apVif ≠ none ∧ r.vif = dev.apVif ∧
        r.again = some (beaconDelay dev.beaconInt)) ∨
      ((dev.running = false ∨ dev.beaconEnabled = false ∨ dev.apVif = none) ∧ r.vif = none ∧
        r.again = none) := by
  unfold beaconWork at h
  split at h
  · rename_i hoff
    obtain rfl := Except.ok.inj h
    refine .inr ⟨?_, rfl, rfl⟩
    rcases hoff with hoff | hoff
    · exact .inl (by simpa using hoff)
    · exact .inr (.inl (by simpa using hoff))
  · rename_i hon
    have hrun : dev.running = true := by
      by_contra hc
      exact hon (.inl hc)
    have hen : dev.beaconEnabled = true := by
      by_contra hc
      exact hon (.inr hc)
    rcases hv : dev.apVif with _ | vif
    · rw [hv] at h
      obtain rfl := Except.ok.inj h
      exact .inr ⟨.inr (.inr rfl), rfl, rfl⟩
    · rw [hv] at h
      refine .inl ⟨hrun, hen, by simp, ?_⟩
      rcases hg : get vif with _ | ⟨info, skb⟩
      · simp only [hg] at h
        obtain rfl := Except.ok.inj h
        exact ⟨rfl, rfl⟩
      · simp only [hg] at h
        rcases hs : stampBeacon skb now with e | skb'
        · rw [hs] at h
          cases h
        rw [hs, ok_bind] at h
        rcases ht : mac80211Tx k dev info skb' with e | sent
        · rw [ht] at h
          cases h
        rw [ht, ok_bind] at h
        obtain rfl := Except.ok.inj h
        exact ⟨rfl, rfl⟩

end

/-! ## Whole runs -/

/-- Beacons are enabled on an access point with an address. -/
def BeaconOnAp : Host → Action → Prop
  | _, .call vif (.bssInfoChanged info changed) =>
    ∀ beaconInt, beaconCmd info changed = some (beaconInt, true) →
      vif.type = .ap ∧ ¬vif.addr.isZero
  | _, _ => True

/-- What holds between the steps of a run; `strict` if every call is a `BeaconOnAp`. -/
structure WorkInv (strict : Prop) (m : Mode) (vifs : List (Nat × IfType)) (up pending : Bool) :
    Prop where
  ap : ∀ i, m.apVif = some i → (i, .ap) ∈ vifs
  ids : (vifs.map (·.1)).Nodup
  running : up = true → m.running = true
  enabled : m.beaconEnabled = true → m.running = true
  flag : pending = true → m.beaconEnabled = true
  goesOn : strict → m.beaconEnabled = true → pending = true ∧ m.apVif ≠ none

section
variable {strict : Prop} {m : Mode} {vifs : List (Nat × IfType)} {up up' pending : Bool} {vif : Vif}

theorem workInv_removeInterface (h : WorkInv strict m vifs up pending) :
    WorkInv strict (m.removeInterface vif) (vifs.erase (vif.id, vif.type)) up
      (if m.apVif = some vif.id then false else pending) := by
  have hids : ((vifs.erase (vif.id, vif.type)).map (·.1)).Nodup :=
    h.ids.sublist (List.erase_sublist.map _)
  unfold Mode.removeInterface
  by_cases hv : m.apVif = some vif.id
  · simp only [hv, if_true]
    refine ⟨fun i hi => ?_, hids, h.running, fun hc => ?_, fun hc => ?_, fun _ hc => ?_⟩
    · cases hi
    · cases hc
    · cases hc
    · cases hc
  · simp only [hv, if_false]
    refine ⟨fun i hi => ?_, hids, h.running, h.enabled, h.flag, h.goesOn⟩
    refine (List.mem_erase_of_ne fun hc => hv ?_).2 (h.ap i hi)
    have hid : i = vif.id := congrArg Prod.fst hc
    rw [← hid]
    exact hi

theorem workInv_addInterface (h : WorkInv strict m vifs up pending)
    (hnew : vif.id ∉ vifs.map (·.1)) :
    WorkInv strict (m.addInterface vif) ((vif.id, vif.type) :: vifs) up pending where
  ap i hi := by
    simp only [Mode.addInterface] at hi
    split at hi
    · rename_i hap
      cases hi
      rw [hap.1]
      exact List.mem_cons_self ..
    · exact List.mem_cons_of_mem _ (h.ap i hi)
  ids := List.nodup_cons.2 ⟨hnew, h.ids⟩
  running := h.running
  enabled := h.enabled
  flag := h.flag
  goesOn hs he := by
    obtain ⟨hp, hap⟩ := h.goesOn hs he
    refine ⟨hp, ?_⟩
    simp only [Mode.addInterface]
    split
    · simp
    · exact hap

theorem workInv_bssInfoChanged {info : Option BssConf} {changed : BitVec 64}
    (h : WorkInv strict m vifs up pending) (hup : up = true) (hv : (vif.id, vif.type) ∈ vifs)
    (hap : strict → ∀ beaconInt, beaconCmd info changed = some (beaconInt, true) →
      vif.type = .ap ∧ ¬vif.addr.isZero) :
    WorkInv strict (m.bssInfoChanged vif info changed) vifs up
      (pendingAfter (beaconCmd info changed) pending) where
  ap i hi := by
    simp only [Mode.bssInfoChanged] at hi
    split at hi
    · rename_i hc
      cases hi
      rw [hc.2.1] at hv
      exact hv
    · exact h.ap i hi
  ids := h.ids
  running := h.running
  enabled _ := h.running hup
  flag hp := by
    simp only [Mode.bssInfoChanged]
    rcases hc : beaconCmd info changed with _ | ⟨beaconInt, enable⟩
    · rw [hc] at hp
      exact h.flag hp
    · rw [hc] at hp
      exact hp
  goesOn hs he := by
    simp only [Mode.bssInfoChanged] at he ⊢
    rcases hc : beaconCmd info changed with _ | ⟨beaconInt, enable⟩
    · rw [hc] at he
      obtain ⟨hp, hne⟩ := h.goesOn hs he
      refine ⟨hp, ?_⟩
      split
      · simp
      · exact hne
    · rw [hc] at he
      obtain rfl : enable = true := he
      have hch : changed &&& BEACON_CHANGES ≠ 0 := by
        intro h0
        rw [beaconCmd_none h0] at hc
        cases hc
      refine ⟨rfl, ?_⟩
      rw [if_pos ⟨hch, hap hs beaconInt hc⟩]
      simp

/-- **A call** keeps the invariant. -/
theorem workInv_action {h : Host} {a : Action} (hI : WorkInv strict h.dev.mode h.vifs h.up pending)
    (hc : strict → BeaconOnAp h a) (ha : a.Allowed h) (hups : a.Ups h.up up') :
    WorkInv strict (a.mode h.dev.mode) (a.vifs h.vifs) up' (a.pending h.dev.mode pending) := by
  cases a with
  | start =>
    exact ⟨hI.ap, hI.ids, fun _ => rfl, fun _ => rfl, hI.flag, hI.goesOn⟩
  | stop =>
    have hups : up' = false := hups
    refine ⟨hI.ap, hI.ids, fun hu => ?_, fun hc => ?_, fun hc => ?_, fun _ hc => ?_⟩
    · rw [hups] at hu
      cases hu
    · cases hc
    · cases hc
    · cases hc
  | removeInterface vif =>
    obtain rfl : up' = h.up := hups
    exact workInv_removeInterface hI
  | call vif cb =>
    obtain rfl : up' = h.up := hups
    cases cb with
    | addInterface => exact workInv_addInterface hI ha.2
    | bssInfoChanged info changed => exact workInv_bssInfoChanged hI ha.1 ha.2 hc
    | configureFilter totalFlags flags =>
      exact ⟨hI.ap, hI.ids, hI.running, hI.enabled, hI.flag, hI.goesOn⟩
    | _ => exact hI

end

/-- The invariant, of a system. -/
def BeaconSys.Inv (strict : Prop) (σ : BeaconSys) : Prop :=
  WorkInv strict σ.host.dev.mode σ.host.vifs σ.host.up σ.pending

section
variable {strict : Prop} {C : Host → Action → Prop} {k : Kernel} {σ τ : BeaconSys}

/-- **One step** keeps the invariant. -/
theorem work_inv_step (hC : strict → ∀ h a, C h a → BeaconOnAp h a)
    (hs : BeaconSys.Step C k σ τ) (h : σ.Inv strict) : τ.Inv strict := by
  cases hs with
  | @call a host pending hc ha hrun =>
    obtain ⟨hm, hv, hups⟩ := wp_ends (action_mode a σ.host) _ _ hrun
    have hp : pending = a.pending σ.host.dev.mode σ.pending := action_pending a σ.host _ _ hrun
    have hnext := workInv_action h (fun hs => hC hs _ a hc) ha hups
    unfold BeaconSys.Inv
    rw [hm, hv, hp]
    exact hnext
  | work hp hr =>
    refine ⟨h.ap, h.ids, h.running, h.enabled, fun _ => h.flag hp, fun hs he => ?_⟩
    obtain ⟨-, hap⟩ := h.goesOn hs he
    refine ⟨?_, hap⟩
    rcases beaconWork_round hr with ⟨-, -, -, -, hagain⟩ | ⟨hoff, -, -⟩
    · rw [hagain]
      rfl
    · rcases hoff with hoff | hoff | hoff
      · exact absurd (h.enabled he) (by simp [Dev.mode, hoff])
      · exact absurd he (by simp [Dev.mode, hoff])
      · exact absurd hoff hap

theorem work_inv_run {macAddr : MacAddr} {eepromValid : Bool} {rssiOffset2g : Int}
    {eeprom : List U8} (hC : strict → ∀ h a, C h a → BeaconOnAp h a)
    (hr : ReflTransGen (BeaconSys.Step C k)
      ⟨.registered macAddr eepromValid rssiOffset2g eeprom, false⟩ σ) : σ.Inv strict := by
  induction hr with
  | refl =>
    refine ⟨fun _ h => ?_, List.nodup_nil, fun h => ?_, fun h => ?_, fun h => ?_, fun _ h => ?_⟩
    · cases h
    · cases h
    · cases h
    · cases h
    · cases h
  | tail _ hs ih => exact work_inv_step hC hs ih

/-- **The work in every run**: when it is pending, the device runs and beacons are enabled, and it
never asks for the beacon of an interface that is not there as an access point. -/
theorem beacon_work_safe {macAddr : MacAddr} {eepromValid : Bool} {rssiOffset2g : Int}
    {eeprom : List U8} (hr : ReflTransGen (BeaconSys.Step C k)
      ⟨.registered macAddr eepromValid rssiOffset2g eeprom, false⟩ σ) :
    (σ.pending = true → σ.host.dev.running = true ∧ σ.host.dev.beaconEnabled = true) ∧
      ∀ get now r i, beaconWork k σ.host.dev get now = .ok r → r.vif = some i →
        (i, .ap) ∈ σ.host.vifs := by
  have h : σ.Inv False := work_inv_run (fun hs => hs.elim) hr
  refine ⟨fun hp => ⟨h.enabled (h.flag hp), h.flag hp⟩, fun get now r i hw hi => ?_⟩
  rcases beaconWork_round hw with ⟨-, -, -, hvif, -⟩ | ⟨-, hvif, -⟩
  · exact h.ap i (hvif.symm.trans hi)
  · rw [hvif] at hi
    cases hi

/-- **Beacons go on**: if beacons are only enabled on access points with an address, the work is
pending exactly while beacons are enabled; its next run then comes to its end, if mac80211 builds
its beacons well, asks for the beacon of an access point that is there and schedules the run after
it. -/
theorem beacon_work_goes_on {macAddr : MacAddr} {eepromValid : Bool} {rssiOffset2g : Int}
    {eeprom : List U8} (hr : ReflTransGen (BeaconSys.Step BeaconOnAp k)
      ⟨.registered macAddr eepromValid rssiOffset2g eeprom, false⟩ σ) :
    σ.pending = σ.host.dev.beaconEnabled ∧
      (σ.pending = true → ∀ get now,
        ((∀ i info skb, get i = some (info, skb) → Sendable k skb) →
          ∃ r, beaconWork k σ.host.dev get now = .ok r) ∧
        ∀ r, beaconWork k σ.host.dev get now = .ok r →
          ∃ i, r.vif = some i ∧ (i, .ap) ∈ σ.host.vifs ∧
            r.again = some (beaconDelay σ.host.dev.beaconInt)) := by
  have h : σ.Inv True := work_inv_run (fun _ _ _ hc => hc) hr
  refine ⟨?_, fun hp get now => ⟨beaconWork_ok, fun r hw => ?_⟩⟩
  · by_cases he : σ.host.dev.beaconEnabled = true
    · rw [he]
      exact (h.goesOn trivial he).1
    · rw [show σ.host.dev.beaconEnabled = false by simpa using he]
      by_contra hp
      exact he (h.flag (by simpa using hp))
  · have he : σ.host.dev.beaconEnabled = true := h.flag hp
    have hap : σ.host.dev.apVif ≠ none := (h.goesOn trivial he).2
    obtain ⟨i, hi⟩ := Option.ne_none_iff_exists'.1 hap
    rcases beaconWork_round hw with ⟨-, -, -, hvif, hagain⟩ | ⟨hoff, -, -⟩
    · exact ⟨i, hvif.trans hi, h.ap i hi, hagain⟩
    · rcases hoff with hoff | hoff | hoff
      · have hrun : σ.host.dev.running = true := h.enabled he
        rw [hoff] at hrun
        cases hrun
      · rw [hoff] at he
        cases he
      · exact absurd hoff hap

end

/-! A hotspot that beacons. -/

theorem timerEnv_any (pending : Bool) (e : Req) (r : e.Resp) :
    ∃ pending', timerEnv pending e r pending' := by
  cases e with
  | _ => exact ⟨_, rfl⟩

/-- A call of the system with registers is one of this system. -/
theorem work_call {C : Host → Action → Prop} {k : Kernel} {a : Action} {σ τ : Sys} (h : Step a σ τ)
    (hc : C σ.host a) (pending : Bool) :
    ∃ pending', BeaconSys.Step C k ⟨σ.host, pending⟩ ⟨τ.host, pending'⟩ := by
  obtain ⟨pending', hr⟩ := runs_answered timerEnv_any h.2 pending
  exact ⟨pending', .call hc h.1 hr⟩

theorem work_beaconing (k : Kernel) : ∃ pending, ReflTransGen (BeaconSys.Step BeaconOnAp k)
    ⟨newDevice.host, false⟩ ⟨beaconing.host, pending⟩ := by
  have h1 : Step (.call hotspot .addInterface) started withHotspot :=
    step_next ⟨started_host.2.2, by rw [started_host.2.1]; decide⟩
  have h2 : Step (hotspotBeacon true) withHotspot beaconing :=
    step_next ⟨withHotspot_host.2.2, by rw [withHotspot_host.2.1]; decide⟩
  obtain ⟨p₁, hs₁⟩ := work_call (k := k) (C := BeaconOnAp) step_started trivial false
  obtain ⟨p₂, hs₂⟩ := work_call (k := k) (C := BeaconOnAp) h1 trivial p₁
  obtain ⟨p₃, hs₃⟩ := work_call (k := k) (C := BeaconOnAp) h2
    (fun _ _ => ⟨rfl, by decide⟩) p₂
  exact ⟨p₃, ((ReflTransGen.single hs₁).tail hs₂).tail hs₃⟩

theorem beacon_work_safe_hotspot : ∃ pending,
    ReflTransGen (BeaconSys.Step BeaconOnAp sampleKernel) ⟨newDevice.host, false⟩
      ⟨beaconing.host, pending⟩ ∧ ∀ get now r i,
        beaconWork sampleKernel beaconing.host.dev get now = .ok r → r.vif = some i →
          (i, .ap) ∈ beaconing.host.vifs := by
  obtain ⟨pending, hr⟩ := work_beaconing sampleKernel
  exact ⟨pending, hr, (beacon_work_safe hr).2⟩

/-- A beacon with an empty body behind its fixed fields. -/
def shortBeacon : SkBuff U8 := ⟨[], 0x80 :: 0x00 :: List.replicate 34 0xff, []⟩

/-- mac80211 gives the access point this beacon. -/
def giveBeacon (vif : Nat) : Option (TxInfo × SkBuff U8) :=
  if vif = 0 then some (sampleTxInfo, shortBeacon) else none

theorem giveBeacon_sendable (i : Nat) (info : TxInfo) (skb : SkBuff U8)
    (h : giveBeacon i = some (info, skb)) : Sendable sampleKernel skb := by
  unfold giveBeacon at h
  split at h
  · obtain ⟨-, rfl⟩ := Prod.mk.inj (Option.some.inj h)
    exact ⟨by decide, by decide, by decide, by decide⟩
  · cases h

/-- The hotspot's work is pending, and its run asks for the hotspot's beacon and comes again after
102 ms. -/
theorem beacon_work_goes_on_hotspot : ∃ pending,
    ReflTransGen (BeaconSys.Step BeaconOnAp sampleKernel) ⟨newDevice.host, false⟩
      ⟨beaconing.host, pending⟩ ∧ pending = true ∧
      ∃ r, beaconWork sampleKernel beaconing.host.dev giveBeacon 123456789 = .ok r ∧
        r.vif.isSome = true ∧ r.again = some 102 := by
  obtain ⟨pending, hr⟩ := work_beaconing sampleKernel
  obtain ⟨hflag, hruns⟩ := beacon_work_goes_on hr
  have hp : pending = true := hflag.trans beaconing_enabled
  obtain ⟨hok, hround⟩ := hruns hp giveBeacon 123456789
  obtain ⟨r, hw⟩ := hok giveBeacon_sendable
  obtain ⟨i, hvif, -, hagain⟩ := hround r hw
  have hint : beaconing.host.dev.beaconInt = 100 := congrArg Mode.beaconInt beaconing_host.1
  refine ⟨pending, hr, hp, r, hw, by rw [hvif]; rfl, ?_⟩
  rw [hagain, hint]
  rfl

theorem beaconWork_frame_hotspot : ∃ t skb',
    (∃ r, beaconWork sampleKernel beaconing.host.dev giveBeacon 123456789 = .ok r ∧
      r.sent = some t) ∧
    txComplete sampleKernel beaconing.host.dev sampleTxInfo 0 t.skb t.metaWord =
      .ok (skb', .freed) ∧ skb'.data = stamped shortBeacon.data 123456789 := by
  have hmode : beaconing.host.dev.mode = ⟨some 0, 100, true, 0, 0, true⟩ := beaconing_host.1
  have hgive : giveBeacon 0 = some (sampleTxInfo, shortBeacon) := rfl
  have hk := giveBeacon_sendable 0 sampleTxInfo shortBeacon hgive
  obtain ⟨r, hr, -, hok, hsent⟩ := beaconWork_frame (congrArg Mode.running hmode)
    beaconing_enabled (congrArg Mode.apVif hmode) hgive (by decide) hk
  obtain ⟨t, ht⟩ := Option.isSome_iff_exists.1 (hok sampleKernel_neverFails)
  obtain ⟨-, -, hc⟩ := hsent t ht
  obtain ⟨skb', hs, hd⟩ := hc beaconing.host.dev sampleTxInfo 0
  exact ⟨t, skb', ⟨r, hr, ht⟩, hs, hd⟩

end Driver
