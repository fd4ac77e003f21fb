import Mt7603u.Base.LastWrite
import Mt7603u.Proof.ChipRun

/-!
# The peer and its keys

Consequences of `wp_runCalls` for whole runs. On interfaces that are no access point the peer row
is always the one of the BSSID (`station_peer_is_bss`). On any interface a key of the peer row was
put there by the last call about it, and the row has had the same address ever since
(`peer_key_iff`): a key never outlives its peer. The same with BlockAck sessions
(`peer_session_iff`).
-/

namespace Driver

open Effect Slice Word Rust Cell

/-! ## Runs of the chip -/

section
variable {macAddr : MacAddr} {acts acts' : List Action} {h h' : Host} {s s' : RegFile}

theorem chipRun_append (hr : ChipRun macAddr (acts ++ acts') h s h' s') :
    ∃ h₁ s₁, ChipRun macAddr acts h s h₁ s₁ ∧ ChipRun macAddr acts' h₁ s₁ h' s' := by
  induction acts generalizing h s with
  | nil => exact ⟨h, s, ⟨rfl, rfl⟩, hr⟩
  | cons a acts ih =>
    obtain ⟨h₂, s₂, hrun, hc, hr⟩ := hr
    obtain ⟨h₁, s₁, h1, h2⟩ := ih hr
    exact ⟨h₁, s₁, ⟨h₂, s₂, hrun, hc, h1⟩, h2⟩

/-- A part of the chip that each call writes or leaves. -/
theorem chipRun_written {V : Type} {g : Chip → V} {eff : Action → Option V}
    (hg : ∀ a ∈ acts, ∀ up c, g (a.chip macAddr up c) = (eff a).getD (g c))
    (hr : ChipRun macAddr acts h s h' s') :
    g (chipOf s') = written eff acts (g (chipOf s)) := by
  induction acts generalizing h s with
  | nil =>
    obtain ⟨-, rfl⟩ := hr
    rfl
  | cons a acts ih =>
    obtain ⟨h₁, s₁, -, hc, hr⟩ := hr
    rw [ih (fun b hb => hg b (List.mem_cons_of_mem _ hb)) hr, hc, hg a (by simp) h₁.up (chipOf s)]
    rfl

/-- An invariant of every call. -/
theorem chipRun_inv {I : Chip → Prop} (hI : ∀ a ∈ acts, ∀ up c, I c → I (a.chip macAddr up c))
    (hr : ChipRun macAddr acts h s h' s') (hs : I (chipOf s)) : I (chipOf s') := by
  induction acts generalizing h s with
  | nil =>
    obtain ⟨-, rfl⟩ := hr
    exact hs
  | cons a acts ih =>
    obtain ⟨h₁, s₁, -, hc, hr⟩ := hr
    refine ih (fun b hb => hI b (List.mem_cons_of_mem _ hb)) hr ?_
    rw [hc]
    exact hI a (by simp) h₁.up (chipOf s) hs

end

/-! ## What a call writes of the peer row -/

/-- `bss_info_changed` is about the BSSID. -/
def bssidGiven (changed : BitVec 64) : Prop :=
  changed &&& (BSS_CHANGED_BSSID ||| BSS_CHANGED_ASSOC) ≠ 0

instance (changed : BitVec 64) : Decidable (bssidGiven changed) :=
  inferInstanceAs (Decidable (_ ≠ _))

/-- The new peer of a call: an address, or none any more. -/
def Action.newPeer : Action → Option (Option MacAddr)
  | .call _ (.staAdd sta) => if sta.isZero then none else some (some sta)
  | .call _ (.staRemove _) => some none
  | .call vif (.bssInfoChanged info changed) =>
    if vif.type ≠ .ap ∧ bssidGiven changed then
      some ((info.bind (·.bssid)).filter (¬·.isZero))
    else none
  | _ => none

/-- What a call makes of the peer's key. -/
def Action.peerKey : Action → Option (Option Crypt)
  | .call _ (.setKey .setKey sta key) =>
    if key.cipher = WLAN_CIPHER_SUITE_CCMP ∧ keyWcid sta key = 1 then
      some (some ⟨key.keyidx.extractLsb' 0 2, true, key.key.toList⟩)
    else none
  | .call _ (.setKey .disableKey sta key) => if keyWcid sta key = 1 then some none else none
  | a => a.newPeer.map fun _ => none

/-- What a call makes of the peer's session for a TID. -/
def Action.peerSession (tid : Fin 8) : Action → Option (Option (BitVec 3))
  | .call _ (.ampduAction params) =>
    if params.wcid = 1 then
      params.window.bind fun w => if w.1 = tid then some w.2 else none
    else none
  | a => a.newPeer.bind fun p => p.map fun _ => none

/-- The row of a peer that comes, or goes. -/
def Row.withPeer (r : Row) : Option MacAddr → Row
  | some a => ⟨true, a, none, fun _ => none⟩
  | none => { r with valid := false, addr := ⟨0, 0, 0, 0, 0, 0⟩, crypt := none }

section
variable {vif : Vif} {c : Chip}

theorem setAp_peer : (c.setAp vif).peer = c.peer := by
  unfold Chip.setAp
  split <;> rfl

theorem setBssid_station (hv : vif.type ≠ .ap) (bssid : Option MacAddr) :
    c.setBssid vif bssid = { c with
      bssid := bssid.filter (¬·.isZero)
      group := if (bssid.filter (¬·.isZero)).isSome then
        { c.group with valid := true, addr := BCAST_ADDR, crypt := none } else c.group
      peer := c.peer.withPeer (bssid.filter (¬·.isZero)) } := by
  unfold Chip.setBssid
  cases bssid with
  | none =>
    simp only [if_neg hv]
    rfl
  | some b =>
    by_cases hz : b.isZero
    · have hf : (some b).filter (fun b => decide (¬b.isZero = true)) = none := by simp [hz]
      simp only [hz, if_true, if_neg hv, hf]
      rfl
    · have hf : (some b).filter (fun b => decide (¬b.isZero = true)) = some b := by simp [hz]
      simp only [hz, Bool.false_eq_true, if_false, if_neg hv, hf]
      rfl

theorem setBssid_ap (hv : vif.type = .ap) (bssid : Option MacAddr) :
    (c.setBssid vif bssid).peer = c.peer := by
  unfold Chip.setBssid
  split
  · simp only [if_pos hv]
    split <;> rfl
  · rw [if_pos hv]

/-- **The peer row after `bss_info_changed`.** -/
theorem bssInfoChanged_peer (info : Option BssConf) (changed : BitVec 64) :
    ((Callback.bssInfoChanged info changed).chip vif c).peer =
      match (Action.call vif (.bssInfoChanged info changed)).newPeer with
      | some p => c.peer.withPeer p
      | none => c.peer := by
  have hpeer : (if changed &&& BEACON_CHANGES ≠ 0 then c.setAp vif else c).peer = c.peer := by
    split
    · exact setAp_peer
    · rfl
  unfold Callback.chip Action.newPeer
  dsimp only
  generalize (if changed &&& BEACON_CHANGES ≠ 0 then c.setAp vif else c) = c₁ at hpeer ⊢
  by_cases hb : bssidGiven changed
  · rw [if_pos (show changed &&& (BSS_CHANGED_BSSID ||| BSS_CHANGED_ASSOC) ≠ 0 from hb)]
    by_cases hv : vif.type = .ap
    · rw [if_neg (fun h => h.1 hv), setBssid_ap hv, hpeer]
    · rw [if_pos ⟨hv, hb⟩, setBssid_station hv, hpeer]
  · rw [if_neg (show ¬changed &&& (BSS_CHANGED_BSSID ||| BSS_CHANGED_ASSOC) ≠ 0 from hb),
      if_neg (fun h => hb h.2), hpeer]

/-- A call about neither a key nor a session. -/
def Action.plain : Action → Bool
  | .start => false
  | .call _ (.setKey _ _ _) => false
  | .call _ (.ampduAction _) => false
  | _ => true

/-- **The peer row after a call** about neither a key nor a session. -/
theorem plain_peer {a : Action} (ha : a.plain = true) (macAddr : MacAddr) (up : Bool) :
    (a.chip macAddr up c).peer =
      match a.newPeer with
      | some p => c.peer.withPeer p
      | none => c.peer := by
  cases a with
  | start => cases ha
  | stop => rfl
  | removeInterface vif => rfl
  | call vif cb =>
    cases cb with
    | bssInfoChanged info changed => exact bssInfoChanged_peer info changed
    | setKey cmd sta key => cases ha
    | ampduAction params => cases ha
    | config chandef changed => rfl
    | configureFilter totalFlags flags => rfl
    | addInterface =>
      unfold Action.chip Callback.chip
      dsimp only
      split
      · rfl
      · split <;> rfl
    | staAdd sta =>
      unfold Action.chip Callback.chip Action.newPeer
      dsimp only
      by_cases hz : sta.isZero
      · rw [if_pos hz, if_pos hz]
      · rw [if_neg hz, if_neg hz]
        split <;> rfl
    | staRemove sta =>
      unfold Action.chip Callback.chip Action.newPeer
      dsimp only
      split <;> rfl

/-- The peer row after a key call. -/
theorem setKey_peer (macAddr : MacAddr) (up : Bool) (vif : Vif) (cmd : SetKeyCmd)
    (sta : Option MacAddr) (key : KeyConf) :
    ((Action.call vif (.setKey cmd sta key)).chip macAddr up c).peer.addr = c.peer.addr ∧
    ((Action.call vif (.setKey cmd sta key)).chip macAddr up c).peer.sessions = c.peer.sessions ∧
      ((Action.call vif (.setKey cmd sta key)).chip macAddr up c).peer.crypt =
        (Action.call vif (.setKey cmd sta key)).peerKey.getD c.peer.crypt := by
  unfold Action.chip Action.peerKey Callback.chip Chip.updateRow
  rcases keyWcid_cases sta key with hw | hw
  · cases cmd with
    | setKey => by_cases hk : key.cipher = WLAN_CIPHER_SUITE_CCMP <;> simp [hw, hk]
    | disableKey => simp [hw]
  · cases cmd with
    | setKey => by_cases hk : key.cipher = WLAN_CIPHER_SUITE_CCMP <;> simp [hw, hk, Row.setKey]
    | disableKey => simp [hw, Row.dropKey]

/-- The peer row after a BlockAck call. -/
theorem ampdu_peer (macAddr : MacAddr) (up : Bool) (vif : Vif) (params : AmpduParams)
    (tid : Fin 8) :
    ((Action.call vif (.ampduAction params)).chip macAddr up c).peer.addr = c.peer.addr ∧
    ((Action.call vif (.ampduAction params)).chip macAddr up c).peer.crypt = c.peer.crypt ∧
      ((Action.call vif (.ampduAction params)).chip macAddr up c).peer.sessions tid =
        ((Action.call vif (.ampduAction params)).peerSession tid).getD (c.peer.sessions tid) := by
  have hc : (Action.call vif (.ampduAction params)).chip macAddr up c = c.ampdu params := rfl
  have hw : params.wcid = 0 ∨ params.wcid = 1 := by
    unfold AmpduParams.wcid
    split <;> simp
  rw [hc, Action.peerSession, Chip.ampdu]
  cases params.window with
  | none => simp
  | some w =>
    obtain ⟨t, session⟩ := w
    rcases hw with hw | hw
    · simp [hw, Chip.updateRow]
    · refine ⟨by simp [hw, Chip.updateRow, Row.setSession],
        by simp [hw, Chip.updateRow, Row.setSession], ?_⟩
      by_cases ht : tid = t
      · simp [hw, Chip.updateRow, Row.setSession, ht]
      · simp [hw, Chip.updateRow, Row.setSession, ht, show ¬t = tid from fun h => ht h.symm]

end

section
variable {c : Chip} {a : Action} (macAddr : MacAddr) (up : Bool)

/-- A call is a start, about a key, about a session, or plain. -/
theorem action_kinds (a : Action) :
    a = .start ∨ (∃ vif cmd sta key, a = .call vif (.setKey cmd sta key)) ∨
      (∃ vif params, a = .call vif (.ampduAction params)) ∨
      a.plain = true ∧ (a.peerKey = a.newPeer.map fun _ => none) ∧
        ∀ tid, a.peerSession tid = a.newPeer.bind fun p => p.map fun _ => none := by
  cases a with
  | start => exact .inl rfl
  | call vif cb =>
    cases cb with
    | setKey cmd sta key => exact .inr (.inl ⟨vif, cmd, sta, key, rfl⟩)
    | ampduAction params => exact .inr (.inr (.inl ⟨vif, params, rfl⟩))
    | _ => exact .inr (.inr (.inr ⟨rfl, rfl, fun _ => rfl⟩))
  | _ => exact .inr (.inr (.inr ⟨rfl, rfl, fun _ => rfl⟩))

theorem peerKey_chip (ha : a ≠ .start) :
    (a.chip macAddr up c).peer.crypt = a.peerKey.getD c.peer.crypt := by
  rcases action_kinds a with rfl | ⟨vif, cmd, sta, key, rfl⟩ | ⟨vif, params, rfl⟩ | ⟨hp, hk, -⟩
  · exact absurd rfl ha
  · exact (setKey_peer macAddr up vif cmd sta key).2.2
  · exact (ampdu_peer macAddr up vif params 0).2.1
  · rw [plain_peer hp, hk]
    cases a.newPeer with
    | none => rfl
    | some p => cases p <;> rfl

theorem peerSession_chip (tid : Fin 8) :
    (a.chip macAddr up c).peer.sessions tid = (a.peerSession tid).getD (c.peer.sessions tid) := by
  rcases action_kinds a with rfl | ⟨vif, cmd, sta, key, rfl⟩ | ⟨vif, params, rfl⟩ | ⟨hp, -, hs⟩
  · cases up <;> rfl
  · rw [(setKey_peer macAddr up vif cmd sta key).2.1]
    rfl
  · exact (ampdu_peer macAddr up vif params tid).2.2
  · rw [plain_peer hp, hs]
    cases a.newPeer with
    | none => rfl
    | some p => cases p <;> rfl

/-- Without a new peer the row stays the same peer's. -/
theorem addr_chip (ha : a ≠ .start) (h : a.newPeer = none) :
    (a.chip macAddr up c).peer.addr = c.peer.addr := by
  rcases action_kinds a with rfl | ⟨vif, cmd, sta, key, rfl⟩ | ⟨vif, params, rfl⟩ | ⟨hp, -, -⟩
  · exact absurd rfl ha
  · exact (setKey_peer macAddr up vif cmd sta key).1
  · exact (ampdu_peer macAddr up vif params 0).1
  · rw [plain_peer hp, h]

theorem newPeer_of_peerKey (h : ∀ p, a.peerKey = some p → p ≠ none) : a.newPeer = none := by
  rcases action_kinds a with rfl | ⟨vif, cmd, sta, key, rfl⟩ | ⟨vif, params, rfl⟩ | ⟨-, hk, -⟩
  · rfl
  · rfl
  · rfl
  · cases hn : a.newPeer with
    | none => rfl
    | some p => exact absurd rfl (h none (by rw [hk, hn]; rfl))

end

/-! ## Runs -/

/-- The last call about the peer's key installed `k`; `pre` came before it. -/
def KeyedAfter (acts : List Action) (k : Crypt) (pre : List Action) : Prop :=
  ∃ a post, acts = pre ++ a :: post ∧ a.peerKey = some (some k) ∧ ∀ b ∈ post, b.peerKey = none

/-- **A key of the peer row** is the one the last call about it installed, and the row has had the
same address ever since. -/
theorem peer_key_iff (acts : List Action) (hstart : ∀ a ∈ acts, a ≠ .start) (h : Host)
    (s : RegFile) (hs : (chipOf s).peer.crypt = none) :
    wp (regEnv True) (runCalls acts h) s fun _ s' => ∀ k,
      ((chipOf s').peer.crypt = some k ↔ ∃ pre, KeyedAfter acts k pre) ∧
      ∀ pre, KeyedAfter acts k pre → ∃ h₁ s₁, ChipRun h.dev.macAddr pre h s h₁ s₁ ∧
        (chipOf s').peer.addr = (chipOf s₁).peer.addr := by
  refine wp_mono (wp_runCalls acts h s) fun _ s' hr k => ⟨?_, ?_⟩
  · have hcrypt : (chipOf s').peer.crypt = written Action.peerKey acts (chipOf s).peer.crypt :=
      chipRun_written (g := fun c => c.peer.crypt)
        (fun a ha up c => peerKey_chip h.dev.macAddr up (hstart a ha)) hr
    rw [hcrypt, hs, written_eq_iff]
    constructor
    · rintro (⟨pre, a, post, hl, ha, hpost⟩ | ⟨-, hn⟩)
      · exact ⟨pre, a, post, hl, ha, hpost⟩
      · cases hn
    · rintro ⟨pre, a, post, hl, ha, hpost⟩
      exact .inl ⟨pre, a, post, hl, ha, hpost⟩
  · rintro pre ⟨a, post, rfl, ha, hpost⟩
    obtain ⟨h₁, s₁, hpre, hr'⟩ := chipRun_append hr
    refine ⟨h₁, s₁, hpre,
      chipRun_inv (I := fun c' => c'.peer.addr = (chipOf s₁).peer.addr) ?_ hr' rfl⟩
    intro b hb up c' hc'
    have hnew : b.newPeer = none := by
      refine newPeer_of_peerKey fun p hp => ?_
      rcases List.mem_cons.1 hb with rfl | hb
      · rw [ha] at hp
        obtain rfl := Option.some.inj hp
        exact Option.some_ne_none k
      · rw [hpost b hb] at hp
        cases hp
    rw [addr_chip h.dev.macAddr up (hstart b (List.mem_append_right _ hb)) hnew, hc']

theorem peer_key_joined :
    wp (regEnv True) (runCalls joinCalls newDevice.host) (fun _ => 0) fun _ s' =>
      (chipOf s').peer.crypt = some ⟨samplePtk.conf.keyidx.extractLsb' 0 2, true,
        samplePtk.conf.key.toList⟩ := by
  refine wp_mono (peer_key_iff joinCalls (by simp [joinCalls]) newDevice.host (fun _ => 0) ?_)
    fun _ s' h => (h _).1.2 ⟨[.call sampleStation (.staAdd sampleBss)], _, [], rfl, ?_, by simp⟩
  · decide
  · decide

/-- **A BlockAck session of the peer row** is the one the last call about its TID set up, if no new
peer has come since. -/
theorem peer_session_iff (acts : List Action) (h : Host) (s : RegFile) :
    wp (regEnv True) (runCalls acts h) s fun _ s' => ∀ tid w,
      (chipOf s').peer.sessions tid = some w ↔
        (∃ pre a post, acts = pre ++ a :: post ∧ a.peerSession tid = some (some w) ∧
          ∀ b ∈ post, b.peerSession tid = none) ∨
        (∀ a ∈ acts, a.peerSession tid = none) ∧ (chipOf s).peer.sessions tid = some w := by
  refine wp_mono (wp_runCalls acts h s) fun _ s' hr tid w => ?_
  have hses : (chipOf s').peer.sessions tid =
      written (Action.peerSession tid) acts ((chipOf s).peer.sessions tid) :=
    chipRun_written (g := fun c => c.peer.sessions tid)
      (fun a _ up c => peerSession_chip h.dev.macAddr up tid) hr
  rw [hses, written_eq_iff]

/-- The access point's frames of TID `tid` in windows of 64 frames, from now on or no more. -/
def sampleBa (action : AmpduAction) (tid : U16) : Action :=
  .call sampleStation (.ampduAction ⟨action, some sampleBss, tid, 64⟩)

/-- Sessions are set up for TIDs 0 and 5, and the one for TID 0 ends. -/
theorem peer_session_joined :
    wp (regEnv True) (runCalls [sampleBa .txOperational 0, sampleBa .txOperational 5,
        sampleBa .txStopCont 0] newDevice.host) (fun _ => 0) fun _ s' =>
      (chipOf s').peer.sessions 5 = some 7 ∧ (chipOf s').peer.sessions 0 = none := by
  refine wp_mono (peer_session_iff _ newDevice.host fun _ => 0) fun _ s' h => ⟨?_, ?_⟩
  · refine (h 5 7).2 (.inl ⟨[sampleBa .txOperational 0], _, [sampleBa .txStopCont 0], rfl,
      by decide, fun b hb => ?_⟩)
    rw [List.mem_singleton.1 hb]
    decide
  · have hend : (sampleBa .txStopCont 0).peerSession 0 = some none := by decide
    refine Option.eq_none_iff_forall_ne_some.2 fun w hw => ?_
    rcases (h 0 w).1 hw with ⟨pre, a, post, hl, ha, hpost⟩ | ⟨hall, -⟩
    · -- the call that set it up would have to come last
      rcases pre with _ | ⟨b, _ | ⟨c, _ | ⟨d, pre⟩⟩⟩
      · obtain ⟨rfl, rfl⟩ := List.cons.inj hl
        exact absurd (hpost _ (by simp)) (hend ▸ Option.some_ne_none _)
      · obtain ⟨-, hl⟩ := List.cons.inj hl
        obtain ⟨rfl, -⟩ := List.cons.inj hl
        cases ha
      · obtain ⟨-, hl⟩ := List.cons.inj hl
        obtain ⟨-, hl⟩ := List.cons.inj hl
        obtain ⟨rfl, -⟩ := List.cons.inj hl
        cases ha
      · simp at hl
    · exact absurd (hall _ (by simp)) (hend ▸ Option.some_ne_none _)

/-! ## Stations -/

/-- A call that is not on an access point's interface and does not start the device. -/
def Action.OnStation : Action → Prop
  | .start => False
  | .call vif _ => vif.type ≠ .ap
  | _ => True

/-- The peer row is that of the BSSID. -/
structure Chip.PeerIsBss (c : Chip) : Prop where
  addr : c.peer.addr = c.bssid.getD ⟨0, 0, 0, 0, 0, 0⟩
  valid : c.bssid.isSome = true → c.peer.valid = true

section
variable {vif : Vif} {c : Chip}

theorem peerIsBss_withPeer (p : Option MacAddr) {own : Option MacAddr} {group : Row} :
    Chip.PeerIsBss ⟨own, p, group, c.peer.withPeer p⟩ := by
  cases p with
  | none => exact ⟨rfl, by simp⟩
  | some a => exact ⟨rfl, fun _ => rfl⟩

/-- A key changes neither the row's address nor the BSSID, and keeps a valid row valid. -/
theorem Chip.PeerIsBss.of_row {c' : Chip} (h : c.PeerIsBss) (hb : c'.bssid = c.bssid)
    (ha : c'.peer.addr = c.peer.addr) (hv : c.peer.valid = true → c'.peer.valid = true) :
    c'.PeerIsBss := by
  refine ⟨by rw [ha, hb, h.addr], fun hs => hv (h.valid ?_)⟩
  rw [← hb]
  exact hs

theorem setAp_station (hv : vif.type ≠ .ap) : c.setAp vif = c := if_neg fun h => hv h.1

/-- A call with a new peer programs the BSSID and the row. -/
theorem station_newPeer {a : Action} (ha : a.OnStation) (hn : a.newPeer ≠ none) (macAddr : MacAddr)
    (up : Bool) : (a.chip macAddr up c).PeerIsBss := by
  cases a with
  | call vif cb =>
    have hv : vif.type ≠ .ap := ha
    cases cb with
    | bssInfoChanged info changed =>
      have hb : bssidGiven changed := by
        by_contra hb
        exact hn (if_neg fun h => hb h.2)
      unfold bssidGiven at hb
      unfold Action.chip Callback.chip
      dsimp only
      rw [setAp_station hv, ite_self, if_pos hb, setBssid_station hv]
      exact peerIsBss_withPeer _
    | staAdd sta =>
      have hz : ¬sta.isZero = true := fun hz => hn (if_pos hz)
      unfold Action.chip Callback.chip
      dsimp only
      rw [if_neg hz, if_neg hv]
      exact ⟨rfl, fun _ => rfl⟩
    | staRemove sta =>
      unfold Action.chip Callback.chip
      dsimp only
      rw [if_neg hv]
      exact ⟨rfl, by simp [Chip.dropPeer]⟩
    | _ => exact absurd rfl hn
  | _ => exact absurd rfl hn

theorem updateRow_keeps (wcid : U32) {f : Row → Row} (ha : ∀ r, (f r).addr = r.addr)
    (hv : ∀ r, r.valid = true → (f r).valid = true) (h : c.PeerIsBss) :
    (c.updateRow wcid f).PeerIsBss := by
  unfold Chip.updateRow
  split
  · exact h.of_row rfl rfl id
  · exact h.of_row rfl (ha _) (hv _)

/-- The others keep them. -/
theorem station_keeps {a : Action} (ha : a.OnStation) (macAddr : MacAddr) (up : Bool)
    (h : c.PeerIsBss) : (a.chip macAddr up c).PeerIsBss := by
  by_cases hn : a.newPeer = none
  · cases a with
    | start => exact ha.elim
    | stop => exact h
    | removeInterface vif => exact h
    | call vif cb =>
      have hv : vif.type ≠ .ap := ha
      cases cb with
      | config chandef changed => exact h
      | configureFilter totalFlags flags => exact h
      | staRemove sta => cases hn
      | addInterface =>
        unfold Action.chip Callback.chip
        dsimp only
        rw [if_neg hv]
        split
        · exact h
        · exact h.of_row rfl rfl id
      | bssInfoChanged info changed =>
        have hb : ¬bssidGiven changed := fun hb =>
          Option.some_ne_none _ ((if_pos ⟨hv, hb⟩).symm.trans hn)
        unfold bssidGiven at hb
        unfold Action.chip Callback.chip
        dsimp only
        rw [setAp_station hv, ite_self, if_neg hb]
        exact h
      | staAdd sta =>
        have hz : sta.isZero = true := by
          by_contra hz
          exact Option.some_ne_none _ ((if_neg hz).symm.trans hn)
        unfold Action.chip Callback.chip
        dsimp only
        rw [if_pos hz]
        exact h
      | ampduAction params =>
        change (c.ampdu params).PeerIsBss
        unfold Chip.ampdu
        split
        · exact updateRow_keeps _ (fun _ => rfl) (fun _ => id) h
        · exact h
      | setKey cmd sta key =>
        unfold Action.chip Callback.chip
        cases cmd with
        | setKey =>
          dsimp only
          split
          · exact updateRow_keeps _ (fun _ => rfl) (fun _ _ => rfl) h
          · exact h
        | disableKey => exact updateRow_keeps _ (fun _ => rfl) (fun _ => id) h
  · exact station_newPeer ha hn macAddr up

end

/-- **A station's peer row is that of the BSSID.** After any calls there comes one with a new peer,
on an interface that is no access point's, and then any others on such interfaces. At the end the
row has the address of the BSSID register, or none if there is no BSSID, and is valid if there is
one. -/
theorem station_peer_is_bss (pre : List Action) (a : Action) (post : List Action)
    (ha : a.OnStation) (hn : a.newPeer ≠ none) (hpost : ∀ b ∈ post, b.OnStation) (h : Host)
    (s : RegFile) :
    wp (regEnv True) (runCalls (pre ++ a :: post) h) s fun _ s' => (chipOf s').PeerIsBss := by
  refine wp_mono (wp_runCalls _ h s) fun _ s' hr => ?_
  obtain ⟨h₁, s₁, -, h₂, s₂, -, hc, hr⟩ := chipRun_append hr
  refine chipRun_inv (fun b hb up c hc => station_keeps (hpost b hb) _ up hc) hr ?_
  rw [hc]
  exact station_newPeer ha hn _ h₂.up

theorem station_peer_joined :
    wp (regEnv True) (runCalls ([] ++ .call sampleStation (.staAdd sampleBss) ::
        [.call sampleStation (.setKey .setKey (some sampleBss) samplePtk.conf)]) newDevice.host)
      (fun _ => 0) fun _ s' => (chipOf s').PeerIsBss := by
  refine station_peer_is_bss [] _ _ ?_ ?_ ?_ _ _
  · change sampleStation.type ≠ .ap
    decide
  · decide
  · intro b hb
    rw [List.mem_singleton.1 hb]
    change sampleStation.type ≠ .ap
    decide

end Driver
