import Mt7603u.Driver.Mac80211
import Mt7603u.Proof.Builders

/-!
# What the callbacks write

`Callback.Writes vif cb a v`: on the access point interface `vif` the callback `cb` may write `v`
to the register `a`. On other interfaces it may also write the registers in `Callback.extraAddrs`;
`Callback.WritesOn` is both. `callback_writesOn` proves it for every callback, once, and
`callback_writes` is its case for an access point; every invariant about registers then follows
from `runAll_inv`, without looking at the callbacks again.
-/

namespace Driver

open Effect Slice Word Rust

/-- Every register the request writes is a mapped one and allowed by `W`. -/
def Issues (W : U32 → U32 → Prop) : Req → Prop
  | .writeReg a v => ∃ addr, a = physicalAddrMap addr ∧ W addr v
  | _ => True

/-- An access point's own address and BSSID. -/
def apAddrOps (a : MacAddr) : List RegWriteOp :=
  ownMacSeq a ++ [⟨RMAC_CB0R0, packLo a⟩, ⟨RMAC_CB0R1, packHi a⟩]

/-- The registers of a channel switch, the beacon timer and the BSSID mode. -/
def bssAddrs : List U32 :=
  [RMAC_CHFREQ, RMAC_RMACDR, LPON_T0TPCR, LPON_MPTCR0, LPON_PISR, LPON_T0CR, ARB_SCR, ARB_BCNQCR0,
    ARB_BCNQCR1]

/-- The registers of WCID `wcid` a key change writes. -/
def keyAddrs (wcid : U32) : List U32 :=
  let wtbl1 := WTBL1_BASE + wcid * WTBL1_ENTRY_SIZE
  let wtbl3 := WTBL3_KEY_BASE + wcid * WTBL3_ENTRY_SIZE
  let wtbl2 := (0x00040000 : U32) + wcid * 64
  [wtbl1, wtbl1 + 0x08, wtbl3, wtbl3 + 4, wtbl3 + 8, wtbl3 + 12, wtbl2, wtbl2 + 4, WTBL1OR]

/-- What a callback may write. -/
def Callback.Writes (vif : Vif) : Callback → U32 → U32 → Prop
  | .addInterface, a, v => ⟨a, v⟩ ∈ apAddrOps vif.addr
  | .config _ _, a, _ => a = RMAC_CHFREQ
  | .configureFilter _ _, a, _ => a ∈ [RMAC_RFCR, RMAC_RFCR1]
  | .bssInfoChanged info _, a, v =>
    a ∈ bssAddrs ∨ (¬vif.addr.isZero ∧ ⟨a, v⟩ ∈ apAddrOps vif.addr) ∨
      ∃ bssid, info.bind (·.bssid) = some bssid ∧ ¬bssid.isZero ∧
        ⟨a, v⟩ ∈ ([⟨RMAC_CB0R0, packLo bssid⟩, ⟨RMAC_CB0R1, packHi bssid⟩] : List RegWriteOp)
  | .staAdd sta, a, v => ¬sta.isZero ∧ ⟨a, v⟩ ∈ wtblStaSeq sta ++ [⟨WTBL2_DW15_1, 0⟩]
  | .staRemove _, a, _ =>
    a ∈ [WTBL1_BASE + WTBL1_ENTRY_SIZE, WTBL1_BASE + WTBL1_ENTRY_SIZE + 0x04,
      WTBL1_BASE + WTBL1_ENTRY_SIZE + 0x08]
  | .ampduAction _, a, _ => a ∈ [wtbl2Dw15 0, wtbl2Dw15 1, RMAC_BSCR0, RMAC_BSCR1]
  | .setKey _ sta key, a, _ => a ∈ keyAddrs (keyWcid sta key)

/-- The registers filled for a peer: WTBL1 entries 0 and 1, and its BlockAck word. -/
def peerAddrs : List U32 :=
  [0x28000, 0x28004, 0x28008, 0x28020, 0x28024, 0x28028, WTBL1OR, 0x2800C, 0x28010, 0x2802C,
    0x28030, WTBL1OR, WTBL2_DW15_1]

/-- What a callback writes besides on a station or monitor interface. -/
def Callback.extraAddrs : Callback → List U32
  | .addInterface => [RMAC_RFCR, RMAC_RFCR1]
  | .bssInfoChanged _ _ => [RMAC_CB0R0, RMAC_CB0R1] ++ peerAddrs
  | .staAdd _ => [RMAC_CHFREQ, RMAC_CB0R0, RMAC_CB0R1]
  | .staRemove _ => [RMAC_CB0R0, RMAC_CB0R1]
  | _ => []

/-- What a callback may write on an interface of any type. -/
def Callback.WritesOn (vif : Vif) (cb : Callback) (a v : U32) : Prop :=
  cb.Writes vif a v ∨ vif.type ≠ .ap ∧ a ∈ cb.extraAddrs

/-! ## Parts of callbacks -/

section
variable {X : Req → Prop}

theorem all_onlyIf {c : Prop} [Decidable c] {x : P Unit} (h : c → All (S := sig) X x) :
    All (S := sig) X (onlyIf c x) := by
  unfold onlyIf
  split
  · rename_i hc
    exact h hc
  · trivial

/-- A register is only written back if it was read. -/
theorem all_updateReg {addr : U32} {f : U32 → U32} (hr : X (.readReg (physicalAddrMap addr)))
    (hw : ∀ v, X (.writeReg (physicalAddrMap addr) v)) :
    All (S := sig) X (updateReg addr f) := by
  refine all_bind (all_usbReadReg hr) fun ⟨ret, dw⟩ => ?_
  dsimp only
  split
  · exact all_bind (all_usbWriteReg (hw _)) fun _ => trivial
  · trivial

end

section
variable {W : U32 → U32 → Prop}

theorem all_write {addr val : U32} (h : W addr val) :
    All (S := sig) (Issues W) (usbWriteReg addr val) := all_usbWriteReg ⟨addr, rfl, h⟩

theorem all_read {addr val : U32} : All (S := sig) (Issues W) (usbReadReg addr val) :=
  all_usbReadReg trivial

theorem all_built {B : Out RegWriteOp Nat} {ops : List RegWriteOp} {max : Nat} (hB : B.Fills ops)
    (hm : ops.length ≤ max) (h : ∀ op ∈ ops, W op.addr op.val) :
    All (S := sig) (Issues W) (executeBuilt B max) := by
  refine all_executeBuilt fun ops' hops op hop => ⟨op.addr, rfl, h op ?_⟩
  rw [rustCall_of_fills hB hm] at hops
  obtain rfl := Except.ok.inj hops
  exact hop

theorem all_update {addr : U32} {f : U32 → U32} (h : ∀ v, W addr v) :
    All (S := sig) (Issues W) (updateReg addr f) :=
  all_updateReg trivial fun v => ⟨addr, rfl, h v⟩

theorem all_send {B : Out U8 Nat} {max : Nat} : All (S := sig) (Issues W) (sendBuilt B max) :=
  all_sendBuilt (fun _ => trivial) fun _ _ => trivial

theorem all_setChannelExt {dev : Dev} {channel bw centralCh : U8} (h : W RMAC_CHFREQ 1) :
    All (S := sig) (Issues W) (setChannelExt dev channel bw centralCh) := by
  unfold setChannelExt
  refine all_bind all_send fun _ => ?_
  refine all_bind (all_write h) fun _ => ?_
  exact all_bind all_send fun _ => trivial

theorem all_tuneTo {dev : Dev} {channel : U8} (h : W RMAC_CHFREQ 1) :
    All (S := sig) (Issues W) (tuneTo dev channel) := by
  unfold tuneTo setChannel
  split
  · exact all_setChannelExt h
  · trivial

theorem all_tuneToPeer {dev : Dev} {addr : MacAddr} {fallback : Option U8} (h : W RMAC_CHFREQ 1) :
    All (S := sig) (Issues W) (tuneToPeer dev addr fallback) := by
  refine all_bind (all_request.2 trivial) fun r => ?_
  match r with
  | some (some ch) => exact all_tuneTo h
  | some none => trivial
  | none =>
    cases fallback with
    | some ch => exact all_tuneTo h
    | none => trivial

theorem all_writeBssid {a : MacAddr} (h0 : W RMAC_CB0R0 (packLo a)) (h1 : W RMAC_CB0R1 (packHi a)) :
    All (S := sig) (Issues W) (writeBssid a) :=
  all_bind (all_write h0) fun _ => all_bind (all_write h1) fun _ => trivial

theorem all_clearMbssid (h : ∀ v, W RMAC_RMACDR v) : All (S := sig) (Issues W) clearMbssid :=
  @all_update W RMAC_RMACDR (fun dw => dw &&& ~~~((0x3 : U32) <<< 24)) h

theorem all_programPeer {a : MacAddr}
    (h : ∀ op ∈ wtblStaSeq a ++ [⟨WTBL2_DW15_1, 0⟩], W op.addr op.val) :
    All (S := sig) (Issues W) (programPeer a) := by
  unfold programPeer
  rw [rustCall_of_fills (fills_buildWtblStaSequence a) (Nat.le_of_ble_eq_true rfl)]
  dsimp only
  split
  · refine all_bind (all_executeRegOps fun op hop => ⟨op.addr, rfl, h op ?_⟩) fun _ => ?_
    · exact List.mem_append_left _ hop
    · exact all_bind (all_write (h ⟨WTBL2_DW15_1, 0⟩ (by simp))) fun _ => trivial
  · trivial

theorem all_clearEntry1 (h0 : W (WTBL1_BASE + WTBL1_ENTRY_SIZE) 0)
    (h1 : W (WTBL1_BASE + WTBL1_ENTRY_SIZE + 0x04) 0)
    (h2 : W (WTBL1_BASE + WTBL1_ENTRY_SIZE + 0x08) 0) :
    All (S := sig) (Issues W) clearEntry1 :=
  all_bind (all_write h0) fun _ => all_bind (all_write h1) fun _ => all_bind (all_write h2)
    fun _ => trivial

theorem all_bssSync {period : U16} {enable : Bool} {max : Nat} (hm : 6 ≤ max)
    (h : ∀ a ∈ bssAddrs, ∀ v, W a v) :
    All (S := sig) (Issues W) (executeBuilt (buildApBssSyncSequence period enable) max) := by
  refine all_built (fills_buildApBssSyncSequence period enable) ?_ fun op hop => h _ ?_ _
  · cases enable
    · exact Nat.le_trans (by decide : 4 ≤ 6) hm
    · exact hm
  · cases enable <;> simp only [apBssSyncSeq, if_true, if_false, Bool.false_eq_true, List.mem_cons,
      List.not_mem_nil, or_false] at hop
    · rcases hop with rfl | rfl | rfl | rfl <;> simp [bssAddrs]
    · rcases hop with rfl | rfl | rfl | rfl | rfl | rfl <;> simp [bssAddrs]

end

/-! ## Callbacks -/

/-- The address a peer's register sequence writes. -/
theorem wtblStaSeq_addr {m : MacAddr} {op : RegWriteOp}
    (h : op ∈ wtblStaSeq m ++ [⟨WTBL2_DW15_1, 0⟩]) : op.addr ∈ peerAddrs := by
  -- the addresses do not depend on the peer
  have hd : List.all (wtblStaSeq m ++ [⟨WTBL2_DW15_1, 0⟩])
      (fun op => peerAddrs.elem op.addr) = true := rfl
  exact List.mem_of_elem_eq_true (List.all_eq_true.1 hd op h)

theorem ne_ap_of_not_isAp {vif : Vif} (h : ¬Vif.isAp (some vif)) : vif.type ≠ .ap := by
  simpa [Vif.isAp] using h

section
variable {vif : Vif} {dev : Dev}

theorem all_apAddr {W : U32 → U32 → Prop} {a : MacAddr}
    (h : ∀ op ∈ apAddrOps a, W op.addr op.val) :
    All (S := sig) (Issues W) (executeBuilt (buildOwnMacSequence a) 32) ∧
      All (S := sig) (Issues W) (writeBssid a) := by
  refine ⟨all_built (fills_buildOwnMacSequence a) (Nat.le_of_ble_eq_true rfl) fun op hop =>
    h op (List.mem_append_left _ hop), all_writeBssid ?_ ?_⟩
  · exact h ⟨RMAC_CB0R0, packLo a⟩ (by simp [apAddrOps])
  · exact h ⟨RMAC_CB0R1, packHi a⟩ (by simp [apAddrOps])

theorem all_rxFilter {W : U32 → U32 → Prop} {promisc fcsFail : Bool}
    (h : ∀ a ∈ [RMAC_RFCR, RMAC_RFCR1], ∀ v, W a v) :
    All (S := sig) (Issues W) (executeBuilt (buildRxFilterSequence promisc fcsFail) 4) := by
  refine all_built (fills_buildRxFilterSequence _ _) (Nat.le_of_ble_eq_true rfl) fun op hop => ?_
  simp only [rxFilterSeq, List.mem_cons, List.not_mem_nil, or_false] at hop
  rcases hop with rfl | rfl
  · exact h _ (by simp) _
  · exact h _ (by simp) _

theorem all_clearBssid {W : U32 → U32 → Prop} (h : ∀ a ∈ [RMAC_CB0R0, RMAC_CB0R1], ∀ v, W a v) :
    All (S := sig) (Issues W) clearBssid :=
  all_bind (all_write (h _ (by simp) _)) fun _ => all_bind (all_write (h _ (by simp) _))
    fun _ => trivial

theorem all_addInterface :
    All (S := sig) (Issues (Callback.addInterface.WritesOn vif)) (addInterface dev vif) := by
  obtain ⟨h1, h2⟩ := all_apAddr (W := Callback.addInterface.WritesOn vif) (a := vif.addr)
    fun op hop => .inl hop
  unfold addInterface
  refine all_bind (all_onlyIf fun h => all_rxFilter fun a ha v => .inr ⟨?_, ha⟩) fun _ => ?_
  · rw [h.1]
    decide
  · split
    · trivial
    · refine all_bind h1 fun _ => ?_
      split
      · exact all_bind h2 fun _ => trivial
      · trivial

theorem all_config {chandef : ChanDef} {changed : U32} :
    All (S := sig) (Issues ((Callback.config chandef changed).WritesOn vif))
      (config dev chandef changed) := by
  unfold config
  split
  · split
    · exact all_setChannelExt (.inl rfl)
    · trivial
  · trivial

theorem all_configureFilter {totalFlags : U32} {flags : BitVec 64} :
    All (S := sig) (Issues ((Callback.configureFilter totalFlags flags).WritesOn vif))
      (configureFilter dev totalFlags flags) :=
  all_bind (all_onlyIf fun _ => all_rxFilter fun _ ha _ => .inl ha) fun _ => trivial

theorem all_programAp {W : U32 → U32 → Prop}
    (ha : ¬vif.addr.isZero → ∀ op ∈ apAddrOps vif.addr, W op.addr op.val)
    (hm : ∀ v, W RMAC_RMACDR v) : All (S := sig) (Issues W) (programAp dev (some vif)) := by
  unfold programAp
  dsimp only
  split
  · rename_i hv
    obtain ⟨h1, h2⟩ := all_apAddr (ha hv.2)
    refine all_bind h1 fun _ => all_bind h2 fun _ => ?_
    exact all_bind (all_clearMbssid hm) fun _ => trivial
  · trivial

theorem all_disableBeacon {info : Option BssConf} {changed : BitVec 64} :
    All (S := sig) (Issues ((Callback.bssInfoChanged info changed).WritesOn vif))
      (disableBeacon dev changed) := by
  unfold disableBeacon
  split
  · exact all_bind (all_request.2 trivial) fun _ =>
      all_bind (all_bssSync (by decide) fun _ ha _ => .inl (.inl ha)) fun _ => trivial
  · trivial

theorem all_beaconChanged {info : Option BssConf} {changed : BitVec 64} :
    All (S := sig) (Issues ((Callback.bssInfoChanged info changed).WritesOn vif))
      (beaconChanged dev (some vif) info changed) := by
  unfold beaconChanged
  refine all_bind (all_programAp (fun hz op hop => .inl (.inr (.inl ⟨hz, hop⟩))) fun v =>
    .inl (.inl (by simp [bssAddrs]))) fun dev => ?_
  split
  · split
    · exact all_bind (all_bssSync (by decide) fun _ ha _ => .inl (.inl ha)) fun _ =>
        all_bind (all_request.2 trivial) fun _ => trivial
    · exact all_disableBeacon
  · exact all_disableBeacon

theorem all_bssidCleared {W : U32 → U32 → Prop}
    (hx : vif.type ≠ .ap → ∀ a ∈ [RMAC_CB0R0, RMAC_CB0R1] ++ peerAddrs, ∀ v, W a v) :
    All (S := sig) (Issues W) (bssidCleared dev (some vif)) := by
  refine all_bind (all_onlyIf fun h => ?_) fun _ => trivial
  have hx := hx (ne_ap_of_not_isAp h)
  refine all_bind (all_clearBssid fun a ha v => hx a (List.mem_append_left _ ha) v) fun _ => ?_
  refine all_clearEntry1 (hx _ ?_ _) (hx _ ?_ _) (hx _ ?_ _) <;>
    simp [peerAddrs, WTBL1_BASE, WTBL1_ENTRY_SIZE]

theorem all_bssidChanged {W : U32 → U32 → Prop} {info : Option BssConf} (hc : W RMAC_CHFREQ 1)
    (hm : ∀ v, W RMAC_RMACDR v)
    (hb : ∀ bssid, info.bind (·.bssid) = some bssid → ¬bssid.isZero →
      W RMAC_CB0R0 (packLo bssid) ∧ W RMAC_CB0R1 (packHi bssid))
    (hx : vif.type ≠ .ap → ∀ a ∈ [RMAC_CB0R0, RMAC_CB0R1] ++ peerAddrs, ∀ v, W a v) :
    All (S := sig) (Issues W) (bssidChanged dev (some vif) info) := by
  unfold bssidChanged
  split
  · rename_i bssid hbss
    split
    · exact all_bssidCleared hx
    · rename_i hz
      obtain ⟨h0, h1⟩ := hb bssid hbss hz
      refine all_bind (all_tuneToPeer hc) fun dev => all_bind (all_write h0) fun r => ?_
      refine all_bind (all_onlyIf fun _ => all_bind (all_write h1) fun _ => trivial) fun _ => ?_
      refine all_bind (all_clearMbssid hm) fun _ => ?_
      refine all_bind (all_onlyIf fun h => all_programPeer fun op hop => ?_) fun _ => trivial
      exact hx (ne_ap_of_not_isAp h) _ (List.mem_append_right _ (wtblStaSeq_addr hop)) _
  · exact all_bssidCleared hx

theorem all_bssInfoChanged {info : Option BssConf} {changed : BitVec 64} :
    All (S := sig) (Issues ((Callback.bssInfoChanged info changed).WritesOn vif))
      (bssInfoChanged dev (some vif) info changed) := by
  unfold bssInfoChanged tuneToOper
  refine all_bind ?_ fun dev => all_bind ?_ fun dev => ?_
  · split
    · exact all_tuneTo (.inl (.inl (by simp [bssAddrs])))
    · trivial
  · split
    · exact all_beaconChanged
    · trivial
  · split
    · refine all_bssidChanged (.inl (.inl (by simp [bssAddrs])))
        (fun v => .inl (.inl (by simp [bssAddrs]))) (fun bssid hb hz => ⟨?_, ?_⟩)
        fun h a ha v => .inr ⟨h, ha⟩
      · exact .inl (.inr (.inr ⟨bssid, hb, hz, by simp⟩))
      · exact .inl (.inr (.inr ⟨bssid, hb, hz, by simp⟩))
    · trivial

theorem all_staAdd {sta : MacAddr} :
    All (S := sig) (Issues ((Callback.staAdd sta).WritesOn vif)) (staAdd dev (some vif) sta) := by
  have hx : ¬Vif.isAp (some vif) → ∀ a ∈ (Callback.staAdd sta).extraAddrs, ∀ v,
      (Callback.staAdd sta).WritesOn vif a v := fun h a ha _ => .inr ⟨ne_ap_of_not_isAp h, ha⟩
  unfold staAdd
  split
  · trivial
  · rename_i hz
    refine all_bind ?_ fun dev => ?_
    · split
      · rename_i h
        exact all_tuneToPeer (hx h _ (by simp [Callback.extraAddrs]) _)
      · trivial
    · refine all_bind (all_onlyIf fun h => all_writeBssid (hx h _ ?_ _) (hx h _ ?_ _)) fun _ => ?_
      · simp [Callback.extraAddrs]
      · simp [Callback.extraAddrs]
      · exact all_bind (all_programPeer fun op hop => .inl ⟨hz, hop⟩) fun _ => trivial

theorem all_staRemove {sta : MacAddr} :
    All (S := sig) (Issues ((Callback.staRemove sta).WritesOn vif)) (staRemove dev (some vif)) := by
  refine all_bind (all_onlyIf fun h => all_clearBssid fun a ha v => ?_) fun _ => ?_
  · exact .inr ⟨ne_ap_of_not_isAp h, ha⟩
  · refine all_bind (all_clearEntry1 (.inl ?_) (.inl ?_) (.inl ?_)) fun _ => trivial <;>
      simp [Callback.Writes]

theorem all_baSession {params : AmpduParams} {wcid tid baSize : U8} {enable : Bool} {prev : U32}
    (hw : wcid = 0 ∨ wcid = 1) :
    All (S := sig) (Issues ((Callback.ampduAction params).WritesOn vif))
      (executeBuilt (buildBaSessionSequence wcid tid baSize enable prev) 4) := by
  unfold buildBaSessionSequence
  split
  · unfold executeBuilt
    rw [rustCall_fail]
    trivial
  · refine all_built (fills_setSeq rfl) (Nat.le_of_ble_eq_true rfl) fun op hop => .inl ?_
    rw [List.mem_singleton.1 hop]
    rcases hw with rfl | rfl <;> simp [Callback.Writes]

theorem all_ampduAction {params : AmpduParams} :
    All (S := sig) (Issues ((Callback.ampduAction params).WritesOn vif))
      (ampduAction (some vif) params) := by
  have hw : (if params.peer.isSome then (1 : U8) else 0) = 0 ∨
      (if params.peer.isSome then (1 : U8) else 0) = 1 := by split <;> simp
  unfold ampduAction
  refine all_bind all_read fun ⟨_, dw15⟩ => ?_
  dsimp only
  split
  · split
    · refine all_bind (all_write (.inl ?_)) fun _ => all_bind (all_write (.inl ?_)) fun _ =>
        trivial <;> simp [Callback.Writes]
    · trivial
  · trivial
  · exact all_bind (all_baSession hw) fun _ => trivial
  all_goals first
    | trivial
    | (refine all_bind (all_baSession hw) fun _ => ?_
       split
       · exact all_bind (all_request.2 trivial) fun _ => trivial
       · trivial)

theorem keyWcid_cases (sta : Option MacAddr) (key : KeyConf) :
    keyWcid sta key = 0 ∨ keyWcid sta key = 1 := by
  unfold keyWcid
  split
  · exact .inr rfl
  · split
    · split
      · exact .inl rfl
      · exact .inr rfl
    · exact .inl rfl

theorem all_setKey {cmd : SetKeyCmd} {sta : Option MacAddr} {key : KeyConf} :
    All (S := sig) (Issues ((Callback.setKey cmd sta key).WritesOn vif))
      (setKey cmd (some vif) sta key) := by
  have hk : ∀ a ∈ keyAddrs (keyWcid sta key), ∀ v,
      (Callback.setKey cmd sta key).WritesOn vif a v := fun a ha _ => .inl ha
  unfold setKey
  split
  · refine all_bind (all_update (hk _ ?_)) fun _ =>
      all_bind (all_update (hk _ ?_)) fun _ => trivial <;> simp [keyAddrs]
  · split
    · trivial
    · refine all_bind (all_write (hk _ ?_ _)) fun _ => all_bind (all_write (hk _ ?_ _)) fun _ =>
        all_bind (all_write (hk _ ?_ _)) fun _ => all_bind (all_write (hk _ ?_ _)) fun _ =>
        all_bind (all_write (hk _ ?_ _)) fun _ => all_bind (all_write (hk _ ?_ _)) fun _ =>
        all_bind (all_update (hk _ ?_)) fun _ => all_bind (all_update (hk _ ?_)) fun _ =>
        all_bind (all_write (hk _ ?_ _)) fun _ => all_bind (all_write (hk _ ?_ _)) fun _ =>
        trivial <;>
        simp [keyAddrs]

/-- **What a callback writes on any interface.** -/
theorem callback_writesOn (cb : Callback) :
    All (S := sig) (Issues (cb.WritesOn vif)) (cb.run vif dev) := by
  cases cb with
  | addInterface => exact all_addInterface
  | config chandef changed => exact all_config
  | configureFilter totalFlags flags => exact all_bind all_configureFilter fun _ => trivial
  | bssInfoChanged info changed => exact all_bssInfoChanged
  | staAdd sta => exact all_staAdd
  | staRemove sta => exact all_staRemove
  | ampduAction params => exact all_bind all_ampduAction fun _ => trivial
  | setKey cmd sta key => exact all_bind all_setKey fun _ => trivial

theorem issues_mono {W W' : U32 → U32 → Prop} (h : ∀ a v, W a v → W' a v) {e : Req}
    (he : Issues W e) : Issues W' e := by
  cases e with
  | writeReg a v =>
    obtain ⟨addr, rfl, hW⟩ := he
    exact ⟨addr, rfl, h addr v hW⟩
  | _ => trivial

/-- **What a callback writes** on an access point interface. -/
theorem callback_writes (hv : vif.type = .ap) (cb : Callback) :
    All (S := sig) (Issues (cb.Writes vif)) (cb.run vif dev) := by
  refine all_mono (callback_writesOn cb) fun e he => issues_mono (fun a v h => ?_) he
  rcases h with h | ⟨hne, -⟩
  · exact h
  · exact absurd hv hne

end

/-! ## Registers written -/

/-- The physical address of `a` is that of no register in `l`. -/
def avoids (l : List U32) (a : U32) : Bool := l.all fun r => physicalAddrMap r ≠ physicalAddrMap a

/-- An access point's address registers. -/
def apAddrs : List U32 := [RMAC_OMA0R0, RMAC_OMA0R1, RMAC_CB0R0, RMAC_CB0R1]

/-- The registers a callback writes. -/
def Callback.addrs : Callback → List U32
  | .addInterface => apAddrs
  | .config _ _ => [RMAC_CHFREQ]
  | .configureFilter _ _ => [RMAC_RFCR, RMAC_RFCR1]
  | .bssInfoChanged _ _ => bssAddrs ++ apAddrs
  | .staAdd sta => if sta.isZero then [] else peerAddrs
  | .staRemove _ => [0x28020, 0x28024, 0x28028]
  | .ampduAction _ => [wtbl2Dw15 0, wtbl2Dw15 1, RMAC_BSCR0, RMAC_BSCR1]
  | .setKey _ sta key => keyAddrs (keyWcid sta key)

theorem apAddrOps_addr {m : MacAddr} {op : RegWriteOp} (h : op ∈ apAddrOps m) :
    op.addr ∈ apAddrs :=
  List.mem_map_of_mem (f := RegWriteOp.addr) h

theorem mem_addrs {vif : Vif} {cb : Callback} {a v : U32} (h : cb.Writes vif a v) :
    a ∈ cb.addrs := by
  cases cb with
  | addInterface => exact apAddrOps_addr h
  | config chandef changed => exact List.mem_singleton.2 h
  | configureFilter totalFlags flags => exact h
  | bssInfoChanged info changed =>
    rcases h with h | ⟨-, h⟩ | ⟨bssid, -, -, h⟩
    · exact List.mem_append_left _ h
    · exact List.mem_append_right _ (apAddrOps_addr h)
    · exact List.mem_append_right _ (apAddrOps_addr (List.mem_append_right (ownMacSeq bssid) h))
  | staAdd sta =>
    rw [Callback.addrs, if_neg h.1]
    exact wtblStaSeq_addr h.2
  | staRemove sta => exact h
  | ampduAction params => exact h
  | setKey cmd sta key => exact h

/-! ## Runs -/

/-- An invariant that the writes of a program keep. -/
theorem wp_issues {α : Type} {reads : Prop} {W : U32 → U32 → Prop} {I : RegFile → Prop} {p : P α}
    {s : RegFile} (hp : All (S := sig) (Issues W) p) (hI : ∀ a v s, W a v → I s → I (s.write a v))
    (hs : I s) : wp (regEnv reads) p s fun _ s' => I s' := by
  refine wp_inv (fun s e r s' he hD hs => ?_) hp hs
  cases e with
  | writeReg a v =>
    obtain ⟨addr, rfl, hW⟩ := he
    obtain ⟨-, rfl⟩ := hD
    exact hI addr v s hW hs
  | readReg a => obtain ⟨-, rfl⟩ := hD; exact hs
  | _ => obtain rfl := hD; exact hs

/-- Registers that no write of a program meets keep their contents. -/
theorem wp_frame {α : Type} {reads : Prop} {l : List U32} {p : P α} {s : RegFile}
    (hp : All (S := sig) (Issues fun a _ => avoids l a = true) p) :
    wp (regEnv reads) p s fun _ s' => ∀ r ∈ l, s'.reg r = s.reg r := by
  refine wp_issues hp (I := fun s' => ∀ r ∈ l, s'.reg r = s.reg r) ?_ fun _ _ => rfl
  intro a v s' hw hs r hr
  rw [reg_write_other (by simpa using List.all_eq_true.1 hw r hr), hs r hr]

/-- **An invariant that every write of every callback keeps** holds after any sequence. -/
theorem runAll_inv {reads : Prop} {vif : Vif} (hv : vif.type = .ap) {I : RegFile → Prop}
    {cbs : List Callback} (hI : ∀ cb ∈ cbs, ∀ a v s, cb.Writes vif a v → I s → I (s.write a v))
    {dev : Dev} {s : RegFile} (hs : I s) :
    wp (regEnv reads) (runAll vif cbs dev) s fun _ s' => I s' := by
  induction cbs generalizing dev s with
  | nil => simpa [runAll] using hs
  | cons cb cbs ih =>
    rw [runAll, wp_bind]
    refine wp_mono (wp_issues (callback_writes hv cb) (hI cb (by simp)) hs) fun dev' s' hs' => ?_
    exact ih (fun cb hcb => hI cb (List.mem_cons_of_mem _ hcb)) hs'

theorem reg_writes {vif : Vif} {l : List U32} {cb : Callback}
    (hl : cb.addrs.all (avoids l) = true) {a v : U32} (hw : cb.Writes vif a v) {r : U32}
    (hr : r ∈ l) (s : RegFile) : (s.write a v).reg r = s.reg r := by
  have hne := List.all_eq_true.1 (List.all_eq_true.1 hl a (mem_addrs hw)) r hr
  exact reg_write_other (by simpa using hne)

/-- **Registers a callback does not write** keep their contents. -/
theorem callback_frame {reads : Prop} {vif : Vif} (hv : vif.type = .ap) {l : List U32}
    {cb : Callback} (hl : cb.addrs.all (avoids l) = true) {dev : Dev} {s : RegFile} :
    wp (regEnv reads) (cb.run vif dev) s fun _ s' => ∀ r ∈ l, s'.reg r = s.reg r := by
  refine wp_issues (callback_writes hv cb) (I := fun s' => ∀ r ∈ l, s'.reg r = s.reg r) ?_
    fun _ _ => rfl
  intro a v s' hw hs r hr
  rw [reg_writes hl hw hr, hs r hr]

theorem wp_runAll_append {D : Env sig RegFile} {vif : Vif} {l l' : List Callback} {dev : Dev}
    {s : RegFile} {Q : Dev → RegFile → Prop} :
    wp D (runAll vif (l ++ l') dev) s Q ↔
      wp D (runAll vif l dev) s fun dev' s' => wp D (runAll vif l' dev') s' Q := by
  induction l generalizing dev s with
  | nil => simp [runAll]
  | cons cb l ih => simp only [List.cons_append, runAll, wp_bind, ih]

end Driver
