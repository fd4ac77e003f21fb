import Mt7603u.Proof.Lifecycle

/-!
# The receive filter

`RMAC_RFCR` over all runs. `configure_filter`, `add_interface` and `remove_interface` each write the
filter with an expression of their own over the monitor count and the filter flags. The count is
the number of monitor interfaces in every reachable state (`counts_reaches`). The filter is the one
`wantedRfcr` computes from count and flags as long as the last monitor interface is not removed
under flags that ask for foreign beacons (`rx_filter_of_state`); that removal ignores the flags
(`rx_filter_forgets_flags`).
-/

namespace Driver

open Effect Slice Word Rust

/-! ## The filter word -/

/-- The word `buildRxFilterSequence` writes to `RMAC_RFCR`. -/
def rfcrWord (promisc fcsFail : Bool) : U32 :=
  ((rxFilterSeq promisc fcsFail).find? fun op => op.addr = RMAC_RFCR).elim 0 (·.val)

/-- The filter that count and flags ask for. -/
def Mode.wantedRfcr (m : Mode) : U32 :=
  rfcrWord (0 < m.monitorCount ∨ m.filterFlags &&& FIF_BCN_PRBRESP_PROMISC ≠ 0)
    (m.filterFlags &&& FIF_FCSFAIL ≠ 0)

theorem Mode.wantedRfcr_congr {m m' : Mode} (hn : m'.monitorCount = m.monitorCount)
    (hf : m'.filterFlags = m.filterFlags) : m'.wantedRfcr = m.wantedRfcr := by
  cases m
  cases m'
  dsimp only at hn hf
  subst hn hf
  rfl

/-- Without promiscuous mode, frames with a bad checksum make no difference. -/
theorem rfcrWord_false (fcsFail : Bool) : rfcrWord false fcsFail = rfcrWord false false := by
  cases fcsFail <;> rfl

section
variable {reads : Prop} {dev : Dev} {vif : Vif} {s : RegFile}

theorem wp_rxFilter {promisc fcsFail : Bool} :
    wp (regEnv reads) (executeBuilt (buildRxFilterSequence promisc fcsFail) 4) s fun _ s' =>
      s'.reg RMAC_RFCR = rfcrWord promisc fcsFail := by
  rw [wp_executeBuilt (fills_buildRxFilterSequence promisc fcsFail) (Nat.le_of_ble_eq_true rfl)]
  have hne : physicalAddrMap RMAC_RFCR ≠ physicalAddrMap RMAC_RFCR1 := by decide
  simp only [rxFilterSeq, apply_cons, apply_nil]
  rw [reg_write_other hne, reg_write_same]
  rfl

/-- The filter register after a conditional rewrite. -/
theorem wp_rxFilterIf {c : Prop} [Decidable c] {promisc fcsFail : Bool} :
    wp (regEnv reads) (onlyIf c (executeBuilt (buildRxFilterSequence promisc fcsFail) 4)) s
      fun _ s' => s'.reg RMAC_RFCR = if c then rfcrWord promisc fcsFail else s.reg RMAC_RFCR := by
  unfold onlyIf
  by_cases hc : c
  · simp only [if_pos hc]
    exact wp_rxFilter
  · simp only [if_neg hc]
    exact (wp_ret _).2 rfl

theorem wp_addInterface_filter :
    wp (regEnv reads) (addInterface dev vif) s fun _ s' => s'.reg RMAC_RFCR =
      if vif.type = .monitor ∧ dev.running = true then
        rfcrWord true (dev.filterFlags &&& FIF_FCSFAIL ≠ 0)
      else s.reg RMAC_RFCR := by
  unfold addInterface
  have hrest : ∀ d : Dev, All (S := sig) (Issues fun a _ => avoids [RMAC_RFCR] a = true)
      (if vif.addr.isZero then return d
        else do
          executeBuilt (buildOwnMacSequence vif.addr) 32
          if vif.type = .ap then do
            writeBssid vif.addr
            return { d with apVif := some vif.id }
          else return d : P Dev) := by
    intro d
    have hd : apAddrs.all (avoids [RMAC_RFCR]) = true := by decide +kernel
    obtain ⟨h1, h2⟩ := all_apAddr (W := fun a _ => avoids [RMAC_RFCR] a = true) (a := vif.addr)
      fun op hop => List.all_eq_true.1 hd _ (apAddrOps_addr hop)
    split
    · trivial
    · refine all_bind h1 fun _ => ?_
      split
      · exact all_bind h2 fun _ => trivial
      · trivial
  rw [wp_bind]
  by_cases hm : vif.type = .monitor
  · simp only [hm, if_true]
    refine wp_mono wp_rxFilterIf fun _ s₁ h1 => ?_
    rw [hm] at hrest
    refine wp_mono (wp_frame (hrest _)) fun _ s₂ h2 => ?_
    rw [h2 _ (by simp), h1]
  · simp only [hm, if_false]
    refine wp_mono wp_rxFilterIf fun _ s₁ h1 => ?_
    refine wp_mono (wp_frame (hrest _)) fun _ s₂ h2 => ?_
    rw [h2 _ (by simp), h1]

theorem wp_removeInterface_filter :
    wp (regEnv reads) (removeInterface dev vif) s fun _ s' => s'.reg RMAC_RFCR =
      if vif.type = .monitor ∧ dev.monitorCount - 1 = 0 ∧ dev.running = true then
        rfcrWord false false
      else s.reg RMAC_RFCR := by
  unfold removeInterface
  have hrest : ∀ d : Dev, All (S := sig) (Issues fun a _ => avoids [RMAC_RFCR] a = true)
      (if d.apVif = some vif.id then do
        cancelBeacon
        return { d with beaconEnabled := false, apVif := none }
      else return d : P Dev) := by
    intro d
    split
    · exact all_bind (all_request.2 trivial) fun _ => trivial
    · trivial
  rw [wp_bind]
  by_cases hm : vif.type = .monitor
  · simp only [hm, if_true]
    refine wp_mono wp_rxFilterIf fun _ s₁ h1 => ?_
    have hr := hrest { dev with monitorCount := dev.monitorCount - 1 }
    refine wp_mono (wp_frame hr) fun _ s₂ h2 => ?_
    rw [h2 _ (by simp), h1]
  · simp only [hm, if_false]
    refine wp_mono wp_rxFilterIf fun _ s₁ h1 => ?_
    refine wp_mono (wp_frame (hrest _)) fun _ s₂ h2 => ?_
    rw [h2 _ (by simp), h1]
    simp

theorem wp_configureFilter_filter {totalFlags : U32} {flags : BitVec 64}
    (hr : dev.running = true) :
    wp (regEnv reads) (configureFilter dev totalFlags flags) s fun _ s' => s'.reg RMAC_RFCR =
      { dev.mode with filterFlags := flags }.wantedRfcr := by
  unfold configureFilter
  rw [wp_bind]
  refine wp_mono wp_rxFilterIf fun _ s₁ h1 => ?_
  rw [if_pos hr] at h1
  exact (wp_ret _).2 h1

end

/-! ## Steps -/

/-- The number of monitor interfaces. -/
def monitors (vifs : List (Nat × IfType)) : Nat := vifs.countP fun v => v.2 = .monitor

/-- The monitor count is the number of monitor interfaces, and a device that is up is running. -/
def Counts (σ : Sys) : Prop :=
  σ.host.dev.monitorCount = monitors σ.host.vifs ∧ (σ.host.up = true → σ.host.dev.running = true)

/-- Neither a start or a stop, nor the removal of the last monitor interface under flags that ask
for foreign beacons. -/
def FilterSafe (h : Host) : Action → Prop
  | .start => False
  | .stop => False
  | .removeInterface vif => vif.type = .monitor → h.dev.monitorCount = 1 →
      h.dev.filterFlags &&& FIF_BCN_PRBRESP_PROMISC = 0
  | .call _ _ => True

/-- The calls that are about the filter: `configure_filter`, and `add_interface` and
`remove_interface` on monitor interfaces. -/
def FilterCall (_ : Host) : Action → Prop
  | .call _ (.configureFilter _ _) => True
  | .call vif .addInterface => vif.type = .monitor
  | .removeInterface vif => vif.type = .monitor
  | _ => False

theorem monitors_erase {vifs : List (Nat × IfType)} {v : Nat × IfType} (h : v ∈ vifs) :
    monitors vifs = monitors (vifs.erase v) + if v.2 = .monitor then 1 else 0 := by
  have hp := (List.perm_cons_erase h).countP_eq fun v : Nat × IfType => decide (v.2 = .monitor)
  rw [monitors, monitors, hp, List.countP_cons]
  simp

section
variable {a : Action} {σ τ : Sys}

/-- Everything but a start needs a device that is up. -/
theorem up_of_allowed {h : Host} (ha : a.Allowed h) (hs : a ≠ .start) : h.up = true := by
  cases a with
  | start => exact absurd rfl hs
  | stop => exact ha
  | removeInterface vif => exact ha.1
  | call vif cb => cases cb <;> first | exact ha | exact ha.1

theorem counts_mode {h : Host} (ha : a.Allowed h) (hc : h.dev.monitorCount = monitors h.vifs) :
    (a.mode h.dev.mode).monitorCount = monitors (a.vifs h.vifs) := by
  cases a with
  | start => exact hc
  | stop => exact hc
  | removeInterface vif =>
    have he := monitors_erase ha.2
    have hm : h.dev.mode.monitorCount = monitors h.vifs := hc
    simp only [Action.mode, Mode.removeInterface, Action.vifs, hm]
    split at he
    · rw [if_pos ‹_›]
      omega
    · rw [if_neg ‹_›]
      exact he
  | call vif cb =>
    cases cb with
    | addInterface =>
      have hm : h.dev.mode.monitorCount = monitors h.vifs := hc
      simp only [Action.mode, Callback.mode, Mode.addInterface, Action.vifs, Host.afterCall, hm,
        monitors, List.countP_cons, decide_eq_true_eq]
      split <;> rfl
    | _ => exact hc

theorem counts_step (hs : Step a σ τ) (h : Counts σ) : Counts τ := by
  obtain ⟨hm, hv, hu⟩ := step_host hs
  refine ⟨?_, fun hup => ?_⟩
  · rw [hv, show τ.host.dev.monitorCount = _ from congrArg Mode.monitorCount hm]
    exact counts_mode hs.1 h.1
  · rw [show τ.host.dev.running = _ from congrArg Mode.running hm]
    cases a with
    | start => rfl
    | stop => exact absurd (hu.symm.trans hup) (by decide)
    | removeInterface vif => exact h.2 hs.1.1
    | call vif cb =>
      have hr : σ.host.dev.running = true := h.2 (up_of_allowed hs.1 (by simp))
      cases cb <;> exact hr

theorem counts_reaches {C : Host → Action → Prop} (h : Reaches C σ τ) (hc : Counts σ) : Counts τ :=
  reaches_inv (fun _ _ _ _ hs hc => counts_step hs hc) h hc

/-- The filter is the wanted one. -/
def FilterOk (σ : Sys) : Prop := σ.regs.reg RMAC_RFCR = σ.host.dev.mode.wantedRfcr

theorem filterOk_configure {vif : Vif} {totalFlags : U32} {flags : BitVec 64}
    (hs : Step (.call vif (.configureFilter totalFlags flags)) σ τ) (hk : Counts σ) :
    FilterOk τ := by
  have hr : σ.host.dev.running = true := hk.2 (up_of_allowed hs.1 (by simp))
  obtain ⟨r, s, hrun, -, he⟩ := (runs_bind _).1 (step_call hs)
  unfold FilterOk
  rw [(step_host hs).1, he]
  exact wp_configureFilter_filter hr r s hrun

/-- Calls that leave filter, count and flags alone. -/
theorem filterOk_other (hs : Step a σ τ) (hl : a.addrs.all (avoids [RMAC_RFCR]) = true)
    (hn : (a.mode σ.host.dev.mode).monitorCount = σ.host.dev.monitorCount)
    (hf : (a.mode σ.host.dev.mode).filterFlags = σ.host.dev.filterFlags) (h : FilterOk σ) :
    FilterOk τ := by
  unfold FilterOk at h ⊢
  rw [action_frame hl hs.2 _ (by simp), h, (step_host hs).1]
  exact (Mode.wantedRfcr_congr hn hf).symm

theorem filterOk_add {vif : Vif} (hs : Step (.call vif .addInterface) σ τ) (hk : Counts σ)
    (h : FilterOk σ) : FilterOk τ := by
  have hr : σ.host.dev.running = true := hk.2 (up_of_allowed hs.1 (by simp))
  have hreg := @wp_addInterface_filter False _ _ _ _ _ (step_call hs)
  unfold FilterOk at h ⊢
  rw [(step_host hs).1, hreg]
  simp only [hr, and_true, Action.mode, Callback.mode, Mode.addInterface, Mode.wantedRfcr]
  by_cases hm : vif.type = .monitor
  · simp only [hm, if_true]
    congr 1
  · simp only [hm, if_false]
    exact h

theorem filterOk_remove {vif : Vif} (hc : FilterSafe σ.host (.removeInterface vif))
    (hs : Step (.removeInterface vif) σ τ) (hk : Counts σ) (h : FilterOk σ) : FilterOk τ := by
  have hr : σ.host.dev.running = true := hk.2 (up_of_allowed hs.1 (by simp))
  have hreg := @wp_removeInterface_filter False _ _ _ _ _ (step_removeInterface hs)
  have hn : σ.host.dev.mode.monitorCount = σ.host.dev.monitorCount := rfl
  unfold FilterOk at h ⊢
  rw [(step_host hs).1, hreg]
  simp only [hr, and_true, Action.mode, Mode.removeInterface, Mode.wantedRfcr, hn]
  by_cases hm : vif.type = .monitor
  · -- the interface was there, so the count is at least 1
    have hpos : 0 < σ.host.dev.monitorCount := by
      rw [hk.1]
      exact List.countP_pos_iff.2 ⟨_, hs.1.2, by simpa using hm⟩
    simp only [hm, true_and, if_true]
    by_cases hlast : σ.host.dev.monitorCount - 1 = 0
    · have hf : σ.host.dev.mode.filterFlags &&& FIF_BCN_PRBRESP_PROMISC = 0 :=
        hc hm (by omega)
      rw [if_pos hlast, hlast, hf]
      exact (rfcrWord_false _).symm
    · rw [if_neg hlast, h, Mode.wantedRfcr, hn]
      have h1 : 0 < σ.host.dev.monitorCount - 1 := by omega
      simp only [hpos, h1, true_or]
  · simp only [hm, false_and, if_false]
    exact h

theorem rfcr_avoided {vif : Vif} {cb : Callback} (ha : cb ≠ .addInterface)
    (hf : ∀ totalFlags flags, cb ≠ .configureFilter totalFlags flags) :
    (Action.call vif cb).addrs.all (avoids [RMAC_RFCR]) = true := by
  apply addrs_avoid
  cases cb with
  | addInterface => exact absurd rfl ha
  | configureFilter totalFlags flags => exact absurd rfl (hf totalFlags flags)
  | _ =>
    simp only [Action.kindAddrs, Action.addrs, Callback.addrs, Callback.extraAddrs]
    decide +kernel

theorem filterOk_step (hc : FilterSafe σ.host a) (hs : Step a σ τ) (hk : Counts σ)
    (h : FilterOk σ) : FilterOk τ := by
  cases a with
  | start => exact hc.elim
  | stop => exact hc.elim
  | removeInterface vif => exact filterOk_remove hc hs hk h
  | call vif cb =>
    cases cb with
    | addInterface => exact filterOk_add hs hk h
    | configureFilter totalFlags flags => exact filterOk_configure hs hk
    | _ => exact filterOk_other hs (rfcr_avoided (by simp) (by simp)) rfl rfl h

end

/-! ## Runs -/

/-- A state after a `configure_filter` call and later calls that satisfy `C`. -/
def Configured (C : Host → Action → Prop) (τ : Sys) : Prop :=
  ∃ macAddr eepromValid rssiOffset2g eeprom s σ σ₁ vif totalFlags flags,
    Reaches (fun _ _ => True) ⟨.registered macAddr eepromValid rssiOffset2g eeprom, s⟩ σ ∧
      Step (.call vif (.configureFilter totalFlags flags)) σ σ₁ ∧ Reaches C σ₁ τ

/-- In `τ` the filter is the one count and flags ask for, the count is the number of monitor
interfaces, and other such states with this count and these flags have this filter. -/
def FilterOfState (C : Host → Action → Prop) (τ : Sys) : Prop :=
  τ.regs.reg RMAC_RFCR =
      rfcrWord (0 < τ.host.dev.monitorCount ∨
          τ.host.dev.filterFlags &&& FIF_BCN_PRBRESP_PROMISC ≠ 0)
        (τ.host.dev.filterFlags &&& FIF_FCSFAIL ≠ 0) ∧
    τ.host.dev.monitorCount = monitors τ.host.vifs ∧
    ∀ τ' : Sys, Configured C τ' → τ'.host.dev.filterFlags = τ.host.dev.filterFlags →
      τ'.host.dev.monitorCount = τ.host.dev.monitorCount →
        τ'.regs.reg RMAC_RFCR = τ.regs.reg RMAC_RFCR

theorem filterOk_configured {τ : Sys} (h : Configured FilterSafe τ) : FilterOk τ ∧ Counts τ := by
  obtain ⟨macAddr, eepromValid, rssiOffset2g, eeprom, s, σ, σ₁, vif, totalFlags, flags, h0, hs,
    hr⟩ := h
  have hk : Counts σ := counts_reaches h0 ⟨rfl, fun hu => Bool.noConfusion (hu : false = true)⟩
  refine reaches_inv (I := fun σ => FilterOk σ ∧ Counts σ) ?_ hr
    ⟨filterOk_configure hs hk, counts_step hs hk⟩
  exact fun _ _ _ hc hs ⟨hf, hk⟩ => ⟨filterOk_step hc hs hk hf, counts_step hs hk⟩

/-- **The receive filter is a function of the driver state** after any `configure_filter` call, as
long as the last monitor interface is not removed under flags that ask for foreign beacons. -/
theorem rx_filter_of_state (τ : Sys) (h : Configured FilterSafe τ) :
    FilterOfState FilterSafe τ := by
  obtain ⟨hf, hk⟩ := filterOk_configured h
  refine ⟨hf, hk.1, fun τ' h' hfl hn => ?_⟩
  obtain ⟨hf', -⟩ := filterOk_configured h'
  exact hf'.trans ((Mode.wantedRfcr_congr hn hfl).trans hf.symm)

/-! ## A sniffer -/

def sniffer : Vif := ⟨0, .monitor, ⟨0, 0, 0, 0, 0, 0⟩, none⟩

/-- The device started and its filter configured. -/
def listening (flags : BitVec 64) : Sys := started.next (.call sniffer (.configureFilter 0 flags))

/-- The sniffer opened. -/
def sniffing (flags : BitVec 64) : Sys := (listening flags).next (.call sniffer .addInterface)

/-- The sniffer closed again. -/
def sniffed (flags : BitVec 64) : Sys := (sniffing flags).next (.removeInterface sniffer)

section
variable {flags : BitVec 64}

theorem listening_host : (listening flags).host.dev.mode = ⟨none, 0, false, 0, flags, true⟩ ∧
    (listening flags).host.vifs = [] ∧ (listening flags).host.up = true := by
  obtain ⟨hm, hv, hu⟩ := next_host started (.call sniffer (.configureFilter 0 flags))
  obtain ⟨hm', hv', hu'⟩ := started_host
  refine ⟨?_, ?_, Eq.trans hu hu'⟩
  · rw [listening, hm, hm']
    rfl
  · rw [listening, hv, hv']
    rfl

theorem sniffing_host : (sniffing flags).host.dev.mode = ⟨none, 0, false, 1, flags, true⟩ ∧
    (sniffing flags).host.vifs = [(0, .monitor)] ∧ (sniffing flags).host.up = true := by
  obtain ⟨hm, hv, hu⟩ := next_host (listening flags) (.call sniffer .addInterface)
  obtain ⟨hm', hv', hu'⟩ := @listening_host flags
  refine ⟨?_, ?_, Eq.trans hu hu'⟩
  · rw [sniffing, hm, hm']
    rfl
  · rw [sniffing, hv, hv']
    rfl

theorem sniffed_mode : (sniffed flags).host.dev.mode = ⟨none, 0, false, 0, flags, true⟩ := by
  rw [sniffed, (next_host (sniffing flags) (.removeInterface sniffer)).1, sniffing_host.1]
  rfl

theorem step_sniffed : Step (.removeInterface sniffer) (sniffing flags) (sniffed flags) :=
  step_next ⟨sniffing_host.2.2, by rw [sniffing_host.2.1]; decide⟩

theorem configured_sniffed {C : Host → Action → Prop}
    (h1 : C (listening flags).host (.call sniffer .addInterface))
    (h2 : C (sniffing flags).host (.removeInterface sniffer)) : Configured C (sniffed flags) := by
  have ha : Step (.call sniffer .addInterface) (listening flags) (sniffing flags) :=
    step_next ⟨listening_host.2.2, by rw [listening_host.2.1]; decide⟩
  refine ⟨_, _, _, _, _, started, listening flags, sniffer, 0, flags,
    .single ⟨.start, trivial, step_started⟩, step_next started_host.2.2, ?_⟩
  exact (Relation.ReflTransGen.single ⟨.call sniffer .addInterface, h1, ha⟩).tail
    ⟨.removeInterface sniffer, h2, step_sniffed⟩

end

/-- A sniffer opened and closed under flags that ask for nothing. -/
theorem rx_filter_sniffed : (sniffed 0).regs.reg RMAC_RFCR = 0x001D93A2 ∧
    (sniffed 0).host.dev.monitorCount = 0 := by
  have hc : Configured FilterSafe (sniffed 0) := by
    refine configured_sniffed trivial fun _ _ => ?_
    rw [show (sniffing 0).host.dev.filterFlags = 0 from congrArg Mode.filterFlags sniffing_host.1]
    decide
  have hn : (sniffed 0).host.dev.monitorCount = 0 := congrArg Mode.monitorCount sniffed_mode
  have hf : (sniffed 0).host.dev.filterFlags = 0 := congrArg Mode.filterFlags sniffed_mode
  refine ⟨?_, hn⟩
  rw [(rx_filter_of_state (sniffed 0) hc).1, hn, hf]
  rfl

/-- **A sniffer closed during a scan**: the filter forgets that foreign beacons are wanted. -/
theorem rx_filter_forgets_flags :
    ¬∀ τ : Sys, Configured FilterCall τ → FilterOfState FilterCall τ := by
  intro h
  have hw := (h (sniffed FIF_BCN_PRBRESP_PROMISC) (configured_sniffed rfl rfl)).1
  have hreg := @wp_removeInterface_filter False _ _ _ _ _
    (step_removeInterface (@step_sniffed FIF_BCN_PRBRESP_PROMISC))
  have hfl : (sniffed FIF_BCN_PRBRESP_PROMISC).host.dev.filterFlags = FIF_BCN_PRBRESP_PROMISC :=
    congrArg Mode.filterFlags sniffed_mode
  have hn : (sniffed FIF_BCN_PRBRESP_PROMISC).host.dev.monitorCount = 0 :=
    congrArg Mode.monitorCount sniffed_mode
  have hn1 : (sniffing FIF_BCN_PRBRESP_PROMISC).host.dev.monitorCount = 1 :=
    congrArg Mode.monitorCount sniffing_host.1
  have hr : (sniffing FIF_BCN_PRBRESP_PROMISC).host.dev.running = true :=
    congrArg Mode.running sniffing_host.1
  rw [hreg, if_pos ⟨rfl, by rw [hn1], hr⟩, hn, hfl] at hw
  exact absurd hw (by decide)

end Driver
