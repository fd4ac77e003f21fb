import Mt7603u.Driver.Probe
import Mt7603u.Proof.BeaconWork
import Mt7603u.Proof.Builders
import Mt7603u.Proof.FwLength
import Mt7603u.Proof.RomReady
import Mt7603u.Proof.RxReport

/-!
# Binding, calls and unbinding over whole runs

* `life_safe`: over any sequence of probes, calls and disconnects, with any failures, no kernel
  object is misused, none is left when the driver is not bound, and a bound driver has exactly one
  registered hw, the one of the interface.
* `probe_ready`: a device is registered only after a download of a verified image that went through,
  with what that comes to (`Downloaded`): the first bytes of the image, as many as `fw_dl_len` says,
  and a last look that saw a RAM firmware running, be it the new one or the old one.

`Objects` says which objects there are; each request has one lemma about it.
-/

namespace Driver

open Effect Slice Skb Word Rust Relation

/-! ## Calls -/

section
variable {C : Host → Action → Prop} {k : Kernel} {σ τ : BeaconSys}

theorem allowed_up {h : Host} {a : Action} (ha : a.Allowed h) (hne : a ≠ .start) : h.up = true := by
  cases a with
  | start => exact absurd rfl hne
  | stop => exact ha
  | removeInterface vif => exact ha.1
  | call vif cb =>
    cases cb with
    | config c changed => exact ha
    | configureFilter totalFlags flags => exact ha
    | _ => exact ha.1

/-- The work is pending only on a device that is up. -/
theorem pending_up_step (hs : BeaconSys.Step C k σ τ) (h : σ.pending = true → σ.host.up = true) :
    τ.pending = true → τ.host.up = true := by
  cases hs with
  | @call a host pending hc ha hrun =>
    obtain ⟨-, -, hups⟩ := wp_ends (action_mode a σ.host) _ _ hrun
    have hp : pending = a.pending σ.host.dev.mode σ.pending := action_pending a σ.host _ _ hrun
    intro hpend
    have hpend : a.pending σ.host.dev.mode σ.pending = true := hp ▸ hpend
    cases a with
    | start =>
      have hdown : σ.host.up = false := ha
      rw [hdown] at h
      cases h hpend
    | stop => cases hpend
    | removeInterface vif =>
      have hup : host.up = σ.host.up := hups
      exact hup.trans (allowed_up ha (by simp))
    | call vif cb =>
      have hup : host.up = σ.host.up := hups
      exact hup.trans (allowed_up ha (by simp))
  | work hp hr => exact fun _ => h hp

/-- Only `start` fills the receive ring. -/
theorem ring_empty_step (hs : BeaconSys.Step NotStart k σ τ) (h : σ.host.ring = .empty) :
    τ.host.ring = .empty := by
  cases hs with
  | @call a host pending hc ha hrun =>
    have hends : Ends (fun h' : Host => h'.ring = .empty) (a.run σ.host) := by
      cases a with
      | start => exact absurd rfl hc
      | stop =>
        have hstop : Ends (fun r : Dev × RxRing => r.2 = .empty) (Driver.stop σ.host.dev) :=
          ends_next fun _ => rfl
        exact ends_bind hstop fun r hr => hr
      | removeInterface vif => exact ends_next fun _ => h
      | call vif cb => exact ends_next fun _ => h
    exact wp_ends hends _ _ hrun
  | work hp hr => exact h

end

/-! ## Objects -/

/-- The objects there are: images held, hws, and the interface's data. -/
structure Objects (fw : Nat → Bool) (hw : Nat → Option Bool) (x : Option Nat) (w : Life) :
    Prop where
  fw : w.fw = fw
  hw : w.hw = hw
  intfdata : w.intfdata = x
  intact : w.broken = false

def noFw : Nat → Bool := fun _ => false

def noHw : Nat → Option Bool := fun _ => none

/-- Only the hw `h`. -/
def oneHw (h : Nat) (registered : Bool) : Nat → Option Bool :=
  Function.update noHw h (some registered)

/-- Nothing but the registered hw `h`, and a work that is pending only on a device that is up. -/
def Registered (h : Nat) (x : Option Nat) (w : Life) : Prop :=
  Objects noFw (oneHw h true) x w ∧ (w.pending = true → w.host.up = true)

section
variable {C : Host → Action → Prop} {k : Kernel} {w : Life} {fw : Nat → Bool}
  {hw : Nat → Option Bool} {x : Option Nat} {h : Nat}

/-- mac80211 makes no calls without a registered hw. -/
theorem stable_unregistered {I : Life → Prop} (hI : ∀ w, I w → ∀ h, w.hw h ≠ some true) :
    Effect.Stable (Life.Calls C k) I := by
  rintro w w' ⟨⟨h, hh⟩, -⟩ hw
  exact absurd hh (hI w hw h)

theorem noHw_ne (h : Nat) : noHw h ≠ some true := by simp [noHw]

theorem oneHw_self (h : Nat) (registered : Bool) : oneHw h registered h = some registered :=
  Function.update_self ..

theorem oneHw_ne (h h' : Nat) : oneHw h false h' ≠ some true := by
  unfold oneHw
  rw [Function.update_apply]
  split
  · simp
  · exact noHw_ne h'

theorem stable_objects {I : Life → Prop} (hn : ∀ h, hw h ≠ some true)
    (hI : ∀ w, I w → Objects fw hw x w) : Effect.Stable (Life.Calls C k) I :=
  stable_unregistered fun w hw' h => by
    rw [(hI w hw').hw]
    exact hn h

theorem stable_registered : Effect.Stable (Life.Calls C k) (Registered h x) := by
  rintro w w' ⟨-, σ, hs, rfl⟩ ⟨hobj, hp⟩
  exact ⟨⟨hobj.fw, hobj.hw, hobj.intfdata, hobj.intact⟩, pending_up_step hs hp⟩

theorem stable_leaving : Effect.Stable (Life.Calls NotStart k) fun w =>
    Registered h x w ∧ w.host.ring = .empty := by
  rintro w w' hcall ⟨hreg, hring⟩
  refine ⟨stable_registered w w' hcall hreg, ?_⟩
  obtain ⟨-, σ, hs, rfl⟩ := hcall
  exact ring_empty_step hs hring

theorem flag_false {bad : Bool} (hb : bad = false) : w.flag bad = w := by
  subst hb
  unfold Life.flag
  rw [Bool.or_false]

/-- A driver function leaves the objects alone. -/
theorem wp_bindIo {α : Type} {p : P α} {I : Life → Prop} {Q : α → Prop}
    (hI : Effect.Stable (Life.Calls C k) I) (hQ : Ends Q p) (hw : I w) :
    wp ((lifeEnv C k).beside (Life.Calls C k)) (bindIo p) w fun a w' => Q a ∧ I w' := by
  refine wp_and (wp_ends (ends_via hQ)) ?_
  refine beside_inv (P := fun e : BindReq => ∃ e', e = .io e') hI
    (all_via (all_of_forall (fun e => ⟨e, rfl⟩) p)) ?_ hw
  rintro s _ r s' ⟨e', rfl⟩ hD hs
  obtain rfl : s' = s := hD
  exact hs

/-- Nothing is there. -/
def Unbound (w : Life) : Prop := Objects noFw noHw none w

/-- The hw before `ieee80211_register_hw` and after `ieee80211_unregister_hw`, with a device in it
that nothing refers to. -/
def Parked (h : Nat) (x : Option Nat) (w : Life) : Prop :=
  Objects noFw (oneHw h false) x w ∧ w.pending = false ∧ w.host.ring = .empty

theorem stable_unbound : Effect.Stable (Life.Calls C k) Unbound :=
  stable_objects noHw_ne fun _ hw => hw

theorem stable_parked : Effect.Stable (Life.Calls C k) (Parked h x) :=
  stable_objects (oneHw_ne h) fun _ hw => hw.1

theorem update_oneHw (registered : Bool) (v : Option Bool) :
    Function.update (oneHw h registered) h v = Function.update noHw h v :=
  Function.update_idem ..

/-- **Freeing the hw** of a device that is down. -/
theorem wp_freeHw {α : Type} {f : Unit → BP α} {Q : α → Life → Prop}
    (hw : Parked h x w) (hf : ∀ w', Objects noFw noHw x w' →
      wp ((lifeEnv C k).beside (Life.Calls C k)) (f ()) w' Q) :
    wp ((lifeEnv C k).beside (Life.Calls C k)) (bindReq (.freeHw h) >>= f) w Q := by
  refine wp_beside stable_parked hw ?_
  rintro w₁ r w₂ ⟨hobj, hp, hr⟩ rfl
  have hok : (w₁.hw h != some false || w₁.pending || w₁.host.ring != .empty) = false := by
    rw [hobj.hw, oneHw_self, hp, hr]
    decide
  rw [flag_false hok]
  refine hf _ ⟨hobj.fw, ?_, hobj.intfdata, hobj.intact⟩
  change Function.update w₁.hw h none = noHw
  rw [hobj.hw, update_oneHw]
  exact Function.update_eq_self ..

theorem ends_registerMac80211 (uninit : EepromData) :
    Ends (fun host : Host => host.ring = .empty) (registerMac80211 uninit) := by
  unfold registerMac80211
  exact ends_next fun _ => rfl

/-- What `mt7603_register_mac80211` leaves. -/
theorem wp_registerMac80211Hw (uninit : EepromData) (hw : Unbound w) :
    wp ((lifeEnv C k).beside (Life.Calls C k)) (registerMac80211Hw uninit) w fun r w' =>
      (r.1 < 0 ∧ Unbound w') ∨ ∃ h, r = (0, some h) ∧ Registered h none w' := by
  refine wp_beside stable_unbound hw ?_
  rintro w₁ r w₂ hw₁ hD
  match r, hD with
  | none, hD =>
    obtain rfl : w₂ = w₁ := hD
    exact (wp_ret _).2 (.inl ⟨by decide, hw₁⟩)
  | some h, hD =>
    obtain ⟨-, rfl⟩ : w₁.hw h = none ∧ w₂ = w₁.setHw h (some false) := hD
    have halloc : Objects noFw (oneHw h false) none (w₁.setHw h (some false)) := by
      refine ⟨hw₁.fw, ?_, hw₁.intfdata, hw₁.intact⟩
      change Function.update w₁.hw h _ = _
      rw [hw₁.hw]
      rfl
    have hstable : Effect.Stable (Life.Calls C k) (Objects noFw (oneHw h false) none) :=
      stable_objects (oneHw_ne h) fun _ hw => hw
    change wp _ (bindIo (registerMac80211 uninit) >>= _) _ _
    rw [wp_bind]
    refine wp_mono (wp_bindIo hstable (ends_registerMac80211 uninit) halloc) ?_
    rintro host w₃ ⟨hring, hw₃⟩
    refine wp_beside hstable hw₃ ?_
    rintro w₄ - w₅ hobj rfl
    have hthere : w₄.missing h = false := by
      unfold Life.missing
      rw [hobj.hw, oneHw_self]
      rfl
    rw [flag_false hthere]
    have hparked : Parked h none { w₄ with host := host, pending := false } :=
      ⟨⟨hobj.fw, hobj.hw, hobj.intfdata, hobj.intact⟩, rfl, hring⟩
    refine wp_beside stable_parked hparked ?_
    rintro w₆ (ret : Int) w₇ ⟨hobj₆, hp, hr⟩ hD
    obtain rfl : w₇ = (w₆.flag (w₆.hw h != some false)).setHw h (some (succeeded ret)) := hD
    rw [flag_false (by rw [hobj₆.hw, oneHw_self]; decide)]
    have hset : ∀ b, Objects noFw (oneHw h b) none (w₆.setHw h (some b)) := by
      refine fun b => ⟨hobj₆.fw, ?_, hobj₆.intfdata, hobj₆.intact⟩
      change Function.update w₆.hw h _ = _
      rw [hobj₆.hw, update_oneHw]
      rfl
    change wp _ (if ret < 0 then _ else _) _ _
    split
    · rename_i hneg
      have hno : succeeded ret = false := by simp [succeeded, hneg]
      rw [hno]
      exact wp_freeHw ⟨hset false, hp, hr⟩ fun w' hw' => (wp_ret _).2 (.inl ⟨hneg, hw'⟩)
    · rename_i hpos
      have hyes : succeeded ret = true := by
        rw [succeeded, decide_eq_true_eq]
        omega
      rw [hyes]
      refine (wp_ret _).2 (.inr ⟨h, rfl, hset true, fun hc => ?_⟩)
      have hc : w₆.pending = true := hc
      rw [hp] at hc
      cases hc

theorem wp_probeRegister (uninit : EepromData) (hw : Unbound w) :
    wp ((lifeEnv C k).beside (Life.Calls C k)) (probeRegister uninit) w fun ret w' =>
      (ret < 0 ∧ Unbound w') ∨ (ret = 0 ∧ ∃ h, Registered h (some h) w') := by
  unfold probeRegister
  rw [rustCall_of_fills fills_buildMacInitSequence (Nat.le_of_ble_eq_true rfl)]
  dsimp only
  rw [wp_bind]
  refine wp_mono (wp_bindIo (Q := fun _ => True) stable_unbound
    (ends_of_forall (fun _ => trivial) _) hw) ?_
  rintro - w₁ ⟨-, hw₁⟩
  rw [wp_bind]
  refine wp_mono (wp_registerMac80211Hw uninit hw₁) ?_
  rintro ⟨ret, hw?⟩ w₂ (⟨hneg, hw₂⟩ | ⟨h, heq, hreg⟩)
  · dsimp only
    rw [if_pos hneg]
    exact (wp_ret _).2 (.inl ⟨hneg, hw₂⟩)
  · cases heq
    dsimp only
    rw [if_neg (by decide)]
    refine wp_beside stable_registered hreg ?_
    rintro w₃ - w₄ ⟨hobj, hp⟩ rfl
    exact (wp_ret _).2 (.inr ⟨rfl, h, ⟨hobj.fw, hobj.hw, rfl, hobj.intact⟩, hp⟩)

/-- An image is held, and nothing else. -/
def Fetched (f : Nat) (w : Life) : Prop := Objects (Function.update noFw f true) noHw none w

theorem stable_fetched {f : Nat} : Effect.Stable (Life.Calls C k) (Fetched f) :=
  stable_objects noHw_ne fun _ hw => hw

theorem wp_releaseFirmware {α : Type} {f : Nat} {g : Unit → BP α} {Q : α → Life → Prop}
    (hw : Fetched f w)
    (hg : ∀ w', Unbound w' → wp ((lifeEnv C k).beside (Life.Calls C k)) (g ()) w' Q) :
    wp ((lifeEnv C k).beside (Life.Calls C k)) (bindReq (.releaseFirmware f) >>= g) w Q := by
  refine wp_beside stable_fetched hw ?_
  rintro w₁ - w₂ hobj rfl
  have hheld : w₁.fw f = true := by rw [hobj.fw, Function.update_self]
  rw [flag_false (by rw [hheld]; rfl)]
  refine hg _ ⟨?_, hobj.hw, hobj.intfdata, hobj.intact⟩
  change Function.update w₁.fw f false = noFw
  rw [hobj.fw, Function.update_idem]
  exact Function.update_eq_self ..

theorem verifyFirmware_cases (image : List U8) :
    verifyFirmware image = .ok () ∨ verifyFirmware image = .error (.errno (-EINVAL)) := by
  unfold verifyFirmware
  split
  · exact .inr rfl
  · split
    · exact .inr rfl
    · exact .inl rfl

theorem wp_probeImage (uninit : EepromData) {f : Nat} {image : List U8} (hw : Fetched f w) :
    wp ((lifeEnv C k).beside (Life.Calls C k)) (probeImage uninit f image) w fun ret w' =>
      (ret < 0 ∧ Unbound w') ∨ (ret = 0 ∧ ∃ h, Registered h (some h) w') := by
  unfold probeImage
  rcases verifyFirmware_cases image with hv | hv
  · rw [hv]
    dsimp only
    rw [wp_bind]
    refine wp_mono (wp_bindIo (Q := fun _ => True) stable_fetched
      (ends_of_forall (fun _ => trivial) _) hw) ?_
    rintro ret w₁ ⟨-, hw₁⟩
    refine wp_releaseFirmware hw₁ fun w₂ hw₂ => ?_
    split
    · rename_i hneg
      exact (wp_ret _).2 (.inl ⟨hneg, hw₂⟩)
    · exact wp_probeRegister uninit hw₂
  · rw [hv]
    dsimp only
    exact wp_releaseFirmware hw fun w₁ hw₁ => (wp_ret _).2 (.inl ⟨by decide, hw₁⟩)

/-- **A probe** binds the driver or leaves nothing. -/
theorem wp_probe (uninit : EepromData) (hw : Unbound w) :
    wp ((lifeEnv C k).beside (Life.Calls C k)) (probe uninit) w fun ret w' =>
      (ret < 0 ∧ Unbound w') ∨ (ret = 0 ∧ ∃ h, Registered h (some h) w') := by
  refine wp_beside stable_unbound hw ?_
  rintro w₁ r w₂ hobj hD
  match r, hD with
  | .error ret, hD =>
    obtain ⟨hneg, rfl⟩ : ret < 0 ∧ w₂ = w₁ := hD
    exact (wp_ret _).2 (.inl ⟨hneg, hobj⟩)
  | .ok (f, image), hD =>
    obtain ⟨-, rfl⟩ : w₁.fw f = false ∧ w₂ = w₁.setFw f true := hD
    refine wp_probeImage uninit ⟨?_, hobj.hw, hobj.intfdata, hobj.intact⟩
    change Function.update w₁.fw f true = _
    rw [hobj.fw]

/-- **A disconnect** leaves nothing. -/
theorem wp_disconnect (hw : Registered h (some h) w) :
    wp ((lifeEnv NotStart k).beside (Life.Calls NotStart k)) disconnect w fun _ w' =>
      Unbound w' := by
  have hthere : ∀ w : Life, Registered h (some h) w → w.missing h = false := by
    intro w hw
    unfold Life.missing
    rw [hw.1.hw, oneHw_self]
    rfl
  refine wp_beside stable_registered hw ?_
  rintro w₁ (r : Option Nat) w₂ hw₁ ⟨hr, hw₂⟩
  obtain rfl : w₂ = w₁ := hw₂
  obtain rfl : r = some h := hr.trans hw₁.1.intfdata
  change wp _ (bindReq (.clearRunning h) >>= _) _ _
  refine wp_beside stable_registered hw₁ ?_
  rintro w₃ - w₄ hw₃ rfl
  rw [flag_false (hthere w₃ hw₃)]
  have hw₄ : Registered h (some h) { w₃ with host := { w₃.host with
      dev := { w₃.host.dev with running := false, beaconEnabled := false } } } :=
    ⟨⟨hw₃.1.fw, hw₃.1.hw, hw₃.1.intfdata, hw₃.1.intact⟩, hw₃.2⟩
  refine wp_beside stable_registered hw₄ ?_
  rintro w₅ - w₆ hw₅ rfl
  rw [flag_false (hthere w₅ hw₅)]
  have hw₆ : Registered h (some h) { w₅ with pending := false } :=
    ⟨⟨hw₅.1.fw, hw₅.1.hw, hw₅.1.intfdata, hw₅.1.intact⟩, fun hc => by cases hc⟩
  refine wp_beside stable_registered hw₆ ?_
  rintro w₇ - w₈ hw₇ rfl
  rw [flag_false (hthere w₇ hw₇)]
  -- from here on the ring stays empty
  have hw₈ : Registered h (some h) { w₇ with host := { w₇.host with ring := .empty } } ∧
      ({ w₇ with host := { w₇.host with ring := .empty } } : Life).host.ring = .empty :=
    ⟨⟨⟨hw₇.1.fw, hw₇.1.hw, hw₇.1.intfdata, hw₇.1.intact⟩, hw₇.2⟩, rfl⟩
  refine wp_beside stable_leaving hw₈ ?_
  rintro w₉ - w₁₀ hw₉ rfl
  rw [flag_false (hthere w₉ hw₉.1)]
  refine wp_beside stable_leaving hw₉ ?_
  rintro w₁₁ - w₁₂ hw₁₁ ⟨w₁₃, hcalls, hdown, rfl⟩
  obtain ⟨⟨hobj, hp⟩, hring⟩ := stable_leaving.steps hcalls hw₁₁
  rw [flag_false (by rw [hobj.hw, oneHw_self]; decide)]
  have hparked : Parked h (some h) (w₁₃.setHw h (some false)) := by
    refine ⟨⟨hobj.fw, ?_, hobj.intfdata, hobj.intact⟩, ?_, hring⟩
    · change Function.update w₁₃.hw h _ = _
      rw [hobj.hw, update_oneHw]
      rfl
    · change w₁₃.pending = false
      by_contra hc
      rw [hp (by simpa using hc)] at hdown
      cases hdown
  refine wp_freeHw hparked fun w₁₄ hw₁₄ => ?_
  refine wp_beside (stable_objects noHw_ne fun _ hw => hw) hw₁₄ ?_
  rintro w₁₅ - w₁₆ hw₁₅ rfl
  exact (wp_ret _).2 ⟨hw₁₅.fw, hw₁₅.hw, rfl, hw₁₅.intact⟩

end

/-! ## Whole runs -/

/-- What holds between the steps of a run. -/
def LifeSys.Inv (σ : LifeSys) : Prop :=
  if σ.bound then ∃ h, Registered h (some h) σ.life else Unbound σ.life

section
variable {C : Host → Action → Prop} {k : Kernel} {σ τ : LifeSys}

/-- **One step** keeps the invariant. -/
theorem life_step (hs : LifeSys.Step C k σ τ) (h : σ.Inv) : τ.Inv := by
  unfold LifeSys.Inv at h ⊢
  cases hs with
  | @probe uninit ret w hb hrun =>
    rw [hb] at h
    rcases wp_probe uninit h ret w hrun with ⟨hneg, hw⟩ | ⟨rfl, hw⟩
    · rw [if_neg (by simp; omega)]
      exact hw
    · rw [if_pos (by simp)]
      exact hw
  | calls hc =>
    by_cases hb : σ.bound = true
    · rw [if_pos hb] at h ⊢
      obtain ⟨hw, hreg⟩ := h
      exact ⟨hw, stable_registered _ _ hc hreg⟩
    · rw [if_neg hb] at h ⊢
      exact stable_unbound _ _ hc h
  | disconnect hb hrun =>
    rw [if_pos hb] at h
    obtain ⟨hw, hreg⟩ := h
    exact wp_disconnect hreg _ _ hrun

theorem life_run {host : Host} (hr : ReflTransGen (LifeSys.Step C k) (.fresh host) σ) : σ.Inv := by
  induction hr with
  | refl => exact ⟨rfl, rfl, rfl, rfl⟩
  | tail _ hs ih => exact life_step hs ih

/-- **Probes, calls and disconnects** in any order, with any failures: no object is misused, no
image is held between them, a driver that is not bound has left nothing, and one that is bound has
exactly one hw, registered and known to the interface. -/
theorem life_safe {host : Host} (hr : ReflTransGen (LifeSys.Step C k) (.fresh host) σ) :
    σ.life.broken = false ∧ (∀ f, σ.life.fw f = false) ∧
      (σ.bound = false → (∀ h, σ.life.hw h = none) ∧ σ.life.intfdata = none) ∧
      (σ.bound = true → ∃ h, σ.life.intfdata = some h ∧ σ.life.hw h = some true ∧
        ∀ h', h' ≠ h → σ.life.hw h' = none) := by
  have h := life_run hr
  unfold LifeSys.Inv at h
  by_cases hb : σ.bound = true
  · rw [if_pos hb] at h
    obtain ⟨hw, hobj, -⟩ := h
    refine ⟨hobj.intact, fun f => ?_, fun hc => ?_, fun _ => ⟨hw, hobj.intfdata, ?_⟩⟩
    · rw [hobj.fw]
      rfl
    · rw [hb] at hc
      cases hc
    · rw [hobj.hw]
      exact ⟨oneHw_self _ _, fun h' hne => Function.update_of_ne hne ..⟩
  · rw [if_neg hb] at h
    refine ⟨h.intact, fun f => ?_, fun _ => ⟨fun h' => ?_, h.intfdata⟩, fun hc => absurd hc hb⟩
    · rw [h.fw]
      rfl
    · rw [h.hw]
      rfl

end

/-! ## What has happened before a registration -/

section
variable {fw : List U8} {tr : List (Event sig)} {ret : Int}

/-- `TOP_MISC2` showed a RAM firmware running after the last command. -/
def RanLast (tr : List (Event sig)) : Prop :=
  ∃ t₁ t₂, tr = t₁ ++ t₂ ∧ sends t₂ = [] ∧ SawRam t₂

theorem RanLast.behind {t t' : List (Event sig)} (h : RanLast t') : RanLast (t ++ t') := by
  obtain ⟨t₁, t₂, rfl, hs, hr⟩ := h
  exact ⟨t ++ t₁, t₂, (List.append_assoc ..).symm, hs, hr⟩

theorem RanLast.before {t t' : List (Event sig)} (h : RanLast t) (hs' : sends t' = []) :
    RanLast (t ++ t') := by
  obtain ⟨t₁, t₂, rfl, hs, hr⟩ := h
  exact ⟨t₁, t₂ ++ t', List.append_assoc .., by rw [sends_append, hs, hs']; rfl, hr.before⟩

/-- A part whose success is that of its last poll. -/
def EndsRan (p : P Int) : Prop := ∀ tr ret, Trace p tr ret → ret < 0 ∨ (ret = 0 ∧ RanLast tr)

theorem endsRan_fail {code : Int} (h : code < 0) : EndsRan (return code) := by
  intro tr ret ht
  obtain ⟨rfl, rfl⟩ := trace_ret.1 ht
  exact .inl h

theorem endsRan_next {p q : P Int} (hq : EndsRan q) :
    EndsRan (p >>= fun ret => if ret < 0 then return ret else q) := by
  intro tr ret ht
  rcases trace_next ht with ⟨hneg, -⟩ | ⟨r, t₁, t₂, rfl, -, -, h2⟩
  · exact .inl hneg
  · rcases hq t₂ ret h2 with hneg | ⟨h0, hran⟩
    · exact .inl hneg
    · exact .inr ⟨h0, hran.behind⟩

theorem endsRan_poll {n : Nat} : EndsRan (pollTopMisc2 0x02 0x02 n) := by
  intro tr ret ht
  have hs : sends tr = [] := sends_quiet (all_pollTopMisc2 trivial) ht
  have hle : ret ≤ 0 := by
    clear hs
    induction n generalizing tr with
    | zero =>
      obtain ⟨rfl, rfl⟩ := trace_ret.1 ht
      decide
    | succ n ih =>
      rcases trace_readNext ht (fun r v hr => ⟨- EIO, by decide, if_pos hr⟩)
        (fun v => if_neg (Int.lt_irrefl 0)) with ⟨hret, -⟩ | ⟨r, w, t, rfl, hr, h2⟩
      · omega
      · split at h2
        · obtain ⟨rfl, rfl⟩ := trace_ret.1 h2
          decide
        · exact ih t h2
  by_cases hneg : ret < 0
  · exact .inl hneg
  · obtain rfl : ret = 0 := by omega
    exact .inr ⟨rfl, [], tr, rfl, hs, sawRam_poll ht⟩

theorem endsRan_downloadBody (fw : List U8) (seq : U8) : EndsRan (downloadBody fw seq) := by
  intro tr ret ht
  unfold downloadBody at ht
  obtain ⟨r, t₁, t₂, rfl, -, h2⟩ := trace_bind.1 ht
  have hrest : ret < 0 ∨ (ret = 0 ∧ RanLast t₂) := by
    by_cases hr : r < 0
    · rw [if_pos hr] at h2
      obtain ⟨x, t₃, t₄, rfl, -, h4⟩ := trace_bind.1 h2
      obtain ⟨rfl, rfl⟩ := trace_ret.1 h4
      exact .inl hr
    rw [if_neg hr] at h2
    cases hdl : fwDlLen fw with
    | none =>
      rw [hdl] at h2
      exact endsRan_fail (by decide) _ _ h2
    | some dlLen =>
      rw [hdl] at h2
      dsimp only at h2
      obtain ⟨f, -, hw⟩ := withFrame_addrLen dlLen (nextCmdSeq seq)
      obtain ⟨g, -, hw'⟩ := withFrame_start (nextCmdSeq (nextCmdSeq seq))
      rw [hw] at h2
      refine endsRan_next ?_ _ _ h2
      split
      · exact endsRan_fail (by decide)
      · refine endsRan_next ?_
        rw [hw']
        exact endsRan_next endsRan_poll
  rcases hrest with hneg | ⟨h0, hran⟩
  · exact .inl hneg
  · exact .inr ⟨h0, hran.behind⟩

/-- What a download of the image has done when it returns 0. -/
structure Downloaded (image : List U8) (tr : List (Event sig)) : Prop where
  commands : ∃ rs dlLen ps seq, Starts tr rs seq ∧
    sends tr = rs.map waitTransfer ++ bodyTransfers dlLen ps seq ∧ Uploads image dlLen ps
  /-- The code and its CRC are counted in 32 bits, and that many bytes are uploaded. -/
  bytes : uploaded tr = image.take ((declaredLen image + 4) % 2 ^ 32)
  /-- That is all of them unless the count wraps. -/
  full : uploaded tr = image.take (declaredLen image + 4) ↔ declaredLen image + 4 < 2 ^ 32
  ran : RanLast tr
  /-- Whether the old firmware was seen stopped is up to what the ROM-ready polls are told. -/
  polled : RomPolled tr ↔ ReadyMeansStopped tr
  /-- Then the one that was seen running is a new one. -/
  rises : ReadyMeansStopped tr → RamRises tr

/-- The first bytes of an image are those of a longer part only if it is no longer than they are. -/
theorem take_mod_iff {image : List U8} {n : Nat} (hl : 1024 ≤ image.length)
    (hn : n < 2 ^ 32 + 4) : image.take (n % 2 ^ 32) = image.take n ↔ n < 2 ^ 32 := by
  constructor
  · intro h
    by_contra hc
    have hlen := congrArg List.length h
    rw [List.length_take, List.length_take] at hlen
    omega
  · intro h
    rw [Nat.mod_eq_of_lt h]

/-- **A download of an accepted image** that returns 0, whatever it was answered. -/
theorem download_done (hv : verifyFirmware fw = .ok ()) (h : Trace (downloadFirmware fw) tr ret)
    (hret : ¬ret < 0) : Downloaded fw tr := by
  have hran : ret = 0 ∧ RanLast tr := by
    rcases download_cases h with ⟨hr, -⟩ | ⟨seq, pre, body, post, rfl, -, hpost, hb | ⟨hr, -⟩⟩
    · exact absurd hr hret
    · rcases endsRan_downloadBody fw seq body ret hb with hneg | ⟨h0, hran⟩
      · exact absurd hneg hret
      · exact ⟨h0, (hran.before (sends_regAccess hpost)).behind⟩
    · exact absurd hr hret
  have hl := verifyFirmware_length hv
  have h4 : 4 ≤ fw.length := by omega
  obtain ⟨dlLen, hd, hn, hlt⟩ := fwDlLen_declared h4
  have hup : uploaded tr = fw.take ((declaredLen fw + 4) % 2 ^ 32) := by
    rcases download_length hd h with ⟨-, hu⟩ | ⟨hneg, -⟩
    · rw [hu, hn]
    · exact absurd hneg hret
  obtain ⟨rs, d, ps, seq, hst, -, -, hz⟩ := download_transfers h
  obtain ⟨hs, hps⟩ := hz hran.1
  obtain ⟨pre, polls, ev, post, ws, v, hat⟩ :=
    (download_startsAt h).resolve_left fun hneg => hret hneg.1
  exact {
    commands := ⟨rs, d, ps, seq, hst, hs, hps⟩
    bytes := hup
    full := by rw [hup, take_mod_iff hl (by omega)]
    ran := hran.2
    polled := hat.romPolled_iff.trans hat.ready_iff.symm
    rises := fun hr => hat.ramRises (hat.ready_iff.1 hr) hran.1 }

end

/-! The image of the calibration data, and the address in it. -/

theorem quiet_efusePoll (n : Nat) (val : U32) : All (S := sig) Quiet (efusePoll n val) := by
  induction n generalizing val with
  | zero => trivial
  | succ n ih =>
    refine all_bind (all_usbReadReg trivial) fun ⟨ret, val⟩ => ?_
    dsimp only
    split
    · trivial
    · split
      · trivial
      · exact ih val

theorem quiet_efuseWords (is : List Nat) (data : List U8) :
    All (S := sig) Quiet (efuseWords is data) := by
  induction is generalizing data with
  | nil => trivial
  | cons i is ih =>
    refine all_bind (all_usbReadReg trivial) fun ⟨ret, val⟩ => ?_
    dsimp only
    split
    · trivial
    · exact ih _

theorem quiet_efuseReadBlock (addr : U16) (data : List U8) :
    All (S := sig) Quiet (efuseReadBlock addr data) := by
  refine all_bind (all_usbReadReg trivial) fun ⟨ret, val⟩ => ?_
  dsimp only
  split
  · trivial
  refine all_bind (all_usbWriteReg trivial) fun ret => ?_
  split
  · trivial
  refine all_bind (quiet_efusePoll ..) fun ⟨ret, val⟩ => ?_
  dsimp only
  split
  · trivial
  split
  · trivial
  refine all_bind (all_usbReadReg trivial) fun ⟨ret, val⟩ => ?_
  dsimp only
  split
  · trivial
  split
  · trivial
  · exact quiet_efuseWords ..

theorem quiet_efuseBlocks (len i : Nat) (buf : List U8) :
    All (S := sig) Quiet (efuseBlocks len i buf) := by
  fun_induction efuseBlocks len i buf with
  | case1 i buf hi ih =>
    refine all_bind (quiet_efuseReadBlock ..) fun ⟨ret, data⟩ => ?_
    dsimp only
    split
    · trivial
    · exact ih _
  | case2 i buf hi => trivial

theorem quiet_registerMac80211 (uninit : EepromData) :
    All (S := sig) Quiet (registerMac80211 uninit) := by
  refine all_bind (all_bind (all_usbReadReg trivial) fun ⟨ret, val⟩ => ?_) fun _ => trivial
  dsimp only
  split
  · trivial
  · split
    · trivial
    · exact quiet_efuseBlocks ..

/-- An address that can be given to a device: neither zero nor broadcast. -/
def Assignable (mac : MacAddr) : Prop := mac.isZero = false ∧ mac ≠ BCAST_ADDR

theorem assignable_default : Assignable DEFAULT_MAC := by
  unfold Assignable
  decide

theorem assignable_parseEeprom {image : List U8} {data : EepromData}
    (h : parseEeprom image = .ok data) : Assignable data.macAddr := by
  by_cases hlen : image.length < 256
  · rw [parseEeprom, if_pos hlen] at h
    cases h
  have hget : ∀ i < 256, get image i = .ok (byteAt image i) := fun i hi => get_eq (by omega)
  unfold parseEeprom at h
  rw [if_neg hlen] at h
  simp only [hget 0x04 (by decide), hget 0x05 (by decide), hget 0x06 (by decide),
    hget 0x07 (by decide), hget 0x08 (by decide), hget 0x09 (by decide),
    hget 0x46 (by decide), if_pos (show 0x47 ≤ image.length by omega), ok_bind] at h
  obtain rfl := Except.ok.inj h
  generalize byteAt image 0x04 = m0, byteAt image 0x05 = m1, byteAt image 0x06 = m2,
    byteAt image 0x07 = m3, byteAt image 0x08 = m4, byteAt image 0x09 = m5
  have hmac : ∀ d : EepromData, d.macAddr = (if (MacAddr.toList ⟨m0, m1, m2, m3, m4, m5⟩).all
      (· == 0x00) || (MacAddr.toList ⟨m0, m1, m2, m3, m4, m5⟩).all (· == 0xFF) then DEFAULT_MAC
      else ⟨m0, m1, m2, m3, m4, m5⟩) → Assignable d.macAddr := by
    intro d hd
    rw [hd]
    split
    · exact assignable_default
    · rename_i hprog
      refine ⟨?_, fun hc => hprog ?_⟩
      · by_contra hz
        have hz : (⟨m0, m1, m2, m3, m4, m5⟩ : MacAddr) = ⟨0, 0, 0, 0, 0, 0⟩ := by
          simpa [MacAddr.isZero] using hz
        exact hprog (by rw [hz]; rfl)
      · rw [hc]
        rfl
  refine hmac _ ?_
  split
  · rfl
  · rfl

theorem ends_macAddr (uninit : EepromData) :
    Ends (fun host : Host => Assignable host.dev.macAddr) (registerMac80211 uninit) := by
  unfold registerMac80211
  refine ends_next fun ⟨ret, image⟩ => ?_
  change Assignable (if _ then _ else DEFAULT_MAC)
  split
  · rename_i data hparse
    split
    · exact assignable_parseEeprom hparse
    · exact assignable_default
  · rw [if_neg (by simp)]
    exact assignable_default

/-! The exchange of a probe. -/

/-- What the device sees of an exchange. -/
def ioView : Event bindSig → List (Event sig)
  | ⟨.io e, r⟩ => [⟨e, r⟩]
  | _ => []

section
variable {α : Type} {tr t t' : List (Event bindSig)} {uninit : EepromData} {hw : Nat}
  {mac : MacAddr} {r ret : Int}

theorem trace_bindIo {p : P α} {a : α} (h : Trace (bindIo p) tr a) :
    Trace p (tr.flatMap ioView) a ∧ ∀ ev ∈ tr, ∃ e, ev.req = .io e :=
  ⟨sim_via (fun _ _ => rfl) p tr a h,
    trace_all (P := fun e : BindReq => ∃ e', e = .io e')
      (all_via (all_of_forall (fun e => ⟨e, rfl⟩) p)) h⟩

/-- The image has been downloaded, and no command has been sent after that. -/
def DownloadedLast (image : List U8) (tr : List (Event sig)) : Prop :=
  ∃ t₁ t₂, tr = t₁ ++ t₂ ∧ sends t₂ = [] ∧ Downloaded image t₁

theorem DownloadedLast.before {image : List U8} {t t' : List (Event sig)}
    (h : DownloadedLast image t) (hs : sends t' = []) : DownloadedLast image (t ++ t') := by
  obtain ⟨t₁, t₂, rfl, hs₂, hdone⟩ := h
  exact ⟨t₁, t₂ ++ t', List.append_assoc .., by rw [sends_append, hs₂, hs]; rfl, hdone⟩

/-- An image was fetched, verified, downloaded and released. -/
def FirmwareLoaded (tr : List (Event bindSig)) : Prop :=
  ∃ fw image, (⟨.requestFirmware, .ok (fw, image)⟩ : Event bindSig) ∈ tr ∧
    (⟨.releaseFirmware fw, ()⟩ : Event bindSig) ∈ tr ∧ verifyFirmware image = .ok () ∧
    DownloadedLast image (tr.flatMap ioView)

theorem FirmwareLoaded.before (h : FirmwareLoaded t) (hs : sends (t'.flatMap ioView) = []) :
    FirmwareLoaded (t ++ t') := by
  obtain ⟨fw, image, hreq, hrel, hv, hup⟩ := h
  refine ⟨fw, image, List.mem_append_left _ hreq, List.mem_append_left _ hrel, hv, ?_⟩
  rw [List.flatMap_append]
  exact hup.before hs

/-- A device is registered under a usable address, behind a download. -/
def RegistersReady (tr : List (Event bindSig)) : BindReq → Prop
  | .registerHw _ mac => FirmwareLoaded tr ∧ Assignable mac
  | _ => True

theorem ready_bindIo (p : P α) : AllAfter RegistersReady (bindIo p) tr := by
  refine allAfter_of_all (P := fun e : BindReq => ∃ e', e = .io e')
    (all_via (all_of_forall (fun e => ⟨e, rfl⟩) p)) ?_
  rintro _ tr ⟨e, rfl⟩
  trivial

theorem ready_registerMac80211Hw (h : FirmwareLoaded tr) :
    AllAfter RegistersReady (registerMac80211Hw uninit) tr := by
  refine ⟨trivial, fun x => ?_⟩
  match x with
  | none => trivial
  | some hw =>
    change AllAfter RegistersReady (bindIo (registerMac80211 uninit) >>= _) _
    refine allAfter_bind (ready_bindIo _) fun host t ht => ?_
    obtain ⟨hio, -⟩ := trace_bindIo ht
    have hmac : Assignable host.dev.macAddr :=
      runs_ends (Q := fun host : Host => Assignable host.dev.macAddr) (ends_macAddr uninit) hio
    have hquiet : sends (t.flatMap ioView) = [] := sends_quiet (quiet_registerMac80211 uninit) hio
    refine ⟨trivial, fun _ => ⟨⟨?_, hmac⟩, fun (ret : Int) => ?_⟩⟩
    · rw [List.append_assoc, List.append_assoc]
      refine h.before ?_
      simpa [ioView] using hquiet
    · change AllAfter RegistersReady (if ret < 0 then _ else _) _
      split
      · exact ⟨trivial, fun _ => trivial⟩
      · trivial

theorem ready_probeRegister (h : FirmwareLoaded tr) :
    AllAfter RegistersReady (probeRegister uninit) tr := by
  unfold probeRegister
  rw [rustCall_of_fills fills_buildMacInitSequence (Nat.le_of_ble_eq_true rfl)]
  dsimp only
  refine allAfter_bind (ready_bindIo _) fun _ t ht => ?_
  have hquiet : sends (t.flatMap ioView) = [] :=
    sends_quiet (all_executeRegOps fun _ _ => trivial) (trace_bindIo ht).1
  refine allAfter_bind (ready_registerMac80211Hw (h.before hquiet)) fun ⟨ret, hw⟩ t' _ => ?_
  dsimp only
  split
  · trivial
  · exact ⟨trivial, fun _ => trivial⟩

theorem ready_probe (uninit : EepromData) : AllAfter RegistersReady (probe uninit) [] := by
  refine ⟨trivial, fun x => ?_⟩
  match x with
  | .error ret => trivial
  | .ok (fw, image) =>
    change AllAfter RegistersReady (probeImage uninit fw image) _
    unfold probeImage
    rcases verifyFirmware_cases image with hv | hv
    · rw [hv]
      refine allAfter_bind (ready_bindIo _) fun ret t ht => ⟨trivial, fun _ => ?_⟩
      change AllAfter RegistersReady (if ret < 0 then _ else _) _
      split
      · trivial
      · rename_i hret
        have hdone := download_done hv (trace_bindIo ht).1 hret
        have hrel : ∀ u : Unit, (⟨.releaseFirmware fw, ()⟩ : Event bindSig) ∈
            [] ++ [⟨.requestFirmware, .ok (fw, image)⟩] ++ t ++ [⟨.releaseFirmware fw, u⟩] :=
          fun _ => List.mem_append_right _ (List.mem_singleton.2 rfl)
        refine ready_probeRegister ⟨fw, image, by simp, hrel _, hv, t.flatMap ioView, [], ?_, rfl,
          hdone⟩
        simp [ioView]
    · rw [hv]
      exact ⟨trivial, fun _ => trivial⟩

/-- **A device is registered** only after a verified image was downloaded, with no command since,
and released; and under an address that is neither zero nor broadcast. What the download comes to
is `Downloaded`: the first bytes of the image went out in order, all that it declares exactly if
the count does not wrap, and a RAM firmware was seen running after the last command, which is known
to be the new one if the ROM-ready polls were not told that the old one was still running. -/
theorem probe_ready (h : Trace (probe uninit) (t ++ ⟨.registerHw hw mac, r⟩ :: t') ret) :
    FirmwareLoaded t ∧ Assignable mac :=
  trace_allAfter (ready_probe uninit) h rfl

end

/-! A probe that succeeds, with the small image. -/

def ioEvent (ev : Event sig) : Event bindSig := ⟨.io ev.req, ev.resp⟩

theorem bindIo_logs {α : Type} {C : Host → Action → Prop} {k : Kernel} {p : P α}
    {tr : List (Event sig)} {a : α} (h : Trace p tr a) (w : Life) :
    Logs ((lifeEnv C k).beside (Life.Calls C k)) (bindIo p) w (tr.map ioEvent) a w := by
  induction p generalizing tr with
  | ret b =>
    obtain ⟨rfl, rfl⟩ := trace_ret.1 h
    exact ⟨rfl, rfl, rfl⟩
  | op e k ih =>
    obtain ⟨r, t, rfl, ht⟩ := trace_op.1 h
    exact ⟨r, w, _, ⟨w, .refl, rfl⟩, rfl, ih r ht⟩

/-- The device of this probe: its calibration image cannot be read. -/
def blankHost : Host := (registerMac80211 {}).eval fun e => (regDevice (fun _ => 0) e).1

theorem blankHost_trace : ∃ tr, Trace (registerMac80211 {}) tr blankHost := by
  obtain ⟨tr, h, -⟩ := trace_eval (fun e => (regDevice (fun _ => 0) e).1) (registerMac80211 {})
  exact ⟨tr, h⟩

theorem blankHost_up : blankHost.up = false := by
  obtain ⟨tr, h⟩ := blankHost_trace
  have hends : Ends (S := sig) (fun h : Host => h.up = false) (registerMac80211 {}) := by
    unfold registerMac80211
    exact ends_next fun _ => rfl
  have hup := runs_ends hends h
  exact hup

theorem initOps_trace (ops : List RegWriteOp) : ∃ tr ret, Trace (executeRegOps ops) tr ret := by
  obtain ⟨tr, h, -⟩ := trace_eval (fun e => (regDevice (fun _ => 0) e).1) (executeRegOps ops)
  exact ⟨tr, _, h⟩

theorem smallFw_trace : ∃ tr, Trace (downloadFirmware smallFw) tr 0 :=
  ⟨_, trace_downloadRun [2, 1, 2] 0 0 (by decide +kernel)⟩

/-- The probe, with any image that is accepted and can be downloaded, and the objects it makes. -/
theorem probe_logs {C : Host → Action → Prop} {k : Kernel} {image : List U8}
    {t₁ : List (Event sig)} (hv : verifyFirmware image = .ok ())
    (h₁ : Trace (downloadFirmware image) t₁ 0) {w : Life} (hf : w.fw 0 = false)
    (hw : w.hw 0 = none) :
    ∃ t t' w', Logs ((lifeEnv C k).beside (Life.Calls C k)) (probe {}) w
      (t ++ ⟨.registerHw 0 blankHost.dev.macAddr, (0 : Int)⟩ :: t') 0 w' ∧
        w'.host = blankHost := by
  obtain ⟨t₂, ret, h₂⟩ := initOps_trace macInitSeq
  obtain ⟨t₃, h₃⟩ := blankHost_trace
  have hreg : ∀ {w : Life}, w.hw 0 = none → ∃ w', Logs ((lifeEnv C k).beside (Life.Calls C k))
      (registerMac80211Hw {}) w (⟨.allocHw, some 0⟩ :: (t₃.map ioEvent ++
        [⟨.setPriv 0 blankHost, ()⟩, ⟨.registerHw 0 blankHost.dev.macAddr, (0 : Int)⟩]))
      (0, some 0) w' ∧ w'.host = blankHost := by
    intro w hw
    let w₁ := w.setHw 0 (some false)
    let w₂ := { w₁.flag (w₁.missing 0) with host := blankHost, pending := false }
    refine ⟨(w₂.flag (w₂.hw 0 != some false)).setHw 0 (some (succeeded 0)), ⟨some 0, w₁, _,
      ⟨w, .refl, hw, rfl⟩, rfl, ?_⟩, rfl⟩
    change Logs _ (bindIo (registerMac80211 {}) >>= _) _ _ _ _
    refine logs_bind.2 ⟨blankHost, w₁, _, _, rfl, bindIo_logs h₃ w₁, (), w₂, _, ⟨w₁, .refl, rfl⟩,
      rfl, ?_⟩
    exact ⟨(0 : Int), _, [], ⟨w₂, .refl, rfl⟩, rfl, rfl, rfl, rfl⟩
  have hrest : ∀ {w : Life}, w.hw 0 = none → ∃ w', Logs ((lifeEnv C k).beside (Life.Calls C k))
      (probeRegister {}) w (t₂.map ioEvent ++ ((⟨.allocHw, some 0⟩ :: (t₃.map ioEvent ++
        [⟨.setPriv 0 blankHost, ()⟩, ⟨.registerHw 0 blankHost.dev.macAddr, (0 : Int)⟩])) ++
        [⟨.setIntfdata (some 0), ()⟩])) 0 w' ∧ w'.host = blankHost := by
    intro w hw
    obtain ⟨w', hr, hhost⟩ := hreg hw
    unfold probeRegister
    rw [rustCall_of_fills fills_buildMacInitSequence (Nat.le_of_ble_eq_true rfl)]
    refine ⟨{ w' with intfdata := some 0 },
      logs_bind.2 ⟨ret, w, _, _, rfl, bindIo_logs h₂ w, ?_⟩, hhost⟩
    exact logs_bind.2 ⟨_, w', _, _, rfl, hr, (), _, [], ⟨w', .refl, rfl⟩, rfl, rfl, rfl, rfl⟩
  obtain ⟨w', hr, hhost⟩ :=
    hrest (w := ((w.setFw 0 true).flag (!(w.setFw 0 true).fw 0)).setFw 0 false) hw
  refine ⟨⟨.requestFirmware, .ok (0, image)⟩ :: (t₁.map ioEvent ++ ⟨.releaseFirmware 0, ()⟩ ::
    (t₂.map ioEvent ++ ⟨.allocHw, some 0⟩ :: (t₃.map ioEvent ++ [⟨.setPriv 0 blankHost, ()⟩]))),
    [⟨.setIntfdata (some 0), ()⟩], w', ⟨.ok (0, image), w.setFw 0 true, _, ⟨w, .refl, hf, rfl⟩,
    rfl, ?_⟩, hhost⟩
  change Logs _ (probeImage {} 0 image) _ _ _ _
  unfold probeImage
  rw [hv]
  refine logs_bind.2 ⟨0, _, t₁.map ioEvent, _, ?_, bindIo_logs h₁ _, (), _, _, ⟨_, .refl, rfl⟩,
    rfl, hr⟩
  simp

/-- The small image declares no code, so four bytes of it are uploaded. -/
theorem probe_ready_smallFw : ∃ t t', Trace (probe {})
    (t ++ ⟨.registerHw 0 blankHost.dev.macAddr, (0 : Int)⟩ :: t') 0 ∧ FirmwareLoaded t ∧
      Assignable blankHost.dev.macAddr := by
  obtain ⟨t₁, h₁⟩ := smallFw_trace
  obtain ⟨t, t', w, h, -⟩ := probe_logs (C := fun _ _ => True) (k := sampleKernel) smallFw_verified
    h₁ (w := (LifeSys.fresh blankHost).life) rfl rfl
  exact ⟨t, t', logs_trace h, probe_ready (logs_trace h)⟩

/-- mac80211 takes the device down. -/
theorem calls_down {k : Kernel} {w : Life} {h : Nat} (hh : w.hw h = some true) :
    ∃ w', ReflTransGen (Life.Calls NotStart k) w w' ∧ w'.host.up = false ∧ w'.hw h = some true := by
  by_cases hup : w.host.up = true
  · have hstep : Step .stop ⟨w.host, fun _ => 0⟩ _ := step_next hup
    obtain ⟨pending, hcall⟩ :=
      work_call (C := NotStart) (k := k) hstep (by simp [NotStart]) w.pending
    refine ⟨_, .single ⟨⟨h, hh⟩, _, hcall, rfl⟩, ?_, hh⟩
    exact (next_host ⟨w.host, fun _ => 0⟩ .stop).2.2
  · exact ⟨w, .refl, by simpa using hup, hh⟩

/-- A bound driver is disconnected. -/
theorem disconnect_runs {k : Kernel} {w : Life} {h : Nat} (hi : w.intfdata = some h)
    (hh : w.hw h = some true) :
    ∃ w', Runs ((lifeEnv NotStart k).beside (Life.Calls NotStart k)) disconnect w () w' := by
  let w₁ : Life := { w.flag (w.missing h) with
    host := { w.host with dev := { w.host.dev with running := false, beaconEnabled := false } } }
  let w₂ : Life := { w₁.flag (w₁.missing h) with pending := false }
  let w₃ : Life := { w₂.flag (w₂.missing h) with host := { w₂.host with ring := .empty } }
  let w₄ : Life := w₃.flag (w₃.missing h)
  have hh₄ : w₄.hw h = some true := hh
  obtain ⟨w₅, hcalls, hdown, -⟩ := calls_down (k := k) hh₄
  let w₆ : Life := (w₅.flag (w₅.hw h != some true)).setHw h (some false)
  let w₇ : Life := (w₆.flag (w₆.hw h != some false || w₆.pending ||
    w₆.host.ring != .empty)).setHw h none
  have hunregister : Runs ((lifeEnv NotStart k).beside (Life.Calls NotStart k))
      (unregisterMac80211 (some h)) w () w₇ := by
    refine ⟨(), w₁, ⟨w, .refl, rfl⟩, (), w₂, ⟨w₁, .refl, rfl⟩, (), w₃, ⟨w₂, .refl, rfl⟩, ?_⟩
    refine ⟨(), w₄, ⟨w₃, .refl, rfl⟩, (), w₆, ⟨w₄, .refl, w₅, hcalls, hdown, rfl⟩, ?_⟩
    exact ⟨(), w₇, ⟨w₆, .refl, rfl⟩, rfl, rfl⟩
  refine ⟨{ w₇ with intfdata := none }, some h, w, ⟨w, .refl, hi.symm, rfl⟩, ?_⟩
  change Runs _ (unregisterMac80211 (some h) >>= fun _ => bindReq (.setIntfdata none)) _ _ _
  exact (runs_bind _).2 ⟨(), w₇, hunregister, (), _, ⟨w₇, .refl, rfl⟩, rfl, rfl⟩

/-- The device is probed, started and disconnected: bound to one hw in between, and nothing is left
at the end. -/
theorem life_safe_bound : ∃ σ τ, ReflTransGen (LifeSys.Step (fun _ _ => True) sampleKernel)
    (.fresh blankHost) σ ∧ σ.bound = true ∧ σ.life.host.up = true ∧
      (∃ h, σ.life.intfdata = some h ∧ σ.life.hw h = some true) ∧
    LifeSys.Step (fun _ _ => True) sampleKernel σ τ ∧ τ.life.broken = false ∧
      τ.life.intfdata = none ∧ ∀ h, τ.life.hw h = none := by
  obtain ⟨t₁, h₁⟩ := smallFw_trace
  obtain ⟨t, t', w, hr, hhost⟩ := probe_logs (C := fun _ _ => True) (k := sampleKernel)
    smallFw_verified h₁ (w := (LifeSys.fresh blankHost).life) rfl rfl
  have hprobed : ReflTransGen (LifeSys.Step (fun _ _ => True) sampleKernel) (.fresh blankHost)
      ⟨true, w⟩ := .single (.probe rfl (logs_runs hr))
  obtain ⟨-, -, -, hbound⟩ := life_safe hprobed
  obtain ⟨h, hi, hh, -⟩ := hbound rfl
  have hstart : Step .start ⟨w.host, fun _ => 0⟩ _ := step_next (hhost ▸ blankHost_up)
  obtain ⟨pending, hcall⟩ := work_call (C := fun _ _ => True) (k := sampleKernel) hstart trivial
    w.pending
  have hstarted := hprobed.tail (.calls ⟨⟨h, hh⟩, _, hcall, rfl⟩)
  obtain ⟨w', hdis⟩ := disconnect_runs (k := sampleKernel) (w := { w with
    host := (Sys.next ⟨w.host, fun _ => 0⟩ .start).host, pending }) hi hh
  obtain ⟨hintact, -, hleft, -⟩ := life_safe (hstarted.tail (.disconnect rfl hdis))
  obtain ⟨hhw, hintf⟩ := hleft rfl
  exact ⟨_, _, hstarted, rfl, next_start_up _, ⟨h, hi, hh⟩, .disconnect rfl hdis, hintact, hintf,
    hhw⟩

end Driver
