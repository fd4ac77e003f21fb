import Mt7603u.Proof.Wtbl

/-!
# The group key and clients that join

The access point's group key lives in WTBL1 entry 0. No callback but `staAdd` and a `setKey` on the
group slot writes the entry's key words, so the key stays in force through everything else. But
`staAdd` programs entry 0 again, without cipher and admission: `groupKey_inForce_iff` says that
after a group key was installed it is in force exactly as long as no client was added.
-/

namespace Driver

open Effect Slice Word Rust

/-- The state of an installed CCMP group key. -/
structure GroupKeyInForce (s : RegFile) (keyidx : U8) : Prop where
  cipher : entryCipher s 0 = 4
  adm : entryAdm s 0 = true
  kid : (entryKid s 0).setWidth 8 = keyidx &&& 3

/-- A `setKey` that is neither pairwise nor for a station. -/
def Callback.onGroupSlot : Callback → Bool
  | .setKey _ sta key => !key.pairwise && sta.all (·.isZero)
  | _ => false

/-- A `staAdd` that is not ignored. -/
def Callback.addsClient : Callback → Bool
  | .staAdd sta => !sta.isZero
  | _ => false

theorem keyWcid_group (cmd : SetKeyCmd) {sta : Option MacAddr} {key : KeyConf} :
    keyWcid sta key = if (Callback.setKey cmd sta key).onGroupSlot then 0 else 1 := by
  unfold keyWcid Callback.onGroupSlot
  cases sta <;> cases hp : key.pairwise <;> simp [hp]

/-! ## One callback -/

/-- The key words of entry 0. -/
def groupAddrs : List U32 := [0x28000, 0x28008]

theorem addrs_avoid_group {cb : Callback} (hg : cb.onGroupSlot = false)
    (ha : cb.addsClient = false) : cb.addrs.all (avoids groupAddrs) = true := by
  cases cb with
  | addInterface => decide +kernel
  | config chandef changed => rw [Callback.addrs]; decide +kernel
  | configureFilter totalFlags flags => rw [Callback.addrs]; decide +kernel
  | bssInfoChanged info changed => rw [Callback.addrs]; decide +kernel
  | staAdd sta =>
    have hz : sta.isZero = true := by simpa [Callback.addsClient] using ha
    rw [Callback.addrs, if_pos hz]
    rfl
  | staRemove sta => rw [Callback.addrs]; decide +kernel
  | ampduAction params => rw [Callback.addrs]; decide +kernel
  | setKey cmd sta key =>
    rw [Callback.addrs, keyWcid_group cmd, hg, if_neg (by simp)]
    decide +kernel

/-- In force, or lost when a client was added. -/
def GroupKeyState (keyidx : U8) (lost : Bool) (s : RegFile) : Prop :=
  if lost then entryDw2 s 0 = 0 else GroupKeyInForce s keyidx

theorem groupKeyState_congr {keyidx : U8} {lost : Bool} {s s' : RegFile}
    (h : ∀ r ∈ groupAddrs, s'.reg r = s.reg r) (hs : GroupKeyState keyidx lost s) :
    GroupKeyState keyidx lost s' := by
  have h0 : entryDw0 s' 0 = entryDw0 s 0 := h 0x28000 (by simp [groupAddrs])
  have h2 : entryDw2 s' 0 = entryDw2 s 0 := h 0x28008 (by simp [groupAddrs])
  unfold GroupKeyState at hs ⊢
  split
  · rename_i hl
    rw [h2]
    simpa [hl] using hs
  · rename_i hl
    obtain ⟨hc, ha, hk⟩ : GroupKeyInForce s keyidx := by simpa [hl] using hs
    unfold entryCipher at hc
    unfold entryAdm at ha
    unfold entryKid at hk
    refine ⟨?_, ?_, ?_⟩
    · rw [entryCipher, h2, hc]
    · rw [entryAdm, h2, ha]
    · rw [entryKid, h0, hk]

theorem groupKey_step {vif : Vif} (hv : vif.type = .ap) {cb : Callback}
    (hg : cb.onGroupSlot = false) {keyidx : U8} {lost : Bool} {dev : Dev} {s : RegFile}
    (hs : GroupKeyState keyidx lost s) :
    wp (regEnv True) (cb.run vif dev) s fun _ s' =>
      GroupKeyState keyidx (lost || cb.addsClient) s' := by
  cases ha : cb.addsClient with
  | true =>
    match cb, ha with
    | .staAdd sta, ha =>
      have hz : ¬sta.isZero := by simpa [Callback.addsClient] using ha
      rw [Callback.run, wp_staAdd_ap hv hz, Bool.or_true]
      exact (addPeer_entry sta s).1
  | false =>
    rw [Bool.or_false]
    exact wp_mono (callback_frame hv (addrs_avoid_group hg ha)) fun _ s' h =>
      groupKeyState_congr h hs

/-! ## Runs -/

theorem groupKey_run {vif : Vif} (hv : vif.type = .ap) {cbs : List Callback}
    (hg : ∀ cb ∈ cbs, cb.onGroupSlot = false) {keyidx : U8} {lost : Bool} {dev : Dev} {s : RegFile}
    (hs : GroupKeyState keyidx lost s) :
    wp (regEnv True) (runAll vif cbs dev) s fun _ s' =>
      GroupKeyState keyidx (lost || cbs.any (·.addsClient)) s' := by
  induction cbs generalizing dev s lost with
  | nil => simpa [runAll] using hs
  | cons cb cbs ih =>
    rw [runAll, wp_bind]
    refine wp_mono (groupKey_step hv (hg cb (by simp)) hs) fun dev' s' hs' => ?_
    rw [List.any_cons, ← Bool.or_assoc]
    exact ih (fun cb hcb => hg cb (List.mem_cons_of_mem _ hcb)) hs'

/-- An installed group key is in force at first. -/
theorem wp_setKey_group {vif : Vif} {sta : Option MacAddr} {key : KeyConf}
    (hk : key.cipher = WLAN_CIPHER_SUITE_CCMP)
    (hg : (Callback.setKey .setKey sta key).onGroupSlot = true) {s : RegFile} :
    wp (regEnv True) (setKey .setKey (some vif) sta key) s fun ret s' =>
      ret = 0 ∧ GroupKeyInForce s' key.keyidx := by
  rw [wp_setKey_install hk, keyWcid_group .setKey, if_pos hg]
  obtain ⟨h0, -, h2⟩ := installKey_entry (some vif) 0 (by decide) key s
  refine ⟨rfl, ?_, ?_, ?_⟩
  · rw [entryCipher, h2, setKeyDw2_cipher]
  · rw [entryAdm, h2, setKeyDw2_adm]
  · rw [entryKid, h0, setKeyDw0_kid, kid_setWidth]

section
variable {vif : Vif} {pre post : List Callback} {sta : Option MacAddr} {key : KeyConf}

/-- The group key after its installation and the callbacks that follow. -/
theorem groupKey_installed (hv : vif.type = .ap) (pre : List Callback)
    (hk : key.cipher = WLAN_CIPHER_SUITE_CCMP)
    (hg : (Callback.setKey .setKey sta key).onGroupSlot = true)
    (hpost : ∀ cb ∈ post, cb.onGroupSlot = false) (dev : Dev) (s : RegFile) :
    wp (regEnv True) (runAll vif (pre ++ .setKey .setKey sta key :: post) dev) s fun _ s' =>
      GroupKeyState key.keyidx (post.any (·.addsClient)) s' := by
  rw [wp_runAll_append]
  intro dev' s₁ _
  rw [runAll, wp_bind, Callback.run, wp_bind]
  refine wp_mono (wp_setKey_group hk hg) fun ret s₂ h => ?_
  rw [Prog.pure_eq, wp_ret]
  have hs : GroupKeyState key.keyidx false s₂ := h.2
  exact groupKey_run hv hpost hs

theorem not_inForce_of_lost {keyidx : U8} {s : RegFile} (h : GroupKeyState keyidx true s) :
    ¬GroupKeyInForce s keyidx := by
  intro hf
  have h' : entryDw2 s 0 = 0 := h
  have hc := hf.cipher
  rw [entryCipher, h'] at hc
  exact absurd hc (by decide)

end

/-- **When the group key is in force.** After any callbacks a CCMP group key is installed, and then
any callbacks follow that do not touch the group slot. At the end the key is in force exactly if
none of these added a client. -/
theorem groupKey_inForce_iff (vif : Vif) (hv : vif.type = .ap) (pre post : List Callback)
    (sta : Option MacAddr) (key : KeyConf) (hk : key.cipher = WLAN_CIPHER_SUITE_CCMP)
    (hg : (Callback.setKey .setKey sta key).onGroupSlot = true)
    (hpost : ∀ cb ∈ post, cb.onGroupSlot = false) (dev : Dev) (s : RegFile) :
    wp (regEnv True) (runAll vif (pre ++ .setKey .setKey sta key :: post) dev) s
        (fun _ s' => GroupKeyInForce s' key.keyidx) ↔
      ∀ cb ∈ post, cb.addsClient = false := by
  have hrun := groupKey_installed hv pre hk hg hpost dev s
  cases hl : post.any (·.addsClient) with
  | false =>
    rw [hl] at hrun
    refine iff_of_true hrun ?_
    simpa using hl
  | true =>
    rw [hl] at hrun
    refine iff_of_false (not_wp (regEnv_total True _ _) ?_) ?_
    · exact wp_mono hrun fun _ s' h => not_inForce_of_lost h
    · simpa using hl

/-- A group key of index 1. -/
def sampleGtk : KeyConf := ⟨WLAN_CIPHER_SUITE_CCMP, 1, 0, Vector.replicate 16 0x5A⟩

def sampleAp : Vif := ⟨0, .ap, ⟨2, 0, 0, 0, 0, 1⟩, none⟩

/-- The group key outlives a client that leaves. -/
theorem groupKey_inForce_staRemove :
    wp (regEnv True) (runAll sampleAp ([.staAdd ⟨2, 0, 0, 0, 0, 7⟩] ++
        .setKey .setKey none sampleGtk :: [.staRemove ⟨2, 0, 0, 0, 0, 7⟩]) Dev.zeroed) (fun _ => 0)
      fun _ s' => GroupKeyInForce s' sampleGtk.keyidx := by
  refine (groupKey_inForce_iff sampleAp rfl _ _ none sampleGtk rfl rfl ?_ _ _).2 ?_
  · simp [Callback.onGroupSlot]
  · simp [Callback.addsClient]

/-- The group key does not outlive a client that joins. -/
theorem groupKey_lost_staAdd :
    ¬wp (regEnv True) (runAll sampleAp
        [.addInterface, .setKey .setKey none sampleGtk, .staAdd ⟨2, 0, 0, 0, 0, 7⟩] Dev.zeroed)
      (fun _ => 0) fun _ s' => GroupKeyInForce s' sampleGtk.keyidx := by
  refine not_wp (regEnv_total True _ _) ?_
  refine wp_mono (groupKey_installed rfl [.addInterface] rfl rfl ?_ _ _) fun _ s' h => ?_
  · simp [Callback.onGroupSlot]
  · exact not_inForce_of_lost h

end Driver
