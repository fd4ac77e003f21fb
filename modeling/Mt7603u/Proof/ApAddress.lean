import Mt7603u.Proof.Callbacks

/-!
# The access point's address registers never drift

Own-address (`RMAC_OMA0R0/1`) and BSSID (`RMAC_CB0R0/1`) registers on an access point interface.
`addInterface` writes them once through the Rust sequence and once by hand; afterwards every
callback either leaves them alone or writes the same values again (`apAddr_agrees`), so they hold
the interface's address after any sequence of callbacks (`ap_addr_regs`).
-/

namespace Driver

open Effect Slice Word Rust

/-! ## Decoding -/

/-- The address in a pair of address registers. -/
def decodeAddr (r0 r1 : U32) : MacAddr :=
  ⟨r0.extractLsb' 0 8, r0.extractLsb' 8 8, r0.extractLsb' 16 8, r0.extractLsb' 24 8,
    r1.extractLsb' 0 8, r1.extractLsb' 8 8⟩

/-- The registers `a0`, `a1` hold the address `m`, enabled by bit 16. -/
def HoldsAddr (s : RegFile) (a0 a1 : U32) (m : MacAddr) : Prop :=
  decodeAddr (s.reg a0) (s.reg a1) = m ∧ (s.reg a1).getLsbD 16 = true

theorem packHi_bytes (m : MacAddr) :
    (packHi m).extractLsb' 0 8 = m.b4 ∧ (packHi m).extractLsb' 8 8 = m.b5 ∧
      (packHi m).getLsbD 16 = true := by
  refine ⟨?_, ?_, ?_⟩
  · apply BitVec.eq_of_getLsbD_eq
    intro i hi
    simp only [packHi, BitVec.getLsbD_extractLsb', BitVec.getLsbD_or, BitVec.getLsbD_shiftLeft,
      BitVec.getLsbD_setWidth, bit_getLsbD]
    interval_cases i <;> simp
  · apply BitVec.eq_of_getLsbD_eq
    intro i hi
    simp only [packHi, BitVec.getLsbD_extractLsb', BitVec.getLsbD_or, BitVec.getLsbD_shiftLeft,
      BitVec.getLsbD_setWidth, bit_getLsbD]
    interval_cases i <;> simp
  · simp [packHi, bit_getLsbD]

theorem decodeAddr_pack (m : MacAddr) : decodeAddr (packLo m) (packHi m) = m := by
  have hlo := toLe32_le32 m.b0 m.b1 m.b2 m.b3
  rw [← or_shift_eq_le32] at hlo
  simp only [toLe32, List.cons.injEq, and_true] at hlo
  obtain ⟨h4, h5, -⟩ := packHi_bytes m
  unfold decodeAddr packLo
  rw [hlo.1, hlo.2.1, hlo.2.2.1, hlo.2.2.2, h4, h5]

/-- Once the four registers hold what the driver packs, both pairs decode to the address. -/
theorem holdsAddr_of_holds {s : RegFile} {m : MacAddr} (h : Holds (apAddrOps m) s) :
    HoldsAddr s RMAC_OMA0R0 RMAC_OMA0R1 m ∧ HoldsAddr s RMAC_CB0R0 RMAC_CB0R1 m := by
  simp only [Holds, apAddrOps, ownMacSeq, List.cons_append, List.nil_append, List.mem_cons,
    List.not_mem_nil, or_false, forall_eq_or_imp, forall_eq] at h
  obtain ⟨h0, h1, h2, h3⟩ := h
  obtain ⟨-, -, he⟩ := packHi_bytes m
  unfold HoldsAddr
  rw [h0, h1, h2, h3]
  -- the Rust packing and the packing by hand are the same words
  exact ⟨⟨decodeAddr_pack m, he⟩, ⟨decodeAddr_pack m, he⟩⟩

/-! ## Callbacks -/

/-- mac80211 passes no other BSSID than the interface's own on an access point interface. -/
def Callback.BssidOk (vif : Vif) : Callback → Prop
  | .bssInfoChanged info _ => ∀ b, info.bind (·.bssid) = some b → b.isZero ∨ b = vif.addr
  | _ => True

/-- A register that is none of the four does not alias them. -/
theorem agrees_of_avoids {m : MacAddr} {l : List U32} {a v : U32}
    (hl : l.all (avoids apAddrs) = true) (ha : a ∈ l) : Agrees (apAddrOps m) a v := by
  intro op hop he
  have h := List.all_eq_true.1 (List.all_eq_true.1 hl a ha) op.addr (apAddrOps_addr hop)
  exact absurd he (by simpa using h)

/-- The four registers do not alias each other. -/
theorem apAddrOps_distinct (m : MacAddr) : Distinct (apAddrOps m) := by
  have h : (apAddrs.map physicalAddrMap).Pairwise (· ≠ ·) := by decide +kernel
  change ((apAddrOps m).map fun op => physicalAddrMap op.addr).Pairwise _ at h
  exact List.pairwise_map.1 h

/-- **No callback on an access point interface changes its address registers.** -/
theorem apAddr_agrees {vif : Vif} {cb : Callback} (hb : cb.BssidOk vif) {a v : U32}
    (h : cb.Writes vif a v) : Agrees (apAddrOps vif.addr) a v := by
  cases cb with
  | addInterface => exact agrees_of_mem (apAddrOps_distinct _) h
  | bssInfoChanged info changed =>
    rcases h with h | ⟨-, h⟩ | ⟨bssid, hi, hz, h⟩
    · exact agrees_of_avoids (by decide +kernel) h
    · exact agrees_of_mem (apAddrOps_distinct _) h
    · rcases hb bssid hi with h' | rfl
      · exact absurd h' hz
      · exact agrees_of_mem (apAddrOps_distinct _) (List.mem_append_right _ h)
  | config chandef changed =>
    exact agrees_of_avoids (by rw [Callback.addrs]; decide +kernel) (mem_addrs h)
  | configureFilter totalFlags flags =>
    exact agrees_of_avoids (by rw [Callback.addrs]; decide +kernel) (mem_addrs h)
  | staAdd sta => exact agrees_of_avoids (by decide +kernel) (wtblStaSeq_addr h.2)
  | staRemove sta => exact agrees_of_avoids (by rw [Callback.addrs]; decide +kernel) (mem_addrs h)
  | ampduAction params =>
    exact agrees_of_avoids (by rw [Callback.addrs]; decide +kernel) (mem_addrs h)
  | setKey cmd sta key =>
    have ha := mem_addrs h
    rw [Callback.addrs] at ha
    rcases keyWcid_cases sta key with hw | hw
    · rw [hw] at ha
      exact agrees_of_avoids (by decide +kernel) ha
    · rw [hw] at ha
      exact agrees_of_avoids (by decide +kernel) ha

/-! ## Runs -/

section
variable {reads : Prop}

theorem wp_writeBssid {a : MacAddr} {s : RegFile} {Q : Unit → RegFile → Prop} :
    wp (regEnv reads) (writeBssid a) s Q ↔
      Q () ((s.write RMAC_CB0R0 (packLo a)).write RMAC_CB0R1 (packHi a)) := by
  simp [writeBssid, wp_bind]

/-- `addInterface` programs both pairs. -/
theorem wp_addInterface_ap {vif : Vif} (hv : vif.type = .ap) (hz : ¬vif.addr.isZero) {dev : Dev}
    {s : RegFile} :
    wp (regEnv reads) (addInterface dev vif) s fun _ s' => Holds (apAddrOps vif.addr) s' := by
  unfold addInterface onlyIf
  simp only [hv, if_neg hz, reduceCtorEq, false_and, if_false, if_true, wp_bind, Prog.pure_eq,
    wp_ret, wp_writeBssid,
    wp_executeBuilt (fills_buildOwnMacSequence vif.addr) (Nat.le_of_ble_eq_true rfl : _ ≤ 32)]
  exact holds_apply (apAddrOps_distinct vif.addr)

/-- **The address registers after any sequence of callbacks** on an access point interface:
whatever the register reads answer, both pairs hold the interface's address. -/
theorem ap_addr_regs (vif : Vif) (hv : vif.type = .ap) (hz : ¬vif.addr.isZero)
    (cbs : List Callback) (hb : ∀ cb ∈ cbs, cb.BssidOk vif) (dev : Dev) (s : RegFile) :
    wp (regEnv False) (addInterface dev vif >>= runAll vif cbs) s fun _ s' =>
      HoldsAddr s' RMAC_OMA0R0 RMAC_OMA0R1 vif.addr ∧
        HoldsAddr s' RMAC_CB0R0 RMAC_CB0R1 vif.addr := by
  rw [wp_bind]
  refine wp_mono (wp_addInterface_ap hv hz) fun dev' s' hs => ?_
  refine wp_mono (runAll_inv hv (I := Holds (apAddrOps vif.addr)) ?_ hs) fun _ _ h =>
    holdsAddr_of_holds h
  intro cb hcb a v s'' hw
  exact holds_write (apAddr_agrees (hb cb hcb) hw)

/-- The BSS is announced with the interface's own BSSID, and a client joins and leaves. -/
theorem ap_addr_regs_client :
    wp (regEnv False) (addInterface Dev.zeroed ⟨0, .ap, ⟨2, 0, 0, 0, 0, 1⟩, none⟩ >>=
      runAll ⟨0, .ap, ⟨2, 0, 0, 0, 0, 1⟩, none⟩
        [.bssInfoChanged (some ⟨some ⟨2, 0, 0, 0, 0, 1⟩, some 6, true, 100, some 6⟩)
            (BSS_CHANGED_BSSID ||| BSS_CHANGED_BEACON_ENABLED),
          .staAdd ⟨2, 0, 0, 0, 0, 7⟩, .staRemove ⟨2, 0, 0, 0, 0, 7⟩]) (fun _ => 0) fun _ s' =>
      HoldsAddr s' RMAC_OMA0R0 RMAC_OMA0R1 ⟨2, 0, 0, 0, 0, 1⟩ ∧
        HoldsAddr s' RMAC_CB0R0 RMAC_CB0R1 ⟨2, 0, 0, 0, 0, 1⟩ := by
  refine ap_addr_regs ⟨0, .ap, ⟨2, 0, 0, 0, 0, 1⟩, none⟩ rfl (by decide) _ ?_ Dev.zeroed _
  intro cb hcb
  rcases List.mem_cons.1 hcb with rfl | hcb
  · rintro b ⟨⟩
    exact .inr rfl
  · rcases List.mem_pair.1 hcb with rfl | rfl <;> trivial

end

end Driver
