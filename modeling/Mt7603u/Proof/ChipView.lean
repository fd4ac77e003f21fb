import Mt7603u.Proof.BaFaults
import Mt7603u.Proof.Clients
import Mt7603u.Proof.KeySlots
import Mt7603u.Proof.Lifecycle

/-!
# What the chip takes the registers for

`Chip` is what the address registers and the two rows of the wireless table mean: the own address,
the BSSID, and for the group row and the peer row whether it is valid, for which address, with which
key and which BlockAck sessions. `Callback.chip` and `Action.chip` say what a call of mac80211 makes
of it, without registers. `chipOf` reads the meaning off the registers; here is what each group of
writes does to it.
-/

namespace Driver

open Effect Slice Word Rust

/-! ## Meaning -/

/-- A CCMP key in use. -/
structure Crypt where
  kid : BitVec 2
  /-- `rkv`: for received frames, too. -/
  rx : Bool
  key : List U8
  deriving DecidableEq

/-- A row of the wireless table. -/
structure Row where
  valid : Bool
  addr : MacAddr
  crypt : Option Crypt
  /-- The window of each TID with a session. -/
  sessions : Fin 8 → Option (BitVec 3)

structure Chip where
  own : Option MacAddr
  bssid : Option MacAddr
  group : Row
  peer : Row

/-- The address in a pair of registers, if it is enabled. -/
def addrOf (s : RegFile) (a0 a1 : U32) : Option MacAddr :=
  if (s.reg a1).getLsbD 16 then some (decodeAddr (s.reg a0) (s.reg a1)) else none

def cryptOf (s : RegFile) (wcid : U32) : Option Crypt :=
  if entryCipher s wcid = 4 then
    some ⟨entryKid s wcid, (entryDw0 s wcid).getLsbD 26, slotKey s wcid⟩
  else none

def sessionsOf (dw15 : U32) (tid : Fin 8) : Option (BitVec 3) :=
  if dw15.getLsbD (24 + tid) then some (dw15.extractLsb' (3 * tid) 3) else none

def rowOf (s : RegFile) (wcid : U32) : Row where
  valid := entryValid s wcid
  addr := entryAddr s wcid
  crypt := cryptOf s wcid
  sessions := sessionsOf (s.reg (wtbl2Dw15 (wcid.setWidth 8)))

def chipOf (s : RegFile) : Chip where
  own := addrOf s RMAC_OMA0R0 RMAC_OMA0R1
  bssid := addrOf s RMAC_CB0R0 RMAC_CB0R1
  group := rowOf s 0
  peer := rowOf s 1

/-! ## Calls -/

/-- The row of a WCID. -/
def Chip.updateRow (c : Chip) (wcid : U32) (f : Row → Row) : Chip :=
  if wcid = 0 then { c with group := f c.group } else { c with peer := f c.peer }

/-- The rows for a peer, both without a key. -/
def Chip.fillRows (c : Chip) (a : MacAddr) : Chip :=
  { c with
    group := { c.group with valid := true, addr := BCAST_ADDR, crypt := none }
    peer := { c.peer with valid := true, addr := a, crypt := none } }

/-- A new peer, without sessions. -/
def Chip.newPeer (c : Chip) (a : MacAddr) : Chip :=
  { c.fillRows a with peer := ⟨true, a, none, fun _ => none⟩ }

def Chip.dropPeer (c : Chip) : Chip :=
  { c with peer := { c.peer with valid := false, addr := ⟨0, 0, 0, 0, 0, 0⟩, crypt := none } }

def Row.setKey (r : Row) (rx : Bool) (key : KeyConf) : Row :=
  { r with valid := true, crypt := some ⟨key.keyidx.extractLsb' 0 2, rx, key.key.toList⟩ }

def Row.dropKey (r : Row) : Row := { r with crypt := none }

def Row.setSession (r : Row) (tid : Fin 8) (session : Option (BitVec 3)) : Row :=
  { r with sessions := Function.update r.sessions tid session }

/-- The BSSID is announced, or withdrawn. -/
def Chip.setBssid (c : Chip) (vif : Vif) (bssid : Option MacAddr) : Chip :=
  match bssid with
  | some b =>
    if b.isZero then if vif.type = .ap then c else { c with bssid := none }.dropPeer
    else if vif.type = .ap then { c with bssid := some b }
    else { c with bssid := some b }.newPeer b
  | none => if vif.type = .ap then c else { c with bssid := none }.dropPeer

/-- An access point's addresses. -/
def Chip.setAp (c : Chip) (vif : Vif) : Chip :=
  if vif.type = .ap ∧ ¬vif.addr.isZero then { c with own := some vif.addr, bssid := some vif.addr }
  else c

/-- What a BlockAck call asks for: the TID and its window, or none. -/
def AmpduParams.window (params : AmpduParams) : Option (Fin 8 × Option (BitVec 3)) :=
  match params.session with
  | some (baSize, enable) =>
    if h : params.baTid < 8 then
      some (⟨params.baTid.toNat, h⟩,
        if enable then some (BitVec.ofNat 3 (baRangeIdx baSize)) else none)
    else none
  | none => none

def Chip.ampdu (c : Chip) (params : AmpduParams) : Chip :=
  match params.window with
  | some (tid, session) =>
    c.updateRow (params.wcid.setWidth 32) fun r => r.setSession tid session
  | none => c

/-- The chip after a callback. -/
def Callback.chip (vif : Vif) (c : Chip) : Callback → Chip
  | .addInterface =>
    if vif.addr.isZero then c
    else if vif.type = .ap then { c with own := some vif.addr, bssid := some vif.addr }
    else { c with own := some vif.addr }
  | .bssInfoChanged info changed =>
    let c := if changed &&& BEACON_CHANGES ≠ 0 then c.setAp vif else c
    if changed &&& (BSS_CHANGED_BSSID ||| BSS_CHANGED_ASSOC) ≠ 0 then
      c.setBssid vif (info.bind (·.bssid))
    else c
  | .staAdd sta =>
    if sta.isZero then c
    else if vif.type = .ap then c.newPeer sta
    else { c with bssid := some sta }.newPeer sta
  | .staRemove _ => if vif.type = .ap then c.dropPeer else { c with bssid := none }.dropPeer
  | .ampduAction params => c.ampdu params
  | .setKey .setKey sta key =>
    if key.cipher = WLAN_CIPHER_SUITE_CCMP then
      c.updateRow (keyWcid sta key) fun r =>
        r.setKey (decide (keyWcid sta key ≠ 0 ∨ vif.type ≠ .ap)) key
    else c
  | .setKey .disableKey sta key => c.updateRow (keyWcid sta key) Row.dropKey
  | _ => c

/-- The chip after a start. -/
def Chip.started (c : Chip) (macAddr : MacAddr) : Chip :=
  { c with own := some macAddr }.fillRows BCAST_ADDR

/-- The chip after a call that leaves the device up or not. -/
def Action.chip (macAddr : MacAddr) (up : Bool) (c : Chip) : Action → Chip
  | .start => if up then c.started macAddr else c
  | .call vif cb => cb.chip vif c
  | _ => c

/-- The calls one after the other, from the host `h` and the registers `s` to `h'` and `s'`: what
the registers mean after a call is what the call makes of their meaning before, given whether the
device is up after it. -/
def ChipRun (macAddr : MacAddr) : List Action → Host → RegFile → Host → RegFile → Prop
  | [], h, s, h', s' => h' = h ∧ s' = s
  | a :: as, h, s, h', s' => ∃ h₁ s₁, Runs (regEnv True) (a.run h) s h₁ s₁ ∧
      chipOf s₁ = a.chip macAddr h₁.up (chipOf s) ∧ ChipRun macAddr as h₁ s₁ h' s'

/-! ## Registers of the meaning -/

/-- The registers of a row's peer and key. -/
def entryAddrs (wcid : U32) : List U32 :=
  [dw0Addr wcid, dw0Addr wcid + 0x04, dw2Addr wcid] ++ slotAddrs wcid

/-- The registers a row is read from. -/
def rowAddrs (wcid : U32) : List U32 := entryAddrs wcid ++ [wtbl2Dw15 (wcid.setWidth 8)]

def chipAddrs : List U32 := apAddrs ++ rowAddrs 0 ++ rowAddrs 1

section
variable {s s' : RegFile} {wcid : U32}

theorem addrOf_congr {a0 a1 : U32} (h : ∀ r ∈ [a0, a1], s'.reg r = s.reg r) :
    addrOf s' a0 a1 = addrOf s a0 a1 := by
  unfold addrOf
  rw [h a0 (by simp), h a1 (by simp)]

theorem rowOf_entry (h : ∀ r ∈ entryAddrs wcid, s'.reg r = s.reg r) :
    rowOf s' wcid =
      { rowOf s wcid with sessions := sessionsOf (s'.reg (wtbl2Dw15 (wcid.setWidth 8))) } := by
  have h0 : entryDw0 s' wcid = entryDw0 s wcid := h (dw0Addr wcid) (by simp [entryAddrs])
  have h1 : entryDw1 s' wcid = entryDw1 s wcid := h (dw0Addr wcid + 0x04) (by simp [entryAddrs])
  have h2 : entryDw2 s' wcid = entryDw2 s wcid := h (dw2Addr wcid) (by simp [entryAddrs])
  have hk : slotKey s' wcid = slotKey s wcid :=
    slotKey_congr fun a ha => h a (by simp [entryAddrs, ha])
  unfold rowOf cryptOf entryValid entryAddr entryKid entryCipher
  rw [h0, h1, h2, hk]

theorem rowOf_congr (h : ∀ r ∈ rowAddrs wcid, s'.reg r = s.reg r) :
    rowOf s' wcid = rowOf s wcid := by
  rw [rowOf_entry fun r hr => h r (List.mem_append_left _ hr),
    h (wtbl2Dw15 (wcid.setWidth 8)) (by simp [rowAddrs])]
  rfl

/-- The two addresses, where their registers agree. -/
theorem addresses_congr (h : ∀ r ∈ apAddrs, s'.reg r = s.reg r) :
    addrOf s' RMAC_OMA0R0 RMAC_OMA0R1 = addrOf s RMAC_OMA0R0 RMAC_OMA0R1 ∧
      addrOf s' RMAC_CB0R0 RMAC_CB0R1 = addrOf s RMAC_CB0R0 RMAC_CB0R1 :=
  ⟨addrOf_congr fun r hr => h r (List.mem_append_left [RMAC_CB0R0, RMAC_CB0R1] hr),
    addrOf_congr fun r hr => h r (List.mem_append_right [RMAC_OMA0R0, RMAC_OMA0R1] hr)⟩

theorem chipOf_congr (h : ∀ r ∈ chipAddrs, s'.reg r = s.reg r) : chipOf s' = chipOf s := by
  have hap : ∀ r ∈ apAddrs, s'.reg r = s.reg r := fun r hr => h r (by simp [chipAddrs, hr])
  obtain ⟨hown, hbss⟩ := addresses_congr hap
  have hgroup : rowOf s' 0 = rowOf s 0 := rowOf_congr fun r hr =>
    h r (List.mem_append_left _ (List.mem_append_right _ hr))
  have hpeer : rowOf s' 1 = rowOf s 1 := rowOf_congr fun r hr => h r (List.mem_append_right _ hr)
  simp only [chipOf, hown, hbss, hgroup, hpeer]

/-- Registers that the writes do not alias keep what they hold. -/
theorem reg_apply_avoids {ops : List RegWriteOp} {addrs l : List U32}
    (ha : ops.map (·.addr) = addrs) (h : addrs.all (avoids l) = true) :
    ∀ r ∈ l, (s.apply ops).reg r = s.reg r := by
  intro r hr
  refine reg_apply_other fun op hop => ?_
  have hmem : op.addr ∈ addrs := ha ▸ List.mem_map_of_mem (f := RegWriteOp.addr) hop
  have hop := List.all_eq_true.1 (List.all_eq_true.1 h op.addr hmem) r hr
  simpa using hop

/-- A pair that holds what the driver packs. -/
theorem addrOf_pack {a0 a1 : U32} {m : MacAddr} (h0 : s.reg a0 = packLo m)
    (h1 : s.reg a1 = packHi m) : addrOf s a0 a1 = some m := by
  obtain ⟨-, -, he⟩ := packHi_bytes m
  rw [addrOf, h0, h1, he, if_pos rfl, decodeAddr_pack]

theorem cryptOf_none (h : entryCipher s wcid ≠ 4) : cryptOf s wcid = none := if_neg h

end

/-! ## Writes -/

section
variable {s : RegFile}

theorem chipOf_ownMac (a : MacAddr) :
    chipOf (s.apply (ownMacSeq a)) = { chipOf s with own := some a } := by
  have ha : (ownMacSeq a).map (·.addr) = [RMAC_OMA0R0, RMAC_OMA0R1] := rfl
  have hown : addrOf (s.apply (ownMacSeq a)) RMAC_OMA0R0 RMAC_OMA0R1 = some a :=
    addrOf_pack (reg_apply_last 0 ha rfl rfl)
      (reg_apply_last 1 ha rfl rfl)
  have hbss : addrOf (s.apply (ownMacSeq a)) RMAC_CB0R0 RMAC_CB0R1 = _ :=
    addrOf_congr (reg_apply_avoids ha rfl)
  have hgroup : rowOf (s.apply (ownMacSeq a)) 0 = _ :=
    rowOf_congr (reg_apply_avoids ha rfl)
  have hpeer : rowOf (s.apply (ownMacSeq a)) 1 = _ :=
    rowOf_congr (reg_apply_avoids ha rfl)
  simp only [chipOf, hown, hbss, hgroup, hpeer]

/-- The registers of the BSSID, as they are written. -/
theorem chipOf_bssid {lo hi : U32} :
    chipOf ((s.write RMAC_CB0R0 lo).write RMAC_CB0R1 hi) =
      { chipOf s with bssid := if hi.getLsbD 16 then some (decodeAddr lo hi) else none } := by
  let ops : List RegWriteOp := [⟨RMAC_CB0R0, lo⟩, ⟨RMAC_CB0R1, hi⟩]
  change chipOf (s.apply ops) = _
  have ha : ops.map (·.addr) = [RMAC_CB0R0, RMAC_CB0R1] := rfl
  have h0 : (s.apply ops).reg RMAC_CB0R0 = lo := reg_apply_last 0 ha rfl rfl
  have h1 : (s.apply ops).reg RMAC_CB0R1 = hi := reg_apply_last 1 ha rfl rfl
  have hown : addrOf (s.apply ops) RMAC_OMA0R0 RMAC_OMA0R1 = _ :=
    addrOf_congr (reg_apply_avoids ha rfl)
  have hgroup : rowOf (s.apply ops) 0 = _ := rowOf_congr (reg_apply_avoids ha rfl)
  have hpeer : rowOf (s.apply ops) 1 = _ := rowOf_congr (reg_apply_avoids ha rfl)
  have hbss : addrOf (s.apply ops) RMAC_CB0R0 RMAC_CB0R1 =
      if hi.getLsbD 16 then some (decodeAddr lo hi) else none := by rw [addrOf, h0, h1]
  simp only [chipOf, hown, hgroup, hpeer, hbss]

theorem chipOf_setBssid (a : MacAddr) :
    chipOf ((s.write RMAC_CB0R0 (packLo a)).write RMAC_CB0R1 (packHi a)) =
      { chipOf s with bssid := some a } := by
  obtain ⟨-, -, he⟩ := packHi_bytes a
  rw [chipOf_bssid, he, if_pos rfl, decodeAddr_pack]

theorem chipOf_clearBssid :
    chipOf ((s.write RMAC_CB0R0 0).write RMAC_CB0R1 0) = { chipOf s with bssid := none } := by
  rw [chipOf_bssid]
  rfl

/-- Writes to the rows leave the addresses. -/
theorem chipOf_rows {s' : RegFile} (h : ∀ r ∈ apAddrs, s'.reg r = s.reg r) :
    chipOf s' = { chipOf s with group := rowOf s' 0, peer := rowOf s' 1 } := by
  obtain ⟨hown, hbss⟩ := addresses_congr h
  simp only [chipOf, hown, hbss]

theorem chipOf_wtblSta (a : MacAddr) :
    chipOf (s.apply (wtblStaSeq a)) = (chipOf s).fillRows a := by
  have ha : (wtblStaSeq a).map (·.addr) = peerAddrs.take 12 := rfl
  have hlast : ∀ i r v, (wtblStaSeq a)[i]? = some ⟨r, v⟩ →
      ((peerAddrs.take 12).drop (i + 1)).all (avoids [r]) = true →
      (s.apply (wtblStaSeq a)).reg r = v := fun i r v hi h => reg_apply_last i ha hi h
  have hkeep : ∀ l, (peerAddrs.take 12).all (avoids l) = true →
      ∀ r ∈ l, (s.apply (wtblStaSeq a)).reg r = s.reg r := fun l h => reg_apply_avoids ha h
  have hg0 : entryDw0 (s.apply (wtblStaSeq a)) 0 = dw0Mcast := hlast 0 _ _ rfl rfl
  have hg1 : entryDw1 (s.apply (wtblStaSeq a)) 0 = 0xFFFFFFFF :=
    hlast 1 _ _ rfl rfl
  have hg2 : entryDw2 (s.apply (wtblStaSeq a)) 0 = 0 := hlast 2 _ _ rfl rfl
  have hp0 : entryDw0 (s.apply (wtblStaSeq a)) 1 = dw0Ap a := hlast 3 _ _ rfl rfl
  have hp1 : entryDw1 (s.apply (wtblStaSeq a)) 1 = dw1Ap a := hlast 4 _ _ rfl rfl
  have hp2 : entryDw2 (s.apply (wtblStaSeq a)) 1 = dw2Ap := hlast 5 _ _ rfl rfl
  have hb := hkeep [wtbl2Dw15 0, wtbl2Dw15 1] rfl
  have hgroup : rowOf (s.apply (wtblStaSeq a)) 0 =
      { rowOf s 0 with valid := true, addr := BCAST_ADDR, crypt := none } := by
    rw [rowOf, cryptOf_none (by rw [entryCipher, hg2]; decide), entryValid, entryAddr, hg0, hg1,
      show ((0 : U32).setWidth 8) = 0 from rfl, hb (wtbl2Dw15 0) (by simp)]
    rfl
  have hpeer : rowOf (s.apply (wtblStaSeq a)) 1 =
      { rowOf s 1 with valid := true, addr := a, crypt := none } := by
    have hv : (dw0Ap a).getLsbD 28 = true := by simp [dw0Ap, bit_getLsbD]
    rw [rowOf, cryptOf_none (by rw [entryCipher, hp2]; decide), entryValid, entryAddr, hp0, hp1,
      hv, decodeAddr_dwAp, show ((1 : U32).setWidth 8) = 1 from rfl, hb (wtbl2Dw15 1) (by simp)]
    rfl
  rw [chipOf_rows (hkeep apAddrs rfl), hgroup, hpeer]
  rfl

theorem sessionsOf_zero : sessionsOf 0 = fun _ => none := by
  funext tid
  simp [sessionsOf]

/-- Writes to one row leave the other and the addresses. -/
theorem chipOf_row {s' : RegFile} {wcid : U32} (hw : wcid = 0 ∨ wcid = 1)
    (hap : ∀ r ∈ apAddrs, s'.reg r = s.reg r)
    (hother : ∀ w, w = 0 ∨ w = 1 → w ≠ wcid → ∀ r ∈ rowAddrs w, s'.reg r = s.reg r) :
    chipOf s' = (chipOf s).updateRow wcid fun _ => rowOf s' wcid := by
  rw [chipOf_rows hap]
  rcases hw with rfl | rfl
  · rw [rowOf_congr (hother 1 (.inr rfl) (by decide))]
    rfl
  · rw [rowOf_congr (hother 0 (.inl rfl) (by decide))]
    rfl

theorem chipOf_dw15 {wcid : U32} (hw : wcid = 0 ∨ wcid = 1) (v : U32) :
    chipOf (s.write (wtbl2Dw15 (wcid.setWidth 8)) v) =
      (chipOf s).updateRow wcid fun r => { r with sessions := sessionsOf v } := by
  have hkeep : ∀ l, avoids l (wtbl2Dw15 (wcid.setWidth 8)) = true → ∀ r ∈ l,
      (s.write (wtbl2Dw15 (wcid.setWidth 8)) v).reg r = s.reg r := by
    intro l h r hr
    exact reg_write_other (by simpa using List.all_eq_true.1 h r hr)
  rw [chipOf_row hw (hkeep _ ?_) fun w hw' hne => hkeep _ ?_]
  · have hrow : rowOf (s.write (wtbl2Dw15 (wcid.setWidth 8)) v) wcid =
        { rowOf s wcid with sessions := sessionsOf v } := by
      rw [rowOf_entry (hkeep _ ?_), reg_write_same]
      rcases hw with rfl | rfl <;> rfl
    rw [hrow]
    rcases hw with rfl | rfl <;> rfl
  · rcases hw with rfl | rfl <;> rfl
  · rcases hw with rfl | rfl <;> rcases hw' with rfl | rfl <;>
      first | exact absurd rfl hne | rfl

theorem chipOf_addPeer (a : MacAddr) : chipOf (addPeer a s) = (chipOf s).newPeer a := by
  have heq : addPeer a s = (s.apply (wtblStaSeq a)).write (wtbl2Dw15 ((1 : U32).setWidth 8)) 0 := by
    rw [addPeer, RegFile.apply, List.foldl_append]
    rfl
  rw [heq, chipOf_dw15 (.inr rfl), chipOf_wtblSta, sessionsOf_zero]
  rfl

theorem chipOf_clearPeer : chipOf (clearPeer s) = (chipOf s).dropPeer := by
  let ops : List RegWriteOp := [⟨0x28020, 0⟩, ⟨0x28024, 0⟩, ⟨0x28028, 0⟩]
  have heq : clearPeer s = s.apply ops := rfl
  have ha : ops.map (·.addr) = [0x28020, 0x28024, 0x28028] := rfl
  have hkeep : ∀ l, List.all [0x28020, 0x28024, 0x28028] (avoids l) = true →
      ∀ r ∈ l, (clearPeer s).reg r = s.reg r := fun l h => by
    rw [heq]
    exact reg_apply_avoids ha h
  obtain ⟨h0, h1⟩ := clearPeer_entry s
  have h2 : entryDw2 (clearPeer s) 1 = 0 := by
    rw [heq]
    exact reg_apply_last 2 ha rfl rfl
  have hrow : rowOf (clearPeer s) 1 =
      { rowOf s 1 with valid := false, addr := ⟨0, 0, 0, 0, 0, 0⟩, crypt := none } := by
    rw [rowOf, cryptOf_none (by rw [entryCipher, h2]; decide), entryValid, entryAddr, h0, h1,
      hkeep [wtbl2Dw15 ((1 : U32).setWidth 8)] rfl _ (by simp)]
    rfl
  rw [chipOf_row (.inr rfl) (hkeep apAddrs rfl), hrow]
  · rfl
  · rintro w (rfl | rfl) hne
    · exact hkeep _ rfl
    · exact absurd rfl hne

end

/-! ## Keys -/

section
variable {s : RegFile} {vif : Option Vif} {wcid : U32} {key : KeyConf}

/-- A key change leaves the registers of the addresses and of the other row. -/
theorem chipOf_keyChange {s' : RegFile} (hw : wcid = 0 ∨ wcid = 1)
    (h : ∀ p, (∀ b ∈ keyRegs wcid, p ≠ physicalAddrMap b) → s' p = s p) :
    chipOf s' = (chipOf s).updateRow wcid fun _ => rowOf s' wcid := by
  have hkeep : ∀ l, (keyRegs wcid).all (avoids l) = true → ∀ r ∈ l, s'.reg r = s.reg r := by
    intro l hl r hr
    refine h (physicalAddrMap r) fun b hb => ?_
    simpa using List.all_eq_true.1 (List.all_eq_true.1 hl b hb) r hr
  refine chipOf_row hw (hkeep _ ?_) fun w hw' hne => hkeep _ ?_
  · rcases hw with rfl | rfl <;> rfl
  · rcases hw with rfl | rfl <;> rcases hw' with rfl | rfl <;>
      first | exact absurd rfl hne | rfl

/-- What a key change makes of its row. -/
theorem rowOf_keyChange {s' : RegFile} {crypt : Option Crypt} (hw : wcid = 0 ∨ wcid = 1)
    (h : ∀ p, (∀ b ∈ keyRegs wcid, p ≠ physicalAddrMap b) → s' p = s p)
    (ha : (entryDw0 s' wcid).extractLsb' 0 16 = (entryDw0 s wcid).extractLsb' 0 16)
    (hc : cryptOf s' wcid = crypt) :
    rowOf s' wcid = { rowOf s wcid with valid := entryValid s' wcid, crypt } := by
  have hkeep : ∀ r, (keyRegs wcid).all (avoids [r]) = true → s'.reg r = s.reg r := by
    intro r hr
    refine h (physicalAddrMap r) fun b hb => ?_
    simpa [avoids] using List.all_eq_true.1 hr b hb
  have h1 : entryDw1 s' wcid = entryDw1 s wcid :=
    hkeep _ (by rcases hw with rfl | rfl <;> rfl)
  rw [rowOf, hc, entryAddr, h1, decodeAddr_congr ha,
    hkeep (wtbl2Dw15 (wcid.setWidth 8)) (by rcases hw with rfl | rfl <;> rfl)]
  rfl

theorem chipOf_installKey (hw : wcid = 0 ∨ wcid = 1) :
    chipOf (installKey vif wcid key s) = (chipOf s).updateRow wcid fun r =>
      r.setKey (decide (wcid ≠ 0 ∨ Vif.isAp vif = false)) key := by
  have hlt : wcid < 128 := by rcases hw with rfl | rfl <;> decide
  have hk := @keyInstalled_installKey vif wcid key s hw
  obtain ⟨h0, -, -⟩ := installKey_entry vif wcid hlt key s
  obtain ⟨hv, ha⟩ := setKeyDw0_peer wcid vif key.keyidx (entryDw0 s wcid)
  have hc : cryptOf (installKey vif wcid key s) wcid = some ⟨key.keyidx.extractLsb' 0 2,
      decide (wcid ≠ 0 ∨ Vif.isAp vif = false), key.key.toList⟩ := by
    have hrx : (entryDw0 (installKey vif wcid key s) wcid).getLsbD 26 =
        decide (wcid ≠ 0 ∨ Vif.isAp vif = false) := by
      rw [h0, setKeyDw0_getLsbD (by omega), if_neg (by omega), if_neg (by omega), if_pos rfl]
    rw [cryptOf, if_pos hk.cipher, hrx, entryKid, h0, setKeyDw0_kid, hk.words]
  rw [chipOf_keyChange hw hk.frame, rowOf_keyChange hw hk.frame (by rw [h0, ha]) hc, entryValid, h0,
    hv]
  rcases hw with rfl | rfl <;> rfl

theorem chipOf_removeKey (hw : wcid = 0 ∨ wcid = 1) :
    chipOf (removeKey wcid s) = (chipOf s).updateRow wcid Row.dropKey := by
  have hk := @keyRemoved_removeKey wcid s hw
  have hframe : ∀ p, (∀ b ∈ keyRegs wcid, p ≠ physicalAddrMap b) → removeKey wcid s p = s p :=
    fun p hp => hk.frame p (hp _ (by simp [keyRegs])) (hp _ (by simp [keyRegs]))
  obtain ⟨h0, -⟩ := @reg_removeKey wcid s hw
  obtain ⟨hv, ha⟩ := clearKeyDw0_peer (entryDw0 s wcid)
  have hc : cryptOf (removeKey wcid s) wcid = none :=
    cryptOf_none (by rw [hk.cipher]; decide)
  rw [chipOf_keyChange hw hframe, rowOf_keyChange hw hframe (by rw [h0, ha]) hc, entryValid, h0, hv]
  rcases hw with rfl | rfl <;> rfl

end

/-! ## Sessions -/

theorem sessionsOf_baDw15 {tid baSize : U8} {enable : Bool} {w : U32} (ht : tid < 8) :
    sessionsOf (baDw15 tid baSize enable w) = Function.update (sessionsOf w) ⟨tid.toNat, ht⟩
      (if enable then some (BitVec.ofNat 3 (baRangeIdx baSize)) else none) := by
  funext t
  rw [sessionsOf, baDw15_enable ht t.2, baDw15_window ht t.2, Function.update_apply]
  by_cases he : (t : Nat) = tid.toNat
  · rw [if_pos he, if_pos he, if_pos (Fin.ext he)]
    cases enable <;> rfl
  · rw [if_neg he, if_neg he, if_neg (fun h => he (congrArg Fin.val h))]
    rfl

end Driver
