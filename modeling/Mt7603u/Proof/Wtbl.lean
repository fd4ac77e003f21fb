import Mt7603u.Proof.ApAddress
import Mt7603u.Proof.RegMap

/-!
# The wireless table on an access point interface

What `staAdd`, `staRemove` and `setKey` do to the registers when all accesses succeed, as functions
of the register file (`addPeer`, `clearPeer`, `installKey`, `removeKey`), and how the words of the
tables are read back: registers of the tables alias only themselves (`reg_write_wtbl`).
-/

namespace Driver

open Effect Slice Word Rust

/-! ## Addresses -/

/-- The windows of WTBL1 and of WTBL2 to WTBL4. -/
def InWtbl (a : U32) : Prop := (0x28000 ≤ a ∧ a < 0x2C000) ∨ (0x40000 ≤ a ∧ a < 0x80000)

instance (a : U32) : Decidable (InWtbl a) := inferInstanceAs (Decidable (_ ∨ _))

theorem mapped_of_inWtbl {a : U32} (h : InWtbl a) : Mapped a := by
  rcases h with h | h
  · exact .inr (.inl ⟨(0x60320000, 0x28000, 0x4000), by decide, h⟩)
  · exact .inr (.inr (.inl h))

theorem physicalAddrMap_inj {a b : U32} (ha : InWtbl a) (hb : InWtbl b) :
    physicalAddrMap a = physicalAddrMap b ↔ a = b := by
  refine ⟨fun h => ?_, fun h => by rw [h]⟩
  exact physicalAddrMap_mapped_inj (mapped_of_inWtbl ha) (mapped_of_inWtbl hb) h

theorem reg_write_wtbl {s : RegFile} {a b v : U32} (ha : InWtbl a) (hb : InWtbl b) :
    (s.write a v).reg b = if b = a then v else s.reg b := by
  simp only [reg_write, physicalAddrMap_inj hb ha]

section
variable {s : RegFile} {a b : U32}

theorem reg_write_wtbl_other {v : U32} (ha : InWtbl a) (hb : InWtbl b) (h : b ≠ a) :
    (s.write a v).reg b = s.reg b := by
  rw [reg_write_wtbl ha hb, if_neg h]

theorem reg_apply_wtbl {ops : List RegWriteOp} (hb : InWtbl b)
    (h : ∀ op ∈ ops, InWtbl op.addr ∧ b ≠ op.addr) : (s.apply ops).reg b = s.reg b :=
  reg_apply_other fun op hop he =>
    (h op hop).2 ((physicalAddrMap_inj hb (h op hop).1).1 he)

end

/-! ## What the callbacks do to the file -/

/-- `staAdd`. -/
def addPeer (sta : MacAddr) (s : RegFile) : RegFile :=
  s.apply (wtblStaSeq sta ++ [⟨WTBL2_DW15_1, 0⟩])

/-- `staRemove`. -/
def clearPeer (s : RegFile) : RegFile :=
  ((s.write (WTBL1_BASE + WTBL1_ENTRY_SIZE) 0).write (WTBL1_BASE + WTBL1_ENTRY_SIZE + 0x04) 0).write
    (WTBL1_BASE + WTBL1_ENTRY_SIZE + 0x08) 0

/-- Read-modify-write of one register. -/
def RegFile.update (s : RegFile) (a : U32) (f : U32 → U32) : RegFile :=
  s.write a (f (s.reg a))

/-- `setKey` of a removed key. -/
def removeKey (wcid : U32) (s : RegFile) : RegFile :=
  (s.update (WTBL1_BASE + wcid * WTBL1_ENTRY_SIZE) clearKeyDw0).update
    (WTBL1_BASE + wcid * WTBL1_ENTRY_SIZE + 0x08) clearKeyDw2

/-- The key words and the packet number of a new key. -/
def keyOps (wcid : U32) (key : KeyConf) : List RegWriteOp :=
  [⟨WTBL3_KEY_BASE + wcid * WTBL3_ENTRY_SIZE, key.word 0⟩,
   ⟨WTBL3_KEY_BASE + wcid * WTBL3_ENTRY_SIZE + 4, key.word 1⟩,
   ⟨WTBL3_KEY_BASE + wcid * WTBL3_ENTRY_SIZE + 8, key.word 2⟩,
   ⟨WTBL3_KEY_BASE + wcid * WTBL3_ENTRY_SIZE + 12, key.word 3⟩,
   ⟨(0x00040000 : U32) + wcid * 64, 1⟩,
   ⟨(0x00040000 : U32) + wcid * 64 + 4, 0⟩]

/-- `setKey` of an installed key. -/
def installKey (vif : Option Vif) (wcid : U32) (key : KeyConf) (s : RegFile) : RegFile :=
  (((s.apply (keyOps wcid key)).update (WTBL1_BASE + wcid * WTBL1_ENTRY_SIZE)
    (setKeyDw0 wcid vif key.keyidx)).update (WTBL1_BASE + wcid * WTBL1_ENTRY_SIZE + 0x08)
    setKeyDw2).apply [⟨WTBL1OR, 0x80000000⟩, ⟨WTBL1OR, 0x00000000⟩]

section
variable {reads : Prop} {vif : Vif} {dev : Dev} {s : RegFile}

@[simp] theorem wp_updateReg {addr : U32} {f : U32 → U32} {Q : Unit → RegFile → Prop} :
    wp (regEnv True) (updateReg addr f) s Q ↔ Q () (s.update addr f) := by
  simp [updateReg, wp_bind, RegFile.update]

theorem wp_programPeer {a : MacAddr} {Q : Unit → RegFile → Prop} :
    wp (regEnv reads) (programPeer a) s Q ↔ Q () (addPeer a s) := by
  unfold programPeer
  rw [rustCall_of_fills (fills_buildWtblStaSequence a) (Nat.le_of_ble_eq_true rfl)]
  dsimp only
  rw [if_pos (by simp [wtblStaSeq])]
  simp [wp_bind, addPeer, RegFile.apply]

theorem wp_staAdd_ap (hv : vif.type = .ap) {sta : MacAddr} (hz : ¬sta.isZero)
    {Q : Dev → RegFile → Prop} :
    wp (regEnv reads) (staAdd dev (some vif) sta) s Q ↔ Q dev (addPeer sta s) := by
  simp [staAdd, onlyIf, Vif.isAp, hv, hz, wp_bind, wp_programPeer]

theorem wp_setKey_remove {vif : Option Vif} {sta : Option MacAddr} {key : KeyConf}
    {Q : Int → RegFile → Prop} :
    wp (regEnv True) (setKey .disableKey vif sta key) s Q ↔
      Q 0 (removeKey (keyWcid sta key) s) := by
  simp [setKey, wp_bind, removeKey]

theorem wp_setKey_install {vif : Option Vif} {sta : Option MacAddr} {key : KeyConf}
    (hk : key.cipher = WLAN_CIPHER_SUITE_CCMP) {Q : Int → RegFile → Prop} :
    wp (regEnv True) (setKey .setKey vif sta key) s Q ↔
      Q 0 (installKey vif (keyWcid sta key) key s) := by
  simp [setKey, hk, wp_bind, installKey, keyOps]

end

/-! ## Reading the tables -/

/-- The words of WTBL1 entry `wcid` the callbacks use. -/
def entryDw0 (s : RegFile) (wcid : U32) : U32 := s.reg (WTBL1_BASE + wcid * WTBL1_ENTRY_SIZE)
def entryDw1 (s : RegFile) (wcid : U32) : U32 := s.reg (WTBL1_BASE + wcid * WTBL1_ENTRY_SIZE + 0x04)
def entryDw2 (s : RegFile) (wcid : U32) : U32 := s.reg (WTBL1_BASE + wcid * WTBL1_ENTRY_SIZE + 0x08)

/-- `rv`: the entry is valid. -/
def entryValid (s : RegFile) (wcid : U32) : Bool := (entryDw0 s wcid).getLsbD 28

/-- The peer's address. -/
def entryAddr (s : RegFile) (wcid : U32) : MacAddr := decodeAddr (entryDw1 s wcid) (entryDw0 s wcid)

/-- `kid`: the key index. -/
def entryKid (s : RegFile) (wcid : U32) : BitVec 2 := (entryDw0 s wcid).extractLsb' 23 2

/-- `cipher_suit`. -/
def entryCipher (s : RegFile) (wcid : U32) : BitVec 4 := (entryDw2 s wcid).extractLsb' 3 4

/-- `adm`: the peer is admitted. -/
def entryAdm (s : RegFile) (wcid : U32) : Bool := (entryDw2 s wcid).getLsbD 30

/-- The registers of WTBL3 slot `wcid`. -/
def slotAddrs (wcid : U32) : List U32 :=
  let base := WTBL3_KEY_BASE + wcid * WTBL3_ENTRY_SIZE
  [base, base + 4, base + 8, base + 12]

/-- The 16 bytes of the key in WTBL3 slot `wcid`. -/
def slotKey (s : RegFile) (wcid : U32) : List U8 :=
  (slotAddrs wcid).flatMap fun a => toLe32 (s.reg a)

theorem slotKey_congr {s s' : RegFile} {wcid : U32}
    (h : ∀ a ∈ slotAddrs wcid, s'.reg a = s.reg a) : slotKey s' wcid = slotKey s wcid :=
  List.flatMap_congr fun a ha => by rw [h a ha]

section
variable {wcid dw : U32} {vif : Option Vif} {keyidx : U8} {i : Nat}

/-- DW0 of an installed key, bit by bit. -/
theorem setKeyDw0_getLsbD (hi : i < 32) :
    (setKeyDw0 wcid vif keyidx dw).getLsbD i =
      if i = 22 ∨ i = 25 ∨ i = 28 then true
      else if i = 23 ∨ i = 24 then keyidx.getLsbD (i - 23)
      else if i = 26 then decide (wcid ≠ 0 ∨ Vif.isAp vif = false)
      else dw.getLsbD i := by
  unfold setKeyDw0
  dsimp only
  by_cases h : wcid ≠ 0 ∨ Vif.isAp vif = false
  · rw [if_pos (by simpa using h)]
    simp only [BitVec.getLsbD_or, BitVec.getLsbD_and, BitVec.getLsbD_not,
      BitVec.getLsbD_shiftLeft, BitVec.getLsbD_setWidth, bit_getLsbD, h]
    interval_cases i <;> simp
  · rw [if_neg (by simpa using h)]
    simp only [BitVec.getLsbD_or, BitVec.getLsbD_and, BitVec.getLsbD_not,
      BitVec.getLsbD_shiftLeft, BitVec.getLsbD_setWidth, bit_getLsbD, h]
    interval_cases i <;> simp

/-- DW2 of an installed key. -/
theorem setKeyDw2_getLsbD (hi : i < 32) :
    (setKeyDw2 dw).getLsbD i =
      if i = 5 ∨ i = 30 then true else if 3 ≤ i ∧ i < 7 then false else dw.getLsbD i := by
  simp only [setKeyDw2, BitVec.getLsbD_or, BitVec.getLsbD_and, BitVec.getLsbD_not,
    BitVec.getLsbD_shiftLeft, bit_getLsbD]
  interval_cases i <;> simp

/-- DW0 of a removed key. -/
theorem clearKeyDw0_getLsbD (hi : i < 32) :
    (clearKeyDw0 dw).getLsbD i =
      if i = 23 ∨ i = 24 ∨ i = 26 then false else dw.getLsbD i := by
  simp only [clearKeyDw0, BitVec.getLsbD_or, BitVec.getLsbD_and, BitVec.getLsbD_not,
    BitVec.getLsbD_shiftLeft, bit_getLsbD]
  interval_cases i <;> simp

/-- DW2 of a removed key. -/
theorem clearKeyDw2_getLsbD (hi : i < 32) :
    (clearKeyDw2 dw).getLsbD i = if 3 ≤ i ∧ i < 7 then false else dw.getLsbD i := by
  simp only [clearKeyDw2, BitVec.getLsbD_and, BitVec.getLsbD_not]
  interval_cases i <;> simp

end

theorem setKeyDw2_cipher (dw : U32) : (setKeyDw2 dw).extractLsb' 3 4 = 4 := by
  apply BitVec.eq_of_getLsbD_eq
  intro i hi
  rw [BitVec.getLsbD_extractLsb', setKeyDw2_getLsbD (by omega)]
  interval_cases i <;> simp

theorem setKeyDw2_adm (dw : U32) : (setKeyDw2 dw).getLsbD 30 = true := by
  rw [setKeyDw2_getLsbD (by omega)]
  rfl

theorem setKeyDw0_kid (wcid : U32) (vif : Option Vif) (keyidx : U8) (dw : U32) :
    (setKeyDw0 wcid vif keyidx dw).extractLsb' 23 2 = keyidx.extractLsb' 0 2 := by
  apply BitVec.eq_of_getLsbD_eq
  intro i hi
  rw [BitVec.getLsbD_extractLsb', setKeyDw0_getLsbD (by omega), BitVec.getLsbD_extractLsb']
  interval_cases i <;> simp

theorem kid_setWidth (keyidx : U8) : (keyidx.extractLsb' 0 2).setWidth 8 = keyidx &&& 3 := by
  apply BitVec.eq_of_getLsbD_eq
  intro i hi
  simp only [BitVec.getLsbD_setWidth, BitVec.getLsbD_extractLsb', BitVec.getLsbD_and]
  interval_cases i <;> simp

/-! ## The callbacks on the tables -/

theorem keyOps_window {wcid : U32} (hw : wcid < 128) {key : KeyConf} {op : RegWriteOp}
    (h : op ∈ keyOps wcid key) : 0x40000 ≤ op.addr ∧ op.addr < 0x80000 := by
  simp only [keyOps, WTBL3_KEY_BASE, WTBL3_ENTRY_SIZE, List.mem_cons, List.not_mem_nil,
    or_false] at h
  rcases h with rfl | rfl | rfl | rfl | rfl | rfl <;> dsimp only <;> bv_omega

/-- The words of an installed key's entry. -/
theorem installKey_entry (vif : Option Vif) (wcid : U32) (hw : wcid < 128) (key : KeyConf)
    (s : RegFile) :
    entryDw0 (installKey vif wcid key s) wcid = setKeyDw0 wcid vif key.keyidx (entryDw0 s wcid) ∧
    entryDw1 (installKey vif wcid key s) wcid = entryDw1 s wcid ∧
      entryDw2 (installKey vif wcid key s) wcid = setKeyDw2 (entryDw2 s wcid) := by
  have h0 : WTBL1_BASE + wcid * WTBL1_ENTRY_SIZE < 0x29000 ∧
      0x28000 ≤ WTBL1_BASE + wcid * WTBL1_ENTRY_SIZE := by
    unfold WTBL1_BASE WTBL1_ENTRY_SIZE
    bv_omega
  have hk : ∀ b : U32, 0x28000 ≤ b ∧ b < 0x2C000 → (s.apply (keyOps wcid key)).reg b = s.reg b := by
    intro b hb
    refine reg_apply_wtbl (.inl hb) fun op hop => ?_
    have := keyOps_window hw hop
    exact ⟨.inr this, by bv_omega⟩
  unfold entryDw0 entryDw1 entryDw2 installKey RegFile.update
  generalize WTBL1_BASE + wcid * WTBL1_ENTRY_SIZE = e at h0 ⊢
  have he : InWtbl e := .inl (by bv_omega)
  have he4 : InWtbl (e + 4) := .inl (by bv_omega)
  have he8 : InWtbl (e + 8) := .inl (by bv_omega)
  have ho : InWtbl WTBL1OR := by decide
  -- the flush register is behind every entry
  have hor : WTBL1OR = 0x2A300 := rfl
  simp only [apply_cons, apply_nil]
  refine ⟨?_, ?_, ?_⟩
  · rw [reg_write_wtbl_other ho he (by bv_omega), reg_write_wtbl_other ho he (by bv_omega),
      reg_write_wtbl_other he8 he (by bv_omega), reg_write_same, hk e (by bv_omega)]
  · rw [reg_write_wtbl_other ho he4 (by bv_omega), reg_write_wtbl_other ho he4 (by bv_omega),
      reg_write_wtbl_other he8 he4 (by bv_omega), reg_write_wtbl_other he he4 (by bv_omega),
      hk (e + 4) (by bv_omega)]
  · rw [reg_write_wtbl_other ho he8 (by bv_omega), reg_write_wtbl_other ho he8 (by bv_omega),
      reg_write_same, reg_write_wtbl_other he he8 (by bv_omega), hk (e + 8) (by bv_omega)]

/-- The last write to a register is what it holds. -/
theorem reg_apply_last {s : RegFile} {ops : List RegWriteOp} {addrs : List U32} (i : Nat)
    {a v : U32} (ha : ops.map (·.addr) = addrs) (hi : ops[i]? = some ⟨a, v⟩)
    (h : (addrs.drop (i + 1)).all (avoids [a]) = true) : (s.apply ops).reg a = v := by
  obtain ⟨hlt, he⟩ := List.getElem?_eq_some_iff.1 hi
  have hsplit : ops = ops.take i ++ ⟨a, v⟩ :: ops.drop (i + 1) := by
    rw [← he, List.getElem_cons_drop, List.take_append_drop]
  rw [hsplit, RegFile.apply, List.foldl_append, List.foldl_cons]
  change (RegFile.apply _ _).reg a = v
  rw [reg_apply_other]
  · exact reg_write_same
  · intro op hop
    rw [← ha, ← List.map_drop, List.all_map] at h
    have := List.all_eq_true.1 h op hop
    simpa [avoids] using this

theorem addPeer_addrs (a : MacAddr) :
    List.map (·.addr) (wtblStaSeq a ++ [⟨WTBL2_DW15_1, 0⟩]) = peerAddrs := rfl

theorem addPeer_entry (a : MacAddr) (s : RegFile) :
    entryDw2 (addPeer a s) 0 = 0 ∧ entryDw0 (addPeer a s) 1 = dw0Ap a ∧
      entryDw1 (addPeer a s) 1 = dw1Ap a := by
  refine ⟨?_, ?_, ?_⟩
  · exact reg_apply_last 2 (addPeer_addrs a) rfl (by decide +kernel)
  · exact reg_apply_last 3 (addPeer_addrs a) rfl (by decide +kernel)
  · exact reg_apply_last 4 (addPeer_addrs a) rfl (by decide +kernel)

theorem clearPeer_entry (s : RegFile) :
    entryDw0 (clearPeer s) 1 = 0 ∧ entryDw1 (clearPeer s) 1 = 0 := by
  unfold entryDw0 entryDw1 clearPeer
  simp (disch := decide) only [reg_write_wtbl]
  exact ⟨rfl, rfl⟩

/-- The four words of a key are its bytes. -/
theorem word_bytes (key : KeyConf) :
    toLe32 (key.word 0) ++ toLe32 (key.word 1) ++ toLe32 (key.word 2) ++ toLe32 (key.word 3) =
      key.key.toList := by
  unfold KeyConf.word
  simp only [or_shift_eq_le32, toLe32_le32]
  apply List.ext_getElem
  · simp
  · intro i h1 h2
    have : i < 16 := by simpa using h2
    interval_cases i <;> simp [Vector.getD]

theorem installKey_slot (vif : Option Vif) (key : KeyConf) (s : RegFile) :
    slotKey (installKey vif 1 key s) 1 = key.key.toList := by
  have hl : (keyOps 1 key).map (·.addr) =
      [0x42040, 0x42044, 0x42048, 0x4204C, 0x40040, 0x40044] := rfl
  have h0 : (s.apply (keyOps 1 key)).reg 0x42040 = key.word 0 :=
    reg_apply_last 0 hl rfl (by decide +kernel)
  have h1 : (s.apply (keyOps 1 key)).reg 0x42044 = key.word 1 :=
    reg_apply_last 1 hl rfl (by decide +kernel)
  have h2 : (s.apply (keyOps 1 key)).reg 0x42048 = key.word 2 :=
    reg_apply_last 2 hl rfl (by decide +kernel)
  have h3 : (s.apply (keyOps 1 key)).reg 0x4204C = key.word 3 :=
    reg_apply_last 3 hl rfl (by decide +kernel)
  have hs : slotAddrs 1 = [0x42040, 0x42044, 0x42048, 0x4204C] := by decide
  unfold installKey RegFile.update slotKey
  rw [hs]
  simp (disch := decide) only [List.flatMap_cons, List.flatMap_nil, apply_cons, apply_nil,
    reg_write_wtbl_other, h0, h1, h2, h3]
  simpa [List.append_assoc] using word_bytes key

end Driver
