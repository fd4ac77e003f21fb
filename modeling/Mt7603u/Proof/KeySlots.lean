import Mt7603u.Proof.Clients

/-!
# The fields a key call changes

With register accesses succeeding, `set_key` is a function of the register file. This module says
what it does to every bit of the words it touches (`KeyInstalled`, `KeyRemoved`), that it touches
nothing else (`installKey_frame`, `removeKey_frame`), and that calls on one slot do not see those on
the other: after any sequence of calls each slot is as if the others had not been made
(`keyRun_slot`).
-/

namespace Driver

open Effect Slice Word Rust

/-! ## Registers -/

/-- WTBL1 DW0 and DW2 of a WCID. -/
def dw0Addr (wcid : U32) : U32 := WTBL1_BASE + wcid * WTBL1_ENTRY_SIZE
def dw2Addr (wcid : U32) : U32 := WTBL1_BASE + wcid * WTBL1_ENTRY_SIZE + 0x08

/-- The packet number of a WCID: WTBL2 DW0 and DW1. -/
def pnAddr (wcid : U32) : U32 := 0x00040000 + wcid * 64

/-- What an installation writes. -/
def keyRegs (wcid : U32) : List U32 :=
  slotAddrs wcid ++ [pnAddr wcid, pnAddr wcid + 4, dw0Addr wcid, dw2Addr wcid, WTBL1OR]

/-- The registers of a WCID in the tables 1, 2 and 3. -/
def OfWcid (w a : U32) : Prop :=
  (WTBL1_BASE + w * WTBL1_ENTRY_SIZE ≤ a ∧
    a < WTBL1_BASE + w * WTBL1_ENTRY_SIZE + WTBL1_ENTRY_SIZE) ∨
  (0x00040000 + w * 64 ≤ a ∧ a < 0x00040000 + w * 64 + 64) ∨
  (WTBL3_KEY_BASE + w * WTBL3_ENTRY_SIZE ≤ a ∧
    a < WTBL3_KEY_BASE + w * WTBL3_ENTRY_SIZE + WTBL3_ENTRY_SIZE)

section
variable {w wcid a : U32}

theorem inWtbl_of_ofWcid (hw : w < 128) (h : OfWcid w a) : InWtbl a := by
  unfold OfWcid WTBL1_BASE WTBL1_ENTRY_SIZE WTBL3_KEY_BASE WTBL3_ENTRY_SIZE at h
  rcases h with h | h | h
  · exact .inl (by bv_omega)
  · exact .inr (by bv_omega)
  · exact .inr (by bv_omega)

theorem inWtbl_keyRegs (hw : wcid = 0 ∨ wcid = 1) (ha : a ∈ keyRegs wcid) : InWtbl a := by
  have h : (keyRegs wcid).all (fun a => decide (InWtbl a)) = true := by
    rcases hw with rfl | rfl <;> decide +kernel
  exact of_decide_eq_true (List.all_eq_true.1 h a ha)

/-- The registers of another WCID are not touched. -/
theorem not_keyRegs_of_ofWcid (hw : w < 128) (hk : wcid = 0 ∨ wcid = 1) (hne : w ≠ wcid)
    (h : OfWcid w a) : a ∉ keyRegs wcid := by
  intro ha
  unfold OfWcid WTBL1_BASE WTBL1_ENTRY_SIZE WTBL3_KEY_BASE WTBL3_ENTRY_SIZE at h
  simp only [keyRegs, slotAddrs, pnAddr, dw0Addr, dw2Addr, WTBL1OR, WTBL1_BASE, WTBL1_ENTRY_SIZE,
    WTBL3_KEY_BASE, WTBL3_ENTRY_SIZE, List.cons_append, List.nil_append, List.mem_cons,
    List.not_mem_nil, or_false] at ha
  rcases hk with rfl | rfl <;>
    rcases ha with rfl | rfl | rfl | rfl | rfl | rfl | rfl | rfl | rfl <;> bv_omega

/-- A table register that is not written stands for no other address. -/
theorem apart_keyRegs (hk : wcid = 0 ∨ wcid = 1) (ha : InWtbl a) (hn : a ∉ keyRegs wcid) :
    ∀ b ∈ keyRegs wcid, physicalAddrMap a ≠ physicalAddrMap b := by
  intro b hb he
  rw [(physicalAddrMap_inj ha (inWtbl_keyRegs hk hb)).1 he] at hn
  exact hn hb

end

/-! ## Installing and removing -/

section
variable {vif : Option Vif} {wcid : U32} {key : KeyConf} {s : RegFile}

theorem installKey_eq :
    installKey vif wcid key s =
      ((((s.apply (keyOps wcid key)).update (dw0Addr wcid) (setKeyDw0 wcid vif key.keyidx)).update
        (dw2Addr wcid) setKeyDw2).write WTBL1OR 0x80000000).write WTBL1OR 0x00000000 := rfl

theorem removeKey_eq :
    removeKey wcid s =
      (s.update (dw0Addr wcid) clearKeyDw0).update (dw2Addr wcid) clearKeyDw2 := rfl

/-- **An installation writes nothing else.** -/
theorem installKey_frame {p : U32} (h : ∀ b ∈ keyRegs wcid, p ≠ physicalAddrMap b) :
    installKey vif wcid key s p = s p := by
  have hkey : ∀ op ∈ keyOps wcid key, p ≠ physicalAddrMap op.addr := by
    intro op hop
    refine h op.addr ?_
    have hm : op.addr ∈ (keyOps wcid key).map RegWriteOp.addr := List.mem_map_of_mem hop
    exact List.mem_append_left [dw0Addr wcid, dw2Addr wcid, WTBL1OR] hm
  have hor : p ≠ physicalAddrMap WTBL1OR := h _ (by simp [keyRegs])
  rw [installKey_eq, write_other hor, write_other hor, RegFile.update,
    write_other (h _ (by simp [keyRegs])), RegFile.update, write_other (h _ (by simp [keyRegs])),
    apply_other hkey]

theorem removeKey_frame {p : U32} (h0 : p ≠ physicalAddrMap (dw0Addr wcid))
    (h2 : p ≠ physicalAddrMap (dw2Addr wcid)) : removeKey wcid s p = s p := by
  rw [removeKey_eq, RegFile.update, write_other h2, RegFile.update, write_other h0]

theorem distinct_keyOps (hw : wcid = 0 ∨ wcid = 1) : Distinct (keyOps wcid key) := by
  have h : ((slotAddrs wcid ++ [pnAddr wcid, pnAddr wcid + 4]).map physicalAddrMap).Nodup := by
    rcases hw with rfl | rfl <;> decide +kernel
  have hmap : (keyOps wcid key).map (fun op => physicalAddrMap op.addr) =
      (slotAddrs wcid ++ [pnAddr wcid, pnAddr wcid + 4]).map physicalAddrMap := rfl
  rw [← hmap] at h
  exact List.pairwise_map.1 h

/-- The entry and the flush register are not in the tables of keys and packet numbers. -/
theorem apart_keyOps (hw : wcid = 0 ∨ wcid = 1) {op : RegWriteOp} (hop : op ∈ keyOps wcid key) :
    ∀ b ∈ [dw0Addr wcid, dw2Addr wcid, WTBL1OR], physicalAddrMap op.addr ≠ physicalAddrMap b := by
  have hin : 0x40000 ≤ op.addr ∧ op.addr < 0x80000 :=
    keyOps_window (by rcases hw with rfl | rfl <;> decide) hop
  have hlow : [dw0Addr wcid, dw2Addr wcid, WTBL1OR].all (fun b => decide (b < 0x40000)) = true := by
    rcases hw with rfl | rfl <;> decide
  intro b hb he
  have hb' : b < 0x40000 := of_decide_eq_true (List.all_eq_true.1 hlow b hb)
  have hreg : InWtbl b := inWtbl_keyRegs hw (List.mem_append_right _ (List.mem_cons_of_mem _
    (List.mem_cons_of_mem _ hb)))
  obtain rfl := (physicalAddrMap_inj (.inr hin) hreg).1 he
  exact BitVec.not_le.2 hb' hin.1

/-- The key and its packet number are in their tables. -/
theorem holds_installKey (hw : wcid = 0 ∨ wcid = 1) :
    Holds (keyOps wcid key) (installKey vif wcid key s) := by
  intro op hop
  have hne := apart_keyOps hw hop
  have hor := hne WTBL1OR (by simp)
  rw [installKey_eq, reg_write_other hor, reg_write_other hor, RegFile.update,
    reg_write_other (hne (dw2Addr wcid) (by simp)), RegFile.update,
    reg_write_other (hne (dw0Addr wcid) (by simp))]
  exact holds_apply (distinct_keyOps hw) op hop

theorem reg_installKey_flush : (installKey vif wcid key s).reg WTBL1OR = 0 := reg_write_same

theorem reg_removeKey (hw : wcid = 0 ∨ wcid = 1) :
    entryDw0 (removeKey wcid s) wcid = clearKeyDw0 (entryDw0 s wcid) ∧
      entryDw2 (removeKey wcid s) wcid = clearKeyDw2 (entryDw2 s wcid) := by
  unfold entryDw0 entryDw2 removeKey RegFile.update
  rcases hw with rfl | rfl <;>
    exact ⟨by simp (disch := decide) only [reg_write_wtbl_other, reg_write_same],
      by simp (disch := decide) only [reg_write_wtbl_other, reg_write_same]⟩

end

/-- A slot holds a key iff its four words do. -/
theorem slotKey_iff {wcid : U32} {key : KeyConf} {s : RegFile} :
    slotKey s wcid = key.key.toList ↔
      s.reg (WTBL3_KEY_BASE + wcid * WTBL3_ENTRY_SIZE) = key.word 0 ∧
      s.reg (WTBL3_KEY_BASE + wcid * WTBL3_ENTRY_SIZE + 4) = key.word 1 ∧
      s.reg (WTBL3_KEY_BASE + wcid * WTBL3_ENTRY_SIZE + 8) = key.word 2 ∧
      s.reg (WTBL3_KEY_BASE + wcid * WTBL3_ENTRY_SIZE + 12) = key.word 3 := by
  rw [← word_bytes, slotKey, slotAddrs]
  simp only [List.flatMap_cons, List.flatMap_nil, List.append_nil, List.append_assoc]
  rw [toLe32_append_inj, toLe32_append_inj, toLe32_append_inj, toLe32_inj]

/-! ## The fields -/

/-- The registers after a key was installed, and what is as before. -/
structure KeyInstalled (vif : Option Vif) (wcid : U32) (key : KeyConf) (s s' : RegFile) : Prop where
  words : slotKey s' wcid = key.key.toList
  pn : s'.reg (pnAddr wcid) = 1 ∧ s'.reg (pnAddr wcid + 4) = 0
  rv : (entryDw0 s' wcid).getLsbD 28 = true
  rcA1 : (entryDw0 s' wcid).getLsbD 22 = true
  rcId : (entryDw0 s' wcid).getLsbD 25 = true
  kid : (entryKid s' wcid).setWidth 8 = key.keyidx &&& 3
  rkv : (entryDw0 s' wcid).getLsbD 26 = !(decide (wcid = 0) && Vif.isAp vif)
  dw0 : ∀ i < 32, i ∉ [22, 23, 24, 25, 26, 28] →
    (entryDw0 s' wcid).getLsbD i = (entryDw0 s wcid).getLsbD i
  cipher : entryCipher s' wcid = 4
  adm : entryAdm s' wcid = true
  dw2 : ∀ i < 32, i ∉ [3, 4, 5, 6, 30] →
    (entryDw2 s' wcid).getLsbD i = (entryDw2 s wcid).getLsbD i
  flush : s'.reg WTBL1OR = 0
  others : ∀ w < 128, w ≠ wcid → ∀ a, OfWcid w a → s'.reg a = s.reg a
  frame : ∀ p, (∀ b ∈ keyRegs wcid, p ≠ physicalAddrMap b) → s' p = s p

/-- The registers after a key was removed, and what is as before. -/
structure KeyRemoved (wcid : U32) (s s' : RegFile) : Prop where
  rkv : (entryDw0 s' wcid).getLsbD 26 = false
  kid : entryKid s' wcid = 0
  dw0 : ∀ i < 32, i ∉ [23, 24, 26] →
    (entryDw0 s' wcid).getLsbD i = (entryDw0 s wcid).getLsbD i
  cipher : entryCipher s' wcid = 0
  dw2 : ∀ i < 32, i ∉ [3, 4, 5, 6] →
    (entryDw2 s' wcid).getLsbD i = (entryDw2 s wcid).getLsbD i
  frame : ∀ p, p ≠ physicalAddrMap (dw0Addr wcid) → p ≠ physicalAddrMap (dw2Addr wcid) → s' p = s p

section
variable {vif : Option Vif} {wcid : U32} {key : KeyConf} {s : RegFile}

/-- The registers of another WCID keep what they hold. -/
theorem reg_installKey_other {w a : U32} (hk : wcid = 0 ∨ wcid = 1) (hw : w < 128) (hne : w ≠ wcid)
    (h : OfWcid w a) : (installKey vif wcid key s).reg a = s.reg a := by
  have hn := not_keyRegs_of_ofWcid hw hk hne h
  exact installKey_frame (apart_keyRegs hk (inWtbl_of_ofWcid hw h) hn)

theorem keyInstalled_installKey (hk : wcid = 0 ∨ wcid = 1) :
    KeyInstalled vif wcid key s (installKey vif wcid key s) := by
  have hw : wcid < 128 := by rcases hk with rfl | rfl <;> decide
  obtain ⟨h0, -, h2⟩ := installKey_entry vif wcid hw key s
  have hall := @holds_installKey vif wcid key s hk
  have hop : ∀ {a v : U32}, ⟨a, v⟩ ∈ keyOps wcid key → (installKey vif wcid key s).reg a = v :=
    fun h => hall _ h
  refine { words := ?_, pn := ?_, rv := ?_, rcA1 := ?_, rcId := ?_, kid := ?_, rkv := ?_, dw0 := ?_,
           cipher := ?_, adm := ?_, dw2 := ?_, flush := reg_installKey_flush,
           others := fun w hw hne a ha => reg_installKey_other hk hw hne ha,
           frame := fun p hp => installKey_frame hp }
  · exact slotKey_iff.2 ⟨hop (by simp [keyOps]), hop (by simp [keyOps]), hop (by simp [keyOps]),
      hop (by simp [keyOps])⟩
  · exact ⟨hop (by simp [keyOps, pnAddr]), hop (by simp [keyOps, pnAddr])⟩
  · rw [h0, setKeyDw0_getLsbD (by omega)]
    rfl
  · rw [h0, setKeyDw0_getLsbD (by omega)]
    rfl
  · rw [h0, setKeyDw0_getLsbD (by omega)]
    rfl
  · rw [entryKid, h0, setKeyDw0_kid, kid_setWidth]
  · rw [h0, setKeyDw0_getLsbD (by omega), if_neg (by omega), if_neg (by omega), if_pos rfl]
    by_cases hz : wcid = 0 <;> cases Vif.isAp vif <;> simp [hz]
  · intro i hi hn
    simp only [List.mem_cons, List.not_mem_nil, or_false, not_or] at hn
    rw [h0, setKeyDw0_getLsbD hi, if_neg (by omega), if_neg (by omega), if_neg (by omega)]
  · rw [entryCipher, h2, setKeyDw2_cipher]
  · rw [entryAdm, h2, setKeyDw2_adm]
  · intro i hi hn
    simp only [List.mem_cons, List.not_mem_nil, or_false, not_or] at hn
    rw [h2, setKeyDw2_getLsbD hi, if_neg (by omega), if_neg (by omega)]

theorem keyRemoved_removeKey (hk : wcid = 0 ∨ wcid = 1) :
    KeyRemoved wcid s (removeKey wcid s) := by
  obtain ⟨h0, h2⟩ := @reg_removeKey wcid s hk
  refine { rkv := ?_, kid := ?_, dw0 := ?_, cipher := ?_, dw2 := ?_,
           frame := fun p hp0 hp2 => removeKey_frame hp0 hp2 }
  · rw [h0, clearKeyDw0_getLsbD (by omega)]
    rfl
  · apply BitVec.eq_of_getLsbD_eq
    intro i hi
    rw [entryKid, h0, BitVec.getLsbD_extractLsb', clearKeyDw0_getLsbD (by omega), if_pos (by omega)]
    simp
  · intro i hi hn
    simp only [List.mem_cons, List.not_mem_nil, or_false, not_or] at hn
    rw [h0, clearKeyDw0_getLsbD hi, if_neg (by omega)]
  · apply BitVec.eq_of_getLsbD_eq
    intro i hi
    rw [entryCipher, h2, BitVec.getLsbD_extractLsb', clearKeyDw2_getLsbD (by omega),
      if_pos (by omega)]
    simp
  · intro i hi hn
    simp only [List.mem_cons, List.not_mem_nil, or_false, not_or] at hn
    rw [h2, clearKeyDw2_getLsbD hi, if_neg (by omega)]

end

/-! ## Sequences of calls -/

/-- One call of `set_key`. -/
structure KeyCall where
  cmd : SetKeyCmd
  vif : Option Vif
  sta : Option MacAddr
  key : KeyConf

/-- The slot of a call. -/
def KeyCall.wcid (c : KeyCall) : U32 := keyWcid c.sta c.key

/-- The calls one after the other. -/
def runKeys : List KeyCall → P Unit
  | [] => return ()
  | c :: cs => do
    let _ ← setKey c.cmd c.vif c.sta c.key
    runKeys cs

/-- What a call does to the registers. -/
def KeyCall.effect (s : RegFile) (c : KeyCall) : RegFile :=
  match c.cmd with
  | .disableKey => removeKey c.wcid s
  | .setKey =>
    if c.key.cipher = WLAN_CIPHER_SUITE_CCMP then installKey c.vif c.wcid c.key s else s

theorem wp_setKey_refused {vif : Option Vif} {sta : Option MacAddr} {key : KeyConf} {s : RegFile}
    (hk : key.cipher ≠ WLAN_CIPHER_SUITE_CCMP) {Q : Int → RegFile → Prop} :
    wp (regEnv True) (setKey .setKey vif sta key) s Q ↔ Q (-EOPNOTSUPP) s := by
  simp [setKey, hk]

theorem wp_runKeys {cs : List KeyCall} {s : RegFile} {Q : Unit → RegFile → Prop} :
    wp (regEnv True) (runKeys cs) s Q ↔ Q () (cs.foldl KeyCall.effect s) := by
  induction cs generalizing s with
  | nil => simp [runKeys]
  | cons c cs ih =>
    rw [runKeys, wp_bind, List.foldl_cons]
    obtain ⟨cmd, vif, sta, key⟩ := c
    cases cmd with
    | disableKey =>
      rw [wp_setKey_remove, ih]
      rfl
    | setKey =>
      by_cases hk : key.cipher = WLAN_CIPHER_SUITE_CCMP
      · rw [wp_setKey_install hk, ih, KeyCall.effect]
        dsimp only
        rw [if_pos hk]
        rfl
      · rw [wp_setKey_refused hk, ih, KeyCall.effect]
        dsimp only
        rw [if_neg hk]

/-- The two files agree on the registers of a slot. -/
def SameSlot (w : U32) (s t : RegFile) : Prop := ∀ a, OfWcid w a → s.reg a = t.reg a

section
variable {w : U32} {s t : RegFile} {c : KeyCall}

/-- A call on another slot does not matter. -/
theorem sameSlot_effect_other (hw : w < 128) (hne : w ≠ c.wcid) : SameSlot w (c.effect s) s := by
  intro a ha
  have hk : c.wcid = 0 ∨ c.wcid = 1 := keyWcid_cases c.sta c.key
  unfold KeyCall.effect
  split
  · have hreg := apart_keyRegs hk (inWtbl_of_ofWcid hw ha) (not_keyRegs_of_ofWcid hw hk hne ha)
    exact removeKey_frame (hreg _ (by simp [keyRegs])) (hreg _ (by simp [keyRegs]))
  · split
    · exact reg_installKey_other hk hw hne ha
    · rfl

/-- The registers an installation writes. -/
theorem mem_keyRegs {wcid a : U32} (key : KeyConf) (h : a ∈ keyRegs wcid) :
    (∃ op ∈ keyOps wcid key, op.addr = a) ∨ a = dw0Addr wcid ∨ a = dw2Addr wcid ∨ a = WTBL1OR := by
  have hsplit : keyRegs wcid =
      (keyOps wcid key).map RegWriteOp.addr ++ [dw0Addr wcid, dw2Addr wcid, WTBL1OR] := rfl
  rw [hsplit] at h
  rcases List.mem_append.1 h with h | h
  · exact .inl (List.mem_map.1 h)
  · exact .inr (by simpa using h)

theorem ofWcid_dw {wcid : U32} (hk : wcid = 0 ∨ wcid = 1) :
    OfWcid wcid (dw0Addr wcid) ∧ OfWcid wcid (dw2Addr wcid) := by
  unfold OfWcid
  rcases hk with rfl | rfl <;> decide

/-- **A call makes of a slot what the slot was.** -/
theorem sameSlot_effect (h : SameSlot c.wcid s t) : SameSlot c.wcid (c.effect s) (c.effect t) := by
  intro a ha
  have hk : c.wcid = 0 ∨ c.wcid = 1 := keyWcid_cases c.sta c.key
  have hw : c.wcid < 128 := by rcases hk with hk | hk <;> rw [hk] <;> decide
  have hin := inWtbl_of_ofWcid hw ha
  have h0 : entryDw0 s c.wcid = entryDw0 t c.wcid := h _ (ofWcid_dw hk).1
  have h2 : entryDw2 s c.wcid = entryDw2 t c.wcid := h _ (ofWcid_dw hk).2
  unfold KeyCall.effect
  split
  · obtain ⟨hs0, hs2⟩ := @reg_removeKey c.wcid s hk
    obtain ⟨ht0, ht2⟩ := @reg_removeKey c.wcid t hk
    by_cases ha0 : a = dw0Addr c.wcid
    · subst ha0
      exact hs0.trans (by rw [h0]; exact ht0.symm)
    by_cases ha2 : a = dw2Addr c.wcid
    · subst ha2
      exact hs2.trans (by rw [h2]; exact ht2.symm)
    · have hd0 : InWtbl (dw0Addr c.wcid) := inWtbl_keyRegs hk (by simp [keyRegs])
      have hd2 : InWtbl (dw2Addr c.wcid) := inWtbl_keyRegs hk (by simp [keyRegs])
      have hp0 := fun he => ha0 ((physicalAddrMap_inj hin hd0).1 he)
      have hp2 := fun he => ha2 ((physicalAddrMap_inj hin hd2).1 he)
      exact (removeKey_frame hp0 hp2).trans ((h a ha).trans (removeKey_frame hp0 hp2).symm)
  · split
    · obtain ⟨hs0, -, hs2⟩ := installKey_entry c.vif c.wcid hw c.key s
      obtain ⟨ht0, -, ht2⟩ := installKey_entry c.vif c.wcid hw c.key t
      by_cases hm : a ∈ keyRegs c.wcid
      · rcases mem_keyRegs c.key hm with ⟨op, hop, rfl⟩ | rfl | rfl | rfl
        · rw [holds_installKey hk op hop, holds_installKey hk op hop]
        · exact hs0.trans (by rw [h0]; exact ht0.symm)
        · exact hs2.trans (by rw [h2]; exact ht2.symm)
        · rw [reg_installKey_flush, reg_installKey_flush]
      · have hp := apart_keyRegs hk hin hm
        exact (installKey_frame hp).trans ((h a ha).trans (installKey_frame hp).symm)
    · exact h a ha

/-- Calls on other slots can be left out. -/
theorem keyRun_slot (hw : w < 128) (cs : List KeyCall) (h : SameSlot w s t) :
    SameSlot w (cs.foldl KeyCall.effect s)
      ((cs.filter fun c => decide (c.wcid = w)).foldl KeyCall.effect t) := by
  induction cs generalizing s t with
  | nil => exact h
  | cons c cs ih =>
    by_cases hc : c.wcid = w
    · rw [List.filter_cons_of_pos (by simpa using hc), List.foldl_cons, List.foldl_cons]
      refine ih ?_
      subst hc
      exact sameSlot_effect h
    · rw [List.filter_cons_of_neg (by simpa using hc), List.foldl_cons]
      refine ih fun a ha => ?_
      rw [sameSlot_effect_other hw (fun he => hc he.symm) a ha]
      exact h a ha

end

/-- **Key calls touch exactly their fields.** An installed CCMP key is in its slot with the fields
of `KeyInstalled` and nothing else changed; a removal after it clears the fields of `KeyRemoved` and
nothing else; another cipher is refused and changes nothing. Whatever calls are made, each slot ends
as the calls on it alone would leave it. -/
theorem key_calls_fields :
    (∀ (vif : Option Vif) (sta : Option MacAddr) (key : KeyConf) (s : RegFile),
      key.cipher = WLAN_CIPHER_SUITE_CCMP →
      wp (regEnv True) (setKey .setKey vif sta key) s fun ret s' =>
        ret = 0 ∧ KeyInstalled vif (keyWcid sta key) key s s' ∧
        ∀ (vif' : Option Vif) (sta' : Option MacAddr) (key' : KeyConf),
          keyWcid sta' key' = keyWcid sta key →
          wp (regEnv True) (setKey .disableKey vif' sta' key') s' fun ret' s'' =>
            ret' = 0 ∧ KeyRemoved (keyWcid sta key) s' s'') ∧
    (∀ (vif : Option Vif) (sta : Option MacAddr) (key : KeyConf) (s : RegFile),
      key.cipher ≠ WLAN_CIPHER_SUITE_CCMP →
      wp (regEnv True) (setKey .setKey vif sta key) s fun ret s' => ret = -EOPNOTSUPP ∧ s' = s) ∧
    ∀ (calls : List KeyCall) (w : U32), w < 128 → ∀ s : RegFile,
      wp (regEnv True) (runKeys calls) s fun _ s' =>
        wp (regEnv True) (runKeys (calls.filter fun c => decide (c.wcid = w))) s fun _ s'' =>
          ∀ a, OfWcid w a → s'.reg a = s''.reg a := by
  refine ⟨fun vif sta key s hk => ?_, fun vif sta key s hk => ?_, fun calls w hw s => ?_⟩
  · rw [wp_setKey_install hk]
    refine ⟨rfl, keyInstalled_installKey (keyWcid_cases sta key), fun vif' sta' key' he => ?_⟩
    rw [wp_setKey_remove, he]
    exact ⟨rfl, keyRemoved_removeKey (keyWcid_cases sta key)⟩
  · rw [wp_setKey_refused hk]
    exact ⟨rfl, rfl⟩
  · rw [wp_runKeys, wp_runKeys]
    exact keyRun_slot hw calls fun _ _ => rfl

/-- A client's key is installed and removed; one of another cipher is refused; and with the group
key installed and removed behind it, the client's key is still in its slot. -/
theorem key_calls_fields_ptk :
    (wp (regEnv True) (setKey .setKey (some sampleAp) (some sampleClient) samplePtk.conf)
      (fun _ => 0) fun ret s' => ret = 0 ∧ slotKey s' 1 = List.replicate 16 0xA5 ∧
        entryCipher s' 1 = 4 ∧ s'.reg (dw0Addr 0) = 0 ∧
        wp (regEnv True) (setKey .disableKey none none samplePtk.conf) s' fun ret' s'' =>
          ret' = 0 ∧ entryKid s'' 1 = 0 ∧ entryCipher s'' 1 = 0) ∧
    wp (regEnv True) (setKey .setKey none none { sampleGtk with cipher := 0x000FAC02 }) (fun _ => 0)
      (fun ret s' => ret = -EOPNOTSUPP ∧ s' = fun _ => 0) ∧
    wp (regEnv True) (runKeys [⟨.setKey, some sampleAp, some sampleClient, samplePtk.conf⟩,
        ⟨.setKey, some sampleAp, none, sampleGtk⟩, ⟨.disableKey, none, none, sampleGtk⟩])
      (fun _ => 0) fun _ s' => slotKey s' 1 = List.replicate 16 0xA5 := by
  obtain ⟨hinstall, hrefuse, hslots⟩ := key_calls_fields
  have hw : keyWcid (some sampleClient.1) samplePtk.conf = 1 := rfl
  refine ⟨?_, hrefuse none none _ _ (by decide), ?_⟩
  · refine wp_mono (hinstall (some sampleAp) (some sampleClient) samplePtk.conf _ rfl)
      fun ret s' ⟨hret, hin, hremove⟩ => ?_
    rw [hw] at hin
    refine ⟨hret, hin.words, hin.cipher, hin.others 0 (by decide) (by decide) _ (.inl ?_), ?_⟩
    · decide
    · refine wp_mono (hremove none none samplePtk.conf hw) fun ret' s'' ⟨hret', hout⟩ => ?_
      exact ⟨hret', hout.kid, hout.cipher⟩
  · -- of the three calls the slot sees the first
    refine wp_mono (hslots _ 1 (by decide) _) fun _ s' hsame => ?_
    have hone := wp_runKeys.1 hsame
    have hkey : slotKey (installKey (some sampleAp) 1 samplePtk.conf fun _ => 0) 1 =
        List.replicate 16 0xA5 := installKey_slot (some sampleAp) samplePtk.conf _
    rw [← hkey]
    refine slotKey_congr fun a ha => hone a (.inr (.inr ?_))
    have hall : (slotAddrs 1).all (fun a => WTBL3_KEY_BASE + 1 * WTBL3_ENTRY_SIZE ≤ a ∧
        a < WTBL3_KEY_BASE + 1 * WTBL3_ENTRY_SIZE + WTBL3_ENTRY_SIZE) = true := by decide
    simpa using List.all_eq_true.1 hall a ha

end Driver
