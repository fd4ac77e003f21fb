import Mathlib.Data.List.Induction
import Mt7603u.Proof.Builders

/-!
# The BlockAck word

WTBL2 DW15 holds an enable bit and a 3-bit window for each of eight TIDs. `getLsbD_baDw15` says what
one call makes of every bit of the word; that other TIDs keep theirs, that calls for different TIDs
commute and that a call repeated changes nothing follow from it. `Describes` relates the word to the
sessions that are up, and every call keeps it (`describes_step`): so it holds after every run.
-/

namespace Rust

open Slice Slice.Out Word

/-! ## The window index -/

/-- Entry `i` is the largest of the windows that do not exceed `baSize`; 0 stands for none. -/
def IsWindow (baSize : U8) (i : Nat) : Prop :=
  if baSize < 4 then i = 0
  else i < 8 ∧ BA_RANGE.getD i 0 ≤ baSize ∧
    ∀ j < 8, BA_RANGE.getD j 0 ≤ baSize → BA_RANGE.getD j 0 ≤ BA_RANGE.getD i 0

instance (baSize : U8) (i : Nat) : Decidable (IsWindow baSize i) :=
  inferInstanceAs (Decidable (ite ..))

theorem isWindow_baRangeIdx : ∀ baSize : U8, IsWindow baSize (baRangeIdx baSize) := by
  decide +kernel

theorem baRangeIdx_lt : ∀ baSize : U8, baRangeIdx baSize < 8 := by decide +kernel

/-! ## One word -/

/-- The bits of a TID: its window and its enable bit. -/
def BaBit (tid i : Nat) : Prop := (3 * tid ≤ i ∧ i < 3 * tid + 3) ∨ i = 24 + tid

theorem baMask_getLsbD {tid i : Nat} (hi : i < 32) :
    ((0x7 : U32) <<< (tid * 3)).getLsbD i = decide (3 * tid ≤ i ∧ i < 3 * tid + 3) := by
  rw [Nat.mul_comm]
  exact (ones_getLsbD 3 (3 * tid) i).trans (by simp [hi])

theorem baWindow_getLsbD {tid i idx : Nat} (hi : i < 32) :
    ((BitVec.ofNat 32 idx &&& 0x7) <<< (tid * 3)).getLsbD i =
      (decide (3 * tid ≤ i ∧ i < 3 * tid + 3) && (BitVec.ofNat 3 idx).getLsbD (i - 3 * tid)) := by
  rw [BitVec.shiftLeft_and_distrib, BitVec.getLsbD_and, baMask_getLsbD hi, Nat.mul_comm,
    Bool.and_comm]
  by_cases hm : 3 * tid ≤ i ∧ i < 3 * tid + 3
  · have h3 : i - 3 * tid < 3 := by omega
    have h32 : i - 3 * tid < 32 := by omega
    rw [decide_eq_true hm, Bool.true_and, Bool.true_and, BitVec.getLsbD_shiftLeft,
      BitVec.getLsbD_ofNat, BitVec.getLsbD_ofNat]
    simp [hi, h3, h32, hm.1]
  · rw [decide_eq_false hm, Bool.false_and, Bool.false_and]

section
variable {tid baSize : U8} {enable : Bool} {w : U32} {i : Nat}

/-- **Every bit of the word after a call.** -/
theorem baDw15_getLsbD (ht : tid < 8) (hi : i < 32) :
    (baDw15 tid baSize enable w).getLsbD i =
      if i = 24 + tid.toNat then enable
      else if 3 * tid.toNat ≤ i ∧ i < 3 * tid.toNat + 3 then
        enable && (BitVec.ofNat 3 (baRangeIdx baSize)).getLsbD (i - 3 * tid.toNat)
      else w.getLsbD i := by
  have ht' : tid.toNat < 8 := ht
  have hbit : (bit (24 + tid.toNat)).getLsbD i = decide (i = 24 + tid.toNat) := by
    rw [bit_getLsbD, decide_eq_true hi, Bool.true_and]
  have hmask := @baMask_getLsbD tid.toNat i hi
  have hwin := @baWindow_getLsbD tid.toNat i (baRangeIdx baSize) hi
  by_cases he : i = 24 + tid.toNat
  · rw [decide_eq_true he] at hbit
    rw [if_pos he]
    cases enable with
    | true => simp only [baDw15, if_true, BitVec.getLsbD_or, hbit, Bool.true_or, Bool.or_true]
    | false =>
      simp only [baDw15, Bool.false_eq_true, if_false, BitVec.getLsbD_and, BitVec.getLsbD_not,
        hbit, Bool.not_true, Bool.and_false]
  · rw [decide_eq_false he] at hbit
    rw [if_neg he]
    by_cases hm : 3 * tid.toNat ≤ i ∧ i < 3 * tid.toNat + 3
    · rw [decide_eq_true hm] at hmask hwin
      rw [if_pos hm]
      cases enable <;>
        simp only [baDw15, Bool.false_eq_true, if_true, if_false, BitVec.getLsbD_and,
          BitVec.getLsbD_or, BitVec.getLsbD_not, hbit, hmask, hwin, hi, decide_true, Bool.not_true,
          Bool.not_false, Bool.and_false, Bool.false_and, Bool.false_or, Bool.true_and]
    · rw [decide_eq_false hm] at hmask hwin
      rw [if_neg hm]
      cases enable <;>
        simp only [baDw15, Bool.false_eq_true, if_true, if_false, BitVec.getLsbD_and,
          BitVec.getLsbD_or, BitVec.getLsbD_not, hbit, hmask, hwin, hi, decide_true, Bool.and_true,
          Bool.not_false, Bool.false_and, Bool.or_false]

theorem baDw15_frame (ht : tid < 8) (hi : i < 32) (hb : ¬BaBit tid.toNat i) :
    (baDw15 tid baSize enable w).getLsbD i = w.getLsbD i := by
  rw [baDw15_getLsbD ht hi, if_neg (fun h => hb (.inr h)), if_neg (fun h => hb (.inl h))]

/-- The enable bits. -/
theorem baDw15_enable (ht : tid < 8) {t : Nat} (h8 : t < 8) :
    (baDw15 tid baSize enable w).getLsbD (24 + t) =
      if t = tid.toNat then enable else w.getLsbD (24 + t) := by
  have ht' : tid.toNat < 8 := ht
  rw [baDw15_getLsbD ht (by omega)]
  by_cases he : t = tid.toNat
  · rw [if_pos (by omega), if_pos he]
  · rw [if_neg (by omega), if_neg (by omega), if_neg he]

/-- The windows. -/
theorem baDw15_window (ht : tid < 8) {t : Nat} (h8 : t < 8) :
    (baDw15 tid baSize enable w).extractLsb' (3 * t) 3 =
      if t = tid.toNat then if enable then BitVec.ofNat 3 (baRangeIdx baSize) else 0
      else w.extractLsb' (3 * t) 3 := by
  have ht' : tid.toNat < 8 := ht
  apply BitVec.eq_of_getLsbD_eq
  intro j hj
  rw [BitVec.getLsbD_extractLsb', decide_eq_true hj, Bool.true_and,
    baDw15_getLsbD ht (by omega), if_neg (by omega)]
  by_cases he : t = tid.toNat
  · rw [if_pos he, if_pos (by omega), show 3 * t + j - 3 * tid.toNat = j by omega]
    cases enable <;> simp
  · rw [if_neg he, if_neg (by omega), BitVec.getLsbD_extractLsb', decide_eq_true hj, Bool.true_and]

/-- A call repeated changes nothing. -/
theorem baDw15_idem (ht : tid < 8) :
    baDw15 tid baSize enable (baDw15 tid baSize enable w) = baDw15 tid baSize enable w := by
  apply BitVec.eq_of_getLsbD_eq
  intro i hi
  rw [baDw15_getLsbD ht hi]
  split
  · rename_i he
    rw [baDw15_getLsbD ht hi, if_pos he]
  · split
    · rename_i he hm
      rw [baDw15_getLsbD ht hi, if_neg he, if_pos hm]
    · rfl

/-- Calls for different TIDs commute. -/
theorem baDw15_comm {tid' baSize' : U8} {enable' : Bool} (ht : tid < 8) (ht' : tid' < 8)
    (hne : tid ≠ tid') :
    baDw15 tid' baSize' enable' (baDw15 tid baSize enable w) =
      baDw15 tid baSize enable (baDw15 tid' baSize' enable' w) := by
  have h8 : tid.toNat < 8 := ht
  have h8' : tid'.toNat < 8 := ht'
  have hn : tid.toNat ≠ tid'.toNat := fun h => hne (BitVec.eq_of_toNat_eq h)
  apply BitVec.eq_of_getLsbD_eq
  intro i hi
  -- a bit belongs to one of the two TIDs at most
  by_cases hb : BaBit tid.toNat i
  · have hb' : ¬BaBit tid'.toNat i := by
      unfold BaBit at hb ⊢
      omega
    rw [baDw15_frame ht' hi hb', baDw15_getLsbD ht hi, baDw15_getLsbD ht hi,
      baDw15_frame ht' hi hb']
  · rw [baDw15_frame ht hi hb, baDw15_getLsbD ht' hi, baDw15_getLsbD ht' hi,
      baDw15_frame ht hi hb]

end

/-! ## Calls -/

/-- One call, with the buffer it is given. -/
structure BaCall where
  tid : U8
  baSize : U8
  enable : Bool
  outOps : List RegWriteOp

/-- The call on the word `prevDw15`. -/
def BaCall.build (wcid : U8) (prevDw15 : U32) (c : BaCall) : Out RegWriteOp Nat :=
  buildBaSessionSequence wcid c.tid c.baSize c.enable prevDw15

/-- The word after a call; a refused call leaves it. -/
def BaCall.step (wcid : U8) (dw15 : U32) (c : BaCall) : U32 :=
  match callOn (c.build wcid dw15) c.outOps with
  | .ok (op :: _) => op.val
  | _ => dw15

def BaCall.Accepted (c : BaCall) : Prop := c.tid < 8 ∧ c.outOps ≠ []

instance (c : BaCall) : Decidable c.Accepted := inferInstanceAs (Decidable (_ ∧ _))

/-- The word after a run of calls on one WCID. -/
def baRun (wcid : U8) (calls : List BaCall) : U32 := calls.foldl (BaCall.step wcid) 0

/-- The last call of a run that was accepted for a TID. -/
def lastAccepted (tid : Nat) (calls : List BaCall) : Option BaCall :=
  calls.reverse.find? fun c => decide (c.Accepted ∧ c.tid.toNat = tid)

section
variable {wcid : U8} {c : BaCall} {w : U32}

/-- An accepted call produces one write. -/
theorem callOn_build (h : c.Accepted) :
    callOn (c.build wcid w) c.outOps =
      .ok [⟨wtbl2Dw15 wcid, baDw15 c.tid c.baSize c.enable w⟩] := by
  have ht : ¬8 ≤ c.tid := BitVec.not_le.2 h.1
  unfold BaCall.build buildBaSessionSequence
  rw [if_neg ht]
  exact callOn_of_fills (fills_setSeq rfl) (List.length_pos_iff.2 h.2)

/-- A TID from 8 on is refused, with nothing written. -/
theorem build_refused (h : 8 ≤ c.tid) :
    c.build wcid w c.outOps = (.error (.errno (-22)), c.outOps) := by
  unfold BaCall.build buildBaSessionSequence
  rw [if_pos h]
  rfl

theorem build_full (h : c.outOps = []) : ∃ e, c.build wcid w c.outOps = (.error e, c.outOps) := by
  by_cases ht : 8 ≤ c.tid
  · exact ⟨_, build_refused ht⟩
  · refine ⟨.errno (-ENOSPC), ?_⟩
    unfold BaCall.build buildBaSessionSequence
    rw [if_neg ht, h]
    rfl

theorem step_accepted (h : c.Accepted) : c.step wcid w = baDw15 c.tid c.baSize c.enable w := by
  unfold BaCall.step
  rw [callOn_build h]

theorem step_refused (h : ¬c.Accepted) : c.step wcid w = w := by
  have hb : ∃ e, c.build wcid w c.outOps = (.error e, c.outOps) := by
    by_cases ht : c.tid < 8
    · exact build_full (Decidable.not_not.1 fun hne => h ⟨ht, hne⟩)
    · exact ⟨_, build_refused (BitVec.not_lt.1 ht)⟩
  obtain ⟨e, he⟩ := hb
  unfold BaCall.step callOn
  rw [he]

end

/-! ## Runs -/

/-- The word describes the sessions: for each TID the size that was asked for, if one is up. -/
structure Describes (w : U32) (session : Nat → Option U8) : Prop where
  enable : ∀ t < 8, w.getLsbD (24 + t) = (session t).isSome
  window : ∀ t < 8, w.extractLsb' (3 * t) 3 =
    match session t with
    | some baSize => BitVec.ofNat 3 (baRangeIdx baSize)
    | none => 0

/-- The session a call asks for. -/
def BaCall.session (c : BaCall) : Option U8 := if c.enable then some c.baSize else none

/-- The sessions that are up after a run. -/
def sessions (calls : List BaCall) (tid : Nat) : Option U8 :=
  (lastAccepted tid calls).bind BaCall.session

theorem sessions_concat (calls : List BaCall) (c : BaCall) (t : Nat) :
    sessions (calls ++ [c]) t =
      if c.Accepted ∧ c.tid.toNat = t then c.session else sessions calls t := by
  unfold sessions lastAccepted
  rw [List.reverse_concat, List.find?_cons]
  by_cases h : c.Accepted ∧ c.tid.toNat = t
  · rw [decide_eq_true h, if_pos h]
    rfl
  · rw [decide_eq_false h, if_neg h]

/-- **A call keeps the word true to the sessions.** -/
theorem describes_step {wcid : U8} {w : U32} {calls : List BaCall} (c : BaCall)
    (h : Describes w (sessions calls)) : Describes (c.step wcid w) (sessions (calls ++ [c])) := by
  by_cases ha : c.Accepted
  · have hother : ∀ t, t ≠ c.tid.toNat → sessions (calls ++ [c]) t = sessions calls t := by
      intro t he
      rw [sessions_concat, if_neg (fun hc => he hc.2.symm)]
    have hthis : sessions (calls ++ [c]) c.tid.toNat = c.session := by
      rw [sessions_concat, if_pos ⟨ha, rfl⟩]
    rw [step_accepted ha]
    constructor
    · intro t ht
      rw [baDw15_enable ha.1 ht]
      by_cases he : t = c.tid.toNat
      · subst he
        rw [if_pos rfl, hthis, BaCall.session]
        cases c.enable <;> rfl
      · rw [if_neg he, hother t he, h.enable t ht]
    · intro t ht
      rw [baDw15_window ha.1 ht]
      by_cases he : t = c.tid.toNat
      · subst he
        rw [if_pos rfl, hthis, BaCall.session]
        cases c.enable <;> rfl
      · rw [if_neg he, hother t he, h.window t ht]
  · have hs : sessions (calls ++ [c]) = sessions calls := by
      funext t
      rw [sessions_concat, if_neg (fun hc => ha hc.1)]
    rw [step_refused ha, hs]
    exact h

theorem describes_baRun (wcid : U8) (calls : List BaCall) :
    Describes (baRun wcid calls) (sessions calls) := by
  induction calls using List.reverseRecOn with
  | nil =>
    refine ⟨fun t ht => ?_, fun t ht => ?_⟩
    · exact BitVec.getLsbD_zero
    · exact BitVec.extractLsb'_zero ..
  | append_singleton calls c ih =>
    unfold baRun at ih ⊢
    rw [List.foldl_concat]
    exact describes_step c ih

theorem sessions_some {calls : List BaCall} {t : Nat} :
    (sessions calls t).isSome = true ↔ ∃ c, lastAccepted t calls = some c ∧ c.enable = true := by
  unfold sessions
  cases hl : lastAccepted t calls with
  | none => simp
  | some c => cases he : c.enable <;> simp [BaCall.session, he]

/-- **The BlockAck word describes exactly the live sessions.** After every run of calls from 0, the
enable bit of a TID says whether its last accepted call enabled it, and its window is that of the
size asked for, or 0. A TID from 8 on is refused and writes nothing. On any word, an accepted call
produces one write of WTBL2 DW15 and leaves the bits of the other TIDs, calls for different TIDs
commute, and a call repeated changes nothing. -/
theorem ba_word_describes_sessions (wcid : U8) :
    (∀ (calls : List BaCall) (t : Nat), t < 8 →
      ((baRun wcid calls).getLsbD (24 + t) = true ↔
        ∃ c, lastAccepted t calls = some c ∧ c.enable = true) ∧
      (∀ c, lastAccepted t calls = some c → c.enable = true →
        IsWindow c.baSize ((baRun wcid calls).extractLsb' (3 * t) 3).toNat) ∧
      ((¬∃ c, lastAccepted t calls = some c ∧ c.enable = true) →
        (baRun wcid calls).extractLsb' (3 * t) 3 = 0)) ∧
    (∀ (c : BaCall) (w : U32), 8 ≤ c.tid →
      c.build wcid w c.outOps = (.error (.errno (-22)), c.outOps)) ∧
    (∀ (c : BaCall) (w : U32), c.tid < 8 → c.outOps ≠ [] →
      callOn (c.build wcid w) c.outOps = .ok [⟨wtbl2Dw15 wcid, c.step wcid w⟩]) ∧
    (∀ (c : BaCall) (w : U32) (i : Nat), i < 32 → ¬BaBit c.tid.toNat i →
      (c.step wcid w).getLsbD i = w.getLsbD i) ∧
    (∀ (c d : BaCall) (w : U32), c.tid ≠ d.tid →
      d.step wcid (c.step wcid w) = c.step wcid (d.step wcid w)) ∧
    ∀ (c : BaCall) (w : U32), c.step wcid (c.step wcid w) = c.step wcid w := by
  refine ⟨fun calls t ht => ?_, fun c w ht => build_refused ht, fun c w ht ho => ?_,
    fun c w i hi hb => ?_, fun c d w hne => ?_, fun c w => ?_⟩
  · have h := describes_baRun wcid calls
    rw [h.enable t ht, h.window t ht]
    refine ⟨sessions_some, fun c hl he => ?_, fun hn => ?_⟩
    · have hs : sessions calls t = some c.baSize := by
        rw [sessions, hl, Option.bind_some, BaCall.session, if_pos he]
      rw [hs]
      dsimp only
      rw [BitVec.toNat_ofNat, Nat.mod_eq_of_lt (baRangeIdx_lt c.baSize)]
      exact isWindow_baRangeIdx c.baSize
    · rw [← sessions_some, Option.not_isSome_iff_eq_none] at hn
      rw [hn]
  · rw [callOn_build ⟨ht, ho⟩, step_accepted ⟨ht, ho⟩]
  · by_cases ha : c.Accepted
    · rw [step_accepted ha, baDw15_frame ha.1 hi hb]
    · rw [step_refused ha]
  · by_cases hc : c.Accepted
    · by_cases hd : d.Accepted
      · rw [step_accepted hc, step_accepted hd, step_accepted hd, step_accepted hc,
          baDw15_comm hc.1 hd.1 hne]
      · rw [step_refused hd, step_refused hd]
    · rw [step_refused hc, step_refused hc]
  · by_cases ha : c.Accepted
    · rw [step_accepted ha, step_accepted ha, baDw15_idem ha.1]
    · rw [step_refused ha, step_refused ha]

end Rust
