import Mt7603u.Proof.BlockAck
import Mt7603u.Proof.KeyFaults
import Mt7603u.Proof.RegMap

/-!
# BlockAck sessions on a device that fails

`ampdu_action` reads WTBL2 DW15, changes the fields of one TID and writes the word back, without
asking whether the read worked. Against `faultyEnv` a call is a function of pattern and registers
(`wp_ampduAction_faulty`). It keeps the fields of all other TIDs exactly if it does not write a word
it failed to read over fields that are in use (`tryAmpdu_keeps_iff`); then so does every run of such
calls (`ba_runs_keep_others`).
-/

namespace Driver

open Effect Slice Word Rust

/-! ## Calls -/

/-- The table entry a call is about. -/
def AmpduParams.wcid (params : AmpduParams) : U8 := if params.peer.isSome then 1 else 0

/-- The TID a call is for, as the sequence builder gets it. -/
def AmpduParams.baTid (params : AmpduParams) : U8 := params.tid.setWidth 8

/-- The session change a call asks for: the window and on or off. -/
def AmpduParams.session (params : AmpduParams) : Option (U8 × Bool) :=
  match params.action with
  | .txOperational => some (if params.bufSize ≠ 0 then params.bufSize.setWidth 8 else 64, true)
  | .txStopCont | .txStopFlush | .txStopFlushCont => some (0, false)
  | _ => none

/-- The writes of a call that read `dw15`. -/
def AmpduParams.writes (params : AmpduParams) (dw15 : U32) : List RegWriteOp :=
  match params.session with
  | some (baSize, enable) =>
    if params.baTid < 8 then [⟨wtbl2Dw15 params.wcid, baDw15 params.baTid baSize enable dw15⟩]
    else []
  | none =>
    match params.action, params.peer with
    | .rxStart, some a =>
      [⟨RMAC_BSCR0, packLo a⟩,
       ⟨RMAC_BSCR1, a.b4.setWidth 32 ||| a.b5.setWidth 32 <<< 8 |||
         params.tid.setWidth 32 <<< 16 ||| bit 22⟩]
    | _, _ => []

/-- What a call takes for the word: 0 if the read failed. -/
def readDw15 (o : Outcome) (s : RegFile) (wcid : U8) : U32 :=
  if o = .ok then s.reg (wtbl2Dw15 wcid) else 0

/-- The registers after a call by a pattern, from access `k` on. -/
def tryAmpdu (pattern : Nat → Outcome) (st : RegFile × Nat) (params : AmpduParams) :
    RegFile × Nat :=
  let ops := params.writes (readDw15 (pattern st.2) st.1 params.wcid)
  (st.1.tryApply pattern (st.2 + 1) ops, st.2 + 1 + ops.length)

/-- The code a call returns. -/
def AmpduParams.code (params : AmpduParams) : Int :=
  if params.action = .txStart then IEEE80211_AMPDU_TX_START_IMMEDIATE else 0

section
variable {pattern : Nat → Outcome} {s : RegFile} {k : Nat} {α : Type}
  {Q : α → RegFile × Nat → Prop}

/-- A sequence of one write. -/
theorem wp_tryBuilt {B : Out RegWriteOp Nat} {max : Nat} {a v : U32} {p : P α}
    (hB : rustCall B max = .ok [⟨a, v⟩]) :
    wp (faultyEnv pattern) (executeBuilt B max >>= fun _ => p) (s, k) Q ↔
      wp (faultyEnv pattern) p (s.tryWrite (pattern k) a v, k + 1) Q := by
  have hone : executeRegOps [⟨a, v⟩] = usbWriteReg a v >>= fun ret =>
      (return if ret < 0 then ret else 0 : P Int) := by
    unfold executeRegOps
    refine congrArg _ (funext fun ret => ?_)
    split <;> rfl
  have hbuilt : executeBuilt B max = usbWriteReg a v >>= fun _ => (return () : P Unit) := by
    unfold executeBuilt
    rw [hB]
    dsimp only
    rw [if_pos (List.cons_ne_nil _ _), hone]
    rfl
  rw [hbuilt]
  exact wp_tryWrite

/-- A sequence that was not built. -/
theorem wp_notBuilt {B : Out RegWriteOp Nat} {max : Nat} {e : Fail} {p : P α}
    (hB : rustCall B max = .error e) :
    wp (faultyEnv pattern) (executeBuilt B max >>= fun _ => p) (s, k) Q ↔
      wp (faultyEnv pattern) p (s, k) Q := by
  unfold executeBuilt
  rw [hB]
  rfl

/-- The session part of a call. -/
theorem wp_baSession {wcid tid baSize : U8} {enable : Bool} {dw15 : U32} {p : P α} :
    wp (faultyEnv pattern)
        (executeBuilt (buildBaSessionSequence wcid tid baSize enable dw15) 4 >>= fun _ => p)
        (s, k) Q ↔
      wp (faultyEnv pattern) p
        (if tid < 8 then
          (s.tryWrite (pattern k) (wtbl2Dw15 wcid) (baDw15 tid baSize enable dw15), k + 1)
        else (s, k)) Q := by
  unfold buildBaSessionSequence
  by_cases ht : tid < 8
  · rw [if_neg (BitVec.not_le.2 ht), if_pos ht]
    exact wp_tryBuilt (rustCall_of_fills (fills_setSeq rfl) (Nat.le_of_ble_eq_true rfl))
  · rw [if_pos (BitVec.not_lt.1 ht), if_neg ht]
    exact wp_notBuilt rustCall_fail

/-- The read a call begins with; what it does then depends only on the value. -/
theorem wp_readDw15 {wcid : U8} {f : Int × U32 → P α} (hf : ∀ r w, f (r, w) = f (0, w)) :
    wp (faultyEnv pattern) (usbReadReg (wtbl2Dw15 wcid) 0 >>= f) (s, k) Q ↔
      wp (faultyEnv pattern) (f (0, readDw15 (pattern k) s wcid)) (s, k + 1) Q := by
  rw [wp_bind, readDw15]
  by_cases ho : pattern k = .ok
  · rw [if_pos ho, wp_usbReadReg_ok ho]
  · rw [if_neg ho, wp_usbReadReg_failed ho]
    constructor
    · intro h
      rw [← hf (-5) 0]
      exact h (-5) (by decide)
    · intro h r _
      rw [hf r 0]
      exact h

end

/-- The session part of a call by its pattern. -/
theorem tryAmpdu_session {pattern : Nat → Outcome} {s : RegFile} {k : Nat} {params : AmpduParams}
    {baSize : U8} {enable : Bool} (h : params.session = some (baSize, enable)) :
    tryAmpdu pattern (s, k) params =
      if params.baTid < 8 then
        (s.tryWrite (pattern (k + 1)) (wtbl2Dw15 params.wcid)
          (baDw15 params.baTid baSize enable (readDw15 (pattern k) s params.wcid)), k + 1 + 1)
      else (s, k + 1) := by
  unfold tryAmpdu AmpduParams.writes
  rw [h]
  dsimp only
  split <;> rfl

/-- A call that writes nothing. -/
theorem tryAmpdu_idle {pattern : Nat → Outcome} {s : RegFile} {k : Nat} {params : AmpduParams}
    (h : ∀ dw15, params.writes dw15 = []) : tryAmpdu pattern (s, k) params = (s, k + 1) := by
  unfold tryAmpdu
  rw [h]
  rfl

/-- Telling mac80211 that a session is down accesses no register. -/
theorem wp_stopReport {pattern : Nat → Outcome} {st : RegFile × Nat}
    {Q : Int → RegFile × Nat → Prop} {p : P Int}
    (hp : p = (return 0) ∨ ∃ a tid, p = (do stopTxBaCb a tid; return 0)) :
    wp (faultyEnv pattern) p st Q ↔ Q 0 st := by
  rcases hp with rfl | ⟨a, tid, rfl⟩
  · exact wp_ret _
  · obtain ⟨s, k⟩ := st
    refine (wp_bind _).trans ?_
    refine (wp_request (S := sig) _ (e := .stopTxBaCb a tid)).trans ⟨fun h => ?_, ?_⟩
    · exact (wp_ret _).1 (h () (s, k) rfl)
    · rintro h r _ rfl
      exact (wp_ret _).2 h

/-- **A call on a failing device**, as a function of pattern and registers. -/
theorem wp_ampduAction_faulty {pattern : Nat → Outcome} {vif : Option Vif} {params : AmpduParams}
    {st : RegFile × Nat} {Q : Int → RegFile × Nat → Prop} :
    wp (faultyEnv pattern) (ampduAction vif params) st Q ↔
      Q params.code (tryAmpdu pattern st params) := by
  obtain ⟨s, k⟩ := st
  unfold ampduAction
  refine (wp_readDw15 fun _ _ => rfl).trans ?_
  dsimp only
  cases hact : params.action with
  | rxStart =>
    cases hpeer : params.peer with
    | none =>
      rw [tryAmpdu_idle fun dw15 => by simp [AmpduParams.writes, AmpduParams.session, hact, hpeer],
        AmpduParams.code, hact]
      exact wp_ret _
    | some a =>
      have hw : ∀ dw15, params.writes dw15 = [⟨RMAC_BSCR0, packLo a⟩, ⟨RMAC_BSCR1,
          a.b4.setWidth 32 ||| a.b5.setWidth 32 <<< 8 ||| params.tid.setWidth 32 <<< 16 |||
            bit 22⟩] := by
        intro dw15
        simp [AmpduParams.writes, AmpduParams.session, hact, hpeer]
      rw [tryAmpdu, hw, AmpduParams.code, hact]
      exact wp_tryWrite.trans (wp_tryWrite.trans (wp_ret _))
  | rxStop | txStart =>
    rw [tryAmpdu_idle fun dw15 => by simp [AmpduParams.writes, AmpduParams.session, hact],
      AmpduParams.code, hact]
    exact wp_ret _
  | txStopCont | txStopFlush | txStopFlushCont =>
    have hs : params.session = some (0, false) := by rw [AmpduParams.session, hact]
    rw [tryAmpdu_session hs, AmpduParams.code, hact]
    refine wp_baSession.trans (wp_stopReport ?_)
    cases vif with
    | none => exact .inl rfl
    | some v =>
      cases params.sta with
      | none => exact .inl rfl
      | some a => exact .inr ⟨a, _, rfl⟩
  | txOperational =>
    have hs : params.session = some (if params.bufSize ≠ 0 then params.bufSize.setWidth 8 else 64,
        true) := by rw [AmpduParams.session, hact]
    rw [tryAmpdu_session hs, AmpduParams.code, hact]
    exact wp_baSession.trans (wp_ret _)

/-! ## The fields of other TIDs -/

/-- The enable bit and the window of a TID. -/
def baFields (w : U32) (t : Nat) : Bool × BitVec 3 := (w.getLsbD (24 + t), w.extractLsb' (3 * t) 3)

/-- The call is about this TID of this entry. -/
def AmpduParams.IsFor (params : AmpduParams) (wcid : U8) (t : Nat) : Prop :=
  params.wcid = wcid ∧ params.baTid.toNat = t

/-- The fields of all other TIDs are as they were. -/
def KeepsOthers (params : AmpduParams) (s s' : RegFile) : Prop :=
  ∀ (wcid : U8) (t : Nat), t < 8 → ¬params.IsFor wcid t →
    baFields (s'.reg (wtbl2Dw15 wcid)) t = baFields (s.reg (wtbl2Dw15 wcid)) t

/-- A call that changes no session, or whose read works, or whose write fails, or that finds nothing
in use in the fields of the other TIDs. -/
def SafeCall (pattern : Nat → Outcome) (st : RegFile × Nat) (params : AmpduParams) : Prop :=
  params.session = none ∨ 8 ≤ params.baTid ∨ pattern st.2 = .ok ∨
    (pattern (st.2 + 1)).reaches = false ∨
    ∀ t < 8, t ≠ params.baTid.toNat →
      baFields (st.1.reg (wtbl2Dw15 params.wcid)) t = (false, 0)

theorem baFields_baDw15 {tid baSize : U8} {enable : Bool} {w : U32} {t : Nat} (ht : tid < 8)
    (h8 : t < 8) (hne : t ≠ tid.toNat) :
    baFields (baDw15 tid baSize enable w) t = baFields w t := by
  unfold baFields
  rw [baDw15_enable ht h8, baDw15_window ht h8, if_neg hne, if_neg hne]

theorem baFields_zero (t : Nat) : baFields 0 t = (false, 0) :=
  Prod.ext BitVec.getLsbD_zero (BitVec.extractLsb'_zero ..)

theorem wtbl2Dw15_inj {wcid wcid' : U8}
    (h : physicalAddrMap (wtbl2Dw15 wcid) = physicalAddrMap (wtbl2Dw15 wcid')) : wcid = wcid' := by
  have ha := physicalAddrMap_mapped_inj (mapped_wtbl2Dw15 wcid) (mapped_wtbl2Dw15 wcid') h
  unfold wtbl2Dw15 at ha
  bv_omega

theorem wtbl2Dw15_ne_bscr {wcid : U8} {a : U32} (ha : a = RMAC_BSCR0 ∨ a = RMAC_BSCR1) :
    physicalAddrMap (wtbl2Dw15 wcid) ≠ physicalAddrMap a := by
  have hm : Mapped a := by
    rcases ha with rfl | rfl
    · decide
    · decide
  intro h
  have hs := physicalAddrMap_mapped_inj (mapped_wtbl2Dw15 wcid) hm h
  unfold wtbl2Dw15 at hs
  rcases ha with rfl | rfl
  · unfold RMAC_BSCR0 at hs
    bv_omega
  · unfold RMAC_BSCR1 at hs
    bv_omega

section
variable {pattern : Nat → Outcome} {st : RegFile × Nat} {params : AmpduParams}

/-- A call that changes no session writes no BlockAck word. -/
theorem writes_of_no_session (h : params.session = none) {dw15 : U32} :
    ∀ op ∈ params.writes dw15, op.addr = RMAC_BSCR0 ∨ op.addr = RMAC_BSCR1 := by
  unfold AmpduParams.writes
  rw [h]
  dsimp only
  split
  · exact List.forall_mem_cons.2 ⟨.inl rfl, List.forall_mem_singleton.2 (.inr rfl)⟩
  · exact List.forall_mem_nil _

theorem tryAmpdu_no_session (h : params.session = none) (wcid : U8) :
    (tryAmpdu pattern st params).1.reg (wtbl2Dw15 wcid) = st.1.reg (wtbl2Dw15 wcid) :=
  reg_tryApply_other _ fun op hop => wtbl2Dw15_ne_bscr (writes_of_no_session h op hop)

/-- Writing the word that `w` becomes keeps the fields in which `w` is right. -/
theorem keepsOthers_write {s : RegFile} {o : Outcome} {baSize : U8} {enable : Bool} {w : U32}
    (ht : params.baTid < 8) (ho : o.reaches = true) :
    KeepsOthers params s (s.tryWrite o (wtbl2Dw15 params.wcid)
        (baDw15 params.baTid baSize enable w)) ↔
      ∀ t < 8, t ≠ params.baTid.toNat →
        baFields w t = baFields (s.reg (wtbl2Dw15 params.wcid)) t := by
  constructor
  · intro h t h8 hne
    have hkeep := h params.wcid t h8 fun hfor => hne hfor.2.symm
    rwa [reg_tryWrite_same, if_pos ho, baFields_baDw15 ht h8 hne] at hkeep
  · intro h wcid t h8 hfor
    by_cases hwcid : params.wcid = wcid
    · subst hwcid
      have hne : t ≠ params.baTid.toNat := fun he => hfor ⟨rfl, he.symm⟩
      rw [reg_tryWrite_same, if_pos ho, baFields_baDw15 ht h8 hne]
      exact h t h8 hne
    · rw [reg_tryWrite_other fun he => hwcid (wtbl2Dw15_inj he).symm]

/-- **When a call keeps the other TIDs**: exactly if it is safe. -/
theorem tryAmpdu_keeps_iff :
    KeepsOthers params st.1 (tryAmpdu pattern st params).1 ↔ SafeCall pattern st params := by
  obtain ⟨s, k⟩ := st
  cases hs : params.session with
  | none =>
    refine iff_of_true (fun wcid t _ _ => ?_) (.inl hs)
    rw [tryAmpdu_no_session hs]
  | some change =>
    obtain ⟨baSize, enable⟩ := change
    rw [tryAmpdu_session hs]
    by_cases ht : params.baTid < 8
    · rw [if_pos ht]
      by_cases hw : (pattern (k + 1)).reaches = true
      · refine (keepsOthers_write ht hw).trans ?_
        by_cases ho : pattern k = .ok
        · refine iff_of_true (fun t _ _ => ?_) (.inr (.inr (.inl ho)))
          rw [readDw15, if_pos ho]
        · -- the word written is made from 0, so nothing else may be in use
          rw [readDw15, if_neg ho]
          constructor
          · intro h
            exact .inr (.inr (.inr (.inr fun t h8 hne =>
              (h t h8 hne).symm.trans (baFields_zero t))))
          · rintro (h | h | h | h | h)
            · rw [hs] at h
              cases h
            · exact absurd ht (BitVec.not_lt.2 h)
            · exact absurd h ho
            · rw [hw] at h
              cases h
            · exact fun t h8 hne => (baFields_zero t).trans (h t h8 hne).symm
      · refine iff_of_true (fun wcid t _ _ => ?_) (.inr (.inr (.inr (.inl (by simpa using hw)))))
        rw [RegFile.tryWrite, if_neg hw]
    · rw [if_neg ht]
      exact iff_of_true (fun _ _ _ _ => rfl) (.inr (.inl (BitVec.not_lt.1 ht)))

end

/-! ## Runs -/

/-- The registers after a run of calls. -/
def tryAmpdus (pattern : Nat → Outcome) (st : RegFile × Nat) (acts : List AmpduParams) :
    RegFile × Nat := acts.foldl (tryAmpdu pattern) st

/-- Every call of the run is safe where it is made. -/
def SafeRun (pattern : Nat → Outcome) : RegFile × Nat → List AmpduParams → Prop
  | _, [] => True
  | st, params :: acts =>
    SafeCall pattern st params ∧ SafeRun pattern (tryAmpdu pattern st params) acts

section
variable {pattern : Nat → Outcome} {st : RegFile × Nat}

theorem wp_runAmpdus {vif : Vif} {dev : Dev} {acts : List AmpduParams}
    {Q : Dev → RegFile × Nat → Prop} :
    wp (faultyEnv pattern) (runAll vif (acts.map .ampduAction) dev) st Q ↔
      Q dev (tryAmpdus pattern st acts) := by
  induction acts generalizing st with
  | nil => exact wp_ret _
  | cons params acts ih =>
    have hcall : wp (faultyEnv pattern) (Callback.run vif dev (.ampduAction params)) st
        (fun d st' => wp (faultyEnv pattern) (runAll vif (acts.map .ampduAction) d) st' Q) ↔
        wp (faultyEnv pattern) (runAll vif (acts.map .ampduAction) dev)
          (tryAmpdu pattern st params) Q := by
      refine (wp_bind _).trans (wp_ampduAction_faulty.trans ?_)
      exact wp_ret _
    exact (wp_bind _).trans (hcall.trans ih)

theorem SafeRun.append {pre post : List AmpduParams} (h : SafeRun pattern st (pre ++ post)) :
    SafeRun pattern (tryAmpdus pattern st pre) post := by
  induction pre generalizing st with
  | nil => exact h
  | cons params pre ih => exact ih h.2

/-- A TID that no call of a safe run is for keeps its fields. -/
theorem tryAmpdus_keeps {acts : List AmpduParams} (h : SafeRun pattern st acts) {wcid : U8}
    {t : Nat} (h8 : t < 8) (hno : ∀ params ∈ acts, ¬params.IsFor wcid t) :
    baFields ((tryAmpdus pattern st acts).1.reg (wtbl2Dw15 wcid)) t =
      baFields (st.1.reg (wtbl2Dw15 wcid)) t := by
  induction acts generalizing st with
  | nil => rfl
  | cons params acts ih =>
    have hstep := tryAmpdu_keeps_iff.2 h.1 wcid t h8 (hno params (List.mem_cons_self ..))
    exact (ih h.2 fun p hp => hno p (List.mem_cons_of_mem _ hp)).trans hstep

end

/-- **An action for one TID keeps the fields of all others.** In every run of `ampdu_action` calls
on a device that fails by any pattern, if each call changes no session, or reads the word, or fails
to write it, or finds the other TIDs unused: from any state of the run on, a TID that no later call
is for keeps its enable bit and its window. -/
theorem ba_runs_keep_others (pattern : Nat → Outcome) (vif : Vif) (dev dev₁ dev₂ : Dev)
    (pre post : List AmpduParams) (st st₁ st₂ : RegFile × Nat)
    (hsafe : SafeRun pattern st (pre ++ post))
    (hpre : Runs (faultyEnv pattern) (runAll vif (pre.map .ampduAction) dev) st dev₁ st₁)
    (hpost : Runs (faultyEnv pattern) (runAll vif (post.map .ampduAction) dev₁) st₁ dev₂ st₂) :
    ∀ (wcid : U8) (t : Nat), t < 8 → (∀ params ∈ post, ¬params.IsFor wcid t) →
      baFields (st₂.1.reg (wtbl2Dw15 wcid)) t = baFields (st₁.1.reg (wtbl2Dw15 wcid)) t := by
  intro wcid t h8 hno
  have h1 : st₁ = tryAmpdus pattern st pre :=
    wp_runAmpdus (Q := fun _ st' => st' = tryAmpdus pattern st pre).2 rfl dev₁ st₁ hpre
  have h2 : st₂ = tryAmpdus pattern st₁ post :=
    wp_runAmpdus (Q := fun _ st' => st' = tryAmpdus pattern st₁ post).2 rfl dev₂ st₂ hpost
  rw [h2]
  exact tryAmpdus_keeps (h1 ▸ hsafe.append) h8 hno

/-- The code of an access. -/
def Outcome.code (o : Outcome) : Int := if o = .ok then 4 else -5

/-- The answers of a device that fails by a pattern. -/
def faultyDevice (pattern : Nat → Outcome) (st : RegFile × Nat) : (e : Req) → e.Resp × RegFile × Nat
  | .readReg a => (((pattern st.2).code, st.1 a), st.1, st.2 + 1)
  | .writeReg a v =>
    ((pattern st.2).code,
      if (pattern st.2).reaches then fun b => if b = a then v else st.1 b else st.1, st.2 + 1)
  | e => ((regDevice st.1 e).1, st)

theorem faultyDevice_answers {pattern : Nat → Outcome} (st : RegFile × Nat) (e : Req) :
    faultyEnv pattern st e (faultyDevice pattern st e).1 (faultyDevice pattern st e).2 := by
  obtain ⟨s, k⟩ := st
  have hcode : 0 ≤ (pattern k).code ↔ pattern k = .ok := by
    unfold Outcome.code
    split <;> simp [*]
  cases e with
  | readReg a => exact ⟨hcode, fun _ => rfl, rfl⟩
  | writeReg a v => exact ⟨hcode, rfl⟩
  | _ => rfl

/-- A session for TID 1 of the peer, with the largest window. -/
def startTid1 : AmpduParams :=
  ⟨.txOperational, some ⟨0x00, 0x0c, 0x43, 0x76, 0x03, 0x01⟩, 1, 64⟩

/-- An interface, and registers with a live session for TID 0. -/
def baVif : Vif := ⟨0, .station, ⟨0x00, 0x0c, 0x43, 0x76, 0x03, 0x02⟩, none⟩

def tid0Live : RegFile := fun _ => 0x01000007

/-- Without failures, the session of TID 0 stays. -/
theorem ba_runs_keep_tid0 :
    ∃ dev st, Runs (faultyEnv fun _ => .ok)
        (runAll baVif ([startTid1].map .ampduAction) Dev.zeroed) (tid0Live, 0) dev st ∧
      baFields (st.1.reg (wtbl2Dw15 1)) 0 = (true, 7) := by
  have hrun := runs_run (@faultyDevice_answers fun _ => .ok)
    (runAll baVif ([startTid1].map .ampduAction) Dev.zeroed) (tid0Live, 0)
  refine ⟨_, _, hrun, ?_⟩
  exact ba_runs_keep_others _ baVif _ _ _ [] [startTid1] _ (tid0Live, 0) _
    ⟨.inr (.inr (.inl rfl)), trivial⟩ ⟨rfl, rfl⟩ hrun 1 0 (by decide)
    (List.forall_mem_singleton.2 fun h => absurd h.2 (by decide))

/-- The read fails, the write does not: starting a session for TID 1 ends that of TID 0. -/
theorem ba_failed_read_clears_tid0 :
    ∃ dev st, Runs (faultyEnv fun k => if k = 0 then .failed else .ok)
        (runAll baVif ([startTid1].map .ampduAction) Dev.zeroed) (tid0Live, 0) dev st ∧
      ¬startTid1.IsFor 1 0 ∧ baFields (tid0Live.reg (wtbl2Dw15 1)) 0 = (true, 7) ∧
      baFields (st.1.reg (wtbl2Dw15 1)) 0 = (false, 0) := by
  have hrun := runs_run (@faultyDevice_answers fun k => if k = 0 then .failed else .ok)
    (runAll baVif ([startTid1].map .ampduAction) Dev.zeroed) (tid0Live, 0)
  refine ⟨_, _, hrun, fun h => absurd h.2 (by decide), rfl, ?_⟩
  have hst := wp_runAmpdus (Q := fun _ st => st = tryAmpdus _ (tid0Live, 0) [startTid1]).2 rfl
    _ _ hrun
  rw [hst]
  decide

end Driver
