import Mt7603u.Base.Packed
import Mt7603u.Base.Refine
import Mt7603u.Proof.Exchange

/-!
# `SCH_REG4` in and out of bypass mode

`schEnv` is a device that answers as it likes but keeps this register: reads of it that succeed give
its value, writes that fail have no effect, and nothing else changes it. What a part does to the
register is read off its exchange (`schWrites`); a part that does not write it leaves it
(`runs_frame`). `runs_enterBypass` and `runs_leaveBypass` say what the two steps of the download do
to it, and `Restored` what is left of that in the end.
-/

namespace Driver

open Effect Slice Word Rust

/-! ## The register -/

/-- The physical address of `SCH_REG4`. -/
def schAddr : U32 := physicalAddrMap MT7603_SCH_REG4

/-- What a request has written to the register, if it succeeded. -/
def schWritten : (e : Req) → e.Resp → Option U32
  | .writeReg a w, (r : Int) => if a = schAddr ∧ 0 ≤ r then some w else none
  | _, _ => none

/-- The successful writes to the register, in order. -/
def schWrites (tr : List (Event sig)) : List U32 :=
  tr.filterMap fun ev => schWritten ev.req ev.resp

/-- Which answers the register allows. -/
def SchAnswer (v : U32) : (e : Req) → e.Resp → Prop
  | .readReg a, (r, w) => a = schAddr → 0 ≤ r → w = v
  | _, _ => True

/-- The register and the exchange so far. -/
structure SchWorld where
  sch : U32
  log : List (Event sig) := []

/-- A device that keeps the register and is free otherwise. -/
def schEnv : Env sig SchWorld := fun s e r s' =>
  SchAnswer s.sch e r ∧ s' = ⟨(schWritten e r).getD s.sch, s.log ++ [⟨e, r⟩]⟩

@[simp] theorem schWrites_nil : schWrites [] = [] := rfl

@[simp] theorem schWrites_append (t t' : List (Event sig)) :
    schWrites (t ++ t') = schWrites t ++ schWrites t' := List.filterMap_append

theorem schEnv_logged : Logged SchWorld.log schEnv := by
  rintro s e r s' ⟨-, rfl⟩
  rfl

/-- A request that does not write the register. -/
def NoSch (e : Req) : Prop := ∀ v, e ≠ .writeReg schAddr v

theorem schWritten_noSch {e : Req} (h : NoSch e) (r : e.Resp) : schWritten e r = none := by
  cases e with
  | writeReg a w => exact if_neg fun hc => h w (congrArg (Req.writeReg · w) hc.1)
  | _ => rfl

theorem schWritten_ok {v : U32} {r : Int} (h : 0 ≤ r) :
    schWritten (.writeReg (physicalAddrMap MT7603_SCH_REG4) v) r = some v := if_pos ⟨rfl, h⟩

theorem schWritten_fails {v : U32} {r : Int} (h : ¬0 ≤ r) :
    schWritten (.writeReg (physicalAddrMap MT7603_SCH_REG4) v) r = none := if_neg fun hc => h hc.2

/-- **The register keeps its value** over a part that does not write it. -/
theorem runs_frame {α : Type} {p : P α} {s s' : SchWorld} {a : α} (hp : All (S := sig) NoSch p)
    (h : Runs schEnv p s a s') :
    s'.sch = s.sch ∧ ∃ tr, s'.log = s.log ++ tr ∧ Trace p tr a ∧ schWrites tr = [] := by
  obtain ⟨tr, hlog, ht⟩ := runs_trace schEnv_logged h
  refine ⟨?_, tr, hlog, ht, ?_⟩
  · refine runs_inv (D := schEnv) (I := fun w => w.sch = s.sch) ?_ hp h rfl
    rintro w e r w' he ⟨-, rfl⟩ hw
    dsimp only
    rw [schWritten_noSch he]
    exact hw
  · have hq := trace_all hp ht
    exact List.filterMap_eq_nil_iff.2 fun ev hev => schWritten_noSch (hq ev hev) _

/-! ## Its accesses -/

section
variable {s s' : SchWorld}

theorem runs_readSch {val : U32} {x : Int × U32}
    (h : Runs schEnv (usbReadReg MT7603_SCH_REG4 val) s x s') :
    ∃ r w, s'.sch = s.sch ∧ s'.log = s.log ++ [readEvent MT7603_SCH_REG4 r w] ∧
      x = (if 0 ≤ r then (0, s.sch) else (r, val)) := by
  obtain ⟨⟨r, w⟩, s₁, h1, rfl, rfl⟩ := (runs_bind _).1 h
  obtain ⟨y, s₂, ⟨ha, rfl⟩, rfl, rfl⟩ := h1
  refine ⟨r, w, rfl, rfl, ?_⟩
  by_cases hr : 0 ≤ r
  · rw [if_pos hr, if_pos hr, ha rfl hr]
  · rw [if_neg hr, if_neg hr]

theorem runs_writeSch {val : U32} {ret : Int}
    (h : Runs schEnv (usbWriteReg MT7603_SCH_REG4 val) s ret s') :
    ∃ r, s'.sch = (if 0 ≤ r then val else s.sch) ∧
      s'.log = s.log ++ [writeEvent MT7603_SCH_REG4 val r] ∧ ret = if r < 0 then r else 0 := by
  obtain ⟨r, s₁, h1, rfl, rfl⟩ := (runs_bind _).1 h
  obtain ⟨y, s₂, ⟨-, rfl⟩, rfl, rfl⟩ := h1
  refine ⟨r, ?_, rfl, rfl⟩
  dsimp only
  by_cases hr : 0 ≤ r
  · rw [schWritten_ok hr, if_pos hr]
    rfl
  · rw [schWritten_fails hr, if_neg hr]
    rfl

end

theorem schWrites_read {r : Int} {w : U32} : schWrites [readEvent MT7603_SCH_REG4 r w] = [] := rfl

theorem schWrites_write {r : Int} {w : U32} (h : 0 ≤ r) :
    schWrites [writeEvent MT7603_SCH_REG4 w r] = [w] :=
  List.filterMap_cons_some (schWritten_ok h)

theorem schWrites_write_fails {r : Int} {w : U32} (h : ¬0 ≤ r) :
    schWrites [writeEvent MT7603_SCH_REG4 w r] = [] :=
  List.filterMap_cons_none (schWritten_fails h)

/-! ## In and out of bypass mode -/

/-- Bypass on, the queue of USB forced. -/
def bypassed (v : U32) : U32 :=
  (((v &&& ~~~MT7603_SCH_REG4_BYPASS_MODE_MASK) ||| MT7603_SCH_REG4_BYPASS_MODE_MASK) &&&
    ~~~MT7603_SCH_REG4_FORCE_QID_MASK) ||| MT7603_SCH_REG4_FORCE_QID_USB

/-- Bypass off, no queue forced. -/
def unforced (v : U32) : U32 :=
  v &&& ~~~MT7603_SCH_REG4_BYPASS_MODE_MASK &&& ~~~MT7603_SCH_REG4_FORCE_QID_MASK

/-- The register before the download, with bypass, queue and reset bits clear. -/
structure Restored (before after : U32) : Prop where
  bypass : after.getLsbD 5 = false
  forceQid : after.extractLsb' 0 4 = 0
  pseReset : after.getLsbD 8 = false
  rest : ∀ i, 4 ≤ i → i ≠ 5 → i ≠ 8 → after.getLsbD i = before.getLsbD i

theorem forceQid_getLsbD (i : Nat) :
    MT7603_SCH_REG4_FORCE_QID_MASK.getLsbD i = decide (i < 4) := by
  have h := ones_getLsbD 4 0 i
  have hm : BitVec.ofNat 32 (2 ^ 4 - 1) <<< 0 = MT7603_SCH_REG4_FORCE_QID_MASK := by decide
  rw [hm] at h
  rw [h]
  by_cases hi : i < 4
  · simp [hi, show i < 32 by omega]
  · simp [hi]

theorem forceUsb_getLsbD {i : Nat} (hi : 4 ≤ i) :
    MT7603_SCH_REG4_FORCE_QID_USB.getLsbD i = false :=
  Packed.getLsbD_of_lt (n := 4) (by decide) hi

theorem bypassMode_getLsbD {i : Nat} (h5 : i ≠ 5) :
    MT7603_SCH_REG4_BYPASS_MODE_MASK.getLsbD i = false := by
  rw [MT7603_SCH_REG4_BYPASS_MODE_MASK, bit_getLsbD, decide_eq_false h5, Bool.and_false]

theorem bypassed_getLsbD {v : U32} {i : Nat} (hi : i < 32) (h4 : 4 ≤ i) (h5 : i ≠ 5) :
    (bypassed v).getLsbD i = v.getLsbD i := by
  simp only [bypassed, BitVec.getLsbD_or, BitVec.getLsbD_and, BitVec.getLsbD_not,
    bypassMode_getLsbD h5, forceQid_getLsbD, forceUsb_getLsbD h4, hi, Nat.not_lt.2 h4, decide_true,
    decide_false, Bool.not_false, Bool.and_true, Bool.or_false]

theorem unforced_getLsbD {v : U32} {i : Nat} (hi : i < 32) :
    (unforced v).getLsbD i = (v.getLsbD i && decide (4 ≤ i ∧ i ≠ 5)) := by
  simp only [unforced, BitVec.getLsbD_and, BitVec.getLsbD_not, forceQid_getLsbD, hi, decide_true,
    Bool.true_and]
  by_cases h5 : i = 5
  · subst h5
    simp [MT7603_SCH_REG4_BYPASS_MODE_MASK, bit_getLsbD]
  · rw [bypassMode_getLsbD h5]
    by_cases h4 : i < 4
    · simp [h4, Nat.not_le.2 h4]
    · simp [h4, h5, Nat.not_lt.1 h4]

/-- What the restore step does to a register in bypass mode. -/
theorem unforced_bypassed (v : U32) : unforced (bypassed v) = unforced v := by
  apply BitVec.eq_of_getLsbD_eq
  intro i hi
  rw [unforced_getLsbD hi, unforced_getLsbD hi]
  by_cases h : 4 ≤ i ∧ i ≠ 5
  · rw [bypassed_getLsbD hi h.1 h.2]
  · simp only [h, decide_false, Bool.and_false]

theorem restored_pulse (v : U32) :
    Restored v ((unforced v ||| MT7603_SCH_REG4_PSE_RESET_BIT) &&&
      ~~~MT7603_SCH_REG4_PSE_RESET_BIT) := by
  have hbit : ∀ i < 32, ((unforced v ||| MT7603_SCH_REG4_PSE_RESET_BIT) &&&
      ~~~MT7603_SCH_REG4_PSE_RESET_BIT).getLsbD i =
        (v.getLsbD i && decide (4 ≤ i ∧ i ≠ 5 ∧ i ≠ 8)) := by
    intro i hi
    rw [BitVec.getLsbD_and, BitVec.getLsbD_or, unforced_getLsbD hi, BitVec.getLsbD_not,
      MT7603_SCH_REG4_PSE_RESET_BIT, bit_getLsbD]
    by_cases h8 : i = 8
    · simp [h8]
    · simp [h8, hi]
  refine ⟨?_, ?_, ?_, ?_⟩
  · rw [hbit 5 (by decide)]
    simp
  · apply BitVec.eq_of_getLsbD_eq
    intro i hi
    rw [BitVec.getLsbD_extractLsb', Nat.zero_add, hbit i (by omega)]
    simp [hi, show ¬4 ≤ i by omega]
  · rw [hbit 8 (by decide)]
    simp
  · intro i h4 h5 h8
    by_cases hi : i < 32
    · rw [hbit i hi]
      simp [h4, h5, h8]
    · rw [BitVec.getLsbD_of_ge _ _ (by omega), BitVec.getLsbD_of_ge _ _ (by omega)]

section
variable {s s' : SchWorld}

/-- **Entering the bypass**: the register is left as it is, or the bypass is on. -/
theorem runs_enterBypass {ret : Int} (h : Runs schEnv enterBypass s ret s') :
    ∃ tr, s'.log = s.log ++ tr ∧
      ((ret < 0 ∧ s'.sch = s.sch ∧ schWrites tr = []) ∨
        (ret = 0 ∧ s'.sch = bypassed s.sch ∧ schWrites tr = [bypassed s.sch])) := by
  obtain ⟨x, s₁, h1, h⟩ := (runs_bind _).1 h
  obtain ⟨r, w, hv₁, hl₁, rfl⟩ := runs_readSch h1
  by_cases hr : 0 ≤ r
  · rw [if_pos hr] at h
    dsimp only at h
    rw [if_neg (Int.lt_irrefl 0)] at h
    obtain ⟨ret₂, s₂, h2, h⟩ := (runs_bind _).1 h
    obtain ⟨r₂, hv₂, hl₂, rfl⟩ := runs_writeSch h2
    by_cases hr₂ : r₂ < 0
    · rw [if_pos hr₂, if_pos hr₂] at h
      obtain ⟨rfl, rfl⟩ := h
      have hn : ¬0 ≤ ret := by omega
      rw [if_neg hn, hv₁] at hv₂
      refine ⟨_, by rw [hl₂, hl₁, List.append_assoc], .inl ⟨hr₂, hv₂, ?_⟩⟩
      rw [schWrites_append, schWrites_read, schWrites_write_fails hn]
      rfl
    · rw [if_neg hr₂, if_neg (Int.lt_irrefl 0)] at h
      obtain ⟨y, s₃, h3, rfl, rfl⟩ := (runs_bind _).1 h
      obtain ⟨r₃, w₃, hv₃, hl₃, -⟩ := runs_readSch h3
      have hp : 0 ≤ r₂ := by omega
      rw [if_pos hp] at hv₂
      refine ⟨_, by rw [hl₃, hl₂, hl₁, List.append_assoc, List.append_assoc],
        .inr ⟨rfl, hv₃.trans hv₂, ?_⟩⟩
      rw [schWrites_append, schWrites_append, schWrites_read, schWrites_write hp, schWrites_read]
      rfl
  · rw [if_neg hr] at h
    dsimp only at h
    rw [if_pos (by omega)] at h
    obtain ⟨rfl, rfl⟩ := h
    exact ⟨_, hl₁, .inl ⟨by omega, hv₁, rfl⟩⟩

/-- A register access that succeeded. -/
def Succeeds : (e : Req) → e.Resp → Prop
  | .readReg _, (r, _) => 0 ≤ r
  | .writeReg _ _, (r : Int) => 0 ≤ r
  | _, _ => True

/-- **Leaving the bypass**: if its accesses succeed the register is restored, with one pulse on the
reset bit. -/
theorem runs_leaveBypass {x : Unit} (h : Runs schEnv leaveBypass s x s') :
    ∃ post, s'.log = s.log ++ post ∧ Trace leaveBypass post x ∧
      ((∀ ev ∈ post, Succeeds ev.req ev.resp) →
        s'.sch = (unforced s.sch ||| MT7603_SCH_REG4_PSE_RESET_BIT) &&&
            ~~~MT7603_SCH_REG4_PSE_RESET_BIT ∧
          schWrites post = [unforced s.sch, unforced s.sch ||| MT7603_SCH_REG4_PSE_RESET_BIT,
            (unforced s.sch ||| MT7603_SCH_REG4_PSE_RESET_BIT) &&&
              ~~~MT7603_SCH_REG4_PSE_RESET_BIT]) := by
  obtain ⟨post, hlog, ht⟩ := runs_trace schEnv_logged h
  refine ⟨post, hlog, ht, fun hok => ?_⟩
  obtain ⟨y, s₁, h1, h⟩ := (runs_bind _).1 h
  obtain ⟨r, w, hv₁, hl₁, rfl⟩ := runs_readSch h1
  by_cases hr : 0 ≤ r
  · rw [if_pos hr] at h
    dsimp only at h
    rw [if_pos rfl] at h
    obtain ⟨ret₂, s₂, h2, h⟩ := (runs_bind _).1 h
    obtain ⟨ret₃, s₃, h3, h⟩ := (runs_bind _).1 h
    obtain ⟨ret₄, s₄, h4, rfl, rfl⟩ := (runs_bind _).1 h
    obtain ⟨r₂, hv₂, hl₂, -⟩ := runs_writeSch h2
    obtain ⟨r₃, hv₃, hl₃, -⟩ := runs_writeSch h3
    obtain ⟨r₄, hv₄, hl₄, -⟩ := runs_writeSch h4
    rw [hl₄, hl₃, hl₂, hl₁, List.append_assoc, List.append_assoc, List.append_assoc] at hlog
    obtain rfl := List.append_cancel_left hlog
    obtain ⟨-, hok⟩ := List.forall_mem_append.1 hok
    obtain ⟨hw₂, hok⟩ := List.forall_mem_append.1 hok
    obtain ⟨hw₃, hw₄⟩ := List.forall_mem_append.1 hok
    have hok₂ : 0 ≤ r₂ := hw₂ _ List.mem_cons_self
    have hok₃ : 0 ≤ r₃ := hw₃ _ List.mem_cons_self
    have hok₄ : 0 ≤ r₄ := hw₄ _ List.mem_cons_self
    rw [if_pos hok₄] at hv₄
    refine ⟨hv₄, ?_⟩
    rw [schWrites_append, schWrites_append, schWrites_append, schWrites_read,
      schWrites_write hok₂, schWrites_write hok₃, schWrites_write hok₄]
    rfl
  · rw [if_neg hr] at h
    dsimp only at h
    rw [if_neg (by omega)] at h
    obtain ⟨rfl, rfl⟩ := h
    rw [hl₁] at hlog
    obtain rfl := List.append_cancel_left hlog
    exact absurd (hok (readEvent MT7603_SCH_REG4 r w) (by simp)) hr

end

end Driver
