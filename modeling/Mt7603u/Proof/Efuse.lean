import Mt7603u.Driver.Efuse
import Mt7603u.Proof.Exchange
import Mt7603u.Proof.RxReport

/-!
# The eFuse image is assembled faithfully

`efuseEnv content stuck` is the controller as the driver uses it: a write of `EFUSE_CTRL` with
`KICK` starts the read of a block, reads of the register keep `KICK` set for as long as the
controller likes (for ever, if the block is `stuck`) and then say whether the block exists, and the
data registers hold it. Any access may fail.

`logs_readBlock` is what the read of one block does (`BlockRun`), `logs_blocks` the loop over them.
For the whole image that is `efuseReadAll_faithful`; `logs_register` is what registration makes of
it.
-/

namespace Driver

open Effect Slice Word Rust

/-! ## The controller -/

inductive EfuseState
  | idle
  | busy (addr : Nat)
  | done (addr : Nat)

/-- The block at an address, if it exists. -/
abbrev EfuseContent := Nat → Option (Vector U8 16)

/-- The controller has finished with the block at `addr`, and the status says if it exists. -/
def Finished (content : EfuseContent) (addr : Nat) (w : U32) : Prop :=
  w &&& MT_EFUSE_CTRL_KICK = 0 ∧ ((content addr).isSome ↔
    ¬(w &&& MT_EFUSE_CTRL_AOUT = MT_EFUSE_CTRL_AOUT ∨ w &&& MT_EFUSE_CTRL_VALID = 0))

/-- `EFUSE_CTRL` reads `w`. -/
def CtrlAnswer (content : EfuseContent) (stuck : Nat → Prop) (w : U32) :
    EfuseState → EfuseState → Prop
  | .idle, s' => s' = .idle
  | .busy a, s' => (w &&& MT_EFUSE_CTRL_KICK ≠ 0 ∧ s' = .busy a) ∨
      (¬stuck a ∧ Finished content a w ∧ s' = .done a)
  | .done a, s' => Finished content a w ∧ s' = .done a

/-- Word `n` of a block. -/
def blockWord (b : Vector U8 16) (n : Nat) : U32 :=
  le32 (b.getD (4 * n) 0) (b.getD (4 * n + 1) 0) (b.getD (4 * n + 2) 0) (b.getD (4 * n + 3) 0)

/-- `EFUSE_RDATA` number `n` reads `w`. -/
def DataAnswer (content : EfuseContent) (n : Nat) (w : U32) : EfuseState → Prop
  | .done a => ∀ b, content a = some b → w = blockWord b n
  | _ => True

/-- The address field of a value written to `EFUSE_CTRL`. -/
def ainOf (v : U32) : Nat := ((v &&& MT_EFUSE_CTRL_AIN) >>> 16).toNat

/-- The controller. After an access that fails it may be in any state. -/
def efuseEnv (content : EfuseContent) (stuck : Nat → Prop) : Env sig EfuseState
  | s, .readReg a, r, s' => (0 : Int) ≤ r.1 →
      (a = MT_EFUSE_CTRL → CtrlAnswer content stuck r.2 s s') ∧
      (a ≠ MT_EFUSE_CTRL → s' = s ∧ ∀ n < 4, a = MT_EFUSE_RDATA n → DataAnswer content n r.2 s)
  | _, .writeReg a v, r, s' =>
      (0 : Int) ≤ r → a = MT_EFUSE_CTRL → v &&& MT_EFUSE_CTRL_KICK ≠ 0 → s' = .busy (ainOf v)
  | s, _, _, s' => s' = s

/-- The bytes of a block. -/
def blockBytes : Option (Vector U8 16) → List U8
  | some b => b.toList
  | none => List.replicate 16 0xff

/-- The first `n` blocks. -/
def efuseImage (content : EfuseContent) (n : Nat) : List U8 :=
  (List.range n).flatMap fun k => blockBytes (content (16 * k))

@[simp] theorem length_blockBytes (b : Option (Vector U8 16)) : (blockBytes b).length = 16 := by
  cases b with
  | none => exact List.length_replicate
  | some b => exact b.length_toList

theorem efuseImage_succ (content : EfuseContent) (n : Nat) :
    efuseImage content (n + 1) = efuseImage content n ++ blockBytes (content (16 * n)) := by
  simp [efuseImage, List.range_succ]

theorem length_efuseImage (content : EfuseContent) (n : Nat) :
    (efuseImage content n).length = 16 * n := by
  induction n with
  | zero => rfl
  | succ n ih =>
    rw [efuseImage_succ, List.length_append, ih, length_blockBytes]
    omega

/-! ## Exchanges -/

def accessFailed : (e : Req) → e.Resp → Prop
  | .readReg _, r => (r.1 : Int) < 0
  | .writeReg _ _, (r : Int) => r < 0
  | _, _ => False

/-- The fields of `EFUSE_CTRL` the driver sets. -/
def efuseFields : U32 := MT_EFUSE_CTRL_AIN ||| MT_EFUSE_CTRL_MODE ||| MT_EFUSE_CTRL_KICK

/-- A write of `EFUSE_CTRL` follows a read of it and changes the fields only. -/
def OnlyFields (tr : List (Event sig)) : Prop :=
  ∀ t₁ v r t₂, tr = t₁ ++ ⟨.writeReg MT_EFUSE_CTRL v, r⟩ :: t₂ →
    ∃ t₀, ∃ r' : Int, ∃ w, t₁ = t₀ ++ [⟨.readReg MT_EFUSE_CTRL, (r', w)⟩] ∧ 0 ≤ r' ∧
      v &&& ~~~efuseFields = w &&& ~~~efuseFields

/-- An access that fails is the end, with an error. -/
def FailsLast (ret : Int) (tr : List (Event sig)) : Prop :=
  ∀ t₁ ev t₂, tr = t₁ ++ ev :: t₂ → accessFailed ev.req ev.resp → t₂ = [] ∧ ret < 0

def kicksCtrl : Req → Bool
  | .writeReg a _ => a = MT_EFUSE_CTRL
  | _ => false

/-- How many reads of a block were started. -/
def kicks (tr : List (Event sig)) : Nat := tr.countP fun ev => kicksCtrl ev.req

@[simp] theorem kicks_append (t t' : List (Event sig)) : kicks (t ++ t') = kicks t + kicks t' :=
  List.countP_append

/-- Where an event of a composed exchange lies. -/
theorem append_eq_split {t t' t₁ t₂ : List (Event sig)} {ev : Event sig}
    (h : t ++ t' = t₁ ++ ev :: t₂) :
    (∃ u, t = t₁ ++ ev :: u ∧ t₂ = u ++ t') ∨ ∃ u, t' = u ++ ev :: t₂ ∧ t₁ = t ++ u := by
  rcases List.append_eq_append_iff.1 h with ⟨u, rfl, rfl⟩ | ⟨u, rfl, hu⟩
  · exact .inr ⟨u, rfl, rfl⟩
  · cases u with
    | nil => exact .inr ⟨[], hu.symm, by simp⟩
    | cons e u =>
      obtain ⟨rfl, rfl⟩ := List.cons.inj hu
      exact .inl ⟨u, rfl, rfl⟩

/-- What holds of every part of the exchange: its writes change the fields only, an access that
fails is the end, and the code is 0 or an error. -/
structure Segment (ret : Int) (tr : List (Event sig)) : Prop where
  fields : OnlyFields tr
  last : FailsLast ret tr
  code : ret ≤ 0

theorem segment_nil {ret : Int} (h : ret ≤ 0) : Segment ret [] := by
  refine ⟨?_, ?_, h⟩
  · intro t₁ v r t₂ h
    simp at h
  · intro t₁ ev t₂ h
    simp at h

/-- A part that goes through, and the next one. -/
theorem Segment.append {ret : Int} {t t' : List (Event sig)} (h : Segment 0 t)
    (h' : Segment ret t') : Segment ret (t ++ t') := by
  refine ⟨?_, ?_, h'.code⟩
  · intro t₁ v r t₂ he
    rcases append_eq_split he with ⟨u, rfl, -⟩ | ⟨u, rfl, rfl⟩
    · exact h.fields t₁ v r u rfl
    · obtain ⟨t₀, r', w, rfl, hr, hw⟩ := h'.fields u v r t₂ rfl
      exact ⟨t ++ t₀, r', w, by rw [List.append_assoc], hr, hw⟩
  · intro t₁ ev t₂ he hf
    rcases append_eq_split he with ⟨u, rfl, -⟩ | ⟨u, rfl, -⟩
    · exact absurd (h.last t₁ ev u rfl hf).2 (Int.lt_irrefl 0)
    · exact h'.last u ev t₂ rfl hf

/-- A part that goes through, after which the driver gives up. -/
theorem Segment.gives_up {ret : Int} {t : List (Event sig)} (h : Segment 0 t) (hr : ret ≤ 0) :
    Segment ret t := by
  rw [← List.append_nil t]
  exact h.append (segment_nil hr)

theorem eq_singleton {t₁ t₂ : List (Event sig)} {ev ev' : Event sig}
    (h : [ev] = t₁ ++ ev' :: t₂) : ev' = ev ∧ t₁ = [] ∧ t₂ = [] := by
  cases t₁ with
  | nil =>
    obtain ⟨rfl, rfl⟩ := List.cons.inj h
    exact ⟨rfl, rfl, rfl⟩
  | cons e t₁ => simp at h

theorem segment_read {addr : U32} {r : Int} {w : U32} :
    Segment (if 0 ≤ r then 0 else r) [⟨.readReg addr, (r, w)⟩] := by
  refine ⟨?_, ?_, by omega⟩
  · intro t₁ v r t₂ he
    cases (eq_singleton he).1
  · intro t₁ ev t₂ he hf
    obtain ⟨rfl, -, rfl⟩ := eq_singleton he
    have hr : r < 0 := hf
    rw [if_neg (by omega)]
    exact ⟨rfl, hr⟩

/-- The read of `EFUSE_CTRL` and the write that starts a block. -/
theorem segment_kick {r r' : Int} {v w : U32} (hr : 0 ≤ r)
    (hw : v &&& ~~~efuseFields = w &&& ~~~efuseFields) :
    Segment (if r' < 0 then r' else 0)
      [⟨.readReg MT_EFUSE_CTRL, (r, w)⟩, ⟨.writeReg MT_EFUSE_CTRL v, r'⟩] := by
  refine ⟨?_, ?_, by omega⟩
  · intro t₁ v' x t₂ he
    rcases append_eq_split (t := [⟨.readReg MT_EFUSE_CTRL, (r, w)⟩]) he with
      ⟨u, hu, -⟩ | ⟨u, hu, rfl⟩
    · cases (eq_singleton hu).1
    · obtain ⟨hev, rfl, -⟩ := eq_singleton hu
      cases hev
      exact ⟨[], r, w, by simp, hr, hw⟩
  · intro t₁ ev t₂ he hf
    rcases append_eq_split (t := [⟨.readReg MT_EFUSE_CTRL, (r, w)⟩]) he with
      ⟨u, hu, -⟩ | ⟨u, hu, rfl⟩
    · obtain ⟨rfl, -, -⟩ := eq_singleton hu
      have hneg : r < 0 := hf
      omega
    · obtain ⟨rfl, -, rfl⟩ := eq_singleton hu
      have hneg : r' < 0 := hf
      rw [if_pos hneg]
      exact ⟨rfl, hneg⟩

/-! ## Accesses -/

section
variable {content : EfuseContent} {stuck : Nat → Prop} {s s' : EfuseState} {tr : List (Event sig)}

theorem logs_usbReadReg {addr val : U32} {x : Int × U32}
    (h : Logs (efuseEnv content stuck) (usbReadReg addr val) s tr x s') :
    ∃ r : Int, ∃ w, tr = [⟨.readReg (physicalAddrMap addr), (r, w)⟩] ∧
      efuseEnv content stuck s (.readReg (physicalAddrMap addr)) (r, w) s' ∧
      x = if 0 ≤ r then (0, w) else (r, val) := by
  obtain ⟨⟨r, w⟩, s₁, t₁, t₂, rfl, h1, rfl, rfl, rfl⟩ := logs_bind.1 h
  obtain ⟨hD, rfl⟩ := (logs_request (S := sig) (e := .readReg (physicalAddrMap addr))).1 h1
  exact ⟨r, w, rfl, hD, rfl⟩

theorem logs_usbWriteReg {addr val : U32} {ret : Int}
    (h : Logs (efuseEnv content stuck) (usbWriteReg addr val) s tr ret s') :
    ∃ r : Int, tr = [⟨.writeReg (physicalAddrMap addr) val, r⟩] ∧
      efuseEnv content stuck s (.writeReg (physicalAddrMap addr) val) r s' ∧
      ret = if r < 0 then r else 0 := by
  obtain ⟨r, s₁, t₁, t₂, rfl, h1, rfl, rfl, rfl⟩ := logs_bind.1 h
  obtain ⟨hD, rfl⟩ := (logs_request (S := sig) (e := .writeReg (physicalAddrMap addr) val)).1 h1
  exact ⟨r, rfl, hD, rfl⟩

/-- A read that fails is the end; `k` goes on as `q` does after one that works. -/
theorem logs_readThen {α : Type} {addr val : U32} {k : Int × U32 → P α} (q : U32 → P α)
    {end' : Int → U32 → α} {out : α}
    (h : Logs (efuseEnv content stuck) (usbReadReg addr val >>= k) s tr out s')
    (hend : ∀ r v, r ≠ 0 → k (r, v) = return (end' r v)) (hq : ∀ v, k (0, v) = q v) :
    (∃ r w, r < 0 ∧ tr = [⟨.readReg (physicalAddrMap addr), (r, w)⟩] ∧ out = end' r val) ∨
      ∃ r w s₁ t, 0 ≤ r ∧ tr = [⟨.readReg (physicalAddrMap addr), (r, w)⟩] ++ t ∧
        efuseEnv content stuck s (.readReg (physicalAddrMap addr)) (r, w) s₁ ∧
        Logs (efuseEnv content stuck) (q w) s₁ t out s' := by
  obtain ⟨x, s₁, t₁, t₂, rfl, h1, h2⟩ := logs_bind.1 h
  obtain ⟨r, w, rfl, hD, rfl⟩ := logs_usbReadReg h1
  by_cases hr : 0 ≤ r
  · rw [if_pos hr, hq] at h2
    exact .inr ⟨r, w, s₁, t₂, hr, rfl, hD, h2⟩
  · rw [if_neg hr, hend r val (by omega)] at h2
    obtain ⟨rfl, rfl, rfl⟩ := h2
    exact .inl ⟨r, w, by omega, by simp, rfl⟩

end

theorem segment_readFails {addr : U32} {r : Int} {w : U32} (h : r < 0) :
    Segment r [⟨.readReg addr, (r, w)⟩] := by
  have hseg := @segment_read addr r w
  rwa [if_neg (by omega)] at hseg

theorem segment_readWorks {addr : U32} {r : Int} {w : U32} (h : 0 ≤ r) :
    Segment 0 [⟨.readReg addr, (r, w)⟩] := by
  have hseg := @segment_read addr r w
  rwa [if_pos h] at hseg

/-! ## The value that starts a block -/

/-- What is or-ed into `EFUSE_CTRL` for block `k`. -/
def kickBits (k : Nat) : U32 :=
  ((BitVec.ofNat 16 (16 * k)).setWidth 32 &&& ~~~0xf) <<< 16 ||| MT_EFUSE_CTRL_KICK

theorem kickBits_spec : ∀ k < 64, ainOf (kickBits k) = 16 * k ∧
    kickBits k &&& MT_EFUSE_CTRL_KICK = MT_EFUSE_CTRL_KICK ∧
    kickBits k &&& ~~~efuseFields = 0#32 := by
  decide +kernel

section
variable {w : U32} {k : Nat}

theorem efuseKick_eq : efuseKick w (BitVec.ofNat 16 (16 * k)) =
    (w &&& ~~~(MT_EFUSE_CTRL_AIN ||| MT_EFUSE_CTRL_MODE)) ||| kickBits k := rfl

/-- A mask, seen through another. -/
theorem efuseKick_and {m : U32} : efuseKick w (BitVec.ofNat 16 (16 * k)) &&& m =
    w &&& (~~~(MT_EFUSE_CTRL_AIN ||| MT_EFUSE_CTRL_MODE) &&& m) ||| kickBits k &&& m := by
  rw [efuseKick_eq, BitVec.and_comm, BitVec.and_or_distrib_left, BitVec.and_comm m,
    BitVec.and_comm m, BitVec.and_assoc]

/-- The address field is the block's address. -/
theorem ainOf_efuseKick (hk : k < 64) :
    ainOf (efuseKick w (BitVec.ofNat 16 (16 * k))) = 16 * k := by
  have hmask : ~~~(MT_EFUSE_CTRL_AIN ||| MT_EFUSE_CTRL_MODE) &&& MT_EFUSE_CTRL_AIN = 0#32 := by
    decide
  rw [ainOf, efuseKick_and, hmask, BitVec.and_zero, BitVec.zero_or]
  exact (kickBits_spec k hk).1

theorem efuseKick_kick (hk : k < 64) :
    efuseKick w (BitVec.ofNat 16 (16 * k)) &&& MT_EFUSE_CTRL_KICK ≠ 0 := by
  rw [efuseKick_and, (kickBits_spec k hk).2.1]
  intro h
  have hbit := congrArg (·.getLsbD 30) h
  simp [MT_EFUSE_CTRL_KICK] at hbit

theorem efuseKick_fields (hk : k < 64) :
    efuseKick w (BitVec.ofNat 16 (16 * k)) &&& ~~~efuseFields = w &&& ~~~efuseFields := by
  have hmask : ~~~(MT_EFUSE_CTRL_AIN ||| MT_EFUSE_CTRL_MODE) &&& ~~~efuseFields =
      ~~~efuseFields := by decide
  rw [efuseKick_and, hmask, (kickBits_spec k hk).2.2, BitVec.or_zero]

end

/-! ## One block -/

section
variable {content : EfuseContent} {stuck : Nat → Prop} {s' : EfuseState} {tr : List (Event sig)}
  {a : Nat}

/-- **Polling**: as long as the controller is busy `KICK` reads set, so with `KICK` clear it is done
with the block. -/
theorem logs_poll {n : Nat} {val : U32} {out : Int × U32} (hval : val &&& MT_EFUSE_CTRL_KICK ≠ 0)
    (h : Logs (efuseEnv content stuck) (efusePoll n val) (.busy a) tr out s') :
    Segment out.1 tr ∧ kicks tr = 0 ∧ (out.1 = 0 → out.2 &&& MT_EFUSE_CTRL_KICK = 0 →
      ¬stuck a ∧ s' = .done a) := by
  induction n generalizing val tr with
  | zero =>
    obtain ⟨rfl, rfl, rfl⟩ := h
    exact ⟨segment_nil (Int.le_refl 0), rfl, fun _ hclear => absurd hclear hval⟩
  | succ n ih =>
    rcases logs_readThen (fun w => if w &&& MT_EFUSE_CTRL_KICK = 0 then return (0, w)
      else efusePoll n w) h (fun r v hr => if_pos hr) (fun v => rfl) with
      ⟨r, w, hr, rfl, rfl⟩ | ⟨r, w, s₁, t, hr, rfl, hD, hk⟩
    · exact ⟨segment_readFails hr, rfl, fun h0 => absurd h0 (by dsimp only; omega)⟩
    · have hseg := @segment_readWorks (physicalAddrMap MT_EFUSE_CTRL) r w hr
      have hans : CtrlAnswer content stuck w (.busy a) s₁ := (hD hr).1 rfl
      split at hk
      · rename_i hclear
        obtain ⟨rfl, rfl, rfl⟩ := hk
        rw [List.append_nil]
        refine ⟨hseg, rfl, fun _ _ => ?_⟩
        rcases hans with ⟨hset, -⟩ | ⟨hfree, -, rfl⟩
        · exact absurd hclear hset
        · exact ⟨hfree, rfl⟩
      · rename_i hset
        rcases hans with ⟨-, rfl⟩ | ⟨-, hfin, -⟩
        · obtain ⟨hseg', hkicks, hdone⟩ := ih hset hk
          exact ⟨hseg.append hseg', by rw [kicks_append, hkicks]; rfl, hdone⟩
        · exact absurd hfin.1 hset

theorem rdata_ne_ctrl : ∀ n < 4, physicalAddrMap (MT_EFUSE_RDATA n) = MT_EFUSE_RDATA n ∧
    MT_EFUSE_RDATA n ≠ MT_EFUSE_CTRL := by
  decide

/-- Reads that put something into the first 16 bytes of `data`, or fail on the way. -/
structure Fetches (data : List U8) (out : Int × List U8) (tr : List (Event sig)) : Prop where
  segment : Segment out.1 tr
  no_kick : kicks tr = 0
  rest : out.2.drop 16 = data.drop 16
  length : out.2.length = data.length

theorem fetches_none {data : List U8} {ret : Int} (h : Segment ret tr) (hk : kicks tr = 0) :
    Fetches data (ret, data) tr := ⟨h, hk, rfl, rfl⟩

theorem Fetches.after {data : List U8} {out : Int × List U8} {t : List (Event sig)}
    (h : Fetches data out tr) (ht : Segment 0 t) (hk : kicks t = 0) :
    Fetches data out (t ++ tr) :=
  ⟨ht.append h.segment, by rw [kicks_append, hk, h.no_kick], h.rest, h.length⟩

/-- The words of a block that exists, over what `data` holds. -/
def withWords (b : Vector U8 16) (is : List Nat) (data : List U8) : List U8 :=
  is.foldl (fun d i => overwrite (4 * i) (toLe32 (blockWord b i)) d) data

theorem logs_words {b : Vector U8 16} (hb : content a = some b) {is : List Nat}
    (his : ∀ i ∈ is, i < 4) {data : List U8} (h16 : 16 ≤ data.length) {out : Int × List U8}
    (h : Logs (efuseEnv content stuck) (efuseWords is data) (.done a) tr out s') :
    Fetches data out tr ∧ (out.1 = 0 → out.2 = withWords b is data) := by
  induction is generalizing data tr with
  | nil =>
    obtain ⟨rfl, rfl, rfl⟩ := h
    exact ⟨fetches_none (segment_nil (Int.le_refl 0)) rfl, fun _ => rfl⟩
  | cons i is ih =>
    have hi := his i (by simp)
    obtain ⟨hmap, hne⟩ := rdata_ne_ctrl i hi
    rcases logs_readThen (fun w => efuseWords is (overwrite (4 * i) (toLe32 w) data)) h
      (fun r v hr => if_pos hr) (fun v => rfl) with
      ⟨r, w, hr, rfl, rfl⟩ | ⟨r, w, s₁, t, hr, rfl, hD, hk⟩
    · exact ⟨fetches_none (segment_readFails hr) rfl, fun h0 => absurd h0 (by dsimp only; omega)⟩
    · obtain ⟨rfl, hdata⟩ := (hD hr).2 (by rw [hmap]; exact hne)
      obtain rfl : w = blockWord b i := hdata i hi hmap b hb
      have hlen : (overwrite (4 * i) (toLe32 (blockWord b i)) data).length = data.length :=
        length_overwrite (by rw [length_toLe32]; omega)
      obtain ⟨hf, hok⟩ := ih (fun j hj => his j (List.mem_cons_of_mem _ hj)) (by omega) hk
      have hrest : (overwrite (4 * i) (toLe32 (blockWord b i)) data).drop 16 = data.drop 16 :=
        drop_overwrite (by omega) (by rw [length_toLe32]; omega)
      have hd : Fetches data out t :=
        ⟨hf.segment, hf.no_kick, hf.rest.trans hrest, hf.length.trans hlen⟩
      exact ⟨hd.after (segment_readWorks hr) rfl, hok⟩

end

theorem toList_block (b : Vector U8 16) :
    toLe32 (blockWord b 0) ++ toLe32 (blockWord b 1) ++ toLe32 (blockWord b 2) ++
      toLe32 (blockWord b 3) = b.toList := by
  unfold blockWord
  rw [toLe32_le32, toLe32_le32, toLe32_le32, toLe32_le32]
  obtain ⟨⟨l⟩, hl⟩ := b
  match l, hl with
  | [_, _, _, _, _, _, _, _, _, _, _, _, _, _, _, _], _ => rfl

/-- The four words are the block. -/
theorem withWords_all (b : Vector U8 16) (data : List U8) :
    withWords b [0, 1, 2, 3] data = b.toList ++ data.drop 16 := by
  rw [← toList_block]
  simp only [withWords, List.foldl_cons, List.foldl_nil]
  rw [overwrite_zero, @overwrite_behind _ (4 * 1) _ _ _ rfl, @overwrite_behind _ (4 * 2) _ _ _ rfl,
    @overwrite_behind _ (4 * 3) _ _ _ rfl]
  simp only [length_toLe32, List.drop_drop]

/-- What the read of a block does, with the buffer behind its pointer. -/
structure BlockRun (content : EfuseContent) (stuck : Nat → Prop) (addr : Nat) (data : List U8)
    (out : Int × List U8) (tr : List (Event sig)) : Prop where
  segment : Segment out.1 tr
  kicks_le : kicks tr ≤ 1
  untouched : kicks tr = 0 → out.1 ≠ 0 ∧ out.2 = data
  rest : out.2.drop 16 = data.drop 16
  length : out.2.length = data.length
  block : out.1 = 0 → ¬stuck addr ∧ out.2.take 16 = blockBytes (content addr)

/-- The end of `efuseReadBlock`, once `KICK` is clear. -/
def fetchBlock (data : List U8) (val : U32) : P (Int × List U8) := do
  let (ret, val) ← usbReadReg MT_EFUSE_CTRL val
  if ret ≠ 0 then return (ret, data)
  else if val &&& MT_EFUSE_CTRL_AOUT = MT_EFUSE_CTRL_AOUT ∨ val &&& MT_EFUSE_CTRL_VALID = 0 then
    return (0, overwrite 0 (List.replicate 16 0xff) data)
  else efuseWords [0, 1, 2, 3] data

/-- The part of `efuseReadBlock` behind the write of `EFUSE_CTRL`. -/
def awaitBlock (data : List U8) (val : U32) : P (Int × List U8) := do
  let (ret, val) ← efusePoll 100 val
  if ret ≠ 0 then return (ret, data)
  else if val &&& MT_EFUSE_CTRL_KICK ≠ 0 then return (-ETIMEDOUT, data)
  else fetchBlock data val

theorem efuseReadBlock_eq (addr : U16) (data : List U8) : efuseReadBlock addr data = (do
    let (ret, val) ← usbReadReg MT_EFUSE_CTRL 0
    if ret ≠ 0 then return (ret, data)
    else do
      let ret ← usbWriteReg MT_EFUSE_CTRL (efuseKick val addr)
      if ret ≠ 0 then return (ret, data) else awaitBlock data (efuseKick val addr)) := rfl

section
variable {content : EfuseContent} {stuck : Nat → Prop} {s s' : EfuseState} {tr : List (Event sig)}
  {a k : Nat} {data : List U8} {out : Int × List U8}

theorem logs_fetch {val : U32} (h16 : 16 ≤ data.length)
    (h : Logs (efuseEnv content stuck) (fetchBlock data val) (.done a) tr out s') :
    Fetches data out tr ∧ (out.1 = 0 → out.2.take 16 = blockBytes (content a)) := by
  rcases logs_readThen (fun w => if w &&& MT_EFUSE_CTRL_AOUT = MT_EFUSE_CTRL_AOUT ∨
      w &&& MT_EFUSE_CTRL_VALID = 0 then return (0, overwrite 0 (List.replicate 16 0xff) data)
      else efuseWords [0, 1, 2, 3] data) h (fun r v hr => if_pos hr) (fun v => rfl) with
    ⟨r, w, hr, rfl, rfl⟩ | ⟨r, w, s₁, t, hr, rfl, hD, hk⟩
  · exact ⟨fetches_none (segment_readFails hr) rfl, fun h0 => absurd h0 (by dsimp only; omega)⟩
  · obtain ⟨hfin, rfl⟩ : Finished content a w ∧ s₁ = .done a := (hD hr).1 rfl
    split at hk
    · rename_i hnone
      obtain ⟨rfl, rfl, rfl⟩ := hk
      have hempty : content a = none := by
        rw [← Option.not_isSome_iff_eq_none, hfin.2]
        exact not_not.2 hnone
      have hlen : (List.replicate 16 (0xff : U8)).length = 16 := List.length_replicate
      rw [List.append_nil]
      refine ⟨⟨segment_readWorks hr, rfl, ?_, ?_⟩, fun _ => ?_⟩
      · exact drop_overwrite (Nat.zero_le _) (by omega)
      · exact length_overwrite (by omega)
      · rw [hempty, overwrite_zero, List.take_left' hlen]
        rfl
    · rename_i hsome
      obtain ⟨b, hb⟩ := Option.isSome_iff_exists.1 (hfin.2.2 hsome)
      obtain ⟨hf, hok⟩ := logs_words hb (by decide) h16 hk
      refine ⟨hf.after (segment_readWorks hr) rfl, fun h0 => ?_⟩
      rw [hok h0, withWords_all, hb, List.take_left' b.length_toList]
      rfl

theorem logs_await {val : U32} (h16 : 16 ≤ data.length) (hval : val &&& MT_EFUSE_CTRL_KICK ≠ 0)
    (h : Logs (efuseEnv content stuck) (awaitBlock data val) (.busy a) tr out s') :
    Fetches data out tr ∧ (out.1 = 0 → ¬stuck a ∧ out.2.take 16 = blockBytes (content a)) := by
  obtain ⟨⟨ret, w⟩, s₁, t₁, t₂, rfl, h1, h2⟩ := logs_bind.1 h
  obtain ⟨hseg, hkicks, hdone⟩ := logs_poll hval h1
  dsimp only at h2 hseg hdone
  split at h2
  · rename_i hr
    obtain ⟨rfl, rfl, rfl⟩ := h2
    rw [List.append_nil]
    exact ⟨fetches_none hseg hkicks, fun h0 => absurd h0 hr⟩
  rename_i hr
  obtain rfl : ret = 0 := not_not.1 hr
  split at h2
  · obtain ⟨rfl, rfl, rfl⟩ := h2
    rw [List.append_nil]
    exact ⟨fetches_none (hseg.gives_up (by decide)) hkicks,
      fun h0 => absurd h0 (show (-ETIMEDOUT : Int) ≠ 0 by decide)⟩
  · rename_i hclear
    obtain ⟨hfree, rfl⟩ := hdone rfl (not_not.1 hclear)
    obtain ⟨hf, hok⟩ := logs_fetch h16 h2
    exact ⟨hf.after hseg hkicks, fun h0 => ⟨hfree, hok h0⟩⟩

/-- **The read of a block**, from any state of the controller. -/
theorem logs_readBlock (hk : k < 64) (h16 : 16 ≤ data.length)
    (h : Logs (efuseEnv content stuck) (efuseReadBlock (BitVec.ofNat 16 (16 * k)) data) s tr out
      s') : BlockRun content stuck (16 * k) data out tr := by
  rw [efuseReadBlock_eq] at h
  rcases logs_readThen (fun w => do
      let ret ← usbWriteReg MT_EFUSE_CTRL (efuseKick w (BitVec.ofNat 16 (16 * k)))
      if ret ≠ 0 then return (ret, data)
      else awaitBlock data (efuseKick w (BitVec.ofNat 16 (16 * k)))) h (fun r v hr => if_pos hr)
      (fun v => rfl) with
    ⟨r, w, hr, rfl, rfl⟩ | ⟨r, w, s₁, t, hr, rfl, -, h2⟩
  · exact ⟨segment_readFails hr, Nat.zero_le 1, fun _ => ⟨by dsimp only; omega, rfl⟩, rfl, rfl,
      fun h0 => absurd h0 (by dsimp only; omega)⟩
  obtain ⟨ret, s₂, t₁, t₂, rfl, h3, h4⟩ := logs_bind.1 h2
  obtain ⟨r', rfl, hD, rfl⟩ := logs_usbWriteReg h3
  have hkick : Segment (if r' < 0 then r' else 0) ([⟨.readReg (physicalAddrMap MT_EFUSE_CTRL),
      (r, w)⟩] ++ [⟨.writeReg (physicalAddrMap MT_EFUSE_CTRL)
        (efuseKick w (BitVec.ofNat 16 (16 * k))), r'⟩]) :=
    segment_kick hr (efuseKick_fields hk)
  have hone : kicks ([⟨.readReg (physicalAddrMap MT_EFUSE_CTRL), (r, w)⟩] ++
      [⟨.writeReg (physicalAddrMap MT_EFUSE_CTRL) (efuseKick w (BitVec.ofNat 16 (16 * k))),
        r'⟩]) = 1 := rfl
  rw [← List.append_assoc]
  generalize ([⟨.readReg (physicalAddrMap MT_EFUSE_CTRL), (r, w)⟩] ++
    [⟨.writeReg (physicalAddrMap MT_EFUSE_CTRL) (efuseKick w (BitVec.ofNat 16 (16 * k))), r'⟩] :
      List (Event sig)) = pre at hkick hone ⊢
  by_cases hr' : r' < 0
  · rw [if_pos hr'] at h4 hkick
    rw [if_pos (show r' ≠ 0 by omega)] at h4
    obtain ⟨rfl, rfl, rfl⟩ := h4
    rw [List.append_nil]
    exact ⟨hkick, hone.le, fun h0 => by omega, rfl, rfl, fun h0 => absurd h0 (by dsimp only; omega)⟩
  · rw [if_neg hr'] at h4 hkick
    rw [if_neg (not_not.2 rfl)] at h4
    obtain rfl : s₂ = .busy (16 * k) := by
      rw [← @ainOf_efuseKick w k hk]
      exact hD (by omega) rfl (efuseKick_kick hk)
    obtain ⟨hf, hok⟩ := logs_await h16 (efuseKick_kick hk) h4
    have hkicks : kicks (pre ++ t₂) = 1 := by rw [kicks_append, hone, hf.no_kick]
    exact ⟨hkick.append hf.segment, hkicks.le, fun h0 => by omega, hf.rest, hf.length, hok⟩

end

/-! ## The loop -/

/-- What the loop does from block `k` on. -/
structure BlocksRun (content : EfuseContent) (stuck : Nat → Prop) (len k : Nat) (buf : List U8)
    (out : Int × List U8) (tr : List (Event sig)) : Prop where
  segment : Segment out.1 tr
  rest : out.2.drop (16 * (k + kicks tr)) = buf.drop (16 * (k + kicks tr))
  image : out.1 = 0 → buf.take (16 * k) = efuseImage content k →
    out.2 = efuseImage content (len / 16) ++ buf.drop (16 * (len / 16))
  stops : ∀ j, k ≤ j → j < len / 16 → stuck (16 * j) → out.1 ≠ 0 ∧ k + kicks tr ≤ j + 1

section
variable {content : EfuseContent} {stuck : Nat → Prop} {buf data : List U8} {ret : Int} {k : Nat}
  {tr : List (Event sig)}

/-- The buffer after a block, behind the block. -/
theorem BlockRun.drop_eq (h : BlockRun content stuck (16 * k) (buf.drop (16 * k)) (ret, data) tr)
    (hb : 16 * k ≤ buf.length) {m : Nat} (hm : 16 * (k + 1) ≤ m) :
    (buf.take (16 * k) ++ data).drop m = buf.drop m := by
  have hlen : (buf.take (16 * k)).length = 16 * k := by
    rw [List.length_take, Nat.min_eq_left hb]
  have hrest : data.drop 16 = (buf.drop (16 * k)).drop 16 := h.rest
  rw [List.drop_append, List.drop_eq_nil_of_le (by omega), List.nil_append, hlen,
    show m - 16 * k = 16 + (m - 16 * (k + 1)) by omega, ← List.drop_drop, hrest, List.drop_drop,
    List.drop_drop]
  congr 1
  omega

theorem BlockRun.kicked (h : BlockRun content stuck (16 * k) (buf.drop (16 * k)) (0, data) tr) :
    kicks tr = 1 := by
  have hle := h.kicks_le
  by_contra hne
  exact (h.untouched (by omega)).1 rfl

/-- A block that fails is the last. -/
theorem BlockRun.fails {len : Nat} (hb : 16 * k ≤ buf.length) (hret : ret ≠ 0)
    (h : BlockRun content stuck (16 * k) (buf.drop (16 * k)) (ret, data) tr) :
    BlocksRun content stuck len k buf (ret, buf.take (16 * k) ++ data) tr := by
  have hle := h.kicks_le
  refine ⟨h.segment, ?_, fun h0 => absurd h0 hret, fun j hj _ _ => ⟨hret, by omega⟩⟩
  by_cases h0 : kicks tr = 0
  · obtain rfl : data = buf.drop (16 * k) := (h.untouched h0).2
    rw [List.take_append_drop]
  · exact h.drop_eq hb (by omega)

/-- A block that is read, and the blocks behind it. -/
theorem BlockRun.next {len : Nat} {out : Int × List U8} {t : List (Event sig)}
    (hb : 16 * k ≤ buf.length) (hk : k < len / 16)
    (h : BlockRun content stuck (16 * k) (buf.drop (16 * k)) (0, data) tr)
    (hn : BlocksRun content stuck len (k + 1) (buf.take (16 * k) ++ data) out t) :
    BlocksRun content stuck len k buf out (tr ++ t) := by
  have hkicks : kicks (tr ++ t) = 1 + kicks t := by rw [kicks_append, h.kicked]
  obtain ⟨hfree, hblock⟩ := h.block rfl
  refine ⟨h.segment.append hn.segment, ?_, fun h0 himg => ?_, fun j hj hlt hs => ?_⟩
  · rw [hkicks, ← Nat.add_assoc, hn.rest, h.drop_eq hb (by omega)]
  · have hlen : (buf.take (16 * k)).length = 16 * k := by
      rw [List.length_take, Nat.min_eq_left hb]
    have htake : (buf.take (16 * k) ++ data).take (16 * (k + 1)) =
        efuseImage content (k + 1) := by
      rw [List.take_append, List.take_of_length_le (by omega), hlen, efuseImage_succ, himg,
        show 16 * (k + 1) - 16 * k = 16 by omega, hblock]
    rw [hn.image h0 htake, h.drop_eq hb (by omega)]
  · have hne : j ≠ k := fun he => hfree (he ▸ hs)
    obtain ⟨hret, hle⟩ := hn.stops j (by omega) hlt hs
    exact ⟨hret, by omega⟩

end

/-- **The loop**, from any block and any state of the controller. -/
theorem logs_blocks {content : EfuseContent} {stuck : Nat → Prop} {len : Nat} (hlen : len ≤ 1024)
    (n : Nat) : ∀ {k : Nat} {buf : List U8} {s s' : EfuseState} {tr : List (Event sig)}
      {out : Int × List U8}, len / 16 - k = n → k ≤ len / 16 → len ≤ buf.length →
      Logs (efuseEnv content stuck) (efuseBlocks len (16 * k) buf) s tr out s' →
      BlocksRun content stuck len k buf out tr := by
  induction n with
  | zero =>
    intro k buf s s' tr out hn hk hb h
    rw [efuseBlocks, if_neg (by omega)] at h
    obtain ⟨rfl, rfl, rfl⟩ := h
    obtain rfl : k = len / 16 := by omega
    refine ⟨segment_nil (Int.le_refl 0), rfl, fun _ himg => ?_, fun j hj hlt => by omega⟩
    rw [← himg, List.take_append_drop]
  | succ n ih =>
    intro k buf s s' tr out hn hk hb h
    rw [efuseBlocks, if_pos (by omega)] at h
    obtain ⟨⟨ret, data⟩, s₁, t₁, t₂, rfl, h1, h2⟩ := logs_bind.1 h
    have hblock := logs_readBlock (by omega) (by rw [List.length_drop]; omega) h1
    dsimp only at h2
    split at h2
    · rename_i hret
      obtain ⟨rfl, rfl, rfl⟩ := h2
      rw [List.append_nil]
      exact hblock.fails (by omega) hret
    · rename_i hret
      obtain rfl : ret = 0 := not_not.1 hret
      rw [show 16 * k + 16 = 16 * (k + 1) by omega] at h2
      have hlen' : (buf.take (16 * k) ++ data).length = buf.length := by
        have hd : data.length = (buf.drop (16 * k)).length := hblock.length
        rw [List.length_append, hd, ← List.length_append, List.take_append_drop]
      exact hblock.next (by omega) (by omega) (ih (by omega) (by omega) (by omega) h2)

/-! ## The image -/

theorem logs_readAll {content : EfuseContent} {stuck : Nat → Prop} {len : Nat} {buf : List U8}
    {s s' : EfuseState} {tr : List (Event sig)} {out : Int × List U8} (hlen : len ≤ 1024)
    (hbuf : len ≤ buf.length)
    (h : Logs (efuseEnv content stuck) (efuseReadAll buf len) s tr out s') :
    BlocksRun content stuck len 0 buf out tr := by
  -- without a block started nothing is written
  have hnone : ∀ {ret : Int} {t : List (Event sig)}, ret ≠ 0 → Segment ret t → kicks t = 0 →
      BlocksRun content stuck len 0 buf (ret, buf) t := fun hret hseg hk =>
    ⟨hseg, rfl, fun h0 => absurd h0 hret, fun j _ _ _ => ⟨hret, by omega⟩⟩
  rcases logs_readThen (fun w => if w &&& MT_EFUSE_BASE_CTRL_EMPTY ≠ 0 then return (-ENODATA, buf)
      else efuseBlocks len 0 buf) h (fun r v hr => if_pos hr) (fun v => rfl) with
    ⟨r, w, hr, rfl, rfl⟩ | ⟨r, w, s₁, t, hr, rfl, -, hk⟩
  · exact hnone (by omega) (segment_readFails hr) rfl
  · have hseg := @segment_readWorks (physicalAddrMap MT_EFUSE_BASE_CTRL) r w hr
    split at hk
    · obtain ⟨rfl, rfl, rfl⟩ := hk
      rw [List.append_nil]
      exact hnone (by decide) (hseg.gives_up (by decide)) rfl
    · obtain ⟨hs, hrest, himage, hstops⟩ :=
        logs_blocks hlen (len / 16) rfl (Nat.zero_le _) hbuf hk
      have hkicks : kicks ([⟨.readReg (physicalAddrMap MT_EFUSE_BASE_CTRL), (r, w)⟩] ++ t) =
          kicks t := by
        rw [kicks_append]
        exact Nat.zero_add _
      rw [← hkicks] at hrest hstops
      exact ⟨hseg.append hs, hrest, himage, hstops⟩

/-- **The eFuse image is assembled faithfully**, for every content, every delay of the controller
and every pattern of failures: with 0 the buffer starts with the blocks (`0xff` where there is none)
and is unchanged behind them; a block that is never finished is an error, with nothing written
behind it; so is an access that fails, which is the last one; and the writes of `EFUSE_CTRL` change
what was read only in the fields. -/
theorem efuseReadAll_faithful (content : EfuseContent) (stuck : Nat → Prop) (len : Nat)
    (buf buf' : List U8) (s s' : EfuseState) (tr : List (Event sig)) (ret : Int)
    (hlen : len ≤ 1024) (hbuf : len ≤ buf.length)
    (h : Logs (efuseEnv content stuck) (efuseReadAll buf len) s tr (ret, buf') s') :
    (ret = 0 → buf' = efuseImage content (len / 16) ++ buf.drop (16 * (len / 16))) ∧
    (∀ k < len / 16, stuck (16 * k) →
      ret < 0 ∧ buf'.drop (16 * (k + 1)) = buf.drop (16 * (k + 1))) ∧
    (∀ t₁ ev t₂, tr = t₁ ++ ev :: t₂ → accessFailed ev.req ev.resp →
      t₂ = [] ∧ ret < 0 ∧ buf'.drop (16 * kicks tr) = buf.drop (16 * kicks tr)) ∧
    (∀ t₁ v r t₂, tr = t₁ ++ ⟨.writeReg MT_EFUSE_CTRL v, r⟩ :: t₂ →
      ∃ t₀, ∃ r' : Int, ∃ w, t₁ = t₀ ++ [⟨.readReg MT_EFUSE_CTRL, (r', w)⟩] ∧ 0 ≤ r' ∧
        v &&& ~~~efuseFields = w &&& ~~~efuseFields) := by
  obtain ⟨hseg, hrest, himage, hstops⟩ := logs_readAll hlen hbuf h
  dsimp only at hseg hrest himage hstops
  rw [Nat.zero_add] at hrest
  refine ⟨fun h0 => himage h0 rfl, fun k hk hs => ?_, fun t₁ ev t₂ he hf => ?_, hseg.fields⟩
  · obtain ⟨hret, hle⟩ := hstops k (Nat.zero_le k) hk hs
    have hcode := hseg.code
    refine ⟨by omega, ?_⟩
    rw [show 16 * (k + 1) = 16 * kicks tr + (16 * (k + 1) - 16 * kicks tr) by omega,
      ← List.drop_drop, hrest, List.drop_drop]
  · obtain ⟨hnil, hret⟩ := hseg.last t₁ ev t₂ he hf
    exact ⟨hnil, hret, hrest⟩

/-- **Registration**: the device starts with the image that was read and its calibration offset, or
without an image and with offset 0. -/
theorem logs_register {content : EfuseContent} {stuck : Nat → Prop} {uninit : EepromData}
    {s s' : EfuseState} {tr : List (Event sig)} {h : Host}
    (hlog : Logs (efuseEnv content stuck) (registerMac80211 uninit) s tr h s') :
    (h.dev.eepromValid = true ∧ h.dev.eeprom = efuseImage content 64 ∧
      h.dev.rssiOffset2g = calibration (efuseImage content 64)) ∨
    (h.dev.eepromValid = false ∧ h.dev.rssiOffset2g = 0) := by
  obtain ⟨⟨ret, image⟩, s₁, t₁, t₂, rfl, h1, rfl, rfl, rfl⟩ := logs_bind.1 hlog
  have hfull : (List.replicate MT7603_EEPROM_SIZE (0xff : U8)).length = MT7603_EEPROM_SIZE :=
    List.length_replicate
  have hrun := logs_readAll (Nat.le_refl 1024) hfull.ge h1
  by_cases hret : ret = 0
  · have himage : image = efuseImage content 64 ++
        (List.replicate MT7603_EEPROM_SIZE 0xff).drop MT7603_EEPROM_SIZE := hrun.image hret rfl
    rw [List.drop_eq_nil_of_le hfull.le, List.append_nil] at himage
    subst himage
    have hlen : ((efuseImage content 64).take 512).length = 512 := by
      rw [List.length_take, length_efuseImage]
      rfl
    obtain ⟨data, hok, hoff⟩ := parseEeprom_ok (Nat.le_of_eq hlen.symm |>.trans' (by decide))
    have hcal : calibration ((efuseImage content 64).take 512) =
        calibration (efuseImage content 64) := by
      unfold calibration
      rw [byteAt_take (by decide)]
    refine .inl ⟨decide_eq_true hret, rfl, ?_⟩
    dsimp only [Host.registered]
    rw [decide_eq_true hret, if_pos rfl, if_pos rfl, hok, hoff, hcal]
  · refine .inr ⟨decide_eq_false hret, ?_⟩
    dsimp only [Host.registered]
    rw [decide_eq_false hret]
    exact if_neg Bool.false_ne_true

/-- What the data registers of a controller hold. -/
def efuseData (content : EfuseContent) (a : U32) : EfuseState → U32
  | .done k =>
    match content k, (List.range 4).find? fun n => a == MT_EFUSE_RDATA n with
    | some b, some n => blockWord b n
    | _, _ => 0
  | _ => 0

/-- A register of a controller that is done at the first poll, and its state after the read. -/
def efuseRead (content : EfuseContent) (a : U32) (s : EfuseState) : U32 × EfuseState :=
  if a = MT_EFUSE_CTRL then
    match s with
    | .idle => (0, .idle)
    | .busy k => (if (content k).isSome then MT_EFUSE_CTRL_VALID else 0, .done k)
    | .done k => (if (content k).isSome then MT_EFUSE_CTRL_VALID else 0, .done k)
  else (efuseData content a s, s)

/-- That controller. -/
def efuseDevice (content : EfuseContent) (s : EfuseState) : (e : Req) → e.Resp × EfuseState
  | .readReg a => ((4, (efuseRead content a s).1), (efuseRead content a s).2)
  | .writeReg _ v => ((4 : Int), .busy (ainOf v))
  | e => ((regDevice (fun _ => 0) e).1, s)

theorem rdata_find : ∀ n < 4,
    (List.range 4).find? (fun m => MT_EFUSE_RDATA n == MT_EFUSE_RDATA m) = some n := by
  decide

theorem dataAnswer_efuseData {content : EfuseContent} {s : EfuseState} {n : Nat} (h : n < 4) :
    DataAnswer content n (efuseData content (MT_EFUSE_RDATA n) s) s := by
  cases s with
  | done k =>
    intro b hb
    simp only [efuseData, hb, rdata_find n h]
  | _ => trivial

theorem finished_status (content : EfuseContent) (k : Nat) :
    Finished content k (if (content k).isSome then MT_EFUSE_CTRL_VALID else 0) := by
  unfold Finished
  cases content k with
  | none => exact ⟨by decide, by decide⟩
  | some b =>
    rw [Option.isSome_some, if_pos rfl]
    exact ⟨by decide, by decide⟩

theorem efuseDevice_answers (content : EfuseContent) (s : EfuseState) (e : Req) :
    efuseEnv content (fun _ => False) s e (efuseDevice content s e).1
      (efuseDevice content s e).2 := by
  cases e with
  | readReg a =>
    intro _
    dsimp only [efuseDevice]
    by_cases ha : a = MT_EFUSE_CTRL
    · refine ⟨fun _ => ?_, fun hne => absurd ha hne⟩
      unfold efuseRead
      rw [if_pos ha]
      cases s with
      | idle => rfl
      | busy k => exact .inr ⟨not_false, finished_status content k, rfl⟩
      | done k => exact ⟨finished_status content k, rfl⟩
    · refine ⟨fun h => absurd h ha, fun _ => ?_⟩
      unfold efuseRead
      rw [if_neg ha]
      refine ⟨rfl, ?_⟩
      rintro n hn rfl
      exact dataAnswer_efuseData hn
  | writeReg a v => exact fun _ _ _ => rfl
  | _ => rfl

/-- The block at 0 exists, and no other. -/
def oneBlock : EfuseContent := fun a =>
  if a = 0 then some #v[1, 2, 3, 4, 5, 6, 7, 8, 9, 10, 11, 12, 13, 14, 15, 16] else none

/-- Two blocks are read into a buffer of 40 bytes: the one that exists, and `0xff`. -/
theorem efuseReadAll_one_block :
    ∃ tr buf' s', Logs (efuseEnv oneBlock fun _ => False) (efuseReadAll (List.replicate 40 0) 40)
        .idle tr (0, buf') s' ∧
      buf' = efuseImage oneBlock 2 ++ List.replicate 8 0 ∧
      buf'.take 18 = [1, 2, 3, 4, 5, 6, 7, 8, 9, 10, 11, 12, 13, 14, 15, 16, 0xff, 0xff] := by
  have hrun := runs_run (efuseDevice_answers oneBlock) (efuseReadAll (List.replicate 40 0) 40) .idle
  have hret : ((efuseReadAll (List.replicate 40 0) 40).run (efuseDevice oneBlock) .idle).1.1 =
      0 := by decide +kernel
  generalize (efuseReadAll (List.replicate 40 0) 40).run (efuseDevice oneBlock) .idle = run
    at hrun hret
  obtain ⟨⟨ret, buf'⟩, s'⟩ := run
  obtain rfl : ret = 0 := hret
  obtain ⟨tr, h⟩ := runs_logs hrun
  obtain ⟨himage, -⟩ := efuseReadAll_faithful oneBlock (fun _ => False) 40 (List.replicate 40 0)
    buf' .idle s' tr 0 (by decide) (by decide) h
  refine ⟨tr, buf', s', h, himage rfl, ?_⟩
  rw [himage rfl]
  decide

end Driver
