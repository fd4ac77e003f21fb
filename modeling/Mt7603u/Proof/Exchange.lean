import Mt7603u.Driver.Download
import Mt7603u.Proof.Builders

/-!
# Exchanges of the firmware download

The download is described by its exchanges with the device: whatever it is answered, which
transfers it sends (`sends`), and what is known if it goes on. `Does p frames R`: either `p` fails
and has sent a prefix of `frames`, or it succeeds, has sent them all and `R` holds. `Does.andThen`
composes two such parts. `trace_next` takes an exchange of a composed part apart again, and
`misc2Reads` collects what the reads of `TOP_MISC2` returned.
-/

namespace Driver

open Effect Slice Word Rust

/-! ## Transfers of an exchange -/

/-- The bulk-OUT transfers, in order. -/
def sends (tr : List (Event sig)) : List (List U8) :=
  tr.filterMap fun ev =>
    match ev.req with
    | .bulkOut _ buf => some buf
    | _ => none

@[simp] theorem sends_nil : sends [] = [] := rfl

@[simp] theorem sends_append (t t' : List (Event sig)) : sends (t ++ t') = sends t ++ sends t' :=
  List.filterMap_append

/-- A request that sends nothing. -/
def Quiet : Req → Prop
  | .bulkOut _ _ => False
  | _ => True

theorem sends_quiet {α : Type} {p : P α} {tr : List (Event sig)} {a : α}
    (hp : All (S := sig) Quiet p) (h : Trace p tr a) : sends tr = [] := by
  have hq := trace_all hp h
  refine List.filterMap_eq_nil_iff.2 fun ev hev => ?_
  have := hq ev hev
  revert this
  cases ev.req <;> simp [Quiet]

/-- A register read with its answer. -/
def readEvent (addr : U32) (r : Int) (w : U32) : Event sig :=
  ⟨.readReg (physicalAddrMap addr), (r, w)⟩

theorem trace_usbReadReg {addr val : U32} {tr : List (Event sig)} {x : Int × U32}
    (h : Trace (usbReadReg addr val) tr x) :
    ∃ r w, tr = [readEvent addr r w] ∧ x = if 0 ≤ r then (0, w) else (r, val) := by
  unfold usbReadReg at h
  obtain ⟨⟨r, w⟩, t₁, t₂, rfl, h1, h2⟩ := trace_bind.1 h
  obtain rfl := (trace_request (S := sig) (e := .readReg (physicalAddrMap addr))).1 h1
  obtain ⟨rfl, rfl⟩ := trace_ret.1 h2
  exact ⟨r, w, rfl, rfl⟩

/-- A register write with its answer. -/
def writeEvent (addr val : U32) (r : Int) : Event sig := ⟨.writeReg (physicalAddrMap addr) val, r⟩

theorem trace_usbWriteReg {addr val : U32} {tr : List (Event sig)} {ret : Int}
    (h : Trace (usbWriteReg addr val) tr ret) :
    ∃ r, tr = [writeEvent addr val r] ∧ ret = if r < 0 then r else 0 := by
  unfold usbWriteReg at h
  obtain ⟨r, t₁, t₂, rfl, h1, h2⟩ := trace_bind.1 h
  obtain rfl := (trace_request (S := sig) (e := .writeReg (physicalAddrMap addr) val)).1 h1
  obtain ⟨rfl, rfl⟩ := trace_ret.1 h2
  exact ⟨r, rfl, rfl⟩

theorem all_next {X : Req → Prop} {p q : P Int} (hp : All (S := sig) X p)
    (hq : All (S := sig) X q) :
    All (S := sig) X (p >>= fun ret => if ret < 0 then return ret else q) := by
  refine all_bind hp fun ret => ?_
  split
  · trivial
  · exact hq

/-- `if (ret < 0) return ret;` -/
theorem trace_next {p q : P Int} {tr : List (Event sig)} {ret : Int}
    (h : Trace (p >>= fun ret => if ret < 0 then return ret else q) tr ret) :
    (ret < 0 ∧ Trace p tr ret) ∨
      ∃ r t₁ t₂, tr = t₁ ++ t₂ ∧ 0 ≤ r ∧ Trace p t₁ r ∧ Trace q t₂ ret := by
  obtain ⟨r, t₁, t₂, rfl, h1, h2⟩ := trace_bind.1 h
  split at h2
  · rename_i hr
    obtain ⟨rfl, rfl⟩ := trace_ret.1 h2
    rw [List.append_nil]
    exact .inl ⟨hr, h1⟩
  · exact .inr ⟨r, t₁, t₂, rfl, by omega, h1, h2⟩

/-- A register read that fails is the end; `k` goes on as `q` does after one that works. -/
theorem trace_readNext {addr val : U32} {k : Int × U32 → P Int} {q : U32 → P Int}
    {tr : List (Event sig)} {ret : Int} (h : Trace (usbReadReg addr val >>= k) tr ret)
    (hk : ∀ r v, r < 0 → ∃ e < 0, k (r, v) = return e) (hq : ∀ v, k (0, v) = q v) :
    (ret < 0 ∧ ∃ r w, tr = [readEvent addr r w]) ∨
      ∃ r w t, tr = readEvent addr r w :: t ∧ 0 ≤ r ∧ Trace (q w) t ret := by
  obtain ⟨x, t₁, t₂, rfl, h1, h2⟩ := trace_bind.1 h
  obtain ⟨r, w, rfl, rfl⟩ := trace_usbReadReg h1
  by_cases hr : 0 ≤ r
  · rw [if_pos hr, hq] at h2
    exact .inr ⟨r, w, t₂, rfl, hr, h2⟩
  · obtain ⟨e, he, hke⟩ := hk r val (by omega)
    rw [if_neg hr, hke] at h2
    obtain ⟨rfl, rfl⟩ := trace_ret.1 h2
    exact .inl ⟨he, r, w, rfl⟩

/-- The word a successful read of `TOP_MISC2` returned. -/
def misc2Answer : (e : Req) → e.Resp → Option U32
  | .readReg addr, (r, w) =>
    if addr = physicalAddrMap MT7603_TOP_MISC2 ∧ 0 ≤ r then some w else none
  | _, _ => none

/-- The successful reads of `TOP_MISC2`, in order. -/
def misc2Reads (tr : List (Event sig)) : List U32 :=
  tr.filterMap fun ev => misc2Answer ev.req ev.resp

@[simp] theorem misc2Reads_nil : misc2Reads [] = [] := rfl

@[simp] theorem misc2Reads_append (t t' : List (Event sig)) :
    misc2Reads (t ++ t') = misc2Reads t ++ misc2Reads t' := List.filterMap_append

theorem misc2Reads_cons {r : Int} {w : U32} {t : List (Event sig)} (h : 0 ≤ r) :
    misc2Reads (readEvent MT7603_TOP_MISC2 r w :: t) = w :: misc2Reads t := by
  have hw : misc2Answer (.readReg (physicalAddrMap MT7603_TOP_MISC2)) (r, w) = some w :=
    if_pos ⟨rfl, h⟩
  exact List.filterMap_cons_some hw

@[simp] theorem sends_readEvent {addr : U32} {r : Int} {w : U32} {t : List (Event sig)} :
    sends (readEvent addr r w :: t) = sends t := rfl

/-- A request that does not read `TOP_MISC2`. -/
def NoMisc2 (e : Req) : Prop := e ≠ .readReg (physicalAddrMap MT7603_TOP_MISC2)

theorem misc2Reads_eq_nil {α : Type} {p : P α} {tr : List (Event sig)} {a : α}
    (hp : All (S := sig) NoMisc2 p) (h : Trace p tr a) : misc2Reads tr = [] := by
  have hq := trace_all hp h
  refine List.filterMap_eq_nil_iff.2 fun ev hev => ?_
  have hne := hq ev hev
  obtain ⟨e, r⟩ := ev
  cases e with
  | readReg addr => exact if_neg fun h => hne (congrArg Req.readReg h.1)
  | _ => rfl

/-- A part that neither sends nor reads `TOP_MISC2`. -/
theorem trace_silent {α : Type} {p : P α} {tr : List (Event sig)} {a : α}
    (hp : All (S := sig) (fun e => Quiet e ∧ NoMisc2 e) p) (h : Trace p tr a) :
    sends tr = [] ∧ misc2Reads tr = [] :=
  ⟨sends_quiet (all_mono hp fun _ he => he.1) h, misc2Reads_eq_nil (all_mono hp fun _ he => he.2) h⟩

/-! ## Parts that send -/

/-- Either `p` fails and has sent a prefix of `frames`, or it succeeds, has sent them all and `R`
holds. -/
def Does (p : P Int) (frames : List (List U8)) (R : Prop) : Prop :=
  ∀ tr ret, Trace p tr ret → (ret < 0 ∧ sends tr <+: frames) ∨ (0 ≤ ret ∧ sends tr = frames ∧ R)

section
variable {p q : P Int} {F G : List (List U8)} {R R' : Prop}

theorem does_fail {ret : Int} (h : ret < 0) : Does (return ret) F R := by
  intro tr r ht
  obtain ⟨rfl, rfl⟩ := trace_ret.1 ht
  exact .inl ⟨h, List.nil_prefix⟩

theorem does_done : Does (return 0) [] True := by
  intro tr r ht
  obtain ⟨rfl, rfl⟩ := trace_ret.1 ht
  exact .inr ⟨Int.le_refl 0, rfl, trivial⟩

/-- A part that sends nothing. -/
theorem does_quiet (hp : All (S := sig) Quiet p) : Does p [] True := by
  intro tr ret ht
  rw [sends_quiet hp ht]
  by_cases h : ret < 0
  · exact .inl ⟨h, List.nil_prefix⟩
  · exact .inr ⟨by omega, rfl, trivial⟩

theorem Does.mono (hp : Does p F R) (h : R → R') : Does p F R' :=
  fun tr ret ht => (hp tr ret ht).imp_right fun ⟨hr, hs, hR⟩ => ⟨hr, hs, h hR⟩

theorem Does.sends_le (hp : Does p F R) {tr : List (Event sig)} {ret : Int} (h : Trace p tr ret) :
    sends tr <+: F := by
  rcases hp tr ret h with ⟨-, hs⟩ | ⟨-, hs, -⟩
  · exact hs
  · exact hs ▸ List.prefix_refl _

/-- A part that fails is the end, as it is or after more quiet requests. -/
theorem Does.andThen {k : Int → P Int} (hp : Does p F R)
    (hk : ∀ ret < 0, ∀ tr ret', Trace (k ret) tr ret' → ret' < 0 ∧ sends tr = [])
    (hq : R → ∀ ret, 0 ≤ ret → Does (k ret) G R') : Does (p >>= k) (F ++ G) R' := by
  intro tr ret ht
  obtain ⟨r, t₁, t₂, rfl, h1, h2⟩ := trace_bind.1 ht
  rw [sends_append]
  rcases hp t₁ r h1 with ⟨hr, hpre⟩ | ⟨hr, hs, hR⟩
  · obtain ⟨hret, hs⟩ := hk r hr t₂ ret h2
    rw [hs, List.append_nil]
    exact .inl ⟨hret, hpre.trans (List.prefix_append F G)⟩
  · rw [hs]
    rcases hq hR r hr t₂ ret h2 with ⟨hret, hpre⟩ | ⟨hret, hs', hR'⟩
    · exact .inl ⟨hret, (List.prefix_append_right_inj F).2 hpre⟩
    · exact .inr ⟨hret, by rw [hs'], hR'⟩

/-- The common case: `if (ret < 0) return ret;`. -/
theorem Does.next (hp : Does p F R) (hq : R → Does q G R') :
    Does (p >>= fun ret => if ret < 0 then return ret else q) (F ++ G) R' := by
  refine hp.andThen (fun ret hr tr ret' ht => ?_) fun hR ret hr => ?_
  · rw [if_pos hr] at ht
    obtain ⟨rfl, rfl⟩ := trace_ret.1 ht
    exact ⟨hr, rfl⟩
  · rw [if_neg (by omega)]
    exact hq hR

end

/-! ## Requests -/

/-- A frame with the padding of its transfer. -/
def padded (frame : List U8) : List U8 := frame ++ List.replicate MT7603_USB_END_PADDING 0

/-- A transfer's buffer is allocated and the transfer goes out, or there is no memory for it. -/
theorem trace_usbSendCmd {frame : List U8} {tr : List (Event sig)} {ret : Int}
    (h : Trace (usbSendCmd frame) tr ret) :
    (ret = -ENOMEM ∧ tr = [⟨.alloc (frame.length + MT7603_USB_END_PADDING), false⟩]) ∨
      ∃ r : Int, tr = [⟨.alloc (frame.length + MT7603_USB_END_PADDING), true⟩,
          ⟨.bulkOut MT7603_CMD_BULK_OUT (padded frame), r⟩] ∧ ret = if r < 0 then r else 0 := by
  unfold usbSendCmd at h
  obtain ⟨ok, t₁, t₂, rfl, h1, h2⟩ := trace_bind.1 h
  obtain rfl := (trace_request (S := sig) (e := .alloc _)).1 h1
  cases ok with
  | false =>
    obtain ⟨rfl, rfl⟩ := trace_ret.1 h2
    exact .inl ⟨rfl, rfl⟩
  | true =>
    obtain ⟨r, t₃, t₄, rfl, h3, h4⟩ := trace_bind.1 h2
    obtain rfl := (trace_request (S := sig) (e := .bulkOut MT7603_CMD_BULK_OUT (padded frame))).1 h3
    obtain ⟨rfl, rfl⟩ := trace_ret.1 h4
    exact .inr ⟨r, rfl, rfl⟩

theorem does_usbSendCmd (frame : List U8) : Does (usbSendCmd frame) [padded frame] True := by
  intro tr ret ht
  rcases trace_usbSendCmd ht with ⟨rfl, rfl⟩ | ⟨r, rfl, rfl⟩
  · exact .inl ⟨by decide, List.nil_prefix⟩
  have hs : sends [⟨.alloc (frame.length + MT7603_USB_END_PADDING), true⟩,
      ⟨.bulkOut MT7603_CMD_BULK_OUT (padded frame), r⟩] = [padded frame] := rfl
  rw [hs]
  split
  · rename_i hr
    exact .inl ⟨hr, List.prefix_refl _⟩
  · exact .inr ⟨Int.le_refl 0, rfl, trivial⟩

theorem trace_submitRsp {ep : U8} {tr : List (Event sig)} {ret : Int}
    (h : Trace (submitRsp ep) tr ret) : tr = [⟨.submitRsp ep, ret⟩] :=
  (trace_request (S := sig) (e := .submitRsp ep)).1 h

theorem all_waitDone {p : Req → Prop} (h : p .waitRsp) :
    All (S := sig) p (do let _ ← waitRsp; return 0 : P Int) := ⟨h, fun _ => trivial⟩

theorem does_sendWaiting (cmd : List U8) : Does (sendWaiting cmd) [padded cmd] True := by
  have hq : Does (submitRsp MT7603_DATA_BULK_IN) [] True := does_quiet (all_request.2 trivial)
  exact hq.next fun _ => (does_usbSendCmd cmd).next fun _ => does_quiet (all_waitDone trivial)

theorem all_pollTopMisc2 {X : Req → Prop} {mask expect : U32} {n : Nat}
    (h : X (.readReg (physicalAddrMap MT7603_TOP_MISC2))) :
    All (S := sig) X (pollTopMisc2 mask expect n) := by
  induction n with
  | zero => trivial
  | succ n ih =>
    unfold pollTopMisc2
    refine all_bind (all_usbReadReg h) fun ⟨ret, val⟩ => ?_
    dsimp only
    split
    · trivial
    · split
      · trivial
      · exact ih

theorem all_withFrame {X : Req → Prop} {B : Out U8 Nat} {x : List U8 → P Int}
    (hx : ∀ cmd, All (S := sig) X (x cmd)) : All (S := sig) X (withFrame B x) := by
  unfold withFrame
  split
  · exact hx _
  · trivial
  · trivial

section
variable {X : Req → Prop} (ha : ∀ n, X (.alloc n)) (hb : ∀ ep buf, X (.bulkOut ep buf))
include ha hb

theorem all_scatterLoop {fw : List U8} {dlLen offset : Nat} :
    All (S := sig) X (scatterLoop fw dlLen offset) := by
  induction offset using scatterLoop.induct dlLen with
  | case1 offset h chunkLen ih =>
    unfold scatterLoop
    rw [if_pos h]
    exact all_withFrame fun cmd => all_next (all_usbSendCmd ha hb) ih
  | case2 offset h =>
    unfold scatterLoop
    rw [if_neg h]
    trivial

variable (hs : ∀ ep, X (.submitRsp ep)) (hw : X .waitRsp)
include hs hw

theorem all_sendWaiting {cmd : List U8} : All (S := sig) X (sendWaiting cmd) :=
  all_next (all_request.2 (hs _)) (all_next (all_usbSendCmd ha hb) (all_waitDone hw))

theorem all_restartDlRsp {cmd : List U8} : All (S := sig) X (restartDlRsp cmd) :=
  all_next (all_request.2 (hs _)) (all_next (all_request.2 (hs _))
    (all_next (all_usbSendCmd ha hb) (all_waitDone hw)))

theorem all_restartIfRunning {misc2 : U32} : All (S := sig) X (restartIfRunning misc2) := by
  unfold restartIfRunning
  split
  · exact all_bind (all_withFrame fun _ => all_restartDlRsp ha hb hs hw) fun _ => trivial
  · trivial

theorem all_downloadBody (hr : X (.readReg (physicalAddrMap MT7603_TOP_MISC2))) {fw : List U8}
    {seq : U8} : All (S := sig) X (downloadBody fw seq) := by
  refine all_bind (all_pollTopMisc2 hr) fun ret => ?_
  split
  · exact all_bind (all_usbReadReg hr) fun _ => trivial
  cases fwDlLen fw with
  | none => trivial
  | some dlLen =>
    refine all_withFrame fun cmd => all_next (all_sendWaiting ha hb hs hw) ?_
    split
    · trivial
    · refine all_next (all_scatterLoop ha hb) (all_withFrame fun cmd => ?_)
      exact all_next (all_sendWaiting ha hb hs hw) (all_pollTopMisc2 hr)

end

/-- A poll that succeeds ends with a matching answer, and none before it matched. -/
theorem trace_pollTopMisc2 {mask expect : U32} {n : Nat} {tr : List (Event sig)} {ret : Int}
    (h : Trace (pollTopMisc2 mask expect n) tr ret) :
    ret < 0 ∨ ∃ ws w, misc2Reads tr = ws ++ [w] ∧ w &&& mask = expect ∧
      ∀ w' ∈ ws, w' &&& mask ≠ expect := by
  induction n generalizing tr with
  | zero =>
    obtain ⟨rfl, rfl⟩ := trace_ret.1 h
    exact .inl (by decide)
  | succ n ih =>
    rcases trace_readNext h (fun r v hr => ⟨- EIO, by decide, if_pos hr⟩)
      (fun v => if_neg (Int.lt_irrefl 0)) with ⟨hret, -⟩ | ⟨r, w, t, rfl, hr, h2⟩
    · exact .inl hret
    rw [misc2Reads_cons hr]
    by_cases hm : w &&& mask = expect
    · rw [if_pos hm] at h2
      obtain ⟨rfl, rfl⟩ := trace_ret.1 h2
      exact .inr ⟨[], w, rfl, hm, by simp⟩
    · rw [if_neg hm] at h2
      rcases ih h2 with hret | ⟨ws, w', hws, hw', hne⟩
      · exact .inl hret
      · exact .inr ⟨w :: ws, w', by rw [hws]; rfl, hw', List.forall_mem_cons.2 ⟨hm, hne⟩⟩

/-- A request that is waited for: nothing is sent and it fails, or it is sent after the response URB
was submitted and the buffer allocated. -/
theorem trace_sendWaiting {cmd : List U8} {tr : List (Event sig)} {ret : Int}
    (h : Trace (sendWaiting cmd) tr ret) :
    (ret < 0 ∧ sends tr = []) ∨ ∃ (s x : Int) (t : List (Event sig)),
      tr = [⟨.submitRsp MT7603_DATA_BULK_IN, s⟩,
          ⟨.alloc (cmd.length + MT7603_USB_END_PADDING), true⟩] ++
        ⟨.bulkOut MT7603_CMD_BULK_OUT (padded cmd), x⟩ :: t := by
  rcases trace_next h with ⟨hr, h1⟩ | ⟨s, t₁, t₂, rfl, -, h1, h2⟩
  · obtain rfl := trace_submitRsp h1
    exact .inl ⟨hr, rfl⟩
  obtain rfl := trace_submitRsp h1
  rcases trace_next h2 with ⟨hr, h3⟩ | ⟨r, t₃, t₄, rfl, hr, h3, -⟩
  · rcases trace_usbSendCmd h3 with ⟨-, rfl⟩ | ⟨x, rfl, -⟩
    · exact .inl ⟨hr, rfl⟩
    · exact .inr ⟨s, x, [], rfl⟩
  · rcases trace_usbSendCmd h3 with ⟨rfl, -⟩ | ⟨x, rfl, -⟩
    · exact absurd hr (by decide)
    · exact .inr ⟨s, x, t₄, rfl⟩

/-- And what follows it runs unless it failed. -/
theorem trace_sendWaiting_next {cmd : List U8} {q : P Int} {tr : List (Event sig)} {ret : Int}
    (h : Trace (sendWaiting cmd >>= fun ret => if ret < 0 then return ret else q) tr ret) :
    (ret < 0 ∧ sends tr = []) ∨ ∃ (s x : Int) (t t' : List (Event sig)),
      tr = [⟨.submitRsp MT7603_DATA_BULK_IN, s⟩,
          ⟨.alloc (cmd.length + MT7603_USB_END_PADDING), true⟩] ++
        ⟨.bulkOut MT7603_CMD_BULK_OUT (padded cmd), x⟩ :: (t ++ t') ∧
      (ret < 0 ∨ Trace q t' ret) := by
  rcases trace_next h with ⟨hr, h1⟩ | ⟨r, t₁, t₂, rfl, hr, h1, h2⟩
  · rcases trace_sendWaiting h1 with hs | ⟨s, x, t, rfl⟩
    · exact .inl hs
    · exact .inr ⟨s, x, t, [], by simp, .inl hr⟩
  · rcases trace_sendWaiting h1 with ⟨hneg, -⟩ | ⟨s, x, t, rfl⟩
    · omega
    · exact .inr ⟨s, x, t, t₂, by simp, .inr h2⟩

end Driver
