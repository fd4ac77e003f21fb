import Mt7603u.Proof.Download
import Mt7603u.Proof.SchReg

/-!
# The scheduler bypass is undone

`Stops` follows the part of a download that runs in bypass mode: it goes through, or ends at the
first request that fails or at a check that fails, with that code (`stops_poll`, `stops_upload`,
composed by `Stops.next`). `BypassEnds` is this for the whole part. With what the steps around it do
to the register (`Proof.SchReg`) that is `bypass_undone`: on every way out after the bypass was
entered the driver restores the register, and returns the code of what failed.
-/

namespace Driver

open Effect Slice Word Rust

/-! ## How the part in bypass mode ends -/

/-- The code with which a request that fails ends the part in bypass mode. -/
def fault : (e : Req) → e.Resp → Option Int
  | .readReg _, (r, _) => if r < 0 then some (- EIO) else none
  | .bulkOut _ _, (r : Int) => if r < 0 then some r else none
  | .submitRsp _, (r : Int) => if r < 0 then some r else none
  | .alloc _, false => some (-ENOMEM)
  | _, _ => none

def NoFault (tr : List (Event sig)) : Prop := ∀ ev ∈ tr, fault ev.req ev.resp = none

theorem noFault_append {t t' : List (Event sig)} (h : NoFault t) (h' : NoFault t') :
    NoFault (t ++ t') := List.forall_mem_append.2 ⟨h, h'⟩

/-- A check that ends the part in bypass mode: a poll whose last answer did not match either, or the
length in the trailer. -/
inductive CheckFails (fw : List U8) (tr : List (Event sig)) : Int → Prop
  | timeout (mask expect : U32) (ws : List U32)
      (h : (mask, expect) = (1, 1) ∨ (mask, expect) = (2, 2)) (hs : ws <:+ misc2Reads tr)
      (hl : ws.length = MT7603_ROM_READY_POLL_MAX)
      (hm : ∀ w ∈ ws, w &&& mask ≠ expect) : CheckFails fw tr (-ETIMEDOUT)
  | length (h : ∀ dlLen, fwDlLen fw = some dlLen → fw.length < dlLen.toNat) :
      CheckFails fw tr (-EINVAL)

theorem CheckFails.append {fw : List U8} {t tr : List (Event sig)} {ret : Int}
    (h : CheckFails fw tr ret) : CheckFails fw (t ++ tr) ret := by
  cases h with
  | timeout mask expect ws h hs hl hm =>
    refine .timeout mask expect ws h ?_ hl hm
    rw [misc2Reads_append]
    exact hs.trans (List.suffix_append _ _)
  | length h => exact .length h

/-- `p` goes through without a fault, and then `R` holds of its exchange and result; or its first
fault is the end, with the fault's code; or a check is. -/
def Stops (fw : List U8) (p : P Int) (R : List (Event sig) → Int → Prop) : Prop :=
  ∀ tr ret, Trace p tr ret →
    (0 ≤ ret ∧ NoFault tr ∧ R tr ret) ∨
    (∃ t ev, tr = t ++ [ev] ∧ NoFault t ∧ fault ev.req ev.resp = some ret) ∨
    (NoFault tr ∧ CheckFails fw tr ret)

section
variable {fw : List U8} {p q : P Int} {R R' : List (Event sig) → Int → Prop}

/-- The codes of faults and checks are negative. -/
theorem fault_neg {e : Req} {r : e.Resp} {code : Int} (h : fault e r = some code) : code < 0 := by
  have hif : ∀ {x c : Int}, (if x < 0 then some x else none) = some c → c < 0 := by
    intro x c hx
    split at hx
    · obtain rfl := Option.some.inj hx
      assumption
    · cases hx
  cases e with
  | readReg a =>
    obtain ⟨x, w⟩ := r
    have hx : (if x < 0 then some (- EIO) else none) = some code := h
    split at hx
    · obtain rfl := Option.some.inj hx
      decide
    · cases hx
  | bulkOut ep buf => exact hif h
  | submitRsp ep => exact hif h
  | alloc n =>
    cases r with
    | false =>
      obtain rfl := Option.some.inj h
      decide
    | true => cases h
  | _ => cases h

theorem CheckFails.neg {tr : List (Event sig)} {ret : Int} (h : CheckFails fw tr ret) :
    ret < 0 := by
  cases h with
  | timeout => decide
  | length => decide

theorem Stops.next (hp : Stops fw p R) (hq : Stops fw q R') :
    Stops fw (p >>= fun ret => if ret < 0 then return ret else q)
      fun tr ret => ∃ t r t', tr = t ++ t' ∧ R t r ∧ R' t' ret := by
  intro tr ret h
  rcases trace_next h with ⟨hr, h1⟩ | ⟨r, t₁, t₂, rfl, hr, h1, h2⟩
  · rcases hp tr ret h1 with ⟨hret, -, -⟩ | hf | hc
    · omega
    · exact .inr (.inl hf)
    · exact .inr (.inr hc)
  · rcases hp t₁ r h1 with ⟨-, hn, hR⟩ | ⟨t, ev, -, -, hf⟩ | ⟨-, hc⟩
    · rcases hq t₂ ret h2 with ⟨hret, hn', hR'⟩ | ⟨t, ev, rfl, hn', hf⟩ | ⟨hn', hc⟩
      · exact .inl ⟨hret, noFault_append hn hn', t₁, r, t₂, rfl, hR, hR'⟩
      · exact .inr (.inl ⟨t₁ ++ t, ev, by rw [List.append_assoc], noFault_append hn hn', hf⟩)
      · exact .inr (.inr ⟨noFault_append hn hn', hc.append⟩)
    · exact absurd (fault_neg hf) (by omega)
    · exact absurd hc.neg (by omega)

theorem Stops.mono (hp : Stops fw p R) (h : ∀ tr ret, R tr ret → R' tr ret) : Stops fw p R' :=
  fun tr ret ht => (hp tr ret ht).imp_left fun ⟨hr, hn, hR⟩ => ⟨hr, hn, h tr ret hR⟩

end

/-! ## Its parts -/

/-- `TOP_MISC2` was not read. -/
def NoReads (tr : List (Event sig)) (_ : Int) : Prop := misc2Reads tr = []

/-- A part without reads of `TOP_MISC2`, then another. -/
theorem Stops.nextReads {fw : List U8} {p q : P Int} {R : List (Event sig) → Int → Prop}
    (hR : ∀ t t' ret, misc2Reads t = [] → R t' ret → R (t ++ t') ret) (hp : Stops fw p NoReads)
    (hq : Stops fw q R) : Stops fw (p >>= fun ret => if ret < 0 then return ret else q) R := by
  refine (hp.next hq).mono fun tr ret h => ?_
  obtain ⟨t, r, t', rfl, hn, hr⟩ := h
  exact hR t t' ret hn hr

section
variable {fw : List U8}

theorem noReads_append (t t' : List (Event sig)) (ret : Int) (h : misc2Reads t = [])
    (h' : NoReads t' ret) : NoReads (t ++ t') ret := by
  unfold NoReads at *
  rw [misc2Reads_append, h, h']
  rfl

theorem stops_done : Stops fw (return 0) NoReads := by
  intro tr ret h
  obtain ⟨rfl, rfl⟩ := trace_ret.1 h
  exact .inl ⟨Int.le_refl 0, by simp [NoFault], rfl⟩

theorem fault_submit {ep : U8} {r : Int} :
    fault (.submitRsp ep) r = if r < 0 then some r else none := rfl

theorem fault_bulkOut {ep : U8} {buf : List U8} {r : Int} :
    fault (.bulkOut ep buf) r = if r < 0 then some r else none := rfl

theorem stops_submitRsp {ep : U8} : Stops fw (submitRsp ep) NoReads := by
  intro tr ret h
  obtain rfl := trace_submitRsp h
  by_cases hr : ret < 0
  · exact .inr (.inl ⟨[], _, rfl, by simp [NoFault], fault_submit.trans (if_pos hr)⟩)
  · exact .inl ⟨by omega, by simp [NoFault, fault_submit, hr], rfl⟩

theorem stops_usbSendCmd {frame : List U8} : Stops fw (usbSendCmd frame) NoReads := by
  intro tr ret h
  rcases trace_usbSendCmd h with ⟨rfl, rfl⟩ | ⟨r, rfl, rfl⟩
  · exact .inr (.inl ⟨[], _, rfl, by simp [NoFault], rfl⟩)
  have halloc : ∀ n, NoFault [⟨.alloc n, true⟩] := fun n => by simp [NoFault, fault]
  by_cases hr : r < 0
  · rw [if_pos hr]
    exact .inr (.inl ⟨[_], _, rfl, halloc _, fault_bulkOut.trans (if_pos hr)⟩)
  · rw [if_neg hr]
    refine .inl ⟨Int.le_refl 0, ?_, rfl⟩
    exact noFault_append (halloc _) (by simp [NoFault, fault_bulkOut, hr])

theorem stops_sendWaiting {cmd : List U8} : Stops fw (sendWaiting cmd) NoReads := by
  have hwait : Stops fw (do let _ ← waitRsp; return 0 : P Int) NoReads := by
    intro tr ret h
    obtain ⟨r, t, rfl, h1⟩ := trace_op.1 h
    obtain ⟨rfl, rfl⟩ := trace_ret.1 h1
    exact .inl ⟨Int.le_refl 0, by simp [NoFault, fault], rfl⟩
  exact stops_submitRsp.nextReads noReads_append (stops_usbSendCmd.nextReads noReads_append hwait)

theorem stops_scatterLoop {dlLen offset : Nat} :
    Stops fw (scatterLoop fw dlLen offset) NoReads := by
  induction offset using scatterLoop.induct dlLen with
  | case1 offset h len ih =>
    have hcl : ((fw.drop offset).take len).length ≤ MT7603_FW_SCATTER_MAX_PAYLOAD := by
      rw [List.length_take]
      have hlen : len = min (dlLen - offset) MT7603_FW_SCATTER_MAX_PAYLOAD := rfl
      omega
    obtain ⟨f, -, hw⟩ := withFrame_scatter _ hcl
    unfold scatterLoop
    rw [if_pos h]
    dsimp only
    rw [hw]
    exact stops_usbSendCmd.nextReads noReads_append ih
  | case2 offset h =>
    unfold scatterLoop
    rw [if_neg h]
    exact stops_done

theorem fault_read {addr : U32} {r : Int} {w : U32} :
    fault (.readReg addr) (r, w) = if r < 0 then some (- EIO) else none := rfl

theorem noFault_read {addr : U32} {r : Int} {w : U32} (h : 0 ≤ r) :
    NoFault [readEvent addr r w] := by
  have hf : fault (.readReg (physicalAddrMap addr)) (r, w) = none :=
    fault_read.trans (if_neg (by omega))
  simpa [NoFault, readEvent] using hf

theorem trace_poll {mask expect : U32} {n : Nat} {tr : List (Event sig)} {ret : Int}
    (h : Trace (pollTopMisc2 mask expect n) tr ret) :
    (ret = 0 ∧ NoFault tr ∧ ∃ ws w, misc2Reads tr = ws ++ [w] ∧ w &&& mask = expect) ∨
    (∃ t ev, tr = t ++ [ev] ∧ NoFault t ∧ fault ev.req ev.resp = some ret) ∨
    (ret = -ETIMEDOUT ∧ NoFault tr ∧ (misc2Reads tr).length = n ∧
      ∀ w ∈ misc2Reads tr, w &&& mask ≠ expect) := by
  induction n generalizing tr with
  | zero =>
    obtain ⟨rfl, rfl⟩ := trace_ret.1 h
    exact .inr (.inr ⟨rfl, by simp [NoFault], rfl, by simp⟩)
  | succ n ih =>
    obtain ⟨x, t₁, t₂, rfl, h1, h2⟩ := trace_bind.1 h
    obtain ⟨r, w, rfl, rfl⟩ := trace_usbReadReg h1
    by_cases hr : 0 ≤ r
    · rw [if_pos hr] at h2
      dsimp only at h2
      rw [if_neg (Int.lt_irrefl 0)] at h2
      have hcons : misc2Reads ([readEvent MT7603_TOP_MISC2 r w] ++ t₂) = w :: misc2Reads t₂ :=
        misc2Reads_cons hr
      by_cases hm : w &&& mask = expect
      · rw [if_pos hm] at h2
        obtain ⟨rfl, rfl⟩ := trace_ret.1 h2
        exact .inl ⟨rfl, noFault_append (noFault_read hr) (by simp [NoFault]), [], w, hcons, hm⟩
      · rw [if_neg hm] at h2
        rcases ih h2 with ⟨rfl, hn, ws, w', hws, hw'⟩ | ⟨t, ev, rfl, hn, hf⟩ | ⟨rfl, hn, hl, hne⟩
        · refine .inl ⟨rfl, noFault_append (noFault_read hr) hn, w :: ws, w', ?_, hw'⟩
          rw [hcons, hws]
          rfl
        · exact .inr (.inl ⟨_ :: t, ev, rfl, noFault_append (noFault_read hr) hn, hf⟩)
        · refine .inr (.inr ⟨rfl, noFault_append (noFault_read hr) hn, ?_, ?_⟩)
          · rw [hcons, List.length_cons, hl]
          · rw [hcons]
            exact List.forall_mem_cons.2 ⟨hm, hne⟩
    · rw [if_neg hr] at h2
      dsimp only at h2
      rw [if_pos (by omega)] at h2
      obtain ⟨rfl, rfl⟩ := trace_ret.1 h2
      exact .inr (.inl ⟨[], _, rfl, by simp [NoFault], fault_read.trans (if_pos (by omega))⟩)

/-- **A poll** ends with a matching answer, with a read that fails, or when its time is up. -/
theorem stops_poll {mask expect : U32} (hme : (mask, expect) = (1, 1) ∨ (mask, expect) = (2, 2)) :
    Stops fw (pollTopMisc2 mask expect MT7603_ROM_READY_POLL_MAX) fun tr ret =>
      ret = 0 ∧ ∃ ws w, misc2Reads tr = ws ++ [w] ∧ w &&& mask = expect := by
  intro tr ret h
  rcases trace_poll h with ⟨rfl, hn, hw⟩ | hf | ⟨rfl, hn, hl, hm⟩
  · exact .inl ⟨Int.le_refl 0, hn, rfl, hw⟩
  · exact .inr (.inl hf)
  · exact .inr (.inr ⟨hn, .timeout mask expect _ hme (List.suffix_refl _) hl hm⟩)

theorem stops_check {code : Int} {R : List (Event sig) → Int → Prop} (h : CheckFails fw [] code) :
    Stops fw (return code) R := by
  intro tr ret ht
  obtain ⟨rfl, rfl⟩ := trace_ret.1 ht
  exact .inr (.inr ⟨by simp [NoFault], h⟩)

/-- The trailer announces a length inside the image. -/
def LengthOk (fw : List U8) : Prop :=
  ∃ dlLen, fwDlLen fw = some dlLen ∧ dlLen.toNat ≤ fw.length

/-- The firmware was seen running in the end. -/
def RamPolled (fw : List U8) (tr : List (Event sig)) (ret : Int) : Prop :=
  ret = 0 ∧ LengthOk fw ∧ ∃ ws w, misc2Reads tr = ws ++ [w] ∧ w &&& 0x02 = 0x02

theorem ramPolled_append (t t' : List (Event sig)) (ret : Int) (h : misc2Reads t = [])
    (h' : RamPolled fw t' ret) : RamPolled fw (t ++ t') ret := by
  obtain ⟨hret, hl, ws, w, hws, hw⟩ := h'
  exact ⟨hret, hl, ws, w, by rw [misc2Reads_append, h, hws]; rfl, hw⟩

/-- From the length check on. -/
theorem stops_upload {seq : U8} : Stops fw (match fwDlLen fw with
    | none => return -EINVAL
    | some dlLen =>
      withFrame (buildAddrLenReq MT7603_FW_CODE_START_ADDRESS1 dlLen seq) fun cmd => do
        let ret ← sendWaiting cmd
        if ret < 0 then return ret
        else if fw.length < dlLen.toNat then return -EINVAL
        else do
          let ret ← scatterLoop fw dlLen.toNat 0
          if ret < 0 then return ret
          else
            withFrame (buildFwStartReq 1 MT7603_FW_CODE_START_ADDRESS1 (nextCmdSeq seq))
              fun cmd => do
                let ret ← sendWaiting cmd
                if ret < 0 then return ret
                else pollTopMisc2 0x02 0x02 MT7603_ROM_READY_POLL_MAX : P Int) (RamPolled fw) := by
  cases hdl : fwDlLen fw with
  | none => exact stops_check (.length fun dlLen h => by rw [hdl] at h; cases h)
  | some dlLen =>
    dsimp only
    obtain ⟨f, -, hw⟩ := withFrame_addrLen dlLen seq
    rw [hw]
    refine stops_sendWaiting.nextReads ramPolled_append ?_
    by_cases hlen : fw.length < dlLen.toNat
    · rw [if_pos hlen]
      refine stops_check (.length fun d h => ?_)
      rw [hdl] at h
      obtain rfl := Option.some.inj h
      exact hlen
    · rw [if_neg hlen]
      obtain ⟨g, -, hw'⟩ := withFrame_start (nextCmdSeq seq)
      rw [hw']
      refine stops_scatterLoop.nextReads ramPolled_append ?_
      refine stops_sendWaiting.nextReads ramPolled_append ?_
      refine (stops_poll (.inr rfl)).mono fun tr ret h => ?_
      exact ⟨h.1, ⟨dlLen, hdl, Nat.not_lt.1 hlen⟩, h.2⟩

end

/-! ## The whole download -/

/-- The read of `TOP_MISC2` for the message that the ROM is not ready. -/
def LogRead (rest : List (Event sig)) : Prop :=
  rest = [] ∨ ∃ r w, rest = [readEvent MT7603_TOP_MISC2 r w]

/-- **Why the part in bypass mode ended**, and its code: nothing failed; or a request failed, the
first one that did; or a check. -/
inductive BypassEnds (fw : List U8) : List (Event sig) → Int → Prop
  | done {t : List (Event sig)} (hn : NoFault t) (hl : LengthOk fw)
      (hp : ∃ ws w ws' w', misc2Reads t = (ws ++ [w]) ++ (ws' ++ [w']) ∧ w &&& 0x01 = 0x01 ∧
        w' &&& 0x02 = 0x02) : BypassEnds fw t 0
  | fault {t rest : List (Event sig)} {ev : Event sig} {code : Int} (hn : NoFault t)
      (hf : Driver.fault ev.req ev.resp = some code) (hr : LogRead rest) :
      BypassEnds fw (t ++ ev :: rest) code
  | check {t rest : List (Event sig)} {code : Int} (hn : NoFault t) (hc : CheckFails fw t code)
      (hr : LogRead rest) : BypassEnds fw (t ++ rest) code

theorem outcome_body {fw : List U8} {seq : U8} {tr : List (Event sig)} {ret : Int}
    (h : Trace (downloadBody fw seq) tr ret) : BypassEnds fw tr ret := by
  obtain ⟨r, t₁, t₂, rfl, h1, h2⟩ := trace_bind.1 h
  -- a poll that fails is followed by one more read, whatever that answers
  have hlog : r < 0 → ret = r ∧ ∃ r' w, t₂ = [readEvent MT7603_TOP_MISC2 r' w] := by
    intro hr
    rw [if_pos hr] at h2
    obtain ⟨x, t₃, t₄, rfl, h3, h4⟩ := trace_bind.1 h2
    obtain ⟨r', w, rfl, -⟩ := trace_usbReadReg h3
    obtain ⟨rfl, rfl⟩ := trace_ret.1 h4
    exact ⟨rfl, r', w, List.append_nil _⟩
  rcases @stops_poll fw _ _ (.inl rfl) t₁ r h1 with
    ⟨hr, hn, -, ws, w, hws, hw⟩ | ⟨t, ev, rfl, hn, hf⟩ | ⟨hn, hc⟩
  · rw [if_neg (by omega)] at h2
    rcases stops_upload t₂ ret h2 with ⟨-, hn', rfl, hl, ws', w', hws', hw'⟩ |
      ⟨t, ev, rfl, hn', hf⟩ | ⟨hn', hc⟩
    · refine .done (noFault_append hn hn') hl ⟨ws, w, ws', w', ?_, hw, hw'⟩
      rw [misc2Reads_append, hws, hws']
    · rw [← List.append_assoc]
      exact .fault (noFault_append hn hn') hf (.inl rfl)
    · rw [← List.append_nil (t₁ ++ t₂)]
      exact .check (noFault_append hn hn') hc.append (.inl rfl)
  · obtain ⟨rfl, r', w, rfl⟩ := hlog (fault_neg hf)
    rw [List.append_assoc]
    exact .fault hn hf (.inr ⟨r', w, rfl⟩)
  · obtain ⟨rfl, r', w, rfl⟩ := hlog hc.neg
    exact .check hn hc (.inr ⟨r', w, rfl⟩)

/-- Nothing but the bypass itself writes the register. -/
theorem noSch_body {fw : List U8} {seq : U8} : All (S := sig) NoSch (downloadBody fw seq) :=
  all_downloadBody (fun _ _ => nofun) (fun _ _ _ => nofun) (fun _ _ => nofun) (fun _ => nofun)
    fun _ => nofun

theorem noSch_restart {misc2 : U32} : All (S := sig) NoSch (restartIfRunning misc2) :=
  all_restartIfRunning (fun _ _ => nofun) (fun _ _ _ => nofun) (fun _ _ => nofun) fun _ => nofun

theorem noSch_udma : All (S := sig) NoSch (usbEnableUdma true) := by
  refine all_usbEnableUdma (fun _ => nofun) fun v w h => ?_
  exact absurd (Req.writeReg.inj h).1 (by decide +kernel)

theorem BypassEnds.append {fw : List U8} {t₀ tr : List (Event sig)} {ret : Int}
    (h : BypassEnds fw tr ret) (hn₀ : NoFault t₀) (hm : misc2Reads t₀ = []) :
    BypassEnds fw (t₀ ++ tr) ret := by
  cases h with
  | done hn hl hp =>
    refine .done (noFault_append hn₀ hn) hl ?_
    rw [misc2Reads_append, hm]
    exact hp
  | fault hn hf hr =>
    rw [← List.append_assoc]
    exact .fault (noFault_append hn₀ hn) hf hr
  | check hn hc hr =>
    rw [← List.append_assoc]
    exact .check (noFault_append hn₀ hn) hc.append hr

/-- A download returns 0 only if nothing failed. -/
theorem BypassEnds.noFault {fw : List U8} {tr : List (Event sig)} {ret : Int}
    (h : BypassEnds fw tr ret) (h0 : ret = 0) :
    NoFault tr ∧ LengthOk fw ∧ ∃ ws w ws' w', misc2Reads tr = (ws ++ [w]) ++ (ws' ++ [w']) ∧
      w &&& 0x01 = 0x01 ∧ w' &&& 0x02 = 0x02 := by
  cases h with
  | done hn hl hp => exact ⟨hn, hl, hp⟩
  | fault hn hf hr => exact absurd (fault_neg hf) (by omega)
  | check hn hc hr => exact absurd hc.neg (by omega)

/-- What a download does to the register, from `before` to `after`, by its exchange. -/
inductive SchStory (fw : List U8) (before after : U32) (tr : List (Event sig)) (ret : Int) : Prop
  /-- The bypass was not entered. -/
  | untouched (hw : schWrites tr = []) (ha : after = before)
  /-- The bypass was entered, the part in bypass mode ended in some way, and if the accesses of the
  restore step succeed the register is as before, after one pulse on the reset bit. -/
  | bypass {pre body post : List (Event sig)} (htr : tr = pre ++ (body ++ post))
      (hpre : schWrites pre = [bypassed before]) (hbody : schWrites body = [])
      (hends : BypassEnds fw body ret) (hzero : ret = 0 → NoFault body)
      (hpost : Trace leaveBypass post ())
      (hback : (∀ ev ∈ post, Succeeds ev.req ev.resp) → Restored before after ∧
        schWrites post = [unforced before, unforced before ||| MT7603_SCH_REG4_PSE_RESET_BIT,
          (unforced before ||| MT7603_SCH_REG4_PSE_RESET_BIT) &&&
            ~~~MT7603_SCH_REG4_PSE_RESET_BIT])

/-- The part in bypass mode, with the restore step behind it. -/
theorem runs_bypassMode {fw : List U8} {seq : U8} {ret : Int} {s s' : SchWorld} {v : U32}
    (hv : s.sch = bypassed v) (h : Runs schEnv (do
      let ok ← alloc (MT7603_FW_SCATTER_MAX_PAYLOAD + 32)
      let ret ← (if ok then downloadBody fw seq else pure (-ENOMEM) : P Int)
      leaveBypass
      return ret : P Int) s ret s') :
    ∃ body post, s'.log = s.log ++ (body ++ post) ∧ schWrites body = [] ∧
      BypassEnds fw body ret ∧ Trace leaveBypass post () ∧
      ((∀ ev ∈ post, Succeeds ev.req ev.resp) → Restored v s'.sch ∧
        schWrites post = [unforced v, unforced v ||| MT7603_SCH_REG4_PSE_RESET_BIT,
          (unforced v ||| MT7603_SCH_REG4_PSE_RESET_BIT) &&&
            ~~~MT7603_SCH_REG4_PSE_RESET_BIT]) := by
  obtain ⟨ok, s₁, h1, h⟩ := (runs_bind _).1 h
  obtain ⟨r, s₂, h2, h⟩ := (runs_bind _).1 h
  obtain ⟨x, s₃, h3, rfl, rfl⟩ := (runs_bind _).1 h
  obtain ⟨hv₁, t₁, hl₁, ht₁, hw₁⟩ := runs_frame (all_alloc fun _ => nofun) h1
  obtain rfl := (trace_request (S := sig) (e := .alloc _)).1 ht₁
  have hbody : ∃ t₂, s₂.sch = s₁.sch ∧ s₂.log = s₁.log ++ t₂ ∧ schWrites t₂ = [] ∧
      BypassEnds fw (⟨.alloc (MT7603_FW_SCATTER_MAX_PAYLOAD + 32), ok⟩ :: t₂) ret := by
    cases ok with
    | false =>
      obtain ⟨rfl, rfl⟩ := h2
      refine ⟨[], rfl, (List.append_nil _).symm, rfl, ?_⟩
      exact .fault (t := []) (by simp [NoFault]) rfl (.inl rfl)
    | true =>
      obtain ⟨hv₂, t₂, hl₂, ht₂, hw₂⟩ := runs_frame noSch_body h2
      have hgranted : NoFault [⟨.alloc (MT7603_FW_SCATTER_MAX_PAYLOAD + 32), true⟩] := by
        simp [NoFault, fault]
      exact ⟨t₂, hv₂, hl₂, hw₂, (outcome_body ht₂).append hgranted rfl⟩
  obtain ⟨t₂, hv₂, hl₂, hw₂, hends⟩ := hbody
  obtain ⟨post, hl₃, ht₃, hback⟩ := runs_leaveBypass h3
  rw [hv₂, hv₁, hv, unforced_bypassed] at hback
  refine ⟨_ :: t₂, post, ?_, ?_, hends, ht₃, fun hok => ?_⟩
  · rw [hl₃, hl₂, hl₁]
    simp
  · exact hw₂
  · obtain ⟨hsch, hws⟩ := hback hok
    rw [hsch]
    exact ⟨restored_pulse v, hws⟩

/-- **The scheduler bypass is undone.** For every image and every device that keeps the register: a
download that does not get its bypass write through leaves the register alone; any other ends with
the restore step, and if the accesses of that succeed the register has bypass, forced queue and
reset bit clear and everything else as before, after one pulse on the reset bit. The code it returns
is that of what failed in bypass mode, and 0 only if nothing did. -/
theorem bypass_undone {fw : List U8} {before : U32} {ret : Int} {s : SchWorld}
    (h : Runs schEnv (downloadFirmware fw) ⟨before, []⟩ ret s) :
    SchStory fw before s.sch s.log ret := by
  obtain ⟨r₁, s₁, h1, h⟩ := (runs_bind _).1 h
  obtain ⟨hv₁, t₁, hl₁, -, hw₁⟩ := runs_frame noSch_udma h1
  split at h
  · obtain ⟨rfl, rfl⟩ := h
    exact .untouched (by rw [hl₁]; exact hw₁) hv₁
  obtain ⟨⟨r₂, misc2⟩, s₂, h2, h⟩ := (runs_bind _).1 h
  obtain ⟨hv₂, t₂, hl₂, -, hw₂⟩ := runs_frame (all_usbReadReg fun _ => nofun) h2
  dsimp only at h
  split at h
  · obtain ⟨rfl, rfl⟩ := h
    refine .untouched ?_ (hv₂.trans hv₁)
    rw [hl₂, hl₁]
    simp [hw₁, hw₂]
  obtain ⟨seq, s₃, h3, h⟩ := (runs_bind _).1 h
  obtain ⟨hv₃, t₃, hl₃, -, hw₃⟩ := runs_frame noSch_restart h3
  have hv : s₃.sch = before := (hv₃.trans hv₂).trans hv₁
  have hlog : s₃.log = t₁ ++ (t₂ ++ t₃) := by
    rw [hl₃, hl₂, hl₁]
    simp
  obtain ⟨r₄, s₄, h4, h⟩ := (runs_bind _).1 h
  obtain ⟨t₄, hl₄, hcase⟩ := runs_enterBypass h4
  rw [hv] at hcase
  rcases hcase with ⟨hr, hv₄, hw₄⟩ | ⟨rfl, hv₄, hw₄⟩
  · rw [if_pos hr] at h
    obtain ⟨rfl, rfl⟩ := h
    refine .untouched ?_ hv₄
    rw [hl₄, hlog]
    simp [hw₁, hw₂, hw₃, hw₄]
  · rw [if_neg (Int.lt_irrefl 0)] at h
    obtain ⟨body, post, hl₅, hwb, hends, hpost, hback⟩ := runs_bypassMode hv₄ h
    have htr : s.log = t₁ ++ (t₂ ++ t₃) ++ t₄ ++ (body ++ post) := by
      rw [hl₅, hl₄, hlog]
    refine .bypass htr ?_ hwb hends (fun h0 => (hends.noFault h0).1) hpost hback
    simp [hw₁, hw₂, hw₃, hw₄]

/-- A device that keeps the register, on which firmware runs and every transfer times out. -/
def timingOut (s : SchWorld) : (e : Req) → e.Resp
  | .readReg a => if a = schAddr then (4, s.sch) else (4, 3)
  | .bulkOut _ _ => -ETIMEDOUT
  | e => scriptedDevice [] 0 [] e

/-- A download with that device, on an image it accepts. -/
def bypassRun (before : U32) : Int × SchWorld :=
  (downloadFirmware smallFw).run (fun s e => (timingOut s e,
    ⟨(schWritten e (timingOut s e)).getD s.sch, s.log ++ [⟨e, timingOut s e⟩]⟩)) ⟨before, []⟩

theorem runs_bypassRun (before : U32) :
    Runs schEnv (downloadFirmware smallFw) ⟨before, []⟩ (bypassRun before).1
      (bypassRun before).2 := by
  refine runs_run (fun s e => ⟨?_, rfl⟩) _ _
  cases e with
  | readReg a =>
    by_cases ha : a = schAddr
    · have hr : timingOut s (.readReg a) = (4, s.sch) := if_pos ha
      rw [hr]
      exact fun _ _ => rfl
    · have hr : timingOut s (.readReg a) = (4, 3) := if_neg ha
      rw [hr]
      exact fun h => absurd h ha
  | _ => trivial

/-- The address/length request times out: its code is returned, and the register is back at the
value it had. -/
theorem bypass_undone_timeout :
    (bypassRun 0x40).1 = -ETIMEDOUT ∧ (bypassRun 0x40).2.sch = 0x40 ∧
      SchStory smallFw 0x40 (bypassRun 0x40).2.sch (bypassRun 0x40).2.log (-ETIMEDOUT) := by
  have hret : (bypassRun 0x40).1 = -ETIMEDOUT := by decide +kernel
  refine ⟨hret, by decide +kernel, ?_⟩
  rw [← hret]
  exact bypass_undone (runs_bypassRun 0x40)

end Driver
