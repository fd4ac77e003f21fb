import Mt7603u.Proof.Download
import Mt7603u.Proof.UrbStep

/-!
# Response URBs are accounted for

Each of the four response URBs of a download is submitted at one place; the parts before and behind
it have nothing to do with that URB (`Untouched`). The two of the restart request are released on
every way out (`releases_restart84`, `releases_restart85`); that of the address/length request and
that of the start request only once the request was sent (`accounted_sendWaiting`).
`rspUrbs_released_iff`: all submitted URBs are completed or killed and freed once, unless one of
these two requests could not be sent.
-/

namespace Driver

open Effect Slice Word Rust

/-! ## Where the send fails -/

/-- The buffer for the command of the URB's request was refused, or its transfer failed. -/
def sendLost (u : RspUrb) : (e : UrbReq) → e.Resp → Bool
  | .io (some v) (.alloc _), false => v = u
  | .io (some v) (.bulkOut _ _), (r : Int) => v = u ∧ r < 0
  | _, _ => false

/-- This happened in an exchange. -/
def sendFails (u : RspUrb) (tr : List (Event urbSig)) : Bool :=
  tr.any fun ev => sendLost u ev.req ev.resp

@[simp] theorem sendFails_append (u : RspUrb) (t t' : List (Event urbSig)) :
    sendFails u (t ++ t') = (sendFails u t || sendFails u t') := List.any_append

/-- A request that has to do with the URB. -/
def Touches (u : RspUrb) : UrbReq → Prop
  | .io of _ => of = some u
  | .submit v => v = u
  | .kill v => v = u
  | .freeUrb v => v = u
  | _ => False

theorem sendLost_other {u : RspUrb} {e : UrbReq} (h : ¬Touches u e) (r : e.Resp) :
    sendLost u e r = false := by
  cases e with
  | io of e =>
    cases of with
    | none => rfl
    | some v =>
      have hv : v ≠ u := fun hv => h (congrArg some hv)
      cases e with
      | alloc n => cases r <;> simp [sendLost, hv]
      | bulkOut ep buf => simp [sendLost, hv]
      | _ => rfl
  | _ => rfl

theorem not_acts {u : RspUrb} {e : UrbReq} (h : ¬Touches u e) : ¬Acts u e := by
  cases e with
  | io of e => exact id
  | _ => exact h

theorem urbEnv_logged : Logged Urbs.log urbEnv := by
  rintro s e r s' ⟨urb, -, -, rfl⟩
  rfl

/-- A part that has nothing to do with the URB. -/
def Untouched {α : Type} (u : RspUrb) (p : UP α) : Prop :=
  All (S := urbSig) (fun e => ¬Touches u e) p

theorem sendFails_untouched {α : Type} {u : RspUrb} {p : UP α} {tr : List (Event urbSig)} {a : α}
    (hp : Untouched u p) (h : Trace p tr a) : sendFails u tr = false := by
  have hq := trace_all hp h
  exact List.any_eq_false.2 fun ev hev => by simp [sendLost_other (hq ev hev)]

theorem runs_untouched {α : Type} {u : RspUrb} {p : UP α} {w w' : Urbs} {a : α}
    (hp : Untouched u p) (h : Runs urbEnv p w a w') :
    Later (w.urb u) (w'.urb u) ∧ ∃ tr, w'.log = w.log ++ tr ∧ sendFails u tr = false := by
  obtain ⟨tr, hlog, ht⟩ := runs_trace urbEnv_logged h
  exact ⟨later_of_not_acts (all_mono hp fun _ => not_acts) h, tr, hlog, sendFails_untouched hp ht⟩

/-! ## Accounting -/

/-- The URB is released, or its request could not be sent and it was left behind. -/
def Accounts (u : RspUrb) (s : UrbState) (tr : List (Event urbSig)) : Prop :=
  (s.Released ∧ sendFails u tr = false) ∨ (s.Leaked ∧ sendFails u tr = true)

theorem Accounts.released_iff {u : RspUrb} {s : UrbState} {tr : List (Event urbSig)}
    (h : Accounts u s tr) : s.Released ↔ sendFails u tr = false := by
  rcases h with ⟨hr, hs⟩ | ⟨hl, hs⟩
  · exact ⟨fun _ => hs, fun _ => hr⟩
  · exact ⟨fun hr => absurd hr hl.not_released, fun hf => by simp [hs] at hf⟩

/-- A part that accounts for the URB, started before its request. -/
def Accounted {α : Type} (u : RspUrb) (p : UP α) : Prop :=
  ∀ w a w', Runs urbEnv p w a w' → (w.urb u).Fresh →
    ∃ tr, w'.log = w.log ++ tr ∧ Accounts u (w'.urb u) tr

section
variable {α β : Type} {u : RspUrb} {p : UP α} {f : α → UP β}

theorem accounted_untouched (hp : Untouched u p) : Accounted u p := by
  intro w a w' h hf
  obtain ⟨hl, tr, hlog, hs⟩ := runs_untouched hp h
  exact ⟨tr, hlog, .inl ⟨(hl.fresh hf).released, hs⟩⟩

/-- The URB's request comes later. -/
theorem accounted_before (hp : Untouched u p) (hf : ∀ a, Accounted u (f a)) :
    Accounted u (p >>= f) := by
  intro w b w' h hfresh
  obtain ⟨a, w₁, h1, h2⟩ := (runs_bind _).1 h
  obtain ⟨hl, t₁, hlog₁, hs₁⟩ := runs_untouched hp h1
  obtain ⟨t₂, hlog₂, hacc⟩ := hf a w₁ b w' h2 (hl.fresh hfresh)
  refine ⟨t₁ ++ t₂, by rw [hlog₂, hlog₁, List.append_assoc], ?_⟩
  unfold Accounts
  rw [sendFails_append, hs₁, Bool.false_or]
  exact hacc

/-- The URB's request is over. -/
theorem accounted_after (hp : Accounted u p) (hf : ∀ a, Untouched u (f a)) :
    Accounted u (p >>= f) := by
  intro w b w' h hfresh
  obtain ⟨a, w₁, h1, h2⟩ := (runs_bind _).1 h
  obtain ⟨t₁, hlog₁, hacc⟩ := hp w a w₁ h1 hfresh
  obtain ⟨hl, t₂, hlog₂, hs₂⟩ := runs_untouched (hf a) h2
  refine ⟨t₁ ++ t₂, by rw [hlog₂, hlog₁, List.append_assoc], ?_⟩
  unfold Accounts
  rw [sendFails_append, hs₂, Bool.or_false]
  exact hacc.imp (fun h => ⟨hl.released h.1, h.2⟩) fun h => ⟨hl.leaked h.1, h.2⟩

end

/-! ## The parts of a download -/

/-- A frame is built and goes to `x`, or its builder's error is the result. -/
theorem withFrame_induct {X : UP Int → Prop} {B : Out U8 Nat} {x : List U8 → UP Int}
    (hret : ∀ code : Int, X (return code)) (h : ∀ cmd, X (x cmd)) : X (withFrameUrb B x) := by
  unfold withFrameUrb
  cases rustCall B (MT7603_FW_SCATTER_MAX_PAYLOAD + 32) with
  | ok cmd => exact h cmd
  | error e =>
    cases e with
    | errno code => exact hret code
    | _ => exact hret _

/-- A request about one URB. -/
def UrbOf (u : RspUrb) : UrbReq → Prop
  | .io _ _ => False
  | .kmalloc v _ => v = u
  | .allocUrb v => v = u
  | .submit v => v = u
  | .wait v => v = u
  | .waitGate => False
  | .kill v => v = u
  | .freeUrb v => v = u
  | .kfree v => v = u

section
variable {u v : RspUrb}

theorem all_release : All (S := urbSig) (UrbOf u) (release u) :=
  ⟨rfl, fun _ => ⟨rfl, fun _ => ⟨rfl, fun _ => trivial⟩⟩⟩

theorem all_rspSubmit : All (S := urbSig) (UrbOf u) (rspSubmit u) := by
  refine ⟨rfl, fun ok => ?_⟩
  cases ok with
  | false => trivial
  | true =>
    refine ⟨rfl, fun ok => ?_⟩
    cases ok with
    | false => exact ⟨rfl, fun _ => trivial⟩
    | true =>
      refine all_bind (p := submitUrb u) (all_request.2 rfl) fun ret => ?_
      split
      · exact ⟨rfl, fun _ => ⟨rfl, fun _ => trivial⟩⟩
      · trivial

theorem all_rspWait : All (S := urbSig) (UrbOf u) (rspWait u) := by
  refine ⟨rfl, fun st => ?_⟩
  cases st with
  | none => exact ⟨rfl, fun _ => ⟨rfl, fun _ => ⟨rfl, fun _ => trivial⟩⟩⟩
  | some status => exact ⟨rfl, fun _ => ⟨rfl, fun _ => trivial⟩⟩

theorem untouched_io {α : Type} (p : P α) : Untouched u (io none p) :=
  all_via (all_of_forall (fun _ => nofun) p)

theorem untouched_next {p q : UP Int} (hp : Untouched u p) (hq : Untouched u q) :
    Untouched u (p >>= fun ret => if ret < 0 then return ret else q) := by
  refine all_bind hp fun ret => ?_
  split
  · trivial
  · exact hq

theorem untouched_of (h : v ≠ u) {α : Type} {p : UP α} (hp : All (S := urbSig) (UrbOf v) p) :
    Untouched u p := by
  refine all_mono hp fun e he => ?_
  cases e with
  | io of e => exact absurd he id
  | submit w => exact fun ht => h (he.symm.trans ht)
  | kill w => exact fun ht => h (he.symm.trans ht)
  | freeUrb w => exact fun ht => h (he.symm.trans ht)
  | _ => exact id

theorem untouched_sendWaiting (h : v ≠ u) {cmd : List U8} :
    Untouched u (sendWaitingUrb v cmd) := by
  refine untouched_next (untouched_of h all_rspSubmit) (untouched_next ?_ ?_)
  · exact all_via (all_of_forall (fun _ ht => h (Option.some.inj ht)) _)
  · exact all_bind (untouched_of h all_rspWait) fun _ => trivial

end

/-- A transfer for the URB's request. -/
theorem sendFails_transfer (u : RspUrb) (n : Nat) (ep : U8) (buf : List U8) (r : Int) :
    sendFails u [⟨.io (some u) (.alloc n), true⟩, ⟨.io (some u) (.bulkOut ep buf), r⟩] = true ↔
      (if r < 0 then r else 0) < 0 := by
  have hs : sendFails u [⟨.io (some u) (.alloc n), true⟩, ⟨.io (some u) (.bulkOut ep buf), r⟩] =
      (false || (decide (u = u ∧ r < 0) || false)) := rfl
  rw [hs]
  by_cases hr : r < 0
  · simp [hr]
  · simp [hr]

/-- A command that is sent for the URB's request. -/
theorem sendFails_io {u : RspUrb} {cmd : List U8} {tr : List (Event urbSig)} {ret : Int}
    (h : Trace (io (some u) (usbSendCmd cmd)) tr ret) : sendFails u tr = true ↔ ret < 0 := by
  obtain ⟨ok, t₁, rfl, h1⟩ := trace_op.1 h
  cases ok with
  | false =>
    obtain ⟨rfl, rfl⟩ := trace_ret.1 h1
    simp [sendFails, sendLost, ENOMEM]
  | true =>
    obtain ⟨r, t₂, rfl, h2⟩ := trace_op.1 h1
    obtain ⟨rfl, rfl⟩ := trace_ret.1 h2
    exact sendFails_transfer u _ _ _ r

/-- Requests about URBs send no command. -/
theorem sendFails_urbOf {α : Type} {u v : RspUrb} {p : UP α} {tr : List (Event urbSig)} {a : α}
    (hp : All (S := urbSig) (UrbOf v) p) (h : Trace p tr a) : sendFails u tr = false := by
  have hq := trace_all hp h
  refine List.any_eq_false.2 fun ev hev => ?_
  obtain ⟨e, r⟩ := ev
  cases e with
  | io of e => exact absurd (hq _ hev) id
  | _ => exact Bool.false_ne_true

section
variable {u : RspUrb}

/-- **The address/length or the start request** accounts for its URB: it is left behind exactly when
the request cannot be sent. -/
theorem accounted_sendWaiting {cmd : List U8} : Accounted u (sendWaitingUrb u cmd) := by
  intro w ret w' h hf
  obtain ⟨r₁, w₁, h1, h⟩ := (runs_bind _).1 h
  obtain ⟨t₁, hlog₁, ht₁⟩ := runs_trace urbEnv_logged h1
  have hs₁ : sendFails u t₁ = false := sendFails_urbOf all_rspSubmit ht₁
  rcases urb_rspSubmit h1 hf with ⟨hr, hsub⟩ | ⟨rfl, hsub, hfreed⟩
  · rw [if_pos hr] at h
    obtain ⟨rfl, rfl⟩ := h
    exact ⟨t₁, hlog₁, .inl ⟨fun hs => absurd hsub (by simp [hs]), hs₁⟩⟩
  rw [if_neg (Int.lt_irrefl 0)] at h
  obtain ⟨r₂, w₂, h2, h⟩ := (runs_bind _).1 h
  obtain ⟨t₂, hlog₂, ht₂⟩ := runs_trace urbEnv_logged h2
  have hl : Later (w₁.urb u) (w₂.urb u) :=
    later_of_not_acts (all_via (all_of_forall (fun _ => id) _)) h2
  have hfails := sendFails_io ht₂
  by_cases hr : r₂ < 0
  · rw [if_pos hr] at h
    obtain ⟨rfl, rfl⟩ := h
    refine ⟨t₁ ++ t₂, by rw [hlog₂, hlog₁, List.append_assoc], .inr ⟨hl.leaked ⟨hsub, hfreed⟩, ?_⟩⟩
    rw [sendFails_append, hfails.2 hr, Bool.or_true]
  · rw [if_neg hr] at h
    obtain ⟨r₃, w₃, h3, rfl, rfl⟩ := (runs_bind _).1 h
    obtain ⟨t₃, hlog₃, ht₃⟩ := runs_trace urbEnv_logged h3
    have hs₂ : sendFails u t₂ = false := Bool.eq_false_iff.2 fun hs => hr (hfails.1 hs)
    have hs₃ : sendFails u t₃ = false := sendFails_urbOf all_rspWait ht₃
    refine ⟨t₁ ++ (t₂ ++ t₃), by rw [hlog₃, hlog₂, hlog₁]; simp, .inl ⟨?_, ?_⟩⟩
    · exact urb_rspWait h3 (hl.freed.trans hfreed)
    · rw [sendFails_append, sendFails_append, hs₁, hs₂, hs₃]
      rfl

end

/-! ## The restart request -/

/-- A part that takes the URB from `X` to a released one, without a command for its request. -/
def Releases {α : Type} (u : RspUrb) (X : UrbState → Prop) (p : UP α) : Prop :=
  ∀ w a w', Runs urbEnv p w a w' → X (w.urb u) →
    ∃ tr, w'.log = w.log ++ tr ∧ (w'.urb u).Released ∧ sendFails u tr = false

/-- What stays true of an URB that nothing is done with. -/
def Stable (X : UrbState → Prop) : Prop := ∀ s s', Later s s' → X s → X s'

/-- Not freed yet. -/
def UrbState.Held (s : UrbState) : Prop := s.freed = 0

theorem stable_fresh : Stable UrbState.Fresh := fun _ _ h hs => h.fresh hs

theorem stable_held : Stable UrbState.Held := fun _ _ h hs => h.freed.trans hs

section
variable {α β : Type} {u : RspUrb} {X : UrbState → Prop} {p : UP α} {f : α → UP β}

theorem releases_release : Releases u UrbState.Held (release u) := by
  intro w x w' h hf
  obtain ⟨tr, hlog, ht⟩ := runs_trace urbEnv_logged h
  obtain ⟨-, hfl, hfr⟩ := urb_release h
  refine ⟨tr, hlog, fun _ => ⟨hfl, ?_⟩, sendFails_urbOf all_release ht⟩
  rw [hfr, show (w.urb u).freed = 0 from hf]

theorem releases_untouched (hp : Untouched u p) : Releases u UrbState.Fresh p := by
  intro w a w' h hf
  obtain ⟨hl, tr, hlog, hs⟩ := runs_untouched hp h
  exact ⟨tr, hlog, (hl.fresh hf).released, hs⟩

theorem releases_before (hX : Stable X) (hp : Untouched u p) (hf : ∀ a, Releases u X (f a)) :
    Releases u X (p >>= f) := by
  intro w b w' h hx
  obtain ⟨a, w₁, h1, h2⟩ := (runs_bind _).1 h
  obtain ⟨hl, t₁, hlog₁, hs₁⟩ := runs_untouched hp h1
  obtain ⟨t₂, hlog₂, hrel, hs₂⟩ := hf a w₁ b w' h2 (hX _ _ hl hx)
  exact ⟨t₁ ++ t₂, by rw [hlog₂, hlog₁, List.append_assoc], hrel, by simp [hs₁, hs₂]⟩

theorem releases_after (hp : Releases u X p) (hf : ∀ a, Untouched u (f a)) :
    Releases u X (p >>= f) := by
  intro w b w' h hx
  obtain ⟨a, w₁, h1, h2⟩ := (runs_bind _).1 h
  obtain ⟨t₁, hlog₁, hrel, hs₁⟩ := hp w a w₁ h1 hx
  obtain ⟨hl, t₂, hlog₂, hs₂⟩ := runs_untouched (hf a) h2
  exact ⟨t₁ ++ t₂, by rw [hlog₂, hlog₁, List.append_assoc], hl.released hrel, by simp [hs₁, hs₂]⟩

/-- An URB that is submitted and then released. -/
theorem releases_submit {f : Int → UP Int} (hfail : ∀ ret < 0, Untouched u (f ret))
    (hok : Releases u UrbState.Held (f 0)) : Releases u UrbState.Fresh (rspSubmit u >>= f) := by
  intro w b w' h hf
  obtain ⟨ret, w₁, h1, h2⟩ := (runs_bind _).1 h
  obtain ⟨t₁, hlog₁, ht₁⟩ := runs_trace urbEnv_logged h1
  have hs₁ : sendFails u t₁ = false := sendFails_urbOf all_rspSubmit ht₁
  rcases urb_rspSubmit h1 hf with ⟨hr, hsub⟩ | ⟨rfl, -, hfreed⟩
  · obtain ⟨hl, t₂, hlog₂, hs₂⟩ := runs_untouched (hfail ret hr) h2
    have hnot : (w'.urb u).submitted = false := hl.submitted.trans hsub
    refine ⟨t₁ ++ t₂, by rw [hlog₂, hlog₁, List.append_assoc], fun hs => ?_, by simp [hs₁, hs₂]⟩
    exact absurd hnot (by simp [hs])
  · obtain ⟨t₂, hlog₂, hrel, hs₂⟩ := hok w₁ b w' h2 hfreed
    exact ⟨t₁ ++ t₂, by rw [hlog₂, hlog₁, List.append_assoc], hrel, by simp [hs₁, hs₂]⟩

/-- The wait for either response. -/
theorem untouched_gate {ret : Int} :
    Untouched u (if ret < 0 then pure ret else do let _ ← waitGate; return 0 : UP Int) := by
  split
  · trivial
  · exact ⟨id, fun _ => trivial⟩

end

/-- **The restart request releases both its URBs**, on every way out. -/
theorem releases_restart84 {cmd : List U8} :
    Releases .restart84 UrbState.Fresh (restartDlUrbs cmd) := by
  have h85 : RspUrb.restart85 ≠ .restart84 := nofun
  refine releases_submit (fun ret hr => ?_) ?_
  · rw [if_pos hr]
    trivial
  rw [if_neg (Int.lt_irrefl 0)]
  refine releases_before stable_held (untouched_of h85 all_rspSubmit) fun ret => ?_
  split
  · exact releases_after releases_release fun _ => trivial
  · refine releases_before stable_held (untouched_io _) fun ret => ?_
    refine releases_before stable_held untouched_gate fun ret => ?_
    refine releases_after releases_release fun _ => ?_
    exact all_bind (untouched_of h85 all_release) fun _ => trivial

theorem releases_restart85 {cmd : List U8} :
    Releases .restart85 UrbState.Fresh (restartDlUrbs cmd) := by
  have h84 : RspUrb.restart84 ≠ .restart85 := nofun
  refine releases_before stable_fresh (untouched_of h84 all_rspSubmit) fun ret => ?_
  split
  · exact releases_untouched trivial
  refine releases_submit (fun ret hr => ?_) ?_
  · rw [if_pos hr]
    exact all_bind (untouched_of h84 all_release) fun _ => trivial
  · rw [if_neg (Int.lt_irrefl 0)]
    refine releases_before stable_held (untouched_io _) fun ret => ?_
    refine releases_before stable_held untouched_gate fun ret => ?_
    refine releases_before stable_held (untouched_of h84 all_release) fun _ => ?_
    exact releases_after releases_release fun _ => trivial

theorem untouched_restart {u : RspUrb} (h84 : RspUrb.restart84 ≠ u) (h85 : RspUrb.restart85 ≠ u)
    {cmd : List U8} : Untouched u (restartDlUrbs cmd) := by
  refine untouched_next (untouched_of h84 all_rspSubmit) ?_
  refine all_bind (untouched_of h85 all_rspSubmit) fun ret => ?_
  have hrel : ∀ ret : Int, Untouched u (do release .restart84; release .restart85; return ret) :=
    fun _ => all_bind (untouched_of h84 all_release) fun _ =>
      all_bind (untouched_of h85 all_release) fun _ => trivial
  split
  · exact all_bind (untouched_of h84 all_release) fun _ => trivial
  · exact all_bind (untouched_io _) fun _ => all_bind untouched_gate fun ret => hrel ret

/-! ## The whole download -/

section
variable {u : RspUrb}

theorem accounted_next {p q : UP Int} (hp : Accounted u p) (hq : Untouched u q) :
    Accounted u (p >>= fun ret => if ret < 0 then return ret else q) := by
  refine accounted_after hp fun ret => ?_
  split
  · trivial
  · exact hq

theorem accounted_later {p q : UP Int} (hp : Untouched u p) (hq : Accounted u q) :
    Accounted u (p >>= fun ret => if ret < 0 then return ret else q) := by
  refine accounted_before hp fun ret => ?_
  split
  · exact accounted_untouched trivial
  · exact hq

/-- The upload, for the URBs that are not the start request's. -/
theorem untouched_upload {fw : List U8} {dlLen : U32} {seq : U8} (h : RspUrb.start ≠ u) :
    Untouched u (if fw.length < dlLen.toNat then return -EINVAL
      else do
        let ret ← io none (scatterLoop fw dlLen.toNat 0)
        if ret < 0 then return ret
        else
          withFrameUrb (buildFwStartReq 1 MT7603_FW_CODE_START_ADDRESS1 seq) fun cmd => do
            let ret ← sendWaitingUrb .start cmd
            if ret < 0 then return ret
            else io none (pollTopMisc2 0x02 0x02 MT7603_ROM_READY_POLL_MAX) : UP Int) := by
  split
  · trivial
  · refine untouched_next (untouched_io _) (withFrame_induct (fun _ => trivial) fun cmd => ?_)
    exact untouched_next (untouched_sendWaiting h) (untouched_io _)

theorem accounted_body {fw : List U8} {seq : U8} : Accounted u (downloadBodyUrb fw seq) := by
  refine accounted_before (untouched_io _) fun ret => ?_
  split
  · exact accounted_untouched (all_bind (untouched_io _) fun _ => trivial)
  cases fwDlLen fw with
  | none => exact accounted_untouched trivial
  | some dlLen =>
    refine withFrame_induct (fun _ => accounted_untouched trivial) fun cmd => ?_
    by_cases ha : u = .addrLen
    · subst ha
      exact accounted_next accounted_sendWaiting (untouched_upload nofun)
    refine accounted_later (untouched_sendWaiting fun h => ha h.symm) ?_
    by_cases hs : u = .start
    · subst hs
      split
      · exact accounted_untouched trivial
      · refine accounted_later (untouched_io _) ?_
        refine withFrame_induct (fun _ => accounted_untouched trivial) fun cmd => ?_
        exact accounted_next accounted_sendWaiting (untouched_io _)
    · exact accounted_untouched (untouched_upload fun h => hs h.symm)

theorem untouched_body (ha : RspUrb.addrLen ≠ u) (hs : RspUrb.start ≠ u) {fw : List U8}
    {seq : U8} : Untouched u (downloadBodyUrb fw seq) := by
  refine all_bind (untouched_io _) fun ret => ?_
  split
  · exact all_bind (untouched_io _) fun _ => trivial
  cases fwDlLen fw with
  | none => trivial
  | some dlLen =>
    refine withFrame_induct (fun _ => trivial) fun cmd => ?_
    exact untouched_next (untouched_sendWaiting ha) (untouched_upload hs)

/-- The restart, for the URBs of the other requests. -/
theorem untouched_restartIfRunning (h84 : RspUrb.restart84 ≠ u) (h85 : RspUrb.restart85 ≠ u)
    {misc2 : U32} : Untouched u (restartUrbsIfRunning misc2) := by
  unfold restartUrbsIfRunning
  split
  · refine all_bind ?_ fun _ => trivial
    exact withFrame_induct (fun _ => trivial) fun _ => untouched_restart h84 h85
  · trivial

theorem releases_restartIfRunning (h : ∀ cmd, Releases u UrbState.Fresh (restartDlUrbs cmd))
    {misc2 : U32} : Releases u UrbState.Fresh (restartUrbsIfRunning misc2) := by
  unfold restartUrbsIfRunning
  split
  · exact releases_after (withFrame_induct (fun _ => releases_untouched trivial) h) fun _ => trivial
  · exact releases_untouched trivial

/-- The part in bypass mode. -/
theorem accounted_bypass {fw : List U8} {seq : U8} : Accounted u (do
    let ok ← io none (alloc (MT7603_FW_SCATTER_MAX_PAYLOAD + 32))
    let ret ← (if ok then downloadBodyUrb fw seq else pure (-ENOMEM) : UP Int)
    io none leaveBypass
    return ret : UP Int) := by
  refine accounted_before (untouched_io _) fun ok => ?_
  refine accounted_after ?_ fun ret => all_bind (untouched_io _) fun _ => trivial
  split
  · exact accounted_body
  · exact accounted_untouched trivial

theorem untouched_bypass (ha : RspUrb.addrLen ≠ u) (hs : RspUrb.start ≠ u) {fw : List U8}
    {seq : U8} : Untouched u (do
    let ok ← io none (alloc (MT7603_FW_SCATTER_MAX_PAYLOAD + 32))
    let ret ← (if ok then downloadBodyUrb fw seq else pure (-ENOMEM) : UP Int)
    io none leaveBypass
    return ret : UP Int) := by
  refine all_bind (untouched_io _) fun ok => ?_
  refine all_bind ?_ fun ret => all_bind (untouched_io _) fun _ => trivial
  split
  · exact untouched_body ha hs
  · trivial

/-- The URB of the address/length or of the start request. -/
theorem accounted_download {fw : List U8} (h84 : RspUrb.restart84 ≠ u)
    (h85 : RspUrb.restart85 ≠ u) : Accounted u (downloadFirmwareUrbs fw) := by
  refine accounted_later (untouched_io _) (accounted_before (untouched_io _) fun x => ?_)
  obtain ⟨ret, misc2⟩ := x
  dsimp only
  split
  · exact accounted_untouched trivial
  · refine accounted_before (untouched_restartIfRunning h84 h85) fun seq => ?_
    exact accounted_later (untouched_io _) accounted_bypass

/-- The URBs of the restart request. -/
theorem releases_download {fw : List U8} (ha : RspUrb.addrLen ≠ u) (hs : RspUrb.start ≠ u)
    (h : ∀ cmd, Releases u UrbState.Fresh (restartDlUrbs cmd)) :
    Releases u UrbState.Fresh (downloadFirmwareUrbs fw) := by
  refine releases_before stable_fresh (untouched_io _) fun ret => ?_
  split
  · exact releases_untouched trivial
  refine releases_before stable_fresh (untouched_io _) fun x => ?_
  obtain ⟨ret, misc2⟩ := x
  dsimp only
  split
  · exact releases_untouched trivial
  · refine releases_after (releases_restartIfRunning h) fun seq => ?_
    exact untouched_next (untouched_io _) (untouched_bypass ha hs)

end

/-- **Response URBs are released unless their request cannot be sent.** Whatever the device does
and whatever is refused, after a download every response URB that was submitted has completed or
was killed and was freed exactly once, exactly if the sends of the address/length request and of
the start request did not fail. -/
theorem rspUrbs_released_iff {fw : List U8} {ret : Int} {w : Urbs}
    (h : Runs urbEnv (downloadFirmwareUrbs fw) {} ret w) :
    (∀ u, (w.urb u).Released) ↔
      sendFails .addrLen w.log = false ∧ sendFails .start w.log = false := by
  have hfresh : ∀ u, (({} : Urbs).urb u).Fresh := fun _ => ⟨rfl, rfl, rfl⟩
  have hacc : ∀ u, RspUrb.restart84 ≠ u → RspUrb.restart85 ≠ u → Accounts u (w.urb u) w.log := by
    intro u h84 h85
    obtain ⟨tr, hlog, ha⟩ := accounted_download h84 h85 _ _ _ h (hfresh u)
    rw [hlog]
    exact ha
  have hrel : ∀ u, RspUrb.addrLen ≠ u → RspUrb.start ≠ u →
      (∀ cmd, Releases u UrbState.Fresh (restartDlUrbs cmd)) → (w.urb u).Released := by
    intro u ha hs hr
    obtain ⟨tr, -, hd, -⟩ := releases_download ha hs hr _ _ _ h (hfresh u)
    exact hd
  have ha := (hacc .addrLen nofun nofun).released_iff
  have hs := (hacc .start nofun nofun).released_iff
  constructor
  · exact fun hall => ⟨ha.1 (hall _), hs.1 (hall _)⟩
  · intro hsend u
    cases u with
    | restart84 => exact hrel _ nofun nofun fun _ => releases_restart84
    | restart85 => exact hrel _ nofun nofun fun _ => releases_restart85
    | addrLen => exact ha.2 hsend.1
    | start => exact hs.2 hsend.2

/-! ## Two downloads -/

/-- A device on which firmware runs and that never responds; the transfers for the request `lost`
time out. -/
def urbReply (lost : Option RspUrb) : (e : UrbReq) → e.Resp
  | .io (some v) (.bulkOut _ _) => if lost = some v then -ETIMEDOUT else (0 : Int)
  | .io _ e => scriptedDevice [3] 0 [] e
  | .kmalloc _ _ => true
  | .allocUrb _ => true
  | .submit _ => (0 : Int)
  | .wait _ => none
  | .waitGate => false
  | .kill _ => ()
  | .freeUrb _ => ()
  | .kfree _ => ()

/-- A download with that device. -/
def urbRun (lost : Option RspUrb) : Int × Urbs :=
  (downloadFirmwareUrbs smallFw).run
    (fun s e => (urbReply lost e,
      ⟨urbStep s.urb e (urbReply lost e), s.log ++ [⟨e, urbReply lost e⟩]⟩)) {}

theorem runs_urbRun (lost : Option RspUrb) :
    Runs urbEnv (downloadFirmwareUrbs smallFw) {} (urbRun lost).1 (urbRun lost).2 := by
  refine runs_run (fun s e => ⟨s.urb, fun _ => .inl rfl, ?_, rfl⟩) _ _
  cases e with
  | io of e => trivial
  | _ => trivial

theorem rspUrbs_released_noResponse : (urbRun none).1 = 0 ∧ ∀ u, ((urbRun none).2.urb u).Released :=
  ⟨by decide +kernel,
    (rspUrbs_released_iff (runs_urbRun none)).2 ⟨by decide +kernel, by decide +kernel⟩⟩

/-- **The URB of a request that is not sent** is still in flight when the download returns, and was
never freed. -/
theorem rspUrbs_addrLen_inFlight :
    verifyFirmware smallFw = .ok () ∧ ∃ ret w, Runs urbEnv (downloadFirmwareUrbs smallFw) {} ret w ∧
      w.urb .addrLen = ⟨true, true, 0⟩ ∧ ¬∀ u, (w.urb u).Released := by
  have hurb : (urbRun (some .addrLen)).2.urb .addrLen = ⟨true, true, 0⟩ := by decide +kernel
  refine ⟨smallFw_verified, _, _, runs_urbRun (some .addrLen), hurb, fun hall => ?_⟩
  have hleak : ((urbRun (some .addrLen)).2.urb .addrLen).Leaked := by
    rw [hurb]
    exact ⟨rfl, rfl⟩
  exact hleak.not_released (hall _)

end Driver
