import Mt7603u.Driver.RspUrb
import Mt7603u.Proof.Exchange

/-!
# Response URBs, step by step

`downloadFirmwareUrbs` is the download of `Driver.Download` with the URBs in view: every exchange of
it, seen through `coarse`, is one of `downloadFirmware` (`sim_downloadFirmware`).

Of one URB, `Later s s'` says what can have changed while nothing was done with it: it may have
completed. `later_of_not_acts` is the frame rule; `urb_rspSubmit`, `urb_rspWait` and `urb_release`
say what the driver's functions do to their URB.
-/

namespace Driver

open Effect Slice Word Rust

/-! ## The download with the URBs in view -/

def submitEvent (u : RspUrb) (r : Int) : Event sig := ⟨.submitRsp u.ep, r⟩

def waitEvent (r : Int) : Event sig := ⟨.waitRsp, r⟩

/-- The requests of `Driver.Download` in an exchange. -/
def coarse : (e : UrbReq) → e.Resp → List (Event sig)
  | .io _ e, r => [⟨e, r⟩]
  | .kmalloc u _, false => [submitEvent u (-ENOMEM)]
  | .allocUrb u, false => [submitEvent u (-ENOMEM)]
  | .submit u, (r : Int) => [submitEvent u (if r < 0 then r else 0)]
  | .wait _, none => [waitEvent (-ETIMEDOUT)]
  | .wait _, some status => [waitEvent status]
  | .waitGate, true => [waitEvent 0]
  | .waitGate, false => [waitEvent (-ETIMEDOUT)]
  | _, _ => []

def coarseEvent (ev : Event urbSig) : List (Event sig) := coarse ev.req ev.resp

abbrev Sim {α : Type} (p' : UP α) (p : P α) : Prop := Simulates coarseEvent p' p

theorem sim_io {of : Option RspUrb} {α : Type} (p : P α) : Sim (io of p) p :=
  sim_via (fun _ _ => rfl) p

section
variable {α : Type} {u : RspUrb} {k : Unit → UP α} {p : P α}

theorem sim_kill (h : Sim (k ()) p) : Sim (killUrb u >>= k) p :=
  sim_hidden (fun _ => rfl) fun _ => h

theorem sim_free (h : Sim (k ()) p) : Sim (freeUrb u >>= k) p :=
  sim_hidden (fun _ => rfl) fun _ => h

theorem sim_kfree (h : Sim (k ()) p) : Sim (kfreeRsp u >>= k) p :=
  sim_hidden (fun _ => rfl) fun _ => h

end

theorem sim_release {α : Type} {u : RspUrb} {a : α} : Sim (do release u; return a) (return a) :=
  sim_kill (sim_free (sim_kfree sim_ret))

/-- What `mt7603_rsp_submit` does after `usb_submit_urb`. -/
theorem trace_submitted {u : RspUrb} {r ret : Int} {t : List (Event urbSig)}
    (h : Trace (if r < 0 then do freeUrb u; kfreeRsp u; return r else return 0 : UP Int) t ret) :
    ret = (if r < 0 then r else 0) ∧ t.flatMap coarseEvent = [] := by
  by_cases hr : r < 0
  · rw [if_pos hr] at h ⊢
    obtain ⟨x, t₁, rfl, h1⟩ := trace_op.1 h
    obtain ⟨y, t₂, rfl, h2⟩ := trace_op.1 h1
    obtain ⟨rfl, rfl⟩ := trace_ret.1 h2
    exact ⟨rfl, rfl⟩
  · rw [if_neg hr] at h ⊢
    obtain ⟨rfl, rfl⟩ := trace_ret.1 h
    exact ⟨rfl, rfl⟩

/-- `mt7603_rsp_submit` is one request of the coarse level, which fails when a part of it does. -/
theorem sim_rspSubmit (u : RspUrb) : Sim (rspSubmit u) (submitRsp u.ep) := by
  have hone : ∀ r : Int, Trace (submitRsp u.ep) [submitEvent u r] r :=
    fun r => (trace_request (S := sig) (e := .submitRsp u.ep)).2 rfl
  intro tr ret h
  obtain ⟨ok, t₁, rfl, h1⟩ := trace_op.1 h
  cases ok with
  | false =>
    obtain ⟨rfl, rfl⟩ := trace_ret.1 h1
    exact hone _
  | true =>
    obtain ⟨ok, t₂, rfl, h2⟩ := trace_op.1 h1
    cases ok with
    | false =>
      obtain ⟨x, t₃, rfl, h3⟩ := trace_op.1 h2
      obtain ⟨rfl, rfl⟩ := trace_ret.1 h3
      exact hone _
    | true =>
      obtain ⟨r, t₃, rfl, h3⟩ := trace_op.1 h2
      obtain ⟨hret, hnil⟩ := trace_submitted h3
      rw [List.flatMap_cons, List.flatMap_cons, List.flatMap_cons, hnil, hret]
      exact hone _

theorem sim_rspWait {u : RspUrb} : Sim (rspWait u) waitRsp := by
  refine sim_op (S := sig) (e := .waitRsp) (k := fun r => Prog.ret r) fun st => ?_
  cases st with
  | none => exact ⟨_, rfl, sim_kill (sim_free (sim_kfree sim_ret))⟩
  | some status => exact ⟨status, rfl, sim_free (sim_kfree sim_ret)⟩

theorem sim_waitGate : Sim (do let _ ← waitGate; return 0 : UP Int)
    (do let _ ← waitRsp; return 0) := by
  refine sim_op fun ok => ?_
  cases ok with
  | true => exact ⟨_, rfl, sim_ret⟩
  | false => exact ⟨_, rfl, sim_ret⟩

/-- `if (ret < 0) return ret;` -/
theorem sim_next {p' q' : UP Int} {p q : P Int} (hp : Sim p' p) (hq : Sim q' q) :
    Sim (p' >>= fun ret => if ret < 0 then return ret else q')
      (p >>= fun ret => if ret < 0 then return ret else q) := by
  refine sim_bind hp fun ret => ?_
  split
  · exact sim_ret
  · exact hq

theorem sim_sendWaiting {u : RspUrb} (hu : u.ep = MT7603_DATA_BULK_IN) {cmd : List U8} :
    Sim (sendWaitingUrb u cmd) (sendWaiting cmd) := by
  have hs := sim_rspSubmit u
  rw [hu] at hs
  exact sim_next hs (sim_next (sim_io _) (sim_bind sim_rspWait fun _ => sim_ret))

theorem sim_restartDlRsp {cmd : List U8} : Sim (restartDlUrbs cmd) (restartDlRsp cmd) := by
  refine sim_next (sim_rspSubmit .restart84) (sim_bind (sim_rspSubmit .restart85) fun ret => ?_)
  split
  · exact sim_release
  · refine sim_bind (sim_io _) fun ret => sim_tail ?_ fun a => ?_
    · split
      · exact sim_ret
      · exact sim_waitGate
    · exact sim_kill (sim_free (sim_kfree sim_release))

theorem sim_withFrame {B : Out U8 Nat} {x' : List U8 → UP Int} {x : List U8 → P Int}
    (h : ∀ cmd, Sim (x' cmd) (x cmd)) : Sim (withFrameUrb B x') (withFrame B x) := by
  unfold withFrameUrb withFrame
  cases rustCall B (MT7603_FW_SCATTER_MAX_PAYLOAD + 32) with
  | ok cmd => exact h cmd
  | error e =>
    cases e with
    | errno code => exact sim_ret
    | _ => exact sim_ret

theorem sim_downloadBody {fw : List U8} {seq : U8} :
    Sim (downloadBodyUrb fw seq) (downloadBody fw seq) := by
  refine sim_bind (sim_io _) fun ret => ?_
  split
  · exact sim_bind (sim_io _) fun _ => sim_ret
  cases fwDlLen fw with
  | none => exact sim_ret
  | some dlLen =>
    refine sim_withFrame fun cmd => sim_next (sim_sendWaiting rfl) ?_
    split
    · exact sim_ret
    · refine sim_next (sim_io _) (sim_withFrame fun cmd => ?_)
      exact sim_next (sim_sendWaiting rfl) (sim_io _)

theorem sim_restartIfRunning {misc2 : U32} :
    Sim (restartUrbsIfRunning misc2) (restartIfRunning misc2) := by
  unfold restartUrbsIfRunning restartIfRunning
  split
  · exact sim_bind (sim_withFrame fun _ => sim_restartDlRsp) fun _ => sim_ret
  · exact sim_ret

/-- **The download with URBs is the download.** Every exchange of it, seen without the URBs, is one
of `downloadFirmware` with the same return code. -/
theorem sim_downloadFirmware {fw : List U8} :
    Sim (downloadFirmwareUrbs fw) (downloadFirmware fw) := by
  refine sim_next (sim_io _) (sim_bind (sim_io _) fun ⟨ret, misc2⟩ => ?_)
  dsimp only
  split
  · exact sim_ret
  refine sim_bind sim_restartIfRunning fun seq => sim_next (sim_io _) ?_
  refine sim_bind (sim_io _) fun ok => sim_bind ?_ fun ret => sim_bind (sim_io _) fun _ => sim_ret
  split
  · exact sim_downloadBody
  · exact sim_ret

/-! ## One URB -/

/-- A submitted URB has completed or was killed, and was freed once. -/
def UrbState.Released (s : UrbState) : Prop := s.submitted = true → s.inFlight = false ∧ s.freed = 1

/-- A submitted URB was not freed. -/
def UrbState.Leaked (s : UrbState) : Prop := s.submitted = true ∧ s.freed = 0

/-- An URB before its request. -/
structure UrbState.Fresh (s : UrbState) : Prop where
  submitted : s.submitted = false
  inFlight : s.inFlight = false
  freed : s.freed = 0

theorem UrbState.Fresh.released {s : UrbState} (h : s.Fresh) : s.Released :=
  fun hs => absurd h.submitted (by simp [hs])

theorem UrbState.Leaked.not_released {s : UrbState} (h : s.Leaked) : ¬s.Released := by
  intro hr
  have h1 := (hr h.1).2
  rw [h.2] at h1
  cases h1

/-- The URB some time later, when nothing was done with it. -/
structure Later (s s' : UrbState) : Prop where
  submitted : s'.submitted = s.submitted
  inFlight : s.inFlight = false → s'.inFlight = false
  freed : s'.freed = s.freed

theorem Later.refl (s : UrbState) : Later s s := ⟨rfl, fun h => h, rfl⟩

theorem Later.trans {s₁ s₂ s₃ : UrbState} (h : Later s₁ s₂) (h' : Later s₂ s₃) : Later s₁ s₃ :=
  ⟨h'.submitted.trans h.submitted, fun hf => h'.inFlight (h.inFlight hf),
    h'.freed.trans h.freed⟩

theorem Later.fresh {s s' : UrbState} (h : Later s s') (hs : s.Fresh) : s'.Fresh :=
  ⟨h.submitted.trans hs.submitted, h.inFlight hs.inFlight, h.freed.trans hs.freed⟩

theorem Later.released {s s' : UrbState} (h : Later s s') (hs : s.Released) : s'.Released := by
  intro hsub
  rw [h.submitted] at hsub
  obtain ⟨h1, h2⟩ := hs hsub
  exact ⟨h.inFlight h1, h.freed.trans h2⟩

theorem Later.leaked {s s' : UrbState} (h : Later s s') (hs : s.Leaked) : s'.Leaked :=
  ⟨h.submitted.trans hs.1, h.freed.trans hs.2⟩

theorem Completes.later {urb urb' : RspUrb → UrbState} (h : Completes urb urb') (u : RspUrb) :
    Later (urb u) (urb' u) := by
  rcases h u with h | h
  · rw [h]
    exact Later.refl _
  · rw [h]
    exact ⟨rfl, fun _ => rfl, rfl⟩

/-- A request that does something to the URB. -/
def Acts (u : RspUrb) : UrbReq → Prop
  | .submit v => v = u
  | .kill v => v = u
  | .freeUrb v => v = u
  | _ => False

theorem setUrb_other {urb : RspUrb → UrbState} {u v : RspUrb} {s : UrbState} (h : v ≠ u) :
    setUrb urb v s u = urb u := if_neg h.symm

@[simp] theorem setUrb_self {urb : RspUrb → UrbState} {u : RspUrb} {s : UrbState} :
    setUrb urb u s u = s := if_pos rfl

theorem urbStep_submit (urb : RspUrb → UrbState) (u : RspUrb) (r : Int) :
    urbStep urb (.submit u) r =
      if r < 0 then urb else setUrb urb u { urb u with submitted := true, inFlight := true } := rfl

theorem urbStep_other {urb : RspUrb → UrbState} {u : RspUrb} {e : UrbReq} (h : ¬Acts u e)
    (r : e.Resp) : urbStep urb e r u = urb u := by
  cases e with
  | submit v =>
    refine (congrFun (urbStep_submit urb v r) u).trans ?_
    split
    · rfl
    · exact setUrb_other h
  | kill v => exact setUrb_other h
  | freeUrb v => exact setUrb_other h
  | _ => rfl

/-- **An URB that nothing is done with.** -/
theorem later_of_not_acts {α : Type} {u : RspUrb} {p : UP α} {w w' : Urbs} {a : α}
    (hp : All (S := urbSig) (fun e => ¬Acts u e) p) (h : Runs urbEnv p w a w') :
    Later (w.urb u) (w'.urb u) := by
  refine runs_inv (D := urbEnv) (I := fun w' => Later (w.urb u) (w'.urb u)) ?_ hp h (Later.refl _)
  rintro s e r s' he ⟨urb, hc, -, rfl⟩ hs
  dsimp only
  rw [urbStep_other he]
  exact hs.trans (hc.later u)

/-! ## Submitting, waiting and releasing -/

theorem runs_request {e : UrbReq} {w w' : Urbs} {r : e.Resp} :
    Runs urbEnv (Prog.request (S := urbSig) e) w r w' ↔ urbEnv w e r w' := by
  constructor
  · rintro ⟨r', s₁, h, rfl, rfl⟩
    exact h
  · exact fun h => ⟨r, w', h, rfl, rfl⟩

section
variable {u : RspUrb} {w w' : Urbs}

theorem urb_submit {r : Int} (h : Runs urbEnv (submitUrb u) w r w') (hr : ¬r < 0) :
    (w'.urb u).submitted = true ∧ (w'.urb u).freed = (w.urb u).freed := by
  obtain ⟨urb, hc, -, rfl⟩ := runs_request.1 h
  dsimp only
  rw [urbStep_submit, if_neg hr, setUrb_self]
  exact ⟨rfl, (hc.later u).freed⟩

theorem urb_submit_fails {r : Int} (h : Runs urbEnv (submitUrb u) w r w') (hr : r < 0) :
    Later (w.urb u) (w'.urb u) := by
  obtain ⟨urb, hc, -, rfl⟩ := runs_request.1 h
  dsimp only
  rw [urbStep_submit, if_pos hr]
  exact hc.later u

theorem urb_kill {x : Unit} (h : Runs urbEnv (killUrb u) w x w') :
    Later (w.urb u) (w'.urb u) ∧ (w'.urb u).inFlight = false := by
  obtain ⟨urb, hc, -, rfl⟩ := runs_request.1 h
  have hs : urbStep urb (.kill u) x u = { urb u with inFlight := false } := setUrb_self
  dsimp only
  rw [hs]
  exact ⟨⟨(hc.later u).submitted, fun _ => rfl, (hc.later u).freed⟩, rfl⟩

theorem urb_free {x : Unit} (h : Runs urbEnv (freeUrb u) w x w') :
    Later { w.urb u with freed := (w.urb u).freed + 1 } (w'.urb u) := by
  obtain ⟨urb, hc, -, rfl⟩ := runs_request.1 h
  have hs : urbStep urb (.freeUrb u) x u = { urb u with freed := (urb u).freed + 1 } := setUrb_self
  dsimp only
  rw [hs]
  exact ⟨(hc.later u).submitted, (hc.later u).inFlight, congrArg (· + 1) (hc.later u).freed⟩

theorem urb_kfree {x : Unit} {v : RspUrb} (h : Runs urbEnv (kfreeRsp v) w x w') :
    Later (w.urb u) (w'.urb u) :=
  later_of_not_acts (all_request.2 id) h

/-- A wait that ends in time ends with a completed URB. -/
theorem urb_wait {st : Option Int} (h : Runs urbEnv (waitUrb u) w st w') :
    Later (w.urb u) (w'.urb u) ∧ (st.isSome → (w'.urb u).inFlight = false) := by
  refine ⟨later_of_not_acts (all_request.2 id) h, fun hs => ?_⟩
  obtain ⟨urb, -, ha, rfl⟩ := runs_request.1 h
  cases st with
  | none => cases hs
  | some status => exact ha

/-- The URB is taken back, freed once more and not in flight. -/
theorem urb_release {x : Unit} (h : Runs urbEnv (release u) w x w') :
    (w'.urb u).submitted = (w.urb u).submitted ∧ (w'.urb u).inFlight = false ∧
      (w'.urb u).freed = (w.urb u).freed + 1 := by
  obtain ⟨x₁, w₁, h1, h⟩ := (runs_bind _).1 h
  obtain ⟨x₂, w₂, h2, h3⟩ := (runs_bind _).1 h
  obtain ⟨l1, hk⟩ := urb_kill h1
  have l2 := urb_free h2
  have l3 := urb_kfree (u := u) h3
  exact ⟨(l3.submitted.trans l2.submitted).trans l1.submitted, l3.inFlight (l2.inFlight hk),
    (l3.freed.trans l2.freed).trans (congrArg (· + 1) l1.freed)⟩

theorem urb_rspSubmit {ret : Int} (h : Runs urbEnv (rspSubmit u) w ret w')
    (hf : (w.urb u).Fresh) :
    (ret < 0 ∧ (w'.urb u).submitted = false) ∨
      (ret = 0 ∧ (w'.urb u).submitted = true ∧ (w'.urb u).freed = 0) := by
  obtain ⟨ok, w₁, h1, h⟩ := (runs_bind _).1 h
  have f1 := (later_of_not_acts (u := u) (all_request.2 id) h1).fresh hf
  cases ok with
  | false =>
    obtain ⟨rfl, rfl⟩ := h
    exact .inl ⟨by decide, f1.submitted⟩
  | true =>
    obtain ⟨ok, w₂, h2, h⟩ := (runs_bind _).1 h
    have f2 := (later_of_not_acts (u := u) (all_request.2 id) h2).fresh f1
    cases ok with
    | false =>
      obtain ⟨x, w₃, h3, h⟩ := (runs_bind _).1 h
      obtain ⟨rfl, rfl⟩ := h
      exact .inl ⟨by decide, ((urb_kfree h3).fresh f2).submitted⟩
    | true =>
      obtain ⟨r, w₃, h3, h⟩ := (runs_bind _).1 h
      by_cases hr : r < 0
      · rw [if_pos hr] at h
        obtain ⟨x, w₄, h4, h⟩ := (runs_bind _).1 h
        obtain ⟨y, w₅, h5, h⟩ := (runs_bind _).1 h
        obtain ⟨rfl, rfl⟩ := h
        have hs := (urb_kfree (u := u) h5).submitted.trans (urb_free h4).submitted
        exact .inl ⟨hr, hs.trans ((urb_submit_fails h3 hr).fresh f2).submitted⟩
      · rw [if_neg hr] at h
        obtain ⟨rfl, rfl⟩ := h
        obtain ⟨hs, hfreed⟩ := urb_submit h3 hr
        exact .inr ⟨rfl, hs, hfreed.trans f2.freed⟩

/-- After the wait the URB is accounted for, whether the response came or not. -/
theorem urb_rspWait {ret : Int} (h : Runs urbEnv (rspWait u) w ret w')
    (hf : (w.urb u).freed = 0) : (w'.urb u).Released := by
  intro _
  obtain ⟨st, w₁, h1, h⟩ := (runs_bind _).1 h
  obtain ⟨l1, hdone⟩ := urb_wait h1
  cases st with
  | none =>
    obtain ⟨x, w₂, h2, h⟩ := (runs_bind _).1 h
    obtain ⟨y, w₃, h3, h⟩ := (runs_bind _).1 h
    obtain ⟨z, w₄, h4, h⟩ := (runs_bind _).1 h
    obtain ⟨rfl, rfl⟩ := h
    obtain ⟨l2, hk⟩ := urb_kill h2
    have l3 := urb_free h3
    have l4 := urb_kfree (u := u) h4
    refine ⟨l4.inFlight (l3.inFlight hk), ?_⟩
    rw [l4.freed, l3.freed, l2.freed, l1.freed, hf]
  | some status =>
    obtain ⟨y, w₂, h2, h⟩ := (runs_bind _).1 h
    obtain ⟨z, w₃, h3, h⟩ := (runs_bind _).1 h
    obtain ⟨rfl, rfl⟩ := h
    have l2 := urb_free h2
    have l3 := urb_kfree (u := u) h3
    refine ⟨l3.inFlight (l2.inFlight (hdone rfl)), ?_⟩
    rw [l3.freed, l2.freed, l1.freed, hf]

end

end Driver
