import Mathlib.Data.List.Basic

/-!
# Programs that talk to an environment

A `Prog S α` issues requests of the signature `S`, gets an answer for each and ends with a value in
`α`. It is a finite tree, so a program ends whatever it is answered; all freedom is in the answers.

An environment is a relation `Env S σ`: in state `s` the request `e` may be answered `r`, moving
to `s'`. `Runs D p s a s'`: against `D`, from `s`, the program `p` may end with `a` in `s'`. Three
kinds of environments are used: a store that remembers what was written, a store whose accesses
may fail, and a log (`logEnv`) that answers anything and records the exchange.

* `wp D p s Q`: every run of `p` from `s` ends in `Q`. `wp_ret`, `wp_op`, `wp_bind` execute a
  program symbolically; `wp_mono` and `wp_and` combine postconditions.
* `All P p`: every request `p` can issue satisfies `P`, whatever it is answered.
  `runs_inv`: an invariant that every such request keeps holds after the run (the frame rule of
  the development: a program that only issues harmless requests changes nothing).
* `Ends Q p`: every value `p` can end with satisfies `Q`, whatever it is answered.
* `Trace p tr a`: the run against the log, with the exchange `tr`. `Logs D p s tr a s'` is a run
  against `D` with its exchange.
* `AllAfter Φ p tr`: every request `p` can issue satisfies `Φ` together with the exchange before it,
  which begins with `tr`.
* `Prog.run`: the execution against a function, for concrete runs (`runs_run`); `Prog.logRun` is the
  one that also records the exchange, and `Prog.eval` the one without a state.
-/

namespace Effect

/-- Requests, and the answer type of each. -/
structure Sig where
  Req : Type
  Resp : Req → Type

/-- A program over the signature `S`. -/
inductive Prog (S : Sig) (α : Type) : Type
  | ret (a : α)
  | op (e : S.Req) (k : S.Resp e → Prog S α)

namespace Prog

variable {S : Sig} {α β γ : Type}

def bind : Prog S α → (α → Prog S β) → Prog S β
  | ret a, f => f a
  | op e k, f => op e fun r => (k r).bind f

instance : Monad (Prog S) where
  pure := ret
  bind := bind

@[simp] theorem pure_eq (a : α) : (pure a : Prog S α) = ret a := rfl
@[simp] theorem ret_bind (a : α) (f : α → Prog S β) : (ret a >>= f) = f a := rfl
@[simp] theorem op_bind (e : S.Req) (k : S.Resp e → Prog S α) (f : α → Prog S β) :
    (op e k >>= f) = op e fun r => k r >>= f := rfl

/-- The program that issues one request and returns its answer. -/
def request (e : S.Req) : Prog S (S.Resp e) := op e ret

end Prog

/-- An environment: which answers a request may get, and the state after it. -/
def Env (S : Sig) (σ : Type) : Type := σ → (e : S.Req) → S.Resp e → σ → Prop

section
variable {S : Sig} {σ : Type} (D : Env S σ) {α β : Type}

/-- Against `D`, from `s`, the program may end with `a` in `s'`. -/
def Runs : Prog S α → σ → α → σ → Prop
  | .ret b, s, a, s' => a = b ∧ s' = s
  | .op e k, s, a, s' => ∃ r s₁, D s e r s₁ ∧ Runs (k r) s₁ a s'

/-- Every run of `p` from `s` ends in `Q`. -/
def wp (p : Prog S α) (s : σ) (Q : α → σ → Prop) : Prop := ∀ a s', Runs D p s a s' → Q a s'

/-- Every request `p` can issue satisfies `P`. -/
def All (P : S.Req → Prop) : Prog S α → Prop
  | .ret _ => True
  | .op e k => P e ∧ ∀ r, All P (k r)

theorem runs_bind {p : Prog S α} {f : α → Prog S β} {s s' : σ} {b : β} :
    Runs D (p >>= f) s b s' ↔ ∃ a s₁, Runs D p s a s₁ ∧ Runs D (f a) s₁ b s' := by
  induction p generalizing s with
  | ret a => simp [Runs]
  | op e k ih =>
    simp only [Prog.op_bind, Runs, ih]
    constructor
    · rintro ⟨r, s₁, hD, a, s₂, h1, h2⟩
      exact ⟨a, s₂, ⟨r, s₁, hD, h1⟩, h2⟩
    · rintro ⟨a, s₂, ⟨r, s₁, hD, h1⟩, h2⟩
      exact ⟨r, s₁, hD, a, s₂, h1, h2⟩

/-! ## Weakest preconditions -/

@[simp] theorem wp_ret {a : α} {s : σ} {Q : α → σ → Prop} : wp D (.ret a) s Q ↔ Q a s := by
  simp [wp, Runs]

theorem wp_op {e : S.Req} {k : S.Resp e → Prog S α} {s : σ} {Q : α → σ → Prop} :
    wp D (.op e k) s Q ↔ ∀ r s₁, D s e r s₁ → wp D (k r) s₁ Q := by
  constructor
  · exact fun h r s₁ hD a s' hr => h a s' ⟨r, s₁, hD, hr⟩
  · rintro h a s' ⟨r, s₁, hD, hr⟩
    exact h r s₁ hD a s' hr

theorem wp_request {e : S.Req} {s : σ} {Q : S.Resp e → σ → Prop} :
    wp D (Prog.request e) s Q ↔ ∀ r s₁, D s e r s₁ → Q r s₁ := by
  simp [Prog.request, wp_op]

theorem wp_bind {p : Prog S α} {f : α → Prog S β} {s : σ} {Q : β → σ → Prop} :
    wp D (p >>= f) s Q ↔ wp D p s fun a s₁ => wp D (f a) s₁ Q := by
  constructor
  · exact fun h a s₁ h1 b s' h2 => h b s' ((runs_bind D).2 ⟨a, s₁, h1, h2⟩)
  · intro h b s' hr
    obtain ⟨a, s₁, h1, h2⟩ := (runs_bind D).1 hr
    exact h a s₁ h1 b s' h2

variable {D}

theorem wp_mono {p : Prog S α} {s : σ} {Q Q' : α → σ → Prop} (h : wp D p s Q)
    (hq : ∀ a s', Q a s' → Q' a s') : wp D p s Q' :=
  fun a s' hr => hq a s' (h a s' hr)

theorem wp_and {p : Prog S α} {s : σ} {Q Q' : α → σ → Prop} (h : wp D p s Q)
    (h' : wp D p s Q') : wp D p s fun a s' => Q a s' ∧ Q' a s' :=
  fun a s' hr => ⟨h a s' hr, h' a s' hr⟩

/-- A program with a run does not end in both `Q` and its negation. -/
theorem not_wp {p : Prog S α} {s : σ} {Q : α → σ → Prop} (hr : ∃ a s', Runs D p s a s')
    (h : wp D p s fun a s' => ¬Q a s') : ¬wp D p s Q := by
  obtain ⟨a, s', hr⟩ := hr
  exact fun hq => h a s' hr (hq a s' hr)

/-! ## Requests -/

@[simp] theorem all_ret {P : S.Req → Prop} {a : α} : All P (.ret a : Prog S α) := trivial

@[simp] theorem all_op {P : S.Req → Prop} {e : S.Req} {k : S.Resp e → Prog S α} :
    All P (.op e k) ↔ P e ∧ ∀ r, All P (k r) := Iff.rfl

@[simp] theorem all_request {P : S.Req → Prop} {e : S.Req} : All P (Prog.request e) ↔ P e := by
  simp [Prog.request]

theorem all_bind {P : S.Req → Prop} {p : Prog S α} {f : α → Prog S β} (hp : All P p)
    (hf : ∀ a, All P (f a)) : All P (p >>= f) := by
  induction p with
  | ret a => exact hf a
  | op e k ih => exact ⟨hp.1, fun r => ih r (hp.2 r)⟩

theorem all_mono {P P' : S.Req → Prop} {p : Prog S α} (h : All P p) (hp : ∀ e, P e → P' e) :
    All P' p := by
  induction p with
  | ret a => trivial
  | op e k ih => exact ⟨hp e h.1, fun r => ih r (h.2 r)⟩

theorem all_of_forall {P : S.Req → Prop} (h : ∀ e, P e) (p : Prog S α) : All P p := by
  induction p with
  | ret a => trivial
  | op e k ih => exact ⟨h e, ih⟩

/-- Every value `p` can end with satisfies `Q`, whatever it is answered. -/
def Ends (Q : α → Prop) : Prog S α → Prop
  | .ret a => Q a
  | .op _ k => ∀ r, Ends Q (k r)

@[simp] theorem ends_ret {Q : α → Prop} {a : α} : Ends Q (.ret a : Prog S α) ↔ Q a := Iff.rfl

theorem ends_bind {Q : α → Prop} {Q' : β → Prop} {p : Prog S α} {f : α → Prog S β}
    (hp : Ends Q p) (hf : ∀ a, Q a → Ends Q' (f a)) : Ends Q' (p >>= f) := by
  induction p with
  | ret a => exact hf a hp
  | op e k ih => exact fun r => ih r (hp r)

theorem ends_mono {Q Q' : α → Prop} {p : Prog S α} (h : Ends Q p) (hq : ∀ a, Q a → Q' a) :
    Ends Q' p := by
  induction p with
  | ret a => exact hq a h
  | op e k ih => exact fun r => ih r (h r)

theorem ends_of_forall {Q : α → Prop} (h : ∀ a, Q a) (p : Prog S α) : Ends Q p := by
  induction p with
  | ret a => exact h a
  | op e k ih => exact ih

/-- What comes next does not depend on the value. -/
theorem ends_next {Q : β → Prop} {p : Prog S α} {f : α → Prog S β} (hf : ∀ a, Ends Q (f a)) :
    Ends Q (p >>= f) := by
  induction p with
  | ret a => exact hf a
  | op e k ih => exact fun r => ih r

theorem runs_ends {Q : α → Prop} {p : Prog S α} {s s' : σ} {a : α} (hp : Ends Q p)
    (hr : Runs D p s a s') : Q a := by
  induction p generalizing s with
  | ret b => rw [hr.1]; exact hp
  | op e k ih =>
    obtain ⟨r, s₁, -, h⟩ := hr
    exact ih r (hp r) h

theorem wp_ends {Q : α → Prop} {p : Prog S α} {s : σ} (hp : Ends Q p) :
    wp D p s fun a _ => Q a :=
  fun _ _ hr => runs_ends hp hr

/-- **An invariant that every issued request keeps** holds after the run. -/
theorem runs_inv {I : σ → Prop} {P : S.Req → Prop} {p : Prog S α} {s s' : σ} {a : α}
    (hD : ∀ s e r s', P e → D s e r s' → I s → I s') (hp : All P p) (hr : Runs D p s a s')
    (hs : I s) : I s' := by
  induction p generalizing s with
  | ret b => rw [hr.2]; exact hs
  | op e k ih =>
    obtain ⟨r, s₁, h1, h2⟩ := hr
    exact ih r (hp.2 r) h2 (hD s e r s₁ hp.1 h1 hs)

/-- The same answers against an environment that accepts any. -/
theorem runs_answered {τ : Type} {D' : Env S τ} (hD' : ∀ t e r, ∃ t', D' t e r t') {p : Prog S α}
    {s s' : σ} {a : α} (h : Runs D p s a s') (t : τ) : ∃ t', Runs D' p t a t' := by
  induction p generalizing s t with
  | ret b => exact ⟨t, h.1, rfl⟩
  | op e k ih =>
    obtain ⟨r, s₁, -, h⟩ := h
    obtain ⟨t₁, ht⟩ := hD' t e r
    obtain ⟨t', hr⟩ := ih r h t₁
    exact ⟨t', r, t₁, ht, hr⟩

theorem wp_inv {I : σ → Prop} {P : S.Req → Prop} {p : Prog S α} {s : σ}
    (hD : ∀ s e r s', P e → D s e r s' → I s → I s') (hp : All P p) (hs : I s) :
    wp D p s fun _ s' => I s' :=
  fun _ _ hr => runs_inv hD hp hr hs

end

/-! ## Concrete runs -/

section
variable {S : Sig} {σ α β : Type}

/-- The run against a function from states and requests to answers. -/
def Prog.run (h : σ → (e : S.Req) → S.Resp e × σ) : Prog S α → σ → α × σ
  | .ret a, s => (a, s)
  | .op e k, s => (k (h s e).1).run h (h s e).2

theorem run_bind (h : σ → (e : S.Req) → S.Resp e × σ) (p : Prog S α) (f : α → Prog S β) (s : σ) :
    (p >>= f).run h s = (f (p.run h s).1).run h (p.run h s).2 := by
  induction p generalizing s with
  | ret a => rfl
  | op e k ih => exact ih _ _

theorem runs_run {D : Env S σ} {h : σ → (e : S.Req) → S.Resp e × σ}
    (hD : ∀ s e, D s e (h s e).1 (h s e).2) (p : Prog S α) (s : σ) :
    Runs D p s (p.run h s).1 (p.run h s).2 := by
  induction p generalizing s with
  | ret a => exact ⟨rfl, rfl⟩
  | op e k ih => exact ⟨_, _, hD s e, ih _ _⟩

end

/-! ## The log -/

/-- A request with the answer it got. -/
structure Event (S : Sig) where
  req : S.Req
  resp : S.Resp req

/-- The environment that answers anything and records the exchange. -/
def logEnv (S : Sig) : Env S (List (Event S)) :=
  fun tr e r tr' => tr' = tr ++ [⟨e, r⟩]

section
variable {S : Sig} {σ α β : Type}

/-- `p` may end with `a` after the exchange `tr`. -/
def Trace (p : Prog S α) (tr : List (Event S)) (a : α) : Prop := Runs (logEnv S) p [] a tr

theorem runs_log {p : Prog S α} {t₀ t : List (Event S)} {a : α} :
    Runs (logEnv S) p t₀ a t ↔ ∃ tr, t = t₀ ++ tr ∧ Trace p tr a := by
  unfold Trace
  induction p generalizing t₀ t with
  | ret b => simp [Runs]; tauto
  | op e k ih =>
    constructor
    · rintro ⟨r, s₁, rfl, h⟩
      obtain ⟨tr, rfl, ht⟩ := (ih r).1 h
      exact ⟨⟨e, r⟩ :: tr, by simp, r, _, rfl, (ih r).2 ⟨tr, rfl, ht⟩⟩
    · rintro ⟨tr, rfl, r, s₁, rfl, h⟩
      obtain ⟨tr', rfl, ht⟩ := (ih r).1 h
      exact ⟨r, _, rfl, (ih r).2 ⟨tr', by simp, ht⟩⟩

@[simp] theorem trace_ret {a b : α} {tr : List (Event S)} :
    Trace (.ret b) tr a ↔ a = b ∧ tr = [] := Iff.rfl

theorem trace_op {e : S.Req} {k : S.Resp e → Prog S α} {tr : List (Event S)} {a : α} :
    Trace (.op e k) tr a ↔ ∃ r tr', tr = ⟨e, r⟩ :: tr' ∧ Trace (k r) tr' a := by
  constructor
  · rintro ⟨r, s₁, rfl, h⟩
    obtain ⟨tr', rfl, ht⟩ := runs_log.1 h
    exact ⟨r, tr', by simp, ht⟩
  · rintro ⟨r, tr', rfl, h⟩
    exact ⟨r, _, rfl, runs_log.2 ⟨tr', by simp, h⟩⟩

theorem trace_request {e : S.Req} {tr : List (Event S)} {r : S.Resp e} :
    Trace (Prog.request e) tr r ↔ tr = [⟨e, r⟩] := by
  unfold Prog.request
  rw [trace_op]
  constructor
  · rintro ⟨r', tr', rfl, h⟩
    obtain ⟨rfl, rfl⟩ := trace_ret.1 h
    rfl
  · rintro rfl
    exact ⟨r, [], rfl, trace_ret.2 ⟨rfl, rfl⟩⟩

theorem trace_bind {p : Prog S α} {f : α → Prog S β} {tr : List (Event S)} {b : β} :
    Trace (p >>= f) tr b ↔ ∃ a t₁ t₂, tr = t₁ ++ t₂ ∧ Trace p t₁ a ∧ Trace (f a) t₂ b := by
  unfold Trace
  rw [runs_bind]
  constructor
  · rintro ⟨a, t₁, h1, h2⟩
    obtain ⟨t₂, rfl, ht⟩ := runs_log.1 h2
    exact ⟨a, t₁, t₂, rfl, h1, ht⟩
  · rintro ⟨a, t₁, t₂, rfl, h1, h2⟩
    exact ⟨a, t₁, h1, runs_log.2 ⟨t₂, rfl, h2⟩⟩

/-- Against `D`, from `s`, the program may end with `a` in `s'` after the exchange `tr`. -/
def Logs (D : Env S σ) : Prog S α → σ → List (Event S) → α → σ → Prop
  | .ret b, s, tr, a, s' => a = b ∧ s' = s ∧ tr = []
  | .op e k, s, tr, a, s' => ∃ r s₁ tr', D s e r s₁ ∧ tr = ⟨e, r⟩ :: tr' ∧ Logs D (k r) s₁ tr' a s'

theorem logs_bind {D : Env S σ} {p : Prog S α} {f : α → Prog S β} {s s' : σ}
    {tr : List (Event S)} {b : β} :
    Logs D (p >>= f) s tr b s' ↔
      ∃ a s₁ t₁ t₂, tr = t₁ ++ t₂ ∧ Logs D p s t₁ a s₁ ∧ Logs D (f a) s₁ t₂ b s' := by
  induction p generalizing s tr with
  | ret a =>
    constructor
    · exact fun h => ⟨a, s, [], tr, rfl, ⟨rfl, rfl, rfl⟩, h⟩
    · rintro ⟨_, _, _, t₂, rfl, ⟨rfl, rfl, rfl⟩, h⟩
      exact h
  | op e k ih =>
    constructor
    · rintro ⟨r, s₁, tr', hD, rfl, h⟩
      obtain ⟨a, s₂, t₁, t₂, rfl, h1, h2⟩ := (ih r).1 h
      exact ⟨a, s₂, _, t₂, rfl, ⟨r, s₁, t₁, hD, rfl, h1⟩, h2⟩
    · rintro ⟨a, s₂, _, t₂, rfl, ⟨r, s₁, t₁, hD, rfl, h1⟩, h2⟩
      exact ⟨r, s₁, _, hD, rfl, (ih r).2 ⟨a, s₂, t₁, t₂, rfl, h1, h2⟩⟩

theorem logs_request {D : Env S σ} {e : S.Req} {s s' : σ} {tr : List (Event S)} {r : S.Resp e} :
    Logs D (Prog.request e) s tr r s' ↔ D s e r s' ∧ tr = [⟨e, r⟩] := by
  constructor
  · rintro ⟨r, s₁, tr', hD, rfl, rfl, rfl, rfl⟩
    exact ⟨hD, rfl⟩
  · rintro ⟨hD, rfl⟩
    exact ⟨r, s', [], hD, rfl, rfl, rfl, rfl⟩

/-- A run has an exchange. -/
theorem runs_logs {D : Env S σ} {p : Prog S α} {s s' : σ} {a : α} (h : Runs D p s a s') :
    ∃ tr, Logs D p s tr a s' := by
  induction p generalizing s with
  | ret b => exact ⟨[], h.1, h.2, rfl⟩
  | op e k ih =>
    obtain ⟨r, s₁, hD, h⟩ := h
    obtain ⟨tr, ht⟩ := ih r h
    exact ⟨_, r, s₁, tr, hD, rfl, ht⟩

theorem logs_runs {D : Env S σ} {p : Prog S α} {s s' : σ} {tr : List (Event S)} {a : α}
    (h : Logs D p s tr a s') : Runs D p s a s' := by
  induction p generalizing s tr with
  | ret b => exact ⟨h.1, h.2.1⟩
  | op e k ih =>
    obtain ⟨r, s₁, tr', hD, -, h⟩ := h
    exact ⟨r, s₁, hD, ih r h⟩

theorem logs_trace {D : Env S σ} {p : Prog S α} {s s' : σ} {tr : List (Event S)} {a : α}
    (h : Logs D p s tr a s') : Trace p tr a := by
  induction p generalizing s tr with
  | ret b => exact trace_ret.2 ⟨h.1, h.2.2⟩
  | op e k ih =>
    obtain ⟨r, s₁, tr', -, rfl, h⟩ := h
    exact trace_op.2 ⟨r, tr', rfl, ih r h⟩

/-- The run against answers that may depend on the exchange so far. -/
def Prog.logRun (answer : List (Event S) → (e : S.Req) → S.Resp e) (p : Prog S α) :
    α × List (Event S) :=
  p.run (fun tr e => (answer tr e, tr ++ [⟨e, answer tr e⟩])) []

theorem trace_logRun (answer : List (Event S) → (e : S.Req) → S.Resp e) (p : Prog S α) :
    Trace p (p.logRun answer).2 (p.logRun answer).1 :=
  runs_run (fun _ _ => rfl) p []

/-- In that run every request gets its answer. -/
theorem resp_logRun (answer : (e : S.Req) → S.Resp e) (p : Prog S α) :
    ∀ ev ∈ (p.logRun fun _ => answer).2, ev.resp = answer ev.req := by
  let D : Env S (List (Event S)) := fun tr e r tr' => r = answer e ∧ tr' = tr ++ [⟨e, r⟩]
  have hrun : Runs D p [] (p.logRun fun _ => answer).1 (p.logRun fun _ => answer).2 :=
    runs_run (fun _ _ => ⟨rfl, rfl⟩) p []
  refine runs_inv (I := fun t => ∀ ev ∈ t, ev.resp = answer ev.req) (P := fun _ => True) ?_
    (all_of_forall (fun _ => trivial) p) hrun (by simp)
  rintro t e r t' - ⟨rfl, rfl⟩ ht ev hev
  rcases List.mem_append.1 hev with hev | hev
  · exact ht ev hev
  · rw [List.mem_singleton.1 hev]

/-- The value against answers that depend on the request alone. -/
def Prog.eval (answer : (e : S.Req) → S.Resp e) : Prog S α → α
  | .ret a => a
  | .op e k => (k (answer e)).eval answer

theorem eval_bind (answer : (e : S.Req) → S.Resp e) (p : Prog S α) (f : α → Prog S β) :
    (p >>= f).eval answer = (f (p.eval answer)).eval answer := by
  induction p with
  | ret a => rfl
  | op e k ih => exact ih _

/-- The exchange of that run, in which every request gets its answer. -/
theorem trace_eval (answer : (e : S.Req) → S.Resp e) (p : Prog S α) :
    ∃ tr, Trace p tr (p.eval answer) ∧ ∀ ev ∈ tr, ev.resp = answer ev.req := by
  induction p with
  | ret a => exact ⟨[], trace_ret.2 ⟨rfl, rfl⟩, by simp⟩
  | op e k ih =>
    obtain ⟨tr, ht, hresp⟩ := ih (answer e)
    exact ⟨⟨e, answer e⟩ :: tr, trace_op.2 ⟨answer e, tr, rfl, ht⟩,
      List.forall_mem_cons.2 ⟨rfl, hresp⟩⟩

/-- Every event of an exchange is one of the program's requests. -/
theorem trace_all {P : S.Req → Prop} {p : Prog S α} {tr : List (Event S)} {a : α}
    (hp : All P p) (h : Trace p tr a) : ∀ ev ∈ tr, P ev.req := by
  refine runs_inv (D := logEnv S) (I := fun t => ∀ ev ∈ t, P ev.req) ?_ hp h (by simp)
  rintro s e r s' he rfl hs ev hev
  rcases List.mem_append.1 hev with hev | hev
  · exact hs ev hev
  · rw [List.mem_singleton.1 hev]
    exact he

/-- Every request `p` can issue satisfies `Φ` with the exchange before it, from `tr` on. -/
def AllAfter (Φ : List (Event S) → S.Req → Prop) : Prog S α → List (Event S) → Prop
  | .ret _, _ => True
  | .op e k, tr => Φ tr e ∧ ∀ r, AllAfter Φ (k r) (tr ++ [⟨e, r⟩])

variable {Φ : List (Event S) → S.Req → Prop}

theorem allAfter_bind {p : Prog S α} {f : α → Prog S β} {tr : List (Event S)}
    (hp : AllAfter Φ p tr) (hf : ∀ a t, Trace p t a → AllAfter Φ (f a) (tr ++ t)) :
    AllAfter Φ (p >>= f) tr := by
  induction p generalizing tr with
  | ret a => simpa using hf a [] (trace_ret.2 ⟨rfl, rfl⟩)
  | op e k ih =>
    refine ⟨hp.1, fun r => ih r (hp.2 r) fun a t ht => ?_⟩
    rw [List.append_assoc]
    exact hf a _ (trace_op.2 ⟨r, t, rfl, ht⟩)

/-- Requests that satisfy `Φ` after anything. -/
theorem allAfter_of_all {P : S.Req → Prop} {p : Prog S α} {tr : List (Event S)} (hp : All P p)
    (hP : ∀ e tr, P e → Φ tr e) : AllAfter Φ p tr := by
  induction p generalizing tr with
  | ret a => trivial
  | op e k ih => exact ⟨hP e tr hp.1, fun r => ih r (hp.2 r)⟩

/-- **A request in an exchange** satisfies `Φ` with what is before it. -/
theorem trace_allAfter {p : Prog S α} {t₀ tr t t' : List (Event S)} {a : α} {ev : Event S}
    (hp : AllAfter Φ p t₀) (h : Trace p tr a) (hs : tr = t ++ ev :: t') : Φ (t₀ ++ t) ev.req := by
  induction p generalizing t₀ tr t with
  | ret b =>
    obtain ⟨-, rfl⟩ := trace_ret.1 h
    simp at hs
  | op e k ih =>
    obtain ⟨r, tr', rfl, h'⟩ := trace_op.1 h
    rcases t with _ | ⟨x, t⟩
    · obtain ⟨rfl, -⟩ := List.cons.inj hs
      simpa using hp.1
    · obtain ⟨rfl, hs'⟩ := List.cons.inj hs
      have hrest := ih r (hp.2 r) h' hs'
      rwa [List.append_assoc] at hrest

end

end Effect
