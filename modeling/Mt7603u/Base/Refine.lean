import Mt7603u.Base.Effect

/-!
# Programs seen at two levels of detail

A program over a fine signature `S'` is compared with one over a coarse signature `S` through a
view of the fine exchange: `Simulates view p' p` says that every exchange of `p'`, seen through
`view`, is one of `p` with the same value. The relation composes with programs (`sim_bind`), and a
coarse program issued through the fine signature (`Prog.via`) is simulated by itself (`sim_via`).

`Logged log D`: the environment `D` records the exchange in its state, so that its runs are
exchanges (`runs_trace`).

`Prog.handle h p` carries out each request of `p` by a program over `S'`. `Refines R D' D p' p`:
from related states, every run of `p'` against `D'` is one of `p` against `D`. If each request is
refined by the program that carries it out, so is the program (`refines_handle`), and what holds of
the coarse program holds of the fine one (`Refines.wp`). `runs_handle` goes the other way for one
run: from a run of each request it makes a run of the program.

`ActsAs D abs p f`: whatever `D` answers, `p` changes what `abs` reads off the state as `f` does.
Programs compose as their functions do (`actsAs_bind`).
-/

namespace Effect

section
variable {S S' : Sig} {α β : Type}

/-- The program with each request issued as one of `S'`. -/
def Prog.via (f : S.Req → S'.Req) (g : (e : S.Req) → S'.Resp (f e) → S.Resp e) :
    Prog S α → Prog S' α
  | .ret a => .ret a
  | .op e k => .op (f e) fun r => (k (g e r)).via f g

theorem all_via {f : S.Req → S'.Req} {g : (e : S.Req) → S'.Resp (f e) → S.Resp e}
    {P : S'.Req → Prop} {p : Prog S α} (h : All (fun e => P (f e)) p) : All P (p.via f g) := by
  induction p with
  | ret a => trivial
  | op e k ih => exact ⟨h.1, fun r => ih _ (h.2 _)⟩

theorem ends_via {f : S.Req → S'.Req} {g : (e : S.Req) → S'.Resp (f e) → S.Resp e}
    {Q : α → Prop} {p : Prog S α} (h : Ends Q p) : Ends Q (p.via f g) := by
  induction p with
  | ret a => exact h
  | op e k ih => exact fun r => ih _ (h _)

/-- Every exchange of `p'`, seen through `view`, is one of `p`. -/
def Simulates (view : Event S' → List (Event S)) (p' : Prog S' α) (p : Prog S α) : Prop :=
  ∀ tr a, Trace p' tr a → Trace p (tr.flatMap view) a

variable {view : Event S' → List (Event S)}

theorem sim_ret {a : α} : Simulates view (.ret a) (.ret a) := by
  intro tr b h
  obtain ⟨rfl, rfl⟩ := trace_ret.1 h
  exact trace_ret.2 ⟨rfl, rfl⟩

theorem sim_bind {p' : Prog S' α} {p : Prog S α} {f' : α → Prog S' β} {f : α → Prog S β}
    (hp : Simulates view p' p) (hf : ∀ a, Simulates view (f' a) (f a)) :
    Simulates view (p' >>= f') (p >>= f) := by
  intro tr b h
  obtain ⟨a, t₁, t₂, rfl, h1, h2⟩ := trace_bind.1 h
  rw [List.flatMap_append]
  exact trace_bind.2 ⟨a, _, _, rfl, hp t₁ a h1, hf a t₂ b h2⟩

/-- What follows is not seen by the coarse level. -/
theorem sim_tail {p' : Prog S' α} {p : Prog S α} {f' : α → Prog S' α} (hp : Simulates view p' p)
    (hf : ∀ a, Simulates view (f' a) (.ret a)) : Simulates view (p' >>= f') p := by
  intro tr b h
  obtain ⟨a, t₁, t₂, rfl, h1, h2⟩ := trace_bind.1 h
  obtain ⟨rfl, he⟩ := trace_ret.1 (hf a t₂ b h2)
  rw [List.flatMap_append, he, List.append_nil]
  exact hp t₁ b h1

/-- A request that the coarse level does not see. -/
theorem sim_hidden {e : S'.Req} {k : S'.Resp e → Prog S' α} {p : Prog S α}
    (hv : ∀ r, view ⟨e, r⟩ = []) (hk : ∀ r, Simulates view (k r) p) :
    Simulates view (.op e k) p := by
  intro tr a h
  obtain ⟨r, tr', rfl, h'⟩ := trace_op.1 h
  rw [List.flatMap_cons, hv, List.nil_append]
  exact hk r tr' a h'

/-- A request that the coarse level sees as one of its own. -/
theorem sim_op {e' : S'.Req} {e : S.Req} {k' : S'.Resp e' → Prog S' α} {k : S.Resp e → Prog S α}
    (h : ∀ r', ∃ r, view ⟨e', r'⟩ = [⟨e, r⟩] ∧ Simulates view (k' r') (k r)) :
    Simulates view (.op e' k') (.op e k) := by
  intro tr a ht
  obtain ⟨r', tr', rfl, h'⟩ := trace_op.1 ht
  obtain ⟨r, hv, hk⟩ := h r'
  rw [List.flatMap_cons, hv]
  exact trace_op.2 ⟨r, _, rfl, hk tr' a h'⟩

theorem sim_via {f : S.Req → S'.Req} {g : (e : S.Req) → S'.Resp (f e) → S.Resp e}
    (hv : ∀ e r, view ⟨f e, r⟩ = [⟨e, g e r⟩]) (p : Prog S α) :
    Simulates view (p.via f g) p := by
  induction p with
  | ret a => exact sim_ret
  | op e k ih =>
    intro tr a h
    obtain ⟨r, tr', rfl, h'⟩ := trace_op.1 h
    rw [List.flatMap_cons, hv]
    exact trace_op.2 ⟨g e r, _, rfl, ih _ tr' a h'⟩

end

/-! ## Requests carried out by programs -/

section
variable {S S' : Sig} {σ τ α β : Type}

/-- The program with each request carried out by a program over `S'`. -/
def Prog.handle (h : (e : S.Req) → Prog S' (S.Resp e)) : Prog S α → Prog S' α
  | .ret a => .ret a
  | .op e k => h e >>= fun r => (k r).handle h

theorem prog_bind_assoc {γ : Type} (p : Prog S α) (f : α → Prog S β) (g : β → Prog S γ) :
    ((p >>= f) >>= g) = p >>= fun a => f a >>= g := by
  induction p with
  | ret a => rfl
  | op e k ih => exact congrArg (Prog.op e) (funext ih)

theorem handle_bind (h : (e : S.Req) → Prog S' (S.Resp e)) (p : Prog S α) (f : α → Prog S β) :
    (p >>= f).handle h = p.handle h >>= fun a => (f a).handle h := by
  induction p with
  | ret a => rfl
  | op e k ih =>
    change (h e >>= fun r => (k r >>= f).handle h) = (h e >>= fun r => (k r).handle h) >>= _
    rw [prog_bind_assoc]
    exact congrArg (h e >>= ·) (funext ih)

/-- From related states, every run of `p'` is one of `p`. -/
def Refines (R : τ → σ → Prop) (D' : Env S' τ) (D : Env S σ) (p' : Prog S' α) (p : Prog S α) :
    Prop :=
  ∀ t s, R t s → wp D' p' t fun a t' => ∃ s', Runs D p s a s' ∧ R t' s'

variable {R : τ → σ → Prop} {D' : Env S' τ} {D : Env S σ}

theorem refines_ret {a : α} : Refines R D' D (.ret a) (.ret a) := by
  intro t s hR
  exact (wp_ret D').2 ⟨s, ⟨rfl, rfl⟩, hR⟩

theorem refines_bind {p' : Prog S' α} {p : Prog S α} {f' : α → Prog S' β} {f : α → Prog S β}
    (hp : Refines R D' D p' p) (hf : ∀ a, Refines R D' D (f' a) (f a)) :
    Refines R D' D (p' >>= f') (p >>= f) := by
  intro t s hR
  rw [wp_bind]
  refine wp_mono (hp t s hR) ?_
  rintro a t₁ ⟨s₁, hr₁, hR₁⟩
  refine wp_mono (hf a t₁ s₁ hR₁) ?_
  rintro b t₂ ⟨s₂, hr₂, hR₂⟩
  exact ⟨s₂, (runs_bind D).2 ⟨a, s₁, hr₁, hr₂⟩, hR₂⟩

/-- **Requests that refine theirs** make programs that refine theirs. -/
theorem refines_handle {h : (e : S.Req) → Prog S' (S.Resp e)}
    (hh : ∀ e, Refines R D' D (h e) (Prog.request e)) (p : Prog S α) :
    Refines R D' D (p.handle h) p := by
  induction p with
  | ret a => exact refines_ret
  | op e k ih => exact refines_bind (hh e) ih

/-- If the program that carries out a request can do what the function `g` answers to it, the whole
program can do what it does against `g`. -/
theorem runs_handle {h : (e : S.Req) → Prog S' (S.Resp e)} {g : σ → (e : S.Req) → S.Resp e × σ}
    {f : σ → τ} (hh : ∀ s e, Runs D' (h e) (f s) (g s e).1 (f (g s e).2)) (p : Prog S α) (s : σ) :
    Runs D' (p.handle h) (f s) (p.run g s).1 (f (p.run g s).2) := by
  induction p generalizing s with
  | ret a => exact ⟨rfl, rfl⟩
  | op e k ih => exact (runs_bind D').2 ⟨_, _, hh s e, ih _ _⟩

/-- Runs against an environment that answers less freely. -/
theorem runs_of_le {D₁ D₂ : Env S σ} (hD : ∀ s e r s', D₁ s e r s' → D₂ s e r s') {p : Prog S α}
    {s s' : σ} {a : α} (h : Runs D₁ p s a s') : Runs D₂ p s a s' := by
  induction p generalizing s with
  | ret b => exact h
  | op e k ih =>
    obtain ⟨r, s₁, h1, h2⟩ := h
    exact ⟨r, s₁, hD s e r s₁ h1, ih r h2⟩

/-- What holds of the coarse program holds of the fine one. -/
theorem Refines.wp {p' : Prog S' α} {p : Prog S α} (h : Refines R D' D p' p) {t : τ} {s : σ}
    (hR : R t s) {Q : α → σ → Prop} (hq : wp D p s Q) :
    wp D' p' t fun a t' => ∃ s', R t' s' ∧ Q a s' := by
  refine wp_mono (h t s hR) ?_
  rintro a t' ⟨s', hr, hR'⟩
  exact ⟨s', hR', hq a s' hr⟩

end

/-! ## Programs as functions of a view -/

section
variable {S : Sig} {σ τ α β : Type} {D : Env S σ} {abs : σ → τ}

/-- Seen through `abs`, every run of the program is the function `f`. -/
def ActsAs (D : Env S σ) (abs : σ → τ) (p : Prog S α) (f : τ → τ) : Prop :=
  ∀ s, wp D p s fun _ s' => abs s' = f (abs s)

theorem actsAs_ret {a : α} : ActsAs D abs (pure a : Prog S α) id := fun _ => (wp_ret D).2 rfl

theorem actsAs_bind {p : Prog S α} {k : α → Prog S β} {f g : τ → τ} (hp : ActsAs D abs p f)
    (hk : ∀ a, ActsAs D abs (k a) g) : ActsAs D abs (p >>= k) (g ∘ f) := by
  intro s
  rw [wp_bind]
  refine wp_mono (hp s) fun a s₁ h₁ => wp_mono (hk a s₁) fun b s₂ h₂ => ?_
  rw [h₂, h₁]
  rfl

/-- What follows is not seen. -/
theorem ActsAs.then_quiet {p : Prog S α} {k : α → Prog S β} {f : τ → τ} (hp : ActsAs D abs p f)
    (hk : ∀ a, ActsAs D abs (k a) id) : ActsAs D abs (p >>= k) f :=
  actsAs_bind (g := id) hp hk

/-- What comes first is not seen. -/
theorem ActsAs.after_quiet {p : Prog S α} {k : α → Prog S β} {f : τ → τ}
    (hp : ActsAs D abs p id) (hk : ∀ a, ActsAs D abs (k a) f) : ActsAs D abs (p >>= k) f :=
  actsAs_bind (f := id) hp hk

end

/-! ## Environments with a log -/

section
variable {S : Sig} {σ α : Type}

/-- The environment records every request with its answer. -/
def Logged (log : σ → List (Event S)) (D : Env S σ) : Prop :=
  ∀ s e r s', D s e r s' → log s' = log s ++ [⟨e, r⟩]

theorem runs_trace {log : σ → List (Event S)} {D : Env S σ} (hD : Logged log D) {p : Prog S α}
    {s s' : σ} {a : α} (h : Runs D p s a s') : ∃ tr, log s' = log s ++ tr ∧ Trace p tr a := by
  induction p generalizing s with
  | ret b =>
    obtain ⟨rfl, rfl⟩ := h
    exact ⟨[], by simp, trace_ret.2 ⟨rfl, rfl⟩⟩
  | op e k ih =>
    obtain ⟨r, s₁, h1, h2⟩ := h
    obtain ⟨tr, hlog, ht⟩ := ih r h2
    rw [hD s e r s₁ h1] at hlog
    exact ⟨⟨e, r⟩ :: tr, by simp [hlog], trace_op.2 ⟨r, tr, rfl, ht⟩⟩

end

end Effect
