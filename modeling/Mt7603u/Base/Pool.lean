import Mt7603u.Base.Interleave
import Mathlib.Logic.Function.Basic

/-!
# Programs that run at the same time

A `Pool` holds the calls in progress, each with the program that is left of it. One step of a pool
is one request of one of its calls, so calls are interleaved request by request.

`Rg D R G p s Q` is the judgement about one call: whatever steps of `R` the others make before each
of its requests, each of its requests is a step of `G`, and it ends in `Q`. If every call's `G` is
in the `R` of all the others, the judgements of a pool's calls survive each other's steps
(`Guarded.request`), steps of anybody else (`Guarded.background`), the start of a call
(`Guarded.spawn`) and its end (`Guarded.finish`). `Gets` is what a call does while the others wait.
-/

namespace Effect

open Relation

section
variable {S : Sig} {σ α β : Type} {D : Env S σ} {R G : σ → σ → Prop}

/-- Against `R`, the requests of `p` are steps of `G`, and it ends in `Q`. -/
def Rg (D : Env S σ) (R G : σ → σ → Prop) : Prog S α → σ → (α → σ → Prop) → Prop
  | .ret a, s, Q => ∀ s', ReflTransGen R s s' → Q a s'
  | .op e k, s, Q => ∀ s₁, ReflTransGen R s s₁ → ∀ r s₂, D s₁ e r s₂ →
      G s₁ s₂ ∧ Rg D R G (k r) s₂ Q

variable {Q Q' : α → σ → Prop} {s s' : σ}

/-- A judgement is not disturbed by the others. -/
theorem rg_rely {p : Prog S α} (h : Rg D R G p s Q) (hR : ReflTransGen R s s') :
    Rg D R G p s' Q := by
  cases p with
  | ret a => exact fun s₁ h₁ => h s₁ (hR.trans h₁)
  | op e k => exact fun s₁ h₁ => h s₁ (hR.trans h₁)

theorem rg_mono {p : Prog S α} (h : Rg D R G p s Q) (hq : ∀ a s', Q a s' → Q' a s') :
    Rg D R G p s Q' := by
  induction p generalizing s with
  | ret a => exact fun s' hR => hq a s' (h s' hR)
  | op e k ih =>
    intro s₁ hR r s₂ hD
    obtain ⟨hG, hk⟩ := h s₁ hR r s₂ hD
    exact ⟨hG, ih r hk⟩

theorem rg_bind {p : Prog S α} {f : α → Prog S β} {Q : β → σ → Prop}
    (h : Rg D R G p s fun a s₁ => Rg D R G (f a) s₁ Q) : Rg D R G (p >>= f) s Q := by
  induction p generalizing s with
  | ret a => exact h s .refl
  | op e k ih =>
    intro s₁ hR r s₂ hD
    obtain ⟨hG, hk⟩ := h s₁ hR r s₂ hD
    exact ⟨hG, ih r hk⟩

/-- **One request**, from an assertion the others keep. -/
theorem rg_op {e : S.Req} {k : S.Resp e → Prog S α} {I : σ → Prop} (hI : Stable R I) (hs : I s)
    (h : ∀ s₁ r s₂, I s₁ → D s₁ e r s₂ → G s₁ s₂ ∧ Rg D R G (k r) s₂ Q) :
    Rg D R G (.op e k) s Q :=
  fun s₁ hR r s₂ hD => h s₁ r s₂ (hI.steps hR hs) hD

/-- The end, in an assertion the others keep. -/
theorem rg_ret {a : α} {I : σ → Prop} (hI : Stable R I) (hs : I s) (h : ∀ s', I s' → Q a s') :
    Rg D R G (.ret a) s Q :=
  fun s' hR => h s' (hI.steps hR hs)

end

/-! ## A program on its way -/

section
variable {S : Sig} {σ α β : Type} {D : Env S σ} {s s' s₁ : σ}

/-- Alone against `D`, the program `p` gets from `s` to `s'`, with `p'` left of it. -/
inductive Gets (D : Env S σ) (p' : Prog S α) (s' : σ) : Prog S α → σ → Prop
  | here : Gets D p' s' p' s'
  | step {e : S.Req} {k : S.Resp e → Prog S α} {s s₁ : σ} {r : S.Resp e} (hD : D s e r s₁)
      (h : Gets D p' s' (k r) s₁) : Gets D p' s' (.op e k) s

theorem Gets.trans {p p₁ p' : Prog S α} (h : Gets D p₁ s₁ p s) (h' : Gets D p' s' p₁ s₁) :
    Gets D p' s' p s := by
  induction h with
  | here => exact h'
  | step hD _ ih => exact .step hD ih

/-- A first part that ends leaves the second. -/
theorem gets_bind {p : Prog S α} {f : α → Prog S β} {a : α} (h : Runs D p s a s') :
    Gets D (f a) s' (p >>= f) s := by
  induction p generalizing s with
  | ret b =>
    obtain ⟨rfl, rfl⟩ := h
    exact .here
  | op e k ih =>
    obtain ⟨r, s₁, hD, h⟩ := h
    exact .step hD (ih r h)

theorem gets_ret {p : Prog S α} {a : α} (h : Runs D p s a s') : Gets D (.ret a) s' p s := by
  induction p generalizing s with
  | ret b =>
    obtain ⟨rfl, rfl⟩ := h
    exact .here
  | op e k ih =>
    obtain ⟨r, s₁, hD, h⟩ := h
    exact .step hD (ih r h)

end

/-! ## Pools -/

/-- The calls in progress. -/
abbrev Pool (S : Sig) (ι : Type) : Type := ι → Option (Prog S Unit)

section
variable {S : Sig} {ι σ : Type}

/-- Every call in progress has its judgement. -/
def Guarded (D : ι → Env S σ) (R G : ι → σ → σ → Prop) (Q : ι → σ → Prop) (pool : Pool S ι)
    (s : σ) : Prop :=
  ∀ i p, pool i = some p → Rg (D i) (R i) (G i) p s fun _ => Q i

variable {D : ι → Env S σ} {R G : ι → σ → σ → Prop} {Q : ι → σ → Prop} {pool : Pool S ι}
  {s s' : σ} {i : ι}

/-- A step of somebody who is not in the pool. -/
theorem Guarded.background (h : Guarded D R G Q pool s) (hR : ∀ j, R j s s') :
    Guarded D R G Q pool s' :=
  fun j p hp => rg_rely (h j p hp) (.single (hR j))

variable [DecidableEq ι]

/-- The pool in which `i` is left with `p`, or has ended. -/
abbrev Pool.put (pool : Pool S ι) (i : ι) (p : Option (Prog S Unit)) : Pool S ι :=
  Function.update pool i p

theorem Pool.put_eq_none {p : Prog S Unit} {j : ι} (h : pool.put i (some p) j = none) :
    j ≠ i ∧ pool j = none := by
  by_cases hj : j = i
  · subst hj
    rw [Pool.put, Function.update_self] at h
    cases h
  · rw [Pool.put, Function.update_of_ne hj] at h
    exact ⟨hj, h⟩

/-- A call starts. -/
theorem Guarded.spawn {p : Prog S Unit} (h : Guarded D R G Q pool s) (hR : ∀ j ≠ i, R j s s')
    (hp : Rg (D i) (R i) (G i) p s' fun _ => Q i) :
    Guarded D R G Q (pool.put i (some p)) s' := by
  intro j q hq
  by_cases hj : j = i
  · subst hj
    rw [Pool.put, Function.update_self] at hq
    cases hq
    exact hp
  · rw [Pool.put, Function.update_of_ne hj] at hq
    exact rg_rely (h j q hq) (.single (hR j hj))

/-- **A call issues a request**: it is a step of its `G`, and no judgement is lost. -/
theorem Guarded.request {e : S.Req} {k : S.Resp e → Prog S Unit} {r : S.Resp e}
    (h : Guarded D R G Q pool s) (hGR : ∀ j ≠ i, ∀ s s', G i s s' → R j s s')
    (hi : pool i = some (.op e k)) (hD : D i s e r s') :
    G i s s' ∧ Guarded D R G Q (pool.put i (some (k r))) s' := by
  obtain ⟨hG, hk⟩ := h i _ hi s .refl r s' hD
  exact ⟨hG, h.spawn (fun j hj => hGR j hj s s' hG) hk⟩

/-- A call ends, in its `Q`. -/
theorem Guarded.finish (h : Guarded D R G Q pool s) (hi : pool i = some (.ret ())) :
    Q i s ∧ Guarded D R G Q (pool.put i none) s := by
  refine ⟨h i _ hi s .refl, fun j p hp => ?_⟩
  by_cases hj : j = i
  · subst hj
    rw [Pool.put, Function.update_self] at hp
    cases hp
  · rw [Pool.put, Function.update_of_ne hj] at hp
    exact h j p hp

end

end Effect
