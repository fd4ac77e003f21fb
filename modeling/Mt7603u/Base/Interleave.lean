import Mt7603u.Base.Effect
import Mathlib.Logic.Relation

/-!
# Programs beside a background activity

`D.beside B` is the environment `D` in which any number of steps of `B` may happen before each
request: interrupt handlers, completions, another thread. A program is then reasoned about with
assertions that the background keeps (`Stable`): `wp_beside` steps over one request with such an
assertion, and `beside_inv` is the frame rule for a program whose requests keep it too.
-/

namespace Effect

open Relation

section
variable {S : Sig} {σ α : Type}

/-- Kept by the steps of `B`. -/
def Stable (B : σ → σ → Prop) (I : σ → Prop) : Prop := ∀ s s', B s s' → I s → I s'

theorem Stable.steps {B : σ → σ → Prop} {I : σ → Prop} (h : Stable B I) {s s' : σ}
    (hb : ReflTransGen B s s') (hs : I s) : I s' := by
  induction hb with
  | refl => exact hs
  | tail _ hb ih => exact h _ _ hb ih

/-- `D`, with any number of steps of `B` before each request. -/
def Env.beside (D : Env S σ) (B : σ → σ → Prop) : Env S σ :=
  fun s e r s' => ∃ s₁, ReflTransGen B s s₁ ∧ D s₁ e r s'

variable {D : Env S σ} {B : σ → σ → Prop} {I : σ → Prop}

/-- **One request**, from an assertion the background keeps. -/
theorem wp_beside {e : S.Req} {k : S.Resp e → Prog S α} {s : σ} {Q : α → σ → Prop}
    (hI : Stable B I) (hs : I s)
    (h : ∀ s₁ r s₂, I s₁ → D s₁ e r s₂ → wp (D.beside B) (k r) s₂ Q) :
    wp (D.beside B) (.op e k) s Q := by
  rw [wp_op]
  rintro r s₂ ⟨s₁, hb, hD⟩
  exact h s₁ r s₂ (hI.steps hb hs) hD

/-- **The frame rule**: an assertion kept by the background and by every issued request. -/
theorem beside_inv {P : S.Req → Prop} {p : Prog S α} {s : σ} (hI : Stable B I) (hp : All P p)
    (hD : ∀ s e r s', P e → D s e r s' → I s → I s') (hs : I s) :
    wp (D.beside B) p s fun _ s' => I s' := by
  refine wp_inv (I := I) (P := P) ?_ hp hs
  rintro s e r s' he ⟨s₁, hb, h⟩ hi
  exact hD s₁ e r s' he h (hI.steps hb hi)

end

end Effect
