import Mathlib.Data.List.Nodup
import Mathlib.Logic.Function.Iterate

/-!
# Numbers drawn from a counter

A counter over `σ` is advanced by `next`. `Draws next c os c'`: from `c` to `c'` it was advanced
once for each entry of `os`, where an entry `some s` is a number that was used and `none` one that
was drawn and lost. If no number comes back within `n` draws, the numbers used in `n` draws are all
different (`Draws.nodup`), however many are lost in between.
-/

namespace Counter

section
variable {σ : Type} (next : σ → σ)

def Draws : σ → List (Option σ) → σ → Prop
  | c, [], c' => c' = c
  | c, o :: os, c' => (∀ s, o = some s → s = next c) ∧ Draws (next c) os c'

end

section
variable {σ : Type} {next : σ → σ} {c c' : σ} {os os' : List (Option σ)}

theorem draws_append :
    Draws next c (os ++ os') c' ↔ ∃ m, Draws next c os m ∧ Draws next m os' c' := by
  induction os generalizing c with
  | nil => simp [Draws]
  | cons o os ih =>
    simp only [List.cons_append, Draws, ih]
    constructor
    · rintro ⟨ho, m, h1, h2⟩
      exact ⟨m, ⟨ho, h1⟩, h2⟩
    · rintro ⟨m, ⟨ho, h1⟩, h2⟩
      exact ⟨ho, m, h1, h2⟩

/-- A number that is drawn. -/
theorem draws_some : Draws next c [some (next c)] (next c) :=
  ⟨fun _ h => (Option.some.inj h).symm, rfl⟩

/-- A number that is lost. -/
theorem draws_none : Draws next c [none] (next c) := ⟨nofun, rfl⟩

theorem Draws.inv {I : σ → Prop} (hI : ∀ c, I c → I (next c)) (h : Draws next c os c') (hc : I c) :
    I c' := by
  induction os generalizing c with
  | nil => rwa [show c' = c from h]
  | cons o os ih => exact ih h.2 (hI c hc)

/-- Where a used number comes from. -/
theorem Draws.mem (h : Draws next c os c') {s : σ} (hs : some s ∈ os) :
    ∃ i < os.length, s = next^[i + 1] c := by
  induction os generalizing c with
  | nil => cases hs
  | cons o os ih =>
    rcases List.mem_cons.1 hs with ho | hs
    · exact ⟨0, Nat.succ_pos _, h.1 s ho.symm⟩
    · obtain ⟨i, hi, rfl⟩ := ih h.2 hs
      exact ⟨i + 1, Nat.succ_lt_succ hi, rfl⟩

/-- **Used numbers differ** as long as none comes back. -/
theorem Draws.nodup {n : Nat} (hne : ∀ c i, 0 < i → i < n → next^[i] (next c) ≠ next c)
    (h : Draws next c os c') (hlen : os.length ≤ n) : (os.filterMap id).Nodup := by
  induction os generalizing c with
  | nil => exact .nil
  | cons o os ih =>
    have htail := ih h.2 (by simp at hlen; omega)
    cases o with
    | none => exact htail
    | some s =>
      refine List.nodup_cons.2 ⟨fun hs => ?_, htail⟩
      obtain ⟨o, hmem, ho⟩ := List.mem_filterMap.1 hs
      rw [show o = some s from ho] at hmem
      obtain ⟨i, hi, hback⟩ := h.2.mem hmem
      rw [h.1 s rfl] at hback
      exact hne c (i + 1) (Nat.succ_pos i) (by simp at hlen; omega) hback.symm

end

end Counter
