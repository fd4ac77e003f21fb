import Mathlib.Data.List.Induction

/-!
# A cell and the step that wrote it last

`eff a` is what the step `a` writes into a cell, if it writes at all; `written eff l v` is what the
cell holds after the steps `l`, `v` before. `written_eq_iff`: the cell holds `w` exactly if the last
step that wrote, wrote `w`, or if none wrote and it held `w` before.
-/

namespace Cell

section
variable {A V : Type}

def written (eff : A → Option V) (l : List A) (v : V) : V := l.foldl (fun v a => (eff a).getD v) v

variable {eff : A → Option V} {v w : V} {l : List A}

theorem written_append {l' : List A} : written eff (l ++ l') v = written eff l' (written eff l v) :=
  List.foldl_append ..

theorem written_concat {a : A} : written eff (l ++ [a]) v = (eff a).getD (written eff l v) :=
  written_append

theorem written_of_none (h : ∀ a ∈ l, eff a = none) : written eff l v = v := by
  induction l using List.reverseRecOn with
  | nil => rfl
  | append_singleton l a ih =>
    rw [written_concat, h a (by simp), Option.getD_none]
    exact ih fun b hb => h b (List.mem_append_left _ hb)

theorem written_of_last {a : A} {l' : List A} (ha : eff a = some w) (h : ∀ b ∈ l', eff b = none) :
    written eff (l ++ a :: l') v = w := by
  rw [written_append, written, List.foldl_cons, ha]
  exact written_of_none h

theorem written_eq_iff :
    written eff l v = w ↔
      (∃ pre a post, l = pre ++ a :: post ∧ eff a = some w ∧ ∀ b ∈ post, eff b = none) ∨
        (∀ a ∈ l, eff a = none) ∧ v = w := by
  constructor
  · induction l using List.reverseRecOn with
    | nil => exact fun h => .inr ⟨by simp, h⟩
    | append_singleton l a ih =>
      intro h
      rw [written_concat] at h
      cases ha : eff a with
      | some u =>
        rw [ha, Option.getD_some] at h
        exact .inl ⟨l, a, [], rfl, by rw [ha, h], by simp⟩
      | none =>
        rw [ha, Option.getD_none] at h
        have hlast : ∀ b ∈ [a], eff b = none := by simpa using ha
        rcases ih h with ⟨pre, b, post, rfl, hb, hpost⟩ | ⟨hall, hv⟩
        · refine .inl ⟨pre, b, post ++ [a], by simp, hb, fun c hc => ?_⟩
          exact (List.mem_append.1 hc).elim (hpost c) (hlast c)
        · exact .inr ⟨fun b hb => (List.mem_append.1 hb).elim (hall b) (hlast b), hv⟩
  · rintro (⟨pre, a, post, rfl, ha, hpost⟩ | ⟨hall, rfl⟩)
    · exact written_of_last ha hpost
    · exact written_of_none hall

end

end Cell
