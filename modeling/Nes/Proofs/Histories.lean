import Mathlib.Data.List.Induction

/-!
Histories that grow by one event, and what their events yield.
-/

namespace Nes

/-- What the events of a history yield, one after the other. -/
def gathered {σ ε α : Type} (perform : σ → ε → σ) (yields : σ → ε → List α) (start : σ) :
    List ε → List α
  | [] => []
  | event :: events => yields start event ++ gathered perform yields (perform start event) events

/-- An event of the longer history is the newest one, or an event of the shorter. -/
theorem snoc_eq_iff {α : Type} {history early late : List α} {newest event : α} :
    history ++ [newest] = early ++ event :: late ↔
      (history = early ∧ newest = event ∧ late = []) ∨
        ∃ rest, late = rest ++ [newest] ∧ history = early ++ event :: rest := by
  constructor
  · intro parts
    rcases List.eq_nil_or_concat late with rfl | ⟨rest, last, rfl⟩
    · obtain ⟨same, one⟩ := List.append_inj' parts rfl
      exact .inl ⟨same, List.singleton_inj.mp one, rfl⟩
    · rw [List.concat_eq_append, ← List.cons_append, ← List.append_assoc] at parts
      obtain ⟨same, one⟩ := List.append_inj' parts rfl
      obtain rfl := List.singleton_inj.mp one
      exact .inr ⟨rest, List.concat_eq_append, same⟩
  · rintro (⟨rfl, rfl, rfl⟩ | ⟨rest, rfl, rfl⟩)
    · rfl
    · rw [List.append_assoc, List.cons_append]

end Nes
