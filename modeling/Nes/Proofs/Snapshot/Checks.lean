import Nes.Snapshot.Fault

/-!
Chains of checks. A chain passes only if each of its steps does; the steps of a snapshot are
conditions that must hold and lists that must have the size of the memory they stand for.
-/

namespace Nes.Snapshot

variable {ε α β : Type}

/-- Opens a chain that has passed at its first step. -/
theorem bind_eq_ok {first : Except ε α} {next : α → Except ε β} {result : β}
    (success : first.bind next = .ok result) :
    ∃ value, first = .ok value ∧ next value = .ok result := by
  cases first with
  | error reason => cases success
  | ok value => exact ⟨value, rfl, success⟩

/-- A chain passes when its first step, which has no result, and the others do. -/
theorem bind_unit_eq_ok {first : Except ε Unit} {next : Unit → Except ε β} {result : β} :
    first.bind next = .ok result ↔ first = .ok () ∧ next () = .ok result := by
  cases first with
  | error reason => simp [Except.bind]
  | ok value => simp [Except.bind]

theorem require_eq_ok {condition : Bool} {fault : Fault} :
    require condition fault = .ok () ↔ condition = true := by
  cases condition <;> simp [require]

theorem sized_toList (part : Sized) {size : Nat} (values : Vector α size) :
    sized part size values.toList = .ok values := by
  simp only [sized, Vector.length_toList, dif_pos]
  rfl

theorem toList_of_sized {part : Sized} {size : Nat} {values : List α} {vector : Vector α size}
    (success : sized part size values = .ok vector) : vector.toList = values := by
  unfold sized at success
  split at success
  · obtain rfl := Except.ok.inj success
    rfl
  · cases success

end Nes.Snapshot
