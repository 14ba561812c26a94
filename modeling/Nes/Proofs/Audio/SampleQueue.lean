import Nes.Audio.SampleQueue
import Nes.Proofs.Histories

/-!
The queue of samples as its two ends see it. Whatever calls are made, what has been taken out and
what is still queued are the values that were let in, in their order; a block is let in as a whole
or not at all, and the queue never holds more than its capacity.
-/

namespace Nes.SampleQueue

variable {α : Type} {queue : SampleQueue α}

/-! ### The view -/

theorem length_toList (queue : SampleQueue α) : queue.toList.length = queue.size := by
  simp [toList, queue.size_eq]

theorem size_add_free (queue : SampleQueue α) : queue.size + queue.free = queue.capacity :=
  Nat.add_sub_of_le queue.size_le

@[simp] theorem toList_empty (capacity : Nat) : (empty capacity : SampleQueue α).toList = [] := rfl

@[simp] theorem toList_clear (queue : SampleQueue α) : queue.clear.toList = [] := rfl

/-- A queue without values is the one that clearing leaves. -/
theorem eq_clear_of_size (nothing : queue.size = 0) : queue = queue.clear := by
  obtain ⟨capacity, front, back, size, size_eq, size_le⟩ := queue
  obtain rfl : size = 0 := nothing
  obtain ⟨rfl, rfl⟩ : front = [] ∧ back = [] := by
    rw [← List.length_eq_zero_iff, ← List.length_eq_zero_iff]
    omega
  rfl

/-! ### Putting in -/

theorem push_full (full : queue.size = queue.capacity) (value : α) :
    queue.push value = (false, queue) :=
  dif_neg (Nat.not_lt.mpr (Nat.le_of_eq full.symm))

/-- Where there is room a value goes behind the others. -/
theorem push_room (room : queue.size < queue.capacity) (value : α) :
    ∃ next : SampleQueue α, queue.push value = (true, next) ∧
      next.toList = queue.toList ++ [value] ∧ next.capacity = queue.capacity := by
  refine ⟨_, dif_pos room, ?_, rfl⟩
  simp [toList]

/-- A push fails on a full queue and on no other. -/
theorem push_fails_iff (queue : SampleQueue α) (value : α) :
    (queue.push value).1 = false ↔ queue.size = queue.capacity := by
  rcases Nat.lt_or_eq_of_le queue.size_le with room | full
  · obtain ⟨next, pushed, -⟩ := push_room room value
    rw [pushed]
    exact iff_of_false Bool.noConfusion (Nat.ne_of_lt room)
  · rw [push_full full]
    exact iff_of_true rfl full

/-- None of the pushes of a block that fits can fail. -/
theorem pushEach_room {values : List α} (fits : values.length ≤ queue.free) :
    ∃ next : SampleQueue α, queue.pushEach values = (true, next) ∧
      next.toList = queue.toList ++ values ∧ next.capacity = queue.capacity := by
  induction values generalizing queue with
  | nil => exact ⟨queue, rfl, (List.append_nil _).symm, rfl⟩
  | cons value values ih =>
    have total := queue.size_add_free
    rw [List.length_cons] at fits
    obtain ⟨next, pushed, contents, capacity⟩ :=
      push_room (Nat.lt_of_lt_of_eq (Nat.lt_add_of_pos_right (by omega)) total) value
    have size : next.size = queue.size + 1 := by
      rw [← next.length_toList, contents, List.length_append, length_toList, List.length_singleton]
    have left := next.size_add_free
    obtain ⟨last, rest, order, kept⟩ := @ih next (by omega)
    refine ⟨last, ?_, ?_, kept.trans capacity⟩
    · rw [pushEach, pushed]
      exact rest
    · rw [order, contents, List.append_assoc, List.singleton_append]

theorem pushAll_room {values : List α} (fits : values.length ≤ queue.free) :
    ∃ next : SampleQueue α, queue.pushAll values = (true, next) ∧
      next.toList = queue.toList ++ values ∧ next.capacity = queue.capacity := by
  rw [pushAll, if_pos fits]
  exact pushEach_room fits

theorem pushAll_long {values : List α} (long : ¬ values.length ≤ queue.free) :
    queue.pushAll values = (false, queue) :=
  if_neg long

/-! ### Taking out -/

/-- A pop answers the oldest value, and nothing only if there is none. -/
theorem pop_eq (queue : SampleQueue α) :
    queue.pop.1 = queue.toList.head? ∧ queue.pop.2.toList = queue.toList.tail ∧
      queue.pop.2.capacity = queue.capacity := by
  obtain ⟨capacity, front, back, size, size_eq, size_le⟩ := queue
  cases front with
  | cons value front => exact ⟨rfl, rfl, rfl⟩
  | nil =>
    -- The values behind come to the front in their order when the front is used up.
    unfold pop toList
    split
    · rename_i found
      cases found
    · split
      · rename_i empty
        simp [empty]
      · rename_i value rest turned
        simp [turned]

/-- A read takes as many values as it asks for, or all there are; they are the oldest. -/
theorem read_eq (count : Nat) (queue : SampleQueue α) :
    (queue.read count).1 ++ (queue.read count).2.toList = queue.toList ∧
      (queue.read count).1.length = min count queue.size ∧
      (queue.read count).2.capacity = queue.capacity := by
  rw [← queue.length_toList]
  induction count generalizing queue with
  | zero => exact ⟨rfl, (Nat.zero_min _).symm, rfl⟩
  | succ count ih =>
    obtain ⟨first, rest, capacity⟩ := queue.pop_eq
    unfold read
    split
    · rename_i next popped
      rw [popped] at first rest capacity
      have nothing : queue.toList = [] := List.head?_eq_none_iff.mp first.symm
      rw [nothing] at rest ⊢
      exact ⟨rest, rfl, capacity⟩
    · rename_i value next popped
      rw [popped] at first rest capacity
      obtain ⟨values, contents⟩ := List.head?_eq_some_iff.mp first.symm
      obtain ⟨order, length, kept⟩ := ih next
      rw [contents, List.tail_cons] at rest
      rw [rest] at order length
      rw [contents]
      refine ⟨congrArg (value :: ·) order, ?_, kept.trans capacity⟩
      rw [List.length_cons, List.length_cons, Nat.succ_min_succ]
      exact congrArg (· + 1) length

/-- Popping until nothing is left is clearing. -/
theorem read_all (queue : SampleQueue α) : queue.read queue.size = (queue.toList, queue.clear) := by
  obtain ⟨order, length, capacity⟩ := queue.read_eq queue.size
  have total := congrArg List.length order
  rw [List.length_append, length_toList, length_toList, length, Nat.min_self] at total
  have nothing : (queue.read queue.size).2.size = 0 := Nat.add_eq_left.mp total
  have cleared := eq_clear_of_size nothing
  rw [cleared, toList_clear, List.append_nil] at order
  simp only [clear, capacity] at cleared
  exact Prod.ext order cleared

/-- A read fills the front of its buffer and leaves the rest of it. -/
theorem readInto_eq (queue : SampleQueue α) (buffer : List α) :
    (queue.readInto buffer).1 = min buffer.length queue.size ∧
      (queue.readInto buffer).2.1.take (queue.readInto buffer).1 ++
        (queue.readInto buffer).2.2.toList = queue.toList ∧
      (queue.readInto buffer).2.1.drop (queue.readInto buffer).1 =
        buffer.drop (queue.readInto buffer).1 ∧
      (queue.readInto buffer).2.2.capacity = queue.capacity := by
  obtain ⟨order, length, capacity⟩ := queue.read_eq buffer.length
  refine ⟨length, ?_, List.drop_left, capacity⟩
  exact (congrArg (· ++ _) List.take_left).trans order

/-! ### Histories -/

/-- What can be done to a queue. Both ends and every copy of them work on the same queue, so a call
does not say through which it is made. -/
inductive Call (α : Type) where
  | push (value : α)
  | pushAll (values : List α)
  | pop
  | read (buffer : List α)
  | clear

def perform (queue : SampleQueue α) : Call α → SampleQueue α
  | .push value => (queue.push value).2
  | .pushAll values => (queue.pushAll values).2
  | .pop => queue.pop.2
  | .read buffer => (queue.readInto buffer).2.2
  | .clear => queue.clear

/-- The values that a call lets in: those of a push that succeeds. -/
def letIn (queue : SampleQueue α) : Call α → List α
  | .push value => if (queue.push value).1 then [value] else []
  | .pushAll values => if (queue.pushAll values).1 then values else []
  | _ => []

/-- The values that a call takes out: what a pop answers, what a read puts into its buffer, and what
clearing pops. -/
def takenOut (queue : SampleQueue α) : Call α → List α
  | .pop => queue.pop.1.toList
  | .read buffer => (queue.readInto buffer).2.1.take (queue.readInto buffer).1
  | .clear => (queue.read queue.size).1
  | _ => []

def follow (start : SampleQueue α) (calls : List (Call α)) : SampleQueue α :=
  calls.foldl perform start

/-- A call takes from the front and lets in at the back. -/
theorem perform_balance (queue : SampleQueue α) (call : Call α) :
    queue.takenOut call ++ (queue.perform call).toList = queue.toList ++ queue.letIn call ∧
      (queue.perform call).capacity = queue.capacity := by
  cases call with
  | push value =>
    simp only [takenOut, letIn, perform, List.nil_append]
    rcases Nat.lt_or_eq_of_le queue.size_le with room | full
    · obtain ⟨next, pushed, contents, capacity⟩ := push_room room value
      rw [pushed]
      exact ⟨contents, capacity⟩
    · rw [push_full full]
      exact ⟨(List.append_nil _).symm, rfl⟩
  | pushAll values =>
    simp only [takenOut, letIn, perform, List.nil_append]
    by_cases fits : values.length ≤ queue.free
    · obtain ⟨next, pushed, contents, capacity⟩ := pushAll_room fits
      rw [pushed]
      exact ⟨contents, capacity⟩
    · rw [pushAll_long fits]
      exact ⟨(List.append_nil _).symm, rfl⟩
  | pop =>
    obtain ⟨first, rest, capacity⟩ := queue.pop_eq
    refine ⟨?_, capacity⟩
    simp only [takenOut, letIn, perform, first, rest, List.append_nil]
    cases queue.toList <;> rfl
  | read buffer =>
    obtain ⟨-, order, -, capacity⟩ := queue.readInto_eq buffer
    exact ⟨order.trans (List.append_nil _).symm, capacity⟩
  | clear =>
    refine ⟨?_, rfl⟩
    simp only [takenOut, letIn, perform, read_all]
    rfl

/-- Over a history, what was in the queue and what was let in is what was taken out and what is
left. -/
theorem follow_balance (start : SampleQueue α) (calls : List (Call α)) :
    gathered perform takenOut start calls ++ (follow start calls).toList =
        start.toList ++ gathered perform letIn start calls ∧
      (follow start calls).capacity = start.capacity := by
  induction calls generalizing start with
  | nil => exact ⟨(List.append_nil _).symm, rfl⟩
  | cons call calls ih =>
    obtain ⟨balance, capacity⟩ := start.perform_balance call
    obtain ⟨rest, kept⟩ := ih (start.perform call)
    refine ⟨?_, kept.trans capacity⟩
    calc gathered perform takenOut start (call :: calls) ++ (follow start (call :: calls)).toList
      _ = start.takenOut call ++ (gathered perform takenOut (start.perform call) calls ++
            (follow (start.perform call) calls).toList) := List.append_assoc ..
      _ = start.takenOut call ++ (start.perform call).toList ++
            gathered perform letIn (start.perform call) calls := by rw [rest, List.append_assoc]
      _ = start.toList ++ gathered perform letIn start (call :: calls) := by
        rw [balance, List.append_assoc]
        rfl

/-- Whatever has been done to a queue, what has been taken out and what is queued are the values that
were let in, in their order. The queue holds at most its capacity, and the free places are the rest
of it. A push fails when the queue is full and a block when it does not fit, and then nothing
changes. A read takes as many values as it can and leaves the rest of its buffer, and clearing
leaves nothing. -/
theorem history_ordered (capacity : Nat) (calls : List (Call α)) :
    let queue := follow (empty capacity) calls
    gathered perform takenOut (empty capacity) calls ++ queue.toList =
        gathered perform letIn (empty capacity) calls ∧
      queue.size = queue.toList.length ∧
      queue.size + queue.free = max capacity 1 ∧
      (∀ value, ((queue.push value).1 = false ↔ queue.size = max capacity 1) ∧
        ((queue.push value).1 = false → (queue.push value).2 = queue)) ∧
      (∀ values, ((queue.pushAll values).1 = true ↔ values.length ≤ queue.free) ∧
        ((queue.pushAll values).1 = false → (queue.pushAll values).2 = queue)) ∧
      (∀ buffer, (queue.readInto buffer).1 = min buffer.length queue.size ∧
        (queue.readInto buffer).2.1.drop (queue.readInto buffer).1 =
          buffer.drop (queue.readInto buffer).1) ∧
      queue.clear.toList = [] := by
  intro queue
  obtain ⟨balance, kept⟩ := follow_balance (empty capacity) calls
  rw [toList_empty, List.nil_append] at balance
  have bound : queue.capacity = max capacity 1 := kept
  rw [← bound]
  refine ⟨balance, queue.length_toList.symm, queue.size_add_free, ?_, ?_, ?_, rfl⟩
  · intro value
    refine ⟨queue.push_fails_iff value, fun failed => ?_⟩
    rw [push_full ((queue.push_fails_iff value).mp failed)]
  · intro values
    by_cases fits : values.length ≤ queue.free
    · obtain ⟨next, pushed, -⟩ := pushAll_room fits
      rw [pushed]
      exact ⟨iff_of_true rfl fits, nofun⟩
    · rw [pushAll_long fits]
      exact ⟨iff_of_false nofun fits, fun _ => rfl⟩
  · intro buffer
    obtain ⟨count, -, rest, -⟩ := queue.readInto_eq buffer
    exact ⟨count, rest⟩

end Nes.SampleQueue
