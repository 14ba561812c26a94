/-!
A bounded first-in first-out queue. A value or a block that does not fit is dropped whole, so the
side that fills the queue never waits. `toList` is the view in which every operation is stated.
-/

namespace Nes

/-- A queue of at most `capacity` values, oldest first in `front`, newest first in `back`. -/
structure SampleQueue (α : Type) where
  capacity : Nat
  front : List α := []
  back : List α := []
  size : Nat := 0
  size_eq : size = front.length + back.length := by rfl
  size_le : size ≤ capacity := by omega

namespace SampleQueue

variable {α : Type}

/-- An empty queue; a capacity of zero counts as one. -/
def empty (capacity : Nat) : SampleQueue α := { capacity := max capacity 1 }

def toList (queue : SampleQueue α) : List α := queue.front ++ queue.back.reverse

def isEmpty (queue : SampleQueue α) : Bool := queue.size == 0

def free (queue : SampleQueue α) : Nat := queue.capacity - queue.size

/-- Appends a value, or drops it when the queue is full. Answers whether it was kept. -/
def push (queue : SampleQueue α) (value : α) : Bool × SampleQueue α :=
  if fits : queue.size < queue.capacity then
    (true, { queue with
      back := value :: queue.back
      size := queue.size + 1
      size_eq := by simp [queue.size_eq]; omega
      size_le := fits })
  else (false, queue)

/-- Appends values one after the other and stops at the first that is dropped. Answers whether all
were kept. -/
def pushEach (queue : SampleQueue α) : List α → Bool × SampleQueue α
  | [] => (true, queue)
  | value :: values =>
    match queue.push value with
    | (true, queue) => queue.pushEach values
    | (false, queue) => (false, queue)

/-- Appends every value of a block if all of them fit, and otherwise none. -/
def pushAll (queue : SampleQueue α) (values : List α) : Bool × SampleQueue α :=
  if values.length ≤ queue.free then queue.pushEach values else (false, queue)

def pop (queue : SampleQueue α) : Option α × SampleQueue α :=
  match found : queue.front with
  | value :: rest =>
    (some value, { queue with
      front := rest
      size := queue.size - 1
      size_eq := by have := queue.size_eq; simp [found] at this; omega
      size_le := by have := queue.size_le; omega })
  | [] =>
    match reversed : queue.back.reverse with
    | [] => (none, queue)
    | value :: rest =>
      (some value, { queue with
        front := rest
        back := []
        size := queue.size - 1
        size_eq := by
          have lengths := congrArg List.length reversed
          have := queue.size_eq
          simp [found] at lengths this ⊢
          omega
        size_le := by have := queue.size_le; omega })

def read : Nat → SampleQueue α → List α × SampleQueue α
  | 0, queue => ([], queue)
  | count + 1, queue =>
    match queue.pop with
    | (none, queue) => ([], queue)
    | (some value, queue) =>
      let (values, queue) := read count queue
      (value :: values, queue)

/-- Overwrites the front of `buffer` with the oldest values; answers how many were taken. -/
def readInto (queue : SampleQueue α) (buffer : List α) : Nat × List α × SampleQueue α :=
  let (values, queue) := queue.read buffer.length
  (values.length, values ++ buffer.drop values.length, queue)

def clear (queue : SampleQueue α) : SampleQueue α :=
  { capacity := queue.capacity, size_le := by have := queue.size_le; omega }

/-- Takes everything that is queued. -/
def drain (queue : SampleQueue α) : List α × SampleQueue α := (queue.toList, queue.clear)

end SampleQueue

end Nes
