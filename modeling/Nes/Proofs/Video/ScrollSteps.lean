import Mathlib.Logic.Function.Iterate
import Nes.Proofs.Video.Scroll

/-!
The increments of the scroll address, repeated. To the right an address runs around the 64 columns
of both nametables, and down around their 480 lines; an address in the rows that hold attributes
first runs out at the end of its nametable. The two directions do not disturb each other, so what a
mixture of steps leads to is told by how many there are of each; nor do the two copies, which
together move all of the temporary address.
-/

namespace Nes.Scroll

open Bits

attribute [ext] Scroll

/-! ### Steps of a location -/

namespace Location

variable {location : Location}

theorem right_down (location : Location) : location.down.right = location.right.down := by
  unfold down right
  split <;> rfl

theorem down_kept (location : Location) :
    location.down.across = location.across ∧ location.down.spare = location.spare := by
  unfold down
  split <;> exact ⟨rfl, rfl⟩

theorem iterate_right (inside : location.across < 64) (count : Nat) :
    right^[count] location = { location with across := (location.across + count) % 64 } := by
  induction count with
  | zero => rw [Nat.add_zero, Nat.mod_eq_of_lt inside, Function.iterate_zero_apply]
  | succ count ih =>
    rw [Function.iterate_succ_apply', ih, right, Nat.mod_add_mod, Nat.add_assoc]

theorem iterate_down_kept (location : Location) (count : Nat) :
    (down^[count] location).across = location.across ∧
      (down^[count] location).spare = location.spare := by
  induction count with
  | zero => exact ⟨rfl, rfl⟩
  | succ count ih =>
    obtain ⟨across, spare⟩ := (down^[count] location).down_kept
    rw [Function.iterate_succ_apply', across, spare]
    exact ih

theorem Shown.iterate_down (shown : location.Shown) (count : Nat) :
    (down^[count] location).Shown ∧
      (down^[count] location).height = (location.height + count) % 480 := by
  induction count with
  | zero =>
    have small : location.height < 480 := by
      have table := shown.table
      have depth := shown.depth
      unfold height
      omega
    exact ⟨shown, (Nat.mod_eq_of_lt small).symm⟩
  | succ count ih =>
    obtain ⟨still, height⟩ := ih
    obtain ⟨next, moved⟩ := still.next
    rw [Function.iterate_succ_apply', moved, height, Nat.mod_add_mod, Nat.add_assoc]
    exact ⟨next, rfl⟩

/-- Below the lines that are shown, the count goes on to the end of the nametable and leads back to
its top. -/
theorem iterate_down_hidden (hidden : 240 ≤ location.depth) (small : location.depth < 256)
    (count : Nat) (fits : location.depth + count ≤ 256) :
    down^[count] location = { location with depth := (location.depth + count) % 256 } := by
  induction count with
  | zero => rw [Nat.add_zero, Nat.mod_eq_of_lt small, Function.iterate_zero_apply]
  | succ count ih =>
    have within : location.depth + count < 256 := fits
    have past : ¬ location.depth + count = 239 := by omega
    rw [Function.iterate_succ_apply', ih (Nat.le_of_lt within), Nat.mod_eq_of_lt within, down,
      if_neg past, Nat.add_assoc]

/-- From there on the lines are shown. -/
theorem iterate_down_back (table : location.table < 2) (hidden : 240 ≤ location.depth)
    (small : location.depth < 256) (count : Nat) (past : 256 ≤ location.depth + count) :
    (down^[count] location).Shown ∧
      (down^[count] location).height = (location.height + count - 256) % 480 := by
  have parts : count = (location.depth + count - 256) + (256 - location.depth) := by omega
  have start : location.depth + (256 - location.depth) = 256 := by omega
  have top : ({ location with depth := 0 } : Location).Shown := ⟨table, (by decide : 0 < 240)⟩
  have led := top.iterate_down (location.depth + count - 256)
  have same : ({ location with depth := 0 } : Location).height +
      (location.depth + count - 256) = location.height + count - 256 := by
    change 240 * location.table + 0 + _ = 240 * location.table + location.depth + count - 256
    omega
  rw [parts, Function.iterate_add_apply, iterate_down_hidden hidden small _ (Nat.le_of_eq start),
    start, Nat.mod_self, ← parts, ← same]
  exact led

end Location

/-! ### Steps of the address -/

theorem acrossOf_lt (address : UInt16) : acrossOf address < 64 := by
  have column : columnOf address < 32 := field_lt 0 5 _
  have table : tableXOf address < 2 := field_lt 10 1 _
  unfold acrossOf
  omega

theorem depthOf_lt (address : UInt16) : depthOf address < 256 := by
  have row : rowOf address < 32 := field_lt 5 5 _
  have line : lineOf address < 8 := field_lt 12 3 _
  unfold depthOf
  omega

theorem hidden_of_row {address : UInt16} (hidden : 30 ≤ rowOf address) :
    240 ≤ depthOf address := by
  unfold depthOf
  omega

theorem locationOf_iterate_incrementX (scroll : Scroll) (count : Nat) :
    locationOf (incrementX^[count] scroll).v =
      { locationOf scroll.v with across := (acrossOf scroll.v + count) % 64 } := by
  have moves : Function.Semiconj (fun scroll : Scroll => locationOf scroll.v) incrementX
      Location.right := locationOf_incrementX
  have moved := moves.iterate_right count scroll
  rw [Location.iterate_right (acrossOf_lt scroll.v)] at moved
  exact moved

theorem locationOf_iterate_incrementY (scroll : Scroll) (count : Nat) :
    locationOf (incrementY^[count] scroll).v = Location.down^[count] (locationOf scroll.v) := by
  have moves : Function.Semiconj (fun scroll : Scroll => locationOf scroll.v) incrementY
      Location.down := locationOf_incrementY
  exact moves.iterate_right count scroll

/-- Neither increment reads what the other moves. -/
theorem increments_commute : Function.Commute incrementX incrementY := by
  intro scroll
  have v : scroll.incrementY.incrementX.v = scroll.incrementX.incrementY.v := by
    apply locationOf_injective
    rw [locationOf_incrementX, locationOf_incrementY, locationOf_incrementY,
      locationOf_incrementX]
    exact Location.right_down _
  obtain ⟨firstT, firstFine, firstToggle⟩ := scroll.incrementX_kept
  obtain ⟨secondT, secondFine, secondToggle⟩ := scroll.incrementX.incrementY_kept
  obtain ⟨downT, downFine, downToggle⟩ := scroll.incrementY_kept
  obtain ⟨lastT, lastFine, lastToggle⟩ := scroll.incrementY.incrementX_kept
  apply Scroll.ext
  case v => exact v
  case t => rw [lastT, downT, secondT, firstT]
  case fineX => rw [lastFine, downFine, secondFine, firstFine]
  case w => rw [lastToggle, downToggle, secondToggle, firstToggle]

/-- A step of the address in one of the two directions. -/
inductive Step where
  | right
  | down
  deriving DecidableEq

def step (scroll : Scroll) : Step → Scroll
  | .right => scroll.incrementX
  | .down => scroll.incrementY

def walk (scroll : Scroll) (steps : List Step) : Scroll := steps.foldl step scroll

/-- Only the number of steps in each direction counts, and not their order. -/
theorem walk_eq (scroll : Scroll) (steps : List Step) :
    scroll.walk steps =
      incrementX^[steps.count .right] (incrementY^[steps.count .down] scroll) := by
  induction steps generalizing scroll with
  | nil => rfl
  | cons next steps ih =>
    rw [walk, List.foldl_cons, ← walk, ih]
    cases next with
    | right =>
      rw [List.count_cons_self, List.count_cons_of_ne (by decide), step,
        ← (increments_commute.iterate_right _) scroll, Function.iterate_succ_apply]
    | down =>
      rw [List.count_cons_self, List.count_cons_of_ne (by decide), step,
        Function.iterate_succ_apply]

/-! ### Copies -/

/-- An address of fifteen bits has nothing above its coordinates. -/
theorem spare_eq {address : UInt16} (fifteen : address ≤ 0x7FFF) :
    (locationOf address).spare = 0 := by
  have below : address.toNat ≤ 0x7FFF := UInt16.le_iff_toNat_le.mp fifteen
  have none : address.toNat / 2 ^ 15 = 0 := Nat.div_eq_of_lt (Nat.lt_succ_of_le below)
  change address.toNat / 2 ^ 15 % 2 ^ 1 = 0
  rw [none, Nat.zero_mod]

/-- One copy after the other moves all of `t`. -/
theorem copies_eq (scroll : Scroll) (v : scroll.v ≤ 0x7FFF) (t : scroll.t ≤ 0x7FFF) :
    scroll.copyX.copyY = { scroll with v := scroll.t } ∧
      scroll.copyY.copyX = { scroll with v := scroll.t } := by
  have spare : (locationOf scroll.v).spare = (locationOf scroll.t).spare :=
    (spare_eq v).trans (spare_eq t).symm
  have down : scroll.copyX.copyY.v = scroll.t := by
    apply locationOf_injective
    rw [locationOf_copyY, locationOf_copyX]
    exact Location.ext rfl rfl rfl spare
  have right : scroll.copyY.copyX.v = scroll.t := by
    apply locationOf_injective
    rw [locationOf_copyX, locationOf_copyY]
    exact Location.ext rfl rfl rfl spare
  exact ⟨Scroll.ext down rfl rfl rfl, Scroll.ext right rfl rfl rfl⟩

/-! ### Around the nametables -/

/-- What steps, as many as you like, and the copies make of a scroll address. -/
structure Wraps (scroll : Scroll) : Prop where
  /-- To the right the 64 columns of both nametables follow each other. -/
  right (count : Nat) :
    acrossOf (incrementX^[count] scroll).v = (acrossOf scroll.v + count) % 64
  rightOnly (count : Nat) :
    (incrementX^[count] scroll).v &&& ~~~horizontalMask = scroll.v &&& ~~~horizontalMask
  /-- Down the 480 lines that are shown follow each other. -/
  down (count : Nat) : rowOf scroll.v ≤ 29 →
    rowOf (incrementY^[count] scroll).v ≤ 29 ∧
      heightOf (incrementY^[count] scroll).v = (heightOf scroll.v + count) % 480
  downOnly (count : Nat) :
    (incrementY^[count] scroll).v &&& ~~~verticalMask = scroll.v &&& ~~~verticalMask
  /-- The rows that hold attributes lead to the top of the same nametable. -/
  hidden (count : Nat) : 30 ≤ rowOf scroll.v → depthOf scroll.v + count ≤ 256 →
    tableYOf (incrementY^[count] scroll).v = tableYOf scroll.v ∧
      depthOf (incrementY^[count] scroll).v = (depthOf scroll.v + count) % 256
  /-- Once there, an address goes on as any that is shown. -/
  back (count : Nat) : 30 ≤ rowOf scroll.v → 256 ≤ depthOf scroll.v + count →
    rowOf (incrementY^[count] scroll).v ≤ 29 ∧
      heightOf (incrementY^[count] scroll).v = (heightOf scroll.v + count - 256) % 480
  commute : scroll.incrementX.incrementY = scroll.incrementY.incrementX
  /-- The order of steps does not matter. -/
  mixed (steps : List Step) : scroll.walk steps =
    incrementX^[steps.count .right] (incrementY^[steps.count .down] scroll)
  copies : scroll.v ≤ 0x7FFF → scroll.t ≤ 0x7FFF →
    scroll.copyX.copyY = { scroll with v := scroll.t } ∧
      scroll.copyY.copyX = { scroll with v := scroll.t }

/-- Whatever a scroll address is, its increments act on it as counts do: modulo 64 to the right,
modulo 480 down among the shown lines, and each without regard to the other. -/
theorem steps_wrap (scroll : Scroll) : scroll.Wraps where
  right count := congrArg Location.across (scroll.locationOf_iterate_incrementX count)
  rightOnly count := by
    apply locationOf_injective
    rw [locationOf_left, locationOf_left, locationOf_iterate_incrementX]
  down count shown := by
    rw [← shown_iff, heightOf_eq, heightOf_eq, locationOf_iterate_incrementY]
    exact (shown_iff.mpr shown).iterate_down count
  downOnly count := by
    obtain ⟨across, spare⟩ := (locationOf scroll.v).iterate_down_kept count
    apply locationOf_injective
    rw [locationOf_upper, locationOf_upper, locationOf_iterate_incrementY]
    exact Location.ext across rfl rfl spare
  hidden count row fits := by
    have moved := @Location.iterate_down_hidden (locationOf scroll.v) (hidden_of_row row)
      (depthOf_lt _) count fits
    rw [← locationOf_iterate_incrementY] at moved
    exact ⟨congrArg Location.table moved, congrArg Location.depth moved⟩
  back count row past := by
    rw [← shown_iff, heightOf_eq, heightOf_eq, locationOf_iterate_incrementY]
    exact Location.iterate_down_back (field_lt 11 1 _) (hidden_of_row row) (depthOf_lt _) count past
  commute := (increments_commute scroll).symm
  mixed := scroll.walk_eq
  copies := scroll.copies_eq

/-- From the last shown line of the upper nametable, 241 lines down are the first of all; from the
last line of row 30, nine are the top of the same nametable, and ten the line below. -/
theorem steps_wrap_ends :
    let shown : Scroll := { v := 0x73BF }
    let hidden : Scroll := { v := 0x73DF, t := 0x2C1E }
    (rowOf shown.v ≤ 29 ∧ heightOf (incrementY^[241] shown).v = 0) ∧
      (30 ≤ rowOf hidden.v ∧ depthOf hidden.v + 9 ≤ 256 ∧
        depthOf (incrementY^[9] hidden).v = 0) ∧
      (256 ≤ depthOf hidden.v + 10 ∧ heightOf (incrementY^[10] hidden).v = 1) ∧
      hidden.v ≤ 0x7FFF ∧ hidden.t ≤ 0x7FFF ∧
      hidden.copyX.copyY = { hidden with v := 0x2C1E } := by
  intro shown hidden
  have row : rowOf shown.v ≤ 29 := by decide
  have below : 30 ≤ rowOf hidden.v := by decide
  have fits : depthOf hidden.v + 9 ≤ 256 := by decide
  have past : 256 ≤ depthOf hidden.v + 10 := by decide
  have v : hidden.v ≤ 0x7FFF := by decide
  have t : hidden.t ≤ 0x7FFF := by decide
  obtain ⟨-, first⟩ := shown.steps_wrap.down 241 row
  obtain ⟨-, top⟩ := hidden.steps_wrap.hidden 9 below fits
  obtain ⟨-, second⟩ := hidden.steps_wrap.back 10 below past
  obtain ⟨copied, -⟩ := hidden.steps_wrap.copies v t
  exact ⟨⟨row, first.trans (by decide)⟩, ⟨below, fits, top.trans (by decide)⟩,
    ⟨past, second.trans (by decide)⟩, v, t, copied⟩

end Nes.Scroll
