import Mathlib.Data.List.Induction
import Nes.Proofs.Cartridge.EdgeFilter

/-!
Which addresses clock the scanline counter of the bank switcher. The chip keeps a countdown that
each edge of the address line starts again; here the clocks are told from the history of addresses
and cycles alone, by the cycles that have passed since the last edge.
-/

namespace Nes

namespace AddressLine

/-- What happens to a cartridge. -/
inductive Event where
  /-- The picture unit puts an address on its bus. -/
  | observe (address : UInt16)
  /-- A cycle passes. -/
  | step
  | read (address : UInt16)
  | write (address : UInt16) (data : UInt8)

def Event.isStep : Event → Bool
  | .step => true
  | _ => false

/-- The cycles that pass. -/
def cycles (events : List Event) : Nat := events.countP Event.isStep

/-- The address lies in the pattern tables; the chip hears no other. -/
def isPattern (address : UInt16) : Bool := address.toNat < 0x2000

/-- A pattern address of the upper table has the line high. -/
def isUpper (address : UInt16) : Bool := 0x1000 ≤ address.toNat

/-! Histories have the newest event first. -/

/-- The line as the last pattern address has left it; at power-on it is low. -/
def level : List Event → Bool
  | [] => false
  | .observe address :: earlier => if isPattern address then isUpper address else level earlier
  | _ :: earlier => level earlier

/-- The edge that a variant listens to. -/
def listens (before now : Bool) : Mmc3.Variant → Bool
  | .sharp => !before && now
  | .mcAcc => before && !now

/-- After a history the address brings the edge that the variant listens to. -/
def edge (variant : Mmc3.Variant) (earlier : List Event) (address : UInt16) : Bool :=
  isPattern address && listens (level earlier) (isUpper address) variant

/-- The cycles since the last edge, if there has been one. -/
def sinceEdge (variant : Mmc3.Variant) : List Event → Option Nat
  | [] => none
  | .observe address :: earlier =>
    if edge variant earlier address then some 0 else sinceEdge variant earlier
  | .step :: earlier => (sinceEdge variant earlier).map (· + 1)
  | _ :: earlier => sinceEdge variant earlier

/-- Sixteen cycles have passed since the last edge, or there has been none. -/
def rested (variant : Mmc3.Variant) (history : List Event) : Bool :=
  (sinceEdge variant history).all (16 ≤ ·)

/-- After a history the address clocks the counter. -/
def clocks (variant : Mmc3.Variant) (earlier : List Event) (address : UInt16) : Bool :=
  edge variant earlier address && rested variant earlier

/-- Each edge among the events that follow comes fewer than sixteen cycles after the edge before. -/
def burst (variant : Mmc3.Variant) (history : List Event) : List Event → Bool
  | [] => true
  | event :: late =>
    crowded event && burst variant (event :: history) late
where
  crowded : Event → Bool
  | .observe address => !edge variant history address || (sinceEdge variant history).any (· < 16)
  | _ => true

variable {variant : Mmc3.Variant} {history : List Event}

/-! ### The countdown -/

/-- The cycles that are left until another edge counts. -/
def remaining (variant : Mmc3.Variant) (history : List Event) : Nat :=
  (sinceEdge variant history).elim 0 (16 - ·)

theorem rested_iff : rested variant history = true ↔ remaining variant history = 0 := by
  unfold rested remaining
  cases sinceEdge variant history with
  | none => simp
  | some since => simp [Nat.sub_eq_zero_iff_le]

theorem remaining_observe (address : UInt16) :
    remaining variant (.observe address :: history) =
      if edge variant history address then 16 else remaining variant history := by
  unfold remaining
  rw [sinceEdge]
  split <;> rfl

theorem remaining_step : remaining variant (.step :: history) = remaining variant history - 1 := by
  unfold remaining
  rw [sinceEdge]
  cases sinceEdge variant history with
  | none => rfl
  | some since => simp [Nat.sub_sub]

/-- No more time passes after an edge than cycles. -/
theorem sinceEdge_append {late : List Event} {since : Nat}
    (last : sinceEdge variant history = some since) :
    ∃ total ≤ since + cycles late, sinceEdge variant (late ++ history) = some total := by
  induction late with
  | nil => exact ⟨since, Nat.le_add_right _ _, last⟩
  | cons event late ih =>
    obtain ⟨total, within, same⟩ := ih
    cases event with
    | observe address =>
      rw [List.cons_append, sinceEdge]
      split
      · exact ⟨0, Nat.zero_le _, rfl⟩
      · exact ⟨total, within, same⟩
    | step =>
      have passed : cycles (.step :: late) = cycles late + 1 := List.countP_cons_of_pos rfl
      refine ⟨total + 1, by omega, ?_⟩
      rw [List.cons_append, sinceEdge, same]
      rfl
    | read | write => exact ⟨total, within, same⟩

/-- Two clocks are sixteen cycles apart. -/
theorem cycles_between {between : List Event} {first second : UInt16}
    (earlier : clocks variant history first = true)
    (later : clocks variant (between ++ .observe first :: history) second = true) :
    16 ≤ cycles between := by
  obtain ⟨edge, -⟩ := Bool.and_eq_true_iff.mp earlier
  obtain ⟨-, rested⟩ := Bool.and_eq_true_iff.mp later
  have begun : sinceEdge variant (.observe first :: history) = some 0 := if_pos edge
  obtain ⟨total, within, since⟩ := @sinceEdge_append _ _ between _ begun
  rw [AddressLine.rested, since, Option.all_some, decide_eq_true_iff] at rested
  omega

end AddressLine

open AddressLine

namespace Mmc3.Registers

/-- What the chip remembers of the address line is what the history says. -/
structure Tracks (variant : Variant) (history : List Event) (registers : Registers) : Prop where
  line : registers.lastA12 = level history
  filter : registers.a12Filter.toNat = remaining variant history

variable {variant : Variant} {history : List Event} {registers : Registers}

/-- Programs do not reach what the chip remembers of the address line. -/
theorem write_line (registers : Registers) (fourScreen : Bool) (address : UInt16) (data : UInt8) :
    (registers.write fourScreen address data).lastA12 = registers.lastA12 ∧
      (registers.write fourScreen address data).a12Filter = registers.a12Filter := by
  simp only [write, storeBank]
  repeat' split
  all_goals exact ⟨rfl, rfl⟩

theorem isPattern_eq (address : UInt16) : decide (address < 0x2000) = isPattern address :=
  decide_eq_decide.mpr UInt16.lt_iff_toNat_lt

theorem isUpper_eq {address : UInt16} (pattern : isPattern address = true) :
    (address &&& 0x1000 != 0) = isUpper address := by
  have bound : address.toNat < 0x2000 := of_decide_eq_true pattern
  rw [a12_eq, isUpper, decide_eq_decide]
  omega

theorem Tracks.isEdge (tracks : Tracks variant history registers) {address : UInt16}
    (pattern : isPattern address = true) :
    registers.isEdge variant (address &&& 0x1000 != 0) = edge variant history address := by
  rw [isUpper_eq pattern, edge, pattern, Bool.true_and, ← tracks.line]
  cases variant <;> exact Bool.and_comm _ _

/-- The countdown has run out where the line has rested. -/
theorem Tracks.clockedBy (tracks : Tracks variant history registers) (address : UInt16) :
    registers.clockedBy variant address = clocks variant history address := by
  have quiet : (registers.a12Filter == 0) = rested variant history := by
    rw [Bool.eq_iff_iff, beq_iff_eq, rested_iff, ← tracks.filter, ← UInt8.toNat_inj]
    rfl
  rw [Registers.clockedBy, clocks, quiet, isPattern_eq]
  cases pattern : isPattern address with
  | true => rw [tracks.isEdge pattern, Bool.true_and]
  | false => simp only [edge, pattern, Bool.false_and]

theorem Tracks.observe (tracks : Tracks variant history registers) (address : UInt16) :
    Tracks variant (.observe address :: history) (registers.observe variant address) := by
  rw [observe_eq]
  cases pattern : isPattern address with
  | true =>
    have inside : address < 0x2000 := of_decide_eq_true ((isPattern_eq address).trans pattern)
    rw [if_pos inside, tracks.isEdge pattern, isUpper_eq pattern]
    refine ⟨?_, ?_⟩
    · rw [level, pattern, if_pos rfl]
      rfl
    · rw [remaining_observe]
      change (if _ then _ else _ : UInt8).toNat = _
      split
      · rfl
      · exact tracks.filter
  | false =>
    have outside : ¬ address < 0x2000 := of_decide_eq_false ((isPattern_eq address).trans pattern)
    rw [if_neg outside]
    refine ⟨?_, ?_⟩
    · rw [level, pattern, if_neg Bool.false_ne_true]
      exact tracks.line
    · rw [remaining_observe, edge, pattern, Bool.false_and, if_neg Bool.false_ne_true]
      exact tracks.filter

theorem Tracks.step (tracks : Tracks variant history registers) :
    Tracks variant (.step :: history) registers.step := by
  obtain ⟨rest, stepped, fewer⟩ := registers.step_withLine registers.lastA12 registers.a12Filter
  have same : registers.step = registers.withLine registers.lastA12 rest := stepped
  rw [same]
  refine ⟨tracks.line, ?_⟩
  rw [remaining_step, ← tracks.filter]
  exact fewer

theorem Tracks.write (tracks : Tracks variant history registers) (fourScreen : Bool)
    (address : UInt16) (data : UInt8) :
    Tracks variant (.write address data :: history) (registers.write fourScreen address data) := by
  obtain ⟨line, filter⟩ := registers.write_line fourScreen address data
  exact ⟨line.trans tracks.line, (congrArg UInt8.toNat filter).trans tracks.filter⟩

end Mmc3.Registers

/-- An image for a board with the chip that listens to falling edges. -/
def Rom.falling : Rom where
  header := .forBoard 1 0 4 .vertical false
  prg := List.replicate 0x4000 0
  chr := []
  submapper := 3

namespace Cartridge

/-- The cartridge after an event; a read changes nothing. -/
def meet (cart : Cartridge) : Event → Cartridge
  | .observe address => cart.observe address
  | .step => cart.step
  | .read _ => cart
  | .write address data => cart.write address data

/-- The cartridge after events. -/
def meetAll (cart : Cartridge) (events : List Event) : Cartridge := events.foldl meet cart

/-- The event clocks the cartridge's scanline counter. -/
def counts (cart : Cartridge) : Event → Bool
  | .observe address =>
    match cart.board with
    | .mmc3 chip => chip.registers.clockedBy chip.variant address
    | _ => false
  | _ => false

/-- How often events clock the cartridge's scanline counter. -/
def clockings : Cartridge → List Event → Nat
  | _, [] => 0
  | cart, event :: events => (cart.counts event).toNat + clockings (cart.meet event) events

theorem meetAll_append (cart : Cartridge) (early late : List Event) :
    cart.meetAll (early ++ late) = (cart.meetAll early).meetAll late :=
  List.foldl_append

/-- The cartridge's chip is of the variant and remembers what a history says. -/
def Hears (variant : Mmc3.Variant) (history : List Event) (cart : Cartridge) : Prop :=
  ∃ chip, cart.board = .mmc3 chip ∧ chip.variant = variant ∧
    chip.registers.Tracks variant history

variable {variant : Mmc3.Variant} {history : List Event} {cart : Cartridge}

/-- The chip takes the writes to the program's addresses and no others. -/
theorem write_registers {chip : Mmc3} (board : cart.board = .mmc3 chip) (address : UInt16)
    (data : UInt8) :
    ∃ later, (cart.write address data).board = .mmc3 later ∧ later.variant = chip.variant ∧
      later.registers =
        if 0x8000 ≤ address then chip.registers.write chip.fourScreen address data
        else chip.registers := by
  by_cases program : 0x8000 ≤ address
  · have written : (cart.write address data).board =
        .mmc3 (chip.write cart.memory address data) := by
      simp only [Cartridge.write, program, board, Board.write, if_true]
    refine ⟨_, written, ?_⟩
    rw [if_pos program]
    simp only [Mmc3.write]
    split <;> exact ⟨rfl, rfl⟩
  · have kept : (cart.write address data).board = cart.board := by
      simp only [Cartridge.write, program, if_false]
      split
      · rfl
      · split <;> rfl
    exact ⟨chip, kept.trans board, rfl, (if_neg program).symm⟩

theorem Hears.meet (hears : Hears variant history cart) (event : Event) :
    Hears variant (event :: history) (cart.meet event) := by
  obtain ⟨chip, board, rfl, tracks⟩ := hears
  cases event with
  | observe address =>
    refine ⟨chip.observe address, ?_, rfl, tracks.observe address⟩
    simp only [Cartridge.meet, Cartridge.observe, board, Board.observe]
  | step =>
    refine ⟨chip.step, ?_, rfl, tracks.step⟩
    simp only [Cartridge.meet, Cartridge.step, board, Board.step]
  | read => exact ⟨chip, board, rfl, tracks.line, tracks.filter⟩
  | write address data =>
    obtain ⟨later, written, variant, registers⟩ := write_registers board address data
    refine ⟨later, written, variant, ?_⟩
    rw [registers]
    split
    · exact tracks.write chip.fourScreen address data
    · exact ⟨tracks.line, tracks.filter⟩

theorem Hears.meetAll (hears : Hears variant [] cart) (events : List Event) :
    Hears variant events.reverse (cart.meetAll events) := by
  induction events using List.reverseRecOn with
  | nil => exact hears
  | append_singleton events event ih =>
    rw [List.reverse_concat, meetAll_append]
    exact ih.meet event

theorem Hears.counts (hears : Hears variant history cart) (address : UInt16) :
    cart.counts (.observe address) = clocks variant history address := by
  obtain ⟨chip, board, rfl, tracks⟩ := hears
  simp only [Cartridge.counts, board]
  exact tracks.clockedBy address

/-- Beside the clock an address changes nothing but what the chip remembers of the line. -/
theorem observe_counts {chip : Mmc3} (board : cart.board = .mmc3 chip) (address : UInt16) :
    ∃ a12 filter, cart.observe address =
      { cart with board := .mmc3 { chip with
        registers := (if cart.counts (.observe address) then chip.registers.clockCounter
          else chip.registers).withLine a12 filter } } := by
  obtain ⟨a12, filter, seen⟩ := chip.registers.observe_counts chip.variant address
  refine ⟨a12, filter, ?_⟩
  simp only [Cartridge.observe, Cartridge.counts, board, Board.observe, Mmc3.observe, seen]

/-- In a burst no edge has rested. -/
theorem Hears.clockings_burst {late : List Event} (hears : Hears variant history cart)
    (crowded : burst variant history late = true) : cart.clockings late = 0 := by
  induction late generalizing history cart with
  | nil => rfl
  | cons event late ih =>
    obtain ⟨now, rest⟩ := Bool.and_eq_true_iff.mp crowded
    have silent : cart.counts event = false := by
      cases event with
      | observe address =>
        rw [hears.counts, clocks, rested]
        rw [burst.crowded] at now
        cases brings : edge variant history address with
        | false => rfl
        | true =>
          cases since : sinceEdge variant history with
          | none => simp [brings, since] at now
          | some passed => simpa [brings, since] using now
      | step | read | write => rfl
    rw [clockings, silent, ih (hears.meet event) rest]
    rfl

/-- An address clocks the counter of a chip since power-on if it is the variant's edge after the
last pattern address, and sixteen cycles have passed since the edge before, counted or not, or there
was none; beside that clock it leaves the registers alone. Two clocks are then sixteen cycles apart,
and edges that follow each other faster than that clock once. -/
theorem counts_by_history (cart : Cartridge) (variant : Mmc3.Variant) (mirroring : Mirroring)
    (memory : CartridgeMemory) (fresh : cart.board = .mmc3 (.powerOn variant mirroring memory)) :
    (∀ events address, ∃ chip a12 filter,
      (cart.meetAll events).board = .mmc3 chip ∧
        (cart.meetAll events).counts (.observe address) = clocks variant events.reverse address ∧
        ((cart.meetAll events).meet (.observe address)).board = .mmc3 { chip with
          registers := (if clocks variant events.reverse address then chip.registers.clockCounter
            else chip.registers).withLine a12 filter }) ∧
    (∀ early first between second,
      (cart.meetAll early).counts (.observe first) = true →
        (cart.meetAll (early ++ .observe first :: between)).counts (.observe second) = true →
          16 ≤ cycles between) ∧
    ∀ early first late,
      (cart.meetAll early).counts (.observe first) = true →
        burst variant (.observe first :: early.reverse) late = true →
          (cart.meetAll early).clockings (.observe first :: late) = 1 := by
  have start : Hears variant [] cart := ⟨_, fresh, rfl, rfl, rfl⟩
  refine ⟨fun events address => ?_, fun early first between second before behind => ?_,
    fun early first late clocked crowded => ?_⟩
  · obtain ⟨chip, board, -, -⟩ := start.meetAll events
    obtain ⟨a12, filter, seen⟩ := observe_counts board address
    have counted := (start.meetAll events).counts address
    rw [counted] at seen
    exact ⟨chip, a12, filter, board, counted, congrArg Cartridge.board seen⟩
  · rw [(start.meetAll _).counts] at before behind
    rw [List.reverse_append, List.reverse_cons, List.append_assoc, List.singleton_append] at behind
    have apart := cycles_between before behind
    rwa [cycles, List.countP_reverse] at apart
  · rw [clockings, clocked, ((start.meetAll early).meet _).clockings_burst crowded]
    rfl

/-- The cartridge with the image for falling edges. -/
def falling : Cartridge where
  memory := .ofRom .falling
  board := .mmc3 (.powerOn .mcAcc .vertical (.ofRom .falling))
  mapperId := 4
  battery := false

/-- The line rises and falls after a number of cycles. -/
def fall (wait : Nat) : List Event :=
  List.replicate wait .step ++ [.observe 0x1000, .observe 0x0FFF]

/-- Edges that are ignored begin the wait again: falls that are fifteen cycles apart count once, and
one that comes sixteen cycles after them counts. -/
theorem counts_by_history_falling :
    ofRom .falling = .ok falling ∧
      (falling.meetAll [.observe 0x1000]).counts (.observe 0) = true ∧
      burst .mcAcc [.observe 0, .observe 0x1000] (fall 15 ++ fall 15) = true ∧
      (falling.meetAll [.observe 0x1000]).clockings (.observe 0 :: (fall 15 ++ fall 15)) = 1 ∧
      (falling.meetAll (.observe 0x1000 :: .observe 0 :: (fall 15 ++ fall 15 ++
        List.replicate 16 .step ++ [.observe 0x1000]))).counts (.observe 0) = true := by
  obtain ⟨counted, -, once⟩ := counts_by_history falling .mcAcc .vertical _ rfl
  have counts (events : List Event) (address : UInt16) :
      (falling.meetAll events).counts (.observe address) =
        clocks .mcAcc events.reverse address := by
    obtain ⟨-, -, -, -, same, -⟩ := counted events address
    exact same
  have first : (falling.meetAll [.observe 0x1000]).counts (.observe 0) = true :=
    (counts _ _).trans (by decide)
  have crowded : burst .mcAcc [.observe 0, .observe 0x1000] (fall 15 ++ fall 15) = true := by
    decide
  exact ⟨rfl, first, crowded, once [.observe 0x1000] 0 _ first crowded,
    (counts _ _).trans (by decide)⟩

end Cartridge

end Nes
