import Nes.Proofs.Cartridge.EdgeHistory
import Nes.Proofs.Countdown
import Nes.Proofs.Histories

/-!
The period of the scanline counter. After the program has written a period and asked for a reload,
the counter is a function of the clocks that have come since, whatever else the program writes
between them; its interrupt is raised by the clocks that find it at zero and by nothing else.
-/

namespace Nes

open AddressLine

namespace AddressLine.Event

/-- The address is that of the register with the period. -/
def isPeriod (address : UInt16) : Bool :=
  0xC000 ≤ address && address < 0xE000 && address &&& 1 == 0

/-- The address is that of the register that asks for a reload. -/
def isReload (address : UInt16) : Bool :=
  0xC000 ≤ address && address < 0xE000 && address &&& 1 != 0

/-- The event writes neither the period nor a request to reload. -/
def keepsPeriod : Event → Bool
  | .write address _ => !(isPeriod address || isReload address)
  | _ => true

/-- The event turns the interrupt on or off. -/
def switch : Event → Option Bool
  | .write address _ => if 0xE000 ≤ address then some (address &&& 1 != 0) else none
  | _ => none

/-- Turning the interrupt off also acknowledges it. -/
def acknowledges (event : Event) : Bool := event.switch == some false

/-- The interrupt is on after events, if it was `on` before them. -/
def switched (on : Bool) (events : List Event) : Bool :=
  events.foldl (fun on event => event.switch.getD on) on

theorem switched_concat (on : Bool) (events : List Event) (event : Event) :
    switched on (events ++ [event]) = event.switch.getD (switched on events) :=
  List.foldl_append

theorem keepsPeriod_write {address : UInt16} {data : UInt8}
    (keeps : (Event.write address data).keepsPeriod = true) (above : 0xC000 ≤ address) :
    0xE000 ≤ address := by
  by_contra below
  have inside : address < 0xE000 := UInt16.not_le.mp below
  cases even : address &&& 1 == 0 <;>
    simp [keepsPeriod, isPeriod, isReload, above, inside, bne, even] at keeps

theorem isPeriod_program {address : UInt16} (holds : isPeriod address = true) :
    0x8000 ≤ address := by
  simp only [isPeriod, Bool.and_eq_true, decide_eq_true_iff] at holds
  grind

theorem isReload_program {address : UInt16} (asks : isReload address = true) :
    0x8000 ≤ address := by
  simp only [isReload, Bool.and_eq_true, decide_eq_true_iff] at asks
  grind

end AddressLine.Event

namespace Mmc3.Registers

/-- What an event that keeps the period makes of the counter and its interrupt. -/
structure Advances (event : Event) (counted : Bool) (before after : Registers) : Prop where
  latch : after.irqLatch = before.irqLatch
  counter : after.irqCounter = if counted then before.nextCounter else before.irqCounter
  reload : after.irqReload = (before.irqReload && !counted)
  enabled : after.irqEnabled = event.switch.getD before.irqEnabled
  pending : after.irqPending = (!event.acknowledges &&
    (before.irqPending || counted && before.nextCounter == 0 && before.irqEnabled))

/-- An event that does not reach the counter. -/
theorem Advances.idle {event : Event} {before after : Registers} (silent : event.switch = none)
    (latch : after.irqLatch = before.irqLatch) (counter : after.irqCounter = before.irqCounter)
    (reload : after.irqReload = before.irqReload) (enabled : after.irqEnabled = before.irqEnabled)
    (pending : after.irqPending = before.irqPending) : Advances event false before after where
  latch := latch
  counter := counter
  reload := by rw [reload, Bool.not_false, Bool.and_true]
  enabled := by rw [silent, Option.getD_none, enabled]
  pending := by simp [Event.acknowledges, silent, pending]

theorem advances_observe (registers : Registers) (a12 : Bool) (filter : UInt8) (address : UInt16)
    (counted : Bool) :
    Advances (.observe address) counted registers
      ((if counted then registers.clockCounter else registers).withLine a12 filter) := by
  cases counted with
  | false => exact .idle rfl rfl rfl rfl rfl rfl
  | true =>
    rw [if_pos rfl, clockCounter_eq]
    exact ⟨rfl, rfl, (Bool.and_false _).symm, rfl, rfl⟩

theorem advances_step (registers : Registers) : Advances .step false registers registers.step := by
  unfold Registers.step
  split <;> exact .idle rfl rfl rfl rfl rfl rfl

/-- The bank registers and those of the interrupt leave the counter alone. -/
theorem advances_write (registers : Registers) (fourScreen : Bool) {address : UInt16}
    {data : UInt8} (keeps : (Event.write address data).keepsPeriod = true) :
    Advances (.write address data) false registers (registers.write fourScreen address data) := by
  by_cases low : address < 0xC000
  · have silent : (Event.write address data).switch = none :=
      if_neg (UInt16.not_le.mpr (UInt16.lt_trans low (by decide)))
    simp only [write, storeBank, low, if_true]
    repeat' split
    all_goals exact .idle silent rfl rfl rfl rfl rfl
  · have high := Event.keepsPeriod_write keeps (UInt16.not_lt.mp low)
    have banks : ¬ address < 0xA000 := by grind
    have period : ¬ address < 0xE000 := UInt16.not_lt.mpr high
    have switch : (Event.write address data).switch = some (address &&& 1 != 0) := if_pos high
    simp only [write, banks, low, period, if_false]
    cases even : address &&& 1 == 0 with
    | true =>
      rw [bne, even] at switch
      refine ⟨rfl, rfl, (Bool.and_true _).symm, ?_, ?_⟩
      · rw [switch]
        rfl
      · rw [Event.acknowledges, switch]
        rfl
    | false =>
      rw [bne, even] at switch
      refine ⟨rfl, rfl, (Bool.and_true _).symm, ?_, ?_⟩
      · rw [switch]
        rfl
      · simp [Event.acknowledges, switch]

theorem write_isPeriod (registers : Registers) (fourScreen : Bool) {address : UInt16}
    (data : UInt8) (holds : Event.isPeriod address = true) :
    registers.write fourScreen address data = { registers with irqLatch := data } := by
  simp only [Event.isPeriod, Bool.and_eq_true, decide_eq_true_iff] at holds
  obtain ⟨⟨above, below⟩, even⟩ := holds
  have banks : ¬ address < 0xA000 := by grind
  simp only [write, banks, UInt16.not_lt.mpr above, below, even, if_true, if_false]

theorem write_isReload (registers : Registers) (fourScreen : Bool) {address : UInt16}
    (data : UInt8) (asks : Event.isReload address = true) :
    registers.write fourScreen address data =
      { registers with irqCounter := 0, irqReload := true } := by
  simp only [Event.isReload, Bool.and_eq_true, decide_eq_true_iff, bne, Bool.not_eq_true'] at asks
  obtain ⟨⟨above, below⟩, odd⟩ := asks
  have banks : ¬ address < 0xA000 := by grind
  simp only [write, banks, UInt16.not_lt.mpr above, below, odd, if_true, if_false,
    Bool.false_eq_true]

/-- What the counter holds when a number of clocks have come since the request to reload. -/
structure Counts (latch : UInt8) (clocks : Nat) (registers : Registers) : Prop where
  period : registers.irqLatch = latch
  fresh : clocks = 0 → registers.irqCounter = 0 ∧ registers.irqReload = true
  counting : ∀ earlier, clocks = earlier + 1 → registers.irqReload = false ∧
    registers.irqCounter.toNat = latch.toNat - earlier % (latch.toNat + 1)

variable {latch : UInt8} {clocks : Nat} {registers : Registers}

/-- A clock at zero, or after the request, starts the period again; any other takes one away. -/
theorem nextCounter_cases (registers : Registers) :
    ((registers.irqCounter = 0 ∨ registers.irqReload = true) ∧
        registers.nextCounter = registers.irqLatch) ∨
      (registers.irqCounter ≠ 0 ∧ registers.irqReload = false ∧
        registers.nextCounter.toNat + 1 = registers.irqCounter.toNat) := by
  rw [nextCounter]
  split
  · rename_i starts
    rw [Bool.or_eq_true, beq_iff_eq] at starts
    exact .inl ⟨starts, rfl⟩
  · rename_i counts
    rw [Bool.or_eq_true, beq_iff_eq, not_or, Bool.not_eq_true] at counts
    obtain ⟨positive, idle⟩ := counts
    refine .inr ⟨positive, idle, ?_⟩
    have one : 1 ≤ registers.irqCounter := by grind
    rw [UInt8.toNat_sub_of_le _ _ one]
    exact Nat.sub_add_cancel (UInt8.le_iff_toNat_le.mp one)

/-- The counter runs from the period to zero and starts again. -/
theorem Counts.nextCounter (counts : Counts latch clocks registers) :
    registers.nextCounter.toNat = latch.toNat - clocks % (latch.toNat + 1) := by
  cases clocks with
  | zero =>
    obtain ⟨-, asked⟩ := counts.fresh rfl
    obtain ⟨-, reloaded⟩ | ⟨-, idle, -⟩ := registers.nextCounter_cases
    · rw [reloaded, counts.period, Nat.zero_mod, Nat.sub_zero]
    · exact absurd (asked.symm.trans idle) Bool.noConfusion
  | succ earlier =>
    obtain ⟨idle, value⟩ := counts.counting earlier rfl
    rw [Countdown.sub_mod_succ, ← value]
    obtain ⟨zero | asked, reloaded⟩ | ⟨positive, -, fewer⟩ := registers.nextCounter_cases
    · rw [zero, if_pos UInt8.toNat_zero, reloaded, counts.period]
    · exact absurd (asked.symm.trans idle) Bool.noConfusion
    · have some : registers.irqCounter.toNat ≠ 0 := fun none =>
        positive (UInt8.toNat_inj.mp none)
      rw [if_neg some, ← fewer, Nat.add_sub_cancel]

theorem Counts.nextCounter_eq_zero (counts : Counts latch clocks registers) :
    (registers.nextCounter == 0) = decide (latch.toNat + 1 ∣ clocks + 1) := by
  rw [Bool.eq_iff_iff, beq_iff_eq, ← UInt8.toNat_inj, counts.nextCounter, UInt8.toNat_zero,
    decide_eq_true_iff, Countdown.sub_mod_eq_zero_iff]

theorem Counts.counter_eq_zero {earlier : Nat} (counts : Counts latch (earlier + 1) registers) :
    registers.irqCounter = 0 ↔ latch.toNat + 1 ∣ earlier + 1 := by
  obtain ⟨-, value⟩ := counts.counting earlier rfl
  rw [← UInt8.toNat_inj, value, UInt8.toNat_zero, Countdown.sub_mod_eq_zero_iff]

theorem Counts.advance (counts : Counts latch clocks registers) {event : Event} {counted : Bool}
    {after : Registers} (advances : Advances event counted registers after) :
    Counts latch (clocks + counted.toNat) after where
  period := advances.latch.trans counts.period
  fresh none := by
    cases counted with
    | false =>
      obtain ⟨zero, asked⟩ := counts.fresh none
      exact ⟨advances.counter.trans zero, by rw [advances.reload, asked]; rfl⟩
    | true => exact absurd none (Nat.succ_ne_zero _)
  counting earlier more := by
    cases counted with
    | false =>
      obtain ⟨idle, value⟩ := counts.counting earlier more
      refine ⟨by rw [advances.reload, idle]; rfl, ?_⟩
      rw [advances.counter]
      exact value
    | true =>
      obtain rfl : clocks = earlier := Nat.succ.inj more
      refine ⟨by rw [advances.reload, Bool.not_true, Bool.and_false], ?_⟩
      rw [advances.counter]
      exact counts.nextCounter

end Mmc3.Registers

namespace Cartridge

variable {cart : Cartridge} {chip : Mmc3}

theorem meet_advances (board : cart.board = .mmc3 chip) {event : Event}
    (keeps : event.keepsPeriod = true) :
    ∃ later, (cart.meet event).board = .mmc3 later ∧
      Mmc3.Registers.Advances event (cart.counts event) chip.registers later.registers := by
  cases event with
  | observe address =>
    obtain ⟨a12, filter, seen⟩ := observe_counts board address
    exact ⟨_, congrArg Cartridge.board seen,
      chip.registers.advances_observe a12 filter address (cart.counts (.observe address))⟩
  | step =>
    refine ⟨chip.step, ?_, chip.registers.advances_step⟩
    simp only [Cartridge.meet, Cartridge.step, board, Board.step]
  | read => exact ⟨chip, board, .idle rfl rfl rfl rfl rfl rfl⟩
  | write address data =>
    obtain ⟨later, written, -, registers⟩ := write_registers board address data
    refine ⟨later, written, ?_⟩
    rw [registers]
    split
    · exact chip.registers.advances_write chip.fourScreen keeps
    · rename_i outside
      have silent : (Event.write address data).switch = none := if_neg (by grind)
      exact .idle silent rfl rfl rfl rfl rfl

theorem clockings_append (cart : Cartridge) (early late : List Event) :
    cart.clockings (early ++ late) =
      cart.clockings early + (cart.meetAll early).clockings late := by
  induction early generalizing cart with
  | nil => exact (Nat.zero_add _).symm
  | cons event early ih =>
    rw [List.cons_append, clockings, clockings, ih, Nat.add_assoc]
    rfl

theorem clockings_concat (cart : Cartridge) (events : List Event) (event : Event) :
    cart.clockings (events ++ [event]) =
      cart.clockings events + ((cart.meetAll events).counts event).toNat :=
  clockings_append cart events [event]

theorem meetAll_concat (cart : Cartridge) (events : List Event) (event : Event) :
    cart.meetAll (events ++ [event]) = (cart.meetAll events).meet event :=
  meetAll_append cart events [event]

/-- While the program keeps the period, the clocks since a request to reload are counted. -/
theorem meetAll_counts (board : cart.board = .mmc3 chip) {events : List Event}
    (keep : ∀ event ∈ events, event.keepsPeriod = true) :
    ∃ later, (cart.meetAll events).board = .mmc3 later ∧
      later.registers.irqLatch = chip.registers.irqLatch ∧
      later.registers.irqEnabled = Event.switched chip.registers.irqEnabled events ∧
      ∀ {latch}, chip.registers.Counts latch 0 →
        later.registers.Counts latch (cart.clockings events) := by
  induction events using List.reverseRecOn with
  | nil => exact ⟨chip, board, rfl, rfl, id⟩
  | append_singleton events event ih =>
    obtain ⟨later, seen, latch, on, counts⟩ :=
      ih fun each member => keep each (List.mem_append_left _ member)
    obtain ⟨next, met, advances⟩ := meet_advances seen (keep event (by simp))
    refine ⟨next, by rw [meetAll_concat, met], advances.latch.trans latch, ?_, fun fresh => ?_⟩
    · rw [advances.enabled, on, Event.switched_concat]
    · rw [clockings_concat]
      exact (counts fresh).advance advances

/-- The cartridge when the period has been written and, some events later, a reload asked for. -/
def armed (cart : Cartridge) (period : UInt16) (latch : UInt8) (between : List Event)
    (reload : UInt16) (data : UInt8) : Cartridge :=
  (cart.meetAll (.write period latch :: between)).meet (.write reload data)

theorem armed_counts (board : cart.board = .mmc3 chip) {period reload : UInt16}
    (latch data : UInt8) {between : List Event} (holds : Event.isPeriod period = true)
    (asks : Event.isReload reload = true)
    (keep : ∀ event ∈ between, event.keepsPeriod = true) :
    ∃ later, (cart.armed period latch between reload data).board = .mmc3 later ∧
      later.registers.Counts latch 0 ∧
      later.registers.irqEnabled = Event.switched chip.registers.irqEnabled between := by
  obtain ⟨held, written, -, registers⟩ := write_registers board period latch
  rw [if_pos (Event.isPeriod_program holds), Mmc3.Registers.write_isPeriod _ _ _ holds] at registers
  obtain ⟨later, met, kept, on, -⟩ := meetAll_counts written keep
  obtain ⟨asked, armed, -, answer⟩ := write_registers met reload data
  rw [if_pos (Event.isReload_program asks), Mmc3.Registers.write_isReload _ _ _ asks] at answer
  rw [registers] at kept on
  refine ⟨asked, armed, ?_, ?_⟩
  · rw [answer]
    exact ⟨kept, fun _ => ⟨rfl, rfl⟩, fun _ more => absurd more (Nat.succ_ne_zero _).symm⟩
  · rw [answer]
    exact on

/-- After events since the reload was asked for, the event is a clock that ends a period while the
interrupt is on; it was `on` at the request. -/
def raises (start : Cartridge) (latch : UInt8) (on : Bool) (events : List Event) (event : Event) :
    Bool :=
  (start.meetAll events).counts event && decide (latch.toNat + 1 ∣ start.clockings events + 1) &&
    Event.switched on events

/-! A clock is no write. -/

theorem counts_keepsPeriod {event : Event} (counted : cart.counts event = true) :
    event.keepsPeriod = true := by
  cases event with
  | observe => rfl
  | step | read | write => cases counted

theorem raises_unheard {start : Cartridge} {latch : UInt8} {on : Bool} {events : List Event}
    {event : Event} (raised : start.raises latch on events event = true) :
    event.acknowledges = false := by
  cases event with
  | observe => rfl
  | step | read | write => cases raised

/-- Writing the period and asking for a reload neither assert nor acknowledge. -/
theorem meet_irq_of_period (board : cart.board = .mmc3 chip) {event : Event}
    (sets : event.keepsPeriod = false) :
    (cart.meet event).irq = cart.irq ∧ event.acknowledges = false ∧ cart.counts event = false := by
  cases event with
  | observe | step | read => cases sets
  | write address data =>
    obtain ⟨later, written, -, registers⟩ := write_registers board address data
    rw [Event.keepsPeriod, Bool.not_eq_false', Bool.or_eq_true] at sets
    have below : address < 0xE000 := by
      simp only [Event.isPeriod, Event.isReload, Bool.and_eq_true, decide_eq_true_iff] at sets
      obtain ⟨⟨-, below⟩, -⟩ | ⟨⟨-, below⟩, -⟩ := sets <;> exact below
    have silent : (Event.write address data).switch = none := if_neg (UInt16.not_le.mpr below)
    have kept : later.registers.irqPending = chip.registers.irqPending := by
      obtain holds | asks := sets
      · rw [registers, if_pos (Event.isPeriod_program holds),
          Mmc3.Registers.write_isPeriod _ _ _ holds]
      · rw [registers, if_pos (Event.isReload_program asks),
          Mmc3.Registers.write_isReload _ _ _ asks]
    refine ⟨?_, by rw [Event.acknowledges, silent]; rfl, rfl⟩
    rw [meet, irq, written, Board.irq, kept, irq, board, Board.irq]

/-- The line after one more event. -/
theorem meet_irq {latch : UInt8} (board : cart.board = .mmc3 chip)
    (fresh : chip.registers.Counts latch 0) {events : List Event}
    (keep : ∀ event ∈ events, event.keepsPeriod = true) (event : Event) :
    (cart.meetAll (events ++ [event])).irq =
      (!event.acknowledges && ((cart.meetAll events).irq ||
        cart.raises latch chip.registers.irqEnabled events event)) := by
  obtain ⟨later, seen, -, on, counts⟩ := meetAll_counts board keep
  rw [meetAll_concat]
  cases keeps : event.keepsPeriod with
  | true =>
    obtain ⟨next, met, advances⟩ := meet_advances seen keeps
    have line : (cart.meetAll events).irq = later.registers.irqPending := by
      rw [irq, seen, Board.irq]
    rw [irq, met, Board.irq, advances.pending, (counts fresh).nextCounter_eq_zero, line, on, raises]
  | false =>
    obtain ⟨same, unheard, idle⟩ := meet_irq_of_period seen keeps
    rw [same, unheard, raises, idle, Bool.false_and, Bool.false_and, Bool.or_false, Bool.not_false,
      Bool.true_and]

/-- The line is asserted by a clock that raises it, and from then on until it is acknowledged. -/
theorem meetAll_irq {latch : UInt8} (board : cart.board = .mmc3 chip)
    (fresh : chip.registers.Counts latch 0) {events : List Event}
    (keep : ∀ event ∈ events, event.keepsPeriod = true) :
    (cart.meetAll events).irq = true ↔
      (cart.irq = true ∧ ∀ event ∈ events, event.acknowledges = false) ∨
        ∃ early clock late, events = early ++ clock :: late ∧
          cart.raises latch chip.registers.irqEnabled early clock = true ∧
          ∀ event ∈ late, event.acknowledges = false := by
  induction events using List.reverseRecOn with
  | nil => simp [meetAll]
  | append_singleton events event ih =>
    have before : ∀ each ∈ events, each.keepsPeriod = true :=
      fun each member => keep each (List.mem_append_left _ member)
    rw [meet_irq board fresh before event, Bool.and_eq_true, Bool.or_eq_true, ih before,
      Bool.not_eq_true']
    constructor
    · rintro ⟨unheard, (⟨asserted, silent⟩ | ⟨early, clock, late, rfl, raised, silent⟩) | raised⟩
      · refine .inl ⟨asserted, ?_⟩
        exact List.forall_mem_append.mpr ⟨silent, List.forall_mem_singleton.mpr unheard⟩
      · refine .inr ⟨early, clock, late ++ [event], by simp, raised, ?_⟩
        exact List.forall_mem_append.mpr ⟨silent, List.forall_mem_singleton.mpr unheard⟩
      · exact .inr ⟨events, event, [], rfl, raised, by simp⟩
    · rintro (⟨asserted, silent⟩ | ⟨early, clock, late, split, raised, silent⟩)
      · obtain ⟨silent, unheard⟩ := List.forall_mem_append.mp silent
        exact ⟨unheard event (List.mem_singleton_self event), .inl (.inl ⟨asserted, silent⟩)⟩
      · rcases snoc_eq_iff.mp split with ⟨rfl, rfl, rfl⟩ | ⟨late, rfl, rfl⟩
        · exact ⟨raises_unheard raised, .inr raised⟩
        · obtain ⟨silent, unheard⟩ := List.forall_mem_append.mp silent
          exact ⟨unheard event (List.mem_singleton_self event),
            .inl (.inr ⟨early, clock, late, rfl, raised, silent⟩)⟩

/-- From the request to reload on, whatever else is written: after a clock the counter is the period
less the clocks since it was last full, so each clock starts a period or takes one away from a
counter that is not zero; the interrupt is asserted by the clocks that end a period while it is on,
by nothing else, and until it is acknowledged. -/
theorem counter_period (board : cart.board = .mmc3 chip) {period reload : UInt16}
    {latch data : UInt8} {between events : List Event} {start : Cartridge}
    (holds : Event.isPeriod period = true) (asks : Event.isReload reload = true)
    (keepBetween : ∀ event ∈ between, event.keepsPeriod = true)
    (arms : start = cart.armed period latch between reload data)
    (keep : ∀ event ∈ events, event.keepsPeriod = true) :
    ∃ now, (start.meetAll events).board = .mmc3 now ∧
      now.registers.irqEnabled =
        Event.switched (Event.switched chip.registers.irqEnabled between) events ∧
      (1 ≤ start.clockings events →
        now.registers.irqCounter.toNat =
            latch.toNat - (start.clockings events - 1) % (latch.toNat + 1) ∧
          (now.registers.irqCounter = 0 ↔ latch.toNat + 1 ∣ start.clockings events)) ∧
      ((start.meetAll events).irq = true ↔
        (start.irq = true ∧ ∀ event ∈ events, event.acknowledges = false) ∨
          ∃ early clock late, events = early ++ clock :: late ∧
            start.raises latch (Event.switched chip.registers.irqEnabled between) early clock =
              true ∧
            ∀ event ∈ late, event.acknowledges = false) ∧
      ∀ event,
        (start.meetAll (events ++ [event])).irq =
            (!event.acknowledges && ((start.meetAll events).irq ||
              start.raises latch (Event.switched chip.registers.irqEnabled between) events
                event)) ∧
          ((start.meetAll events).counts event = true →
            ∃ next, (start.meetAll (events ++ [event])).board = .mmc3 next ∧
              ((now.registers.irqCounter = 0 ∨ now.registers.irqReload = true) ∧
                  next.registers.irqCounter = latch ∨
                now.registers.irqCounter ≠ 0 ∧
                  next.registers.irqCounter.toNat + 1 = now.registers.irqCounter.toNat)) := by
  obtain ⟨asked, armed, fresh, on⟩ := armed_counts board latch data holds asks keepBetween
  rw [← arms] at armed
  rw [← on]
  obtain ⟨now, seen, -, still, counted⟩ := meetAll_counts armed keep
  have counts := counted fresh
  refine ⟨now, seen, still, fun clocked => ?_, meetAll_irq armed fresh keep,
    fun event => ⟨meet_irq armed fresh keep event, fun counted => ?_⟩⟩
  · obtain ⟨earlier, count⟩ := Nat.exists_eq_add_of_le' clocked
    rw [count] at counts ⊢
    exact ⟨(counts.counting earlier rfl).2, counts.counter_eq_zero⟩
  · obtain ⟨next, met, advances⟩ := meet_advances seen (counts_keepsPeriod counted)
    refine ⟨next, by rw [meetAll_concat, met], ?_⟩
    rw [advances.counter, counted, if_pos rfl]
    obtain ⟨starts, reloaded⟩ | ⟨positive, -, fewer⟩ := now.registers.nextCounter_cases
    · exact .inl ⟨starts, reloaded.trans counts.period⟩
    · exact .inr ⟨positive, fewer⟩

/-- A counter with the period two that has been asked to reload is at zero after two clocks, and the
second asserts the interrupt. -/
theorem counter_period_two :
    Event.isPeriod 0xC000 = true ∧ Event.isReload 0xC001 = true ∧
      (falling.armed 0xC000 1 [.write 0xE001 0] 0xC001 0).clockings (fall 0 ++ fall 16) = 2 ∧
      (falling.armed 0xC000 1 [.write 0xE001 0] 0xC001 0).raises 1 true
        (fall 0 ++ (fall 16).dropLast) (.observe 0x0FFF) = true ∧
      ((falling.armed 0xC000 1 [.write 0xE001 0] 0xC001 0).meetAll (fall 0 ++ fall 16)).irq =
        true := by
  have keep : ∀ event ∈ fall 0 ++ fall 16, event.keepsPeriod = true := by decide
  have raised : (falling.armed 0xC000 1 [.write 0xE001 0] 0xC001 0).raises 1 true
      (fall 0 ++ (fall 16).dropLast) (.observe 0x0FFF) = true := by decide
  obtain ⟨now, -, -, -, asserted, -⟩ := @counter_period falling _ rfl 0xC000 0xC001 1 0
    [.write 0xE001 0] _ _ (by decide) (by decide) (by decide) rfl keep
  exact ⟨by decide, by decide, by decide, raised,
    asserted.mpr (.inr ⟨fall 0 ++ (fall 16).dropLast, .observe 0x0FFF, [], rfl, raised, by simp⟩)⟩

end Cartridge

end Nes
