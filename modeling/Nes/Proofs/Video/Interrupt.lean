import Nes.Proofs.Histories
import Nes.Proofs.Video.Dots
import Nes.Proofs.Video.Events

/-!
Where interrupt edges come from and where they go. An edge is raised when the vertical blank begins
or when the interrupt is switched on during it; from then on it waits, hidden for the first dots of
the blank, until it is polled or taken back. So each poll that finds an edge answers a raising event
of its own, and none is lost but to the few events that take it back.
-/

namespace Nes.Ppu

/-! ### What happens to an edge -/

/-- The unit after events since power-on. -/
def after (cart : Cartridge) (events : List Event) : Ppu := (follow ({}, cart) events).1

/-- The event reads the status. -/
def Event.ReadsStatus : Event → Prop
  | .read address => address &&& 7 = 2
  | _ => False

/-- What the event leaves in the control register. -/
def Event.control (ctrl : UInt8) : Event → UInt8
  | .write address data => if address &&& 7 = 0 then data else ctrl
  | .reset => 0
  | _ => ctrl

/-- The status has been read since the unit came to its present place. -/
def StatusRead (events : List Event) : Prop :=
  ∃ early event late, events = early ++ event :: late ∧ event.ReadsStatus ∧ dots late = 0

/-- An edge is raised by the beginning of the vertical blank while the interrupt is on, unless the
status has been read just before, and by switching the interrupt on while the blank's flag is
set. -/
def Raises (cart : Cartridge) (events : List Event) : Event → Prop
  | .dot => (after cart events).raster.position = (241, 1) ∧
      (after cart events).nmiEnabled = true ∧ ¬ StatusRead events
  | .write address data => address &&& 7 = 0 ∧ data &&& 0x80 ≠ 0 ∧
      (after cart events).nmiEnabled = false ∧ (after cart events).status &&& vblankFlag ≠ 0
  | _ => False

/-- An edge is taken back by reading the status just after the blank has begun, by switching the
interrupt off, and by the reset line. -/
def Cancels (cart : Cartridge) (events : List Event) : Event → Prop
  | .read address => address &&& 7 = 2 ∧
      ((after cart events).raster.position = (241, 2) ∨
        (after cart events).raster.position = (241, 3))
  | .write address data => address &&& 7 = 0 ∧ data &&& 0x80 = 0
  | .reset => True
  | _ => False

/-- The event is a poll that finds an edge. -/
def Delivers (cart : Cartridge) (events : List Event) : Event → Prop
  | .poll => (after cart events).pollNmi.1 = true
  | _ => False

/-- The first dots of the vertical blank, in which the processor does not see an edge yet. -/
def Hidden (cart : Cartridge) (events : List Event) : Prop :=
  (after cart events).raster.position.1 = 241 ∧ (after cart events).raster.position.2 ≤ 3

/-- Something holds of each of the events `late`, all of which come after `early`. -/
def Throughout (holds : List Event → Event → Prop) (early late : List Event) : Prop :=
  ∀ first event rest, late = first ++ event :: rest → holds (early ++ first) event

theorem Throughout.none (holds : List Event → Event → Prop) (early : List Event) :
    Throughout holds early [] := by
  intro first event rest parts
  simp at parts

theorem throughout_snoc {holds : List Event → Event → Prop} {early late : List Event}
    {event : Event} :
    Throughout holds early (late ++ [event]) ↔
      Throughout holds early late ∧ holds (early ++ late) event := by
  constructor
  · intro all
    refine ⟨?_, all late event [] rfl⟩
    rintro first other rest rfl
    exact all first other (rest ++ [event]) (by simp)
  · rintro ⟨before, last⟩ first other rest parts
    rcases snoc_eq_iff.mp parts with ⟨rfl, rfl, rfl⟩ | ⟨rest, rfl, rfl⟩
    · exact last
    · exact before first other rest rfl

/-! ### Dots and accesses -/

variable (ppu : Ppu) (cart : Cartridge)

/-- What an edge depends on besides the place. -/
def edge : UInt8 × Bool × Bool := (ppu.ctrl, ppu.nmiPending, ppu.suppressVblank)

theorem position_eq_iff_words (scanline dot : UInt16) :
    ppu.raster.position = (scanline.toNat, dot.toNat) ↔
      ppu.raster.scanline = scanline ∧ ppu.raster.dot = dot := by
  rw [Raster.position, Prod.mk.injEq, UInt16.toNat_inj, UInt16.toNat_inj]

theorem startsVblank_iff_position :
    ppu.raster.startsVblank = true ↔ ppu.raster.position = (241, 1) := by
  rw [Raster.startsVblank, Bool.and_eq_true, beq_iff_eq, beq_iff_eq]
  exact (ppu.position_eq_iff_words 241 1).symm

theorem nmiHidden_iff :
    ppu.nmiHidden = true ↔ ppu.raster.position.1 = 241 ∧ ppu.raster.position.2 ≤ 3 := by
  rw [nmiHidden, Bool.and_eq_true, beq_iff_eq, decide_eq_true_iff, ← UInt16.toNat_inj]
  rfl

theorem markVblank_edge :
    ppu.markVblank.edge =
      (ppu.ctrl,
        ppu.nmiPending || (ppu.raster.startsVblank && !ppu.suppressVblank && ppu.nmiEnabled),
        ppu.suppressVblank && !ppu.raster.startsVblank) := by
  unfold markVblank
  split
  · rename_i starts
    simp only [starts, startVblank, edge]
    cases ppu.suppressVblank <;> simp [nmiEnabled]
  · rename_i quiet
    rw [Bool.not_eq_true] at quiet
    simp only [quiet, Bool.false_and, Bool.or_false, Bool.not_false, Bool.and_true]
    split <;> rfl

theorem step_edge :
    (ppu.step cart).1.edge =
      (ppu.ctrl,
        ppu.nmiPending || (ppu.raster.startsVblank && !ppu.suppressVblank && ppu.nmiEnabled),
        ppu.suppressVblank && !ppu.raster.startsVblank) := by
  have marked : (ppu.step cart).1.edge = (ppu.drawn cart).1.markVblank.edge := rfl
  rw [marked, markVblank_edge, (ppu.drawn_frame cart).1]
  rfl

theorem incrementAddress_edge : (ppu.incrementAddress cart).1.edge = ppu.edge := by
  unfold incrementAddress
  split <;> rfl

theorem readRegister_edge {address : UInt16} (other : address &&& 7 ≠ 2) :
    (ppu.readRegister cart address).2.1.edge = ppu.edge := by
  unfold readRegister
  split
  · rename_i status
    exact absurd (UInt16.toNat_inj.mp status) other
  · rfl
  · simp only [readData]
    split <;> exact incrementAddress_edge _ _
  · rfl

theorem readRegister_status {address : UInt16} (register : address &&& 7 = 2) :
    (ppu.readRegister cart address).2.1.edge = ppu.raceStatus.edge := by
  simp only [readRegister, register]
  rfl

theorem writeRegister_edge {address : UInt16} (other : address &&& 7 ≠ 0) (data : UInt8) :
    (ppu.writeRegister cart address data).1.edge = ppu.edge := by
  have written (unit : Ppu) (address : UInt16) :
      (unit.writeVram cart address data).1.edge = unit.edge := by
    simp only [writeVram]
    repeat' split
    all_goals rfl
  simp only [writeRegister]
  split
  case h_1 control => exact absurd (UInt16.toNat_inj.mp control) other
  case h_8 =>
    simp only [writeData]
    rw [incrementAddress_edge, written]
    rfl
  all_goals rfl

theorem writeRegister_ctrl {address : UInt16} (register : address &&& 7 = 0) (data : UInt8) :
    (ppu.writeRegister cart address data).1.edge = (ppu.writeCtrl data).edge := by
  simp only [writeRegister, register]
  rfl

theorem raceStatus_pending :
    ppu.raceStatus.nmiPending = true ↔
      ppu.nmiPending = true ∧
        ¬ (ppu.raster.position = (241, 2) ∨ ppu.raster.position = (241, 3)) := by
  have two := ppu.position_eq_iff_words 241 2
  have three := ppu.position_eq_iff_words 241 3
  simp only [UInt16.reduceToNat] at two three
  rw [two, three]
  simp only [raceStatus, Raster.vblankScanline, bne_iff_ne, beq_iff_eq, Bool.or_eq_true]
  repeat' split
  all_goals simp_all

theorem raceStatus_suppress :
    ppu.raceStatus.suppressVblank = true ↔
      ppu.suppressVblank = true ∨ ppu.raster.position = (241, 1) := by
  have first := ppu.position_eq_iff_words 241 1
  simp only [UInt16.reduceToNat] at first
  rw [first]
  simp only [raceStatus, Raster.vblankScanline, bne_iff_ne, beq_iff_eq, Bool.or_eq_true]
  repeat' split
  all_goals simp_all

theorem pollNmi_found :
    ppu.pollNmi.1 = true ↔ ppu.nmiPending = true ∧ ¬ ppu.nmiHidden = true := by
  unfold pollNmi
  split <;> simp_all

theorem pollNmi_pending :
    ppu.pollNmi.2.nmiPending = true ↔ ppu.nmiPending = true ∧ ¬ ppu.pollNmi.1 = true := by
  unfold pollNmi
  split <;> simp_all

/-! ### One event -/

/-- The mark of a status read is made at the place where the vertical blank begins, and taken away
when the unit leaves that place. -/
theorem perform_suppress (state : Ppu × Cartridge) (event : Event) :
    (perform state event).1.suppressVblank = true ↔
      if event.isDot then state.1.suppressVblank = true ∧ state.1.raster.position ≠ (241, 1)
      else state.1.suppressVblank = true ∨
        event.ReadsStatus ∧ state.1.raster.position = (241, 1) := by
  obtain ⟨ppu, cart⟩ := state
  have kept (next : Ppu) (same : next.edge = ppu.edge) :
      next.suppressVblank = ppu.suppressVblank := congrArg (·.2.2) same
  cases event with
  | dot =>
    have stepped : (ppu.step cart).1.suppressVblank =
        (ppu.suppressVblank && !ppu.raster.startsVblank) :=
      congrArg (·.2.2) (ppu.step_edge cart)
    have elsewhere : ppu.raster.startsVblank = false ↔ ppu.raster.position ≠ (241, 1) := by
      rw [← Bool.not_eq_true, startsVblank_iff_position]
    simp only [perform, stepped, Event.isDot, if_true, Bool.and_eq_true, Bool.not_eq_true',
      elsewhere]
  | read address =>
    simp only [perform, Event.isDot, Event.ReadsStatus, Bool.false_eq_true, if_false]
    by_cases register : address &&& 7 = 2
    · have raced : (ppu.readRegister cart address).2.1.suppressVblank =
          ppu.raceStatus.suppressVblank := congrArg (·.2.2) (ppu.readRegister_status cart register)
      simp only [raced, raceStatus_suppress, register, true_and]
    · simp only [kept _ (ppu.readRegister_edge cart register), register, false_and, or_false]
  | write address data =>
    have same : (ppu.writeRegister cart address data).1.suppressVblank = ppu.suppressVblank := by
      by_cases register : address &&& 7 = 0
      · exact congrArg (·.2.2) (ppu.writeRegister_ctrl cart register data)
      · exact kept _ (ppu.writeRegister_edge cart register data)
    simp only [perform, same, Event.isDot, Event.ReadsStatus, false_and, or_false,
      Bool.false_eq_true, if_false]
  | poll =>
    have same : ppu.pollNmi.2.suppressVblank = ppu.suppressVblank := by
      unfold pollNmi
      split <;> rfl
    simp only [perform, same, Event.isDot, Event.ReadsStatus, false_and, or_false,
      Bool.false_eq_true, if_false]
  | writeOam | reset | exchange =>
    simp only [perform, Ppu.writeOam, Ppu.reset, Event.isDot, Event.ReadsStatus, false_and,
      or_false, Bool.false_eq_true, if_false]

variable {cart : Cartridge} {events : List Event} {event : Event}

theorem after_snoc (cart : Cartridge) (events : List Event) (event : Event) :
    after cart (events ++ [event]) =
      (perform (after cart events, (follow ({}, cart) events).2) event).1 := by
  rw [after, follow_snoc]
  rfl

theorem statusRead_snoc :
    StatusRead (events ++ [event]) ↔
      event.ReadsStatus ∨ event.isDot = false ∧ StatusRead events := by
  constructor
  · rintro ⟨early, read, late, parts, reads, still⟩
    rcases snoc_eq_iff.mp parts with ⟨rfl, rfl, rfl⟩ | ⟨late, rfl, rfl⟩
    · exact .inl reads
    · rw [dots_append, Nat.add_eq_zero_iff] at still
      refine .inr ⟨?_, early, read, late, rfl, reads, still.1⟩
      cases moves : event.isDot with
      | false => rfl
      | true =>
        rw [Event.eq_dot moves] at still
        exact absurd still.2 (by decide)
  · rintro (reads | ⟨still, early, read, late, rfl, reads, quiet⟩)
    · exact ⟨events, event, [], rfl, reads, rfl⟩
    · refine ⟨early, read, late ++ [event], by simp, reads, ?_⟩
      rw [dots_snoc _ still, quiet]

/-- The mark says that the status has been read at the place where the vertical blank begins. -/
theorem after_suppress (cart : Cartridge) (events : List Event) :
    (after cart events).suppressVblank = true ↔
      (after cart events).raster.position = (241, 1) ∧ StatusRead events := by
  induction events using List.reverseRecOn with
  | nil =>
    constructor
    · intro marked
      cases marked
    · rintro ⟨here, -⟩
      have origin : (after cart []).raster.position = (0, 0) := rfl
      rw [origin] at here
      exact absurd here (by decide)
  | append_singleton events event ih =>
    rw [after_snoc, perform_suppress, statusRead_snoc]
    cases moves : event.isDot with
    | true =>
      obtain rfl := Event.eq_dot moves
      simp only [if_true, Event.ReadsStatus, Bool.true_eq_false, false_and, or_false, and_false,
        iff_false, not_and, not_not]
      exact fun marked => (ih.mp marked).1
    | false =>
      rw [perform_raster _ moves, if_neg Bool.false_ne_true, ih]
      tauto

/-- An edge waits after an event that raises it, or if it waited before and the event neither takes
it back nor delivers it. -/
theorem pending_snoc_iff :
    (after cart (events ++ [event])).nmiPending = true ↔
      Raises cart events event ∨ (after cart events).nmiPending = true ∧
        ¬ Cancels cart events event ∧ ¬ Delivers cart events event := by
  have marked := after_suppress cart events
  rw [after_snoc]
  generalize (follow ({}, cart) events).2 = here
  cases event with
  | dot =>
    have stepped : ((after cart events).step here).1.nmiPending = _ :=
      congrArg (·.2.1) ((after cart events).step_edge here)
    simp only [perform, stepped, Raises, Cancels, Delivers, Bool.or_eq_true, Bool.and_eq_true,
      Bool.not_eq_true', ← Bool.not_eq_true, startsVblank_iff_position, marked]
    tauto
  | read address =>
    simp only [perform, Raises, Cancels, Delivers, false_or, not_false_eq_true, and_true]
    by_cases register : address &&& 7 = 2
    · have raced : ((after cart events).readRegister here address).2.1.nmiPending = _ :=
        congrArg (·.2.1) ((after cart events).readRegister_status here register)
      rw [raced]
      simp only [edge, raceStatus_pending, register, true_and]
    · have same : ((after cart events).readRegister here address).2.1.nmiPending = _ :=
        congrArg (·.2.1) ((after cart events).readRegister_edge here register)
      rw [same]
      simp only [edge, register, false_and, not_false_eq_true, and_true]
  | write address data =>
    simp only [perform, Raises, Cancels, Delivers, not_false_eq_true, and_true]
    by_cases register : address &&& 7 = 0
    · have written : ((after cart events).writeRegister here address data).1.nmiPending = _ :=
        congrArg (·.2.1) ((after cart events).writeRegister_ctrl here register data)
      simp only [written, edge, writeCtrl, register, Bool.and_eq_true, Bool.or_eq_true, bne_iff_ne,
        Bool.not_eq_true', true_and]
      tauto
    · have same : ((after cart events).writeRegister here address data).1.nmiPending = _ :=
        congrArg (·.2.1) ((after cart events).writeRegister_edge here register data)
      rw [same]
      simp only [edge, register, false_and, false_or, not_false_eq_true, and_true]
  | poll =>
    simp only [perform, pollNmi_pending, Raises, Cancels, Delivers, false_or, not_false_eq_true,
      true_and]
  | reset =>
    simp only [perform, Ppu.reset, Raises, Cancels, Bool.false_eq_true, not_true_eq_false,
      false_and, and_false, or_false]
  | writeOam | exchange =>
    simp only [perform, Ppu.writeOam, Raises, Cancels, Delivers, false_or, not_false_eq_true,
      and_true]

/-- What the events leave in the control register. -/
theorem after_ctrl_snoc (cart : Cartridge) (events : List Event) (event : Event) :
    (after cart (events ++ [event])).ctrl = event.control (after cart events).ctrl := by
  rw [after_snoc]
  generalize after cart events = ppu
  generalize (follow ({}, cart) events).2 = here
  cases event with
  | dot => exact congrArg (·.1) (ppu.step_edge here)
  | read address =>
    by_cases register : address &&& 7 = 2
    · have raced : ppu.raceStatus.ctrl = ppu.ctrl := by
        unfold raceStatus
        repeat' split
        all_goals rfl
      exact (congrArg (·.1) (ppu.readRegister_status here register)).trans raced
    · exact congrArg (·.1) (ppu.readRegister_edge here register)
  | write address data =>
    rw [Event.control]
    split
    · rename_i register
      exact congrArg (·.1) (ppu.writeRegister_ctrl here register data)
    · rename_i register
      exact congrArg (·.1) (ppu.writeRegister_edge here register data)
  | poll =>
    simp only [perform, pollNmi]
    split <;> rfl
  | writeOam | reset | exchange => rfl

/-! ### The life of an edge -/

/-- An edge waits only while the interrupt is on. -/
theorem enabled_of_pending (pending : (after cart events).nmiPending = true) :
    (after cart events).nmiEnabled = true := by
  induction events using List.reverseRecOn with
  | nil => cases pending
  | append_singleton events event ih =>
    rw [nmiEnabled, after_ctrl_snoc]
    rcases pending_snoc_iff.mp pending with raises | ⟨waits, kept, -⟩
    · cases event with
      | dot => exact raises.2.1
      | write address data =>
        rw [Event.control, if_pos raises.1]
        exact bne_iff_ne.mpr raises.2.1
      | read | writeOam | poll | reset | exchange => exact raises.elim
    · have on := ih waits
      cases event with
      | write address data =>
        rw [Event.control]
        split
        · rename_i register
          exact bne_iff_ne.mpr fun off => kept ⟨register, off⟩
        · exact on
      | reset => exact absurd trivial kept
      | dot | read | writeOam | poll | exchange => exact on

/-- Behind an edge that waits lies the event that has raised it last, and since then it has been
neither taken back nor delivered. -/
theorem pending_history (pending : (after cart events).nmiPending = true) :
    ∃ early raise late, events = early ++ raise :: late ∧ Raises cart early raise ∧
      Throughout (fun events event => ¬ Raises cart events event ∧
        ¬ Cancels cart events event ∧ ¬ Delivers cart events event) (early ++ [raise]) late := by
  induction events using List.reverseRecOn with
  | nil => cases pending
  | append_singleton events event ih =>
    by_cases raises : Raises cart events event
    · exact ⟨events, event, [], rfl, raises, .none _ _⟩
    · obtain ⟨waits, kept⟩ := (pending_snoc_iff.mp pending).resolve_left raises
      obtain ⟨early, raise, late, rfl, raised, since⟩ := ih waits
      refine ⟨early, raise, late ++ [event], by simp, raised, throughout_snoc.mpr ⟨since, ?_⟩⟩
      rw [← List.append_cons]
      exact ⟨raises, kept⟩

/-- An edge waits as long as it is neither taken back nor delivered. -/
theorem pending_stays {early late : List Event} {raise : Event} (raises : Raises cart early raise)
    (kept : Throughout (fun events event => ¬ Cancels cart events event ∧
      ¬ Delivers cart events event) (early ++ [raise]) late) :
    (after cart (early ++ raise :: late)).nmiPending = true := by
  induction late using List.reverseRecOn with
  | nil => exact pending_snoc_iff.mpr (.inl raises)
  | append_singleton late event ih =>
    obtain ⟨before, last⟩ := throughout_snoc.mp kept
    rw [← List.append_cons] at last
    rw [← List.cons_append, ← List.append_assoc]
    exact pending_snoc_iff.mpr (.inr ⟨ih before, last⟩)

theorem delivers_poll_iff :
    Delivers cart events .poll ↔
      (after cart events).nmiPending = true ∧ ¬ Hidden cart events := by
  rw [Delivers, pollNmi_found, nmiHidden_iff]
  rfl

/-- No interrupt is invented and none is lost. A poll that finds an edge does so with the interrupt
on and outside the first dots of the blank, and answers the last raising event, of which no other
poll has told. An edge that is neither taken back nor delivered is found by the first poll outside
those dots, together with any other that has been raised since. -/
theorem interrupt_edges (cart : Cartridge) :
    (∀ events, Delivers cart events .poll →
      (after cart events).nmiEnabled = true ∧ ¬ Hidden cart events ∧
      ∃ early raise late, events = early ++ raise :: late ∧ Raises cart early raise ∧
        Throughout (fun events event => ¬ Raises cart events event ∧
          ¬ Cancels cart events event ∧ ¬ Delivers cart events event) (early ++ [raise]) late) ∧
    ∀ early raise late, Raises cart early raise →
      Throughout (fun events event => ¬ Cancels cart events event ∧
        ¬ Delivers cart events event) (early ++ [raise]) late →
      ¬ Hidden cart (early ++ raise :: late) → Delivers cart (early ++ raise :: late) .poll := by
  constructor
  · intro events found
    obtain ⟨pending, seen⟩ := delivers_poll_iff.mp found
    exact ⟨enabled_of_pending pending, seen, pending_history pending⟩
  · intro early raise late raises kept seen
    exact delivers_poll_iff.mpr ⟨pending_stays raises kept, seen⟩

theorem follow_dots (start : Ppu × Cartridge) :
    ∀ count, follow start (List.replicate count .dot) = afterDots start count
  | 0 => rfl
  | count + 1 => by
    rw [List.replicate_succ', follow_snoc, follow_dots start count]
    rfl

/-- The interrupt and the picture are switched on. -/
def switchedOn : List Event := [.write 0 0x80, .write 1 0x08]

/-- After that the dots up to the vertical blank pass. -/
def untilBlank : List Event := switchedOn ++ List.replicate 82182 .dot

theorem after_untilBlank (more : Nat) :
    after .idle (untilBlank ++ List.replicate more .dot) =
      (afterDots (follow ({}, .idle) switchedOn) (82182 + more)).1 := by
  rw [after, untilBlank, List.append_assoc, List.replicate_append_replicate, follow_append,
    follow_dots]

theorem untilBlank_position (more : Nat) (few : more < 4) :
    (after .idle (untilBlank ++ List.replicate more .dot)).raster.position = (241, 1 + more) := by
  have unit := after_untilBlank more
  have rendering : (follow ({}, .idle) switchedOn).1.rendering = true := rfl
  have origin : (follow ({}, .idle) switchedOn).1.raster = {} := rfl
  generalize follow ({}, .idle) switchedOn = start at unit rendering origin
  have first : start.1.raster.place = 0 := by rw [origin]; rfl
  have length : start.1.raster.frameLength = 89342 := by rw [origin]; rfl
  have last : Raster.lastDot = 89341 := rfl
  have dots := Dots.afterDots start (82182 + more)
  obtain ⟨valid, here⟩ := dots.place rendering (by rw [origin]; rfl) (by omega) (by omega)
  rw [if_pos (by omega)] at here
  rw [unit, Raster.position, Prod.mk.injEq]
  exact (Raster.place_eq_iff valid (by omega)).mp (by omega)

theorem untilBlank_raises : Raises .idle untilBlank .dot := by
  have here := untilBlank_position 0 (by decide)
  have unit := after_untilBlank 0
  have enabled : (follow ({}, .idle) switchedOn).1.nmiEnabled = true := rfl
  have kept (first second : Ppu) (same : first.setup = second.setup) :
      first.nmiEnabled = second.nmiEnabled := by
    have ctrl : first.ctrl = second.ctrl := congrArg Setup.ctrl same
    rw [nmiEnabled, nmiEnabled, ctrl]
  rw [List.replicate_zero, List.append_nil] at here unit
  refine ⟨here, ?_, ?_⟩
  · rw [unit, kept _ _ (Dots.afterDots _ _).setup]
    exact enabled
  · rintro ⟨early, read, late, parts, reads, -⟩
    have member : read ∈ untilBlank := by
      rw [parts]
      exact List.mem_append_right _ List.mem_cons_self
    rw [untilBlank, switchedOn, List.mem_append, List.mem_replicate] at member
    rcases member with writes | ⟨-, rfl⟩
    · simp only [List.mem_cons, List.not_mem_nil, or_false] at writes
      rcases writes with rfl | rfl <;> exact reads
    · exact reads

theorem interrupt_edges_blank :
    ¬ Hidden .idle (untilBlank ++ [.dot, .dot, .dot]) ∧
      Delivers .idle (untilBlank ++ [.dot, .dot, .dot]) .poll ∧
      ∃ early raise late, untilBlank ++ [.dot, .dot, .dot] = early ++ raise :: late ∧
        Raises .idle early raise := by
  obtain ⟨sound, lossless⟩ := interrupt_edges .idle
  have quiet : Throughout (fun events event => ¬ Cancels .idle events event ∧
      ¬ Delivers .idle events event) (untilBlank ++ [.dot]) [.dot, .dot] := by
    intro first event rest parts
    have member : event ∈ [Event.dot, .dot] := by
      rw [parts]
      exact List.mem_append_right _ List.mem_cons_self
    have moves : event = .dot := by simpa using member
    rw [moves]
    exact ⟨id, id⟩
  have seen : ¬ Hidden .idle (untilBlank ++ [.dot, .dot, .dot]) := by
    have here := untilBlank_position 3 (by decide)
    simp only [List.replicate] at here
    rw [Hidden, here]
    decide
  have found := lossless untilBlank .dot [.dot, .dot] untilBlank_raises quiet seen
  obtain ⟨-, -, early, raise, late, parts, raised, -⟩ := sound _ found
  exact ⟨seen, found, early, raise, late, parts, raised⟩

end Nes.Ppu
