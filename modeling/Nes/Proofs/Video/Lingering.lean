import Nes.Proofs.Video.Interrupt

/-!
How long a value lingers on the picture unit's data lines. Writes and most reads drive a fresh
value, which is gone a frame later; a status read replaces the value that is there and leaves it the
rest of its time. If there is no rest, the status stays until something else is driven.
-/

namespace Nes

namespace OpenBus

theorem tick_decay (bus : OpenBus) : bus.tick.decay.toNat = bus.decay.toNat - 1 := by
  unfold tick
  split
  · rename_i lapsed
    rw [beq_iff_eq] at lapsed
    rw [lapsed]
    rfl
  · rename_i waits
    split
    · rename_i last
      rw [beq_iff_eq] at last
      rw [last]
      rfl
    · have one : (1 : UInt32) ≤ bus.decay := by
        simp only [beq_iff_eq] at waits
        grind
      exact UInt32.toNat_sub_of_le _ _ one

/-- A value stays until its time runs out. -/
theorem tick_value (bus : OpenBus) (lapsed : bus.tick.decay = 0) :
    bus.tick.value = if bus.decay = 0 then bus.value else 0 := by
  unfold tick at lapsed ⊢
  split
  · rename_i gone
    rw [if_pos (beq_iff_eq.mp gone)]
  · rename_i waits
    rw [if_neg waits] at lapsed
    have rest : ¬ bus.decay = 0 := fun gone => waits (beq_iff_eq.mpr gone)
    rw [if_neg rest]
    split
    · rfl
    · rename_i more
      rw [if_neg more] at lapsed
      have one : bus.decay = 1 := by
        change bus.decay - 1 = 0 at lapsed
        grind
      exact absurd (beq_iff_eq.mpr one) more

end OpenBus

namespace Ppu

/-! ### One event -/

/-- The event drives a fresh value. -/
def Event.Drives : Event → Prop
  | .read address => address &&& 7 = 4 ∨ address &&& 7 = 7
  | .write _ _ => True
  | _ => False

theorem Event.ReadsStatus.not_drives {event : Event} (reads : event.ReadsStatus) :
    ¬ event.Drives := by
  cases event with
  | read address =>
    rintro (oam | data)
    · exact absurd (reads.symm.trans oam) (by decide)
    · exact absurd (reads.symm.trans data) (by decide)
  | dot | write | writeOam | poll | reset | exchange => exact reads.elim

variable (state : Ppu × Cartridge) {event : Event}

theorem perform_dot_openBus : (perform state .dot).1.openBus = state.1.openBus.tick := by
  change (state.1.step state.2).1.openBus = _
  rw [step_eq_drawn, markVblank_frame, (state.1.drawn_frame state.2).1]
  rfl

theorem incrementAddress_openBus (ppu : Ppu) (cart : Cartridge) :
    (ppu.incrementAddress cart).1.openBus = ppu.openBus := by
  unfold incrementAddress
  split <;> rfl

theorem writeVram_openBus (ppu : Ppu) (cart : Cartridge) (address : UInt16) (data : UInt8) :
    (ppu.writeVram cart address data).1.openBus = ppu.openBus := by
  simp only [writeVram]
  repeat' split
  all_goals rfl

/-- A data read drives what it answers. -/
theorem readData_openBus (ppu : Ppu) (cart : Cartridge) :
    (ppu.readData cart).2.1.openBus = ppu.openBus.drive (ppu.readData cart).1 := by
  simp only [readData]
  split <;> rfl

theorem perform_drives (drives : event.Drives) :
    ∃ value, (perform state event).1.openBus = state.1.openBus.drive value := by
  cases event with
  | read address =>
    simp only [perform, readRegister]
    obtain oam | data := drives
    · rw [oam]
      exact ⟨_, rfl⟩
    · rw [data]
      exact ⟨_, state.1.readData_openBus state.2⟩
  | write address data =>
    refine ⟨data, ?_⟩
    simp only [perform, writeRegister]
    split
    case h_8 =>
      simp only [writeData]
      rw [incrementAddress_openBus, writeVram_openBus]
      rfl
    all_goals rfl
  | dot | writeOam | poll | reset | exchange => exact drives.elim

theorem perform_reads (reads : event.ReadsStatus) :
    (perform state event).1.openBus =
      { state.1.openBus with value := state.1.readStatus.1 } := by
  cases event with
  | read address =>
    have raced : state.1.raceStatus.openBus = state.1.openBus := by
      unfold raceStatus
      repeat' split
      all_goals rfl
    have register : address &&& 7 = 2 := reads
    simp only [perform, readRegister, register]
    exact congrArg (fun bus : OpenBus => { bus with value := state.1.readStatus.1 }) raced
  | dot | write | writeOam | poll | reset | exchange => exact reads.elim

/-- The registers that cannot be read leave the value as it is, as does all that is no access. -/
theorem perform_still (still : event.isDot = false) (other : ¬ event.ReadsStatus)
    (undriven : ¬ event.Drives) : (perform state event).1.openBus = state.1.openBus := by
  cases event with
  | read address =>
    obtain ⟨oam, data⟩ := not_or.mp undriven
    simp only [perform, readRegister]
    split
    case h_1 status => exact absurd (UInt16.toNat_inj.mp status) other
    case h_2 object => exact absurd (UInt16.toNat_inj.mp object) oam
    case h_3 contents => exact absurd (UInt16.toNat_inj.mp contents) data
    case h_4 => rfl
  | poll =>
    simp only [perform, pollNmi]
    split <;> rfl
  | dot => cases still
  | write => exact absurd trivial undriven
  | writeOam | reset | exchange => rfl

/-! ### Histories -/

/-- Nothing has been driven for a number of dots. -/
def Undriven (count : Nat) (events : List Event) : Prop :=
  ∀ early event late, events = early ++ event :: late → event.Drives → count ≤ dots late

/-- The status has been read when nothing was left of the last value driven, the answer was not
zero, and nothing has been driven and no status read since. -/
def StatusLingers (cart : Cartridge) (events : List Event) : Prop :=
  ∃ early event late, events = early ++ event :: late ∧ event.ReadsStatus ∧
    Undriven (341 * 262) early ∧ (after cart early).readStatus.1 ≠ 0 ∧
    ∀ other ∈ late, ¬ other.Drives ∧ ¬ other.ReadsStatus

variable {cart : Cartridge} {events : List Event}

theorem undriven_nil (count : Nat) : Undriven count [] := by
  intro early event late parts
  simp at parts

theorem undriven_snoc {count : Nat} :
    Undriven count (events ++ [event]) ↔
      (event.Drives → count = 0) ∧ Undriven (count - dots [event]) events := by
  constructor
  · intro quiet
    refine ⟨fun drives => Nat.le_zero.mp (quiet events event [] rfl drives), ?_⟩
    rintro early other late rfl drives
    have since := quiet early other (late ++ [event]) (by simp) drives
    rw [dots_append] at since
    exact Nat.sub_le_of_le_add since
  · rintro ⟨last, quiet⟩ early other late parts drives
    rcases snoc_eq_iff.mp parts with ⟨rfl, rfl, rfl⟩ | ⟨late, rfl, rfl⟩
    · exact Nat.le_of_eq (last drives)
    · rw [dots_append]
      exact Nat.le_add_of_sub_le (quiet early other late rfl drives)

theorem statusLingers_snoc :
    StatusLingers cart (events ++ [event]) ↔
      (event.ReadsStatus ∧ Undriven (341 * 262) events ∧ (after cart events).readStatus.1 ≠ 0) ∨
        (StatusLingers cart events ∧ ¬ event.Drives ∧ ¬ event.ReadsStatus) := by
  constructor
  · rintro ⟨early, read, late, parts, reads, expired, answer, silent⟩
    rcases snoc_eq_iff.mp parts with ⟨rfl, rfl, rfl⟩ | ⟨late, rfl, rfl⟩
    · exact .inl ⟨reads, expired, answer⟩
    · rw [List.forall_mem_append] at silent
      exact .inr ⟨⟨early, read, late, rfl, reads, expired, answer, silent.1⟩,
        silent.2 event (List.mem_singleton_self event)⟩
  · rintro (⟨reads, expired, answer⟩ |
      ⟨⟨early, read, late, rfl, reads, expired, answer, silent⟩, undriven, unread⟩)
    · exact ⟨events, event, [], rfl, reads, expired, answer, by simp⟩
    · refine ⟨early, read, late ++ [event], by simp, reads, expired, answer, ?_⟩
      exact List.forall_mem_append.mpr ⟨silent, by simpa using ⟨undriven, unread⟩⟩

theorem StatusLingers.undriven (lingers : StatusLingers cart events) :
    Undriven (341 * 262) events := by
  induction events using List.reverseRecOn with
  | nil =>
    obtain ⟨early, event, late, parts, -⟩ := lingers
    simp at parts
  | append_singleton events event ih =>
    have fewer {count : Nat} (quiet : Undriven (341 * 262) events) :
        Undriven (341 * 262 - count) events := fun early other late parts drives =>
      Nat.le_trans (Nat.sub_le _ _) (quiet early other late parts drives)
    obtain ⟨reads, expired, -⟩ | ⟨before, silent, -⟩ := statusLingers_snoc.mp lingers
    · exact undriven_snoc.mpr ⟨fun drives => absurd drives reads.not_drives, fewer expired⟩
    · exact undriven_snoc.mpr ⟨fun drives => absurd drives silent, fewer (ih before)⟩

/-- What is left of the time of the last value driven. -/
theorem after_decay_le (cart : Cartridge) (events : List Event) (rest : Nat) :
    (after cart events).openBus.decay.toNat ≤ rest ↔ Undriven (341 * 262 - rest) events := by
  induction events using List.reverseRecOn generalizing rest with
  | nil => exact iff_of_true (Nat.zero_le _) (undriven_nil _)
  | append_singleton events event ih =>
    rw [after_snoc, undriven_snoc]
    by_cases drives : event.Drives
    · obtain ⟨value, driven⟩ :=
        perform_drives (after cart events, (follow ({}, cart) events).2) drives
      rw [driven]
      change 341 * 262 ≤ rest ↔ _
      constructor
      · intro whole
        refine ⟨fun _ => Nat.sub_eq_zero_of_le whole, ?_⟩
        rw [Nat.sub_eq_zero_of_le whole, Nat.zero_sub]
        exact fun _ _ _ _ _ => Nat.zero_le _
      · rintro ⟨whole, -⟩
        exact Nat.le_of_sub_eq_zero (whole drives)
    · cases moves : event.isDot with
      | true =>
        obtain rfl := Event.eq_dot moves
        rw [perform_dot_openBus, OpenBus.tick_decay, Nat.sub_le_iff_le_add, ih, Nat.sub_add_eq]
        exact (and_iff_right fun drives => drives.elim).symm
      | false =>
        have kept :
            (perform (after cart events, (follow ({}, cart) events).2) event).1.openBus.decay =
              (after cart events).openBus.decay := by
          by_cases reads : event.ReadsStatus
          · rw [perform_reads _ reads]
          · rw [perform_still _ moves reads drives]
        rw [kept, ih, dots_cons moves, dots_nil, Nat.sub_zero]
        exact (and_iff_right fun driven => absurd driven drives).symm

theorem expired_iff (cart : Cartridge) (events : List Event) :
    (after cart events).openBus.decay = 0 ↔ Undriven (341 * 262) events := by
  rw [← UInt32.toNat_inj, UInt32.toNat_zero, ← Nat.le_zero, after_decay_le, Nat.sub_zero]

/-- Where no value has time left, what is there is what a status read has left. -/
theorem value_of_expired (expired : (after cart events).openBus.decay = 0) :
    (after cart events).openBus.value ≠ 0 ↔ StatusLingers cart events := by
  induction events using List.reverseRecOn with
  | nil =>
    refine iff_of_false (fun driven => driven rfl) fun ⟨early, event, late, parts, _⟩ => ?_
    simp at parts
  | append_singleton events event ih =>
    rw [statusLingers_snoc]
    have before := expired_iff cart events
    rw [after_snoc] at expired ⊢
    by_cases drives : event.Drives
    · obtain ⟨value, driven⟩ :=
        perform_drives (after cart events, (follow ({}, cart) events).2) drives
      rw [driven] at expired
      have lapsed : OpenBus.lifetime = 0 := expired
      exact absurd lapsed (by decide)
    · by_cases reads : event.ReadsStatus
      · rw [perform_reads _ reads] at expired ⊢
        have undriven := before.mp expired
        simp only [reads, undriven, true_and, not_true_eq_false, and_false, or_false]
      · cases moves : event.isDot with
        | true =>
          obtain rfl := Event.eq_dot moves
          rw [perform_dot_openBus] at expired ⊢
          rw [OpenBus.tick_value _ expired]
          simp only [reads, drives, false_and, false_or, not_false_eq_true, and_true]
          split
          · rename_i gone
            exact ih gone
          · rename_i rest
            exact iff_of_false (fun shows => shows rfl) fun lingers =>
              rest (before.mpr lingers.undriven)
        | false =>
          rw [perform_still _ moves reads drives] at expired ⊢
          simp only [reads, drives, false_and, false_or, not_false_eq_true, and_true]
          exact ih expired

/-- Dots alone do not take the status away. -/
theorem statusLingers_dots (cart : Cartridge) (events : List Event) :
    ∀ count, StatusLingers cart (events ++ List.replicate count .dot) ↔ StatusLingers cart events
  | 0 => by rw [List.replicate_zero, List.append_nil]
  | count + 1 => by
    rw [List.replicate_succ', ← List.append_assoc, statusLingers_snoc,
      statusLingers_dots cart events count]
    exact ⟨fun split => split.elim (fun read => read.1.elim) And.left,
      fun lingers => .inr ⟨lingers, id, id⟩⟩

/-- A frame of dots is enough for every value that has been driven. -/
theorem undriven_dots (events : List Event) {count rest : Nat} (long : rest ≤ count) :
    Undriven rest (events ++ List.replicate count .dot) := by
  induction count generalizing rest with
  | zero =>
    rw [Nat.le_zero.mp long]
    exact fun _ _ _ _ _ => Nat.zero_le _
  | succ count ih =>
    rw [List.replicate_succ', ← List.append_assoc, undriven_snoc]
    exact ⟨fun drives => drives.elim, ih (Nat.sub_le_of_le_add long)⟩

theorem value_after_dots (cart : Cartridge) (events : List Event) {count : Nat}
    (long : 341 * 262 ≤ count) :
    (after cart (events ++ List.replicate count .dot)).openBus.value = 0 ↔
      ¬ StatusLingers cart events := by
  have expired := (expired_iff cart _).mpr (undriven_dots events long)
  rw [← statusLingers_dots cart events count, ← value_of_expired expired, not_not]

theorem readRegister_unreadable (ppu : Ppu) (cart : Cartridge) {address : UInt16}
    (unreadable : address &&& 7 ∈ [(0 : UInt16), 1, 3, 5, 6]) :
    (ppu.readRegister cart address).1 = ppu.openBus.value := by
  simp only [List.mem_cons, List.not_mem_nil, or_false] at unreadable
  rcases unreadable with register | register | register | register | register <;>
    simp only [readRegister, register] <;> rfl

/-- After a frame of dots without access nothing lingers on the data lines, and the registers that
cannot be read answer zero, unless a status read has found the time of the last value over: what it
answered then stays. -/
theorem lingering_ends (cart : Cartridge) (events : List Event) {count : Nat}
    (long : 341 * 262 ≤ count) :
    ((after cart (events ++ List.replicate count .dot)).openBus.value = 0 ↔
        ¬ StatusLingers cart events) ∧
      ∀ address other, address &&& 7 ∈ [(0 : UInt16), 1, 3, 5, 6] →
        ((after cart (events ++ List.replicate count .dot)).readRegister other address).1 =
          (after cart (events ++ List.replicate count .dot)).openBus.value := by
  exact ⟨value_after_dots cart events long, fun _ other unreadable =>
    readRegister_unreadable _ other unreadable⟩

/-- What is written to a register is gone a frame later. -/
theorem lingering_ends_written :
    (after .idle ([.write 0x2003 0xFF] ++ List.replicate 89342 .dot)).openBus.value = 0 := by
  refine (lingering_ends .idle [.write 0x2003 0xFF] (by decide)).1.mpr ?_
  rintro ⟨early, event, late, parts, reads, -⟩
  have member : event ∈ [Event.write 0x2003 0xFF] := by
    rw [parts]
    exact List.mem_append_right _ List.mem_cons_self
  rw [List.mem_singleton] at member
  rw [member] at reads
  exact reads

/-- Without drawing, the dots of the first frame since power-on are counted by the place. -/
theorem powerOn_place : ∀ count < Raster.dotsPerFrame,
    (afterDots ({}, .idle) count).1.raster.valid = true ∧
      (afterDots ({}, .idle) count).1.raster.place = count
  | 0, _ => ⟨rfl, rfl⟩
  | count + 1, more => by
    obtain ⟨valid, here⟩ := powerOn_place count (Nat.lt_of_succ_lt more)
    have dots := Dots.afterDots ({}, .idle) count
    have blank : (afterDots ({}, .idle) count).1.rendering = false := dots.rendering
    have whole : (afterDots ({}, .idle) count).1.raster.skipsDot false = false := Bool.and_false _
    obtain ⟨moved, -⟩ := Raster.advance_place valid false
    rw [whole, if_neg Bool.false_ne_true, here, Nat.mod_eq_of_lt more] at moved
    change ((afterDots ({}, .idle) count).1.step _).1.raster.valid = true ∧
      ((afterDots ({}, .idle) count).1.step _).1.raster.place = count + 1
    rw [step_raster, blank]
    exact ⟨Raster.valid_advance valid false, moved⟩

/-- The dot that begins the vertical blank sets its flag, unless the status has just been read. -/
theorem status_of_startsVblank (starts : (after cart events).raster.startsVblank = true)
    (unread : ¬ StatusRead events) : (after cart (events ++ [.dot])).status ≠ 0 := by
  have kept : (after cart events).suppressVblank = false := by
    rw [← Bool.not_eq_true, after_suppress]
    exact fun marked => unread marked.2
  rw [after_snoc]
  generalize after cart events = ppu at starts kept
  generalize (follow ({}, cart) events).2 = here
  have frame := (ppu.drawn_frame here).1
  have place : (ppu.drawn here).1.raster = ppu.raster := by rw [frame]
  have mark : (ppu.drawn here).1.suppressVblank = ppu.suppressVblank := by rw [frame]
  have marked : (perform (ppu, here) .dot).1.status = (ppu.drawn here).1.status ||| vblankFlag := by
    change (ppu.drawn here).1.markVblank.status = _
    rw [markVblank, place, if_pos starts, startVblank, mark, kept]
    rfl
  rw [marked]
  exact fun zero => absurd (UInt8.or_eq_zero_iff.mp zero).2 (by decide)

theorem readStatus_ne_zero {ppu : Ppu} (flagged : ppu.status ≠ 0) : ppu.readStatus.1 ≠ 0 := by
  have same : ppu.raceStatus.status = ppu.status := by
    unfold raceStatus
    repeat' split
    all_goals rfl
  intro zero
  change ppu.raceStatus.status ||| (ppu.raceStatus.openBus.value &&& 0x1F) = 0 at zero
  rw [same] at zero
  exact flagged (UInt8.or_eq_zero_iff.mp zero).1

/-- Nothing is ever written, and the first vertical blank begins. -/
def untilFlag : List Event := List.replicate 82182 .dot ++ [.dot]

theorem dot_of_mem_untilFlag {event : Event} (member : event ∈ untilFlag) : event = .dot := by
  rw [untilFlag, List.mem_append, List.mem_singleton] at member
  exact member.elim List.eq_of_mem_replicate id

theorem untilFlag_status : (after .idle untilFlag).status ≠ 0 := by
  have powered : after .idle (List.replicate 82182 .dot) = (afterDots ({}, .idle) 82182).1 := by
    rw [after, follow_dots]
  obtain ⟨valid, here⟩ := powerOn_place 82182 (by decide)
  rw [← powered] at valid here
  refine status_of_startsVblank ((Raster.startsVblank_iff valid).mpr here) ?_
  rintro ⟨early, event, late, parts, reads, -⟩
  have member : event ∈ List.replicate 82182 Event.dot := by
    rw [parts]
    exact List.mem_append_right _ List.mem_cons_self
  rw [List.eq_of_mem_replicate member] at reads
  exact reads

/-- The status that is read then is still there a frame later. -/
theorem untilFlag_read_lingers :
    (after .idle (untilFlag ++ [.read 0x2002] ++ List.replicate (341 * 262) .dot)).openBus.value ≠
        0 ∧
      ((after .idle (untilFlag ++ [.read 0x2002] ++ List.replicate (341 * 262) .dot)).readRegister
        .idle 0x2000).1 ≠ 0 := by
  have undriven : Undriven (341 * 262) untilFlag := by
    rintro early event late parts drives
    have member : event ∈ untilFlag := by
      rw [parts]
      exact List.mem_append_right _ List.mem_cons_self
    rw [dot_of_mem_untilFlag member] at drives
    exact drives.elim
  have lingers : StatusLingers .idle (untilFlag ++ [.read 0x2002]) :=
    ⟨untilFlag, _, [], rfl, rfl, undriven, readStatus_ne_zero untilFlag_status, by simp⟩
  have stays := mt (value_after_dots .idle _ (Nat.le_refl _)).mp (not_not.mpr lingers)
  rw [readRegister_unreadable _ _ (by decide)]
  exact ⟨stays, stays⟩

end Ppu

end Nes
