import Nes.Proofs.Video.Events

/-!
How long a frame takes, whatever is done to the registers while it lasts. Each dot moves the unit on
in raster order, and between two arrivals at the first place lies a whole frame of dots; only the
last dot of an odd frame is left out, if the picture is drawn just then. Both ends of a frame change
its parity, and one vertical blank begins in between.
-/

namespace Nes

namespace Raster

/-- Along the line, from its end to the next line, and from the last line to the first. -/
def rasterNext (position : Nat × Nat) : Nat × Nat :=
  if position.2 < 340 then (position.1, position.2 + 1) else ((position.1 + 1) % 262, 0)

variable {raster : Raster}

theorem position_eq_iff (valid : raster.valid) {scanline dot : Nat} (inside : dot < 341) :
    raster.position = (scanline, dot) ↔ raster.place = scanline * 341 + dot := by
  rw [place_eq_iff valid inside, position, Prod.mk.injEq]

theorem position_zero_iff : raster.position = (0, 0) ↔ raster.place = 0 := by
  simp only [position, Prod.mk.injEq, place]
  omega

theorem skipsDot_iff_position (valid : raster.valid) (rendering : Bool) :
    raster.skipsDot rendering = true ↔
      raster.position = (261, 339) ∧ raster.oddFrame = true ∧ rendering = true := by
  have before : raster.place + 1 = lastDot ↔ raster.place = 261 * 341 + 339 := by
    unfold lastDot
    omega
  rw [skipsDot_iff valid, position_eq_iff valid (by decide), before]

/-- A dot leads on in raster order, unless the last one of the frame is left out. -/
theorem advance_position (valid : raster.valid) (rendering : Bool) :
    (raster.advance rendering).position =
      if raster.position = (261, 339) ∧ raster.oddFrame = true ∧ rendering = true then (0, 0)
      else rasterNext raster.position := by
  have moved := (advance_place valid rendering).1
  have next := valid_advance valid rendering
  obtain ⟨scanline, dot⟩ := toNat_lt valid
  simp only [← skipsDot_iff_position valid]
  split
  · rename_i skips
    rw [if_pos skips] at moved
    exact position_zero_iff.mpr moved
  · rename_i stays
    rw [if_neg stays] at moved
    unfold rasterNext
    split <;> rename_i along <;> dsimp only [position] at along ⊢ <;>
      refine (position_eq_iff next (by omega)).mpr ?_ <;>
      unfold place dotsPerFrame at * <;> omega

theorem passDot_place (raster : Raster) (rendering : Bool) :
    (raster.passDot rendering).place = (raster.advance rendering).place := rfl

/-- The parity changes at the first place of a frame, and nowhere else. -/
theorem advance_parity (valid : raster.valid) (rendering : Bool) :
    (raster.advance rendering).oddFrame =
      if (raster.advance rendering).place = 0 then !raster.oddFrame else raster.oddFrame := by
  obtain ⟨scanline, dot⟩ := toNat_lt valid
  have nextDot : raster.dot + 1 ≠ dotsPerScanline → (raster.dot + 1).toNat ≠ 0 := by
    intro inside
    rw [UInt16.toNat_add]
    change (raster.dot.toNat + 1) % 2 ^ 16 ≠ 0
    omega
  have nextLine : (raster.scanline + 1).toNat ≠ 0 := by
    rw [UInt16.toNat_add]
    change (raster.scanline.toNat + 1) % 2 ^ 16 ≠ 0
    omega
  cases skips : raster.skipsDot rendering with
  | true =>
    have odd := ((skipsDot_iff valid rendering).mp skips).2.1
    simp [advance, skips, place, odd]
  | false =>
    simp only [advance, skips, Bool.false_eq_true, if_false, bne_iff_ne, ne_eq]
    split
    · rename_i inside
      have moved := nextDot inside
      rw [if_neg]
      unfold place
      dsimp only
      omega
    · split
      · rw [if_neg]
        unfold place
        dsimp only
        omega
      · rw [if_pos]
        simp only [place, UInt16.toNat_zero, Nat.zero_mul]

/-- Within a frame each dot moves the place on by one and keeps the parity. -/
theorem passDot_within (valid : raster.valid) (rendering : Bool)
    (away : (raster.passDot rendering).place ≠ 0) :
    (raster.passDot rendering).place = raster.place + 1 ∧
      (raster.passDot rendering).oddFrame = raster.oddFrame := by
  have bound := place_lt valid
  have moved := (advance_place valid rendering).1
  have parity := advance_parity valid rendering
  rw [passDot_place] at away ⊢
  rw [if_neg away] at parity
  refine ⟨?_, parity⟩
  split at moved
  · exact absurd moved away
  · unfold dotsPerFrame at *
    omega

end Raster

namespace Ppu

/-! ### Frames -/

/-- The last of the events is a dot that leads to the first place of a frame. -/
def Arrives (start : Ppu × Cartridge) (events : List Event) : Prop :=
  (∃ before, events = before ++ [.dot]) ∧ (follow start events).1.raster.position = (0, 0)

/-- The last of the events, and none before it, leads to the first place of a frame. -/
structure FirstArrival (start : Ppu × Cartridge) (events : List Event) : Prop where
  ends : Arrives start events
  first : ∀ early late, events = early ++ late → late ≠ [] → ¬ Arrives start early

/-- The events lead from the first place of a frame to the next arrival there. -/
structure Frame (start : Ppu × Cartridge) (events : List Event) : Prop
    extends FirstArrival start events where
  begins : start.1.raster.position = (0, 0)

/-- What a frame does to the count of dots, the parity, and the count of vertical blanks. -/
structure Frame.Timed (start : Ppu × Cartridge) (events : List Event) : Prop where
  /-- One dot is processed at (261, 339), and there it is decided how many dots the frame has. -/
  length : ∃ early late, events = early ++ .dot :: late ∧
    (follow start early).1.raster.position = (261, 339) ∧
    (∀ other rest, events = other ++ .dot :: rest →
      (follow start other).1.raster.position = (261, 339) → other = early) ∧
    if (follow start early).1.raster.oddFrame = true ∧ (follow start early).1.rendering = true
    then dots events + 1 = 341 * 262 else dots events = 341 * 262
  kept : ∀ early late, events = early ++ late → late ≠ [] →
    (follow start early).1.raster.oddFrame = start.1.raster.oddFrame
  flipped : (follow start events).1.raster.oddFrame = !start.1.raster.oddFrame
  blanks : (follow start events).1.raster.frameCount = start.1.raster.frameCount + 1

/-- Within the events the unit does not come to the first place of a frame. -/
def Underway (start : Ppu × Cartridge) (events : List Event) : Prop :=
  ∀ early late, events = early ++ late → ¬ Arrives start early

variable {start : Ppu × Cartridge} {events : List Event}

theorem Underway.init {event : Event} (underway : Underway start (events ++ [event])) :
    Underway start events := by
  rintro early late rfl
  exact underway early (late ++ [event]) (List.append_assoc _ _ _)

theorem Underway.away (underway : Underway start (events ++ [.dot])) :
    (perform (follow start events) .dot).1.raster.place ≠ 0 := by
  intro home
  rw [← follow_snoc] at home
  exact underway _ [] (List.append_nil _).symm ⟨⟨events, rfl⟩, Raster.position_zero_iff.mpr home⟩

theorem Frame.underway (frame : Frame start events) {early late : List Event}
    (parts : events = early ++ late) (more : late ≠ []) : Underway start early := by
  rintro before after rfl
  rw [List.append_assoc] at parts
  exact frame.first before (after ++ late) parts (by simp [more])

/-- Until the unit comes to the first place again, its place counts the dots; the parity stays, and
the vertical blank has begun once its place is passed. -/
theorem Underway.counts (underway : Underway start events) (valid : start.1.raster.valid) :
    (follow start events).1.raster.place = start.1.raster.place + dots events ∧
      (follow start events).1.raster.oddFrame = start.1.raster.oddFrame ∧
      (follow start events).1.raster.frameCount =
        if start.1.raster.place ≤ Raster.vblankPlace ∧
            Raster.vblankPlace < start.1.raster.place + dots events then
          start.1.raster.frameCount + 1
        else start.1.raster.frameCount := by
  induction events using List.reverseRecOn with
  | nil =>
    have apart : ¬ (start.1.raster.place ≤ Raster.vblankPlace ∧
        Raster.vblankPlace < start.1.raster.place) := by omega
    rw [follow_nil, dots_nil, Nat.add_zero, if_neg apart]
    exact ⟨rfl, rfl, rfl⟩
  | append_singleton events event ih =>
    obtain ⟨place, parity, blanks⟩ := ih underway.init
    have inside := follow_valid valid events
    cases moves : event.isDot with
    | false =>
      rw [follow_snoc, perform_raster _ moves, dots_snoc _ moves]
      exact ⟨place, parity, blanks⟩
    | true =>
      obtain rfl := Event.eq_dot moves
      have away := underway.away
      have starts := Raster.startsVblank_iff inside
      rw [follow_snoc, dots_snoc_dot]
      rw [perform_dot_raster] at away ⊢
      obtain ⟨moved, kept⟩ := Raster.passDot_within inside _ away
      rw [moved, kept, place, parity]
      refine ⟨Nat.add_assoc _ _ _, rfl, ?_⟩
      simp only [Raster.passDot, starts, blanks, place]
      repeat' split
      all_goals first
        | rfl
        | omega

/-! ### Dots of a run -/

theorem exists_dot {count : Nat} (more : count < dots events) :
    ∃ early late, events = early ++ .dot :: late ∧ dots early = count := by
  induction events generalizing count with
  | nil => exact absurd more (Nat.not_lt_zero _)
  | cons event events ih =>
    cases moves : event.isDot with
    | false =>
      rw [dots_cons moves] at more
      obtain ⟨early, late, rfl, number⟩ := ih more
      exact ⟨event :: early, late, rfl, (dots_cons moves early).trans number⟩
    | true =>
      obtain rfl := Event.eq_dot moves
      rw [dots_dot_cons] at more
      cases count with
      | zero => exact ⟨[], events, rfl, rfl⟩
      | succ count =>
        obtain ⟨early, late, rfl, number⟩ := ih (Nat.lt_of_succ_lt_succ more)
        exact ⟨.dot :: early, late, rfl, (dots_dot_cons early).trans (congrArg (· + 1) number)⟩

/-- A dot of a run is determined by how many come before it. -/
theorem dot_unique {early late other rest : List Event}
    (parts : early ++ .dot :: late = other ++ .dot :: rest) (same : dots early = dots other) :
    early = other := by
  rcases List.append_eq_append_iff.mp parts with ⟨between, rfl, tail⟩ | ⟨between, rfl, tail⟩
  all_goals
    cases between with
    | nil => rw [List.append_nil]
    | cons event between =>
      obtain ⟨rfl, -⟩ := List.cons.inj tail
      rw [dots_append, dots_dot_cons] at same
      omega

/-- A run that arrives somewhere within has a first arrival. -/
theorem exists_first {early : List Event} (arrives : Arrives start early) :
    ∃ before after, early = before ++ after ∧ FirstArrival start before := by
  induction counted : early.length using Nat.strongRecOn generalizing early with
  | ind number ih =>
    by_cases before : ∃ head tail, early = head ++ tail ∧ tail ≠ [] ∧ Arrives start head
    · obtain ⟨head, tail, rfl, more, sooner⟩ := before
      have shorter : head.length < number := by
        rw [← counted, List.length_append]
        have some := List.length_pos_iff.mpr more
        omega
      obtain ⟨first, rest, rfl, least⟩ := ih _ shorter sooner rfl
      exact ⟨first, rest ++ tail, List.append_assoc _ _ _, least⟩
    · refine ⟨early, [], (List.append_nil _).symm, arrives, ?_⟩
      intro head tail parts more sooner
      exact before ⟨head, tail, parts, more, sooner⟩

/-- Any run of as many dots as a frame has comes to the first place. -/
theorem exists_arrival (valid : start.1.raster.valid) (long : 341 * 262 ≤ dots events) :
    ∃ early late, events = early ++ late ∧ FirstArrival start early := by
  have some : ∃ early late, events = early ++ late ∧ Arrives start early := by
    by_contra none
    have underway : Underway start events := fun early late parts arrives =>
      none ⟨early, late, parts, arrives⟩
    have place := (underway.counts valid).1
    have bound := Raster.place_lt (follow_valid valid events)
    unfold Raster.dotsPerFrame at bound
    omega
  obtain ⟨early, late, rfl, arrives⟩ := some
  obtain ⟨first, rest, rfl, least⟩ := exists_first arrives
  exact ⟨first, rest ++ late, List.append_assoc _ _ _, least⟩

/-! ### A frame's end -/

/-- A frame ends with the dot that leads back, which is the last one or, of an odd frame that is
drawn, the one before. -/
theorem Frame.last (frame : Frame start events) (valid : start.1.raster.valid) :
    ∃ inner, events = inner ++ [.dot] ∧ Underway start inner ∧
      if (follow start inner).1.raster.skipsDot (follow start inner).1.rendering then
        dots inner = 89340
      else dots inner = 89341 := by
  obtain ⟨⟨inner, rfl⟩, home⟩ := frame.ends
  have underway := frame.underway rfl (List.cons_ne_nil _ _)
  refine ⟨inner, rfl, underway, ?_⟩
  have inside := follow_valid valid inner
  have place := (underway.counts valid).1
  have first := Raster.position_zero_iff.mp frame.begins
  have bound := Raster.place_lt inside
  have skips := Raster.skipsDot_iff inside (follow start inner).1.rendering
  have moved := (Raster.advance_place inside (follow start inner).1.rendering).1
  rw [follow_snoc, perform_dot_raster] at home
  have back : ((follow start inner).1.raster.advance (follow start inner).1.rendering).place = 0 :=
    Raster.position_zero_iff.mp home
  unfold Raster.lastDot at skips
  unfold Raster.dotsPerFrame at *
  split
  · rename_i skip
    have last := (skips.mp skip).1
    omega
  · rename_i stays
    rw [if_neg stays] at moved
    omega

/-- Within a frame the place of a dot is the number of dots before it. -/
theorem Frame.dots_eq (frame : Frame start events) (valid : start.1.raster.valid)
    {early late : List Event} (parts : events = early ++ late) (more : late ≠ []) :
    (follow start early).1.raster.place = dots early := by
  have place := ((frame.underway parts more).counts valid).1
  rw [Raster.position_zero_iff.mp frame.begins, Nat.zero_add] at place
  exact place

theorem Frame.position_iff (frame : Frame start events) (valid : start.1.raster.valid)
    {early late : List Event} (parts : events = early ++ late) (more : late ≠ []) :
    (follow start early).1.raster.position = (261, 339) ↔ dots early = 89340 := by
  rw [Raster.position_eq_iff (follow_valid valid early) (by decide),
    frame.dots_eq valid parts more]

/-- What is decided at (261, 339): the dot processed there is the last one if the frame is odd and
the picture is drawn, and one more follows otherwise. -/
theorem Frame.length (frame : Frame start events) (valid : start.1.raster.valid)
    {early late : List Event} (parts : events = early ++ .dot :: late)
    (here : (follow start early).1.raster.position = (261, 339)) :
    if (follow start early).1.raster.oddFrame = true ∧ (follow start early).1.rendering = true
    then dots events + 1 = 341 * 262 else dots events = 341 * 262 := by
  have before := (frame.position_iff valid parts (List.cons_ne_nil _ _)).mp here
  have inside := follow_valid valid early
  have place := frame.dots_eq valid parts (List.cons_ne_nil _ _)
  have skips := Raster.skipsDot_iff_position inside (follow start early).1.rendering
  have moved := (Raster.advance_place inside (follow start early).1.rendering).1
  have next : (follow start (early ++ [.dot])).1.raster.place =
      ((follow start early).1.raster.advance (follow start early).1.rendering).place := by
    rw [follow_snoc, perform_dot_raster, Raster.passDot_place]
  rw [here, eq_self, true_and] at skips
  rw [← next] at moved
  have total := congrArg dots parts
  rw [dots_append, dots_dot_cons, before] at total
  rcases List.eq_nil_or_concat late with rfl | ⟨more, last, rfl⟩
  · -- The frame ends here, so the next dot is left out.
    have home := Raster.position_zero_iff.mp (parts ▸ frame.ends.2)
    split at moved
    · rename_i skip
      rw [if_pos (skips.mp skip), total]
      rfl
    · unfold Raster.dotsPerFrame at moved
      omega
  · -- The frame goes on, so it has all its dots.
    have away : (follow start (early ++ [.dot])).1.raster.place ≠ 0 := by
      rw [follow_snoc]
      exact (frame.underway (parts.trans (List.append_cons early _ _)) (by simp)).away
    have stays : ¬ (follow start early).1.raster.skipsDot (follow start early).1.rendering = true :=
      fun skip => away (by rw [moved, if_pos skip])
    rw [if_neg fun odd => stays (skips.mpr odd)]
    obtain ⟨inner, same, -, number⟩ := frame.last valid
    have inner : inner = early ++ .dot :: more := by
      rw [parts, List.concat_eq_append, ← List.cons_append, ← List.append_assoc] at same
      exact (List.append_inj' same rfl).1.symm
    rw [inner, dots_append, dots_dot_cons, before] at number
    rw [same, dots_snoc_dot, inner, dots_append, dots_dot_cons, before]
    split at number <;> omega

/-- Whatever is done between its dots, a frame has 341 × 262 of them, or one fewer exactly if it is
odd and the picture is drawn at (261, 339); it changes the parity once and counts one blank. -/
theorem Frame.timed (frame : Frame start events) (valid : start.1.raster.valid) :
    Frame.Timed start events := by
  obtain ⟨inner, rfl, underway, total⟩ := frame.last valid
  have many : 89340 ≤ dots inner := by split at total <;> omega
  obtain ⟨place, parity, blanks⟩ := underway.counts valid
  have inside := follow_valid valid inner
  rw [Raster.position_zero_iff.mp frame.begins] at place blanks
  refine ⟨?_, ?_, ?_, ?_⟩
  · have more : 89340 < dots (inner ++ [.dot]) := by
      rw [dots_snoc_dot]
      omega
    obtain ⟨early, late, parts, before⟩ := exists_dot more
    have here := (frame.position_iff valid parts (List.cons_ne_nil _ _)).mpr before
    refine ⟨early, late, parts, here, ?_, frame.length valid parts here⟩
    intro other rest same there
    have number := (frame.position_iff valid same (List.cons_ne_nil _ _)).mp there
    exact dot_unique (same.symm.trans parts) (number.trans before.symm)
  · intro early late parts more
    exact ((frame.underway parts more).counts valid).2.1
  · have kept := Raster.advance_parity inside (follow start inner).1.rendering
    have home := Raster.position_zero_iff.mp frame.ends.2
    rw [follow_snoc, perform_dot_raster] at home ⊢
    rw [Raster.passDot_place] at home
    rw [if_pos home, parity] at kept
    exact kept
  · have starts := Raster.startsVblank_iff inside
    rw [follow_snoc, perform_dot_raster]
    unfold Raster.vblankPlace at *
    have quiet : ¬ (follow start inner).1.raster.startsVblank = true := by
      rw [starts]
      omega
    simp only [Raster.passDot, if_neg quiet, blanks, if_pos (by omega : 0 ≤ 241 * 341 + 1 ∧
      241 * 341 + 1 < 0 + dots inner)]

/-- The frames of a run of dots with any accesses between them, from any place. Each dot leads on in
raster order; any 341 × 262 dots come to the first place; and each frame from one arrival there to
the next is timed. -/
theorem frame_timing (start : Ppu × Cartridge) (valid : start.1.raster.valid) :
    (∀ events event,
      (follow start (events ++ [event])).1.raster.valid ∧
      (follow start (events ++ [event])).1.raster.position =
        if ¬ event.isDot then (follow start events).1.raster.position
        else if (follow start events).1.raster.position = (261, 339) ∧
            (follow start events).1.raster.oddFrame = true ∧
            (follow start events).1.rendering = true then (0, 0)
        else Raster.rasterNext (follow start events).1.raster.position) ∧
    (∀ before events, 341 * 262 ≤ dots events →
      ∃ early late, events = early ++ late ∧ FirstArrival (follow start before) early) ∧
    ∀ before events, Frame (follow start before) events →
      Frame.Timed (follow start before) events := by
  refine ⟨?_, ?_, ?_⟩
  · intro events event
    refine ⟨follow_valid valid _, ?_⟩
    rw [follow_snoc]
    cases moves : event.isDot with
    | false => rw [if_pos Bool.false_ne_true, perform_raster _ moves]
    | true =>
      rw [Event.eq_dot moves, if_neg (not_not_intro rfl), perform_dot_raster]
      exact Raster.advance_position (follow_valid valid events) _
  · intro before events long
    exact exists_arrival (follow_valid valid before) long
  · intro before events frame
    exact frame.timed (follow_valid valid before)

/-- An odd frame that is drawn, in which the status is read between the dots. -/
def oddStart : Ppu × Cartridge := ({ raster := { oddFrame := true }, mask := 0x08 }, .idle)

def polledDots : List Event := (List.replicate 89342 [.dot, .read 2]).flatten

theorem frame_timing_odd :
    oddStart.1.raster.valid ∧ ∃ events late, polledDots = events ++ late ∧
      Frame oddStart events ∧ Frame.Timed oddStart events := by
  have valid : oddStart.1.raster.valid := by decide
  have timing := frame_timing oddStart valid
  have long : 341 * 262 ≤ dots polledDots := by
    have pairs : dots polledDots = (List.replicate 89342 1).sum := by
      rw [dots, polledDots, List.countP_flatten, List.map_replicate]
      rfl
    have total : dots polledDots = 89342 := by
      rw [pairs, List.sum_replicate_nat, Nat.mul_one]
    exact Nat.le_of_eq total.symm
  obtain ⟨events, late, parts, first⟩ := timing.2.1 [] polledDots long
  have frame : Frame oddStart events := ⟨first, by decide⟩
  exact ⟨valid, events, late, parts, frame, timing.2.2 [] events frame⟩

end Ppu

end Nes
