import Nes.Proofs.Audio.Bounds
import Nes.Proofs.Audio.Volume
import Nes.Proofs.Countdown

/-!
The sweep of a pulse channel between two register writes. Its divider comes round every sweep period
and one clock more, and at those clocks the period moves straight to its target, always the same way
and never past either end of the timer. A channel that has fallen silent on the way stays silent.
-/

namespace Nes.Pulse

/-- What comes to a channel between two register writes. -/
inductive Clock
  | sweep
  | timer
  deriving DecidableEq

def tick (pulse : Pulse) : Clock → Pulse
  | .sweep => pulse.clockSweep
  | .timer => pulse.clockTimer

def run (pulse : Pulse) (clocks : List Clock) : Pulse := clocks.foldl tick pulse

/-- The half frames among the clocks. -/
def halfFrames (clocks : List Clock) : Nat := clocks.count .sweep

theorem run_append (pulse : Pulse) (early late : List Clock) :
    pulse.run (early ++ late) = (pulse.run early).run late :=
  List.foldl_append

theorem run_concat (pulse : Pulse) (clocks : List Clock) (clock : Clock) :
    pulse.run (clocks ++ [clock]) = (pulse.run clocks).tick clock :=
  pulse.run_append clocks [clock]

theorem halfFrames_concat (clocks : List Clock) (clock : Clock) :
    halfFrames (clocks ++ [clock]) = halfFrames clocks + if clock = .sweep then 1 else 0 := by
  rw [halfFrames, List.count_append, List.count_singleton]
  simp only [halfFrames, beq_iff_eq]

variable {pulse before middle after : Pulse}

/-! ### The target -/

theorem muted_eq_false_iff (pulse : Pulse) :
    pulse.muted = false ↔ 8 ≤ pulse.timerPeriod.toNat ∧ pulse.targetPeriod ≤ 0x7FF := by
  rw [muted, Bool.or_eq_false_iff, decide_eq_false_iff_not, decide_eq_false_iff_not,
    UInt16.not_lt, Int.not_lt, UInt16.le_iff_toNat_le]
  rfl

/-- A shift takes at most half of the period. -/
theorem change_le (bounded : pulse.Bounded) (shifts : 0 < pulse.sweepShift) :
    pulse.timerPeriod.toNat >>> (pulse.sweepShift.toNat % 32) ≤ pulse.timerPeriod.toNat / 2 := by
  have some : 0 < pulse.sweepShift.toNat := UInt8.lt_iff_toNat_lt.mp shifts
  have three : pulse.sweepShift.toNat ≤ 7 := UInt8.le_iff_toNat_le.mp bounded.sweepShift
  have inside : pulse.sweepShift.toNat % 32 = pulse.sweepShift.toNat - 1 + 1 := by omega
  rw [inside, Nat.shiftRight_succ_inside]
  exact Nat.shiftRight_le _ _

/-- The target of a channel that is heard lies above zero, and on the side of the period that the
sweep goes to. -/
theorem targetPeriod_side (bounded : pulse.Bounded) (heard : pulse.muted = false)
    (shifts : 0 < pulse.sweepShift) :
    0 < pulse.targetPeriod ∧
      (pulse.sweepNegate = false → (pulse.timerPeriod.toNat : Int) ≤ pulse.targetPeriod) ∧
      (pulse.sweepNegate = true → pulse.targetPeriod ≤ pulse.timerPeriod.toNat) := by
  have half := change_le bounded shifts
  have long := ((muted_eq_false_iff pulse).mp heard).1
  simp only [targetPeriod]
  generalize pulse.timerPeriod.toNat >>> (pulse.sweepShift.toNat % 32) = change at half ⊢
  cases pulse.sweepNegate with
  | false =>
    rw [Bool.not_false, if_pos rfl]
    exact ⟨by omega, fun _ => by omega, fun down => absurd down Bool.false_ne_true⟩
  | true =>
    rw [Bool.not_true, if_neg Bool.false_ne_true]
    cases pulse.onesComplement
    · rw [if_neg Bool.false_ne_true]
      exact ⟨by omega, fun up => absurd up.symm Bool.false_ne_true, fun _ => by omega⟩
    · rw [if_pos rfl]
      exact ⟨by omega, fun up => absurd up.symm Bool.false_ne_true, fun _ => by omega⟩

/-! ### One clock -/

theorem sweeps_iff (pulse : Pulse) :
    pulse.sweeps = true ↔ pulse.sweepDivider = 0 ∧ pulse.sweepEnabled = true ∧
      0 < pulse.sweepShift ∧ pulse.muted = false := by
  simp only [sweeps, Bool.and_eq_true, beq_iff_eq, decide_eq_true_iff, Bool.not_eq_true',
    and_assoc]

/-- A sweep neither wraps the target nor cuts it off. -/
theorem sweptPeriod_toNat (bounded : pulse.Bounded) :
    (pulse.sweptPeriod.toNat : Int) =
      if pulse.sweeps then pulse.targetPeriod else pulse.timerPeriod.toNat := by
  unfold sweptPeriod
  split
  · rename_i sweeping
    obtain ⟨-, -, shifts, heard⟩ := (sweeps_iff pulse).mp sweeping
    obtain ⟨above, -, -⟩ := targetPeriod_side bounded heard shifts
    have below := ((muted_eq_false_iff pulse).mp heard).2
    have fits : pulse.targetPeriod.toNat < 2 ^ 16 := by omega
    rw [UInt16.toNat_ofNat_of_lt' fits, Int.toNat_of_nonneg (Int.le_of_lt above)]
  · rfl

theorem sweptPeriod_of_not_sweeps (still : ¬ pulse.sweeps = true) :
    pulse.sweptPeriod = pulse.timerPeriod :=
  if_neg still

/-- The sweep moves the period, and of itself only the divider and a request to reload it. -/
theorem clockSweep_frame (pulse : Pulse) :
    pulse.clockSweep =
      { pulse with
        timerPeriod := pulse.sweptPeriod
        sweepDivider := pulse.clockSweep.sweepDivider
        sweepReload := pulse.clockSweep.sweepReload } := by
  unfold clockSweep
  split
  · rfl
  · rename_i waiting
    have still : ¬ pulse.sweeps = true := by
      intro sweeping
      have expired := ((sweeps_iff pulse).mp sweeping).1
      exact waiting (by rw [expired, beq_self_eq_true, Bool.true_or])
    rw [sweptPeriod_of_not_sweeps still]

theorem clockSweep_settled (settled : pulse.sweepReload = false) :
    pulse.clockSweep.sweepReload = false := by
  unfold clockSweep
  split
  · rfl
  · exact settled

/-- The divider takes one away, or starts again at its period. -/
theorem clockSweep_sweepDivider (settled : pulse.sweepReload = false) :
    pulse.clockSweep.sweepDivider.toNat =
      if pulse.sweepDivider.toNat = 0 then pulse.sweepPeriod.toNat
      else pulse.sweepDivider.toNat - 1 := by
  unfold clockSweep
  rw [settled, Bool.or_false]
  by_cases expired : pulse.sweepDivider = 0
  · rw [expired, beq_self_eq_true, if_pos rfl, UInt8.toNat_zero, if_pos rfl]
  · have running : pulse.sweepDivider.toNat ≠ 0 := fun zero => expired (UInt8.toNat_inj.mp zero)
    have one : 1 ≤ pulse.sweepDivider := UInt8.le_iff_toNat_le.mpr (Nat.pos_of_ne_zero running)
    rw [if_neg (by rwa [beq_iff_eq]), if_neg running]
    exact UInt8.toNat_sub_of_le _ _ one

theorem tick_timerPeriod (pulse : Pulse) (clock : Clock) :
    (pulse.tick clock).timerPeriod =
      if clock = .sweep then pulse.sweptPeriod else pulse.timerPeriod := by
  cases clock with
  | sweep => rw [tick, clockSweep_frame, if_pos rfl]
  | timer => rw [tick, clockTimer_frame, if_neg Clock.noConfusion]

/-- What clocks keep of a channel, and which way they move its period. -/
structure Slides (before after : Pulse) : Prop where
  onesComplement : after.onesComplement = before.onesComplement
  enabled : after.sweepEnabled = before.sweepEnabled
  divides : after.sweepPeriod = before.sweepPeriod
  negate : after.sweepNegate = before.sweepNegate
  shift : after.sweepShift = before.sweepShift
  settled : before.sweepReload = false → after.sweepReload = false
  up : before.sweepNegate = false → before.timerPeriod ≤ after.timerPeriod
  down : before.sweepNegate = true → after.timerPeriod ≤ before.timerPeriod
  still : before.muted = true → after.timerPeriod = before.timerPeriod

theorem Slides.refl (pulse : Pulse) : Slides pulse pulse :=
  ⟨rfl, rfl, rfl, rfl, rfl, id, fun _ => UInt16.le_refl _, fun _ => UInt16.le_refl _, fun _ => rfl⟩

/-- A silent channel stays silent. -/
theorem Slides.muted (slides : Slides before after) (silent : before.muted = true) :
    after.muted = true := by
  rw [Pulse.muted, targetPeriod, slides.still silent, slides.negate, slides.onesComplement,
    slides.shift]
  exact silent

theorem Slides.trans (first : Slides before middle) (second : Slides middle after) :
    Slides before after where
  onesComplement := second.onesComplement.trans first.onesComplement
  enabled := second.enabled.trans first.enabled
  divides := second.divides.trans first.divides
  negate := second.negate.trans first.negate
  shift := second.shift.trans first.shift
  settled settled := second.settled (first.settled settled)
  up up := UInt16.le_trans (first.up up) (second.up (first.negate.trans up))
  down down := UInt16.le_trans (second.down (first.negate.trans down)) (first.down down)
  still silent := (second.still (first.muted silent)).trans (first.still silent)

theorem slides_clockTimer (pulse : Pulse) : Slides pulse pulse.clockTimer := by
  rw [clockTimer_frame]
  exact ⟨rfl, rfl, rfl, rfl, rfl, id, fun _ => UInt16.le_refl _, fun _ => UInt16.le_refl _,
    fun _ => rfl⟩

theorem slides_clockSweep (bounded : pulse.Bounded) : Slides pulse pulse.clockSweep := by
  have settled := @clockSweep_settled pulse
  rw [clockSweep_frame] at settled ⊢
  have swept := sweptPeriod_toNat bounded
  by_cases sweeping : pulse.sweeps = true
  · obtain ⟨-, -, shifts, heard⟩ := (sweeps_iff pulse).mp sweeping
    obtain ⟨-, up, down⟩ := targetPeriod_side bounded heard shifts
    rw [if_pos sweeping] at swept
    refine ⟨rfl, rfl, rfl, rfl, rfl, settled, fun rises => ?_, fun falls => ?_, fun silent => ?_⟩
    · have above := up rises
      rw [← swept] at above
      exact UInt16.le_iff_toNat_le.mpr (Int.ofNat_le.mp above)
    · have below := down falls
      rw [← swept] at below
      exact UInt16.le_iff_toNat_le.mpr (Int.ofNat_le.mp below)
    · exact absurd (heard.symm.trans silent) Bool.false_ne_true
  · rw [sweptPeriod_of_not_sweeps sweeping] at settled ⊢
    exact ⟨rfl, rfl, rfl, rfl, rfl, settled, fun _ => UInt16.le_refl _,
      fun _ => UInt16.le_refl _, fun _ => rfl⟩

theorem slides_tick (bounded : pulse.Bounded) : (clock : Clock) → Slides pulse (pulse.tick clock)
  | .sweep => slides_clockSweep bounded
  | .timer => slides_clockTimer pulse

theorem Bounded.tick (bounded : pulse.Bounded) : (clock : Clock) → (pulse.tick clock).Bounded
  | .sweep => bounded.clockSweep
  | .timer => bounded.clockTimer

/-! ### Runs of clocks -/

theorem Bounded.run (bounded : pulse.Bounded) (clocks : List Clock) :
    (pulse.run clocks).Bounded := by
  induction clocks using List.reverseRecOn with
  | nil => exact bounded
  | append_singleton clocks clock ih =>
    rw [run_concat]
    exact ih.tick clock

theorem slides_run (bounded : pulse.Bounded) (clocks : List Clock) :
    Slides pulse (pulse.run clocks) := by
  induction clocks using List.reverseRecOn with
  | nil => exact .refl pulse
  | append_singleton clocks clock ih =>
    rw [run_concat]
    exact ih.trans (slides_tick (bounded.run clocks) clock)

/-- What is left in the divider after `clocks` half frames: it runs down from where it stood, and
from then on from its period. -/
def dividerAfter (pulse : Pulse) (clocks : Nat) : Nat :=
  if clocks ≤ pulse.sweepDivider.toNat then pulse.sweepDivider.toNat - clocks
  else pulse.sweepPeriod.toNat -
    (clocks - pulse.sweepDivider.toNat - 1) % (pulse.sweepPeriod.toNat + 1)

theorem dividerAfter_succ (pulse : Pulse) (clocks : Nat) :
    pulse.dividerAfter (clocks + 1) =
      if pulse.dividerAfter clocks = 0 then pulse.sweepPeriod.toNat
      else pulse.dividerAfter clocks - 1 := by
  unfold dividerAfter
  rcases Nat.lt_trichotomy clocks pulse.sweepDivider.toNat with early | due | late
  · rw [if_pos (by omega : clocks + 1 ≤ _), if_pos (by omega : clocks ≤ _), if_neg (by omega)]
    omega
  · rw [if_neg (by omega : ¬ clocks + 1 ≤ _), if_pos (by omega : clocks ≤ _), if_pos (by omega)]
    rw [due, Nat.add_sub_cancel_left, Nat.sub_self, Nat.zero_mod, Nat.sub_zero]
  · have next : clocks + 1 - pulse.sweepDivider.toNat - 1 =
        clocks - pulse.sweepDivider.toNat - 1 + 1 := by omega
    rw [if_neg (by omega : ¬ clocks + 1 ≤ _), if_neg (by omega : ¬ clocks ≤ _), next,
      Countdown.sub_mod_succ]

theorem dividerAfter_eq_zero_iff (pulse : Pulse) (clocks : Nat) :
    pulse.dividerAfter clocks = 0 ↔ pulse.sweepDivider.toNat ≤ clocks ∧
      pulse.sweepPeriod.toNat + 1 ∣ clocks - pulse.sweepDivider.toNat := by
  unfold dividerAfter
  split
  · rename_i early
    rw [Nat.sub_eq_zero_iff_le]
    constructor
    · intro due
      rw [Nat.le_antisymm early due, Nat.sub_self]
      exact ⟨Nat.le_refl _, Nat.dvd_zero _⟩
    · exact And.left
  · rename_i late
    have next : clocks - pulse.sweepDivider.toNat - 1 + 1 = clocks - pulse.sweepDivider.toNat := by
      omega
    rw [Countdown.sub_mod_eq_zero_iff, next]
    exact (and_iff_right (Nat.le_of_not_le late)).symm

/-- With no reload pending, the divider counts the half frames. -/
theorem run_sweepDivider (bounded : pulse.Bounded) (settled : pulse.sweepReload = false)
    (clocks : List Clock) :
    (pulse.run clocks).sweepDivider.toNat = pulse.dividerAfter (halfFrames clocks) := by
  induction clocks using List.reverseRecOn with
  | nil => exact (if_pos (Nat.zero_le _)).symm
  | append_singleton clocks clock ih =>
    have slides := slides_run bounded clocks
    rw [run_concat, halfFrames_concat]
    cases clock with
    | sweep =>
      rw [tick, clockSweep_sweepDivider (slides.settled settled), ih, slides.divides, if_pos rfl,
        dividerAfter_succ]
    | timer => rw [tick, clockTimer_frame, if_neg Clock.noConfusion, Nat.add_zero, ih]

/-! ### One way -/

/-- What comes of a channel between two register writes, from some moment on: `early` are the clocks
before that moment, `late` those after it. -/
structure OneWay (pulse : Pulse) (early late : List Clock) : Prop where
  /-- The period never leaves the timer. -/
  fits : (pulse.run early).timerPeriod ≤ 0x7FF
  up : pulse.sweepNegate = false →
    (pulse.run early).timerPeriod ≤ (pulse.run (early ++ late)).timerPeriod
  down : pulse.sweepNegate = true →
    (pulse.run (early ++ late)).timerPeriod ≤ (pulse.run early).timerPeriod
  /-- Silence is for good. -/
  silent : (pulse.run early).muted = true →
    (pulse.run (early ++ late)).timerPeriod = (pulse.run early).timerPeriod ∧
      (pulse.run (early ++ late)).muted = true ∧ (pulse.run (early ++ late)).output = 0
  /-- No other clock moves the period. -/
  moves (clock : Clock) :
    ((pulse.run early).tick clock).timerPeriod ≠ (pulse.run early).timerPeriod →
      clock = .sweep ∧ (pulse.run early).sweepDivider = 0 ∧ pulse.sweepEnabled = true ∧
        0 < pulse.sweepShift
  /-- A half frame that moves the period moves it to the target, neither wrapped nor cut off. -/
  target : ((pulse.run early).clockSweep.timerPeriod.toNat : Int) =
    if (pulse.run early).sweeps then (pulse.run early).targetPeriod
    else (pulse.run early).timerPeriod.toNat
  /-- The half frames that find the divider at zero lie a sweep period and one apart. -/
  spaced : (pulse.run early).sweepReload = false →
    ((pulse.run (early ++ late)).sweepDivider = 0 ↔
      (pulse.run early).sweepDivider.toNat ≤ halfFrames late ∧
        pulse.sweepPeriod.toNat + 1 ∣
          halfFrames late - (pulse.run early).sweepDivider.toNat)

theorem output_of_muted (silent : pulse.muted = true) : pulse.output = 0 := by
  rw [output, silent, Bool.or_true, Bool.true_or, if_pos rfl]

/-- A clock that moves the period is a half frame at which the sweep moves it. -/
theorem tick_moves {clock : Clock} (moved : (pulse.tick clock).timerPeriod ≠ pulse.timerPeriod) :
    clock = .sweep ∧ pulse.sweeps = true := by
  rw [tick_timerPeriod] at moved
  by_cases half : clock = .sweep
  · rw [if_pos half] at moved
    refine ⟨half, ?_⟩
    by_contra still
    exact moved (sweptPeriod_of_not_sweeps still)
  · exact absurd (if_neg half) moved

/-- Whatever state a channel is accepted in, and however half frames and ticks of its timer come
while no register is written: the sweep moves its period one way only and within the timer, only at
the half frames that the divider lets through, and no longer once the channel is silent. -/
theorem run_one_way (accepted : pulse.validate = .ok ()) (early late : List Clock) :
    OneWay pulse early late := by
  have bounded := (validate_iff.mp accepted).run early
  have past := slides_run (validate_iff.mp accepted) early
  have future := slides_run bounded late
  rw [← run_append] at future
  refine ⟨bounded.timerPeriod, ?up, ?down, ?silent, ?moves, ?target, ?spaced⟩
  case up => exact fun rises => future.up (past.negate.trans rises)
  case down => exact fun falls => future.down (past.negate.trans falls)
  case silent =>
    intro silent
    have later := future.muted silent
    exact ⟨future.still silent, later, output_of_muted later⟩
  case moves =>
    intro clock moved
    obtain ⟨half, sweeping⟩ := tick_moves moved
    obtain ⟨expired, enabled, shifts, -⟩ := (sweeps_iff _).mp sweeping
    rw [past.enabled] at enabled
    rw [past.shift] at shifts
    exact ⟨half, expired, enabled, shifts⟩
  case target =>
    rw [clockSweep_frame]
    exact sweptPeriod_toNat bounded
  case spaced =>
    intro settled
    rw [← UInt8.toNat_inj, run_append, run_sweepDivider bounded settled, UInt8.toNat_zero,
      dividerAfter_eq_zero_iff, past.divides]

/-- The first channel on its way up in pitch, a sweep every second half frame. -/
def rising : Pulse :=
  { onesComplement := true, length := { enabled := true, value := 10 }
    envelope := { constant := true, volume := 15 }, duty := 2, sweepEnabled := true
    sweepPeriod := 1, sweepNegate := true, sweepShift := 1, timerPeriod := 31 }

/-- Three half frames make it too short to be heard, and it stays as it is. -/
theorem run_one_way_rising :
    rising.validate = .ok () ∧
      (rising.run [.sweep, .timer, .sweep, .sweep]).muted = true ∧
      (rising.run ([.sweep, .timer, .sweep, .sweep] ++ [.sweep, .timer, .sweep])).timerPeriod = 7 ∧
      (rising.run ([.sweep, .timer, .sweep, .sweep] ++ [.sweep, .timer, .sweep])).output = 0 := by
  have valid : rising.validate = .ok () := by decide
  have silent : (rising.run [.sweep, .timer, .sweep, .sweep]).muted = true := by decide
  obtain ⟨still, -, quiet⟩ :=
    (run_one_way valid [.sweep, .timer, .sweep, .sweep] [.sweep, .timer, .sweep]).silent silent
  exact ⟨valid, silent, still.trans (by decide), quiet⟩

end Nes.Pulse
