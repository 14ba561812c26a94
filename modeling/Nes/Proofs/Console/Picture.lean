import Nes.Proofs.Bus.Pace
import Nes.Proofs.Console.Snapshot
import Nes.Proofs.Console.Timing

/-!
Running a console until a picture is complete. Each step takes the picture unit nearer to the
vertical blank, so the loop over steps ends, and it ends with the step in which the blank begins or
when the processor has halted; no step is long enough for two.
-/

namespace Nes.Console

variable {origin : Cartridge} {rate : Float} {console saved : Console}

/-! ### Reached consoles -/

/-- The consoles that a host reaches from power-on. A snapshot that it loads is one that was saved
by a console reached like this, such as the same one before. -/
inductive Reached (cart : Cartridge) (settings : Settings) : Console → Prop where
  | powerOn : Reached cart settings (powerOn cart settings)
  | perform {console : Console} (reached : Reached cart settings console) (command : Command)
    (keeps : ∀ bytes, command ≠ .load bytes) : Reached cart settings (console.perform command).2
  | load {console saved : Console} (reached : Reached cart settings console)
    (earlier : Reached cart settings saved) : Reached cart settings (console.load saved.save).2

/-- What a console has saved decodes to the record of it. -/
theorem decode_save {rom : Rom} (built : Cartridge.ofRom rom = .ok origin)
    (boundary : saved.system.Boundary origin rate) :
    MachineState.decode saved.save = .ok saved.saveState := by
  have recorded := MachineState.decode_encode (saveState_countable built boundary) []
  rw [List.append_nil] at recorded
  exact recorded

/-- What a console at rest has saved owes no cycles. -/
theorem save_owesNothing {rom : Rom} (built : Cartridge.ofRom rom = .ok origin)
    (boundary : saved.system.Boundary origin rate) (rest : saved.machine.AtRest) :
    (Command.load saved.save).OwesNothing := by
  intro state decoded
  obtain rfl := Except.ok.inj ((decode_save built boundary).symm.trans decoded)
  exact ⟨rest.cpu, rest.bus⟩

/-- Reached consoles are between two steps, and nothing is owed. -/
theorem Reached.sound {rom : Rom} {cart : Cartridge} (built : Cartridge.ofRom rom = .ok cart)
    {settings : Settings} (reached : Reached cart settings console) :
    console.system.Boundary cart settings.cyclesPerSample ∧ console.machine.AtRest := by
  obtain ⟨identified, -⟩ := Cartridge.ofRom_sound built
  induction reached with
  | powerOn => exact ⟨after_boundary built settings [], powerOn_atRest cart settings⟩
  | perform reached command keeps ih =>
    obtain ⟨boundary, rest⟩ := ih
    have paid : command.OwesNothing := by
      cases command with
      | load bytes => exact absurd rfl (keeps bytes)
      | step | stepFrame | reset | setButtons => trivial
    exact ⟨perform_boundary boundary identified command, perform_atRest rest paid⟩
  | load reached earlier ih saved =>
    obtain ⟨boundary, rest⟩ := ih
    exact ⟨load_boundary boundary identified _,
      perform_atRest rest (save_owesNothing built saved.1 saved.2)⟩

/-! ### The loop -/

/-- The loop over steps without a limit: it ends with a complete picture, whose latch it clears, or
with a step that takes no time. In each step the loop that spends owed cycles ends too. -/
inductive RunsFrame : UInt64 → Console → UInt64 × Console → Prop where
  | picture {cycles : UInt64} {console : Console}
    (settles : console.halted = true ∨
      Machine.Settles console.machine.served console.step.2.machine)
    (ready : console.step.2.system.frameReady = true) :
    RunsFrame cycles console
      (cycles + console.step.1, console.step.2.mapSystem System.clearFrame)
  | stopped {cycles : UInt64} {console : Console}
    (settles : console.halted = true ∨
      Machine.Settles console.machine.served console.step.2.machine)
    (waiting : console.step.2.system.frameReady = false) (nothing : console.step.1 = 0) :
    RunsFrame cycles console (cycles, console.step.2)
  | again {cycles : UInt64} {console : Console} {result : UInt64 × Console}
    (settles : console.halted = true ∨
      Machine.Settles console.machine.served console.step.2.machine)
    (waiting : console.step.2.system.frameReady = false) (some : console.step.1 ≠ 0)
    (rest : RunsFrame (cycles + console.step.1) console.step.2 result) :
    RunsFrame cycles console result

/-- What the loop has done when it ends. -/
structure FrameDone (console : Console) (elapsed : Nat) (next : Console) : Prop where
  cycles : next.machine.cpu.cycles = console.machine.cpu.cycles + UInt64.ofNat elapsed
  latch : next.system.frameReady = false
  blank : next.system.ppu.raster.frameCount = console.system.ppu.raster.frameCount + 1 ∨
    next.halted = true ∧
      next.system.ppu.raster.frameCount = console.system.ppu.raster.frameCount

/-- The counted loop is the one without a limit if there are steps enough to reach the vertical
blank, and it lasts no longer than until then and one step more. -/
theorem stepFrameFrom_done (rest : console.machine.AtRest)
    (valid : console.system.ppu.raster.valid) (clear : console.system.frameReady = false)
    (cycles : UInt64) {limit : Nat} (enough : console.system.ppu.raster.untilVblank < 6 * limit) :
    RunsFrame cycles console (stepFrameFrom cycles limit console) ∧
      ∃ elapsed : Nat, (stepFrameFrom cycles limit console).1 = cycles + UInt64.ofNat elapsed ∧
        3 * elapsed ≤ console.system.ppu.raster.untilVblank + 1800 ∧
        FrameDone console elapsed (stepFrameFrom cycles limit console).2 := by
  induction limit generalizing console cycles with
  | zero => omega
  | succ limit ih =>
    obtain ⟨settles, -, next⟩ := rest.step_sound
    cases halted : console.machine.cpu.halted with
    | true =>
      -- The loop stops where it is, as the step takes no time.
      have still : console.machine.step = (0, console.machine) :=
        console.machine.step_halted halted
      have same : console.step = (0, console) := by simp only [step, still]
      have stopped : stepFrameFrom cycles (limit + 1) console = (cycles, console) := by
        simp [stepFrameFrom, same, clear]
      rw [stopped]
      refine ⟨?_, 0, (UInt64.add_zero _).symm, by omega, ?_⟩
      · have loop := @RunsFrame.stopped cycles console (.inl halted) (by rw [same]; exact clear)
          (by rw [same])
        rw [same] at loop
        exact loop
      · exact ⟨(UInt64.add_zero _).symm, clear, .inr ⟨halted, rfl⟩⟩
    | false =>
      obtain ⟨elapsed, least, most, reported, counted, passes⟩ := rest.step_passes halted
      have time : console.step.1 = UInt64.ofNat elapsed := reported
      have paced := passes.paced valid (by omega)
      cases ready : console.step.2.system.frameReady with
      | true =>
        have done : stepFrameFrom cycles (limit + 1) console =
            (cycles + console.step.1, console.step.2.mapSystem System.clearFrame) := by
          simp [stepFrameFrom, ready]
        have blank : console.step.2.system.ppu.raster.frameCount =
            console.system.ppu.raster.frameCount + 1 := by
          rcases paced with ⟨same, -⟩ | ⟨-, number, -⟩
          · exact absurd (ready.symm.trans (same.trans clear)) (by decide)
          · exact number
        rw [done]
        exact ⟨.picture settles ready, elapsed, by rw [time], by omega, counted, rfl, .inl blank⟩
      | false =>
        -- A step of at most 600 cycles that does not reach the blank brings it nearer.
        have some : console.step.1 ≠ 0 := by
          intro none
          have number := congrArg UInt64.toNat (time.symm.trans none)
          rw [UInt64.toNat_ofNat', UInt64.toNat_zero] at number
          omega
        have on : stepFrameFrom cycles (limit + 1) console =
            stepFrameFrom (cycles + console.step.1) limit console.step.2 := by
          simp [stepFrameFrom, ready, some]
        obtain ⟨number, nearer⟩ : console.step.2.system.ppu.raster.frameCount =
              console.system.ppu.raster.frameCount ∧
            console.step.2.system.ppu.raster.untilVblank + 3 * elapsed ≤
              console.system.ppu.raster.untilVblank := by
          rcases paced with ⟨-, kept⟩ | ⟨set, -⟩
          · exact kept
          · exact absurd (ready.symm.trans set) (by decide)
        have rested : console.step.2.machine.AtRest := next
        have inside : console.step.2.system.ppu.raster.valid := passes.valid valid
        obtain ⟨runs, later, total, within, left⟩ :=
          ih rested inside ready (cycles + console.step.1) (by omega)
        rw [on]
        refine ⟨.again settles ready some runs, elapsed + later, ?_, by omega, ?_, left.latch, ?_⟩
        · rw [total, time, UInt64.ofNat_add, UInt64.add_assoc]
        · rw [left.cycles, UInt64.ofNat_add, ← UInt64.add_assoc]
          exact congrArg (· + UInt64.ofNat later) counted
        · rw [← number]
          exact left.blank

/-- Running for a picture ends, after at most 29781 cycles and one step. The cycles that it reports
are the ones that the processor has counted, the latch is clear again, and one vertical blank more
has begun unless the processor has halted before. -/
theorem stepFrame_onePicture {rom : Rom} {cart : Cartridge}
    (built : Cartridge.ofRom rom = .ok cart) (settings : Settings)
    (reached : Reached cart settings console) (clear : console.system.frameReady = false) :
    RunsFrame 0 console console.stepFrame ∧
      console.stepFrame.1.toNat ≤ 29781 + 600 ∧
      console.stepFrame.2.machine.cpu.cycles =
        console.machine.cpu.cycles + console.stepFrame.1 ∧
      console.stepFrame.2.system.frameReady = false ∧
      (console.stepFrame.2.system.ppu.raster.frameCount =
          console.system.ppu.raster.frameCount + 1 ∨
        console.stepFrame.2.halted = true ∧
          console.stepFrame.2.system.ppu.raster.frameCount =
            console.system.ppu.raster.frameCount) := by
  obtain ⟨boundary, rest⟩ := reached.sound built
  have far := console.system.ppu.raster.untilVblank_lt
  unfold Raster.dotsPerFrame at far
  have enough : console.system.ppu.raster.untilVblank < 6 * frameStepLimit := by
    unfold frameStepLimit
    omega
  obtain ⟨runs, elapsed, total, within, done⟩ :=
    stepFrameFrom_done rest boundary.picture.ppu.raster clear 0 enough
  have result : console.stepFrame.1 = UInt64.ofNat elapsed := total.trans (UInt64.zero_add _)
  refine ⟨runs, ?_, ?_, done.latch, done.blank⟩
  · rw [result, UInt64.toNat_ofNat']
    omega
  · rw [result]
    exact done.cycles

/-- Two pictures in a row; the latch is clear for the second because the first has cleared it. -/
theorem stepFrame_onePicture_idle :
    (powerOn .idle {}).stepFrame.2.system.frameReady = false ∧
      RunsFrame 0 (powerOn .idle {}).stepFrame.2 (powerOn .idle {}).stepFrame.2.stepFrame ∧
      (powerOn .idle {}).stepFrame.2.stepFrame.1.toNat ≤ 29781 + 600 ∧
      (powerOn .idle {}).stepFrame.2.stepFrame.2.machine.cpu.cycles =
        (powerOn .idle {}).stepFrame.2.machine.cpu.cycles +
          (powerOn .idle {}).stepFrame.2.stepFrame.1 ∧
      (powerOn .idle {}).stepFrame.2.stepFrame.2.system.frameReady = false ∧
      ((powerOn .idle {}).stepFrame.2.stepFrame.2.system.ppu.raster.frameCount =
          (powerOn .idle {}).stepFrame.2.system.ppu.raster.frameCount + 1 ∨
        (powerOn .idle {}).stepFrame.2.stepFrame.2.halted = true ∧
          (powerOn .idle {}).stepFrame.2.stepFrame.2.system.ppu.raster.frameCount =
            (powerOn .idle {}).stepFrame.2.system.ppu.raster.frameCount) := by
  have first : Reached .idle {} (powerOn .idle {}) := .powerOn
  have waiting : (powerOn .idle {}).system.frameReady = false := by decide +kernel
  obtain ⟨-, -, -, clear, -⟩ := stepFrame_onePicture Cartridge.ofRom_idle {} first waiting
  have reached : Reached .idle {} (powerOn .idle {}).stepFrame.2 := first.perform .stepFrame nofun
  exact ⟨clear, stepFrame_onePicture Cartridge.ofRom_idle {} reached clear⟩

end Nes.Console
