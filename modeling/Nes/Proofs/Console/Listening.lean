import Nes.Proofs.Bus.Silence
import Nes.Proofs.Console.Run

/-!
The host hears the console and is not heard by it. Whatever rate, volume and queue it has chosen,
and whenever it takes samples from the queue, even while an instruction is under way, every command
leaves the same machine, but for the sampler.
-/

namespace Nes

/-- What a host can do with the queue of samples. -/
inductive Drain where
  | pop
  | read (count : Nat)
  | clear

def SampleQueue.drainBy {α : Type} (queue : SampleQueue α) : Drain → SampleQueue α
  | .pop => queue.pop.2
  | .read count => (queue.read count).2
  | .clear => queue.clear

/-- The system after the host has worked on its queue. -/
def System.drained (system : System) (drains : List Drain) : System :=
  { system with
    apu := { system.apu with queue := drains.foldl SampleQueue.drainBy system.apu.queue } }

/-! ### A system with a host at its queue -/

/-- A system and what its host does to the queue before each of the cycles to come. -/
structure Heard where
  system : System
  drains : Nat → List Drain

namespace Heard

def cycle (heard : Heard) : Heard where
  system := (heard.system.drained (heard.drains 0)).cycle
  drains passed := heard.drains (passed + 1)

def run : Nat → Heard → Heard
  | 0, heard => heard
  | count + 1, heard => run count heard.cycle

instance : Bus Heard where
  read heard address :=
    let (value, system) := heard.system.read address
    (value, { heard with system })
  write heard address data := { heard with system := heard.system.write address data }
  peek heard address := heard.system.peek address
  tick heard cycles := run cycles.toNat { heard with system := heard.system.chargeDma cycles }
  pollNmi heard :=
    let (edge, system) := heard.system.pollNmi
    (edge, { heard with system })
  irqLine heard := heard.system.irqLine
  takeStall heard :=
    let (owed, system) := heard.system.takeStall
    (owed, { heard with system })

/-- The heard system and the other are the same but for their samplers. -/
def Alike (heard : Heard) (system : System) : Prop := heard.system.silent = system.silent

theorem Alike.cycle {heard : Heard} {system : System} (alike : Alike heard system) :
    Alike heard.cycle system.cycle :=
  @System.cycle_alike (heard.system.drained (heard.drains 0)) system alike

theorem Alike.run {heard : Heard} {system : System} (alike : Alike heard system) (count : Nat) :
    Alike (heard.run count) (system.run count) := by
  induction count generalizing heard system with
  | zero => exact alike
  | succ count ih => exact ih alike.cycle

/-- To the processor a heard system is the one that nobody hears. -/
theorem alike_simulates : Bus.Simulates Alike where
  read {heard system} alike address := by
    have answers := congrArg (System.read · address) alike
    simp only [System.read_silent] at answers
    exact Prod.mk.inj answers
  write {heard system} alike address data := by
    have written := congrArg (System.write · address data) alike
    simp only [System.write_silent] at written
    exact written
  tick {heard system} alike cycles := by
    have charged : Alike { heard with system := heard.system.chargeDma cycles }
        (system.chargeDma cycles) :=
      congrArg (System.chargeDma · cycles) alike
    exact charged.run cycles.toNat
  pollNmi {heard system} alike := by
    have edge : heard.system.silent.pollNmi = system.silent.pollNmi :=
      congrArg System.pollNmi alike
    exact Prod.mk.inj (congrArg (fun polled => (polled.1, polled.2.silent)) edge)
  irqLine {heard system} alike :=
    (congrArg System.irqLine alike : heard.system.silent.irqLine = system.silent.irqLine)
  takeStall {heard system} alike := by
    have owed : heard.system.silent.stall = system.silent.stall := congrArg System.stall alike
    have paid := congrArg (fun system : System => { system with stall := 0 }) alike
    exact ⟨owed, paid⟩

/-! ### Commands -/

/-- Changes a heard machine as the console that has the same processor and system is changed. -/
def ofConsole (machine : Machine Heard) (change : Console → Console) : Machine Heard :=
  let changed := change
    { machine := { cpu := machine.cpu, bus := machine.bus.system }, traceEnabled := false }
  { cpu := changed.machine.cpu, bus := { machine.bus with system := changed.system } }

def powerOn (cart : Cartridge) (settings : Settings) (drains : Nat → List Drain) :
    Machine Heard :=
  Machine.reset { bus := { system := System.powerOn cart settings, drains } }

/-- Steps until a picture is complete or the processor halts, as a console does. -/
def stepFrameFrom (cycles : UInt64) (limit : Nat) (machine : Machine Heard) :
    UInt64 × Machine Heard :=
  match limit with
  | 0 => (cycles, machine)
  | limit + 1 =>
    let (elapsed, machine) := machine.step
    if machine.bus.system.frameReady then
      (cycles + elapsed, ofConsole machine (·.mapSystem System.clearFrame))
    else if elapsed == 0 then (cycles, machine)
    else stepFrameFrom (cycles + elapsed) limit machine

/-- Carries out a command while the host takes samples. -/
def perform (machine : Machine Heard) : Command → UInt64 × Machine Heard
  | .step => machine.step
  | .stepFrame => stepFrameFrom 0 Console.frameStepLimit machine
  | .reset => (0, (ofConsole machine (·.mapSystem System.reset)).reset)
  | .setButtons port buttons => (0, ofConsole machine (·.setButtons port buttons))
  | .load bytes => (0, ofConsole machine fun console => (console.load bytes).2)

end Heard

/-- All that there is after a command but the sampler: the answer, the processor and the system. -/
structure View where
  answer : UInt64
  cpu : Cpu
  system : System

def Heard.views (machine : Machine Heard) : List Command → List View
  | [] => []
  | command :: rest =>
    let (answer, machine) := Heard.perform machine command
    { answer, cpu := machine.cpu, system := machine.bus.system.silent } :: Heard.views machine rest

def Console.views (console : Console) : List Command → List View
  | [] => []
  | command :: rest =>
    let (answer, console) := console.perform command
    { answer, cpu := console.machine.cpu, system := console.system.silent } :: console.views rest

/-! ### Nothing is heard of the host -/

theorem System.eq_of_silent {first second : System} (same : first.silent = second.silent) :
    ∃ apu, second = { first with apu } ∧ apu.silent = first.apu.silent := by
  refine ⟨second.apu, ?_, (congrArg System.apu same).symm⟩
  cases first
  cases second
  injection same
  simp_all

/-- A snapshot is accepted or refused whatever the sampler, and replaces the rest alike. -/
theorem Console.load_silent {first second : Console}
    (cpu : first.machine.cpu = second.machine.cpu)
    (same : first.system.silent = second.system.silent) (bytes : List UInt8) :
    (first.load bytes).2.machine.cpu = (second.load bytes).2.machine.cpu ∧
      (first.load bytes).2.system.silent = (second.load bytes).2.system.silent := by
  obtain ⟨apu, system, -⟩ := System.eq_of_silent same
  unfold load
  cases MachineState.decode bytes with
  | error fault => exact ⟨cpu, same⟩
  | ok state =>
    simp only [loadState, System.load, Apu.load, bind, Except.bind, system]
    cases state.ppu.restore with
    | error fault => exact ⟨cpu, same⟩
    | ok ppu =>
      cases Snapshot.sized .ram 0x800 state.bus.ram with
      | error fault => exact ⟨cpu, same⟩
      | ok ram =>
        cases state.apu.validate with
        | error fault => exact ⟨cpu, same⟩
        | ok _ =>
          simp only [pure, Except.pure]
          split
          · rename_i cart _
            exact ⟨cpu, congrArg (fun system : System => { system with cart }) same⟩
          · exact ⟨rfl, rfl⟩

namespace Heard

/-- The heard machine and the console are the same but for their samplers. -/
def Follows (machine : Machine Heard) (console : Console) : Prop :=
  Machine.Matches Alike machine console.machine

variable {machine : Machine Heard} {console : Console}

theorem Follows.step (follows : Follows machine console) :
    machine.step.1 = console.step.1 ∧ Follows machine.step.2 console.step.2 := by
  have stepped := Machine.Matches.step alike_simulates follows
  exact ⟨stepped.answer, stepped.machine⟩

theorem Follows.mapSystem (follows : Follows machine console) {change : System → System}
    (silent : ∀ system, (change system).silent = change system.silent) :
    Follows (ofConsole machine (·.mapSystem change)) (console.mapSystem change) := by
  refine ⟨follows.cpu, ?_⟩
  have changed := congrArg change follows.bus
  rw [← silent, ← silent] at changed
  exact changed

theorem Follows.stepFrameFrom (follows : Follows machine console) (cycles : UInt64)
    (limit : Nat) :
    (Heard.stepFrameFrom cycles limit machine).1 = (console.stepFrameFrom cycles limit).1 ∧
      Follows (Heard.stepFrameFrom cycles limit machine).2
        (console.stepFrameFrom cycles limit).2 := by
  induction limit generalizing machine console cycles with
  | zero => exact ⟨rfl, follows⟩
  | succ limit ih =>
    obtain ⟨answer, next⟩ := follows.step
    have ready : machine.step.2.bus.system.silent.frameReady =
        console.step.2.system.silent.frameReady := congrArg System.frameReady next.bus
    change machine.step.2.bus.system.frameReady = console.step.2.system.frameReady at ready
    simp only [Heard.stepFrameFrom, Console.stepFrameFrom, ready, answer]
    split
    · exact ⟨rfl, next.mapSystem fun _ => rfl⟩
    · split
      · exact ⟨rfl, next⟩
      · exact ih next _

theorem Follows.perform (follows : Follows machine console) (command : Command) :
    (Heard.perform machine command).1 = (console.perform command).1 ∧
      Follows (Heard.perform machine command).2 (console.perform command).2 := by
  cases command with
  | step => exact follows.step
  | stepFrame => exact follows.stepFrameFrom 0 Console.frameStepLimit
  | reset =>
    have lowered := @Follows.mapSystem _ _ follows System.reset System.reset_silent
    exact ⟨rfl, Machine.Matches.reset alike_simulates lowered⟩
  | setButtons port buttons =>
    exact ⟨rfl, follows.mapSystem fun system => system.setButtons_silent port buttons⟩
  | load bytes =>
    obtain ⟨cpu, system⟩ := @Console.load_silent
      { machine := ⟨machine.cpu, machine.bus.system⟩, traceEnabled := false } console
      follows.cpu follows.bus bytes
    exact ⟨rfl, cpu, system⟩

theorem Follows.views (follows : Follows machine console) (commands : List Command) :
    Heard.views machine commands = console.views commands := by
  induction commands generalizing machine console with
  | nil => rfl
  | cons command rest ih =>
    obtain ⟨answer, next⟩ := follows.perform command
    have system : (Heard.perform machine command).2.bus.system.silent =
        (console.perform command).2.system.silent := next.bus
    simp only [Heard.views, Console.views, answer, next.cpu, system, ih next]

theorem powerOn_follows (cart : Cartridge) (settings other : Settings)
    (drains : Nat → List Drain) :
    Follows (powerOn cart settings drains) (Console.powerOn cart other) := by
  have started : Machine.Matches Alike { bus := { system := System.powerOn cart settings, drains } }
      { bus := System.powerOn cart other } :=
    ⟨rfl, System.powerOn_silent cart settings other⟩
  exact started.reset alike_simulates

end Heard

/-- Two consoles with the same cartridge and the same commands are the same after every command, but
for their samplers, whatever their settings and however their hosts drain the queues; and so is a
console that nobody hears. -/
theorem Heard.views_alike (cart : Cartridge) (settings other : Settings)
    (drains otherDrains : Nat → List Drain) (commands : List Command) :
    Heard.views (powerOn cart settings drains) commands =
        Heard.views (powerOn cart other otherDrains) commands ∧
      Heard.views (powerOn cart settings drains) commands =
        (Console.powerOn cart other).views commands := by
  have first := (powerOn_follows cart settings other drains).views commands
  have second := (powerOn_follows cart other other otherDrains).views commands
  exact ⟨first.trans second.symm, first⟩

end Nes
