import Nes.Proofs.Bus.Settling

/-!
How time passes behind the processor. The chips move on in whole cycles, and nothing that the
processor does on its bus takes time of its own; so the cycles that a step counts are the ones that
have passed, each of them once.
-/

namespace Nes

namespace System

/-- What the processor does on its bus apart from letting cycles pass. -/
inductive Access (system : System) : System → Prop where
  | read (address : UInt16) : Access system (system.read address).2
  | write (address : UInt16) (data : UInt8) : Access system (system.write address data)
  | pollNmi : Access system system.pollNmi.2
  | takeStall : Access system system.takeStall.2
  | chargeDma (cycles : UInt64) : Access system (system.chargeDma cycles)

/-- A number of cycles one after the other, with accesses between them. -/
inductive Elapses (start : System) : Nat → System → Prop where
  | none : Elapses start 0 start
  | access {count : Nat} {system next : System} (before : Elapses start count system)
    (access : system.Access next) : Elapses start count next
  | cycle {count : Nat} {system : System} (before : Elapses start count system) :
    Elapses start (count + 1) system.cycle

variable {start system next : System} {count : Nat}

/-! ### The counter of cycles -/

theorem read_cycles (system : System) (address : UInt16) :
    (system.read address).2.cycles = system.cycles := by
  simp only [read]
  repeat' split
  all_goals rfl

theorem copyToOam_cycles (system : System) (page : UInt16) (count : Nat) :
    (system.copyToOam page count).cycles = system.cycles := by
  induction count with
  | zero => rfl
  | succ count ih =>
    have byte := (system.copyToOam page count).read_cycles (page ||| UInt16.ofNat count)
    exact Eq.trans byte ih

theorem Access.cycles (access : system.Access next) : next.cycles = system.cycles := by
  cases access with
  | read address => exact system.read_cycles address
  | write address data =>
    have copied := (system.drive data).copyToOam_cycles (data.toUInt16 <<< 8) 256
    simp only [System.write]
    repeat' split
    all_goals first
      | rfl
      | exact copied
  | pollNmi | takeStall | chargeDma => rfl

theorem cycle_cycles (system : System) : system.cycle.cycles = system.cycles + 1 := by
  obtain ⟨fetched, apu, -, sounded⟩ := system.stepPpu.stepPpu.stepPpu.stepApu_eq
  rw [cycle_eq, sounded]
  rfl

/-- The counter of cycles counts them. -/
theorem Elapses.cycles (elapses : Elapses start count next) :
    next.cycles = start.cycles + UInt64.ofNat count := by
  induction elapses with
  | none => exact (UInt64.add_zero _).symm
  | access before access ih => exact access.cycles.trans ih
  | cycle before ih =>
    rw [cycle_cycles, ih, UInt64.ofNat_add, UInt64.add_assoc]
    rfl

/-! ### Cycles that pass -/

theorem Elapses.run (before : Elapses start count system) (more : Nat) :
    Elapses start (count + more) (System.run more system) := by
  induction more generalizing count system with
  | zero => exact before
  | succ more ih =>
    have further := ih before.cycle
    rw [Nat.add_right_comm] at further
    exact further

theorem Elapses.tick (before : Elapses start count system) (cycles : UInt64) :
    Elapses start (count + cycles.toNat) (system.tick cycles) :=
  (before.access (.chargeDma cycles)).run cycles.toNat

end System

namespace Machine

variable {machine final : Machine System} {start : System} {count : Nat}

/-- What comes next takes no time of its own. -/
theorem serve_elapses (before : System.Elapses start count machine.bus) :
    System.Elapses start count machine.latchNmi.serve.bus := by
  have latched : System.Elapses start count machine.latchNmi.bus := before.access .pollNmi
  exact serve_preserves (fun held address => held.access (.read address))
    (fun held address data => held.access (.write address data)) latched

/-- Settling lets exactly the cycles pass that it counts. -/
theorem Settles.elapses (settles : Settles machine final) (charged : machine.Charged)
    (before : System.Elapses start count machine.bus) :
    ∃ spent : Nat, final.cpu.cycles = machine.cpu.cycles + UInt64.ofNat spent ∧
      107 * spent ≤ machine.debt ∧ System.Elapses start (count + spent) final.bus := by
  induction settles generalizing count with
  | done paid => exact ⟨0, (UInt64.add_zero _).symm, Nat.zero_le _, before.access .takeStall⟩
  | @round machine final owed rest ih =>
    obtain ⟨next, left⟩ := charged.spend_debt
    obtain ⟨spent, cycles, within, passed⟩ :=
      ih next ((before.access .takeStall).tick machine.takeStall.1)
    refine ⟨machine.takeStall.1.toNat + spent, ?_, ?_, ?_⟩
    · rw [cycles, UInt64.ofNat_add, UInt64.ofNat_toNat, ← UInt64.add_assoc]
      rfl
    · have total : 107 * spent ≤ machine.takeStall.1.toNat + machine.bus.apu.state.dmc.credit :=
        Nat.le_trans within left
      unfold debt
      omega
    · rw [← Nat.add_assoc]
      exact passed

/-- A step of a running processor lets exactly the cycles pass that it reports: at least two, and
at most 600 if nothing was owed. -/
theorem AtRest.step_elapses (rest : machine.AtRest) (running : machine.cpu.halted = false) :
    ∃ elapsed : Nat, 2 ≤ elapsed ∧ elapsed ≤ 600 ∧ machine.step.1 = UInt64.ofNat elapsed ∧
      machine.step.2.cpu.cycles = machine.cpu.cycles + UInt64.ofNat elapsed ∧
      System.Elapses machine.bus elapsed machine.step.2.bus := by
  obtain ⟨charged, cycles, least, most, counted, owed⟩ := rest.served
  have ticked : System.Elapses machine.bus cycles.toNat machine.served.bus := by
    obtain ⟨same, -, -, clock, served⟩ := machine.served_eq
    have clocked : machine.served.cpu.cycles = machine.cpu.cycles + same := by
      rw [served]
      exact congrArg Prod.fst clock
    obtain rfl : cycles = same := (UInt64.add_right_inj _).mp (counted.symm.trans clocked)
    have passed := (serve_elapses (.none : System.Elapses machine.bus 0 _)).tick cycles
    rw [served, ← Nat.zero_add cycles.toNat]
    exact passed
  obtain ⟨spent, total, within, passed⟩ := charged.settles_settle.elapses charged ticked
  have sum : UInt64.ofNat (cycles.toNat + spent) = cycles + UInt64.ofNat spent := by
    rw [UInt64.ofNat_add, UInt64.ofNat_toNat]
  rw [step_eq machine running]
  refine ⟨cycles.toNat + spent, by omega, by omega, ?_, ?_, passed⟩
  · rw [total, counted, UInt64.add_assoc, UInt64.add_comm, UInt64.add_sub_cancel, sum]
  · rw [total, counted, UInt64.add_assoc, sum]

/-- The reset line lets its seven cycles pass. -/
theorem reset_elapses (machine : Machine System) :
    System.Elapses machine.bus 7 machine.reset.bus := by
  have start : System.Elapses machine.bus 0 machine.bus := .none
  have read := start.access (.read resetVector)
  exact (read.access (.read (resetVector + 1))).tick interruptCycles

end Machine

end Nes
