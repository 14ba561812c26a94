import Nes.Bus.Recorder
import Nes.Console.Basic
import Nes.Notice

/-!
What a running console reports: the line of each instruction if the host asked for it, and then the
writes that nothing takes.
-/

namespace Nes

/-- The notices of the writes among some accesses. -/
def Notice.ofAccesses (accesses : List Access) : List Notice :=
  accesses.flatMap fun
    | .read _ _ => []
    | .write address data => Notice.ofBusWrite address data

namespace Machine

/-- The same machine with its accesses recorded. -/
def recorded {β : Type} (machine : Machine β) : Machine (Recorder β) where
  cpu := machine.cpu
  bus := { bus := machine.bus }

/-- The line of the next instruction as a notice, if lines are wanted. -/
def traceNotices {β : Type} [Bus β] (machine : Machine β) (wanted : Bool) : List Notice :=
  if wanted then machine.nextTrace?.toList.map .instruction else []

end Machine

namespace Console

def stepNotices (console : Console) : List Notice :=
  let (_, after) := console.machine.recorded.step
  console.machine.traceNotices console.traceEnabled ++ Notice.ofAccesses after.bus.accesses

/-- What the steps to the next picture report, at most `limit` of them. -/
def frameNoticesUpTo (limit : Nat) (console : Console) : List Notice :=
  match limit with
  | 0 => []
  | limit + 1 =>
    let (elapsed, after) := console.step
    if after.system.frameReady || elapsed == 0 then console.stepNotices
    else console.stepNotices ++ frameNoticesUpTo limit after

def frameNotices (console : Console) : List Notice := frameNoticesUpTo frameStepLimit console

def loadNotices (result : Except Snapshot.Fault Unit) (size : Nat) : List Notice :=
  match result with
  | .ok () => [.loaded size]
  | .error _ => []

end Console

end Nes
