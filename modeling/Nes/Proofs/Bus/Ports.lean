import Mathlib.Data.List.Induction
import Nes.Proofs.Bits
import Nes.Proofs.Cartridge.Contents
import Nes.Bus.System

/-!
The two controller ports under a host that changes the buttons at any time. A read reports the next
button as it is held then; it is not latched when the strobe falls. So the reports after a fall are
those of a latch exactly as long as the buttons they are about have not changed since.
-/

namespace Nes

/-! ### One controller -/

namespace Controller

/-- What a latch that has taken the buttons reports at a place: the buttons in their order, and then
ones. -/
def latched (buttons : UInt8) (place : Nat) : UInt8 :=
  match Button.all[place]? with
  | some button => if buttons &&& button.mask = 0 then 0 else 1
  | none => 1

theorem all_place : ∀ place < 8,
    ∃ button, Button.all[place]? = some button ∧ button.mask.toNat = 2 ^ place := by
  decide

theorem latched_of_le {place : Nat} (past : 8 ≤ place) (buttons : UInt8) :
    latched buttons place = 1 := by
  have none : Button.all[place]? = none := List.getElem?_eq_none past
  rw [latched, none]

/-- Two latches report the same if the button in question is held for both or for neither. -/
theorem latched_eq_iff (first second : UInt8) (place : Nat) :
    latched first place = latched second place ↔
      ∀ button, Button.all[place]? = some button →
        (first &&& button.mask = 0 ↔ second &&& button.mask = 0) := by
  unfold latched
  cases Button.all[place]? with
  | none => exact iff_of_true rfl nofun
  | some button =>
    simp only [Option.some.injEq, forall_eq']
    split <;> split <;> simp_all

/-- The place tells which button is reported. -/
theorem bit_eq_latched (controller : Controller) :
    controller.bit = latched controller.buttons controller.index.toNat := by
  unfold bit
  split
  · rename_i before
    have place : controller.index.toNat < 8 := UInt8.lt_iff_toNat_lt.mp before
    obtain ⟨button, found, mask⟩ := all_place controller.index.toNat place
    have shifted : (controller.buttons >>> controller.index &&& 1).toNat =
        (controller.buttons.toNat.testBit controller.index.toNat).toNat := by
      rw [UInt8.toNat_and, UInt8.toNat_shiftRight, Nat.mod_eq_of_lt place, Nat.toNat_testBit,
        Nat.shiftRight_eq_div_pow]
      exact Nat.and_one_is_mod _
    have held := Bits.and_single controller.index.toNat controller.buttons mask
    rw [latched, found, ← UInt8.toNat_inj, shifted, ← held]
    by_cases clear : controller.buttons &&& button.mask = 0
    · simp [clear]
    · simp [clear]
  · rename_i past
    have place : 8 ≤ controller.index.toNat :=
      UInt8.le_iff_toNat_le.mp (UInt8.not_lt.mp past)
    rw [latched_of_le place]

end Controller

/-! ### Both ports -/

/-- What happens at the ports: the host holds other buttons, the program writes the strobe or reads
a port. -/
inductive PortEvent where
  | hold (port : Nat) (buttons : UInt8)
  | strobe (data : UInt8)
  | read (port : Fin 2)
  /-- The rest of the machine becomes another one, as when the program has run on. -/
  | exchange (rest : System)

/-- What is plugged into a port. -/
def System.controller (system : System) (port : Fin 2) : Controller := system.controllers.get port

namespace PortEvent

def address (port : Fin 2) : UInt16 := 0x4016 + UInt16.ofNat port

def perform (system : System) : PortEvent → System
  | .hold port buttons => system.setButtons port buttons
  | .strobe data => system.write 0x4016 data
  | .read port => (system.read (address port)).2
  | .exchange rest => { rest with controllers := system.controllers }

def follow (start : System) (events : List PortEvent) : System := events.foldl perform start

/-- The bit that a read of the port reports. -/
def report (system : System) (port : Fin 2) : UInt8 := (system.read (address port)).1 &&& 1

/-- The event sets the strobe. -/
def Raises : PortEvent → Prop
  | .strobe data => data &&& 1 ≠ 0
  | _ => False

def holding (port : Fin 2) (buttons : UInt8) : PortEvent → UInt8
  | .hold other changed => if other = port.val then changed else buttons
  | _ => buttons

/-- The buttons that the host holds after a history. -/
def held (port : Fin 2) (events : List PortEvent) : UInt8 := events.foldl (holding port) 0

def strobing (high : Bool) : PortEvent → Bool
  | .strobe data => data &&& 1 != 0
  | _ => high

/-- The strobe is high after a history: the last write to it has set it. -/
def raised (events : List PortEvent) : Bool := events.foldl strobing false

/-- How often the port has been read. -/
def reads (port : Fin 2) (events : List PortEvent) : Nat :=
  events.countP fun event =>
    match event with
    | .read other => other = port
    | _ => false

theorem follow_snoc (start : System) (events : List PortEvent) (event : PortEvent) :
    follow start (events ++ [event]) = perform (follow start events) event :=
  List.foldl_append

/-! ### One port -/

theorem read_port (system : System) (port : Fin 2) :
    system.read (address port) = system.readController port := by
  revert port
  exact Fin.forall_fin_two.mpr ⟨rfl, rfl⟩

/-- What an event does to the controller at a port. -/
def turn (port : Fin 2) (controller : Controller) : PortEvent → Controller
  | .hold other buttons => if other = port.val then controller.hold buttons else controller
  | .strobe data => controller.write data
  | .read other => if other = port then controller.read.2 else controller
  | .exchange _ => controller

/-- The ports are apart from each other but for the strobe. -/
theorem perform_controller (system : System) (event : PortEvent) (port : Fin 2) :
    (perform system event).controller port = turn port (system.controller port) event := by
  cases event with
  | hold other buttons =>
    simp only [perform, turn, System.setButtons]
    split
    · rename_i present
      change (Vector.set _ other _)[port.val] = _
      rw [Vector.getElem_set]
      split
      · rename_i same
        subst same
        rfl
      · rfl
    · rename_i absent
      have other : other ≠ port.val := fun same => absent (same ▸ port.isLt)
      rw [if_neg other]
  | strobe data =>
    change (system.controllers.map (·.write data))[port.val] = _
    exact Vector.getElem_map ..
  | read other =>
    simp only [perform, read_port]
    change (Vector.set _ other.val _)[port.val] = _
    rw [Vector.getElem_set]
    simp only [turn, Fin.ext_iff]
    split
    · rename_i same
      obtain rfl := Fin.ext same
      rfl
    · rfl
  | exchange rest => rfl

/-- A read reports the bit of the controller. -/
theorem report_eq (system : System) (port : Fin 2) :
    report system port = (system.controller port).bit := by
  have value : (system.readController port).1 =
      (system.controller port).bit ||| 0x40 ||| (system.openBus &&& 0xE0) := rfl
  have single : (system.controller port).bit &&& 1 = (system.controller port).bit := by
    unfold Controller.bit
    split
    · rw [UInt8.and_assoc]
      rfl
    · rfl
  have fixed : (0x40 : UInt8) &&& 1 = 0 := rfl
  have upper : (0xE0 : UInt8) &&& 1 = 0 := rfl
  rw [report, read_port, value, Bits.or_and, Bits.or_and, single, UInt8.and_assoc, fixed, upper,
    UInt8.and_zero, UInt8.or_zero, UInt8.or_zero]

/-- What a history has made of a controller. -/
structure Tracks (port : Fin 2) (events : List PortEvent) (controller : Controller) : Prop where
  buttons : controller.buttons = held port events
  strobe : controller.strobe = raised events
  rewound : controller.strobe = true → controller.index = 0

variable {port : Fin 2} {events late : List PortEvent} {controller : Controller}

theorem Tracks.next (tracks : Tracks port events controller) (event : PortEvent) :
    Tracks port (events ++ [event]) (turn port controller event) := by
  obtain ⟨buttons, strobe, rewound⟩ := tracks
  have heldNow : held port (events ++ [event]) = holding port (held port events) event :=
    List.foldl_append
  have raisedNow : raised (events ++ [event]) = strobing (raised events) event :=
    List.foldl_append
  rw [← buttons] at heldNow
  rw [← strobe] at raisedNow
  cases event with
  | hold other changed =>
    simp only [turn, holding] at heldNow ⊢
    split
    · rename_i same
      rw [if_pos same] at heldNow
      exact ⟨heldNow.symm, raisedNow.symm, rewound⟩
    · rename_i apart
      rw [if_neg apart] at heldNow
      exact ⟨heldNow.symm, raisedNow.symm, rewound⟩
  | strobe data =>
    simp only [turn, Controller.write, strobing] at raisedNow ⊢
    split
    · rename_i high
      exact ⟨heldNow.symm, (raisedNow.trans high).symm, fun _ => rfl⟩
    · rename_i low
      rw [Bool.not_eq_true] at low
      exact ⟨heldNow.symm, (raisedNow.trans low).symm, nofun⟩
  | read other =>
    simp only [turn, Controller.read]
    split
    · split
      · rename_i moves
        rw [Bool.and_eq_true, Bool.not_eq_true'] at moves
        exact ⟨heldNow.symm, raisedNow.symm, fun high => absurd (high.symm.trans moves.1) nofun⟩
      · exact ⟨heldNow.symm, raisedNow.symm, rewound⟩
    · exact ⟨heldNow.symm, raisedNow.symm, rewound⟩
  | exchange rest => exact ⟨heldNow.symm, raisedNow.symm, rewound⟩

theorem follow_tracks (cart : Cartridge) (settings : Settings) (port : Fin 2)
    (events : List PortEvent) :
    Tracks port events ((follow (.powerOn cart settings) events).controller port) := by
  induction events using List.reverseRecOn with
  | nil =>
    have fresh : (System.powerOn cart settings).controller port = {} := by
      revert port
      exact Fin.forall_fin_two.mpr ⟨rfl, rfl⟩
    rw [follow, List.foldl_nil, fresh]
    exact ⟨rfl, rfl, nofun⟩
  | append_singleton events event ih =>
    rw [follow_snoc, perform_controller]
    exact ih.next event

/-- With the strobe low, only a read of the port moves the place, up to the last button. -/
theorem turn_lowered {event : PortEvent} (lowered : controller.strobe = false)
    (within : controller.index.toNat ≤ 8) (low : ¬ event.Raises) :
    (turn port controller event).strobe = false ∧
      (turn port controller event).index.toNat =
        min (controller.index.toNat + reads port [event]) 8 := by
  have stays : controller.index.toNat = min controller.index.toNat 8 := by omega
  cases event with
  | hold other buttons =>
    simp only [turn]
    split
    · exact ⟨lowered, stays⟩
    · exact ⟨lowered, stays⟩
  | strobe data =>
    have clear : ¬ (data &&& 1 != 0) = true := fun set => low (bne_iff_ne.mp set)
    simp only [turn, Controller.write, if_neg clear]
    exact ⟨trivial, stays⟩
  | read other =>
    by_cases same : other = port
    · have counted : reads port [.read other] = 1 := by simp [reads, same]
      rw [counted, turn, if_pos same]
      simp only [Controller.read, lowered, Bool.not_false, Bool.true_and, decide_eq_true_eq]
      split
      · rename_i before
        have place : controller.index.toNat < 8 := UInt8.lt_iff_toNat_lt.mp before
        refine ⟨rfl, ?_⟩
        rw [UInt8.toNat_add]
        change (controller.index.toNat + 1) % 256 = _
        omega
      · rename_i past
        have place : 8 ≤ controller.index.toNat := UInt8.le_iff_toNat_le.mp (UInt8.not_lt.mp past)
        exact ⟨lowered, by omega⟩
    · have uncounted : reads port [.read other] = 0 := by simp [reads, same]
      rw [uncounted, turn, if_neg same]
      exact ⟨lowered, stays⟩
  | exchange rest => exact ⟨lowered, stays⟩

/-- While the strobe stays low the reads of the port are counted. -/
theorem follow_lowered (start : System) (lowered : (start.controller port).strobe = false)
    (rewound : (start.controller port).index = 0) (low : ∀ event ∈ late, ¬ event.Raises) :
    ((follow start late).controller port).strobe = false ∧
      ((follow start late).controller port).index.toNat = min (reads port late) 8 := by
  induction late using List.reverseRecOn with
  | nil => exact ⟨lowered, congrArg UInt8.toNat rewound⟩
  | append_singleton late event ih =>
    rw [List.forall_mem_append] at low
    obtain ⟨strobe, index⟩ := ih low.1
    have within : ((follow start late).controller port).index.toNat ≤ 8 := by omega
    obtain ⟨still, moved⟩ :=
      @turn_lowered port _ event strobe within (low.2 event (List.mem_singleton_self event))
    have counted : reads port (late ++ [event]) = reads port late + reads port [event] :=
      List.countP_append
    rw [follow_snoc, perform_controller]
    exact ⟨still, by omega⟩

/-! ### Reports -/

/-- Once the strobe has fallen, the next reads report the buttons in their order, as they are held
when they are read, and then ones. -/
theorem report_fallen (cart : Cartridge) (settings : Settings) {data : UInt8}
    (high : raised events = true) (falls : data &&& 1 = 0)
    (low : ∀ event ∈ late, ¬ event.Raises) :
    report (follow (.powerOn cart settings) (events ++ .strobe data :: late)) port =
      Controller.latched (held port (events ++ .strobe data :: late)) (reads port late) := by
  have tracks := follow_tracks cart settings port events
  have fallen : (follow (.powerOn cart settings) (events ++ [.strobe data])).controller port =
      { (follow (.powerOn cart settings) events).controller port with strobe := false } := by
    rw [follow_snoc, perform_controller, turn, Controller.write, falls]
    rfl
  have rewound := tracks.rewound (tracks.strobe.trans high)
  obtain ⟨-, index⟩ := @follow_lowered port late
    (follow (.powerOn cart settings) (events ++ [.strobe data])) (by rw [fallen])
    (by rw [fallen]; exact rewound) low
  have parts : follow (.powerOn cart settings) (events ++ .strobe data :: late) =
      follow (follow (.powerOn cart settings) (events ++ [.strobe data])) late := by
    simp [follow]
  have buttons := (follow_tracks cart settings port (events ++ .strobe data :: late)).buttons
  rw [report_eq, Controller.bit_eq_latched, buttons, parts, index]
  rcases Nat.lt_or_ge (reads port late) 8 with before | past
  · rw [Nat.min_eq_left (Nat.le_of_lt before)]
  · rw [Nat.min_eq_right past, Controller.latched_of_le (Nat.le_refl 8),
      Controller.latched_of_le past]

/-- Since power-on, whatever happens at the ports, a read reports button A as it is held while the
strobe is high. Once the strobe has fallen, and until it is raised again, the reads of a port report
the buttons in their order and then ones, each as it is held when it is read. So a report is that of
the buttons held when the strobe fell exactly if its button is again as it was then, and the ninth
report and later ones always are. -/
theorem reports_held (cart : Cartridge) (settings : Settings) (port : Fin 2) :
    (∀ events, raised events = true →
      report (follow (.powerOn cart settings) events) port =
        Controller.latched (held port events) 0) ∧
    ∀ early data late, raised early = true → data &&& 1 = 0 →
      (∀ event ∈ late, ¬ event.Raises) →
      let system := follow (.powerOn cart settings) (early ++ .strobe data :: late)
      let now := held port (early ++ .strobe data :: late)
      let place := reads port late
      report system port = Controller.latched now place ∧
      (report system port = Controller.latched (held port early) place ↔
        ∀ button, Button.all[place]? = some button →
          (now &&& button.mask = 0 ↔ held port early &&& button.mask = 0)) := by
  constructor
  · intro events high
    obtain ⟨buttons, strobe, rewound⟩ := follow_tracks cart settings port events
    rw [report_eq, Controller.bit_eq_latched, buttons, rewound (strobe.trans high)]
    rfl
  · intro early data late high falls low system now place
    have reported : report system port = Controller.latched now place :=
      report_fallen cart settings high falls low
    refine ⟨reported, ?_⟩
    rw [reported]
    exact Controller.latched_eq_iff ..

/-- Left is pressed and let go between seven reads of a port where Right is held, and the buttons of
the other port change. -/
def taps (port other : Fin 2) : List PortEvent :=
  [.read port, .hold port 0xC0, .read port, .read port, .hold other 0xFF, .read other, .read port,
    .hold port 0x80, .strobe 2, .read port, .read port, .read port]

/-- The eighth read reports Right as it was held when the strobe fell. -/
theorem reports_held_right :
    raised [.hold 0 0x80, .strobe 1] = true ∧ (∀ event ∈ taps 0 1, ¬ event.Raises) ∧
      reads 0 (taps 0 1) = 7 ∧
      report (follow (.powerOn .idle {}) ([.hold 0 0x80, .strobe 1] ++ .strobe 0 :: taps 0 1)) 0 =
        1 := by
  have low : ∀ event ∈ taps 0 1, ¬ event.Raises := by
    simp [taps, Raises]
    rfl
  obtain ⟨now, -⟩ := (reports_held .idle {} 0).2 [.hold 0 0x80, .strobe 1] 0 (taps 0 1) rfl rfl low
  exact ⟨rfl, low, rfl, now⟩

/-- Button A is held when the strobe falls and let go before the first read, which reports it as let
go; a latch would report it. -/
theorem let_go_unreported :
    raised [.hold 0 1, .strobe 1] = true ∧
      report (follow (.powerOn .idle {}) [.hold 0 1, .strobe 1, .strobe 0, .hold 0 0]) 0 = 0 ∧
      Controller.latched (held 0 [.hold 0 1, .strobe 1]) 0 = 1 := by
  refine ⟨rfl, ?_, rfl⟩
  decide +kernel

end PortEvent

end Nes
