import SlottedMac.Arbitration
import SlottedMac.Cadence
import SlottedMac.Config
import SlottedMac.Journal
import SlottedMac.Layout.Placement
import SlottedMac.Stats
import SlottedMac.TimeBase

/-!
# The state of a node

A node keeps a period grid, holds at most one frame that waits and one that is
in flight, and has at most one alarm of each kind in use. The clock, the alarms
and the medium of its host are part of the state, so that an operation of the
node is a function from states to states.
-/

namespace SlottedMac

/-- Why a node could not do as it was asked. -/
inductive NodeError (ε : Type) where
  /-- The bytes do not fit into a frame. -/
  | payloadTooLong
  /-- An alarm could not be armed. -/
  | alarm (error : AlarmError)
  /-- Received bytes are no frame. -/
  | decode (error : DecodeError)
  /-- The settings are not valid. -/
  | config (error : ConfigError)
  /-- The medium refused a beacon. -/
  | medium (error : ε)
deriving DecidableEq, Repr

/-- The answer of an operation to its caller. -/
abbrev Reply (ε : Type) := Except (NodeError ε) Unit

/-- A data frame that the medium has accepted and not yet completed. -/
structure InFlight where
  token : Token
  /-- Whether the node was synchronized when the frame was accepted. -/
  synchronized : Bool
deriving DecidableEq, Repr

/-- A node over a medium with state `M`. -/
structure Node (M : Type) where
  address : Address
  config : Config
  /-- The owned slot. -/
  slot : UInt16
  medium : M
  alarms : AlarmClock
  words : WordSource
  /-- Number of the next frame. -/
  seq : UInt8 := 0
  time : TimeBase := .initial
  cadence : Cadence
  outbox : Outbox := none
  arbitration : Arbitration := .idle
  inFlight : Option InFlight := none
  /-- Handle of the slot alarm in use. -/
  slotAlarm : Option Nat := none
  /-- Fine reading at which the slot alarm is expected. -/
  slotDeadline : Ticks := 0
  /-- Handle of the beacon alarm in use. -/
  beaconAlarm : Option Nat := none
  stats : Stats := {}
  events : EventQueue := []
  /-- Room in which frames are written. -/
  buffer : List UInt8 := List.replicate maxFrame 0
  journal : Journal := []

namespace Node

variable {M ε : Type}

/-- Set a node up. Its address decides which slot it owns. -/
def create (address : Address) (config : Config) (medium : M) (alarms : AlarmClock)
    (words : WordSource) : Except Fault (Except (NodeError ε) (Node M)) :=
  match config.check with
  | .error e => .ok (.error (.config e))
  | .ok () => do
    let slot ← config.layout.slotOf address
    let cadence := { interval := config.beaconInterval, initialDelay := config.initialBeaconDelay }
    return .ok { address, config, slot, medium, alarms, words, cadence }

/-- The fine reading now. -/
def fineNow (n : Node M) : Ticks := fine n.alarms.now

/-- The coarse reading now. -/
def coarseNow (n : Node M) : Ticks := coarse n.alarms.now

/-- Whether a beacon stands behind the period grid. -/
def isSynchronized (n : Node M) : Bool := n.time.synchronized

/-- The status of the waiting frame now. -/
def waiting (n : Node M) : Option WaitingStatus := n.outbox.status n.fineNow

/-- Time between two looks at the channel; a node never polls it. -/
def samplingInterval (_ : Node M) : Ticks := 0

/-- Set the clock of the host. -/
def setClock (n : Node M) (time : Nat) : Node M :=
  { n with alarms := { n.alarms with now := time } }

/-- Act on the medium, outside of any operation of the node. -/
def onMedium {α : Type} (n : Node M) (act : M → α × M) : α × Node M :=
  ((act n.medium).1, { n with medium := (act n.medium).2 })

/-- The node as it is set up with valid settings. -/
def fresh (address : Address) (config : Config) (medium : M) (alarms : AlarmClock)
    (words : WordSource) : Node M :=
  { address, config, slot := address % config.layout.slotCount, medium, alarms, words
    cadence := { interval := config.beaconInterval, initialDelay := config.initialBeaconDelay } }

/-- With valid settings a node is set up, and nothing about it goes wrong. -/
theorem create_of_valid {config : Config} (h : config.Valid) (address : Address) (medium : M)
    (alarms : AlarmClock) (words : WordSource) :
    (create address config medium alarms words : Except Fault (Except (NodeError ε) (Node M))) =
      .ok (.ok (fresh address config medium alarms words)) := by
  simp [create, fresh, Config.check_eq_ok_iff.mpr h, h.layout.slotOf_eq, bind, Except.bind, pure,
    Except.pure]

/-- A node is set up only with valid settings. -/
theorem create_eq_ok_iff {address : Address} {config : Config} {medium : M} {alarms : AlarmClock}
    {words : WordSource} {n : Node M} :
    (create address config medium alarms words : Except Fault (Except (NodeError ε) (Node M))) =
        .ok (.ok n) ↔
      config.Valid ∧ n = fresh address config medium alarms words := by
  constructor
  · intro made
    cases checked : config.check with
    | error e => simp [create, checked] at made
    | ok _ =>
      have valid := Config.check_eq_ok_iff.mp checked
      rw [create_of_valid valid] at made
      cases made
      exact ⟨valid, rfl⟩
  · rintro ⟨valid, rfl⟩
    exact create_of_valid valid address medium alarms words

end Node

end SlottedMac
