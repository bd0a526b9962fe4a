import SlottedMac.Medium.Radio
import SlottedMac.Node.Operation

/-!
# The host of a node

A host lets callbacks come: it takes a callback out of the alarm, brings its
clock to the time at which that happens, and tells the node. How late it is and
in which order it does so is up to the host. A host of a radio also polls it
and passes on what it finds.
-/

namespace SlottedMac

/-- A callback that came during a run. -/
structure Firing (ε : Type) where
  kind : AlarmKind
  /-- True time at which it came. -/
  time : Nat
  reply : Reply ε

/-- What a host of a radio finds when it polls for a frame. -/
inductive Found (ε δ : Type) where
  | nothing
  /-- The radio failed. -/
  | failed (error : RadioError δ)
  /-- A frame was passed on to the node. -/
  | passedOn (reply : Reply ε)

namespace Node

variable {M ε : Type} [Medium M ε]

/-- Let the first callback of a kind come now. Without one nothing happens. -/
def fire (n : Node M) (kind : AlarmKind) : Except Fault (Option (Reply ε) × Node M) :=
  match n.alarms.first? kind with
  | none => .ok (none, n)
  | some _ =>
    return ((← { n with alarms := n.alarms.consume kind }.alarmFired kind).map some id)

/-- Let a callback come `late` microseconds after it is due, or after now if
that has passed. -/
def comeDue (n : Node M) (callback : Callback) (late : Nat) :
    Except Fault (Firing ε × Node M) := do
  let time := max callback.due n.alarms.now + late
  let n := { n with alarms := n.alarms.consume callback.kind }.setClock time
  let (reply, n) ← n.alarmFired callback.kind
  return ({ kind := callback.kind, time, reply }, n)

/-- Let the first callback of a kind come late. Without one nothing happens. -/
def expire (n : Node M) (kind : AlarmKind) (late : Nat) :
    Except Fault (Option (Firing ε) × Node M) :=
  match n.alarms.first? kind with
  | none => .ok (none, n)
  | some callback => return ((← n.comeDue callback late).map some id)

/-- Let callbacks come as they are due, up to the time `limit` and at most
`bound` of them. -/
def runCallbacks (limit : Nat) : (bound : Nat) → Node M → Except Fault (List (Firing ε) × Node M)
  | 0, n => .ok ([], n)
  | bound + 1, n =>
    match n.alarms.next? with
    | none => .ok ([], n)
    | some callback =>
      if callback.due ≤ limit then do
        let (firing, n) ← n.comeDue callback 0
        let (firings, n) ← runCallbacks limit bound n
        return (firing :: firings, n)
      else
        .ok ([], n)

/-- Most callbacks that come in one run. -/
def runBound : Nat := 100

/-- Let callbacks come as they are due, and the clock go on, until `limit`. -/
def run (n : Node M) (limit : Nat) : Except Fault (List (Firing ε) × Node M) := do
  let (firings, n) ← runCallbacks limit runBound n
  return (firings, n.setClock (max n.alarms.now limit))

end Node

namespace Node

variable {R δ : Type} [Transceiver R δ]

/-- Poll the radio for the end of a transmission and pass it on to the node. -/
def serviceTransmit (n : Node (RadioMedium R δ)) :
    Option (Channel × Completion) × Node (RadioMedium R δ) :=
  let (ended, n) := n.onMedium RadioMedium.pollTransmit
  match ended with
  | some (channel, completion) => (ended, n.complete channel completion 1)
  | none => (ended, n)

/-- Poll the radio for a frame and pass it on to the node. -/
def serviceReceive (n : Node (RadioMedium R δ)) :
    Except Fault (Found (RadioError δ) δ × Node (RadioMedium R δ)) :=
  match n.onMedium (RadioMedium.pollReceive · maxFrame) with
  | (.error e, n) => .ok (.failed e, n)
  | (.ok none, n) => .ok (.nothing, n)
  | (.ok (some reception), n) => return ((← n.receive reception.bytes).map .passedOn id)

/-- One pass of a host over its radio: first what was sent, then what came in. -/
def service (n : Node (RadioMedium R δ)) :
    Except Fault ((Option (Channel × Completion) × Found (RadioError δ) δ) ×
      Node (RadioMedium R δ)) := do
  let (ended, n) := n.serviceTransmit
  let (found, n) ← n.serviceReceive
  return ((ended, found), n)

end Node

end SlottedMac
