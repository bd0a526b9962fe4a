import SlottedMac.Node.Transmission

/-!
# Arming the alarms of a node

A node arms an alarm only after it has given back the one it held, so it never
uses two of a kind. A frame must not wait without a slot alarm: where the slot
alarm cannot be armed, the waiting frame is given up.
-/

namespace SlottedMac.Node

variable {M ε : Type}

/-- Arm the slot alarm, on account of `purpose` if a frame waits. -/
def armSlotAlarm (n : Node M) (delay : Ticks) (purpose : Arbitration) : Reply ε × Node M :=
  match (n.alarms.release n.slotAlarm).arm .slot delay with
  | (.ok handle, alarms) =>
    (.ok (),
      { n with
        alarms
        slotAlarm := some handle
        slotDeadline := n.fineNow + delay
        arbitration := if n.outbox.isSome then purpose else .idle
        journal := .slotAlarm delay purpose true :: n.journal })
  | (.error e, alarms) =>
    (.error (.alarm e),
      { n with
        alarms
        slotAlarm := none
        arbitration := .idle
        journal := .slotAlarm delay purpose false :: n.journal }.abandon)

/-- Arm the beacon alarm. -/
def armBeaconAlarm (n : Node M) (delay : Ticks) : Reply ε × Node M :=
  match (n.alarms.release n.beaconAlarm).arm .beacon delay with
  | (.ok handle, alarms) =>
    (.ok (),
      { n with
        alarms
        beaconAlarm := some handle
        journal := .beaconAlarm delay true :: n.journal })
  | (.error e, alarms) =>
    (.error (.alarm e),
      { n with
        alarms
        beaconAlarm := none
        journal := .beaconAlarm delay false :: n.journal })

end SlottedMac.Node
