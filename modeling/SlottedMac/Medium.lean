/-!
# The medium below a node

A node hands its frames to a layer that duty-cycles the radio. That layer may
refuse a frame; a frame that it accepts is completed later, and the host tells
the node so. Beacons travel on a channel of their own, so that a layer which
can keep channels apart may prefer them.
-/

namespace SlottedMac

/-- The logical channel of an outgoing frame. -/
inductive Channel where
  | beacon
  | data
deriving DecidableEq, Repr

/-- How the transmission of an accepted frame ended. -/
inductive Completion where
  | ok
  | collision
  | noAck
  | failed
deriving DecidableEq, Repr

/-- A duty-cycling layer with state `M` that refuses frames with an error `ε`. -/
class Medium (M : Type) (ε : outParam Type) where
  /-- Start to transmit a written frame, or refuse it. -/
  transmit : M → Channel → List UInt8 → Except ε Unit × M
  /-- Switch the radio on. -/
  powerOn : M → Bool × M
  /-- Switch the radio off, or keep it receiving. -/
  powerOff : M → (keepOn : Bool) → Bool × M
  /-- Listen whether the channel is clear now. -/
  channelClear : M → Bool × M

/-- The refusal of a recording medium, which gives no reason. -/
inductive Refusal where
  | refused
deriving DecidableEq, Repr

/-- A medium that keeps what it is given. Its owner sets whether it refuses
frames and whether somebody else is heard. -/
structure RecordingMedium where
  /-- Accepted frames, oldest first. -/
  sent : List (Channel × List UInt8) := []
  busy : Bool := false
  refusing : Bool := false
  on : Bool := false
  /-- Times that the channel was listened to. -/
  sensed : Nat := 0
deriving DecidableEq, Repr

namespace RecordingMedium

/-- Keep a frame, unless frames are refused. -/
def transmit (m : RecordingMedium) (channel : Channel) (bytes : List UInt8) :
    Except Refusal Unit × RecordingMedium :=
  if m.refusing then (.error .refused, m)
  else (.ok (), { m with sent := m.sent ++ [(channel, bytes)] })

/-- Listen, and count that. -/
def channelClear (m : RecordingMedium) : Bool × RecordingMedium :=
  (!m.busy, { m with sensed := m.sensed + 1 })

instance : Medium RecordingMedium Refusal where
  transmit := transmit
  powerOn m := (true, { m with on := true })
  powerOff m keepOn := (true, { m with on := keepOn })
  channelClear := channelClear

end RecordingMedium

end SlottedMac
