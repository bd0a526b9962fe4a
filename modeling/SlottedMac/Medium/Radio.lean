import SlottedMac.Medium
import SlottedMac.Radio

/-!
# A radio as a medium

One half-duplex radio serves both channels. It transmits one frame at a time
and refuses another until the host has polled the end of the first; between
transmissions it receives or sleeps, as the last power command asked. Power
commands that come during a transmission are kept until it is over, and to
sense the channel the radio is put into receive mode first.
-/

namespace SlottedMac

/-- What the radio is doing. -/
inductive RadioMode where
  | idle
  | listening
  | transmitting (channel : Channel)
  | sleeping
deriving DecidableEq, Repr

/-- Why a radio medium could not do as it was asked. -/
inductive RadioError (ε : Type) where
  /-- A transmission is still going on. -/
  | busy
  /-- The radio itself failed. -/
  | device (error : ε)
deriving DecidableEq, Repr

/-- A frame that a medium was given, and what it made of it. -/
structure Attempt (ε : Type) where
  channel : Channel
  bytes : List UInt8
  /-- What the radio was doing. -/
  mode : RadioMode
  answer : Except (RadioError ε) Unit

/-- A radio in the service of one node, with an account of the frames it was given
and of every call to the radio. -/
structure RadioMedium (R ε : Type) where
  radio : R
  mode : RadioMode := .idle
  /-- Whether to receive once a transmission is over. -/
  keepOn : Bool := false
  /-- Strongest signal on a channel that counts as clear. -/
  clearThreshold : Int
  /-- Calls to the radio, latest first. -/
  calls : List (RadioCall ε) := []
  /-- Frames that it was given, latest first. -/
  attempts : List (Attempt ε) := []

namespace RadioMedium

variable {R ε : Type} [Transceiver R ε]

/-- Whether a transmission is going on. -/
def isTransmitting (m : RadioMedium R ε) : Bool :=
  match m.mode with
  | .transmitting _ => true
  | _ => false

/-- Go into receive mode. -/
def receive (m : RadioMedium R ε) : Except (RadioError ε) Unit × RadioMedium R ε :=
  let (answer, radio) := Transceiver.startReceive m.radio
  let m := { m with radio, calls := .startReceive answer :: m.calls }
  match answer with
  | .ok () => (.ok (), { m with mode := .listening })
  | .error e => (.error (.device e), m)

/-- Put the radio to sleep. -/
def sleep (m : RadioMedium R ε) : Except (RadioError ε) Unit × RadioMedium R ε :=
  let (answer, radio) := Transceiver.sleep m.radio
  let m := { m with radio, calls := .sleep answer :: m.calls }
  match answer with
  | .ok () => (.ok (), { m with mode := .sleeping })
  | .error e => (.error (.device e), m)

/-- Start to transmit, unless a transmission is going on. -/
def begin (m : RadioMedium R ε) (channel : Channel) (bytes : List UInt8) :
    Except (RadioError ε) Unit × RadioMedium R ε :=
  if m.isTransmitting then
    (.error .busy, m)
  else
    let (answer, radio) := Transceiver.startTransmit m.radio bytes
    let m := { m with radio, calls := .startTransmit bytes answer :: m.calls }
    match answer with
    | .ok () => (.ok (), { m with mode := .transmitting channel })
    | .error e => (.error (.device e), m)

/-- Start to transmit, and write down what came of it. -/
def transmit (m : RadioMedium R ε) (channel : Channel) (bytes : List UInt8) :
    Except (RadioError ε) Unit × RadioMedium R ε :=
  let (answer, next) := m.begin channel bytes
  (answer, { next with attempts := { channel, bytes, mode := m.mode, answer } :: m.attempts })

/-- Leave a transmission that is over, for receive mode if the radio is to stay
on. A radio that fails to receive is left idle. -/
def endTransmission (m : RadioMedium R ε) : RadioMedium R ε :=
  let m := { m with mode := .idle }
  if m.keepOn then m.receive.2 else m

/-- The channel and end of the transmission, once it is over. A radio that
fails while it transmits has ended the transmission too. -/
def pollTransmit (m : RadioMedium R ε) : Option (Channel × Completion) × RadioMedium R ε :=
  match m.mode with
  | .transmitting channel =>
    let (answer, radio) := Transceiver.checkTransmit m.radio
    let m := { m with radio, calls := .checkTransmit answer :: m.calls }
    match answer with
    | .ok false => (none, m)
    | .ok true => (some (channel, .ok), m.endTransmission)
    | .error _ => (some (channel, .failed), m.endTransmission)
  | _ => (none, m)

/-- The frame that has come in, if any, cut to `room` bytes. -/
def pollReceive (m : RadioMedium R ε) (room : Nat) :
    Except (RadioError ε) (Option Reception) × RadioMedium R ε :=
  if m.mode ≠ .listening then
    (.ok none, m)
  else
    let (answer, radio) := Transceiver.checkReceive m.radio true
    let m := { m with radio, calls := .checkReceive true answer :: m.calls }
    match answer with
    | .error e => (.error (.device e), m)
    | .ok false => (.ok none, m)
    | .ok true =>
      let (answer, radio) := Transceiver.takeReceived m.radio room
      let m := { m with radio, calls := .takeReceived room answer :: m.calls }
      match answer with
      | .error e => (.error (.device e), m)
      | .ok found => (.ok (some found), m)

/-- Receive from now on. During a transmission this is kept for its end. -/
def powerOn (m : RadioMedium R ε) : Bool × RadioMedium R ε :=
  let m := { m with keepOn := true }
  if m.isTransmitting then
    (true, m)
  else
    let (answer, m) := m.receive
    (answer.isOk, m)

/-- Sleep from now on, or receive if the radio is to be kept on. During a
transmission this is kept for its end. -/
def powerOff (m : RadioMedium R ε) (keepOn : Bool) : Bool × RadioMedium R ε :=
  if keepOn then
    m.powerOn
  else
    let m := { m with keepOn := false }
    if m.isTransmitting then
      (true, m)
    else
      let (answer, m) := m.sleep
      (answer.isOk, m)

/-- Measure the channel. A failing radio has not heard that it is clear. -/
def measureClear (m : RadioMedium R ε) : Bool × RadioMedium R ε :=
  let (answer, radio) := Transceiver.pollRssi m.radio
  let m := { m with radio, calls := .pollRssi answer :: m.calls }
  match answer with
  | .ok rssi => (decide (rssi ≤ m.clearThreshold), m)
  | .error _ => (false, m)

/-- Listen whether the channel is clear, in receive mode. A radio that
transmits, or that fails to receive, hears nothing and is not asked. -/
def channelClear (m : RadioMedium R ε) : Bool × RadioMedium R ε :=
  match m.mode with
  | .transmitting _ => (false, m)
  | .listening => m.measureClear
  | _ =>
    match m.receive with
    | (.ok (), m) => m.measureClear
    | (.error _, m) => (false, m)

instance : Medium (RadioMedium R ε) (RadioError ε) where
  transmit := transmit
  powerOn := powerOn
  powerOff := powerOff
  channelClear := channelClear

end RadioMedium

end SlottedMac
