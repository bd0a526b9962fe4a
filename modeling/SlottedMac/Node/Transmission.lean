import SlottedMac.Node

/-!
# Frames on their way through a node

A frame is captured, waits, and ends in one of three ways: the medium accepts
it and later completes it, it is given up, or a newer frame replaces it. Each
end is reported once. A frame that the medium refuses keeps waiting with its
count of deferrals unchanged, although its sequence number is spent.
-/

namespace SlottedMac.Node

variable {M ε : Type}

/-- Report to the layers above. A report that finds no room is counted. -/
def post (n : Node M) (event : Event) : Node M :=
  match n.events.push? event with
  | some events => { n with events, journal := .posted event :: n.journal }
  | none =>
    { n with
      stats.droppedEvents := n.stats.droppedEvents.bump
      journal := .dropped event :: n.journal }

/-- Report the end of a frame that was not sent. -/
def postUnsent (n : Node M) (frame : QueuedFrame) (outcome : Outcome) : Node M :=
  n.post (.sent frame.token outcome 0)

/-- Let a frame wait to be sent. A frame that waited before is cancelled. -/
def capture (n : Node M) (frame : QueuedFrame) : Node M :=
  let (outbox, replaced) := n.outbox.put frame
  let n := { n with outbox, journal := .captured frame n.alarms.now :: n.journal }
  match replaced with
  | some previous => n.postUnsent previous .cancelled
  | none => n

/-- Give the waiting frame up, since no alarm is left that would look after it. -/
def abandon (n : Node M) : Node M :=
  let (outbox, dropped) := n.outbox.take
  let n := { n with outbox }
  match dropped with
  | some frame => n.postUnsent frame .failed
  | none => n

/-- Count a period in which the waiting frame was not sent. A frame that has
waited through too many is given up. -/
def deferWaiting (n : Node M) : Node M :=
  let (outbox, given) := n.outbox.defer n.config.maxDeferrals
  let n := { n with outbox, stats.deferrals := n.stats.deferrals.bump }
  match given with
  | some frame => { n with stats.expired := n.stats.expired.bump }.postUnsent frame .expired
  | none => n

section Medium

variable [Medium M ε]

/-- Write a frame and hand it to the medium. Its number is spent either way. -/
def submit (n : Node M) (channel : Channel) (frame : Frame) (queued : Option QueuedFrame) :
    Except Fault (Except ε Unit × Node M) := do
  let (buffer, length) ← frame.write n.buffer
  let bytes ← Fault.front buffer length
  let (answer, medium) := Medium.transmit n.medium channel bytes
  let submission : Submission :=
    { channel, bytes, queued
      accepted := answer.isOk
      time := n.alarms.now
      origin := n.time.origin
      synchronized := n.time.synchronized }
  return (answer,
    { n with medium, buffer, seq := n.seq + 1, journal := .submitted submission :: n.journal })

/-- The data frame that carries a waiting frame under the next number. -/
def dataFrame (n : Node M) (waiting : QueuedFrame) : Frame :=
  .data { source := n.address, destination := waiting.destination, seq := n.seq } waiting.payload

/-- Take note that the medium accepted the waiting frame. -/
def launch (n : Node M) (frame : QueuedFrame) : Node M :=
  let delay := n.fineNow.since frame.queuedAt
  { n with
    outbox := none
    inFlight := some { token := frame.token, synchronized := n.time.synchronized }
    stats.lastDelay := delay
    stats.maxDelay := max n.stats.maxDelay delay }

/-- Hand the waiting frame to the medium, unless another one is in flight. The
answer tells whether the medium accepted it. -/
def handOver (n : Node M) : Except Fault (Bool × Node M) :=
  if n.inFlight.isSome then
    .ok (false, n)
  else
    match n.outbox with
    | none => .ok (false, n)
    | some frame => do
      let (answer, n) ← n.submit .data (n.dataFrame frame) (some frame)
      match answer with
      | .ok () => return (true, n.launch frame)
      | .error _ => return (false, { n with stats.refused := n.stats.refused.bump })

end Medium

/-- Take note that the medium completed a frame. Beacons leave no trace, and a
completion that nothing in flight answers to is ignored. -/
def complete (n : Node M) (channel : Channel) (completion : Completion) (transmissions : UInt8) :
    Node M :=
  match channel, n.inFlight with
  | .data, some frame =>
    { n with inFlight := none, journal := .completed frame.token :: n.journal }.post
      (.sent frame.token (.ofCompletion completion frame.synchronized) transmissions)
  | _, _ => n

/-- Fetch the oldest report. -/
def poll (n : Node M) : Option Event × Node M :=
  match n.events.pop? with
  | some (event, events) => (some event, { n with events, journal := .fetched event :: n.journal })
  | none => (none, n)

end SlottedMac.Node
