import SlottedMac.Node.Alarms

/-!
# Servicing the owned slot

Whenever the slot alarm comes, or a beacon moves the grid, the node looks where
it stands against its slot. Inside the slot it sends what waits. In any case it
arms the alarm for the next start of the slot, so that the alarm ticks once a
period. Only the alarm itself counts a period as missed.

A node that is backing off may instead send outside its slot, if it hears
nobody. It does so once; after that it waits for its own slot.
-/

namespace SlottedMac.Node

variable {M ε : Type} [Medium M ε]

/-- Where the node stands against its slot, on a grid brought up to date. -/
def placement (n : Node M) : Except Fault (Placement × Node M) := do
  let time ← n.time.catchUp n.fineNow n.config.layout.period
  let placement ← n.config.layout.place n.slot time.origin n.fineNow
  return (placement, { n with time })

/-- Count a period for the waiting frame, if there is one. -/
def missSlot (n : Node M) : Node M := if n.outbox.isSome then n.deferWaiting else n

/-- Send the waiting frame, if there is one. Where that fails, a periodic look
counts the period. -/
def useSlot (n : Node M) (periodic : Bool) : Except Fault (Node M) :=
  if n.outbox.isSome then do
    let (sent, n) ← n.handOver
    return if periodic && !sent then n.deferWaiting else n
  else
    .ok n

/-- Look at the owned slot, act, and arm the alarm for its next start. The look
is `periodic` when the slot alarm itself asked for it. -/
def attendSlot (n : Node M) (periodic : Bool) : Except Fault (Reply ε × Node M) := do
  let (placement, n) ← n.placement
  match placement.phase with
  | .inside =>
    let n ← n.useSlot periodic
    let delay ← n.config.layout.untilNext n.slot n.time.origin n.fineNow
    return n.armSlotAlarm delay .awaitingSlot
  | .late _ =>
    let n := if periodic then n.missSlot else n
    return n.armSlotAlarm placement.wait .awaitingSlot
  | .early =>
    return n.armSlotAlarm placement.wait .awaitingSlot

/-- Listen to the channel on behalf of a steal. -/
def sense (n : Node M) : Bool × Node M :=
  let (clear, medium) := Medium.channelClear n.medium
  (clear,
    { n with
      medium
      stats.stealAttempts := n.stats.stealAttempts.bump
      journal := .sensed clear :: n.journal })

/-- Send the waiting frame in a slot that may belong to another node. -/
def trySteal (n : Node M) : Except Fault (Node M) :=
  let (clear, n) := n.sense
  match StealDecision.ofSensing clear with
  | .transmit => do
    let (sent, n) ← n.handOver
    return if sent then { n with stats.steals := n.stats.steals.bump } else n
  | .abandon => .ok { n with stats.channelBusy := n.stats.channelBusy.bump }

/-- End a backoff. A backoff that ends inside the owned slot needs no steal. -/
def endBackoff (n : Node M) : Except Fault (Reply ε × Node M) := do
  let (placement, n) ← n.placement
  if placement.isInside || n.outbox.isNone || n.inFlight.isSome then
    n.attendSlot false
  else
    let n ← n.trySteal
    return n.armSlotAlarm placement.wait .awaitingSlot

end SlottedMac.Node
