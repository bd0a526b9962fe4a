import SlottedMac.Medium
import SlottedMac.Outbox

/-!
# What a node reports

A node reports the end of every frame that it was given, and every frame that
it received for the layers above. Reports wait in a queue until they are
fetched; a queue that is full turns the newest report away.
-/

namespace SlottedMac

/-- What became of a frame that a node was given. -/
inductive Outcome where
  /-- Sent in the owned slot of a shared time reference, or stolen under one. -/
  | ok
  /-- Sent without a shared time reference, so it may have collided. -/
  | unsynchronized
  | collision
  | noAck
  | failed
  /-- Replaced by a newer frame before it was sent. -/
  | cancelled
  /-- Not sent within the periods that it may wait. -/
  | expired
deriving DecidableEq, Repr

/-- The outcome of a transmission. Success counts in full only for a frame that
was sent while the node was synchronized. -/
def Outcome.ofCompletion (completion : Completion) (synchronized : Bool) : Outcome :=
  match completion with
  | .ok => if synchronized then .ok else .unsynchronized
  | .collision => .collision
  | .noAck => .noAck
  | .failed => .failed

/-- A report to the layers above. -/
inductive Event where
  /-- The end of a frame that the node was given. -/
  | sent (token : Token) (outcome : Outcome) (transmissions : UInt8)
  /-- A frame from another node. -/
  | received (source destination : Address) (payload : Payload)
deriving DecidableEq, Repr

/-- Most reports that wait at a time. -/
def eventCapacity : Nat := 15

/-- Reports that wait to be fetched, oldest first. -/
abbrev EventQueue := List Event

namespace EventQueue

/-- Add a report at the end, if there is room. -/
def push? (q : EventQueue) (e : Event) : Option EventQueue :=
  if q.length < eventCapacity then some (q ++ [e]) else none

/-- Fetch the oldest report. -/
def pop? (q : EventQueue) : Option (Event × EventQueue) :=
  match q with
  | [] => none
  | e :: rest => some (e, rest)

theorem push?_eq_some_iff {q r : EventQueue} {e : Event} :
    q.push? e = some r ↔ q.length < eventCapacity ∧ r = q ++ [e] := by
  rw [push?]
  split
  · next room => simp [room, eq_comm]
  · next full => simp [full]

theorem push?_eq_none_iff {q : EventQueue} {e : Event} :
    q.push? e = none ↔ eventCapacity ≤ q.length := by
  simp [push?]

end EventQueue

theorem Outcome.ofCompletion_eq_ok_iff {completion : Completion} {synchronized : Bool} :
    ofCompletion completion synchronized = .ok ↔ completion = .ok ∧ synchronized = true := by
  cases completion <;> cases synchronized <;> simp [ofCompletion]

end SlottedMac
