import SlottedMac.Alarm
import SlottedMac.Arbitration
import SlottedMac.Event

/-!
# The journal of a node

A node writes down what it does as it does it: frames taken over and handed on,
the channel sensed, alarms asked for, reports made. No decision of the node
reads the journal. It is there so that a statement about a whole run can be
made of the state in which the run ends.
-/

namespace SlottedMac

/-- A frame handed to the medium, with the state of the node at that moment. -/
structure Submission where
  channel : Channel
  /-- The written frame. -/
  bytes : List UInt8
  /-- Whether the medium took it. -/
  accepted : Bool
  /-- True time. -/
  time : Nat
  /-- Start of the period grid in force. -/
  origin : Ticks
  /-- Whether the node was synchronized. -/
  synchronized : Bool
  /-- The waiting frame that was handed over; none for a beacon. -/
  queued : Option QueuedFrame
deriving DecidableEq, Repr

/-- One deed of a node. -/
inductive JournalEntry where
  /-- The node was started. -/
  | started (time : Nat)
  /-- A frame was taken over from the layers above. -/
  | captured (frame : QueuedFrame) (time : Nat)
  /-- A frame was handed to the medium. -/
  | submitted (submission : Submission)
  /-- The channel was sensed. -/
  | sensed (clear : Bool)
  /-- A beacon of the coordinator came in. -/
  | followed (header : Header)
  /-- The period grid was started anew. -/
  | gridRestarted (time : Nat)
  /-- A slot alarm was asked for, on account of `purpose`. -/
  | slotAlarm (delay : Ticks) (purpose : Arbitration) (granted : Bool)
  /-- A beacon alarm was asked for. -/
  | beaconAlarm (delay : Ticks) (granted : Bool)
  /-- The medium completed the frame in flight. -/
  | completed (token : Token)
  /-- A report was queued. -/
  | posted (event : Event)
  /-- A report was turned away by a full queue. -/
  | dropped (event : Event)
  /-- A report was fetched. -/
  | fetched (event : Event)
deriving DecidableEq, Repr

/-- The deeds of a node, latest first. -/
abbrev Journal := List JournalEntry

namespace JournalEntry

/-- The frame handed over, if the deed was that. -/
@[simp] def submission? : JournalEntry → Option Submission
  | .submitted submission => some submission
  | _ => none

/-- The frame taken over, if the deed was that. -/
@[simp] def captured? : JournalEntry → Option QueuedFrame
  | .captured frame _ => some frame
  | _ => none

/-- The report queued, if the deed was that. -/
@[simp] def posted? : JournalEntry → Option Event
  | .posted event => some event
  | _ => none

/-- The report turned away, if the deed was that. -/
@[simp] def dropped? : JournalEntry → Option Event
  | .dropped event => some event
  | _ => none

/-- The report fetched, if the deed was that. -/
@[simp] def fetched? : JournalEntry → Option Event
  | .fetched event => some event
  | _ => none

end JournalEntry

namespace Journal

/-- What one kind of deed was about, oldest first. -/
def collect {α : Type} (j : Journal) (about : JournalEntry → Option α) : List α :=
  j.reverse.filterMap about

@[simp] theorem collect_nil {α : Type} (about : JournalEntry → Option α) :
    collect [] about = [] := rfl

@[simp] theorem collect_cons {α : Type} (about : JournalEntry → Option α) (entry : JournalEntry)
    (j : Journal) : collect (entry :: j) about = j.collect about ++ (about entry).toList := by
  simp only [collect, List.reverse_cons, List.filterMap_append]
  cases found : about entry <;> simp [found]

/-- Frames handed to the medium, oldest first. -/
def submissions (j : Journal) : List Submission := j.collect JournalEntry.submission?

/-- Frames taken over from the layers above, oldest first. -/
def captured (j : Journal) : List QueuedFrame := j.collect JournalEntry.captured?

/-- Reports queued, oldest first. -/
def posted (j : Journal) : List Event := j.collect JournalEntry.posted?

/-- Reports turned away, oldest first. -/
def dropped (j : Journal) : List Event := j.collect JournalEntry.dropped?

/-- Reports fetched, oldest first. -/
def fetched (j : Journal) : List Event := j.collect JournalEntry.fetched?

section Cons

variable (entry : JournalEntry) (j : Journal)

@[simp] theorem submissions_cons :
    submissions (entry :: j) = j.submissions ++ entry.submission?.toList :=
  collect_cons ..

@[simp] theorem captured_cons : captured (entry :: j) = j.captured ++ entry.captured?.toList :=
  collect_cons ..

@[simp] theorem posted_cons : posted (entry :: j) = j.posted ++ entry.posted?.toList :=
  collect_cons ..

@[simp] theorem dropped_cons : dropped (entry :: j) = j.dropped ++ entry.dropped?.toList :=
  collect_cons ..

@[simp] theorem fetched_cons : fetched (entry :: j) = j.fetched ++ entry.fetched?.toList :=
  collect_cons ..

end Cons

end Journal

end SlottedMac
