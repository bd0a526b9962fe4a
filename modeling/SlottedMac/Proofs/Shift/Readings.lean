import SlottedMac.Journal
import SlottedMac.Cadence
import SlottedMac.Layout.Placement
import SlottedMac.TimeBase

/-!
# Readings of a clock that is ahead

Two nodes may differ in nothing but their clocks, one being some milliseconds
ahead of the other. The fine and the coarse counter of the one are then ahead by
as much, each modulo its own range, so they wrap at different moments. `shift`
takes each part of a node that holds readings to the same part of the node that
is ahead. What the parts compute is a matter of distances between readings, and
these are the same on both sides.
-/

namespace SlottedMac

/-! ## Readings -/

/-- The distance on the fine counter between nodes that are `ahead` milliseconds
apart. -/
def fineAhead (ahead : Nat) : Ticks := fine (1000 * ahead)

/-- The same distance on the coarse counter. -/
def coarseAhead (ahead : Nat) : Ticks := UInt32.ofNat ahead

variable (ahead : Nat)

theorem fine_ahead (time : Nat) : fine (time + 1000 * ahead) = fine time + fineAhead ahead :=
  fine_add time (1000 * ahead)

theorem coarse_ahead (time : Nat) :
    coarse (time + 1000 * ahead) = coarse time + coarseAhead ahead :=
  coarse_add_millis time ahead

namespace TimeBase

/-- The time base of a node that is ahead. -/
def shift (ahead : Nat) (t : TimeBase) : TimeBase :=
  { t with origin := t.origin + fineAhead ahead, lastSync := t.lastSync + coarseAhead ahead }

variable (t : TimeBase)

@[simp] theorem shift_origin : (t.shift ahead).origin = t.origin + fineAhead ahead := rfl

@[simp] theorem shift_synchronized : (t.shift ahead).synchronized = t.synchronized := rfl

@[simp] theorem shift_lastSync : (t.shift ahead).lastSync = t.lastSync + coarseAhead ahead := rfl

theorem ofBeacon_shift (fine coarse : Ticks) :
    ofBeacon (fine + fineAhead ahead) (coarse + coarseAhead ahead) =
      (ofBeacon fine coarse).shift ahead := rfl

theorem dropStale_shift (coarse timeout : Ticks) :
    (t.shift ahead).dropStale (coarse + coarseAhead ahead) timeout =
      ((t.dropStale coarse timeout).1.shift ahead, (t.dropStale coarse timeout).2) := by
  have stale : (t.shift ahead).isStale (coarse + coarseAhead ahead) timeout =
      t.isStale coarse timeout := by
    simp [isStale]
  rw [dropStale, dropStale, stale]
  split <;> rfl

theorem catchUp_shift (now period : Ticks) :
    (t.shift ahead).catchUp (now + fineAhead ahead) period =
      shift ahead <$> t.catchUp now period := by
  have moved (whole : Ticks) : { t.shift ahead with origin := (t.shift ahead).origin + whole } =
      ({ t with origin := t.origin + whole } : TimeBase).shift ahead := by
    simp only [shift, TimeBase.mk.injEq, and_true]
    grind
  simp only [catchUp, shift_origin, Ticks.since_add_right]
  split
  · rfl
  · simp only [map_bind, map_pure, ← moved]
    rfl

end TimeBase

namespace Placement

/-- A placement on a grid that starts later by `distance`. -/
def shift (distance : Ticks) (p : Placement) : Placement :=
  { p with slotStart := p.slotStart + distance }

variable (p : Placement) (distance : Ticks)

@[simp] theorem shift_phase : (p.shift distance).phase = p.phase := rfl

@[simp] theorem shift_wait : (p.shift distance).wait = p.wait := rfl

@[simp] theorem shift_isInside : (p.shift distance).isInside = p.isInside := rfl

end Placement

namespace Layout

variable (l : Layout) (slot : UInt16) (origin now distance : Ticks)

theorem place_shift :
    l.place slot (origin + distance) (now + distance) =
      Placement.shift distance <$> l.place slot origin now := by
  have moved (w : Window) : w.place (origin + distance) = (w.place origin).shift distance := by
    simp only [Window.place, Placement.shift, Placement.mk.injEq, true_and, and_true]
    grind
  simp only [place, Ticks.since_add_right, map_bind, map_pure, moved]

theorem untilNext_shift :
    l.untilNext slot (origin + distance) (now + distance) = l.untilNext slot origin now := by
  simp only [untilNext, place_shift, bind_map_left, Placement.shift, Ticks.since_add_right]

end Layout

namespace Cadence

/-- The cadence of a node that is ahead. -/
def shift (ahead : Nat) (c : Cadence) : Cadence :=
  { c with
    last := c.last.map (· + coarseAhead ahead)
    next := c.next + coarseAhead ahead }

variable (c : Cadence) (now : Ticks)

theorem advance_shift :
    (c.shift ahead).advance (now + coarseAhead ahead) =
      Prod.map (shift ahead) id <$> c.advance now := by
  have known : (c.shift ahead).skipped (now + coarseAhead ahead) = c.skipped now := by
    simp [skipped, shift]
  have later (distance : Ticks) :
      c.next + coarseAhead ahead + distance = c.next + distance + coarseAhead ahead := by
    grind
  have next (distance : Ticks) : c.next + distance + coarseAhead ahead + c.interval =
      c.next + distance + c.interval + coarseAhead ahead := by
    grind
  simp only [advance, known, map_bind, map_pure]
  congr 1
  funext skipped
  simp [shift, later, next]

end Cadence

/-! ## Frames and alarms -/

/-- A frame that a node which is ahead has taken over. -/
def QueuedFrame.shift (ahead : Nat) (f : QueuedFrame) : QueuedFrame :=
  { f with queuedAt := f.queuedAt + fineAhead ahead }

/-- The outbox of a node that is ahead. -/
def Outbox.shift (ahead : Nat) (o : Outbox) : Outbox := o.map (QueuedFrame.shift ahead)

namespace Outbox

variable (o : Outbox)

@[simp] theorem shift_none : shift ahead none = none := rfl

@[simp] theorem shift_some (f : QueuedFrame) : shift ahead (some f) = some (f.shift ahead) := rfl

@[simp] theorem shift_isSome : Option.isSome (o.shift ahead) = Option.isSome o := Option.isSome_map

@[simp] theorem shift_isNone : Option.isNone (o.shift ahead) = Option.isNone o := Option.isNone_map

theorem defer_shift (limit : UInt16) :
    (o.shift ahead).defer limit =
      ((o.defer limit).1.shift ahead, (o.defer limit).2.map (QueuedFrame.shift ahead)) := by
  cases o with
  | none => rfl
  | some f =>
    have counted : (f.shift ahead).deferred = f.deferred.shift ahead := rfl
    simp only [shift_some, defer, counted]
    split
    · next stays => rw [if_pos (show f.deferred.deferrals ≤ limit from stays)]; rfl
    · next leaves => rw [if_neg (show ¬ f.deferred.deferrals ≤ limit from leaves)]; rfl

theorem status_shift (now : Ticks) :
    (o.shift ahead).status (now + fineAhead ahead) = o.status now := by
  cases o <;> simp [status, QueuedFrame.status, QueuedFrame.shift]

end Outbox

/-- A callback of a host that is ahead. -/
def Callback.shift (ahead : Nat) (k : Callback) : Callback := { k with due := k.due + 1000 * ahead }

namespace AlarmClock

/-- The clock of a host that is ahead. -/
def shift (ahead : Nat) (c : AlarmClock) : AlarmClock :=
  { c with now := c.now + 1000 * ahead, live := c.live.map (Callback.shift ahead) }

variable (c : AlarmClock) (kind : AlarmKind)

theorem arm_shift (delay : Ticks) :
    (c.shift ahead).arm kind delay =
      ((c.arm kind delay).1, (c.arm kind delay).2.shift ahead) := by
  have refused : (c.shift ahead).refusal kind = c.refusal kind := by cases kind <;> rfl
  have due : c.now + 1000 * ahead + delay.toNat * kind.resolution =
      c.now + delay.toNat * kind.resolution + 1000 * ahead := Nat.add_right_comm ..
  rw [arm, arm, refused]
  split
  · rfl
  · simp [shift, upcoming, Callback.shift, due]

theorem cancel_shift (handle : Nat) :
    (c.shift ahead).cancel handle = (c.cancel handle).shift ahead := by
  have same : (fun k : Callback => k.handle == handle) ∘ Callback.shift ahead =
      (·.handle == handle) := rfl
  simp only [cancel, shift, List.any_map, List.eraseP_map, same]
  split <;> rfl

theorem release_shift (held : Option Nat) :
    (c.shift ahead).release held = (c.release held).shift ahead := by
  cases held with
  | none => rfl
  | some handle => exact c.cancel_shift ahead handle

theorem consume_shift : (c.shift ahead).consume kind = (c.consume kind).shift ahead := by
  have same : (fun k : Callback => k.kind == kind) ∘ Callback.shift ahead = (·.kind == kind) := rfl
  simp only [consume, shift, List.eraseP_map, same]

theorem first?_shift :
    (c.shift ahead).first? kind = (c.first? kind).map (Callback.shift ahead) := by
  have same : (fun k : Callback => k.kind == kind) ∘ Callback.shift ahead = (·.kind == kind) := rfl
  simp only [first?, shift, List.find?_map, same]

theorem refuse_shift (error : Option AlarmError) :
    (c.shift ahead).refuse kind error = (c.refuse kind error).shift ahead := by
  cases kind <;> rfl

end AlarmClock

/-- A submission of a node that is ahead. -/
def Submission.shift (ahead : Nat) (s : Submission) : Submission :=
  { s with
    time := s.time + 1000 * ahead
    origin := s.origin + fineAhead ahead
    queued := s.queued.map (QueuedFrame.shift ahead) }

/-- A deed of a node that is ahead. -/
def JournalEntry.shift (ahead : Nat) : JournalEntry → JournalEntry
  | .started time => .started (time + 1000 * ahead)
  | .captured frame time => .captured (frame.shift ahead) (time + 1000 * ahead)
  | .submitted submission => .submitted (submission.shift ahead)
  | .gridRestarted time => .gridRestarted (time + 1000 * ahead)
  | entry => entry

/-- A deed without the readings at which it was done. -/
def JournalEntry.timeless : JournalEntry → JournalEntry
  | .started _ => .started 0
  | .captured frame _ => .captured { frame with queuedAt := 0 } 0
  | .submitted submission =>
    .submitted
      { submission with
        time := 0
        origin := 0
        queued := submission.queued.map ({ · with queuedAt := 0 }) }
  | .gridRestarted _ => .gridRestarted 0
  | entry => entry

theorem JournalEntry.timeless_shift (entry : JournalEntry) :
    (entry.shift ahead).timeless = entry.timeless := by
  cases entry with
  | submitted submission =>
    simp only [shift, Submission.shift, timeless, Option.map_map]
    rfl
  | _ => rfl

end SlottedMac
