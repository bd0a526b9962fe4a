import Mathlib.Data.Fintype.Basic
import SlottedMac.Proofs.Alarms

/-!
# A coordinator and its members

The nodes of a network share one clock, which stands still while things happen
and goes on between them, never past a callback that is due. Members hear what
the coordinator has on the air at the moment, each one or not; nothing else that
is received is a time reference.

What may happen is given by a rule. `Allowed` is the rule that everything in
this network obeys; the two rules after it are further demands on the host of
the coordinator and on those of the members.
-/

namespace SlottedMac

/-- The stations of a network. -/
inductive Station (ι : Type) where
  | coordinator
  | member (i : ι)
deriving DecidableEq

instance {ι : Type} {P : Station ι → Prop} [Decidable (P .coordinator)]
    [Decidable (∀ i, P (.member i))] : Decidable (∀ x, P x) :=
  decidable_of_iff (P .coordinator ∧ ∀ i, P (.member i))
    ⟨fun h x => match x with
      | .coordinator => h.1
      | .member i => h.2 i,
    fun h => ⟨h .coordinator, fun i => h (.member i)⟩⟩

/-- How a network is set up: one configuration for all, apart from the role. -/
structure Plan (ι : Type) where
  settings : Config
  address : Station ι → Address

/-- What a station does about the time reference. -/
def Plan.role {ι : Type} (plan : Plan ι) : Station ι → Role
  | .coordinator => .coordinator
  | .member _ => .member (plan.address .coordinator)

/-- The settings of a station. -/
def Plan.config {ι : Type} (plan : Plan ι) (x : Station ι) : Config :=
  { plan.settings with role := plan.role x }

/-- The slot that a station owns. -/
def Plan.slot {ι : Type} (plan : Plan ι) (x : Station ι) : UInt16 :=
  plan.address x % plan.settings.layout.slotCount

/-- Nodes on one clock. -/
structure Network (ι M : Type) where
  /-- True time. -/
  now : Nat
  node : Station ι → Node M

/-- What can happen in a network. -/
inductive Move (ι M : Type) where
  /-- The clock goes on. -/
  | elapse (time : Nat)
  /-- Something happens to one node. -/
  | undergo (x : Station ι) (stimulus : Stimulus M)
  /-- A member hears a frame of the coordinator. -/
  | hear (i : ι) (frame : Submission)

/-- Whether the coordinator is started. -/
def Move.starts {ι M : Type} : Move ι M → Bool
  | .undergo .coordinator (.operate .start) => true
  | _ => false

namespace Node

variable {M : Type}

/-- The beacons of a node that the medium accepted, oldest first. -/
def beacons (n : Node M) : List Submission :=
  n.journal.submissions.filter fun s => s.channel = .beacon ∧ s.accepted = true

/-- The beacons of a node that are on the air at this moment. -/
def onAir (n : Node M) : List Submission := n.beacons.filter fun s => s.time = n.alarms.now

/-- What may happen to a node whose host lets callbacks come exactly when they
are due, as long as the node hears no time reference. -/
def Prompt (n : Node M) : Stimulus M → Prop
  | .operate (.alarmFired _) => False
  | .operate (.receive bytes) => n.heard? bytes = none
  | .operate _ => True
  | .fire kind => (n.alarms.first? kind).map (·.due) = some n.alarms.now
  | .lose _ => False
  | .clock _ => False
  | .refuse _ _ => True
  | .medium _ => True

instance (n : Node M) (stimulus : Stimulus M) : Decidable (n.Prompt stimulus) :=
  match stimulus with
  | .operate (.receive bytes) => inferInstanceAs (Decidable (n.heard? bytes = none))
  | .fire kind =>
    inferInstanceAs (Decidable ((n.alarms.first? kind).map (·.due) = some n.alarms.now))
  | .operate (.alarmFired _) | .lose _ | .clock _ => .isFalse id
  | .operate .start | .operate (.send ..) | .operate (.complete ..) | .operate .poll
  | .operate .powerOn | .operate (.powerOff _) | .refuse .. | .medium _ => .isTrue trivial

end Node

namespace Network

variable {ι M ε : Type} [DecidableEq ι]

/-- The network with another state of one node. -/
def update (net : Network ι M) (x : Station ι) (n : Node M) : Network ι M :=
  { net with node := Function.update net.node x n }

@[simp] theorem update_node_self (net : Network ι M) (x : Station ι) (n : Node M) :
    (net.update x n).node x = n := Function.update_self ..

theorem update_node_of_ne {x y : Station ι} (ne : y ≠ x) (net : Network ι M) (n : Node M) :
    (net.update x n).node y = net.node y := Function.update_of_ne ne ..

/-- Let something happen. -/
def apply [Medium M ε] (net : Network ι M) : Move ι M → Except Fault (Network ι M)
  | .elapse time => .ok { now := time, node := fun x => (net.node x).setClock time }
  | .undergo x stimulus => return net.update x (← (net.node x).undergo stimulus).2
  | .hear i frame =>
    return net.update (.member i)
      (← (net.node (.member i)).undergo (.operate (.receive frame.bytes))).2

/-- The rule of every network: callbacks come when they are due, and members
hear only what is on the air. -/
def Allowed (net : Network ι M) : Move ι M → Prop
  | .elapse time => net.now ≤ time ∧ ∀ x, ∀ k ∈ (net.node x).alarms.live, time ≤ k.due
  | .undergo x stimulus => (net.node x).Prompt stimulus
  | .hear _ frame => frame ∈ (net.node .coordinator).onAir

/-- The coordinator is not started anew while anybody relies on its beacons. -/
def Steadfast (net : Network ι M) (move : Move ι M) : Prop :=
  move.starts = true →
    (∀ i, (net.node (.member i)).time.synchronized = false) ∧ (net.node .coordinator).onAir = []

/-- A member that holds sync when it hears a beacon is granted its watchdog. -/
def Watched (net : Network ι M) : Move ι M → Prop
  | .hear i _ =>
    (net.node (.member i)).time.synchronized = true →
      (net.node (.member i)).alarms.beaconRefusal = none
  | _ => True

/-- The rule of networks in which beacons can be relied on. -/
def Orderly (net : Network ι M) (move : Move ι M) : Prop :=
  net.Allowed move ∧ net.Steadfast move ∧ net.Watched move

/-- All nodes have just been set up, with no callback to come. -/
def Begins [Medium M ε] (plan : Plan ι) (net : Network ι M) : Prop :=
  ∀ x, ∃ (medium : M) (alarms : AlarmClock) (words : WordSource),
    alarms.now = net.now ∧ alarms.live = [] ∧
      Node.create (plan.address x) (plan.config x) medium alarms words =
        .ok (.ok (net.node x) : Except (NodeError ε) (Node M))

/-- The networks that come about under a rule. -/
inductive Reachable [Medium M ε] (plan : Plan ι) (rule : Network ι M → Move ι M → Prop) :
    Network ι M → Prop where
  | begin {net : Network ι M} (begins : net.Begins plan) : Reachable plan rule net
  | move {net next : Network ι M} (move : Move ι M) (reachable : Reachable plan rule net)
      (ruled : rule net move) (done : net.apply move = .ok next) : Reachable plan rule next

/-! ## Runs that can be computed -/

section Decidable

variable [Fintype ι] (net : Network ι M) (move : Move ι M)

instance : Decidable (net.Allowed move) :=
  match move with
  | .elapse time =>
    inferInstanceAs (Decidable (_ ∧ ∀ x, ∀ k ∈ (net.node x).alarms.live, time ≤ k.due))
  | .undergo x stimulus => inferInstanceAs (Decidable ((net.node x).Prompt stimulus))
  | .hear _ frame => inferInstanceAs (Decidable (frame ∈ (net.node .coordinator).onAir))

instance : Decidable (net.Steadfast move) := inferInstanceAs (Decidable (_ → _))

instance : Decidable (net.Watched move) :=
  match move with
  | .hear _ _ => inferInstanceAs (Decidable (_ → _))
  | .elapse _ | .undergo .. => .isTrue trivial

instance : Decidable (net.Orderly move) := inferInstanceAs (Decidable (_ ∧ _))

end Decidable

section Replay

variable [Medium M ε] {rule : Network ι M → Move ι M → Prop}
  [∀ net move, Decidable (rule net move)]

/-- Go through moves, unless one of them is against the rule. -/
def replay (rule : Network ι M → Move ι M → Prop) [∀ net move, Decidable (rule net move)]
    (net : Network ι M) : List (Move ι M) → Option (Network ι M)
  | [] => some net
  | move :: rest =>
    if rule net move then
      match net.apply move with
      | .ok next => replay rule next rest
      | .error _ => none
    else
      none

theorem Reachable.replay {plan : Plan ι} {net next : Network ι M} {moves : List (Move ι M)}
    (reachable : Reachable plan rule net) (done : net.replay rule moves = some next) :
    Reachable plan rule next := by
  induction moves generalizing net with
  | nil =>
    cases done
    exact reachable
  | cons move rest ih =>
    rw [Network.replay] at done
    split at done
    · next ruled =>
      split at done
      · next applied => exact ih (reachable.move move ruled applied) done
      · cases done
    · cases done

end Replay

/-- A network on media that take everything, just set up. -/
def initial (plan : Plan ι) : Network ι RecordingMedium where
  now := 0
  node x := Node.fresh (plan.address x) (plan.config x) {} {} (.cycle [])

/-- What a computed run leads to is reachable. -/
theorem exists_reachable {plan : Plan ι} (valid : ∀ x, (plan.config x).Valid)
    {rule : Network ι RecordingMedium → Move ι RecordingMedium → Prop}
    [∀ net move, Decidable (rule net move)] (moves : List (Move ι RecordingMedium))
    {P : Network ι RecordingMedium → Prop} [DecidablePred P]
    (found : ((initial plan).replay rule moves).any (P ·) = true) :
    ∃ net, Reachable plan rule net ∧ P net := by
  have begins : (initial plan).Begins plan := fun x =>
    ⟨{}, {}, .cycle [], rfl, rfl, Node.create_of_valid (valid x) _ _ _ _⟩
  obtain ⟨net, done, holds⟩ := (Option.any_eq_true ..).mp found
  exact ⟨net, (Reachable.begin begins).replay done, of_decide_eq_true holds⟩

end Network

end SlottedMac
