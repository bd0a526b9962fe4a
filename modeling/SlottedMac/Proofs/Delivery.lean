import SlottedMac.Proofs.Frame
import SlottedMac.Proofs.Transmissions

/-!
# What a receiver is given

A data frame leaves a receiver as it came into the sender: in one report, with the
address of the sender, the destination and the payload, and without any other trace.
There is one exception. Nothing but the marker tells a beacon, so the marker is
reserved: data that spells it to every node is a time reference for the members
that follow the sender. For all others it is data still.
-/

namespace SlottedMac

namespace Journal

/-- A launch is found where it was written down. -/
theorem split_of_mem_launches {j : Journal} {s : Submission} (mem : s ∈ j.launches) :
    ∃ later earlier, j = later ++ .submitted s :: earlier ∧ s.channel = .data := by
  induction j with
  | nil => cases mem
  | cons entry j ih =>
    rw [launches_cons, List.mem_append] at mem
    rcases mem with before | last
    · obtain ⟨later, earlier, split, data⟩ := ih before
      exact ⟨entry :: later, earlier, by rw [split, List.cons_append], data⟩
    · cases entry with
      | submitted submission =>
        simp only [JournalEntry.launch?, Option.mem_toList] at last
        split at last
        · next launch =>
          cases last
          exact ⟨[], j, rfl, launch.1⟩
        · cases last
      | _ => cases last

end Journal

/-- What is to be sent was handed to the node as an operation. -/
theorem operate_of_mem_requests {M : Type} {stimuli : List (Stimulus M)} {token : Token}
    {destination : Address} {bytes : List UInt8}
    (asked : (token, destination, bytes) ∈ requests stimuli) :
    .operate (.send token destination bytes) ∈ stimuli := by
  obtain ⟨stimulus, mem, asks⟩ := List.mem_filterMap.mp asked
  obtain ⟨operation, leads, asks⟩ := Option.bind_eq_some_iff.mp asks
  have same : operation = .send token destination bytes := by
    cases operation with
    | send =>
      rw [Operation.request?] at asks
      split at asks <;> cases asks
      rfl
    | _ => cases asks
  subst same
  cases stimulus with
  | operate operation =>
    cases leads
    exact mem
  | _ => cases leads

namespace Node

variable {M ε : Type} {n : Node M} {h : Header} {p : Payload}

theorem followed?_data (n : Node M) (h : Header) (p : Payload) :
    n.followed? (.data h p) = none := by
  cases role : n.config.role <;> simp [followed?, role]

/-- The role alone decides whether a beacon is followed. -/
theorem followed?_beacon (n : Node M) (h : Header) :
    n.followed? (.beacon h) = if n.config.role = .member h.source then some h else none := by
  cases role : n.config.role <;> simp [followed?, role, eq_comm]

/-- The only data that anybody takes for a time reference. -/
theorem heard?_data (n : Node M) (h : Header) (p : Payload) :
    n.heard? (Frame.data h p).bytes =
      if n.config.role = .member h.source ∧ h.destination = .broadcast ∧ p.bytes = beaconMarker
      then some h else none := by
  rw [heard?, Frame.read_bytes]
  simp only [Except.toOption, Option.bind_some]
  by_cases reserved : (Frame.data h p).Misread
  · rw [if_pos reserved, Frame.twin, followed?_beacon]
    exact if_congr (and_iff_left reserved).symm rfl rfl
  · rw [if_neg reserved, followed?_data, if_neg fun both => reserved both.2]

/-- Data that is not taken for a time reference is passed on as it is. -/
theorem receive_data [Medium M ε] (unheard : n.heard? (Frame.data h p).bytes = none) :
    (n.receive (Frame.data h p).bytes : Except Fault (Reply ε × Node M)) =
      .ok (.ok (), n.post (.received h.source h.destination p)) := by
  rw [heard?, Frame.read_bytes] at unheard
  simp only [Except.toOption, Option.bind_some] at unheard
  rw [receive, Frame.read_bytes]
  simp only [unheard]
  -- a twin carries the same bytes, so the report is the same either way
  split
  · next reserved =>
    have same : (Frame.data h p).twin.payload = p := by
      rw [Payload.mk.injEq]
      exact reserved.payload_twin
    rw [Frame.header_twin, same]
    rfl
  · rfl

end Node

open Node

/-- Whatever has happened to a node, each data frame that its medium accepted carries
one of the messages that it was to send. Any other node that has room for a report,
in whatever state it is, is given that message with the address of the sender, and
nothing else about it changes, unless it follows the sender and the message is the
marker for every node. That message, and no other, it takes for a time reference. -/
theorem data_delivered {M ε : Type} [Medium M ε] {config : Config} (valid : config.Valid)
    (address : Address) (medium : M) (alarms : AlarmClock) (words : WordSource)
    (stimuli : List (Stimulus M)) :
    ∃ answers n, lifetime address config medium alarms words stimuli = .ok (.ok (answers, n)) ∧
      ∀ s ∈ n.journal.launches, ∃ frame, s.queued = some frame ∧
        .operate (.send frame.token frame.destination frame.payload.bytes) ∈ stimuli ∧
        ∀ {M' ε' : Type} [Medium M' ε'] (receiver : Node M'),
          ((receiver.heard? s.bytes).isSome ↔ receiver.config.role = .member address ∧
            frame.destination = .broadcast ∧ frame.payload.bytes = beaconMarker) ∧
          (receiver.heard? s.bytes = none → receiver.events.length < eventCapacity →
            let message := Event.received address frame.destination frame.payload
            (receiver.receive s.bytes : Except Fault (Reply ε' × Node M')) =
              .ok (.ok (), { receiver with
                events := receiver.events ++ [message]
                journal := .posted message :: receiver.journal })) := by
  obtain ⟨answers, n, done, transmits, -⟩ :=
    lifetime_transmits (ε := ε) valid address medium alarms words stimuli
  refine ⟨answers, n, done, fun s mem => ?_⟩
  obtain ⟨later, earlier, split, data⟩ := Journal.split_of_mem_launches mem
  cases transmits.truthful.honest.at_split split s rfl with
  | reference channel => exact nomatch channel.symm.trans data
  | waiting _ frame queued _ bytes =>
    have asked : some frame.request ∈ (requests stimuli).map some := by
      rw [← transmits.asked]
      refine transmits.truthful.supplied.launched.subset (List.mem_map.mpr ⟨s, mem, ?_⟩)
      rw [queued, Option.map_some]
    refine ⟨frame, queued, operate_of_mem_requests ((List.mem_map_of_injective
      (Option.some_injective _)).mp asked), fun receiver => ⟨?_, fun unheard room => ?_⟩⟩
    · rw [bytes, heard?_data]
      simp
    · rw [bytes] at unheard ⊢
      rw [receive_data unheard, post, EventQueue.push?_eq_some_iff.mpr ⟨room, rfl⟩]

/-- Settings of the node that keeps time for the others. -/
def timekeeper : Config := { role := .coordinator }

theorem timekeeper_valid : timekeeper.Valid := Config.check_eq_ok_iff.mp rfl

/-- The node at 1 is to send the marker, and does so in its slot. -/
def spellMarker (destination : Address) : List (Stimulus RecordingMedium) :=
  [.operate (.send 7 destination beaconMarker), .clock 170000, .fire .slot]

/-- A node that follows the one at 1 and has heard nothing yet. -/
def follower : Node RecordingMedium := fresh 3 {} {} {} (.cycle [])

/-- The marker for one node is delivered like anything else, also by the coordinator
that this node follows. -/
theorem data_delivered_marker :
    ∃ answers n,
      lifetime 1 timekeeper ({} : RecordingMedium) {} (.cycle []) (spellMarker 3) =
        .ok (.ok (answers, n)) ∧
      ∃ s, n.journal.launches = [s] ∧
        follower.receive s.bytes =
          .ok (.ok (), { follower with
            events := [.received 1 3 .marker], journal := [.posted (.received 1 3 .marker)] }) := by
  obtain ⟨answers, n, done, delivered⟩ :=
    data_delivered timekeeper_valid 1 ({} : RecordingMedium) {} (.cycle []) (spellMarker 3)
  obtain ⟨_, _, same, sent⟩ :
      ∃ answers n,
        lifetime 1 timekeeper ({} : RecordingMedium) {} (.cycle []) (spellMarker 3) =
          .ok (.ok (answers, n)) ∧
        n.journal.launches.map (·.queued.map (·.request)) = [some (7, 3, beaconMarker)] :=
    exists_lifetime timekeeper_valid (by decide +kernel)
  cases done.symm.trans same
  obtain ⟨s, launched, request⟩ := List.map_eq_singleton_iff.mp sent
  obtain ⟨frame, queued, -, given⟩ := delivered s (by simp [launched])
  simp only [queued, Option.map_some, QueuedFrame.request, Option.some.injEq, Prod.mk.injEq]
    at request
  obtain ⟨-, destination, bytes⟩ := request
  have payload : frame.payload = .marker := (Payload.mk.injEq ..).mpr bytes
  simp only [destination, payload] at given
  refine ⟨answers, n, done, s, launched, ?_⟩
  have unheard : follower.heard? s.bytes = none :=
    Option.not_isSome_iff_eq_none.mp fun heard => nomatch ((given follower).1.mp heard).2.1
  exact (given follower).2 unheard (by decide)

/-- For every node the marker is a time reference, whoever wrote it. The follower
reports nothing and is synchronized afterwards. -/
theorem marker_not_delivered :
    ∃ answers n,
      lifetime 1 timekeeper ({} : RecordingMedium) {} (.cycle []) (spellMarker .broadcast) =
        .ok (.ok (answers, n)) ∧
      ∃ s, n.journal.launches = [s] ∧
        s.queued.map (·.request) = some (7, .broadcast, beaconMarker) ∧
        ∃ after, follower.receive s.bytes = .ok (.ok (), after) ∧
          after.events = [] ∧ follower.isSynchronized = false ∧ after.isSynchronized = true := by
  obtain ⟨answers, n, done, sent⟩ :
      ∃ answers n,
        lifetime 1 timekeeper ({} : RecordingMedium) {} (.cycle []) (spellMarker .broadcast) =
          .ok (.ok (answers, n)) ∧
        n.journal.launches.map (·.queued.map (·.request)) =
            [some (7, .broadcast, beaconMarker)] ∧
          n.journal.launches.map (·.bytes) = [[1, 0, 0xFF, 0xFF, 0] ++ beaconMarker] :=
    exists_lifetime timekeeper_valid (by decide +kernel)
  obtain ⟨s, launched, request⟩ := List.map_eq_singleton_iff.mp sent.1
  have bytes : s.bytes = [1, 0, 0xFF, 0xFF, 0] ++ beaconMarker := by
    simpa [launched] using sent.2
  refine ⟨answers, n, done, s, launched, request, ?_⟩
  rw [bytes]
  exact ⟨_, rfl, rfl, rfl, rfl⟩

end SlottedMac
