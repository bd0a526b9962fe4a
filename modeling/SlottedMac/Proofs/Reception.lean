import SlottedMac.Proofs.Delivery
import SlottedMac.Proofs.Muted
import SlottedMac.Proofs.Unwatched

/-!
# What bytes from the air do

Bytes that come in are no frame, or they are the time reference of a member, or they are for
the layers above. The role of a node and the bytes alone tell which. Only a time reference
changes what the node does; the rest is reported or counted, so that a node does just what it
would have done without hearing any of it.

A time reference is a matter of two alarms. The watchdog is asked for first; if it is refused,
nothing else happens. Then the grid starts anew, and the slot alarm is asked for anew if it is in
use for the slot. Nothing is asked of the host here: it may lose alarms, or have them come twice.
What keeps the new watchdog from being given back with the slot alarm is that no two handles which
a node holds are the same.
-/

namespace SlottedMac

open Node (Deed)

/-- Whether a node in this role takes these bytes for its time reference. -/
def Role.heeds (role : Role) (bytes : List UInt8) : Bool :=
  match role, Frame.read bytes with
  | .member sender, .ok (.beacon header) => header.source == sender
  | _, _ => false

/-- Whether a stimulus is any concern of a node in this role, and not just of the layers
above. -/
def Stimulus.concerns {M : Type} (role : Role) : Stimulus M → Bool
  | .operate (.receive bytes) => role.heeds bytes
  | _ => true

namespace Node

open AlarmClock

variable {M ε : Type} {n m : Node M} {k : Callback} {kind : AlarmKind}

/-! ## Handles -/

/-- What a node holds was handed out to it, and for one kind of alarm only. -/
structure Handed (n : Node M) : Prop where
  older : ∀ kind handle, n.held kind = some handle → handle < n.alarms.nextHandle
  apart : ∀ kind other handle, n.held kind = some handle → n.held other = some handle →
    kind = other

/-- A node that holds nothing new. -/
theorem Handed.of_held (h : n.Handed) (next : m.alarms.nextHandle = n.alarms.nextHandle)
    (held : ∀ kind handle, m.held kind = some handle → n.held kind = some handle) :
    m.Handed where
  older kind handle now := next ▸ h.older kind handle (held kind handle now)
  apart kind other handle now also :=
    h.apart kind other handle (held kind handle now) (held other handle also)

theorem fresh_handed (address : Address) (config : Config) (medium : M) (alarms : AlarmClock)
    (words : WordSource) : (fresh address config medium alarms words).Handed := by
  have nothing : ∀ kind, (fresh address config medium alarms words).held kind = none := by
    intro kind
    cases kind <;> rfl
  constructor
  · intro kind handle held
    cases (nothing kind).symm.trans held
  · intro kind _ handle held
    cases (nothing kind).symm.trans held

theorem Handed.facing (h : n.Handed) (stimulus : Stimulus M) : (n.facing stimulus).Handed := by
  refine h.of_held ?_ ?_
  · cases stimulus with
    | refuse kind error => exact refuse_nextHandle ..
    | _ => rfl
  · intro kind handle held
    cases stimulus <;> cases kind <;> exact held

/-- The node holds this callback, and the host lets it come. -/
def CountsOn (kind : AlarmKind) (k : Callback) (n : Node M) : Prop :=
  k ∈ n.alarms.live ∧ n.held kind = some k.handle

/-- A node counts on a beacon alarm that was granted. -/
theorem armBeaconAlarm_countsOn (granted : n.alarms.refusal .beacon = none) (delay : Ticks) :
    (n.armBeaconAlarm delay : Reply ε × Node M).1 = .ok () ∧
      (n.armBeaconAlarm delay : Reply ε × Node M).2.CountsOn .beacon
        (n.alarms.upcoming .beacon delay) := by
  have free := (n.alarms.release_refusal n.beaconAlarm .beacon).trans granted
  rw [armBeaconAlarm, arm, free, release_upcoming]
  exact ⟨rfl, by simp, congrArg some (release_nextHandle ..)⟩

/-! ## Frames that are given up -/

/-- Reports that frames were given up came to the queue, and no others. -/
def GivesUp (n m : Node M) : Prop :=
  ∃ reports, m.events = n.events ++ reports ∧
    ∀ report ∈ reports, ∃ token, report = .sent token .failed 0

theorem GivesUp.of_events (same : m.events = n.events) : GivesUp n m :=
  ⟨[], by simpa using same, nofun⟩

theorem GivesUp.trans {j : Node M} (h : GivesUp n m) (h' : GivesUp m j) : GivesUp n j := by
  obtain ⟨before, same, given⟩ := h
  obtain ⟨after, same', given'⟩ := h'
  refine ⟨before ++ after, by rw [same', same, List.append_assoc], ?_⟩
  intro report mem
  rcases List.mem_append.mp mem with first | second
  · exact given report first
  · exact given' report second

theorem abandon_givesUp (n : Node M) : GivesUp n n.abandon := by
  rw [abandon]
  dsimp only [Outbox.take]
  cases n.outbox with
  | none => exact .of_events rfl
  | some frame =>
    rw [GivesUp]
    dsimp only
    rw [postUnsent, post_events]
    split
    · exact ⟨[.sent frame.token .failed 0], rfl, by simp⟩
    · exact ⟨[], by simp, by simp⟩

theorem armSlotAlarm_givesUp (n : Node M) (delay : Ticks) (purpose : Arbitration) :
    GivesUp n (n.armSlotAlarm delay purpose : Reply ε × Node M).2 := by
  rw [armSlotAlarm]
  split
  · exact .of_events rfl
  · exact (GivesUp.of_events rfl).trans (abandon_givesUp _)

section Medium

variable [Medium M ε] {kinds : List Deed} {d : Deed}

theorem Step.handed (step : Step d n m) (h : n.Handed) : m.Handed := by
  rcases step.alarms_cases with ⟨alarms, held⟩ | ⟨spent, -, rfl⟩ | ⟨armed, delay, -, alarms, answer,
    others⟩
  · exact h.of_held (by rw [alarms]) fun _ _ now => held ▸ now
  · refine h.of_held (by rw [spent_alarms]) fun kind handle now => ?_
    obtain ⟨gone, rest⟩ := n.spent_held spent
    by_cases same : kind = spent
    · subst same
      cases gone.symm.trans now
    · exact rest kind same ▸ now
  · -- the new handle is the next one, and what else is held is older
    have later : n.alarms.nextHandle ≤ m.alarms.nextHandle := alarms ▸ nextHandle_le_rearm ..
    have new {handle : Nat} (now : m.held armed = some handle) :
        handle = n.alarms.nextHandle ∧ handle < m.alarms.nextHandle :=
      alarms ▸ rearm_toOption (answer.symm.trans now)
    have old {kind : AlarmKind} {handle : Nat} (other : kind ≠ armed)
        (now : m.held kind = some handle) : handle < n.alarms.nextHandle :=
      h.older kind handle (others kind other ▸ now)
    constructor
    · intro kind handle now
      by_cases same : kind = armed
      · subst same
        exact (new now).2
      · exact Nat.lt_of_lt_of_le (old same now) later
    · intro kind other handle now also
      by_cases first : kind = armed
      · by_cases second : other = armed
        · exact first.trans second.symm
        · exact absurd (new (first ▸ now)).1 (Nat.ne_of_lt (old second also))
      · by_cases second : other = armed
        · exact absurd (new (second ▸ also)).1 (Nat.ne_of_lt (old first now))
        · exact h.apart kind other handle (others kind first ▸ now) (others other second ▸ also)

theorem Path.handed (path : Path kinds n m) (h : n.Handed) : m.Handed :=
  path.keeps (fun _ step h => step.handed h) h

/-- A node may count on an alarm until it gives that back itself. -/
theorem Step.countsOn (step : Step d n m) (other : d ∉ [.arm kind, .spend kind]) (handed : n.Handed)
    (h : n.CountsOn kind k) : m.CountsOn kind k := by
  simp only [List.mem_cons, List.not_mem_nil, or_false, not_or] at other
  obtain ⟨live, held⟩ := h
  rcases step.alarms_cases with ⟨alarms, same⟩ | ⟨spent, is, rfl⟩ | ⟨armed, delay, is, alarms, -,
    others⟩
  · exact ⟨alarms ▸ live, same ▸ held⟩
  · have ne : kind ≠ spent := fun same => other.2 (same ▸ is)
    exact ⟨(n.spent_alarms spent).symm ▸ live, ((n.spent_held spent).2 kind ne).trans held⟩
  · have ne : kind ≠ armed := fun same => other.1 (same ▸ is)
    refine ⟨?_, (others kind ne).trans held⟩
    have kept : k ∈ (n.alarms.release (n.held armed)).live := by
      cases back : n.held armed with
      | none => exact live
      | some handle =>
        refine (mem_cancel ?_).mpr live
        rintro rfl
        exact ne (handed.apart kind armed k.handle held back)
    rw [alarms, arm]
    split
    · exact kept
    · exact List.mem_append_left _ kept

theorem Path.countsOn (path : Path kinds n m)
    (other : ∀ d ∈ kinds, d ∉ [.arm kind, .spend kind]) (handed : n.Handed)
    (h : n.CountsOn kind k) : m.CountsOn kind k := by
  refine (path.keeps (P := fun j => j.Handed ∧ j.CountsOn kind k) ?_ ⟨handed, h⟩).2
  rintro a b d mem step ⟨handed, h⟩
  exact ⟨step.handed handed, step.countsOn (other d mem) handed h⟩

theorem undergo_handed (sound : n.Sound) (h : n.Handed) (stimulus : Stimulus M) :
    Yields (n.undergo stimulus) fun out => out.2.Handed := by
  rw [undergo_eq]
  cases n.prompted? stimulus with
  | none => exact Yields.ok_iff.mpr (h.facing stimulus)
  | some operation =>
    refine (perform_yields (sound.facing stimulus) operation).bind fun out done => ?_
    exact Yields.pure_iff.mpr (done.1.handed (h.facing stimulus))

/-! ## The beacon of the coordinator -/

theorem Path.givesUp (path : Path kinds n m)
    (other : ∀ d ∈ kinds, d ∉ [.capture, .defer, .complete, .fetch, .deliver] := by decide) :
    GivesUp n m := by
  refine path.keeps (P := GivesUp n) ?_ (.of_events rfl)
  intro a b d mem step so_far
  refine so_far.trans ?_
  by_cases arms : d = .armSlot
  · subst arms
    cases step with
    | armSlot delay purpose => exact armSlotAlarm_givesUp a delay purpose
  · exact .of_events (step.kept.events (by grind))

/-- Only a frame that is passed on is told of. -/
theorem Path.untold (path : Path kinds n m) (other : .deliver ∉ kinds := by decide) :
    ∃ added, m.journal = added ++ n.journal ∧
      ∀ source destination payload,
        .posted (.received source destination payload) ∉ added ∧
          .dropped (.received source destination payload) ∉ added := by
  obtain ⟨added, grown, writes⟩ := path.adds
  have silent {entry : JournalEntry} (delivers : entry.writers = [.deliver]) : entry ∉ added := by
    intro mem
    obtain ⟨d, does, writes⟩ := writes entry mem
    rw [delivers, List.mem_singleton] at writes
    exact other (writes ▸ does)
  exact ⟨added, grown, fun _ _ _ => ⟨silent rfl, silent rfl⟩⟩

theorem Path.beaconsReceived_eq (path : Path kinds n m) (other : .follow ∉ kinds := by decide) :
    m.stats.beaconsReceived = n.stats.beaconsReceived := by
  refine path.keeps (P := fun k => k.stats.beaconsReceived = n.stats.beaconsReceived) ?_ rfl
  intro a b d mem step so_far
  refine (step.kept.beaconsReceived ?_).trans so_far
  rintro rfl
  exact other mem

/-- A grid that starts now stays as it is while the slot is looked at. -/
theorem Path.time_eq (path : Path [.align, .offer, .armSlot] n m)
    (new : n.time.origin = n.fineNow) : m.time = n.time := by
  refine (path.keeps (P := fun k => k.time = n.time ∧ k.fineNow = n.fineNow) ?_ ⟨rfl, rfl⟩).1
  rintro a b d mem step ⟨time, now⟩
  have clock : b.fineNow = n.fineNow := (congrArg fine step.same.now).trans now
  by_cases aligns : d = .align
  · subst aligns
    cases step with
    | align =>
      refine ⟨?_, clock⟩
      have near : n.fineNow.since n.time.origin < TimeBase.catchUpDistance := by
        rw [new, Ticks.since_self]
        decide
      rw [aligned, TimeBase.caughtUp, time, now, if_pos near]
  · exact ⟨(step.kept.time (by grind)).trans time, clock⟩

/-- What the beacon of its coordinator comes to for a member: the answer, the state after it, and
what was written down. -/
structure Reanchors (n : Node M) (reply : Reply ε) (m : Node M) (added : Journal) : Prop where
  counted : m.stats.beaconsReceived = n.stats.beaconsReceived.bump
  /-- The beacon itself is not reported. -/
  untold : ∀ source destination payload,
    .posted (.received source destination payload) ∉ added ∧
      .dropped (.received source destination payload) ∉ added
  reports : GivesUp n m
  refused : ∀ e, n.alarms.refusal .beacon = some e →
    reply = .error (.alarm e) ∧ m.time = n.time
  /-- The grid starts now, and the sync with it. -/
  anchored : n.alarms.refusal .beacon = none → m.time = .ofBeacon n.fineNow n.coarseNow
  /-- The watchdog is set for the time that a sync lasts. -/
  watched : n.alarms.refusal .beacon = none →
    m.CountsOn .beacon (n.alarms.upcoming .beacon n.config.syncTimeout)
  /-- The slot alarm, if it is in use for the slot, is asked for anew, for the next start of the
  slot by the new grid. -/
  slotAlarm : n.alarms.refusal .beacon = none →
    if n.slotAlarm.isSome ∧ n.arbitration ≠ .backingOff then
      ∃ granted, .slotAlarm m.toSlot .awaitingSlot granted ∈ added
    else
      reply = .ok () ∧ m.slotAlarm = n.slotAlarm ∧ m.arbitration = n.arbitration ∧
        m.outbox = n.outbox ∧ m.inFlight = n.inFlight

/-- A look at the slot leaves the slot alarm asked for, for the next start of the slot. -/
theorem Looks.writes {out : Reply ε × Node M} (h : Looks kinds n out) :
    ∃ added granted, out.2.journal = added ++ n.journal ∧
      .slotAlarm out.2.toSlot .awaitingSlot granted ∈ added := by
  obtain ⟨k, first, -, rfl⟩ := h
  obtain ⟨reports, granted, asked, -⟩ := armSlotAlarm_writes (ε := ε) k k.toSlot .awaitingSlot
  obtain ⟨before, grown, -⟩ := first.adds
  obtain ⟨_, _, _, _, _, _, same⟩ := k.armSlotAlarm_eq (ε := ε) k.toSlot .awaitingSlot
  have aim : (k.armSlotAlarm k.toSlot .awaitingSlot : Reply ε × Node M).2.toSlot = k.toSlot :=
    (armSlotAlarm_same k _ _).toSlot (by rw [same])
  refine ⟨reports ++ .slotAlarm k.toSlot .awaitingSlot granted :: before, granted, ?_, ?_⟩
  · rw [asked, grown, List.append_assoc]
    rfl
  · rw [aim]
    simp

/-- A grid that is restarted starts now. The slot alarm follows it, if that is in use for the
slot. -/
theorem Restarts.reanchors {reply : Reply ε} (h : Restarts n (reply, m)) :
    m.time = .ofBeacon n.fineNow n.coarseNow ∧
      if n.slotAlarm.isSome ∧ n.arbitration ≠ .backingOff then
        ∃ added granted, m.journal = added ++ n.journal ∧
          .slotAlarm m.toSlot .awaitingSlot granted ∈ added
      else
        reply = .ok () ∧ m = n.anchored := by
  refine ⟨h.path.time_eq rfl, ?_⟩
  rcases h with ⟨used, looks⟩ | ⟨unused, same⟩
  · rw [if_pos used]
    obtain ⟨added, granted, grown, asked⟩ := looks.writes
    refine ⟨added ++ [.gridRestarted n.alarms.now], granted, ?_, List.mem_append_left _ asked⟩
    rw [List.append_assoc]
    exact grown
  · rw [if_neg (by rintro ⟨held, stays⟩; simp_all)]
    cases same
    exact ⟨rfl, rfl⟩

theorem followBeacon_reanchors (sound : n.Sound) (handed : n.Handed) (header : Header)
    {coordinator : Address} (role : n.config.role = .member coordinator) :
    Yields (n.followBeacon header : Except Fault (Reply ε × Node M)) fun out =>
      ∃ added, out.2.journal = added ++ n.journal ∧ Reanchors n out.1 out.2 added := by
  have follow : Step .follow n (n.informed header) := .follow header
  have arm : Step .armBeacon (n.informed header) _ := .armBeacon (ε := ε) n.config.syncTimeout
  have refuses := (armBeaconAlarm_asked (ε := ε) (n.informed header) n.config.syncTimeout).refused
  have grants (free : n.alarms.refusal .beacon = none) :=
    armBeaconAlarm_countsOn (ε := ε) (n := n.informed header) free n.config.syncTimeout
  refine (followBeacon_yields sound header).mono ?_
  generalize (n.informed header).armBeaconAlarm n.config.syncTimeout = watch at *
  rintro ⟨reply, m⟩ outcome
  have member := (congrArg Config.role arm.same.config).trans role
  have restarted (free : n.alarms.refusal .beacon = none) : Restarts watch.2 (reply, m) := by
    rcases outcome with ⟨⟨error, refused⟩, -⟩ | ⟨-, restarts⟩
    · cases refused.symm.trans (grants free).1
    · exact restarts
  have rest : Path [.armBeacon, .anchor, .align, .offer, .armSlot] (n.informed header) m := by
    refine outcome.path arm.path fun _ restarts => ?_
    exact (Step.anchor member).path.trans (restarts.path.mono (by decide))
  have path : Path Deed.following n m := follow.path.trans (rest.mono (by decide))
  obtain ⟨added, grown, untold⟩ := path.untold
  refine ⟨added, grown, rest.beaconsReceived_eq, untold, path.givesUp, ?_, ?_, ?_, ?_⟩
  · intro e refused
    obtain ⟨answer, time⟩ := refuses e refused
    rcases outcome with ⟨-, same⟩ | ⟨granted, -⟩
    · cases same
      exact ⟨answer, time⟩
    · cases granted.symm.trans answer
  · intro free
    rw [(restarted free).reanchors.1, fineNow, coarseNow, arm.same.now]
    rfl
  · intro free
    have anchored : Path [.anchor, .align, .offer, .armSlot] watch.2 m :=
      (Step.anchor member).path.trans ((restarted free).path.mono (by decide))
    exact anchored.countsOn (by decide) (arm.handed (follow.handed handed)) (grants free).2
  · intro free
    have held : watch.2.slotAlarm = n.slotAlarm := arm.kept.slotAlarm (by decide)
    have state : watch.2.arbitration = n.arbitration := arm.kept.arbitration (by decide)
    have again := (restarted free).reanchors.2
    rw [held, state] at again
    split
    · next used =>
      rw [if_pos used] at again
      obtain ⟨later, granted, onward, asked⟩ := again
      have watching : Path [.follow, .armBeacon] n watch.2 := follow.path.trans arm.path
      obtain ⟨before, first, -⟩ := watching.adds
      refine ⟨granted, ?_⟩
      have whole : added ++ n.journal = (later ++ before) ++ n.journal := by
        rw [← grown, onward, first, List.append_assoc]
      rw [List.append_cancel_right whole]
      exact List.mem_append_left _ asked
    · next unused =>
      rw [if_neg unused] at again
      obtain ⟨answer, rfl⟩ := again
      exact ⟨answer, held, state, arm.kept.outbox (by decide), arm.kept.inFlight (by decide)⟩

/-! ## What is no concern of the node -/

omit [Medium M ε] in
/-- The role and the bytes alone tell whether bytes are heeded. -/
theorem heard?_isSome (n : Node M) (bytes : List UInt8) :
    (n.heard? bytes).isSome = n.config.role.heeds bytes := by
  unfold heard? Role.heeds
  cases Frame.read bytes with
  | error e => cases n.config.role <;> rfl
  | ok frame =>
    show (n.followed? frame).isSome = _
    cases frame with
    | data header payload =>
      rw [followed?_data]
      cases n.config.role <;> rfl
    | beacon header =>
      rw [followed?_beacon]
      cases n.config.role with
      | member coordinator =>
        by_cases same : coordinator = header.source
        · simp [same]
        · simp [same, Ne.symm same]
      | _ => rfl

omit [Medium M ε] in
/-- A frame is followed only if it is a beacon of the coordinator. -/
theorem followed?_eq_none {frame : Frame}
    (other : ∀ header, frame = .beacon header → n.config.role ≠ .member header.source) :
    n.followed? frame = none := by
  cases frame with
  | data header payload => exact followed?_data n header payload
  | beacon header => rw [followed?_beacon, if_neg (other header rfl)]

omit [Medium M ε] in
/-- A report is queued if there is room for it, and counted otherwise. -/
theorem post_eq_ite (n : Node M) (event : Event) :
    n.post event =
      if n.events.length < eventCapacity then
        { n with events := n.events ++ [event], journal := .posted event :: n.journal }
      else
        { n with
          stats.droppedEvents := n.stats.droppedEvents.bump
          journal := .dropped event :: n.journal } := by
  rw [post, EventQueue.push?]
  split
  · next room => split at room <;> simp_all
  · next full => split at full <;> simp_all

/-- Bytes that are not heeded are reported or counted. -/
theorem receive_unheeded {bytes : List UInt8} (unheeded : n.config.role.heeds bytes = false) :
    Yields (n.receive bytes : Except Fault (Reply ε × Node M)) fun out => Alike n out.2 := by
  rw [← heard?_isSome, Option.isSome_eq_false_iff, Option.isNone_iff_eq_none, heard?] at unheeded
  rw [receive]
  cases read : Frame.read bytes with
  | error e => exact Yields.ok_iff.mpr rfl
  | ok frame =>
    rw [read] at unheeded
    simp only [Except.toOption, Option.bind_some] at unheeded
    simp only [unheeded]
    exact Yields.ok_iff.mpr (post_received_alike ..)

theorem undergo_unconcerned {stimulus : Stimulus M}
    (aside : stimulus.concerns n.config.role = false) :
    Yields (n.undergo stimulus : Except Fault (Option (Answer ε) × Node M)) fun out =>
      Alike n out.2 := by
  cases stimulus with
  | operate operation =>
    cases operation with
    | receive bytes =>
      refine Yields.bind ?_ fun _ unchanged => Yields.pure_iff.mpr unchanged
      exact (receive_unheeded aside).bind fun _ unchanged => Yields.pure_iff.mpr unchanged
    | _ => cases aside
  | _ => cases aside

/-- What is no concern of a node may as well not happen to it. -/
theorem course_alike (sound : n.Sound) (alike : Alike n m) (stimuli : List (Stimulus M)) :
    Agrees (fun a b => Alike a.2 b.2)
      (n.course stimuli : Except Fault (List (Answer ε) × Node M))
      (m.course (stimuli.filter (·.concerns n.config.role))) := by
  induction stimuli generalizing n m with
  | nil => exact .ok alike
  | cons stimulus rest ih =>
    have known := (undergo_sound (ε := ε) sound stimulus).and (undergo_config sound stimulus)
    cases concerns : stimulus.concerns n.config.role with
    | true =>
      rw [List.filter_cons_of_pos concerns]
      refine ((undergo_alike alike stimulus).and_yields known).bind ?_
      rintro out _ ⟨after, inOrder, config⟩
      have onward := ih inOrder after
      rw [config] at onward
      exact onward.bind fun _ _ last => .ok last
    | false =>
      rw [List.filter_cons_of_neg (by simp [concerns])]
      obtain ⟨out, done, unchanged, inOrder, config⟩ := (undergo_unconcerned concerns).and known
      have onward := ih inOrder (unchanged.symm.trans alike)
      rw [config] at onward
      rw [course, done]
      exact onward.map_left fun _ _ last => last

/-- So it does not matter how much of that happens, nor when. -/
theorem course_alike_of_filter_eq (sound : n.Sound) {stimuli others : List (Stimulus M)}
    (same : stimuli.filter (·.concerns n.config.role) =
      others.filter (·.concerns n.config.role)) :
    Agrees (fun a b => Alike a.2 b.2)
      (n.course stimuli : Except Fault (List (Answer ε) × Node M)) (n.course others) := by
  have theirs := course_alike (ε := ε) sound (.refl n) others
  rw [← same] at theirs
  exact (course_alike sound (.refl n) stimuli).of_common theirs fun _ _ _ mine theirs =>
    mine.trans theirs.symm

end Medium

end Node

open Node

/-- Whatever has happened to a node: bytes that are no frame are an error and are counted. The
beacon of the coordinator that a member follows is counted and not reported; if its watchdog is
granted the member is in sync from now on, by a grid that starts now, with the watchdog set, and
the slot alarm is asked for anew if it is in use for the slot. Every other frame is reported to
the layers above, as long as there is room for the report, and is counted otherwise. So whatever
comes in besides the beacons that a node follows, the node does the same and ends in the same
state, but for the reports and the counts of what was not reported. -/
theorem reception_classified {M ε : Type} [Medium M ε] {config : Config} (valid : config.Valid)
    (address : Address) (medium : M) (alarms : AlarmClock) (words : WordSource)
    (stimuli : List (Stimulus M)) :
    ∃ answers n,
      lifetime address config medium alarms words stimuli = .ok (.ok (answers, n)) ∧
      (∀ bytes e, Frame.read bytes = .error e →
        (n.receive bytes : Except Fault (Reply ε × Node M)) =
          .ok (.error (.decode e),
            { n with stats.decodeErrors := n.stats.decodeErrors.bump })) ∧
      (∀ bytes header, Frame.read bytes = .ok (.beacon header) →
        config.role = .member header.source →
        ∃ reply m added,
          (n.receive bytes : Except Fault (Reply ε × Node M)) = .ok (reply, m) ∧
          m.journal = added ++ n.journal ∧ Reanchors n reply m added) ∧
      (∀ bytes frame, Frame.read bytes = .ok frame →
        (∀ header, frame = .beacon header → config.role ≠ .member header.source) →
        let report := Event.received frame.header.source frame.header.destination frame.payload
        (n.receive bytes : Except Fault (Reply ε × Node M)) =
          .ok (.ok (),
            if n.events.length < eventCapacity then
              { n with events := n.events ++ [report], journal := .posted report :: n.journal }
            else
              { n with
                stats.droppedEvents := n.stats.droppedEvents.bump
                journal := .dropped report :: n.journal })) ∧
      ∀ others : List (Stimulus M),
        others.filter (·.concerns config.role) = stimuli.filter (·.concerns config.role) →
        ∃ answers' m,
          lifetime address config medium alarms words others = .ok (.ok (answers', m)) ∧
          m.muted = n.muted := by
  have sound := fresh_sound valid address medium alarms words
  obtain ⟨answers, n, lived, ⟨handed, same⟩, inOrder⟩ :=
    lifetime_yields (ε := ε) (P := fun _ _ m => m.Handed ∧ m.config = config) stimuli valid
      ⟨fresh_handed address config medium alarms words, rfl⟩
      fun _ _ m stimulus _ sound known =>
        ((undergo_handed sound known.1 stimulus).and (undergo_config sound stimulus)).mono
          fun _ now => ⟨now.1, now.2.trans known.2⟩
  refine ⟨answers, n, lived, ?_, ?_, ?_, ?_⟩
  · intro bytes e read
    rw [receive, read]
  · intro bytes header read follows
    rw [← same] at follows
    have heeded : (n.receive bytes : Except Fault (Reply ε × Node M)) = n.followBeacon header := by
      rw [receive, read]
      dsimp only
      rw [followed?_beacon, if_pos follows]
    obtain ⟨⟨reply, m⟩, done, added, grown, reanchors⟩ :=
      followBeacon_reanchors inOrder handed header follows
    exact ⟨reply, m, added, heeded.trans done, grown, reanchors⟩
  · intro bytes frame read other
    rw [← same] at other
    rw [receive, read]
    simp only [followed?_eq_none other, ← post_eq_ite]
  · intro others alike
    have both := course_alike_of_filter_eq (ε := ε) sound alike.symm
    rw [course_of_lifetime valid lived] at both
    obtain ⟨⟨answers', m⟩, ran, after⟩ := both.exists_ok
    exact ⟨answers', m, lifetime_of_course valid ran, after.symm⟩

/-- A frame waits for its slot. -/
def sendOnce : List (Stimulus RecordingMedium) := [.operate (.send 7 0 [1])]

/-- The same among bytes that are no frame and the beacon of a node that is not followed. -/
def sendInNoise : List (Stimulus RecordingMedium) :=
  [.operate (.receive []), .operate (.send 7 0 [1]),
    .operate (.receive (Frame.timeReference 2 0).bytes)]

/-- The noise comes to nothing, and the beacon that is followed has the slot alarm moved. -/
theorem reception_classified_noise :
    ∃ answers n answers' m,
      lifetime 3 {} ({} : RecordingMedium) {} (.cycle []) sendOnce = .ok (.ok (answers, n)) ∧
      lifetime 3 {} ({} : RecordingMedium) {} (.cycle []) sendInNoise =
        .ok (.ok (answers', m)) ∧
      m.muted = n.muted ∧
      n.receive [] =
        .ok (.error (.decode .truncated),
          { n with stats.decodeErrors := n.stats.decodeErrors.bump }) ∧
      n.receive (Frame.timeReference 2 0).bytes =
        .ok (.ok (), { n with
          events := n.events ++ [.received 2 .broadcast .marker]
          journal := .posted (.received 2 .broadcast .marker) :: n.journal }) ∧
      ∃ reply k added granted,
        n.receive (Frame.timeReference 1 0).bytes = .ok (reply, k) ∧
        k.journal = added ++ n.journal ∧ k.time = .ofBeacon n.fineNow n.coarseNow ∧
        .slotAlarm k.toSlot .awaitingSlot granted ∈ added := by
  obtain ⟨answers, n, lived, misread, follows, passes, aside⟩ :=
    reception_classified Config.valid_default 3 ({} : RecordingMedium) {} (.cycle []) sendOnce
  obtain ⟨_, _, again, free, held, awaits, room⟩ :
      ∃ answers n,
        lifetime 3 {} ({} : RecordingMedium) {} (.cycle []) sendOnce = .ok (.ok (answers, n)) ∧
        n.alarms.refusal .beacon = none ∧ n.slotAlarm.isSome ∧ n.arbitration ≠ .backingOff ∧
        n.events.length < eventCapacity :=
    exists_lifetime Config.valid_default (by decide +kernel)
  cases lived.symm.trans again
  obtain ⟨answers', m, noisy, same⟩ := aside sendInNoise rfl
  obtain ⟨reply, k, added, done, grown, reanchors⟩ :=
    follows (Frame.timeReference 1 0).bytes _ rfl rfl
  have asked := reanchors.slotAlarm free
  rw [if_pos ⟨held, awaits⟩] at asked
  obtain ⟨granted, asked⟩ := asked
  refine ⟨answers, n, answers', m, lived, noisy, same, misread [] _ rfl, ?_, reply, k, added,
    granted, done, grown, reanchors.anchored free, asked⟩
  have passed := passes (Frame.timeReference 2 0).bytes (Frame.timeReference 2 0) rfl ?_
  · dsimp only at passed
    rw [if_pos room] at passed
    exact passed
  · rintro header same
    cases same
    decide

/-- That many frames come in, each from another node and for this one. -/
def hearing (count : Nat) : List (Stimulus RecordingMedium) :=
  .replicate count (.operate (.receive (Frame.data ⟨2, 3, 0⟩ .marker).bytes))

/-- A frame for which there is no room any more is reported nowhere. -/
theorem reception_unreported :
    ∃ answers n,
      lifetime 3 {} ({} : RecordingMedium) {} (.cycle []) (hearing 16) =
        .ok (.ok (answers, n)) ∧
      n.events.length = 15 ∧ n.journal.posted.length = 15 ∧ n.stats.droppedEvents = 1 :=
  exists_lifetime Config.valid_default (by decide +kernel)

end SlottedMac
