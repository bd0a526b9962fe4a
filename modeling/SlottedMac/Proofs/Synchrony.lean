import SlottedMac.Proofs.Frame
import SlottedMac.Proofs.Launches
import SlottedMac.Proofs.Outcomes

/-!
# What stands behind a success

A report of full success says that the frame was sent under a shared time
reference. The node decides that when the medium accepts the frame, and keeps it
until the medium completes it, whatever becomes of the sync meanwhile. So for
each such report there is a beacon in the journal from before the frame was
handed over: one of the node's own, if it coordinates, or else one of its
coordinator that came in the same operation, or not too long before.
-/

namespace SlottedMac

open Node (Deed)

/-! ## Beacons in a journal -/

/-- The bytes that an operation brings in from the air, if it does. -/
def Operation.reception? : Operation → Option (List UInt8)
  | .receive bytes => some bytes
  | _ => none

/-- The bytes that stimuli bring in from the air. -/
def receptions {M : Type} (stimuli : List (Stimulus M)) : List (List UInt8) :=
  stimuli.filterMap fun stimulus => stimulus.operation?.bind Operation.reception?

theorem receptions_append {M : Type} (past rest : List (Stimulus M)) :
    receptions (past ++ rest) = receptions past ++ receptions rest := List.filterMap_append ..

/-- Whether an entry puts an end to the grid that was in force. -/
def JournalEntry.resets : JournalEntry → Bool
  | .started _ => true
  | .gridRestarted _ => true
  | _ => false

theorem JournalEntry.resets_eq_false {entry : JournalEntry} {d : Deed}
    (writes : d ∈ entry.writers) (other : d ∉ [.start, .emit, .anchor]) :
    entry.resets = false := by
  cases entry with
  | started time => simp_all [writers]
  | gridRestarted time =>
    simp only [writers, List.mem_cons, List.not_mem_nil, or_false] at writes
    rcases writes with rfl | rfl <;> simp at other
  | _ => rfl

/-- The beacon that stands behind the grid in force. For a beacon that came from
another node `good` is asked of its header, of the time, and of the deeds before
it came. -/
inductive Reference (config : Config) (good : Header → Nat → Journal → Prop) (j : Journal) :
    Prop where
  /-- A beacon of a coordinator's own, which the medium accepted since the node was
  started last. -/
  | own (role : config.role = .coordinator) (since before : Journal) (beacon : Submission)
      (split : j = since ++ .submitted beacon :: before) (channel : beacon.channel = .beacon)
      (accepted : beacon.accepted = true) (lasts : ∀ time, .started time ∉ since)
  /-- A beacon of the coordinator of a member, with which the grid was started anew. -/
  | followed (header : Header) (role : config.role = .member header.source)
      (since before : Journal) (time : Nat) (delay : Ticks)
      (split : j = since ++ .gridRestarted time :: .beaconAlarm delay true ::
        .followed header :: before)
      (lasts : ∀ entry ∈ since, entry.resets = false) (holds : good header time before)

namespace Reference

variable {config : Config} {good better : Header → Nat → Journal → Prop} {j added : Journal}

theorem mono (h : Reference config good j)
    (weaken : ∀ header time before, good header time before → better header time before) :
    Reference config better j := by
  cases h with
  | own role since before beacon split channel accepted lasts =>
    exact .own role since before beacon split channel accepted lasts
  | followed header role since before time delay split lasts holds =>
    exact .followed header role since before time delay split lasts (weaken _ _ _ holds)

/-- Deeds that put no end to the grid leave its reference in place. -/
theorem grow (h : Reference config good j) (calm : ∀ entry ∈ added, entry.resets = false) :
    Reference config good (added ++ j) := by
  cases h with
  | own role since before beacon split channel accepted lasts =>
    refine .own role (added ++ since) before beacon (by rw [split, List.append_assoc]) channel
      accepted fun time mem => ?_
    rcases List.mem_append.mp mem with new | old
    · cases calm _ new
    · exact lasts time old
  | followed header role since before time delay split lasts holds =>
    refine .followed header role (added ++ since) before time delay
      (by rw [split, List.append_assoc]) (fun entry mem => ?_) holds
    exact (List.mem_append.mp mem).elim (calm entry) (lasts entry)

/-- Without a role in keeping time there is no reference. -/
theorem role_ne (h : Reference config good j) : config.role ≠ .beaconless := by
  cases h with
  | own role => simp [role]
  | followed header role => simp [role]

end Reference

namespace Node

variable {M ε : Type} {n m : Node M} {good better : Header → Nat → Journal → Prop}

/-- The time reference that a node makes out of bytes is a beacon of its
coordinator. -/
theorem of_heard {bytes : List UInt8} {header : Header} (heard : n.heard? bytes = some header) :
    header.destination = .broadcast ∧ bytes = (Frame.beacon header).bytes := by
  obtain ⟨frame, found, follows⟩ := Option.bind_eq_some_iff.mp heard
  have read : Frame.read bytes = .ok frame := by
    cases outcome : Frame.read bytes with
    | error e => simp [outcome, Except.toOption] at found
    | ok read => simpa [outcome, Except.toOption] using found
  unfold followed? at follows
  split at follows
  · split at follows
    · cases follows
      exact Frame.of_read_beacon read
    · cases follows
  · cases follows

/-- A synchronized node has a beacon behind its grid. A member took the coarse
reading of its last sync when that beacon came. -/
def Backed (good : Header → Nat → Journal → Prop) (n : Node M) : Prop :=
  n.time.synchronized = true → Reference n.config
    (fun header time before => n.time.lastSync = coarse time ∧ good header time before) n.journal

theorem Backed.mono (h : n.Backed good)
    (weaken : ∀ header time before, good header time before → better header time before) :
    n.Backed better := fun now =>
  (h now).mono fun _ _ _ holds => ⟨holds.1, weaken _ _ _ holds.2⟩

theorem Backed.keep (h : n.Backed good) (config : m.config = n.config)
    (lastSync : m.time.lastSync = n.time.lastSync)
    (sync : m.time.synchronized = true → n.time.synchronized = true)
    (calm : Adds (·.resets = false) n m) : m.Backed good := by
  intro now
  obtain ⟨added, grown, quiet⟩ := calm
  rw [config, lastSync, grown]
  exact (h (sync now)).grow quiet

section Medium

variable [Medium M ε] {d : Deed} {kinds : List Deed}

/-- Every deed but following a beacon keeps a beacon behind a sync. -/
theorem Step.backed (step : Step d n m) (other : d ≠ .anchor) (h : n.Backed good) :
    m.Backed good := by
  have kept := step.kept
  have config := step.same.config
  have adds := step.adds
  -- what most deeds leave alone
  have quiet (other : d ∉ [.start, .expire, .align, .emit, .anchor]) : m.Backed good := by
    have time := kept.time other
    refine h.keep config (by rw [time]) (by rw [time]; exact id) (adds.mono fun _ writes => ?_)
    simp only [List.mem_cons, List.not_mem_nil, or_false, not_or] at other
    exact JournalEntry.resets_eq_false writes (by simp [other])
  cases step with
  | anchor => exact absurd rfl other
  | start => nofun
  | begin => exact h.keep config rfl id .none
  | expire =>
    refine h.keep config ?_ ?_ (adds.mono fun _ writes => ?_)
    · rcases n.expireSync_time with same | ⟨-, same⟩ <;> rw [same]
    · rcases n.expireSync_time with same | ⟨-, same⟩
      · rw [same]
        exact id
      · rw [same]
        nofun
    · exact JournalEntry.resets_eq_false writes (by decide)
  | align =>
    refine h.keep config ?_ ?_ (adds.mono fun _ writes => ?_)
    · rw [aligned, TimeBase.caughtUp]
      split <;> rfl
    · rw [aligned, TimeBase.caughtUp]
      split <;> exact id
    · exact JournalEntry.resets_eq_false writes (by decide)
  | emitRefused => exact h.keep config rfl id (.one rfl rfl)
  | emit role accepted =>
    intro _
    exact .own role [.gridRestarted n.alarms.now] n.journal
      (n.submission .beacon n.reference none) rfl rfl accepted (by simp)
  | _ => exact quiet (by decide)

theorem Path.backed (path : Path kinds n m) (none : .anchor ∉ kinds := by decide)
    (h : n.Backed good) : m.Backed good := by
  refine path.keeps (fun mem step => step.backed ?_) h
  rintro rfl
  exact none mem

/-- A data frame handed over under sync has a beacon behind it. -/
def Vouched (config : Config) (good : Header → Nat → Journal → Prop) (now : Nat)
    (entry : JournalEntry) (earlier : Journal) : Prop :=
  ∀ s, entry = .submitted s → s.channel = .data → s.synchronized = true →
    s.time = now ∧ Reference config good earlier

theorem vouched_of_quiet {config : Config} {now : Nat} {entry : JournalEntry} {earlier : Journal}
    (writes : d ∈ entry.writers) (other : d ∉ [.offer, .steal]) :
    Vouched config good now entry earlier := by
  rintro s rfl data
  rw [JournalEntry.writers, data] at writes
  exact absurd writes other

/-- The deeds since `start`, with a beacon behind each data frame handed over under
sync. -/
def Vouches (good : Header → Nat → Journal → Prop) (start n : Node M) : Prop :=
  ∃ added, n.journal = added ++ start.journal ∧
    Justified (fun entry rest =>
      Vouched start.config good start.alarms.now entry (rest ++ start.journal)) added

theorem Vouches.refl (n : Node M) : Vouches good n n := ⟨[], rfl, trivial⟩

theorem Step.vouches {start : Node M} (step : Step d n m) (same : Same start n)
    (backed : n.Backed good) (h : Vouches good start n) : Vouches good start m := by
  obtain ⟨added, grown, vouched⟩ := h
  have handed (frame : QueuedFrame) : Vouched start.config good start.alarms.now
      (.submitted (n.submission .data (n.dataFrame frame) (some frame)))
      (added ++ start.journal) := by
    rintro s ⟨⟩ - now
    refine ⟨same.now, ?_⟩
    rw [← grown, ← same.config]
    exact (backed now).mono fun _ _ _ holds => holds.2
  have adds := step.adds
  cases step with
  | @offer _ frame =>
    exact ⟨_ :: added, by rw [offered_journal, grown]; rfl, handed frame, vouched⟩
  | @steal _ frame =>
    exact ⟨_ :: added, by rw [offered_journal, grown]; rfl, handed frame, vouched⟩
  | _ =>
    obtain ⟨new, later, writes⟩ := adds
    refine ⟨new ++ added, by rw [later, grown, List.append_assoc], vouched.append ?_⟩
    exact fun entry mem earlier => vouched_of_quiet (writes entry mem) (by decide)

theorem Path.vouches {start : Node M} (path : Path kinds n m) (none : .anchor ∉ kinds := by decide)
    (same : Same start n) (backed : n.Backed good) (h : Vouches good start n) :
    m.Backed good ∧ Vouches good start m := by
  have kept : Same start m ∧ m.Backed good ∧ Vouches good start m := by
    refine path.keeps (P := fun a => Same start a ∧ a.Backed good ∧ Vouches good start a) ?_
      ⟨same, backed, h⟩
    rintro a b d mem step ⟨same, backed, vouches⟩
    refine ⟨same.trans step.same, step.backed ?_ backed, step.vouches same backed vouches⟩
    rintro rfl
    exact none mem
  exact kept.2

/-! ## One operation -/

/-- A beacon for every node, among the bytes that came in. -/
structure Heard (received : List (List UInt8)) (header : Header) : Prop where
  broadcast : header.destination = .broadcast
  received : (Frame.beacon header).bytes ∈ received

/-- A beacon heard in the operation that began after `begun`, or less than the sync
timeout ago. -/
structure Standing (config : Config) (received : List (List UInt8)) (begun : Journal) (now : Nat)
    (header : Header) (time : Nat) (before : Journal) : Prop where
  heard : Heard received header
  recent : before = begun ∨ (coarse now).since (coarse time) < config.syncTimeout

variable {received : List (List UInt8)}

omit [Medium M ε] in
/-- Whatever sync outlasts a look at the clock is not stale. -/
theorem expireSync_backed (h : n.Backed fun header _ _ => Heard received header) :
    n.expireSync.Backed (Standing n.config received n.journal n.alarms.now) := by
  obtain ⟨synchronized, syncLost, same⟩ := n.expireSync_eq
  intro now
  have lasts : n.time.synchronized = true := by
    rcases n.expireSync_time with kept | ⟨-, ended⟩
    · rwa [← kept]
    · rw [ended] at now
      cases now
  have fresh {coordinator : Address} (role : n.config.role = .member coordinator) :
      n.coarseNow.since n.time.lastSync < n.config.syncTimeout := by
    rw [← UInt32.not_le]
    intro stale
    rw [expireSync_ends role fun _ => stale] at now
    cases now
  rw [same]
  cases h lasts with
  | own role since before beacon split channel accepted lasts =>
    exact .own role since before beacon split channel accepted lasts
  | followed header role since before time delay split lasts holds =>
    refine .followed header role since before time delay split lasts ⟨holds.1, holds.2, .inr ?_⟩
    rw [← holds.1]
    exact fresh role

theorem Path.vouches_of_quiet (path : Path kinds n m)
    (none : .offer ∉ kinds ∧ .steal ∉ kinds := by decide) : Vouches good n m := by
  obtain ⟨added, grown, writes⟩ := path.adds
  refine ⟨added, grown, ?_⟩
  rw [← List.append_nil added]
  refine Justified.append (j := []) trivial fun entry mem earlier => ?_
  obtain ⟨d, kind, writer⟩ := writes entry mem
  refine vouched_of_quiet writer ?_
  simp only [List.mem_cons, List.not_mem_nil, or_false, not_or]
  constructor
  · rintro rfl
    exact none.1 kind
  · rintro rfl
    exact none.2 kind

omit [Medium M ε] in
theorem armBeaconAlarm_granted {delay : Ticks}
    (granted : (n.armBeaconAlarm delay : Reply ε × Node M).1 = .ok ()) :
    (n.armBeaconAlarm delay : Reply ε × Node M).2.journal =
      .beaconAlarm delay true :: n.journal := by
  rw [armBeaconAlarm] at granted ⊢
  split at granted
  · rfl
  · cases granted

/-- A grid that starts anew with a beacon has it behind it at once. -/
theorem anchored_vouches {header : Header} {delay : Ticks} (heard : Heard received header)
    (role : n.config.role = .member header.source) (armed : Path [.follow, .armBeacon] n m)
    (journal : m.journal = .beaconAlarm delay true :: .followed header :: n.journal) :
    m.anchored.Backed (Standing n.config received n.journal n.alarms.now) ∧
      Vouches (Standing n.config received n.journal n.alarms.now) n m.anchored := by
  have member : m.config.role = .member header.source := armed.same.config ▸ role
  constructor
  · intro _
    refine .followed header member [] n.journal m.alarms.now delay ?_ nofun ⟨rfl, heard, .inl rfl⟩
    exact congrArg (.gridRestarted m.alarms.now :: ·) journal
  · have anchored : Path [.follow, .armBeacon, .anchor] n m.anchored :=
      (armed.mono (by decide)).snoc (.anchor member)
    exact anchored.vouches_of_quiet

theorem followBeacon_vouches (sound : n.Sound) {header : Header} (heard : Heard received header)
    (role : n.config.role = .member header.source)
    (h : n.Backed fun header _ _ => Heard received header) :
    Yields (n.followBeacon header : Except Fault (Reply ε × Node M)) fun out =>
      (out.2.Backed fun header _ _ => Heard received header) ∧
        Vouches (Standing n.config received n.journal n.alarms.now) n out.2 := by
  have armed : Path [.follow, .armBeacon] n
      ((n.informed header).armBeaconAlarm n.config.syncTimeout : Reply ε × Node M).2 :=
    ((Path.refl n).snoc (.follow header)).snoc (.armBeacon n.config.syncTimeout)
  refine (followBeacon_yields sound header).mono ?_
  rintro out (⟨-, rfl⟩ | ⟨granted, restarts⟩)
  · exact ⟨armed.backed (by decide) h, armed.vouches_of_quiet⟩
  · obtain ⟨backed, begun⟩ := anchored_vouches heard role armed (armBeaconAlarm_granted granted)
    have same := armed.same.trans (anchored_same _)
    have done := restarts.path.vouches (by decide) same backed begun
    exact ⟨done.1.mono fun _ _ _ standing => standing.heard, done.2⟩

/-- What an operation leaves behind: a beacon behind each sync, and behind each data
frame that the operation handed over under one. -/
theorem perform_vouches (sound : n.Sound) (h : n.Backed fun header _ _ => Heard received header)
    (operation : Operation) (brings : operation.reception?.toList ⊆ received) :
    Yields (n.perform operation) fun out =>
      (out.2.Backed fun header _ _ => Heard received header) ∧
        Vouches (Standing n.config received n.journal n.alarms.now) n out.2 := by
  have quiet {kinds : List Deed} {m : Node M} (path : Path kinds n m)
      (none : .anchor ∉ kinds ∧ .offer ∉ kinds ∧ .steal ∉ kinds := by decide) :
      (m.Backed fun header _ _ => Heard received header) ∧
        Vouches (Standing n.config received n.journal n.alarms.now) n m :=
    ⟨path.backed none.1 h, path.vouches_of_quiet none.2⟩
  have expired : Path [.expire] n n.expireSync := Step.expire.path
  have onward {kinds : List Deed} {m : Node M} (path : Path kinds n.expireSync m)
      (none : .anchor ∉ kinds) :
      (m.Backed fun header _ _ => Heard received header) ∧
        Vouches (Standing n.config received n.journal n.alarms.now) n m := by
    have done := path.vouches none expired.same (expireSync_backed h) expired.vouches_of_quiet
    exact ⟨done.1.mono fun _ _ _ standing => standing.heard, done.2⟩
  cases operation with
  | start => exact Yields.ok_iff.mpr (quiet n.start_path)
  | send token destination bytes =>
    refine (send_sends sound token destination bytes).bind ?_
    rintro out (⟨-⟩ | ⟨payload, -, path, -⟩)
    · exact Yields.pure_iff.mpr (quiet (Path.refl n : Path [] n n))
    · have captured : Path [.capture, .align, .draw, .offer, .armSlot] n.expireSync
          (n.expireSync.capture { token, destination, payload, queuedAt := n.fineNow }) :=
        (Step.capture _).path
      exact Yields.pure_iff.mpr (onward (captured.trans (path.mono (by decide))) (by decide))
  | alarmFired kind =>
    refine (alarmFired_spent sound kind).bind ?_
    rintro out ⟨path, -⟩
    refine Yields.pure_iff.mpr ?_
    have spent : Path Deed.alarming n.expireSync (n.expireSync.spent kind) := by
      cases kind with
      | slot => exact Step.spendSlot.path
      | beacon => exact Step.spendBeacon.path
    have fired : n.firing kind ⊆ Deed.alarming := by
      refine List.Subset.trans ?_ (n.deeds_alarmFired kind)
      cases kind <;> simp [deeds]
    exact onward (spent.trans (path.mono fired)) (by decide)
  | receive bytes =>
    have came : bytes ∈ received := brings (by simp [Operation.reception?])
    rcases receive_cases (ε := ε) n bytes with ⟨header, heard, same⟩ | ⟨-, path⟩
    · obtain ⟨broadcast, read⟩ := of_heard heard
      have done := followBeacon_vouches (ε := ε) sound ⟨broadcast, read ▸ came⟩
        (role_of_heard heard) h
      rw [← same] at done
      exact done.bind fun _ done => Yields.pure_iff.mpr done
    · exact path.bind fun _ path => Yields.pure_iff.mpr (quiet path)
  | complete channel completion transmissions =>
    have done : Path [.complete] n _ := (Step.complete channel completion transmissions).path
    exact Yields.ok_iff.mpr (quiet done)
  | poll =>
    have done : Path [.fetch] n n.poll.2 := Step.fetch.path
    exact Yields.ok_iff.mpr (quiet done)
  | powerOn =>
    have done : Path [.power] n _ := (Step.power Medium.powerOn).path
    exact Yields.ok_iff.mpr (quiet done)
  | powerOff keepOn =>
    have done : Path [.power] n _ := (Step.power (Medium.powerOff · keepOn)).path
    exact Yields.ok_iff.mpr (quiet done)

/-! ## One stimulus, and all of them -/

/-- What a stimulus leaves behind. Whatever changes in the circumstances, the node
hands nothing over but in an operation. -/
theorem undergo_vouches {past : List (Stimulus M)} (sound : n.Sound)
    (h : n.Backed fun header _ _ => Heard (receptions past) header) (stimulus : Stimulus M) :
    Yields (n.undergo stimulus) fun out =>
      (out.2.Backed fun header _ _ => Heard (receptions (past ++ [stimulus])) header) ∧
        ∃ now added, out.2.journal = added ++ n.journal ∧
          Justified (fun entry rest => Vouched n.config
            (Standing n.config (receptions (past ++ [stimulus])) n.journal now) now entry
              (rest ++ n.journal)) added := by
  have later : n.Backed fun header _ _ => Heard (receptions (past ++ [stimulus])) header := by
    refine h.mono fun header _ _ heard => ⟨heard.broadcast, ?_⟩
    rw [receptions_append]
    exact List.mem_append_left _ heard.received
  refine undergo_yields (Q := fun _ m =>
    (m.Backed fun header _ _ => Heard (receptions (past ++ [stimulus])) header) ∧
      ∃ now added, m.journal = added ++ n.journal ∧
        Justified (fun entry rest => Vouched n.config
          (Standing n.config (receptions (past ++ [stimulus])) n.journal now) now entry
            (rest ++ n.journal)) added) ?_ ?_
  · intro _ _ _
    exact ⟨later, 0, [], rfl, trivial⟩
  · intro alarms medium operation leads
    have inOrder := sound.amid alarms medium
    have brings : operation.reception?.toList ⊆ receptions (past ++ [stimulus]) := by
      intro bytes came
      rw [receptions_append]
      refine List.mem_append_right _ (List.mem_filterMap.mpr ⟨stimulus, by simp, ?_⟩)
      rw [leads]
      simpa using came
    refine (perform_vouches inOrder later operation brings).mono ?_
    rintro out ⟨backed, added, grown, vouched⟩
    exact ⟨backed, alarms.now, added, grown, vouched⟩

/-- A frame handed over after `earlier`, in the stimulus that led from the state `k`
to the state `m`, has a beacon behind it. -/
def Sourced (states : List (Stimulus M) → Node M → Prop) (config : Config)
    (stimuli : List (Stimulus M)) (s : Submission) (earlier : Journal) : Prop :=
  ∃ past stimulus rest k m, stimuli = past ++ stimulus :: rest ∧ states past k ∧
    states (past ++ [stimulus]) m ∧ k.journal <:+ earlier ∧
    (.submitted s :: earlier) <:+ m.journal ∧
    Reference config (Standing config (receptions (past ++ [stimulus])) k.journal s.time) earlier

/-- A node that reports no success but an earned one, and hands no data over under
sync but with a beacon behind it. -/
structure Warranted (states : List (Stimulus M) → Node M → Prop) (config : Config)
    (past : List (Stimulus M)) (n : Node M) : Prop where
  settings : n.config = config
  here : states past n
  flights : n.Flights
  earned : Justified Earned n.journal
  backed : n.Backed fun header _ _ => Heard (receptions past) header
  sourced : Justified (fun entry earlier => ∀ s, entry = .submitted s → s.channel = .data →
    s.synchronized = true → Sourced states config past s earlier) n.journal

theorem undergo_earned (sound : n.Sound) (flights : n.Flights) (h : Justified Earned n.journal)
    (stimulus : Stimulus M) :
    Yields (n.undergo stimulus) fun out => out.2.Flights ∧ Justified Earned out.2.journal := by
  refine undergo_yields (Q := fun _ m => m.Flights ∧ Justified Earned m.journal) ?_ ?_
  · intro _ _ _
    exact ⟨flights.congr rfl rfl rfl, h⟩
  · intro alarms medium operation _
    refine (perform_yields (sound.amid alarms medium) operation).mono ?_
    rintro out ⟨path, -⟩
    exact path.keeps (P := fun k => k.Flights ∧ Justified Earned k.journal)
      (fun _ step h => ⟨step.flights h.1, step.earned h.1 h.2⟩) ⟨flights.congr rfl rfl rfl, h⟩

theorem undergo_warranted {states : List (Stimulus M) → Node M → Prop} {config : Config}
    {past : List (Stimulus M)} (sound : n.Sound) (h : n.Warranted states config past)
    (stimulus : Stimulus M)
    (goesOn : ∀ out, n.undergo stimulus = .ok out → states (past ++ [stimulus]) out.2) :
    Yields (n.undergo stimulus) fun out => out.2.Warranted states config (past ++ [stimulus]) := by
  obtain ⟨settings, here, flights, earned, backed, sourced⟩ := h
  obtain ⟨out, done, ⟨⟨flights, earned⟩, backed, now, added, grown, vouched⟩, config⟩ :=
    ((undergo_earned sound flights earned stimulus).and
      (undergo_vouches sound backed stimulus)).and (undergo_config sound stimulus)
  subst settings
  refine ⟨out, done, config, goesOn out done, flights, earned, backed, ?_⟩
  rw [grown]
  refine Justified.extend (sourced.mono ?_) (vouched.mono ?_)
  · intro entry earlier _ old s is data sync
    obtain ⟨before, first, rest, k, m, split, kept⟩ := old s is data sync
    exact ⟨before, first, rest ++ [stimulus], k, m, by simp [split], kept⟩
  · intro entry rest part new s is data sync
    obtain ⟨time, reference⟩ := new s is data sync
    refine ⟨past, stimulus, [], n, out.2, rfl, here, goesOn out done, List.suffix_append .., ?_, ?_⟩
    · obtain ⟨later, split⟩ := part
      exact ⟨later, by simp [grown, ← split, is]⟩
    · rw [time]
      exact reference

theorem fresh_warranted {config : Config} (valid : config.Valid) (address : Address) (medium : M)
    (alarms : AlarmClock) (words : WordSource) :
    (fresh address config medium alarms words).Warranted
      (LivedThrough address config medium alarms words) config [] where
  settings := rfl
  here := ⟨[], lifetime_of_course valid rfl⟩
  flights := ⟨rfl, nofun⟩
  earned := trivial
  backed := nofun
  sourced := trivial

theorem lifetime_warranted {config : Config} (valid : config.Valid) (address : Address) (medium : M)
    (alarms : AlarmClock) (words : WordSource) (stimuli : List (Stimulus M)) :
    ∃ answers n, lifetime address config medium alarms words stimuli = .ok (.ok (answers, n)) ∧
      n.Warranted (LivedThrough address config medium alarms words) config stimuli := by
  obtain ⟨answers, n, done, warranted, -⟩ :=
    lifetime_yields (P := fun past _ n =>
        n.Warranted (LivedThrough address config medium alarms words) config past)
      stimuli valid (fresh_warranted valid address medium alarms words)
      fun _ _ _ stimulus _ sound warranted =>
        undergo_warranted sound warranted stimulus fun _ next => warranted.here.snoc valid next
  exact ⟨answers, n, done, warranted⟩

/-- Without a role in keeping time a node is never synchronized. -/
theorem Warranted.unsynchronized {states : List (Stimulus M) → Node M → Prop} {config : Config}
    {past : List (Stimulus M)} (h : n.Warranted states config past)
    (role : config.role = .beaconless) : n.isSynchronized = false := by
  cases sync : n.time.synchronized with
  | false => exact sync
  | true =>
    refine absurd ?_ (h.backed sync).role_ne
    rw [h.settings, role]

/-- A success is about the frame launched last. -/
theorem Warranted.success {states : List (Stimulus M) → Node M → Prop} {config : Config}
    {past : List (Stimulus M)} (h : n.Warranted states config past)
    {later earlier : Journal} {entry : JournalEntry} {token : Token} {outcome : Outcome}
    {transmissions : UInt8} (split : n.journal = later ++ entry :: earlier)
    (report : entry = .posted (.sent token outcome transmissions) ∨
      entry = .dropped (.sent token outcome transmissions))
    (success : outcome = .ok ∨ outcome = .unsynchronized) :
    ∃ since s before, earlier = since ++ .submitted s :: before ∧ Journal.launches since = [] ∧
      s.channel = .data ∧ s.accepted = true ∧ s.token? = some token ∧
      (outcome = .ok ↔ s.synchronized = true) ∧
      (outcome = .ok → Sourced states config past s before) := by
  obtain ⟨s, last, same, full⟩ :=
    h.earned.at_split split token outcome transmissions report success
  obtain ⟨since, before, launched, quiet, data, accepted⟩ :=
    Journal.exists_of_launches_getLast? last
  refine ⟨since, s, before, launched, quiet, data, accepted, same, full, fun ok => ?_⟩
  have deeper : n.journal = (later ++ entry :: since) ++ .submitted s :: before := by
    rw [split, launched, List.append_assoc, List.cons_append]
  exact h.sourced.at_split deeper s rfl data (full.mp ok)

/-- Without a role in keeping time a node reports no full success. -/
theorem Warranted.no_success {states : List (Stimulus M) → Node M → Prop} {config : Config}
    {past : List (Stimulus M)} (h : n.Warranted states config past)
    (role : config.role = .beaconless) {entry : JournalEntry} {token : Token}
    {transmissions : UInt8}
    (report : entry = .posted (.sent token .ok transmissions) ∨
      entry = .dropped (.sent token .ok transmissions)) : entry ∉ n.journal := by
  intro mem
  obtain ⟨later, earlier, split⟩ := List.append_of_mem mem
  obtain ⟨_, _, _, -, -, -, -, -, -, sourced⟩ := h.success split report (.inl rfl)
  obtain ⟨_, _, _, _, _, -, -, -, -, -, reference⟩ := sourced rfl
  exact reference.role_ne role

end Medium

end Node

open Node

/-- Whatever has happened to a node: a report of a success is about the frame that
was launched last, and it is one of full success if and only if the node was
synchronized when the medium accepted that frame. If so, there was a beacon behind
the grid at that moment. A node without a role in keeping time is never
synchronized, and reports no full success. What a caller fetches is what was
reported. -/
theorem success_under_beacon {M ε : Type} [Medium M ε] {config : Config} (valid : config.Valid)
    (address : Address) (medium : M) (alarms : AlarmClock) (words : WordSource)
    (stimuli : List (Stimulus M)) :
    ∃ answers n, lifetime address config medium alarms words stimuli = .ok (.ok (answers, n)) ∧
      (∀ later entry earlier token outcome transmissions,
        n.journal = later ++ entry :: earlier →
        entry = .posted (.sent token outcome transmissions) ∨
          entry = .dropped (.sent token outcome transmissions) →
        outcome = .ok ∨ outcome = .unsynchronized →
        ∃ since s before, earlier = since ++ .submitted s :: before ∧
          Journal.launches since = [] ∧ s.channel = .data ∧ s.accepted = true ∧
          s.token? = some token ∧ (outcome = .ok ↔ s.synchronized = true) ∧
          (outcome = .ok → Sourced (LivedThrough address config medium alarms words) config
            stimuli s before)) ∧
      (config.role = .beaconless → n.isSynchronized = false ∧
        ∀ token transmissions, .posted (.sent token .ok transmissions) ∉ n.journal ∧
          .dropped (.sent token .ok transmissions) ∉ n.journal) ∧
      n.journal.posted = fetched answers ++ n.events := by
  obtain ⟨answers, n, done, warranted⟩ :=
    lifetime_warranted (ε := ε) valid address medium alarms words stimuli
  obtain ⟨_, _, same, recorded, -⟩ :=
    lifetime_recorded (ε := ε) valid address medium alarms words stimuli
  cases done.symm.trans same
  refine ⟨answers, n, done, ?_, fun role => ⟨warranted.unsynchronized role, ?_⟩, ?_⟩
  · intro later entry earlier token outcome transmissions split report success
    exact warranted.success split report success
  · intro token transmissions
    exact ⟨warranted.no_success role (.inl rfl), warranted.no_success role (.inr rfl)⟩
  · rw [recorded.accounted.order, recorded.fetched]

/-- A beacon of the coordinator comes in, and a frame is sent in the next slot. -/
def followedRun : List (Stimulus RecordingMedium) :=
  [.operate .start, .operate (.receive (Frame.timeReference 1 0).bytes),
    .operate (.send 7 0 [1]), .clock 499998, .fire .slot, .operate (.complete .data .ok 1)]

/-- The success of that frame is reported in full, and the beacon stands behind it. -/
theorem success_under_beacon_followed :
    ∃ n, LivedThrough 3 {} ({} : RecordingMedium) {} (.cycle []) followedRun n ∧
      ∃ later since s before,
        n.journal = later ++ .posted (.sent 7 .ok 1) :: (since ++ .submitted s :: before) ∧
        s.token? = some 7 ∧ s.synchronized = true ∧
        Sourced (LivedThrough 3 {} ({} : RecordingMedium) {} (.cycle [])) {} followedRun s
          before := by
  obtain ⟨answers, n, done, reported⟩ :
      ∃ answers n, lifetime 3 {} ({} : RecordingMedium) {} (.cycle []) followedRun =
          .ok (.ok (answers, n)) ∧ .posted (.sent 7 .ok 1) ∈ n.journal :=
    exists_lifetime Config.valid_default (by decide +kernel)
  obtain ⟨_, _, same, successes, -⟩ := success_under_beacon Config.valid_default 3
    ({} : RecordingMedium) {} (.cycle []) followedRun
  cases done.symm.trans same
  obtain ⟨later, earlier, split⟩ := List.append_of_mem reported
  obtain ⟨since, s, before, rfl, -, -, -, token, full, sourced⟩ :=
    successes later _ earlier 7 .ok 1 split (.inl rfl) (.inl rfl)
  exact ⟨n, ⟨answers, done⟩, later, since, s, before, split, token, full.mp rfl, sourced rfl⟩

end SlottedMac
