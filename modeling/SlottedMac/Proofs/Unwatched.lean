import SlottedMac.Proofs.Watchdog

/-!
# Watchdogs that are refused

The host may refuse a member its watchdog. Whenever a beacon is heard, and whenever a
watchdog comes before the sync is stale, the member gives back the alarm that it holds
and asks for another one. If that is refused the operation says so and goes no further.
The sync is left as it was; if there was one, nothing is left to end it but a send, a slot
alarm or a start.

So a sync is watched exactly if the last watchdog that was asked for was granted. What
was asked for last is read off the journal.
-/

namespace SlottedMac

open Node (Deed)

/-- Whether a beacon alarm was granted, if the deed was to ask for one. -/
def JournalEntry.grant? : JournalEntry → Option Bool
  | .beaconAlarm _ granted => some granted
  | _ => none

theorem JournalEntry.grant?_eq_none {entry : JournalEntry} {d : Deed}
    (writes : d ∈ entry.writers) (other : d ≠ .armBeacon) : entry.grant? = none := by
  cases entry with
  | beaconAlarm delay granted =>
    simp only [writers, List.mem_singleton] at writes
    exact absurd writes other
  | _ => rfl

namespace Journal

/-- Whether the last beacon alarm that was asked for was granted. -/
def lastGrant? (j : Journal) : Option Bool := (j.collect JournalEntry.grant?).getLast?

@[simp] theorem lastGrant?_cons_beaconAlarm (delay : Ticks) (granted : Bool) (j : Journal) :
    lastGrant? (.beaconAlarm delay granted :: j) = some granted := by
  simp [lastGrant?, JournalEntry.grant?]

end Journal

namespace Node

open AlarmClock

variable {M ε : Type} {n m : Node M} {coordinator : Address}

/-- The node holds a beacon alarm exactly if the last one that it asked for was granted. -/
def Told (n : Node M) : Prop := n.journal.lastGrant? = some n.beaconAlarm.isSome

/-- What asking for a beacon alarm comes to. -/
structure Asked (n : Node M) (out : Reply ε × Node M) : Prop where
  told : out.2.Told
  last : out.2.journal.lastGrant? = some (n.alarms.refusal .beacon).isNone
  refused : ∀ e, n.alarms.refusal .beacon = some e →
    out.1 = .error (.alarm e) ∧ out.2.time = n.time

theorem armBeaconAlarm_asked (n : Node M) (delay : Ticks) :
    Asked n (n.armBeaconAlarm delay : Reply ε × Node M) := by
  rw [armBeaconAlarm, arm, release_refusal]
  cases refusal : n.alarms.refusal .beacon with
  | none => exact ⟨by simp [Told], by simp [refusal], by simp [refusal]⟩
  | some e => exact ⟨by simp [Told], by simp [refusal], by simp [refusal]⟩

/-- What comes before an alarm is asked for may be anything that is no concern of it. -/
theorem Asked.after {out : Reply ε × Node M} (h : Asked m out)
    (refusal : m.alarms.refusal .beacon = n.alarms.refusal .beacon) (time : m.time = n.time) :
    Asked n out where
  told := h.told
  last := refusal ▸ h.last
  refused e refused := time ▸ h.refused e (refusal.trans refused)

section Medium

variable [Medium M ε] {kinds : List Deed} {d : Deed}

/-! ## What is held and what was granted -/

theorem Step.lastGrant?_eq (step : Step d n m) (other : d ≠ .armBeacon) :
    m.journal.lastGrant? = n.journal.lastGrant? := by
  rw [Journal.lastGrant?, Journal.lastGrant?, step.adds.collect_eq fun _ writes =>
    JournalEntry.grant?_eq_none writes other]

theorem Path.lastGrant?_eq (path : Path kinds n m) (other : .armBeacon ∉ kinds := by decide) :
    m.journal.lastGrant? = n.journal.lastGrant? := by
  refine path.keeps (P := fun k => k.journal.lastGrant? = n.journal.lastGrant?) ?_ rfl
  intro a b d mem step so_far
  refine (step.lastGrant?_eq ?_).trans so_far
  rintro rfl
  exact other mem

/-- Only an alarm that comes parts what is held from what was granted. -/
theorem Step.told (step : Step d n m) (other : d ≠ .spendBeacon) (h : n.Told) : m.Told := by
  by_cases asks : d = .armBeacon
  · subst asks
    cases step with
    | armBeacon delay => exact (armBeaconAlarm_asked (ε := ε) n delay).told
  · rw [Told, step.lastGrant?_eq asks, step.kept.beaconAlarm (by simp [asks, other])]
    exact h

theorem Path.told (path : Path kinds n m) (other : .spendBeacon ∉ kinds := by decide)
    (h : n.Told) : m.Told := by
  refine path.keeps (fun mem step => step.told ?_) h
  rintro rfl
  exact other mem

/-- No watchdog is asked for, and no sync begins; what is still in sync holds what it
held. -/
structure Rests (n m : Node M) : Prop where
  last : m.journal.lastGrant? = n.journal.lastGrant?
  sync : m.time.synchronized = true → n.time.synchronized = true
  told : m.time.synchronized = true → n.Told → m.Told

theorem Path.rests (path : Path kinds n m)
    (other : ∀ d ∈ kinds, d ∉ [.armBeacon, .anchor, .spendBeacon] := by decide)
    (role : n.config.role = .member coordinator) : Rests n m where
  last := path.lastGrant?_eq fun mem => other _ mem (by decide)
  sync := path.gains (fun mem => other _ mem (by decide)) role
  told _ := path.told fun mem => other _ mem (by decide)

/-! ## One stimulus -/

/-- Whether a stimulus has a member ask for a watchdog: it brings a beacon, or the
watchdog comes before the sync is stale. -/
def renews (n : Node M) : Stimulus M → Bool
  | .operate (.receive bytes) => (n.heard? bytes).isSome
  | .fire .beacon =>
    (n.alarms.first? .beacon).isSome && n.isSynchronized &&
      !n.time.isStale n.coarseNow n.config.syncTimeout
  | _ => false

/-- What a stimulus does about the watchdog of a member. -/
def Renewed (n : Node M) (stimulus : Stimulus M) (answer : Option (Answer ε)) (m : Node M) : Prop :=
  if n.renews stimulus then ∃ reply, answer = some (.reply reply) ∧ Asked n (reply, m)
  else Rests n m

/-- A beacon has a watchdog asked for before anything else. -/
theorem followBeacon_asked (sound : n.Sound) (header : Header)
    (role : n.config.role = .member coordinator) :
    Yields (n.followBeacon header : Except Fault (Reply ε × Node M)) (Asked n) := by
  have asked := armBeaconAlarm_asked (ε := ε) (n.informed header) n.config.syncTimeout
  have same := armBeaconAlarm_same (ε := ε) (n.informed header) n.config.syncTimeout
  apply (followBeacon_yields sound header).mono
  rintro out (⟨-, rfl⟩ | ⟨granted, restarts⟩)
  · exact asked.after rfl rfl
  · have anchored : Path [.anchor, .align, .offer, .armSlot] _ _ :=
      (Step.anchor (same.config ▸ role)).path
    have path := anchored.trans (restarts.path.mono (by decide))
    refine ⟨path.told (by decide) asked.told, (path.lastGrant?_eq).trans asked.last, ?_⟩
    intro e refused
    cases granted.symm.trans (asked.refused e refused).1

/-- A watchdog that comes before the sync is stale is followed by another one. Otherwise
it ends the sync. -/
theorem watchdogFired_asked (role : n.config.role = .member coordinator) :
    Yields ((n.consumed .beacon).alarmFired .beacon : Except Fault (Reply ε × Node M)) fun out =>
      if n.isSynchronized && !n.time.isStale n.coarseNow n.config.syncTimeout then Asked n out
      else Rests n out.2 := by
  rw [watchdogFired_eq role, Yields.ok_iff]
  cases lasts : n.isSynchronized && !n.time.isStale n.coarseNow n.config.syncTimeout with
  | true =>
    simp only [Bool.and_eq_true, Bool.not_eq_true'] at lasts
    obtain ⟨sync, fresh⟩ := lasts
    have kept : (n.consumed .beacon).expireSync = n.consumed .beacon := by
      refine expireSync_of_not_stale role fun stale => ?_
      rw [TimeBase.isStale, Bool.and_eq_false_iff, decide_eq_false_iff_not] at fresh
      rcases fresh with off | early
      · cases sync.symm.trans off
      · exact early stale
    have on : ((n.consumed .beacon).spent .beacon).time.synchronized = true := sync
    rw [kept, if_pos on, if_pos rfl]
    exact (armBeaconAlarm_asked _ _).after rfl rfl
  | false =>
    have ended : (n.consumed .beacon).expireSync.time.synchronized = false := by
      refine expireSync_ends role fun sync => ?_
      have on : n.isSynchronized = true := sync
      rw [on, Bool.true_and, Bool.not_eq_false', TimeBase.isStale, Bool.and_eq_true] at lasts
      exact of_decide_eq_true lasts.2
    have off : ((n.consumed .beacon).expireSync.spent .beacon).time.synchronized = false := ended
    have path : Path [.expire] (n.consumed .beacon) (n.consumed .beacon).expireSync :=
      Step.expire.path
    rw [off]
    refine ⟨path.lastGrant?_eq, fun now => ?_, fun now => ?_⟩
    · cases off.symm.trans now
    · cases off.symm.trans now

theorem perform_rests (sound : n.Sound) (role : n.config.role = .member coordinator)
    {operation : Operation} (other : operation ≠ .alarmFired .beacon)
    (unheard : ∀ bytes, operation = .receive bytes → n.heard? bytes = none) :
    Yields (n.perform operation) fun out => Rests n out.2 := by
  by_cases starts : operation = .start
  · subst starts
    have begun : Path [.start] n _ := Step.start.path
    rw [perform, start, role]
    refine Yields.ok_iff.mpr ⟨begun.lastGrant?_eq, fun sync => ?_, fun sync => ?_⟩
    · cases sync
    · cases sync
  · apply (perform_aside sound starts other unheard).mono
    rintro out ⟨kinds, calm, path⟩
    exact path.rests (fun d mem => mt (by simp +contextual) (calm d mem)) role

/-- A stimulus that changes no more than the circumstances is no concern of the
watchdog. -/
theorem Rests.amid (n : Node M) (alarms : AlarmClock) (medium : M) :
    Rests n (n.amid alarms medium) := ⟨rfl, id, fun _ => id⟩

/-- Where a watchdog is asked for, the stimulus is answered. -/
theorem renewed_of_asked {stimulus : Stimulus M} (renews : n.renews stimulus = true)
    {operation : Except Fault (Reply ε × Node M)} (asked : Yields operation (Asked n))
    (answered : n.undergo stimulus = (do return (← operation).map (some ∘ Answer.reply) id)) :
    Yields (n.undergo stimulus) fun out => n.Renewed stimulus out.1 out.2 := by
  rw [answered]
  refine asked.bind fun out asked => Yields.pure_iff.mpr ?_
  rw [Renewed, if_pos renews]
  exact ⟨out.1, rfl, asked⟩

theorem renewed_of_rests {stimulus : Stimulus M} (renews : n.renews stimulus = false)
    (rests : Yields (n.undergo stimulus : Except Fault (Option (Answer ε) × Node M)) fun out =>
      Rests n out.2) :
    Yields (n.undergo stimulus : Except Fault (Option (Answer ε) × Node M)) fun out =>
      n.Renewed stimulus out.1 out.2 := by
  refine rests.mono fun out rests => ?_
  rw [Renewed, renews]
  exact rests

/-- A time reference has a watchdog asked for, and nothing else that is received. -/
theorem receive_renewed (sound : n.Sound) (role : n.config.role = .member coordinator)
    (bytes : List UInt8) :
    Yields (n.undergo (.operate (.receive bytes))) fun out =>
      n.Renewed (.operate (.receive bytes)) out.1 out.2 := by
  cases heard : n.heard? bytes with
  | none =>
    refine renewed_of_rests (by simp [renews, heard]) ?_
    refine (perform_rests sound role (by simp) ?_).bind fun _ rests => Yields.pure_iff.mpr rests
    simp [heard]
  | some header =>
    have received : Yields (n.receive bytes : Except Fault (Reply ε × Node M)) (Asked n) := by
      rcases receive_cases (ε := ε) n bytes with ⟨header, -, same⟩ | ⟨none, -⟩
      · rw [same]
        exact followBeacon_asked sound header role
      · rw [none] at heard
        cases heard
    refine renewed_of_asked (by simp [renews, heard]) received ?_
    simp only [undergo, perform, bind_assoc, pure_bind]
    rfl

/-- So has a watchdog that comes early. -/
theorem fire_renewed (sound : n.Sound) (role : n.config.role = .member coordinator)
    (kind : AlarmKind) :
    Yields (n.undergo (.fire kind)) fun out => n.Renewed (.fire kind) out.1 out.2 := by
  cases live : n.alarms.first? kind with
  | none =>
    refine renewed_of_rests ?_ ?_
    · cases kind <;> simp [renews, live]
    · simp only [undergo, fire, live]
      exact Yields.ok_iff.mpr (Rests.amid n n.alarms n.medium)
  | some callback =>
    cases kind with
    | slot =>
      refine renewed_of_rests rfl ?_
      rw [undergo_fire_eq live]
      refine (alarmFired_yields (sound.amid _ _) .slot).bind fun out done => ?_
      apply Yields.pure_iff.mpr
      have rests : Rests (n.consumed .slot) out.2 := by
        refine done.1.rests ?_ role
        rw [deeds, firing]
        split <;> decide
      exact ⟨rests.last, rests.sync, rests.told⟩
    | beacon =>
      have fired := watchdogFired_asked (ε := ε) role
      cases lasts : n.isSynchronized && !n.time.isStale n.coarseNow n.config.syncTimeout with
      | true =>
        rw [lasts] at fired
        exact renewed_of_asked (by simpa [renews, live] using lasts) fired (undergo_fire_eq live)
      | false =>
        rw [lasts] at fired
        refine renewed_of_rests (by simpa [renews, live] using lasts) ?_
        rw [undergo_fire_eq live]
        exact fired.bind fun _ rests => Yields.pure_iff.mpr rests

theorem undergo_renewed (sound : n.Sound) (role : n.config.role = .member coordinator)
    {stimulus : Stimulus M} (disciplined : stimulus.Disciplined) :
    Yields (n.undergo stimulus) fun out => n.Renewed stimulus out.1 out.2 := by
  cases stimulus with
  | operate operation =>
    cases operation with
    | receive bytes => exact receive_renewed sound role bytes
    | alarmFired kind => exact disciplined.elim
    | _ =>
      exact (perform_rests sound role (by simp) (by simp)).bind fun _ rests =>
        Yields.pure_iff.mpr rests
  | fire kind => exact fire_renewed sound role kind
  | lose kind => exact disciplined.elim
  | clock time => exact Yields.ok_iff.mpr (Rests.amid ..)
  | refuse kind error => exact Yields.ok_iff.mpr (Rests.amid ..)
  | medium medium => exact Yields.ok_iff.mpr (Rests.amid ..)

omit [Medium M ε] in
/-- What is still in sync is told of its watchdog. -/
theorem Renewed.told {stimulus : Stimulus M} {answer : Option (Answer ε)}
    (h : n.Renewed stimulus answer m) (told : n.time.synchronized = true → n.Told)
    (sync : m.time.synchronized = true) : m.Told := by
  rw [Renewed] at h
  split at h
  · obtain ⟨reply, -, asked⟩ := h
    exact asked.told
  · exact h.told sync (told (h.sync sync))

end Medium

/-- The watchdog of a sync comes if it was granted. -/
theorem Told.watchdogs (told : n.Told) (holds : n.Holds) :
    ∃ granted, n.journal.lastGrant? = some granted ∧
      (n.alarms.live.filter (·.kind == .beacon)).length = granted.toNat := by
  refine ⟨_, told, ?_⟩
  have live := congrArg List.length (holds.live .beacon)
  rw [List.length_map] at live
  rw [← pending, live, held]
  cases n.beaconAlarm <;> rfl

end Node

open Node

/-- As long as the host lets alarms come just as it takes out their callbacks, a member in
sync has one beacon alarm to come if the last one that it asked for was granted, and none
if it was refused. It asks for one with every beacon that it hears, and when one comes
before the sync is stale; the rest of what may happen changes nothing about that, nor
does it begin a sync. Where an alarm is refused the answer says so, and the time base is
as before: a sync goes on, and nothing watches it any more. -/
theorem unwatched_iff_refused {M ε : Type} [Medium M ε] {config : Config}
    (valid : config.Valid) {coordinator : Address} (role : config.role = .member coordinator)
    (address : Address) (medium : M) {alarms : AlarmClock} (unused : alarms.live = [])
    (words : WordSource) (stimuli : List (Stimulus M)) (stimulus : Stimulus M)
    (disciplined : ∀ s ∈ stimuli ++ [stimulus], s.Disciplined) :
    ∃ answers n answer m,
      lifetime address config medium alarms words stimuli = .ok (.ok (answers, n)) ∧
      n.undergo stimulus = .ok (answer, m) ∧
      (n.isSynchronized = true → ∃ granted, n.journal.lastGrant? = some granted ∧
        (n.alarms.live.filter (·.kind == .beacon)).length = granted.toNat) ∧
      (if n.renews stimulus then
        m.journal.lastGrant? = some (n.alarms.refusal .beacon).isNone ∧
        ∀ e, n.alarms.refusal .beacon = some e →
          answer = some (.reply (.error (.alarm e))) ∧ m.time = n.time
      else
        m.journal.lastGrant? = n.journal.lastGrant? ∧
        (m.isSynchronized = true → n.isSynchronized = true)) := by
  have disciplined_past {s : Stimulus M} (mem : s ∈ stimuli) : s.Disciplined :=
    disciplined s (List.mem_append_left _ mem)
  obtain ⟨answers, n, done, ⟨holds, same, told⟩, sound⟩ :=
    lifetime_yields (P := fun _ _ n => n.Holds ∧ n.config = config ∧
        (n.time.synchronized = true → n.Told)) stimuli valid
      ⟨fresh_holds address config medium unused words, rfl, nofun⟩ (by
        rintro past answers n stimulus mem sound ⟨holds, same, told⟩
        have keeps := (undergo_holds sound holds (disciplined_past mem)).and
          ((undergo_config sound stimulus).and
            (undergo_renewed sound (same ▸ role) (disciplined_past mem)))
        exact keeps.mono fun _ done => ⟨done.1, done.2.1.trans same, done.2.2.told told⟩)
  obtain ⟨⟨answer, m⟩, last, renewed⟩ := undergo_renewed sound (same ▸ role)
    (disciplined stimulus (List.mem_append_right _ (List.mem_singleton_self _)))
  refine ⟨answers, n, answer, m, done, last, fun sync => (told sync).watchdogs holds, ?_⟩
  rw [Renewed] at renewed
  split at renewed
  · next renews =>
    obtain ⟨reply, rfl, asked⟩ := renewed
    rw [if_pos renews]
    refine ⟨asked.last, fun e refused => ?_⟩
    obtain ⟨error, time⟩ := asked.refused e refused
    exact ⟨congrArg (some ∘ Answer.reply) error, time⟩
  · next rests =>
    rw [if_neg rests]
    exact ⟨renewed.last, renewed.sync⟩

/-- A beacon, and another one while the host has no beacon alarm left. -/
def runningOut : List (Stimulus RecordingMedium) :=
  [.operate .start, .clock 1000000, .operate (.receive (Frame.timeReference 1 0).bytes),
    .refuse .beacon (some .exhausted), .clock 11000000,
    .operate (.receive (Frame.timeReference 1 1).bytes)]

/-- The watchdog of the first beacon is given back and the second beacon gets none. The
member is in sync as before, also long after the sync timed out. -/
theorem synchronized_unwatched :
    (∀ stimulus ∈ runningOut ++ [.clock 100000000], stimulus.Disciplined) ∧
    ∃ answers n, lifetime 3 {} ({} : RecordingMedium) {} (.cycle [])
        (runningOut ++ [.clock 100000000]) = .ok (.ok (answers, n)) ∧
      n.config.role = .member 1 ∧ n.isSynchronized = true ∧ n.alarms.live = [] ∧
      n.config.syncTimeout ≤ n.coarseNow.since n.time.lastSync := by
  refine ⟨by simp [runningOut, Stimulus.Disciplined], ?_⟩
  exact exists_lifetime Config.valid_default (by decide +kernel)

/-- It says so when it is refused. -/
theorem unwatched_iff_refused_exhausted :
    ∃ answers n answer m,
      lifetime 3 {} ({} : RecordingMedium) {} (.cycle []) runningOut.dropLast =
        .ok (.ok (answers, n)) ∧
      n.undergo (.operate (.receive (Frame.timeReference 1 1).bytes)) = .ok (answer, m) ∧
      (n.isSynchronized = true → ∃ granted, n.journal.lastGrant? = some granted ∧
        (n.alarms.live.filter (·.kind == .beacon)).length = granted.toNat) ∧
      answer = some (.reply (.error (.alarm .exhausted))) ∧ m.time = n.time := by
  obtain ⟨answers, n, answer, m, done, last, watched, renewed⟩ :=
    unwatched_iff_refused Config.valid_default (show _ = Role.member 1 from rfl) 3
      ({} : RecordingMedium)
      (rfl : ({} : AlarmClock).live = []) (.cycle []) runningOut.dropLast
      (.operate (.receive (Frame.timeReference 1 1).bytes))
      (by simp [runningOut, Stimulus.Disciplined])
  obtain ⟨_, _, same, renews, refused⟩ :
      ∃ answers n,
        lifetime 3 {} ({} : RecordingMedium) {} (.cycle []) runningOut.dropLast =
          .ok (.ok (answers, n)) ∧
        n.renews (.operate (.receive (Frame.timeReference 1 1).bytes)) = true ∧
          n.alarms.refusal .beacon = some .exhausted :=
    exists_lifetime Config.valid_default (by decide +kernel)
  cases done.symm.trans same
  rw [if_pos renews] at renewed
  exact ⟨answers, n, answer, m, done, last, watched, renewed.2 _ refused⟩

end SlottedMac
