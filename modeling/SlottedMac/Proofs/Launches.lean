import SlottedMac.Proofs.Course
import SlottedMac.Proofs.Node.Journal

/-!
# Frames in flight

A data frame that the medium accepts is launched, and it is in flight until the
medium completes it. No other frame is launched meanwhile, so launches and
completions take turns: the frames completed are those launched, in the same
order, without the one in flight.
-/

namespace SlottedMac

open Node (Deed)

/-- The frame that was handed over, if it was one that waited. -/
def Submission.token? (s : Submission) : Option Token := s.queued.map (·.token)

namespace JournalEntry

/-- The data frame that the medium accepted, if the deed was that. -/
@[simp] def launch? : JournalEntry → Option Submission
  | .submitted s => if s.channel = .data ∧ s.accepted then some s else none
  | _ => none

/-- The frame completed, if the deed was that. -/
@[simp] def completed? : JournalEntry → Option Token
  | .completed token => some token
  | _ => none

variable {entry : JournalEntry} {d : Deed}

/-- Only a data frame that is handed over is launched. -/
theorem launch?_eq_none (writes : d ∈ entry.writers) (other : d ∉ [.offer, .steal]) :
    entry.launch? = none := by
  cases entry with
  | submitted s =>
    rw [launch?, if_neg]
    rintro ⟨data, -⟩
    rw [writers, data] at writes
    exact other writes
  | _ => rfl

/-- Only a completion completes. -/
theorem completed?_eq_none (writes : d ∈ entry.writers) (other : d ≠ .complete) :
    entry.completed? = none := by
  cases entry with
  | completed token =>
    simp only [writers, List.mem_singleton] at writes
    exact absurd writes other
  | _ => rfl

end JournalEntry

namespace Journal

/-- Data frames that the medium accepted, oldest first. -/
def launches (j : Journal) : List Submission := j.collect JournalEntry.launch?

/-- Frames that the medium completed, oldest first. -/
def completed (j : Journal) : List Token := j.collect JournalEntry.completed?

section Cons

variable (entry : JournalEntry) (j : Journal)

@[simp] theorem launches_cons : launches (entry :: j) = j.launches ++ entry.launch?.toList :=
  collect_cons ..

@[simp] theorem completed_cons :
    completed (entry :: j) = j.completed ++ entry.completed?.toList := collect_cons ..

end Cons

/-- The last launch in a journal is where nothing was launched after it. -/
theorem exists_of_launches_getLast? {j : Journal} {s : Submission}
    (last : j.launches.getLast? = some s) :
    ∃ since before, j = since ++ .submitted s :: before ∧ launches since = [] ∧
      s.channel = .data ∧ s.accepted = true := by
  induction j with
  | nil => cases last
  | cons entry j ih =>
    cases launched : entry.launch? with
    | none =>
      rw [launches_cons, launched, Option.toList_none, List.append_nil] at last
      obtain ⟨since, before, split, quiet, launch⟩ := ih last
      refine ⟨entry :: since, before, by rw [split, List.cons_append], ?_, launch⟩
      rw [launches_cons, quiet, launched]
      rfl
    | some found =>
      rw [launches_cons, launched, Option.toList_some, List.getLast?_concat] at last
      cases last
      cases entry with
      | submitted submission =>
        rw [JournalEntry.launch?] at launched
        split at launched
        · next launch =>
          cases launched
          exact ⟨[], j, rfl, rfl, launch⟩
        · cases launched
      | _ => cases launched

end Journal

/-- A report of a success is about the frame that was launched last, and it is one of
full success if the node was synchronized at the launch. -/
def Earned (entry : JournalEntry) (earlier : Journal) : Prop :=
  ∀ token outcome transmissions,
    entry = .posted (.sent token outcome transmissions) ∨
      entry = .dropped (.sent token outcome transmissions) →
    outcome = .ok ∨ outcome = .unsynchronized →
    ∃ s, earlier.launches.getLast? = some s ∧ s.token? = some token ∧
      (outcome = .ok ↔ s.synchronized = true)

/-- Nothing but a completion reports a success. -/
theorem earned_of_ne {entry : JournalEntry} {earlier : Journal} {d : Deed}
    (writes : d ∈ entry.writers) (other : d ≠ .complete) : Earned entry earlier := by
  rintro token outcome transmissions (rfl | rfl) (rfl | rfl)
  all_goals
    simp only [JournalEntry.writers, Event.makers, List.mem_singleton] at writes
    exact absurd writes other

namespace Node

variable {M ε : Type} {n m : Node M}

/-- The account of launches. The frame in flight is the one launched last, and
what is known of it is what was written down then. -/
structure Flights (n : Node M) : Prop where
  order : n.journal.launches.map (·.token?) =
    (n.journal.completed ++ n.inFlight.toList.map (·.token)).map some
  last : ∀ frame, n.inFlight = some frame → ∃ s, n.journal.launches.getLast? = some s ∧
    s.token? = some frame.token ∧ s.synchronized = frame.synchronized

theorem Flights.congr (h : n.Flights) (launches : m.journal.launches = n.journal.launches)
    (completed : m.journal.completed = n.journal.completed) (inFlight : m.inFlight = n.inFlight) :
    m.Flights := by
  constructor
  · rw [launches, completed, inFlight]
    exact h.order
  · rw [launches, inFlight]
    exact h.last

/-- What was launched has been completed, or is the one frame in flight. -/
theorem Flights.length_launches (h : n.Flights) :
    n.journal.completed.length ≤ n.journal.launches.length ∧
      n.journal.launches.length ≤ n.journal.completed.length + 1 := by
  have count := congrArg List.length h.order
  simp only [List.length_map, List.length_append, Option.length_toList] at count
  split at count <;> omega

/-- A completion is written down before the report about it. -/
theorem complete_journal {frame : InFlight} (flies : n.inFlight = some frame)
    (completion : Completion) (transmissions : UInt8) :
    ∃ entry,
      (n.complete .data completion transmissions).journal =
        entry :: .completed frame.token :: n.journal ∧
      (entry = .posted (.sent frame.token
          (.ofCompletion completion frame.synchronized) transmissions) ∨
        entry = .dropped (.sent frame.token
          (.ofCompletion completion frame.synchronized) transmissions)) ∧
      (n.complete .data completion transmissions).inFlight = none := by
  simp only [complete, flies]
  rw [post]
  split
  · exact ⟨_, rfl, .inl rfl, rfl⟩
  · exact ⟨_, rfl, .inr rfl, rfl⟩

theorem complete_flights (h : n.Flights) (channel : Channel) (completion : Completion)
    (transmissions : UInt8) : (n.complete channel completion transmissions).Flights := by
  cases channel with
  | beacon => exact h
  | data =>
    cases flies : n.inFlight with
    | none =>
      have same : n.complete .data completion transmissions = n := by simp [complete, flies]
      rwa [same]
    | some frame =>
      obtain ⟨entry, grown, report, landed⟩ :=
        complete_journal flies completion transmissions
      have order := h.order
      rw [flies] at order
      constructor
      · rw [grown, landed]
        rcases report with rfl | rfl
        · simpa using order
        · simpa using order
      · rw [landed]
        nofun

section Medium

variable [Medium M ε] {d : Deed} {kinds : List Deed}

theorem offered_flights {frame : QueuedFrame} (h : n.Flights) (idle : n.inFlight = none) :
    (n.offered frame).Flights := by
  have order := h.order
  rw [idle] at order
  rw [offered]
  dsimp only
  split
  · next accepted =>
    constructor
    · simpa [submitted, submission, launch, accepted, Submission.token?] using order
    · rintro _ ⟨⟩
      exact ⟨_, by simp [submitted, submission, launch, accepted]; rfl, rfl, rfl⟩
  · next refused =>
    exact h.congr (by simp [submitted, submission, refused]) (by simp [submitted]) rfl

/-- The account of launches is kept by every deed. -/
theorem Step.flights (step : Step d n m) (h : n.Flights) : m.Flights := by
  have kept := step.kept
  have grown := step.adds
  cases step with
  | offer idle => exact offered_flights h idle
  | steal _ idle => exact (offered_flights h idle).congr rfl rfl rfl
  | complete channel completion transmissions =>
    exact complete_flights h channel completion transmissions
  | _ =>
    refine h.congr (grown.collect_eq ?_) (grown.collect_eq ?_) (kept.inFlight (by decide))
    · exact fun _ writes => JournalEntry.launch?_eq_none writes (by decide)
    · exact fun _ writes => JournalEntry.completed?_eq_none writes (by decide)

theorem complete_earned (flights : n.Flights) (h : Justified Earned n.journal) (channel : Channel)
    (completion : Completion) (transmissions : UInt8) :
    Justified Earned (n.complete channel completion transmissions).journal := by
  cases channel with
  | beacon => exact h
  | data =>
    cases flies : n.inFlight with
    | none =>
      have same : n.complete .data completion transmissions = n := by simp [complete, flies]
      rwa [same]
    | some frame =>
      obtain ⟨entry, grown, report, -⟩ := complete_journal flies completion transmissions
      obtain ⟨s, last, token, synchronized⟩ := flights.last frame flies
      rw [grown]
      refine ⟨?_, nofun, h⟩
      have about (outcome : Outcome) (success : outcome = .ok ∨ outcome = .unsynchronized)
          (ended : outcome = .ofCompletion completion frame.synchronized) :
          outcome = .ok ↔ s.synchronized = true := by
        rw [synchronized]
        cases completion <;> cases fresh : frame.synchronized <;>
          simp_all [Outcome.ofCompletion]
      have launched :
          (Journal.launches (.completed frame.token :: n.journal)).getLast? = some s := by
        simpa using last
      rintro token' outcome transmissions' same success
      rcases report with rfl | rfl
      · rcases same with same | same
        · cases same
          exact ⟨s, launched, token, about _ success rfl⟩
        · cases same
      · rcases same with same | same
        · cases same
        · cases same
          exact ⟨s, launched, token, about _ success rfl⟩

/-- Successes are earned, whatever is done. -/
theorem Step.earned (step : Step d n m) (flights : n.Flights) (h : Justified Earned n.journal) :
    Justified Earned m.journal := by
  by_cases completes : d = .complete
  · subst completes
    cases step with
    | complete channel completion transmissions =>
      exact complete_earned flights h channel completion transmissions
  · obtain ⟨added, grown, writes⟩ := step.adds
    rw [grown]
    exact h.append fun entry mem _ => earned_of_ne (writes entry mem) completes

theorem Path.flights (path : Path kinds n m) (h : n.Flights) : m.Flights :=
  path.keeps (fun _ step h => step.flights h) h

/-- Without completions the frames completed stay as they are. -/
theorem Path.completed_eq (path : Path kinds n m) (none : .complete ∉ kinds := by decide) :
    m.journal.completed = n.journal.completed := by
  refine path.adds.collect_eq ?_
  rintro entry ⟨d, mem, writes⟩
  refine entry.completed?_eq_none writes ?_
  rintro rfl
  exact none mem

theorem mem_deeds_complete {operation : Operation} (completes : .complete ∈ n.deeds operation) :
    ∃ channel completion transmissions,
      operation = .complete channel completion transmissions := by
  cases operation with
  | complete channel completion transmissions => exact ⟨channel, completion, transmissions, rfl⟩
  | alarmFired kind => exact absurd (n.deeds_alarmFired kind completes) (by decide)
  | _ => simp [deeds, Deed.following] at completes

/-- Nothing but the completion of a data frame completes one. -/
theorem undergo_completed (sound : n.Sound) {stimulus : Stimulus M}
    (other : ∀ completion transmissions,
      stimulus ≠ .operate (.complete .data completion transmissions)) :
    Yields (n.undergo stimulus) fun out => out.2.journal.completed = n.journal.completed := by
  refine undergo_yields (Q := fun _ m => m.journal.completed = n.journal.completed) ?_ ?_
  · intro _ _ _
    rfl
  · intro alarms medium operation leads
    by_cases completes : .complete ∈ (n.amid alarms medium).deeds operation
    · obtain ⟨channel, completion, transmissions, rfl⟩ := mem_deeds_complete completes
      cases channel with
      | beacon => exact Yields.ok_iff.mpr rfl
      | data =>
        cases stimulus with
        | operate operation =>
          cases leads
          exact absurd rfl (other completion transmissions)
        | _ => cases leads
    · refine (perform_yields (sound.amid alarms medium) operation).mono ?_
      rintro out ⟨path, -⟩
      exact path.completed_eq completes

end Medium

end Node

end SlottedMac
