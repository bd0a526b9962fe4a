import SlottedMac.Proofs.Course
import SlottedMac.Proofs.Node.Journal

/-!
# Access to the medium

A data frame is handed to the medium in the owned slot, or at the end of a
backoff and after nobody was heard. What decides between the two is the state in
which the slot alarm finds the node, and that state is reached only by a node
that may steal. A node that keeps to its slot never listens.
-/

namespace SlottedMac

/-- Every data frame handed over is one that the entries before it allow. -/
def Guarded (allowed : Journal → Submission → Prop) : Journal → Prop
  | [] => True
  | entry :: earlier =>
    (∀ s, entry = .submitted s → s.channel = .data → allowed earlier s) ∧ Guarded allowed earlier

namespace Guarded

variable {allowed : Journal → Submission → Prop} {j : Journal}

theorem allows (h : Guarded allowed j) {later earlier : Journal} {s : Submission}
    (split : j = later ++ .submitted s :: earlier) (data : s.channel = .data) :
    allowed earlier s := by
  subst split
  induction later with
  | nil => exact h.1 s rfl data
  | cons _ _ ih => exact ih h.2

/-- Entries that hand no data over need no permission. -/
theorem append {later : Journal} (h : Guarded allowed j)
    (other : ∀ entry ∈ later, ∀ s, entry = .submitted s → s.channel ≠ .data) :
    Guarded allowed (later ++ j) := by
  induction later with
  | nil => exact h
  | cons entry later ih =>
    refine ⟨?_, ih fun e mem => other e (List.mem_cons_of_mem _ mem)⟩
    intro s same data
    exact absurd data (other entry List.mem_cons_self s same)

end Guarded

namespace Node

variable {M ε : Type} {n m : Node M}

/-- Only a node that may steal backs off. -/
def Contends (n : Node M) : Prop := n.arbitration = .backingOff → n.config.mode = .zmac

/-- A node that keeps to its slot has not listened. -/
def Silent (n : Node M) : Prop := n.config.mode = .tdma → ∀ clear, .sensed clear ∉ n.journal

/-- Listening was not the last thing that the node did. -/
def Rested (n : Node M) : Prop := ∀ clear, n.journal.head? ≠ some (.sensed clear)

theorem Adds.rested {allowed : JournalEntry → Prop} (h : Adds allowed n m)
    (other : ∀ clear, ¬ allowed (.sensed clear)) (rested : n.Rested) : m.Rested := by
  obtain ⟨_ | ⟨entry, added⟩, same, all⟩ := h
  · intro clear
    rw [same]
    exact rested clear
  · intro clear listened
    rw [same] at listened
    cases listened
    exact other clear (all _ List.mem_cons_self)

/-- Asking for the slot alarm is a deed of its own. -/
theorem armSlotAlarm_rested (n : Node M) (delay : Ticks) (purpose : Arbitration) :
    (n.armSlotAlarm delay purpose : Reply ε × Node M).2.Rested := by
  rw [armSlotAlarm]
  split
  · intro clear listened
    cases listened
  · have grown (k : Node M) : Adds (∀ clear, · ≠ .sensed clear) k k.abandon :=
      abandon_adds (by simp [Posts]) k
    refine (grown _).rested (by simp) ?_
    intro clear listened
    cases listened

section Medium

variable [Medium M ε] {kinds : List Deed} {d : Deed}

theorem Step.contends (step : Step d n m) (h : n.Contends) : m.Contends := by
  have kept := step.kept
  rw [Contends]
  rw [step.same.config]
  cases step with
  | armSlot delay purpose allowed =>
    rw [armSlotAlarm]
    split
    · dsimp only
      split
      · exact allowed
      · intro backing
        cases backing
    · obtain ⟨_, _, _, same⟩ := abandon_eq _
      rw [same]
      intro backing
      cases backing
  | _ =>
    rw [kept.arbitration (by decide)]
    exact h

theorem Step.silent (step : Step d n m) (contends : n.Contends) (h : n.Silent) : m.Silent := by
  rw [Silent]
  rw [step.same.config]
  intro tdma clear listened
  obtain ⟨added, same, own⟩ := step.adds
  rw [same, List.mem_append] at listened
  rcases listened with new | old
  · have senses := own _ new
    simp only [JournalEntry.writers, List.mem_singleton] at senses
    subst senses
    cases step with
    | sense ended => simp [contends ended] at tdma
  · exact h tdma clear old

theorem Path.rested (path : Path kinds n m) (none : .sense ∉ kinds) (rested : n.Rested) :
    m.Rested := by
  refine path.adds.rested ?_ rested
  rintro clear ⟨d, mem, senses⟩
  simp only [JournalEntry.writers, List.mem_singleton] at senses
  exact none (senses ▸ mem)

theorem Looks.rested {out : Reply ε × Node M} (h : Looks kinds n out) : out.2.Rested := by
  obtain ⟨m, -, -, same⟩ := h
  rw [same]
  exact armSlotAlarm_rested m _ _

/-- Between operations a node is at rest: having listened it always asks for the
slot alarm. -/
theorem perform_rested (sound : n.Sound) (rested : n.Rested) (operation : Operation) :
    Yields (n.perform operation) fun out => out.2.Rested := by
  by_cases fired : operation = .alarmFired .slot
  · subst fired
    have expired : Path [.expire] n n.expireSync := Step.expire.path
    exact (slotAlarmFired_looks (expired.sound sound)).bind fun _ looks =>
      Yields.pure_iff.mpr looks.rested
  · refine (perform_yields sound operation).mono ?_
    rintro out ⟨path, -⟩
    refine path.rested ?_ rested
    cases operation with
    | alarmFired kind =>
      cases kind with
      | slot => exact absurd rfl fired
      | beacon => simp [deeds, firing, Deed.beaconing]
    | _ => simp [deeds, Deed.following]

/-- What allows a data frame to be handed to the medium in an operation: the
owned slot, or the end of a backoff at which nobody was heard. -/
def Permits (n : Node M) (operation : Option Operation) (earlier : Journal) (s : Submission) :
    Prop :=
  n.config.layout.Owns n.slot ((fine s.time).since s.origin).toNat ∨
    n.config.mode = .zmac ∧ operation = some (.alarmFired .slot) ∧ n.arbitration = .backingOff ∧
      .sensed true ∈ earlier

/-- The deeds of an operation so far, all of them permitted. -/
def Permitted (start : Node M) (operation : Option Operation) (n : Node M) : Prop :=
  ∃ added, n.journal = added ++ start.journal ∧ Guarded (start.Permits operation) added

/-- Deeds that hand no data over need no permission. -/
theorem Step.permitted {start : Node M} {operation : Option Operation} (step : Step d n m)
    (other : d ∉ [.offer, .steal]) (h : Permitted start operation n) :
    Permitted start operation m := by
  obtain ⟨added, same, guarded⟩ := h
  obtain ⟨new, grown, own⟩ := step.adds
  refine ⟨new ++ added, by rw [grown, same, List.append_assoc], guarded.append ?_⟩
  intro entry mem s is data
  have writes := own entry mem
  simp only [is, JournalEntry.writers, data] at writes
  exact other writes

theorem mem_deeds_steal {operation : Operation} (steals : .steal ∈ n.deeds operation) :
    operation = .alarmFired .slot ∧ n.arbitration = .backingOff := by
  cases operation with
  | alarmFired kind =>
    cases kind with
    | slot =>
      refine ⟨rfl, ?_⟩
      simp only [deeds, firing] at steals
      split at steals
      · assumption
      · simp [Deed.servicing] at steals
    | beacon => simp [deeds, firing, Deed.beaconing] at steals
  | _ => simp [deeds, Deed.following] at steals

/-- A data frame that is handed over in an operation is permitted. -/
theorem Step.permitted_data {start : Node M} {operation : Operation} (step : Step d n m)
    (data : d ∈ [.offer, .steal]) (mem : d ∈ start.deeds operation) (same : Same start n)
    (contends : start.Contends) (rested : start.Rested)
    (h : Permitted start (some operation) n) : Permitted start (some operation) m := by
  obtain ⟨added, grown, guarded⟩ := h
  cases step with
  | @offer _ frame idle waits owned =>
    refine ⟨_ :: added, by rw [offered_journal, grown]; rfl, ?_, guarded⟩
    rintro s ⟨⟩ -
    left
    rw [← same.config, ← same.slot]
    exact owned
  | @steal _ frame ended idle waits heard =>
    obtain ⟨fired, backing⟩ := mem_deeds_steal mem
    refine ⟨_ :: added, by rw [offered_journal, grown]; rfl, ?_, guarded⟩
    rintro s - -
    right
    refine ⟨contends backing, congrArg some fired, backing, ?_⟩
    -- the channel was heard in this operation, since the last one ended at rest
    rw [grown] at heard
    cases added with
    | nil => exact absurd heard (rested true)
    | cons entry added =>
      cases heard
      exact List.mem_cons_self
  | _ => simp at data

/-- Every data frame that an operation hands to the medium is permitted. -/
theorem perform_permitted (sound : n.Sound) (contends : n.Contends) (rested : n.Rested)
    (operation : Operation) :
    Yields (n.perform operation) fun out => Permitted n (some operation) out.2 := by
  refine (perform_yields sound operation).mono ?_
  rintro out ⟨path, -⟩
  have kept : Same n out.2 ∧ Permitted n (some operation) out.2 := by
    refine path.keeps (P := fun a => Same n a ∧ Permitted n (some operation) a) ?_
      ⟨.refl n, [], rfl, trivial⟩
    rintro a b d mem step ⟨same, permitted⟩
    refine ⟨same.trans step.same, ?_⟩
    by_cases data : d ∈ [.offer, .steal]
    · exact step.permitted_data data mem same contends rested permitted
    · exact step.permitted data permitted
  exact kept.2

/-- What keeps a node of these settings from sending where it may not. -/
structure Mannered (config : Config) (n : Node M) : Prop where
  settings : n.config = config
  contends : n.Contends
  silent : n.Silent
  rested : n.Rested

theorem undergo_mannered {config : Config} (sound : n.Sound) (mannered : n.Mannered config)
    (stimulus : Stimulus M) :
    Yields (n.undergo stimulus) fun out => out.2.Mannered config := by
  obtain ⟨settings, contends, silent, rested⟩ := mannered
  refine undergo_yields (Q := fun _ k => k.Mannered config) ?_ ?_
  · intro _ _ _
    exact ⟨settings, contends, silent, rested⟩
  · intro alarms medium operation _
    have inOrder := sound.amid alarms medium
    refine ((perform_yields inOrder operation).and
      (perform_rested inOrder rested operation)).mono ?_
    rintro out ⟨⟨path, -⟩, rests⟩
    have kept : out.2.Contends ∧ out.2.Silent :=
      path.keeps (P := fun k => k.Contends ∧ k.Silent)
        (fun _ step h => ⟨step.contends h.1, step.silent h.1 h.2⟩) ⟨contends, silent⟩
    exact ⟨path.same.config.trans settings, kept.1, kept.2, rests⟩

theorem undergo_permitted {config : Config} (sound : n.Sound) (mannered : n.Mannered config)
    (stimulus : Stimulus M) :
    Yields (n.undergo stimulus) fun out => Permitted n stimulus.operation? out.2 := by
  refine undergo_yields (Q := fun _ k => Permitted n stimulus.operation? k) ?_ ?_
  · intro _ _ _
    exact ⟨[], rfl, trivial⟩
  · intro alarms medium operation leads
    rw [leads]
    exact perform_permitted (sound.amid alarms medium) mannered.contends mannered.rested operation

end Medium

end Node

open Node

/-- Whatever has happened to a node, the data frames that it hands to the medium
are permitted: each is in the owned slot by the grid in force, or stolen at the
end of a backoff after the same operation listened and heard nobody. A node that
keeps to its slot never listens. -/
theorem medium_access {M ε : Type} [Medium M ε] {config : Config} (valid : config.Valid)
    (address : Address) (medium : M) (alarms : AlarmClock) (words : WordSource)
    (stimuli : List (Stimulus M)) (stimulus : Stimulus M) :
    ∃ answers n answer m added,
      lifetime address config medium alarms words stimuli = .ok (.ok (answers, n)) ∧
      n.undergo stimulus = .ok (answer, m) ∧
      m.journal = added ++ n.journal ∧
      (∀ later s earlier, added = later ++ .submitted s :: earlier → s.channel = .data →
        config.layout.Owns n.slot ((fine s.time).since s.origin).toNat ∨
          config.mode = .zmac ∧ stimulus.operation? = some (.alarmFired .slot) ∧
            n.arbitration = .backingOff ∧ .sensed true ∈ earlier) ∧
      (config.mode = .tdma → ∀ clear, .sensed clear ∉ m.journal) := by
  have start : (fresh address config medium alarms words).Mannered config :=
    ⟨rfl, nofun, nofun, nofun⟩
  obtain ⟨answers, n, done, mannered, sound⟩ :=
    lifetime_yields stimuli valid start fun _ _ _ stimulus _ sound mannered =>
      undergo_mannered sound mannered stimulus
  obtain ⟨⟨answer, m⟩, last, after, added, grown, guarded⟩ :=
    (undergo_mannered sound mannered stimulus).and (undergo_permitted sound mannered stimulus)
  refine ⟨answers, n, answer, m, added, done, last, grown, ?_, after.settings ▸ after.silent⟩
  intro later s earlier split data
  have allowed := guarded.allows split data
  rw [Permits] at allowed
  rwa [mannered.settings] at allowed

/-- A node that may steal and has a frame in the slot of another node backs off;
what it does when the slot alarm comes is permitted. -/
theorem medium_access_contending :
    ∃ answers n answer m added,
      lifetime 3 { mode := .zmac } ({} : RecordingMedium) {} (.cycle [])
          [.operate (.send 7 0 [1])] = .ok (.ok (answers, n)) ∧
      n.undergo (.fire .slot) = .ok (answer, m) ∧
      m.journal = added ++ n.journal ∧
      (∀ later s earlier, added = later ++ .submitted s :: earlier → s.channel = .data →
        Layout.standard.Owns n.slot ((fine s.time).since s.origin).toNat ∨
          Mode.zmac = .zmac ∧ some (.alarmFired .slot) = some (Operation.alarmFired .slot) ∧
            n.arbitration = .backingOff ∧ .sensed true ∈ earlier) ∧
      (Mode.zmac = .tdma → ∀ clear, .sensed clear ∉ m.journal) :=
  medium_access (Config.check_eq_ok_iff.mp (rfl : ({ mode := .zmac } : Config).check = .ok ())) 3
    ({} : RecordingMedium) {} (.cycle []) [.operate (.send 7 0 [1])] (.fire .slot)

end SlottedMac
