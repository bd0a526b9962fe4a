import SlottedMac.Host
import SlottedMac.Proofs.Node.Operations

/-!
# The course of a node

Between its operations the host of a node may do as it likes: callbacks come or
get lost, the clock moves, alarms run out, and the medium changes. A course is a
list of such stimuli and of operations, in any order. A node of valid settings
stands every course without a fault, and what each stimulus keeps holds at the
end of every course.
-/

namespace SlottedMac

/-- What can happen to a node. -/
inductive Stimulus (M : Type) where
  | operate (operation : Operation)
  /-- The first callback of a kind comes. -/
  | fire (kind : AlarmKind)
  /-- The first callback of a kind is lost. -/
  | lose (kind : AlarmKind)
  | clock (time : Nat)
  /-- Alarms of a kind are refused from now on, or granted again. -/
  | refuse (kind : AlarmKind) (error : Option AlarmError)
  | medium (medium : M)

/-- The operation that a stimulus leads to, if it does. -/
def Stimulus.operation? {M : Type} : Stimulus M → Option Operation
  | .operate operation => some operation
  | .fire kind => some (.alarmFired kind)
  | _ => none

namespace Node

variable {M ε : Type} [Medium M ε]

/-- Undergo one stimulus. Only operations are answered. -/
def undergo (n : Node M) : Stimulus M → Except Fault (Option (Answer ε) × Node M)
  | .operate operation => return (← n.perform operation).map some id
  | .fire kind => return (← n.fire kind).map (Option.map .reply) id
  | .lose kind => .ok (none, { n with alarms := n.alarms.consume kind })
  | .clock time => .ok (none, n.setClock time)
  | .refuse kind error => .ok (none, { n with alarms := n.alarms.refuse kind error })
  | .medium medium => .ok (none, { n with medium })

/-- Undergo stimuli one after another. -/
def course (n : Node M) : List (Stimulus M) → Except Fault (List (Answer ε) × Node M)
  | [] => .ok ([], n)
  | stimulus :: rest => do
    let (answer, n) ← n.undergo stimulus
    let (answers, n) ← n.course rest
    return (answer.toList ++ answers, n)

/-- Set a node up and let it undergo stimuli. -/
def lifetime (address : Address) (config : Config) (medium : M) (alarms : AlarmClock)
    (words : WordSource) (stimuli : List (Stimulus M)) :
    Except Fault (Except (NodeError ε) (List (Answer ε) × Node M)) := do
  match ← create address config medium alarms words with
  | .error e => return .error e
  | .ok n => return .ok (← n.course stimuli)

variable {n : Node M}

/-- The host in other circumstances. -/
def amid (n : Node M) (alarms : AlarmClock) (medium : M) : Node M := { n with alarms, medium }

theorem Sound.amid (sound : n.Sound) (alarms : AlarmClock) (medium : M) :
    (n.amid alarms medium).Sound :=
  ⟨sound.valid, sound.slot_lt, sound.interval, sound.room⟩

/-- The node when its host has taken out a callback. -/
def consumed (n : Node M) (kind : AlarmKind) : Node M :=
  { n with alarms := n.alarms.consume kind }

/-- A callback that comes is answered. -/
theorem undergo_fire_eq {kind : AlarmKind} {callback : Callback}
    (live : n.alarms.first? kind = some callback) :
    (n.undergo (.fire kind) : Except Fault (Option (Answer ε) × Node M)) =
      (do return (← (n.consumed kind).alarmFired kind).map (some ∘ Answer.reply) id) := by
  simp only [undergo, fire, live]
  show (do
    let out ← (do
      let out ← (n.consumed kind).alarmFired kind
      return out.map some id)
    return out.map (Option.map Answer.reply) id) = _
  simp only [bind_assoc, pure_bind]
  rfl

/-- A callback comes only if there is one. -/
theorem undergo_fire {kind : AlarmKind} {Q : Node M → Prop}
    (idle : n.alarms.first? kind = none → Q n)
    (came : ∀ callback, n.alarms.first? kind = some callback →
      Yields ((n.consumed kind).alarmFired kind : Except Fault (Reply ε × Node M)) fun out =>
        Q out.2) :
    Yields (n.undergo (.fire kind)) fun out => Q out.2 := by
  cases live : n.alarms.first? kind with
  | none =>
    simp only [undergo, fire, live]
    exact Yields.ok_iff.mpr (idle live)
  | some callback =>
    rw [undergo_fire_eq live]
    exact (came callback live).bind fun _ holds => Yields.pure_iff.mpr holds

/-- A stimulus changes the circumstances, and may then lead to an operation. -/
theorem undergo_cases (n : Node M) (stimulus : Stimulus M) :
    ∃ alarms medium,
      (∀ operation, stimulus ≠ .operate operation) ∧
          n.undergo stimulus = .ok (none, n.amid alarms medium) ∨
        ∃ operation, stimulus.operation? = some operation ∧
          n.undergo stimulus =
            (do return (← (n.amid alarms medium).perform operation).map some id) := by
  cases stimulus with
  | operate operation => exact ⟨n.alarms, n.medium, .inr ⟨operation, rfl, rfl⟩⟩
  | fire kind =>
    cases live : n.alarms.first? kind with
    | none => exact ⟨n.alarms, n.medium, .inl ⟨nofun, by simp [undergo, fire, live]; rfl⟩⟩
    | some callback =>
      refine ⟨n.alarms.consume kind, n.medium, .inr ⟨_, rfl, ?_⟩⟩
      rw [undergo_fire_eq live]
      simp only [perform, bind_assoc, pure_bind]
      rfl
  | lose kind => exact ⟨n.alarms.consume kind, n.medium, .inl ⟨nofun, rfl⟩⟩
  | clock time => exact ⟨{ n.alarms with now := time }, n.medium, .inl ⟨nofun, rfl⟩⟩
  | refuse kind error => exact ⟨n.alarms.refuse kind error, n.medium, .inl ⟨nofun, rfl⟩⟩
  | medium medium => exact ⟨n.alarms, medium, .inl ⟨nofun, rfl⟩⟩

/-! ## What comes of a stimulus -/

/-- The operation that a stimulus leads to in this state. A callback comes only if there is
one. -/
def prompted? (n : Node M) : Stimulus M → Option Operation
  | .operate operation => some operation
  | .fire kind => (n.alarms.first? kind).map fun _ => .alarmFired kind
  | _ => none

/-- The node in the circumstances that a stimulus brings. -/
def facing (n : Node M) : Stimulus M → Node M
  | .operate _ => n
  | .fire kind | .lose kind => n.consumed kind
  | .clock time => n.setClock time
  | .refuse kind error => n.amid (n.alarms.refuse kind error) n.medium
  | .medium medium => n.amid n.alarms medium

/-- A callback that is not there cannot be taken out. -/
theorem consumed_of_none {kind : AlarmKind} (none : n.alarms.first? kind = none) :
    n.consumed kind = n := by
  have kept : n.alarms.live.eraseP (·.kind == kind) = n.alarms.live :=
    List.eraseP_of_forall_not (List.find?_eq_none.mp none)
  rw [consumed, AlarmClock.consume, kept]

/-- A stimulus is a change of circumstances, and then an operation if it leads to one. -/
theorem undergo_eq (n : Node M) (stimulus : Stimulus M) :
    n.undergo stimulus =
      match n.prompted? stimulus with
      | none => .ok (none, n.facing stimulus)
      | some operation => do return (← (n.facing stimulus).perform operation).map some id := by
  cases stimulus with
  | fire kind =>
    cases live : n.alarms.first? kind with
    | none =>
      simp only [undergo, fire, live, prompted?, facing, Option.map_none, consumed_of_none live]
      rfl
    | some callback =>
      rw [undergo_fire_eq live]
      simp only [prompted?, live, Option.map_some, facing, perform, bind_assoc, pure_bind]
      rfl
  | _ => rfl

/-- Circumstances are the alarms and the medium. -/
theorem facing_amid (n : Node M) (stimulus : Stimulus M) :
    ∃ alarms medium, n.facing stimulus = n.amid alarms medium := by
  cases stimulus <;> exact ⟨_, _, rfl⟩

theorem Sound.facing (sound : n.Sound) (stimulus : Stimulus M) : (n.facing stimulus).Sound := by
  obtain ⟨alarms, medium, same⟩ := n.facing_amid stimulus
  rw [same]
  exact sound.amid alarms medium

/-- The operations that stimuli lead to, each with the node that faces it. -/
def encounters (n : Node M) : List (Stimulus M) → List (Node M × Operation)
  | [] => []
  | stimulus :: rest =>
    ((n.prompted? stimulus).map (n.facing stimulus, ·)).toList ++
      match n.undergo stimulus with
      | .error _ => []
      | .ok (_, m) => m.encounters rest

theorem encounters_singleton (n : Node M) (stimulus : Stimulus M) :
    n.encounters [stimulus] = ((n.prompted? stimulus).map (n.facing stimulus, ·)).toList := by
  rw [encounters]
  split <;> simp [encounters]

theorem encounters_cons {stimulus : Stimulus M} {rest : List (Stimulus M)}
    {out : Option (Answer ε) × Node M} (done : n.undergo stimulus = .ok out) :
    n.encounters (stimulus :: rest) = n.encounters [stimulus] ++ out.2.encounters rest := by
  simp [encounters, done]

/-- What an operation establishes in any circumstances, and what circumstances
leave alone, holds after every stimulus. -/
theorem undergo_yields {stimulus : Stimulus M}
    {Q : Option (Answer ε) → Node M → Prop}
    (idle : (∀ operation, stimulus ≠ .operate operation) →
      ∀ alarms medium, Q none (n.amid alarms medium))
    (busy : ∀ alarms medium operation, stimulus.operation? = some operation →
      Yields ((n.amid alarms medium).perform operation) fun out => Q (some out.1) out.2) :
    Yields (n.undergo stimulus) fun out => Q out.1 out.2 := by
  obtain ⟨alarms, medium, ⟨none, done⟩ | ⟨operation, leads, done⟩⟩ := n.undergo_cases stimulus
  · rw [done]
    exact Yields.ok_iff.mpr (idle none alarms medium)
  · rw [done]
    exact (busy alarms medium operation leads).bind fun _ done => Yields.pure_iff.mpr done

theorem undergo_sound (sound : n.Sound) (stimulus : Stimulus M) :
    Yields (n.undergo stimulus) fun out => out.2.Sound := by
  refine undergo_yields (Q := fun _ m => m.Sound) (fun _ _ _ => sound.amid _ _) ?_
  intro alarms medium operation _
  have inOrder := sound.amid alarms medium
  exact (perform_yields inOrder operation).mono fun _ done => done.1.sound inOrder

/-- Nothing changes the settings of a node, nor the slot that it owns. -/
theorem undergo_settings (sound : n.Sound) (stimulus : Stimulus M) :
    Yields (n.undergo stimulus) fun out =>
      out.2.config = n.config ∧ out.2.slot = n.slot := by
  refine undergo_yields (Q := fun _ m => m.config = n.config ∧ m.slot = n.slot)
    (fun _ _ _ => ⟨rfl, rfl⟩) ?_
  intro alarms medium operation _
  apply (perform_yields (sound.amid alarms medium) operation).mono
  intro _ done
  exact ⟨done.1.same.config, done.1.same.slot⟩

theorem undergo_config (sound : n.Sound) (stimulus : Stimulus M) :
    Yields (n.undergo stimulus) fun out => out.2.config = n.config :=
  (undergo_settings sound stimulus).mono fun _ => And.left

/-- What the beginning of a course establishes and each further stimulus keeps
holds at its end. -/
theorem course_yields {P : List (Stimulus M) → List (Answer ε) → Node M → Prop}
    {stimuli : List (Stimulus M)} (sound : n.Sound) (start : P [] [] n)
    (step : ∀ past answers (m : Node M), ∀ stimulus ∈ stimuli, m.Sound → P past answers m →
      Yields (m.undergo stimulus) fun out =>
        P (past ++ [stimulus]) (answers ++ out.1.toList) out.2) :
    Yields (n.course stimuli) fun out => P stimuli out.1 out.2 ∧ out.2.Sound := by
  -- the past and its answers are kept apart, since the list is read from its front
  suffices general : ∀ rest ⊆ stimuli, ∀ past answers (m : Node M), m.Sound → P past answers m →
      Yields (m.course rest) fun out =>
        P (past ++ rest) (answers ++ out.1) out.2 ∧ out.2.Sound by
    simpa using general stimuli (List.Subset.refl _) [] [] n sound start
  intro rest
  induction rest with
  | nil =>
    intro _ past answers m sound now
    exact Yields.ok_iff.mpr (by simpa using ⟨now, sound⟩)
  | cons stimulus rest ih =>
    intro sub past answers m sound now
    have first := (step past answers m stimulus (sub List.mem_cons_self) sound now).and
      (undergo_sound sound stimulus)
    refine first.bind ?_
    rintro ⟨answer, k⟩ ⟨next, sound⟩
    refine (ih (List.subset_of_cons_subset sub) _ _ k sound next).bind ?_
    intro out done
    exact Yields.pure_iff.mpr (by simpa using done)

/-- A course that goes on is the course so far and then the rest. -/
theorem course_append (n : Node M) (past rest : List (Stimulus M)) :
    (n.course (past ++ rest) : Except Fault (List (Answer ε) × Node M)) = do
      let (before, k) ← n.course past
      let (after, m) ← k.course rest
      return (before ++ after, m) := by
  induction past generalizing n with
  | nil =>
    cases done : (n.course rest : Except Fault (List (Answer ε) × Node M)) with
    | error fault => simp [course, done, bind, Except.bind]
    | ok out => simp [course, done, bind, Except.bind, pure, Except.pure]
  | cons stimulus past ih =>
    simp only [List.cons_append, course, bind_assoc, ih, pure_bind, List.append_assoc]

/-! ## Courses under a rule -/

section Rule

variable (rule : Node M → Stimulus M → Prop)

/-- Each stimulus in turn is one that the rule allows. -/
def Obeys (n : Node M) : List (Stimulus M) → Prop
  | [] => True
  | stimulus :: rest =>
    rule n stimulus ∧ ∀ out, n.undergo stimulus = .ok out → Obeys out.2 rest

instance decidableObeys [∀ n stimulus, Decidable (rule n stimulus)] (n : Node M)
    (stimuli : List (Stimulus M)) : Decidable (n.Obeys rule stimuli) :=
  match stimuli with
  | [] => .isTrue trivial
  | stimulus :: rest =>
    match done : n.undergo stimulus with
    | .error fault =>
      decidable_of_iff (rule n stimulus)
        ⟨fun ruled => ⟨ruled, fun out same => by rw [done] at same; cases same⟩, And.left⟩
    | .ok out =>
      have := decidableObeys out.2 rest
      decidable_of_iff (rule n stimulus ∧ out.2.Obeys rule rest)
        ⟨fun h => ⟨h.1, fun out' same => by rw [done] at same; cases same; exact h.2⟩,
          fun h => ⟨h.1, h.2 out done⟩⟩

variable {rule}

/-- What is kept by every stimulus that the rule allows holds at the end of a
course that obeys it, and what is still to come obeys it from there. -/
theorem course_obeys {P : Node M → Prop}
    (step : ∀ (m : Node M) stimulus, m.Sound → P m → rule m stimulus →
      Yields (m.undergo stimulus) fun out => P out.2)
    {stimuli rest : List (Stimulus M)} (sound : n.Sound) (start : P n)
    (obeys : n.Obeys rule (stimuli ++ rest)) :
    Yields (n.course stimuli) fun out => P out.2 ∧ out.2.Sound ∧ out.2.Obeys rule rest := by
  induction stimuli generalizing n with
  | nil => exact Yields.ok_iff.mpr ⟨start, sound, obeys⟩
  | cons stimulus stimuli ih =>
    obtain ⟨ruled, onward⟩ := obeys
    obtain ⟨out, done, holds, sound⟩ :=
      (step n stimulus sound start ruled).and (undergo_sound sound stimulus)
    rw [course, done]
    refine (ih sound holds (onward out done)).bind ?_
    intro last done
    exact Yields.pure_iff.mpr done

end Rule

/-! ## Lifetimes -/

theorem fresh_sound {config : Config} (valid : config.Valid) (address : Address) (medium : M)
    (alarms : AlarmClock) (words : WordSource) :
    (fresh address config medium alarms words).Sound where
  valid := valid
  slot_lt := by
    rw [fresh, UInt16.toNat_mod]
    exact Nat.mod_lt _ valid.layout.slotCount_pos
  interval := rfl
  room := List.length_replicate

theorem lifetime_of_course {address : Address} {config : Config} {medium : M} {alarms : AlarmClock}
    {words : WordSource} {stimuli : List (Stimulus M)} {out : List (Answer ε) × Node M}
    (valid : config.Valid)
    (done : (fresh address config medium alarms words).course stimuli = .ok out) :
    lifetime address config medium alarms words stimuli = .ok (.ok out) := by
  simp only [lifetime, create_of_valid valid, bind, Except.bind, pure, Except.pure]
  rw [done]

theorem course_of_lifetime {address : Address} {config : Config} {medium : M}
    {alarms : AlarmClock} {words : WordSource} {stimuli : List (Stimulus M)}
    {out : List (Answer ε) × Node M} (valid : config.Valid)
    (done : lifetime address config medium alarms words stimuli = .ok (.ok out)) :
    (fresh address config medium alarms words).course stimuli = .ok out := by
  simp only [lifetime, create_of_valid valid, bind, Except.bind, pure, Except.pure] at done
  cases ran : ((fresh address config medium alarms words).course stimuli :
      Except Fault (List (Answer ε) × Node M)) with
  | error fault =>
    rw [ran] at done
    cases done
  | ok out =>
    rw [ran] at done
    cases done
    rfl

/-- A lifetime goes on by a course of the node that it led to. -/
theorem lifetime_append {address : Address} {config : Config} {medium : M} {alarms : AlarmClock}
    {words : WordSource} {past rest : List (Stimulus M)} {before after : List (Answer ε)}
    {n m : Node M} (valid : config.Valid)
    (so_far : lifetime address config medium alarms words past = .ok (.ok (before, n)))
    (onward : n.course rest = .ok (after, m)) :
    lifetime address config medium alarms words (past ++ rest) =
      .ok (.ok (before ++ after, m)) := by
  have done := course_of_lifetime valid so_far
  refine lifetime_of_course valid ?_
  simp [course_append, done, onward, bind, Except.bind, pure, Except.pure]

/-- What a computed lifetime ends in. -/
theorem exists_lifetime {address : Address} {config : Config} {medium : M} {alarms : AlarmClock}
    {words : WordSource} {stimuli : List (Stimulus M)} {P : Node M → Prop} [DecidablePred P]
    (valid : config.Valid)
    (found : ((fresh address config medium alarms words).course stimuli).toOption.any (P ·.2)) :
    ∃ answers n, lifetime address config medium alarms words stimuli = .ok (.ok (answers, n)) ∧
      P n := by
  cases done : (fresh address config medium alarms words).course stimuli with
  | error fault =>
    rw [done] at found
    cases found
  | ok out =>
    rw [done] at found
    exact ⟨out.1, out.2, lifetime_of_course valid done, of_decide_eq_true found⟩

/-- What holds of a node as it is set up and is kept by every stimulus holds at
the end of every lifetime. -/
theorem lifetime_yields {P : List (Stimulus M) → List (Answer ε) → Node M → Prop}
    {address : Address} {config : Config} {medium : M} {alarms : AlarmClock} {words : WordSource}
    (stimuli : List (Stimulus M)) (valid : config.Valid)
    (start : P [] [] (fresh address config medium alarms words))
    (step : ∀ past answers (m : Node M), ∀ stimulus ∈ stimuli, m.Sound → P past answers m →
      Yields (m.undergo stimulus) fun out =>
        P (past ++ [stimulus]) (answers ++ out.1.toList) out.2) :
    ∃ answers n, lifetime address config medium alarms words stimuli = .ok (.ok (answers, n)) ∧
      P stimuli answers n ∧ n.Sound := by
  obtain ⟨⟨answers, n⟩, done, holds⟩ :=
    course_yields (fresh_sound valid address medium alarms words) start step
  exact ⟨answers, n, lifetime_of_course valid done, holds⟩

/-- The state to which stimuli lead a node that is set up before them. -/
def LivedThrough (address : Address) (config : Config) (medium : M) (alarms : AlarmClock)
    (words : WordSource) (stimuli : List (Stimulus M)) (n : Node M) : Prop :=
  ∃ answers, lifetime address config medium alarms words stimuli = .ok (.ok (answers, n))

/-- A lifetime goes on by one stimulus. -/
theorem LivedThrough.snoc {address : Address} {config : Config} {medium : M} {alarms : AlarmClock}
    {words : WordSource} {past : List (Stimulus M)} {stimulus : Stimulus M}
    {out : Option (Answer ε) × Node M} (valid : config.Valid)
    (so_far : LivedThrough address config medium alarms words past n)
    (next : n.undergo stimulus = .ok out) :
    LivedThrough address config medium alarms words (past ++ [stimulus]) out.2 := by
  obtain ⟨answers, so_far⟩ := so_far
  refine ⟨answers ++ out.1.toList, lifetime_append valid so_far ?_⟩
  simp [course, next, bind, Except.bind, pure, Except.pure]

/-- A lifetime passes through the state that each of its beginnings leads to. -/
theorem lifetime_through {address : Address} {config : Config} {medium : M} {alarms : AlarmClock}
    {words : WordSource} {past rest : List (Stimulus M)} {answers : List (Answer ε)}
    (valid : config.Valid)
    (done : lifetime address config medium alarms words (past ++ rest) = .ok (.ok (answers, n))) :
    ∃ before after, ∃ k : Node M,
      lifetime address config medium alarms words past = .ok (.ok (before, k)) ∧ k.Sound ∧
        k.course rest = .ok (after, n) ∧ answers = before ++ after := by
  obtain ⟨⟨before, k⟩, first, -, sound⟩ : Yields
      ((fresh address config medium alarms words).course past) fun out =>
        True ∧ (out : List (Answer ε) × Node M).2.Sound :=
    course_yields (P := fun _ _ _ => True) (fresh_sound valid address medium alarms words) trivial
      fun _ _ _ stimulus _ sound _ => (undergo_sound sound stimulus).mono fun _ _ => trivial
  simp only [lifetime, create_of_valid valid, course_append, first, bind, Except.bind, pure,
    Except.pure] at done
  cases onward : (k.course rest : Except Fault (List (Answer ε) × Node M)) with
  | error fault =>
    rw [onward] at done
    cases done
  | ok out =>
    rw [onward] at done
    cases done
    exact ⟨before, out.1, k, lifetime_of_course valid first, sound, onward, rfl⟩

theorem lifetime_obeys {rule : Node M → Stimulus M → Prop} {P : Node M → Prop}
    (step : ∀ (m : Node M) stimulus, m.Sound → P m → rule m stimulus →
      Yields (m.undergo stimulus) fun out => P out.2)
    {address : Address} {config : Config} {medium : M} {alarms : AlarmClock} {words : WordSource}
    {stimuli rest : List (Stimulus M)} (valid : config.Valid)
    (start : P (fresh address config medium alarms words))
    (obeys : (fresh address config medium alarms words).Obeys rule (stimuli ++ rest)) :
    ∃ answers n, lifetime address config medium alarms words stimuli = .ok (.ok (answers, n)) ∧
      P n ∧ n.Sound ∧ n.Obeys rule rest := by
  obtain ⟨⟨answers, n⟩, done, holds⟩ :=
    course_obeys step (fresh_sound valid address medium alarms words) start obeys
  exact ⟨answers, n, lifetime_of_course valid done, holds⟩

end Node

end SlottedMac
