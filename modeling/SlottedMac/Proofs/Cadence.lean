import Mathlib.Algebra.GroupWithZero.Nat
import Mathlib.Order.Bounds.Defs
import SlottedMac.Proofs.Course
import SlottedMac.Proofs.Node.Journal

/-!
# Beacons at their intended times

The intended times of a coordinator are whole intervals apart, counted from the first one on
and modulo the range of the counter. Where the cadence stands after any number of firings
depends on how many there were and on how many intervals were skipped in all, and on nothing
else: not on how late or early the firings came. A firing that is not early is charged to the
latest intended time that has come.

A coordinator follows its cadence in every circumstance. The next beacon is planned before
its alarm is asked for and before this one is handed over, so neither a refused alarm nor a
refused beacon changes the account.
-/

namespace SlottedMac

namespace Cadence

/-- The intended time that comes `count` intervals after the first one. -/
def intended (first interval : Ticks) (count : Nat) : Ticks :=
  first + UInt32.ofNat count * interval

/-- Take note of firings at these readings, one after another. -/
def run (c : Cadence) : List Ticks → Except Fault (Cadence × List Beat)
  | [] => .ok (c, [])
  | now :: later => do
    let (c, beat) ← c.advance now
    let (c, beats) ← c.run later
    return (c, beat :: beats)

/-- Intervals that were skipped in all. -/
def skips (beats : List Beat) : Nat := (beats.map (·.skipped.toNat)).sum

variable {c d : Cadence} {first interval now : Ticks} {beat : Beat} {beats : List Beat}
  {readings : List Ticks}

@[simp] theorem skips_nil : skips [] = 0 := rfl

@[simp] theorem skips_cons (beat : Beat) (beats : List Beat) :
    skips (beat :: beats) = beat.skipped.toNat + skips beats := rfl

@[simp] theorem skips_append (earlier later : List Beat) :
    skips (earlier ++ later) = skips earlier + skips later := by
  simp [skips]

theorem intended_zero (first interval : Ticks) : intended first interval 0 = first := by
  simp [intended]

/-- Intended times may be counted from any one of them. -/
theorem intended_add (first interval : Ticks) (a b : Nat) :
    intended (intended first interval a) interval b = intended first interval (a + b) := by
  simp only [intended, UInt32.ofNat_add]
  grind

theorem intended_succ (first interval : Ticks) (count : Nat) :
    intended first interval (count + 1) = intended first interval count + interval := by
  simp only [intended, UInt32.ofNat_add]
  grind

/-! ## One firing -/

/-- A firing is charged to the intended time after those that it skips. -/
theorem advance_intended (h : c.advance now = .ok (d, beat)) :
    d = { c with
        last := some (intended c.next c.interval beat.skipped.toNat)
        next := intended c.next c.interval (beat.skipped.toNat + 1) } ∧
      beat.wait = d.next.since now := by
  obtain ⟨skipped, -, rfl, rfl⟩ := advance_cases h
  rw [intended_succ]
  simp [intended]

/-- A firing that is not early skips all whole intervals that have passed. -/
theorem advance_skipped (positive : c.interval ≠ 0) (reached : now.reached c.next = true)
    (h : c.advance now = .ok (d, beat)) :
    beat.skipped.toNat = (now.since c.next).toNat / c.interval.toNat := by
  obtain ⟨skipped, known, -, rfl⟩ := advance_cases h
  rw [skipped_of_reached reached positive] at known
  cases known
  exact UInt32.toNat_div ..

/-- A firing that is not early is charged to the latest intended time that has come. -/
theorem advance_latest (positive : c.interval ≠ 0) (reached : now.reached c.next = true)
    (h : c.advance now = .ok (d, beat)) :
    IsGreatest {j | j * c.interval.toNat ≤ (now.since c.next).toNat} beat.skipped.toNat := by
  rw [advance_skipped positive reached h]
  have interval : 0 < c.interval.toNat := UInt32.pos_iff_ne_zero.mpr positive
  exact ⟨Nat.div_mul_le_self .., fun j within => (Nat.le_div_iff_mul_le interval).mpr within⟩

/-- What has passed since that time is less than an interval. -/
theorem since_intended (positive : c.interval ≠ 0) (reached : now.reached c.next = true)
    (h : c.advance now = .ok (d, beat)) :
    (now.since (intended c.next c.interval beat.skipped.toNat)).toNat =
      (now.since c.next).toNat % c.interval.toNat := by
  have charged := advance_latest positive reached h
  have word : UInt32.ofNat beat.skipped.toNat * c.interval =
      UInt32.ofNat (beat.skipped.toNat * c.interval.toNat) := by
    simp
  rw [intended, word, Ticks.toNat_since_add charged.1, advance_skipped positive reached h,
    Nat.mod_eq_sub_div_mul]

/-- The wait after such a firing is what is left of the interval that has begun. -/
theorem advance_wait (positive : c.interval ≠ 0) (reached : now.reached c.next = true)
    (h : c.advance now = .ok (d, beat)) :
    beat.wait.toNat =
      c.interval.toNat - (now.since c.next).toNat % c.interval.toNat := by
  obtain ⟨rfl, wait⟩ := advance_intended h
  have begun := since_intended positive reached h
  have interval : 0 < c.interval.toNat := UInt32.pos_iff_ne_zero.mpr positive
  have left : beat.wait =
      c.interval - now.since (intended c.next c.interval beat.skipped.toNat) := by
    rw [wait, intended_succ]
    simp only [Ticks.since]
    grind
  have within : now.since (intended c.next c.interval beat.skipped.toNat) ≤ c.interval := by
    rw [UInt32.le_iff_toNat_le, begun]
    exact Nat.le_of_lt (Nat.mod_lt _ interval)
  rw [left, UInt32.toNat_sub_of_le _ _ within, begun]

theorem advance_wait_bounds (positive : c.interval ≠ 0) (reached : now.reached c.next = true)
    (h : c.advance now = .ok (d, beat)) : 1 ≤ beat.wait ∧ beat.wait ≤ c.interval := by
  have wait := advance_wait positive reached h
  have interval : 0 < c.interval.toNat := UInt32.pos_iff_ne_zero.mpr positive
  have begun := Nat.mod_lt (now.since c.next).toNat interval
  simp only [UInt32.le_iff_toNat_le, wait, UInt32.toNat_one]
  omega

/-! ## Many firings -/

theorem run_append {e : Cadence} {earlier later : List Ticks} {before after : List Beat}
    (first : c.run earlier = .ok (d, before)) (rest : d.run later = .ok (e, after)) :
    c.run (earlier ++ later) = .ok (e, before ++ after) := by
  induction earlier generalizing c before with
  | nil =>
    cases first
    exact rest
  | cons now earlier ih =>
    rw [run] at first
    cases advanced : c.advance now with
    | error fault =>
      rw [advanced] at first
      cases first
    | ok out =>
      obtain ⟨_, ran, same⟩ : Yields (out.1.run earlier) fun done =>
          (done.1, out.2 :: done.2) = (d, before) := by
        rw [advanced] at first
        cases ran : out.1.run earlier with
        | error fault => simp [ran, bind, Except.bind] at first
        | ok done => simpa [ran, bind, Except.bind, pure, Except.pure] using first
      cases same
      simp [run, advanced, ih ran, bind, Except.bind, pure, Except.pure]

theorem run_singleton (advanced : c.advance now = .ok (d, beat)) :
    c.run [now] = .ok (d, [beat]) := by
  simp [run, advanced, bind, Except.bind, pure, Except.pure]

/-- Where a cadence stands after so many firings that skipped so many intervals in all. -/
structure Stands (c : Cadence) (firings skipped : Nat) (d : Cadence) : Prop where
  interval : d.interval = c.interval
  initialDelay : d.initialDelay = c.initialDelay
  next : d.next = intended c.next c.interval (firings + skipped)
  last : 0 < firings → d.last = some (intended c.next c.interval (firings - 1 + skipped))

theorem Stands.refl (c : Cadence) : c.Stands 0 0 c :=
  ⟨rfl, rfl, (intended_zero ..).symm, nofun⟩

/-- Intended times to come, counted from the first one. -/
theorem Stands.intended_eq {firings skipped : Nat} (h : c.Stands firings skipped d)
    (more : Nat) :
    intended d.next d.interval more = intended c.next c.interval (firings + (skipped + more)) := by
  rw [h.next, h.interval, intended_add, Nat.add_assoc]

/-- One more firing is charged to one intended time more than it skips. -/
theorem Stands.advance {e : Cadence} {firings skipped : Nat} (h : c.Stands firings skipped d)
    (advanced : d.advance now = .ok (e, beat)) :
    c.Stands (firings + 1) (skipped + beat.skipped.toNat) e := by
  obtain ⟨rfl, -⟩ := advance_intended advanced
  refine ⟨h.interval, h.initialDelay, (h.intended_eq _).trans ?_,
    fun _ => congrArg some (h.intended_eq _)⟩
  exact congrArg (intended _ _) (by omega)

/-- Between firings the next beacon is intended one interval after the last one. -/
theorem Stands.next_eq {firings skipped : Nat} (h : c.Stands firings skipped d)
    (fired : 0 < firings) :
    d.next = intended c.next c.interval (firings - 1 + skipped) + c.interval := by
  rw [h.next, ← intended_succ]
  exact congrArg (intended _ _) (by omega)

/-- Firings, however late or early they come, keep to the intended times. -/
theorem Stands.run (positive : c.interval ≠ 0) {firings skipped : Nat}
    (h : c.Stands firings skipped d) (readings : List Ticks) :
    Yields (d.run readings) fun out =>
      out.2.length = readings.length ∧
        c.Stands (firings + readings.length) (skipped + skips out.2) out.1 := by
  induction readings generalizing d firings skipped with
  | nil => exact Yields.ok_iff.mpr ⟨rfl, h⟩
  | cons now readings ih =>
    obtain ⟨_, _, advanced⟩ := exists_advance (h.interval ▸ positive) now
    rw [Cadence.run, advanced]
    refine (ih (h.advance advanced)).bind ?_
    rintro ⟨e, beats⟩ ⟨counted, stands⟩
    refine Yields.pure_iff.mpr ⟨congrArg (· + 1) counted, ?_⟩
    rw [Nat.add_right_comm, Nat.add_assoc] at stands
    rw [skips_cons, ← Nat.add_assoc]
    exact stands

theorem run_stands (positive : c.interval ≠ 0) (readings : List Ticks) :
    Yields (c.run readings) fun out =>
      out.2.length = readings.length ∧ c.Stands readings.length (skips out.2) out.1 := by
  simpa only [Nat.zero_add] using (Stands.refl c).run positive readings

end Cadence

/-- The delay that a beacon alarm was asked for, if the deed was that. -/
def JournalEntry.beaconDelay? : JournalEntry → Option Ticks
  | .beaconAlarm delay _ => some delay
  | _ => none

theorem JournalEntry.beaconDelay?_eq_none {entry : JournalEntry} {d : Node.Deed}
    (writes : d ∈ entry.writers) (other : d ≠ .armBeacon) : entry.beaconDelay? = none := by
  cases entry with
  | beaconAlarm delay granted =>
    simp only [writers, List.mem_singleton] at writes
    exact absurd writes other
  | _ => rfl

/-- The delays that beacon alarms were asked for, granted or not, oldest first. -/
def Journal.beaconDelays (j : Journal) : List Ticks := j.collect JournalEntry.beaconDelay?

namespace Node

open Cadence

variable {M ε : Type} [Medium M ε] {n m k : Node M} {kinds : List Deed} {readings : List Ticks}
  {beats : List Beat}

/-- The coarse readings at which beacon alarms come with stimuli. -/
def beaconReadings (n : Node M) (stimuli : List (Stimulus M)) : List Ticks :=
  (n.encounters stimuli).filterMap fun (facing, operation) =>
    if operation = .alarmFired .beacon then some facing.coarseNow else none

/-- A node followed its cadence through beacon alarms that came at these readings, and asked
for the next alarm each time. -/
structure Paced (readings : List Ticks) (beats : List Beat) (n m : Node M) : Prop where
  cadence : n.cadence.run readings = .ok (m.cadence, beats)
  asked : m.journal.beaconDelays = n.journal.beaconDelays ++ beats.map (·.wait)
  counted : m.stats.beaconsSkipped.toNat =
    min (n.stats.beaconsSkipped.toNat + skips beats) 0xFFFFFFFF

/-- Without an alarm the cadence stands. -/
theorem Paced.of_still (cadence : m.cadence = n.cadence)
    (asked : m.journal.beaconDelays = n.journal.beaconDelays)
    (counted : m.stats.beaconsSkipped = n.stats.beaconsSkipped) : Paced [] [] n m := by
  refine ⟨by rw [Cadence.run, cadence], by simp [asked], ?_⟩
  have word := n.stats.beaconsSkipped.toNat_lt
  rw [counted, skips_nil]
  omega

theorem Paced.trans {later : List Ticks} {after : List Beat} (h : Paced readings beats n m)
    (h' : Paced later after m k) : Paced (readings ++ later) (beats ++ after) n k where
  cadence := run_append h.cadence h'.cadence
  asked := by rw [h'.asked, h.asked, List.map_append, List.append_assoc]
  counted := by
    rw [h'.counted, h.counted, skips_append]
    omega

/-! ## The cadence along deeds -/

omit [Medium M ε] in
theorem armBeaconAlarm_beaconDelays (n : Node M) (delay : Ticks) :
    (n.armBeaconAlarm delay : Reply ε × Node M).2.journal.beaconDelays =
      n.journal.beaconDelays ++ [delay] := by
  rw [armBeaconAlarm]
  split <;> simp [Journal.beaconDelays, JournalEntry.beaconDelay?]

theorem Path.paced (path : Path kinds n m)
    (other : ∀ d ∈ kinds, d ∉ [.start, .plan, .armBeacon] := by decide) : Paced [] [] n m := by
  have asked : m.journal.beaconDelays = n.journal.beaconDelays := by
    refine path.adds.collect_eq ?_
    rintro entry ⟨d, mem, writes⟩
    have plain := other d mem
    exact entry.beaconDelay?_eq_none writes (by grind)
  have kept : m.cadence = n.cadence ∧ m.stats.beaconsSkipped = n.stats.beaconsSkipped := by
    refine path.keeps (P := fun k => k.cadence = n.cadence ∧
      k.stats.beaconsSkipped = n.stats.beaconsSkipped) ?_ ⟨rfl, rfl⟩
    rintro a b d mem step ⟨cadence, counted⟩
    have plain := other d mem
    exact ⟨(step.kept.cadence (by grind)).trans cadence,
      (step.kept.beaconsSkipped (by grind)).trans counted⟩
  exact .of_still kept.1 asked kept.2

/-- A coordinator plans the next beacon and asks for its alarm, whatever becomes of this one
and of that alarm. -/
theorem sendBeacon_paced (sound : n.Sound) (role : n.config.role = .coordinator) :
    Yields (n.sendBeacon : Except Fault (Reply ε × Node M)) fun out =>
      ∃ beat, Paced [n.coarseNow] [beat] n out.2 := by
  obtain ⟨cadence, beat, next, done⟩ := sendBeacon_yields sound role
  have step : Step .armBeacon (n.planned cadence beat)
      ((n.planned cadence beat).armBeaconAlarm beat.wait : Reply ε × Node M).2 := .armBeacon _
  have armed : Paced [n.coarseNow] [beat] n
      ((n.planned cadence beat).armBeaconAlarm beat.wait : Reply ε × Node M).2 := by
    refine ⟨?_, armBeaconAlarm_beaconDelays .., ?_⟩
    · rw [step.kept.cadence (by decide)]
      exact run_singleton next
    · rw [step.kept.beaconsSkipped (by decide)]
      exact Counter.toNat_addSat ..
  refine done.mono ?_
  rintro out (⟨-, rfl⟩ | ⟨-, sent⟩)
  · exact ⟨beat, armed⟩
  · exact ⟨beat, armed.trans sent.path.paced⟩

/-- What is no start follows the cadence. -/
theorem perform_paced (sound : n.Sound) (role : n.config.role = .coordinator)
    {operation : Operation} (starts : operation ≠ .start) :
    Yields (n.perform operation) fun out => ∃ beats,
      Paced (if operation = .alarmFired .beacon then [n.coarseNow] else []) beats n out.2 := by
  by_cases fires : operation = .alarmFired .beacon
  · subst fires
    have step : Step .spendBeacon n (n.spent .beacon) := .spendBeacon
    have sent := sendBeacon_paced (sound.of_same step.same) role
    rw [if_pos rfl, perform, alarmFired_beacon role]
    refine sent.bind ?_
    rintro out ⟨beat, paced⟩
    exact Yields.pure_iff.mpr ⟨[beat], paced.cadence, paced.asked, paced.counted⟩
  · have unheard (bytes : List UInt8) (_ : operation = .receive bytes) :
        n.heard? bytes = none := by
      refine Option.eq_none_iff_forall_ne_some.mpr fun header heard => ?_
      cases role.symm.trans (role_of_heard heard)
    rw [if_neg fires]
    refine (perform_aside sound starts fires unheard).mono ?_
    rintro out ⟨kinds, calm, path⟩
    exact ⟨[], path.paced fun d mem => mt (by grind) (calm d mem)⟩

/-! ## The cadence along courses -/

theorem prompted?_ne_start {stimulus : Stimulus M} (starts : stimulus ≠ .operate .start) :
    n.prompted? stimulus ≠ some .start := by
  cases stimulus with
  | operate operation => simpa [prompted?] using starts
  | _ => simp [prompted?]

theorem beaconReadings_singleton (n : Node M) (stimulus : Stimulus M) :
    n.beaconReadings [stimulus] =
      if n.prompted? stimulus = some (.alarmFired .beacon) then [(n.facing stimulus).coarseNow]
      else [] := by
  rw [beaconReadings, encounters_singleton]
  cases n.prompted? stimulus with
  | none => rfl
  | some operation => by_cases fires : operation = .alarmFired .beacon <;> simp [fires]

theorem beaconReadings_cons {stimulus : Stimulus M} {rest : List (Stimulus M)}
    {out : Option (Answer ε) × Node M} (done : n.undergo stimulus = .ok out) :
    n.beaconReadings (stimulus :: rest) =
      n.beaconReadings [stimulus] ++ out.2.beaconReadings rest := by
  rw [beaconReadings, encounters_cons done, List.filterMap_append]
  rfl

theorem undergo_paced (sound : n.Sound) (role : n.config.role = .coordinator)
    {stimulus : Stimulus M} (starts : stimulus ≠ .operate .start) :
    Yields (n.undergo stimulus) fun out =>
      ∃ beats, Paced (n.beaconReadings [stimulus]) beats n out.2 := by
  have unstarted : n.prompted? stimulus ≠ some .start := prompted?_ne_start starts
  have inOrder := sound.facing stimulus
  rw [undergo_eq, beaconReadings_singleton]
  obtain ⟨alarms, medium, same⟩ := n.facing_amid stimulus
  rw [same] at inOrder ⊢
  cases prompted : n.prompted? stimulus with
  | none => exact Yields.ok_iff.mpr ⟨[], .of_still rfl rfl rfl⟩
  | some operation =>
    have starts : operation ≠ .start := by
      rintro rfl
      exact unstarted prompted
    refine (perform_paced inOrder role starts).bind ?_
    rintro out ⟨beats, paced⟩
    simp only [Option.some.injEq]
    exact Yields.pure_iff.mpr ⟨beats, paced.cadence, paced.asked, paced.counted⟩

/-- A coordinator that is not started anew follows its cadence, one firing for each beacon
alarm that comes. -/
theorem course_paced (sound : n.Sound) (role : n.config.role = .coordinator)
    {stimuli : List (Stimulus M)} (starts : ∀ stimulus ∈ stimuli, stimulus ≠ .operate .start) :
    Yields (n.course stimuli) fun out =>
      ∃ beats, Paced (n.beaconReadings stimuli) beats n out.2 := by
  induction stimuli generalizing n with
  | nil => exact Yields.ok_iff.mpr ⟨[], .of_still rfl rfl rfl⟩
  | cons stimulus rest ih =>
    obtain ⟨out, done, ⟨beats, first⟩, sound, same⟩ :=
      (undergo_paced sound role (starts stimulus List.mem_cons_self)).and
        ((undergo_sound sound stimulus).and (undergo_config sound stimulus))
    rw [course, done, beaconReadings_cons done]
    refine (ih sound (same ▸ role) fun s mem => starts s (List.mem_cons_of_mem _ mem)).bind ?_
    rintro last ⟨later, onward⟩
    exact Yields.pure_iff.mpr ⟨beats ++ later, first.trans onward⟩

/-- A start begins the cadence anew and asks for the first beacon. -/
theorem start_begins (role : n.config.role = .coordinator) {m : Node M}
    (begun : (n.start : Reply ε × Node M).2 = m) :
    m.cadence = (n.cadence.start n.coarseNow).1 ∧
      m.journal.beaconDelays = n.journal.beaconDelays ++ [n.cadence.initialDelay] ∧
      m.stats.beaconsSkipped = n.stats.beaconsSkipped := by
  subst begun
  rw [start, role]
  have step {k : Node M} : Step .armBeacon k
      (k.armBeaconAlarm n.cadence.initialDelay : Reply ε × Node M).2 := .armBeacon _
  refine ⟨step.kept.cadence (by decide), (armBeaconAlarm_beaconDelays ..).trans ?_,
    step.kept.beaconsSkipped (by decide)⟩
  simp [Journal.beaconDelays, JournalEntry.beaconDelay?]

/-- Nothing changes the initial delay of the cadence. -/
theorem Step.initialDelay {d : Deed} (step : Step d n m) :
    m.cadence.initialDelay = n.cadence.initialDelay := by
  have kept := step.kept
  cases step with
  | start | begin => rfl
  | plan role next => rw [planned, (advance_intended next).1]
  | _ => exact congrArg Cadence.initialDelay (kept.cadence (by decide))

theorem undergo_initialDelay (sound : n.Sound) (stimulus : Stimulus M) :
    Yields (n.undergo stimulus) fun out =>
      out.2.cadence.initialDelay = n.cadence.initialDelay := by
  refine undergo_yields (Q := fun _ m => m.cadence.initialDelay = n.cadence.initialDelay)
    (fun _ _ _ => rfl) ?_
  intro alarms medium operation _
  refine (perform_yields (sound.amid alarms medium) operation).mono ?_
  rintro out ⟨path, -⟩
  exact path.keeps (P := fun k => k.cadence.initialDelay = n.cadence.initialDelay)
    (fun _ step so_far => step.initialDelay.trans so_far) rfl

/-- The cadence of a node is that of its settings for its whole life. -/
theorem lifetime_cadence {config : Config} (valid : config.Valid) (address : Address)
    (medium : M) (alarms : AlarmClock) (words : WordSource) (past : List (Stimulus M)) :
    ∃ answers n, lifetime address config medium alarms words past = .ok (.ok (answers, n)) ∧
      (n.config = config ∧ n.cadence.initialDelay = config.initialBeaconDelay) ∧ n.Sound := by
  refine lifetime_yields (P := fun _ _ m => m.config = config ∧
    m.cadence.initialDelay = config.initialBeaconDelay) past valid ⟨rfl, rfl⟩ ?_
  rintro _ _ m stimulus _ sound ⟨same, delay⟩
  exact ((undergo_config sound stimulus).and (undergo_initialDelay sound stimulus)).mono
    fun _ done => ⟨done.1.trans same, done.2.trans delay⟩

/-- From a start on a coordinator follows the cadence that begins there. -/
theorem started_paced (sound : n.Sound) (role : n.config.role = .coordinator)
    {rest : List (Stimulus M)} (once : ∀ stimulus ∈ rest, stimulus ≠ .operate .start) :
    Yields (n.course (.operate .start :: rest)) fun out => ∃ beats,
      (n.cadence.start n.coarseNow).1.run (n.beaconReadings (.operate .start :: rest)) =
          .ok (out.2.cadence, beats) ∧
        out.2.journal.beaconDelays =
          n.journal.beaconDelays ++ n.cadence.initialDelay :: beats.map (·.wait) ∧
        out.2.stats.beaconsSkipped.toNat =
          min (n.stats.beaconsSkipped.toNat + skips beats) 0xFFFFFFFF := by
  have done : n.undergo (.operate .start) = .ok (some (.reply n.start.1), n.start.2) := rfl
  obtain ⟨cadence, asked, counted⟩ := start_begins (ε := ε) role rfl
  have path := n.start_path (ε := ε)
  have readings : n.beaconReadings (.operate .start :: rest) =
      (n.start : Reply ε × Node M).2.beaconReadings rest := by
    rw [beaconReadings_cons done, beaconReadings_singleton]
    rfl
  rw [course, done, readings]
  refine (course_paced (path.sound sound) (path.same.config ▸ role) once).bind ?_
  rintro out ⟨beats, paced⟩
  refine Yields.pure_iff.mpr ⟨beats, cadence ▸ paced.cadence, ?_, counted ▸ paced.counted⟩
  rw [paced.asked, asked, List.append_assoc]
  rfl

end Node

open Cadence Node

variable {M ε : Type} [Medium M ε]

/-- Beacons keep to their intended times. However late or early firings come, the last of so
many is charged to the intended time that lies one interval on for each firing before it and
for each interval skipped; the next one is intended an interval later, and the answer is the
time until then. A firing that is not early is charged to the latest intended time that has
come and waits for an interval at most. Between two starts a coordinator goes by that
account, with one firing for each beacon alarm that comes, whether its beacon or the next
alarm is refused or not. It asks for the delays that the account gives, and counts the
intervals that were skipped. -/
theorem beacons_at_intended_times :
    (∀ (c : Cadence) (start now : Ticks) (readings : List Ticks), c.interval ≠ 0 →
      ∃ earlier after before beat,
        (c.start start).1.run readings = .ok (earlier, before) ∧
        (c.start start).1.run (readings ++ [now]) = .ok (after, before ++ [beat]) ∧
        before.length = readings.length ∧
        let last :=
          intended (start + c.initialDelay) c.interval
            (readings.length + skips (before ++ [beat]))
        after.last = some last ∧ after.next = last + c.interval ∧
        beat.wait = after.next.since now ∧
        (now.reached earlier.next = true →
          1 ≤ beat.wait ∧ beat.wait ≤ c.interval ∧
          last = intended earlier.next c.interval beat.skipped.toNat ∧
          IsGreatest {j | j * c.interval.toNat ≤ (now.since earlier.next).toNat}
            beat.skipped.toNat)) ∧
      ∀ (config : Config), config.Valid → config.role = .coordinator →
        ∀ (address : Address) (medium : M) (alarms : AlarmClock) (words : WordSource)
          (past rest : List (Stimulus M)),
          (∀ stimulus ∈ rest, stimulus ≠ .operate .start) →
          ∃ answers n replies m beats,
            lifetime address config medium alarms words past = .ok (.ok (answers, n)) ∧
            n.course (.operate .start :: rest) = .ok (replies, m) ∧
            let readings := n.beaconReadings (.operate .start :: rest)
            let cadence : Cadence :=
              { interval := config.beaconInterval, initialDelay := config.initialBeaconDelay }
            let first := n.coarseNow + config.initialBeaconDelay
            (cadence.start n.coarseNow).1.run readings = .ok (m.cadence, beats) ∧
            m.journal.beaconDelays =
              n.journal.beaconDelays ++ config.initialBeaconDelay :: beats.map (·.wait) ∧
            m.stats.beaconsSkipped.toNat =
              min (n.stats.beaconsSkipped.toNat + skips beats) 0xFFFFFFFF ∧
            (m.stats.beaconsSkipped.toNat < 0xFFFFFFFF → readings ≠ [] →
              let last :=
                intended first config.beaconInterval
                  (readings.length - 1 +
                    (m.stats.beaconsSkipped.toNat - n.stats.beaconsSkipped.toNat))
              m.cadence.last = some last ∧ m.cadence.next = last + config.beaconInterval) := by
  constructor
  · intro c start now readings positive
    obtain ⟨⟨earlier, before⟩, ran, counted, stands⟩ := run_stands (c := (c.start start).1)
      positive readings
    have interval : earlier.interval = c.interval := stands.interval
    have nonzero : earlier.interval ≠ 0 := interval ▸ positive
    obtain ⟨after, beat, advanced⟩ := exists_advance nonzero now
    have onward := stands.advance advanced
    have total : skips (before ++ [beat]) = skips before + beat.skipped.toNat := by simp
    refine ⟨earlier, after, before, beat, ran, run_append ran (run_singleton advanced), counted, ?_⟩
    rw [total]
    refine ⟨onward.last (Nat.succ_pos _), onward.next_eq (Nat.succ_pos _),
      (advance_intended advanced).2, fun reached => ?_⟩
    have bounds := advance_wait_bounds nonzero reached advanced
    have latest := advance_latest nonzero reached advanced
    rw [interval] at bounds latest
    refine ⟨bounds.1, bounds.2, ?_, latest⟩
    exact (stands.intended_eq _).symm.trans (by rw [interval])
  · intro config valid role address medium alarms words past rest once
    obtain ⟨answers, n, lived, ⟨same, delay⟩, sound⟩ :=
      lifetime_cadence valid address medium alarms words past
    obtain ⟨⟨replies, m⟩, ran, beats, followed, asked, counted⟩ :=
      started_paced sound (same ▸ role) once
    have interval : n.cadence.interval = config.beaconInterval := same ▸ sound.interval
    have positive : (n.cadence.start n.coarseNow).1.interval ≠ 0 := by
      rw [start_interval, interval]
      exact valid.beaconInterval_ne (by simp [role])
    have begins : n.cadence.start n.coarseNow =
        Cadence.start ⟨none, 0, config.beaconInterval, config.initialBeaconDelay⟩
          n.coarseNow := by
      simp only [Cadence.start, interval, delay]
    have stands := ((run_stands positive _).of_ok followed).2
    rw [begins] at followed stands
    rw [delay] at asked
    refine ⟨answers, n, replies, m, beats, lived, ran, followed, asked, counted, ?_⟩
    intro unsaturated fired
    have skipped : skips beats =
        m.stats.beaconsSkipped.toNat - n.stats.beaconsSkipped.toNat := by
      simp only at counted
      omega
    have some := List.length_pos_iff.mpr fired
    rw [skipped] at stands
    exact ⟨stands.last some, stands.next_eq some⟩

/-- Two beacons of a coordinator that is started shortly before the coarse counter wraps. When
the first one comes, late, the alarm for the next one is refused. The next one comes more than
an interval late, and the medium refuses the beacon. -/
def hinderedBeacons : List (Stimulus RecordingMedium) :=
  [.clock 4294967826000, .refuse .beacon (some .exhausted), .fire .beacon,
    .refuse .beacon none, .medium { refusing := true }, .clock 4294989296000,
    .operate (.alarmFired .beacon)]

theorem beacons_at_intended_times_hindered :
    (∃ after beat,
      (Cadence.start ⟨none, 0, 1000, 500⟩ 4294967196).1.run [430, 3000] =
        .ok (after, [⟨970, 0⟩, beat]) ∧
      after.last = some (intended 400 1000 (1 + beat.skipped.toNat)) ∧
      after.next = intended 400 1000 (1 + beat.skipped.toNat) + 1000 ∧
      beat.wait = after.next.since 3000 ∧
      1 ≤ beat.wait ∧ beat.wait ≤ 1000 ∧
      IsGreatest {j | j * 1000 ≤ 1600} beat.skipped.toNat) ∧
    ∃ answers n replies m,
      lifetime 1 { role := .coordinator } ({} : RecordingMedium) {} (.cycle [])
          [.clock 4294966796000] = .ok (.ok (answers, n)) ∧
        n.course (.operate .start :: hinderedBeacons) = .ok (replies, m) ∧
        m.stats.beaconsSkipped = 1 ∧ m.cadence.last = some 20500 ∧ m.cadence.next = 30500 := by
  obtain ⟨calls, runs⟩ := beacons_at_intended_times (M := RecordingMedium)
  constructor
  · obtain ⟨earlier, after, before, beat, first, done, -, last, next, wait, latest⟩ :=
      calls ⟨none, 0, 1000, 500⟩ 4294967196 3000 [430] (by decide)
    have computed : (Cadence.start ⟨none, 0, 1000, 500⟩ 4294967196).1.run [430] =
        .ok (⟨some 400, 1400, 1000, 500⟩, [⟨970, 0⟩]) := rfl
    cases first.symm.trans computed
    have skipped : skips ([⟨970, 0⟩] ++ [beat]) = beat.skipped.toNat := by simp
    rw [skipped] at last next
    obtain ⟨some, within, -, greatest⟩ := latest (by decide)
    exact ⟨after, beat, done, last, next, wait, some, within, greatest⟩
  · have valid : ({ role := .coordinator } : Config).Valid := Config.check_eq_ok_iff.mp rfl
    obtain ⟨answers, n, replies, m, beats, lived, ran, -, -, -, closed⟩ :=
      runs { role := .coordinator } valid rfl 1 ({} : RecordingMedium) {} (.cycle [])
        [.clock 4294966796000] hinderedBeacons (by simp [hinderedBeacons])
    obtain ⟨_, _, same, readings, now, before, after⟩ :
        ∃ answers n,
          lifetime 1 { role := .coordinator } ({} : RecordingMedium) {} (.cycle [])
              [.clock 4294966796000] = .ok (.ok (answers, n)) ∧
            n.beaconReadings (.operate .start :: hinderedBeacons) = [530, 22000] ∧
            n.coarseNow = 4294966796 ∧ n.stats.beaconsSkipped = 0 ∧
            (n.course (.operate .start :: hinderedBeacons)).toOption.any
              (·.2.stats.beaconsSkipped = 1) :=
      exists_lifetime valid (by decide +kernel)
    cases lived.symm.trans same
    rw [ran] at after
    have skipped : m.stats.beaconsSkipped = 1 := of_decide_eq_true after
    rw [readings, now, before, skipped] at closed
    exact ⟨answers, n, replies, m, lived, ran, skipped, closed (by decide) (by decide)⟩

end SlottedMac
