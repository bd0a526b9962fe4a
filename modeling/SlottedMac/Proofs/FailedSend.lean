import SlottedMac.Proofs.Alarms
import SlottedMac.Proofs.Transmissions

/-!
# Sends that fail

A send fails for one of two reasons. Too many bytes are turned away before anything is
done. Or the slot alarm is refused that is to look after the frame; that alarm is asked
for last, when the frame has replaced the one that waited before and may have been handed
over already. If it still waits it is given up, and its end is reported. If the medium
accepted it just before, in the owned slot, it is in flight as any other frame, although
the send failed, and its end is reported when the medium completes it.

Either way nothing waits afterwards, so nothing is left that could be handed over later.
-/

namespace SlottedMac

open Node (Deed)

/-- The report made, if the deed was that, whether it found room or not. -/
@[simp] def JournalEntry.report? : JournalEntry → Option Event
  | .posted event => some event
  | .dropped event => some event
  | _ => none

theorem JournalEntry.report?_eq_none {entry : JournalEntry} {d : Deed}
    (writes : d ∈ entry.writers)
    (other : d ∉ [.capture, .defer, .armSlot, .complete, .deliver]) : entry.report? = none := by
  have makers {event : Event} (makes : d ∈ event.makers) : False := by
    unfold Event.makers at makes
    split at makes <;> simp_all
  cases entry with
  | posted event => exact (makers writes).elim
  | dropped event => exact (makers writes).elim
  | _ => rfl

namespace Journal

/-- Reports made, oldest first, whether they found room or not. -/
def reports (j : Journal) : List Event := j.collect JournalEntry.report?

@[simp] theorem reports_cons (entry : JournalEntry) (j : Journal) :
    reports (entry :: j) = j.reports ++ entry.report?.toList := collect_cons ..

end Journal

namespace Node

variable {M ε : Type} {n m k p : Node M} {events more : List Event} {frame : QueuedFrame}
  {token : Token} {destination : Address} {bytes : List UInt8}

/-- Reports were made, and no frame was launched or completed. -/
structure Tells (events : List Event) (n m : Node M) : Prop where
  reports : m.journal.reports = n.journal.reports ++ events
  launches : m.journal.launches = n.journal.launches
  inFlight : m.inFlight = n.inFlight

namespace Tells

theorem trans (h : Tells events n m) (h' : Tells more m k) : Tells (events ++ more) n k where
  reports := by rw [h'.reports, h.reports, List.append_assoc]
  launches := h'.launches.trans h.launches
  inFlight := h'.inFlight.trans h.inFlight

theorem post (n : Node M) (event : Event) : Tells [event] n (n.post event) := by
  rw [Node.post]
  split
  · exact ⟨by simp, by simp, rfl⟩
  · exact ⟨by simp, by simp, rfl⟩

/-- A frame that replaces another one has that reported. -/
theorem capture (n : Node M) (frame : QueuedFrame) :
    Tells (n.outbox.map fun waiting => Event.sent waiting.token .cancelled 0).toList n
      (n.capture frame) := by
  have put : Tells [] n
      { n with outbox := some frame, journal := .captured frame n.alarms.now :: n.journal } :=
    ⟨by simp, by simp, rfl⟩
  rw [Node.capture]
  dsimp only [Outbox.put]
  cases n.outbox with
  | none => exact put
  | some waiting => exact put.trans (post _ _)

/-- A frame that is given up is reported. -/
theorem abandon (n : Node M) :
    Tells (n.outbox.map fun waiting => Event.sent waiting.token .failed 0).toList n n.abandon := by
  have taken : Tells [] n { n with outbox := none } := ⟨by simp, rfl, rfl⟩
  rw [Node.abandon]
  dsimp only [Outbox.take]
  cases n.outbox with
  | none => exact taken
  | some waiting => exact taken.trans (post _ _)

end Tells

/-- Where the slot alarm is refused the frame that waits is given up. -/
theorem armSlotAlarm_fails {delay : Ticks} {purpose : Arbitration} {error : NodeError ε}
    (failed : (n.armSlotAlarm delay purpose : Reply ε × Node M).1 = .error error) :
    ∃ e, error = .alarm e ∧ n.alarms.refusal .slot = some e ∧
      (n.armSlotAlarm delay purpose : Reply ε × Node M).2.outbox = none ∧
      Tells (n.outbox.map fun waiting => Event.sent waiting.token .failed 0).toList n
        (n.armSlotAlarm delay purpose : Reply ε × Node M).2 := by
  rw [armSlotAlarm, AlarmClock.arm, AlarmClock.release_refusal] at failed ⊢
  cases refusal : n.alarms.refusal .slot with
  | none =>
    rw [refusal] at failed
    cases failed
  | some e =>
    rw [refusal] at failed
    cases failed
    let denied : Node M :=
      { n with
        alarms := n.alarms.release n.slotAlarm
        slotAlarm := none
        arbitration := .idle
        journal := .slotAlarm delay purpose false :: n.journal }
    have asked : Tells [] n denied := ⟨by simp [denied], by simp [denied], rfl⟩
    exact ⟨e, rfl, rfl, abandon_outbox denied, asked.trans (Tells.abandon denied)⟩

section Medium

variable [Medium M ε] {kinds : List Deed} {d : Deed}

theorem Step.tells (step : Step d n m) (quiet : d ∈ [.expire, .align, .draw]) :
    Tells [] n m := by
  simp only [List.mem_cons, List.not_mem_nil, or_false] at quiet
  refine ⟨?_, step.adds.collect_eq ?_, step.kept.inFlight ?_⟩
  · rw [List.append_nil]
    refine step.adds.collect_eq fun _ writes => JournalEntry.report?_eq_none writes ?_
    rcases quiet with rfl | rfl | rfl <;> decide
  · intro _ writes
    refine JournalEntry.launch?_eq_none writes ?_
    rcases quiet with rfl | rfl | rfl <;> decide
  · rcases quiet with rfl | rfl | rfl <;> decide

/-! ## Asking for the slot alarm -/

/-- The node just before it asks for the slot alarm on behalf of a frame: the frame waits,
or it was offered to the medium. -/
inductive Readied (n : Node M) : Node M → Prop where
  | waiting {m : Node M} (path : Path [.align, .draw] n m) : Readied n m
  | offered {m k : Node M} (path : Path [.align, .draw] n m) (step : Step .offer m k) : Readied n k

theorem Readied.after (h : Readied m p) (path : Path [.align, .draw] n m) : Readied n p := by
  cases h with
  | waiting rest => exact .waiting (path.trans rest)
  | offered rest step => exact .offered (path.trans rest) step

theorem useSlot_readies (sound : n.Sound) (owned : n.OwnsNow) (waits : n.outbox = some frame) :
    Yields (n.useSlot false) (Readied n) := by
  rw [useSlot, if_pos (by simp [waits])]
  cases flying : n.inFlight with
  | some other =>
    rw [handOver_nothing (.inl (by simp [flying]))]
    exact Yields.ok_iff.mpr (.waiting (.refl n))
  | none =>
    rw [handOver_eq sound.room flying waits]
    exact Yields.ok_iff.mpr (.offered (.refl n) (.offer flying waits owned))

/-- A look at the slot that counts nothing asks for the slot alarm in the end. -/
theorem attendSlot_readies (sound : n.Sound) (waits : n.outbox = some frame) :
    Yields (n.attendSlot false : Except Fault (Reply ε × Node M)) fun out =>
      ∃ p delay purpose, Readied n p ∧ out = p.armSlotAlarm delay purpose := by
  have aligned : Path [.align, .draw] n n.aligned := n.aligned_path.mono (by decide)
  have inOrder := aligned.sound sound
  rw [attendSlot, placement_eq sound]
  simp only [bind, Except.bind]
  split
  · next inside =>
    have owned := view_inside_iff.mp inside
    have used : Yields (n.aligned.useSlot false) fun m =>
        Path [.offer] n.aligned m ∧ m.time = n.aligned.time :=
      useSlot_path inOrder owned false (by decide) (by simp)
    apply (used.and (useSlot_readies inOrder owned waits)).bind
    rintro m ⟨⟨path, -⟩, readied⟩
    have remains := path.sound inOrder
    rw [remains.valid.layout.untilNext_eq remains.slot_lt]
    exact Yields.pure_iff.mpr ⟨m, _, _, readied.after aligned, rfl⟩
  · exact Yields.pure_iff.mpr ⟨_, _, _, .waiting aligned, rfl⟩
  · exact Yields.pure_iff.mpr ⟨_, _, _, .waiting aligned, rfl⟩

/-- A frame that was captured is looked after already, or the slot alarm is asked for. -/
theorem arrange_readies (sound : n.Sound) (waits : n.outbox = some frame) :
    Yields (n.arrange : Except Fault (Reply ε × Node M)) fun out =>
      out.1 = .ok () ∨
        ∃ p delay purpose, Readied n p ∧ out = p.armSlotAlarm delay purpose := by
  have aligned : Path [.align, .draw] n n.aligned := n.aligned_path.mono (by decide)
  rw [arrange, placement_eq sound]
  simp only [bind, Except.bind]
  split
  · exact Yields.pure_iff.mpr (.inr ⟨_, _, _, .waiting (aligned.snoc .draw), rfl⟩)
  · split
    · apply (attendSlot_readies (aligned.sound sound) waits).mono
      rintro out ⟨p, delay, purpose, readied, same⟩
      exact .inr ⟨p, delay, purpose, readied.after aligned, same⟩
    · exact Yields.pure_iff.mpr (.inl rfl)

/-! ## What a failure leaves behind -/

/-- The report about the frame that waits, once another one replaces it. -/
def cancellation (n : Node M) : List Event :=
  (n.outbox.map fun waiting => Event.sent waiting.token .cancelled 0).toList

/-- How a send fails, and what it leaves behind. -/
inductive Fails (n : Node M) (token : Token) (destination : Address) (bytes : List UInt8) :
    NodeError ε → Node M → Prop where
  /-- Too many bytes, and nothing was done. -/
  | long (exceeds : maxPayload < bytes.length) : Fails n token destination bytes .payloadTooLong n
  /-- The frame was given up with nothing launched, and its end was reported. -/
  | unsent {e : AlarmError} {m : Node M} (refused : n.alarms.refusal .slot = some e)
      (outbox : m.outbox = none)
      (tells : Tells (n.cancellation ++ [.sent token .failed 0]) n m) :
      Fails n token destination bytes (.alarm e) m
  /-- The frame was launched in the owned slot and is in flight, and no end of it was
  reported. -/
  | sent {e : AlarmError} {m : Node M} {s : Submission} (refused : n.alarms.refusal .slot = some e)
      (outbox : m.outbox = none) (idle : n.inFlight = none) (owned : m.OwnsNow)
      (inFlight : m.inFlight = some { token, synchronized := m.isSynchronized })
      (launches : m.journal.launches = n.journal.launches ++ [s])
      (carries : s.queued.map (·.request) = some (token, destination, bytes))
      (reports : m.journal.reports = n.journal.reports ++ n.cancellation) :
      Fails n token destination bytes (.alarm e) m

theorem Path.tells (path : Path kinds n m)
    (quiet : ∀ d ∈ kinds, d ∈ [.expire, .align, .draw] := by decide) : Tells [] n m := by
  refine path.keeps (P := fun j => Tells [] n j) ?_ ⟨by simp, rfl, rfl⟩
  intro a b d mem step so_far
  exact so_far.trans (step.tells (quiet d mem))

theorem Path.outbox_eq (path : Path kinds n m)
    (quiet : ∀ d ∈ kinds, d ∈ [.expire, .align, .draw] := by decide) : m.outbox = n.outbox := by
  refine path.keeps (P := fun j => j.outbox = n.outbox) ?_ rfl
  intro a b d mem step so_far
  have plain := quiet d mem
  exact (step.kept.outbox (by grind)).trans so_far

/-- A frame that the medium refuses waits on, and there is nothing to report. -/
theorem offered_tells (refused : n.accepts .data (n.dataFrame frame) = false) :
    Tells [] n (n.offered frame) := by
  refine ⟨?_, ?_, ?_⟩
  · rw [offered_journal]
    simp
  · rw [offered_journal]
    simp [submission, refused]
  · simp [offered, submitted, refused]

/-- A frame that the medium accepts is in flight. -/
theorem offered_launched (accepted : n.accepts .data (n.dataFrame frame) = true) :
    (n.offered frame).inFlight =
        some { token := frame.token, synchronized := n.time.synchronized } ∧
      (n.offered frame).journal.reports = n.journal.reports ∧
      (n.offered frame).journal.launches =
        n.journal.launches ++ [n.submission .data (n.dataFrame frame) (some frame)] := by
  rw [offered_journal]
  exact ⟨by simp [offered, accepted, launch, submitted], by simp, by simp [submission, accepted]⟩

variable {m : Node M} {delay : Ticks} {purpose : Arbitration} {error : NodeError ε}

/-- A frame that the medium accepted is in flight when the slot alarm is refused. -/
theorem offered_fails {e : AlarmError} (tells : Tells n.cancellation n m)
    (refused : n.alarms.refusal .slot = some e) (idle : m.inFlight = none)
    (waits : m.outbox = some frame) (owned : m.OwnsNow)
    (accepted : m.accepts .data (m.dataFrame frame) = true)
    (given : Tells [] (m.offered frame)
      ((m.offered frame).armSlotAlarm delay purpose : Reply ε × Node M).2)
    (outbox : ((m.offered frame).armSlotAlarm delay purpose : Reply ε × Node M).2.outbox = none) :
    Fails n frame.token frame.destination frame.payload.bytes (.alarm e : NodeError ε)
      ((m.offered frame).armSlotAlarm delay purpose : Reply ε × Node M).2 := by
  obtain ⟨flies, reports, launches⟩ := offered_launched accepted
  have same : Same m ((m.offered frame).armSlotAlarm delay purpose : Reply ε × Node M).2 :=
    (m.offered_same frame).trans (armSlotAlarm_same ..)
  have time :
      ((m.offered frame).armSlotAlarm delay purpose : Reply ε × Node M).2.time = m.time := by
    obtain ⟨_, _, _, _, _, _, eq⟩ := (m.offered frame).armSlotAlarm_eq (ε := ε) delay purpose
    rw [eq]
    exact (Step.offer idle waits owned).kept.time (by decide)
  refine .sent (s := m.submission .data (m.dataFrame frame) (some frame)) refused outbox
    (tells.inFlight.symm.trans idle) ?_ ?_ ?_ rfl ?_
  · rw [OwnsNow, same.config, same.slot, same.offset (congrArg TimeBase.origin time)]
    exact owned
  · rw [given.inFlight, flies, isSynchronized, time]
  · rw [given.launches, launches, tells.launches]
  · rw [given.reports, reports, tells.reports, List.append_nil]

/-- A frame for which the slot alarm is refused. -/
theorem Readied.fails (h : Readied m p) (waits : m.outbox = some frame)
    (tells : Tells n.cancellation n m) (alarms : m.alarms.refusal = n.alarms.refusal)
    (failed : (p.armSlotAlarm delay purpose : Reply ε × Node M).1 = .error error) :
    Fails n frame.token frame.destination frame.payload.bytes error
      (p.armSlotAlarm delay purpose : Reply ε × Node M).2 := by
  obtain ⟨e, rfl, refused, outbox, given⟩ := armSlotAlarm_fails failed
  have unsent (still : p.outbox = some frame) (quiet : Tells [] m p)
      (refusal : p.alarms.refusal = m.alarms.refusal) :
      Fails n frame.token frame.destination frame.payload.bytes (.alarm e : NodeError ε)
        (p.armSlotAlarm delay purpose : Reply ε × Node M).2 := by
    rw [still] at given
    rw [refusal, alarms] at refused
    exact .unsent refused outbox (tells.trans (quiet.trans given))
  cases h with
  | waiting path => exact unsent (path.outbox_eq.trans waits) path.tells path.refusal
  | @offered q _ path step =>
    have still := path.outbox_eq.trans waits
    have refusal := step.refusal.trans path.refusal
    cases step with
    | @offer _ other idle same owned =>
      cases still.symm.trans same
      cases accepts : q.accepts .data (q.dataFrame frame) with
      | false =>
        have quiet := path.tells.trans (offered_tells accepts)
        exact unsent (offered_waits still accepts) quiet refusal
      | true =>
        rw [refusal, alarms] at refused
        rw [offered_outbox, if_pos accepts] at given
        have so_far := tells.trans path.tells
        rw [List.append_nil] at so_far
        exact offered_fails so_far refused idle still owned accepts given outbox

theorem send_fails (sound : n.Sound) (token : Token) (destination : Address)
    (bytes : List UInt8) :
    Yields (n.send token destination bytes : Except Fault (Reply ε × Node M)) fun out =>
      ∀ error, out.1 = .error error → n.Fails token destination bytes error out.2 := by
  rw [send]
  split
  · next long =>
    apply Yields.ok_iff.mpr
    rintro error ⟨⟩
    exact .long (Payload.ofBytes?_eq_none_iff.mp long)
  · next payload fits =>
    let frame : QueuedFrame := { token, destination, payload, queuedAt := n.fineNow }
    have path : Path [.expire, .capture] n (n.expireSync.capture frame) := n.capture_path frame
    have expired : Path [.expire] n n.expireSync := Step.expire.path
    have waits : (n.expireSync.capture frame).outbox = some frame := by
      obtain ⟨_, _, _, same⟩ := n.expireSync.capture_eq frame
      rw [same]
    have tells : Tells n.cancellation n (n.expireSync.capture frame) := by
      rw [cancellation, ← expired.outbox_eq]
      exact expired.tells.trans (.capture n.expireSync frame)
    apply (arrange_readies (path.sound sound) waits).mono
    rintro out (done | ⟨p, delay, purpose, readied, rfl⟩) error failed
    · rw [done] at failed
      cases failed
    · rw [Payload.ofBytes?_eq_some_iff.mp fits]
      exact readied.fails waits tells path.refusal failed

end Medium

end Node

open Node

/-- A send that fails because of the bytes leaves everything as it was. One that fails
because of an alarm gives the frame up and reports that, with nothing launched, unless
the medium accepted the frame within the owned slot before the alarm was refused; then
the frame is in flight, and nothing is reported about it yet. Either way what is launched
afterwards is what still waits, if anything does, or is asked for later. -/
theorem failed_send {M ε : Type} [Medium M ε] {config : Config} (valid : config.Valid)
    (address : Address) (medium : M) (alarms : AlarmClock) (words : WordSource)
    (stimuli : List (Stimulus M)) (token : Token) (destination : Address) (bytes : List UInt8)
    (rest : List (Stimulus M)) :
    ∃ answers n reply m after k,
      lifetime address config medium alarms words stimuli = .ok (.ok (answers, n)) ∧
      n.send token destination bytes = .ok (reply, m) ∧
      m.course rest = .ok (after, k) ∧
      (∀ error, reply = .error error → n.Fails token destination bytes error m) ∧
      ∃ sent, k.journal.launches = m.journal.launches ++ sent ∧
        List.Sublist (sent.map (·.queued.map (·.request)))
          ((m.outbox.toList.map (·.request) ++ requests rest).map some) := by
  obtain ⟨answers, n, done, -, sound⟩ :=
    lifetime_transmits (ε := ε) valid address medium alarms words stimuli
  obtain ⟨⟨reply, m⟩, last, fails, path, -⟩ :=
    (send_fails sound token destination bytes).and (send_yields sound token destination bytes)
  obtain ⟨⟨after, k⟩, onward, launches⟩ := course_stocked (path.sound sound) rest
  exact ⟨answers, n, reply, m, after, k, done, last, onward, fails, launches⟩

/-- In its slot a node hands the frame over, and then it is refused the alarm for the next
start of the slot. The send fails, the frame is in flight, and nothing was reported. -/
theorem failed_send_launched :
    ∃ answers n,
      lifetime 3 {} ({} : RecordingMedium) {} (.cycle [])
        [.refuse .slot (some .exhausted), .clock 500000] = .ok (.ok (answers, n)) ∧
      Yields (n.send 7 0 [1]) fun out =>
        out.1 = .error (.alarm .exhausted) ∧ out.2.inFlight.map (·.token) = some 7 ∧
          out.2.journal.launches.map (·.token?) = [some 7] ∧ out.2.journal.reports = [] :=
  exists_lifetime Config.valid_default (by decide +kernel)

/-- With alarms to be had again, another frame is launched in the slot. -/
def recovering : List (Stimulus RecordingMedium) :=
  [.refuse .slot none, .operate (.send 8 0 [2]), .clock 500000, .fire .slot]

/-- Ahead of its slot the frame for which there is no alarm is given up. -/
theorem failed_send_ahead :
    ∃ answers n reply m after k,
      lifetime 3 {} ({} : RecordingMedium) {} (.cycle []) [.refuse .slot (some .exhausted)] =
        .ok (.ok (answers, n)) ∧
      n.send 7 0 [1] = .ok (reply, m) ∧
      m.course recovering = .ok (after, k) ∧
      reply = .error (.alarm .exhausted) ∧
      n.Fails 7 0 [1] (.alarm .exhausted : NodeError Refusal) m ∧
      ∃ sent, k.journal.launches = m.journal.launches ++ sent ∧
        List.Sublist (sent.map (·.queued.map (·.request))) [some (8, 0, [2])] := by
  obtain ⟨answers, n, reply, m, after, k, done, last, onward, fails, sent, more, among⟩ :=
    failed_send Config.valid_default 3 ({} : RecordingMedium) {} (.cycle [])
      [.refuse .slot (some .exhausted)] 7 0 [1] recovering
  obtain ⟨_, _, same, outcome⟩ :
      ∃ answers n,
        lifetime 3 {} ({} : RecordingMedium) {} (.cycle []) [.refuse .slot (some .exhausted)] =
          .ok (.ok (answers, n)) ∧
        Yields (n.send 7 0 [1]) fun out =>
          out.1 = .error (.alarm .exhausted) ∧ out.2.outbox = none :=
    exists_lifetime Config.valid_default (by decide +kernel)
  cases done.symm.trans same
  obtain ⟨failed, outbox⟩ := outcome.of_ok last
  rw [outbox] at among
  exact ⟨answers, n, reply, m, after, k, done, last, onward, failed, fails _ failed, sent, more,
    among⟩

end SlottedMac
