import SlottedMac.Frame

/-!
# One wire format for two kinds of frame

A beacon and data are written alike, so what is on the air does not always tell
which of them was written. Reading a frame back can go wrong in two ways only:
a beacon for somebody in particular comes back as data, and broadcast data that
spells the marker comes back as a beacon. Such a frame has a twin, of the other
kind and with the same bytes, and the twin is what a reader takes it for.

Nothing else is lost on the way. Every input of a right length is what some
frame is written as, and the frame that is read from it is written as that input.
-/

namespace SlottedMac

/-- The two bytes of a number below 65536, low byte first. -/
def littleEndian (n : Nat) : List UInt8 := [UInt8.ofNat (n % 256), UInt8.ofNat (n / 256)]

theorem Address.bytes_eq (a : Address) : a.bytes = littleEndian a.toNat := by
  have := a.toNat_lt
  simp only [bytes, littleEndian, List.cons.injEq, and_true]
  constructor <;> apply UInt8.toNat_inj.mp
  · simp
  · rw [UInt16.toNat_toUInt8, UInt16.toNat_shiftRight]
    simp [Nat.shiftRight_eq_div_pow]

/-- The format of a header: both addresses with the low byte first, then the
number. -/
def Header.format (h : Header) : List UInt8 :=
  littleEndian h.source.toNat ++ littleEndian h.destination.toNat ++ [h.seq]

theorem Header.bytes_eq (h : Header) : h.bytes = h.format := by
  rw [bytes, format, Address.bytes_eq, Address.bytes_eq]

/-- Every node is meant by the two bytes of all ones. -/
theorem Header.broadcast_iff (h : Header) :
    h.destination = .broadcast ↔ (h.bytes.drop 2).take 2 = [0xFF, 0xFF] := by
  constructor
  · intro broadcast
    simp only [bytes, broadcast]
    rfl
  · intro ones
    have destination : h.destination.bytes = (Address.broadcast).bytes := ones
    simp only [Address.bytes, List.cons.injEq, and_true] at destination
    rw [← Address.ofBytes_bytes h.destination, destination.1, destination.2]
    exact Address.ofBytes_bytes .broadcast

namespace Frame

variable {f : Frame} {input : List UInt8}

/-- The format of a frame: the header, and behind it the marker or the payload. -/
def format : Frame → List UInt8
  | .beacon h => h.format ++ beaconMarker
  | .data h p => h.format ++ p.bytes

theorem bytes_eq (f : Frame) : f.bytes = f.format := by
  cases f <;> simp [bytes, format, Header.bytes_eq, Payload.marker]

/-- The frame of the other kind that is written the same way. -/
def twin : Frame → Frame
  | .beacon h => .data h .marker
  | .data h _ => .beacon h

/-- The frames that are taken for their twins. -/
def Misread : Frame → Prop
  | .beacon h => h.destination ≠ .broadcast
  | .data h p => h.destination = .broadcast ∧ p.bytes = beaconMarker

instance : DecidablePred Misread
  | .beacon h => inferInstanceAs (Decidable (h.destination ≠ .broadcast))
  | .data h p => inferInstanceAs (Decidable (h.destination = .broadcast ∧ p.bytes = beaconMarker))

theorem twin_ne (f : Frame) : f.twin ≠ f := by
  cases f <;> simp [twin]

@[simp] theorem header_twin (f : Frame) : f.twin.header = f.header := by
  cases f <;> rfl

/-- What a frame that is taken for its twin carries is carried by the twin as well. -/
theorem Misread.payload_twin (h : f.Misread) : f.twin.payload.bytes = f.payload.bytes := by
  cases f with
  | beacon => rfl
  | data => exact h.2.symm

theorem Misread.bytes_twin (h : f.Misread) : f.twin.bytes = f.bytes := by
  rw [bytes, bytes, header_twin, h.payload_twin]

/-- Of two twins, one at most is taken for the other. -/
theorem Misread.not_twin (h : f.Misread) : ¬ f.twin.Misread := by
  cases f with
  | beacon header => exact fun taken => h taken.1
  | data header payload => exact fun taken => taken h.1

/-- Once the header is off, the destination and the body decide. -/
theorem read_append (h : Header) (body : List UInt8) :
    read (h.bytes ++ body) =
      if h.destination = .broadcast ∧ body = beaconMarker then .ok (.beacon h)
      else match Payload.ofBytes? body with
        | some payload => .ok (.data h payload)
        | none => .error .oversized := by
  simp only [read, Header.read_bytes_append, bind, Except.bind, Header.isBroadcast,
    Bool.and_eq_true, beq_iff_eq]
  split
  · rfl
  · cases Payload.ofBytes? body <;> rfl

/-- A frame is read from its own bytes and from no others, and only if it is not
taken for its twin. -/
theorem read_eq_ok_iff : read input = .ok f ↔ input = f.bytes ∧ ¬ f.Misread := by
  constructor
  · intro found
    obtain ⟨h, body, rfl⟩ : ∃ (h : Header) (body : List UInt8), input = h.bytes ++ body := by
      cases split : Header.read input with
      | error e => simp [read, split, bind, Except.bind] at found
      | ok parts => exact ⟨parts.1, parts.2, Header.eq_of_read split⟩
    rw [read_append] at found
    split at found
    · next beacon =>
      cases found
      exact ⟨by rw [beacon.2]; rfl, not_not_intro beacon.1⟩
    · next other =>
      split at found
      · next payload fits =>
        cases found
        rw [Payload.ofBytes?_eq_some_iff] at fits
        exact ⟨by rw [fits]; rfl, by rwa [fits] at other⟩
      · cases found
  · rintro ⟨rfl, kept⟩
    rw [bytes, read_append]
    cases f with
    | beacon header => exact if_pos ⟨Decidable.not_not.mp kept, rfl⟩
    | data header payload =>
      have other : ¬ (header.destination = .broadcast ∧ payload.bytes = beaconMarker) := kept
      simp [other]

/-- What a reader makes of a frame. -/
theorem read_bytes (f : Frame) : read f.bytes = .ok (if f.Misread then f.twin else f) := by
  split
  · next taken => exact read_eq_ok_iff.mpr ⟨taken.bytes_twin.symm, taken.not_twin⟩
  · next kept => exact read_eq_ok_iff.mpr ⟨rfl, kept⟩

/-- Only a beacon reads as one, and it is for every node. -/
theorem of_read_beacon {header : Header} (found : read input = .ok (.beacon header)) :
    header.destination = .broadcast ∧ input = (beacon header).bytes := by
  obtain ⟨same, kept⟩ := read_eq_ok_iff.mp found
  exact ⟨Decidable.not_not.mp kept, same⟩

/-- The length of an input alone decides whether it can be read, and whatever
can be read is written as it was. -/
theorem map_bytes_read (input : List UInt8) :
    (read input).map bytes =
      if input.length < Header.size then .error .truncated
      else if maxFrame < input.length then .error .oversized
      else .ok input := by
  cases split : Header.read input with
  | error e =>
    obtain ⟨short, rfl⟩ := Header.read_eq_error_iff.mp split
    rw [if_pos short]
    simp [read, split, bind, Except.bind, Except.map]
  | ok parts =>
    obtain ⟨h, body⟩ := parts
    obtain rfl := Header.eq_of_read split
    have length : (h.bytes ++ body).length = Header.size + body.length := by simp
    rw [if_neg (by omega)]
    split
    · next long =>
      rw [length, maxFrame, Nat.add_lt_add_iff_left] at long
      have other : ¬ (h.destination = .broadcast ∧ body = beaconMarker) := by
        rintro ⟨-, rfl⟩
        simp [maxPayload, beaconMarker] at long
      rw [read_append, if_neg other, Payload.ofBytes?_eq_none_iff.mpr long]
      rfl
    · next fits =>
      rw [length, maxFrame, Nat.add_lt_add_iff_left, Nat.not_lt] at fits
      have frame : h.bytes ++ body = (data h ⟨body, fits⟩).bytes := rfl
      rw [frame, read_bytes]
      simp only [Except.map]
      split
      · next taken => rw [taken.bytes_twin]
      · rfl

/-- The two bytes of the destination and the body tell a beacon. -/
theorem exists_read_beacon_iff (input : List UInt8) :
    (∃ header, read input = .ok (.beacon header)) ↔
      (input.drop 2).take 2 = [0xFF, 0xFF] ∧ input.drop Header.size = beaconMarker := by
  constructor
  · rintro ⟨header, found⟩
    obtain ⟨broadcast, rfl⟩ := of_read_beacon found
    exact ⟨header.broadcast_iff.mp broadcast, rfl⟩
  · rintro ⟨ones, body⟩
    cases split : Header.read input with
    | error e =>
      have short := (Header.read_eq_error_iff.mp split).1
      rw [List.drop_eq_nil_of_le (Nat.le_of_lt short)] at body
      cases body
    | ok parts =>
      obtain ⟨h, rest⟩ := parts
      obtain rfl := Header.eq_of_read split
      have rest_eq : rest = beaconMarker := body
      have broadcast : h.destination = .broadcast := h.broadcast_iff.mpr ones
      exact ⟨h, by rw [read_append, if_pos ⟨broadcast, rest_eq⟩]⟩

end Frame

/-- Writing a frame puts its format at the front of a buffer and leaves the rest
of the buffer alone, unless there is no room. Reading takes exactly the inputs of
5 to 121 bytes, and the frame that is read is written as the input. It is a
beacon just when the input is addressed to all ones and the marker follows the
header. A frame is read as itself unless it is taken for its twin: a beacon for
somebody in particular is read as data that spells the marker, and broadcast data
that spells the marker as a beacon. -/
theorem Frame.codec :
    (∀ (f : Frame) (buffer : List UInt8), f.write buffer =
      if f.format.length ≤ buffer.length then
        .ok (f.format ++ buffer.drop f.format.length, f.format.length)
      else .error .shortBuffer) ∧
    (∀ input : List UInt8, (Frame.read input).map Frame.format =
      if input.length < 5 then .error .truncated
      else if 121 < input.length then .error .oversized
      else .ok input) ∧
    (∀ input : List UInt8, (∃ header, Frame.read input = .ok (.beacon header)) ↔
      (input.drop 2).take 2 = [0xFF, 0xFF] ∧ input.drop 5 = beaconMarker) ∧
    (∀ f : Frame, Frame.read f.format = .ok f ↔ ¬ f.Misread) ∧
    (∀ h : Header, Frame.read (Frame.beacon h).format =
      .ok (if h.destination = .broadcast then .beacon h else .data h .marker)) ∧
    (∀ (h : Header) (p : Payload), Frame.read (Frame.data h p).format =
      .ok (if h.destination = .broadcast ∧ p.bytes = beaconMarker then .beacon h
        else .data h p)) := by
  have written : Frame.format = Frame.bytes := funext fun f => f.bytes_eq.symm
  rw [written]
  refine ⟨fun f buffer => ?_, Frame.map_bytes_read, Frame.exists_read_beacon_iff, fun f => ?_,
    fun h => ?_, fun h p => ?_⟩
  · split
    · next room => exact Frame.write_of_le room
    · next short => exact Frame.write_of_lt (Nat.not_le.mp short)
  · rw [Frame.read_eq_ok_iff]
    exact and_iff_right rfl
  · rw [Frame.read_bytes]
    by_cases broadcast : h.destination = .broadcast <;>
      simp [Frame.Misread, Frame.twin, broadcast]
  · rw [Frame.read_bytes]
    rfl

end SlottedMac
