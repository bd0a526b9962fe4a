import SlottedMac.Frame.Header

/-!
# Frames on the air

A frame is a time reference or data. Both have one wire format, a header with a
body behind it, so the content decides the kind: a broadcast whose body is the
marker is a beacon, and everything else is data. A beacon with another
destination, or broadcast data that spells the marker, therefore does not read
back as the kind that was written.
-/

namespace SlottedMac

/-- Most bytes that one frame carries behind its header. -/
def maxPayload : Nat := 116

/-- Most bytes of a written frame. -/
def maxFrame : Nat := Header.size + maxPayload

/-- The body that makes a broadcast a time reference, the text TDMABeacon. -/
def beaconMarker : List UInt8 := [0x54, 0x44, 0x4D, 0x41, 0x42, 0x65, 0x61, 0x63, 0x6F, 0x6E]

/-- Bytes that fit behind a header. -/
structure Payload where
  bytes : List UInt8
  fits : bytes.length ≤ maxPayload
deriving DecidableEq, Repr

namespace Payload

/-- Take bytes as a payload if they fit. -/
def ofBytes? (bytes : List UInt8) : Option Payload :=
  if h : bytes.length ≤ maxPayload then some ⟨bytes, h⟩ else none

/-- The payload that upper layers see when a beacon is passed on to them. -/
def marker : Payload := ⟨beaconMarker, by decide⟩

@[simp] theorem ofBytes?_bytes (p : Payload) : ofBytes? p.bytes = some p := by
  simp [ofBytes?, p.fits]

theorem ofBytes?_eq_some_iff {bytes : List UInt8} {p : Payload} :
    ofBytes? bytes = some p ↔ bytes = p.bytes := by
  constructor
  · intro h
    rw [ofBytes?] at h
    split at h
    · cases h
      rfl
    · cases h
  · rintro rfl
    exact ofBytes?_bytes p

theorem ofBytes?_eq_none_iff {bytes : List UInt8} :
    ofBytes? bytes = none ↔ maxPayload < bytes.length := by
  simp [ofBytes?]

end Payload

/-- A frame, told apart once where it is received. -/
inductive Frame where
  /-- A time reference for every node. -/
  | beacon (header : Header)
  /-- Anything else, for the layers above. -/
  | data (header : Header) (payload : Payload)
deriving DecidableEq, Repr

namespace Frame

/-- The time reference that `source` sends under number `seq`. -/
def timeReference (source : Address) (seq : UInt8) : Frame :=
  .beacon { source, destination := .broadcast, seq }

/-- The header of either kind. -/
def header : Frame → Header
  | .beacon header => header
  | .data header _ => header

/-- The payload of either kind; that of a beacon is the marker. -/
def payload : Frame → Payload
  | .beacon _ => .marker
  | .data _ payload => payload

/-- The frame as it goes on the air. -/
def bytes (f : Frame) : List UInt8 := f.header.bytes ++ f.payload.bytes

/-- Put the frame at the front of `buffer`, which keeps its later bytes.
The answer also holds the number of bytes that the frame takes. -/
def write (f : Frame) (buffer : List UInt8) : Except Fault (List UInt8 × Nat) := do
  let buffer ← f.header.write buffer
  let buffer ← Fault.writeAt buffer Header.size f.payload.bytes
  return (buffer, Header.size + f.payload.bytes.length)

/-- Read received bytes as a frame. The marker is a beacon only where it is
broadcast. -/
def read (input : List UInt8) : Except DecodeError Frame := do
  let (header, body) ← Header.read input
  if header.isBroadcast && body == beaconMarker then
    return .beacon header
  match Payload.ofBytes? body with
  | some payload => return .data header payload
  | none => throw .oversized

@[simp] theorem header_beacon (h : Header) : (beacon h).header = h := rfl

@[simp] theorem header_data (h : Header) (p : Payload) : (data h p).header = h := rfl

@[simp] theorem payload_beacon (h : Header) : (beacon h).payload = .marker := rfl

@[simp] theorem payload_data (h : Header) (p : Payload) : (data h p).payload = p := rfl

theorem length_bytes (f : Frame) : f.bytes.length = Header.size + f.payload.bytes.length := by
  simp [bytes]

theorem length_bytes_le (f : Frame) : f.bytes.length ≤ maxFrame := by
  rw [length_bytes]
  exact Nat.add_le_add_left f.payload.fits _

/-- In a buffer with room for it, a frame is written in full and nothing behind
it changes. -/
theorem write_of_le {f : Frame} {buffer : List UInt8} (room : f.bytes.length ≤ buffer.length) :
    f.write buffer = .ok (f.bytes ++ buffer.drop f.bytes.length, f.bytes.length) := by
  rw [length_bytes] at room
  have header : f.header.write buffer = .ok (f.header.bytes ++ buffer.drop Header.size) := by
    have fits : 0 + f.header.bytes.length ≤ buffer.length := by simp; omega
    simpa [Header.write] using Fault.writeAt_of_le fits
  have consumed : f.header.bytes.drop (Header.size + f.payload.bytes.length) = [] :=
    List.drop_eq_nil_of_le (by simp)
  have body : Fault.writeAt (f.header.bytes ++ buffer.drop Header.size) Header.size
      f.payload.bytes = .ok (f.bytes ++ buffer.drop f.bytes.length) := by
    rw [Fault.writeAt_of_le (by simp; omega)]
    simp only [bytes, List.append_assoc, List.length_append, Header.length_bytes]
    rw [List.take_append_of_le_length (by simp), List.take_of_length_le (by simp),
      List.drop_append, consumed, List.drop_drop]
    simp
  simp only [write, header, bind, Except.bind]
  rw [body, length_bytes]
  rfl

/-- A buffer without room for the frame is a fault, whichever part is cut. -/
theorem write_of_lt {f : Frame} {buffer : List UInt8} (short : buffer.length < f.bytes.length) :
    f.write buffer = .error .shortBuffer := by
  rw [length_bytes] at short
  simp only [write, bind, Except.bind]
  cases written : f.header.write buffer with
  | error e =>
    rw [Header.write, Fault.writeAt] at written
    split at written <;> simp_all
  | ok buffer' =>
    have := Fault.length_of_writeAt written
    simp [Fault.writeAt, this, Nat.not_le.mpr short]

end Frame

end SlottedMac
