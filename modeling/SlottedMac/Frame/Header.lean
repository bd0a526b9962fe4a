import SlottedMac.Fault

/-!
# Frame headers

A header names the sender, the receiver and a sequence number. On the air it
takes five bytes: both addresses with the low byte first, then the number.
Reading inverts writing, and nothing shorter than five bytes is a header.
-/

namespace SlottedMac

/-- A short node address. -/
abbrev Address := UInt16

namespace Address

/-- The destination that every node takes as its own. -/
def broadcast : Address := 0xFFFF

/-- The two bytes of an address, low byte first. -/
def bytes (a : Address) : List UInt8 := [a.toUInt8, (a >>> 8).toUInt8]

/-- The address with the given low and high byte. -/
def ofBytes (low high : UInt8) : Address := low.toUInt16 + high.toUInt16 * 256

@[simp] theorem ofBytes_bytes (a : Address) :
    ofBytes a.toUInt8 (a >>> 8).toUInt8 = a := by
  apply UInt16.toNat_inj.mp
  have := a.toNat_lt
  simp only [ofBytes, UInt16.toNat_add, UInt16.toNat_mul, UInt8.toNat_toUInt16,
    UInt16.toNat_toUInt8, UInt16.toNat_shiftRight, Nat.shiftRight_eq_div_pow, UInt16.reduceToNat]
  simp only [Nat.reduceMod, Nat.reducePow] at *
  omega

@[simp] theorem bytes_ofBytes (low high : UInt8) : (ofBytes low high).bytes = [low, high] := by
  have hl := low.toNat_lt
  have hh := high.toNat_lt
  have value : (ofBytes low high).toNat = low.toNat + high.toNat * 256 := by
    simp only [ofBytes, UInt16.toNat_add, UInt16.toNat_mul, UInt8.toNat_toUInt16,
      UInt16.reduceToNat]
    simp only [Nat.reducePow] at *
    omega
  simp only [bytes, List.cons.injEq, and_true]
  constructor <;> apply UInt8.toNat_inj.mp
  · rw [UInt16.toNat_toUInt8, value]
    simp only [Nat.reducePow] at *
    omega
  · rw [UInt16.toNat_toUInt8, UInt16.toNat_shiftRight, value]
    simp only [UInt16.reduceToNat, Nat.shiftRight_eq_div_pow, Nat.reduceMod, Nat.reducePow] at *
    omega

end Address

/-- Why received bytes are no frame. -/
inductive DecodeError where
  /-- Fewer bytes than a header has. -/
  | truncated
  /-- More bytes after the header than a payload holds. -/
  | oversized
deriving DecidableEq, Repr

/-- Sender, receiver and sequence number of a frame. -/
structure Header where
  source : Address
  destination : Address
  seq : UInt8
deriving DecidableEq, Repr

namespace Header

/-- Bytes of a written header. -/
def size : Nat := 5

/-- The header as it goes on the air. -/
def bytes (h : Header) : List UInt8 := h.source.bytes ++ h.destination.bytes ++ [h.seq]

/-- Whether the frame is for every node. -/
def isBroadcast (h : Header) : Bool := h.destination == .broadcast

/-- Put the header at the front of `buffer`. -/
def write (h : Header) (buffer : List UInt8) : Except Fault (List UInt8) :=
  Fault.writeAt buffer 0 h.bytes

/-- Split received bytes into their header and what follows it. -/
def read : List UInt8 → Except DecodeError (Header × List UInt8)
  | s₀ :: s₁ :: d₀ :: d₁ :: seq :: rest =>
    .ok (⟨.ofBytes s₀ s₁, .ofBytes d₀ d₁, seq⟩, rest)
  | _ => .error .truncated

@[simp] theorem length_bytes (h : Header) : h.bytes.length = size := rfl

@[simp] theorem read_bytes_append (h : Header) (rest : List UInt8) :
    read (h.bytes ++ rest) = .ok (h, rest) := by
  simp [bytes, Address.bytes, read]

/-- What was read is what the header writes, followed by the rest. -/
theorem eq_of_read {input rest : List UInt8} {h : Header}
    (found : read input = .ok (h, rest)) : input = h.bytes ++ rest := by
  match input with
  | s₀ :: s₁ :: d₀ :: d₁ :: seq :: tail =>
    simp only [read, Except.ok.injEq, Prod.mk.injEq] at found
    obtain ⟨rfl, rfl⟩ := found
    simp [bytes]
  | [] | [_] | [_, _] | [_, _, _] | [_, _, _, _] => simp [read] at found

/-- Only the number of bytes decides whether there is a header. -/
theorem read_eq_error_iff {input : List UInt8} {e : DecodeError} :
    read input = .error e ↔ input.length < size ∧ e = .truncated := by
  match input with
  | _ :: _ :: _ :: _ :: _ :: tail =>
    simp only [read, size, List.length_cons, reduceCtorEq, false_iff, not_and]
    omega
  | [] | [_] | [_, _] | [_, _, _] | [_, _, _, _] => simp [read, size, eq_comm]

end Header

end SlottedMac
