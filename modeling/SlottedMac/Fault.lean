/-!
# Faults of word arithmetic and fixed buffers

A computation on words stops when a divisor is zero, when a difference would go
below zero, when a sum or product is too large for a word, or when bytes are
written or read beyond the end of a buffer. Such a stop is a value here, so that
a theorem can say a computation never reaches one. A fault is not an error of
the protocol: no caller handles it.

Where distances are counted in natural numbers they stand for words of 64 bits.
-/

namespace SlottedMac

/-- Why a computation could not go on. -/
inductive Fault where
  /-- A quotient by zero. -/
  | divideByZero
  /-- A remainder by zero. -/
  | remainderByZero
  /-- A difference below zero. -/
  | underflow
  /-- A sum or product beyond the largest word. -/
  | overflow
  /-- A write or read past the end of a buffer. -/
  | shortBuffer
deriving DecidableEq, Repr

namespace Fault

variable {α : Type}

/-- Quotient, unless the divisor is zero. -/
def quotient [OfNat α 0] [DecidableEq α] [Div α] (a b : α) : Except Fault α :=
  if b = 0 then .error .divideByZero else .ok (a / b)

/-- Remainder, unless the divisor is zero. -/
def remainder [OfNat α 0] [DecidableEq α] [Mod α] (a b : α) : Except Fault α :=
  if b = 0 then .error .remainderByZero else .ok (a % b)

/-- Difference, unless it is below zero. -/
def difference [LT α] [DecidableLT α] [Sub α] (a b : α) : Except Fault α :=
  if a < b then .error .underflow else .ok (a - b)

/-- What a word of 64 bits stays below. -/
def wordBound : Nat := 0x10000000000000000

/-- Sum, unless it is beyond the largest word. -/
def sum (a b : Nat) : Except Fault Nat :=
  if a + b < wordBound then .ok (a + b) else .error .overflow

/-- Product, unless it is beyond the largest word. -/
def product (a b : Nat) : Except Fault Nat :=
  if a * b < wordBound then .ok (a * b) else .error .overflow

/-- Put `bytes` into `buffer` from position `start` on. The bytes before and
behind them keep their values. -/
def writeAt (buffer : List UInt8) (start : Nat) (bytes : List UInt8) :
    Except Fault (List UInt8) :=
  if start + bytes.length ≤ buffer.length then
    .ok (buffer.take start ++ bytes ++ buffer.drop (start + bytes.length))
  else
    .error .shortBuffer

/-- The first `count` bytes of `buffer`, if it has as many. -/
def front (buffer : List UInt8) (count : Nat) : Except Fault (List UInt8) :=
  if count ≤ buffer.length then .ok (buffer.take count) else .error .shortBuffer

theorem quotient_of_ne [OfNat α 0] [DecidableEq α] [Div α] {a b : α} (h : b ≠ 0) :
    quotient a b = .ok (a / b) := if_neg h

theorem remainder_of_ne [OfNat α 0] [DecidableEq α] [Mod α] {a b : α} (h : b ≠ 0) :
    remainder a b = .ok (a % b) := if_neg h

theorem difference_of_not_lt [LT α] [DecidableLT α] [Sub α] {a b : α} (h : ¬ a < b) :
    difference a b = .ok (a - b) := if_neg h

theorem difference_of_le {a b : UInt32} (h : b ≤ a) : difference a b = .ok (a - b) :=
  difference_of_not_lt (UInt32.not_lt.mpr h)

theorem difference_nat {a b : Nat} (h : b ≤ a) : difference a b = .ok (a - b) :=
  difference_of_not_lt (Nat.not_lt.mpr h)

theorem sum_of_lt {a b : Nat} (h : a + b < 0x10000000000000000) : sum a b = .ok (a + b) := if_pos h

theorem product_of_lt {a b : Nat} (h : a * b < 0x10000000000000000) : product a b = .ok (a * b) := if_pos h

theorem front_of_le {buffer : List UInt8} {count : Nat} (h : count ≤ buffer.length) :
    front buffer count = .ok (buffer.take count) := if_pos h

theorem writeAt_of_le {buffer bytes : List UInt8} {start : Nat}
    (h : start + bytes.length ≤ buffer.length) :
    writeAt buffer start bytes =
      .ok (buffer.take start ++ bytes ++ buffer.drop (start + bytes.length)) := if_pos h

/-- A write replaces bytes in place, so the buffer keeps its length. -/
theorem length_of_writeAt {buffer bytes written : List UInt8} {start : Nat}
    (h : writeAt buffer start bytes = .ok written) : written.length = buffer.length := by
  rw [writeAt] at h
  split at h
  · next fits =>
    cases h
    simp
    omega
  · cases h

end Fault

end SlottedMac
