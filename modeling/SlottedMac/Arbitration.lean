import SlottedMac.Clock

/-!
# Contention for slots of other nodes

A node that may steal draws a random backoff and, when it is over, listens
before it talks. The random words come from a stream; a stream that is empty
gives zeros, and a finite list of words is replayed from its start.
-/

namespace SlottedMac

/-- What the slot alarm of a node stands for. -/
inductive Arbitration where
  /-- Nothing waits to be sent. -/
  | idle
  /-- The alarm goes off when the owned slot starts. -/
  | awaitingSlot
  /-- The alarm goes off when the backoff before a steal is over. -/
  | backingOff
deriving DecidableEq, Repr

/-- What to do at the end of a backoff. -/
inductive StealDecision where
  /-- Nobody is heard: send now. -/
  | transmit
  /-- Somebody is heard: wait for the owned slot. -/
  | abandon
deriving DecidableEq, Repr

/-- Whoever hears nobody sends. -/
def StealDecision.ofSensing (clear : Bool) : StealDecision :=
  if clear then .transmit else .abandon

/-- A stream of random words and the number of words drawn from it. -/
structure WordSource where
  word : Nat → UInt32
  drawn : Nat := 0

namespace WordSource

/-- The stream that repeats a list of words, or zeros if the list is empty. -/
def cycle (words : List UInt32) : WordSource where
  word i := words[i % words.length]?.getD 0

/-- Draw the next word. -/
def next (s : WordSource) : UInt32 × WordSource :=
  (s.word s.drawn, { s with drawn := s.drawn + 1 })

/-- Draw a backoff below `bound`. A bound of zero leaves nothing to draw. -/
def backoff (s : WordSource) (bound : Ticks) : Ticks × WordSource :=
  if bound = 0 then (0, s) else (s.next.1 % bound, s.next.2)

@[simp] theorem backoff_zero (s : WordSource) : s.backoff 0 = (0, s) := rfl

theorem backoff_of_ne {bound : Ticks} (h : bound ≠ 0) (s : WordSource) :
    s.backoff bound = (s.word s.drawn % bound, { s with drawn := s.drawn + 1 }) := if_neg h

theorem backoff_lt {bound : Ticks} (h : bound ≠ 0) (s : WordSource) :
    (s.backoff bound).1 < bound := by
  rw [backoff_of_ne h]
  exact UInt32.mod_lt _ (by
    rw [UInt32.lt_iff_toNat_lt]
    exact Nat.pos_of_ne_zero fun zero => h (UInt32.toNat_inj.mp zero))

end WordSource

end SlottedMac
