import SlottedMac.Layout

/-!
# Configuration of a node

Besides the layout of the period a node is told its role in keeping time, how
strictly it keeps to its own slot, and the limits it works under.
-/

namespace SlottedMac

/-- What a node does about the shared time reference. -/
inductive Role where
  /-- Sends the time references. -/
  | coordinator
  /-- Follows the time references of the coordinator with this address. -/
  | member (coordinator : Address)
  /-- Neither sends nor follows time references. -/
  | beaconless
deriving DecidableEq, Repr

/-- When a node may send. -/
inductive Mode where
  /-- In its own slot only. -/
  | tdma
  /-- Also in other slots, after a random backoff and if nobody is heard. -/
  | zmac
deriving DecidableEq, Repr

namespace Mode

/-- The name of a mode in configuration files. -/
def name : Mode → String
  | .tdma => "tdma"
  | .zmac => "zmac"

/-- The mode with exactly this name. -/
def ofName? (text : String) : Option Mode :=
  if text = "tdma" then some .tdma
  else if text = "zmac" then some .zmac
  else none

@[simp] theorem ofName?_name (m : Mode) : ofName? m.name = some m := by
  cases m <;> simp [ofName?, name]

/-- No other text names a mode. -/
theorem eq_name_of_ofName? {text : String} {m : Mode} (h : ofName? text = some m) :
    text = m.name := by
  rw [ofName?] at h
  split at h
  · next same => simp_all [name, ← Option.some.inj h]
  · split at h
    · next same => simp_all [name, ← Option.some.inj h]
    · cases h

end Mode

/-- The settings of a node. -/
structure Config where
  role : Role := .member 1
  mode : Mode := .tdma
  layout : Layout := .standard
  /-- Time between beacons in milliseconds. -/
  beaconInterval : Ticks := 10000
  /-- Time from the start of a coordinator to its first beacon in milliseconds. -/
  initialBeaconDelay : Ticks := 1000
  /-- Bound on the backoff before a steal in microseconds, itself excluded. -/
  backoffBound : Ticks := Layout.standard.slotLength / 5
  /-- Periods that a frame may wait before it expires. -/
  maxDeferrals : UInt16 := 8
  /-- Beacons in a row that a member may miss before it drops its time base. -/
  maxBeaconMisses : UInt32 := 3
  /-- Lateness of a slot alarm that counts as a missed deadline in microseconds. -/
  deadline : Ticks := 2000
deriving DecidableEq, Repr

namespace Config

/-- Accept a configuration whose layout is sound, whose beacons, if the role
has any, are apart, and whose backoff, if the mode has one, is not empty. -/
def check (c : Config) : Except ConfigError Unit := do
  c.layout.check
  if c.role ≠ .beaconless ∧ c.beaconInterval = 0 then throw .noBeaconInterval
  if c.mode = .zmac ∧ c.backoffBound = 0 then throw .noBackoff

/-- What `check` asks of a configuration. -/
structure Valid (c : Config) : Prop where
  layout : c.layout.Valid
  beaconInterval_ne : c.role ≠ .beaconless → c.beaconInterval ≠ 0
  backoffBound_ne : c.mode = .zmac → c.backoffBound ≠ 0

/-- Milliseconds without a beacon after which a member drops its time base. -/
def syncTimeout (c : Config) : Ticks := c.beaconInterval.mulSat c.maxBeaconMisses

theorem check_eq_ok_iff {c : Config} : c.check = .ok () ↔ c.Valid := by
  cases layout : c.layout.check with
  | error e =>
    simp only [check, layout, bind, Except.bind, reduceCtorEq, false_iff]
    intro valid
    rw [Layout.check_eq_ok_iff.mpr valid.layout] at layout
    cases layout
  | ok _ =>
    have sound := Layout.check_eq_ok_iff.mp layout
    simp only [check, layout, bind, Except.bind]
    constructor
    · intro accepted
      repeat (split at accepted; · cases accepted)
      exact ⟨sound, by grind, by grind⟩
    · rintro ⟨_, interval, backoff⟩
      repeat rw [if_neg (by grind)]
      rfl

/-- The settings that a node has unless told otherwise are valid. -/
theorem valid_default : ({} : Config).Valid := check_eq_ok_iff.mp rfl

end Config

end SlottedMac
