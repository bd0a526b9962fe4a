/-!
# Half-duplex radios

A radio is asked to start a transmission, to start to receive, or to sleep, and
is polled for what became of it. Every request may fail. `RadioCall` is one
request together with its answer, so that a list of calls is a full account of
what a radio was asked and what it said.
-/

namespace SlottedMac

/-- A received frame and the strength of its signal. -/
structure Reception where
  bytes : List UInt8 := []
  rssi : Int := 0
deriving DecidableEq, Repr

/-- A radio with state `R` whose requests fail with an error `ε`. -/
class Transceiver (R : Type) (ε : outParam Type) where
  /-- Start to transmit. -/
  startTransmit : R → List UInt8 → Except ε Unit × R
  /-- Whether the transmission is over. -/
  checkTransmit : R → Except ε Bool × R
  /-- Start to receive. -/
  startReceive : R → Except ε Unit × R
  /-- Whether a frame has come in; `restart` asks to go on receiving after a
  failed reception. -/
  checkReceive : R → (restart : Bool) → Except ε Bool × R
  /-- Take the frame that has come in, at most `room` bytes of it. -/
  takeReceived : R → (room : Nat) → Except ε Reception × R
  /-- The strength of the signal on the channel now. -/
  pollRssi : R → Except ε Int × R
  /-- Go to sleep. -/
  sleep : R → Except ε Unit × R

/-- A request to a radio and its answer. -/
inductive RadioCall (ε : Type) where
  | startTransmit (bytes : List UInt8) (answer : Except ε Unit)
  | checkTransmit (answer : Except ε Bool)
  | startReceive (answer : Except ε Unit)
  | checkReceive (restart : Bool) (answer : Except ε Bool)
  | takeReceived (room : Nat) (answer : Except ε Reception)
  | pollRssi (answer : Except ε Int)
  | sleep (answer : Except ε Unit)

namespace RadioCall

/-- Whether the radio did as it was asked. -/
def succeeded {ε : Type} : RadioCall ε → Bool
  | .startTransmit _ answer => answer.isOk
  | .checkTransmit answer => answer.isOk
  | .startReceive answer => answer.isOk
  | .checkReceive _ answer => answer.isOk
  | .takeReceived _ answer => answer.isOk
  | .pollRssi answer => answer.isOk
  | .sleep answer => answer.isOk

end RadioCall

/-- The next answer of a queue, or a standing answer once it is empty. -/
def nextAnswer {α ε : Type} (standing : α) : List (Except ε α) → Except ε α × List (Except ε α)
  | [] => (.ok standing, [])
  | answer :: rest => (answer, rest)

@[simp] theorem nextAnswer_nil {α ε : Type} (standing : α) :
    nextAnswer standing ([] : List (Except ε α)) = (.ok standing, []) := rfl

@[simp] theorem nextAnswer_cons {α ε : Type} (standing : α) (answer : Except ε α)
    (rest : List (Except ε α)) : nextAnswer standing (answer :: rest) = (answer, rest) := rfl

/-- A radio that answers from a script, one queue for each request. With its
queues empty it transmits at once, receives nothing and hears silence. -/
structure ScriptedRadio where
  startTransmit : List (Except String Unit) := []
  checkTransmit : List (Except String Bool) := []
  startReceive : List (Except String Unit) := []
  checkReceive : List (Except String Bool) := []
  takeReceived : List (Except String Reception) := []
  pollRssi : List (Except String Int) := []
  sleep : List (Except String Unit) := []

namespace ScriptedRadio

/-- The signal strength of a silent channel. -/
def silence : Int := -120

/-- Let further answers follow those that are still to be given. -/
def append (r more : ScriptedRadio) : ScriptedRadio where
  startTransmit := r.startTransmit ++ more.startTransmit
  checkTransmit := r.checkTransmit ++ more.checkTransmit
  startReceive := r.startReceive ++ more.startReceive
  checkReceive := r.checkReceive ++ more.checkReceive
  takeReceived := r.takeReceived ++ more.takeReceived
  pollRssi := r.pollRssi ++ more.pollRssi
  sleep := r.sleep ++ more.sleep

instance : Transceiver ScriptedRadio String where
  startTransmit r _ :=
    let (answer, rest) := nextAnswer () r.startTransmit
    (answer, { r with startTransmit := rest })
  checkTransmit r :=
    let (answer, rest) := nextAnswer true r.checkTransmit
    (answer, { r with checkTransmit := rest })
  startReceive r :=
    let (answer, rest) := nextAnswer () r.startReceive
    (answer, { r with startReceive := rest })
  checkReceive r _ :=
    let (answer, rest) := nextAnswer false r.checkReceive
    (answer, { r with checkReceive := rest })
  takeReceived r room :=
    let (answer, rest) := nextAnswer {} r.takeReceived
    (answer.map fun found => { found with bytes := found.bytes.take room },
      { r with takeReceived := rest })
  pollRssi r :=
    let (answer, rest) := nextAnswer silence r.pollRssi
    (answer, { r with pollRssi := rest })
  sleep r :=
    let (answer, rest) := nextAnswer () r.sleep
    (answer, { r with sleep := rest })

end ScriptedRadio

end SlottedMac
