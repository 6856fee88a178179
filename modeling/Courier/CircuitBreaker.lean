import Courier.Duration

/-!
# Circuit breakers

A breaker watches the outcomes of calls to one endpoint. While it is closed it keeps the most recent
outcomes in a window and opens when the failures among them, or their share, reach a threshold. Open,
it refuses calls until a waiting time has passed; the next call then makes it half open. Half open,
it admits a few trial calls at a time: enough successes in a row close it, one failure opens it.

A call that is admitted holds a permit, which is settled with an outcome or dropped without one. A
permit remembers the period in which it was granted; every transition begins a new period, and a
permit of an earlier period changes nothing.
-/

set_option autoImplicit false
set_option relaxedAutoImplicit false

namespace Courier

/-- The state of a breaker. -/
inductive CircuitState where
  | closed
  | opened
  | halfOpen
  deriving DecidableEq, Repr, Inhabited

namespace CircuitState

/-- The name of a state. -/
def name : CircuitState → String
  | closed => "CLOSED"
  | opened => "OPEN"
  | halfOpen => "HALF_OPEN"

/-- The name of a state in a summary. -/
def label : CircuitState → String
  | closed => "Closed"
  | opened => "Open"
  | halfOpen => "HalfOpen"

end CircuitState

/-- A change of state. -/
structure Transition where
  source : CircuitState
  target : CircuitState
  deriving DecidableEq, Repr

/-- The settings of a breaker. -/
structure BreakerSettings where
  /-- The failures in the window that open the circuit. -/
  failureThreshold : Nat := 5
  /-- The percentage of failures in the window that opens the circuit. -/
  failureRateThreshold : Float := 50.0
  /-- The outcomes in the window from which on the percentage counts. -/
  minimumCalls : Nat := 10
  windowSize : Nat := 20
  /-- The time for which an open circuit refuses calls. -/
  waitDuration : Duration := .ofSecs 60
  /-- The most trial calls under way at a time. -/
  permittedTrials : Nat := 3
  /-- The successful trials that close the circuit. -/
  successThreshold : Nat := 2

/-- What is wrong with the settings, if anything. -/
def BreakerSettings.invalid? (s : BreakerSettings) : Option String :=
  if s.failureThreshold < 1 then some "failure_threshold must be >= 1"
  else if s.successThreshold < 1 then some "success_threshold must be >= 1"
  else if s.windowSize < 1 then some "window_size must be >= 1"
  else if s.windowSize < s.failureThreshold then
    some "failure_threshold must not exceed window_size"
  else if s.permittedTrials < 1 then some "permitted_half_open_calls must be >= 1"
  else if 0.0 < s.failureRateThreshold ∧ s.failureRateThreshold ≤ 100.0 then none
  else some "failure_rate_threshold must be in (0, 100]"

/-- A breaker. -/
structure CircuitBreaker where
  settings : BreakerSettings
  state : CircuitState := .closed
  /-- The most recent outcomes while closed, oldest first; true is a failure. -/
  window : List Bool := []
  /-- The failures in the window. -/
  failures : Nat := 0
  /-- The trials that succeeded in this period. -/
  successes : Nat := 0
  /-- The trials under way. -/
  trials : Nat := 0
  openedAt : Option Nat := none
  /-- The number of transitions so far. -/
  period : Nat := 0

/-- The right to make one call. -/
structure CallPermit where
  period : Nat
  trial : Bool
  deriving DecidableEq, Repr

namespace CircuitBreaker

/-- Begins a new period in a state, with nothing counted. -/
def moveTo (b : CircuitBreaker) (state : CircuitState) (now : Nat) : CircuitBreaker :=
  { settings := b.settings
    state := state
    openedAt := if state = .opened then some now else none
    period := b.period + 1 }

/-- The permit of a call admitted in the present period. -/
def permit (b : CircuitBreaker) (trial : Bool) : CallPermit := ⟨b.period, trial⟩

/-- An open circuit has waited long enough. -/
def waited (b : CircuitBreaker) (now : Nat) : Bool :=
  match b.openedAt with
  | none => true
  | some start => b.settings.waitDuration.nanos ≤ now - start

/-- Asks to make a call. -/
def acquire (b : CircuitBreaker) (now : Nat) : Option CallPermit × CircuitBreaker :=
  match b.state with
  | .closed => (some (b.permit false), b)
  | .opened =>
    if b.waited now then
      let b := { b.moveTo .halfOpen now with trials := 1 }
      (some (b.permit true), b)
    else (none, b)
  | .halfOpen =>
    if b.settings.permittedTrials ≤ b.trials then (none, b)
    else
      let b := { b with trials := b.trials + 1 }
      (some (b.permit true), b)

/-- Drops the oldest outcomes until fewer than `size` are left; the failures are counted along. -/
def makeRoom (size : Nat) : List Bool → Nat → List Bool × Nat
  | [], failures => ([], failures)
  | oldest :: window, failures =>
    if size ≤ (oldest :: window).length then
      makeRoom size window (if oldest then failures - 1 else failures)
    else (oldest :: window, failures)

/-- Puts an outcome into the window. -/
def push (b : CircuitBreaker) (failed : Bool) : CircuitBreaker :=
  let (window, failures) := makeRoom b.settings.windowSize b.window b.failures
  { b with window := window ++ [failed], failures := if failed then failures + 1 else failures }

/-- The percentage of failures in a window of `calls` outcomes. -/
def failureRate (failures calls : Nat) : Float :=
  Float.ofNat failures * 100.0 / Float.ofNat (max calls 1)

/-- The window opens the circuit. -/
def tripped (b : CircuitBreaker) : Bool :=
  b.settings.failureThreshold ≤ b.failures ||
    (b.settings.minimumCalls ≤ b.window.length &&
      b.settings.failureRateThreshold ≤ failureRate b.failures b.window.length)

/-- Settles a permit with a success. -/
def succeed (b : CircuitBreaker) (p : CallPermit) (now : Nat) :
    Option Transition × CircuitBreaker :=
  if p.period ≠ b.period then (none, b)
  else if p.trial then
    let b := { b with trials := b.trials - 1, successes := b.successes + 1 }
    if b.settings.successThreshold ≤ b.successes then
      (some ⟨b.state, .closed⟩, b.moveTo .closed now)
    else (none, b)
  else (none, b.push false)

/-- Settles a permit with a failure. -/
def fail (b : CircuitBreaker) (p : CallPermit) (now : Nat) :
    Option Transition × CircuitBreaker :=
  if p.period ≠ b.period then (none, b)
  else if p.trial then (some ⟨b.state, .opened⟩, b.moveTo .opened now)
  else
    let b := b.push true
    if b.tripped then (some ⟨b.state, .opened⟩, b.moveTo .opened now) else (none, b)

/-- Gives a permit back without an outcome. -/
def drop (b : CircuitBreaker) (p : CallPermit) : CircuitBreaker :=
  if p.trial ∧ p.period = b.period then { b with trials := b.trials - 1 } else b

/-- Closes the circuit and begins anew. -/
def reset (b : CircuitBreaker) (now : Nat) : CircuitBreaker := b.moveTo .closed now

end CircuitBreaker

end Courier
