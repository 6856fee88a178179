import Courier.Decode.Record
import Courier.Duration

/-!
# The settings of the pool

In bounded mode a fixed number of core workers serves a queue of limited length, and more workers
come up to a maximum when it is full. In unbounded mode every job runs at once.
-/

set_option autoImplicit false
set_option relaxedAutoImplicit false

namespace Courier

/-- The mode of a pool. -/
inductive PoolMode where
  | bounded
  | unbounded
  deriving DecidableEq, Repr

/-- The name of a mode in a summary. -/
def PoolMode.label : PoolMode → String
  | bounded => "Bounded"
  | unbounded => "Unbounded"

/-- The settings of a pool. -/
structure PoolSettings where
  mode : PoolMode := .bounded
  coreWorkers : Nat := 4
  maxWorkers : Nat := 16
  queueCapacity : Nat := 1000
  /-- What the names of workers begin with. -/
  workerName : String := "herald-"
  keepAliveSeconds : Nat := 60
  shutdownTimeoutSeconds : Nat := 30

namespace PoolSettings

/-- How long a worker beyond the core ones stays without work. -/
def keepAlive (s : PoolSettings) : Duration := .ofSecs s.keepAliveSeconds

/-- How long a shutdown waits for the jobs. -/
def shutdownTimeout (s : PoolSettings) : Duration := .ofSecs s.shutdownTimeoutSeconds

/-- What is wrong with the settings, if anything. -/
def invalid? (s : PoolSettings) : Option String :=
  if s.mode = .unbounded then none
  else if s.coreWorkers < 1 then some "core_workers must be >= 1"
  else if s.maxWorkers < s.coreWorkers then some "core_workers must not exceed max_workers"
  else if s.queueCapacity < 1 then some "queue_capacity must be >= 1"
  else none

/-- A mode by its name. -/
def decodeMode : Decode.Decoder PoolMode :=
  Decode.choice [("bounded", .bounded), ("unbounded", .unbounded)]

/-- The form of the settings' record. -/
def form : Decode.Form PoolSettings where
  title := "the settings of a pool"
  blank := {}
  fields :=
    [Decode.field "mode" .defaulted decodeMode fun s m => { s with mode := m },
     Decode.field "core_workers" .defaulted Decode.size fun s n => { s with coreWorkers := n },
     Decode.field "max_workers" .defaulted Decode.size fun s n => { s with maxWorkers := n },
     Decode.field "queue_capacity" .defaulted Decode.size fun s n => { s with queueCapacity := n },
     Decode.field "worker_name_prefix" .defaulted Decode.string
       fun s name => { s with workerName := name },
     Decode.field "keep_alive_seconds" .defaulted Decode.natural64
       fun s n => { s with keepAliveSeconds := n },
     Decode.field "shutdown_timeout_seconds" .defaulted Decode.natural64
       fun s n => { s with shutdownTimeoutSeconds := n }]

/-- The settings from their record. -/
def decode : Decode.Decoder PoolSettings := Decode.record form

end PoolSettings

end Courier
