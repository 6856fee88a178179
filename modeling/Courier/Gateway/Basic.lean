import Courier.Config.Basic
import Courier.Delivery.Dispatch
import Courier.Health
import Courier.Pool.Submission

/-!
# The gateway

The gateway joins a depot and a pool whose jobs are dispatches. It is built from a blueprint: the
configuration is checked, then the types are registered, then the formatters, then the senders, and the
first thing that is wrong ends the building. A registry of types that is shared with the outside keeps
the types that were registered before that.
-/

set_option autoImplicit false
set_option relaxedAutoImplicit false

namespace Courier

/-- What a gateway is built from. -/
structure Blueprint where
  config : Config := {}
  /-- A registry that the gateway shares; it gets one of its own otherwise. -/
  sharedTypes : Option TypeRegistry := none
  types : List TypeDefinition := []
  formatters : List (FormatterKey × Formatter) := []
  /-- Senders with their platforms. -/
  senders : List (String × Sender) := []
  /-- The routes, if they are not those of the configuration. -/
  routing : Option RoutingTable := none
  letters : DeadLetterStore := {}
  /-- Someone listens to events. -/
  observed : Bool := false

/-- Why no gateway is built. -/
inductive BuildError where
  | invalid (complaint : String)
  | registry (reason : RegistryError)
  | crashed (crash : Crash)
  deriving DecidableEq, Repr

/-- The wording. -/
def BuildError.message : BuildError → String
  | invalid complaint => "configuration error: " ++ complaint
  | registry reason => "registry error: " ++ reason.message
  | crashed crash => crash.text?.getD ""

/-- A gateway. -/
structure Gateway where
  config : Config
  /-- The depot and the pool. -/
  plant : Plant Depot Dispatch
  /-- The batch that is being published is to stop. -/
  batchCancelled : Bool := false

namespace Gateway

/-- Registers types one after the other, up to the first that is refused. -/
def registerTypes (types : TypeRegistry) :
    List TypeDefinition → TypeRegistry × Except RegistryError Unit
  | [] => (types, .ok ())
  | d :: rest =>
    match types.register d with
    | .error reason => (types, .error reason)
    | .ok types => registerTypes types rest

/-- Registers formatters one after the other. -/
def registerFormatters (formatters : FormatterRegistry) :
    List (FormatterKey × Formatter) → Except RegistryError FormatterRegistry
  | [] => .ok formatters
  | (key, formatter) :: rest =>
    match formatters.register key formatter with
    | .error reason => .error reason
    | .ok formatters => registerFormatters formatters rest

/-- Registers senders one after the other. -/
def registerSenders (senders : SenderRegistry) :
    List (String × Sender) → Except RegistryError SenderRegistry
  | [] => .ok senders
  | (platform, sender) :: rest =>
    match senders.register platform sender with
    | .error reason => .error reason
    | .ok senders => registerSenders senders rest

/-- The gates of a configuration: each override as a whole. -/
def gates (c : Config) : GateRegistry where
  defaults := c.resilience.defaults
  overrides := c.resilience.overrides.map fun o => (o.1, c.resilience.settingsFor o.1)
  feedback := { enabled := c.adaptive.enabled, defaultCooldown := c.adaptive.defaultCooldown }

/-- The gateway of a blueprint whose types are registered. -/
def assemble (b : Blueprint) (types : TypeRegistry) : Except BuildError Gateway :=
  match registerFormatters {} b.formatters with
  | .error reason => .error (.registry reason)
  | .ok formatters =>
    match registerSenders {} b.senders with
    | .error reason => .error (.registry reason)
    | .ok senders =>
      match Pool.new b.config.pool with
      | .error crash => .error (.crashed crash)
      | .ok pool =>
        .ok
          { config := b.config
            plant :=
              { pool
                site :=
                  { types, formatters, senders
                    gates := gates b.config
                    routing := b.routing.getD b.config.routing
                    letters := b.letters
                    allowAbandoned := b.config.allowAbandoned
                    observed := b.observed } } }

/-- Builds the gateway of a blueprint. The registry of types as it is afterwards comes with it. -/
def build (b : Blueprint) : Except BuildError Gateway × TypeRegistry :=
  let types := b.sharedTypes.getD {}
  match b.config.invalid? with
  | some complaint => (.error (.invalid complaint), types)
  | none =>
    match registerTypes types b.types with
    | (types, .error reason) => (.error (.registry reason), types)
    | (types, .ok ()) => (assemble b types, types)

/-- The depot. -/
def depot (g : Gateway) : Depot := g.plant.site

/-- The pool. -/
def pool (g : Gateway) : Pool Dispatch := g.plant.pool

/-- Works on the depot. -/
def onDepot {α : Type} (g : Gateway) (work : Depot → α × Depot) : α × Gateway :=
  let (a, site) := work g.plant.site
  (a, { g with plant := { g.plant with site } })

/-- Circuits and dead letters. -/
def health (g : Gateway) : HealthReport where
  circuits := g.depot.gates.circuitStates
  deadLetters := g.depot.letters.counts

/-- Heeds a rate limit of the provider of a resource. -/
def throttle (g : Gateway) (resource : String) (retryAfter : Option Duration) :
    Except Crash (Option Duration) × Gateway :=
  g.onDepot fun d =>
    match d.gates.heed resource retryAfter d.clock.wall with
    | (.error crash, gates) => (.error crash, { d with gates })
    | (.ok none, gates) => (.ok none, { d with gates })
    | (.ok (some (cooldown, event)), gates) =>
      (.ok (some cooldown), ({ d with gates } : Depot).report event)

/-- The gateway in one line. -/
def summary (g : Gateway) : String :=
  "Gateway \x7b types: " ++ toString g.depot.types.size ++
    ", formatters: " ++ toString g.depot.formatters.size ++
    ", senders: " ++ Text.quoteAll g.depot.senders.platforms ++
    ", pool: " ++ g.pool.summary ++ ", .. \x7d"

end Gateway

end Courier
