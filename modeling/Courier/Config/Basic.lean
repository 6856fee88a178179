import Courier.Config.Resilience
import Courier.Pool.Settings
import Courier.Routing
import Courier.Toml.Document

/-!
# Configuration

The configuration is a TOML document of sections, each of which may be missing. It is read, decoded and
checked; `load` does all three, and `ConfigError` says which of them failed.
-/

set_option autoImplicit false
set_option relaxedAutoImplicit false

namespace Courier

/-- How notifications are published in batches. -/
structure BatchSettings where
  chunkSize : Nat := 100
  /-- The pause between two chunks. -/
  pause : Duration := .zero

namespace BatchSettings

/-- What is wrong with the settings, if anything. -/
def invalid? (s : BatchSettings) : Option String :=
  if s.chunkSize < 1 then some "chunk_size must be >= 1" else none

/-- The form of the section. -/
def form : Decode.Form BatchSettings where
  title := "a batch section"
  blank := {}
  fields :=
    [Decode.field "chunk_size" .defaulted Decode.size fun s n => { s with chunkSize := n },
     Decode.field "inter_chunk_delay_ms" .defaulted Decode.natural64
       fun s n => { s with pause := .ofMillis n }]

end BatchSettings

/-- How rate limits of providers are heeded. -/
structure AdaptiveSettings where
  enabled : Bool := true
  defaultCooldown : Duration := .ofSecs 30

namespace AdaptiveSettings

/-- What is wrong with the settings, if anything. -/
def invalid? (s : AdaptiveSettings) : Option String :=
  if s.enabled ∧ s.defaultCooldown.isZero then some "default_cooldown_seconds must be >= 1"
  else none

/-- The form of the section. -/
def form : Decode.Form AdaptiveSettings where
  title := "an adaptive section"
  blank := {}
  fields :=
    [Decode.field "enabled" .defaulted Decode.bool fun s b => { s with enabled := b },
     Decode.field "default_cooldown_seconds" .defaulted Decode.natural64
       fun s n => { s with defaultCooldown := .ofSecs n }]

end AdaptiveSettings

/-- The form of the dead letter section: whether abandoned entries may be replayed. -/
def deadLetterForm : Decode.Form Bool where
  title := "a dead letter section"
  blank := false
  fields := [Decode.field "allow_reprocess_abandoned" .defaulted Decode.bool fun _ b => b]

/-- The configuration. -/
structure Config where
  pool : PoolSettings := {}
  batch : BatchSettings := {}
  resilience : ResilienceSection := {}
  adaptive : AdaptiveSettings := {}
  /-- Abandoned dead letters may be replayed. -/
  allowAbandoned : Bool := false
  routing : RoutingTable := {}

/-- Why there is no configuration. -/
inductive ConfigError where
  /-- The text is not a document. -/
  | malformed
  /-- The document does not say what is expected. -/
  | mismatch (fault : Decode.Fault)
  | invalid (complaint : String)
  /-- There is no file. -/
  | noFile
  deriving DecidableEq, Repr

namespace Config

/-- What is wrong with the configuration, if anything: the first complaint, under the name of its
section. -/
def invalid? (c : Config) : Option String :=
  GateSettings.about "pool" c.pool.invalid? <|>
  GateSettings.about "batch" c.batch.invalid? <|>
  GateSettings.about "resilience" c.resilience.invalid? <|>
  GateSettings.about "adaptive" c.adaptive.invalid?

/-- The form of a configuration. -/
def form : Decode.Form Config where
  title := "a configuration"
  blank := {}
  fields :=
    [Decode.field "pool" .defaulted PoolSettings.decode fun c p => { c with pool := p },
     Decode.field "batch" .defaulted (Decode.record BatchSettings.form)
       fun c b => { c with batch := b },
     Decode.field "resilience" .defaulted (Decode.record ResilienceSection.form)
       fun c r => { c with resilience := r },
     Decode.field "adaptive" .defaulted (Decode.record AdaptiveSettings.form)
       fun c a => { c with adaptive := a },
     Decode.field "dead_letter" .defaulted (Decode.record deadLetterForm)
       fun c b => { c with allowAbandoned := b },
     Decode.field "routing" .defaulted RoutingTable.decode fun c r => { c with routing := r }]

/-- The configuration that a document says. -/
def parse (text : String) : Except ConfigError Config :=
  match Toml.ofText? text with
  | none => .error .malformed
  | some draft =>
    match Decode.record form .toml draft with
    | .ok c => .ok c
    | .error fault => .error (.mismatch fault)

/-- The configuration, if nothing is wrong with it. -/
def validate (c : Config) : Except ConfigError Config :=
  match c.invalid? with
  | some complaint => .error (.invalid complaint)
  | none => .ok c

/-- The configuration that a document says, checked. -/
def load (text : String) : Except ConfigError Config :=
  match parse text with
  | .error reason => .error reason
  | .ok c => c.validate

end Config

/-- The wording of an error; of a document that cannot be used it is the part that says why. -/
def ConfigError.message : ConfigError → String
  | malformed => "the text is not a document"
  | mismatch fault => fault.message
  | invalid complaint => "configuration error: " ++ complaint
  | noFile => "configuration read error: No such file or directory (os error 2)"

end Courier
