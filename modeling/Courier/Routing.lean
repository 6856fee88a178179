import Courier.Decode.Record
import Courier.Delivery.Target
import Courier.Text.Blank

/-!
# Routing

A routing table says where notifications go: by type, by category, or by default. These are three
tiers, and the first in which anything is usable wins. A route is usable if it is enabled and has an
address: its own, if that is not blank, or the one that the table of endpoints has for it.
-/

set_option autoImplicit false
set_option relaxedAutoImplicit false

namespace Courier

/-- A route to an endpoint. -/
structure Route where
  platform : String
  endpoint : String
  url : Option String := none
  enabled : Bool := true
  deriving DecidableEq, Repr

namespace Route

/-- The record of a route. -/
def toJson (r : Route) : Json :=
  .ofMembers
    [("platform", .string r.platform), ("endpoint_key", .string r.endpoint),
     ("url", .ofOption .string r.url), ("enabled", .bool r.enabled)]

/-- The form of a route's record. -/
def form : Decode.Form Route where
  title := "a route"
  blank := { platform := "", endpoint := "" }
  fields :=
    [Decode.field "platform" .required Decode.string fun r s => { r with platform := s },
     Decode.field "endpoint_key" .required Decode.string fun r s => { r with endpoint := s },
     Decode.field "url" .defaulted (Decode.optional Decode.string) fun r s => { r with url := s },
     Decode.field "enabled" .defaulted Decode.bool fun r b => { r with enabled := b }]

end Route

/-- A routing table. Its tables are in the order of their keys. -/
structure RoutingTable where
  /-- The address of each endpoint of each platform. -/
  endpoints : List (String × List (String × String)) := []
  types : List (String × List Route) := []
  categories : List (String × List Route) := []
  fallback : List Route := []
  deriving DecidableEq, Repr

namespace RoutingTable

/-- The routes of a key; none if the key is not there. -/
def routesOf (key : String) (table : List (String × List Route)) : List Route :=
  (Json.lookup key table).getD []

/-- The address that the table has for an endpoint. -/
def endpointUrl? (t : RoutingTable) (platform endpoint : String) : Option String :=
  (Json.lookup platform t.endpoints).bind (Json.lookup endpoint)

/-- Sets the address of an endpoint. -/
def withEndpoint (t : RoutingTable) (platform endpoint url : String) : RoutingTable :=
  let known := (Json.lookup platform t.endpoints).getD []
  { t with
    endpoints := Json.insertMember platform (Json.insertMember endpoint url known) t.endpoints }

/-- Adds a route for a type. -/
def withTypeRoute (t : RoutingTable) (typeId : String) (r : Route) : RoutingTable :=
  { t with types := Json.insertMember typeId (routesOf typeId t.types ++ [r]) t.types }

/-- Adds a route for a category. -/
def withCategoryRoute (t : RoutingTable) (category : String) (r : Route) : RoutingTable :=
  { t with
    categories := Json.insertMember category (routesOf category t.categories ++ [r]) t.categories }

/-- Adds a default route. -/
def withDefaultRoute (t : RoutingTable) (r : Route) : RoutingTable :=
  { t with fallback := t.fallback ++ [r] }

/-- The address of a route: its own, or else that of its endpoint. -/
def address? (t : RoutingTable) (r : Route) : Option String :=
  (r.url.filter fun url => !Text.isBlank url) <|> t.endpointUrl? r.platform r.endpoint

/-- The target of a route that can be used. -/
def target? (t : RoutingTable) (r : Route) : Option Target :=
  if r.enabled then (t.address? r).map fun url => ⟨r.platform, r.endpoint, url⟩ else none

/-- The routes of a notification in the order of the tiers. -/
def tiers (t : RoutingTable) (typeId category : String) : List (List Route) :=
  [routesOf typeId t.types, routesOf category t.categories, t.fallback]

/-- The targets of a notification: those of the first tier that has any. -/
def resolve (t : RoutingTable) (typeId category : String) : List Target :=
  (((t.tiers typeId category).map (List.filterMap t.target?)).find? fun targets =>
    !targets.isEmpty).getD []

/-- A table of routes as an object. -/
def routesJson (table : List (String × List Route)) : Json :=
  .object (table.map fun e => (e.1, .array (e.2.map Route.toJson)))

/-- The record of a table. -/
def toJson (t : RoutingTable) : Json :=
  .ofMembers
    [("endpoints", .object (t.endpoints.map fun e =>
        (e.1, .object (e.2.map fun u => (u.1, .string u.2))))),
     ("types", routesJson t.types), ("categories", routesJson t.categories),
     ("default", .array (t.fallback.map Route.toJson))]

/-- The form of a table's record. -/
def form : Decode.Form RoutingTable where
  title := "a routing table"
  blank := {}
  fields :=
    let route := Decode.record Route.form
    [Decode.field "endpoints" .defaulted (Decode.table (Decode.table Decode.string))
       fun t e => { t with endpoints := e },
     Decode.field "types" .defaulted (Decode.table (Decode.list route))
       fun t r => { t with types := r },
     Decode.field "categories" .defaulted (Decode.table (Decode.list route))
       fun t r => { t with categories := r },
     Decode.field "default" .defaulted (Decode.list route) fun t r => { t with fallback := r }]

/-- A table from its record. -/
def decode : Decode.Decoder RoutingTable := Decode.record form

end RoutingTable

end Courier
