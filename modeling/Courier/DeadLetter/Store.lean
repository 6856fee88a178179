import Courier.DeadLetter.Entry

/-!
# Dead-letter stores

A store keeps dead letters under their identifiers and moves them from state to state: a move says in
which states the entry may be, and is refused if it is in another. Calls may also fail because
of the medium, and then change nothing. `Faults` says which of the next calls do.
-/

set_option autoImplicit false
set_option relaxedAutoImplicit false

namespace Courier

/-- Why a store turns a call down. -/
inductive StoreError where
  | notFound (id : EntryId)
  | invalidTransition (id : EntryId) (current target : DeadLetterStatus)
  | backend (reason : String)
  deriving DecidableEq, Repr

/-- The wording. -/
def StoreError.message : StoreError → String
  | notFound id => "dead letter entry not found: " ++ id.text
  | invalidTransition id current target =>
    "dead letter entry " ++ id.text ++ " is " ++ current.name ++ ", cannot move to " ++ target.name
  | backend reason => "dead letter backend error: " ++ reason

/-- Someone else moved the entry. -/
def StoreError.isRejected : StoreError → Bool
  | invalidTransition .. => true
  | _ => false

/-- There is no such entry. -/
def StoreError.isNotFound : StoreError → Bool
  | notFound _ => true
  | _ => false

/-- For each kind of call whether the next ones fail; all later ones succeed. -/
structure Faults where
  store : List Bool := []
  /-- Moves into processing. -/
  claim : List Bool := []
  /-- All other moves. -/
  settle : List Bool := []
  list : List Bool := []

/-- A store. -/
structure DeadLetterStore where
  /-- In the order in which the identifiers came up. -/
  entries : List DeadLetter := []
  faults : Faults := {}

namespace DeadLetterStore

/-- The entry of an identifier. -/
def get? (s : DeadLetterStore) (id : EntryId) : Option DeadLetter :=
  s.entries.find? fun e => e.id = id

/-- Puts an entry in the place of the one with its identifier, or at the end. -/
def put (e : DeadLetter) : List DeadLetter → List DeadLetter
  | [] => [e]
  | d :: rest => if d.id = e.id then e :: rest else d :: put e rest

/-- Whether the next call fails, and the calls after it. -/
def nextFault : List Bool → Bool × List Bool
  | [] => (false, [])
  | fails :: rest => (fails, rest)

/-- Stores an entry. -/
def store (s : DeadLetterStore) (e : DeadLetter) : Except StoreError EntryId × DeadLetterStore :=
  let (fails, rest) := nextFault s.faults.store
  let s := { s with faults := { s.faults with store := rest } }
  if fails then (.error (.backend "disk full"), s)
  else (.ok e.id, { s with entries := put e s.entries })

/-- Moves an entry, on a medium that works. -/
def move (s : DeadLetterStore) (id : EntryId) (sources : List DeadLetterStatus)
    (target : DeadLetterStatus) (now : Timestamp) :
    Except StoreError DeadLetter × DeadLetterStore :=
  match s.get? id with
  | none => (.error (.notFound id), s)
  | some e =>
    if e.status ∈ sources then
      let moved := { e with status := target, updatedAt := now }
      (.ok moved, { s with entries := put moved s.entries })
    else (.error (.invalidTransition id e.status target), s)

/-- Moves an entry from one of some states to another. -/
def transition (s : DeadLetterStore) (id : EntryId) (sources : List DeadLetterStatus)
    (target : DeadLetterStatus) (now : Timestamp) :
    Except StoreError DeadLetter × DeadLetterStore :=
  let claims := target = .processing
  let (fails, rest) := nextFault (if claims then s.faults.claim else s.faults.settle)
  let faults :=
    if claims then { s.faults with claim := rest } else { s.faults with settle := rest }
  let s := { s with faults }
  if fails then (.error (.backend "connection reset"), s) else s.move id sources target now

/-- The entries in a state, oldest first, on a medium that works. -/
def inStatus (s : DeadLetterStore) (status : DeadLetterStatus) : List DeadLetter :=
  (s.entries.filter fun e => e.status = status).mergeSort DeadLetter.comesBefore

/-- The entries in a state, oldest first. -/
def list (s : DeadLetterStore) (status : DeadLetterStatus) :
    Except StoreError (List DeadLetter) × DeadLetterStore :=
  let (fails, rest) := nextFault s.faults.list
  let s := { s with faults := { s.faults with list := rest } }
  if fails then (.error (.backend "list failed"), s) else (.ok (s.inStatus status), s)

/-- The number of entries in a state. -/
def count (s : DeadLetterStore) (status : DeadLetterStatus) : Nat :=
  s.entries.countP fun e => e.status = status

/-- The number of entries in each state. -/
def counts (s : DeadLetterStore) : List (DeadLetterStatus × Nat) :=
  DeadLetterStatus.all.map fun status => (status, s.count status)

/-- The number of entries. -/
def size (s : DeadLetterStore) : Nat := s.entries.length

end DeadLetterStore

end Courier
