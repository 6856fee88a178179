import Courier.Gateway.Task

/-!
# Rehearsing the service

A gateway with scripted senders runs on a clock of its own. After each step the sends since the last one
can be taken, and dead letters that came up get the next numbers, in the order in which they were
made, and names by their numbers.
-/

set_option autoImplicit false
set_option relaxedAutoImplicit false

namespace Courier.Rehearsal

/-- A rehearsal of a gateway. -/
structure Service where
  run : Run Gateway Gateway.Task
  /-- The platforms whose sends are taken, with the number of sends that were. -/
  taken : List (String × Nat) := []
  /-- The dead letters by their numbers. -/
  letters : List EntryId := []

namespace Service

/-- The gateway. -/
def gateway (s : Service) : Gateway := s.run.world

/-- The depot of the gateway. -/
def depot (s : Service) : Depot := s.gateway.depot

/-- Works on the gateway. -/
def onGateway (s : Service) (work : Gateway → Gateway) : Service :=
  { s with run := { s.run with world := work s.run.world } }

/-- Works on the depot. -/
def onDepot (s : Service) (work : Depot → Depot) : Service :=
  s.onGateway fun g => (g.onDepot fun d => ((), work d)).2

/-- Works on the gates. -/
def onGates (s : Service) (gates : GateRegistry) : Service := s.onDepot fun d => { d with gates }

/-- A rehearsal of gates alone: the depot around them has no formatters and no routes, and one
scripted sender. -/
def ofGates (gates : GateRegistry) (platform : String) (plan : Nat → Plan) :
    Except BuildError Service :=
  match (Gateway.build { senders := [(platform, { plan })], observed := true }).1 with
  | .error reason => .error reason
  | .ok g => .ok (({ run := { world := g }, taken := [(platform, 0)] } : Service).onGates gates)

/-- Awaits tasks that start now; each may have a time limit. -/
def await (s : Service) (tasks : List Gateway.Task) (limit : Option Duration) :
    List (Awaited Gateway.Task) × Service :=
  let limit := limit.map fun d => s.depot.clock.now + d.nanos
  let (ended, run) := Schedule.await Gateway.machine s.run (tasks.map fun t => (t, limit))
  (ended, { s with run })

/-- Awaits the same task several times, one after the other. -/
def awaitTimes (task : Gateway.Task) (limit : Option Duration) :
    Nat → Service → List (Awaited Gateway.Task) × Service
  | 0, s => ([], s)
  | times + 1, s =>
    let (ended, s) := s.await [task] limit
    let (rest, s) := awaitTimes task limit times s
    (ended ++ rest, s)

/-- Publishes a batch. It is cancelled, or the pool is shut down, after some time if that is said. -/
def publishAll (s : Service) (options : BatchSettings) (notifications : List Notification)
    (cancelled : Bool) (cancelAfter shutdownAfter : Option Duration) :
    List (Awaited Gateway.Task) × Service :=
  let s := s.onGateway fun g => { g with batchCancelled := cancelled }
  let later (time : Option Duration) (task : Nat → Gateway.Task) : List Gateway.Task :=
    (time.map fun d => task (s.depot.clock.now + d.nanos)).toList
  s.await
    (.batch (.new options notifications) ::
      (later cancelAfter .cancelBatchAt ++ later shutdownAfter .shutdownAt)) none

/-- Lets all tasks move at this instant. -/
def settle (s : Service) : Service := { s with run := Schedule.rest Gateway.machine s.run }

/-- Lets time pass. -/
def advance (s : Service) (time : Duration) : Service :=
  { s with run := Schedule.advance Gateway.machine s.run time }

/-- Lets time pass on the clock of the rate limits. -/
def sleepWall (s : Service) (time : Duration) : Service :=
  s.onDepot fun d => { d with clock := d.clock.sleepWall time }

/-- The sender of a platform follows another plan from its beginning. -/
def follow (s : Service) (platform : String) (plan : Nat → Plan) : Service :=
  s.onDepot fun d =>
    match d.senders.get? platform with
    | some sender => { d with senders := d.senders.set platform (sender.follow plan) }
    | none => d

/-- Says which of the next calls of the store fail. -/
def setFaults (s : Service) (faults : Faults) : Service :=
  s.onDepot fun d => { d with letters := { d.letters with faults } }

/-- The sends since the last time, each with its platform, and the rehearsal after they were taken. -/
def takeSends (s : Service) : List (String × Sent) × Service :=
  let sentBy (platform : String) : List Sent :=
    ((s.depot.senders.get? platform).map Sender.sent).getD []
  let fresh := s.taken.flatMap fun (platform, count) =>
    let sent := sentBy platform
    (sent.take (sent.length - count)).map fun e => (platform, e)
  (fresh, { s with taken := s.taken.map fun e => (e.1, (sentBy e.1).length) })

/-- Gives the dead letters that came up their numbers. -/
def numberLetters (s : Service) : Service :=
  let fresh := s.depot.letters.entries.filter fun e => e.id ∉ s.letters
  { s with letters := s.letters ++ (fresh.mergeSort DeadLetter.comesBefore).map DeadLetter.id }

/-- The name of a dead letter by its number. -/
def label (number : Nat) : String := "dl-" ++ toString (number + 1)

/-- The dead letter that a text names: by its number or by its identifier. -/
def letterOf (s : Service) (text : String) : EntryId :=
  match s.letters.zipIdx.find? fun l => label l.2 = text with
  | some (id, _) => id
  | none => (EntryId.ofText? text).getD .nil

/-- A text with the names of dead letters in the place of their identifiers. -/
def relabel (s : Service) (text : String) : String :=
  if text.length < 36 then text
  else s.letters.zipIdx.foldl (fun text l => text.replace l.1.text (label l.2)) text

end Service

end Courier.Rehearsal
