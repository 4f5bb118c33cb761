import ClusterGateway.Routing
import ClusterGateway.Session

/-!
# Routing by hand

A switchboard is a routing table whose sessions have names, used without tasks: sessions
are opened, routed to, offered offsets and read one step at a time, and nothing ever
waits. A name stands for the session that was last opened under it; opening it anew
closes the one before. A session without room cannot be opened, and steps that try to
tell nothing at all.
-/

namespace ClusterGateway

/-- A routing table with named sessions; a session is numbered by its place. -/
structure Switchboard where
  sessions : List (String × Session) := []
  table : RoutingTable SessionId := .empty
deriving Repr

/-- A step at the switchboard. -/
inductive Switchboard.Step where
  | openSession (name : String) (capacity : Nat)
  | insert (name : String) (key : RoutingKey)
  | get (key : RoutingKey)
  | send (key : RoutingKey) (offset : Int64)
  | read (name : String)
  | close (name : String)
  | size
deriving Repr

/-- What a step at the switchboard tells. -/
inductive Switchboard.Report where
  | nothing
  | size (count : Nat)
  /-- The name of a session, and whether it is closed. -/
  | route (found : Option (String × Bool))
  /-- How the offer of an offset ended, if there was a session for it. -/
  | sent (attempt : Option SendAttempt)
  /-- The offsets of an open session. -/
  | offsets (taken : Option (List Int64))
deriving Repr

namespace Switchboard

/-- Number of the session that a name stands for. -/
def number? (board : Switchboard) (name : String) : Option SessionId :=
  (board.sessions.zipIdx.reverse.find? fun entry => entry.1.1 == name).map (·.2)

/-- The session that a name stands for. -/
def session? (board : Switchboard) (name : String) : Option Session :=
  ((board.number? name).bind fun number => board.sessions[number]?).map (·.2)

/-- Changes one session. -/
def onSession (board : Switchboard) (number : SessionId) (change : Session → Session) :
    Switchboard :=
  { board with sessions := board.sessions.modify number fun (name, found) => (name, change found) }

/-- Closes the session that a name stands for. -/
def close (board : Switchboard) (name : String) : Switchboard :=
  match board.number? name with
  | none => board
  | some number => board.onSession number fun found => found.close.1

/-- The text shown when a session without room was to be opened. -/
def noRoomMessage : String := "mpsc bounded channel requires buffer > 0"

/-- A step tries to open a session without room. -/
def Step.lacksRoom : Step → Bool
  | .openSession _ capacity => capacity == 0
  | _ => false

/-- Opens a session under a name. -/
def openSession (board : Switchboard) (name : String) (capacity : Nat) : Switchboard :=
  let freed := board.close name
  { freed with sessions := freed.sessions ++ [(name, .new capacity)] }

/-- Routes a key to the session that a name stands for. -/
def insert (board : Switchboard) (name : String) (key : RoutingKey) : Switchboard :=
  match board.number? name with
  | none => board
  | some number => { board with table := board.table.insert key number }

/-- The name of the session of a key, and whether it is closed. -/
def route? (board : Switchboard) (key : RoutingKey) : Option (String × Bool) :=
  ((board.table.get? key).bind fun number => board.sessions[number]?).map
    fun (name, found) => (name, found.closed)

/-- Offers an offset to the session of a key. -/
def send (board : Switchboard) (key : RoutingKey) (offset : Int64) :
    Switchboard × Option SendAttempt :=
  match board.table.get? key with
  | none => (board, none)
  | some number =>
    match board.sessions[number]? with
    | none => (board, none)
    | some (_, found) =>
      (board.onSession number fun found => (found.offer ⟨none, offset⟩).1,
        some (found.offer ⟨none, offset⟩).2)

/-- Takes all offsets of the session that a name stands for, unless it is closed. -/
def read (board : Switchboard) (name : String) : Switchboard × Option (List Int64) :=
  match board.number? name, board.session? name with
  | some number, some found =>
    if found.closed then (board, none)
    else (board.onSession number fun found => found.takeAll.2.1, some found.takeAll.1)
  | _, _ => (board, none)

/-- Takes a step. -/
def step (board : Switchboard) : Switchboard.Step → Switchboard × Switchboard.Report
  | .openSession name capacity => (board.openSession name capacity, .nothing)
  | .insert name key =>
    let board := board.insert name key
    (board, .size board.table.size)
  | .get key => (board, .route (board.route? key))
  | .send key offset =>
    let (board, attempt) := board.send key offset
    (board, .sent attempt)
  | .read name =>
    let (board, taken) := board.read name
    (board, .offsets taken)
  | .close name => (board.close name, .nothing)
  | .size => (board, .size board.table.size)

/-- Takes steps one after the other. -/
def runAll (board : Switchboard) : List Switchboard.Step → List Switchboard.Report
  | [] => []
  | next :: rest =>
    let (board, report) := board.step next
    report :: board.runAll rest

/-- What the steps tell, unless one of them tries to open a session without room. -/
def run? (board : Switchboard) (steps : List Switchboard.Step) :
    Option (List Switchboard.Report) :=
  if steps.any Step.lacksRoom then none else some (board.runAll steps)

end Switchboard

end ClusterGateway
