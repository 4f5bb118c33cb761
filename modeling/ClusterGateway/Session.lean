/-!
# Partition sessions

A session is a bounded channel of acknowledged offsets with one receiver and any number
of senders, each of which is a task. It remembers every offset it has ever accepted; those
not yet taken by the receiver are its buffer. A sender that finds no room waits in line.
Room that becomes free is granted to the first in line, who fills it when it runs next.
Once the receiver is gone the session is closed for good and every sender fails.
-/

namespace ClusterGateway

/-- Number of a task. -/
abbrev TaskId := Nat

/-- Number of a session among those of one cluster. -/
abbrev SessionId := Nat

/-- An offset with the task that sent it, if a task did. -/
structure Acknowledged where
  sender : Option TaskId
  offset : Int64
deriving Repr, DecidableEq

/-- A bounded channel of acknowledged offsets. -/
structure Session where
  capacity : Nat
  /-- Everything ever accepted, the oldest first. -/
  accepted : List Acknowledged
  /-- How many of the accepted offsets the receiver has taken. -/
  taken : Nat
  /-- Senders in line for room, the first in line first. -/
  waiting : List TaskId
  /-- Senders that have been granted room and have not filled it yet. -/
  granted : List TaskId
  closed : Bool
deriving Repr

/-- Answer to an attempt to send. -/
inductive SendAttempt where
  | accepted
  | full
  | closed
deriving Repr, DecidableEq

namespace Session

/-- An open session without offsets. -/
def new (capacity : Nat) : Session := ⟨capacity, [], 0, [], [], false⟩

/-- The offsets that the receiver has not taken yet. -/
def buffer (session : Session) : List Acknowledged := session.accepted.drop session.taken

/-- Places that are neither filled nor granted. -/
def room (session : Session) : Nat :=
  session.capacity - session.buffer.length - session.granted.length

/-- How an attempt to send without waiting ends. -/
def attempt (session : Session) : SendAttempt :=
  if session.closed then .closed
  else if session.room = 0 then .full
  else .accepted

/-- The session after it has accepted an offset. -/
def accept (session : Session) (item : Acknowledged) : Session :=
  { session with accepted := session.accepted ++ [item] }

/-- An attempt to send without waiting. -/
def offer (session : Session) (item : Acknowledged) : Session × SendAttempt :=
  match session.attempt with
  | .accepted => (session.accept item, .accepted)
  | outcome => (session, outcome)

/-- The session with one more sender in line. -/
def await (session : Session) (sender : TaskId) : Session :=
  { session with waiting := session.waiting ++ [sender] }

/-- Grants free room to those in line, and names them. -/
def grant (session : Session) : Session × List TaskId :=
  let served := session.waiting.take session.room
  ({ session with
      waiting := session.waiting.drop session.room
      granted := session.granted ++ served }, served)

/-- The session after a sender has filled the room it was granted. -/
def fill (session : Session) (sender : TaskId) (offset : Int64) : Session :=
  { session with granted := session.granted.erase sender }.accept ⟨some sender, offset⟩

/-- A sender gives up: it leaves the line, or its room goes to the next in line. -/
def withdraw (session : Session) (sender : TaskId) : Session × List TaskId :=
  { session with
    waiting := session.waiting.erase sender
    granted := session.granted.erase sender }.grant

/-- The receiver takes up to `limit` offsets; those who are granted room by it are named. -/
def take (session : Session) (limit : Nat) : List Int64 × Session × List TaskId :=
  let items := session.buffer.take limit
  let (after, served) := { session with taken := session.taken + items.length }.grant
  (items.map (·.offset), after, served)

/-- The receiver takes all offsets. -/
def takeAll (session : Session) : List Int64 × Session × List TaskId :=
  session.take session.buffer.length

/-- The receiver goes away; all who wait are named. -/
def close (session : Session) : Session × List TaskId :=
  ({ session with closed := true, waiting := [], granted := [] }, session.waiting)

/-- Room is accepted into as long as it lasts: an offer never overfills the buffer. -/
theorem length_buffer_offer_le (session : Session) (item : Acknowledged)
    (fits : session.buffer.length ≤ session.capacity) :
    (session.offer item).1.buffer.length ≤ session.capacity := by
  unfold offer
  split
  · rename_i outcome
    simp only [attempt, room] at outcome
    simp only [accept, buffer, List.length_drop, List.length_append, List.length_singleton]
    simp only [buffer, List.length_drop] at outcome fits
    split at outcome
    · simp at outcome
    · split at outcome
      · simp at outcome
      · omega
  · exact fits

/-- What the receiver takes is the front of the buffer. -/
theorem take_offsets (session : Session) (limit : Nat) :
    (session.take limit).1 = (session.buffer.take limit).map (·.offset) := rfl

end Session

end ClusterGateway
