import ClusterGateway.Broker.State
import Mathlib.Logic.Relation

/-!
# The teardown of one gateway

What matters for the order in which the components of a gateway stop: which of them it
still holds, the record of stops, and how far the stop tasks and the shutdowns of the
gateway have come. `Ledger` collects this, and `Ledger.Step` says what one of the tasks may
do to it between two of its waits.
-/

namespace ClusterGateway

/-- The stop of a component has begun. -/
def Begun (lines : List StopLine) (component : Component) : Prop :=
  ∃ line ∈ lines, line.component = component ∧ line.ended = false

/-- The stop of a component has returned. -/
def Over (lines : List StopLine) (component : Component) : Prop :=
  ∃ line ∈ lines, line.component = component ∧ line.ended = true

/-- The components whose stops have to be over before the stop of a component may begin. -/
def Component.awaited : Component → List Component
  | .offsets => Component.serving
  | .client => .offsets :: Component.serving
  | _ => []

/-- No stop has begun before those that it has to await were over. -/
def InOrder (lines : List StopLine) : Prop :=
  ∀ early line late, lines = early ++ line :: late → line.ended = false →
    ∀ component ∈ line.component.awaited, Over early component

/-- No stop has begun before those that it has to await had begun, whether or not they were over. -/
def BegunInOrder (lines : List StopLine) : Prop :=
  ∀ early line late, lines = early ++ line :: late → line.ended = false →
    ∀ component ∈ line.component.awaited, Begun early component

/-- The stop of a serving component awaits no other. -/
theorem Component.awaited_of_serving {component : Component}
    (serving : component ∈ Component.serving) : component.awaited = [] := by
  revert serving
  cases component <;> decide

/-- One more line begins the stop of a component or leaves all as it was. -/
theorem begun_append_singleton {lines : List StopLine} {line : StopLine} {component : Component} :
    Begun (lines ++ [line]) component ↔
      Begun lines component ∨ line.component = component ∧ line.ended = false := by
  simp only [Begun, List.mem_append, List.mem_singleton, or_and_right, exists_or, exists_eq_left]

/-- One more line ends the stop of a component or leaves all as it was. -/
theorem over_append_singleton {lines : List StopLine} {line : StopLine} {component : Component} :
    Over (lines ++ [line]) component ↔
      Over lines component ∨ line.component = component ∧ line.ended = true := by
  simp only [Over, List.mem_append, List.mem_singleton, or_and_right, exists_or, exists_eq_left]

/-- What holds at each place of a record, and at its end, holds at each place of the record with
one more line. -/
theorem forall_place_append_singleton {P : List StopLine → StopLine → Prop}
    {lines : List StopLine} {last : StopLine}
    (places : ∀ early line late, lines = early ++ line :: late → P early line)
    (at_end : P lines last) :
    ∀ early line late, lines ++ [last] = early ++ line :: late → P early line := by
  intro early line late split
  rcases List.eq_nil_or_concat late with rfl | ⟨shorter, other, rfl⟩
  · obtain ⟨rfl, same⟩ := List.append_inj' split rfl
    obtain rfl := (List.cons.inj same).1
    exact at_end
  · rw [List.concat_eq_append, ← List.cons_append, ← List.append_assoc] at split
    obtain ⟨rfl, -⟩ := List.append_inj' split rfl
    exact places early line shorter rfl

/-- An empty record is in order. -/
theorem inOrder_nil : InOrder [] := by
  intro early line late split
  simp at split

/-- In an empty record nothing has begun out of order. -/
theorem begunInOrder_nil : BegunInOrder [] := by
  intro early line late split
  simp at split

/-- A record stays in order if the stop that begins next has awaited the others. -/
theorem InOrder.append_singleton {lines : List StopLine} {line : StopLine} (order : InOrder lines)
    (awaits : line.ended = false → ∀ component ∈ line.component.awaited, Over lines component) :
    InOrder (lines ++ [line]) :=
  forall_place_append_singleton (P := fun early line => line.ended = false →
    ∀ component ∈ line.component.awaited, Over early component) order awaits

/-- Stops still begin in order if those that the next one awaits have begun. -/
theorem BegunInOrder.append_singleton {lines : List StopLine} {line : StopLine}
    (order : BegunInOrder lines)
    (awaits : line.ended = false → ∀ component ∈ line.component.awaited, Begun lines component) :
    BegunInOrder (lines ++ [line]) :=
  forall_place_append_singleton (P := fun early line => line.ended = false →
    ∀ component ∈ line.component.awaited, Begun early component) order awaits

/-- When a stop has begun in order, those that it awaits are over. -/
theorem InOrder.settled {lines : List StopLine} {component earlier : Component}
    (order : InOrder lines) (begun : Begun lines component)
    (awaited : earlier ∈ component.awaited) : Over lines earlier := by
  obtain ⟨line, there, rfl, ended⟩ := begun
  obtain ⟨early, late, rfl⟩ := List.append_of_mem there
  obtain ⟨end_, before, same, settled⟩ := order early line late rfl ended earlier awaited
  exact ⟨end_, List.mem_append_left _ before, same, settled⟩

/-- How far a task that stops a serving component has come. -/
inductive StopProgress where
  | fresh
  | running
  | settled
deriving DecidableEq

/-- A task that stops a serving component, on behalf of a shutdown. -/
structure StopEntry where
  component : Component
  owner : TaskId
  progress : StopProgress

/-- How far the shutdown of a gateway has come. -/
inductive Progress where
  | opening
  /-- Waits for the tasks that stop the serving components. -/
  | joining (stops : List TaskId)
  /-- The offset manager or the client is next, if it is still there. -/
  | turn (component : Component)
  /-- Waits for the offset manager or the client to stop. -/
  | stopping (component : Component)
  | finished
  /-- Will never go on. -/
  | dropped
deriving DecidableEq

namespace Progress

/-- What a shutdown does when it is done with the offset manager, or with the client. -/
def after : Component → Progress
  | .offsets => turn .client
  | _ => finished

/-- The components that a shutdown takes to be stopped. -/
def passed : Progress → List Component
  | turn component => component.awaited
  | stopping component => component.awaited
  | finished => Component.all
  | _ => []

/-- The components whose stops have begun by the time a shutdown has come so far. -/
def reached : Progress → List Component
  | turn component => component.awaited
  | stopping component => component :: component.awaited
  | finished => Component.all
  | _ => []

/-- A shutdown has begun and is not over. -/
def Goes : Progress → Prop
  | joining _ => True
  | turn _ => True
  | stopping _ => True
  | _ => False

end Progress

/-- What the teardown of one gateway has come to. -/
@[ext]
structure Ledger where
  holds : Component → Bool
  lines : List StopLine
  /-- The tasks that stop serving components of the gateway. -/
  stops : TaskId → Option StopEntry
  /-- The tasks that shut the gateway down. -/
  shutdowns : TaskId → Option Progress

namespace Ledger

/-- A shutdown has come to a place. -/
def put (ledger : Ledger) (task : TaskId) (progress : Progress) : Ledger :=
  { ledger with
    shutdowns := fun other => if other = task then some progress else ledger.shutdowns other }

/-- A stop task has come to a place. -/
def putStop (ledger : Ledger) (task : TaskId) (entry : StopEntry) : Ledger :=
  { ledger with
    stops := fun other => if other = task then some entry else ledger.stops other }

/-- A component is taken away, and its stop begins. -/
def take (ledger : Ledger) (time : Nat) (component : Component) : Ledger :=
  { ledger with
    holds := fun other => other != component && ledger.holds other
    lines := ledger.lines ++ [⟨time, component, false⟩] }

/-- The stop of a component returns. -/
def give (ledger : Ledger) (time : Nat) (component : Component) : Ledger :=
  { ledger with lines := ledger.lines ++ [⟨time, component, true⟩] }

/-- What a task may do to the teardown of a gateway. -/
inductive Step (me : TaskId) : Ledger → Ledger → Prop
  /-- A shutdown starts tasks that stop the serving components. -/
  | open {ledger : Ledger} {tasks : List TaskId} {stops : TaskId → Option StopEntry}
    (fresh : ledger.shutdowns me = some .opening)
    (old : ∀ task entry, ledger.stops task = some entry → stops task = some entry)
    (new : ∀ task entry, ledger.stops task = none → stops task = some entry →
      ledger.shutdowns task = none ∧ task ∈ tasks ∧ entry.component ∈ Component.serving ∧
        entry.owner = me ∧ entry.progress = .fresh)
    (all : ∀ component ∈ Component.serving, ∃ task ∈ tasks,
      stops task = some ⟨component, me, .fresh⟩) :
    Step me ledger ({ ledger with stops := stops }.put me (.joining tasks))
  /-- A stop task finds its component gone. -/
  | idle {ledger : Ledger} {component : Component} {owner : TaskId}
    (fresh : ledger.stops me = some ⟨component, owner, .fresh⟩)
    (gone : ledger.holds component = false) :
    Step me ledger (ledger.putStop me ⟨component, owner, .settled⟩)
  | begin {ledger : Ledger} {component : Component} {owner : TaskId} (time : Nat)
    (fresh : ledger.stops me = some ⟨component, owner, .fresh⟩)
    (holds : ledger.holds component = true) :
    Step me ledger ((ledger.take time component).putStop me ⟨component, owner, .running⟩)
  | end {ledger : Ledger} {component : Component} {owner : TaskId} (time : Nat)
    (running : ledger.stops me = some ⟨component, owner, .running⟩) :
    Step me ledger ((ledger.give time component).putStop me ⟨component, owner, .settled⟩)
  /-- The tasks that a shutdown waits for are over. -/
  | join {ledger : Ledger} {tasks : List TaskId}
    (joining : ledger.shutdowns me = some (.joining tasks))
    (settled : ∀ task ∈ tasks, ∀ entry, ledger.stops task = some entry →
      entry.progress = .settled) :
    Step me ledger (ledger.put me (.turn .offsets))
  /-- A shutdown finds the component gone whose turn it is. -/
  | skip {ledger : Ledger} {component : Component}
    (turn : ledger.shutdowns me = some (.turn component))
    (gone : ledger.holds component = false) : Step me ledger (ledger.put me (.after component))
  | close {ledger : Ledger} {component : Component} (time : Nat)
    (turn : ledger.shutdowns me = some (.turn component))
    (holds : ledger.holds component = true) :
    Step me ledger ((ledger.take time component).put me (.stopping component))
  | closed {ledger : Ledger} {component : Component} (time : Nat)
    (stopping : ledger.shutdowns me = some (.stopping component)) :
    Step me ledger ((ledger.give time component).put me (.after component))

/-- What a task may do to the teardown of a gateway where stops may break down. -/
inductive Stride (breaks : Prop) (me : TaskId) : Ledger → Ledger → Prop
  | step {before after : Ledger} (step : Step me before after) : Stride breaks me before after
  /-- A shutdown breaks down, at this gateway or at another. -/
  | fall {ledger : Ledger} {progress : Progress} (broken : breaks)
    (there : ledger.shutdowns me = some progress) : Stride breaks me ledger (ledger.put me .dropped)
  /-- The stop of a serving component breaks down. -/
  | fail {ledger : Ledger} {component : Component} {owner : TaskId} (broken : breaks)
    (running : ledger.stops me = some ⟨component, owner, .running⟩) :
    Stride breaks me ledger (ledger.putStop me ⟨component, owner, .settled⟩)

/-- What happens to the teardown of a gateway in one move: a shutdown is called or
cancelled, or a task goes on for some steps. -/
inductive Change : Ledger → Ledger → Prop
  | call {ledger : Ledger} {task : TaskId} (new : ledger.shutdowns task = none)
    (other : ledger.stops task = none) : Change ledger (ledger.put task .opening)
  | drop {ledger : Ledger} {task : TaskId} {progress : Progress}
    (there : ledger.shutdowns task = some progress) : Change ledger (ledger.put task .dropped)
  | steps {before after : Ledger} (me : TaskId)
    (steps : Relation.ReflTransGen (Step me) before after) : Change before after

end Ledger

end ClusterGateway
