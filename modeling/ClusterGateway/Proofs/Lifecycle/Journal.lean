import ClusterGateway.Proofs.Lifecycle.States

/-!
# The journal tells what the records hold

A lifecycle is shared by any number of callers, and a call runs from one wait to the next
without interruption. Setting a state never waits in between; marking a component as
failed waits once, after the error is noted, so that another caller can come in before
the state is set. Whatever the callers do, and wherever they have got to, the events of
each component form a chain that begins at starting, and replaying the journal gives
exactly the recorded states. Main statement: `journal_faithful`.
-/

namespace ClusterGateway

/-- What a caller asks of a lifecycle. -/
inductive LifecycleCall where
  | setState (name : String) (state : ComponentState)
  | markFailed (name error : String)
  | shutdownInitiated
  | shutdownCompleted (duration : Nat)
deriving Repr, DecidableEq

/-- What a call does from one wait to the next. -/
inductive LifecycleStep where
  | enter (name : String) (state : ComponentState)
  | blame (name error : String)
  | initiate
  | complete (duration : Nat)
deriving Repr, DecidableEq

namespace LifecycleCall

/-- The steps of a call, in their order. -/
def steps : LifecycleCall → List LifecycleStep
  | setState name state => [.enter name state]
  | markFailed name error => [.blame name error, .enter name .failed]
  | shutdownInitiated => [.initiate]
  | shutdownCompleted duration => [.complete duration]

/-- The call sets the state of a component. -/
def sets (name : String) : LifecycleCall → Bool
  | setState other _ => other == name
  | markFailed other _ => other == name
  | shutdownInitiated => false
  | shutdownCompleted _ => false

end LifecycleCall

/-- The state that a component enters in a step. -/
def LifecycleStep.entered? (name : String) : LifecycleStep → Option ComponentState
  | enter other state => if other = name then some state else none
  | blame _ _ => none
  | initiate => none
  | complete _ => none

namespace ComponentState

/-- Only a running component can work. -/
theorem canWork_iff (state : ComponentState) : state.canWork = true ↔ state = .running := by
  cases state <;> decide

/-- Only a stopped or failed component has ended. -/
theorem isTerminal_iff (state : ComponentState) :
    state.isTerminal = true ↔ state = .stopped ∨ state = .failed := by
  cases state <;> decide

end ComponentState

namespace Lifecycle

/-- One step of a call. -/
def step (lifecycle : Lifecycle) : LifecycleStep → Lifecycle
  | .enter name state => lifecycle.setState name state
  | .blame name error => lifecycle.blame name error
  | .initiate => lifecycle.notify .shutdownInitiated
  | .complete duration => lifecycle.notify (.shutdownCompleted duration)

/-- A whole call. -/
def call (lifecycle : Lifecycle) : LifecycleCall → Lifecycle
  | .setState name state => lifecycle.setState name state
  | .markFailed name error => lifecycle.markFailed name error
  | .shutdownInitiated => lifecycle.notify .shutdownInitiated
  | .shutdownCompleted duration => lifecycle.notify (.shutdownCompleted duration)

/-- A call that nobody interrupts takes all of its steps. -/
theorem call_eq (lifecycle : Lifecycle) (call : LifecycleCall) :
    lifecycle.call call = call.steps.foldl step lifecycle := by
  cases call <;> rfl

end Lifecycle

/-- Several callers follow programs of their own, one step at a time: the steps that were taken so
far, and what each of them has left. -/
inductive Interleaves {α : Type} (programs : List (List α)) : List α → List (List α) → Prop where
  | start : Interleaves programs [] programs
  | next {taken : List α} {left : List (List α)} {step : α} {rest : List α} (caller : Nat)
      (before : Interleaves programs taken left) (turn : left[caller]? = some (step :: rest)) :
      Interleaves programs (taken ++ [step]) (left.set caller rest)

/-- What one caller takes from its program is missing in what is left, and nothing else is. -/
theorem perm_flatten_set {α : Type} {left : List (List α)} {caller : Nat} {step : α}
    {rest : List α} (turn : left[caller]? = some (step :: rest)) :
    (step :: (left.set caller rest).flatten).Perm left.flatten := by
  induction left generalizing caller with
  | nil => simp at turn
  | cons first others ih =>
    cases caller with
    | zero =>
      obtain rfl : first = step :: rest := by simpa using turn
      exact .refl _
    | succ caller =>
      have later := ih (by simpa using turn)
      simp only [List.set_cons_succ, List.flatten_cons]
      exact (List.perm_middle.symm.trans (later.append_left first))

/-- The steps that were taken and those that are left are the steps of the programs. -/
theorem Interleaves.perm {α : Type} {programs left : List (List α)} {taken : List α}
    (runs : Interleaves programs taken left) :
    (taken ++ left.flatten).Perm programs.flatten := by
  induction runs with
  | start => exact .refl _
  | next caller before turn ih =>
    rw [List.append_assoc]
    exact ((perm_flatten_set turn).append_left _).trans ih

/-- The change that an event tells of, if it is one of the component. -/
def LifecycleEvent.change? (name : String) :
    LifecycleEvent → Option (ComponentState × ComponentState)
  | stateChanged component before after => if component = name then some (before, after) else none
  | shutdownInitiated => none
  | shutdownCompleted _ => none

/-- The changes of a component, in the order of the events. -/
def changes (name : String) (events : List LifecycleEvent) :
    List (ComponentState × ComponentState) :=
  events.filterMap (·.change? name)

/-- Changes that follow on each other: the first leaves a given state, and every later one leaves
the state that the one before has entered. -/
def Chained (start : ComponentState) : List (ComponentState × ComponentState) → Prop
  | [] => True
  | (before, after) :: rest => before = start ∧ Chained after rest

/-- The states as an event leaves them. -/
def LifecycleEvent.replayed (states : List (String × ComponentState)) :
    LifecycleEvent → List (String × ComponentState)
  | stateChanged component _ after => assign component after states
  | shutdownInitiated => states
  | shutdownCompleted _ => states

/-- The states that a listener has who follows all events. -/
def replay (events : List LifecycleEvent) : List (String × ComponentState) :=
  events.foldl LifecycleEvent.replayed []

/-- One more event is replayed last. -/
theorem replay_append_singleton (events : List LifecycleEvent) (event : LifecycleEvent) :
    replay (events ++ [event]) = event.replayed (replay events) := by
  simp [replay]

/-- A change of state is told of its own component, after its earlier changes. -/
theorem changes_append_stateChanged (name component : String) (events : List LifecycleEvent)
    (before after : ComponentState) :
    changes name (events ++ [.stateChanged component before after]) =
      if component = name then changes name events ++ [(before, after)]
      else changes name events := by
  unfold changes
  rw [List.filterMap_append]
  split <;> simp_all [LifecycleEvent.change?]

/-- The state that a chain of changes ends in. -/
def endpoint (start : ComponentState) (course : List (ComponentState × ComponentState)) :
    ComponentState :=
  (course.getLast?.map (·.2)).getD start

/-- A chain goes on from the state that it ends in. -/
theorem chained_append_singleton {start before after : ComponentState}
    {course : List (ComponentState × ComponentState)} (chained : Chained start course)
    (follows : before = endpoint start course) : Chained start (course ++ [(before, after)]) := by
  induction course generalizing start with
  | nil => exact ⟨follows, trivial⟩
  | cons first rest ih =>
    obtain ⟨left, entered⟩ := first
    refine ⟨chained.1, ih chained.2 ?_⟩
    rw [follows]
    cases rest <;> simp [endpoint, List.getLast?_cons]

namespace Lifecycle

/-- What the journal tells of the records, as every step keeps it. The last change of a component
has entered the state that is recorded, and its record knows whether it has run and has ended. -/
structure Told (lifecycle : Lifecycle) : Prop where
  chained : ∀ name, Chained .starting (changes name lifecycle.journal)
  replayed : replay lifecycle.journal = lifecycle.states
  latest : ∀ name,
    lifecycle.state? name = (changes name lifecycle.journal).getLast?.map (·.2)
  marked : ∀ name record, lifecycle.find? name = some record →
    record.hasRun = (changes name lifecycle.journal).any (·.2.canWork) ∧
      record.hasEnded = (changes name lifecycle.journal).any (·.2.isTerminal)

/-- The journal is faithful: the events of each component form a chain that begins at starting;
replaying all events gives the states of all components, and of each; a component without events
has no state; and it has an uptime if it was running once, and was stopped or has failed once. -/
structure Faithful (lifecycle : Lifecycle) : Prop where
  chained : ∀ name, Chained .starting (changes name lifecycle.journal)
  replayed : replay lifecycle.journal = lifecycle.states
  found : ∀ name, lifecycle.state? name = (replay lifecycle.journal).lookup name
  unknown : ∀ name, lifecycle.state? name = none ↔ changes name lifecycle.journal = []
  uptime : ∀ name, lifecycle.hasUptime name = true ↔
    (∃ before, (before, .running) ∈ changes name lifecycle.journal) ∧
      ∃ before after, (before, after) ∈ changes name lifecycle.journal ∧
        (after = .stopped ∨ after = .failed)

variable {lifecycle : Lifecycle}

/-- A lifecycle without events is told. -/
theorem told_new (owner : String) : (new owner).Told where
  chained _ := trivial
  replayed := rfl
  latest _ := rfl
  marked _ _ found := by simp [new, find?] at found

/-- Setting a state is told. -/
theorem Told.setState (told : lifecycle.Told) (name : String) (state : ComponentState) :
    (lifecycle.setState name state).Told where
  chained other := by
    rw [journal_setState_from, changes_append_stateChanged]
    split
    · rename_i same
      subst same
      refine chained_append_singleton (told.chained _) ?_
      rw [told.latest, endpoint]
    · exact told.chained other
  replayed := by
    rw [journal_setState_from, replay_append_singleton, told.replayed, states_setState]
    rfl
  latest other := by
    rw [journal_setState_from, changes_append_stateChanged, state?_setState]
    by_cases same : other = name
    · simp [same]
    · simp [same, Ne.symm same, told.latest]
  marked other record found := by
    rw [find?_setState] at found
    rw [journal_setState_from, changes_append_stateChanged]
    by_cases same : other = name
    · subst same
      rw [if_pos rfl, Option.some.injEq] at found
      subst found
      rw [if_pos rfl, List.any_append, List.any_append]
      cases known : lifecycle.find? other with
      | some earlier =>
        obtain ⟨ran, ended⟩ := told.marked other earlier known
        simp [ComponentRecord.enter, ran, ended]
      | none =>
        -- a component that is registered now has no changes before
        have fresh := told.latest other
        rw [state?, known] at fresh
        have none : changes other lifecycle.journal = [] := by simpa using fresh.symm
        simp [ComponentRecord.enter, ComponentRecord.registered, none]
    · rw [if_neg same] at found
      rw [if_neg (Ne.symm same)]
      exact told.marked other record found

/-- Noting an error tells nothing new. -/
theorem Told.blame (told : lifecycle.Told) (name error : String) :
    (lifecycle.blame name error).Told where
  chained := told.chained
  replayed := told.replayed.trans (lifecycle.states_blame name error).symm
  latest other := (lifecycle.state?_blame name error).trans (told.latest other)
  marked other record found := by
    rw [find?, Lifecycle.blame, lookup_update] at found
    split at found
    · rename_i same
      subst same
      obtain ⟨earlier, known, rfl⟩ := Option.map_eq_some_iff.mp found
      exact told.marked other earlier known
    · exact told.marked other record found

/-- An event that is no change of state tells nothing of the components. -/
theorem Told.notify (told : lifecycle.Told) {event : LifecycleEvent}
    (silent : ∀ name, event.change? name = none)
    (still : ∀ states, event.replayed states = states) : (lifecycle.notify event).Told := by
  have same (name : String) :
      changes name (lifecycle.journal ++ [event]) = changes name lifecycle.journal := by
    simp [changes, List.filterMap_append, silent]
  constructor
  · intro name
    exact (same name).symm ▸ told.chained name
  · exact (replay_append_singleton _ _).trans ((still _).trans told.replayed)
  · intro name
    exact (same name).symm ▸ told.latest name
  · intro name record found
    exact (same name).symm ▸ told.marked name record found

/-- Every step is told. -/
theorem Told.step (told : lifecycle.Told) (step : LifecycleStep) : (lifecycle.step step).Told := by
  cases step with
  | enter name state => exact told.setState name state
  | blame name error => exact told.blame name error
  | initiate => exact told.notify (fun _ => rfl) (fun _ => rfl)
  | complete duration => exact told.notify (fun _ => rfl) (fun _ => rfl)

/-- All steps are told. -/
theorem Told.foldl (told : lifecycle.Told) (steps : List LifecycleStep) :
    (steps.foldl Lifecycle.step lifecycle).Told := by
  induction steps generalizing lifecycle with
  | nil => exact told
  | cons step rest ih => exact ih (told.step step)

/-- A lifecycle whose changes are told has a faithful journal. -/
theorem Told.faithful (told : lifecycle.Told) : lifecycle.Faithful where
  chained := told.chained
  replayed := told.replayed
  found name := by rw [told.replayed, lookup_states]
  unknown name := by simp [told.latest]
  uptime name := by
    cases known : lifecycle.find? name with
    | some record =>
      obtain ⟨ran, ended⟩ := told.marked name record known
      simp only [hasUptime, known, ran, ended, Bool.and_eq_true, List.any_eq_true, Prod.exists,
        ComponentState.canWork_iff, ComponentState.isTerminal_iff]
      refine and_congr_left' (exists_congr fun before => ?_)
      simp
    | none =>
      have fresh := told.latest name
      rw [state?, known] at fresh
      have none : changes name lifecycle.journal = [] := by simpa using fresh.symm
      simp [hasUptime, known, none]

/-- The states that a component enters are those that the steps of the callers set. -/
theorem entered_step (lifecycle : Lifecycle) (name : String) (step : LifecycleStep) :
    (changes name (lifecycle.step step).journal).map (·.2) =
      (changes name lifecycle.journal).map (·.2) ++ (step.entered? name).toList := by
  cases step with
  | enter other state =>
    rw [Lifecycle.step, journal_setState_from, changes_append_stateChanged]
    by_cases same : other = name <;> simp [same, LifecycleStep.entered?]
  | blame other error => simp [Lifecycle.step, Lifecycle.blame, LifecycleStep.entered?]
  | initiate =>
    simp [Lifecycle.step, notify, changes, LifecycleEvent.change?, LifecycleStep.entered?]
  | complete duration =>
    simp [Lifecycle.step, notify, changes, LifecycleEvent.change?, LifecycleStep.entered?]

/-- The states that a component has entered are those that the steps have set, in their order. -/
theorem entered_foldl (lifecycle : Lifecycle) (name : String) (steps : List LifecycleStep) :
    (changes name (steps.foldl Lifecycle.step lifecycle).journal).map (·.2) =
      (changes name lifecycle.journal).map (·.2) ++ steps.filterMap (·.entered? name) := by
  induction steps generalizing lifecycle with
  | nil => simp
  | cons step rest ih =>
    rw [List.foldl_cons, ih, entered_step, List.append_assoc]
    cases entered : step.entered? name <;> simp [entered]

end Lifecycle

/-- The steps of all calls set the state of a component once for each call that sets it. -/
theorem length_entered (name : String) (calls : List LifecycleCall) :
    ((calls.flatMap LifecycleCall.steps).filterMap (·.entered? name)).length =
      calls.countP (·.sets name) := by
  induction calls with
  | nil => rfl
  | cons call rest ih =>
    rw [List.flatMap_cons, List.filterMap_append, List.length_append, ih, List.countP_cons,
      Nat.add_comm]
    congr 1
    cases call with
    | setState other state =>
      by_cases same : other = name <;>
        simp [LifecycleCall.steps, LifecycleStep.entered?, LifecycleCall.sets, same]
    | markFailed other error =>
      by_cases same : other = name <;>
        simp [LifecycleCall.steps, LifecycleStep.entered?, LifecycleCall.sets, same]
    | shutdownInitiated => rfl
    | shutdownCompleted duration => rfl

/-- The steps of all callers are the steps of all their calls. -/
theorem flatten_steps (callers : List (List LifecycleCall)) :
    (callers.map (·.flatMap LifecycleCall.steps)).flatten =
      callers.flatten.flatMap LifecycleCall.steps := by
  induction callers with
  | nil => rfl
  | cons first rest ih => simp [ih]

/-- Whatever the callers of a lifecycle do, and however their steps fall between each other, its
journal is faithful at every point. Each component enters the states that were set, in the order
of the steps; and it has one event for each call that sets its state, except for those calls whose
last step is still to come. -/
theorem journal_faithful (owner : String) (callers : List (List LifecycleCall))
    {taken : List LifecycleStep} {left : List (List LifecycleStep)}
    (runs : Interleaves (callers.map (·.flatMap LifecycleCall.steps)) taken left) :
    (taken.foldl Lifecycle.step (.new owner)).Faithful ∧
      ∀ name,
        let told := changes name (taken.foldl Lifecycle.step (.new owner)).journal
        told.map (·.2) = taken.filterMap (·.entered? name) ∧
          told.length + (left.flatten.filterMap (·.entered? name)).length =
            callers.flatten.countP (·.sets name) := by
  refine ⟨((Lifecycle.told_new owner).foldl taken).faithful, fun name => ?_⟩
  have entered := Lifecycle.entered_foldl (.new owner) name taken
  have listed : (changes name (taken.foldl Lifecycle.step (.new owner)).journal).map (·.2) =
      taken.filterMap (·.entered? name) := by simpa [Lifecycle.new, changes] using entered
  refine ⟨listed, ?_⟩
  have all := (runs.perm.filterMap (·.entered? name)).length_eq
  rw [List.filterMap_append, List.length_append, flatten_steps, length_entered, ← listed,
    List.length_map] at all
  exact all

/-- The producer fails to start, and another caller sets it running after its error was noted: its
chain goes on from running, and it ends as failed with an uptime. -/
theorem journal_faithful_markFailed_interrupted :
    let callers := [[LifecycleCall.setState "producer" .starting,
      .markFailed "producer" "no broker", .shutdownInitiated], [.setState "producer" .running]]
    let taken := [LifecycleStep.enter "producer" .starting, .blame "producer" "no broker",
      .enter "producer" .running, .enter "producer" .failed]
    let left := [[LifecycleStep.initiate], []]
    Interleaves (callers.map (·.flatMap LifecycleCall.steps)) taken left ∧
      (taken.foldl Lifecycle.step (.new "test")).Faithful ∧
        changes "producer" (taken.foldl Lifecycle.step (.new "test")).journal =
          [(.starting, .starting), (.starting, .running), (.running, .failed)] ∧
        (taken.foldl Lifecycle.step (.new "test")).hasUptime "producer" = true := by
  intro callers taken left
  have runs : Interleaves (callers.map (·.flatMap LifecycleCall.steps)) taken left :=
    (((Interleaves.start.next 0 rfl).next 0 rfl).next 1 rfl).next 0 rfl
  exact ⟨runs, (journal_faithful "test" callers runs).1, by decide, by decide⟩

end ClusterGateway
