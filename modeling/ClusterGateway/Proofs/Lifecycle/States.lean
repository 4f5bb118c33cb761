import ClusterGateway.Association
import ClusterGateway.Lifecycle

/-!
# What a change of state leaves in the records

Setting the state of a component registers it where needed and changes its own record, in
place; every other record is left alone. Marking a component as failed is two changes of
the records: the error is noted first, and then the state is set. Main statements:
`find?_setState`, `states_setState`, `markFailed_eq`.
-/

namespace ClusterGateway

namespace Lifecycle

variable {name other : String} {change : ComponentRecord → ComponentRecord}
  {components : List (String × ComponentRecord)}

/-- Changing the record of one name is seen under that name only. -/
theorem lookup_update :
    (update name change components).lookup other =
      if other = name then (components.lookup name).map change else components.lookup other := by
  induction components with
  | nil => simp [update]
  | cons entry rest ih =>
    obtain ⟨found, record⟩ := entry
    rw [update]
    by_cases here : name = found
    · subst here
      by_cases same : other = name
      · simp [same]
      · have apart : (other == name) = false := by simpa using same
        simp [same, List.lookup_cons, apart]
    · have apart : (name == found) = false := by simpa using here
      simp only [apart, Bool.false_eq_true, ↓reduceIte, List.lookup_cons, ih]
      by_cases same : other = name
      · simp [same, apart]
      · simp [same]

/-- A change that keeps the states keeps the list of states. -/
theorem states_update (keeps : ∀ record, (change record).state = record.state) :
    (update name change components).map (fun (name, record) => (name, record.state)) =
      components.map fun (name, record) => (name, record.state) := by
  induction components with
  | nil => rfl
  | cons entry rest ih =>
    obtain ⟨found, record⟩ := entry
    rw [update]
    split <;> simp [ih, keeps]

/-- Of two values set for one key, the later one counts. -/
theorem assign_assign {α : Type} (key : String) (early late : α) (entries : List (String × α)) :
    assign key late (assign key early entries) = assign key late entries := by
  induction entries with
  | nil => simp [assign]
  | cons entry rest ih =>
    obtain ⟨found, old⟩ := entry
    simp only [assign]
    by_cases here : (key == found) = true
    · simp [here, assign]
    · simp [here, assign, ih]

/-- A component that is there enters its new state in place. -/
theorem states_update_enter (state : ComponentState)
    (there : name ∈ components.map (·.1)) :
    (update name (·.enter state) components).map (fun (name, record) => (name, record.state)) =
      assign name state (components.map fun (name, record) => (name, record.state)) := by
  induction components with
  | nil => simp at there
  | cons entry rest ih =>
    obtain ⟨found, record⟩ := entry
    by_cases here : name = found
    · subst here
      simp [update, assign, ComponentRecord.enter]
    · have later : name ∈ rest.map (·.1) := by simpa [here] using there
      have apart : (name == found) = false := by simpa using here
      simp [update, assign, apart, ih later]

variable (lifecycle : Lifecycle)

/-- A name is registered where it stands among the names. -/
theorem isSome_find?_iff :
    (lifecycle.find? name).isSome = true ↔ name ∈ lifecycle.components.map (·.1) :=
  isSome_lookup_iff name lifecycle.components

/-- Registering a name gives it a record, and leaves the records that are there. -/
theorem find?_register (name other : String) :
    (lifecycle.register name).find? other =
      if other = name then some ((lifecycle.find? name).getD .registered)
      else lifecycle.find? other := by
  unfold register
  split
  · rename_i there
    obtain ⟨record, found⟩ := Option.isSome_iff_exists.mp there
    by_cases same : other = name
    · simp [same, found]
    · simp [same]
  · rename_i absent
    have none : lifecycle.find? name = none := by simpa using absent
    rw [find?] at none
    by_cases same : other = name
    · simp [find?, same, List.lookup_append, none]
    · have apart : (other == name) = false := by simpa using same
      simp [find?, same, List.lookup_append, List.lookup_cons, apart]

/-- The record of a component after its state was set; other records are left alone. -/
theorem find?_setState (state : ComponentState) :
    (lifecycle.setState name state).find? other =
      if other = name then some (((lifecycle.find? name).getD .registered).enter state)
      else lifecycle.find? other := by
  have known := lifecycle.find?_register name other
  have own := lifecycle.find?_register name name
  unfold find? at known own ⊢
  simp only [setState, notify, lookup_update, known, own]
  split <;> simp

/-- The state of a component after a state was set. -/
theorem state?_setState (state : ComponentState) :
    (lifecycle.setState name state).state? other =
      if other = name then some state else lifecycle.state? other := by
  simp only [state?, find?_setState]
  split <;> simp [ComponentRecord.enter]

/-- Setting a state is seen in the list of states, and nowhere else in it. -/
theorem states_setState (state : ComponentState) :
    (lifecycle.setState name state).states = assign name state lifecycle.states := by
  have there : name ∈ (lifecycle.register name).components.map (·.1) := by
    rw [← isSome_find?_iff, find?_register]
    simp
  have entered := states_update_enter state there
  by_cases known : (lifecycle.find? name).isSome
  · rw [register, if_pos known] at entered
    simpa only [setState, notify, register, if_pos known, states] using entered
  · -- the name is registered as starting, at the end, and its state is set there
    have absent : name ∉ lifecycle.states.map (·.1) := by
      rw [isSome_find?_iff] at known
      simpa [states, Function.comp_def] using known
    calc (lifecycle.setState name state).states
        = assign name state (lifecycle.states ++ [(name, .starting)]) := by
          simpa [setState, notify, register, known, states, ComponentRecord.registered]
            using entered
      _ = assign name state (assign name .starting lifecycle.states) := by
          rw [assign_of_not_mem _ absent]
      _ = assign name state lifecycle.states := assign_assign name .starting state _

/-- The state that is found under a name is the one that the list of states has. -/
theorem lookup_states : lifecycle.states.lookup name = lifecycle.state? name := by
  unfold states state? find?
  induction lifecycle.components with
  | nil => rfl
  | cons entry rest ih =>
    obtain ⟨found, record⟩ := entry
    simp only [List.map_cons, List.lookup_cons, ih]
    cases name == found <;> rfl

/-- The event that setting a state announces starts from the state that is there; a component
without a state is starting. -/
theorem journal_setState_from (state : ComponentState) :
    (lifecycle.setState name state).journal = lifecycle.journal ++
      [.stateChanged name ((lifecycle.state? name).getD .starting) state] := by
  have before : ((lifecycle.register name).state? name).getD .starting =
      (lifecycle.state? name).getD .starting := by
    simp only [state?, find?_register, ↓reduceIte]
    cases lifecycle.find? name <;> rfl
  rw [journal_setState, before]

/-- The error of a failure is noted, if the component is registered. -/
def blame (lifecycle : Lifecycle) (name error : String) : Lifecycle :=
  { lifecycle with
    components := update name (fun record => { record with lastError := some error })
      lifecycle.components }

/-- A component is marked as failed in two steps: its error is noted, and its state is set. -/
theorem markFailed_eq (name error : String) :
    lifecycle.markFailed name error = (lifecycle.blame name error).setState name .failed := rfl

/-- Noting an error changes no state. -/
theorem states_blame (name error : String) :
    (lifecycle.blame name error).states = lifecycle.states :=
  states_update fun _ => rfl

/-- Noting an error changes no state. -/
theorem state?_blame (name error : String) :
    (lifecycle.blame name error).state? other = lifecycle.state? other := by
  rw [← lookup_states, states_blame, lookup_states]

end Lifecycle

end ClusterGateway
