import ClusterGateway.Proofs.Lifecycle.Journal

/-!
# What is remembered of a failure

A component that is marked as failed keeps the error, but only if it is registered by then.
Its state registers it in the same call, one step too late for the error. So the error that
is remembered is the latest of those that were noted since the component was registered,
and the only failure of a component that nobody has mentioned before leaves none. Main
statements: `lastError?_steps`, `lastError_kept_iff`; `first_failure_is_forgotten`.
-/

namespace ClusterGateway

/-- The error that a step notes of a component. -/
def LifecycleStep.noted? (name : String) : LifecycleStep → Option String
  | enter _ _ => none
  | blame other error => if other = name then some error else none
  | initiate => none
  | complete _ => none

/-- The error with which a call marks a component as failed. -/
def LifecycleCall.error? (name : String) : LifecycleCall → Option String
  | setState _ _ => none
  | markFailed other error => if other = name then some error else none
  | shutdownInitiated => none
  | shutdownCompleted _ => none

/-- The errors that calls note in their steps are those of the calls. -/
theorem noted_steps (calls : List LifecycleCall) (name : String) :
    (calls.flatMap LifecycleCall.steps).filterMap (·.noted? name) =
      calls.filterMap (·.error? name) := by
  induction calls with
  | nil => rfl
  | cons call rest ih =>
    rw [List.flatMap_cons, List.filterMap_append, ih, List.filterMap_cons]
    cases call with
    | setState other state => rfl
    | markFailed other error =>
      by_cases same : other = name <;>
        simp [LifecycleCall.steps, LifecycleStep.noted?, LifecycleCall.error?, same]
    | shutdownInitiated => rfl
    | shutdownCompleted duration => rfl

/-- Only calls that set the state of a component have an error for it. -/
theorem error_filter_sets (calls : List LifecycleCall) (name : String) :
    (calls.filter (·.sets name)).filterMap (·.error? name) = calls.filterMap (·.error? name) := by
  rw [List.filterMap_filter]
  congr 1
  funext call
  cases call with
  | setState other state => simp [LifecycleCall.error?]
  | markFailed other error =>
    by_cases same : other = name <;> simp [LifecycleCall.sets, LifecycleCall.error?, same]
  | shutdownInitiated => rfl
  | shutdownCompleted duration => rfl

/-- Since the state of a component was first set, calls have noted the errors of all of those that
set its state, but for the first one. -/
theorem noted_since_registered (calls : List LifecycleCall) (name : String) :
    ((calls.flatMap LifecycleCall.steps).dropWhile
        fun step => (step.entered? name).isNone).filterMap (·.noted? name) =
      (calls.filter (·.sets name)).tail.filterMap (·.error? name) := by
  induction calls with
  | nil => rfl
  | cons call rest ih =>
    rw [List.flatMap_cons, List.filter_cons]
    -- after a call that sets the state, all errors are noted
    have later := (noted_steps rest name).trans (error_filter_sets rest name).symm
    cases call with
    | setState other state =>
      by_cases same : other = name
      · simpa [LifecycleCall.steps, LifecycleCall.sets, LifecycleStep.entered?,
          LifecycleStep.noted?, same] using later
      · simpa [LifecycleCall.steps, LifecycleCall.sets, LifecycleStep.entered?, same] using ih
    | markFailed other error =>
      by_cases same : other = name
      · simpa [LifecycleCall.steps, LifecycleCall.sets, LifecycleStep.entered?,
          LifecycleStep.noted?, same] using later
      · simpa [LifecycleCall.steps, LifecycleCall.sets, LifecycleStep.entered?, same] using ih
    | shutdownInitiated =>
      simpa [LifecycleCall.steps, LifecycleCall.sets, LifecycleStep.entered?] using ih
    | shutdownCompleted duration =>
      simpa [LifecycleCall.steps, LifecycleCall.sets, LifecycleStep.entered?] using ih

namespace Lifecycle

variable {lifecycle : Lifecycle} {name : String}

/-- A component is registered by the steps that set its state, and stays so. -/
theorem isSome_find?_step (lifecycle : Lifecycle) (name : String) (step : LifecycleStep) :
    ((lifecycle.step step).find? name).isSome =
      ((lifecycle.find? name).isSome || (step.entered? name).isSome) := by
  cases step with
  | enter other state =>
    rw [Lifecycle.step, find?_setState, LifecycleStep.entered?]
    by_cases same : name = other
    · simp [same]
    · simp [same, Ne.symm same]
  | blame other error =>
    have known : ((lifecycle.blame other error).find? name).isSome =
        (lifecycle.find? name).isSome := by
      rw [find?, blame, lookup_update, find?]
      split <;> simp_all
    rw [Lifecycle.step, known]
    simp [LifecycleStep.entered?]
  | initiate => simp [Lifecycle.step, notify, find?, LifecycleStep.entered?]
  | complete duration => simp [Lifecycle.step, notify, find?, LifecycleStep.entered?]

/-- A registered component remembers the error of a step that notes one of it, and keeps the one
that it has in all other steps. -/
theorem lastError?_step_of_known (known : (lifecycle.find? name).isSome = true)
    (step : LifecycleStep) : (lifecycle.step step).lastError? name =
      (step.noted? name).or (lifecycle.lastError? name) := by
  obtain ⟨record, found⟩ := Option.isSome_iff_exists.mp known
  have own : lifecycle.lastError? name = record.lastError := by simp [lastError?, found]
  cases step with
  | enter other state =>
    rw [Lifecycle.step, lastError?, find?_setState, LifecycleStep.noted?, Option.none_or, own]
    by_cases same : name = other
    · subst same
      simp [found, ComponentRecord.enter]
    · simp [same, found]
  | blame other error =>
    rw [Lifecycle.step, lastError?, find?, blame, lookup_update, LifecycleStep.noted?, own]
    rw [find?] at found
    by_cases same : name = other
    · subst same
      simp [found]
    · simp [same, Ne.symm same, found]
  | initiate => rfl
  | complete duration => rfl

/-- A component that is not registered remembers nothing, and a step that registers it leaves no
error. -/
theorem lastError?_step_of_unknown (unknown : (lifecycle.find? name).isSome = false)
    (step : LifecycleStep) : (lifecycle.step step).lastError? name = none := by
  have absent : lifecycle.find? name = none := by simpa using unknown
  cases step with
  | enter other state =>
    rw [Lifecycle.step, lastError?, find?_setState]
    by_cases same : name = other
    · subst same
      simp [absent, ComponentRecord.registered, ComponentRecord.enter]
    · simp [same, absent]
  | blame other error =>
    rw [find?] at absent
    rw [Lifecycle.step, lastError?, find?, blame, lookup_update]
    by_cases same : name = other
    · subst same
      simp [absent]
    · simp [same, absent]
  | initiate =>
    have same : (lifecycle.step .initiate).find? name = lifecycle.find? name := rfl
    rw [lastError?, same, absent, Option.bind_none]
  | complete duration =>
    have same : (lifecycle.step (.complete duration)).find? name = lifecycle.find? name := rfl
    rw [lastError?, same, absent, Option.bind_none]

/-- A registered component remembers the last error that was noted of it, or the one that it had
before. -/
theorem lastError?_foldl_of_known (known : (lifecycle.find? name).isSome = true)
    (steps : List LifecycleStep) : (steps.foldl Lifecycle.step lifecycle).lastError? name =
      (steps.filterMap (·.noted? name)).getLast?.or (lifecycle.lastError? name) := by
  induction steps generalizing lifecycle with
  | nil => simp
  | cons step rest ih =>
    have still : ((lifecycle.step step).find? name).isSome = true := by
      rw [isSome_find?_step, known, Bool.true_or]
    rw [List.foldl_cons, ih still, lastError?_step_of_known known]
    cases noted : step.noted? name with
    | none => simp [noted]
    | some error =>
      cases last : (rest.filterMap (·.noted? name)).getLast? <;>
        simp [noted, List.getLast?_cons, last]

/-- A component that is not registered remembers the last error that is noted of it from the step
on that registers it. -/
theorem lastError?_foldl_of_unknown (unknown : (lifecycle.find? name).isSome = false)
    (steps : List LifecycleStep) : (steps.foldl Lifecycle.step lifecycle).lastError? name =
      ((steps.dropWhile fun step => (step.entered? name).isNone).filterMap
        (·.noted? name)).getLast? := by
  induction steps generalizing lifecycle with
  | nil =>
    have absent : lifecycle.find? name = none := by simpa using unknown
    simp [lastError?, absent]
  | cons step rest ih =>
    have registered := isSome_find?_step lifecycle name step
    have forgotten := lastError?_step_of_unknown unknown step
    rw [unknown, Bool.false_or] at registered
    rw [List.foldl_cons, List.dropWhile_cons]
    cases enters : step.entered? name with
    | some state =>
      -- the step that registers the component sets its state, and notes nothing
      have quiet : step.noted? name = none := by
        cases step <;> simp [LifecycleStep.entered?, LifecycleStep.noted?] at enters ⊢
      rw [enters, Option.isSome_some] at registered
      rw [lastError?_foldl_of_known registered, forgotten, Option.or_none]
      simp [quiet]
    | none =>
      rw [enters, Option.isSome_none] at registered
      rw [ih registered]
      simp

/-- Wherever the callers of a lifecycle have got to, a component remembers the last error that was
noted of it since its state was first set. -/
theorem lastError?_steps (owner name : String) (steps : List LifecycleStep) :
    (steps.foldl Lifecycle.step (.new owner)).lastError? name =
      ((steps.dropWhile fun step => (step.entered? name).isNone).filterMap
        (·.noted? name)).getLast? :=
  lastError?_foldl_of_unknown rfl steps

/-- Calls one after the other take all of their steps in order. -/
theorem foldl_call (lifecycle : Lifecycle) (calls : List LifecycleCall) :
    calls.foldl Lifecycle.call lifecycle =
      (calls.flatMap LifecycleCall.steps).foldl Lifecycle.step lifecycle := by
  induction calls generalizing lifecycle with
  | nil => rfl
  | cons call rest ih => rw [List.foldl_cons, List.flatMap_cons, List.foldl_append, ih, call_eq]

/-- After calls one after the other, a component remembers the latest error of those that set its
state, but for the first one. -/
theorem lastError?_calls (owner name : String) (calls : List LifecycleCall) :
    (calls.foldl Lifecycle.call (.new owner)).lastError? name =
      ((calls.filter (·.sets name)).tail.filterMap (·.error? name)).getLast? := by
  rw [foldl_call, lastError?_steps, noted_since_registered]

/-- A component is registered by the calls that set its state. -/
theorem isSome_find?_call (lifecycle : Lifecycle) (name : String) (call : LifecycleCall) :
    ((lifecycle.call call).find? name).isSome =
      ((lifecycle.find? name).isSome || call.sets name) := by
  rw [call_eq]
  cases call with
  | setState other state =>
    by_cases same : other = name <;>
      simp [LifecycleCall.steps, LifecycleCall.sets, isSome_find?_step, LifecycleStep.entered?,
        same]
  | markFailed other error =>
    by_cases same : other = name <;>
      simp [LifecycleCall.steps, LifecycleCall.sets, isSome_find?_step, LifecycleStep.entered?,
        same]
  | shutdownInitiated =>
    simp [LifecycleCall.steps, LifecycleCall.sets, isSome_find?_step, LifecycleStep.entered?]
  | shutdownCompleted duration =>
    simp [LifecycleCall.steps, LifecycleCall.sets, isSome_find?_step, LifecycleStep.entered?]

/-- A component is registered after calls one of which sets its state. -/
theorem isSome_find?_calls (lifecycle : Lifecycle) (name : String) (calls : List LifecycleCall) :
    ((calls.foldl Lifecycle.call lifecycle).find? name).isSome =
      ((lifecycle.find? name).isSome || calls.any (·.sets name)) := by
  induction calls generalizing lifecycle with
  | nil => simp
  | cons call rest ih => rw [List.foldl_cons, ih, isSome_find?_call, List.any_cons, Bool.or_assoc]

/-- A component that is marked as failed has failed, whatever was before. -/
theorem state?_markFailed (lifecycle : Lifecycle) (name error : String) :
    (lifecycle.markFailed name error).state? name = some .failed := by
  rw [markFailed_eq, state?_setState, if_pos rfl]

/-- A component that is marked as failed remembers the error exactly if it was registered. -/
theorem lastError?_markFailed_iff (lifecycle : Lifecycle) (name error : String) :
    (lifecycle.markFailed name error).lastError? name = some error ↔
      (lifecycle.find? name).isSome = true := by
  have steps : lifecycle.markFailed name error =
      [LifecycleStep.blame name error, .enter name .failed].foldl Lifecycle.step lifecycle := rfl
  cases known : (lifecycle.find? name).isSome with
  | true =>
    rw [steps, lastError?_foldl_of_known known]
    simp [LifecycleStep.noted?]
  | false =>
    rw [steps, lastError?_foldl_of_unknown known]
    simp [LifecycleStep.noted?, LifecycleStep.entered?]

end Lifecycle

/-- Calls forget a failure of a component: they mark it as failed before any of them has set its
state, and never again. -/
def Forgets (calls : List LifecycleCall) (name : String) : Prop :=
  ∃ error rest, calls.filter (·.sets name) = .markFailed name error :: rest ∧
    rest.filterMap (·.error? name) = []

/-- The first error of a component is the only one that its later calls may miss. -/
theorem getLast?_error_tail (calls : List LifecycleCall) (name : String) :
    ((calls.filter (·.sets name)).tail.filterMap (·.error? name)).getLast? =
        (calls.filterMap (·.error? name)).getLast? ↔ ¬ Forgets calls name := by
  have all := error_filter_sets calls name
  rw [← all, Forgets]
  cases own : calls.filter (·.sets name) with
  | nil => simp
  | cons first rest =>
    have mine : first.sets name = true := by
      have member : first ∈ calls.filter (·.sets name) := own ▸ List.mem_cons_self
      exact (List.mem_filter.mp member).2
    rw [List.tail_cons, List.filterMap_cons]
    cases first with
    | setState other state => simp [LifecycleCall.error?]
    | markFailed other error =>
      have same : other = name := by simpa [LifecycleCall.sets] using mine
      subst same
      have told : (LifecycleCall.markFailed other error).error? other = some error := if_pos rfl
      simp only [told]
      constructor
      · rintro kept ⟨lost, others, split, quiet⟩
        obtain ⟨-, same⟩ := List.cons.inj split
        rw [same, quiet] at kept
        simp at kept
      · intro remembers
        cases errors : rest.filterMap (·.error? other) with
        | nil => exact absurd ⟨error, rest, rfl, errors⟩ remembers
        | cons next later => rw [List.getLast?_cons_cons]
    | shutdownInitiated => simp [LifecycleCall.sets] at mine
    | shutdownCompleted duration => simp [LifecycleCall.sets] at mine

/-- Whatever is called, one call after the other: a component remembers the latest error of the calls
that have set its state, but for the first of them. That is the error of the latest call that has
marked it as failed, and none if there was no such call, except exactly where it was marked as
failed before its state was ever set, and never again. A component that has just been marked as
failed has failed in any case, and remembers the error exactly if a call has set its state before. -/
theorem lastError_kept_iff (owner : String) (calls : List LifecycleCall) (name : String) :
    let after := calls.foldl Lifecycle.call (.new owner)
    after.lastError? name =
        ((calls.filter (·.sets name)).tail.filterMap (·.error? name)).getLast? ∧
      (after.lastError? name = (calls.filterMap (·.error? name)).getLast? ↔
        ¬ Forgets calls name) ∧
      ∀ error, (after.call (.markFailed name error)).state? name = some .failed ∧
        ((after.call (.markFailed name error)).lastError? name = some error ↔
          ∃ call ∈ calls, call.sets name = true) := by
  intro after
  have remembered := Lifecycle.lastError?_calls owner name calls
  have known := Lifecycle.isSome_find?_calls (.new owner) name calls
  have fresh : ((Lifecycle.new owner).find? name).isSome = false := rfl
  refine ⟨remembered, ?_, fun error => ⟨after.state?_markFailed name error, ?_⟩⟩
  · rw [remembered]
    exact getLast?_error_tail calls name
  · rw [Lifecycle.call, Lifecycle.lastError?_markFailed_iff, known, fresh, Bool.false_or,
      List.any_eq_true]

/-- A component that fails before anybody has mentioned it has failed without an error. -/
theorem first_failure_is_forgotten :
    let calls := [LifecycleCall.markFailed "ghost" "lost"]
    let after := calls.foldl Lifecycle.call (.new "test")
    after.state? "ghost" = some .failed ∧ after.lastError? "ghost" = none ∧
      (calls.filterMap (·.error? "ghost")).getLast? = some "lost" := by
  decide

end ClusterGateway
