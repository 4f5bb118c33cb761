import ClusterGateway.Proofs.Lifecycle.States
import ClusterGateway.Proofs.Shutdown.Again
import ClusterGateway.Proofs.World.Gateways

/-!
# What is seen of a gateway that is shut down

A profile of a gateway says which components it holds, in which states they are and which events
were announced. Tasks that do not shut the gateway down leave its profile alone; what the others do
to it is written down here, for the stop of a component and for each phase of a shutdown.
-/

namespace ClusterGateway

/-- What is seen of a gateway that is shut down. -/
structure Profile where
  holds : Component → Bool
  state? : Component → Option ComponentState
  journal : List LifecycleEvent

namespace Profile

/-- A component is taken away. -/
def release (profile : Profile) (component : Component) : Profile :=
  { profile with holds := fun other => other != component && profile.holds other }

/-- The state of a component is set, and the change is announced. -/
def enter (profile : Profile) (component : Component) (state : ComponentState) : Profile where
  holds := profile.holds
  state? other := if other = component then some state else profile.state? other
  journal := profile.journal ++
    [.stateChanged component.name ((profile.state? component).getD .starting) state]

/-- An event is announced. -/
def notify (profile : Profile) (event : LifecycleEvent) : Profile :=
  { profile with journal := profile.journal ++ [event] }

variable {profile : Profile} {component other : Component} {state : ComponentState}

/-- Taking a component away leaves the others where they are. -/
theorem holds_release_of_ne (differ : other ≠ component) :
    (profile.release component).holds other = profile.holds other := by
  simp [release, differ]

/-- A component is in the state that was set. -/
theorem state?_enter_self : (profile.enter component state).state? component = some state :=
  if_pos rfl

/-- The other components are in the states in which they were. -/
theorem state?_enter_of_ne (differ : other ≠ component) :
    (profile.enter component state).state? other = profile.state? other :=
  if_neg differ

/-- Taking a component away is not seen at the others. -/
theorem release_of_ne (differ : other ≠ component) :
    (profile.release component).holds other = profile.holds other ∧
      (profile.release component).state? other = profile.state? other :=
  ⟨holds_release_of_ne differ, rfl⟩

/-- The state of a component is not seen at the others. -/
theorem enter_of_ne (differ : other ≠ component) :
    (profile.enter component state).holds other = profile.holds other ∧
      (profile.enter component state).state? other = profile.state? other :=
  ⟨rfl, state?_enter_of_ne differ⟩

/-- The beginning of the stop of a component is not seen at the others. -/
theorem beginStop_of_ne (differ : other ≠ component) :
    ((profile.release component).enter component .stopping).holds other = profile.holds other ∧
      ((profile.release component).enter component .stopping).state? other =
        profile.state? other :=
  ⟨holds_release_of_ne differ, state?_enter_of_ne differ⟩

/-- The change of a state is announced. -/
theorem journal_enter {before : ComponentState} (stands : profile.state? component = some before) :
    (profile.enter component state).journal =
      profile.journal ++ [.stateChanged component.name before state] := by
  rw [enter, stands]
  rfl

/-- A running component that is taken away is announced as being stopped. -/
theorem journal_beginStop (running : profile.state? component = some .running) :
    ((profile.release component).enter component .stopping).journal =
      profile.journal ++ [.stateChanged component.name .running .stopping] := by
  have stands : (profile.release component).state? component = some .running := running
  exact journal_enter stands

/-- A running component whose stop takes no time is announced as being stopped, and as stopped. -/
theorem journal_wholeStop (running : profile.state? component = some .running) :
    (((profile.release component).enter component .stopping).enter component .stopped).journal =
      profile.journal ++ [.stateChanged component.name .running .stopping,
        .stateChanged component.name .stopping .stopped] := by
  have stands : ((profile.release component).enter component .stopping).state? component =
      some .stopping := state?_enter_self
  rw [journal_enter stands, journal_beginStop running, List.append_assoc]
  rfl

end Profile

/-- What is seen of a gateway. -/
def Gateway.profile (gateway : Gateway) : Profile where
  holds := gateway.holds
  state? component := gateway.lifecycle.state? component.name
  journal := gateway.lifecycle.journal

/-- The state of a component of a gateway is set. -/
theorem Gateway.profile_setState (gateway : Gateway) (component : Component)
    (state : ComponentState) :
    (gateway.setState component state).profile = gateway.profile.enter component state := by
  have states : (gateway.setState component state).profile.state? =
      (gateway.profile.enter component state).state? := by
    funext other
    have names : other.name = component.name ↔ other = component :=
      ⟨Component.name_injective other component, congrArg Component.name⟩
    show (gateway.lifecycle.setState component.name state).state? other.name = _
    rw [Lifecycle.state?_setState]
    simp only [names]
    rfl
  have journal : (gateway.setState component state).profile.journal =
      (gateway.profile.enter component state).journal :=
    gateway.lifecycle.journal_setState_from state
  show Profile.mk gateway.holds _ _ = Profile.mk gateway.holds _ _
  exact congr (congrArg (Profile.mk gateway.holds) states) journal

namespace World

variable {world before between after : World} {me : TaskId} {site : SiteId}
  {actor : Option String} {found : Site} {part : Shutdown} {component : Component}
  {profile : Profile}

/-- What is seen of the gateway of a number. -/
def profile? (world : World) (site : SiteId) : Option Profile :=
  (world.gateway? site).map Gateway.profile

/-- What the events of a gateway are read off. -/
theorem journal_of_profile? (seen : world.profile? site = some profile) :
    world.journal site = profile.journal := by
  rw [profile?, gateway?, Option.map_map, Option.map_eq_some_iff] at seen
  obtain ⟨found, there, rfl⟩ := seen
  rw [journal, there]
  rfl

/-- A gateway that is there has a profile. -/
theorem profile?_of_site (there : world.sites[site]? = some found) :
    world.profile? site = some found.gateway.profile := by
  rw [profile?, gateway?, there]
  rfl

/-- What is seen of a gateway is read off its site. -/
theorem profile?_congr (same : after.sites[site]? = before.sites[site]?) :
    after.profile? site = before.profile? site := by
  rw [profile?, profile?, gateway?, gateway?, same]

/-- A gateway that is seen is there. -/
theorem exists_site_of_profile? (seen : world.profile? site = some profile) :
    ∃ found, world.sites[site]? = some found ∧ found.gateway.profile = profile := by
  rw [profile?, gateway?, Option.map_map, Option.map_eq_some_iff] at seen
  exact seen

/-- What is seen of a gateway after it was changed. -/
theorem profile?_onGateway (seen : world.profile? site = some profile)
    {change : Gateway → Gateway} (grow : Profile → Profile)
    (grows : ∀ gateway, (change gateway).profile = grow gateway.profile) :
    (world.onGateway site change).profile? site = some (grow profile) := by
  rw [profile?, gateway?_onGateway, if_pos rfl]
  rw [profile?] at seen
  cases here : world.gateway? site with
  | none => simp [here] at seen
  | some gateway =>
    rw [here] at seen
    have same : gateway.profile = profile := Option.some.inj seen
    rw [Option.map_some, Option.map_some, grows, same]

/-- A component is taken away. -/
theorem profile?_release (seen : world.profile? site = some profile) (component : Component) :
    (world.onGateway site (·.release component)).profile? site =
      some (profile.release component) :=
  profile?_onGateway seen (·.release component) fun _ => rfl

/-- An event is announced. -/
theorem profile?_notify (seen : world.profile? site = some profile) (event : LifecycleEvent) :
    (world.onGateway site (·.notify event)).profile? site = some (profile.notify event) :=
  profile?_onGateway seen (·.notify event) fun _ => rfl

/-- The state of a component is set. -/
theorem profile?_setState (seen : world.profile? site = some profile) (actor : Option String)
    (component : Component) (state : ComponentState) :
    (world.setState site actor component state).profile? site =
      some (profile.enter component state) := by
  have changed := profile?_onGateway seen (·.enter component state)
    fun gateway => gateway.profile_setState component state
  obtain ⟨found, there, -⟩ := exists_site_of_profile? seen
  unfold World.setState
  rw [there]
  exact changed

/-- The record of stops is not seen. -/
theorem profile?_recordStop (world : World) (place : SiteId) (component : Component)
    (ended : Bool) (site : SiteId) :
    (world.recordStop place component ended).profile? site = world.profile? site := by
  rw [profile?, recordStop, gateway?_onBroker, ← profile?]

/-- A task that does not shut a gateway down leaves its profile alone. -/
theorem profile?_of_strokes {purpose : Purpose} {sends hands : Prop}
    (strokes : Strokes me purpose sends hands before after) (foreign : site ∉ purpose.tearsDown) :
    after.profile? site = before.profile? site := by
  have lifecycle := strokes.lifecycle_eq foreign
  obtain ⟨absent, gone⟩ | ⟨found, later, here, there, frame⟩ := strokes.siteFrame site
  · exact profile?_congr (gone.trans absent.symm)
  · have holds : later.gateway.holds = found.gateway.holds := frame.holds foreign
    rw [gateway?, gateway?, here, there] at lifecycle
    have same : later.gateway.lifecycle = found.gateway.lifecycle := Option.some.inj lifecycle
    rw [profile?_of_site here, profile?_of_site there, Gateway.profile, Gateway.profile, holds,
      same]

/-- A component is taken away, and its stop begins. -/
theorem profile?_beginStop (seen : world.profile? site = some profile) (actor : Option String)
    (component : Component) :
    (((world.onGateway site (·.release component)).setState site actor component
      .stopping).recordStop site component false).profile? site =
        some ((profile.release component).enter component .stopping) := by
  rw [profile?_recordStop]
  exact profile?_setState (profile?_release seen component) actor component .stopping

/-- A component has stopped. -/
theorem profile?_endStop (seen : world.profile? site = some profile) (actor : Option String)
    (component : Component) :
    ((world.recordStop site component true).setState site actor component .stopped).profile? site =
      some (profile.enter component .stopped) :=
  profile?_setState ((profile?_recordStop world site component true site).trans seen) actor
    component .stopped

/-- A stop task whose component has stopped announces it, ends and wakes its shutdown. -/
theorem endComponentStop_seen (seen : world.profile? site = some profile) (me : TaskId)
    (actor : Option String) (component : Component) (parent : TaskId) :
    ∃ after, Beside world after ∧ after.profile? site = some (profile.enter component .stopped) ∧
      world.endComponentStop me actor site component parent =
        (after.finish me (.returned (.ok .done))).wake parent := by
  have stopped := (Beside.refl world).endStop site actor component
  have shown := profile?_endStop seen actor component
  unfold endComponentStop
  dsimp only
  refine ⟨_, ?_, ?_, rfl⟩
  · split
    · split
      · exact stopped.note actor _
      · exact stopped
    · exact stopped
  · split
    · split
      · exact shown
      · exact shown
    · exact shown

/-- Where no stop breaks down, a stop task that finds its component takes it away, announces that
it is being stopped, and sleeps for as long as the stop takes, if it takes any time. -/
theorem beginComponentStop_seen (sturdy : world.script.stopFaults = [])
    (there : world.sites[site]? = some found) (held : found.gateway.holds component = true)
    (me : TaskId) (actor : Option String) (parent : TaskId) :
    ∃ taken, Beside world taken ∧
      taken.profile? site =
        some ((found.gateway.profile.release component).enter component .stopping) ∧
      world.beginComponentStop me actor site found component parent =
        if world.script.stopDelay found.gateway.task.text component = 0 then
          taken.endComponentStop me actor site component parent
        else (taken.setTimer me
            (world.now + world.script.stopDelay found.gateway.task.text component)).setStage me
          (.sleeping (world.now + world.script.stopDelay found.gateway.task.text component)) := by
  have taken := (Beside.refl world).beginStop site actor component
  have shown := profile?_beginStop (profile?_of_site there) actor component
  refine ⟨_, taken, shown, ?_⟩
  have whole : (((world.onGateway site (·.release component)).setState site actor component
      .stopping).recordStop site component false).script.stopBreaks component = false := by
    rw [taken.script, BrokerScript.stopBreaks, sturdy]
    rfl
  unfold beginComponentStop
  simp only [held, ↓reduceIte, whole, Bool.false_eq_true]
  rw [taken.script, taken.now]

/-- A shutdown announces itself, and starts its stop tasks. -/
theorem openShutdown_seen (seen : world.profile? part.site = some profile) (me : TaskId)
    (actor : Option String) (found : Site) :
    ∃ between, Beside world between ∧
      between.profile? part.site = some (profile.notify .shutdownInitiated) ∧
      world.openShutdown me actor found part =
        ((between.spawnStops me part.site found.gateway.task Component.serving).1,
          { part with
            phase := .joining
              (between.spawnStops me part.site found.gateway.task Component.serving).2 }) := by
  refine ⟨_, ?_, ?_, rfl⟩
  · exact ((Beside.refl world).onGateway part.site _).note actor _
  · exact profile?_notify seen .shutdownInitiated

/-- A shutdown is over when the client is closed, and announces both. -/
theorem endClientClose_seen (seen : world.profile? part.site = some profile)
    (actor : Option String) (owner : String) :
    ∃ after, Beside world after ∧
      after.profile? part.site = some ((profile.enter .client .stopped).notify
        (.shutdownCompleted (world.now - part.begun))) ∧
      world.endClientClose actor owner part = (after, { part with phase := .finished }) := by
  have stopped := (Beside.refl world).endStop part.site actor .client
  have shown := profile?_notify (profile?_endStop seen actor .client)
    (.shutdownCompleted (world.now - part.begun))
  simp only [endClientClose, completeShutdown, stopped.now]
  refine ⟨_, ?_, ?_, rfl⟩
  · exact (stopped.onGateway part.site _).note actor _
  · exact shown

/-- Where no stop breaks down, a shutdown takes the client away and closes it, which is not
announced before it is closed. -/
theorem beginClientClose_seen (sturdy : world.script.stopFaults = [])
    (seen : world.profile? part.site = some profile)
    (held : found.gateway.holds .client = true) (me : TaskId) (actor : Option String) :
    ∃ taken, Beside world taken ∧ taken.profile? part.site = some (profile.release .client) ∧
      world.beginClientClose me actor found part =
        if world.script.stopDelay found.gateway.task.text .client = 0 then
          taken.endClientClose actor found.gateway.task.text part
        else (taken.setTimer me
            (world.now + world.script.stopDelay found.gateway.task.text .client),
          { part with
            phase := .closingClient
              (world.now + world.script.stopDelay found.gateway.task.text .client) }) := by
  have taken := ((Beside.refl world).onGateway part.site (·.release .client)).recordStop part.site
    .client false
  have shown : ((world.onGateway part.site (·.release .client)).recordStop part.site .client
      false).profile? part.site = some (profile.release .client) := by
    rw [profile?_recordStop]
    exact profile?_release seen .client
  refine ⟨_, taken, shown, ?_⟩
  have whole : ((world.onGateway part.site (·.release .client)).recordStop part.site .client
      false).script.stopBreaks .client = false := by
    rw [taken.script, BrokerScript.stopBreaks, sturdy]
    rfl
  unfold beginClientClose
  simp only [held, ↓reduceIte, whole, Bool.false_eq_true]
  rw [taken.script, taken.now]

/-- The offset manager has stopped, which is announced, and the client is next. -/
theorem endOffsetsStop_seen (seen : world.profile? part.site = some profile) (me : TaskId)
    (actor : Option String) (found : Site) :
    ∃ after, Beside world after ∧
      after.profile? part.site = some (profile.enter .offsets .stopped) ∧
      world.endOffsetsStop me actor found part = after.beginClientClose me actor found part :=
  ⟨_, (Beside.refl world).endStop part.site actor .offsets, profile?_endStop seen actor .offsets,
    rfl⟩

/-- Where no stop breaks down, a shutdown takes the offset manager away, announces that it is being
stopped, and waits for as long as the stop takes, if it takes any time. -/
theorem beginOffsetsStop_seen (sturdy : world.script.stopFaults = [])
    (seen : world.profile? part.site = some profile)
    (held : found.gateway.holds .offsets = true) (me : TaskId) (actor : Option String) :
    ∃ taken, Beside world taken ∧
      taken.profile? part.site = some ((profile.release .offsets).enter .offsets .stopping) ∧
      world.beginOffsetsStop me actor found part =
        if world.script.stopDelay found.gateway.task.text .offsets = 0 then
          taken.endOffsetsStop me actor found part
        else (taken.setTimer me
            (world.now + world.script.stopDelay found.gateway.task.text .offsets),
          { part with
            phase := .stoppingOffsets
              (world.now + world.script.stopDelay found.gateway.task.text .offsets) }) := by
  have taken := (Beside.refl world).beginStop part.site actor .offsets
  have shown := profile?_beginStop seen actor .offsets
  refine ⟨_, taken, shown, ?_⟩
  have whole : (((world.onGateway part.site (·.release .offsets)).setState part.site actor .offsets
      .stopping).recordStop part.site .offsets false).script.stopBreaks .offsets = false := by
    rw [taken.script, BrokerScript.stopBreaks, sturdy]
    rfl
  unfold beginOffsetsStop
  simp only [held, ↓reduceIte, whole, Bool.false_eq_true]
  rw [taken.script, taken.now]

end World

end ClusterGateway
