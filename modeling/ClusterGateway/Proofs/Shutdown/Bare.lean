import ClusterGateway.Proofs.Shutdown.Holdings
import ClusterGateway.Proofs.Shutdown.Waits

/-!
# The shutdown of a gateway without components

A shutdown that finds all components of a gateway gone hands nothing to the cluster, and
leaves the components, the routes and the states of the components as they are. All that
it does is to announce that a shutdown has begun, and that it is completed. Main
statements: `Strokes.site_eq`, `Stands.advanceShutdowns`.
-/

namespace ClusterGateway

/-- The gateway of a site announces events. -/
def Site.announce (site : Site) (events : List LifecycleEvent) : Site :=
  { site with
    gateway := { site.gateway with
      lifecycle := { site.gateway.lifecycle with
        journal := site.gateway.lifecycle.journal ++ events } } }

/-- A gateway that announces nothing stays as it is. -/
@[simp]
theorem Site.announce_nil (site : Site) : site.announce [] = site := by
  simp [announce]

/-- A gateway announces events one after the other. -/
theorem Site.announce_announce (site : Site) (first second : List LifecycleEvent) :
    (site.announce first).announce second = site.announce (first ++ second) := by
  simp [announce]

/-- All that a further shutdown announces. -/
def idleShutdown : List LifecycleEvent := [.shutdownInitiated, .shutdownCompleted 0]

/-- What a further shutdown has announced by the time it has come so far at one gateway. It began
at this very moment. -/
def Shutdown.Told (part : Shutdown) (now : Nat) (said : List LifecycleEvent) : Prop :=
  match part.phase with
  | .opening => part.begun = now ∧ said = []
  | .joining _ => part.begun = now ∧ said = [.shutdownInitiated]
  | .finished => said = idleShutdown
  | _ => False

/-- A shutdown that has begun has announced something. -/
theorem Shutdown.Told.ne_nil {part : Shutdown} {now : Nat} {said : List LifecycleEvent}
    (told : part.Told now said) (begun : part.phase ≠ .opening) : said ≠ [] := by
  unfold Told at told
  split at told
  · contradiction
  · simp [told.2]
  · simp [told, idleShutdown]
  · exact told.elim

/-- What a shutdown that has begun has told stands for as long as the clock stands, and for good
once it is finished. -/
theorem Shutdown.Told.congr {part : Shutdown} {now later : Nat} {said : List LifecycleEvent}
    (told : part.Told now said) (begun : part.phase ≠ .opening)
    (instant : ∀ stops, part.phase = .joining stops → later = now) : part.Told later said := by
  unfold Told at told ⊢
  split at told
  · contradiction
  · rename_i stops joining
    exact (instant stops joining).symm ▸ told
  · exact told
  · exact told.elim

/-- A shutdown that has told something at a gateway has told a part of all. -/
theorem Shutdown.Told.prefix_idleShutdown {part : Shutdown} {now : Nat}
    {said : List LifecycleEvent} (told : part.Told now said) : said <+: idleShutdown := by
  unfold Told at told
  split at told
  · rw [told.2]
    exact List.nil_prefix
  · rw [told.2]
    exact ⟨[.shutdownCompleted 0], rfl⟩
  · exact told ▸ List.prefix_refl said
  · exact told.elim

namespace World

variable {world before between after : World} {me call : TaskId} {site : SiteId}
  {part : Shutdown} {said events : List LifecycleEvent}

/-- Nothing happens to a gateway and the cluster behind it but that events are announced. -/
def Echoes (site : SiteId) (events : List LifecycleEvent) (before after : World) : Prop :=
  after.sites[site]? = (before.sites[site]?).map (·.announce events)

namespace Echoes

/-- A gateway that stays as it is announces nothing. -/
theorem of_eq (same : after.sites[site]? = before.sites[site]?) : Echoes site [] before after := by
  simp [Echoes, same]

/-- Announcements follow each other. -/
theorem trans {first second : List LifecycleEvent} (early : Echoes site first before between)
    (late : Echoes site second between after) : Echoes site (first ++ second) before after := by
  unfold Echoes at *
  rw [late, early, Option.map_map]
  congr 1
  funext found
  exact Site.announce_announce found first second

/-- An event is announced. -/
theorem notify (world : World) (site : SiteId) (event : LifecycleEvent) :
    Echoes site [event] world (world.onGateway site (·.notify event)) := by
  unfold Echoes onGateway
  rw [getElem?_onSite, if_pos rfl]
  rfl

end Echoes

/-- A task that shuts gateways down is no stop task. -/
theorem isTeardown_of_shutsDown {purpose : Purpose} (shuts : purpose.shutsDown ≠ []) :
    purpose.IsTeardown ∧ ∀ parent, ¬ purpose.StopsFor parent := by
  refine ⟨?_, ?_⟩
  · unfold Purpose.shutsDown at shuts
    split at shuts
    · trivial
    · trivial
    · contradiction
  · rintro parent ⟨site, component, rfl⟩
    exact shuts rfl

/-- Shutdowns and stop tasks leave the gateways alone whose components they do not take. -/
theorem Strokes.site_eq {purpose : Purpose} {hands : Prop}
    (strokes : Strokes me purpose False hands before after) (teardown : purpose.IsTeardown)
    (foreign : site ∉ purpose.tearsDown) : after.sites[site]? = before.sites[site]? := by
  have elsewhere (world : World) {place : SiteId} (tears : place ∈ purpose.tearsDown)
      (change : Site → Site) : (world.onSite place change).sites[site]? = world.sites[site]? := by
    rw [getElem?_onSite, if_neg]
    rintro rfl
    exact foreign tears
  refine strokes.keeps (P := fun before after => after.sites[site]? = before.sites[site]?)
    (fun _ => rfl) (fun first second => second.trans first) ?_
  intro before after stroke
  cases stroke with
  | wake other =>
    obtain ⟨ready, same⟩ := exists_wake before other
    rw [same]
  | release place component tears => exact elsewhere before tears _
  | notify place event tears => exact elsewhere before tears _
  | recordStop place component ended tears => exact elsewhere before tears _
  | setState place actor component state tears =>
    unfold setState
    split
    · rfl
    · exact elsewhere before tears _
  | serve place request found broker asks there serves =>
    rw [asks] at teardown
    cases serves <;> exact teardown.elim
  | route place group topic ack message asks =>
    rw [asks] at teardown
    exact teardown.elim
  | tell target answer delay tells =>
    rw [tells] at teardown
    exact teardown.elim
  | touch place session change acknowledges => exact acknowledges.elim
  | _ => rfl

/-- A gateway that holds no component. -/
def Bare (world : World) (site : SiteId) : Prop :=
  ∃ place, world.sites[site]? = some place ∧
    ∀ component, place.gateway.holds component = false

/-- A gateway without components gets none back where events are announced. -/
theorem Bare.echoes (bare : before.Bare site) (echoes : Echoes site events before after) :
    after.Bare site := by
  obtain ⟨place, there, gone⟩ := bare
  refine ⟨place.announce events, ?_, gone⟩
  rw [echoes, there]
  rfl

/-- A further shutdown has told this much by the time it has come so far at a gateway, and waits
only for tasks of its own. -/
structure Stands (world : World) (call : TaskId) (site : SiteId) (part : Shutdown)
    (said : List LifecycleEvent) : Prop where
  here : part.site = site
  told : part.Told world.now said
  stops : ∀ stops, part.phase = .joining stops → world.StopsAt site call stops

/-- A shutdown stands where it does after tasks and timers were added. -/
theorem Stands.grows (stands : before.Stands call site part said) (grows : Grows before after) :
    after.Stands call site part said where
  here := stands.here
  told := grows.now ▸ stands.told
  stops := fun stops joining => (stands.stops stops joining).grows grows

/-- A shutdown that began at this very moment announces that it is completed, and has taken no
time. -/
theorem Stands.complete {noted : World} (part : Shutdown) (me : TaskId) (actor : Option String)
    (task : String) (same : noted.sites = world.sites) (now : noted.now = world.now)
    (begun : part.begun = world.now) (initiated : said = [.shutdownInitiated]) :
    ∃ events, Echoes part.site events world (noted.completeShutdown actor task part).1 ∧
      (noted.completeShutdown actor task part).1.Stands me part.site
        (noted.completeShutdown actor task part).2 (said ++ events) ∧
      (noted.completeShutdown actor task part).2.phase ≠ .opening := by
  have instant : noted.now - part.begun = 0 := by omega
  refine ⟨[.shutdownCompleted 0], ?_, ⟨rfl, ?_, nofun⟩, nofun⟩
  · have echoes := Echoes.notify noted part.site (.shutdownCompleted (noted.now - part.begun))
    unfold Echoes at echoes ⊢
    rw [← same, ← instant]
    exact echoes
  · rw [initiated]
    rfl

/-- The shutdown of a gateway without components only announces itself and its end. -/
theorem Stands.advance (stands : world.Stands me site part said) (bare : world.Bare site)
    (actor : Option String) :
    ∃ events, Echoes site events world (world.advanceShutdown me actor part).1 ∧
      (world.advanceShutdown me actor part).1.Stands me site
        (world.advanceShutdown me actor part).2 (said ++ events) ∧
      (world.advanceShutdown me actor part).2.phase ≠ .opening := by
  obtain ⟨rfl, told, waits⟩ := stands
  obtain ⟨place, there, gone⟩ := bare
  unfold Shutdown.Told at told
  unfold advanceShutdown
  rw [there]
  dsimp only
  split at told
  · rename_i opening
    obtain ⟨begun, rfl⟩ := told
    rw [opening]
    refine ⟨[.shutdownInitiated], Echoes.notify world part.site _, ⟨rfl, ?_, ?_⟩,
      by simp [openShutdown]⟩
    · exact ⟨begun, rfl⟩
    · rintro stops joining
      obtain rfl := ShutdownPhase.joining.inj joining
      exact stopsAt_spawnStops _ me part.site place.gateway.task Component.serving
  · rename_i stops joining
    obtain ⟨begun, said_eq⟩ := told
    simp only [joining]
    split
    · simp only [beginOffsetsStop, beginClientClose, gone, Bool.false_eq_true, if_false]
      exact Stands.complete part me actor place.gateway.task.text rfl rfl begun said_eq
    · refine ⟨[], .of_eq rfl, ⟨rfl, ?_, waits⟩, ?_⟩
      · rw [Shutdown.Told, joining, List.append_nil]
        exact ⟨begun, said_eq⟩
      · simp [joining]
  · rename_i finished
    simp only [finished]
    refine ⟨[], .of_eq rfl, ⟨rfl, ?_, waits⟩, ?_⟩
    · rw [Shutdown.Told, finished, List.append_nil]
      exact told
    · simp
  · exact told.elim

/-- The shutdown of other gateways does nothing to a gateway. -/
theorem site?_advanceShutdown (world : World) (me : TaskId) (actor : Option String)
    (foreign : part.site ≠ site) :
    (world.advanceShutdown me actor part).1.sites[site]? = world.sites[site]? := by
  have strokes : Strokes me (.shutdown [part.site] false) False True world
      (world.advanceShutdown me actor part).1 :=
    strokes_advanceShutdown world (by simp [Purpose.shutsDown])
  refine strokes.site_eq trivial fun there => foreign ?_
  exact (List.mem_singleton.mp there).symm

/-- The shutdown of other gateways does nothing to a gateway. -/
theorem site?_advanceShutdowns (world : World) (me : TaskId) (actor : Option String)
    {parts : List Shutdown} (foreign : site ∉ parts.map (·.site)) :
    (world.advanceShutdowns me actor parts).1.sites[site]? = world.sites[site]? := by
  induction parts generalizing world with
  | nil => rfl
  | cons first rest ih =>
    rw [List.map_cons, List.mem_cons, not_or] at foreign
    exact (ih _ foreign.2).trans (site?_advanceShutdown world me actor (Ne.symm foreign.1))

/-- A shutdown of several gateways does at one without components what a shutdown of that gateway
does. -/
theorem Stands.advanceShutdowns (actor : Option String) {parts : List Shutdown}
    (distinct : (parts.map (·.site)).Nodup) (member : part ∈ parts)
    (stands : world.Stands me site part said) (bare : world.Bare site) :
    ∃ events, Echoes site events world (world.advanceShutdowns me actor parts).1 ∧
      ∃ later ∈ (world.advanceShutdowns me actor parts).2, later.phase ≠ .opening ∧
        (world.advanceShutdowns me actor parts).1.Stands me site later (said ++ events) := by
  induction parts generalizing world with
  | nil => exact absurd member List.not_mem_nil
  | cons first rest ih =>
    rw [List.map_cons, List.nodup_cons] at distinct
    have grows : Grows world (world.advanceShutdown me actor first).1 :=
      (advance_advanceShutdown world me actor first).grows
    obtain rfl | behind := List.mem_cons.mp member
    · obtain ⟨events, echoes, after, begun⟩ := stands.advance bare actor
      have others : Echoes site [] (world.advanceShutdown me actor part).1
          ((world.advanceShutdown me actor part).1.advanceShutdowns me actor rest).1 :=
        .of_eq (site?_advanceShutdowns _ me actor (stands.here ▸ distinct.1))
      refine ⟨events, ?_, _, List.mem_cons_self, begun, ?_⟩
      · rw [← List.append_nil events]
        exact echoes.trans others
      · exact after.grows (grows_advanceShutdowns _ me actor rest)
    · have elsewhere : first.site ≠ site := by
        rintro rfl
        exact distinct.1 (List.mem_map.mpr ⟨part, behind, stands.here⟩)
      have same := Echoes.of_eq (site?_advanceShutdown world me actor elsewhere)
      obtain ⟨events, echoes, later, there, begun, after⟩ :=
        ih distinct.2 behind (stands.grows grows) (bare.echoes same)
      exact ⟨events, same.trans echoes, later, List.mem_cons_of_mem _ there, begun, after⟩

end World

end ClusterGateway
