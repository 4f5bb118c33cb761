import ClusterGateway.Proofs.Shutdown.Phases

/-!
# Gateways that are shut down together

A shutdown of several gateways takes one after the other as far as it can go, in no time. What it
does with one gateway happens elsewhere as far as the others are concerned, so each of them proceeds
by a timetable of its own (`Proceeds`), and all of them at the same time. Main statements:
`proceeds_advanceShutdowns`, `Proceeds.apply`.
-/

namespace ClusterGateway.World

variable {world before between after : World} {me task : TaskId} {actor : Option String}
  {site : SiteId} {sites : List SiteId} {running : Task} {part : Shutdown} {parts : List Shutdown}
  {table : Timetable} {profile : Profile} {told : List (Nat × LifecycleEvent)}
  {phase : ShutdownPhase} {woken later : Prop} {move : Move}

/-- The shutdown of a gateway proceeds by its timetable, and `told` is all that was announced of
it. -/
def Proceeds (world : World) (woken : Prop) (me : TaskId) (table : Timetable) (site : SiteId)
    (told : List (Nat × LifecycleEvent)) (phase : ShutdownPhase) : Prop :=
  ∃ lane profile middle, world.ClosingDown woken me table site lane profile middle phase ∧
    told = (table.begun, .shutdownInitiated) :: (middle ++ table.closing phase)

/-- A gateway announces events from one world to another. -/
def Announces (before after : World) (site : SiteId) (events : List LifecycleEvent) : Prop :=
  after.journal site = before.journal site ++ events

/-- Nothing is announced before something is. -/
theorem Announces.following {events : List LifecycleEvent}
    (second : Announces between after site events) (first : Announces before between site []) :
    Announces before after site events := by
  rw [Announces, List.append_nil] at first
  rw [Announces, second, first]

/-- Nothing is announced after something was. -/
theorem Announces.followed {events : List LifecycleEvent}
    (first : Announces before between site events) (second : Announces between after site []) :
    Announces before after site events := by
  rw [Announces, List.append_nil] at second
  rw [Announces, second, first]

/-- A gateway that is seen with more events in its journal has announced them. -/
theorem announces_of_seen {last : Profile} {events : List LifecycleEvent}
    (seen : before.profile? site = some profile) (shown : after.profile? site = some last)
    (journal : last.journal = profile.journal ++ events) : Announces before after site events := by
  rw [Announces, journal_of_profile? seen, journal_of_profile? shown, journal]

/-- A gateway that is seen as it was has announced nothing. -/
theorem Elsewhere.announces (apart : Elsewhere me site before after)
    (seen : before.profile? site = some profile) : Announces before after site [] :=
  announces_of_seen seen (apart.seen.trans seen) (List.append_nil _).symm

/-- The shutdown of a gateway that proceeds is seen. -/
theorem Proceeds.seen (proceeds : world.Proceeds woken me table site told phase) :
    ∃ profile, world.profile? site = some profile := by
  obtain ⟨lane, profile, middle, underway, -⟩ := proceeds
  exact ⟨profile, underway.seen⟩

/-- The shutdown of a gateway proceeds as before when something happens elsewhere. -/
theorem Proceeds.elsewhere (proceeds : before.Proceeds woken me table site told phase)
    (apart : Elsewhere me site before after)
    (awaits : phase ≠ .finished → ∀ due, before.AwaitsTime woken me due →
      after.AwaitsTime later me due)
    (wakes : woken → later ∧ after.now = before.now) (now : before.now ≤ after.now) :
    after.Proceeds later me table site told phase := by
  obtain ⟨lane, profile, middle, underway, complete⟩ := proceeds
  exact ⟨lane, profile, middle, underway.elsewhere apart awaits wakes now, complete⟩

/-- Nothing happens. -/
theorem Elsewhere.refl (me : TaskId) (site : SiteId) (world : World) :
    Elsewhere me site world world where
  seen := rfl
  delays := rfl
  born _ found _ there _ := ⟨found, there, rfl⟩
  stops task _ _ _ _ := .refl task world

/-- A shutdown that waits for a time to come waits for it even if it is ready. -/
theorem Proceeds.waits (proceeds : world.Proceeds False me table site told phase) :
    world.Proceeds later me table site told phase :=
  proceeds.elsewhere (.refl me site world)
    (fun _ _ awaits => awaits.imp_right fun due => due.2.elim)
    False.elim (Nat.le_refl _)

/-- While time stands still, what a shutdown does with other gateways happens elsewhere. -/
theorem elsewhere_of_strokes (mine : before.tasks[me]? = some running)
    (strokes : Strokes me (.shutdown sites false) False True before after)
    (grows : Grows before after) (foreign : site ∉ sites)
    (seen : before.profile? site = some profile) : Elsewhere me site before after where
  seen := profile?_of_strokes strokes foreign
  delays := delays_of_strokes strokes seen
  born task found component there stops := by
    cases here : before.tasks[task]? with
    | some earlier =>
      have same := (grows.tasks task earlier here).symm.trans there
      exact ⟨earlier, rfl, congrArg Task.purpose (Option.some.inj same)⟩
    | none =>
      have other : task ≠ me := by
        rintro rfl
        rw [mine] at here
        exact absurd here (by simp)
      obtain ⟨-, bears⟩ := strokes.taskFrame.born task found here there other
      have spares : site ∉ (Purpose.shutdown sites false).tearsDown := foreign
      have outside : site ∉ found.purpose.tearsDown :=
        outside_of_bears spares (bears.imp_right And.right)
      rw [stops] at outside
      exact absurd (List.mem_singleton.mpr rfl) outside
  stops task found component there stops :=
    leftAlone_of_still grows.now (fun found here => grows.tasks task found here)
      (fun waits => strokes.mem_ready waits) fun due set => grows.timers _ set

/-- A part that advances does so elsewhere as far as the other gateways are concerned. -/
theorem elsewhere_advanceShutdown (mine : world.tasks[me]? = some running)
    (actor : Option String) (foreign : part.site ≠ site)
    (seen : world.profile? site = some profile) :
    Elsewhere me site world (world.advanceShutdown me actor part).1 :=
  elsewhere_of_strokes mine (strokes_part world me actor part)
    (advance_advanceShutdown world me actor part).grows
    (fun there => foreign (List.mem_singleton.mp there).symm) seen

/-- Parts that advance do so elsewhere as far as the other gateways are concerned. -/
theorem elsewhere_advanceShutdowns (mine : world.tasks[me]? = some running)
    (actor : Option String) (foreign : site ∉ parts.map (·.site))
    (seen : world.profile? site = some profile) :
    Elsewhere me site world (world.advanceShutdowns me actor parts).1 :=
  elsewhere_of_strokes mine
    (strokes_advanceShutdowns world parts fun _ member => List.mem_map_of_mem member)
    (grows_advanceShutdowns world me actor parts) foreign seen

/-- A shutdown that runs proceeds as before while it does something elsewhere. -/
theorem Proceeds.aside (proceeds : before.Proceeds woken me table site told phase)
    (apart : Elsewhere me site before after) (grows : Grows before after) :
    after.Proceeds woken me table site told phase := by
  refine proceeds.elsewhere apart (fun _ due awaits => ?_) (fun woken => ⟨woken, grows.now⟩)
    (Nat.le_of_eq grows.now.symm)
  obtain ⟨early, set⟩ | ⟨same, woken⟩ := awaits
  · refine .inl ⟨?_, grows.timers _ set⟩
    rw [grows.now]
    exact early
  · exact .inr ⟨grows.now.trans same, woken⟩

/-- How far a shutdown that runs has come with a gateway. -/
inductive PartCourse (world : World) (me : TaskId) (table : Timetable) (part : Shutdown) :
    List (Nat × LifecycleEvent) → Prop
  | opening {profile : Profile} (opening : part.phase = .opening)
    (unopened : world.Unopened me table part.site profile) : PartCourse world me table part []
  | proceeds {told : List (Nat × LifecycleEvent)}
    (proceeds : world.Proceeds True me table part.site told part.phase) :
    PartCourse world me table part told

/-- The gateway of a part is seen. -/
theorem PartCourse.seen (course : world.PartCourse me table part told) :
    ∃ profile, world.profile? part.site = some profile := by
  cases course with
  | opening _ unopened => exact ⟨_, unopened.seen⟩
  | proceeds proceeds => exact proceeds.seen

/-- A part stays where it is while the shutdown does something elsewhere. -/
theorem PartCourse.aside (course : before.PartCourse me table part told)
    (apart : Elsewhere me part.site before after) (grows : Grows before after) :
    after.PartCourse me table part told := by
  cases course with
  | opening opening unopened => exact .opening opening (unopened.elsewhere apart grows.now)
  | proceeds proceeds => exact .proceeds (proceeds.aside apart grows)

/-- A part that advances proceeds by its timetable, and the gateway announces what the timetable
says. -/
theorem PartCourse.advance (course : world.PartCourse me table part told)
    (sturdy : world.script.stopFaults = []) (begun : part.begun = table.begun)
    (actor : Option String) :
    (world.advanceShutdown me actor part).2.begun = table.begun ∧
      ∃ events, Announces world (world.advanceShutdown me actor part).1 part.site events ∧
        (world.advanceShutdown me actor part).1.Proceeds False me table part.site
          (told ++ events.map (Prod.mk world.now))
            (world.advanceShutdown me actor part).2.phase := by
  cases course with
  | opening opening unopened =>
    obtain ⟨lane, last, journal, kept, silent, underway⟩ := unopened.advance opening begun actor
    refine ⟨kept, _, announces_of_seen unopened.seen underway.seen journal, lane, last, [],
      underway, ?_⟩
    rw [silent, unopened.instant]
    rfl
  | proceeds proceeds =>
    obtain ⟨lane, profile, middle, underway, rfl⟩ := proceeds
    obtain ⟨last, events, journal, kept, complete, further⟩ := underway.advance sturdy begun actor
    refine ⟨kept, events, announces_of_seen underway.seen further.seen journal, lane, last, middle,
      further, ?_⟩
    rw [complete, List.cons_append, List.append_assoc]

/-- A part that advances before the others proceeds by its timetable when they have advanced,
too. -/
theorem PartCourse.advance_first {rest : List Shutdown}
    (course : world.PartCourse me table part told) (mine : world.tasks[me]? = some running)
    (sturdy : world.script.stopFaults = []) (begun : part.begun = table.begun)
    (actor : Option String) (apart : part.site ∉ rest.map (·.site)) :
    ∃ events, Announces world (world.advanceShutdowns me actor (part :: rest)).1 part.site events ∧
      (world.advanceShutdowns me actor (part :: rest)).1.Proceeds False me table part.site
        (told ++ events.map (Prod.mk world.now)) (world.advanceShutdown me actor part).2.phase := by
  obtain ⟨-, events, announces, proceeds⟩ := course.advance sturdy begun actor
  obtain ⟨profile, seen⟩ := proceeds.seen
  have still : (world.advanceShutdown me actor part).1.tasks[me]? = some running :=
    (advance_advanceShutdown world me actor part).grows.tasks me running mine
  have aside := elsewhere_advanceShutdowns still actor apart seen
  exact ⟨events, announces.followed (aside.announces seen),
    proceeds.aside aside (grows_advanceShutdowns _ me actor rest)⟩

/-- Parts that advance one after the other proceed by their timetables, all of them at the same
time, and the gateways announce what the timetables say. -/
theorem proceeds_advanceShutdowns (table : SiteId → Timetable)
    (told : SiteId → List (Nat × LifecycleEvent)) (mine : world.tasks[me]? = some running)
    (sturdy : world.script.stopFaults = []) (actor : Option String)
    (distinct : (parts.map (·.site)).Nodup)
    (courses : ∀ part ∈ parts, part.begun = (table part.site).begun ∧
      world.PartCourse me (table part.site) part (told part.site)) :
    ∀ later ∈ (world.advanceShutdowns me actor parts).2,
      later.begun = (table later.site).begun ∧ ∃ events,
        Announces world (world.advanceShutdowns me actor parts).1 later.site events ∧
        (world.advanceShutdowns me actor parts).1.Proceeds False me (table later.site) later.site
          (told later.site ++ events.map (Prod.mk world.now)) later.phase := by
  induction parts generalizing world with
  | nil => exact fun later member => absurd member List.not_mem_nil
  | cons first rest ih =>
    rw [List.map_cons, List.nodup_cons] at distinct
    have grows : Grows world (world.advanceShutdown me actor first).1 :=
      (advance_advanceShutdown world me actor first).grows
    have aside (part : Shutdown) (there : part ∈ rest) :
        Elsewhere me part.site world (world.advanceShutdown me actor first).1 ∧
          Announces world (world.advanceShutdown me actor first).1 part.site [] := by
      obtain ⟨profile, seen⟩ := (courses part (List.mem_cons_of_mem _ there)).2.seen
      have differ : first.site ≠ part.site := fun same =>
        distinct.1 (same ▸ List.mem_map_of_mem there)
      have apart := elsewhere_advanceShutdown mine actor differ seen
      exact ⟨apart, apart.announces seen⟩
    intro later member
    obtain same | behind := List.mem_cons.mp member
    · have advanced : later = (world.advanceShutdown me actor first).2 := same
      have place : later.site = first.site := by
        rw [advanced]
        exact site_advanceShutdown world
      obtain ⟨begun, course⟩ := courses first List.mem_cons_self
      have kept := (course.advance sturdy begun actor).1
      have proceeds := course.advance_first mine sturdy begun actor distinct.1
      rw [place, advanced]
      exact ⟨kept, proceeds⟩
    · have onward : ∀ part ∈ rest, part.begun = (table part.site).begun ∧
          (world.advanceShutdown me actor first).1.PartCourse me (table part.site) part
            (told part.site) := by
        intro part there
        obtain ⟨begun, course⟩ := courses part (List.mem_cons_of_mem _ there)
        exact ⟨begun, course.aside (aside part there).1 grows⟩
      have firm : (world.advanceShutdown me actor first).1.script.stopFaults = [] := by
        rw [(strokes_part world me actor first).script_eq]
        exact sturdy
      obtain ⟨kept, events, announces, proceeds⟩ :=
        ih (grows.tasks me running mine) firm distinct.2 onward later behind
      have place : later.site ∈ rest.map (·.site) := by
        rw [← sites_advanceShutdowns (world.advanceShutdown me actor first).1 rest]
        exact List.mem_map_of_mem behind
      obtain ⟨part, there, here⟩ := List.mem_map.mp place
      have silent := (aside part there).2
      rw [here] at silent
      rw [grows.now] at proceeds
      exact ⟨kept, events, announces.following silent, proceeds⟩

/-- What is announced of the serving components is announced before the rest. -/
theorem told_append {middle shown : List (Nat × LifecycleEvent)}
    (early : shown = [] ∨ table.closing phase = []) (first : Nat × LifecycleEvent) :
    first :: (middle ++ table.closing phase) ++ shown =
      first :: ((middle ++ shown) ++ table.closing phase) := by
  obtain rfl | silent := early
  · rw [List.append_nil, List.append_nil]
  · rw [silent, List.append_nil, List.append_nil, List.cons_append]

/-- A shutdown proceeds by its timetable when one of its stop tasks runs. -/
theorem Proceeds.resume_stop {component : Component} {stop : TaskId} {found : Task}
    (proceeds : world.Proceeds (me ∈ world.ready) me table site told phase) (sound : world.Sound)
    (sturdy : world.script.stopFaults = []) (unowned : stop ≠ me) (ready : stop ∈ world.ready)
    (there : world.tasks[stop]? = some found)
    (stops : found.purpose = .stopComponent site component me) :
    ∃ events, Announces world (world.resume stop) site events ∧
      (world.resume stop).Proceeds (me ∈ (world.resume stop).ready) me table site
        (told ++ events.map (Prod.mk world.now)) phase := by
  obtain ⟨lane, profile, middle, underway, rfl⟩ := proceeds
  obtain ⟨serving, rfl⟩ := underway.only stop found component there stops
  obtain ⟨last, events, journal, early, further⟩ :=
    underway.resume_stop sound sturdy unowned serving ready
  refine ⟨events, announces_of_seen underway.seen further.seen journal, lane, last, _, further, ?_⟩
  exact told_append (early.imp_left (congrArg (List.map (Prod.mk world.now)))) _

/-- A shutdown proceeds by its timetable whatever others do: only its own stop tasks have to do with
its gateway. -/
theorem Proceeds.apply (proceeds : world.Proceeds (me ∈ world.ready) me table site told phase)
    (sound : world.Sound) (sturdy : world.script.stopFaults = [])
    (free : world.isOpen move = true) (mine : world.tasks[me]? = some running)
    (teardown : running.purpose.IsTeardown) (foreign : ¬ move.IsOwn me)
    (sole : ∀ (task : TaskId) (found : Task), move = .resume task →
      world.tasks[task]? = some found → site ∈ found.purpose.tearsDown →
        ∃ component, found.purpose = .stopComponent site component me) :
    ∃ events, Announces world (world.apply move) site events ∧
      (world.apply move).Proceeds (me ∈ (world.apply move).ready) me table site
        (told ++ events.map (Prod.mk world.now)) phase := by
  by_cases near : ∃ (task : TaskId) (found : Task), move = .resume task ∧
      world.tasks[task]? = some found ∧ site ∈ found.purpose.tearsDown
  · obtain ⟨stop, found, rfl, there, tears⟩ := near
    obtain ⟨component, stops⟩ := sole stop found rfl there tears
    have ready : stop ∈ world.ready := by simpa [isOpen] using free
    have unowned : stop ≠ me := fun same => foreign (.inl (congrArg Move.resume same))
    exact proceeds.resume_stop sound sturdy unowned ready there stops
  · have away : ∀ (task : TaskId) (found : Task), move = .resume task →
        world.tasks[task]? = some found → site ∉ found.purpose.tearsDown :=
      fun task found resumes there tears => near ⟨task, found, resumes, there, tears⟩
    obtain ⟨profile, seen⟩ := proceeds.seen
    have apart := elsewhere_apply sound free seen away fun same => foreign (.inl same)
    have spared := leftAlone_apply sound free mine teardown foreign
    refine ⟨[], apart.announces seen, ?_⟩
    rw [List.map_nil, List.append_nil]
    exact proceeds.elsewhere apart (fun _ => spared.awaits) spared.ready spared.now

end ClusterGateway.World
