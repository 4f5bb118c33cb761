import ClusterGateway.Proofs.Shutdown.Histories
import ClusterGateway.Proofs.Shutdown.Parts

/-!
# Where a shutdown stands

A call that shuts gateways down has not run, or it waits for some of its gateways, or it has
returned. At each of them it keeps to a timetable that is known from the instant of the call, as
long as no other call shuts them down and the call is not cancelled (`Standing`). Every open move
keeps this, and the gateways announce nothing but what the timetables say. Main statement:
`ShutdownCourse.apply`.
-/

namespace ClusterGateway

/-- Tasks of a purpose shut down certain gateways. -/
def Purpose.Shuts (purpose : Purpose) (sites : List SiteId) : Prop :=
  (∃ site, purpose = .request site .stop ∧ sites = [site]) ∨
    ∃ logged, purpose = .shutdown sites logged

namespace Purpose.Shuts

variable {purpose : Purpose} {sites : List SiteId}

/-- The gateways that such a task shuts down. -/
theorem shutsDown_eq (shuts : purpose.Shuts sites) : purpose.shutsDown = sites := by
  obtain ⟨site, rfl, rfl⟩ | ⟨logged, rfl⟩ := shuts
  · rfl
  · rfl

/-- Such a task shuts gateways down. -/
theorem isTeardown (shuts : purpose.Shuts sites) : purpose.IsTeardown := by
  obtain ⟨site, rfl, rfl⟩ | ⟨logged, rfl⟩ := shuts
  · trivial
  · trivial

/-- Such a task is not a stop task. -/
theorem not_stopsFor (shuts : purpose.Shuts sites) (parent : TaskId) :
    ¬ purpose.StopsFor parent := by
  rintro ⟨site, component, same⟩
  obtain ⟨place, rfl, -⟩ | ⟨logged, rfl⟩ := shuts
  · exact Purpose.noConfusion same
  · exact Purpose.noConfusion same

end Purpose.Shuts

namespace World

variable {world before after : World} {me task : TaskId} {actor : Option String} {site : SiteId}
  {sites : List SiteId} {running : Task} {parts : List Shutdown} {begun : Nat}
  {delay : SiteId → Component → Nat} {told : SiteId → List (Nat × LifecycleEvent)} {stage : Stage}
  {move : Move}

/-- Nothing else than a call and its stop tasks has to do with the end of certain gateways. -/
def Sole (world : World) (me : TaskId) (sites : List SiteId) : Prop :=
  ∀ (task : TaskId) (found : Task), world.tasks[task]? = some found → ∀ site ∈ sites,
    site ∈ found.purpose.tearsDown →
      task = me ∨ ∃ component, found.purpose = .stopComponent site component me

/-- What a task starts that has to do with the end of a gateway is one of its own stop tasks. -/
theorem stopComponent_of_bears {purpose child : Purpose} (bears : purpose.Bears me child)
    (tears : site ∈ child.tearsDown) :
    site ∈ purpose.shutsDown ∧ ∃ component, child = .stopComponent site component me := by
  unfold Purpose.Bears at bears
  split at bears
  · exact absurd tears List.not_mem_nil
  · exact absurd tears List.not_mem_nil
  · obtain ⟨rfl, -, rfl⟩ := bears
    obtain rfl := List.mem_singleton.mp tears
    exact ⟨List.mem_singleton.mpr rfl, _, rfl⟩
  · obtain ⟨there, -, rfl⟩ := bears
    obtain rfl := List.mem_singleton.mp tears
    exact ⟨there, _, rfl⟩
  · exact bears.elim

/-- What a request hands on has nothing to do with the end of a gateway. -/
theorem not_mem_tearsDown_of_handsOn {purpose child : Purpose} (hands : purpose.HandsOn me child) :
    site ∉ child.tearsDown := by
  unfold Purpose.HandsOn at hands
  split at hands
  · exact List.not_mem_nil
  · exact hands.elim

/-- Nobody else comes to shut the gateways down as long as no other call does. -/
theorem Sole.apply (sole : world.Sole me sites) (sound : world.Sound)
    (free : world.isOpen move = true) (single : ∀ site ∈ sites, site ∉ move.shutsDown) :
    (world.apply move).Sole me sites := by
  intro task found there site member tears
  obtain born | ⟨earlier, here, same⟩ := born_or_kept sound free there
  · have away := single site member
    generalize found.purpose = purpose at born tears
    cases born with
    | request place request =>
      cases request with
      | stop => exact absurd tears away
      | _ => exact absurd tears List.not_mem_nil
    | shutdown distinct logged => exact absurd tears away
    | borne mine bears =>
      obtain ⟨shuts, component, rfl⟩ := stopComponent_of_bears bears tears
      obtain rfl | ⟨other, stops⟩ := sole _ _ mine site member (mem_tearsDown shuts)
      · exact .inr ⟨component, rfl⟩
      · rw [stops] at shuts
        exact absurd shuts List.not_mem_nil
    | handed mine hands => exact absurd tears (not_mem_tearsDown_of_handsOn hands)
  · rw [← same] at tears ⊢
    exact sole task earlier here site member tears

/-- In a move of others, a task that runs and has to do with the end of one of the gateways is a
stop task of the call. -/
theorem Sole.stopComponent (sole : world.Sole me sites) (foreign : ¬ move.IsOwn me)
    (member : site ∈ sites) (task : TaskId) (found : Task) (resumes : move = .resume task)
    (there : world.tasks[task]? = some found) (tears : site ∈ found.purpose.tearsDown) :
    ∃ component, found.purpose = .stopComponent site component me := by
  obtain rfl | stops := sole task found there site member tears
  · exact absurd (.inl resumes) foreign
  · exact stops

/-- The events that a gateway has announced from one world to another. -/
def announcements (before after : World) (site : SiteId) : List LifecycleEvent :=
  (after.journal site).drop (before.journal site).length

/-- What a gateway has announced is what was added to its journal. -/
theorem Announces.eq {events : List LifecycleEvent}
    (announces : Announces before after site events) :
    announcements before after site = events := by
  rw [announcements, announces, List.drop_left]

/-- What was announced of the gateways after something has happened. -/
def toldAfter (told : SiteId → List (Nat × LifecycleEvent)) (before after : World) (site : SiteId) :
    List (Nat × LifecycleEvent) :=
  told site ++ (announcements before after site).map (Prod.mk before.now)

/-- What gateways announce is read off them. -/
theorem toldAfter_congr {between : World} (sites : after.sites = between.sites) :
    toldAfter told before after = toldAfter told before between := by
  funext site
  have same : after.journal site = between.journal site := by
    unfold journal
    rw [sites]
  rw [toldAfter, toldAfter, announcements, announcements, same]

/-- Where nothing has happened, nothing was announced. -/
theorem toldAfter_self (told : SiteId → List (Nat × LifecycleEvent)) (world : World) :
    toldAfter told world world = told := by
  funext site
  rw [toldAfter, announcements, List.drop_length, List.map_nil, List.append_nil]

/-- Where a call stands that shuts gateways down, in a stage of its task; what was announced of each
gateway is told. -/
inductive Standing (world : World) (me : TaskId) (sites : List SiteId) (begun : Nat)
    (delay : SiteId → Component → Nat) (told : SiteId → List (Nat × LifecycleEvent)) : Stage → Prop
  | unrun (ready : me ∈ world.ready) (instant : world.now = begun)
    (silent : ∀ site ∈ sites, told site = [])
    (unopened : ∀ site ∈ sites, ∃ profile, world.Unopened me ⟨begun, delay site⟩ site profile) :
    Standing world me sites begun delay told .fresh
  | underway {parts : List Shutdown} (same : parts.map (·.site) = sites)
    (unfinished : ∃ part ∈ parts, part.phase ≠ .finished)
    (proceeds : ∀ part ∈ parts, part.begun = begun ∧
      world.Proceeds (me ∈ world.ready) me ⟨begun, delay part.site⟩ part.site (told part.site)
        part.phase) :
    Standing world me sites begun delay told (.shuttingDown parts)
  | settled (proceeds : ∀ site ∈ sites,
      world.Proceeds (me ∈ world.ready) me ⟨begun, delay site⟩ site (told site) .finished) :
    Standing world me sites begun delay told (.ended (.returned (.ok .done)))

/-- What a shutdown does to itself happens elsewhere as far as its gateways are concerned. -/
theorem elsewhere_of_own (mine : before.tasks[me]? = some running)
    (whole : ∀ parent, ¬ running.purpose.StopsFor parent) (sites : after.sites = before.sites)
    (script : after.script = before.script)
    (kept : ∃ stage, after.tasks[me]? = some { running with stage := stage })
    (others : ∀ task ≠ me, after.tasks[task]? = before.tasks[task]?)
    (alone : ∀ task ≠ me, LeftAlone task before after) : Elsewhere me site before after where
  seen := profile?_congr (by rw [sites])
  delays := delays_of_sites (by rw [sites]) script
  born task found component there stops := by
    have other : task ≠ me := by
      rintro rfl
      obtain ⟨stage, here⟩ := kept
      obtain rfl := Option.some.inj (here.symm.trans there)
      exact whole task ⟨site, component, stops⟩
    rw [others task other] at there
    exact ⟨found, there, rfl⟩
  stops task found component there stops := by
    have other : task ≠ me := by
      rintro rfl
      obtain rfl := Option.some.inj (mine.symm.trans there)
      exact whole task ⟨site, component, stops⟩
    exact alone task other

/-- The task of a call after it was stored how far it has come. -/
theorem tasks_setStage (mine : world.tasks[me]? = some running) :
    (world.setStage me stage).tasks[me]? = some { running with stage := stage } := by
  rw [getElem?_setStage, if_pos rfl, mine]
  rfl

/-- The task of a call after it has ended. -/
theorem tasks_finish {outcome : Outcome} (mine : world.tasks[me]? = some running) :
    (world.finish me outcome).tasks[me]? = some { running with stage := .ended outcome } := by
  rw [getElem?_finish, if_pos rfl, mine]
  rfl

/-- A shutdown proceeds as before when something is written to the log. -/
theorem Proceeds.beside {table : Timetable} {shown : List (Nat × LifecycleEvent)}
    {phase : ShutdownPhase} (proceeds : before.Proceeds False me table site shown phase)
    (sites : after.sites = before.sites) (beside : Beside before after) :
    after.Proceeds False me table site shown phase := by
  have apart : Elsewhere me site before after := by
    refine ⟨profile?_congr (by rw [sites]), delays_of_sites (by rw [sites]) beside.script,
      fun task found component there _ => ?_, fun task _ _ _ _ => beside.leftAlone task⟩
    rw [beside.tasks] at there
    exact ⟨found, there, rfl⟩
  exact proceeds.aside apart beside.grows

/-- A shutdown that proceeds has begun and has not broken down. -/
theorem Proceeds.stands {woken : Prop} {table : Timetable} {phase : ShutdownPhase}
    {shown : List (Nat × LifecycleEvent)}
    (proceeds : world.Proceeds woken me table site shown phase) :
    phase ≠ .opening ∧ phase ≠ .broken := by
  obtain ⟨lane, profile, middle, underway, -⟩ := proceeds
  cases underway.onTime with
  | _ => exact ⟨nofun, nofun⟩

/-- A call that waits for some of its gateways stores how far it has come. -/
theorem standing_setStage (mine : world.tasks[me]? = some running)
    (whole : ∀ parent, ¬ running.purpose.StopsFor parent) (same : parts.map (·.site) = sites)
    (unfinished : ∃ part ∈ parts, part.phase ≠ .finished)
    (proceeds : ∀ part ∈ parts, part.begun = begun ∧
      world.Proceeds False me ⟨begun, delay part.site⟩ part.site (told part.site) part.phase) :
    (world.setStage me (.shuttingDown parts)).Standing me sites begun delay told
      (.shuttingDown parts) := by
  refine .underway same unfinished fun part member => ?_
  obtain ⟨kept, proceeds⟩ := proceeds part member
  have apart : Elsewhere me part.site world (world.setStage me (.shuttingDown parts)) := by
    refine elsewhere_of_own mine whole rfl rfl ⟨_, tasks_setStage mine⟩ (fun task other => ?_)
      fun task other => leftAlone_setStage other _
    rw [getElem?_setStage, if_neg (Ne.symm other)]
  exact ⟨kept, (proceeds.elsewhere apart (fun _ _ awaits => awaits) False.elim
    (Nat.le_refl _)).waits⟩

/-- A call that is over with all of its gateways returns. -/
theorem standing_finish (mine : world.tasks[me]? = some running)
    (whole : ∀ parent, ¬ running.purpose.StopsFor parent)
    (proceeds : ∀ site ∈ sites,
      world.Proceeds False me ⟨begun, delay site⟩ site (told site) .finished) :
    (world.finish me (.returned (.ok .done))).Standing me sites begun delay told
      (.ended (.returned (.ok .done))) := by
  refine .settled fun site member => ?_
  have apart : Elsewhere me site world (world.finish me (.returned (.ok .done))) := by
    refine elsewhere_of_own mine whole rfl rfl ⟨_, tasks_finish mine⟩ (fun task other => ?_)
      fun task other => leftAlone_finish other _
    rw [getElem?_finish, if_neg (Ne.symm other)]
  exact ((proceeds site member).elsewhere apart (fun differ => absurd rfl differ) False.elim
    (Nat.le_refl _)).waits

/-- What a shutdown of several gateways comes to after its parts have advanced: none of them has
broken down, so it returns if all of them are over, and waits otherwise. -/
theorem continueShutdown_eq {laters : List Shutdown} (logged : Bool)
    (advances : world.advanceShutdowns me actor parts = (after, laters))
    (whole : ∀ part ∈ laters, part.phase ≠ .broken) :
    world.continueShutdown me actor logged parts =
      if ∀ part ∈ laters, part.phase = .finished then
        (if logged then after.note actor [⟨.info, "all cluster proxies stopped", []⟩]
          else after).finish me (.returned (.ok .done))
      else after.setStage me (.shuttingDown laters) := by
  have unbroken : laters.any (·.phase == .broken) = false := by
    rw [List.any_eq_false]
    intro part member broken
    exact whole part member (beq_iff_eq.mp broken)
  have all_iff : laters.all (·.phase == .finished) = true ↔
      ∀ part ∈ laters, part.phase = .finished := by
    simp only [List.all_eq_true, beq_iff_eq]
  unfold continueShutdown
  simp only [advances, unbroken, Bool.false_eq_true, ↓reduceIte, all_iff]

/-- A shutdown that waits or has returned after its parts have advanced stands by its timetables. -/
theorem standing_continueShutdown (mine : world.tasks[me]? = some running)
    (shuts : running.purpose.Shuts sites) (sturdy : world.script.stopFaults = [])
    (distinct : sites.Nodup) (same : parts.map (·.site) = sites)
    (courses : ∀ part ∈ parts, part.begun = begun ∧
      world.PartCourse me ⟨begun, delay part.site⟩ part (told part.site))
    (actor : Option String) (logged : Bool) :
    ∃ stage, (world.continueShutdown me actor logged parts).tasks[me]? =
        some { running with stage := stage } ∧
      (world.continueShutdown me actor logged parts).Standing me sites begun delay
        (toldAfter told world (world.continueShutdown me actor logged parts)) stage := by
  obtain ⟨after, laters, advances⟩ : ∃ after laters,
      world.advanceShutdowns me actor parts = (after, laters) := ⟨_, _, rfl⟩
  rw [← same] at distinct
  have proceeds := proceeds_advanceShutdowns (fun site => ⟨begun, delay site⟩) told mine sturdy
    actor distinct courses
  have places : (world.advanceShutdowns me actor parts).2.map (·.site) = parts.map (·.site) :=
    sites_advanceShutdowns world parts
  have grows := grows_advanceShutdowns world me actor parts
  rw [advances] at proceeds places grows
  have here := grows.tasks me running mine
  have unbroken : ∀ part ∈ laters, part.phase ≠ .broken := by
    intro part member
    obtain ⟨-, events, -, stands⟩ := proceeds part member
    exact stands.stands.2
  have announced (later : Shutdown) (member : later ∈ laters) : later.begun = begun ∧
      after.Proceeds False me ⟨begun, delay later.site⟩ later.site
        (toldAfter told world after later.site) later.phase := by
    obtain ⟨kept, events, announces, stands⟩ := proceeds later member
    rw [toldAfter, announces.eq]
    exact ⟨kept, stands⟩
  rw [continueShutdown_eq logged advances unbroken]
  split
  · rename_i finished
    obtain ⟨noted, form, still, beside⟩ : ∃ noted, (if logged then after.note actor
        [⟨.info, "all cluster proxies stopped", []⟩] else after) = noted ∧
          noted.sites = after.sites ∧ Beside after noted := by
      split
      · exact ⟨_, rfl, rfl, (Beside.refl after).note actor _⟩
      · exact ⟨after, rfl, rfl, .refl after⟩
    have there : noted.tasks[me]? = some running := by
      rw [beside.tasks]
      exact here
    have same_sites : (noted.finish me (.returned (.ok .done))).sites = after.sites := still
    rw [form, toldAfter_congr same_sites]
    refine ⟨_, tasks_finish there, standing_finish there shuts.not_stopsFor fun site member => ?_⟩
    rw [← same, ← places] at member
    obtain ⟨later, there, rfl⟩ := List.mem_map.mp member
    have stands := (announced later there).2
    rw [finished later there] at stands
    exact stands.beside still beside
  · rename_i unfinished
    have same_sites : (after.setStage me (.shuttingDown laters)).sites = after.sites := rfl
    rw [toldAfter_congr same_sites]
    refine ⟨_, tasks_setStage here, standing_setStage here shuts.not_stopsFor (places.trans same) ?_
      announced⟩
    simpa using unfinished

/-- A call that leaves the line finds its gateways as they were. -/
theorem elsewhere_taken (mine : world.tasks[me]? = some running)
    (whole : ∀ parent, ¬ running.purpose.StopsFor parent) :
    Elsewhere me site world { world with ready := world.ready.erase me } :=
  elsewhere_of_own mine whole rfl rfl ⟨running.stage, mine⟩ (fun _ _ => rfl)
    fun _ other => leftAlone_taken other

/-- A shutdown that is over waits for nothing. -/
theorem Proceeds.rests {woken later : Prop} {table : Timetable}
    {shown : List (Nat × LifecycleEvent)}
    (proceeds : world.Proceeds woken me table site shown .finished) :
    world.Proceeds later me table site shown .finished := by
  obtain ⟨lane, profile, middle, underway, complete⟩ := proceeds
  cases underway.onTime with
  | finished settled late =>
    exact ⟨lane, profile, middle, { underway with onTime := .finished settled late }, complete⟩

/-- A call that has returned does nothing when it leaves the line. -/
theorem standing_taken (mine : world.tasks[me]? = some running)
    (whole : ∀ parent, ¬ running.purpose.StopsFor parent)
    (proceeds : ∀ site ∈ sites,
      world.Proceeds (me ∈ world.ready) me ⟨begun, delay site⟩ site (told site) .finished) :
    ({ world with ready := world.ready.erase me } : World).Standing me sites begun delay told
      (.ended (.returned (.ok .done))) := by
  refine .settled fun site member => ?_
  have rests : world.Proceeds False me ⟨begun, delay site⟩ site (told site) .finished :=
    (proceeds site member).rests
  exact (rests.elsewhere (elsewhere_taken mine whole) (fun differ => absurd rfl differ) False.elim
    (Nat.le_refl _)).waits

/-- A call that runs first begins to shut its gateways down. -/
theorem standing_begin (mine : world.tasks[me]? = some running)
    (shuts : running.purpose.Shuts sites) (sturdy : world.script.stopFaults = [])
    (distinct : sites.Nodup) (instant : world.now = begun) (silent : ∀ site ∈ sites, told site = [])
    (unopened : ∀ site ∈ sites, ∃ profile, world.Unopened me ⟨begun, delay site⟩ site profile)
    {taken : World} (takes : { world with ready := world.ready.erase me } = taken)
    (actor : Option String) (logged : Bool) :
    ∃ stage, (taken.continueShutdown me actor logged
        (sites.map fun site => ⟨site, world.now, .opening⟩)).tasks[me]? =
          some { running with stage := stage } ∧
      (taken.continueShutdown me actor logged
        (sites.map fun site => ⟨site, world.now, .opening⟩)).Standing me sites begun delay
          (toldAfter told taken (taken.continueShutdown me actor logged
            (sites.map fun site => ⟨site, world.now, .opening⟩))) stage := by
  have apart (site : SiteId) : Elsewhere me site world taken :=
    takes ▸ elsewhere_taken mine shuts.not_stopsFor
  have here : taken.tasks[me]? = some running := takes ▸ mine
  have firm : taken.script.stopFaults = [] := takes ▸ sturdy
  have now : taken.now = world.now := takes ▸ rfl
  refine standing_continueShutdown here shuts firm distinct ?_ (fun part member => ?_) actor logged
  · rw [List.map_map]
    exact List.map_id sites
  · obtain ⟨site, there, rfl⟩ := List.mem_map.mp member
    obtain ⟨profile, whole⟩ := unopened site there
    refine ⟨instant, ?_⟩
    rw [silent site there]
    exact .opening rfl (whole.elsewhere (apart site) now)

/-- A call that waits for some of its gateways goes on. -/
theorem standing_proceed (mine : world.tasks[me]? = some running)
    (shuts : running.purpose.Shuts sites) (sturdy : world.script.stopFaults = [])
    (distinct : sites.Nodup) (same : parts.map (·.site) = sites)
    (proceeds : ∀ part ∈ parts, part.begun = begun ∧
      world.Proceeds (me ∈ world.ready) me ⟨begun, delay part.site⟩ part.site (told part.site)
        part.phase)
    {taken : World} (takes : { world with ready := world.ready.erase me } = taken)
    (actor : Option String) (logged : Bool) :
    ∃ stage, (taken.continueShutdown me actor logged parts).tasks[me]? =
        some { running with stage := stage } ∧
      (taken.continueShutdown me actor logged parts).Standing me sites begun delay
        (toldAfter told taken (taken.continueShutdown me actor logged parts)) stage := by
  have apart (site : SiteId) : Elsewhere me site world taken :=
    takes ▸ elsewhere_taken mine shuts.not_stopsFor
  have here : taken.tasks[me]? = some running := takes ▸ mine
  have firm : taken.script.stopFaults = [] := takes ▸ sturdy
  have now : taken.now = world.now := takes ▸ rfl
  have awaits (due : Nat) (awaits : world.AwaitsTime (me ∈ world.ready) me due) :
      taken.AwaitsTime True me due := by
    rw [← takes]
    exact awaits.imp_right fun due => ⟨due.1, trivial⟩
  refine standing_continueShutdown here shuts firm distinct same (fun part member => ?_) actor
    logged
  obtain ⟨kept, proceeds⟩ := proceeds part member
  exact ⟨kept, .proceeds (proceeds.elsewhere (apart part.site) (fun _ => awaits)
    (fun _ => ⟨trivial, now⟩) (Nat.le_of_eq now.symm))⟩

/-- A call stands by its timetables after it has run. -/
theorem Standing.resume (standing : world.Standing me sites begun delay told running.stage)
    (mine : world.tasks[me]? = some running) (shuts : running.purpose.Shuts sites)
    (fits : running.stage.Fits running.purpose) (sturdy : world.script.stopFaults = [])
    (distinct : sites.Nodup) :
    ∃ stage, (world.resume me).tasks[me]? = some { running with stage := stage } ∧
      (world.resume me).Standing me sites begun delay (toldAfter told world (world.resume me))
        stage := by
  obtain ⟨taken, takes⟩ : ∃ taken, { world with ready := world.ready.erase me } = taken := ⟨_, rfl⟩
  have same_told (after : World) : toldAfter told world after = toldAfter told taken after := by
    rw [← takes]
    rfl
  have forms := resume_shutdown_forms mine fits shuts.isTeardown shuts.not_stopsFor takes
  rw [same_told]
  generalize waits_at : running.stage = stage at standing
  cases standing with
  | unrun ready instant silent unopened =>
    obtain ⟨outcome, ended, -⟩ | ⟨⟨site, stops, absent⟩, -⟩ | ⟨logged, parts, resumes, waits⟩ :=
      forms
    · exact absurd (waits_at.symm.trans ended) nofun
    · have member : site ∈ sites := by
        rw [← shuts.shutsDown_eq, stops]
        exact List.mem_singleton.mpr rfl
      obtain ⟨profile, whole⟩ := unopened site member
      obtain ⟨found, there, -⟩ := exists_site_of_profile? whole.seen
      exact absurd (absent.symm.trans there) nofun
    · obtain stage_eq | ⟨-, rfl⟩ := waits
      · exact absurd (waits_at.symm.trans stage_eq) nofun
      · rw [resumes, shuts.shutsDown_eq]
        exact standing_begin mine shuts sturdy distinct instant silent unopened takes _ logged
  | underway same unfinished proceeds =>
    obtain ⟨outcome, ended, -⟩ | ⟨-, fresh, -⟩ | ⟨logged, parts, resumes, waits⟩ := forms
    · exact absurd (waits_at.symm.trans ended) nofun
    · exact absurd (waits_at.symm.trans fresh) nofun
    · obtain stage_eq | ⟨fresh, -⟩ := waits
      · obtain rfl := Stage.shuttingDown.inj (waits_at.symm.trans stage_eq)
        rw [resumes]
        exact standing_proceed mine shuts sturdy distinct same proceeds takes _ logged
      · exact absurd (waits_at.symm.trans fresh) nofun
  | settled proceeds =>
    obtain ⟨outcome, ended, resumes⟩ | ⟨-, fresh, -⟩ | ⟨logged, parts, -, waits⟩ := forms
    · rw [resumes, toldAfter_self, ← takes]
      exact ⟨_, mine.trans (by rw [← waits_at]), standing_taken mine shuts.not_stopsFor proceeds⟩
    · exact absurd (waits_at.symm.trans fresh) nofun
    · obtain stage_eq | ⟨fresh, -⟩ := waits
      · exact absurd (waits_at.symm.trans stage_eq) nofun
      · exact absurd (waits_at.symm.trans fresh) nofun

/-- A call stands where it did after the moves of others. -/
theorem Standing.others (standing : world.Standing me sites begun delay told running.stage)
    (mine : world.tasks[me]? = some running) (shuts : running.purpose.Shuts sites)
    (sound : world.Sound) (sturdy : world.script.stopFaults = [])
    (free : world.isOpen move = true) (foreign : ¬ move.IsOwn me) (sole : world.Sole me sites) :
    (world.apply move).Standing me sites begun delay (toldAfter told world (world.apply move))
      running.stage := by
  have spared := leftAlone_apply sound free mine shuts.isTeardown foreign
  have unowned : move ≠ .resume me := fun same => foreign (.inl same)
  have proceeds (site : SiteId) (member : site ∈ sites) (phase : ShutdownPhase)
      (before : world.Proceeds (me ∈ world.ready) me ⟨begun, delay site⟩ site (told site) phase) :
      (world.apply move).Proceeds (me ∈ (world.apply move).ready) me ⟨begun, delay site⟩ site
        (toldAfter told world (world.apply move) site) phase := by
    obtain ⟨events, announces, after⟩ :=
      before.apply sound sturdy free mine shuts.isTeardown foreign
        (sole.stopComponent foreign member)
    rw [toldAfter, announces.eq]
    exact after
  generalize running.stage = stage at standing
  cases standing with
  | unrun ready instant silent unopened =>
    have apart (site : SiteId) (member : site ∈ sites) : ∃ profile,
        world.Unopened me ⟨begun, delay site⟩ site profile ∧
          Elsewhere me site world (world.apply move) := by
      obtain ⟨profile, whole⟩ := unopened site member
      refine ⟨profile, whole, elsewhere_apply sound free whole.seen ?_ unowned⟩
      intro task found resumes there tears
      obtain ⟨component, stops⟩ := sole.stopComponent foreign member task found resumes there tears
      exact whole.idle task found component there stops
    obtain ⟨waits, still⟩ := spared.ready ready
    refine .unrun waits (still.trans instant) (fun site member => ?_) fun site member => ?_
    · obtain ⟨profile, whole, aside⟩ := apart site member
      rw [toldAfter, (aside.announces whole.seen).eq, silent site member]
      rfl
    · obtain ⟨profile, whole, aside⟩ := apart site member
      exact ⟨profile, whole.elsewhere aside still⟩
  | underway same unfinished before =>
    refine .underway same unfinished fun part member => ?_
    have place : part.site ∈ sites := same ▸ List.mem_map_of_mem member
    obtain ⟨kept, stands⟩ := before part member
    exact ⟨kept, proceeds part.site place part.phase stands⟩
  | settled before =>
    exact .settled fun site member => proceeds site member .finished (before site member)

/-- A call that shuts gateways down keeps to its timetables, and nobody else shuts them down. -/
structure ShutdownCourse (world : World) (me : TaskId) (sites : List SiteId) (begun : Nat)
    (delay : SiteId → Component → Nat) (told : SiteId → List (Nat × LifecycleEvent)) : Prop where
  sound : world.Sound
  sturdy : world.script.stopFaults = []
  sole : world.Sole me sites
  distinct : sites.Nodup
  late : begun ≤ world.now
  stands : ∃ running, world.tasks[me]? = some running ∧ running.purpose.Shuts sites ∧
    world.Standing me sites begun delay told running.stage

/-- A call that shuts gateways down keeps to its timetables in all open moves, unless it is
cancelled, or another call shuts one of the gateways down. -/
theorem ShutdownCourse.apply (course : world.ShutdownCourse me sites begun delay told)
    (free : world.isOpen move = true) (kept : move ≠ .cancel me)
    (single : ∀ site ∈ sites, site ∉ move.shutsDown) :
    (world.apply move).ShutdownCourse me sites begun delay
      (toldAfter told world (world.apply move)) := by
  obtain ⟨sound, sturdy, sole, distinct, late, running, mine, shuts, standing⟩ := course
  refine ⟨sound.apply free, ?_, sole.apply sound free single, distinct,
    Nat.le_trans late (le_now_apply sound move), ?_⟩
  · rw [(apply_fields sound move).1]
    exact sturdy
  · by_cases own : move = .resume me
    · subst own
      obtain ⟨stage, there, stands⟩ :=
        standing.resume mine shuts (sound me running mine).1 sturdy distinct
      exact ⟨_, there, shuts, stands⟩
    · have foreign : ¬ move.IsOwn me := fun mine => mine.elim own kept
      exact ⟨running, tasks_apply_of_foreign sound mine shuts.isTeardown foreign, shuts,
        standing.others mine shuts sound sturdy free foreign sole⟩

end World

end ClusterGateway
