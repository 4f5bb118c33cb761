import ClusterGateway.Proofs.Shutdown.Advances

/-!
# Every move changes the teardown of a gateway as the ledger says

A task that is resumed makes strides of its own in the ledger, which are steps where no stop
breaks down; somebody who calls or cancels a shutdown changes the ledger by that; all other
moves leave it alone.
-/

namespace ClusterGateway

namespace Ledger

variable {me : TaskId} {ledger : Ledger}

/-- A shutdown stays in its place when it is put there. -/
theorem put_self {progress : Progress} (there : ledger.shutdowns me = some progress) :
    ledger.put me progress = ledger := by
  refine Ledger.ext rfl rfl rfl (funext fun other => ?_)
  by_cases self : other = me
  · subst self
    simp [put, there]
  · simp [put, self]

/-- The last place that a stop task was put in counts. -/
theorem putStop_putStop (ledger : Ledger) (first second : StopEntry) :
    (ledger.putStop me first).putStop me second = ledger.putStop me second := by
  refine Ledger.ext rfl rfl (funext fun other => ?_) rfl
  by_cases self : other = me <;> simp [putStop, self]

end Ledger

namespace World

variable {world : World} {me : TaskId} {site : SiteId} {actor : Option String} {running : Task}
  {breaks : Prop}

/-- The progress of a shutdown is where its task waits. -/
theorem ledger_setStage_shutdown (mine : world.tasks[me]? = some running)
    (shuts : site ∈ running.purpose.shutsDown) (stage : Stage) :
    (world.setStage me stage).ledger site = (world.ledger site).put me (stage.progress site) := by
  have still : (world.setStage me stage).tasks[me]? = some { running with stage := stage } := by
    rw [getElem?_setStage, mine]
    exact if_pos rfl
  have some_ : running.purpose.shutsDown ≠ [] := List.ne_nil_of_mem shuts
  refine Ledger.ext rfl rfl (funext fun other => ?_) (funext fun other => ?_)
  · by_cases self : other = me
    · subst self
      exact (stops_ledger_of_shutsDown still some_).trans
        (stops_ledger_of_shutsDown mine some_).symm
    · simp only [ledger, getElem?_setStage, Ne.symm self, if_false, Ledger.put]
  · by_cases self : other = me
    · subst self
      simp only [ledger, still, Option.bind_some, Task.progress?, shuts, if_true, Ledger.put]
    · simp only [ledger, getElem?_setStage, Ne.symm self, self, if_false, Ledger.put]

/-- Parts that advance are not broken when only stops of serving components break down. -/
theorem unbroken_advanceShutdowns {parts : List Shutdown} (actor : Option String)
    (firm : world.script.Firm) (whole : ∀ part ∈ parts, part.phase ≠ .broken) :
    ∀ part ∈ (world.advanceShutdowns me actor parts).2, part.phase ≠ .broken := by
  induction parts generalizing world with
  | nil => simp [advanceShutdowns]
  | cons first rest ih =>
    have one : Strokes me (.shutdown [first.site] false) True True world
        (world.advanceShutdown me actor first).1 :=
      strokes_advanceShutdown world (by simp [Purpose.shutsDown])
    have advance := advance_advanceShutdown world me actor first
    intro part there
    rcases List.mem_cons.mp there with rfl | later
    · exact advance.unbroken firm (whole first List.mem_cons_self)
    · exact ih (one.script_eq.symm ▸ firm)
        (fun other there => whole other (List.mem_cons_of_mem _ there)) part later

/-- The part of a gateway is found among the parts of a shutdown. -/
theorem progress_shuttingDown {parts : List Shutdown} {part : Shutdown}
    (distinct : (parts.map (·.site)).Nodup) (member : part ∈ parts) (named : part.site = site) :
    (Stage.shuttingDown parts).progress site = part.phase.progress := by
  have found : parts.find? (fun other => other.site == site) = some part := by
    induction parts with
    | nil => simp at member
    | cons first rest ih =>
      obtain ⟨new, distinct⟩ := List.nodup_cons.mp distinct
      rcases List.mem_cons.mp member with rfl | later
      · exact List.find?_cons_of_pos (by simp [named])
      · have differ : first.site ≠ site := by
          intro same
          exact new (List.mem_map.mpr ⟨part, later, named.trans same.symm⟩)
        rw [List.find?_cons_of_neg (by simp [differ])]
        exact ih distinct later
  simp only [Stage.progress, found]

/-- A shutdown that goes on does so in strides. -/
theorem strides_continueShutdown {parts : List Shutdown} {part : Shutdown}
    (mine : world.tasks[me]? = some running)
    (named : parts.map (·.site) = running.purpose.shutsDown)
    (distinct : running.purpose.shutsDown.Nodup) (whole : ∀ part ∈ parts, part.phase ≠ .broken)
    (actor : Option String) (logged : Bool) (inside : part.site < world.sites.length)
    (may : world.script.stopFaults ≠ [] → breaks) (member : part ∈ parts) :
    Relation.ReflTransGen (Ledger.Stride breaks me)
      ((world.ledger part.site).put me part.phase.progress)
      ((world.continueShutdown me actor logged parts).ledger part.site) := by
  have shuts : part.site ∈ running.purpose.shutsDown := by
    rw [← named]
    exact List.mem_map_of_mem member
  have strokes : Strokes me running.purpose True True world
      (world.advanceShutdowns me actor parts).1 :=
    strokes_advanceShutdowns world parts fun other there => by
      rw [← named]
      exact List.mem_map_of_mem there
  obtain ⟨stage, still, -⟩ := strokes.taskFrame.kept me running mine
  have sites : (world.advanceShutdowns me actor parts).2.map (·.site) = parts.map (·.site) :=
    sites_advanceShutdowns world parts
  have faulty : (∃ part ∈ (world.advanceShutdowns me actor parts).2, part.phase = .broken) →
      breaks := by
    rintro ⟨other, there, broken⟩
    exact may fun sturdy =>
      unbroken_advanceShutdowns actor (.of_sturdy sturdy) whole other there broken
  obtain ⟨later, there, same, strides⟩ := strides_advanceShutdowns mine (List.ne_nil_of_mem shuts)
    actor (named ▸ distinct) inside may member
  unfold continueShutdown
  generalize world.advanceShutdowns me actor parts = result at still faulty sites there strides ⊢
  obtain ⟨after, advanced⟩ := result
  dsimp only at still faulty sites there strides ⊢
  -- a task that ends has come to the same end with all gateways
  have ended (noted : World) (outcome : Outcome) (same : noted.tasks = after.tasks)
      (view : noted.ledger part.site = after.ledger part.site) :
      (noted.finish me outcome).ledger part.site =
        (after.ledger part.site).put me ((Stage.ended outcome).progress part.site) := by
    have here : noted.tasks[me]? = some { running with stage := stage } := by
      rw [same]
      exact still
    rw [← view]
    exact ledger_setStage_shutdown here shuts (.ended outcome)
  split
  · rename_i broken
    obtain ⟨other, here, phase⟩ := List.any_eq_true.mp broken
    rw [ended after .broken rfl rfl]
    exact strides.tail (Ledger.stride_fall (faulty ⟨other, here, eq_of_beq phase⟩) _)
  · split
    · rename_i finished
      have settled : later.phase = .finished := eq_of_beq (List.all_eq_true.mp finished later there)
      rw [settled] at strides
      split
      · rw [ended (after.note actor _) _ rfl rfl]
        exact strides
      · rw [ended after _ rfl rfl]
        exact strides
    · rw [ledger_setStage_shutdown still shuts,
        progress_shuttingDown (by rw [sites, named]; exact distinct) there same]
      exact strides

/-- A shutdown of which some parts go on does so in strides. -/
theorem strides_of_parts {parts : List Shutdown} (mine : world.tasks[me]? = some running)
    (shuts : site ∈ running.purpose.shutsDown)
    (named : parts.map (·.site) = running.purpose.shutsDown)
    (distinct : running.purpose.shutsDown.Nodup) (whole : ∀ part ∈ parts, part.phase ≠ .broken)
    (stands : ∀ part ∈ parts, part.site = site → running.stage.progress site = part.phase.progress)
    (actor : Option String) (logged : Bool) (inside : site < world.sites.length)
    (may : world.script.stopFaults ≠ [] → breaks) :
    Relation.ReflTransGen (Ledger.Stride breaks me) (world.ledger site)
      ((world.continueShutdown me actor logged parts).ledger site) := by
  obtain ⟨part, member, rfl⟩ : ∃ part ∈ parts, part.site = site := by
    rw [← named] at shuts
    exact List.mem_map.mp shuts
  have here : (world.ledger part.site).shutdowns me = some part.phase.progress := by
    simp only [ledger, mine, Option.bind_some, Task.progress?, shuts, if_true]
    rw [stands part member rfl]
  have strides := strides_continueShutdown mine named distinct whole actor logged inside may member
  rw [Ledger.put_self here] at strides
  exact strides

/-- The progress of a stop task is where it waits. -/
theorem ledger_setStage_stop {component : Component} {owner : TaskId}
    (mine : world.tasks[me]? = some running)
    (stops : running.purpose = .stopComponent site component owner) (stage : Stage) :
    (world.setStage me stage).ledger site =
      (world.ledger site).putStop me ⟨component, owner, stage.stopProgress⟩ := by
  have still : (world.setStage me stage).tasks[me]? = some { running with stage := stage } := by
    rw [getElem?_setStage, mine]
    exact if_pos rfl
  refine Ledger.ext rfl rfl (funext fun other => ?_) (funext fun other => ?_)
  · by_cases self : other = me
    · subst self
      simp [ledger, still, Task.stopOf?, stops, Ledger.putStop]
    · simp only [ledger, getElem?_setStage, Ne.symm self, self, if_false, Ledger.putStop]
  · by_cases self : other = me
    · subst self
      simp [ledger, still, mine, Task.progress?, stops, Purpose.shutsDown, Ledger.putStop]
    · simp only [ledger, getElem?_setStage, Ne.symm self, if_false, Ledger.putStop]

/-- A stop task ends with the stop of its component. -/
theorem ledger_endComponentStop {component : Component} {owner : TaskId}
    (mine : world.tasks[me]? = some running)
    (stops : running.purpose = .stopComponent site component owner)
    (inside : site < world.sites.length) (actor : Option String) (parent : TaskId) :
    (world.endComponentStop me actor site component parent).ledger site =
      ((world.ledger site).give world.now component).putStop me ⟨component, owner, .settled⟩ := by
  obtain ⟨-, -, tasks, -⟩ := setState_fields
    (world.recordStop site component true) site actor component .stopped
  have ended (last : World) (view : last.ledger site = (world.ledger site).give world.now component)
      (same : last.tasks = world.tasks) :
      ((last.finish me (.returned (.ok .done))).wake parent).ledger site =
        ((world.ledger site).give world.now component).putStop me ⟨component, owner, .settled⟩ := by
    have here : last.tasks[me]? = some running := by
      rw [same]
      exact mine
    rw [ledger_wake, ← view]
    exact ledger_setStage_stop here stops (.ended (.returned (.ok .done)))
  unfold endComponentStop
  dsimp only
  refine ended _ ?_ ?_
  · split
    · rename_i uptime
      split
      · rw [ledger_note]
        exact ledger_endStop inside component
      · exact ledger_endStop inside component
    · exact ledger_endStop inside component
  · split
    · split
      · exact tasks
      · exact tasks
    · exact tasks

/-- A stop task that runs for the first time does so in strides. -/
theorem strides_beginComponentStop {component : Component} {owner : TaskId} {found : Site}
    (mine : world.tasks[me]? = some running)
    (stops : running.purpose = .stopComponent site component owner)
    (fresh : running.stage = .fresh) (there : world.sites[site]? = some found)
    (may : world.script.stopFaults ≠ [] → breaks) (actor : Option String) (parent : TaskId) :
    Relation.ReflTransGen (Ledger.Stride breaks me) (world.ledger site)
      ((world.beginComponentStop me actor site found component parent).ledger site) := by
  have inside : site < world.sites.length := (List.getElem?_eq_some_iff.mp there).1
  have entry : (world.ledger site).stops me = some ⟨component, owner, .fresh⟩ := by
    simp [ledger, mine, Task.stopOf?, stops, fresh, Stage.stopProgress]
  have holds : (world.ledger site).holds component = found.gateway.holds component := by
    simp [ledger, there]
  unfold beginComponentStop
  split
  · rename_i held
    have begin := Ledger.Step.begin world.now entry (holds.trans held)
    obtain ⟨tasks, script, length⟩ := beginStop_fields world site actor component
    dsimp only
    generalize takes : ((world.onGateway site (·.release component)).setState site actor component
      .stopping).recordStop site component false = taken
    have view : taken.ledger site = (world.ledger site).take world.now component := by
      rw [← takes]
      exact ledger_beginStop inside component
    have here : taken.tasks[me]? = some running := by
      rw [← takes, tasks]
      exact mine
    have within : site < taken.sites.length := by
      rw [← takes, length]
      exact inside
    have faulty : taken.script.stopFaults ≠ [] → breaks := by
      rw [← takes, script]
      exact may
    split
    · rename_i failed
      have ended : (taken.finish me .broken).ledger site =
          (taken.ledger site).putStop me ⟨component, owner, .settled⟩ :=
        ledger_setStage_stop here stops (.ended .broken)
      rw [ledger_wake, ended, view]
      refine .head (.step begin) ?_
      rw [← Ledger.putStop_putStop _ ⟨component, owner, .running⟩ ⟨component, owner, .settled⟩]
      exact .single (.fail (faulty (stopFaults_ne_nil failed)) (if_pos rfl))
    · split
      · rw [ledger_endComponentStop here stops within, view]
        refine .head (.step begin) ?_
        rw [← Ledger.putStop_putStop _ ⟨component, owner, .running⟩ ⟨component, owner, .settled⟩]
        exact .single (.step (.end taken.now (if_pos rfl)))
      · have waits (due : Nat) : (taken.setTimer me due).tasks[me]? = some running := here
        rw [ledger_setStage_stop (waits _) stops, ledger_setTimer, view]
        exact .single (.step begin)
  · rename_i gone
    rw [ledger_wake]
    have ended : (world.finish me (.returned (.ok .done))).ledger site = _ :=
      ledger_setStage_stop mine stops (.ended (.returned (.ok .done)))
    rw [ended]
    exact .single (.step (.idle entry (holds.trans (Bool.eq_false_iff.mpr gone))))

/-- A task that goes on with what it does to a gateway does so in strides. -/
theorem strides_proceed (mine : world.tasks[me]? = some running)
    (fits : running.stage.Fits running.purpose) (distinct : running.purpose.shutsDown.Nodup)
    (inside : site < world.sites.length) (may : world.script.stopFaults ≠ [] → breaks)
    (tears : site ∈ running.purpose.tearsDown) :
    Relation.ReflTransGen (Ledger.Stride breaks me) (world.ledger site)
      ((world.proceed me running).ledger site) := by
  have there : world.sites[site]? = some world.sites[site] := List.getElem?_eq_getElem inside
  -- A shutdown that runs for the first time is one whose parts have all to be opened.
  have opens (shuts : site ∈ running.purpose.shutsDown) (fresh : running.stage = .fresh)
      (logged : Bool) : Relation.ReflTransGen (Ledger.Stride breaks me) (world.ledger site)
        ((world.beginShutdown me running.actor logged running.purpose.shutsDown).ledger site) := by
    refine strides_of_parts mine shuts (by simp [Function.comp_def]) distinct ?_ ?_ _ _ inside may
    · intro part member
      obtain ⟨place, -, rfl⟩ := List.mem_map.mp member
      simp
    · intro part member _
      obtain ⟨place, -, rfl⟩ := List.mem_map.mp member
      rw [fresh]
      rfl
  have continues {parts : List Shutdown} (shuts : site ∈ running.purpose.shutsDown)
      (stage : running.stage = .shuttingDown parts)
      (named : parts.map (·.site) = running.purpose.shutsDown)
      (whole : ∀ part ∈ parts, part.phase ≠ .broken) (logged : Bool) :
      Relation.ReflTransGen (Ledger.Stride breaks me) (world.ledger site)
        ((world.continueShutdown me running.actor logged parts).ledger site) := by
    refine strides_of_parts mine shuts named distinct whole ?_ _ _ inside may
    intro part member same
    rw [stage]
    exact progress_shuttingDown (named ▸ distinct) member same
  obtain ⟨actor, purpose, stage⟩ := running
  cases purpose with
  | request place request =>
    cases request with
    | stop =>
      obtain rfl : site = place := List.mem_singleton.mp tears
      cases stage with
      | fresh =>
        simp only [proceed, start, there]
        exact opens tears rfl false
      | shuttingDown parts => exact continues tears rfl fits.1 fits.2 false
      | ended => exact .refl
      | _ => exact fits.elim
    | _ => simp [Purpose.tearsDown, Purpose.shutsDown] at tears
  | shutdown sites logged =>
    cases stage with
    | fresh => exact opens tears rfl logged
    | shuttingDown parts => exact continues tears rfl fits.1 fits.2 logged
    | ended => exact .refl
    | _ => exact fits.elim
  | stopComponent place component owner =>
    obtain rfl : site = place := List.mem_singleton.mp tears
    cases stage with
    | fresh =>
      simp only [proceed, start, there]
      exact strides_beginComponentStop mine rfl rfl there may actor owner
    | sleeping due =>
      simp only [proceed, awaken]
      split
      · rw [ledger_endComponentStop mine rfl inside actor owner]
        refine .single (.step (.end world.now ?_))
        simp [ledger, mine, Task.stopOf?, Stage.stopProgress]
      · exact .refl
    | ended => exact .refl
    | _ => exact fits.elim
  | _ => simp [Purpose.tearsDown, Purpose.shutsDown] at tears

/-- A task that is resumed changes the teardown of a gateway in strides. -/
theorem strides_resume (sound : world.Sound) (inside : site < world.sites.length)
    (may : world.script.stopFaults ≠ [] → breaks) (me : TaskId) :
    Relation.ReflTransGen (Ledger.Stride breaks me) (world.ledger site)
      ((world.resume me).ledger site) := by
  cases mine : world.tasks[me]? with
  | none =>
    rw [resume_absent mine]
    exact .refl
  | some running =>
    obtain ⟨fits, distinct⟩ := sound me running mine
    let left : World := { world with ready := world.ready.erase me }
    have still : left.tasks[me]? = some running := mine
    by_cases tears : site ∈ running.purpose.tearsDown
    · rw [resume_eq mine]
      exact strides_proceed still fits distinct inside may tears
    · have strokes := strokes_resume mine fits
      rw [ledger_of_foreign strokes still tears]
      exact .refl

/-- A change of a cluster that keeps the record of stops leaves the teardown alone. -/
theorem ledger_onBroker (world : World) (place : SiteId) (change : Broker → Broker)
    (keeps : ∀ broker, (change broker).stops = broker.stops) :
    (world.onBroker place change).ledger site = world.ledger site := by
  have looked := getElem?_onSite world place
    (fun found => { found with broker := change found.broker }) site
  refine ledger_congr (fun component => ?_) ?_ rfl
  · rw [onBroker, looked]
    split
    · cases world.sites[site]? <;> rfl
    · rfl
  · rw [onBroker, looked]
    split
    · cases world.sites[site]? <;> simp [keeps]
    · rfl

/-- A changed session leaves the teardown alone. -/
theorem ledger_onSession (world : World) (place : SiteId) (session : SessionId)
    (change : Session → Session × List TaskId) :
    (world.onSession place session change).ledger site = world.ledger site := by
  obtain ⟨ready, same⟩ := exists_onSession world place session change
  rw [same]
  exact ledger_onBroker world place (·.onSession session fun found => (change found).1)
    fun _ => rfl

/-- A cancelled task has ended as far as the teardown is concerned. -/
theorem ledger_cancel (world : World) (task : TaskId) (site : SiteId) :
    (world.cancel task).ledger site = world.ledger site ∨
      (world.cancel task).ledger site =
        (world.setStage task (.ended .cancelled)).ledger site := by
  unfold cancel
  split
  · exact .inl rfl
  · dsimp only
    split
    · exact .inl rfl
    all_goals first
      | exact .inr (ledger_onSession _ _ _ _)
      | exact .inr (ledger_wake _ _)
      | exact .inr rfl

/-- A task that has nothing to do with a gateway may wait anywhere. -/
theorem ledger_setStage_outside (mine : world.tasks[me]? = some running)
    (foreign : site ∉ running.purpose.tearsDown) (stage : Stage) :
    (world.setStage me stage).ledger site = world.ledger site := by
  have early := Task.outside foreign
  have late : ({ running with stage := stage } : Task).stopOf? site = none ∧
      ({ running with stage := stage } : Task).progress? site = none := Task.outside foreign
  refine Ledger.ext rfl rfl (funext fun other => ?_) (funext fun other => ?_)
  · by_cases self : other = me
    · subst self
      simp [ledger, getElem?_setStage, mine, early.1, late.1]
    · simp only [ledger, getElem?_setStage, Ne.symm self, if_false]
  · by_cases self : other = me
    · subst self
      simp [ledger, getElem?_setStage, mine, early.2, late.2]
    · simp only [ledger, getElem?_setStage, Ne.symm self, if_false]

/-- A new task has begun with nothing. -/
theorem ledger_spawn (world : World) (actor : Option String) {purpose : Purpose}
    (call : purpose.tearsDown = purpose.shutsDown) (site : SiteId) :
    (world.spawn actor purpose).1.ledger site = world.ledger site ∨
      (world.ledger site).shutdowns world.tasks.length = none ∧
        (world.ledger site).stops world.tasks.length = none ∧
          (world.spawn actor purpose).1.ledger site =
            (world.ledger site).put world.tasks.length .opening := by
  have others {other : TaskId} (differ : other ≠ world.tasks.length) :
      (world.spawn actor purpose).1.tasks[other]? = world.tasks[other]? := by
    cases there : world.tasks[other]? with
    | some found => exact getElem?_spawn_of_some world there
    | none =>
      cases here : (world.spawn actor purpose).1.tasks[other]? with
      | none => rfl
      | some found => exact absurd (getElem?_spawn_of_none world there here).1 differ
  have fresh := getElem?_spawn_self world actor purpose
  by_cases shuts : site ∈ purpose.shutsDown
  · refine .inr ⟨by simp [ledger], by simp [ledger], ?_⟩
    refine Ledger.ext rfl rfl (funext fun other => ?_) (funext fun other => ?_)
    · by_cases self : other = world.tasks.length
      · subst self
        exact (stops_ledger_of_shutsDown fresh (List.ne_nil_of_mem shuts)).trans
          (by simp [ledger, Ledger.put])
      · simp only [ledger, others self, Ledger.put]
    · by_cases self : other = world.tasks.length
      · subst self
        simp [ledger, fresh, Task.progress?, shuts, Ledger.put, Stage.progress]
      · simp only [ledger, others self, Ledger.put, self, if_false]
  · have outside : (⟨actor, purpose, .fresh⟩ : Task).stopOf? site = none ∧
        (⟨actor, purpose, .fresh⟩ : Task).progress? site = none := Task.outside (call ▸ shuts)
    refine .inl (Ledger.ext rfl rfl (funext fun other => ?_) (funext fun other => ?_))
    · by_cases self : other = world.tasks.length
      · subst self
        simp [ledger, fresh, outside.1]
      · simp only [ledger, others self]
    · by_cases self : other = world.tasks.length
      · subst self
        simp [ledger, fresh, outside.2]
      · simp only [ledger, others self]

/-- What an open move does to the teardown of a gateway: a task goes on in strides, a shutdown
is called or dropped, or nothing happens. -/
theorem ledger_apply_cases (sound : world.Sound) {move : Move} (free : world.isOpen move = true)
    (inside : site < world.sites.length) (may : world.script.stopFaults ≠ [] → breaks) :
    (∃ me, move = .resume me ∧ Relation.ReflTransGen (Ledger.Stride breaks me) (world.ledger site)
      ((world.apply move).ledger site)) ∨
    (∃ task, (world.ledger site).shutdowns task = none ∧ (world.ledger site).stops task = none ∧
      (world.apply move).ledger site = (world.ledger site).put task .opening) ∨
    (∃ task progress, (world.ledger site).shutdowns task = some progress ∧
      (world.apply move).ledger site = (world.ledger site).put task .dropped) ∨
    (world.apply move).ledger site = world.ledger site := by
  have called {purpose : Purpose} (call : purpose.tearsDown = purpose.shutsDown) :
      (∃ task, (world.ledger site).shutdowns task = none ∧ (world.ledger site).stops task = none ∧
        (world.spawn none purpose).1.ledger site = (world.ledger site).put task .opening) ∨
      (∃ task progress, (world.ledger site).shutdowns task = some progress ∧
        (world.spawn none purpose).1.ledger site = (world.ledger site).put task .dropped) ∨
      (world.spawn none purpose).1.ledger site = world.ledger site := by
    rcases ledger_spawn world none call site with same | ⟨new, other, put⟩
    · exact .inr (.inr same)
    · exact .inl ⟨_, new, other, put⟩
  cases move with
  | resume me => exact .inl ⟨me, rfl, strides_resume sound inside may me⟩
  | pass moment =>
    refine .inr (.inr (.inr ?_))
    obtain ⟨ready, same⟩ := exists_passTo world moment
    rw [apply, same]
    rfl
  | request place request => exact .inr (called rfl)
  | shutdown sites logged => exact .inr (called rfl)
  | cancel task =>
    rcases ledger_cancel world task site with same | ended
    · exact .inr (.inr (.inr same))
    · cases there : world.tasks[task]? with
      | none =>
        refine .inr (.inr (.inr ?_))
        rw [apply, cancel, there]
      | some found =>
        by_cases tears : site ∈ found.purpose.tearsDown
        · have shuts : site ∈ found.purpose.shutsDown := by
            obtain ⟨actor, purpose, stage⟩ := found
            simp only [isOpen, isCall, there] at free
            cases purpose with
            | stopComponent => simp at free
            | _ => exact tears
          refine .inr (.inr (.inl ⟨task, found.stage.progress site, ?_, ?_⟩))
          · simp [ledger, there, Task.progress?, shuts]
          · exact ended.trans (ledger_setStage_shutdown there shuts _)
        · exact .inr (.inr (.inr (ended.trans (ledger_setStage_outside there tears _))))
  | enqueue place group topic items =>
    exact .inr (.inr (.inr (ledger_onBroker world place _ fun _ => rfl)))
  | read place session limit =>
    exact .inr (.inr (.inr (ledger_onSession world place session _)))
  | close place session =>
    exact .inr (.inr (.inr (ledger_onSession world place session _)))
  | renew place key => exact .inr (.inr (.inr (ledger_onBroker world place _ fun _ => rfl)))

end World

end ClusterGateway
