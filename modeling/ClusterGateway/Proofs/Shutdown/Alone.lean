import ClusterGateway.Proofs.Shutdown.Order

/-!
# Shutdowns one after the other

When a shutdown begins only while every other one has not begun or is over, a single
shutdown goes on at a time, and whatever is still stopping is stopped by it, or was left
behind by a shutdown that was dropped. Nothing is overtaken then.
-/

namespace ClusterGateway.Ledger

variable {me task : TaskId} {before after ledger : Ledger}

/-- What holds of the teardown of a gateway while its shutdowns run one after the other. -/
structure Single (ledger : Ledger) : Prop where
  one : ∀ first second early late, ledger.shutdowns first = some early →
    ledger.shutdowns second = some late → early.Goes → late.Goes → first = second
  owned : ∀ stop entry, ledger.stops stop = some entry → entry.progress ≠ .settled →
    (∃ tasks, ledger.shutdowns entry.owner = some (.joining tasks) ∧ stop ∈ tasks) ∨
      ledger.shutdowns entry.owner = some .dropped
  mine : ∀ task progress stop entry, ledger.shutdowns task = some progress → progress.Goes →
    ledger.stops stop = some entry → entry.progress ≠ .settled → entry.owner = task
  runs : ∀ component ∈ Component.serving, ledger.InProgress component → ∃ stop entry,
    ledger.stops stop = some entry ∧ entry.component = component ∧ entry.progress = .running
  closes : ∀ component, component ∉ Component.serving → ledger.InProgress component → ∃ task,
    ledger.shutdowns task = some (.stopping component) ∨ ledger.shutdowns task = some .dropped
  closer : ∀ task progress component, ledger.shutdowns task = some progress → progress.Goes →
    component ∉ Component.serving → ledger.InProgress component → progress = .stopping component
  complete : ∀ task, ledger.shutdowns task = some .finished → ∀ component,
    Over ledger.lines component

/-- What is stopping after a component was taken away: that one, or what was before. -/
theorem InProgress.of_take {time : Nat} {component other : Component}
    (running : (ledger.take time component).InProgress other) :
    other = component ∨ ledger.InProgress other := by
  obtain ⟨begun, open_⟩ := running
  rcases begun_append_singleton.mp begun with old | ⟨rfl, -⟩
  · exact .inr ⟨old, fun settled => open_ (over_append_singleton.mpr (.inl settled))⟩
  · exact .inl rfl

/-- What is stopping after a stop has returned was stopping before, and is another one. -/
theorem InProgress.of_give {time : Nat} {component other : Component}
    (running : (ledger.give time component).InProgress other) :
    other ≠ component ∧ ledger.InProgress other := by
  obtain ⟨begun, open_⟩ := running
  refine ⟨?_, begun_give.mp begun, fun settled => open_ (over_append_singleton.mpr (.inl settled))⟩
  rintro rfl
  exact open_ (over_append_singleton.mpr (.inr ⟨rfl, rfl⟩))

/-- When no stop task goes on, no serving component is still stopping. -/
theorem Single.not_inProgress (single : ledger.Single) {component : Component}
    (done : ∀ stop entry, ledger.stops stop = some entry → entry.progress = .settled)
    (serving : component ∈ Component.serving) : ¬ ledger.InProgress component := by
  intro running
  obtain ⟨stop, entry, found, -, runs⟩ := single.runs component serving running
  simp [done stop entry found] at runs

/-- When a shutdown has gone beyond its stop tasks, no stop task goes on. -/
theorem Single.stops_over (single : ledger.Single) {component : Component} {progress : Progress}
    (there : ledger.shutdowns task = some progress)
    (late : progress = .turn component ∨ progress = .stopping component)
    {stop : TaskId} {entry : StopEntry} (found : ledger.stops stop = some entry) :
    entry.progress = .settled := by
  have goes : progress.Goes := by rcases late with rfl | rfl <;> trivial
  by_cases settled : entry.progress = .settled
  · exact settled
  · exfalso
    have owner := single.mine task progress stop entry there goes found settled
    rcases single.owned stop entry found settled with ⟨tasks, joining, -⟩ | dropped
    · rw [owner, there] at joining
      rcases late with rfl | rfl <;> simp at joining
    · rw [owner, there] at dropped
      rcases late with rfl | rfl <;> simp at dropped

/-- When a shutdown has gone beyond the serving components, all that has begun to stop is
over but the component that it is stopping. -/
theorem Single.settled (single : ledger.Single) {component earlier : Component}
    {progress : Progress}
    (there : ledger.shutdowns task = some progress)
    (late : progress = .turn component ∨ progress = .stopping component)
    (begun : Begun ledger.lines earlier) (other : progress ≠ .stopping earlier) :
    Over ledger.lines earlier := by
  have goes : progress.Goes := by rcases late with rfl | rfl <;> trivial
  by_cases settled : Over ledger.lines earlier
  · exact settled
  · exfalso
    by_cases serving : earlier ∈ Component.serving
    · exact single.not_inProgress (fun _ _ => single.stops_over there late) serving
        ⟨begun, settled⟩
    · exact other (single.closer task progress earlier there goes serving ⟨begun, settled⟩)

/-- Nothing is overtaken while shutdowns run one after the other. -/
theorem Single.not_overtakes (single : ledger.Single) : ¬ ledger.Overtakes := by
  rintro ⟨task, progress, earlier, there, passed, begun, running⟩
  cases progress with
  | turn component =>
    exact running (single.settled there (.inl rfl) begun (by simp))
  | stopping component =>
    refine running (single.settled there (.inr rfl) begun ?_)
    intro same
    obtain rfl := Progress.stopping.inj same
    exact not_mem_awaited _ passed
  | finished => exact running (single.complete task there earlier)
  | opening => simp [Progress.passed] at passed
  | joining => simp [Progress.passed] at passed
  | dropped => simp [Progress.passed] at passed

/-- A shutdown that comes to rest changes nothing for the others: it had not begun, or it is dropped
and leaves behind what it was stopping. -/
theorem Single.putResting {progress : Progress} (single : ledger.Single) (rests : ¬ progress.Goes)
    (unfinished : progress ≠ .finished)
    (leaves : ledger.shutdowns task = none ∨ progress = .dropped) :
    (ledger.put task progress).Single := by
  have goes {other : TaskId} {found : Progress} (goes : found.Goes)
      (there : (ledger.put task progress).shutdowns other = some found) :
      ledger.shutdowns other = some found := by
    rcases shutdowns_put there with ⟨-, rfl⟩ | ⟨-, old⟩
    · exact absurd goes rests
    · exact old
  -- whoever owns a stop task stays where it was, or is dropped now
  have still {other : TaskId} {found : Progress} (there : ledger.shutdowns other = some found) :
      (ledger.put task progress).shutdowns other = some found ∨
        (ledger.put task progress).shutdowns other = some .dropped := by
    by_cases mine : other = task
    · subst mine
      rcases leaves with new | rfl
      · simp [new] at there
      · exact .inr (shutdowns_put_self ledger _)
    · exact .inl ((shutdowns_put_of_ne mine).trans there)
  exact {
    one := fun first second early late there here going also =>
      single.one first second early late (goes going there) (goes also here) going also
    owned := by
      intro stop entry found running
      rcases single.owned stop entry found running with ⟨tasks, joining, waited⟩ | dropped
      · exact (still joining).imp_left fun kept => ⟨tasks, kept, waited⟩
      · exact .inr ((still dropped).elim id id)
    mine := fun other place stop entry there going =>
      single.mine other place stop entry (goes going there) going
    runs := single.runs
    closes := by
      intro component late running
      obtain ⟨other, stopping | dropped⟩ := single.closes component late running
      · exact ⟨other, still stopping⟩
      · exact ⟨other, .inr ((still dropped).elim id id)⟩
    closer := fun other place component there going =>
      single.closer other place component (goes going there) going
    complete := by
      intro other there
      rcases shutdowns_put there with ⟨-, same⟩ | ⟨-, old⟩
      · exact absurd same.symm unfinished
      · exact single.complete other old }

/-- A call that has not begun changes nothing. -/
theorem Single.call (single : ledger.Single) (new : ledger.shutdowns task = none) :
    (ledger.put task .opening).Single :=
  single.putResting id (by simp) (.inl new)

/-- A dropped shutdown leaves behind what it was stopping. -/
theorem Single.drop (single : ledger.Single) (task : TaskId) :
    (ledger.put task .dropped).Single :=
  single.putResting id (by simp) (.inr rfl)

/-- A stop task that goes on changes its own entry only. What it has to keep is said of the
components that are still stopping. -/
theorem Single.putStop {old : StopEntry} {lines : List StopLine} {holds : Component → Bool}
    {progress : StopProgress} (single : ledger.Single)
    (there : ledger.stops task = some old) (unfinished : old.progress ≠ .settled)
    (keeps : ∀ component, Over ledger.lines component → Over lines component)
    (running : ∀ component, ({ ledger with holds := holds, lines := lines } : Ledger).InProgress
      component → component = old.component ∧ progress = .running ∧
        component ∈ Component.serving ∨ ledger.InProgress component ∧
        (component = old.component → old.progress = .running → progress = .running)) :
    (({ ledger with holds := holds, lines := lines } : Ledger).putStop task
      { old with progress := progress }).Single where
  one := single.one
  owned := by
    intro stop entry found going
    rcases stops_putStop found with ⟨rfl, rfl⟩ | ⟨-, before⟩
    · exact single.owned stop old there unfinished
    · exact single.owned stop entry before going
  mine := by
    intro other place stop entry here goes found going
    rcases stops_putStop found with ⟨rfl, rfl⟩ | ⟨-, before⟩
    · exact single.mine other place stop old here goes there unfinished
    · exact single.mine other place stop entry here goes before going
  runs := by
    intro component serving going
    rcases running component going with ⟨rfl, same, -⟩ | ⟨before, stays⟩
    · exact ⟨task, _, stops_putStop_self _ _, rfl, same⟩
    · obtain ⟨stop, entry, found, rfl, runs⟩ := single.runs component serving before
      by_cases self : stop = task
      · subst self
        obtain rfl := Option.some.inj (there.symm.trans found)
        exact ⟨stop, _, stops_putStop_self _ _, rfl, stays rfl runs⟩
      · exact ⟨stop, entry, (stops_putStop_of_ne self).trans found, rfl, runs⟩
  closes := by
    intro component late going
    rcases running component going with ⟨-, -, serving⟩ | ⟨before, -⟩
    · exact absurd serving late
    · exact single.closes component late before
  closer := by
    intro other place component here goes late going
    rcases running component going with ⟨-, -, serving⟩ | ⟨before, -⟩
    · exact absurd serving late
    · exact single.closer other place component here goes late before
  complete := fun other finished component =>
    keeps component (single.complete other finished component)

/-- A shutdown that starts its stop tasks alone is the only one that goes on. -/
theorem Single.open {tasks : List TaskId} {stops : TaskId → Option StopEntry}
    (single : ledger.Single) (alone : ledger.Alone me)
    (fresh : ledger.shutdowns me = some .opening)
    (old : ∀ task entry, ledger.stops task = some entry → stops task = some entry)
    (new : ∀ task entry, ledger.stops task = none → stops task = some entry →
      ledger.shutdowns task = none ∧ task ∈ tasks ∧ entry.component ∈ Component.serving ∧
        entry.owner = me ∧ entry.progress = .fresh) :
    ({ ledger with stops := stops }.put me (.joining tasks)).Single := by
  have quiet {other : TaskId} {progress : Progress}
      (there : ledger.shutdowns other = some progress) :
      progress = .opening ∨ progress = .finished := by
    by_cases self : other = me
    · subst self
      exact .inl (Option.some.inj (there.symm.trans fresh))
    · exact alone fresh other progress self there
  have done {stop : TaskId} {entry : StopEntry} (found : ledger.stops stop = some entry) :
      entry.progress = .settled := by
    by_cases settled : entry.progress = .settled
    · exact settled
    · exfalso
      rcases single.owned stop entry found settled with ⟨waited, joining, -⟩ | dropped
      · rcases quiet joining with impossible | impossible <;> simp at impossible
      · rcases quiet dropped with impossible | impossible <;> simp at impossible
  have still {component : Component} : ¬ ledger.InProgress component := by
    intro running
    by_cases serving : component ∈ Component.serving
    · exact single.not_inProgress (fun _ _ => done) serving running
    · obtain ⟨other, stopping | dropped⟩ := single.closes component serving running
      · rcases quiet stopping with impossible | impossible <;> simp at impossible
      · rcases quiet dropped with impossible | impossible <;> simp at impossible
  have only {other : TaskId} {progress : Progress} (goes : progress.Goes)
      (there : ({ ledger with stops := stops }.put me (.joining tasks)).shutdowns other =
        some progress) : other = me := by
    rcases shutdowns_put there with ⟨rfl, -⟩ | ⟨-, before⟩
    · rfl
    · rcases quiet before with rfl | rfl <;> exact goes.elim
  have started {stop : TaskId} {entry : StopEntry} (found : stops stop = some entry)
      (unfinished : entry.progress ≠ .settled) : stop ∈ tasks ∧ entry.owner = me := by
    cases before : ledger.stops stop with
    | none => exact ⟨(new stop entry before found).2.1, (new stop entry before found).2.2.2.1⟩
    | some earlier =>
      obtain rfl := Option.some.inj ((old stop earlier before).symm.trans found)
      exact absurd (done before) unfinished
  exact {
    one := fun first second early late there here goes also =>
      (only goes there).trans (only also here).symm
    owned := by
      intro stop entry found unfinished
      obtain ⟨waited, owner⟩ := started found unfinished
      refine .inl ⟨tasks, ?_, waited⟩
      rw [owner]
      exact shutdowns_put_self _ _
    mine := fun other progress stop entry there goes found unfinished =>
      (started found unfinished).2.trans (only goes there).symm
    runs := fun component _ running => absurd running still
    closes := fun component _ running => absurd running still
    closer := fun other progress component _ _ _ running => absurd running still
    complete := by
      intro other there
      rcases shutdowns_put there with ⟨-, impossible⟩ | ⟨-, before⟩
      · simp at impossible
      · exact single.complete other before }

/-- The shutdown that goes on comes further, once no stop task goes on. What is stopping
afterwards is stopped by it. -/
theorem Single.advance {progress next : Progress} {lines : List StopLine}
    {holds : Component → Bool} (single : ledger.Single)
    (there : ledger.shutdowns me = some progress) (goes : progress.Goes)
    (done : ∀ stop entry, ledger.stops stop = some entry → entry.progress = .settled)
    (keeps : ∀ component, Over ledger.lines component → Over lines component)
    (running : ∀ component, ({ ledger with holds := holds, lines := lines } : Ledger).InProgress
      component → next = .stopping component ∧ component ∉ Component.serving)
    (complete : next = .finished → ∀ component, Over lines component) :
    (({ ledger with holds := holds, lines := lines } : Ledger).put me next).Single := by
  have only {other : TaskId} {found : Progress} (going : found.Goes)
      (here : (({ ledger with holds := holds, lines := lines } : Ledger).put me next).shutdowns
        other = some found) : other = me ∧ found = next := by
    rcases shutdowns_put here with mine | ⟨differ, before⟩
    · exact mine
    · exact absurd (single.one other me found progress before there going goes) differ
  exact {
    one := fun first second early late here also going too =>
      (only going here).1.trans (only too also).1.symm
    owned := fun stop entry found unfinished => absurd (done stop entry found) unfinished
    mine := fun other place stop entry _ _ found unfinished =>
      absurd (done stop entry found) unfinished
    runs := fun component serving going => absurd serving (running component going).2
    closes := fun component _ going =>
      ⟨me, .inl ((running component going).1 ▸ shutdowns_put_self _ _)⟩
    closer := fun other place component here going _ still =>
      (only going here).2.trans (running component still).1
    complete := by
      intro other finished component
      rcases shutdowns_put finished with ⟨-, same⟩ | ⟨-, before⟩
      · exact complete same.symm component
      · exact keeps component (single.complete other before component) }

/-- What a shutdown that is done with a component has reached is over, if that was the last
one. -/
theorem Single.complete_after (single : ledger.Single) (sound : ledger.Consistent)
    {component : Component} {progress : Progress}
    (there : ledger.shutdowns me = some progress)
    (late : progress = .turn component ∨ progress = .stopping component)
    (last : Progress.after component = .finished) {other : Component} (differ : other ≠ component) :
    Over ledger.lines other := by
  have kind : component = .offsets ∨ component = .client := by
    refine sound.late me component ?_
    rcases late with rfl | rfl
    · exact .inl there
    · exact .inr there
  have awaited : other ∈ component.awaited := by
    rcases kind with rfl | rfl
    · simp [Progress.after] at last
    · cases other <;> first | decide | exact absurd rfl differ
  have begun : Begun ledger.lines other := by
    refine sound.reached me progress there other ?_
    rcases late with rfl | rfl
    · exact awaited
    · exact List.mem_cons_of_mem _ awaited
  refine single.settled there late begun ?_
  rcases late with rfl | rfl
  · simp
  · intro same
    exact differ (Progress.stopping.inj same).symm

/-- While shutdowns run one after the other, every step leaves it so. -/
theorem Single.step (single : before.Single) (sound : before.Consistent)
    (alone : before.Alone me) (step : Step me before after) : after.Single := by
  cases step with
  | «open» fresh old new => exact single.open alone fresh old new
  | idle fresh gone =>
    exact single.putStop fresh (by simp) (fun _ settled => settled) fun _ running =>
      .inr ⟨running, fun _ impossible => by simp at impossible⟩
  | @begin component owner time fresh holds =>
    refine single.putStop fresh (by simp)
      (fun _ settled => over_append_singleton.mpr (.inl settled)) ?_
    intro other running
    rcases running.of_take with rfl | before
    · exact .inl ⟨rfl, rfl, sound.serves me _ fresh⟩
    · exact .inr ⟨before, fun _ _ => rfl⟩
  | @«end» component owner time running =>
    refine single.putStop running (by simp)
      (fun _ settled => over_append_singleton.mpr (.inl settled)) ?_
    intro other still
    obtain ⟨differ, before⟩ := still.of_give
    exact .inr ⟨before, fun same => absurd same differ⟩
  | @join tasks joining settled =>
    have done : ∀ stop entry, before.stops stop = some entry → entry.progress = .settled := by
      intro stop entry found
      by_cases finished : entry.progress = .settled
      · exact finished
      · have owner := single.mine me _ stop entry joining trivial found finished
        rcases single.owned stop entry found finished with ⟨waited, there, member⟩ | dropped
        · rw [owner, joining] at there
          obtain rfl := Progress.joining.inj (Option.some.inj there)
          exact settled stop member entry found
        · rw [owner, joining] at dropped
          simp at dropped
    refine single.advance joining trivial done (fun _ settled => settled) ?_ (by simp)
    intro component running
    exfalso
    by_cases serving : component ∈ Component.serving
    · exact single.not_inProgress done serving running
    · have impossible := single.closer me _ component joining trivial serving running
      simp at impossible
  | @skip component turn gone =>
    have begun := (sound.taken component).mp gone
    have settled {other : Component} (begun : Begun before.lines other) : Over before.lines other :=
      single.settled turn (.inl rfl) begun (by simp)
    refine single.advance turn trivial (fun _ _ found => single.stops_over turn (.inl rfl) found)
      (fun _ settled => settled) (fun _ running => absurd (settled running.1) running.2) ?_
    intro last other
    by_cases same : other = component
    · exact same ▸ settled begun
    · exact single.complete_after sound turn (.inl rfl) last same
  | @close component time turn holds =>
    refine single.advance turn trivial (fun _ _ found => single.stops_over turn (.inl rfl) found)
      (fun _ settled => over_append_singleton.mpr (.inl settled)) ?_ (by simp)
    intro other running
    rcases running.of_take with rfl | ⟨begun, still⟩
    · refine ⟨rfl, ?_⟩
      rcases sound.late me other (.inl turn) with rfl | rfl <;> decide
    · exact absurd (single.settled turn (.inl rfl) begun (by simp)) still
  | @closed component time stopping =>
    refine single.advance stopping trivial
      (fun _ _ found => single.stops_over stopping (.inr rfl) found)
      (fun _ settled => over_append_singleton.mpr (.inl settled)) ?_ ?_
    · intro other running
      obtain ⟨differ, begun, still⟩ := running.of_give
      refine absurd (single.settled stopping (.inr rfl) begun ?_) still
      intro same
      exact differ (Progress.stopping.inj same).symm
    · intro last other
      by_cases same : other = component
      · exact over_append_singleton.mpr (.inr ⟨same.symm, rfl⟩)
      · exact over_append_singleton.mpr
          (.inl (single.complete_after sound stopping (.inr rfl) last same))

/-- A shutdown that goes on has begun. -/
theorem Alone.step (alone : before.Alone me) (step : Step me before after) : after.Alone me := by
  have put {ledger : Ledger} {progress : Progress} (begun : progress ≠ .opening) :
      (ledger.put me progress).Alone me := by
    intro fresh
    rw [shutdowns_put_self] at fresh
    exact absurd (Option.some.inj fresh) begun
  cases step with
  | «open» => exact put (by simp)
  | idle => exact alone
  | begin => exact alone
  | «end» => exact alone
  | join => exact put (by simp)
  | @skip component turn gone => exact put (by cases component <;> simp [Progress.after])
  | close => exact put (by simp)
  | @closed component => exact put (by cases component <;> simp [Progress.after])

/-- While shutdowns run one after the other, a task that goes on leaves it so. -/
theorem Single.steps (single : before.Single) (sound : before.Consistent)
    (alone : before.Alone me) (steps : Relation.ReflTransGen (Step me) before after) :
    after.Single := by
  have all : after.Single ∧ after.Consistent ∧ after.Alone me := by
    induction steps with
    | refl => exact ⟨single, sound, alone⟩
    | tail _ step ih =>
      obtain ⟨single, sound, alone⟩ := ih
      exact ⟨single.step sound alone step, sound.step step, alone.step step⟩
  exact all.1

end ClusterGateway.Ledger
