import ClusterGateway.Proofs.Shutdown.Ledger

/-!
# The order of the stops

Whether the components of a gateway stop in their order is decided by overtaking: a
shutdown that finds a component gone goes past it, although another shutdown may still be
stopping it. Without overtaking the order is kept, and shutdowns that run one after the
other never overtake.
-/

namespace ClusterGateway.Ledger

variable {me task : TaskId} {before after ledger : Ledger}

/-- The stop of a component has begun and is not over. -/
def InProgress (ledger : Ledger) (component : Component) : Prop :=
  Begun ledger.lines component ∧ ¬ Over ledger.lines component

/-- The components stop in their order, and all have stopped when a shutdown is over. -/
structure KeepsOrder (ledger : Ledger) : Prop where
  order : InOrder ledger.lines
  complete : ∀ task, ledger.shutdowns task = some .finished → ∀ component,
    Over ledger.lines component

/-- A shutdown has gone past a component that is still stopping. -/
def OvertakenBy (ledger : Ledger) (task : TaskId) : Prop :=
  ∃ progress component, ledger.shutdowns task = some progress ∧ component ∈ progress.passed ∧
    ledger.InProgress component

/-- Some shutdown has gone past a component that is still stopping. -/
def Overtakes (ledger : Ledger) : Prop := ∃ task, ledger.OvertakenBy task

/-- A shutdown that has not begun is alone: every other one has not begun either, or is over. -/
def Alone (ledger : Ledger) (task : TaskId) : Prop :=
  ledger.shutdowns task = some .opening → ∀ other progress, other ≠ task →
    ledger.shutdowns other = some progress → progress = .opening ∨ progress = .finished

/-- The progress of a shutdown after one was put in its place. -/
theorem shutdowns_put {progress found : Progress}
    (there : (ledger.put me progress).shutdowns task = some found) :
    task = me ∧ found = progress ∨ task ≠ me ∧ ledger.shutdowns task = some found := by
  unfold put at there
  dsimp only at there
  split at there
  · rename_i mine
    exact .inl ⟨mine, (Option.some.inj there).symm⟩
  · rename_i other
    exact .inr ⟨other, there⟩

/-- A stop task after one was put in its place. -/
theorem stops_putStop {entry found : StopEntry}
    (there : (ledger.putStop me entry).stops task = some found) :
    task = me ∧ found = entry ∨ task ≠ me ∧ ledger.stops task = some found := by
  unfold putStop at there
  dsimp only at there
  split at there
  · rename_i mine
    exact .inl ⟨mine, (Option.some.inj there).symm⟩
  · rename_i other
    exact .inr ⟨other, there⟩

/-- A shutdown that was put in its place. -/
theorem shutdowns_put_self (ledger : Ledger) (progress : Progress) :
    (ledger.put me progress).shutdowns me = some progress :=
  if_pos rfl

/-- Putting a shutdown in its place leaves the others alone. -/
theorem shutdowns_put_of_ne {progress : Progress} (other : task ≠ me) :
    (ledger.put me progress).shutdowns task = ledger.shutdowns task :=
  if_neg other

/-- A stop task that was put in its place. -/
theorem stops_putStop_self (ledger : Ledger) (entry : StopEntry) :
    (ledger.putStop me entry).stops me = some entry :=
  if_pos rfl

/-- Putting a stop task in its place leaves the others alone. -/
theorem stops_putStop_of_ne {entry : StopEntry} (other : task ≠ me) :
    (ledger.putStop me entry).stops task = ledger.stops task :=
  if_neg other

/-- What holds of the teardown of a gateway at all times. -/
structure Consistent (ledger : Ledger) : Prop where
  apart : ∀ task entry, ledger.stops task = some entry → ledger.shutdowns task = none
  taken : ∀ component, ledger.holds component = false ↔ Begun ledger.lines component
  ended : ∀ component, Over ledger.lines component → Begun ledger.lines component
  serves : ∀ task entry, ledger.stops task = some entry → entry.component ∈ Component.serving
  moved : ∀ task entry, ledger.stops task = some entry → entry.progress ≠ .fresh →
    Begun ledger.lines entry.component
  joins : ∀ task tasks, ledger.shutdowns task = some (.joining tasks) →
    ∀ component ∈ Component.serving, ∃ stop ∈ tasks, ∃ entry,
      ledger.stops stop = some entry ∧ entry.component = component
  late : ∀ task component, ledger.shutdowns task = some (.turn component) ∨
    ledger.shutdowns task = some (.stopping component) →
      component = .offsets ∨ component = .client
  reached : ∀ task progress, ledger.shutdowns task = some progress →
    ∀ component ∈ progress.reached, Begun ledger.lines component

/-- Where every component is held, and no task has begun to stop any, the teardown is
consistent. -/
theorem consistent_of_whole (whole : ∀ component, ledger.holds component = true)
    (unstopped : ledger.lines = []) (stops : ∀ task, ledger.stops task = none)
    (shutdowns : ∀ task, ledger.shutdowns task = none) : ledger.Consistent where
  apart := fun task entry there => by simp [stops] at there
  taken := fun component => by simp [whole, unstopped, Begun]
  ended := fun component settled => by simp [unstopped, Over] at settled
  serves := fun task entry there => by simp [stops] at there
  moved := fun task entry there => by simp [stops] at there
  joins := fun task tasks there => by simp [shutdowns] at there
  late := fun task component there => by simp [shutdowns] at there
  reached := fun task progress there => by simp [shutdowns] at there

/-- What a shutdown has reached once it is done with the offset manager or the client. -/
theorem reached_after {component earlier : Component}
    (late : component = .offsets ∨ component = .client)
    (there : earlier ∈ (Progress.after component).reached) :
    earlier = component ∨ earlier ∈ component.awaited := by
  rcases late with rfl | rfl <;> revert earlier <;> decide

/-- Components are taken away one at a time. -/
theorem taken_take {time : Nat} {component : Component}
    (taken : ∀ other, ledger.holds other = false ↔ Begun ledger.lines other) (other : Component) :
    (ledger.take time component).holds other = false ↔
      Begun (ledger.take time component).lines other := by
  simp only [take, begun_append_singleton, ← taken other, and_true]
  by_cases same : other = component
  · simp [same]
  · simp [same, Ne.symm same]

/-- Stops that have begun stay begun when a component is taken away. -/
theorem begun_take {time : Nat} {component other : Component} (begun : Begun ledger.lines other) :
    Begun (ledger.take time component).lines other :=
  begun_append_singleton.mpr (.inl begun)

/-- Stops that have begun stay begun when one returns. -/
theorem begun_give {time : Nat} {component other : Component} :
    Begun (ledger.give time component).lines other ↔ Begun ledger.lines other := by
  simp [give, begun_append_singleton]

/-- A call keeps the teardown consistent. -/
theorem Consistent.put {progress : Progress} (sound : ledger.Consistent)
    (apart : ledger.stops task = none)
    (joins : ∀ tasks, progress = .joining tasks → ∀ component ∈ Component.serving,
      ∃ stop ∈ tasks, ∃ entry, ledger.stops stop = some entry ∧ entry.component = component)
    (late : ∀ component, progress = .turn component ∨ progress = .stopping component →
      component = .offsets ∨ component = .client)
    (reached : ∀ component ∈ progress.reached, Begun ledger.lines component) :
    (ledger.put task progress).Consistent where
  apart := by
    intro other entry there
    by_cases mine : other = task
    · subst mine
      exact absurd (apart.symm.trans there) (by simp)
    · exact (shutdowns_put_of_ne mine).trans (sound.apart other entry there)
  taken := sound.taken
  ended := sound.ended
  serves := sound.serves
  moved := sound.moved
  joins := by
    intro other tasks there
    rcases shutdowns_put there with ⟨-, same⟩ | ⟨-, old⟩
    · exact joins tasks same.symm
    · exact sound.joins other tasks old
  late := by
    intro other component there
    rcases there with there | there
    · rcases shutdowns_put there with ⟨-, same⟩ | ⟨-, old⟩
      · exact late component (.inl same.symm)
      · exact sound.late other component (.inl old)
    · rcases shutdowns_put there with ⟨-, same⟩ | ⟨-, old⟩
      · exact late component (.inr same.symm)
      · exact sound.late other component (.inr old)
  reached := by
    intro other found there
    rcases shutdowns_put there with ⟨-, same⟩ | ⟨-, old⟩
    · rw [same]
      exact reached
    · exact sound.reached other found old

/-- A stop task that goes on keeps the teardown consistent. -/
theorem Consistent.putStop {entry : StopEntry} (sound : ledger.Consistent)
    (there : ∃ old, ledger.stops task = some old ∧ old.component = entry.component)
    (moved : entry.progress ≠ .fresh → Begun ledger.lines entry.component) :
    (ledger.putStop task entry).Consistent := by
  obtain ⟨old, there, same⟩ := there
  refine { sound with apart := ?_, serves := ?_, moved := ?_, joins := ?_ }
  · intro other found here
    rcases stops_putStop here with ⟨rfl, -⟩ | ⟨-, before⟩
    · exact sound.apart other old there
    · exact sound.apart other found before
  · intro other found here
    rcases stops_putStop here with ⟨-, rfl⟩ | ⟨-, before⟩
    · exact same ▸ sound.serves task old there
    · exact sound.serves other found before
  · intro other found here
    rcases stops_putStop here with ⟨-, rfl⟩ | ⟨-, before⟩
    · exact moved
    · exact sound.moved other found before
  · intro other tasks joining component serving
    obtain ⟨stop, waited, found, here, kind⟩ := sound.joins other tasks joining component serving
    by_cases mine : stop = task
    · subst mine
      obtain rfl := Option.some.inj (here.symm.trans there)
      exact ⟨stop, waited, entry, stops_putStop_self ledger entry, same.symm.trans kind⟩
    · exact ⟨stop, waited, found, (stops_putStop_of_ne mine).trans here, kind⟩

/-- A component that is taken away keeps the teardown consistent. -/
theorem Consistent.take (sound : ledger.Consistent) (time : Nat) (component : Component) :
    (ledger.take time component).Consistent where
  apart := sound.apart
  taken := taken_take sound.taken
  ended := by
    intro other settled
    rcases over_append_singleton.mp settled with before | ⟨-, impossible⟩
    · exact begun_take (sound.ended other before)
    · simp at impossible
  serves := sound.serves
  moved := fun other entry there moves => begun_take (sound.moved other entry there moves)
  joins := sound.joins
  late := sound.late
  reached := fun other progress there component passed =>
    begun_take (sound.reached other progress there component passed)

/-- A stop that returns keeps the teardown consistent. -/
theorem Consistent.give (sound : ledger.Consistent) (time : Nat) {component : Component}
    (begun : Begun ledger.lines component) : (ledger.give time component).Consistent where
  apart := sound.apart
  taken := fun other => (sound.taken other).trans begun_give.symm
  ended := by
    intro other settled
    rw [begun_give]
    rcases over_append_singleton.mp settled with before | ⟨rfl, -⟩
    · exact sound.ended other before
    · exact begun
  serves := sound.serves
  moved := fun other entry there moves => begun_give.mpr (sound.moved other entry there moves)
  joins := sound.joins
  late := sound.late
  reached := fun other progress there component passed =>
    begun_give.mpr (sound.reached other progress there component passed)

/-- A shutdown that starts its stop tasks keeps the teardown consistent. -/
theorem Consistent.open {tasks : List TaskId} {stops : TaskId → Option StopEntry}
    (sound : ledger.Consistent) (fresh : ledger.shutdowns me = some .opening)
    (old : ∀ task entry, ledger.stops task = some entry → stops task = some entry)
    (new : ∀ task entry, ledger.stops task = none → stops task = some entry →
      ledger.shutdowns task = none ∧ task ∈ tasks ∧ entry.component ∈ Component.serving ∧
        entry.owner = me ∧ entry.progress = .fresh)
    (all : ∀ component ∈ Component.serving, ∃ task ∈ tasks,
      stops task = some ⟨component, me, .fresh⟩) :
    ({ ledger with stops := stops }.put me (.joining tasks)).Consistent := by
  have started : ({ ledger with stops := stops } : Ledger).Consistent := by
    refine { sound with apart := ?_, serves := ?_, moved := ?_, joins := ?_ }
    · intro task entry there
      cases before : ledger.stops task with
      | none => exact (new task entry before there).1
      | some found => exact sound.apart task found before
    · intro task entry there
      cases before : ledger.stops task with
      | none => exact (new task entry before there).2.2.1
      | some found =>
        obtain rfl := Option.some.inj ((old task found before).symm.trans there)
        exact sound.serves task found before
    · intro task entry there moves
      cases before : ledger.stops task with
      | none => exact absurd (new task entry before there).2.2.2.2 moves
      | some found =>
        obtain rfl := Option.some.inj ((old task found before).symm.trans there)
        exact sound.moved task found before moves
    · intro task waited joining component serving
      obtain ⟨stop, there, entry, found, kind⟩ := sound.joins task waited joining component serving
      exact ⟨stop, there, entry, old stop entry found, kind⟩
  have apart : stops me = none := by
    cases there : stops me with
    | none => rfl
    | some entry => exact absurd ((started.apart me entry there).symm.trans fresh) (by simp)
  refine started.put apart ?_ (by simp) (by simp [Progress.reached])
  intro waited same component serving
  obtain rfl := Progress.joining.inj same
  obtain ⟨stop, there, found⟩ := all component serving
  exact ⟨stop, there, _, found, rfl⟩

/-- A shutdown is not a stop task. -/
theorem Consistent.stops_eq_none {progress : Progress} (sound : ledger.Consistent)
    (there : ledger.shutdowns task = some progress) : ledger.stops task = none := by
  cases stop : ledger.stops task with
  | none => rfl
  | some entry => exact absurd ((sound.apart task entry stop).symm.trans there) (by simp)

/-- Every step keeps the teardown consistent. -/
theorem Consistent.step (sound : before.Consistent) (step : Step me before after) :
    after.Consistent := by
  cases step with
  | «open» fresh old new all => exact sound.open fresh old new all
  | idle fresh gone =>
    exact sound.putStop ⟨_, fresh, rfl⟩ fun _ => (sound.taken _).mp gone
  | @begin component owner time fresh holds =>
    refine (sound.take time component).putStop ⟨_, fresh, rfl⟩ fun _ => ?_
    exact begun_append_singleton.mpr (.inr ⟨rfl, rfl⟩)
  | @«end» component owner time running =>
    have begun := sound.moved me _ running (by simp)
    exact (sound.give time begun).putStop ⟨_, running, rfl⟩ fun _ => begun_give.mpr begun
  | @join tasks joining settled =>
    refine sound.put (sound.stops_eq_none joining) (by simp) (by simp) ?_
    intro component serving
    obtain ⟨stop, waited, entry, there, rfl⟩ := sound.joins me tasks joining component serving
    exact sound.moved stop entry there (by simp [settled stop waited entry there])
  | @skip component turn gone =>
    have late := sound.late me component (.inl turn)
    refine sound.put (sound.stops_eq_none turn) ?_ ?_ ?_
    · rcases late with rfl | rfl <;> simp [Progress.after]
    · rcases late with rfl | rfl <;> simp [Progress.after]
    · intro earlier there
      rcases reached_after late there with rfl | awaited
      · exact (sound.taken earlier).mp gone
      · exact sound.reached me _ turn earlier awaited
  | @close component time turn holds =>
    have late := sound.late me component (.inl turn)
    refine (sound.take time component).put (sound.stops_eq_none turn) (by simp) ?_ ?_
    · rintro other (same | same)
      · simp at same
      · exact Progress.stopping.inj same ▸ late
    · intro earlier there
      rcases List.mem_cons.mp there with rfl | awaited
      · exact begun_append_singleton.mpr (.inr ⟨rfl, rfl⟩)
      · exact begun_take (sound.reached me _ turn earlier awaited)
  | @closed component time stopping =>
    have late := sound.late me component (.inr stopping)
    have reached := sound.reached me _ stopping
    refine (sound.give time (reached component List.mem_cons_self)).put
      (sound.stops_eq_none stopping) ?_ ?_ ?_
    · rcases late with rfl | rfl <;> simp [Progress.after]
    · rcases late with rfl | rfl <;> simp [Progress.after]
    · intro earlier there
      rw [begun_give]
      rcases reached_after late there with rfl | awaited
      · exact reached earlier List.mem_cons_self
      · exact reached earlier (List.mem_cons_of_mem _ awaited)

/-- What a task does where stops may break down keeps the teardown consistent. -/
theorem Consistent.stride {breaks : Prop} (sound : before.Consistent)
    (stride : Stride breaks me before after) : after.Consistent := by
  cases stride with
  | step step => exact sound.step step
  | fall _ there =>
    exact sound.put (sound.stops_eq_none there) (by simp) (by simp) (by simp [Progress.reached])
  | fail _ running =>
    have begun := sound.moved me _ running (by simp)
    exact sound.putStop ⟨_, running, rfl⟩ fun _ => begun

/-- Everything that happens keeps the teardown consistent. -/
theorem Consistent.change (sound : before.Consistent) (change : Change before after) :
    after.Consistent := by
  cases change with
  | call new other => exact sound.put other (by simp) (by simp) (by simp [Progress.reached])
  | drop there =>
    exact sound.put (sound.stops_eq_none there) (by simp) (by simp) (by simp [Progress.reached])
  | steps me steps =>
    induction steps with
    | refl => exact sound
    | tail _ step ih => exact ih.step step

/-- No shutdown stands between two waits. -/
def Rests (ledger : Ledger) : Prop :=
  ∀ task component, ledger.shutdowns task ≠ some (.turn component)

/-- Every component is one of all. -/
theorem mem_all (component : Component) : component ∈ Component.all := by
  cases component <;> decide

/-- No component awaits itself. -/
theorem not_mem_awaited (component : Component) : component ∉ component.awaited := by
  cases component <;> decide

/-- Where the order is kept, nothing is overtaken. -/
theorem KeepsOrder.not_overtakes (sound : ledger.Consistent) (rests : ledger.Rests)
    (keeps : ledger.KeepsOrder) : ¬ ledger.Overtakes := by
  rintro ⟨task, progress, component, there, passed, -, running⟩
  cases progress with
  | turn late => exact rests task late there
  | stopping late =>
    have begun := sound.reached task _ there late List.mem_cons_self
    exact running (keeps.order.settled begun passed)
  | finished => exact running (keeps.complete task there component)
  | opening => simp [Progress.passed] at passed
  | joining => simp [Progress.passed] at passed
  | dropped => simp [Progress.passed] at passed

/-- Where nothing is overtaken, all components have stopped when a shutdown is over. -/
theorem over_of_not_overtakes (sound : ledger.Consistent) (straight : ¬ ledger.Overtakes)
    (finished : ledger.shutdowns task = some .finished) (component : Component) :
    Over ledger.lines component := by
  by_cases settled : Over ledger.lines component
  · exact settled
  · have begun := sound.reached task _ finished component (mem_all component)
    exact absurd ⟨task, _, component, finished, mem_all component, begun, settled⟩ straight

/-- A step keeps the record in order, or goes past a component that is still stopping. -/
theorem inOrder_step (sound : before.Consistent) (step : Step me before after)
    (order : InOrder before.lines) : InOrder after.lines ∨ after.OvertakenBy me := by
  cases step with
  | «open» => exact .inl order
  | idle => exact .inl order
  | @begin component owner time fresh holds =>
    have first := Component.awaited_of_serving (sound.serves me _ fresh)
    exact .inl (order.append_singleton fun _ => by simp [first])
  | «end» time => exact .inl (order.append_singleton (by simp))
  | join => exact .inl order
  | skip => exact .inl order
  | @close component time turn holds =>
    by_cases awaits : ∀ earlier ∈ component.awaited, Over before.lines earlier
    · exact .inl (order.append_singleton fun _ => awaits)
    · obtain ⟨earlier, rest⟩ := Classical.not_forall.mp awaits
      obtain ⟨awaited, running⟩ := Classical.not_imp.mp rest
      have begun := sound.reached me _ turn earlier awaited
      refine .inr ⟨.stopping component, earlier, shutdowns_put_self _ _, awaited,
        begun_take begun, ?_⟩
      intro settled
      rcases over_append_singleton.mp settled with old | ⟨-, impossible⟩
      · exact running old
      · simp at impossible
  | closed time => exact .inl (order.append_singleton (by simp))

/-- A shutdown that has gone past a component does not come back in its own steps. -/
theorem OvertakenBy.step (sound : before.Consistent) (step : Step me before after)
    (overtaken : before.OvertakenBy me) : after.OvertakenBy me := by
  obtain ⟨progress, earlier, there, passed, begun, running⟩ := overtaken
  cases step with
  | «open» fresh =>
    obtain rfl := Option.some.inj (there.symm.trans fresh)
    simp [Progress.passed] at passed
  | idle fresh => exact absurd ((sound.apart me _ fresh).symm.trans there) (by simp)
  | begin time fresh => exact absurd ((sound.apart me _ fresh).symm.trans there) (by simp)
  | «end» time running => exact absurd ((sound.apart me _ running).symm.trans there) (by simp)
  | join joining =>
    obtain rfl := Option.some.inj (there.symm.trans joining)
    simp [Progress.passed] at passed
  | @skip component turn gone =>
    obtain rfl := Option.some.inj (there.symm.trans turn)
    refine ⟨_, earlier, shutdowns_put_self _ _, ?_, begun, running⟩
    rcases sound.late me component (.inl turn) with rfl | rfl
    · exact List.mem_cons_of_mem _ passed
    · exact mem_all earlier
  | @close component time turn holds =>
    obtain rfl := Option.some.inj (there.symm.trans turn)
    refine ⟨_, earlier, shutdowns_put_self _ _, passed, begun_take begun, ?_⟩
    intro settled
    rcases over_append_singleton.mp settled with old | ⟨-, impossible⟩
    · exact running old
    · simp at impossible
  | @closed component time stopping =>
    obtain rfl := Option.some.inj (there.symm.trans stopping)
    refine ⟨_, earlier, shutdowns_put_self _ _, ?_, begun_give.mpr begun, ?_⟩
    · rcases sound.late me component (.inr stopping) with rfl | rfl
      · exact List.mem_cons_of_mem _ passed
      · exact mem_all earlier
    · intro settled
      rcases over_append_singleton.mp settled with old | ⟨rfl, -⟩
      · exact running old
      · exact not_mem_awaited _ passed

/-- What happens keeps the record in order, or some component is overtaken. -/
theorem inOrder_change (sound : before.Consistent) (change : Change before after)
    (order : InOrder before.lines) : InOrder after.lines ∨ after.Overtakes := by
  cases change with
  | call => exact .inl order
  | drop => exact .inl order
  | steps me steps =>
    have both : after.Consistent ∧ (InOrder after.lines ∨ after.OvertakenBy me) := by
      induction steps with
      | refl => exact ⟨sound, .inl order⟩
      | tail _ step ih =>
        refine ⟨ih.1.step step, ?_⟩
        rcases ih.2 with kept | overtaken
        · exact inOrder_step ih.1 step kept
        · exact .inr (overtaken.step ih.1 step)
    exact both.2.imp id fun overtaken => ⟨me, overtaken⟩

end ClusterGateway.Ledger
