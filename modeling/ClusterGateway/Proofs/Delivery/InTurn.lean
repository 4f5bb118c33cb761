import ClusterGateway.Proofs.Delivery.Overdue

/-!
# Couriers in turn

Tasks run in turn if the line of ready tasks is served from its beginning, calls excepted, which
deliver nothing in the background. Then couriers are in order (`Ordered`): of two that have
something to deliver to an open session the one that was started later is not served before the
other. Nor does it fill its room first, if the receiver is patient: where room comes free, there is
none left when it has been granted, or whoever has been granted some runs before whoever has not.
Main statement: `Opened.ordered_play?`.
-/

namespace ClusterGateway

variable {me first second : TaskId} {line later : List TaskId}

namespace World

variable {world before after left : World} {found : Task} {site : SiteId} {number : SessionId}
  {move : Move} {session : Session} {strict : Prop}

/-- There is no room left, or the couriers that have been granted some run before all others. -/
def isRanked (world : World) (site : SiteId) (number : SessionId) : Bool :=
  (world.session? site number).all fun session =>
    session.room == 0 || world.ready.all fun task =>
      !world.isCourier site number task || session.granted.contains task ||
        session.granted.all fun other =>
          !world.isCourier site number other || (world.ready.takeWhile (· != task)).contains other

/-- A task that runs is the first in line; calls do not count. -/
def isNext (world : World) : Move → Bool
  | .resume task => world.isCall task || (world.ready.takeWhile (· != task)).all world.isCall
  | _ => true

/-- The receiver is patient: where the move frees room, the couriers that have been granted some run
before all others, unless there is none left. -/
def isPatient (world : World) (site : SiteId) (number : SessionId) (move : Move) : Bool :=
  !world.frees site number move || (world.apply move).isRanked site number

/-- Room comes free only while nobody is ready. -/
def freesAtRest (world : World) (site : SiteId) (number : SessionId) (move : Move) : Bool :=
  !world.frees site number move || world.ready.isEmpty

/-- All moves of a run follow a rule. -/
def obeys (rule : World → Move → Bool) (world : World) : List Move → Bool
  | [] => true
  | move :: moves => rule world move && (world.apply move).obeys rule moves

/-- All tasks run in turn. -/
abbrev playsInTurn : World → List Move → Bool := obeys isNext

/-- The receiver of a session is patient all along. -/
abbrev playsPatiently (world : World) (site : SiteId) (number : SessionId) : List Move → Bool :=
  world.obeys (·.isPatient site number)

/-- Room comes free in a session only while nobody is ready. -/
abbrev playsAtRest (world : World) (site : SiteId) (number : SessionId) : List Move → Bool :=
  world.obeys (·.freesAtRest site number)

/-- A longer run follows a rule if it did before and its last move does. -/
theorem obeys_concat {rule : World → Move → Bool} {start : World} {moves : List Move}
    (played : start.play? moves = some world) : start.obeys rule (moves ++ [move]) = true ↔
      start.obeys rule moves = true ∧ rule world move = true := by
  induction moves generalizing start with
  | nil =>
    obtain rfl := Option.some.inj played
    simp [obeys]
  | cons other rest ih =>
    simp only [play?, Option.ite_none_right_eq_some] at played
    simp only [List.cons_append, obeys, Bool.and_eq_true, ih played.2, and_assoc]

/-- All that happens while nobody is ready is in turn. -/
theorem isNext_of_rest (rest : world.ready = []) (move : Move) : world.isNext move = true := by
  cases move <;> simp [isNext, rest]

/-- Where all who are ready have been granted room, those who have some run before all others. -/
theorem isRanked_of_granted (there : world.session? site number = some session)
    (granted : ∀ task ∈ world.ready, task ∈ session.granted) :
    world.isRanked site number = true := by
  simp only [isRanked, there, Option.all_some, Bool.or_eq_true, List.all_eq_true]
  exact .inr fun task ready => .inl (.inr (List.contains_iff_mem.mpr (granted task ready)))

/-- A receiver is patient that takes offsets while nobody is ready, however many. -/
theorem isPatient_of_rest (waits : world.Waits) (rest : world.ready = []) (site : SiteId)
    (number : SessionId) (move : Move) : world.isPatient site number move = true := by
  cases move with
  | read place other limit =>
    by_cases same : place = site ∧ other = number
    · obtain ⟨rfl, rfl⟩ := same
      suffices ranked : (world.apply (.read place other limit)).isRanked place other = true by
        simp [isPatient, ranked]
      rw [apply]
      obtain ⟨absent, same⟩ | ⟨found, there, same⟩ :=
        onSession_cases world place other fun found => (found.take limit).2
      · rw [same]
        simp [isRanked, absent]
      · refine isRanked_of_granted (session?_onSession_self world place there _) ?_
        intro task ready
        obtain ⟨more, joined, named⟩ := exists_ready_wakeAll (world.onBroker place
          (·.onSession other fun _ => (found.take limit).2.1)) (found.take limit).2.2
        rw [same, joined] at ready
        rcases List.mem_append.mp ready with before | now
        · exact absurd (rest ▸ before) List.not_mem_nil
        · exact List.mem_append_right _ (named task now)
    · have kept : world.frees site number (.read place other limit) = false := by
        simpa [frees] using same
      simp [isPatient, kept]
  | cancel me =>
    -- whoever has been granted room is ready to fill it
    suffices kept : world.frees site number (.cancel me) = false by simp [isPatient, kept]
    cases there : world.session? site number with
    | none => simp [frees, there]
    | some session =>
      have idle : me ∉ session.granted := by
        intro granted
        obtain ⟨dispatch, pending, rfl, rfl⟩ :=
          (waits.placed me).lines site number session there (.inr granted)
        obtain ⟨found, here, keeps⟩ := (waits.placed me).place dispatch pending
        obtain rfl := Option.some.inj (there.symm.trans here)
        have inLine := (keeps.asleep (by simp [rest])).2
        exact (waits.healthy _ _ _ there).ungranted inLine granted
      simp [frees, there, idle]
  | _ => simp [isPatient, frees]

/-- A receiver is patient if room comes free only while nobody is ready. -/
theorem playsPatiently_of_rest {start last : World} {moves : List Move} (opened : start.Opened)
    (played : start.play? moves = some last) (rests : start.playsAtRest site number moves = true) :
    start.playsPatiently site number moves = true := by
  induction moves, last, played using run_induction with
  | nil => rfl
  | concat moves world move first free ih =>
    obtain ⟨early, last⟩ := (obeys_concat first).mp rests
    refine (obeys_concat first).mpr ⟨ih early, ?_⟩
    simp only [freesAtRest, Bool.or_eq_true, Bool.not_eq_true', List.isEmpty_iff] at last
    obtain kept | rest := last
    · simp [isPatient, kept]
    · exact isPatient_of_rest (opened.waits.reaches ⟨moves, first⟩) rest site number move

/-- The task that the executor picks is next in line, if a call is in the foreground. -/
theorem isNext_of_pick? {foreground : Option TaskId} {task : TaskId}
    (call : ∀ task, foreground = some task → world.isCall task = true)
    (picked : world.pick? foreground = some task) : world.isNext (.resume task) = true := by
  simp only [isNext, Bool.or_eq_true]
  right
  unfold pick? at picked
  split at picked
  · rename_i other found
    obtain rfl := Option.some.inj picked
    obtain ⟨chosen, early, late, line, skipped⟩ := List.find?_eq_some_iff_append.mp found
    have before (task : TaskId) (there : task ∈ early) : some task = foreground := by
      simpa using skipped task there
    refine List.all_eq_true.mpr fun task there => call task (before task ?_).symm
    rw [line, List.takeWhile_append_of_pos] at there
    · simpa using there
    · intro task inside
      have differ : task ≠ other := by
        rintro rfl
        simp [before task inside] at chosen
      simpa using differ
  · rename_i nobody
    cases line : world.ready with
    | nil => rfl
    | cons first rest =>
      obtain rfl : first = task := by simpa [line] using picked
      simp

/-- A call stays one. -/
theorem isCall_apply (sound : world.Sound) (move : Move) (call : world.isCall me = true) :
    (world.apply move).isCall me = true := by
  cases there : world.tasks[me]? with
  | none => simp [isCall, there] at call
  | some found =>
    obtain ⟨stage, later, -⟩ := kept_apply sound move there
    obtain ⟨actor, purpose, old⟩ := found
    unfold isCall at call ⊢
    rw [there] at call
    rw [later]
    cases purpose <;> simp_all

/-- The executor lets all tasks run in turn, and frees no room. -/
theorem obeys_runFor (sound : world.Sound) (limit : Option Nat) (foreground : Option TaskId)
    (call : ∀ task, foreground = some task → world.isCall task = true) (fuel : Nat) :
    ∃ moves, world.play? moves = some (runFor limit foreground fuel world) ∧
      world.playsInTurn moves = true ∧
        ∀ site number, world.playsPatiently site number moves = true := by
  induction fuel generalizing world with
  | zero => exact ⟨[], rfl, rfl, fun _ _ => rfl⟩
  | succ fuel ih =>
    have goes_on {move : Move} (free : world.isOpen move = true) (next : world.isNext move = true)
        (patient : ∀ site number, world.isPatient site number move = true) :
        ∃ moves, world.play? moves = some (runFor limit foreground fuel (world.apply move)) ∧
          world.playsInTurn moves = true ∧
            ∀ site number, world.playsPatiently site number moves = true := by
      obtain ⟨moves, played, inTurn, waits⟩ := ih (sound.apply free)
        fun task named => isCall_apply sound move (call task named)
      refine ⟨move :: moves, by simp [play?, free, played], by simp [obeys, next, inTurn], ?_⟩
      exact fun site number => by simp [obeys, patient site number, waits site number]
    unfold runFor
    split
    · rename_i task picked
      have free : world.isOpen (.resume task) = true := by
        simpa [isOpen] using mem_ready_of_pick? picked
      exact goes_on free (isNext_of_pick? call picked) fun _ _ => by simp [isPatient, frees]
    · rename_i nobody
      have rest := ready_eq_nil_of_pick? nobody
      split
      · exact ⟨[], rfl, rfl, fun _ _ => rfl⟩
      · split
        · rename_i due next
          split
          · have free : world.isOpen (.pass due) = true := mayPass_of_nextDue? rest next
            exact goes_on free (isNext_of_rest rest (.pass due))
              fun _ _ => by simp [isPatient, frees]
          · exact ⟨[], rfl, rfl, fun _ _ => rfl⟩
        · exact ⟨[], rfl, rfl, fun _ _ => rfl⟩

/-- In turn no courier runs before another that stands in front of it. -/
theorem not_inFront_of_isNext (next : world.isNext (.resume second) = true)
    (one : world.isCourier site number first = true)
    (two : world.isCourier site number second = true) :
    ¬ InFront world.ready first second := by
  intro front
  simp only [isNext, isCall_of_isCourier two, Bool.false_or, List.all_eq_true] at next
  have call := next first front.mem_takeWhile
  exact absurd ((isCall_of_isCourier one).symm.trans call) (by simp)

/-- Where couriers with room run before all others, one that has some stands in front of one that is
ready and has none, or there is no room left. -/
theorem front_of_isRanked (ranked : world.isRanked site number = true)
    (there : world.session? site number = some session)
    (one : world.isCourier site number first = true)
    (two : world.isCourier site number second = true) (has : first ∈ session.granted)
    (hasNot : second ∉ session.granted) (ready : second ∈ world.ready) :
    session.room = 0 ∨ InFront world.ready first second := by
  simp only [isRanked, there, Option.all_some, Bool.or_eq_true, beq_iff_eq, List.all_eq_true,
    Bool.not_eq_true', List.contains_eq_mem, decide_eq_true_eq] at ranked
  refine ranked.imp_right fun before => .of_mem_takeWhile ?_
  obtain (other | also) | others := before second ready
  · exact absurd (other.symm.trans two) (by simp)
  · exact absurd also hasNot
  · exact (others first has).resolve_left fun other => absurd (other.symm.trans one) (by simp)

/-- Where a patient receiver frees room, it is granted fairly. -/
theorem fair_of_isPatient {after : Session} (patient : world.isPatient site number move = true)
    (frees : world.frees site number move = true)
    (here : (world.apply move).session? site number = some after)
    (one : (world.apply move).isCourier site number first = true)
    (two : (world.apply move).isCourier site number second = true) :
    after.Fair (world.apply move).ready first second := by
  have ranked : (world.apply move).isRanked site number = true := by
    simpa [isPatient, frees] using patient
  exact front_of_isRanked ranked here one two

/-- A move in turn lets no courier get ahead of one that was started before. -/
theorem Ordered.ahead_apply (ordered : world.Ordered strict site number)
    (timely : world.Timely site number) (waits : world.Waits)
    (free : world.isOpen move = true) (next : world.isNext move = true)
    (patient : strict → world.isPatient site number move = true)
    {after : Session} (there : world.session? site number = some session)
    (here : (world.apply move).session? site number = some after)
    (unclosed : after.closed = false) (earlier : first < second)
    (one : world.Delivering site number first) (two : world.Delivering site number second)
    (oneAlive : (world.apply move).isOver first = false)
    (twoAlive : (world.apply move).isOver second = false) :
    after.Ahead strict (world.apply move).ready first second := by
  obtain ⟨me, other, foreign, at_place, effect⟩ := effect_apply waits free there
  obtain rfl := Option.some.inj (here.symm.trans at_place)
  have opened := effect.unclosed unclosed
  have differ := Nat.ne_of_lt earlier
  have ahead := ordered.ahead session first second there opened earlier one two
  by_cases mine : move.IsOwn first
  · obtain rfl := resumed_of_isOwn one.courier free mine
    obtain ⟨out, same⟩ | ⟨inLine, same, -⟩ := waits.courier_rests free one.courier there oneAlive
    · obtain rfl := Option.some.inj (here.symm.trans same)
      exact ahead.toRanks.await_first out differ
    · obtain rfl := Option.some.inj (here.symm.trans same)
      exact ahead.toRanks.ahead (.inl inLine)
  by_cases its : move.IsOwn second
  · obtain rfl := resumed_of_isOwn two.courier free its
    obtain ⟨out, same⟩ | ⟨inLine, same, -⟩ := waits.courier_rests free two.courier there twoAlive
    · obtain rfl := Option.some.inj (here.symm.trans same)
      exact ahead.await_second out differ (not_inFront_of_isNext next one.courier two.courier)
    · obtain rfl := Option.some.inj (here.symm.trans same)
      exact ahead.toRanks.ahead (.inr inLine)
  -- the move is that of another task, or of nobody
  have either {task : TaskId} (named : task = first ∨ task = second) :
      world.Delivering site number task := by
    rcases named with rfl | rfl
    · exact one
    · exact two
  refine effect.ahead unclosed (waits.healthy site number session there) ahead
    (ne_of_isCourier one.courier foreign mine) (ne_of_isCourier two.courier foreign its)
    (fun task named => ordered.awake waits there opened (either named))
    (inFront_apply waits.sound mine)
    (fun _ inLine ready => timely.front there opened earlier one two inLine ready)
    fun strictly frees => ?_
  exact fair_of_isPatient (patient strictly) frees here
    (isCourier_apply waits.sound move one.courier) (isCourier_apply waits.sound move two.courier)

/-- A courier that has just been started is behind all others. -/
theorem Ordered.ahead_of_new (ordered : world.Ordered strict site number) (waits : world.Waits)
    (peopled : world.Peopled) {key : RoutingKey} {offset : Int64} {parent : TaskId}
    (free : world.isOpen (.resume parent) = true)
    (hands : HandsOver world (world.resume parent) parent second site key offset number)
    {after : Session} (there : world.session? site number = some session)
    (here : (world.resume parent).session? site number = some after)
    (unclosed : after.closed = false) (one : world.Delivering site number first)
    (started : (world.resume parent).isCourier site number second = true) :
    after.Ahead strict (world.resume parent).ready first second := by
  obtain ⟨running, -, -, -, at_parent, -⟩ := hands.fresh
  have absent : world.tasks[second]? = none :=
    List.getElem?_eq_none_iff.mpr (Nat.le_of_eq hands.next.symm)
  have out : ¬ after.InLine second := by
    obtain ⟨found, -, -, -, at_second, -⟩ := isCourier_iff.mp started
    have fresh := (born_apply waits.sound free absent at_second).1
    have idle : (world.resume parent).dispatch? second = none := by
      simp [dispatch?, at_second, Task.dispatch?, fresh]
    exact ((waits.apply free).placed second).away idle here
  refine ⟨.of_out out, fun away _ => .inl ?_⟩
  have turn := turn_resume at_parent (waits.sound parent running at_parent).1
  obtain ⟨later, also, passes⟩ := turn.passes (waits.departs at_parent) there
  obtain rfl := Option.some.inj (here.symm.trans also)
  have differ : first ≠ parent := by
    rintro rfl
    exact absurd ((isCall_of_isCourier one.courier).symm.trans hands.isCall) (by simp)
  have idle : first ∉ session.waiting := fun waits => away ((passes.waiting first differ).mpr waits)
  have ready := ordered.awake waits there (passes.closed.symm.trans unclosed) one idle
  have foreign : ¬ (Move.resume parent).IsOwn first := by
    rintro (resumed | cancelled)
    · exact differ (Move.resume.inj resumed).symm
    · cases cancelled
  exact peopled.inFront_of_new waits.sound ready foreign (Nat.le_of_eq hands.next.symm)

/-- Moves in turn keep couriers in order. -/
theorem Ordered.apply (ordered : world.Ordered strict site number)
    (timely : world.Timely site number) (waits : world.Waits) (laned : world.Laned)
    (peopled : world.Peopled) (free : world.isOpen move = true)
    (next : world.isNext move = true)
    (patient : strict → world.isPatient site number move = true) :
    (world.apply move).Ordered strict site number where
  fresh := by
    intro task later there courier fresh
    cases before : world.tasks[task]? with
    | none =>
      have new : world.tasks.length ≤ task := List.getElem?_eq_none_iff.mp before
      exact ready_of_new waits.sound new (List.getElem?_eq_some_iff.mp there).1
    | some found =>
      have was : world.isCourier site number task = true :=
        (isCourier_apply_eq waits.sound free before).symm.trans courier
      have unrun : ¬ (world.apply move).Ran task := by
        rintro ⟨other, here, ran⟩
        obtain rfl := Option.some.inj (there.symm.trans here)
        exact ran fresh
      by_cases aged : found.stage = .fresh
      · refine mem_ready_apply waits.sound (fun own => ?_)
          (ordered.fresh task found before was aged)
        obtain rfl := resumed_of_isOwn was free own
        exact unrun (ran_courier waits.sound was)
      · exact absurd (Ran.apply waits.sound ⟨found, before, aged⟩ move) unrun
  ahead := by
    intro session first second there unclosed earlier one two
    obtain was | ⟨key, offset, parent, -, hands⟩ := one.of_apply waits.sound free
    · obtain ⟨old, at_place⟩ := laned.session_of_isCourier was.courier
      obtain also | ⟨key, offset, parent, rfl, hands⟩ := two.of_apply waits.sound free
      · exact ordered.ahead_apply timely waits free next patient at_place there unclosed earlier was
          also one.alive two.alive
      · exact ordered.ahead_of_new waits peopled free hands at_place there unclosed was two.courier
    · -- nobody is started after the task that is started now
      exfalso
      obtain also | ⟨key, offset, parent, -, others⟩ := two.of_apply waits.sound free
      · have inside := lt_of_isCourier also.courier
        rw [← hands.next] at inside
        exact Nat.lt_asymm earlier inside
      · exact Nat.ne_of_lt earlier (hands.next.trans others.next.symm)

/-- Couriers keep their order as long as tasks run in turn; strictly, if the receiver is patient. -/
theorem Opened.ordered_play? {start last : World} {moves : List Move} (opened : start.Opened)
    (played : start.play? moves = some last) (inTurn : start.playsInTurn moves = true)
    (patient : strict → start.playsPatiently site number moves = true) :
    last.Ordered strict site number := by
  -- the order of those who are given up is needed for that of those who are served
  suffices both : last.Ordered strict site number ∧ last.Timely site number from both.1
  induction moves, last, played using run_induction with
  | nil =>
    refine ⟨⟨fun task _ _ courier => ?_, fun _ first _ _ _ _ one => ?_⟩, opened.timely site number⟩
    · exact absurd courier (opened.not_isCourier site number task)
    · exact absurd one.courier (opened.not_isCourier site number first)
  | concat moves world move first free ih =>
    obtain ⟨early, next⟩ := (obeys_concat first).mp inTurn
    have waited (strictly : strict) := (obeys_concat first).mp (patient strictly)
    have reaches : start.Reaches world := ⟨moves, first⟩
    have waits := opened.waits.reaches reaches
    have laned := opened.laned.reaches opened.waits reaches
    have peopled := opened.peopled reaches
    obtain ⟨ordered, timely⟩ := ih early fun strictly => (waited strictly).1
    refine ⟨?_, timely.apply ordered waits laned peopled free⟩
    exact ordered.apply timely waits laned peopled free next fun strictly => (waited strictly).2

end World

end ClusterGateway
