import ClusterGateway.Proofs.Delivery.InTurn

/-!
# Couriers get their places in order

A session takes an acknowledgement on when it gives the courier a place: at once if there is room,
or out of the line as room comes free. The courier then fills its place when it runs. As long as
tasks run in turn, places are given in the order in which the couriers were started, whatever the
capacity and whenever the receiver takes how much (`Opened.seats`). If the receiver is patient,
the places are filled in this order as well (`Opened.sequenced_delivered`).
-/

namespace ClusterGateway

variable {me first second task : TaskId} {line served : List TaskId}

/-- A line is ascending if every task stands in front of all later ones. -/
theorem pairwise_of_inFront (distinct : line.Nodup)
    (front : ∀ first ∈ line, ∀ second ∈ line, first < second → InFront line first second) :
    line.Pairwise (· < ·) := by
  induction line with
  | nil => exact List.Pairwise.nil
  | cons head rest ih =>
    obtain ⟨absent, distinct⟩ := List.nodup_cons.mp distinct
    have headed {early late : List TaskId} {me : TaskId} (split : head :: rest = early ++ late)
        (there : me ∈ early) : ∃ more, early = head :: more ∧ rest = more ++ late := by
      cases early with
      | nil => exact absurd there List.not_mem_nil
      | cons other more =>
        obtain ⟨rfl, same⟩ := List.cons.inj split
        exact ⟨more, rfl, same⟩
    refine List.pairwise_cons.mpr ⟨fun second there => ?_,
      ih distinct fun first one second two before => ?_⟩
    · rcases Nat.lt_trichotomy head second with before | rfl | after
      · exact before
      · exact absurd there absent
      · obtain ⟨early, late, split, inside, outside⟩ :=
          front second (List.mem_cons_of_mem _ there) head List.mem_cons_self after
        obtain ⟨more, rfl, -⟩ := headed split inside
        exact absurd List.mem_cons_self outside
    · obtain ⟨early, late, split, inside, outside⟩ :=
        front first (List.mem_cons_of_mem _ one) second (List.mem_cons_of_mem _ two) before
      obtain ⟨more, rfl, same⟩ := headed split inside
      refine ⟨more, late, same, ?_, fun still => outside (List.mem_cons_of_mem _ still)⟩
      exact (List.mem_cons.mp inside).resolve_left fun itself => absent (itself ▸ one)

/-- If all senders in line that meet a condition are ranked as they are numbered, they stand in line
in this order. -/
theorem Session.Tidy.ascending_waiting {session : Session} (tidy : session.Tidy)
    {keep : TaskId → Bool}
    (ranks : ∀ first second, first < second → first ∈ session.waiting → second ∈ session.waiting →
      keep first = true → keep second = true → session.Ranks first second) :
    (session.waiting.filter keep).Pairwise (· < ·) := by
  refine pairwise_of_inFront ((List.nodup_append.mp tidy.once).1.filter _) ?_
  intro first one second two earlier
  obtain ⟨named, kept⟩ := List.mem_filter.mp one
  obtain ⟨also, met⟩ := List.mem_filter.mp two
  exact ((ranks first second earlier named also kept met).inLine named also).filter kept

namespace World

variable {world before after : World} {site : SiteId} {number : SessionId} {move : Move}
  {session : Session} {strict : Prop} {moves : List Move} {start last : World}

/-- Couriers of a session that have been served, in the order in which they were started; all that
were started before one of them have been served, too, or are over. -/
structure Sequenced (world : World) (site : SiteId) (number : SessionId) (served : List TaskId) :
    Prop where
  couriers : ∀ task ∈ served, world.isCourier site number task = true
  passed : ∀ first second, second ∈ served → first < second →
    world.isCourier site number first = true → first ∈ served ∨ world.isOver first = true
  ascending : served.Pairwise (· < ·)

/-- Nobody has been served. -/
theorem Sequenced.nil (world : World) (site : SiteId) (number : SessionId) :
    world.Sequenced site number [] where
  couriers := fun _ there => absurd there List.not_mem_nil
  passed := fun _ _ there => absurd there List.not_mem_nil
  ascending := List.Pairwise.nil

/-- Further couriers are served by a move, all that were started before and are not over among
them. -/
theorem Sequenced.append (sequenced : world.Sequenced site number served) (sound : world.Sound)
    (free : world.isOpen move = true) {more : List TaskId}
    (couriers : ∀ task ∈ more, world.isCourier site number task = true)
    (alive : ∀ task ∈ more, world.isOver task = false) (unserved : ∀ task ∈ more, task ∉ served)
    (passed : ∀ first second, second ∈ more → first < second →
      world.Delivering site number first → first ∈ served ++ more)
    (ascending : more.Pairwise (· < ·)) :
    (world.apply move).Sequenced site number (served ++ more) where
  couriers := by
    intro task there
    rcases List.mem_append.mp there with old | new
    · exact isCourier_apply sound move (sequenced.couriers task old)
    · exact isCourier_apply sound move (couriers task new)
  passed := by
    intro first second there earlier one
    have two : world.isCourier site number second = true :=
      (List.mem_append.mp there).elim (sequenced.couriers second) (couriers second)
    obtain was | ⟨key, offset, parent, -, hands⟩ := isCourier_of_apply sound free one
    · by_cases past : world.isOver first = true
      · exact .inr (isOver_apply sound was past)
      · left
        rcases List.mem_append.mp there with old | new
        · exact List.mem_append_left _
            ((sequenced.passed first second old earlier was).resolve_right past)
        · exact passed first second new earlier ⟨was, Bool.eq_false_iff.mpr past⟩
    · -- nobody is started after the task that is started now
      have inside := lt_of_isCourier two
      rw [← hands.next] at inside
      exact absurd inside (Nat.lt_asymm earlier)
  ascending := by
    refine List.pairwise_append.mpr ⟨sequenced.ascending, ascending, fun old there new here => ?_⟩
    rcases Nat.lt_trichotomy old new with before | rfl | after
    · exact before
    · exact absurd there (unserved old here)
    · rcases sequenced.passed new old there after (couriers new here) with was | past
      · exact absurd was (unserved new here)
      · exact absurd ((alive new here).symm.trans past) (by simp)

/-- When a courier delivers, all couriers that were started before it, and are not over, have been
granted room; strictly, there are none. -/
theorem Ordered.first_granted (ordered : world.Ordered strict site number) (waits : world.Waits)
    {dispatch : Dispatch} (delivers : Delivers second dispatch world after)
    (at_site : dispatch.site = site) (at_session : dispatch.session = number)
    (there : world.session? site number = some session)
    (next : world.isNext (.resume second) = true) (earlier : first < second)
    (one : world.Delivering site number first)
    (two : world.isCourier site number second = true) :
    first ∈ session.granted ∧ ¬ strict := by
  subst at_site at_session
  have admits := delivers.admits
  simp only [Admits, there] at admits
  obtain ⟨unclosed, served⟩ := admits
  have ahead := ordered.ahead session first second there unclosed earlier one ⟨two, delivers.alive⟩
  exact ahead.first_granted (waits.healthy _ _ session there)
    (not_inFront_of_isNext next one.courier two) served

/-- The couriers of a session whose offsets it has accepted, the first one first. -/
def delivered (world : World) (site : SiteId) (number : SessionId) : List TaskId :=
  ((world.accepted site number).filterMap (·.sender)).filter (world.isCourier site number)

/-- A move delivers the offset of one courier that is resumed, or of none. -/
theorem delivered_apply (waits : world.Waits) (unsent : world.Unsent)
    (free : world.isOpen move = true) (site : SiteId) (number : SessionId) :
    (world.apply move).delivered site number = world.delivered site number ∨
      ∃ me dispatch, move = .resume me ∧ Delivers me dispatch world (world.apply move) ∧
        dispatch.site = site ∧ dispatch.session = number ∧
          world.isCourier site number me = true ∧
            (world.apply move).delivered site number = world.delivered site number ++ [me] := by
  -- whoever has sent is there, so no new courier has
  have still : ((world.accepted site number).filterMap (·.sender)).filter
      ((world.apply move).isCourier site number) = world.delivered site number := by
    refine List.filter_congr fun sender there => ?_
    obtain ⟨event, sent, signed⟩ := List.mem_filterMap.mp there
    cases present : world.tasks[sender]? with
    | some found => exact isCourier_apply_eq waits.sound free present
    | none => exact absurd signed (unsent.sender_ne (by simp [outcome?, present]) sent)
  obtain ⟨me, dispatch, resumed, delivers⟩ | ⟨same, -⟩ := accepted_apply waits move
  · unfold delivered
    rw [delivers.accepts, List.filterMap_append, List.filter_append, still]
    obtain ⟨found, -, there, -⟩ := delivers.concludes
    have same : (world.apply move).isCourier site number me = world.isCourier site number me :=
      isCourier_apply_eq waits.sound free there
    by_cases here : dispatch.site = site ∧ dispatch.session = number
    · by_cases courier : world.isCourier site number me = true
      · refine .inr ⟨me, dispatch, resumed, delivers, here.1, here.2, courier, ?_⟩
        simp [here, same, courier, delivered]
      · left
        simp [here, same, courier, delivered]
    · left
      simp [here, delivered]
  · left
    unfold delivered
    rw [same]
    exact still

/-- A task that has not ended has delivered nothing. -/
theorem Unsent.not_delivered (unsent : world.Unsent) (unended : world.outcome? me = none) :
    me ∉ world.delivered site number := by
  intro there
  obtain ⟨event, sent, signed⟩ := List.mem_filterMap.mp (List.mem_filter.mp there).1
  exact unsent.sender_ne unended sent signed

/-- If no courier gets ahead, not even of one that has been granted room, couriers fill their places
in the order in which they were started. -/
theorem Sequenced.apply
    (sequenced : world.Sequenced site number (world.delivered site number))
    (ordered : world.Ordered True site number) (waits : world.Waits) (laned : world.Laned)
    (unsent : world.Unsent) (free : world.isOpen move = true) (next : world.isNext move = true) :
    (world.apply move).Sequenced site number ((world.apply move).delivered site number) := by
  obtain same | ⟨me, dispatch, rfl, delivers, at_site, at_session, courier, same⟩ :=
    delivered_apply waits unsent free site number
  · rw [same, ← List.append_nil (world.delivered site number)]
    exact sequenced.append waits.sound free (by simp) (by simp) (by simp) (by simp)
      List.Pairwise.nil
  · rw [same]
    obtain ⟨session, there⟩ := laned.session_of_isCourier courier
    refine sequenced.append waits.sound free ?_ ?_ ?_ ?_ (List.pairwise_singleton _ _)
    · exact List.forall_mem_singleton.mpr courier
    · exact List.forall_mem_singleton.mpr delivers.alive
    · exact List.forall_mem_singleton.mpr (unsent.not_delivered delivers.unended)
    · intro other second new earlier one
      obtain rfl := List.mem_singleton.mp new
      exact absurd trivial (ordered.first_granted waits delivers at_site at_session there next
        earlier one courier).2

/-- In a run in turn with a patient receiver the couriers of a session fill their places in the
order in which they were started. -/
theorem Opened.sequenced_delivered (opened : start.Opened) (played : start.play? moves = some last)
    (inTurn : start.playsInTurn moves = true)
    (patient : start.playsPatiently site number moves = true) :
    last.Sequenced site number (last.delivered site number) := by
  induction moves, last, played using run_induction with
  | nil =>
    have nothing : start.delivered site number = [] := by
      simp [delivered, opened.accepted_eq_nil]
    rw [nothing]
    exact .nil start site number
  | concat moves world move first free ih =>
    obtain ⟨early, next⟩ := (obeys_concat first).mp inTurn
    obtain ⟨waited, -⟩ := (obeys_concat first).mp patient
    have reaches : start.Reaches world := ⟨moves, first⟩
    have ordered : world.Ordered True site number :=
      opened.ordered_play? first early fun _ => waited
    exact (ih early waited).apply ordered (opened.waits.reaches reaches)
      (opened.laned.reaches opened.waits reaches) (opened.unsent reaches) free next

/-- Those who have been given a place in a session, and have not given it up: they have filled it,
or been granted it. -/
def holders (world : World) (site : SiteId) (number : SessionId) : List TaskId :=
  match world.session? site number with
  | some session => session.accepted.filterMap (·.sender) ++ session.granted
  | none => []

/-- The task is a courier of the session that has no place there. -/
def isSeatless (world : World) (site : SiteId) (number : SessionId) (task : TaskId) : Bool :=
  world.isCourier site number task && !(world.holders site number).contains task

/-- The couriers of a session that a move gives a place there, the first one first. -/
def seated (world : World) (site : SiteId) (number : SessionId) (move : Move) : List TaskId :=
  ((world.apply move).holders site number).filter (world.isSeatless site number)

/-- The places of a session that is there. -/
theorem holders_of_session? (there : world.session? site number = some session) :
    world.holders site number =
      (world.accepted site number).filterMap (·.sender) ++ session.granted := by
  simp only [holders, there, accepted_of_session? there]

/-- A courier is given a place if it has one, and had none. -/
theorem mem_seated : task ∈ world.seated site number move ↔
    task ∈ (world.apply move).holders site number ∧ world.isCourier site number task = true ∧
      task ∉ world.holders site number := by
  simp [seated, isSeatless]

/-- Whoever has a place and has not ended has been granted it. -/
theorem Unsent.granted_of_holder (unsent : world.Unsent) (unended : world.outcome? task = none)
    (there : world.session? site number = some session)
    (holds : task ∈ world.holders site number) : task ∈ session.granted := by
  rw [holders_of_session? there] at holds
  refine (List.mem_append.mp holds).resolve_left fun sent => ?_
  obtain ⟨event, accepted, signed⟩ := List.mem_filterMap.mp sent
  exact unsent.sender_ne unended accepted signed

/-- A courier that has a place after a move was one before. -/
theorem isCourier_of_holder (waits : world.Waits) (unsent : world.Unsent)
    (free : world.isOpen move = true)
    (courier : (world.apply move).isCourier site number task = true)
    (holds : task ∈ (world.apply move).holders site number) :
    world.isCourier site number task = true := by
  refine (isCourier_of_apply waits.sound free courier).resolve_right ?_
  rintro ⟨key, offset, parent, rfl, hands⟩
  have absent : world.tasks[task]? = none :=
    List.getElem?_eq_none_iff.mpr (Nat.le_of_eq hands.next.symm)
  obtain ⟨found, -, -, -, here, -⟩ := isCourier_iff.mp courier
  have fresh := (born_apply waits.sound free absent here).1
  have unended : (world.apply (.resume parent)).outcome? task = none :=
    outcome?_of_alive here (by simp [fresh])
  have idle : (world.apply (.resume parent)).dispatch? task = none := by
    simp [dispatch?, here, Task.dispatch?, fresh]
  cases there : (world.apply (.resume parent)).session? site number with
  | none => simp [holders, there] at holds
  | some session =>
    have granted := (unsent.apply waits _).granted_of_holder unended there holds
    exact ((waits.apply free).placed task).away idle there (.inr granted)

/-- Whoever has a place is not without one. -/
theorem filter_isSeatless_eq_nil {tasks : List TaskId}
    (held : ∀ task ∈ tasks, task ∈ world.holders site number) :
    tasks.filter (world.isSeatless site number) = [] := by
  refine List.filter_eq_nil_iff.mpr fun task there => ?_
  simp [isSeatless, held task there]

/-- The couriers that a move gives a place are among those who send, or are granted room. -/
theorem seated_eq {after : Session} {sent : List Acknowledged}
    (there : world.session? site number = some session)
    (here : (world.apply move).session? site number = some after)
    (accepts : (world.apply move).accepted site number = world.accepted site number ++ sent) :
    world.seated site number move =
      (sent.filterMap (·.sender)).filter (world.isSeatless site number) ++
        after.granted.filter (world.isSeatless site number) := by
  have before : ((world.accepted site number).filterMap (·.sender)).filter
      (world.isSeatless site number) = [] := by
    refine filter_isSeatless_eq_nil fun task inside => ?_
    rw [holders_of_session? there]
    exact List.mem_append_left _ inside
  rw [seated, holders_of_session? here, accepts, List.filterMap_append, List.filter_append,
    List.filter_append, before, List.nil_append]

/-- Those who had been granted room before are given no place. -/
theorem filter_granted_eq_nil {tasks : List TaskId}
    (there : world.session? site number = some session)
    (fewer : ∀ task ∈ tasks, task ∈ session.granted) :
    tasks.filter (world.isSeatless site number) = [] := by
  refine filter_isSeatless_eq_nil fun task inside => ?_
  rw [holders_of_session? there]
  exact List.mem_append_right _ (fewer task inside)

/-- A move that grants no room gives at most the courier a place that delivers. -/
theorem seated_of_fewer {after : Session} (waits : world.Waits)
    (there : world.session? site number = some session)
    (here : (world.apply move).session? site number = some after)
    (fewer : ∀ task ∈ after.granted, task ∈ session.granted) :
    (∃ me dispatch, move = .resume me ∧ Delivers me dispatch world (world.apply move) ∧
      dispatch.site = site ∧ dispatch.session = number ∧
        (world.seated site number move).Sublist [me]) ∨
    world.seated site number move = [] := by
  have kept := filter_granted_eq_nil there fewer
  obtain ⟨me, dispatch, resumed, delivers⟩ | ⟨same, -⟩ := accepted_apply waits move
  · have accepts := delivers.accepts site number
    by_cases place : dispatch.site = site ∧ dispatch.session = number
    · rw [if_pos place] at accepts
      refine .inl ⟨me, dispatch, resumed, delivers, place.1, place.2, ?_⟩
      rw [seated_eq there here accepts, kept, List.append_nil]
      exact List.filter_sublist
    · rw [if_neg place] at accepts
      exact .inr (by rw [seated_eq there here accepts, kept]; rfl)
  · have accepts := (same site number).trans (List.append_nil _).symm
    exact .inr (by rw [seated_eq there here accepts, kept]; rfl)

/-- The couriers that a move gives a place: one that delivers, or some of those who are granted room
that has come free, or none. -/
theorem seated_cases (waits : world.Waits) (free : world.isOpen move = true)
    (there : world.session? site number = some session) :
    (∃ me dispatch, move = .resume me ∧ Delivers me dispatch world (world.apply move) ∧
      dispatch.site = site ∧ dispatch.session = number ∧
        (world.seated site number move).Sublist [me]) ∨
    world.seated site number move = [] ∨
    ∃ me freed, (∀ task, move ≠ .resume task) ∧ (move.IsOwn me ∨ world.tasks.length ≤ me) ∧
      Session.Apart me session freed ∧ freed.Tidy ∧
        (world.apply move).session? site number = some freed.grant.1 ∧
          (world.seated site number move).Sublist freed.grant.2 := by
  obtain ⟨me, after, owner, here, effect⟩ := effect_apply waits free there
  cases effect with
  | passes passes => exact (seated_of_fewer waits there here passes.fewer).imp_right .inl
  | @grants freed freeing apart tidy joined same =>
    subst same
    have other : ∀ task, move ≠ .resume task := by
      rintro task rfl
      simp [frees] at freeing
    refine .inr (.inr ⟨me, freed, other, owner, apart, tidy, here, ?_⟩)
    obtain ⟨task, dispatch, resumed, -⟩ | ⟨unchanged, -⟩ := accepted_apply waits move
    · exact absurd resumed (other task)
    · have accepts := (unchanged site number).trans (List.append_nil _).symm
      have granted : freed.grant.1.granted = freed.granted ++ freed.grant.2 := rfl
      rw [seated_eq there here accepts, granted, List.filter_append,
        filter_granted_eq_nil there apart.fewer]
      exact List.filter_sublist
  | shuts closed =>
    have none_ := (((waits.apply free).healthy _ _ after here).shut closed).2
    refine (seated_of_fewer waits there here fun task inside => ?_).imp_right .inl
    rw [none_] at inside
    exact absurd inside List.not_mem_nil

/-- Whoever stands in the line of a session is not over. -/
theorem Waits.alive_of_inLine (waits : world.Waits)
    (there : world.session? site number = some session) (inLine : session.InLine task) :
    world.isOver task = false := by
  obtain ⟨dispatch, pending, -⟩ := (waits.placed task).lines site number session there inLine
  obtain ⟨found, here, waiting⟩ := Option.bind_eq_some_iff.mp pending
  exact (isOver_eq_false here).mpr (alive_of_dispatch? waiting)

/-- A courier that is given a place is not over, and the session is open. -/
theorem open_of_mem_seated (waits : world.Waits) (free : world.isOpen move = true)
    (there : world.session? site number = some session)
    (new : task ∈ world.seated site number move) :
    world.isOver task = false ∧ session.closed = false := by
  obtain ⟨me, dispatch, -, delivers, rfl, rfl, few⟩ | none_ |
    ⟨me, freed, other, owner, apart, -, -, few⟩ := seated_cases waits free there
  · obtain rfl := List.mem_singleton.mp (few.subset new)
    have admits := delivers.admits
    simp only [Admits, there] at admits
    exact ⟨delivers.alive, admits.1⟩
  · rw [none_] at new
    exact absurd new List.not_mem_nil
  · have courier := (mem_seated.mp new).2.1
    have foreign : ¬ move.IsOwn task := fun own => other task (resumed_of_isOwn courier free own)
    have named : task ∈ freed.waiting := List.mem_of_mem_take (few.subset new)
    have inLine := (apart.waiting task (ne_of_isCourier courier owner foreign)).mp named
    refine ⟨waits.alive_of_inLine there (.inl inLine), Bool.eq_false_iff.mpr fun closed => ?_⟩
    exact (waits.healthy site number session there).not_inLine closed (.inl inLine)

/-- The couriers that a move gives a place are given it in the order in which they were started,
and none before another that was started earlier. -/
theorem Ordered.seated (ordered : world.Ordered strict site number) (waits : world.Waits)
    (free : world.isOpen move = true) (next : world.isNext move = true)
    (there : world.session? site number = some session) :
    (world.seated site number move).Pairwise (· < ·) ∧
      ∀ first second, second ∈ world.seated site number move → first < second →
        world.Delivering site number first →
          first ∈ world.holders site number ∨ first ∈ world.seated site number move := by
  have granted {task : TaskId} (has : task ∈ session.granted) :
      task ∈ world.holders site number := by
    rw [holders_of_session? there]
    exact List.mem_append_right _ has
  obtain ⟨me, dispatch, rfl, delivers, at_site, at_session, few⟩ | none_ |
    ⟨me, freed, other, owner, apart, tidy, here, few⟩ := seated_cases waits free there
  · refine ⟨(List.pairwise_singleton _ _).sublist few, fun first second new earlier one => .inl ?_⟩
    have two := (mem_seated.mp new).2.1
    obtain rfl := List.mem_singleton.mp (few.subset new)
    exact granted
      (ordered.first_granted waits delivers at_site at_session there next earlier one two).1
  · rw [none_]
    exact ⟨List.Pairwise.nil, fun _ _ new => absurd new List.not_mem_nil⟩
  · have foreign {task : TaskId} (courier : world.isCourier site number task = true) :
        task ≠ me :=
      ne_of_isCourier courier owner fun own => other task (resumed_of_isOwn courier free own)
    have ranks {first second : TaskId} (earlier : first < second)
        (one : world.Delivering site number first) (two : world.Delivering site number second)
        (unclosed : session.closed = false) : freed.Ranks first second :=
      (ordered.ahead session first second there unclosed earlier one two).toRanks.apart apart
        (foreign one.courier) (foreign two.courier)
    have inLine {task : TaskId} (courier : world.isCourier site number task = true)
        (named : task ∈ freed.waiting) :
        world.Delivering site number task ∧ session.closed = false := by
      have still := (apart.waiting task (foreign courier)).mp named
      refine ⟨⟨courier, waits.alive_of_inLine there (.inl still)⟩,
        Bool.eq_false_iff.mpr fun closed => ?_⟩
      exact (waits.healthy site number session there).not_inLine closed (.inl still)
    have couriers {task : TaskId} (new : task ∈ world.seated site number move) :
        world.isCourier site number task = true ∧ task ∈ freed.waiting :=
      ⟨(mem_seated.mp new).2.1, List.mem_of_mem_take (few.subset new)⟩
    refine ⟨?_, fun first second new earlier one => ?_⟩
    · have ascending := tidy.ascending_waiting fun first second earlier named also one two =>
        ranks earlier (inLine one named).1 (inLine two also).1 (inLine one named).2
      have kept : (world.seated site number move).filter (world.isCourier site number) =
          world.seated site number move :=
        List.filter_eq_self.mpr fun task new => (couriers new).1
      rw [← kept]
      exact ascending.sublist ((few.trans (List.take_sublist _ _)).filter _)
    · obtain ⟨two, unclosed⟩ := inLine (couriers new).1 (couriers new).2
      have has := ((ranks earlier one two unclosed).grant tidy).granted
        (List.mem_append_right _ (few.subset new))
      refine or_iff_not_imp_left.mpr fun before => mem_seated.mpr ⟨?_, one.courier, before⟩
      rw [holders_of_session? here]
      exact List.mem_append_right _ has

/-- The couriers that have been given a place in a session, in the order in which they were
started. -/
structure Seats (world : World) (site : SiteId) (number : SessionId) (served : List TaskId) : Prop
    extends Sequenced world site number served where
  held : ∀ task ∈ world.holders site number, world.isCourier site number task = true →
    task ∈ served
  kept : ∀ task ∈ served, world.isOver task = false → ∀ session,
    world.session? site number = some session → session.closed = false → task ∈ session.granted

/-- A courier that has been granted room keeps it until it is over, or the session is closed. -/
theorem granted_apply {after : Session} (waits : world.Waits) (free : world.isOpen move = true)
    (courier : world.isCourier site number task = true)
    (alive : (world.apply move).isOver task = false)
    (there : world.session? site number = some session) (granted : task ∈ session.granted)
    (here : (world.apply move).session? site number = some after)
    (unclosed : after.closed = false) : task ∈ after.granted := by
  have sound := waits.healthy site number session there
  by_cases mine : move.IsOwn task
  · obtain rfl := resumed_of_isOwn courier free mine
    obtain ⟨out, -⟩ | ⟨inLine, -⟩ := waits.courier_rests free courier there alive
    · exact absurd (.inr granted) out
    · exact absurd granted (sound.ungranted inLine)
  · obtain ⟨me, later, owner, also, effect⟩ := effect_apply waits free there
    obtain rfl := Option.some.inj (here.symm.trans also)
    have differ := ne_of_isCourier courier owner mine
    cases effect with
    | passes passes => exact (passes.granted task differ).mpr granted
    | @grants freed freeing apart tidy joined same =>
      rw [same]
      exact apart.still_granted differ granted
    | shuts closed => exact absurd (closed.symm.trans unclosed) (by simp)

/-- Moves in turn give places in order. -/
theorem Seats.apply (seats : world.Seats site number served)
    (ordered : world.Ordered strict site number) (waits : world.Waits) (laned : world.Laned)
    (unsent : world.Unsent) (free : world.isOpen move = true) (next : world.isNext move = true) :
    (world.apply move).Seats site number (served ++ world.seated site number move) where
  toSequenced := by
    have couriers : ∀ task ∈ world.seated site number move,
        world.isCourier site number task = true := fun task new => (mem_seated.mp new).2.1
    have opened {task : TaskId} (new : task ∈ world.seated site number move) : ∃ session,
        world.session? site number = some session ∧ world.isOver task = false ∧
          session.closed = false := by
      obtain ⟨session, there⟩ := laned.session_of_isCourier (couriers task new)
      exact ⟨session, there, open_of_mem_seated waits free there new⟩
    refine seats.toSequenced.append waits.sound free couriers ?_ ?_ ?_ ?_
    · intro task new
      obtain ⟨session, -, alive, -⟩ := opened new
      exact alive
    · intro task new old
      obtain ⟨session, there, alive, unclosed⟩ := opened new
      refine (mem_seated.mp new).2.2 ?_
      rw [holders_of_session? there]
      exact List.mem_append_right _ (seats.kept task old alive session there unclosed)
    · intro first second new earlier one
      obtain ⟨session, there, -⟩ := opened new
      have before := (ordered.seated waits free next there).2 first second new earlier one
      exact List.mem_append.mpr (before.imp_left fun holds => seats.held first holds one.courier)
    · cases there : world.session? site number with
      | some session => exact (ordered.seated waits free next there).1
      | none =>
        have nobody : world.seated site number move = [] := by
          refine List.eq_nil_iff_forall_not_mem.mpr fun task new => ?_
          obtain ⟨session, here, -⟩ := opened new
          exact absurd (here.symm.trans there) (by simp)
        rw [nobody]
        exact List.Pairwise.nil
  held := by
    intro task holds courier
    have was := isCourier_of_holder waits unsent free courier holds
    by_cases before : task ∈ world.holders site number
    · exact List.mem_append_left _ (seats.held task before was)
    · exact List.mem_append_right _ (mem_seated.mpr ⟨holds, was, before⟩)
  kept := by
    intro task there alive after here unclosed
    rcases List.mem_append.mp there with old | new
    · have courier := seats.couriers task old
      obtain ⟨session, before⟩ := laned.session_of_isCourier courier
      obtain ⟨me, later, -, also, effect⟩ := effect_apply waits free before
      obtain rfl := Option.some.inj (here.symm.trans also)
      obtain ⟨found, -, -, -, at_task, -⟩ := isCourier_iff.mp courier
      have granted := seats.kept task old (alive_of_apply waits.sound at_task alive) session before
        (effect.unclosed unclosed)
      exact granted_apply waits free courier alive before granted here unclosed
    · obtain ⟨found, -, -, -, at_task, -⟩ := isCourier_iff.mp
        (isCourier_apply waits.sound move (mem_seated.mp new).2.1)
      have unended := outcome?_of_alive at_task ((isOver_eq_false at_task).mp alive)
      exact (unsent.apply waits move).granted_of_holder unended here (mem_seated.mp new).1

/-- As long as tasks run in turn, places are given in the order in which couriers were started. -/
theorem Opened.seats (opened : start.Opened) (played : start.play? moves = some last)
    (inTurn : start.playsInTurn moves = true) : last.Seats site number
      (start.chronicle (fun world => world.seated site number) moves) := by
  induction moves, last, played using run_induction with
  | nil =>
    refine ⟨.nil start site number, fun task _ courier => ?_, fun _ there => ?_⟩
    · exact absurd courier (opened.not_isCourier site number task)
    · exact absurd there List.not_mem_nil
  | concat moves world move first free ih =>
    obtain ⟨early, next⟩ := (obeys_concat first).mp inTurn
    have reaches : start.Reaches world := ⟨moves, first⟩
    have waits : world.Waits := opened.waits.reaches reaches
    have ordered : world.Ordered False site number := opened.ordered_play? first early False.elim
    rw [chronicle_concat _ first]
    exact (ih early).apply ordered waits (opened.laned.reaches opened.waits reaches)
      (opened.unsent reaches) free next

end World

end ClusterGateway
