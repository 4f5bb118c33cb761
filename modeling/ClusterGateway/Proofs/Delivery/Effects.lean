import ClusterGateway.Proofs.Delivery.Presence

/-!
# What a move does to a session

As far as all but its own task are concerned, a move lets that task go on in a session, or room
comes free there and is granted to those in line, or the session is closed (`Session.Effect`).
Room comes free only where the receiver takes offsets, or a call gives up that has been granted
room. Main statement: `effect_apply`.
-/

namespace ClusterGateway

variable {me first second : TaskId} {line later : List TaskId}

namespace Session

/-- What a move does to a session: one task goes on and no room comes free, or room comes free
and is granted, or the session is closed. -/
inductive Effect (me : TaskId) (line later : List TaskId) (frees : Prop) (before after : Session) :
    Prop
  | passes (passes : Passes me before after)
  | grants {freed : Session} (freeing : frees) (apart : Apart me before freed) (tidy : freed.Tidy)
    (joined : Joined me freed.grant.2 line later) (same : after = freed.grant.1)
  | shuts (closed : after.closed = true)

variable {before after : Session} {frees strict : Prop}

/-- No session is opened again. -/
theorem Effect.unclosed (effect : Effect me line later frees before after)
    (unclosed : after.closed = false) : before.closed = false := by
  cases effect with
  | passes passes => exact passes.closed.symm.trans unclosed
  | @grants freed freeing apart tidy joined same =>
    rw [same] at unclosed
    exact apart.closed.symm.trans unclosed
  | shuts closed => exact absurd (closed.symm.trans unclosed) (by simp)

/-- Whoever waits in line when another task has gone on, or room has been granted, did so before. -/
theorem Effect.waited (effect : Effect me line later frees before after)
    (unclosed : after.closed = false) {task : TaskId} (other : task ≠ me)
    (waits : task ∈ after.waiting) : task ∈ before.waiting := by
  cases effect with
  | passes passes => exact (passes.waiting task other).mp waits
  | @grants freed freeing apart tidy joined same =>
    rw [same] at waits
    exact (apart.waiting task other).mp (List.mem_of_mem_drop waits)
  | shuts closed => exact absurd (closed.symm.trans unclosed) (by simp)

/-- What others do to an open session lets nobody get ahead. -/
theorem Effect.ahead (effect : Effect me line later frees before after)
    (unclosed : after.closed = false) (sound : before.Sound)
    (ahead : before.Ahead strict line first second) (one : first ≠ me) (two : second ≠ me)
    (awake : ∀ task, task = first ∨ task = second → task ∉ before.waiting → task ∈ line)
    (kept : InFront line first second → InFront later first second)
    (overdue : strict → second ∈ before.waiting → second ∈ line → InFront line first second)
    (fair : strict → frees → Fair after later first second) :
    after.Ahead strict later first second := by
  cases effect with
  | passes passes => exact ahead.passes passes one two kept
  | @grants freed freeing apart tidy joined same =>
    subst same
    exact ahead.grant apart sound tidy one two awake overdue (fair · freeing) joined
  | shuts closed => exact absurd (closed.symm.trans unclosed) (by simp)

end Session

namespace World

variable {world left before after : World} {site : SiteId} {number : SessionId} {move : Move}
  {found : Task} {session : Session}

/-- The move frees room: the receiver takes offsets, or a call is cancelled that has been
granted room. -/
def frees (world : World) (site : SiteId) (number : SessionId) : Move → Bool
  | .read place session _ => place == site && session == number
  | .cancel task => (world.session? site number).any (·.granted.contains task)
  | _ => false

/-- A step that sends nothing leaves a session as it is. -/
theorem Strokes.session?_eq {purpose : Purpose} {hands : Prop}
    (strokes : Strokes me purpose False hands before after)
    (there : before.session? site number = some session) :
    after.session? site number = some session := by
  obtain same | ⟨absent, -⟩ := strokes.session?_cases site number
  · exact same.trans there
  · exact absurd (absent.symm.trans there) (by simp)

/-- A session lets a task go on if that is what is done to any session. -/
theorem passes_onSession {place : SiteId} {other : SessionId}
    {change : Session → Session × List TaskId}
    (there : world.session? site number = some session)
    (step : ∀ found, world.session? place other = some found →
      Session.Passes me found (change found).1) :
    ∃ later, (world.onSession place other change).session? site number = some later ∧
      Session.Passes me session later := by
  by_cases same : place = site ∧ other = number
  · obtain ⟨rfl, rfl⟩ := same
    exact ⟨_, session?_onSession_self world place there change, step session there⟩
  · exact ⟨session, (session?_onSession_of_ne world place change same).trans there, .refl me _⟩

/-- A task that ends after a note to the log leaves the sessions as they are. -/
theorem session?_conclude (world : World) (actor : Option String) (entries : List LogEntry)
    (me : TaskId) (outcome : Outcome) :
    ((world.note actor entries).finish me outcome).session? site number =
      world.session? site number := rfl

/-- The step of a task lets it go on in a session. -/
theorem Turn.passes (turn : Turn me found left after) (departs : Departs me found left)
    (there : left.session? site number = some session) :
    ∃ later, after.session? site number = some later ∧ Session.Passes me session later := by
  cases turn with
  | quiet strokes => exact ⟨session, strokes.session?_eq there, .refl me _⟩
  | settled => exact ⟨session, there, .refl me _⟩
  | sent actor entries strokes =>
    have healthy := (departs.steady.spares strokes.spares).healthy
    rw [session?_conclude]
    refine passes_onSession (strokes.session?_eq there) fun found here => ?_
    exact (healthy _ _ found here).toTidy.passes_accept me _
  | dropped actor entries strokes => exact ⟨session, strokes.session?_eq there, .refl me _⟩
  | @queued middle dispatch waits stage strokes =>
    have awaits : ∃ later, (middle.onSession dispatch.site dispatch.session fun found =>
        (found.await me, [])).session? site number = some later ∧
          Session.Passes me session later :=
      passes_onSession (strokes.session?_eq there) fun found _ => Session.passes_await me found
    obtain ⟨later, here, passes⟩ := awaits
    refine ⟨later, ?_, passes⟩
    show (((middle.onSession _ _ _).setDeadline me dispatch.due).sites[site]?).bind _ = _
    rw [(setDeadline_fields _ me dispatch.due).2.1]
    exact here
  | refused => exact ⟨session, there, .refl me _⟩
  | @filled dispatch granting outcome actor entries pending here unclosed granted =>
    rw [session?_conclude]
    refine passes_onSession there fun found at_place => ?_
    obtain rfl := Option.some.inj (here.symm.trans at_place)
    exact (departs.steady.healthy _ _ _ here).passes_fill granted dispatch.offset
  | @gaveUp dispatch waiting outcome due actor entries pending here unclosed ungranted =>
    rw [session?_conclude]
    refine passes_onSession there fun found at_place => ?_
    obtain rfl := Option.some.inj (here.symm.trans at_place)
    have inLine := departs.inLine dispatch _ pending here unclosed ungranted
    exact ((departs.steady.healthy _ _ _ here).passes_withdraw inLine).1
  | stays => exact ⟨session, there, .refl me _⟩

/-- What a call that is cancelled does to the session where it waits for room: it leaves the line,
or the room that it was granted goes to others. -/
theorem effect_cancel (waits : world.Waits) {dispatch : Dispatch}
    (pending : world.dispatch? me = some dispatch)
    (cancelled : world.cancel me = (({ world with ready := world.ready.erase me } : World).finish me
      .cancelled).giveUpSend me dispatch.site dispatch.session)
    (there : world.session? dispatch.site dispatch.session = some session) :
    (world.cancel me).session? dispatch.site dispatch.session = some (session.withdraw me).1 ∧
      Session.Effect me world.ready (world.cancel me).ready
        (world.frees dispatch.site dispatch.session (.cancel me) = true) session
          (session.withdraw me).1 := by
  have healthy := waits.healthy _ _ session there
  obtain ⟨keeping, here, keeps⟩ := (waits.placed me).place dispatch pending
  obtain rfl := Option.some.inj (there.symm.trans here)
  rw [cancelled, giveUpSend]
  generalize ended_eq : ({ world with ready := world.ready.erase me } : World).finish me
    .cancelled = ended
  have at_ended : ended.session? dispatch.site dispatch.session = some session := by
    rw [← ended_eq]
    exact there
  have erased : ended.ready = world.ready.erase me := by
    rw [← ended_eq]
    rfl
  refine ⟨session?_onSession_self ended _ at_ended _, ?_⟩
  by_cases granted : me ∈ session.granted
  · have freeing : world.frees dispatch.site dispatch.session (.cancel me) = true := by
      simp [frees, there, granted]
    exact .grants freeing (session.apart_leave me) (healthy.toTidy.leave me)
      (joined_onSession at_ended (·.withdraw me) (.inr erased)) rfl
  by_cases closed : session.closed = true
  · exact .shuts closed
  · have inLine := keeps.waiting (Bool.eq_false_iff.mpr closed) granted
    exact .passes (healthy.passes_withdraw inLine).1

/-- What a move does to a session, as far as all but its own task are concerned. -/
theorem effect_apply (waits : world.Waits) (free : world.isOpen move = true)
    (there : world.session? site number = some session) : ∃ me after,
      (move.IsOwn me ∨ world.tasks.length ≤ me) ∧
        (world.apply move).session? site number = some after ∧
          Session.Effect me world.ready (world.apply move).ready
            (world.frees site number move = true) session after := by
  have healthy := waits.healthy site number session there
  -- a move that is nobody's own is taken to be that of a task that does not exist
  have untouched (same : (world.apply move).session? site number = world.session? site number) :
      ∃ me after, (move.IsOwn me ∨ world.tasks.length ≤ me) ∧
        (world.apply move).session? site number = some after ∧
          Session.Effect me world.ready (world.apply move).ready
            (world.frees site number move = true) session after :=
    ⟨world.tasks.length, session, .inr (Nat.le_refl _), same.trans there, .passes (.refl _ _)⟩
  cases move with
  | resume me =>
    cases running : world.tasks[me]? with
    | none =>
      refine untouched ?_
      rw [apply, resume_absent running]
      rfl
    | some found =>
      obtain ⟨after, here, passes⟩ := (turn_resume running (waits.sound me found running).1).passes
        (waits.departs running) there
      exact ⟨me, after, .inl (.inl rfl), here, .passes passes⟩
  | pass moment =>
    obtain ⟨ready, same⟩ := exists_passTo world moment
    refine untouched ?_
    rw [apply, same]
    rfl
  | request site request => exact untouched rfl
  | shutdown sites logged => exact untouched rfl
  | cancel me =>
    cases running : world.tasks[me]? with
    | none =>
      refine untouched ?_
      simp [apply, cancel, running]
    | some found =>
      obtain ⟨-, same⟩ | ⟨-, same⟩ | ⟨dispatch, waiting, same⟩ :=
        cancel_call_cases free running (waits.sound me found running).1
      · refine untouched ?_
        rw [apply, same]
      · refine untouched ?_
        rw [apply, same]
        rfl
      · by_cases here : dispatch.site = site ∧ dispatch.session = number
        · obtain ⟨rfl, rfl⟩ := here
          have pending : world.dispatch? me = some dispatch := by
            simpa only [dispatch?, running, Option.bind_some] using waiting
          obtain ⟨here, effect⟩ := effect_cancel waits pending same there
          exact ⟨me, _, .inl (.inr rfl), here, effect⟩
        · refine untouched ?_
          rw [apply, same, giveUpSend]
          exact session?_onSession_of_ne _ dispatch.site _ here
  | enqueue place group topic items =>
    refine untouched ?_
    rw [apply]
    refine session?_onBroker_of_same world place (fun _ => ?_) site number
    rfl
  | read place other limit =>
    by_cases same : place = site ∧ other = number
    · obtain ⟨rfl, rfl⟩ := same
      refine ⟨world.tasks.length, _, .inr (Nat.le_refl _),
        session?_onSession_self world place there _, ?_⟩
      have freeing : world.frees place other (.read place other limit) = true := by simp [frees]
      have apart : Session.Apart world.tasks.length session { session with
          taken := session.taken + (session.buffer.take limit).length } :=
        ⟨rfl, fun _ _ => Iff.rfl, fun _ => id, fun _ _ => Iff.rfl, fun _ _ _ => id⟩
      exact .grants freeing apart (healthy.toTidy.drain limit)
        (joined_onSession there (fun found => (found.take limit).2) (.inl rfl)) rfl
    · exact untouched (session?_onSession_of_ne world place _ same)
  | close place other =>
    by_cases same : place = site ∧ other = number
    · obtain ⟨rfl, rfl⟩ := same
      exact ⟨world.tasks.length, _, .inr (Nat.le_refl _),
        session?_onSession_self world place there _, .shuts rfl⟩
    · exact untouched (session?_onSession_of_ne world place _ same)
  | renew place key =>
    refine untouched ?_
    rw [apply]
    refine session?_onBroker_of_same world place (fun _ => ?_) site number
    rfl

end World

end ClusterGateway
