import ClusterGateway.Proofs.Delivery.Course

/-!
# Deliveries end in time

The delivery of an acknowledgement is to end within the delivery timeout of its gateway. A
standalone acknowledgement and one that rides on a consume request do. One for the message
just fetched has no deadline: it outlasts the timeout exactly where time passes while it
stands in the line of an open session. Main statement: `endsInTime_iff`.
-/

namespace ClusterGateway

/-- The deadline of a dispatch, if it has one, is the delivery timeout of its gateway away. -/
theorem Purpose.Begins.due_eq {world : World} {purpose : Purpose} {dispatch : Dispatch} {due : Nat}
    {place : Site} (begins : purpose.Begins world dispatch)
    (there : world.sites[dispatch.site]? = some place) (timed : dispatch.due = some due) :
    due = world.now + place.gateway.deliveryTimeout := by
  unfold Purpose.Begins at begins
  split at begins
  · obtain ⟨found, here, -, -, same⟩ := begins
    rw [same] at there timed
    obtain rfl := Option.some.inj (here.symm.trans there)
    exact (Option.some.inj timed).symm
  · obtain ⟨found, here, same⟩ := begins
    rw [same] at there timed
    obtain rfl := Option.some.inj (here.symm.trans there)
    exact (Option.some.inj timed).symm
  · rw [begins.2] at timed
    simp at timed
  · exact begins.elim

namespace World

variable {start world before last : World} {moves rest : List Move} {task : TaskId}
  {dispatch : Dispatch} {place : Site}

/-- In a run a task gets in line for a session: `before` is the world in which it runs, `rest`
the moves that follow. -/
structure Attempt (start : World) (moves rest : List Move) (task : TaskId) (dispatch : Dispatch)
    (before : World) : Prop where
  split : ∃ early, moves = early ++ .resume task :: rest ∧ start.play? early = some before ∧
    before.isOpen (.resume task) = true
  idle : before.dispatch? task = none
  begun : (before.resume task).dispatch? task = some dispatch

/-- The moves `rest` after an attempt end the delivery within the timeout of the gateway: it is
not pending in any world that they go through later than that. -/
def EndsInTime (before : World) (rest : List Move) (task : TaskId) (dispatch : Dispatch)
    (place : Site) : Prop :=
  ∀ world, (before.resume task).Visits rest world → world.dispatch? task = some dispatch →
    world.now ≤ before.now + place.gateway.deliveryTimeout

/-- Time passes the timeout of the gateway, in the moves after an attempt, only when the task
does not stand in the line of its session, or the session is closed. -/
def LeavesLine (before : World) (rest : List Move) (task : TaskId) (dispatch : Dispatch)
    (place : Site) : Prop :=
  ∀ early moment late world session, rest = early ++ .pass moment :: late →
    (before.resume task).play? early = some world → world.isOpen (.pass moment) = true →
      before.now + place.gateway.deliveryTimeout < moment →
        world.session? dispatch.site dispatch.session = some session →
          session.closed = false → task ∉ session.waiting

/-- A task is a consume request that acknowledges the message it fetches. -/
def AcknowledgesFetched (world : World) (task : TaskId) : Prop :=
  ∃ found site group topic, world.tasks[task]? = some found ∧
    found.purpose = .request site (.consume group topic .auto)

/-- A run that ends after a moment lets time pass beyond it somewhere. -/
theorem exists_pass {bound : Nat} (sound : start.Sound) (early : start.now ≤ bound)
    (played : start.play? moves = some last) (late : bound < last.now) :
    ∃ first moment rest world, moves = first ++ .pass moment :: rest ∧
      start.play? first = some world ∧ world.isOpen (.pass moment) = true ∧
        bound < moment ∧ (world.apply (.pass moment)).play? rest = some last := by
  induction moves generalizing start with
  | nil =>
    obtain rfl := Option.some.inj played
    exact absurd late (Nat.not_lt.mpr early)
  | cons move others ih =>
    unfold play? at played
    split at played
    · rename_i free
      by_cases still : (start.apply move).now ≤ bound
      · obtain ⟨first, moment, rest, world, rfl, before, free', beyond, after⟩ :=
          ih (sound.apply free) still played
        refine ⟨move :: first, moment, rest, world, rfl, ?_, free', beyond, after⟩
        simp [play?, free, before]
      · obtain same | ⟨moment, rfl, moved⟩ := now_apply sound move
        · exact absurd (same ▸ early) still
        · refine ⟨[], moment, others, start, rfl, rfl, free, ?_, played⟩
          rw [moved] at still
          exact Nat.lt_of_not_le fun most => still (Nat.max_le.mpr ⟨early, most⟩)
    · simp at played

/-- What follows an attempt is a run from a world where all tasks are where they should be. -/
theorem Attempt.waits (opened : start.Opened)
    (attempt : Attempt start moves rest task dispatch before) :
    before.Waits ∧ (before.resume task).Waits := by
  obtain ⟨early, -, played, free⟩ := attempt.split
  have waits := opened.waits.reaches ⟨early, played⟩
  exact ⟨waits, waits.apply free⟩

/-- The clock stands while a task gets in line. -/
theorem Attempt.now_eq (opened : start.Opened)
    (attempt : Attempt start moves rest task dispatch before) :
    (before.resume task).now = before.now := by
  obtain same | ⟨moment, pass, -⟩ := now_apply (attempt.waits opened).1.sound (.resume task)
  · exact same
  · simp at pass

/-- A delivery with a deadline is not pending after it. -/
theorem Attempt.now_le (opened : start.Opened)
    (attempt : Attempt start moves rest task dispatch before) {due : Nat}
    (there : before.sites[dispatch.site]? = some place) (timed : dispatch.due = some due)
    (visits : (before.resume task).Visits rest world)
    (pending : world.dispatch? task = some dispatch) :
    world.now ≤ before.now + place.gateway.deliveryTimeout := by
  obtain ⟨waits, after⟩ := attempt.waits opened
  obtain ⟨found, -, begins⟩ := begins_of_begun waits attempt.idle attempt.begun
  obtain rfl := begins.due_eq there timed
  exact (((after.reaches visits.reaches).placed task).timed dispatch _ pending timed).1

/-- Whoever stands in the line of a session in a world that follows an attempt of the task
delivers there what the attempt was about. -/
theorem Attempt.pending_of_waiting (opened : start.Opened)
    (attempt : Attempt start moves rest task dispatch before) {session : Session}
    (reaches : (before.resume task).Reaches world)
    (there : world.session? dispatch.site dispatch.session = some session)
    (waits : task ∈ session.waiting) : world.dispatch? task = some dispatch := by
  have after := (attempt.waits opened).2
  have later := after.reaches reaches
  obtain ⟨early, played⟩ := reaches
  obtain still | ⟨_, _, _, during⟩ := course after attempt.begun played
  · exact still
  · have idle := dispatch?_of_outcome? during.settled
    exact absurd (.inl waits) ((later.placed task).away idle there)

/-- A delivery that is pending at the end of a run was pending all the time. -/
theorem Attempt.pending_before (opened : start.Opened)
    (attempt : Attempt start moves rest task dispatch before)
    (first : (before.resume task).Reaches world) (second : world.Reaches last)
    (pending : last.dispatch? task = some dispatch) : world.dispatch? task = some dispatch := by
  have after := (attempt.waits opened).2
  have later := after.reaches first
  obtain ⟨early, played⟩ := first
  obtain still | ⟨_, _, _, during⟩ := course after attempt.begun played
  · exact still
  · have ended := dispatch?_of_outcome? (later.sound.outcome?_reaches second during.settled)
    exact absurd (ended.symm.trans pending) (by simp)

/-- A delivery has no deadline exactly if it acknowledges the message that was just fetched. -/
theorem Attempt.due_eq_none_iff (opened : start.Opened)
    (attempt : Attempt start moves rest task dispatch before) :
    dispatch.due = none ↔ before.AcknowledgesFetched task := by
  obtain ⟨found, there, begins⟩ :=
    begins_of_begun (attempt.waits opened).1 attempt.idle attempt.begun
  unfold Purpose.Begins at begins
  split at begins
  · rename_i purpose
    obtain ⟨place, -, -, -, same⟩ := begins
    rw [same]
    simp [AcknowledgesFetched, there, purpose]
  · rename_i purpose
    obtain ⟨place, -, same⟩ := begins
    rw [same]
    simp [AcknowledgesFetched, there, purpose]
  · rename_i purpose
    simp [AcknowledgesFetched, there, purpose, begins.2]
  · exact begins.elim

/-- A delivery that has got in line ends within the delivery timeout, unless it acknowledges the
message that was just fetched; then it does exactly if time does not pass the timeout while
the task stands in the line of its session, and the session is open. -/
theorem endsInTime_iff (opened : start.Opened)
    (attempt : Attempt start moves rest task dispatch before)
    (there : before.sites[dispatch.site]? = some place) :
    EndsInTime before rest task dispatch place ↔
      (before.AcknowledgesFetched task → LeavesLine before rest task dispatch place) := by
  rw [← attempt.due_eq_none_iff opened]
  constructor
  · intro inTime _ early moment late world session split played free beyond here _ waits
    have reaches : (before.resume task).Reaches world := ⟨early, played⟩
    have pending := attempt.pending_of_waiting opened reaches here waits
    have visits : (before.resume task).Visits rest (world.passTo moment) := by
      refine ⟨early ++ [.pass moment], late, by simp [split], ?_⟩
      rw [play?_append, played]
      simp [play?, free, apply]
    have still : (world.passTo moment).dispatch? task = some dispatch := by
      unfold dispatch?
      rw [tasks_passTo]
      exact pending
    have most := inTime _ visits still
    obtain ⟨ready, same⟩ := exists_passTo world moment
    rw [same] at most
    exact absurd beyond (Nat.not_lt.mpr (Nat.le_trans (Nat.le_max_right _ _) most))
  · intro leaves world visits pending
    cases timed : dispatch.due with
    | some due => exact attempt.now_le opened there timed visits pending
    | none =>
      refine Nat.le_of_not_lt fun late => ?_
      obtain ⟨waits, after⟩ := attempt.waits opened
      obtain ⟨early, others, split, played⟩ := visits
      have begun : (before.resume task).now ≤ before.now + place.gateway.deliveryTimeout := by
        rw [attempt.now_eq opened]
        exact Nat.le_add_right _ _
      -- time has passed the timeout somewhere, and nobody was ready then
      obtain ⟨first, moment, second, middle, rfl, before_pass, free, beyond, after_pass⟩ :=
        exists_pass after.sound begun played late
      have reaches : (before.resume task).Reaches middle := ⟨first, before_pass⟩
      have waiting := attempt.pending_before opened reaches
        ((Reaches.move free).trans ⟨second, after_pass⟩) pending
      obtain ⟨session, here, keeps⟩ := ((after.reaches reaches).placed task).place dispatch waiting
      have idle : middle.ready = [] := by
        simp only [isOpen, mayPass, Bool.and_eq_true, List.isEmpty_iff] at free
        exact free.1
      rw [idle] at keeps
      obtain ⟨unclosed, inLine⟩ := keeps.asleep List.not_mem_nil
      refine leaves timed first moment (second ++ others) middle session ?_ before_pass free
        beyond here unclosed inLine
      simpa using split

/-- Two messages are there, the first is fetched and acknowledged, and somebody asks for the
second. -/
def secondFetch : List Move :=
  [.enqueue 0 "g" "t" [⟨.message none 0 0 2 none [97], 0⟩, ⟨.message none 0 1 2 none [98], 0⟩],
    .request 0 (.consume "g" "t" .auto), .resume 0, .request 0 (.consume "g" "t" .auto)]

/-- The acknowledgement of the second message finds the session full, and is still pending
after a second, and after five. -/
theorem attempt_secondFetch {moment : Nat} (whole : moment = 1000 ∨ moment = 5000) :
    ∃ before place last, Attempt narrowGateway (secondFetch ++ [.resume 1, .pass moment])
      [.pass moment] 1 ⟨0, 0, 1, none⟩ before ∧ before.sites[0]? = some place ∧
        before.now = 0 ∧ place.gateway.deliveryTimeout = 1000 ∧
          (before.resume 1).Visits [.pass moment] last ∧ last.now = moment ∧
            last.dispatch? 1 = some ⟨0, 0, 1, none⟩ := by
  have begins : (narrowGateway.play? secondFetch).map (fun before =>
      (before.now, (before.sites[0]?).map (·.gateway.deliveryTimeout),
        before.isOpen (.resume 1), before.dispatch? 1, (before.resume 1).dispatch? 1)) =
      some (0, some 1000, true, none, some ⟨0, 0, 1, none⟩) := by
    decide +kernel
  have ends : (narrowGateway.play? (secondFetch ++ [.resume 1, .pass moment])).map
      (fun last => (last.now, last.dispatch? 1)) = some (moment, some ⟨0, 0, 1, none⟩) := by
    rcases whole with rfl | rfl <;> decide +kernel
  obtain ⟨before, played, same⟩ := Option.map_eq_some_iff.mp begins
  simp only [Prod.mk.injEq, Option.map_eq_some_iff] at same
  obtain ⟨now, ⟨place, there, timeout⟩, free, idle, begun⟩ := same
  obtain ⟨last, passed, after⟩ := Option.map_eq_some_iff.mp ends
  obtain ⟨late, pending⟩ := Prod.mk.inj after
  have goes_on : (before.resume 1).play? [.pass moment] = some last := by
    rw [play?_append, played, Option.bind_some, play?, if_pos free] at passed
    exact passed
  exact ⟨before, place, last, ⟨⟨secondFetch, rfl, played, free⟩, idle, begun⟩, there, now, timeout,
    visits_last goes_on, late, pending⟩

/-- The delivery of the second acknowledgement has ended in time so far, if only a second has
passed. -/
theorem endsInTime_secondFetch : ∃ before place,
    Opened narrowGateway ∧ Attempt narrowGateway (secondFetch ++ [.resume 1, .pass 1000])
      [.pass 1000] 1 ⟨0, 0, 1, none⟩ before ∧ before.sites[0]? = some place ∧
    EndsInTime before [.pass 1000] 1 ⟨0, 0, 1, none⟩ place := by
  obtain ⟨before, place, last, attempt, there, now, timeout, -⟩ :=
    attempt_secondFetch (.inl rfl : (1000 : Nat) = 1000 ∨ _)
  refine ⟨before, place, opened_narrowGateway, attempt, there, ?_⟩
  refine (endsInTime_iff opened_narrowGateway attempt there).mpr fun _ => ?_
  intro early moment late world session split _ _ beyond
  rcases early with _ | ⟨first, rest⟩
  · obtain ⟨rfl, -⟩ : 1000 = moment ∧ [] = late := by simpa using split
    rw [now, timeout] at beyond
    exact absurd beyond (Nat.lt_irrefl _)
  · simp at split

/-- The delivery of the acknowledgement of a message just fetched outlasts the timeout when
nobody reads. -/
theorem fetched_outlasts_timeout : ∃ start moves rest task dispatch before place,
    Opened start ∧ Attempt start moves rest task dispatch before ∧
    before.sites[dispatch.site]? = some place ∧
    ¬ EndsInTime before rest task dispatch place := by
  obtain ⟨before, place, last, attempt, there, now, timeout, visits, late, pending⟩ :=
    attempt_secondFetch (.inr rfl : (5000 : Nat) = 1000 ∨ _)
  refine ⟨_, _, _, _, _, before, place, opened_narrowGateway, attempt, there, ?_⟩
  intro inTime
  have most := inTime last visits pending
  rw [late, now, timeout] at most
  exact absurd most (by decide)

end World

end ClusterGateway
