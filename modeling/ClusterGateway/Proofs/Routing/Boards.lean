import ClusterGateway.Proofs.Routing.History

/-!
# A switchboard follows its past

Whatever is done at a switchboard, its table, its sessions and all that its steps tell are those
that the steps taken so far say. Main statement: `follows_history`.
-/

namespace ClusterGateway

/-- An offer is accepted, or changes nothing. -/
theorem Session.offer_eq (session : Session) (item : Acknowledged) : session.offer item =
    (if session.attempt = .accepted then session.accept item else session, session.attempt) := by
  unfold Session.offer
  split
  · rename_i outcome
    rw [if_pos outcome, outcome]
  · rename_i outcome
    rw [if_neg outcome]

namespace Switchboard

variable {board : Switchboard} {past : History} {number : SessionId} {name : String}
  {key : RoutingKey} {offset : Int64} {session : Session}

/-- The board after steps. -/
def after (board : Switchboard) (steps : List Switchboard.Step) : Switchboard :=
  steps.foldl (fun board step => (board.step step).1) board

/-- What the past says of one session. -/
structure Recorded (past : History) (number : SessionId) (name : String) (session : Session) :
    Prop where
  opening : History.opening? number past = some (name, session.capacity)
  closed : session.closed = History.isClosed number past
  unread : session.buffer.map (·.offset) = History.unread number past
  accepted : session.accepted.map (·.offset) = History.accepted number past
  quiet : session.waiting = [] ∧ session.granted = []
  fits : session.buffer.length ≤ session.capacity
  counted : session.taken ≤ session.accepted.length

/-- A board is as its past says. -/
structure Follows (board : Switchboard) (past : History) : Prop where
  opened : board.sessions.length = History.opened past
  holder : ∀ name, board.number? name = History.holder? name past
  routed : ∀ key, board.table.get? key = History.routed? key past
  size : board.table.size = (History.keys past).dedup.length
  recorded : ∀ number name session, board.sessions[number]? = some (name, session) →
    Recorded past number name session

/-- Changing a session leaves every other one alone. -/
theorem sessions_onSession (board : Switchboard) (number other : SessionId)
    (change : Session → Session) : (board.onSession number change).sessions[other]? =
      if number = other then (board.sessions[other]?).map fun (name, found) => (name, change found)
      else board.sessions[other]? := by
  rw [onSession, List.getElem?_modify]
  by_cases same : number = other
  · simp only [same, ↓reduceIte, Option.map_eq_map]
  · simp only [same, ↓reduceIte, Option.map_eq_map]
    exact Option.map_id_apply

/-- Names stay as they are when a session changes. -/
theorem names_onSession (board : Switchboard) (number : SessionId) (change : Session → Session) :
    (board.onSession number change).sessions.map (·.1) = board.sessions.map (·.1) := by
  refine List.ext_getElem? fun other => ?_
  rw [List.getElem?_map, List.getElem?_map, sessions_onSession]
  split
  · rw [Option.map_map]
    rfl
  · rfl

/-- Which session a name stands for depends on the names alone. -/
theorem number?_eq (board : Switchboard) (name : String) :
    board.number? name =
      ((board.sessions.map (·.1)).zipIdx.reverse.find? (·.1 == name)).map (·.2) := by
  rw [number?, List.zipIdx_map, ← List.map_reverse, List.find?_map, Option.map_map]
  rfl

/-- Names stand for the same sessions when a session changes. -/
theorem number?_onSession (board : Switchboard) (number : SessionId) (change : Session → Session)
    (name : String) : (board.onSession number change).number? name = board.number? name := by
  rw [number?_eq, number?_eq, names_onSession]

/-- Names stand for the same sessions when one is closed. -/
theorem number?_close (board : Switchboard) (name other : String) :
    (board.close name).number? other = board.number? other := by
  unfold close
  split
  · rfl
  · exact number?_onSession board _ _ other

/-- As many sessions as before are there when one is closed. -/
theorem length_close (board : Switchboard) (name : String) :
    (board.close name).sessions.length = board.sessions.length := by
  unfold close
  split
  · rfl
  · rw [onSession, List.length_modify]

/-- A session that is opened takes over its name. -/
theorem number?_openSession (board : Switchboard) (name other : String) (capacity : Nat) :
    (board.openSession name capacity).number? other =
      if name = other then some board.sessions.length else board.number? other := by
  rw [← board.length_close name, ← board.number?_close name other, openSession, number?,
    List.zipIdx_append, List.reverse_append]
  simp only [List.zipIdx_cons, List.zipIdx_nil, List.reverse_singleton, List.singleton_append,
    List.find?_cons, Nat.zero_add]
  by_cases same : name = other
  · simp [same]
  · have apart : (name == other) = false := by simpa using same
    simp [same, apart, number?]

/-- A session goes on as before in a step that is not about it. -/
theorem Recorded.mono {step : Switchboard.Step} (recorded : Recorded past number name session)
    (opening : History.opening? number (step :: past) = History.opening? number past)
    (closed : History.isClosed number (step :: past) = History.isClosed number past)
    (unread : History.unread number (step :: past) = History.unread number past)
    (accepted : History.accepted number (step :: past) = History.accepted number past) :
    Recorded (step :: past) number name session where
  opening := opening.trans recorded.opening
  closed := recorded.closed.trans closed.symm
  unread := recorded.unread.trans unread.symm
  accepted := recorded.accepted.trans accepted.symm
  quiet := recorded.quiet
  fits := recorded.fits
  counted := recorded.counted

/-- Room is what the buffer leaves. -/
theorem Recorded.room_eq_zero_iff (recorded : Recorded past number name session) :
    session.room = 0 ↔ ¬session.buffer.length < session.capacity := by
  rw [Session.room, recorded.quiet.2, List.length_nil, Nat.sub_zero]
  omega

/-- A session that is open and not full is one that admits an offset. -/
theorem Recorded.admits (recorded : Recorded past number name session) :
    History.admits number (History.unread number past) past =
      (!session.closed && decide (session.buffer.length < session.capacity)) := by
  rw [History.admits, recorded.opening, ← recorded.closed, ← recorded.unread, List.length_map]
  rfl

/-- An offer ends as the past says. -/
theorem Recorded.attempt (recorded : Recorded past number name session) :
    session.attempt = History.attempt number past := by
  rw [Session.attempt, History.attempt, recorded.admits, ← recorded.closed,
    ite_cond_congr (propext recorded.room_eq_zero_iff)]
  cases ended : session.closed with
  | true => rfl
  | false => by_cases place : session.buffer.length < session.capacity <;> simp [place]

/-- A session admits an offset exactly if an offer is accepted. -/
theorem Recorded.admits_iff (recorded : Recorded past number name session) :
    History.admits number (History.unread number past) past = true ↔
      session.attempt = .accepted := by
  rw [recorded.admits, Session.attempt, ite_cond_congr (propext recorded.room_eq_zero_iff)]
  cases ended : session.closed with
  | true => simp
  | false => by_cases place : session.buffer.length < session.capacity <;> simp [place]

/-- A session after an offset has been offered to it. -/
theorem Recorded.offer (recorded : Recorded past number name session)
    (routed : History.routed? key past = some number) (offset : Int64) :
    Recorded (.send key offset :: past) number name (session.offer ⟨none, offset⟩).1 := by
  rw [Session.offer_eq]
  by_cases takes : session.attempt = .accepted
  · have admits := recorded.admits_iff.mpr takes
    have place := recorded.admits.symm.trans admits
    rw [Bool.and_eq_true, decide_eq_true_eq] at place
    have buffer : (session.accept ⟨none, offset⟩).buffer = session.buffer ++ [⟨none, offset⟩] :=
      List.drop_append_of_le_length recorded.counted
    rw [if_pos takes]
    refine ⟨recorded.opening, recorded.closed, ?_, ?_, recorded.quiet, ?_, ?_⟩
    · rw [buffer, List.map_append, recorded.unread, History.unread, if_pos ⟨routed, admits⟩]
      rfl
    · show (session.accepted ++ [(⟨none, offset⟩ : Acknowledged)]).map (·.offset) = _
      rw [List.map_append, recorded.accepted, History.accepted, if_pos ⟨routed, admits⟩]
      rfl
    · rw [buffer, List.length_append]
      exact place.2
    · show session.taken ≤ (session.accepted ++ [_]).length
      rw [List.length_append]
      exact Nat.le_add_right_of_le recorded.counted
  · have refuses : ¬(History.routed? key past = some number ∧
        History.admits number (History.unread number past) past = true) :=
      fun both => takes (recorded.admits_iff.mp both.2)
    rw [if_neg takes]
    refine recorded.mono rfl rfl ?_ ?_
    · rw [History.unread, if_neg refuses]
    · rw [History.accepted, if_neg refuses]

/-- A session after all of it has been read. -/
theorem Recorded.takeAll {reading : String} (recorded : Recorded past number name session)
    (held : History.holder? reading past = some number) (is_open : session.closed = false) :
    Recorded (.read reading :: past) number name session.takeAll.2.1 := by
  have reads : History.holder? reading past = some number ∧ History.isClosed number past = false :=
    ⟨held, recorded.closed.symm.trans is_open⟩
  have whole : session.buffer.take session.buffer.length = session.buffer := List.take_length
  have rest : session.taken + session.buffer.length = session.accepted.length := by
    have counted := recorded.counted
    rw [Session.buffer, List.length_drop]
    omega
  have after : session.takeAll.2.1 = { session with taken := session.accepted.length } := by
    simp only [Session.takeAll, Session.take, Session.grant, whole, rest, recorded.quiet.1,
      recorded.quiet.2, List.take_nil, List.drop_nil, List.append_nil]
  have nothing : (session.takeAll.2.1).buffer = [] := by
    rw [after]
    exact List.drop_length
  refine ⟨?_, ?_, ?_, ?_, ?_, ?_, ?_⟩
  · rw [after]
    exact recorded.opening
  · rw [after]
    exact recorded.closed
  · rw [nothing, History.unread, if_pos reads]
    rfl
  · rw [after]
    exact recorded.accepted
  · rw [after]
    exact recorded.quiet
  · rw [nothing]
    exact Nat.zero_le _
  · exact Nat.le_of_eq (by rw [after])

/-- What is read of a session is what the past says. -/
theorem Recorded.takeAll_offsets (recorded : Recorded past number name session) :
    session.takeAll.1 = History.unread number past := by
  rw [Session.takeAll, Session.take_offsets, List.take_length, recorded.unread]

/-- A session after it has been closed. -/
theorem Recorded.close {closing : String} (recorded : Recorded past number name session)
    (held : History.holder? closing past = some number) :
    Recorded (.close closing :: past) number name session.close.1 where
  opening := recorded.opening
  closed := by rw [History.isClosed, held, beq_self_eq_true, Bool.true_or]; rfl
  unread := recorded.unread
  accepted := recorded.accepted
  quiet := ⟨rfl, rfl⟩
  fits := recorded.fits
  counted := recorded.counted

/-- A session that has just been opened. -/
theorem recorded_new (past : History) (name : String) (capacity : Nat) :
    Recorded (.openSession name capacity :: past) (History.opened past) name (.new capacity) where
  opening := if_pos rfl
  closed := by
    have other : History.holder? name past ≠ some (History.opened past) :=
      fun held => absurd (History.holder?_lt held) (Nat.lt_irrefl _)
    have before : History.isClosed (History.opened past) past = false := by
      rw [Bool.eq_false_iff]
      exact fun ended => absurd (History.lt_of_isClosed ended) (Nat.lt_irrefl _)
    rw [History.isClosed, before, Bool.or_false, beq_eq_false_iff_ne.mpr other]
    rfl
  unread := (History.unread_of_le (Nat.le_refl _)).symm
  accepted := (History.accepted_of_le (Nat.le_refl _)).symm
  quiet := ⟨rfl, rfl⟩
  fits := Nat.zero_le _
  counted := Nat.le_refl _

/-- A step that opens no session and routes no key, as far as the past is concerned. -/
structure KeepsRoutes (step : Switchboard.Step) (past : History) : Prop where
  opened : History.opened (step :: past) = History.opened past
  holder : ∀ name, History.holder? name (step :: past) = History.holder? name past
  routed : ∀ key, History.routed? key (step :: past) = History.routed? key past
  keys : History.keys (step :: past) = History.keys past

/-- A step that leaves a board as it is and changes nothing that is recorded. -/
theorem Follows.unmoved {step : Switchboard.Step} (follows : board.Follows past)
    (keeps : KeepsRoutes step past)
    (records : ∀ number name session, Recorded past number name session →
      Recorded (step :: past) number name session) : board.Follows (step :: past) where
  opened := follows.opened.trans keeps.opened.symm
  holder name := (follows.holder name).trans (keeps.holder name).symm
  routed key := (follows.routed key).trans (keeps.routed key).symm
  size := by
    rw [keeps.keys]
    exact follows.size
  recorded number name session there := records number name session
    (follows.recorded number name session there)

/-- A step that changes one session of a board, and what is recorded of that one. -/
theorem Follows.moved {step : Switchboard.Step} {target : SessionId} {change : Session → Session}
    (follows : board.Follows past) (keeps : KeepsRoutes step past)
    (own : ∀ name session, Recorded past target name session →
      Recorded (step :: past) target name (change session))
    (others : ∀ number name session, target ≠ number → Recorded past number name session →
      Recorded (step :: past) number name session) :
    (board.onSession target change).Follows (step :: past) where
  opened := by
    rw [onSession, List.length_modify, keeps.opened]
    exact follows.opened
  holder name := by
    rw [number?_onSession, keeps.holder]
    exact follows.holder name
  routed key := (follows.routed key).trans (keeps.routed key).symm
  size := by
    rw [keeps.keys]
    exact follows.size
  recorded number name session there := by
    rw [sessions_onSession] at there
    by_cases same : target = number
    · rw [if_pos same, Option.map_eq_some_iff] at there
      obtain ⟨⟨named, found⟩, before, now⟩ := there
      cases now
      subst same
      exact own name found (follows.recorded target name found before)
    · rw [if_neg same] at there
      exact others number name session same (follows.recorded number name session there)

/-- Closing a name. -/
theorem Follows.close (follows : board.Follows past) (name : String) :
    (board.close name).Follows (.close name :: past) := by
  have keeps : KeepsRoutes (.close name) past := ⟨rfl, fun _ => rfl, fun _ => rfl, rfl⟩
  unfold Switchboard.close
  rw [follows.holder]
  cases held : History.holder? name past with
  | none =>
    refine follows.unmoved keeps fun number other session recorded => recorded.mono rfl ?_ rfl rfl
    rw [History.isClosed, held]
    rfl
  | some holder =>
    refine follows.moved keeps (fun named found recorded => recorded.close held)
      fun number other session differ recorded => recorded.mono rfl ?_ rfl rfl
    have apart : (some holder == some number) = false := by simpa using differ
    rw [History.isClosed, held, apart, Bool.false_or]

/-- Opening a session. -/
theorem Follows.openSession (follows : board.Follows past) (name : String) (capacity : Nat) :
    (board.openSession name capacity).Follows (.openSession name capacity :: past) where
  opened := by
    rw [Switchboard.openSession, List.length_append, length_close, follows.opened]
    rfl
  holder other := by
    rw [number?_openSession, follows.holder, follows.opened]
    rfl
  routed key := (follows.close name).routed key
  size := (follows.close name).size
  recorded number other session there := by
    have closed := follows.close name
    have count : (board.close name).sessions.length = History.opened past := closed.opened
    rw [Switchboard.openSession] at there
    by_cases old : number < (board.close name).sessions.length
    · rw [List.getElem?_append_left old] at there
      have recorded := closed.recorded number other session there
      have differ : History.opened past ≠ number := by
        rw [← count]
        exact Nat.ne_of_gt old
      exact { recorded with opening := (if_neg differ).trans recorded.opening }
    · rw [List.getElem?_append_right (Nat.not_lt.mp old)] at there
      have last : number - (board.close name).sessions.length = 0 := by
        have bound := (List.getElem?_eq_some_iff.mp there).1
        rw [List.length_singleton] at bound
        exact Nat.lt_one_iff.mp bound
      have number_eq : number = History.opened past := by
        rw [← count]
        exact Nat.le_antisymm (Nat.sub_eq_zero_iff_le.mp last) (Nat.not_lt.mp old)
      rw [last] at there
      cases there
      rw [number_eq]
      exact recorded_new past name capacity

/-- Routing a key. -/
theorem Follows.insert (follows : board.Follows past) (name : String) (key : RoutingKey) :
    (board.insert name key).Follows (.insert name key :: past) := by
  unfold Switchboard.insert
  rw [follows.holder]
  cases held : History.holder? name past with
  | none =>
    refine follows.unmoved ⟨rfl, fun _ => rfl, fun other => ?_, ?_⟩
      fun number other session recorded => recorded.mono rfl rfl rfl rfl
    · rw [History.routed?, held, Option.none_or, ite_self]
    · rw [History.keys, held]
      rfl
  | some holder =>
    refine ⟨follows.opened, follows.holder, ?_, ?_, ?_⟩
    · intro other
      rw [History.routed?, held, Option.some_or]
      by_cases same : key = other
      · rw [if_pos same, ← same]
        exact board.table.get?_insert_self key holder
      · rw [if_neg same, ← follows.routed other]
        exact board.table.get?_insert_of_ne holder (Ne.symm same)
    · have known : (board.table.get? key).isSome = true ↔ key ∈ History.keys past := by
        rw [follows.routed]
        exact History.isSome_routed?_iff past key
      show (board.table.insert key holder).size = _
      have keys : History.keys (.insert name key :: past) = key :: History.keys past := by
        rw [History.keys, held]
        rfl
      rw [RoutingTable.size_insert, follows.size, keys]
      by_cases there : key ∈ History.keys past
      · rw [if_pos (known.mpr there), List.dedup_cons_of_mem there]
      · rw [if_neg (mt known.mp there), List.dedup_cons_of_notMem there, List.length_cons]
    · intro number other session there
      exact (follows.recorded number other session there).mono rfl rfl rfl rfl

/-- The session of a name or of a key that has been opened is on the board. -/
theorem Follows.exists_session (follows : board.Follows past)
    (opened : number < History.opened past) :
    ∃ name session, board.sessions[number]? = some (name, session) ∧
      Recorded past number name session := by
  have inside : number < board.sessions.length := by
    rw [follows.opened]
    exact opened
  have there : board.sessions[number]? = some board.sessions[number] :=
    List.getElem?_eq_getElem inside
  exact ⟨_, _, there, follows.recorded number _ _ there⟩

/-- Sending an offset by a key changes at most the session that the key is routed to. -/
theorem Follows.send (follows : board.Follows past) (key : RoutingKey) (offset : Int64) :
    (board.send key offset).1.Follows (.send key offset :: past) ∧
      (board.send key offset).2 =
        (History.routed? key past).map fun number => History.attempt number past := by
  have keeps : KeepsRoutes (.send key offset) past := ⟨rfl, fun _ => rfl, fun _ => rfl, rfl⟩
  have elsewhere : ∀ number name session, History.routed? key past ≠ some number →
      Recorded past number name session →
        Recorded (.send key offset :: past) number name session := by
    intro number name session differ recorded
    have unaffected : ∀ rest : Prop, ¬(History.routed? key past = some number ∧ rest) :=
      fun rest both => differ both.1
    refine recorded.mono rfl rfl ?_ ?_
    · rw [History.unread, if_neg (unaffected _)]
    · rw [History.accepted, if_neg (unaffected _)]
  unfold Switchboard.send
  rw [follows.routed]
  cases routed : History.routed? key past with
  | none =>
    refine ⟨follows.unmoved keeps fun number name session recorded => ?_, rfl⟩
    exact elsewhere number name session (by simp [routed]) recorded
  | some target =>
    obtain ⟨name, session, there, recorded⟩ :=
      follows.exists_session (History.routed?_lt routed)
    simp only [there]
    refine ⟨follows.moved keeps (fun _ _ recorded => recorded.offer routed offset)
      fun number name session differ recorded => elsewhere number name session ?_ recorded, ?_⟩
    · rw [routed]
      exact fun equal => differ (Option.some.inj equal)
    · rw [Session.offer_eq, recorded.attempt]
      rfl

/-- Reading the session of a name. -/
theorem Follows.read (follows : board.Follows past) (name : String) :
    (board.read name).1.Follows (.read name :: past) ∧
      (board.read name).2 = (History.holder? name past).bind fun number =>
        if History.isClosed number past then none else some (History.unread number past) := by
  have keeps : KeepsRoutes (.read name) past := ⟨rfl, fun _ => rfl, fun _ => rfl, rfl⟩
  have elsewhere : ∀ number other session,
      ¬(History.holder? name past = some number ∧ History.isClosed number past = false) →
        Recorded past number other session →
          Recorded (.read name :: past) number other session := by
    intro number other session differ recorded
    refine recorded.mono rfl rfl ?_ rfl
    rw [History.unread, if_neg differ]
  unfold Switchboard.read session?
  rw [follows.holder]
  cases held : History.holder? name past with
  | none =>
    refine ⟨follows.unmoved keeps fun number other session recorded => ?_, rfl⟩
    exact elsewhere number other session (by simp [held]) recorded
  | some target =>
    obtain ⟨named, session, there, recorded⟩ := follows.exists_session (History.holder?_lt held)
    simp only [Option.bind_some, there, Option.map_some]
    rw [recorded.closed]
    by_cases ended : History.isClosed target past = true
    · rw [if_pos ended, if_pos ended]
      refine ⟨follows.unmoved keeps fun number other session recorded => ?_, rfl⟩
      refine elsewhere number other session ?_ recorded
      rintro ⟨same, is_open⟩
      obtain rfl : target = number := Option.some.inj (held.symm.trans same)
      exact absurd (ended.symm.trans is_open) (by decide)
    · have is_open : History.isClosed target past = false := Bool.eq_false_iff.mpr ended
      rw [if_neg ended, if_neg ended]
      refine ⟨follows.moved keeps
        (fun _ _ recorded => recorded.takeAll held (recorded.closed.trans is_open))
        fun number other session differ recorded => elsewhere number other session ?_ recorded, ?_⟩
      · rw [held]
        exact fun both => differ (Option.some.inj both.1)
      · rw [recorded.takeAll_offsets]

/-- A step that only asks changes nothing that is recorded. -/
theorem Follows.asked {step : Switchboard.Step} (follows : board.Follows past)
    (asks : (∃ key, step = .get key) ∨ step = .size) : board.Follows (step :: past) := by
  obtain ⟨key, rfl⟩ | rfl := asks
  all_goals
    exact follows.unmoved ⟨rfl, fun _ => rfl, fun _ => rfl, rfl⟩
      fun number name session recorded => recorded.mono rfl rfl rfl rfl

/-- One step: the board follows its past, and tells what the past says. -/
theorem Follows.step (follows : board.Follows past) (step : Switchboard.Step) :
    (board.step step).1.Follows (step :: past) ∧ (board.step step).2 = History.report past step := by
  cases step with
  | openSession name capacity => exact ⟨follows.openSession name capacity, rfl⟩
  | insert name key =>
    have after := follows.insert name key
    exact ⟨after, congrArg Report.size after.size⟩
  | get key =>
    refine ⟨follows.asked (.inl ⟨key, rfl⟩), congrArg Report.route ?_⟩
    rw [route?, follows.routed]
    cases routed : History.routed? key past with
    | none => rfl
    | some number =>
      obtain ⟨name, session, there, recorded⟩ :=
        follows.exists_session (History.routed?_lt routed)
      simp only [Option.bind_some, there, Option.map_some, recorded.opening, recorded.closed]
  | send key offset =>
    obtain ⟨after, attempt⟩ := follows.send key offset
    exact ⟨after, congrArg Report.sent attempt⟩
  | read name =>
    obtain ⟨after, offsets⟩ := follows.read name
    exact ⟨after, congrArg Report.offsets offsets⟩
  | close name => exact ⟨follows.close name, rfl⟩
  | size => exact ⟨follows.asked (.inr rfl), congrArg Report.size follows.size⟩

/-- The board without sessions has no past. -/
theorem follows_nil : ({} : Switchboard).Follows [] where
  opened := rfl
  holder _ := rfl
  routed _ := rfl
  size := rfl
  recorded _ _ _ there := by simp at there

/-- A run: the board follows all the steps that were taken. -/
theorem Follows.after (follows : board.Follows past) (steps : List Switchboard.Step) :
    (board.after steps).Follows (steps.reverse ++ past) ∧
      board.runAll steps = History.reports past steps := by
  induction steps generalizing board past with
  | nil => exact ⟨follows, rfl⟩
  | cons step rest ih =>
    obtain ⟨next, told⟩ := follows.step step
    obtain ⟨last, tells⟩ := ih next
    rw [List.reverse_cons, List.append_assoc]
    refine ⟨last, ?_⟩
    show (board.step step).2 :: (board.step step).1.runAll rest = _
    rw [History.reports, told, tells]

/-- An offer to a session that is closed changes nothing. -/
theorem Follows.send_of_closed (follows : board.Follows past)
    (routed : History.routed? key past = some number)
    (ended : History.isClosed number past = true) (offset : Int64) :
    (board.send key offset).1 = board := by
  obtain ⟨name, session, there, recorded⟩ := follows.exists_session (History.routed?_lt routed)
  have refuses : (session.offer ⟨none, offset⟩).1 = session := by
    rw [Session.offer_eq, recorded.attempt, History.attempt, if_pos ended]
    rfl
  have same : (board.onSession number fun found => (found.offer ⟨none, offset⟩).1).sessions =
      board.sessions := by
    refine List.ext_getElem? fun other => ?_
    rw [sessions_onSession]
    by_cases here : number = other
    · rw [if_pos here, ← here, there]
      exact congrArg (fun found => some (name, found)) refuses
    · rw [if_neg here]
  unfold Switchboard.send
  rw [follows.routed, routed]
  simp only [there]
  exact congrArg (fun sessions => { board with sessions }) same

/-- An offer by a key changes no session but the one that the key is routed to. -/
theorem Follows.send_elsewhere (follows : board.Follows past)
    (elsewhere : History.routed? key past ≠ some number) (offset : Int64) :
    (board.send key offset).1.sessions[number]? = board.sessions[number]? := by
  unfold Switchboard.send
  rw [follows.routed]
  split
  · rfl
  · rename_i target routed
    split
    · rfl
    · rw [sessions_onSession]
      have differ : target ≠ number := fun same => elsewhere (routed.trans (congrArg some same))
      rw [if_neg differ]

/-- After any steps, each of them having told what those before it say, a key is routed to the
session of the last insertion under it, and the table counts the distinct keys, never fewer than
before. A session that is open holds, and yields when it is read next, the offsets that it has
accepted since it was last read; all others that it has ever accepted have been read from it, once.
No buffer is larger than its capacity, and an offer changes at most the buffer of the session that
its key is routed to, and nothing at all where that one is closed. -/
theorem follows_history (steps : List Switchboard.Step)
    (roomy : ∀ step ∈ steps, step.lacksRoom = false) :
    let board := ({} : Switchboard).after steps
    let past : History := steps.reverse
    ({} : Switchboard).run? steps = some (History.reports [] steps) ∧
      (∀ key, board.table.get? key = History.routed? key past) ∧
      board.table.size = (History.keys past).dedup.length ∧
      (∀ step, board.table.size ≤ (board.step step).1.table.size) ∧
      (∀ number name session, board.sessions[number]? = some (name, session) →
        session.closed = History.isClosed number past ∧
        session.buffer.map (·.offset) = History.unread number past ∧
        session.buffer.length ≤ session.capacity ∧
        History.taken number past ++ History.unread number past = History.accepted number past ∧
        (session.closed = false → (board.read name).2 = some (History.unread number past))) ∧
      (∀ key offset number, History.routed? key past ≠ some number →
        (board.send key offset).1.sessions[number]? = board.sessions[number]?) ∧
      (∀ key offset number, History.routed? key past = some number →
        History.isClosed number past = true → (board.send key offset).1 = board) := by
  intro board past
  have whole := follows_nil.after steps
  rw [List.append_nil] at whole
  obtain ⟨follows, told⟩ : board.Follows past ∧ _ := whole
  have possible : steps.any Step.lacksRoom = false := by
    rw [List.any_eq_false]
    intro step there
    rw [roomy step there]
    exact Bool.false_ne_true
  refine ⟨?_, follows.routed, follows.size, ?_, ?_, ?_, ?_⟩
  · rw [run?, possible, told]
    rfl
  · intro step
    rw [follows.size, (follows.step step).1.size]
    exact History.length_keys_le past step
  · intro number name session there
    have recorded := follows.recorded number name session there
    refine ⟨recorded.closed, recorded.unread, recorded.fits,
      History.taken_append_unread past number, fun is_open => ?_⟩
    have not_closed : History.isClosed number past = false := recorded.closed.symm.trans is_open
    have held := History.holder?_of_open recorded.opening not_closed
    rw [(follows.read name).2, held, Option.bind_some, not_closed]
    rfl
  · intro key offset number elsewhere
    exact follows.send_elsewhere elsewhere offset
  · intro key offset number routed ended
    exact follows.send_of_closed routed ended offset

/-- A key is routed from one session to another while the first one still holds an offset: the
first one is full and yields it later, the second one takes what is sent from then on until it is
closed. -/
theorem rerouted_key_follows_history :
    let key : RoutingKey := ⟨"g", "t", 0⟩
    let steps : List Switchboard.Step :=
      [.openSession "old" 1, .insert "old" key, .send key 7, .send key 8, .openSession "new" 2,
        .insert "new" key, .send key 9, .read "old", .read "new", .read "new", .close "new",
        .send key 10, .get key]
    (∀ step ∈ steps, step.lacksRoom = false) ∧
      ({} : Switchboard).run? steps = some
        [.nothing, .size 1, .sent (some .accepted), .sent (some .full), .nothing, .size 1,
          .sent (some .accepted), .offsets (some [7]), .offsets (some [9]), .offsets (some []),
          .nothing, .sent (some .closed), .route (some ("new", true))] := by
  intro key steps
  have roomy : ∀ step ∈ steps, step.lacksRoom = false := by decide
  exact ⟨roomy, (follows_history steps roomy).1.trans rfl⟩

end Switchboard

end ClusterGateway
