import Mathlib.Data.List.TakeWhile
import ClusterGateway.Proofs.Delivery.Line

/-!
# Who comes first

A session serves its senders in the order in which they came. `Session.Ahead` says of two of
them, whether they wait, have been granted room or have yet to run, that the second will not be
served before the first. It lasts while others go on (`Ahead.passes`) and while room is granted
(`Ahead.grant`). Strictly, the second will not fill its room before the first either: this lasts
while room is granted fairly (`Fair`), as long as nobody who waits is woken before whoever came
before.
-/

namespace ClusterGateway

variable {me first second : TaskId} {line later woken : List TaskId}

/-- One task stands in front of another: some beginning of the line has the one and not the
other. -/
def InFront (line : List TaskId) (first second : TaskId) : Prop :=
  ∃ early late, line = early ++ late ∧ first ∈ early ∧ second ∉ early

namespace InFront

/-- Whoever stands in front is in the line. -/
theorem mem (front : InFront line first second) : first ∈ line := by
  obtain ⟨early, late, rfl, there, -⟩ := front
  exact List.mem_append_left _ there

/-- More tasks at the end of the line change nothing. -/
theorem append (front : InFront line first second) (more : List TaskId) :
    InFront (line ++ more) first second := by
  obtain ⟨early, late, rfl, there, absent⟩ := front
  exact ⟨early, late ++ more, List.append_assoc .., there, absent⟩

/-- A task that is new in the line stands behind all others. -/
theorem of_new (there : first ∈ line) (absent : second ∉ line) (more : List TaskId) :
    InFront (line ++ more) first second :=
  ⟨line, more, rfl, there, absent⟩

/-- Another task that leaves the line changes nothing. -/
theorem erase (front : InFront line first second) (differ : first ≠ me) :
    InFront (line.erase me) first second := by
  obtain ⟨early, late, rfl, there, absent⟩ := front
  by_cases mine : me ∈ early
  · rw [List.erase_append_left _ mine]
    exact ⟨early.erase me, late, rfl, (List.mem_erase_of_ne differ).mpr there,
      fun still => absent (List.mem_of_mem_erase still)⟩
  · rw [List.erase_append_right _ mine]
    exact ⟨early, late.erase me, rfl, there, absent⟩

/-- Another task that leaves the first part of the line changes nothing. -/
theorem erase_append {rest : List TaskId} (front : InFront (line ++ rest) first second)
    (differ : first ≠ me) : InFront (line.erase me ++ rest) first second := by
  by_cases there : me ∈ line
  · rw [← List.erase_append_left _ there]
    exact front.erase differ
  · rwa [List.erase_of_not_mem there]

/-- The order in which those who meet a condition stand in front of each other stays when others
leave. -/
theorem filter (front : InFront line first second) {keep : TaskId → Bool}
    (kept : keep first = true) : InFront (line.filter keep) first second := by
  obtain ⟨early, late, rfl, there, absent⟩ := front
  exact ⟨early.filter keep, late.filter keep, List.filter_append ..,
    List.mem_filter.mpr ⟨there, kept⟩, fun still => absent (List.mem_filter.mp still).1⟩

/-- The order of those who meet a condition is that in which they stand among all. -/
theorem of_filter {keep : TaskId → Bool} (front : InFront (line.filter keep) first second)
    (kept : keep second = true) : InFront line first second := by
  obtain ⟨early, late, split, there, absent⟩ := front
  obtain ⟨front, rest, rfl, rfl, rfl⟩ := List.filter_eq_append_iff.mp split
  exact ⟨front, rest, rfl, (List.mem_filter.mp there).1,
    fun inside => absent (List.mem_filter.mpr ⟨inside, kept⟩)⟩

/-- Others who join in the middle change nothing. -/
theorem insert {rest more : List TaskId} (front : InFront (line ++ rest) first second)
    (absent : second ∉ more) : InFront (line ++ more ++ rest) first second := by
  obtain ⟨early, late, split, there, away⟩ := front
  obtain ⟨others, rfl, rfl⟩ | ⟨others, rfl, rfl⟩ := List.append_eq_append_iff.mp split
  · refine ⟨line ++ more ++ others, late, by simp, ?_, ?_⟩
    · rcases List.mem_append.mp there with old | new
      · exact List.mem_append_left _ (List.mem_append_left _ old)
      · exact List.mem_append_right _ new
    · simp only [List.mem_append, not_or] at away ⊢
      exact ⟨⟨away.1, absent⟩, away.2⟩
  · exact ⟨early, others ++ more ++ rest, by simp, there, away⟩

/-- Whoever stands in front of a task does so in the part of the line where that one stands. -/
theorem of_append {rest : List TaskId} (front : InFront (line ++ rest) first second)
    (there : second ∈ line) : InFront line first second := by
  obtain ⟨early, late, split, inside, away⟩ := front
  obtain ⟨others, rfl, -⟩ | ⟨others, rfl, -⟩ := List.append_eq_append_iff.mp split
  · exact absurd (List.mem_append_left _ there) away
  · exact ⟨early, others, rfl, inside, away⟩

/-- Whoever stands in front of a task is met before it. -/
theorem mem_takeWhile (front : InFront line first second) :
    first ∈ line.takeWhile (· != second) := by
  obtain ⟨early, late, rfl, there, absent⟩ := front
  rw [List.takeWhile_append_of_pos]
  · exact List.mem_append_left _ there
  · rintro task inside
    simpa using fun same : task = second => absent (same ▸ inside)

/-- Whoever is met before a task stands in front of it. -/
theorem of_mem_takeWhile (there : first ∈ line.takeWhile (· != second)) :
    InFront line first second := by
  have split := (List.takeWhile_append_dropWhile (p := (· != second)) (l := line)).symm
  refine ⟨_, _, split, there, fun inside => ?_⟩
  simpa using List.mem_takeWhile_imp inside

/-- Of those who are taken first, whoever stands in front is taken, too, and still does. -/
theorem take (front : InFront line first second) {count : Nat}
    (taken : second ∈ line.take count) : InFront (line.take count) first second := by
  obtain ⟨early, late, rfl, there, absent⟩ := front
  rw [List.take_append] at taken ⊢
  have beyond : second ∈ late.take (count - early.length) :=
    (List.mem_append.mp taken).resolve_left fun here => absent (List.mem_of_mem_take here)
  have all : early.length ≤ count := by
    have some_ := List.length_pos_of_mem beyond
    rw [List.length_take] at some_
    omega
  rw [List.take_of_length_le all]
  exact ⟨early, _, rfl, there, absent⟩

/-- Whoever stands in front of a task, and is not taken away, still does. -/
theorem drop (front : InFront line first second) (distinct : line.Nodup) {count : Nat}
    (left : first ∈ line.drop count) : InFront (line.drop count) first second := by
  obtain ⟨early, late, rfl, there, absent⟩ := front
  rw [List.drop_append] at left ⊢
  refine ⟨early.drop count, _, rfl, ?_, fun still => absent (List.mem_of_mem_drop still)⟩
  rcases List.mem_append.mp left with here | beyond
  · exact here
  · exact absurd rfl ((List.nodup_append.mp distinct).2.2 first there first
      (List.mem_of_mem_drop beyond))

end InFront

/-- A line that a task may have left has been joined by others in their order. -/
structure Joined (me : TaskId) (woken line later : List TaskId) : Prop where
  stays : ∀ task ≠ me, task ∈ line → task ∈ later
  kept : ∀ first second, first ≠ me → InFront line first second → InFront later first second
  behind : ∀ first second, first ≠ me → first ∈ line → second ∉ line → InFront later first second
  among : ∀ first second, first ∉ line → second ∉ line → InFront woken first second →
    InFront later first second

namespace Session

variable {before after session freed : Session} {strict : Prop}

/-- A task has gone on, or left the line, and all others are where they were. -/
structure Apart (me : TaskId) (before after : Session) : Prop where
  closed : after.closed = before.closed
  granted : ∀ other ≠ me, other ∈ after.granted ↔ other ∈ before.granted
  fewer : ∀ task ∈ after.granted, task ∈ before.granted
  waiting : ∀ other ≠ me, other ∈ after.waiting ↔ other ∈ before.waiting
  front : ∀ first second, first ≠ me → InFront before.waiting first second →
    InFront after.waiting first second

/-- A task has gone on, all others are where they were, and no room has come free where there
was none. -/
structure Passes (me : TaskId) (before after : Session) : Prop extends Apart me before after where
  room : before.room = 0 → after.room = 0

/-- Nothing happens to a session. -/
theorem Passes.refl (me : TaskId) (session : Session) : Passes me session session :=
  ⟨⟨rfl, fun _ _ => Iff.rfl, fun _ => id, fun _ _ => Iff.rfl, fun _ _ _ front => front⟩, id⟩

/-- A task sends at once. -/
theorem Tidy.passes_accept (tidy : session.Tidy) (me : TaskId) (item : Acknowledged) :
    Passes me session (session.accept item) := by
  refine ⟨⟨rfl, fun _ _ => Iff.rfl, fun _ => id, fun _ _ => Iff.rfl, fun _ _ _ front => front⟩,
    fun full => ?_⟩
  have length := length_buffer_accept tidy item
  unfold Session.room at full ⊢
  rw [length]
  show session.capacity - (session.buffer.length + 1) - session.granted.length = 0
  omega

/-- A task gets in line. -/
theorem passes_await (me : TaskId) (session : Session) : Passes me session (session.await me) := by
  refine ⟨⟨rfl, fun _ _ => Iff.rfl, fun _ => id, fun other differ => ?_,
    fun _ _ _ front => front.append _⟩, id⟩
  simp [Session.await, differ]

/-- A task fills the room that it was granted. -/
theorem Sound.passes_fill (sound : session.Sound) (granted : me ∈ session.granted)
    (offset : Int64) : Passes me session (session.fill me offset) := by
  refine ⟨⟨rfl, fun other differ => List.mem_erase_of_ne differ, fun _ => List.mem_of_mem_erase,
    fun _ _ => Iff.rfl, fun _ _ _ front => front⟩, fun full => ?_⟩
  have taken := sound.taken
  have shorter := List.length_erase_of_mem granted
  have some_ := List.length_pos_of_mem granted
  simp only [Session.room, buffer, Session.fill, Session.accept, List.length_drop,
    List.length_append, List.length_singleton] at full ⊢
  omega

/-- A task that gives up has left the line, before its room goes to others. -/
theorem apart_leave (me : TaskId) (session : Session) : Apart me session { session with
    waiting := session.waiting.erase me
    granted := session.granted.erase me } :=
  ⟨rfl, fun _ differ => List.mem_erase_of_ne differ, fun _ => List.mem_of_mem_erase,
    fun _ differ => List.mem_erase_of_ne differ, fun _ _ differ front => front.erase differ⟩

/-- A task that gives up in the line leaves no room behind. -/
theorem Sound.passes_withdraw (sound : session.Sound) (waits : me ∈ session.waiting) :
    Passes me session (session.withdraw me).1 ∧ (session.withdraw me).2 = [] := by
  have full := sound.busy (List.ne_nil_of_mem waits)
  have ungranted := sound.ungranted waits
  have none_ : ({ session with
      waiting := session.waiting.erase me
      granted := session.granted.erase me } : Session).room = 0 := by
    simpa only [Session.room, buffer, List.erase_of_not_mem ungranted] using full
  have same : session.withdraw me = ({ session with waiting := session.waiting.erase me }, []) := by
    unfold Session.withdraw Session.grant
    rw [none_]
    simp [List.erase_of_not_mem ungranted]
  rw [same]
  refine ⟨⟨⟨rfl, fun _ _ => Iff.rfl, fun _ => id, fun _ differ => List.mem_erase_of_ne differ,
    fun _ _ differ front => front.erase differ⟩, fun _ => full⟩, rfl⟩

/-- Of two senders the second is never served before the first. -/
structure Ranks (session : Session) (first second : TaskId) : Prop where
  granted : second ∈ session.granted → first ∈ session.granted
  waiting : second ∈ session.waiting → first ∈ session.granted ∨ first ∈ session.waiting
  inLine : first ∈ session.waiting → second ∈ session.waiting →
    InFront session.waiting first second

/-- Of two senders the second does not get ahead of the first: where neither waits the first
runs first, unless it has been granted room. Strictly, it is then the last room that there is,
and the second has been granted none. -/
structure Ahead (strict : Prop) (session : Session) (ready : List TaskId) (first second : TaskId) :
    Prop extends Ranks session first second where
  ready : first ∉ session.waiting → second ∉ session.waiting → InFront ready first second ∨
    first ∈ session.granted ∧ (strict → second ∉ session.granted ∧ session.room = 0)

/-- A task that stands in no line is not served before anybody. -/
theorem Ranks.of_out (out : ¬ session.InLine second) : session.Ranks first second :=
  have away := not_or.mp out
  ⟨fun granted => absurd granted away.2, fun waits => absurd waits away.1,
    fun _ waits => absurd waits away.1⟩

/-- While one of two senders waits, their ranks are all that matters. -/
theorem Ranks.ahead (ranks : session.Ranks first second)
    (waits : first ∈ session.waiting ∨ second ∈ session.waiting) :
    session.Ahead strict line first second where
  toRanks := ranks
  ready := fun away gone => absurd waits (not_or.mpr ⟨away, gone⟩)

/-- The first of two senders gets in line. -/
theorem Ranks.await_first (ranks : session.Ranks first second) (out : ¬ session.InLine first)
    (differ : first ≠ second) : (session.await first).Ahead strict line first second := by
  have behind : ¬ (session.await first).InLine second := by
    rintro (waits | granted)
    · rcases List.mem_append.mp waits with before | mine
      · exact out (ranks.waiting before).symm
      · exact differ (List.mem_singleton.mp mine).symm
    · exact out (.inr (ranks.granted granted))
  exact (Ranks.of_out behind).ahead (.inl (List.mem_append_right _ (List.mem_singleton.mpr rfl)))

/-- The second of two senders gets in line when the first one has had its turn. -/
theorem Ahead.await_second (ahead : session.Ahead strict line first second)
    (out : ¬ session.InLine second) (differ : first ≠ second)
    (passed : ¬ InFront line first second) :
    (session.await second).Ahead strict later first second := by
  have away := not_or.mp out
  refine Ranks.ahead ⟨fun granted => absurd granted away.2, fun _ => ?_, fun waits _ => ?_⟩
    (.inr (List.mem_append_right _ (List.mem_singleton.mpr rfl)))
  · by_cases waits : first ∈ session.waiting
    · exact .inr (List.mem_append_left _ waits)
    · exact .inl ((ahead.ready waits away.1).resolve_left passed).1
  · have before : first ∈ session.waiting :=
      (List.mem_append.mp waits).resolve_right fun mine => differ (List.mem_singleton.mp mine)
    exact .of_new before away.1 _

/-- When the second of two senders is served, and the first one has had its turn, that one has
been granted room; strictly, the second one is not served then. -/
theorem Ahead.first_granted (ahead : session.Ahead strict line first second)
    (sound : session.Sound) (passed : ¬ InFront line first second)
    (served : second ∈ session.granted ∨ ¬ session.InLine second ∧ session.room ≠ 0) :
    first ∈ session.granted ∧ ¬ strict := by
  have away : first ∉ session.waiting := by
    rcases served with granted | ⟨-, room⟩
    · exact fun waits => sound.ungranted waits (ahead.granted granted)
    · exact fun waits => room (sound.busy (List.ne_nil_of_mem waits))
  have gone : second ∉ session.waiting := by
    rcases served with granted | ⟨out, -⟩
    · exact fun waits => sound.ungranted waits granted
    · exact (not_or.mp out).1
  obtain ⟨has, strictly⟩ := (ahead.ready away gone).resolve_left passed
  refine ⟨has, fun exact_ => ?_⟩
  obtain ⟨hasNot, full⟩ := strictly exact_
  rcases served with granted | ⟨-, room⟩
  · exact hasNot granted
  · exact room full

/-- Another task that has gone on changes no ranks. -/
theorem Ranks.apart (ranks : before.Ranks first second) (apart : Apart me before after)
    (one : first ≠ me) (two : second ≠ me) : after.Ranks first second where
  granted := by
    rw [apart.granted first one, apart.granted second two]
    exact ranks.granted
  waiting := by
    rw [apart.granted first one, apart.waiting first one, apart.waiting second two]
    exact ranks.waiting
  inLine := by
    rw [apart.waiting first one, apart.waiting second two]
    exact fun waits after => apart.front first second one (ranks.inLine waits after)

/-- Another task that goes on lets nobody get ahead. -/
theorem Ahead.passes (ahead : before.Ahead strict line first second)
    (passes : Passes me before after) (one : first ≠ me) (two : second ≠ me)
    (kept : InFront line first second → InFront later first second) :
    after.Ahead strict later first second where
  toRanks := ahead.toRanks.apart passes.toApart one two
  ready := by
    rw [passes.granted first one, passes.granted second two, passes.waiting first one,
      passes.waiting second two]
    exact fun away gone => (ahead.ready away gone).imp kept fun ⟨has, strictly⟩ =>
      ⟨has, fun exact_ => (strictly exact_).imp_right passes.room⟩

/-- Room is granted by rank. -/
theorem Ranks.grant (ranks : session.Ranks first second) (tidy : session.Tidy) :
    session.grant.1.Ranks first second := by
  have distinct := (List.nodup_append.mp tidy.once).1
  have served {task : TaskId} : task ∈ session.grant.1.granted ↔
      task ∈ session.granted ∨ task ∈ session.waiting.take session.room := List.mem_append
  have left {task : TaskId} (waits : task ∈ session.waiting) :
      task ∈ session.waiting.take session.room ∨ task ∈ session.grant.1.waiting := by
    rw [← List.take_append_drop session.room session.waiting] at waits
    exact List.mem_append.mp waits
  refine ⟨fun has => ?_, fun waits => ?_, fun waits after => ?_⟩
  · rw [served] at has ⊢
    rcases has with before | now
    · exact .inl (ranks.granted before)
    · obtain granted | waits := ranks.waiting (List.mem_of_mem_take now)
      · exact .inl granted
      · exact .inr ((ranks.inLine waits (List.mem_of_mem_take now)).take now).mem
  · obtain granted | before := ranks.waiting (List.mem_of_mem_drop waits)
    · exact .inl (served.mpr (.inl granted))
    · exact (left before).imp (fun now => served.mpr (.inr now)) id
  · have front := ranks.inLine (List.mem_of_mem_drop waits) (List.mem_of_mem_drop after)
    exact front.drop distinct waits

/-- A task that waited, and does so no more when room has been granted, has been granted some. -/
theorem Apart.served (apart : Apart me session freed) {task : TaskId} (other : task ≠ me)
    (waits : task ∈ session.waiting) (gone : task ∉ freed.grant.1.waiting) :
    task ∈ freed.grant.1.granted ∧ task ∈ freed.grant.2 :=
  (mem_grant_of_waiting ((apart.waiting task other).mpr waits)).resolve_left gone

/-- A task that had been granted room still has it when more has been granted. -/
theorem Apart.still_granted (apart : Apart me session freed) {task : TaskId} (other : task ≠ me)
    (granted : task ∈ session.granted) : task ∈ freed.grant.1.granted :=
  List.mem_append_left _ ((apart.granted task other).mpr granted)

/-- When room has been granted, and neither of two senders waits any more, the first one has been
granted room or still runs first. -/
theorem Ahead.grant_ready (ahead : session.Ahead strict line first second)
    (apart : Apart me session freed) (tidy : freed.Tidy) (one : first ≠ me) (two : second ≠ me)
    (joined : Joined me freed.grant.2 line later) (away : first ∉ freed.grant.1.waiting)
    (gone : second ∉ freed.grant.1.waiting) :
    InFront later first second ∨ first ∈ freed.grant.1.granted := by
  by_cases waits : first ∈ session.waiting
  · exact .inr (apart.served one waits away).1
  by_cases after : second ∈ session.waiting
  · have ranks := (ahead.toRanks.apart apart one two).grant tidy
    exact .inr (ranks.granted (apart.served two after gone).1)
  · exact (ahead.ready waits after).imp (joined.kept first second one)
      fun ⟨has, _⟩ => apart.still_granted one has

/-- Whoever has been granted room had some before, or waited for it. -/
theorem Apart.of_granted (apart : Apart me session freed) {task : TaskId} (other : task ≠ me)
    (has : task ∈ freed.grant.1.granted) : task ∈ session.granted ∨ task ∈ session.waiting := by
  rcases List.mem_append.mp has with before | now
  · exact .inl ((apart.granted task other).mp before)
  · exact .inr ((apart.waiting task other).mp (List.mem_of_mem_take now))

/-- Room is granted to two senders fairly: if only the first has some, it runs first, or there is
no more. -/
def Fair (after : Session) (later : List TaskId) (first second : TaskId) : Prop :=
  first ∈ after.granted → second ∉ after.granted → second ∈ later →
    after.room = 0 ∨ InFront later first second

/-- When both of two senders have been granted room, and the second was ready behind the first if
it was ready in line, the first of them runs first. -/
theorem Ahead.grant_both (ahead : session.Ahead True line first second)
    (apart : Apart me session freed) (sound : session.Sound) (one : first ≠ me) (two : second ≠ me)
    (awake : ∀ task, task = first ∨ task = second → task ∉ session.waiting → task ∈ line)
    (overdue : second ∈ session.waiting → second ∈ line → InFront line first second)
    (joined : Joined me freed.grant.2 line later) (gone : second ∉ freed.grant.1.waiting)
    (both : second ∈ freed.grant.1.granted) : InFront later first second := by
  obtain had | after := apart.of_granted two both
  · have idle : second ∉ session.waiting := fun waits => sound.ungranted waits had
    have away : first ∉ session.waiting := fun waits =>
      sound.ungranted waits (ahead.granted had)
    obtain front | ⟨-, strictly⟩ := ahead.ready away idle
    · exact joined.kept first second one front
    · exact absurd had (strictly trivial).1
  by_cases ready : second ∈ line
  · exact joined.kept first second one (overdue after ready)
  by_cases there : first ∈ line
  · exact joined.behind first second one there ready
  · have waits : first ∈ session.waiting :=
      Classical.byContradiction fun idle => there (awake first (.inl rfl) idle)
    have front := apart.front first second one (ahead.inLine waits after)
    exact joined.among first second there ready (front.take (apart.served two after gone).2)

/-- When room has been granted fairly, the first of two senders runs first, or the last room is
its own. -/
theorem Ahead.grant_fair (ahead : session.Ahead True line first second)
    (apart : Apart me session freed) (sound : session.Sound) (tidy : freed.Tidy)
    (one : first ≠ me) (two : second ≠ me)
    (awake : ∀ task, task = first ∨ task = second → task ∉ session.waiting → task ∈ line)
    (overdue : second ∈ session.waiting → second ∈ line → InFront line first second)
    (fair : Fair freed.grant.1 later first second) (joined : Joined me freed.grant.2 line later)
    (away : first ∉ freed.grant.1.waiting) (gone : second ∉ freed.grant.1.waiting) :
    InFront later first second ∨ first ∈ freed.grant.1.granted ∧
      second ∉ freed.grant.1.granted ∧ freed.grant.1.room = 0 := by
  by_cases has : first ∈ freed.grant.1.granted
  · by_cases too : second ∈ freed.grant.1.granted
    · exact .inl (ahead.grant_both apart sound one two awake overdue joined gone too)
    · have idle : second ∉ session.waiting := fun waits => too (apart.served two waits gone).1
      have ready : second ∈ later := joined.stays second two (awake second (.inr rfl) idle)
      exact (fair has too ready).symm.imp_right fun full => ⟨has, too, full⟩
  · exact .inl ((ahead.grant_ready apart tidy one two joined away gone).resolve_right has)

/-- Room that has come free is granted without that anybody gets ahead: strictly, if it is granted
fairly. -/
theorem Ahead.grant (ahead : session.Ahead strict line first second)
    (apart : Apart me session freed) (sound : session.Sound) (tidy : freed.Tidy)
    (one : first ≠ me) (two : second ≠ me)
    (awake : ∀ task, task = first ∨ task = second → task ∉ session.waiting → task ∈ line)
    (overdue : strict → second ∈ session.waiting → second ∈ line → InFront line first second)
    (fair : strict → Fair freed.grant.1 later first second)
    (joined : Joined me freed.grant.2 line later) :
    freed.grant.1.Ahead strict later first second where
  toRanks := (ahead.toRanks.apart apart one two).grant tidy
  ready := by
    intro away gone
    by_cases exact_ : strict
    · obtain rfl := eq_true exact_
      have served := ahead.grant_fair apart sound tidy one two awake (overdue trivial)
        (fair trivial) joined away gone
      exact served.imp_right fun ⟨has, rest⟩ => ⟨has, fun _ => rest⟩
    · exact (ahead.grant_ready apart tidy one two joined away gone).imp_right
        fun has => ⟨has, fun strictly => absurd strictly exact_⟩

end Session

end ClusterGateway
