import ClusterGateway.Session

/-!
# The line of a session

A session never takes or promises more than it has room for, keeps everybody in line at
most once, and leaves nobody waiting while there is room. `Session.Shift` says what an
operation of one task does to all others: nobody is dropped from the line, and whoever is
granted room, or turned away because the session closes, is named and will be woken.
-/

namespace ClusterGateway.Session

variable {me other : TaskId} {session : Session}

/-- A task is in line for a session, or has been granted room in it. -/
def InLine (session : Session) (task : TaskId) : Prop :=
  task ∈ session.waiting ∨ task ∈ session.granted

/-- What holds of a session even before free room has been granted. -/
structure Tidy (session : Session) : Prop where
  taken : session.taken ≤ session.accepted.length
  fits : session.buffer.length + session.granted.length ≤ session.capacity
  once : (session.waiting ++ session.granted).Nodup
  shut : session.closed = true → session.waiting = [] ∧ session.granted = []

/-- What holds of a session at all times. -/
structure Sound (session : Session) : Prop extends Tidy session where
  busy : session.waiting ≠ [] → session.room = 0

/-- What an operation of one task does to a session as far as all others are concerned. -/
structure Shift (me : TaskId) (served : List TaskId) (before after : Session) : Prop where
  sound : after.Sound
  shut : before.closed = true → after.closed = true
  lines : ∀ other ≠ me, after.InLine other → before.InLine other
  kept : ∀ other ≠ me, other ∈ before.granted → after.closed = false → other ∈ after.granted
  moved : ∀ other ≠ me, other ∈ before.waiting →
    after.closed = true ∧ other ∈ served ∨
      after.closed = false ∧ (other ∈ after.waiting ∨ other ∈ after.granted ∧ other ∈ served)

/-- A new session is sound. -/
theorem sound_new (capacity : Nat) : (Session.new capacity).Sound where
  taken := Nat.le_refl 0
  fits := Nat.zero_le capacity
  once := List.Pairwise.nil
  shut := fun _ => ⟨rfl, rfl⟩
  busy := fun waits => absurd rfl waits

/-- Nobody is in line for a session that is closed. -/
theorem Tidy.not_inLine (tidy : session.Tidy) (closed : session.closed = true) :
    ¬ session.InLine other := by
  obtain ⟨waiting, granted⟩ := tidy.shut closed
  simp [InLine, waiting, granted]

/-- Whoever waits has been granted no room. -/
theorem Tidy.ungranted (tidy : session.Tidy) (waits : other ∈ session.waiting) :
    other ∉ session.granted :=
  fun granted => (List.nodup_append.mp tidy.once).2.2 other waits other granted rfl

/-- An attempt is accepted by an open session that has room, and nobody waits there. -/
theorem Sound.of_accepted (sound : session.Sound) (attempt : session.attempt = .accepted) :
    session.closed = false ∧ session.room ≠ 0 ∧ session.waiting = [] := by
  unfold Session.attempt at attempt
  split at attempt
  · simp at attempt
  · rename_i open_
    split at attempt
    · simp at attempt
    · rename_i room
      refine ⟨Bool.eq_false_iff.mpr open_, room, ?_⟩
      by_cases waits : session.waiting = []
      · exact waits
      · exact absurd (sound.busy waits) room

/-- An attempt finds an open session full exactly if it has no room. -/
theorem of_full (attempt : session.attempt = .full) :
    session.closed = false ∧ session.room = 0 := by
  unfold Session.attempt at attempt
  split at attempt
  · simp at attempt
  · rename_i open_
    split at attempt
    · rename_i room
      exact ⟨Bool.eq_false_iff.mpr open_, room⟩
    · simp at attempt

/-- An attempt is refused by a closed session only. -/
theorem of_closed (attempt : session.attempt = .closed) : session.closed = true := by
  unfold Session.attempt at attempt
  split at attempt
  · assumption
  · split at attempt <;> simp at attempt

/-- One more offset is in the buffer. -/
theorem length_buffer_accept (tidy : session.Tidy) (item : Acknowledged) :
    (session.accept item).buffer.length = session.buffer.length + 1 := by
  have taken := tidy.taken
  simp only [buffer, accept, List.length_drop, List.length_append, List.length_singleton]
  omega

/-- An offset that is accepted at once takes up free room. -/
theorem Sound.accept (sound : session.Sound) (attempt : session.attempt = .accepted)
    (item : Acknowledged) : Shift me [] session (session.accept item) := by
  obtain ⟨open_, room, waiting⟩ := sound.of_accepted attempt
  have length := length_buffer_accept sound.toTidy item
  have fits := sound.fits
  have taken := sound.taken
  unfold Session.room at room
  refine ⟨⟨⟨?_, ?_, sound.once, sound.shut⟩, ?_⟩, id, fun _ _ => id, fun _ _ there _ => there, ?_⟩
  · show session.taken ≤ (session.accepted ++ [item]).length
    rw [List.length_append]
    omega
  · show (session.accept item).buffer.length + session.granted.length ≤ session.capacity
    rw [length]
    omega
  · intro waits
    exact absurd waiting waits
  · intro other _ there
    simp [waiting] at there

/-- A task that finds no room gets in line. -/
theorem Sound.await (sound : session.Sound) (attempt : session.attempt = .full)
    (new : ¬ session.InLine me) : Shift me [] session (session.await me) := by
  obtain ⟨open_, room⟩ := of_full attempt
  have away : me ∉ session.waiting ∧ me ∉ session.granted := not_or.mp new
  refine ⟨⟨⟨sound.taken, sound.fits, ?_, ?_⟩, fun _ => room⟩, id, ?_, fun _ _ there _ => there, ?_⟩
  · show (session.waiting ++ [me] ++ session.granted).Nodup
    rw [List.append_assoc, List.nodup_append]
    obtain ⟨first, second, disjoint⟩ := List.nodup_append.mp sound.once
    refine ⟨first, List.nodup_cons.mpr ⟨away.2, second⟩, ?_⟩
    intro task waits entry there
    rcases List.mem_cons.mp there with rfl | granted
    · rintro rfl
      exact away.1 waits
    · exact disjoint task waits entry granted
  · intro closed
    exact absurd (open_.symm.trans closed) (by simp)
  · intro other differ there
    rcases there with waits | granted
    · rcases List.mem_append.mp waits with before | mine
      · exact .inl before
      · exact absurd (List.mem_singleton.mp mine) differ
    · exact .inr granted
  · intro other _ there
    exact .inr ⟨open_, .inl (List.mem_append_left _ there)⟩

/-- A task fills the room that it was granted. -/
theorem Sound.fill (sound : session.Sound) (granted : me ∈ session.granted) (offset : Int64) :
    Shift me [] session (session.fill me offset) ∧ ¬ (session.fill me offset).InLine me := by
  have left : session.closed = false := by
    by_cases closed : session.closed = true
    · simp [(sound.shut closed).2] at granted
    · exact Bool.eq_false_iff.mpr closed
  obtain ⟨first, second, disjoint⟩ := List.nodup_append.mp sound.once
  have shorter := List.length_erase_of_mem granted
  have some_ := List.length_pos_of_mem granted
  have length : (session.fill me offset).buffer.length = session.buffer.length + 1 := by
    have taken := sound.taken
    simp only [Session.fill, Session.accept, buffer, List.length_drop, List.length_append,
      List.length_singleton]
    omega
  have fits := sound.fits
  have taken := sound.taken
  have same : (session.fill me offset).granted = session.granted.erase me := rfl
  refine ⟨⟨⟨⟨?_, ?_, ?_, ?_⟩, ?_⟩, id, ?_, ?_, ?_⟩, ?_⟩
  · show session.taken ≤ (session.accepted ++ [_]).length
    rw [List.length_append]
    omega
  · show (session.fill me offset).buffer.length + (session.granted.erase me).length ≤
      session.capacity
    rw [length, shorter]
    omega
  · show (session.waiting ++ session.granted.erase me).Nodup
    refine List.nodup_append.mpr ⟨first, second.erase me, ?_⟩
    exact fun task waits entry there => disjoint task waits entry (List.mem_of_mem_erase there)
  · intro closed
    exact absurd (left.symm.trans closed) (by simp)
  · intro waits
    have busy := sound.busy waits
    unfold Session.room at busy ⊢
    rw [length, same, shorter]
    show session.capacity - (session.buffer.length + 1) - (session.granted.length - 1) = 0
    omega
  · intro other _ there
    exact there.imp id List.mem_of_mem_erase
  · intro other differ there _
    exact (List.mem_erase_of_ne differ).mpr there
  · intro other _ there
    exact .inr ⟨left, .inl there⟩
  · rintro (waits | still)
    · exact disjoint me waits me granted rfl
    · exact second.not_mem_erase still

/-- Granting free room to those in line leaves nobody waiting while there is room. -/
theorem Tidy.grant (tidy : session.Tidy) : session.grant.1.Sound := by
  have fits := tidy.fits
  have room : session.room = session.capacity - session.buffer.length - session.granted.length :=
    rfl
  have served : (session.waiting.take session.room).length =
      min session.room session.waiting.length := List.length_take
  have granted : session.grant.1.granted = session.granted ++ session.waiting.take session.room :=
    rfl
  have buffer : session.grant.1.buffer = session.buffer := rfl
  refine ⟨⟨tidy.taken, ?_, ?_, ?_⟩, ?_⟩
  · rw [buffer, granted, List.length_append]
    show session.buffer.length + (session.granted.length + _) ≤ session.capacity
    omega
  · show (session.waiting.drop session.room ++
      (session.granted ++ session.waiting.take session.room)).Nodup
    refine List.Perm.nodup ?_ tidy.once
    have before : session.waiting ++ session.granted = session.waiting.take session.room ++
        (session.waiting.drop session.room ++ session.granted) := by
      rw [← List.append_assoc, List.take_append_drop]
    have after : session.waiting.drop session.room ++
        (session.granted ++ session.waiting.take session.room) =
          session.waiting.drop session.room ++ session.granted ++
            session.waiting.take session.room := (List.append_assoc ..).symm
    rw [before, after]
    exact List.perm_append_comm
  · intro closed
    obtain ⟨waiting, none_⟩ := tidy.shut closed
    simp [Session.grant, waiting, none_]
  · intro waits
    have longer : session.room < session.waiting.length := by
      by_cases shorter : session.waiting.length ≤ session.room
      · exact absurd (List.drop_eq_nil_of_le shorter) waits
      · omega
    unfold Session.room
    rw [buffer, granted, List.length_append]
    show session.capacity - session.buffer.length - (session.granted.length + _) = 0
    omega

/-- Granting room turns nobody out of the line and nobody into it. -/
theorem inLine_grant : session.grant.1.InLine other ↔ session.InLine other := by
  have split : other ∈ session.waiting ↔
      other ∈ session.waiting.take session.room ∨ other ∈ session.waiting.drop session.room := by
    rw [← List.mem_append, List.take_append_drop]
  simp only [InLine, Session.grant, List.mem_append, split]
  constructor
  · rintro (later | earlier | now)
    · exact .inl (.inr later)
    · exact .inr earlier
    · exact .inl (.inl now)
  · rintro ((now | later) | earlier)
    · exact .inr (.inr now)
    · exact .inl later
    · exact .inr (.inl earlier)

/-- Whoever waits goes on to wait, or is granted room and named. -/
theorem mem_grant_of_waiting (waits : other ∈ session.waiting) :
    other ∈ session.grant.1.waiting ∨
      other ∈ session.grant.1.granted ∧ other ∈ session.grant.2 := by
  have split : other ∈ session.waiting.take session.room ++ session.waiting.drop session.room := by
    rw [List.take_append_drop]
    exact waits
  rcases List.mem_append.mp split with now | later
  · exact .inr ⟨List.mem_append_right _ now, now⟩
  · exact .inl later

/-- A session that a task has left is tidy before its room goes to others. -/
theorem Tidy.leave (tidy : session.Tidy) (me : TaskId) :
    ({ session with
      waiting := session.waiting.erase me
      granted := session.granted.erase me } : Session).Tidy := by
  obtain ⟨first, second, disjoint⟩ := List.nodup_append.mp tidy.once
  refine ⟨tidy.taken, ?_, ?_, ?_⟩
  · exact Nat.le_trans (Nat.add_le_add_left List.length_erase_le _) tidy.fits
  · refine List.nodup_append.mpr ⟨first.erase me, second.erase me, ?_⟩
    exact fun task waits entry there =>
      disjoint task (List.mem_of_mem_erase waits) entry (List.mem_of_mem_erase there)
  · intro closed
    obtain ⟨waiting, granted⟩ := tidy.shut closed
    simp [waiting, granted]

/-- A task that gives up leaves the line, and its room goes to the next one. -/
theorem Sound.withdraw (sound : session.Sound) (me : TaskId) :
    Shift me (session.withdraw me).2 session (session.withdraw me).1 ∧
      ¬ (session.withdraw me).1.InLine me := by
  obtain ⟨first, second, -⟩ := List.nodup_append.mp sound.once
  have tidy := sound.toTidy.leave me
  refine ⟨⟨tidy.grant, id, ?_, ?_, ?_⟩, ?_⟩
  · intro other _ there
    exact (inLine_grant.mp there).imp List.mem_of_mem_erase List.mem_of_mem_erase
  · intro other differ there _
    exact List.mem_append_left _ ((List.mem_erase_of_ne differ).mpr there)
  · intro other differ there
    have open_ : session.closed = false := by
      by_cases closed : session.closed = true
      · exact absurd (.inl there) (sound.not_inLine closed)
      · exact Bool.eq_false_iff.mpr closed
    exact .inr ⟨open_, mem_grant_of_waiting ((List.mem_erase_of_ne differ).mpr there)⟩
  · intro there
    rcases inLine_grant.mp there with waits | granted
    · exact first.not_mem_erase waits
    · exact second.not_mem_erase granted

/-- A session of which offsets were taken is tidy before the room goes to those in line. -/
theorem Tidy.drain (tidy : session.Tidy) (limit : Nat) :
    ({ session with
      taken := session.taken + (session.buffer.take limit).length } : Session).Tidy := by
  have most : (session.buffer.take limit).length ≤ session.buffer.length := by
    rw [List.length_take]
    omega
  have length : session.buffer.length = session.accepted.length - session.taken :=
    List.length_drop
  refine ⟨?_, ?_, tidy.once, tidy.shut⟩
  · have taken := tidy.taken
    show session.taken + (session.buffer.take limit).length ≤ session.accepted.length
    omega
  · have fits := tidy.fits
    show (session.accepted.drop (session.taken + (session.buffer.take limit).length)).length +
      session.granted.length ≤ session.capacity
    rw [List.length_drop]
    omega

/-- The receiver takes offsets, and the room goes to those in line. -/
theorem Sound.take (sound : session.Sound) (limit : Nat) (me : TaskId) :
    Shift me (session.take limit).2.2 session (session.take limit).2.1 ∧
      ((session.take limit).2.1.InLine me ↔ session.InLine me) := by
  have tidy := sound.toTidy.drain limit
  have same (other : TaskId) : (session.take limit).2.1.InLine other ↔ session.InLine other :=
    inLine_grant
  refine ⟨⟨tidy.grant, id, ?_, ?_, ?_⟩, same me⟩
  · intro other _ there
    exact (same other).mp there
  · intro other _ there _
    exact List.mem_append_left _ there
  · intro other _ there
    have open_ : session.closed = false := by
      by_cases closed : session.closed = true
      · exact absurd (.inl there) (sound.not_inLine closed)
      · exact Bool.eq_false_iff.mpr closed
    exact .inr ⟨open_, mem_grant_of_waiting there⟩

/-- A session closes, and everybody in line is turned away. -/
theorem Sound.close (sound : session.Sound) (me : TaskId) :
    Shift me session.close.2 session session.close.1 ∧ ¬ session.close.1.InLine me := by
  refine ⟨⟨⟨⟨sound.taken, ?_, List.Pairwise.nil, fun _ => ⟨rfl, rfl⟩⟩, ?_⟩, fun _ => rfl, ?_, ?_,
    ?_⟩, ?_⟩
  · exact Nat.le_trans (Nat.le_add_right _ _) sound.fits
  · exact fun waits => absurd rfl waits
  · rintro other _ (waits | granted)
    · exact absurd waits List.not_mem_nil
    · exact absurd granted List.not_mem_nil
  · exact fun other _ _ open_ => absurd open_ (by simp [Session.close])
  · exact fun other _ waits => .inl ⟨rfl, waits⟩
  · rintro (waits | granted)
    · exact absurd waits List.not_mem_nil
    · exact absurd granted List.not_mem_nil

end ClusterGateway.Session
