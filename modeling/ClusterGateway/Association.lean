/-!
# Entries by key

A list of entries in which a key is looked up from the front. Setting the value of a key
keeps the place of an earlier entry, or appends the entry; it leaves other keys alone.
-/

namespace ClusterGateway

variable {κ α : Type} [BEq κ]

/-- Entries with the value of a key set, in the place of an earlier one. -/
def assign {κ α : Type} [BEq κ] (key : κ) (value : α) : List (κ × α) → List (κ × α)
  | [] => [(key, value)]
  | (other, old) :: rest =>
    if key == other then (key, value) :: rest else (other, old) :: assign key value rest

/-- An entry is the one that was set, or it was there before. -/
theorem mem_assign {key : κ} {value : α} {entries : List (κ × α)} {entry : κ × α}
    (there : entry ∈ assign key value entries) : entry = (key, value) ∨ entry ∈ entries := by
  induction entries with
  | nil => exact .inl (List.mem_singleton.mp there)
  | cons first rest ih =>
    obtain ⟨other, old⟩ := first
    rw [assign] at there
    split at there
    · obtain here | later := List.mem_cons.mp there
      · exact .inl here
      · exact .inr (List.mem_cons_of_mem _ later)
    · obtain here | later := List.mem_cons.mp there
      · exact .inr (here ▸ List.mem_cons_self)
      · exact (ih later).imp_right (List.mem_cons_of_mem _)

variable [LawfulBEq κ]

/-- The value that was set for a key is found under it. -/
theorem lookup_assign_self (key : κ) (value : α) (entries : List (κ × α)) :
    (assign key value entries).lookup key = some value := by
  induction entries with
  | nil => simp [assign]
  | cons entry rest ih =>
    obtain ⟨other, old⟩ := entry
    cases same : key == other with
    | true => simp [assign, same]
    | false => simp [assign, same, List.lookup_cons, ih]

/-- Setting the value of one key leaves every other key alone. -/
theorem lookup_assign_of_ne {key other : κ} (value : α) (entries : List (κ × α))
    (differ : other ≠ key) : (assign key value entries).lookup other = entries.lookup other := by
  have apart : (other == key) = false := by simpa using differ
  induction entries with
  | nil => simp [assign, List.lookup_cons, apart]
  | cons entry rest ih =>
    obtain ⟨found, old⟩ := entry
    cases same : key == found with
    | true =>
      have equal : key = found := by simpa using same
      subst equal
      simp [assign, List.lookup_cons, apart]
    | false =>
      cases here : other == found <;> simp [assign, same, List.lookup_cons, here, ih]

/-- Keys after setting a value: the same ones where the key was there, one more otherwise. -/
theorem keys_assign (key : κ) (value : α) (entries : List (κ × α)) :
    (assign key value entries).map (·.1) =
      if (entries.lookup key).isSome then entries.map (·.1)
      else entries.map (·.1) ++ [key] := by
  induction entries with
  | nil => simp [assign]
  | cons entry rest ih =>
    obtain ⟨other, old⟩ := entry
    cases same : key == other with
    | true =>
      have equal : key = other := by simpa using same
      simp [assign, equal]
    | false =>
      simp only [assign, same, List.lookup_cons, List.map_cons, ih, Bool.false_eq_true, ↓reduceIte]
      split <;> simp

/-- A key is found where it stands among the keys. -/
theorem isSome_lookup_iff (key : κ) (entries : List (κ × α)) :
    (entries.lookup key).isSome = true ↔ key ∈ entries.map (·.1) := by
  induction entries with
  | nil => simp
  | cons entry rest ih =>
    obtain ⟨other, old⟩ := entry
    cases same : key == other with
    | true =>
      have equal : key = other := by simpa using same
      simp [equal]
    | false =>
      have differ : key ≠ other := by simpa using same
      simp only [List.lookup_cons, same, ih, List.map_cons, List.mem_cons, differ, false_or]

/-- Setting a value keeps keys distinct. -/
theorem nodup_keys_assign (key : κ) (value : α) {entries : List (κ × α)}
    (distinct : (entries.map (·.1)).Nodup) : ((assign key value entries).map (·.1)).Nodup := by
  rw [keys_assign]
  split
  · exact distinct
  · rename_i absent
    rw [isSome_lookup_iff] at absent
    refine List.nodup_append.mpr ⟨distinct, List.pairwise_singleton _ _, ?_⟩
    intro earlier there later here
    rw [List.mem_singleton.mp here]
    intro same
    exact absent (same ▸ there)

/-- The entry of a new key comes last. -/
theorem assign_of_not_mem {key : κ} (value : α) {entries : List (κ × α)}
    (absent : key ∉ entries.map (·.1)) : assign key value entries = entries ++ [(key, value)] := by
  induction entries with
  | nil => rfl
  | cons entry rest ih =>
    obtain ⟨other, old⟩ := entry
    rw [List.map_cons, List.mem_cons, not_or] at absent
    have apart : (key == other) = false := by simpa using absent.1
    simp [assign, apart, ih absent.2]

/-- The key that was set is there, and so are the keys from before. -/
theorem mem_keys_assign {key other : κ} (value : α) {entries : List (κ × α)}
    (there : other = key ∨ other ∈ entries.map (·.1)) :
    other ∈ (assign key value entries).map (·.1) := by
  rw [keys_assign]
  split
  · rename_i present
    obtain rfl | old := there
    · exact (isSome_lookup_iff other entries).mp present
    · exact old
  · obtain rfl | old := there
    · exact List.mem_append_right _ (List.mem_singleton.mpr rfl)
    · exact List.mem_append_left _ old

/-- Where keys are distinct, the value of an entry is found under its key. -/
theorem lookup_of_mem {entries : List (κ × α)} (distinct : (entries.map (·.1)).Nodup) {key : κ}
    {value : α} (member : (key, value) ∈ entries) : entries.lookup key = some value := by
  obtain ⟨early, late, rfl⟩ := List.append_of_mem member
  refine List.lookup_eq_some_iff.mpr ⟨early, late, rfl, fun entry there => ?_⟩
  rw [List.map_append] at distinct
  have apart := (List.nodup_append.mp distinct).2.2 entry.1 (List.mem_map_of_mem there) key
    List.mem_cons_self
  simpa using apart.symm

end ClusterGateway
