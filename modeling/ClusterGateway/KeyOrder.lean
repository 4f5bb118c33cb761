/-!
# Entries in the order of their keys

Entries are put in ascending order of their text keys; entries with equal keys keep
their order. Sorting loses and adds nothing, and its result ascends.
-/

namespace ClusterGateway.KeyOrder

variable {α : Type}

/-- Puts an entry before the first one with a greater key. -/
def insert (entry : String × α) : List (String × α) → List (String × α)
  | [] => [entry]
  | other :: rest =>
    if entry.1 < other.1 then entry :: other :: rest else other :: insert entry rest

/-- Entries in ascending order of their keys. -/
def sort (entries : List (String × α)) : List (String × α) :=
  entries.foldl (fun sorted entry => insert entry sorted) []

/-- No key is greater than a later one. -/
def Ascending (entries : List (String × α)) : Prop :=
  entries.Pairwise fun earlier later => earlier.1 ≤ later.1

/-- Inserting an entry adds it and nothing else. -/
theorem insert_perm (entry : String × α) (entries : List (String × α)) :
    (insert entry entries).Perm (entry :: entries) := by
  induction entries with
  | nil => exact .refl _
  | cons other rest ih =>
    unfold insert
    split
    · exact .refl _
    · exact (ih.cons other).trans (.swap entry other rest)

/-- Sorting from a sorted start keeps all entries of both. -/
theorem foldl_insert_perm (entries start : List (String × α)) :
    (entries.foldl (fun sorted entry => insert entry sorted) start).Perm (start ++ entries) := by
  induction entries generalizing start with
  | nil => simp
  | cons entry rest ih =>
    refine (ih (insert entry start)).trans ?_
    refine ((insert_perm entry start).append_right rest).trans ?_
    simpa using (@List.perm_middle _ entry start rest).symm

/-- Sorting loses and adds nothing. -/
theorem sort_perm (entries : List (String × α)) : (sort entries).Perm entries := by
  simpa [sort] using foldl_insert_perm entries []

/-- Inserting keeps entries in order. -/
theorem ascending_insert (entry : String × α) {entries : List (String × α)}
    (ordered : Ascending entries) : Ascending (insert entry entries) := by
  induction entries with
  | nil => exact List.pairwise_singleton _ _
  | cons other rest ih =>
    have parts := List.pairwise_cons.mp ordered
    unfold insert
    split
    · rename_i smaller
      refine List.pairwise_cons.mpr ⟨?_, ordered⟩
      intro later there
      have least : entry.1 ≤ other.1 := Std.le_of_lt smaller
      cases List.mem_cons.mp there with
      | inl same => rw [same]; exact least
      | inr beyond => exact String.le_trans least (parts.1 later beyond)
    · rename_i notSmaller
      refine List.pairwise_cons.mpr ⟨?_, ih parts.2⟩
      intro later there
      cases List.mem_cons.mp ((insert_perm entry rest).mem_iff.mp there) with
      | inl same => rw [same]; exact String.not_lt.mp notSmaller
      | inr beyond => exact parts.1 later beyond

/-- Sorting from an ordered start ends in order. -/
theorem ascending_foldl_insert (entries : List (String × α)) {start : List (String × α)}
    (ordered : Ascending start) :
    Ascending (entries.foldl (fun sorted entry => insert entry sorted) start) := by
  induction entries generalizing start with
  | nil => exact ordered
  | cons entry rest ih => exact ih (ascending_insert entry ordered)

/-- The keys of a sorted list ascend. -/
theorem ascending_sort (entries : List (String × α)) : Ascending (sort entries) :=
  ascending_foldl_insert entries List.Pairwise.nil

/-- Texts in ascending order. -/
def sortTexts (texts : List String) : List String :=
  (sort (texts.map fun text => (text, ()))).map (·.1)

end ClusterGateway.KeyOrder
