import Mathlib.Data.List.Induction
import Mathlib.Data.List.Sort
import Mathlib.Data.String.Basic
import ClusterGateway.Logging.Filter

/-!
# What a filter gathers

A filter that is put together from directives keeps the last one for each target, longer targets
first, and the most verbose level that any of them had. This leaves no choice: the directives
determine the filter. Main statement: `LogFilter.gathers_iff`.
-/

namespace ClusterGateway

namespace Directive

variable {first second third : Directive}

/-- Directives with targets stand by the size of the target and then by its text. -/
theorem before_iff {left right : String} (named : first.target = some left)
    (named' : second.target = some right) : first.before second = true ↔
      right.utf8ByteSize < left.utf8ByteSize ∨
        (left.utf8ByteSize = right.utf8ByteSize ∧ right < left) := by
  simp [before, named, named']

/-- No directive stands before one of its own target. -/
theorem not_before_of_same (same : first.target = second.target) : ¬ first.before second = true := by
  cases named : first.target with
  | none => simp [before, named]
  | some target =>
    rw [before_iff named (same ▸ named)]
    simp

/-- What stands before a directive stands before all that the directive stands before. -/
theorem before_trans (early : first.before second = true) (late : second.before third = true) :
    first.before third = true := by
  cases left : first.target with
  | none => simp [before, left] at early
  | some target =>
    cases middle : second.target with
    | none => simp [before, middle] at late
    | some between =>
      cases right : third.target with
      | none => simp [before, left, right]
      | some other =>
        rw [before_iff left middle] at early
        rw [before_iff middle right] at late
        rw [before_iff left right]
        obtain longer | ⟨even, greater⟩ := early
        · exact .inl (by omega)
        · obtain longer | ⟨even', greater'⟩ := late
          · exact .inl (by omega)
          · exact .inr ⟨even.trans even', String.lt_trans greater' greater⟩

/-- Of two directives with different targets one stands before the other. -/
theorem before_or_before (apart : first.target ≠ second.target) :
    first.before second = true ∨ second.before first = true := by
  cases left : first.target with
  | none =>
    cases right : second.target with
    | none => exact absurd (left.trans right.symm) apart
    | some other => exact .inr (by simp [before, left, right])
  | some target =>
    cases right : second.target with
    | none => exact .inl (by simp [before, left, right])
    | some other =>
      rw [before_iff left right, before_iff right left]
      have differ : target ≠ other := by
        rintro rfl
        exact apart (left.trans right.symm)
      obtain shorter | even | longer := Nat.lt_trichotomy target.utf8ByteSize other.utf8ByteSize
      · exact .inr (.inl shorter)
      · obtain less | greater := lt_or_gt_of_ne differ
        · exact .inr (.inr ⟨even.symm, less⟩)
        · exact .inl (.inr ⟨even, greater⟩)
      · exact .inl (.inl longer)

/-- A directive prevails among others if none of the later ones has its target. -/
def Prevails (directive : Directive) (directives : List Directive) : Prop :=
  ∃ earlier later, directives = earlier ++ directive :: later ∧
    ∀ other ∈ later, other.target ≠ directive.target

/-- The last directive prevails, and over those of its target. -/
theorem prevails_append_singleton {directive last : Directive} {directives : List Directive} :
    directive.Prevails (directives ++ [last]) ↔
      directive = last ∨ directive.Prevails directives ∧ directive.target ≠ last.target := by
  constructor
  · rintro ⟨earlier, later, whole, others⟩
    obtain rfl | ⟨more, final, rfl⟩ := List.eq_nil_or_concat' later
    · exact .inl (List.append_singleton_inj.mp whole).2.symm
    · rw [← List.cons_append, ← List.append_assoc] at whole
      obtain ⟨rfl, rfl⟩ := List.append_singleton_inj.mp whole
      refine .inr ⟨⟨earlier, more, rfl, fun other there => others other ?_⟩, ?_⟩
      · exact List.mem_append_left _ there
      · exact (others last (by simp)).symm
  · rintro (rfl | ⟨⟨earlier, later, rfl, others⟩, apart⟩)
    · exact ⟨directives, [], rfl, by simp⟩
    · refine ⟨earlier, later ++ [last], by simp, fun other there => ?_⟩
      obtain inside | final := List.mem_append.mp there
      · exact others other inside
      · rw [List.mem_singleton.mp final]
        exact apart.symm

end Directive

namespace LevelFilter

/-- The more verbose of two levels has the greater rank. -/
theorem rank_max (left right : LevelFilter) :
    (left.max right).rank = Nat.max left.rank right.rank := by
  cases left <;> cases right <;> rfl

/-- Levels are told apart by their ranks. -/
theorem rank_inj {left right : LevelFilter} : left.rank = right.rank ↔ left = right := by
  cases left <;> cases right <;> decide

/-- The more verbose of two levels is one of them. -/
theorem max_eq_or (left right : LevelFilter) : left.max right = left ∨ left.max right = right := by
  rw [max]
  split
  · exact .inr rfl
  · exact .inl rfl

end LevelFilter

namespace LogFilter

variable {directive other : Directive} {directives : List Directive} {filter : LogFilter}

/-- The order in which a filter has its directives; no two of one target are in it. -/
abbrev Ordered (directives : List Directive) : Prop :=
  directives.Pairwise fun first second => first.before second = true

/-- Where a directive stands before all others, none of them stands before it. -/
theorem filter_of_front (front : ∀ other ∈ directives, directive.before other = true) :
    directives.filter (·.before directive) = [] ∧
      directives.filter (directive.before ·) = directives := by
  refine ⟨List.filter_eq_nil_iff.mpr fun other there late => ?_, List.filter_eq_self.mpr front⟩
  exact Directive.not_before_of_same rfl (Directive.before_trans (front other there) late)

/-- A directive is put between those that stand before it and those that it stands before; the one
with its target goes. -/
theorem insert_eq (ordered : Ordered directives) : insert directive directives =
    directives.filter (·.before directive) ++
      directive :: directives.filter (directive.before ·) := by
  induction directives with
  | nil => rfl
  | cons head rest ih =>
    obtain ⟨heads, ordered⟩ := List.pairwise_cons.mp ordered
    rw [insert]
    split
    · rename_i same
      have same : directive.target = head.target := beq_iff_eq.mp same
      have front : ∀ other ∈ rest, directive.before other = true := by
        intro other there
        rw [Directive.before, same, ← Directive.before]
        exact heads other there
      obtain ⟨early, late⟩ := filter_of_front front
      have neither := Directive.not_before_of_same same
      have nor := Directive.not_before_of_same same.symm
      simp [neither, nor, early, late]
    · rename_i differ
      have differ : directive.target ≠ head.target := fun equal => differ (beq_iff_eq.mpr equal)
      split
      · rename_i first
        have front : ∀ other ∈ head :: rest, directive.before other = true := by
          intro other there
          obtain rfl | there := List.mem_cons.mp there
          · exact first
          · exact Directive.before_trans first (heads other there)
        obtain ⟨early, late⟩ := filter_of_front front
        rw [early, late, List.nil_append]
      · rename_i later
        have first := (Directive.before_or_before differ).resolve_left later
        simp [ih ordered, first, later]

/-- A directive takes the place of the one with its target. -/
theorem mem_insert_iff (ordered : Ordered directives) : other ∈ insert directive directives ↔
    other = directive ∨ other ∈ directives ∧ other.target ≠ directive.target := by
  have apart : other.target ≠ directive.target ↔
      other.before directive = true ∨ directive.before other = true := by
    refine ⟨Directive.before_or_before, ?_⟩
    rintro (early | late) same
    · exact Directive.not_before_of_same same early
    · exact Directive.not_before_of_same same.symm late
  rw [insert_eq ordered, List.mem_append, List.mem_cons, List.mem_filter, List.mem_filter, apart,
    and_or_left, or_left_comm]

/-- A directive is put where it keeps the order. -/
theorem ordered_insert (ordered : Ordered directives) : Ordered (insert directive directives) := by
  rw [insert_eq ordered]
  refine List.pairwise_append.mpr ⟨ordered.filter _, List.pairwise_cons.mpr ⟨?_, ordered.filter _⟩, ?_⟩
  · intro other there
    exact (List.mem_filter.mp there).2
  · intro first early second there
    have early := (List.mem_filter.mp early).2
    obtain rfl | late := List.mem_cons.mp there
    · exact early
    · exact Directive.before_trans early (List.mem_filter.mp late).2

/-- A filter gathers directives: it has those that prevail, in order, and the most verbose level of
all. -/
structure Gathers (directives : List Directive) (filter : LogFilter) : Prop where
  members : ∀ directive, directive ∈ filter.directives ↔ directive.Prevails directives
  ordered : Ordered filter.directives
  above : ∀ directive ∈ directives, directive.level.rank ≤ filter.maxLevel.rank
  reached : filter.maxLevel = .off ∨ ∃ directive ∈ directives, directive.level = filter.maxLevel

/-- One directive more. -/
theorem Gathers.add (gathers : Gathers directives filter) (last : Directive) :
    Gathers (directives ++ [last]) (filter.add last) where
  members := by
    intro directive
    rw [Directive.prevails_append_singleton, ← gathers.members]
    exact mem_insert_iff gathers.ordered
  ordered := ordered_insert gathers.ordered
  above := by
    intro directive there
    have greater : (filter.add last).maxLevel.rank =
        Nat.max filter.maxLevel.rank last.level.rank := LevelFilter.rank_max _ _
    rw [greater]
    obtain inside | final := List.mem_append.mp there
    · exact Nat.le_trans (gathers.above directive inside) (Nat.le_max_left _ _)
    · rw [List.mem_singleton.mp final]
      exact Nat.le_max_right _ _
  reached := by
    have either : (filter.add last).maxLevel = filter.maxLevel ∨
        (filter.add last).maxLevel = last.level := LevelFilter.max_eq_or _ _
    obtain same | own := either
    · rw [same]
      obtain off | ⟨directive, there, level⟩ := gathers.reached
      · exact .inl off
      · exact .inr ⟨directive, List.mem_append_left _ there, level⟩
    · exact .inr ⟨last, by simp, own.symm⟩

/-- The filter of directives gathers them. -/
theorem gathers_ofDirectives (directives : List Directive) :
    Gathers directives (ofDirectives directives) := by
  -- a filter adds the last directive last
  induction directives using List.reverseRecOn with
  | nil =>
    refine ⟨fun directive => ?_, List.Pairwise.nil, by simp, .inl rfl⟩
    refine ⟨fun there => absurd there List.not_mem_nil, ?_⟩
    rintro ⟨earlier, later, whole, -⟩
    simp at whole
  | append_singleton directives last ih =>
    have whole : ofDirectives (directives ++ [last]) = (ofDirectives directives).add last :=
      List.foldl_append
    rw [whole]
    exact ih.add last

/-- No two filters gather the same directives. -/
theorem Gathers.unique {first second : LogFilter} (one : Gathers directives first)
    (two : Gathers directives second) : first = second := by
  -- both lists are in the one order, so the same members stand in the same places
  have irreflexive : Std.Irrefl fun first second : Directive => first.before second = true :=
    ⟨fun _ => Directive.not_before_of_same rfl⟩
  have antisymmetric : Std.Antisymm fun first second : Directive => first.before second = true :=
    ⟨fun _ _ early late => absurd (Directive.before_trans early late) (irreflexive.irrefl _)⟩
  have listed : first.directives = second.directives :=
    one.ordered.eq_of_mem_iff two.ordered fun directive =>
      (one.members directive).trans (two.members directive).symm
  have bounded {left right : LogFilter} (below : Gathers directives left)
      (above : Gathers directives right) : left.maxLevel.rank ≤ right.maxLevel.rank := by
    obtain off | ⟨directive, there, level⟩ := below.reached
    · rw [off]
      exact Nat.zero_le _
    · rw [← level]
      exact above.above directive there
  have level : first.maxLevel = second.maxLevel :=
    LevelFilter.rank_inj.mp (Nat.le_antisymm (bounded one two) (bounded two one))
  cases first
  cases second
  exact congrArg₂ LogFilter.mk listed level

/-- Directives are gathered by one filter, which is put together from them. -/
theorem gathers_iff : Gathers directives filter ↔ filter = ofDirectives directives := by
  refine ⟨fun gathers => gathers.unique (gathers_ofDirectives directives), ?_⟩
  rintro rfl
  exact gathers_ofDirectives directives

end LogFilter

end ClusterGateway
