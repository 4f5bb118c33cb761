import ClusterGateway.Proofs.Text.Marks
import ClusterGateway.Routing
import ClusterGateway.TaskPath

/-!
# Labels joined by slashes

A label is split at its slashes. The partition of a routing key is always the last piece; where
the group ends and the topic begins can be told when one of them has no slash. A task path whose
names have no slash is split into exactly these names. Main statement: `labels_unambiguous`.
-/

namespace ClusterGateway

open Text (IsFree)

attribute [ext] RoutingKey

namespace RoutingKey

variable {first second : RoutingKey}

/-- The pieces of a key are those of its group, those of its topic, and its partition. -/
theorem split_text (key : RoutingKey) : Text.split '/' key.text =
    Text.split '/' key.group ++ Text.split '/' key.topic ++ [toString key.partition.toInt] := by
  have number : IsFree '/' (toString key.partition.toInt) :=
    Text.isFree_int (by decide) (by decide) _
  rw [text, Text.split_join rfl, Text.split_join rfl, Text.split_of_free number]

/-- Two keys are shown alike exactly when they have the same partition, and the pieces of their
groups and topics are the same in order. -/
theorem text_eq_iff : first.text = second.text ↔ first.partition = second.partition ∧
    Text.split '/' first.group ++ Text.split '/' first.topic =
      Text.split '/' second.group ++ Text.split '/' second.topic := by
  rw [← Text.split_inj '/', split_text, split_text, List.append_singleton_inj,
    Int.toString_eq_repr, Int.toString_eq_repr, Text.repr_int_inj, Int32.toInt_inj, and_comm]

/-- Keys whose topics have no slash are told apart by their texts. -/
theorem text_inj_of_topics (left : IsFree '/' first.topic) (right : IsFree '/' second.topic)
    (same : first.text = second.text) : first = second := by
  obtain ⟨partition, pieces⟩ := text_eq_iff.mp same
  rw [Text.split_of_free left, Text.split_of_free right] at pieces
  obtain ⟨groups, topic⟩ := List.append_singleton_inj.mp pieces
  exact RoutingKey.ext ((Text.split_inj '/').mp groups) topic partition

/-- Keys whose groups have no slash are told apart by their texts. -/
theorem text_inj_of_groups (left : IsFree '/' first.group) (right : IsFree '/' second.group)
    (same : first.text = second.text) : first = second := by
  obtain ⟨partition, pieces⟩ := text_eq_iff.mp same
  rw [Text.split_of_free left, Text.split_of_free right] at pieces
  obtain ⟨group, topics⟩ := List.cons_eq_cons.mp pieces
  exact RoutingKey.ext group ((Text.split_inj '/').mp topics) partition

-- a slash in the topic of one key and in the group of the other may hide where both end
example : text ⟨"a/b", "c", 0⟩ = text ⟨"a", "b/c", 0⟩ := by decide

end RoutingKey

namespace TaskPath

variable {root other : String} {names others : List String}

/-- The pieces of a path below a task are those of the task and the names on the way down. -/
theorem split_descend (start : TaskPath) (free : ∀ name ∈ names, IsFree '/' name) :
    Text.split '/' (start.descend names).text = Text.split '/' start.text ++ names := by
  induction names generalizing start with
  | nil => exact (List.append_nil _).symm
  | cons name rest ih =>
    have one : Text.split '/' (start.child name).text = Text.split '/' start.text ++ [name] := by
      rw [child, Text.split_join rfl, Text.split_of_free (free name List.mem_cons_self)]
    have more := ih (start.child name) fun later there => free later (List.mem_cons_of_mem _ there)
    rw [one, List.append_assoc, List.singleton_append] at more
    exact more

/-- The pieces of a path below a root are the root and the names on the way down. -/
theorem split_descend_root (plain : IsFree '/' root) (free : ∀ name ∈ names, IsFree '/' name) :
    Text.split '/' ((TaskPath.root root).descend names).text = root :: names := by
  rw [split_descend _ free]
  exact congrArg (· ++ names) (Text.split_of_free plain)

/-- Two paths of names without slashes are the same exactly when all names on the way are. -/
theorem descend_root_inj (plain : IsFree '/' root) (free : ∀ name ∈ names, IsFree '/' name)
    (plain' : IsFree '/' other) (free' : ∀ name ∈ others, IsFree '/' name) :
    (TaskPath.root root).descend names = (TaskPath.root other).descend others ↔
      root = other ∧ names = others := by
  constructor
  · intro same
    have pieces := congrArg (fun path => Text.split '/' path.text) same
    rw [split_descend_root plain free, split_descend_root plain' free'] at pieces
    exact List.cons_eq_cons.mp pieces
  · rintro ⟨rfl, rfl⟩
    rfl

end TaskPath

/-- Routing keys are shown alike only if they are the same, if neither topic has a slash or neither
group has one. A path below a root through names without slashes, empty ones too, is split into the
pieces of the root and these names, so into the root and these names if the root has no slash
either; then two paths are the same exactly when their roots and their names are. -/
theorem labels_unambiguous :
    (∀ first second : RoutingKey,
      (IsFree '/' first.topic ∧ IsFree '/' second.topic) ∨
        (IsFree '/' first.group ∧ IsFree '/' second.group) →
      (first.text = second.text ↔ first = second)) ∧
    (∀ (root : String) (names : List String), (∀ name ∈ names, IsFree '/' name) →
      Text.split '/' ((TaskPath.root root).descend names).text = Text.split '/' root ++ names ∧
      (IsFree '/' root →
        Text.split '/' ((TaskPath.root root).descend names).text = root :: names)) ∧
    (∀ (root other : String) (names others : List String),
      IsFree '/' root → (∀ name ∈ names, IsFree '/' name) →
      IsFree '/' other → (∀ name ∈ others, IsFree '/' name) →
      ((TaskPath.root root).descend names = (TaskPath.root other).descend others ↔
        root = other ∧ names = others)) := by
  refine ⟨?_, ?_, ?_⟩
  · intro first second free
    refine ⟨fun same => ?_, fun same => congrArg RoutingKey.text same⟩
    obtain ⟨left, right⟩ | ⟨left, right⟩ := free
    · exact RoutingKey.text_inj_of_topics left right same
    · exact RoutingKey.text_inj_of_groups left right same
  · intro root names free
    exact ⟨TaskPath.split_descend _ free, fun plain => TaskPath.split_descend_root plain free⟩
  · intro root other names others plain free plain' free'
    exact TaskPath.descend_root_inj plain free plain' free'

/-- Keys with slashes in their topics, keys with slashes in their groups, and paths through an empty
name and through none. -/
theorem labels_unambiguous_slashes :
    (RoutingKey.text ⟨"", "a/-1", -1⟩ = RoutingKey.text ⟨"", "a", -1⟩ ↔
      (⟨"", "a/-1", -1⟩ : RoutingKey) = ⟨"", "a", -1⟩) ∧
    (RoutingKey.text ⟨"a/b", "", 7⟩ = RoutingKey.text ⟨"a", "b", 7⟩ ↔
      (⟨"a/b", "", 7⟩ : RoutingKey) = ⟨"a", "b", 7⟩) ∧
    Text.split '/' ((TaskPath.root "proxy").descend ["", "ack"]).text = ["proxy", "", "ack"] ∧
    ((TaskPath.root "proxy").descend [""] = (TaskPath.root "proxy").descend [] ↔
      "proxy" = "proxy" ∧ [""] = []) := by
  obtain ⟨keys, paths, same⟩ := labels_unambiguous
  exact ⟨keys _ _ (.inr (by decide)), keys _ _ (.inl (by decide)),
    (paths _ _ (by decide)).2 (by decide),
    same _ _ _ _ (by decide) (by decide) (by decide) (by decide)⟩

end ClusterGateway
