/-!
# Task paths

A background task is named by the path that leads to it: the name of the root and the
names of the children below it, joined by slashes. Two tasks are the same when their
paths are.
-/

namespace ClusterGateway

/-- The path of a task. -/
structure TaskPath where
  text : String
deriving Repr, DecidableEq

namespace TaskPath

/-- The path of a root task is its name. -/
def root (name : String) : TaskPath := ⟨name⟩

/-- The path of a child of a task. -/
def child (parent : TaskPath) (name : String) : TaskPath := ⟨parent.text ++ "/" ++ name⟩

/-- The path below a root through a list of children. -/
def descend (start : TaskPath) (names : List String) : TaskPath := names.foldl child start

/-- One more child at the end of a list is one more step down. -/
theorem descend_append_singleton (start : TaskPath) (names : List String) (name : String) :
    start.descend (names ++ [name]) = (start.descend names).child name := by
  simp [descend]

end TaskPath

end ClusterGateway
