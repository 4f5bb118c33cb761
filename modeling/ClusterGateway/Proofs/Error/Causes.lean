import Mathlib.Data.List.Infix
import ClusterGateway.Error

/-!
# Causes below an error

Below an error stands at most one cause, and below that at most one more: another error, a fault
of the settings, or the layers of a foreign error one by one. The texts that an error lists are
those met on the way down. An error wrapped with the components that failed to start because of it
tells their names before its own text, and lists itself and its causes below the wrappers. Main
statement: `wrapped_keeps_cause`.
-/

namespace ClusterGateway

/-- What stands below an error: another error, a fault of the settings, or a layer of a foreign
error with the layers inside it. -/
inductive Cause where
  | error (error : Error)
  | fault (fault : SettingsFault)
  | layer (text : String) (inner : List String)

/-- The outermost of the layers of a foreign error. -/
def Cause.ofLayers? : List String → Option Cause
  | [] => none
  | text :: inner => some (.layer text inner)

/-- The cause right below an error. -/
def Error.source? : Error → Option Cause
  | .spawn _ source => some (.error source)
  | .settings fault => some (.fault fault)
  | .other root context => Cause.ofLayers? (Error.layers root context)
  | _ => none

namespace Cause

/-- Text of a cause. -/
def text : Cause → String
  | .error inner => inner.message
  | .fault inner => inner.text
  | .layer shown _ => shown

/-- The cause right below a cause. -/
def source? : Cause → Option Cause
  | .error inner => inner.source?
  | .fault _ => none
  | .layer _ inner => ofLayers? inner

/-- The texts met on the way down from a cause. -/
inductive Descends : Option Cause → List String → Prop
  | bottom : Descends none []
  | step (cause : Cause) {texts : List String} (below : Descends cause.source? texts) :
    Descends (some cause) (cause.text :: texts)

/-- There is one way down. -/
theorem Descends.unique {cause : Option Cause} {texts others : List String}
    (first : Descends cause texts) (second : Descends cause others) : texts = others := by
  induction first generalizing others with
  | bottom =>
    cases second
    rfl
  | step cause below ih =>
    cases second with
    | step _ below' => rw [ih below']

/-- The layers of a foreign error are met from the outermost to the root. -/
theorem descends_layers (texts : List String) : Descends (ofLayers? texts) texts := by
  induction texts with
  | nil => exact .bottom
  | cons text inner ih => exact .step (.layer text inner) ih

end Cause

namespace Error

/-- The texts that an error lists are met on the way down from it. -/
theorem descends_chain (error : Error) : Cause.Descends error.source? error.chain := by
  induction error with
  | spawn component source ih => exact .step (.error source) ih
  | settings fault => exact .step (.fault fault) .bottom
  | other root context => exact Cause.descends_layers (layers root context)
  | _ => exact .bottom

/-- An error lists exactly the texts met on the way down from it. -/
theorem descends_iff {error : Error} {texts : List String} :
    Cause.Descends error.source? texts ↔ texts = error.chain := by
  refine ⟨fun down => down.unique error.descends_chain, ?_⟩
  rintro rfl
  exact error.descends_chain

/-- An error with nothing below it. -/
def IsLeaf : Error → Prop
  | spawn .. => False
  | settings _ => False
  | other .. => False
  | _ => True

/-- An error lists nothing exactly if there is nothing below it. -/
theorem chain_eq_nil_iff {error : Error} : error.chain = [] ↔ error.IsLeaf := by
  cases error <;> simp [chain, layers, IsLeaf]

/-- What a wrapper puts before the text of its cause. -/
def spawning (component : String) : String := "failed to spawn " ++ component ++ ": "

/-- An error wrapped by components, the first one outermost. -/
def wrap (components : List String) (error : Error) : Error := components.foldr spawn error

variable {component : String} {components : List String} {error : Error}

/-- One wrapper more on the outside. -/
theorem wrap_cons : wrap (component :: components) error = spawn component (wrap components error) :=
  rfl

/-- The text of a wrapped error names the components and then is that of the error. -/
theorem message_wrap :
    (wrap components error).message = String.join (components.map spawning) ++ error.message := by
  induction components with
  | nil => exact String.empty_append.symm
  | cons component rest ih =>
    have shown : (spawn component (wrap rest error)).message =
        spawning component ++ (wrap rest error).message := rfl
    rw [wrap_cons, shown, ih, List.map_cons, String.join_cons, String.append_assoc]

/-- A wrapped error lists the errors inside its wrappers, from the outermost one on, and then what
the error lists. -/
theorem chain_wrap : (wrap components error).chain =
    (components.tails.tail.map fun inner => (wrap inner error).message) ++ error.chain := by
  induction components with
  | nil => rfl
  | cons component rest ih =>
    have more : (component :: rest).tails.tail = rest :: rest.tails.tail := by
      cases rest <;> rfl
    rw [wrap_cons, chain, ih, more, List.map_cons, List.cons_append]

/-- A wrapped error invites no request again. -/
theorem isRetriable_wrap : (wrap components error).isRetriable =
    (components.isEmpty && error.isRetriable) := by
  cases components <;> rfl

example : (wrap ["consumer", "admin"] (other "lost" ["inner", "outer"])).chain =
    ["failed to spawn admin: outer", "outer", "outer", "inner", "lost"] := by decide

/-- The text of an error wrapped by components is their names and then the text of the error. On the
way down from it are the texts of the errors inside the wrappers and then all that the error lists:
the layers of a foreign error, which is shown as the outermost one, the one fault of the settings,
and nothing exactly for an error with nothing below it. Only an error without wrappers may invite
the same request again. -/
theorem wrapped_keeps_cause (components : List String) (error : Error) :
    (wrap components error).message = String.join (components.map spawning) ++ error.message ∧
    (wrap components error).chain =
      (components.tails.tail.map fun inner => (wrap inner error).message) ++ error.chain ∧
    (∀ texts, Cause.Descends (wrap components error).source? texts ↔
      texts = (wrap components error).chain) ∧
    (∀ root context, (other root context).chain = context.reverse ++ [root] ∧
      (other root context).chain.head? = some (other root context).message) ∧
    (∀ fault, (settings fault).chain = [fault.text]) ∧
    (error.chain = [] ↔ error.IsLeaf) ∧
    (wrap components error).isRetriable = (components.isEmpty && error.isRetriable) :=
  ⟨message_wrap, chain_wrap, fun _ => descends_iff, fun root context => ⟨rfl, head_layers root context⟩,
    fun _ => rfl, chain_eq_nil_iff, isRetriable_wrap⟩

end Error

end ClusterGateway
