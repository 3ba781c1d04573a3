import ProfilingOperator.Pass.Basic
import ProfilingOperator.Selector.Compiled

/-!
# Resolving targets

The pods of a job are those of its namespace whose labels its selector accepts, in the order the platform lists
them.  The platform filters by the query; the labels are looked at once more.  A job without a selector has no
targets, and asks for no list.

    resolve_none : resolve space none = .done []
-/

namespace ProfilingOperator.Targets

/-- The target pods of a selector. -/
def resolve (space : String) : Option Selector → Pass (List Pod)
  | none => .done []
  | some s =>
    match Selector.compile s with
    | .error f => .fail (.invalidSelector f.message)
    | .ok compiled => do
      let pods ← Pass.listPods space compiled.query
      return pods.filter fun p => compiled.accepts p.labels

/-! ## Lemmas -/

@[simp] theorem resolve_none (space : String) : resolve space none = .done [] := rfl

end ProfilingOperator.Targets
