import ProfilingOperator.Pass.Basic
import ProfilingOperator.Requeue
import ProfilingOperator.Tool.Validation

/-!
# A pass over a registry entry

An entry is validated, its status stored, and looked at again after some minutes.  An entry that is being deleted is
left alone.
-/

namespace ProfilingOperator.Pass

/-- A pass over a registry entry as it was seen to change. -/
def validate (now : Stamp) (tool : Tool) : Pass Next :=
  match tool.metadata.space with
  | none => .fail .missingNamespace
  | some space =>
    if tool.metadata.isDeleting then .done .onChange
    else do
      patchToolStatus space tool.name (tool.validated now)
      return .after Requeue.revalidation

end ProfilingOperator.Pass
