import ProfilingOperator.Failure
import ProfilingOperator.Text.Blank
import ProfilingOperator.Tool.Basic

/-!
# Validating registry entries

An entry is valid when its name and its image are not blank.  Validation sets the phase, the time and the condition
`Ready`; everything else of the status stays.

    fault?_eq_none_iff : t.fault? r = none ↔ name and image have a scalar that is not blank
-/

namespace ProfilingOperator.Tool

/-- What is wrong with an entry that goes by a name, if anything is. -/
def Spec.fault? (t : Spec) (resource : String) : Option Failure :=
  if Text.isBlankText t.name then
    some (.validation resource "tool name must not be empty" (some "spec.name"))
  else if Text.isBlankText t.image then
    some (.validation resource "image must not be empty" (some "spec.image"))
  else none

/-- The kind of the condition that tells the outcome. -/
def readyCondition : String := "Ready"

/-- The status an entry has after validation at a time. -/
def validated (t : Tool) (now : Stamp) : Status :=
  let s := t.status.getD .initial
  match t.spec.fault? t.name with
  | none =>
    ⟨some .ready, some now, Condition.record
      ⟨readyCondition, .holds, "ConfigurationValid", "PowerToolConfig is valid and ready for use", now⟩ s.conditions⟩
  | some f =>
    ⟨some .invalid, some now, Condition.record
      ⟨readyCondition, .fails, "InvalidConfiguration", f.message, now⟩ s.conditions⟩

/-! ## Lemmas -/

theorem Spec.fault?_eq_none_iff {t : Spec} {resource : String} :
    t.fault? resource = none ↔ Text.isBlankText t.name = false ∧ Text.isBlankText t.image = false := by
  unfold fault?
  cases Text.isBlankText t.name <;> cases Text.isBlankText t.image <;> simp

end ProfilingOperator.Tool
