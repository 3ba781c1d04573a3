import ProfilingOperator.Job.Basic

/-!
# When a job is looked at again

A pass ends by asking for the next one after some seconds, or only when the job changes.
-/

namespace ProfilingOperator

/-- When the next pass is due. -/
inductive Next where
  /-- When the object changes. -/
  | onChange
  /-- After some seconds. -/
  | after (seconds : Nat)
  deriving DecidableEq, Repr

namespace Requeue

/-- Seconds between passes while containers run. -/
def running : Nat := 5

/-- Seconds between passes while a job is set up. -/
def settingUp : Nat := 15

/-- Seconds between passes over a job that is done with. -/
def finished : Nat := 300

/-- Seconds until a conflict is looked at again. -/
def conflict : Nat := 60

/-- Seconds until a failed pass over a job is tried again. -/
def failure : Nat := 5

/-- Seconds between validations of a registry entry. -/
def revalidation : Nat := 300

/-- Seconds until a failed pass over a registry entry is tried again. -/
def validationFailure : Nat := 30

/-- Seconds until the next pass over a job in a phase. -/
def interval : Option Job.Phase → Nat
  | some .running => running
  | some .completed | some .failed => finished
  | some .pending | some .conflicted | none => settingUp

end Requeue

end ProfilingOperator
