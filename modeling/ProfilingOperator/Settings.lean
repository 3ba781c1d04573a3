/-!
# Settings of the controllers

The namespace the operator keeps its registry and its collector in, and what tokens for the collector are issued for.
-/

namespace ProfilingOperator

/-- The settings of the controllers. -/
structure Settings where
  /-- The namespace whose registry is looked into first, and where the collector is. -/
  system : String
  /-- The service account collector tokens are issued for. -/
  account : String
  /-- The audience of collector tokens. -/
  audience : String
  deriving DecidableEq, Repr

namespace Settings

/-- The settings nothing else was asked for. -/
def usual : Settings :=
  ⟨"toe-system", "toe-collector", "toe-sdk-collector"⟩

/-- The name the operator tells events under and owns definitions by. -/
def controller : String := "powertool-controller"

/-- The name the status of registry entries is written under. -/
def registrar : String := "powertool-config-controller"

end Settings

end ProfilingOperator
