import ProfilingOperator.Metadata

/-!
# Events

What a controller tells the users of an object: that something normal or worth a warning happened, with a reason, an
action and a note.
-/

namespace ProfilingOperator

/-- Whether an event is to worry about. -/
inductive Event.Kind where
  | normal
  | warning
  deriving DecidableEq, Repr

/-- An event about an object. -/
structure Event where
  kind : Event.Kind
  reason : String
  action : String
  note : Option String
  regarding : Reference
  deriving DecidableEq

namespace Event

def Kind.word : Kind → String
  | .normal => "Normal"
  | .warning => "Warning"

/-- The action of the loop over an object. -/
def reconcile : String := "Reconcile"

/-- The action of adding a container. -/
def inject : String := "Inject"

/-- Whether two events tell of the same thing; their notes may differ. -/
def sameMatter (a b : Event) : Bool :=
  a.kind = b.kind && a.action = b.action && a.reason = b.reason && a.regarding = b.regarding

end Event

end ProfilingOperator
