import ProfilingOperator.Metadata

/-!
# Resources

Amounts of processor and memory, as a tool asks for them and as a job overrides them.  What is laid over wins
amount by amount; a container carries only the amounts that are set.

    overlay_assoc : (a.overlay b).overlay c = a.overlay (b.overlay c)
-/

namespace ProfilingOperator

/-- Amounts of processor and memory. -/
structure Amounts where
  cpu : Option String
  memory : Option String
  deriving DecidableEq

/-- What is requested and what is the limit. -/
structure Resources where
  requests : Option Amounts
  limits : Option Amounts
  deriving DecidableEq

/-- Amounts by name, as a container carries them. -/
structure Requirements where
  requests : Option (StringMap String)
  limits : Option (StringMap String)
  deriving DecidableEq

namespace Amounts

def none : Amounts := ⟨.none, .none⟩

/-- The amounts of `top`, and of `base` where `top` has none. -/
def overlay (base top : Amounts) : Amounts :=
  ⟨top.cpu.or base.cpu, top.memory.or base.memory⟩

/-- Whether no amount is set. -/
def isNone (a : Amounts) : Bool :=
  a.cpu.isNone && a.memory.isNone

/-- The amounts, if one is set. -/
def unlessNone (a : Amounts) : Option Amounts :=
  if a.isNone then .none else some a

/-- The amounts that are set, by name. -/
def byName (a : Amounts) : StringMap String :=
  let m : StringMap String := .empty
  let m := match a.cpu with | some v => m.insert "cpu" v | .none => m
  match a.memory with | some v => m.insert "memory" v | .none => m

/-- The amounts by name, unless none is set. -/
def section? (a : Amounts) : Option (StringMap String) :=
  if a.isNone then .none else some a.byName

end Amounts

namespace Resources

/-- Nothing requested and no limits. -/
def none : Resources := ⟨.none, .none⟩

/-- One section laid over another; it goes when no amount is left in it. -/
def overlaySection (base top : Option Amounts) : Option Amounts :=
  ((base.getD .none).overlay (top.getD .none)).unlessNone

/-- Resources laid over others, amount by amount. -/
def overlay (base top : Resources) : Resources :=
  ⟨overlaySection base.requests top.requests, overlaySection base.limits top.limits⟩

/-- What a container carries of resources: the sections with amounts, if there is one. -/
def requirements? (r : Resources) : Option Requirements :=
  let requests := r.requests.bind Amounts.section?
  let limits := r.limits.bind Amounts.section?
  if requests.isNone && limits.isNone then .none else some ⟨requests, limits⟩

end Resources

/-! ## JSON -/

def Amounts.toJson (a : Amounts) : Json :=
  .object [("cpu", a.cpu.map .str), ("memory", a.memory.map .str)]

def Amounts.ofJson : Decode.Reader Amounts :=
  Decode.record "ResourceQuantities" 2 fun s =>
    (Decode.Reading.ok Amounts.mk)
      |>.and (s.optional 0 "cpu" Decode.string)
      |>.and (s.optional 1 "memory" Decode.string)

def Resources.toJson (r : Resources) : Json :=
  .object [("requests", r.requests.map Amounts.toJson), ("limits", r.limits.map Amounts.toJson)]

def Resources.ofJson : Decode.Reader Resources :=
  Decode.record "ResourceSpec" 2 fun s =>
    (Decode.Reading.ok Resources.mk)
      |>.and (s.optional 0 "requests" Amounts.ofJson)
      |>.and (s.optional 1 "limits" Amounts.ofJson)

def Requirements.toJson (r : Requirements) : Json :=
  .object [("requests", r.requests.map Json.stringMap), ("limits", r.limits.map Json.stringMap)]

def Requirements.ofJson : Decode.Reader Requirements :=
  Decode.platform "ResourceRequirements" fun s =>
    (Decode.Reading.ok Requirements.mk)
      |>.and (s.optional 0 "requests" (Decode.map Decode.string))
      |>.and (s.optional 1 "limits" (Decode.map Decode.string))

/-! ## Lemmas -/

theorem Amounts.overlay_assoc (a b c : Amounts) : (a.overlay b).overlay c = a.overlay (b.overlay c) := by
  simp [Amounts.overlay, Option.or_assoc]

theorem Amounts.getD_unlessNone (a : Amounts) : a.unlessNone.getD .none = a := by
  unfold unlessNone
  split
  · next h =>
    simp only [isNone, Bool.and_eq_true, Option.isNone_iff_eq_none] at h
    obtain ⟨cpu, memory⟩ := a
    obtain ⟨rfl, rfl⟩ := h
    rfl
  · rfl

theorem Resources.getD_overlaySection (a b : Option Amounts) :
    (overlaySection a b).getD .none = (a.getD .none).overlay (b.getD .none) :=
  Amounts.getD_unlessNone _

theorem Resources.overlaySection_assoc (a b c : Option Amounts) :
    overlaySection (overlaySection a b) c = overlaySection a (overlaySection b c) := by
  rw [overlaySection, getD_overlaySection, Amounts.overlay_assoc, ← getD_overlaySection b c]
  rfl

/-- Laying over is associative. -/
theorem Resources.overlay_assoc (a b c : Resources) : (a.overlay b).overlay c = a.overlay (b.overlay c) := by
  simp [overlay, overlaySection_assoc]

end ProfilingOperator
