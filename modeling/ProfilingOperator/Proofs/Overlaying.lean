import ProfilingOperator.Attachment

/-!
# Resources laid over others

A job lays its resources over those of its tool, amount by amount.  A section can be missing, or be there without an
amount, and both steps on the way to the container drop what is empty, each in its own way.  Here is said that none of
this is seen in the container: it carries the amounts that are set, under their names, and which these are is decided
for each amount alone.

    amount_overlay : (a.overlay b).amount part kind = (b.amount part kind).or (a.amount part kind)
    carries_requirements : a container carries the amounts that are set, and nothing else
    Carries.eq : it is determined by them what a container carries
    overrides : an overlay is associative, and of two amounts the container has that of the top where it is set
-/

namespace ProfilingOperator

/-! ## Amounts one by one -/

/-- The two sections of resources. -/
inductive Resources.Part where
  | requests
  | limits
  deriving DecidableEq

/-- What there is an amount of. -/
inductive Amounts.Kind where
  | cpu
  | memory
  deriving DecidableEq

/-- The name of an amount in a container. -/
def Amounts.Kind.word : Amounts.Kind → String
  | .cpu => "cpu"
  | .memory => "memory"

/-- The amount of a kind, if it is set. -/
def Amounts.of (a : Amounts) : Amounts.Kind → Option String
  | .cpu => a.cpu
  | .memory => a.memory

def Requirements.part? (r : Requirements) : Resources.Part → Option (StringMap String)
  | .requests => r.requests
  | .limits => r.limits

namespace Resources

def part? (r : Resources) : Part → Option Amounts
  | .requests => r.requests
  | .limits => r.limits

/-- The amount of a kind in a section, if the section is there and the amount is set in it. -/
def amount (r : Resources) (part : Part) (kind : Amounts.Kind) : Option String :=
  (r.part? part).bind fun a => a.of kind

/-- Resources without an amount: each section is missing or empty. -/
def Bare (r : Resources) : Prop :=
  ∀ part, r.part? part = Option.none ∨ r.part? part = some Amounts.none

/-- Requirements that carry some amounts: each section has an entry for every amount that is set in it, and no other,
and what would be empty is missing. -/
structure Carries (given : Part → Amounts.Kind → Option String) (r : Option Requirements) : Prop where
  entry (part : Part) (name value : String) : ((r.bind fun r => r.part? part).bind fun m => m.get? name) = some value ↔
    ∃ kind, name = kind.word ∧ given part kind = some value
  part (part : Part) : (r.bind fun r => r.part? part) = Option.none ↔ ∀ kind, given part kind = Option.none
  whole : r = Option.none ↔ ∀ part kind, given part kind = Option.none

end Resources

/-! ## Lemmas -/

namespace Amounts

theorem of_overlay (a b : Amounts) (kind : Kind) : (a.overlay b).of kind = (b.of kind).or (a.of kind) := by
  cases kind <;> rfl

theorem overlay_self (a : Amounts) : a.overlay a = a := by
  unfold overlay
  rw [Option.or_self, Option.or_self]

theorem isNone_iff {a : Amounts} : a.isNone = true ↔ ∀ kind, a.of kind = Option.none := by
  unfold isNone
  rw [Bool.and_eq_true, Option.isNone_iff_eq_none, Option.isNone_iff_eq_none]
  constructor
  · rintro ⟨hcpu, hmemory⟩ kind
    cases kind with
    | cpu => exact hcpu
    | memory => exact hmemory
  · exact fun h => ⟨h .cpu, h .memory⟩

theorem get?_byName (a : Amounts) (name : String) :
    a.byName.get? name = if name = "memory" then a.memory else if name = "cpu" then a.cpu else Option.none := by
  obtain ⟨cpu, memory⟩ := a
  by_cases hmemory : name = "memory"
  · subst hmemory
    cases cpu <;> cases memory <;> simp [byName, StringMap.get?_insert]
  · cases cpu <;> cases memory <;> simp [byName, StringMap.get?_insert, hmemory]

/-- By name there are the amounts that are set, and nothing else. -/
theorem get?_byName_iff {a : Amounts} {name value : String} :
    a.byName.get? name = some value ↔ ∃ kind, name = kind.word ∧ a.of kind = some value := by
  rw [get?_byName]
  constructor
  · intro h
    split at h
    · next hname => exact ⟨.memory, hname, h⟩
    · split at h
      · next hname => exact ⟨.cpu, hname, h⟩
      · cases h
  · rintro ⟨kind, rfl, h⟩
    cases kind with
    | cpu => exact h
    | memory => exact h

end Amounts

namespace Resources

section
variable {given : Part → Amounts.Kind → Option String}

/-! ### Overlays -/

theorem amount_eq (r : Resources) (part : Part) (kind : Amounts.Kind) :
    r.amount part kind = ((r.part? part).getD Amounts.none).of kind := by
  unfold amount
  cases r.part? part with
  | none => cases kind <;> rfl
  | some a => rfl

theorem part?_overlay (a b : Resources) (part : Part) :
    (a.overlay b).part? part = overlaySection (a.part? part) (b.part? part) := by
  cases part <;> rfl

/-- An amount is decided alone: by the top if it is set there, else by the base. -/
theorem amount_overlay (a b : Resources) (part : Part) (kind : Amounts.Kind) :
    (a.overlay b).amount part kind = (b.amount part kind).or (a.amount part kind) := by
  rw [amount_eq, part?_overlay, getD_overlaySection, Amounts.of_overlay, ← amount_eq, ← amount_eq]

theorem overlaySection_self (a b : Option Amounts) : overlaySection a (overlaySection b b) = overlaySection a b := by
  unfold overlaySection
  rw [Amounts.getD_unlessNone, Amounts.overlay_self]

/-- What is laid over once is not changed by laying it over again. -/
theorem overlay_again (a b : Resources) : (a.overlay b).overlay b = a.overlay b := by
  rw [overlay_assoc]
  unfold overlay
  rw [overlaySection_self, overlaySection_self]

/-- Resources are bare exactly if they set no amount. -/
theorem bare_iff {r : Resources} : r.Bare ↔ ∀ part kind, r.amount part kind = Option.none := by
  constructor
  · intro h part kind
    rw [amount_eq]
    rcases h part with hmissing | hempty
    · rw [hmissing]
      cases kind <;> rfl
    · rw [hempty]
      cases kind <;> rfl
  · intro h part
    cases hpart : r.part? part with
    | none => exact .inl rfl
    | some a =>
      have hnone : a.isNone = true :=
        Amounts.isNone_iff.2 fun kind => by rw [← h part kind, amount, hpart, Option.bind_some]
      have hempty := Amounts.getD_unlessNone a
      rw [Amounts.unlessNone, if_pos hnone, Option.getD_none] at hempty
      exact .inr (congrArg some hempty.symm)

/-! ### Containers -/

theorem section?_eq_none_iff {a : Amounts} : a.section? = Option.none ↔ ∀ kind, a.of kind = Option.none := by
  rw [← Amounts.isNone_iff]
  unfold Amounts.section?
  split
  · next h => exact iff_of_true rfl h
  · next h => exact iff_of_false (Option.some_ne_none _) h

/-- The sections of requirements are those of the resources that have an amount. -/
theorem part?_requirements (r : Resources) (part : Part) :
    (r.requirements?.bind fun q => q.part? part) = (r.part? part).bind Amounts.section? := by
  unfold requirements?
  simp only
  split
  · next h =>
    rw [Bool.and_eq_true, Option.isNone_iff_eq_none, Option.isNone_iff_eq_none] at h
    cases part with
    | requests => exact h.1.symm
    | limits => exact h.2.symm
  · cases part <;> rfl

theorem part?_requirements_eq_none_iff {r : Resources} {part : Part} :
    (r.requirements?.bind fun q => q.part? part) = Option.none ↔ ∀ kind, r.amount part kind = Option.none := by
  rw [part?_requirements]
  unfold amount
  cases r.part? part with
  | none => simp
  | some a => exact section?_eq_none_iff

/-- A container carries the amounts that are set. -/
theorem carries_requirements (r : Resources) : Carries r.amount r.requirements? where
  entry part name value := by
    rw [part?_requirements]
    unfold amount
    cases r.part? part with
    | none => simp
    | some a =>
      simp only [Option.bind_some]
      rw [← Amounts.get?_byName_iff]
      unfold Amounts.section?
      split
      · next h =>
        -- no entry is lost with a section that is left out
        refine iff_of_false (Option.some_ne_none value).symm fun hvalue => ?_
        obtain ⟨kind, -, hkind⟩ := Amounts.get?_byName_iff.1 hvalue
        rw [Amounts.isNone_iff.1 h kind] at hkind
        cases hkind
      · rfl
  part part := part?_requirements_eq_none_iff
  whole := by
    constructor
    · intro h part
      exact part?_requirements_eq_none_iff.1 (by rw [h, Option.bind_none])
    · intro h
      have hmissing : ∀ part, (r.part? part).bind Amounts.section? = Option.none := fun part => by
        rw [← part?_requirements, part?_requirements_eq_none_iff.2 (h part)]
      have hrequests : r.requests.bind Amounts.section? = Option.none := hmissing .requests
      have hlimits : r.limits.bind Amounts.section? = Option.none := hmissing .limits
      unfold requirements?
      rw [hrequests, hlimits]
      rfl

/-- Requirements that carry the same amounts are the same. -/
theorem Carries.eq {r s : Option Requirements} (hr : Carries given r) (hs : Carries given s) : r = s := by
  have hpart : ∀ part, (r.bind fun r => r.part? part) = s.bind fun s => s.part? part := by
    intro part
    have hnone : (r.bind fun r => r.part? part) = Option.none ↔ (s.bind fun s => s.part? part) = Option.none :=
      (hr.part part).trans (hs.part part).symm
    have hentry : ∀ name value, ((r.bind fun r => r.part? part).bind fun m => m.get? name) = some value ↔
        ((s.bind fun s => s.part? part).bind fun m => m.get? name) = some value :=
      fun name value => (hr.entry part name value).trans (hs.entry part name value).symm
    generalize (r.bind fun r => r.part? part) = m at hnone hentry
    generalize (s.bind fun s => s.part? part) = n at hnone hentry
    cases m with
    | none => exact (hnone.1 rfl).symm
    | some m =>
      cases n with
      | none => exact hnone.2 rfl
      | some n => exact congrArg some (StringMap.ext_get? fun name => Option.ext (hentry name))
  have hwhole : r = Option.none ↔ s = Option.none := hr.whole.trans hs.whole.symm
  cases r with
  | none => exact (hwhole.1 rfl).symm
  | some r =>
    cases s with
    | none => exact hwhole.2 rfl
    | some s =>
      have hrequests : r.requests = s.requests := hpart .requests
      have hlimits : r.limits = s.limits := hpart .limits
      obtain ⟨requests, limits⟩ := r
      obtain ⟨requests', limits'⟩ := s
      cases hrequests
      cases hlimits
      rfl

theorem carries_overlay (a b : Resources) :
    Carries (fun part kind => (b.amount part kind).or (a.amount part kind)) (a.overlay b).requirements? := by
  have hcarries := carries_requirements (a.overlay b)
  rwa [show (a.overlay b).amount = fun part kind => (b.amount part kind).or (a.amount part kind) from
    funext fun part => funext fun kind => amount_overlay a b part kind] at hcarries

/-- Without an amount on top, the container is given what the base alone gives it. -/
theorem requirements?_overlay_of_bare {a b : Resources} (h : b.Bare) :
    (a.overlay b).requirements? = a.requirements? := by
  have hgiven : (fun part kind => (b.amount part kind).or (a.amount part kind)) = a.amount :=
    funext fun part => funext fun kind => by rw [bare_iff.1 h part kind, Option.none_or]
  have hcarries := carries_overlay a b
  rw [hgiven] at hcarries
  exact hcarries.eq (carries_requirements a)

end

end Resources

namespace Attachment

/-- A job that gives no resources is one that gives no amount. -/
theorem resources_eq (spec : Job.Spec) (tool : Tool.Spec) :
    resources spec tool =
      ((tool.resources.getD Resources.none).overlay (spec.tool.resources.getD Resources.none)).requirements? := by
  unfold resources
  simp only
  split
  · next own hown => rw [hown, Option.getD_some]
  · next hnone =>
    rw [hnone, Option.getD_none]
    exact (Resources.requirements?_overlay_of_bare fun part => .inl (by cases part <;> rfl)).symm

end Attachment

namespace Resources

/-- To lay resources over others is associative, and to do so again changes nothing.  The container is given, for each
amount, the one on top if it is set there, else the one below, else none, under its name, without a section in which
nothing is set and without any if there is none.  Resources without an amount, whether their sections are missing or
empty, change nothing of this.  The same holds of the container that is built for a job: there the tool's resources
are below and the job's own on top, if either has any. -/
theorem overrides (a b c : Resources) (job : Job) (tool : Tool.Spec) (pod : Pod) (name : String)
    (access : Option Collector) :
    (a.overlay b).overlay c = a.overlay (b.overlay c) ∧
    (a.overlay b).overlay b = a.overlay b ∧
    Carries (fun part kind => (b.amount part kind).or (a.amount part kind)) (a.overlay b).requirements? ∧
    (b.Bare → (a.overlay b).requirements? = a.requirements?) ∧
    Carries (fun part kind => ((job.spec.tool.resources.getD .none).amount part kind).or
        ((tool.resources.getD .none).amount part kind)) (Attachment.container job tool pod name access).resources ∧
    ((job.spec.tool.resources.getD .none).Bare →
      (Attachment.container job tool pod name access).resources = (tool.resources.getD .none).requirements?) := by
  have hbuilt : (Attachment.container job tool pod name access).resources =
      ((tool.resources.getD .none).overlay (job.spec.tool.resources.getD .none)).requirements? :=
    Attachment.resources_eq job.spec tool
  refine ⟨overlay_assoc a b c, overlay_again a b, carries_overlay a b, requirements?_overlay_of_bare, ?_, ?_⟩
  · rw [hbuilt]
    exact carries_overlay _ _
  · intro hbare
    rw [hbuilt, requirements?_overlay_of_bare hbare]

/-! ### A job that overrides nothing -/

def usual : Resources := ⟨some ⟨some "100m", some "64Mi"⟩, Option.none⟩

/-- Resources with a section in which nothing is set. -/
def hollow : Resources := ⟨some Amounts.none, Option.none⟩

def modest : Job :=
  ⟨Metadata.empty, ⟨⟨Option.none, Option.none⟩, ⟨"perf", "30s", Option.none, some hollow⟩, .stay⟩, Option.none⟩

def frugal : Tool.Spec :=
  ⟨"perf", "perf:1", .none, [], Option.none, Option.none, [], some usual⟩

/-- The container is given the tool's amounts, as if the job had not mentioned any. -/
theorem modest_gets_the_usual : hollow.Bare ∧ (usual.overlay hollow).requirements? = usual.requirements? ∧
    (Attachment.container modest frugal ⟨Metadata.empty, Option.none, Option.none⟩ "probe" Option.none).resources =
      usual.requirements? := by
  have hbare : hollow.Bare := fun part => by
    cases part with
    | requests => exact .inr rfl
    | limits => exact .inl rfl
  obtain ⟨-, -, -, hsame, -, hbuilt⟩ :=
    overrides usual hollow usual modest frugal ⟨Metadata.empty, Option.none, Option.none⟩ "probe" Option.none
  exact ⟨hbare, hsame hbare, hbuilt hbare⟩

end Resources

end ProfilingOperator
