import ProfilingOperator.Attachment
import ProfilingOperator.Proofs.First

/-!
# Who a diagnostic container runs as

A diagnostic container is attached to one container of a pod and takes over who that one runs as; what it leaves open
is taken from the pod.  Only the tool's policy can ask for more: for root, for privileges, for capabilities.

    Attaches p hint target : the container that a hint leads to in a pod
    Settled own pod said : what a container says, else what its pod says, else nothing
    context_anonymous : a tool that needs root does not look at the users of a pod
    runs_as_attached : identity and privileges of the container built for a job
-/

namespace ProfilingOperator

/-! ## What is inherited -/

/-- The container that a hint leads to: the first of a name that is hinted and found, else the first of all, if there
is one. -/
inductive Pod.Attaches (p : Pod) (hint : Option String) : Option Container → Prop where
  | hinted {name : String} {c : Container} (given : hint = some name) (nonempty : name ≠ "")
      (found : First (fun d : Container => d.name = name) p.containers c) : Attaches p hint (some c)
  | front {c : Container} {rest : List Container}
      (unfound : ∀ name, hint = some name → name ≠ "" → ∀ d ∈ p.containers, d.name ≠ name)
      (front : p.containers = c :: rest) : Attaches p hint (some c)
  | nobody (empty : p.containers = []) : Attaches p hint none

/-- What is settled by a container and its pod: the container's word if it has one, else the pod's, else nothing. -/
inductive Settled {α : Type} (own pod : Option α) : Option α → Prop where
  | byContainer {a : α} (said : own = some a) : Settled own pod (some a)
  | byPod {a : α} (unsaid : own = none) (said : pod = some a) : Settled own pod (some a)
  | byNone (unsaid : own = none) (unsaidBoth : pod = none) : Settled own pod none

namespace Tool.Policy

def added (policy : Policy) : List String :=
  (policy.capabilities.map (·.add)).getD []

def dropped (policy : Policy) : List String :=
  (policy.capabilities.map (·.drop)).getD []

end Tool.Policy

/-- A list as it is written where an empty one is left out. -/
inductive Listed (l : List String) : Option (List String) → Prop where
  | omitted (empty : l = []) : Listed l none
  | whole (nonempty : l ≠ []) : Listed l (some l)

/-- A security context with the identity of a container in its pod, and privileges and capabilities by a policy alone.
-/
structure SecurityContext.Inherits (policy : Tool.Policy) (pod : Pod) (target : Option Container)
    (s : SecurityContext) : Prop where
  asRoot : policy.runAsRoot = some true → s.identity.user = some 0 ∧ s.identity.nonRoot = some false
  user : policy.runAsRoot ≠ some true →
    Settled (Security.containerIdentity target).user (Security.podIdentity pod).user s.identity.user
  nonRoot : policy.runAsRoot ≠ some true →
    Settled (Security.containerIdentity target).nonRoot (Security.podIdentity pod).nonRoot s.identity.nonRoot
  group : Settled (Security.containerIdentity target).group (Security.podIdentity pod).group s.identity.group
  declared : policy.runAsRoot ≠ some true → s.identity.user = some 0 →
    (Security.containerIdentity target).user = some 0 ∨ (Security.podIdentity pod).user = some 0
  privileged : s.privileged = policy.privileged
  added : Listed policy.added (s.capabilities.bind (·.add))
  dropped : Listed policy.dropped (s.capabilities.bind (·.drop))
  stanza : s.capabilities = none ↔ policy.added = [] ∧ policy.dropped = []
  nothingElse : s.others = []

/-! ## What is left without users -/

/-- An identity that does not say which user it is, nor whether it may be root. -/
def Identity.anonymous (i : Identity) : Identity := ⟨.none, i.group, .none⟩

/-- A security context without the user; one that is not there is empty. -/
def SecurityContext.anonymous (s : Option SecurityContext) : SecurityContext :=
  match s with
  | some s => ⟨s.identity.anonymous, s.privileged, s.capabilities, s.others⟩
  | none => ⟨.none, none, none, []⟩

/-- A pod's security context without the user; one that is not there is empty. -/
def PodSecurityContext.anonymous (s : Option PodSecurityContext) : PodSecurityContext :=
  match s with
  | some s => ⟨s.identity.anonymous, s.others⟩
  | none => ⟨.none, []⟩

/-- A container without its user. -/
def Container.anonymous (c : Container) : Container :=
  { c with security := some (SecurityContext.anonymous c.security) }

/-- An ephemeral container without its user. -/
def EphemeralContainer.anonymous (c : EphemeralContainer) : EphemeralContainer :=
  { c with security := some (SecurityContext.anonymous c.security) }

/-- A pod without the users of its own and of its containers.  Pods that differ in no more than these are the same
without them. -/
def Pod.anonymous (p : Pod) : Pod :=
  { p with spec := p.spec.map fun s =>
    ⟨s.containers.map Container.anonymous, s.ephemeral.map fun l => l.map EphemeralContainer.anonymous,
      some (PodSecurityContext.anonymous s.security), s.volumes, s.others⟩ }

/-! ## Lemmas -/

theorem settled_or {α : Type} (own pod : Option α) : Settled own pod (own.or pod) := by
  cases own with
  | some a => exact .byContainer rfl
  | none =>
    cases pod with
    | some a => exact .byPod rfl rfl
    | none => exact .byNone rfl rfl

theorem Settled.some_iff {α : Type} {own pod : Option α} {a : α} (h : Settled own pod (some a)) :
    own = some a ∨ pod = some a := by
  cases h with
  | byContainer hown => exact .inl hown
  | byPod _ hpod => exact .inr hpod

theorem listed_ite (l : List String) : Listed l (if l.isEmpty then none else some l) := by
  cases l with
  | nil => exact .omitted rfl
  | cons a l => exact .whole (List.cons_ne_nil a l)

@[simp] theorem Pod.containers_anonymous (p : Pod) :
    p.anonymous.containers = p.containers.map Container.anonymous := by
  unfold containers anonymous
  cases p.spec <;> rfl

namespace Security

section
variable {policy : Tool.Policy} {pod : Pod} {target : Option Container}

@[simp] theorem group_anonymous_container (target : Option Container) :
    (containerIdentity (target.map Container.anonymous)).group = (containerIdentity target).group := by
  cases target with
  | none => rfl
  | some c =>
    unfold containerIdentity Container.anonymous SecurityContext.anonymous
    cases hs : c.security <;> simp [hs, Identity.none, Identity.anonymous]

@[simp] theorem group_anonymous_pod (pod : Pod) :
    (podIdentity pod.anonymous).group = (podIdentity pod).group := by
  unfold podIdentity Pod.anonymous
  cases pod.spec with
  | none => rfl
  | some s => cases hs : s.security <;> simp [hs, PodSecurityContext.anonymous, Identity.none, Identity.anonymous]

theorem identity_of_root (hroot : policy.runAsRoot = some true) : identity policy pod target =
    ⟨some 0, (containerIdentity target).group.or (podIdentity pod).group, some false⟩ := by
  unfold identity Identity.orElse
  rw [hroot]
  rfl

theorem identity_of_not_root (hroot : policy.runAsRoot ≠ some true) :
    identity policy pod target = (containerIdentity target).orElse (podIdentity pod) := by
  have hoff : policy.runAsRoot.getD false = false := by
    cases hr : policy.runAsRoot with
    | none => rfl
    | some b =>
      cases b with
      | false => rfl
      | true => exact absurd hr hroot
  unfold identity
  rw [hoff]
  rfl

/-- A tool that needs root takes no more of a pod than its groups. -/
theorem context_anonymous (hroot : policy.runAsRoot = some true) :
    context policy pod.anonymous (target.map Container.anonymous) = context policy pod target := by
  unfold context
  rw [identity_of_root hroot, identity_of_root hroot, group_anonymous_container, group_anonymous_pod]

/-- Of a policy's capabilities each list is written if there is one, and nothing at all if there is neither. -/
theorem capabilities?_told (policy : Tool.Policy) :
    Listed policy.added ((capabilities? policy).bind (·.add)) ∧
      Listed policy.dropped ((capabilities? policy).bind (·.drop)) ∧
      (capabilities? policy = none ↔ policy.added = [] ∧ policy.dropped = []) := by
  unfold capabilities? Tool.Policy.added Tool.Policy.dropped
  cases policy.capabilities with
  | none => exact ⟨.omitted rfl, .omitted rfl, by simp⟩
  | some c =>
    obtain ⟨add, drop⟩ := c
    simp only [Option.bind_some, Option.map_some, Option.getD_some]
    split
    · next hempty =>
      obtain ⟨hadd, hdrop⟩ : add = [] ∧ drop = [] := by simpa using hempty
      exact ⟨.omitted hadd, .omitted hdrop, by simp [hadd, hdrop]⟩
    · next hsome => exact ⟨listed_ite add, listed_ite drop, by simpa using hsome⟩

theorem inherits_context (policy : Tool.Policy) (pod : Pod) (target : Option Container) :
    (context policy pod target).Inherits policy pod target where
  asRoot hroot := by
    rw [context, identity_of_root hroot]
    exact ⟨rfl, rfl⟩
  user hroot := by
    rw [context, identity_of_not_root hroot]
    exact settled_or _ _
  nonRoot hroot := by
    rw [context, identity_of_not_root hroot]
    exact settled_or _ _
  group := by
    by_cases hroot : policy.runAsRoot = some true
    · rw [context, identity_of_root hroot]
      exact settled_or _ _
    · rw [context, identity_of_not_root hroot]
      exact settled_or _ _
  declared hroot huser := by
    rw [context, identity_of_not_root hroot] at huser
    have hsettled := settled_or (containerIdentity target).user (podIdentity pod).user
    exact Settled.some_iff (huser ▸ hsettled)
  privileged := rfl
  added := (capabilities?_told policy).1
  dropped := (capabilities?_told policy).2.1
  stanza := (capabilities?_told policy).2.2
  nothingElse := rfl

end

end Security

namespace Attachment

theorem hinted?_eq_some_iff {pod : Pod} {name : String} {c : Container} :
    hinted? pod name = some c ↔ name ≠ "" ∧ First (fun d : Container => d.name = name) pod.containers c := by
  unfold hinted?
  split
  · next hempty => simp [hempty]
  · next hname => simp only [find?_eq_some_iff_first fun d => decide_eq_true_iff, ne_eq, hname, not_false_iff, true_and]

/-- The container attached to is the one asked for, or else the first there is. -/
theorem attaches_target? (pod : Pod) (hint : Option String) : pod.Attaches hint (target? pod hint) := by
  unfold target?
  cases hhinted : hint.bind (hinted? pod) with
  | some c =>
    obtain ⟨name, hgiven, hfound⟩ := Option.bind_eq_some_iff.1 hhinted
    obtain ⟨hname, hfirst⟩ := hinted?_eq_some_iff.1 hfound
    exact .hinted hgiven hname hfirst
  | none =>
    have hunfound : ∀ name, hint = some name → name ≠ "" → ∀ d ∈ pod.containers, d.name ≠ name := by
      rintro name rfl hname d hd hdname
      have hsome : ∃ d ∈ pod.containers, d.name = name := ⟨d, hd, hdname⟩
      obtain ⟨c, hc⟩ := exists_first_iff.2 hsome
      rw [Option.bind_some, hinted?_eq_some_iff.2 ⟨hname, hc⟩] at hhinted
      cases hhinted
    cases hall : pod.containers with
    | nil => exact .nobody hall
    | cons c rest => exact .front hunfound hall

/-- The same container is chosen whatever the users are. -/
theorem target?_anonymous (pod : Pod) (hint : Option String) :
    target? pod.anonymous hint = (target? pod hint).map Container.anonymous := by
  have hhinted : ∀ name, hinted? pod.anonymous name = (hinted? pod name).map Container.anonymous := by
    intro name
    unfold hinted?
    rw [Pod.containers_anonymous, List.find?_map]
    split <;> rfl
  have hbind : hint.bind (hinted? pod.anonymous) = (hint.bind (hinted? pod)).map Container.anonymous := by
    cases hint with
    | none => rfl
    | some name => exact hhinted name
  unfold target?
  rw [hbind, Pod.containers_anonymous]
  cases hint.bind (hinted? pod) with
  | some c => rfl
  | none => exact List.head?_map

/-- The container built for a job is attached to the one its hint leads to, and runs as that one, or else as the pod
says.  A tool that needs root has only its group from there: it runs as user 0, and pods that differ in users alone
are the same to it.  Privileges and capabilities are the policy's, and nothing else is asked for. -/
theorem runs_as_attached (job : Job) (tool : Tool.Spec) (pod : Pod) (name : String) (collector : Option Collector) :
    ∃ target s, pod.Attaches job.spec.targets.container target ∧
      (container job tool pod name collector).target = target.map (·.name) ∧
      (container job tool pod name collector).security = some s ∧
      s.Inherits tool.policy pod target ∧
      (tool.policy.runAsRoot = some true → ∀ other : Pod, other.anonymous = pod.anonymous →
        (container job tool other name collector).security = some s) := by
  refine ⟨target? pod job.spec.targets.container,
    Security.context tool.policy pod (target? pod job.spec.targets.container),
    attaches_target? pod _, rfl, rfl, Security.inherits_context _ _ _, fun hroot other hother => ?_⟩
  refine congrArg some ?_
  calc Security.context tool.policy other (target? other job.spec.targets.container)
      = Security.context tool.policy other.anonymous (target? other.anonymous job.spec.targets.container) := by
        rw [target?_anonymous, Security.context_anonymous hroot]
    _ = Security.context tool.policy pod.anonymous (target? pod.anonymous job.spec.targets.container) := by rw [hother]
    _ = Security.context tool.policy pod (target? pod job.spec.targets.container) := by
        rw [target?_anonymous, Security.context_anonymous hroot]

end Attachment

end ProfilingOperator
