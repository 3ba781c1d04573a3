import ProfilingOperator.Proofs.Claims

/-!
# What the name of a container tells

The container of a job is named after the job and the first eight scalars of its id, with a dash in front of each.  A
dash can stand in both, but where the id has its eight scalars the last dash is found by counting from the end, so
that the name tells which job it is.  A pod can then carry the containers of other jobs as well: what is planned for
it is the same as if it did not.

    containerName_eq_iff : two names are the same exactly if the jobs have one name, and ids with one beginning
    observe_without : a container is seen in the same state without the others
    of_map : a plan sees nothing of a pod but its name and the state of the container that is looked for
    tells_jobs_apart : names identify jobs, and a plan ignores the containers of other jobs
-/

namespace ProfilingOperator

/-! ## Pods without some containers -/

/-- The pod without the ephemeral containers of some names, and without what is reported of them. -/
def Pod.without (names : List String) (p : Pod) : Pod :=
  { p with
    spec := p.spec.map fun s => { s with ephemeral := s.ephemeral.map fun l => l.filter fun c => c.name ∉ names }
    status := p.status.map fun s => { s with ephemeral := s.ephemeral.map fun l => l.filter fun c => c.name ∉ names } }

namespace Plan

/-- What a plan decides for a pod. -/
def decision (prior : StringMap String) (container : String) (p : Pod) : Decision :=
  .decide (prior.get? p.name).isSome (p.observe (sought prior container p))

/-- The plan with other pods in the places of those that it creates a container in. -/
def map (f : Pod → Pod) (plan : Plan) : Plan :=
  ⟨plan.active, plan.create.map fun e => (f e.1, e.2)⟩

/-- A plan takes no notice of containers of some names. -/
structure Ignores (names : List String) (prior : StringMap String) (pods : List Pod) (container : String) : Prop where
  /-- What is decided for a pod is decided as if they were not there. -/
  decided : ∀ p ∈ pods, decision prior container (p.without names) = decision prior container p
  /-- A pod with no other containers is given one: none of them is kept or adopted, or counted as finished. -/
  given : ∀ p ∈ pods, (∀ c ∈ p.ephemeralContainers, c.name ∈ names) → decision prior container p = .create
  /-- None of them is claimed. -/
  unclaimed : ∀ k v, (of prior pods container).active.get? k = some v → v ∉ names
  /-- The same is claimed without them, and containers are created in the same places. -/
  same : of prior (pods.map (Pod.without names)) container = (of prior pods container).map (Pod.without names)

end Plan

/-! ## Lemmas -/

section
variable {names : List String} {p : Pod} {container : String}

/-! ### Names -/

/-- What stands behind the last dash has eight scalars, so that a name is cut there in one way only. -/
theorem Job.containerName_eq_iff {job other uid id : String} (hu : 8 ≤ uid.length) (hv : 8 ≤ id.length) :
    containerName other id = containerName job uid ↔ other = job ∧ id.toList.take 8 = uid.toList.take 8 := by
  have hname : ∀ j u : String,
      (containerName j u).toList = "powertool-".toList ++ ((j.toList ++ "-".toList) ++ u.toList.take 8) := by
    intro j u
    simp [containerName, shortUid]
  constructor
  · intro h
    have hlist := congrArg String.toList h
    rw [hname, hname, List.append_cancel_left_eq] at hlist
    have hlength : (id.toList.take 8).length = (uid.toList.take 8).length := by
      rw [List.length_take, List.length_take, String.length_toList, String.length_toList]
      omega
    obtain ⟨hfront, hshort⟩ := List.append_inj' hlist hlength
    exact ⟨String.toList_inj.1 (List.append_cancel_right hfront), hshort⟩
  · rintro ⟨rfl, hshort⟩
    exact String.toList_inj.1 (by rw [hname, hname, hshort])

/-- A shorter id can take a dash from the name of its job. -/
example : Job.containerName "cpu" "x-y" = Job.containerName "cpu-x" "y" := by decide

/-! ### Pods -/

@[simp] theorem Pod.name_without : (p.without names).name = p.name := rfl

theorem Pod.ephemeralContainers_without :
    (p.without names).ephemeralContainers = p.ephemeralContainers.filter fun c => c.name ∉ names := by
  unfold ephemeralContainers without
  cases p.spec with
  | none => rfl
  | some s =>
    simp only [Option.map_some]
    cases s.ephemeral <;> rfl

theorem Pod.ephemeralStatuses_without :
    (p.without names).ephemeralStatuses = p.ephemeralStatuses.filter fun c => c.name ∉ names := by
  unfold ephemeralStatuses without
  cases p.status with
  | none => rfl
  | some s =>
    simp only [Option.map_some]
    cases s.ephemeral <;> rfl

/-- A container is seen in the same state when others are taken out. -/
theorem Pod.observe_without (h : container ∉ names) : (p.without names).observe container = p.observe container := by
  have hdeclares : (p.without names).declares container = p.declares container := by
    unfold declares
    rw [ephemeralContainers_without, List.any_filter]
    refine List.any_congr rfl fun c => ?_
    by_cases hc : c.name = container
    · simp [hc, h]
    · simp [hc]
  have hreport : (p.without names).ephemeralStatuses.find? (fun s => s.name = container) =
      p.ephemeralStatuses.find? fun s => s.name = container := by
    rw [ephemeralStatuses_without, List.find?_filter]
    refine congrArg (fun test => p.ephemeralStatuses.find? test) (funext fun s => ?_)
    by_cases hs : s.name = container
    · simp [hs, h]
    · simp [hs]
  unfold observe
  rw [hdeclares, hreport]

/-! ### Plans -/

namespace Plan

variable {prior : StringMap String} {pods : List Pod} {f : Pod → Pod}

theorem step_decision (plan : Plan) (e : Pod × Nat) :
    step prior container plan e =
      match decision prior container e.1 with
      | .keep => ⟨plan.active.insert e.1.name (sought prior container e.1), plan.create⟩
      | .adopt => ⟨plan.active.insert e.1.name container, plan.create⟩
      | .create => ⟨plan.active, plan.create ++ [e]⟩
      | .release | .alreadyFinished => plan := rfl

theorem step_map (hname : ∀ p, (f p).name = p.name)
    (hdecision : ∀ p, decision prior container (f p) = decision prior container p) (plan : Plan) (e : Pod × Nat) :
    step prior container (plan.map f) (f e.1, e.2) = (step prior container plan e).map f := by
  have hsought : sought prior container (f e.1) = sought prior container e.1 := by
    unfold sought
    rw [hname]
  rw [step_decision, step_decision, hdecision, hname, hsought]
  cases decision prior container e.1 with
  | create => simp [map]
  | _ => rfl

/-- Pods that keep their names, and for which the same is decided, lead to the same plan. -/
theorem of_map (hname : ∀ p, (f p).name = p.name)
    (hdecision : ∀ p, decision prior container (f p) = decision prior container p) (pods : List Pod) :
    of prior (pods.map f) container = (of prior pods container).map f := by
  unfold of
  rw [List.zipIdx_map, List.foldl_map]
  show List.foldl _ (map f ⟨.empty, []⟩) _ = _
  exact List.foldl_hom (map f) fun plan e => step_map hname hdecision plan e

theorem decision_without (hprior : prior.Owned container) (h : container ∉ names) (p : Pod) :
    decision prior container (p.without names) = decision prior container p := by
  unfold decision
  rw [Pass.sought_of_owned hprior, Pass.sought_of_owned hprior, Pod.observe_without h, Pod.name_without]

/-- A plan whose claims are the job's own takes no notice of containers of other names. -/
theorem ignores_of_notMem (hprior : prior.Owned container) (h : container ∉ names) :
    Ignores names prior pods container where
  decided p _ := decision_without hprior h p
  given p _ hothers := by
    refine Decision.decide_eq_create_iff.2 (Pod.observe_eq_absent_iff.2 (List.any_eq_false.2 fun c hc hname => h ?_))
    rw [Pass.sought_of_owned hprior, decide_eq_true_iff] at hname
    exact hname ▸ hothers c hc
  unclaimed k v hv := by
    obtain ⟨q, -, -, hsought, -⟩ := mem_active hv
    rw [Pass.sought_of_owned hprior] at hsought
    exact hsought ▸ h
  same := of_map (fun _ => Pod.name_without) (decision_without hprior h) pods

/-- Ids that have eight scalars or more identify their jobs in the names of containers, by the name of the job and the
first eight scalars.  So where all claims of a job are on its own container, its plan takes no notice of the
containers of other jobs, however many of them there are. -/
theorem tells_jobs_apart {job uid : String} (hlong : 8 ≤ uid.length) :
    (∀ other id : String, 8 ≤ id.length →
      (Job.containerName other id = Job.containerName job uid ↔ other = job ∧ id.toList.take 8 = uid.toList.take 8)) ∧
    ∀ (others : List (String × String)) (prior : StringMap String) (pods : List Pod),
      (∀ o ∈ others, 8 ≤ o.2.length ∧ (o.1 ≠ job ∨ o.2.toList.take 8 ≠ uid.toList.take 8)) →
      prior.Owned (Job.containerName job uid) →
      Ignores (others.map fun o => Job.containerName o.1 o.2) prior pods (Job.containerName job uid) := by
  refine ⟨fun other id hid => Job.containerName_eq_iff hlong hid, fun others prior pods hothers hprior => ?_⟩
  refine ignores_of_notMem hprior fun hmem => ?_
  obtain ⟨o, ho, hsame⟩ := List.mem_map.1 hmem
  obtain ⟨hid, hdiffers⟩ := hothers o ho
  obtain ⟨hjob, hshort⟩ := (Job.containerName_eq_iff hlong hid).1 hsame
  rcases hdiffers with hne | hne
  · exact hne hjob
  · exact hne hshort

/-! ### Pods with the containers of two other jobs -/

/-- A job of another name, and one of another id. -/
def neighbors : List (String × String) :=
  [("rival", "33cc0000-1"), ("trace", "33cc0000-1")]

/-- Containers of some jobs. -/
def carried (jobs : List (String × String)) : List EphemeralContainer :=
  jobs.map fun o => { Pass.Sample.container with name := Job.containerName o.1 o.2 }

/-- A pod that carries the containers of both, one of which has ended. -/
def crowded : Pod :=
  ⟨Pass.Sample.metadata "cart" "11aa", some ⟨[], some (carried neighbors), none, none, []⟩,
    some ⟨some [⟨Job.containerName "rival" "33cc0000-1", none, []⟩], []⟩⟩

/-- A pod that carries the containers of both behind that of the job itself. -/
def shared : Pod :=
  ⟨Pass.Sample.metadata "desk" "22bb",
    some ⟨[], some (carried (("trace", "7f9c0000-1") :: neighbors)), none, none, []⟩, none⟩

/-- The claim of the job on the second pod. -/
def claimed : StringMap String :=
  StringMap.empty.insert "desk" (Job.containerName "trace" "7f9c0000-1")

/-- The job with a claim on one of the pods takes no notice of what the others have there. -/
theorem trace_is_told_apart :
    8 ≤ "7f9c0000-1".length ∧
    (∀ o ∈ neighbors, 8 ≤ o.2.length ∧ (o.1 ≠ "trace" ∨ o.2.toList.take 8 ≠ "7f9c0000-1".toList.take 8)) ∧
    claimed.Owned (Job.containerName "trace" "7f9c0000-1") ∧
    Job.containerName "trace" "33cc0000-1" ≠ Job.containerName "trace" "7f9c0000-1" ∧
    Ignores (neighbors.map fun o => Job.containerName o.1 o.2) claimed [crowded, shared]
      (Job.containerName "trace" "7f9c0000-1") := by
  have hothers : ∀ o ∈ neighbors,
      8 ≤ o.2.length ∧ (o.1 ≠ "trace" ∨ o.2.toList.take 8 ≠ "7f9c0000-1".toList.take 8) := by decide
  have howned : claimed.Owned (Job.containerName "trace" "7f9c0000-1") := StringMap.owned_empty.insert "desk"
  obtain ⟨hnames, hignores⟩ := @tells_jobs_apart "trace" "7f9c0000-1" (by decide)
  have hname := hnames "trace" "33cc0000-1" (by decide)
  exact ⟨by decide, hothers, howned, fun heq => absurd (hname.1 heq).2 (by decide),
    hignores neighbors claimed [crowded, shared] hothers howned⟩

end Plan

end

end ProfilingOperator
