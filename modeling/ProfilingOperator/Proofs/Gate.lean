import ProfilingOperator.Proofs.Course

/-!
# The gate before a container

A pass over a job adds a container to a pod, or asks for the token of one, only past a gate: the job stands and is
not done with, its tool is registered and allowed, the pod is one of those its selector accepts, and no other job
claims any of them.  This holds whatever the calls of the pass are answered with, and whichever of them fail.

    called_past_gate : a call that adds a container or issues a token is made past the gate, once for a pod
-/

namespace ProfilingOperator.Pass

/-! ## The gate -/

/-- What a pass knows of a job, its registry entry and its pods before it adds a container. -/
structure Gate (now : Stamp) (space name : String) (log : List Answered) (read : Job) (uid : String) (job : Job)
    (entry : Tool) (pods : List Pod) : Prop where
  /-- The job was found. -/
  found : ∃ rest, log = ⟨.getJob space name, Except.ok (some read)⟩ :: rest
  /-- Nobody asked for its deletion. -/
  stands : read.metadata.deletionTimestamp = none
  identity : read.metadata.uid = some uid
  /-- The job worked on is the one read, or what was stored of it when it was set up as pending. -/
  origin : (read.phase ≠ none ∧ job = read) ∨
    (read.phase = none ∧ (setUp now read).phase = some .pending ∧
      Saw log (.replaceStatus (setUp now read)) (Except.ok job))
  unfinished : job.phase ≠ some .completed ∧ job.phase ≠ some .failed
  /-- The registry has an entry of the tool. -/
  registered : Saw log (.findTool job.spec.tool.name space) (Except.ok (some entry))
  allowed : entry.spec.allowedNamespaces = [] ∨ space ∈ entry.spec.allowedNamespaces
  /-- The pods are those of the list whose labels the selector accepts. -/
  picked : ∃ selector compiled listed, job.spec.targets.selector = some selector ∧
    Selector.compile selector = .ok compiled ∧ Saw log (.listPods space compiled.query) (Except.ok listed) ∧
    pods = listed.filter fun p => compiled.accepts p.labels
  /-- No other job of the namespace that is not done with claims any of the pods. -/
  clear : ∃ others, Saw log (.listJobs space) (Except.ok others) ∧
    Conflict.detect job (targetNames pods) others = none ∧
    ∀ other ∈ others, Conflict.sameJob job other = false → other.space = job.space → other.isTerminal = false →
      ∀ t ∈ targetNames pods, t ∉ other.claims

/-- A pod declares no ephemeral container of the name it is looked at under: that of its claim, or the job's. -/
def Lacking (job : Job) (container : String) (pod : Pod) : Prop :=
  ∀ c ∈ pod.ephemeralContainers, c.name ≠ (job.reported.activePods.get? pod.name).getD container

/-! ## Lemmas -/

section
variable {now : Stamp} {space name uid container : String} {log : List Answered} {read job : Job}
  {tool : Tool.Spec} {pods : List Pod} {pod : Pod}

/-- A pass that is cleared for its pods stands past the gate with each of them. -/
theorem Cleared.gate (h : Cleared now space name log read uid job tool pods) (ht : job.isTerminal = false)
    (hp : pod ∈ pods) : ∃ entry, Gate now space name log read uid job entry pods ∧ entry.spec = tool := by
  obtain ⟨entry, hfound, rfl⟩ := h.found
  refine ⟨entry, ?_, rfl⟩
  constructor
  · exact h.first
  · have hd := h.stands
    rwa [Metadata.isDeleting, Option.isSome_eq_false_iff, Option.isNone_iff_eq_none] at hd
  · exact h.identity
  · rcases h.origin with ⟨hr, hj, -⟩ | ⟨hr, hs, -⟩
    · exact .inl ⟨hr, hj⟩
    · exact .inr ⟨hr, rfl, hs⟩
  · have hn : ¬ (job.phase = some .completed ∨ job.phase = some .failed) := by
      rw [← Job.isTerminal_iff, ht]
      exact Bool.false_ne_true
    exact not_or.1 hn
  · exact hfound
  · have ha := h.allowed
    simpa [Tool.Spec.allows] using ha
  · rcases h.resolved with ⟨-, hnil⟩ | hsome
    · rw [hnil] at hp
      exact absurd hp List.not_mem_nil
    · exact hsome
  · rcases h.clear with hdone | ⟨others, hl, hc⟩
    · rw [ht] at hdone
      exact absurd hdone Bool.false_ne_true
    · refine ⟨others, hl, hc, fun other ho hne hs hu => ?_⟩
      exact Conflict.detect_eq_none_iff.1 hc other ho (Conflict.rivals_iff.2 ⟨hne, hs, hu⟩)

/-- The pods tried so far and the next one are pods of the job, in order. -/
theorem tried_sublist {before rest : List (Pod × Nat)} {entry : Pod × Nat}
    (h : (planFor job pods container).create = before ++ entry :: rest) :
    (before.map (·.1) ++ [entry.1]).Sublist pods := by
  have hc : ((planFor job pods container).create.map (·.1)).Sublist pods := Plan.create_sublist pods
  rw [h] at hc
  refine List.Sublist.trans ?_ hc
  rw [List.map_append, List.map_cons]
  exact (List.Sublist.refl _).append (List.singleton_sublist.2 List.mem_cons_self)

theorem lacking_of_mem {e : Pod × Nat} (h : e ∈ (planFor job pods container).create) :
    Lacking job container e.1 := by
  have ha := Pod.observe_eq_absent_iff.1 (Plan.mem_create h).2
  intro c hc hname
  have hd : e.1.declares (Plan.sought job.reported.activePods container e.1) = true :=
    List.any_eq_true.2 ⟨c, hc, decide_eq_true hname⟩
  exact Bool.false_ne_true (ha.symm.trans hd)

/-- Every call that adds a container is made past the gate, for a pod of the job that lacks it, with the name and the
image that are due; and every call that issues a token is made past the gate, for such a pod, where results go to the
collector.  The pods called for so far, with this one, are pods of the job in order, so that none gets two calls. -/
theorem called_past_gate {a : Answered} {more : List Answered} {q : Pass Next}
    (h : (reconcile now space name).Goes (log ++ a :: more) q) :
    (∀ pod c, a.call = .addContainer pod c → ∃ read uid job entry pods,
      Gate now space name log read uid job entry pods ∧ pod ∈ pods ∧ (targets log ++ [pod]).Sublist pods ∧
      Lacking job (Job.containerName name uid) pod ∧
      c.name = Job.containerName name uid ∧ c.image = some entry.spec.image) ∧
    ∀ owner lifetime, a.call = .issueToken owner lifetime → ∃ read uid job entry pods tried pod window,
      Gate now space name log read uid job entry pods ∧
      (tried ++ [pod]).Sublist pods ∧ Lacking job (Job.containerName name uid) pod ∧
      (targets log).Sublist tried ∧ tokens log ≤ tried.length ∧
      job.spec.output.mode = .collector ∧ owner = job.name ∧
      Duration.parse job.spec.tool.duration = .ok window ∧ Token.lifetime? window = some lifetime := by
  have due : Due now space name log a.call := due_of_goes h
  constructor
  · intro pod c hc
    rw [hc] at due
    cases due with
    | addContainer hcl ht hplace hadded =>
      have hsub := tried_sublist hplace
      have hmem : _ ∈ (planFor _ _ _).create := hplace ▸ List.mem_append_right _ List.mem_cons_self
      have hpod := (Plan.mem_create hmem).1
      obtain ⟨entry, gate, rfl⟩ := hcl.gate ht hpod
      exact ⟨_, _, _, entry, _, gate, hpod, (hadded.append_right _).trans hsub, lacking_of_mem hmem, rfl, rfl⟩
  · intro owner lifetime hc
    rw [hc] at due
    cases due with
    | issueToken turn hm hw hl =>
      have hsub := tried_sublist turn.place
      have hmem : _ ∈ (planFor _ _ _).create := turn.place ▸ List.mem_append_right _ List.mem_cons_self
      obtain ⟨entry, gate, -⟩ := turn.gate turn.goesOn (Plan.mem_create hmem).1
      refine ⟨_, _, _, entry, _, _, _, _, gate, hsub, lacking_of_mem hmem, turn.added, ?_, hm, rfl, hw, hl⟩
      rw [List.length_map]
      exact turn.spent

end

/-- The pass over the sample job is past the gate when it adds its container. -/
theorem sample_past_gate : ∃ read uid job entry pods,
    Gate Sample.now "shop" "trace" Sample.log read uid job entry pods ∧ Sample.pod ∈ pods ∧
    (targets Sample.log ++ [Sample.pod]).Sublist pods ∧ Lacking job (Job.containerName "trace" uid) Sample.pod ∧
    Sample.container.name = Job.containerName "trace" uid ∧ Sample.container.image = some entry.spec.image := by
  obtain ⟨next, h⟩ := Sample.goes_to_container
  exact (called_past_gate (h.append_call (Except.ok ()))).1 _ _ rfl

end ProfilingOperator.Pass
