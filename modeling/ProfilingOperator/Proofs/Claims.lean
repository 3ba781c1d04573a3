import ProfilingOperator.Proofs.Course

/-!
# The claims a pass leaves

A pass that manages its pods claims some of them, each under the name it was claimed with before or under the job's
own.  Every other status a pass stores has the claims the job had.

    sought_of_owned : under owned claims every pod is looked at under the job's own name
    claim_of_settle : a claim left by a pass is on one of its pods
    owned_of_due : if every claim read has the job's container name, so has every claim stored
-/

namespace ProfilingOperator

/-! ## Owned claims -/

/-- Every claim is one on a container of a name. -/
def StringMap.Owned (container : String) (m : StringMap String) : Prop :=
  ∀ k v, m.get? k = some v → v = container

/-- Every claim a job has reported is one on a container of a name. -/
def Job.Owned (container : String) (j : Job) : Prop :=
  j.reported.activePods.Owned container

/-! ## Lemmas -/

theorem StringMap.owned_empty {container : String} : (StringMap.empty : StringMap String).Owned container :=
  fun k v hv => by cases hv

theorem StringMap.Owned.insert {container : String} {m : StringMap String} (h : m.Owned container) (k : String) :
    (m.insert k container).Owned container := by
  intro j v hv
  rw [StringMap.get?_insert] at hv
  split at hv
  · exact (Option.some.inj hv).symm
  · exact h j v hv

namespace Pass

section
variable {now : Stamp} {space name container : String} {log : List Answered} {job : Job} {pods : List Pod}

@[simp] theorem reported_withStatus (j : Job) (s : Job.Status) : (j.withStatus s).reported = s := rfl

@[simp] theorem activePods_managed (active : StringMap String) (trouble : Option String) :
    (managed now job pods active trouble).activePods = active := by
  simp [managed]

/-- If every claim is one on the job's container, every pod is looked at under its name. -/
theorem sought_of_owned {prior : StringMap String} (h : prior.Owned container) (p : Pod) :
    Plan.sought prior container p = container := by
  unfold Plan.sought
  cases hc : prior.get? p.name with
  | none => rfl
  | some n => exact h _ _ hc

/-- A claim there is after some pods were tried was there before, or is the job's own on one of them. -/
theorem get?_settle {results : List ((Pod × Nat) × Except Failure Unit)} {active : StringMap String}
    {trouble : Option String} {k v : String}
    (h : (settle container results active trouble).1.get? k = some v) :
    active.get? k = some v ∨ (v = container ∧ ∃ e ∈ results.map (·.1), e.1.name = k) := by
  induction results generalizing active trouble with
  | nil => exact .inl h
  | cons r results ih =>
    obtain ⟨e, o⟩ := r
    have grow : (∃ e ∈ results.map (·.1), e.1.name = k) →
        ∃ e' ∈ (((e, o) :: results).map (·.1) : List (Pod × Nat)), e'.1.name = k :=
      fun ⟨e', he, hk⟩ => ⟨e', List.mem_cons_of_mem _ he, hk⟩
    cases o with
    | error f => exact (ih h).imp id fun ⟨hv, he⟩ => ⟨hv, grow he⟩
    | ok u =>
      rcases ih h with h | ⟨hv, he⟩
      · rw [StringMap.get?_insert] at h
        split at h
        · next hk => exact .inr ⟨(Option.some.inj h).symm, e, List.mem_cons_self, hk.symm⟩
        · exact .inl h
      · exact .inr ⟨hv, grow he⟩

/-- A claim a pass leaves is on one of its pods, and it is a claim the job had or one of its own. -/
theorem claim_of_settle {results : List ((Pod × Nat) × Except Failure Unit)} {active : StringMap String}
    {trouble : Option String} {k v : String} (hr : results.map (·.1) = attempted job pods container)
    (hs : settle container results (planFor job pods container).active none = (active, trouble))
    (h : active.get? k = some v) :
    (∃ p ∈ pods, p.name = k) ∧ (job.reported.activePods.get? k = some v ∨ v = container) := by
  have hactive : active = (settle container results (planFor job pods container).active none).1 :=
    (congrArg Prod.fst hs).symm
  rw [hactive] at h
  rcases get?_settle h with h | ⟨hv, e, he, hk⟩
  · obtain ⟨p, hp, rfl, hv, -⟩ := Plan.mem_active h
    refine ⟨⟨p, hp, rfl⟩, ?_⟩
    unfold Plan.sought at hv
    cases hc : job.reported.activePods.get? p.name with
    | none =>
      rw [hc] at hv
      exact .inr hv.symm
    | some n =>
      rw [hc] at hv
      exact .inl (congrArg some hv)
  · refine ⟨⟨e.1, ?_, hk⟩, .inr hv⟩
    rw [hr] at he
    unfold attempted at he
    split at he
    · exact absurd he List.not_mem_nil
    · exact (Plan.mem_create he).1

/-- If all claims a pass can have started from have the job's container name, so have those it stores. -/
theorem owned_of_due {sent : Job} (h : Due now space name log (.replaceStatus sent))
    (hread : ∀ read uid, Read space name log read uid → read.Owned (Job.containerName name uid))
    (hworks : ∀ read uid job, Works now space name log read uid job → job.Owned (Job.containerName name uid)) :
    ∃ read uid, Read space name log read uid ∧ sent.Owned (Job.containerName name uid) := by
  cases h with
  | setUp hr => exact ⟨_, _, hr, fun k v hv => hread _ _ hr k v hv⟩
  | abandon hw => exact ⟨_, _, hw.toRead, fun k v hv => hworks _ _ _ hw k v hv⟩
  | makeWay hr => exact ⟨_, _, hr.toRead, fun k v hv => hworks _ _ _ hr.toWorks k v hv⟩
  | store hc hr hs =>
    refine ⟨_, _, hc.toRead, fun k v hv => ?_⟩
    rw [reported_withStatus, activePods_managed] at hv
    rcases (claim_of_settle hr hs hv).2 with hv | hv
    · exact hworks _ _ _ hc.toWorks k v hv
    · exact hv

end

end Pass

end ProfilingOperator
