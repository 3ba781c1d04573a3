import ProfilingOperator.Lifecycle

/-!
# What a plan holds

A pod is looked at under one container name: that of its claim, or the job's own.  A plan creates a container in the
pods where that container is absent, in order, and goes on with the claims on the pods where it runs.

    create_of : (Plan.of prior pods container).create = pods.zipIdx.filter (lacks prior container)
    mem_active : active.get? k = some v → v runs in a pod of the name k
-/

namespace ProfilingOperator.Plan

/-! ## Looking at pods -/

/-- The name under which the container of a pod is looked for. -/
def sought (prior : StringMap String) (container : String) (p : Pod) : String :=
  (prior.get? p.name).getD container

/-- The container looked for runs in a pod. -/
def lives (prior : StringMap String) (container : String) (p : Pod) : Bool :=
  p.observe (sought prior container p) = .running

/-- The container looked for is absent from a pod. -/
def lacks (prior : StringMap String) (container : String) (entry : Pod × Nat) : Bool :=
  entry.1.observe (sought prior container entry.1) = .absent

/-! ## Lemmas -/

section
variable {prior : StringMap String} {container : String}

/-- One pod adds its claim where its container runs, and itself where its container is absent. -/
theorem step_eq (plan : Plan) (e : Pod × Nat) :
    step prior container plan e =
      ⟨if lives prior container e.1 then plan.active.insert e.1.name (sought prior container e.1) else plan.active,
        if lacks prior container e then plan.create ++ [e] else plan.create⟩ := by
  rcases Option.eq_none_or_eq_some (prior.get? e.1.name) with hc | ⟨n, hc⟩
  · cases ho : e.1.observe container <;> simp [step, lives, lacks, sought, Decision.decide, hc, ho]
  · cases ho : e.1.observe n <;> simp [step, lives, lacks, sought, Decision.decide, hc, ho]

theorem create_foldl (l : List (Pod × Nat)) (plan : Plan) :
    (l.foldl (step prior container) plan).create = plan.create ++ l.filter (lacks prior container) := by
  induction l generalizing plan with
  | nil => simp
  | cons e l ih =>
    rw [List.foldl_cons, ih, step_eq, List.filter_cons]
    cases lacks prior container e <;> simp

/-- The pods a plan creates a container in, in order. -/
theorem create_of (pods : List Pod) :
    (of prior pods container).create = pods.zipIdx.filter (lacks prior container) := by
  rw [of, create_foldl, List.nil_append]

theorem create_sublist (pods : List Pod) : ((of prior pods container).create.map (·.1)).Sublist pods := by
  rw [create_of]
  have h := (List.filter_sublist (p := lacks prior container) (l := pods.zipIdx)).map (·.1)
  rwa [List.zipIdx_map_fst] at h

theorem mem_create {pods : List Pod} {e : Pod × Nat} (h : e ∈ (of prior pods container).create) :
    e.1 ∈ pods ∧ e.1.observe (sought prior container e.1) = .absent := by
  refine ⟨(create_sublist pods).mem (List.mem_map_of_mem h), ?_⟩
  rw [create_of] at h
  simpa [lacks] using (List.mem_filter.1 h).2

theorem mem_active_foldl {l : List (Pod × Nat)} {plan : Plan} {k v : String}
    (h : (l.foldl (step prior container) plan).active.get? k = some v) :
    plan.active.get? k = some v ∨
      ∃ e ∈ l, e.1.name = k ∧ sought prior container e.1 = v ∧ lives prior container e.1 = true := by
  induction l generalizing plan with
  | nil => exact .inl h
  | cons e l ih =>
    rcases ih h with h | ⟨e', he', h⟩
    · rw [step_eq] at h
      simp only at h
      split at h
      · next hr =>
        rw [StringMap.get?_insert] at h
        split at h
        · next hk => exact .inr ⟨e, List.mem_cons_self, hk.symm, Option.some.inj h, hr⟩
        · exact .inl h
      · exact .inl h
    · exact .inr ⟨e', List.mem_cons_of_mem _ he', h⟩

/-- A claim a plan goes on with is on a pod in which the claimed container runs. -/
theorem mem_active {pods : List Pod} {k v : String}
    (h : (of prior pods container).active.get? k = some v) :
    ∃ p ∈ pods, p.name = k ∧ sought prior container p = v ∧ lives prior container p = true := by
  rcases mem_active_foldl h with h | ⟨e, he, h⟩
  · simp at h
  · exact ⟨e.1, List.fst_mem_of_mem_zipIdx he, h⟩

theorem contains_active_foldl {l : List (Pod × Nat)} {plan : Plan} {k : String}
    (h : (plan.active.get? k).isSome = true ∨ ∃ e ∈ l, e.1.name = k ∧ lives prior container e.1 = true) :
    ((l.foldl (step prior container) plan).active.get? k).isSome = true := by
  induction l generalizing plan with
  | nil => simpa using h
  | cons e l ih =>
    apply ih
    rw [step_eq]
    simp only
    rcases h with h | ⟨e', he', hk, hr⟩
    · left
      split
      · rw [StringMap.get?_insert]
        split <;> simp [h]
      · exact h
    · rcases List.mem_cons.1 he' with rfl | he'
      · left
        rw [if_pos hr, hk, StringMap.get?_insert_self]
        rfl
      · exact .inr ⟨e', he', hk, hr⟩

/-- A pod in which its container runs is claimed. -/
theorem contains_active {pods : List Pod} {p : Pod} (hp : p ∈ pods) (hr : lives prior container p = true) :
    ((of prior pods container).active.get? p.name).isSome = true := by
  obtain ⟨i, hi⟩ := List.mem_iff_getElem?.1 hp
  exact contains_active_foldl (.inr ⟨(p, i), List.mk_mem_zipIdx_iff_getElem?.2 hi, rfl, hr⟩)

/-- Each pod counts at most once, as a claim or as one to be tried. -/
theorem size_add_create_foldl_le (l : List (Pod × Nat)) (plan : Plan) :
    (l.foldl (step prior container) plan).active.size + (l.foldl (step prior container) plan).create.length ≤
      plan.active.size + plan.create.length + l.length := by
  induction l generalizing plan with
  | nil => exact Nat.le_refl _
  | cons e l ih =>
    have hrest := ih (step prior container plan e)
    have hstep : (step prior container plan e).active.size + (step prior container plan e).create.length ≤
        plan.active.size + plan.create.length + 1 := by
      rw [step_eq]
      simp only
      -- a container does not run where it is absent
      cases hlives : lives prior container e.1 with
      | true =>
        have hlacks : lacks prior container e = false := by
          have hruns : e.1.observe (sought prior container e.1) = .running := by simpa [lives] using hlives
          simp [lacks, hruns]
        rw [hlacks]
        have hsize := StringMap.size_insert_le plan.active e.1.name (sought prior container e.1)
        simp only [if_true, Bool.false_eq_true, if_false]
        omega
      | false =>
        simp only [Bool.false_eq_true, if_false]
        split
        · rw [List.length_append, List.length_singleton]
          omega
        · omega
    rw [List.foldl_cons, List.length_cons]
    omega

/-- A plan claims a pod or creates a container in it, or neither. -/
theorem size_add_create_le (pods : List Pod) :
    (of prior pods container).active.size + (of prior pods container).create.length ≤ pods.length := by
  have h : (of prior pods container).active.size + (of prior pods container).create.length ≤
      0 + 0 + pods.zipIdx.length := size_add_create_foldl_le pods.zipIdx ⟨.empty, []⟩
  rw [List.length_zipIdx] at h
  omega

end

end ProfilingOperator.Plan
