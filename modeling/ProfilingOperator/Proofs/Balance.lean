import Mathlib.Algebra.Group.Nat.Defs
import ProfilingOperator.Proofs.Claims
import ProfilingOperator.Proofs.Contest
import ProfilingOperator.Proofs.Ending

/-!
# Counts and claims after a pass

A status is balanced if its claims are on the pods of the pass and each of these is either claimed or completed.  The
management of containers leaves a balanced status.  Making way does not: the pods are counted anew, while the claims
and the completed pods stay those of an earlier pass.

    balanced_concluded : what comes of the management is balanced
    balanced_iff : the status of a pass that ends with a value is balanced unless the pass made way
-/

namespace ProfilingOperator

namespace Requeue

/-- No phase waits as long as a conflict does. -/
theorem interval_ne_conflict (p : Option Job.Phase) : interval p ≠ conflict := by
  rcases p with - | p
  · decide
  · cases p <;> decide

end Requeue

namespace Balance

open Pass Cluster

/-! ## Balanced statuses -/

/-- The claims of a status are on some pods, and of the pods it counts those without a claim are completed. -/
structure Balanced (pods : List Pod) (s : Job.Status) : Prop where
  claimed : ∀ k ∈ s.activePods.keys, ∃ p ∈ pods, p.name = k
  counted : s.completedPods + s.activePods.size = s.selectedPods

/-! ## Lemmas -/

section
variable {now : Stamp} {space name container : String} {log : List Answered} {read job : Job} {pods : List Pod}
  {c d : Cluster}

theorem managed_eq (now : Stamp) (job : Job) (pods : List Pod) (active : StringMap String) (trouble : Option String) :
    ∃ phase conditions finishedAt, managed now job pods active trouble =
      { selected job pods with
        phase := phase, completedPods := Progress.count pods.length - Progress.count active.size,
        activePods := active, conditions := conditions, finishedAt := finishedAt, lastError := trouble } := by
  obtain ⟨conditions, hsettled⟩ := settled_eq now job (selected job pods)
  unfold managed
  rw [hsettled]
  obtain ⟨phase, conditions, finishedAt, hproject⟩ := Job.Status.project_eq
    { selected job pods with conditions := conditions, lastError := trouble } (Progress.count pods.length) active now
  exact ⟨phase, conditions, finishedAt, hproject⟩

theorem size_settle_le (container : String) (results : List ((Pod × Nat) × Except Pass.Failure Unit))
    (active : StringMap String) (trouble : Option String) :
    (settle container results active trouble).1.size ≤ active.size + results.length := by
  induction results generalizing active trouble with
  | nil => exact Nat.le_refl _
  | cons r results ih =>
    obtain ⟨e, o⟩ := r
    rw [List.length_cons]
    cases o with
    | ok u =>
      have hrest := ih (active.insert e.1.name container) trouble
      have hinsert := StringMap.size_insert_le active e.1.name container
      simp only [settle]
      omega
    | error f =>
      have hrest := ih active (some (injectionMessage e.1 f))
      simp only [settle]
      omega

/-- After the trials no more pods are claimed than were resolved. -/
theorem size_claims_le {results : List ((Pod × Nat) × Except Pass.Failure Unit)}
    (hr : results.map (·.1) = attempted job pods container) :
    (settle container results (planFor job pods container).active none).1.size ≤ pods.length := by
  have hsettle := size_settle_le container results (planFor job pods container).active none
  have hplan : (planFor job pods container).active.size + (planFor job pods container).create.length ≤ pods.length :=
    Plan.size_add_create_le pods
  have htried : results.length ≤ (planFor job pods container).create.length := by
    have hlength := congrArg List.length hr
    rw [List.length_map] at hlength
    rw [hlength, attempted]
    split
    · exact Nat.zero_le _
    · exact Nat.le_refl _
  omega

/-- What comes of the management of containers is balanced, for fewer than `2 ^ 32` pods: they are counted in 32
bits. -/
theorem balanced_concluded {results : List ((Pod × Nat) × Except Pass.Failure Unit)}
    (hr : results.map (·.1) = attempted job pods container) (hlength : pods.length < 2 ^ 32) :
    Balanced pods (concluded now job pods container results) := by
  have hsize := size_claims_le hr
  unfold concluded
  generalize hout : settle container results (planFor job pods container).active none = out at hsize ⊢
  constructor
  · intro k hk
    rw [activePods_managed, StringMap.mem_keys_iff] at hk
    obtain ⟨v, hv⟩ := Option.isSome_iff_exists.1 hk
    exact (claim_of_settle hr hout hv).1
  · obtain ⟨phase, conditions, finishedAt, hmanaged⟩ := managed_eq now job pods out.1 out.2
    rw [hmanaged]
    show Progress.count pods.length - Progress.count out.1.size + out.1.size = Progress.count pods.length
    rw [Progress.count_of_lt hlength, Progress.count_of_lt (Nat.lt_of_le_of_lt hsize hlength)]
    omega

theorem balanced_markConflicted {s : Job.Status} {con : Conflict} :
    Balanced pods (s.markConflicted con now) ↔ Balanced pods s :=
  ⟨fun h => ⟨h.claimed, h.counted⟩, fun h => ⟨h.claimed, h.counted⟩⟩

end

/-- A pass over a job that stands, if it ends with a value, leaves a balanced status of the pods it has resolved, except
where it made way: there the status is balanced only if the old claims and the old count of completed pods happen to
fit the pods of this pass. -/
theorem balanced_iff {now : Stamp} {space name : String} {c d : Cluster} {log : List Answered} {next : Next}
    {read : Job} (hs : Served c log d) (hend : (reconcile now space name).Ends log (.done next))
    (hj : c.job? space name = some read) (hstands : read.metadata.isDeleting = false) :
    ∃ uid job tool pods before rest status, log = before ++ rest ∧
      Resolution now space name before read uid job tool pods ∧
      (d.job? space name).bind Job.status = some status ∧
      (pods.length < 2 ^ 32 →
        (Balanced pods status ↔ next ≠ .after Requeue.conflict ∨ Balanced pods (selected job pods))) := by
  obtain ⟨uid, job, tool, pods, before, rest, status, hlog, hr, hstored, hexit⟩ := status_of_done hs hend hj hstands
  refine ⟨uid, job, tool, pods, before, rest, status, hlog, hr, hstored, fun hlength => ?_⟩
  -- what the pass asks for tells the two exits apart
  rcases hexit with ⟨rfl, con, rfl⟩ | ⟨hnext, results, hresults, rfl⟩
  · rw [balanced_markConflicted]
    simp
  · have hother : next ≠ .after Requeue.conflict := by
      rw [hnext]
      exact fun h => Requeue.interval_ne_conflict _ (Next.after.inj h)
    exact iff_of_true (balanced_concluded hresults hlength) (.inl hother)

/-! ## A job that makes way with an old claim -/

/-- A job with a claim on a pod that is gone. -/
def stale : Job :=
  Sample.job.withStatus
    { Contest.holder.reported with activePods := StringMap.empty.insert "gone" "powertool-trace-7f9c" }

def desk : Pod :=
  ⟨Sample.metadata "desk" "44dd", Sample.pod.spec, none⟩

/-- A cluster in which another job holds one of the pods of the job. -/
def crowd : Cluster :=
  ⟨[stale, Contest.rival], [Sample.pod, desk], [Sample.tool], "ops", false⟩

/-- The log of a whole pass over the job, in which no call fails. -/
def crowdLog : List Answered :=
  (reconcile Sample.now "shop" "trace").record Session.answer (Session.start crowd [])

/-- The pass over the job is one whose status depends on what was counted before. -/
theorem crowd_makes_way : ∃ uid job tool pods before rest status, crowdLog = before ++ rest ∧
    Resolution Sample.now "shop" "trace" before stale uid job tool pods ∧
    ((Sample.afterPass "trace" crowd).job? "shop" "trace").bind Job.status = some status ∧
    (pods.length < 2 ^ 32 → (Balanced pods status ↔
      Next.after Requeue.conflict ≠ .after Requeue.conflict ∨ Balanced pods (selected job pods))) := by
  have hend : (reconcile Sample.now "shop" "trace").Ends crowdLog (.done (.after Requeue.conflict)) :=
    goes_run Session.answer _ (Session.start crowd [])
  exact balanced_iff (served_run _ (Session.start crowd [])) hend rfl rfl

/-- A pass over the job makes way, and the status it leaves is not balanced. -/
theorem making_way_keeps_an_old_claim :
    ((reconcile Sample.now "shop" "trace").run Session.answer (Session.start crowd [])).1 =
      .done (.after Requeue.conflict) ∧
    ∃ status, ((Sample.afterPass "trace" crowd).job? "shop" "trace").bind Job.status = some status ∧
      "gone" ∈ status.activePods.keys ∧ (∀ p ∈ crowd.pods, p.name ≠ "gone") ∧
      status.completedPods + status.activePods.size ≠ status.selectedPods := by
  refine ⟨rfl, _, rfl, ?_, ?_, ?_⟩
  · decide
  · decide
  · decide

end Balance

end ProfilingOperator
