import Mathlib.Data.List.Forall2
import ProfilingOperator.Proofs.Course
import ProfilingOperator.Proofs.First

/-!
# Which conflict is found

A conflict is looked for among the jobs that are listed.  Here is said without the search which of them stand in the
way: `Same` is when two jobs are one, and a job `Blocks` another from its targets if it is a different one of the same
namespace, is not done with, and claims one of them.

    against_eq_none_iff : against job targets other = none ↔ ¬Blocks job targets other
    exists_detect_iff : a conflict is found ↔ one of the jobs blocks
    detect_of_idle : claims of the job itself, of jobs that are done with and of other namespaces make no difference
    conflict_exact : the first job that blocks is found, with the first of the targets it claims
-/

namespace ProfilingOperator

/-- A job with other claims. -/
def Job.claiming (j : Job) (claims : StringMap String) : Job :=
  j.withStatus { j.reported with activePods := claims }

namespace Conflict

/-! ## Who stands in the way -/

/-- Two jobs are one. -/
inductive Same (a b : Job) : Prop where
  | marked {u : String} (left : a.metadata.uid = some u) (right : b.metadata.uid = some u)
  | unmarked (either : a.metadata.uid = none ∨ b.metadata.uid = none) (name : a.name = b.name)
      (space : a.space = b.space)

/-- A job keeps another from its targets. -/
structure Blocks (job : Job) (targets : List String) (other : Job) : Prop where
  different : ¬Same job other
  near : other.space = job.space
  completed : other.phase ≠ some .completed
  failed : other.phase ≠ some .failed
  claims : ∃ t ∈ targets, t ∈ other.claims

/-- Two states of a job that differ at most in claims that do not count against a job. -/
inductive Idle (job : Job) : Job → Job → Prop where
  | unchanged (other : Job) : Idle job other other
  | own {other : Job} (claims : StringMap String) (same : Same job other) : Idle job other (other.claiming claims)
  | done {other : Job} (claims : StringMap String)
      (terminal : other.phase = some .completed ∨ other.phase = some .failed) :
      Idle job other (other.claiming claims)
  | elsewhere {other : Job} (claims : StringMap String) (far : other.space ≠ job.space) :
      Idle job other (other.claiming claims)

/-- The conflict with one of the jobs, if it stands in the way. -/
def against (job : Job) (targets : List String) (other : Job) : Option Conflict :=
  if rivals job other then withJob targets other else none

/-! ## Lemmas -/

section
variable {job other : Job} {targets targets' : List String} {others others' : List Job} {c : Conflict}

/-- What the detector takes for the job itself is the job itself. -/
theorem sameJob_iff : sameJob job other = true ↔ Same job other := by
  unfold sameJob
  split
  · next u v hu hv =>
    constructor
    · intro h
      exact .marked hu ((of_decide_eq_true h) ▸ hv)
    · rintro (⟨hleft, hright⟩ | ⟨hnone | hnone, -, -⟩)
      · rw [hu] at hleft
        rw [hv] at hright
        exact decide_eq_true ((Option.some.inj hleft).trans (Option.some.inj hright).symm)
      · rw [hu] at hnone
        cases hnone
      · rw [hv] at hnone
        cases hnone
  · next hunmarked =>
    rw [Bool.and_eq_true, decide_eq_true_iff, decide_eq_true_iff]
    constructor
    · rintro ⟨hname, hspace⟩
      refine .unmarked ?_ hname hspace
      cases hu : job.metadata.uid with
      | none => exact .inl rfl
      | some u =>
        cases hv : other.metadata.uid with
        | none => exact .inr rfl
        | some v => exact (hunmarked u v hu hv).elim
    · rintro (⟨hleft, hright⟩ | ⟨-, hname, hspace⟩)
      · exact (hunmarked _ _ hleft hright).elim
      · exact ⟨hname, hspace⟩

/-- A rival blocks if it claims one of the targets. -/
theorem blocks_iff : Blocks job targets other ↔ rivals job other = true ∧ ∃ t ∈ targets, t ∈ other.claims := by
  rw [rivals_iff, ← Bool.not_eq_true, sameJob_iff, ← Bool.not_eq_true, Job.isTerminal_iff, not_or]
  constructor
  · rintro ⟨hdifferent, hnear, hcompleted, hfailed, hclaims⟩
    exact ⟨⟨hdifferent, hnear, hcompleted, hfailed⟩, hclaims⟩
  · rintro ⟨⟨hdifferent, hnear, hcompleted, hfailed⟩, hclaims⟩
    exact ⟨hdifferent, hnear, hcompleted, hfailed, hclaims⟩

theorem against_eq_none_iff : against job targets other = none ↔ ¬Blocks job targets other := by
  rw [blocks_iff]
  unfold against
  split
  · next hrival => simp [hrival, withJob_eq_none_iff]
  · next hrival => simp [hrival]

/-- The conflict with a job that blocks is on the first of the targets it claims. -/
theorem against_eq_some_iff :
    against job targets other = some c ↔
      Blocks job targets other ∧ First (· ∈ other.claims) targets c.pod ∧ c.owner = other.name := by
  have hfind : ∀ t, (targets.find? fun t => other.claims.contains t) = some t ↔ First (· ∈ other.claims) targets t :=
    fun t => find?_eq_some_iff_first fun t => List.contains_iff_mem
  rw [blocks_iff]
  unfold against
  split
  · next hrival =>
    rw [withJob, Option.map_eq_some_iff]
    constructor
    · rintro ⟨t, ht, rfl⟩
      have hfirst := (hfind t).1 ht
      exact ⟨⟨hrival, t, hfirst.mem, hfirst.holds⟩, hfirst, rfl⟩
    · rintro ⟨-, hfirst, howner⟩
      exact ⟨c.pod, (hfind _).2 hfirst, by rw [← howner]⟩
  · next hrival =>
    constructor
    · intro h
      cases h
    · rintro ⟨⟨hr, -⟩, -⟩
      exact absurd hr hrival

theorem detect_eq : detect job targets others = others.findSome? (against job targets) := by
  unfold detect
  induction others with
  | nil => rfl
  | cons other others ih =>
    rw [List.filter_cons, List.findSome?_cons]
    unfold against
    cases rivals job other with
    | false => exact ih
    | true =>
      rw [if_pos rfl, if_pos rfl, List.findSome?_cons]
      cases withJob targets other with
      | none => exact ih
      | some c => rfl

theorem exists_detect_iff : (∃ c, detect job targets others = some c) ↔ ∃ other ∈ others, Blocks job targets other := by
  rw [detect_eq, ← exists_first_iff]
  simp only [findSome?_eq_some_iff_first fun other => against_eq_none_iff]
  constructor
  · rintro ⟨c, other, hfirst, -⟩
    exact ⟨other, hfirst⟩
  · rintro ⟨other, hfirst⟩
    have hblocks := hfirst.holds
    rw [← Classical.not_not (a := Blocks job targets other), ← against_eq_none_iff, ← ne_eq,
      Option.ne_none_iff_exists'] at hblocks
    obtain ⟨c, hc⟩ := hblocks
    exact ⟨c, other, hfirst, hc⟩

/-! ### Claims that do not count -/

@[simp] theorem phase_claiming (j : Job) (claims : StringMap String) : (j.claiming claims).phase = j.phase := by
  obtain ⟨metadata, spec, status⟩ := j
  cases status <;> rfl

theorem same_claiming {claims : StringMap String} (h : Same job other) : Same job (other.claiming claims) := by
  cases h with
  | marked left right => exact .marked left right
  | unmarked either name space => exact .unmarked either name space

/-- A job that is idle against another does not block it. -/
theorem Idle.against_eq (h : Idle job other other') : against job targets other' = against job targets other := by
  cases h with
  | unchanged => rfl
  | own claims same =>
    have hnot : ¬Blocks job targets (other.claiming claims) := fun hb => hb.different (same_claiming same)
    rw [against_eq_none_iff.2 hnot, against_eq_none_iff.2 fun hb => hb.different same]
  | done claims terminal =>
    have hnot : ∀ j : Job, j.phase = other.phase → ¬Blocks job targets j := by
      intro j hphase hb
      rcases terminal with hdone | hdone
      · exact hb.completed (hphase.trans hdone)
      · exact hb.failed (hphase.trans hdone)
    rw [against_eq_none_iff.2 (hnot _ (phase_claiming other claims)), against_eq_none_iff.2 (hnot _ rfl)]
  | elsewhere claims far =>
    have hnot : ¬Blocks job targets (other.claiming claims) := fun hb => far hb.near
    rw [against_eq_none_iff.2 hnot, against_eq_none_iff.2 fun hb => far hb.near]

theorem detect_of_idle (h : List.Forall₂ (Idle job) others others') :
    detect job targets others' = detect job targets others := by
  rw [detect_eq, detect_eq]
  induction h with
  | nil => rfl
  | cons hidle _ ih => rw [List.findSome?_cons, List.findSome?_cons, hidle.against_eq, ih]

end

/-! ## Detection -/

/-- A conflict is found exactly if one of the jobs blocks the targets.  It is the first of these, with the first of
the targets it claims.  Neither the order of the targets nor that of the jobs decides on whether one is found, and
nothing is changed by the status of the job itself and by claims of its own entry, of jobs that are done with and of
other namespaces. -/
theorem conflict_exact (job : Job) (targets : List String) (others : List Job) :
    (∀ c, detect job targets others = some c ↔
      ∃ other, First (Blocks job targets) others other ∧ First (· ∈ other.claims) targets c.pod ∧
        c.owner = other.name) ∧
    ((∃ c, detect job targets others = some c) ↔ ∃ other ∈ others, Blocks job targets other) ∧
    (∀ targets' others', targets'.Perm targets → others'.Perm others →
      ((∃ c, detect job targets' others' = some c) ↔ ∃ c, detect job targets others = some c)) ∧
    ∀ status others', List.Forall₂ (Idle job) others others' →
      detect (job.withStatus status) targets others' = detect job targets others := by
  refine ⟨fun c => ?_, exists_detect_iff, fun targets' others' ht ho => ?_, fun status others' h => ?_⟩
  · rw [detect_eq, findSome?_eq_some_iff_first fun other => against_eq_none_iff]
    refine exists_congr fun other => and_congr_right fun hfirst => ?_
    rw [against_eq_some_iff, and_iff_right hfirst.holds]
  · have hblocks : ∀ other, Blocks job targets' other ↔ Blocks job targets other := by
      intro other
      simp only [blocks_iff, ht.mem_iff]
    simp only [exists_detect_iff, ho.mem_iff, hblocks]
  · rw [← detect_of_idle h]
    rfl

/-! ## A list of jobs -/

/-- A job of a status and some claims. -/
def claimant (m : Metadata) (phase : Job.Phase) (pods : List String) : Job :=
  ⟨m, Pass.Sample.job.spec, some
    { Job.Status.initial with phase := some phase, activePods := .ofList (pods.map fun pod => (pod, "powertool-x")) }⟩

/-- The entry of the sample job, a job that is done with, one of another namespace, and one that stands in the way. -/
def listing : List Job :=
  [claimant (Pass.Sample.metadata "trace" "7f9c") .running ["cart"],
    claimant (Pass.Sample.metadata "old" "33cc") .failed ["cart", "desk"],
    claimant { Pass.Sample.metadata "far" "44dd" with space := some "mall" } .running ["cart"],
    claimant (Pass.Sample.metadata "near" "55ee") .running ["desk", "shelf"]]

/-- The same jobs, of which those that do not stand in the way claim nothing. -/
def cleared : List Job :=
  [claimant (Pass.Sample.metadata "trace" "7f9c") .running [], claimant (Pass.Sample.metadata "old" "33cc") .failed [],
    claimant { Pass.Sample.metadata "far" "44dd" with space := some "mall" } .running [],
    claimant (Pass.Sample.metadata "near" "55ee") .running ["desk", "shelf"]]

theorem idle_listing : List.Forall₂ (Idle Pass.Sample.job) listing cleared :=
  .cons (.own .empty (.marked rfl rfl)) <| .cons (.done .empty (.inr rfl)) <| .cons (.elsewhere .empty (by decide)) <|
    .cons (.unchanged _) .nil

/-- Of these jobs the last is found, in whatever order they are listed, and the claims of the others make no
difference. -/
theorem listing_searched :
    detect Pass.Sample.job ["cart", "shelf", "desk"] listing = some ⟨"shelf", "near"⟩ ∧
    ["desk", "shelf", "cart"].Perm ["cart", "shelf", "desk"] ∧ listing.reverse.Perm listing ∧
    (∃ c, detect Pass.Sample.job ["desk", "shelf", "cart"] listing.reverse = some c) ∧
    List.Forall₂ (Idle Pass.Sample.job) listing cleared ∧
    detect (Pass.Sample.job.withStatus .initial) ["cart", "shelf", "desk"] cleared = some ⟨"shelf", "near"⟩ := by
  obtain ⟨-, -, horder, hidle⟩ := conflict_exact Pass.Sample.job ["cart", "shelf", "desk"] listing
  have hfound : detect Pass.Sample.job ["cart", "shelf", "desk"] listing = some ⟨"shelf", "near"⟩ := by decide
  have htargets : ["desk", "shelf", "cart"].Perm ["cart", "shelf", "desk"] :=
    List.reverse_perm ["cart", "shelf", "desk"]
  have hjobs : listing.reverse.Perm listing := List.reverse_perm listing
  exact ⟨hfound, htargets, hjobs, (horder _ _ htargets hjobs).2 ⟨_, hfound⟩, idle_listing,
    (hidle .initial cleared idle_listing).trans hfound⟩

end Conflict

end ProfilingOperator
