import Mathlib.Algebra.Group.Nat.Defs
import ProfilingOperator.Proofs.Claims
import ProfilingOperator.Proofs.Serving

/-!
# Mutual exclusion of jobs

A job that is not done with holds the pods it claims.  If no pod of a namespace is held by two jobs, then none is after
a pass over one of the jobs that has the cluster to itself, whatever of it fails and wherever it is cut off.  So a job
keeps the others from a pod for as long as it holds it.

    claims_free : what a pass claims, no other job holds
    mutual_exclusion : a pod is held once, and nobody claims a pod that another job holds
-/

namespace ProfilingOperator

/-- A job that is not done with claims a pod. -/
def Job.Holds (j : Job) (pod : String) : Prop :=
  j.isTerminal = false ∧ pod ∈ j.claims

namespace Exclusion

open Pass Cluster

/-! ## Jobs of a namespace -/

/-- The jobs of a namespace, told apart by their names and by their ids. -/
structure Census (space : String) (jobs : List Job) : Prop where
  space : ∀ j ∈ jobs, j.space = some space
  names : jobs.Pairwise fun a b => a.name ≠ b.name
  ids : jobs.Pairwise fun a b => ∀ u, a.metadata.uid = some u → b.metadata.uid ≠ some u

/-- No pod is held by two jobs. -/
def Exclusive (jobs : List Job) : Prop :=
  jobs.Pairwise fun a b => ∀ pod, a.Holds pod → ¬ b.Holds pod

/-- A pass over a job, whole or cut off, turns some jobs into others.  Pods have names. -/
def Passes (space : String) (job : Job) (jobs jobs' : List Job) : Prop :=
  ∃ (c d : Cluster) (now : Stamp) (log : List Answered) (q : Pass Next),
    c.jobs = jobs ∧ d.jobs = jobs' ∧ (∀ p ∈ c.pods, p.metadata.name.isSome = true) ∧
    (reconcile now space job.name).Goes log q ∧ Served c log d

/-- What may become of a job in a pass among other jobs: no other job holds what it claims, and it is done with only if
it counts no claim. -/
structure Fair (others : List Job) (job : Job) : Prop where
  free : ∀ pod ∈ job.claims, ∀ other ∈ others, ¬ other.Holds pod
  goesOn : job.isTerminal = false ∨ Progress.count job.claims.length = 0

/-- A job of a name claims a pod, done with or not. -/
def Claims (jobs : List Job) (name pod : String) : Prop :=
  ∃ j ∈ jobs, j.name = name ∧ pod ∈ j.claims

/-- Passes over jobs of a namespace that are not done with, one after the other. -/
structure Passing (space : String) (run : Nat → List Job) (length : Nat) : Prop where
  census : Census space (run 0)
  exclusive : Exclusive (run 0)
  pass : ∀ n < length, ∃ job ∈ run n, job.isTerminal = false ∧ Passes space job (run n) (run (n + 1))

/-! ## Lemmas -/

theorem claims_eq (j : Job) : j.claims = j.reported.activePods.keys := by
  unfold Job.claims Job.reported
  cases j.status <;> rfl

theorem claims_congr {a b : Job} (h : a.status = b.status) : a.claims = b.claims := by
  unfold Job.claims
  rw [h]

theorem isTerminal_congr {a b : Job} (h : a.status = b.status) : a.isTerminal = b.isTerminal := by
  unfold Job.isTerminal Job.phase
  rw [h]

theorem Fair.congr {others : List Job} {a b : Job} (h : Fair others a) (hs : b.status = a.status) :
    Fair others b := by
  constructor
  · rw [claims_congr hs]
    exact h.free
  · rw [isTerminal_congr hs, claims_congr hs]
    exact h.goesOn

theorem pairwise_replaced {R : Job → Job → Prop} {before after : List Job} {a b : Job}
    (h : (before ++ a :: after).Pairwise R) (hl : ∀ x ∈ before, R x a → R x b)
    (hr : ∀ x ∈ after, R a x → R b x) : (before ++ b :: after).Pairwise R := by
  obtain ⟨hbefore, hrest, hcross⟩ := List.pairwise_append.1 h
  obtain ⟨ha, hafter⟩ := List.pairwise_cons.1 hrest
  refine List.pairwise_append.2 ⟨hbefore, List.pairwise_cons.2 ⟨fun x hx => hr x hx (ha x hx), hafter⟩, ?_⟩
  intro x hx y hy
  rcases List.mem_cons.1 hy with rfl | hy
  · exact hl x hx (hcross x hx a List.mem_cons_self)
  · exact hcross x hx y (List.mem_cons_of_mem _ hy)

section
variable {space : String} {before after jobs : List Job} {job cur : Job}

theorem Census.replaced (h : Census space (before ++ job :: after)) (ha : job.Alike cur) :
    Census space (before ++ cur :: after) := by
  constructor
  · intro j hj
    rcases mem_of_mem_replaced rfl hj with hj | rfl
    · exact h.space j hj
    · exact ha.space.trans (h.space job (List.mem_append_right _ List.mem_cons_self))
  · refine pairwise_replaced h.names (fun x _ hx => ?_) fun x _ hx => ?_
    · rw [ha.name]
      exact hx
    · rw [ha.name]
      exact hx
  · refine pairwise_replaced h.ids (fun x _ hx => ?_) fun x _ hx => ?_
    · rw [ha.uid]
      exact hx
    · rw [ha.uid]
      exact hx

theorem Exclusive.replaced (h : Exclusive (before ++ job :: after)) (hf : Fair (before ++ after) cur) :
    Exclusive (before ++ cur :: after) := by
  refine pairwise_replaced h (fun x hx _ pod hheld hcur => ?_) fun x hx _ pod hcur hheld => ?_
  · exact hf.free pod hcur.2 x (List.mem_append_left _ hx) hheld
  · exact hf.free pod hcur.2 x (List.mem_append_right _ hx) hheld

theorem Exclusive.free {other : Job} {pod : String} (h : Exclusive (before ++ job :: after))
    (hj : job.Holds pod) (ho : other ∈ before ++ after) : ¬ other.Holds pod := by
  obtain ⟨-, hrest, hcross⟩ := List.pairwise_append.1 h
  rcases List.mem_append.1 ho with ho | ho
  · exact fun hheld => hcross other ho job List.mem_cons_self pod hheld hj
  · exact (List.pairwise_cons.1 hrest).1 other ho pod hj

theorem Census.eq_of_name {a b : Job} (h : Census space jobs) (ha : a ∈ jobs) (hb : b ∈ jobs)
    (hn : a.name = b.name) : a = b :=
  eq_of_pairwise_ne h.names ha hb hn

theorem Census.placed (h : Census space (before ++ job :: after)) : Placed space job.name before job := by
  have hmem : job ∈ before ++ job :: after := List.mem_append_right _ List.mem_cons_self
  refine ⟨isAt_iff.2 ⟨h.space job hmem, rfl⟩, fun j hj => ?_⟩
  have hne : j.name ≠ job.name := (List.pairwise_append.1 h.names).2.2 j hj job List.mem_cons_self
  rw [← Bool.not_eq_true, isAt_iff]
  exact fun hat => hne hat.2

theorem Census.sameJob_eq_false {work other : Job} (h : Census space (before ++ job :: after))
    (ha : job.Alike work) (ho : other ∈ before ++ after) : Conflict.sameJob work other = false := by
  have hname : other.name ≠ job.name := by
    rcases List.mem_append.1 ho with ho | ho
    · exact (List.pairwise_append.1 h.names).2.2 other ho job List.mem_cons_self
    · exact ((List.pairwise_cons.1 (List.pairwise_append.1 h.names).2.1).1 other ho).symm
  have hid : ∀ u, job.metadata.uid = some u → other.metadata.uid ≠ some u := by
    rcases List.mem_append.1 ho with ho | ho
    · exact fun u hj hother => (List.pairwise_append.1 h.ids).2.2 other ho job List.mem_cons_self u hother hj
    · exact (List.pairwise_cons.1 (List.pairwise_append.1 h.ids).2.1).1 other ho
  apply Conflict.sameJob_eq_false
  · rw [ha.name]
    exact hname.symm
  · rw [ha.uid]
    exact hid

/-! ### What a pass stores -/

section
variable {now : Stamp} {uid : String} {log : List Answered} {c : Cluster}

/-- A job that was not done with is worked on with the claims it had. -/
theorem work_of_told {read work : Job} (htold : ∀ a ∈ log, Told c before job after a) (ht : job.isTerminal = false)
    (h : Works now space job.name log read uid work) :
    job.Alike work ∧ work.isTerminal = false ∧ work.claims = job.claims := by
  obtain ⟨halike, ⟨-, rfl⟩ | ⟨-, hs⟩⟩ := works_of_told htold h
  · exact ⟨halike, ht, rfl⟩
  · refine ⟨halike, ?_, ?_⟩
    · rw [Job.isTerminal, Job.phase, hs]
      rfl
    · rw [claims_eq, claims_eq, Job.reported, hs]
      rfl

/-- The pods of a pass are free: no other job holds one of them. -/
theorem pods_free {read work : Job} {tool : Tool.Spec} {pods : List Pod}
    (census : Census space (before ++ job :: after)) (ht : job.isTerminal = false)
    (hnamed : ∀ p ∈ c.pods, p.metadata.name.isSome = true) (htold : ∀ a ∈ log, Told c before job after a)
    (h : Cleared now space job.name log read uid work tool pods) :
    ∀ p ∈ pods, ∀ other ∈ before ++ after, ¬ other.Holds p.name := by
  intro p hp other hother hholds
  obtain ⟨halike, hwork, -⟩ := work_of_told htold ht h.toWorks
  obtain hdone | ⟨others, hl, hnone⟩ := h.clear
  · rw [hwork] at hdone
    exact Bool.false_ne_true hdone
  -- the other job is among those listed, and it is a rival
  have hspace : other.space = some space := census.space other (mem_of_mem_removed rfl hother)
  have hlisted : other ∈ others := htold _ hl other hother hspace
  have hsame : other.space = work.space := by
    rw [hspace, halike.space]
    exact (census.space job (List.mem_append_right _ List.mem_cons_self)).symm
  have hrival : Conflict.rivals work other = true :=
    Conflict.rivals_iff.2 ⟨census.sameJob_eq_false halike hother, hsame, hholds.1⟩
  -- the pod was listed by its name, so it is one of the targets
  obtain ⟨-, hnil⟩ | ⟨selector, compiled, listed, -, -, hpods, hfilter⟩ := h.resolved
  · rw [hnil] at hp
    exact List.not_mem_nil hp
  rw [hfilter] at hp
  obtain ⟨q, hq, hmeta⟩ := htold _ hpods p (List.mem_filter.1 hp).1
  obtain ⟨n, hn⟩ := Option.isSome_iff_exists.1 (hnamed q hq)
  have hname : p.metadata.name.getD "" = p.name := by
    rw [Pod.name, hmeta, Metadata.displayName_of_name hn, hn]
    rfl
  have htarget : p.name ∈ targetNames pods := by
    rw [← hname]
    exact List.mem_map_of_mem (hfilter ▸ hp)
  exact Conflict.detect_eq_none_iff.1 hnone other hlisted hrival _ htarget hholds.2

/-- A status a pass asks to store is fair to the other jobs. -/
theorem fair_of_due {sent : Job} (census : Census space (before ++ job :: after))
    (hx : Exclusive (before ++ job :: after)) (ht : job.isTerminal = false)
    (hnamed : ∀ p ∈ c.pods, p.metadata.name.isSome = true) (htold : ∀ a ∈ log, Told c before job after a)
    (h : Due now space job.name log (.replaceStatus sent)) : Fair (before ++ after) sent := by
  have hfree : ∀ pod ∈ job.claims, ∀ other ∈ before ++ after, ¬ other.Holds pod :=
    fun pod hpod other hother => hx.free ⟨ht, hpod⟩ hother
  cases h with
  | setUp hr =>
    obtain rfl := read_of_told htold hr
    refine ⟨?_, .inl rfl⟩
    rw [claims_eq] at hfree ⊢
    exact hfree
  | abandon hw =>
    obtain ⟨-, hwork, hclaims⟩ := work_of_told htold ht hw
    rw [← hclaims, claims_eq] at hfree
    refine ⟨?_, .inl ?_⟩
    · rw [claims_eq]
      exact hfree
    · rw [Job.isTerminal, ← phase_reported] at hwork
      exact hwork
  | makeWay hr =>
    obtain ⟨-, -, hclaims⟩ := work_of_told htold ht hr.toWorks
    rw [← hclaims, claims_eq] at hfree
    refine ⟨?_, .inl rfl⟩
    rw [claims_eq]
    exact hfree
  | @store _ read work id tool pods results active trouble hc hr hs hne =>
    constructor
    · intro pod hpod
      rw [claims_eq, reported_withStatus, activePods_managed, StringMap.mem_keys_iff] at hpod
      obtain ⟨v, hv⟩ := Option.isSome_iff_exists.1 hpod
      obtain ⟨⟨p, hp, rfl⟩, -⟩ := claim_of_settle hr hs hv
      exact pods_free census ht hnamed htold hc p hp
    · by_cases hlive : 0 < Progress.count active.size
      · left
        rw [Job.isTerminal, Job.phase_withStatus, phase_managed, if_pos hlive]
        rfl
      · right
        have hlength : (work.withStatus (managed now work pods active trouble)).claims.length = active.size := by
          rw [claims_eq, reported_withStatus, activePods_managed, StringMap.keys, List.length_map]
          rfl
        rw [hlength]
        omega

/-- What a pass claims, no other job holds. -/
theorem claims_free (census : Census space (before ++ job :: after)) (hx : Exclusive (before ++ job :: after))
    (ht : job.isTerminal = false) (hp : Passes space job (before ++ job :: after) jobs) :
    ∃ cur, jobs = before ++ cur :: after ∧ job.Alike cur ∧ Fair (before ++ after) cur := by
  obtain ⟨c, d, now, log, q, hc, hd, hnamed, hg, hs⟩ := hp
  have hstanding := standing_of_served hc census.placed hg hs
  obtain ⟨cur, hcur, halike, horigin⟩ := hstanding.jobs
  refine ⟨cur, hd.symm.trans hcur, halike, ?_⟩
  rcases horigin with rfl | ⟨sent, r, hsaw, hstatus⟩
  · exact ⟨fun pod hpod other hother => hx.free ⟨ht, hpod⟩ hother, .inl ht⟩
  · obtain ⟨earlier, later, -, htold, hdue⟩ := hstanding.due_of_mem hg hsaw
    exact (fair_of_due census hx ht hnamed htold hdue).congr hstatus

end

/-! ### Passes one after the other -/

/-- A run of a pass in a session is a pass over the job, whatever its schedule makes fail. -/
theorem passes_run (now : Stamp) (space : String) (job : Job) (s : Session)
    (hpods : ∀ p ∈ s.cluster.pods, p.metadata.name.isSome = true) :
    Passes space job s.cluster.jobs ((reconcile now space job.name).run Session.answer s).2.cluster.jobs :=
  ⟨s.cluster, _, now, _, _, rfl, rfl, hpods, goes_run _ _ _, served_run _ _⟩

/-- **The whole run.**  Names stay apart and claims exclusive, pass after pass. -/
theorem Passing.kept {run : Nat → List Job} {length n : Nat} (h : Passing space run length) (hn : n ≤ length) :
    Census space (run n) ∧ Exclusive (run n) := by
  induction n with
  | zero => exact ⟨h.census, h.exclusive⟩
  | succ n ih =>
    obtain ⟨hcensus, hexclusive⟩ := ih (Nat.le_of_succ_le hn)
    obtain ⟨job, hjob, ht, hpass⟩ := h.pass n hn
    obtain ⟨before, after, hsplit⟩ := List.append_of_mem hjob
    rw [hsplit] at hcensus hexclusive hpass
    obtain ⟨cur, hnext, halike, hfair⟩ := claims_free hcensus hexclusive ht hpass
    rw [hnext]
    exact ⟨hcensus.replaced halike, hexclusive.replaced hfair⟩

/-- After a pass a job is the same as before, or it is fair to the others, the job of another name among them. -/
theorem Passing.next {run : Nat → List Job} {length n : Nat} {a b : Job} (h : Passing space run length)
    (hn : n < length) (ha : a ∈ run n) (hb : b ∈ run (n + 1)) :
    b ∈ run n ∨ ((a.name = b.name ∨ ∀ pod ∈ b.claims, ¬ a.Holds pod) ∧
      (b.isTerminal = false ∨ Progress.count b.claims.length = 0)) := by
  obtain ⟨hcensus, hexclusive⟩ := h.kept (Nat.le_of_lt hn)
  obtain ⟨job, hjob, ht, hpass⟩ := h.pass n hn
  obtain ⟨before, after, hsplit⟩ := List.append_of_mem hjob
  rw [hsplit] at hcensus hexclusive hpass ha ⊢
  obtain ⟨cur, hnext, halike, hfair⟩ := claims_free hcensus hexclusive ht hpass
  rw [hnext] at hb
  rcases mem_of_mem_replaced rfl hb with hmem | rfl
  · exact .inl hmem
  · refine .inr ⟨?_, hfair.goesOn⟩
    rcases List.mem_append.1 ha with ha | ha
    · exact .inr fun pod hpod => hfair.free pod hpod a (List.mem_append_left _ ha)
    · rcases List.mem_cons.1 ha with rfl | ha
      · exact .inl halike.name.symm
      · exact .inr fun pod hpod => hfair.free pod hpod a (List.mem_append_right _ ha)

/-- A job that held a pod and never dropped its claim still holds it, unless it has come to `2 ^ 32` claims: they
are counted in 32 bits, and a job that counts none is done with. -/
theorem Passing.holds {run : Nat → List Job} {length first last : Nat} {name pod : String}
    (h : Passing space run length) (hlast : last ≤ length) (hle : first ≤ last)
    (hheld : ∃ a ∈ run first, a.name = name ∧ a.Holds pod)
    (hclaims : ∀ n, first ≤ n → n ≤ last → Claims (run n) name pod) :
    (∃ a ∈ run last, a.name = name ∧ a.Holds pod) ∨
      ∃ n ≤ last, ∃ a ∈ run n, a.name = name ∧ 2 ^ 32 ≤ a.claims.length := by
  induction last with
  | zero =>
    obtain rfl : first = 0 := Nat.le_zero.1 hle
    exact .inl hheld
  | succ last ih =>
    rcases Nat.lt_or_eq_of_le hle with hlt | rfl
    · have hprev := ih (Nat.le_of_succ_le hlast) (Nat.le_of_lt_succ hlt)
        fun n hfirst hn => hclaims n hfirst (Nat.le_succ_of_le hn)
      obtain ⟨b, hb, hbname, hbpod⟩ := hclaims (last + 1) hle (Nat.le_refl _)
      rcases hprev with ⟨a, ha, haname, haholds⟩ | ⟨n, hn, hmany⟩
      · rcases h.next hlast ha hb with hmem | ⟨-, hopen | hcount⟩
        · -- the job is as it was
          have hsame : a = b :=
            (h.kept (Nat.le_of_succ_le hlast)).1.eq_of_name ha hmem (haname.trans hbname.symm)
          exact .inl ⟨b, hb, hbname, hsame ▸ haholds⟩
        · exact .inl ⟨b, hb, hbname, hopen, hbpod⟩
        · have hpos : 0 < b.claims.length := List.length_pos_of_mem hbpod
          exact .inr ⟨last + 1, Nat.le_refl _, b, hb, hbname,
            (Progress.eq_zero_or_le_of_count hcount).resolve_left (Nat.ne_of_gt hpos)⟩
      · exact .inr ⟨n, Nat.le_succ_of_le hn, hmany⟩
    · exact .inl hheld

end

/-- A pass over a job that is not done with leaves every other job as it is and no pod held twice.  So in any sequence
of such passes, while a job that holds a pod does not drop its claim, no other job adds a claim on that pod. -/
theorem mutual_exclusion (space : String) :
    (∀ before job after jobs, Census space (before ++ job :: after) → Exclusive (before ++ job :: after) →
      job.isTerminal = false → Passes space job (before ++ job :: after) jobs →
      ∃ job', jobs = before ++ job' :: after ∧ job.Alike job' ∧ Exclusive jobs) ∧
    ∀ run length, Passing space run length → ∀ first last name other pod,
      first ≤ last → last < length → other ≠ name →
      (∃ a ∈ run first, a.name = name ∧ a.Holds pod) →
      (∀ n, first ≤ n → n ≤ last → Claims (run n) name pod) →
      Claims (run (last + 1)) other pod →
      Claims (run last) other pod ∨ ∃ n ≤ last, ∃ a ∈ run n, a.name = name ∧ 2 ^ 32 ≤ a.claims.length := by
  constructor
  · intro before job after jobs hcensus hexclusive ht hpass
    obtain ⟨cur, rfl, halike, hfair⟩ := claims_free hcensus hexclusive ht hpass
    exact ⟨cur, rfl, halike, hexclusive.replaced hfair⟩
  · intro run length h first last name other pod hle hlast hne hheld hclaims hnew
    obtain ⟨b, hb, hbname, hbpod⟩ := hnew
    rcases h.holds (Nat.le_of_lt hlast) hle hheld hclaims with ⟨a, ha, haname, haholds⟩ | hmany
    · rcases h.next hlast ha hb with hmem | ⟨hsame | hfree, -⟩
      · exact .inl ⟨b, hmem, hbname, hbpod⟩
      · exact absurd (hbname.symm.trans (hsame.symm.trans haname)) hne
      · exact absurd haholds (hfree pod hbpod)
    · exact .inr hmany

/-! ## Two jobs that select one pod -/

/-- A second job for every pod of the namespace, set up and without a claim as the first is. -/
def newcomer : Job :=
  ⟨Sample.metadata "probe" "33cc", Sample.job.spec, Sample.job.status⟩

/-- A cluster with both jobs, the sample pod, and the tool. -/
def shop : Cluster :=
  ⟨[Sample.job, newcomer], [Sample.pod], [Sample.tool], "ops", false⟩

/-- The clusters of a run with one whole pass over each of the jobs. -/
def shops : Nat → Cluster
  | 0 => shop
  | 1 => Sample.afterPass "trace" shop
  | _ + 2 => Sample.afterPass "probe" (Sample.afterPass "trace" shop)

def shopRun (n : Nat) : List Job :=
  (shops n).jobs

theorem census_shop : Census "shop" (shopRun 0) := by
  constructor
  · intro j hj
    rcases List.mem_cons.1 hj with rfl | hj
    · rfl
    · rw [List.mem_singleton.1 hj]
      rfl
  · exact List.pairwise_pair.2 (by decide)
  · refine List.pairwise_pair.2 fun u hu => ?_
    rw [← Option.some.inj hu]
    decide

theorem exclusive_shop : Exclusive (shopRun 0) :=
  List.pairwise_pair.2 fun _ hheld => absurd hheld.2 List.not_mem_nil

theorem second_pass : Passes "shop" newcomer (shopRun 1) (shopRun 2) :=
  passes_run Sample.now "shop" newcomer (Session.start (shops 1) []) (by decide +kernel)

theorem passing_shop : Passing "shop" shopRun 2 := by
  refine ⟨census_shop, exclusive_shop, fun n hn => ?_⟩
  match n, hn with
  | 0, _ =>
    exact ⟨Sample.job, List.mem_cons_self, rfl,
      passes_run Sample.now "shop" Sample.job (Session.start shop []) (by decide)⟩
  | 1, _ =>
    exact ⟨newcomer, List.mem_cons_of_mem _ List.mem_cons_self, rfl, second_pass⟩

/-- The first pass gives its job the pod.  The second leaves that job as it is, and while the first job holds the pod
the other does not come to claim it. -/
theorem shop_excludes :
    (∃ job', shopRun 2 = (shopRun 1).take 1 ++ job' :: [] ∧ newcomer.Alike job' ∧ Exclusive (shopRun 2)) ∧
    Claims (shopRun 1) "trace" "cart" ∧ ¬ Claims (shopRun 2) "probe" "cart" := by
  have hclaims : Claims (shopRun 1) "trace" "cart" := ⟨_, List.mem_cons_self, rfl, by decide +kernel⟩
  refine ⟨?_, hclaims, fun hnew => ?_⟩
  · obtain ⟨hcensus, hexclusive⟩ := passing_shop.kept (Nat.le_succ 1)
    exact (mutual_exclusion "shop").1 ((shopRun 1).take 1) newcomer [] (shopRun 2) hcensus hexclusive rfl second_pass
  · have hold := (mutual_exclusion "shop").2 shopRun 2 passing_shop 1 1 "trace" "probe" "cart" (Nat.le_refl 1)
      Nat.one_lt_two (by decide) ⟨_, List.mem_cons_self, rfl, rfl, by decide +kernel⟩
      (fun n hfirst hn => Nat.le_antisymm hn hfirst ▸ hclaims) hnew
    have hidle : ∀ j ∈ shopRun 1, j.name = "probe" → "cart" ∉ j.claims := by decide +kernel
    have hfew : ∀ n ≤ 1, ∀ j ∈ shopRun n, j.claims.length < 2 ^ 32 := by decide +kernel
    rcases hold with ⟨j, hj, hname, hcart⟩ | ⟨n, hn, j, hj, -, hmany⟩
    · exact hidle j hj hname hcart
    · exact Nat.not_lt.2 hmany (hfew n hn j hj)

end Exclusion

end ProfilingOperator
