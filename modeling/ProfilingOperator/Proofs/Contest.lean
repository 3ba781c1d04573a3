import ProfilingOperator.Proofs.Exclusion
import ProfilingOperator.Proofs.Finished

/-!
# Jobs that claim one pod

Two jobs that looked at the cluster before either had stored its claim can come to hold one pod.  From then on each of
them meets the other in every pass, makes way, and keeps its claim as it does so.  As long as both select the pod, no
pass over either takes the double claim away.

    not_cleared : a pass over one of the jobs never finds the way clear
    Contested.bout : a pass over one of the jobs, however far it comes, leaves the pod contested
    contest_stays : so does every sequence of passes over both
-/

namespace ProfilingOperator.Contest

open Pass Cluster
open Finished (Bout bout_run)

/-! ## Contested pods -/

/-- A pod of a name in a namespace that the selector of some targets accepts. -/
def Selects (c : Cluster) (space : String) (targets : Job.Targets) (pod : String) : Prop :=
  ∃ selector compiled p, targets.selector = some selector ∧ Selector.compile selector = .ok compiled ∧
    p ∈ c.pods ∧ p.metadata.space = some space ∧ p.metadata.name = some pod ∧ compiled.accepts p.labels = true

/-- The job of an address, not done with, claims a pod that it selects. -/
structure Contends (space name pod : String) (c : Cluster) (job : Job) : Prop where
  here : c.job? space name = some job
  holds : job.Holds pod
  selects : Selects c space job.spec.targets pod

/-- Two jobs of a namespace, told apart by their names and by their ids, contend for a pod. -/
def Contested (space a b pod : String) (c : Cluster) : Prop :=
  a ≠ b ∧ ∃ j k, Contends space a pod c j ∧ Contends space b pod c k ∧
    ∀ u, j.metadata.uid = some u → k.metadata.uid ≠ some u

/-! ## Lemmas -/

section
variable {space a b name pod : String} {now : Stamp} {log : List Answered} {c d : Cluster} {job rival : Job}
  {before after : List Job}

theorem Contested.symm (h : Contested space a b pod c) : Contested space b a pod c := by
  obtain ⟨hne, j, k, hj, hk, hid⟩ := h
  exact ⟨hne.symm, k, j, hk, hj, fun u hu hu' => hid u hu' hu⟩

theorem Selects.framed {targets : Job.Targets} (h : Selects c space targets pod) (hf : Framed c d) :
    Selects d space targets pod := by
  obtain ⟨selector, compiled, p, hsel, hc, hp, hspace, hname, haccepts⟩ := h
  obtain ⟨q, hq, hmeta⟩ := hf.mem_pods.2 ⟨p, hp, rfl⟩
  refine ⟨selector, compiled, q, hsel, hc, hq, ?_, ?_, ?_⟩
  · rw [hmeta]
    exact hspace
  · rw [hmeta]
    exact hname
  · unfold Pod.labels
    rw [hmeta]
    exact haccepts

theorem Contends.name_eq (h : Contends space name pod c job) : job.space = some space ∧ job.name = name :=
  isAt_iff.1 (isAt_of_job? h.here)

theorem Contends.sameJob_eq_false {work : Job} (hj : Contends space a pod c job) (hk : Contends space b pod c rival)
    (hne : a ≠ b) (hid : ∀ u, job.metadata.uid = some u → rival.metadata.uid ≠ some u) (hw : job.Alike work) :
    Conflict.sameJob work rival = false := by
  apply Conflict.sameJob_eq_false
  · rw [hw.name, hj.name_eq.2, hk.name_eq.2]
    exact hne
  · rw [hw.uid]
    exact hid

theorem Contends.mem_others (hk : Contends space b pod c rival) (hne : a ≠ b) (hja : job.name = a)
    (hjobs : c.jobs = before ++ job :: after) : rival ∈ before ++ after := by
  have hmem : rival ∈ c.jobs := List.mem_of_find?_eq_some hk.here
  rw [hjobs] at hmem
  rcases List.mem_append.1 hmem with hmem | hmem
  · exact List.mem_append_left _ hmem
  · rcases List.mem_cons.1 hmem with rfl | hmem
    · exact absurd (hja.symm.trans hk.name_eq.2) hne
    · exact List.mem_append_right _ hmem

theorem spec_of_works {read work : Job} {uid : String} (hj : c.job? space job.name = some job)
    (hs : Served c log d) (htold : ∀ x ∈ log, Told c before job after x)
    (h : Works now space job.name log read uid work) : work.spec = job.spec := by
  obtain rfl := read_of_told htold h.toRead
  rcases h.origin with ⟨-, rfl, -⟩ | ⟨-, hsaw, -⟩
  · rfl
  · exact hs.spec_of_mem hsaw hj (isAt_iff.1 (isAt_of_job? hj)).1 rfl

/-- The pod in question is among the targets of each of the two jobs. -/
theorem Contends.mem_targets {read work : Job} {uid : String} {tool : Tool.Spec} {pods : List Pod}
    (hj : Contends space job.name pod c job) (hs : Served c log d) (htold : ∀ x ∈ log, Told c before job after x)
    (h : Resolved now space job.name log read uid work tool pods) : pod ∈ targetNames pods := by
  obtain ⟨selector, compiled, p, hsel, hcompiled, hp, hspace, hname, haccepts⟩ := hj.selects
  have hspec := spec_of_works hj.here hs htold h.toWorks
  rcases h.resolved with ⟨hnone, -⟩ | ⟨selector', compiled', listed, hsel', hcompiled', hlist, hpods⟩
  · rw [hspec, hsel] at hnone
    cases hnone
  rw [hspec, hsel] at hsel'
  obtain rfl := Option.some.inj hsel'
  rw [hcompiled] at hcompiled'
  obtain rfl := Except.ok.inj hcompiled'
  -- the pod is in the list of a cluster in which only containers can have been added
  obtain ⟨e, hframed, rfl⟩ := hs.pods_of_mem hlist
  obtain ⟨q, hq, hmeta⟩ := hframed.mem_pods.2 ⟨p, hp, rfl⟩
  have hlisted : q ∈ e.podsIn space := by
    refine List.mem_filter.2 ⟨hq, decide_eq_true ?_⟩
    rw [hmeta]
    exact hspace
  have hpicked : q ∈ pods := by
    rw [hpods]
    refine List.mem_filter.2 ⟨hlisted, ?_⟩
    unfold Pod.labels
    rw [hmeta]
    exact haccepts
  have hnamed : q.metadata.name.getD "" = pod := by
    rw [hmeta, hname]
    rfl
  rw [← hnamed]
  exact List.mem_map_of_mem hpicked

/-- A pass over one of the two jobs is not cleared of the other. -/
theorem not_cleared {read work : Job} {uid : String} {tool : Tool.Spec} {pods : List Pod}
    (hj : Contends space job.name pod c job) (hk : Contends space b pod c rival) (hne : job.name ≠ b)
    (hid : ∀ u, job.metadata.uid = some u → rival.metadata.uid ≠ some u)
    (hjobs : c.jobs = before ++ job :: after) (hs : Served c log d)
    (htold : ∀ x ∈ log, Told c before job after x) :
    ¬ Cleared now space job.name log read uid work tool pods := by
  intro h
  obtain ⟨halike, hopen, -⟩ := Exclusion.work_of_told htold hj.holds.1 h.toWorks
  have htarget := hj.mem_targets hs htold h.toResolved
  rcases h.clear with hdone | ⟨others, hlist, hclear⟩
  · rw [hopen] at hdone
    exact Bool.false_ne_true hdone
  -- the list of jobs the pass was told has the rival in it, with its claim
  have hlisted : rival ∈ others := htold _ hlist rival (hk.mem_others hne rfl hjobs) hk.name_eq.1
  have hspace : rival.space = work.space := by
    rw [hk.name_eq.1, halike.space, hj.name_eq.1]
  have hrival : Conflict.rivals work rival = true :=
    Conflict.rivals_iff.2 ⟨hj.sameJob_eq_false hk hne hid halike, hspace, hk.holds.1⟩
  exact Conflict.detect_eq_none_iff.1 hclear rival hlisted hrival pod htarget hk.holds.2

/-- What a pass over one of the jobs asks to store keeps the claims of the job, and does not end it. -/
theorem sent_keeps {sent : Job} (hj : Contends space job.name pod c job) (hk : Contends space b pod c rival)
    (hne : job.name ≠ b) (hid : ∀ u, job.metadata.uid = some u → rival.metadata.uid ≠ some u)
    (hjobs : c.jobs = before ++ job :: after) (hs : Served c log d)
    (htold : ∀ x ∈ log, Told c before job after x)
    (h : Due now space job.name log (.replaceStatus sent)) : sent.Holds pod := by
  obtain ⟨hopen, hclaims⟩ := hj.holds
  cases h with
  | setUp hr =>
    obtain rfl := read_of_told htold hr
    exact ⟨rfl, by rwa [Exclusion.claims_eq] at hclaims ⊢⟩
  | abandon hw =>
    obtain ⟨-, hwork, hsame⟩ := Exclusion.work_of_told htold hopen hw
    refine ⟨?_, ?_⟩
    · rw [Job.isTerminal, ← phase_reported] at hwork
      exact hwork
    · rw [← hsame, Exclusion.claims_eq] at hclaims
      rw [Exclusion.claims_eq]
      exact hclaims
  | makeWay hr =>
    obtain ⟨-, -, hsame⟩ := Exclusion.work_of_told htold hopen hr.toWorks
    refine ⟨rfl, ?_⟩
    rw [← hsame, Exclusion.claims_eq] at hclaims
    rw [Exclusion.claims_eq]
    exact hclaims
  | store hc => exact absurd hc (not_cleared hj hk hne hid hjobs hs htold)

theorem job?_other {cur : Job} (hj : job.metadata.isAt space b = false) (hcur : cur.metadata.isAt space b = false)
    (hc : c.jobs = before ++ job :: after) (hd : d.jobs = before ++ cur :: after) :
    d.job? space b = c.job? space b := by
  unfold job?
  rw [hc, hd, List.find?_append, List.find?_append, List.find?_cons_of_neg (by simp [hcur]),
    List.find?_cons_of_neg (by simp [hj])]

/-- **One pass.**  The two jobs are in each other's way after it as they were before. -/
theorem Contested.bout (h : Contested space a b pod c) (hb : Bout space a c now log d) :
    Contested space a b pod d := by
  obtain ⟨hne, job, rival, hj, hk, hid⟩ := h
  obtain rfl : a = job.name := hj.name_eq.2.symm
  -- the job at the first address may have a new status, the one at the second is untouched
  obtain ⟨before, after, cur, hjobs, hcur, hhere, halike, horigin⟩ := hb.leaves hj.here
  have hframed := framed_of_served hb.served
  have hholds : cur.Holds pod := by
    rcases horigin with rfl | ⟨sent, earlier, later, rfl, htold, hdue, hstatus⟩
    · exact hj.holds
    · obtain ⟨e, hearlier, -⟩ := hb.served.split
      obtain ⟨hopen, hclaims⟩ := sent_keeps hj hk hne hid hjobs hearlier htold hdue
      refine ⟨(Exclusion.isTerminal_congr hstatus).trans hopen, ?_⟩
      rw [Exclusion.claims_congr hstatus]
      exact hclaims
  have hspec : cur.spec = job.spec := by
    have hspecs := hframed.specs space job.name
    rw [hhere, hj.here] at hspecs
    exact Option.some.inj hspecs
  have hrival : d.job? space b = some rival := by
    have hother : ∀ j : Job, j.name = job.name → j.metadata.isAt space b = false := by
      intro j hname
      rw [← Bool.not_eq_true, isAt_iff]
      exact fun hat => hne (hname.symm.trans hat.2)
    rw [job?_other (hother job rfl) (hother cur halike.name) hjobs hcur]
    exact hk.here
  refine ⟨hne, cur, rival, ⟨hhere, hholds, ?_⟩, ⟨hrival, hk.holds, hk.selects.framed hframed⟩, fun u hu => ?_⟩
  · rw [hspec]
    exact hj.selects.framed hframed
  · exact hid u (halike.uid.symm.trans hu)

end

/-- A pod that two jobs hold and select stays held by both, over any run of passes over the two, whole or cut off, in
any order, whatever of them fails. -/
theorem contest_stays {space a b pod : String} {clusters : Nat → Cluster} {who : Nat → String} {now : Nat → Stamp}
    {log : Nat → List Answered} (hstart : Contested space a b pod (clusters 0))
    (hwho : ∀ n, who n = a ∨ who n = b)
    (hpass : ∀ n, Bout space (who n) (clusters n) (now n) (log n) (clusters (n + 1))) :
    ∀ n, Contested space a b pod (clusters n) := by
  intro n
  induction n with
  | zero => exact hstart
  | succ n ih =>
    have hbout := hpass n
    rcases hwho n with hn | hn
    · rw [hn] at hbout
      exact ih.bout hbout
    · rw [hn] at hbout
      exact (ih.symm.bout hbout).symm

/-! ## Two jobs that claim one pod -/

/-- A job that holds the sample pod. -/
def holder : Job :=
  Sample.job.withStatus
    ⟨some .running, 1, 0, StringMap.empty.insert "cart" "powertool-trace-7f9c", [], none, none, none⟩

/-- A second job that holds it. -/
def rival : Job :=
  ⟨Sample.metadata "rival" "33cc", Sample.job.spec,
    some { holder.reported with activePods := StringMap.empty.insert "cart" "powertool-rival-33cc" }⟩

/-- A cluster in which both jobs hold the sample pod. -/
def quarrel : Cluster :=
  ⟨[holder, rival], [Sample.pod], [Sample.tool], "ops", false⟩

/-- The jobs take turns. -/
def turn (n : Nat) : String :=
  if n % 2 = 0 then "trace" else "rival"

/-- The clusters of a run in which the jobs take turns. -/
def turns : Nat → Cluster
  | 0 => quarrel
  | n + 1 => Sample.afterPass (turn n) (turns n)

theorem selects_quarrel : Selects quarrel "shop" Sample.job.spec.targets "cart" :=
  ⟨⟨.empty, []⟩, _, Sample.pod, rfl, rfl, List.mem_cons_self, rfl, rfl, rfl⟩

theorem contested_quarrel : Contested "shop" "trace" "rival" "cart" quarrel := by
  refine ⟨by decide, holder, rival, ⟨rfl, ⟨rfl, by decide⟩, selects_quarrel⟩,
    ⟨rfl, ⟨rfl, by decide⟩, selects_quarrel⟩, ?_⟩
  intro u hu
  rw [← Option.some.inj hu]
  decide

/-- After a pass over each of them the two jobs still hold the pod. -/
theorem turns_contested : Contested "shop" "trace" "rival" "cart" (turns 0) ∧
    Contested "shop" "trace" "rival" "cart" (turns 2) := by
  have hturn : ∀ n, turn n = "trace" ∨ turn n = "rival" := by
    intro n
    unfold turn
    split
    · exact .inl rfl
    · exact .inr rfl
  have hpass := fun n => bout_run Sample.now "shop" (turn n) (Session.start (turns n) [])
  exact ⟨contested_quarrel, contest_stays contested_quarrel hturn hpass 2⟩

/-- One whole pass over each of two jobs that hold one pod ends with both still claiming it. -/
theorem double_claim_outlasts_both_passes :
    Contested "shop" "trace" "rival" "cart" quarrel ∧
    (∃ next, ((reconcile Sample.now "shop" "trace").run Session.answer (Session.start quarrel [])).1 = .done next) ∧
    (∃ next, ((reconcile Sample.now "shop" "rival").run Session.answer
      (Session.start (Sample.afterPass "trace" quarrel) [])).1 = .done next) ∧
    ∃ j k, (Sample.afterPass "rival" (Sample.afterPass "trace" quarrel)).job? "shop" "trace" = some j ∧
      (Sample.afterPass "rival" (Sample.afterPass "trace" quarrel)).job? "shop" "rival" = some k ∧
      "cart" ∈ j.claims ∧ "cart" ∈ k.claims := by
  refine ⟨contested_quarrel, ⟨_, rfl⟩, ⟨_, rfl⟩, _, _, rfl, rfl, ?_, ?_⟩
  · decide
  · decide

end ProfilingOperator.Contest
