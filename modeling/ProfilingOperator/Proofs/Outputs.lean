import ProfilingOperator.Proofs.Balance
import ProfilingOperator.Proofs.Variables

/-!
# Outputs without the section of their mode

Results that go to a volume or to a collector need a section of the output that says which.  That of a collector is
asked for first of all: without it every trial of a pod fails for the output before its first call, and the pass goes
on to the next pod.  That of a volume is asked for by the mount and by the path, and both are left out without it:
each pod that is tried is to get a container which is told that results go to a volume, and has none.

    inject_without_collector : without its collector, a trial fails at once
    asked_of_volume : without its volume, every pod that is tried is to get a container
    targets_eq_nil_or_comes : a pass that does not come to its pods adds nothing
    spared_iff : pods are spared exactly if results were to go to a collector, or no pod is tried
-/

namespace ProfilingOperator

/-! ## Incomplete outputs -/

/-- An output lacks the section that its mode requires. -/
def Job.Output.Incomplete (output : Job.Output) : Prop :=
  (output.mode = .volume ∧ output.volume = none) ∨ (output.mode = .collector ∧ output.collector = none)

theorem Job.Output.Incomplete.volume_eq_none {output : Job.Output} (h : output.Incomplete)
    (hmode : output.mode = .volume) : output.volume = none := by
  rcases h with ⟨-, hsection⟩ | ⟨hother, -⟩
  · exact hsection
  · cases hmode.symm.trans hother

theorem Job.Output.Incomplete.collector_eq_none {output : Job.Output} (h : output.Incomplete)
    (hmode : output.mode = .collector) : output.collector = none := by
  rcases h with ⟨hother, -⟩ | ⟨-, hsection⟩
  · cases hmode.symm.trans hother
  · exact hsection

/-- A container is told that results go to a volume, and has neither a path nor a mount for them. -/
structure EphemeralContainer.Volumeless (c : EphemeralContainer) : Prop where
  mode : c.named? "OUTPUT_MODE" = some (.plain "OUTPUT_MODE" "pvc")
  path : c.named? "PVC_PATH" = none
  mount : c.mounts = none

/-- The pod and the container of a call that is to add one. -/
def Answered.addition? : Answered → Option (Pod × EphemeralContainer)
  | ⟨.addContainer pod c, _⟩ => some (pod, c)
  | _ => none

namespace Outputs

open Pass Cluster

/-! ## Passes and their pods -/

/-- The containers a log asks for, each with its pod. -/
def asked (log : List Answered) : List (Pod × EphemeralContainer) :=
  log.filterMap Answered.addition?

/-- A pass works on a job: the one it has read, or what was stored of it when it was set up. -/
def WorksOn (now : Stamp) (space name : String) (log : List Answered) (job : Job) : Prop :=
  ∃ opening later read uid, log = opening ++ later ∧ Opening now space name opening read uid job

/-- A pass comes to the pods of its job: they are resolved, and no other job is in the way. -/
def Comes (now : Stamp) (space name : String) (log : List Answered) (uid : String) (job : Job) (tool : Tool.Spec)
    (pods : List Pod) (rest : List Answered) : Prop :=
  ∃ before check read, log = before ++ (check ++ rest) ∧ Resolution now space name before read uid job tool pods ∧
    (conflict? job space pods).Ends check (.done none)

/-- What comes of some pods that are all refused for the output of their job. -/
def refusals (m : String) (entries : List (Pod × Nat)) : List ((Pod × Nat) × Except Pass.Failure Unit) :=
  entries.map fun e => (e, .error (.invalidOutput m))

/-- The trial of every pod fails for the output of the job.  Each failure is told of, and the pass closes with the
status that they leave. -/
def Refuses (now : Stamp) (job : Job) (tool : Tool.Spec) (pods : List Pod) (container : String) (rest : List Answered)
    (o : Outcome Next) : Prop :=
  ∃ m tried ending, rest = tried ++ ending ∧
    Tried job tool container ((refusals m (attempted job pods container)).map fun r => (r.1.1, r.2)) tried ∧
    Closes job (concluded now job pods container (refusals m (attempted job pods container))) ending o

/-- A pass asks for no container, and if it comes to its pods, it refuses those that it tries. -/
structure Spared (now : Stamp) (space name : String) (log : List Answered) (o : Outcome Next) : Prop where
  untouched : targets log = []
  refused : ∀ {uid : String} {job : Job} {tool : Tool.Spec} {pods : List Pod} {rest : List Answered},
    Comes now space name log uid job tool pods rest → Refuses now job tool pods (Job.containerName name uid) rest o

/-- What is said of a job whose results are to go to a collector that is not given. -/
def uncollected : String := "collector mode requires spec.output.collector"

/-! ## Lemmas -/

section
variable {now : Stamp} {space name uid container m : String} {log rest : List Answered} {read job : Job}
  {tool : Tool.Spec} {pods : List Pod} {pod : Pod} {tries : List (Pod × Except Pass.Failure Unit)}

theorem asked_append : asked (log ++ rest) = asked log ++ asked rest :=
  List.filterMap_append

theorem targets_eq_map_asked (log : List Answered) : targets log = (asked log).map (·.1) := by
  rw [asked, List.map_filterMap, targets]
  refine congrArg (List.filterMap · log) (funext fun a => ?_)
  obtain ⟨call, r⟩ := a
  cases call <;> rfl

theorem asked_eq_nil_iff : asked log = [] ↔ targets log = [] := by
  rw [targets_eq_map_asked, List.map_eq_nil_iff]

/-! ### One trial -/

/-- Without its collector, a trial fails before its first call. -/
theorem inject_without_collector (hmode : job.spec.output.mode = .collector)
    (hsection : job.spec.output.collector = none) :
    inject job tool container pod = .fail (.invalidOutput uncollected) := by
  unfold inject collector
  rw [hmode, hsection]
  rfl

/-- With results for a volume, a trial asks for a container first of all, whether there is a volume or not. -/
theorem ends_inject_of_volume {o : Outcome Unit} (hmode : job.spec.output.mode = .volume)
    (h : (inject job tool container pod).Ends log o) :
    asked log = [(pod, Attachment.container job tool pod container none)] ∧ ∀ m, o ≠ .crashed m := by
  have hcollector : collector job job.name = .done none := by
    unfold collector
    rw [hmode]
  unfold inject at h
  rw [hcollector] at h
  obtain ⟨r, later, rfl, hr⟩ := ends_call.1 h
  cases r with
  | error f =>
    obtain ⟨rfl, rfl⟩ := ends_fail.1 hr
    exact ⟨rfl, fun m hm => by cases hm⟩
  | ok u =>
    obtain ⟨u, last, rfl, hdone⟩ := ends_call.1 hr
    obtain ⟨rfl, rfl⟩ := ends_done.1 hdone
    exact ⟨rfl, fun m hm => by cases hm⟩

theorem not_crashed_of_incomplete (hbad : job.spec.output.Incomplete) :
    ¬ (inject job tool container pod).Ends log (.crashed m) := by
  intro h
  rcases hbad with ⟨hmode, -⟩ | ⟨hmode, hsection⟩
  · exact (ends_inject_of_volume hmode h).2 m rfl
  · rw [inject_without_collector hmode hsection] at h
    cases (ends_fail.1 h).2

/-! ### One pod after the other -/

theorem refused_without_collector (hmode : job.spec.output.mode = .collector)
    (hsection : job.spec.output.collector = none) (h : Tried job tool container tries log) :
    asked log = [] ∧ ∀ t ∈ tries, t.2 = .error (.invalidOutput uncollected) := by
  induction h with
  | nil => exact ⟨rfl, fun t ht => absurd ht List.not_mem_nil⟩
  | added hinject _ _ =>
    rw [inject_without_collector hmode hsection] at hinject
    cases (ends_fail.1 hinject).2
  | failed hinject _ ih =>
    rw [inject_without_collector hmode hsection] at hinject
    obtain ⟨rfl, hf⟩ := ends_fail.1 hinject
    cases hf
    exact ⟨ih.1, List.forall_mem_cons.2 ⟨rfl, ih.2⟩⟩

/-- With results for a volume, every pod that is tried is to get a container. -/
theorem asked_of_volume (hmode : job.spec.output.mode = .volume) (h : Tried job tool container tries log) :
    asked log = tries.map fun t => (t.1, Attachment.container job tool t.1 container none) := by
  induction h with
  | nil => rfl
  | added hinject _ ih =>
    rw [asked_append, (ends_inject_of_volume hmode hinject).1, ih]
    rfl
  | @failed _ _ _ _ rest hinject _ ih =>
    -- that a failure is told of asks for nothing
    rw [asked_append, (ends_inject_of_volume hmode hinject).1, List.map_cons, ← ih]
    rfl

theorem eq_refusals {results : List ((Pod × Nat) × Except Pass.Failure Unit)} {entries : List (Pod × Nat)}
    (hresults : results.map (·.1) = entries) (h : ∀ r ∈ results, r.2 = .error (.invalidOutput m)) :
    results = refusals m entries := by
  rw [← hresults, refusals, List.map_map]
  refine (List.map_id results).symm.trans (List.map_congr_left fun r hr => ?_)
  exact Prod.ext rfl (h r hr)

/-! ### Containers -/

/-- A container that is built for a job with results for a volume that is not given. -/
theorem volumeless_container (hmode : job.spec.output.mode = .volume) (hsection : job.spec.output.volume = none)
    (collector : Option Collector) : (Attachment.container job tool pod container collector).Volumeless where
  mode := by
    have hbase : (Environment.base job pod).lookup "OUTPUT_MODE" = some "pvc" := by
      simp [Environment.base, List.lookup_cons, hmode, Job.OutputMode.word]
    rw [Attachment.named?_container, Environment.lookup_build, hbase, Option.some_or, Option.map_some]
  path := by
    rw [Attachment.named?_container, Environment.lookup_path, Environment.ofOutput, hmode, hsection]
    rfl
  mount := by
    show Attachment.mounts job.spec.output pod = none
    rw [Attachment.mounts, hmode, hsection]

/-! ### The whole pass -/

section
variable {o : Outcome Next}

/-- In every world, the job that is worked on has the specification that was stored. -/
theorem WorksOn.spec_eq {c d : Cluster} (h : WorksOn now space name log job) (hs : Served c log d)
    (hj : c.job? space name = some read) : job.spec = read.spec := by
  obtain ⟨opening, later, found, uid, rfl, hopening⟩ := h
  obtain ⟨e, hopened, -⟩ := hs.split
  obtain rfl : found = read := Option.some.inj ((hopening.standing hopened).1.symm.trans hj)
  exact (hopening.started hopened).1.spec

theorem Comes.worksOn (h : Comes now space name log uid job tool pods rest) : WorksOn now space name log job := by
  obtain ⟨before, check, read, rfl, hr, -⟩ := h
  obtain ⟨opening, search, lookup, rfl, hopening, -, -⟩ := hr.parts
  exact ⟨opening, _, read, uid, List.append_assoc _ _ _, hopening⟩

/-- A pass that does not come to its pods asks for no container. -/
theorem targets_eq_nil_or_comes (h : (reconcile now space name).Ends log o) : targets log = [] ∨
    ∃ uid job tool pods rest, Comes now space name log uid job tool pods rest := by
  cases exit_of_ends h with
  | unread => exact .inl rfl
  | gone => exact .inl rfl
  | nameless => exact .inl rfl
  | unset => exact .inl rfl
  | toolless hopening hsearch hrecord =>
    refine .inl ?_
    rw [targets_append, targets_append, hopening.targets_eq, (quiet_of_looks (looks_of_resolveTool hsearch)).added,
      hrecord.targets_eq]
    rfl
  | podless hopening hsearch hlookup hrecord =>
    refine .inl ?_
    rw [targets_append, targets_append, targets_append, hopening.targets_eq,
      (quiet_of_looks (looks_of_resolveTool hsearch)).added, (quiet_of_looks (looks_of_resolve hlookup)).added,
      hrecord.targets_eq]
    rfl
  | unlisted hr hcheck =>
    refine .inl ?_
    rw [targets_append, hr.targets_eq, (quiet_of_looks (looks_of_conflict? hcheck)).added]
    rfl
  | madeWay hr hcheck hway =>
    refine .inl ?_
    rw [targets_append, targets_append, hr.targets_eq, (quiet_of_looks (looks_of_conflict? hcheck)).added,
      hway.targets_eq]
    rfl
  | managed hr hcheck => exact .inr ⟨_, _, _, _, _, _, _, _, rfl, hr, hcheck⟩
  | cutShort hr hcheck => exact .inr ⟨_, _, _, _, _, _, _, _, rfl, hr, hcheck⟩

/-- A pass that comes to its pods with an incomplete output tries them to the end, and asks for no container but
theirs. -/
theorem Comes.managed (h : Comes now space name log uid job tool pods rest)
    (hend : (reconcile now space name).Ends log o) (hbad : job.spec.output.Incomplete) :
    ∃ results tried ending, rest = tried ++ ending ∧
      results.map (·.1) = attempted job pods (Job.containerName name uid) ∧
      Tried job tool (Job.containerName name uid) (results.map fun r => (r.1.1, r.2)) tried ∧
      Closes job (concluded now job pods (Job.containerName name uid) results) ending o ∧ asked log = asked tried := by
  obtain ⟨before, check, read, rfl, hr, hcheck⟩ := h
  have hmanage := hr.manages hcheck hend
  rcases ends_manage hmanage with ⟨results, tried, ending, rfl, hresults, htried, hcloses⟩ | ⟨⟨m, rfl⟩, -⟩
  · refine ⟨results, tried, ending, rfl, hresults, htried, hcloses, ?_⟩
    rw [asked_append, asked_append, asked_append, asked_eq_nil_iff.2 hr.targets_eq,
      asked_eq_nil_iff.2 (quiet_of_looks (looks_of_conflict? hcheck)).added, asked_eq_nil_iff.2 hcloses.targets_eq,
      List.append_nil]
    rfl
  · obtain ⟨-, p, trial, hcrash⟩ := ends_manage_crashed hmanage
    exact absurd hcrash (not_crashed_of_incomplete hbad)

/-- Without its collector, a pass refuses every pod that it tries. -/
theorem Comes.refuses_without_collector (h : Comes now space name log uid job tool pods rest)
    (hend : (reconcile now space name).Ends log o) (hmode : job.spec.output.mode = .collector)
    (hsection : job.spec.output.collector = none) :
    targets log = [] ∧ Refuses now job tool pods (Job.containerName name uid) rest o := by
  obtain ⟨results, tried, ending, hrest, hresults, htried, hcloses, hasked⟩ := h.managed hend (.inr ⟨hmode, hsection⟩)
  obtain ⟨hnone, hall⟩ := refused_without_collector hmode hsection htried
  obtain rfl := eq_refusals hresults fun r hr => hall _ (List.mem_map_of_mem hr)
  exact ⟨asked_eq_nil_iff.1 (hasked.trans hnone), uncollected, tried, ending, hrest, htried, hcloses⟩

/-- A pass that tries none of its pods refuses none. -/
theorem Comes.refuses_of_idle (h : Comes now space name log uid job tool pods rest)
    (hend : (reconcile now space name).Ends log o) (hbad : job.spec.output.Incomplete)
    (hidle : attempted job pods (Job.containerName name uid) = []) :
    targets log = [] ∧ Refuses now job tool pods (Job.containerName name uid) rest o := by
  obtain ⟨results, tried, ending, hrest, hresults, htried, hcloses, hasked⟩ := h.managed hend hbad
  rw [hidle, List.map_eq_nil_iff] at hresults
  subst hresults
  refine ⟨?_, "", tried, ending, hrest, ?_, ?_⟩
  · cases htried
    exact asked_eq_nil_iff.1 hasked
  · rw [hidle]
    exact htried
  · rw [hidle]
    exact hcloses

/-- Without its volume, a pass asks for a container for every pod that it tries. -/
theorem Comes.asked_without_volume (h : Comes now space name log uid job tool pods rest)
    (hend : (reconcile now space name).Ends log o) (hmode : job.spec.output.mode = .volume)
    (hsection : job.spec.output.volume = none) :
    asked log = (attempted job pods (Job.containerName name uid)).map fun e =>
      (e.1, Attachment.container job tool e.1 (Job.containerName name uid) none) := by
  obtain ⟨results, tried, ending, -, hresults, htried, -, hasked⟩ := h.managed hend (.inl ⟨hmode, hsection⟩)
  rw [hasked, asked_of_volume hmode htried, ← hresults, List.map_map, List.map_map]
  rfl

theorem Comes.targets_without_volume (h : Comes now space name log uid job tool pods rest)
    (hend : (reconcile now space name).Ends log o) (hmode : job.spec.output.mode = .volume)
    (hsection : job.spec.output.volume = none) :
    targets log = (attempted job pods (Job.containerName name uid)).map (·.1) := by
  rw [targets_eq_map_asked, h.asked_without_volume hend hmode hsection, List.map_map]
  rfl

/-- Pods are spared by a pass that, where it comes to them, refuses them and asks for no container. -/
theorem spared_of_refuses (hend : (reconcile now space name).Ends log o)
    (h : ∀ {uid job tool pods rest}, Comes now space name log uid job tool pods rest →
      targets log = [] ∧ Refuses now job tool pods (Job.containerName name uid) rest o) :
    Spared now space name log o := by
  refine ⟨?_, fun hcomes => (h hcomes).2⟩
  rcases targets_eq_nil_or_comes hend with hnone | ⟨uid, job, tool, pods, rest, hcomes⟩
  · exact hnone
  · exact (h hcomes).1

end

end

/-- A pass over a job whose output is incomplete, whatever its calls are answered with, asks for no container and fails
for the output with every pod it tries, exactly if results were to go to a collector or there is no pod to be tried.
With results for a volume, every pod that is tried is to get a container, which is told of a volume and has none. -/
theorem spared_iff {now : Stamp} {space name : String} {log : List Answered} {o : Outcome Next}
    (hend : (reconcile now space name).Ends log o)
    (hbad : ∀ job, WorksOn now space name log job → job.spec.output.Incomplete) :
    (Spared now space name log o ↔ ∀ uid job tool pods rest, Comes now space name log uid job tool pods rest →
      job.spec.output.mode = .collector ∨ attempted job pods (Job.containerName name uid) = []) ∧
    ∀ uid job tool pods rest, Comes now space name log uid job tool pods rest → job.spec.output.mode = .volume →
      targets log = (attempted job pods (Job.containerName name uid)).map (·.1) ∧
        ∀ a ∈ asked log, a.2.name = Job.containerName name uid ∧ a.2.Volumeless := by
  refine ⟨⟨fun hspared uid job tool pods rest hcomes => ?_, fun hall => spared_of_refuses hend fun hcomes => ?_⟩,
    fun uid job tool pods rest hcomes hmode => ?_⟩
  · rcases hbad job hcomes.worksOn with ⟨hmode, hsection⟩ | ⟨hmode, -⟩
    · have hpods := hcomes.targets_without_volume hend hmode hsection
      exact .inr (List.map_eq_nil_iff.1 (hpods.symm.trans hspared.untouched))
    · exact .inl hmode
  · have hincomplete := hbad _ hcomes.worksOn
    rcases hall _ _ _ _ _ hcomes with hmode | hidle
    · exact hcomes.refuses_without_collector hend hmode (hincomplete.collector_eq_none hmode)
    · exact hcomes.refuses_of_idle hend hincomplete hidle
  · have hsection := (hbad job hcomes.worksOn).volume_eq_none hmode
    refine ⟨hcomes.targets_without_volume hend hmode hsection, fun a ha => ?_⟩
    rw [hcomes.asked_without_volume hend hmode hsection] at ha
    obtain ⟨e, -, rfl⟩ := List.mem_map.1 ha
    exact ⟨rfl, volumeless_container hmode hsection none⟩

/-! ## Two pods, without a collector and without a volume -/

/-- The sample job with an output that has neither section. -/
def sectionless (mode : Job.OutputMode) : Job :=
  { Sample.job with spec := { Sample.job.spec with output := ⟨mode, none, none⟩ } }

/-- A cluster with the job and two pods that no job claims, in which nothing fails. -/
def session (mode : Job.OutputMode) : Session :=
  Session.start ⟨[sectionless mode], [Sample.pod, Balance.desk], [Sample.tool], "ops", false⟩ []

def passLog (mode : Job.OutputMode) : List Answered :=
  (reconcile Sample.now "shop" "trace").record Session.answer (session mode)

theorem incomplete_of_worksOn {mode : Job.OutputMode} (h : mode ≠ .ephemeral) {job : Job}
    (hworks : WorksOn Sample.now "shop" "trace" (passLog mode) job) :
    job.spec.output.mode = mode ∧ job.spec.output.Incomplete := by
  rw [hworks.spec_eq (served_run _ (session mode)) rfl]
  refine ⟨rfl, ?_⟩
  cases mode with
  | ephemeral => exact absurd rfl h
  | volume => exact .inl ⟨rfl, rfl⟩
  | collector => exact .inr ⟨rfl, rfl⟩

/-- Without its collector, the job gets no container in either pod, and is told so of both. -/
theorem collectorless_pass_is_spared :
    Spared Sample.now "shop" "trace" (passLog .collector) (.done (.after Requeue.finished)) ∧
    ∀ pod ∈ [Sample.pod, Balance.desk],
      troubleEvent (sectionless .collector) pod (.invalidOutput uncollected) ∈ events (passLog .collector) := by
  have hend : (reconcile Sample.now "shop" "trace").Ends (passLog .collector) (.done (.after Requeue.finished)) :=
    goes_run Session.answer _ (session .collector)
  have hworks : ∀ {job}, WorksOn Sample.now "shop" "trace" (passLog .collector) job →
      job.spec.output.mode = .collector ∧ job.spec.output.Incomplete := incomplete_of_worksOn (by decide)
  refine ⟨(spared_iff hend fun job h => (hworks h).2).1.2 fun uid job tool pods rest hcomes => ?_, ?_⟩
  · exact .inl (hworks hcomes.worksOn).1
  · exact List.forall_mem_cons.2 ⟨List.mem_cons_self,
      List.forall_mem_singleton.2 (List.mem_cons_of_mem _ List.mem_cons_self)⟩

/-- What the job without its volume adds to a pod. -/
def stray (pod : Pod) : EphemeralContainer :=
  Attachment.container (sectionless .volume) Sample.tool.spec pod (Job.containerName "trace" "7f9c") none

/-- Without its volume, the job gets a container in both pods, which has nowhere to write. -/
theorem volumeless_pass_adds_containers :
    (∀ job, WorksOn Sample.now "shop" "trace" (passLog .volume) job → job.spec.output.Incomplete) ∧
    (reconcile Sample.now "shop" "trace").Ends (passLog .volume) (.done (.after Requeue.running)) ∧
    ¬ Spared Sample.now "shop" "trace" (passLog .volume) (.done (.after Requeue.running)) ∧
    ((reconcile Sample.now "shop" "trace").run Session.answer (session .volume)).2.cluster.pods =
      [Sample.pod.addEphemeral (stray Sample.pod), Balance.desk.addEphemeral (stray Balance.desk)] ∧
    ∀ pod, (stray pod).Volumeless := by
  refine ⟨fun job h => (incomplete_of_worksOn (by decide) h).2, goes_run Session.answer _ (session .volume),
    fun hspared => ?_, rfl, fun pod => volumeless_container rfl rfl none⟩
  have hadded : targets (passLog .volume) = [Sample.pod, Balance.desk] := rfl
  cases hadded.symm.trans hspared.untouched

end Outputs

end ProfilingOperator
