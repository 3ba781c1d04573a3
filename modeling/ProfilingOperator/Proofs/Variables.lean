import Mathlib.Data.List.Nodup
import ProfilingOperator.Attachment
import ProfilingOperator.Proofs.First

/-!
# What a diagnostic container is started with

The environment of a container is put together from four parts, of which one makes up a name for each argument.  Here
is said what stands in it name by name, and that it goes with the mounts: the path in a volume is told exactly when
the volume is mounted.

    numbered_injective : arguments of different places have different names
    nodup_names : no name is given twice
    named?_container : a variable of the container is what is said under its name
    equipped : the variables and the mounts of a container
-/

namespace ProfilingOperator

/-! ## Variables and volumes -/

def EnvVar.plain (name value : String) : EnvVar := ⟨name, some value, []⟩

/-- The first variable of a name in the environment of a container. -/
def EphemeralContainer.named? (c : EphemeralContainer) (name : String) : Option EnvVar :=
  (c.env.getD []).find? fun v => v.name = name

/-- The arguments a job is run with: its own if it gives any, else those of the tool. -/
def Job.runsWith (job : Job) (tool : Tool.Spec) : List String :=
  (job.spec.tool.args.filter fun own => own ≠ []).getD tool.defaultArgs

/-- The volume for a volume claim: the first with the claim behind it, else the usual one. -/
def Pod.IsVolumeFor (p : Pod) (claim volume : String) : Prop :=
  (∃ v, First (fun v : Volume => v.claim = some claim) p.volumes v ∧ volume = v.name) ∨
    (∀ v ∈ p.volumes, v.claim ≠ some claim) ∧ volume = "profiling-storage"

namespace Environment

/-- The name of the variable for an argument. -/
def numbered (i : Nat) : String := "TOOL_ARG_" ++ toString i

/-- The names every container has. -/
def common : List String :=
  ["PROFILER_TOOL", "PROFILER_DURATION", "TARGET_POD_NAME", "TARGET_NAMESPACE", "OUTPUT_MODE", "POD_MATCHING_LABELS"]

/-- The names of what is told for the collector. -/
def access : List String :=
  ["COLLECTOR_ENDPOINT", "COLLECTOR_TOKEN", "POWERTOOL_JOB_ID"]

/-- The names that may stand in front of those made up from a number. -/
def leading : List String :=
  common ++ ["TOOL_ARGS"]

/-- The names that may stand behind them. -/
def trailing : List String :=
  "PVC_PATH" :: access

def names (l : List (String × String)) : List String :=
  l.map (·.1)

/-! ## Lemmas -/

section
variable {name : String} {args : List String} {job : Job} {pod : Pod} {i j : Nat} {l : List (String × String)}

/-! ### Names -/

theorem numbered_injective (h : numbered i = numbered j) : i = j := by
  have hnumeral : toString i = toString j := (String.append_right_inj "TOOL_ARG_").1 h
  have hvalue := congrArg (fun s : String => Nat.ofDigitChars 10 s.toList 0) hnumeral
  simpa [Nat.toString_eq_ofList_toDigits] using hvalue

/-- A name made up from a number is none of the others. -/
theorem numbered_notMem (i : Nat) : numbered i ∉ leading ++ trailing := by
  intro hmem
  have hstem : (numbered i).toList.take 9 = "TOOL_ARG_".toList := by
    unfold numbered
    rw [String.toList_append, List.take_left']
    rfl
  have hother : ∀ name ∈ leading ++ trailing, name.toList.take 9 ≠ "TOOL_ARG_".toList := by decide
  exact hother _ hmem hstem

theorem names_ofArguments_cons (arg : String) (args : List String) :
    names (ofArguments (arg :: args)) = "TOOL_ARGS" :: (List.range (arg :: args).length).map numbered := by
  have hplaces : (arg :: args).zipIdx.map (fun a => numbered a.2) = (List.range (arg :: args).length).map numbered := by
    rw [← Function.comp_def numbered Prod.snd, ← List.map_map, List.zipIdx_map_snd, List.range_eq_range']
  rw [← hplaces]
  unfold ofArguments names
  rw [if_neg (by simp), List.map_cons, List.map_map]
  rfl

theorem names_ofArguments_sublist (args : List String) :
    (names (ofArguments args)).Sublist ("TOOL_ARGS" :: (List.range args.length).map numbered) := by
  cases args with
  | nil => exact List.nil_sublist _
  | cons arg args => rw [names_ofArguments_cons]

theorem names_ofOutput_sublist (output : Job.Output) : (names (ofOutput output)).Sublist ["PVC_PATH"] := by
  unfold ofOutput
  split
  · exact List.Sublist.refl _
  · exact List.nil_sublist _

theorem names_ofCollector_sublist (job : Job) (collector : Option Collector) :
    (names (ofCollector job collector)).Sublist access := by
  cases collector with
  | none => exact List.nil_sublist _
  | some c => exact List.Sublist.refl _

/-- No name is given twice: the fixed ones differ, those of the arguments do, and none is of both sorts. -/
theorem nodup_names (job : Job) (pod : Pod) (args : List String) (collector : Option Collector) :
    (names (build job pod args collector)).Nodup := by
  have hnumbered : ((List.range args.length).map numbered).Nodup :=
    List.nodup_range.map fun i j => numbered_injective
  have hall : (leading ++ trailing ++ (List.range args.length).map numbered).Nodup := by
    refine List.nodup_append.2 ⟨by decide, hnumbered, fun name hfixed other hother => ?_⟩
    obtain ⟨i, -, rfl⟩ := List.mem_map.1 hother
    rintro rfl
    exact numbered_notMem i hfixed
  have horder : (leading ++ ((List.range args.length).map numbered ++ trailing)).Perm
      (leading ++ trailing ++ (List.range args.length).map numbered) := by
    rw [List.append_assoc]
    exact List.perm_append_comm.append_left leading
  have hparts : (names (build job pod args collector)).Sublist
      (leading ++ ((List.range args.length).map numbered ++ trailing)) := by
    unfold names build
    simp only [List.map_append, List.append_assoc]
    exact (List.Sublist.refl _).append ((names_ofArguments_sublist args).append
      ((names_ofOutput_sublist _).append (names_ofCollector_sublist job collector)))
  exact (horder.nodup_iff.2 hall).sublist hparts

/-! ### Values -/

theorem lookup_eq_none (h : name ∉ names l) : l.lookup name = none := by
  rw [List.lookup_eq_none_iff]
  intro v hv
  exact bne_iff_ne.2 fun heq => h (heq ▸ List.mem_map_of_mem hv)

theorem lookup_build (name : String) (job : Job) (pod : Pod) (args : List String) (collector : Option Collector) :
    (build job pod args collector).lookup name =
      ((base job pod).lookup name).or (((ofArguments args).lookup name).or
        (((ofOutput job.spec.output).lookup name).or ((ofCollector job collector).lookup name))) := by
  unfold build
  rw [List.append_assoc, List.append_assoc, List.lookup_append, List.lookup_append, List.lookup_append]

theorem lookup_base (h : name ∉ common) : (base job pod).lookup name = none :=
  lookup_eq_none h

theorem lookup_ofArguments (hname : name ≠ "TOOL_ARGS") (hnumbered : ∀ i, name ≠ numbered i) :
    (ofArguments args).lookup name = none := by
  refine lookup_eq_none fun hmem => ?_
  rcases List.mem_cons.1 ((names_ofArguments_sublist args).subset hmem) with heq | hmem
  · exact hname heq
  · obtain ⟨i, -, heq⟩ := List.mem_map.1 hmem
    exact hnumbered i heq.symm

/-- No name but those behind the arguments is given by the output and the collector. -/
theorem lookup_rest (h : name ∉ trailing) (job : Job) (collector : Option Collector) :
    ((ofOutput job.spec.output).lookup name).or ((ofCollector job collector).lookup name) = none := by
  have houtput : name ∉ names (ofOutput job.spec.output) := fun hmem =>
    h (List.mem_append_left _ ((names_ofOutput_sublist _).subset hmem))
  have hcollector : name ∉ names (ofCollector job collector) := fun hmem =>
    h (List.mem_append_right ["PVC_PATH"] ((names_ofCollector_sublist job collector).subset hmem))
  rw [lookup_eq_none houtput, lookup_eq_none hcollector]
  rfl

theorem lookup_zipIdx (args : List String) (first i : Nat) :
    ((args.zipIdx first).map fun a => (numbered a.2, a.1)).lookup (numbered (first + i)) = args[i]? := by
  induction args generalizing first i with
  | nil => rfl
  | cons arg args ih =>
    rw [List.zipIdx_cons, List.map_cons]
    cases i with
    | zero => exact List.lookup_cons_self
    | succ i =>
      have hne : numbered (first + (i + 1)) ≠ numbered first := by
        intro heq
        have hplace := numbered_injective heq
        omega
      rw [lookup_cons_of_ne hne, List.getElem?_cons_succ, ← ih (first + 1) i, Nat.add_right_comm]
      rfl

/-- The variable for an argument has it as its value, and there is none for a place without one. -/
theorem lookup_numbered (job : Job) (pod : Pod) (args : List String) (collector : Option Collector) (i : Nat) :
    (build job pod args collector).lookup (numbered i) = args[i]? := by
  have hleading : numbered i ∉ leading := fun hmem => numbered_notMem i (List.mem_append_left _ hmem)
  have htrailing : numbered i ∉ trailing := fun hmem => numbered_notMem i (List.mem_append_right _ hmem)
  have hcommon : numbered i ∉ common := fun hmem => hleading (List.mem_append_left _ hmem)
  have hargument : (ofArguments args).lookup (numbered i) = args[i]? := by
    cases args with
    | nil => rfl
    | cons arg args =>
      have htogether : "TOOL_ARGS" ∈ leading := by decide
      have hne : numbered i ≠ "TOOL_ARGS" := fun heq => hleading (heq ▸ htogether)
      have hplaces := lookup_zipIdx (arg :: args) 0 i
      rw [Nat.zero_add] at hplaces
      unfold ofArguments
      rw [if_neg (by simp), lookup_cons_of_ne hne]
      exact hplaces
  rw [lookup_build, lookup_base hcommon, hargument, lookup_rest htrailing, Option.none_or, Option.or_none]

/-- The arguments are given together if there are any. -/
theorem lookup_together (job : Job) (pod : Pod) (args : List String) (collector : Option Collector) :
    (build job pod args collector).lookup "TOOL_ARGS" = if args = [] then none else some (" ".intercalate args) := by
  rw [lookup_build, lookup_base (by decide), lookup_rest (by decide), Option.none_or, Option.or_none]
  cases args with
  | nil => rfl
  | cons arg args => simp [ofArguments]

/-- A name behind the arguments is given by the output or by the collector. -/
theorem lookup_trailing (h : name ∈ trailing) (job : Job) (pod : Pod) (args : List String)
    (collector : Option Collector) :
    (build job pod args collector).lookup name =
      ((ofOutput job.spec.output).lookup name).or ((ofCollector job collector).lookup name) := by
  have hother : ∀ name ∈ trailing, name ∉ common ∧ name ≠ "TOOL_ARGS" := by decide
  obtain ⟨hcommon, hargs⟩ := hother name h
  have hnumbered : ∀ i, name ≠ numbered i := fun i heq => numbered_notMem i (List.mem_append_right _ (heq ▸ h))
  rw [lookup_build, lookup_base hcommon, lookup_ofArguments hargs hnumbered, Option.none_or, Option.none_or]

theorem lookup_path (job : Job) (pod : Pod) (args : List String) (collector : Option Collector) :
    (build job pod args collector).lookup "PVC_PATH" = (ofOutput job.spec.output).lookup "PVC_PATH" := by
  have hcollector : "PVC_PATH" ∉ names (ofCollector job collector) := fun hmem =>
    absurd ((names_ofCollector_sublist job collector).subset hmem) (by decide)
  rw [lookup_trailing (by decide), lookup_eq_none hcollector, Option.or_none]

theorem lookup_access (hname : name ∈ access) (job : Job) (pod : Pod) (args : List String)
    (collector : Option Collector) :
    (build job pod args collector).lookup name = (ofCollector job collector).lookup name := by
  have houtput : name ∉ names (ofOutput job.spec.output) := by
    intro hmem
    obtain rfl : name = "PVC_PATH" := List.mem_singleton.1 ((names_ofOutput_sublist _).subset hmem)
    exact absurd hname (by decide)
  rw [lookup_trailing (List.mem_cons_of_mem _ hname), lookup_eq_none houtput, Option.none_or]

end

end Environment

namespace Attachment

/-! ### Containers -/

section
variable {job : Job} {tool : Tool.Spec} {pod : Pod} {name : String} {collector : Option Collector}

theorem arguments_eq (job : Job) (tool : Tool.Spec) : Environment.arguments job.spec tool = job.runsWith tool := by
  unfold Environment.arguments Job.runsWith
  split
  · next hargs => rw [hargs, Option.filter_some, if_neg (by simp), Option.getD_none]
  · next hargs => rw [hargs, Option.filter_none, Option.getD_none]
  · next args hne hargs =>
    have hsome : args ≠ [] := hne
    rw [hargs, Option.filter_some, if_pos (decide_eq_true hsome), Option.getD_some]

theorem find?_plain (l : List (String × String)) (n : String) :
    (l.map fun v => EnvVar.plain v.1 v.2).find? (fun v => v.name = n) = (l.lookup n).map (EnvVar.plain n) := by
  induction l with
  | nil => rfl
  | cons v l ih =>
    obtain ⟨name, value⟩ := v
    rw [List.map_cons, List.find?_cons]
    by_cases hname : name = n
    · subst hname
      simp [EnvVar.plain]
    · have hother : decide ((EnvVar.plain name value).name = n) = false := decide_eq_false hname
      rw [hother, lookup_cons_of_ne (Ne.symm hname)]
      exact ih

/-- A variable of a container is what is said under its name. -/
theorem named?_container (n : String) :
    (container job tool pod name collector).named? n =
      ((Environment.build job pod (job.runsWith tool) collector).lookup n).map (EnvVar.plain n) := by
  rw [← arguments_eq]
  exact find?_plain _ n

/-- The path is told if and only if the volume is mounted. -/
theorem exists_path_iff {output : Job.Output} :
    (∃ v, ((Environment.ofOutput output).lookup "PVC_PATH").map (EnvVar.plain "PVC_PATH") = some v) ↔
      ∃ m, m ∈ (mounts output pod).getD [] := by
  obtain ⟨mode, volume, collector⟩ := output
  cases mode <;> cases volume <;> simp [Environment.ofOutput, mounts]

theorem mem_mounts {output : Job.Output} {m : VolumeMount} (h : m ∈ (mounts output pod).getD []) :
    ∃ given, output.volume = some given ∧ m = ⟨volumeName pod given.claimName, Environment.mountPath, []⟩ ∧
      mounts output pod = some [m] := by
  unfold mounts at h ⊢
  split at h
  · next given hmode hgiven =>
    rw [Option.getD_some, List.mem_singleton] at h
    exact ⟨given, hgiven, h, by rw [h]⟩
  · cases h

theorem isVolumeFor_volumeName (pod : Pod) (claim : String) : pod.IsVolumeFor claim (volumeName pod claim) := by
  unfold volumeName
  split
  · next v hv => exact .inl ⟨v, (find?_eq_some_iff_first fun v => decide_eq_true_iff).1 hv, rfl⟩
  · next hnone =>
    exact .inr ⟨fun v hv => of_decide_eq_false (Bool.eq_false_iff.2 (List.find?_eq_none.1 hnone v hv)), rfl⟩

end

end Attachment

/-- A container that has what it is to be started with: the arguments together and one by one, a mounted volume with
the path in it, and access to the collector, each exactly if there is one. -/
structure EphemeralContainer.Equipped (job : Job) (tool : Tool.Spec) (pod : Pod) (collector : Option Collector)
    (c : EphemeralContainer) : Prop where
  given : c.env ≠ none
  distinct : ((c.env.getD []).map (·.name)).Nodup
  argument (i : Nat) : c.named? (Environment.numbered i) =
    (job.runsWith tool)[i]?.map (EnvVar.plain (Environment.numbered i))
  arguments : c.named? "TOOL_ARGS" =
    if job.runsWith tool = [] then none else some (EnvVar.plain "TOOL_ARGS" (" ".intercalate (job.runsWith tool)))
  path : (∃ v, c.named? "PVC_PATH" = some v) ↔ ∃ m, m ∈ c.mounts.getD []
  mount : ∀ m ∈ c.mounts.getD [], c.mounts = some [m] ∧
    ∃ given, job.spec.output.volume = some given ∧ pod.IsVolumeFor given.claimName m.name
  endpoint : c.named? "COLLECTOR_ENDPOINT" = collector.map fun a => EnvVar.plain "COLLECTOR_ENDPOINT" a.endpoint
  token : c.named? "COLLECTOR_TOKEN" = collector.map fun a => EnvVar.plain "COLLECTOR_TOKEN" a.token
  identity : c.named? "POWERTOOL_JOB_ID" = collector.map fun _ => EnvVar.plain "POWERTOOL_JOB_ID" job.name

namespace Attachment

/-- The container built for a job in a pod is equipped, whatever the job, the tool, the pod and the access to the
collector. -/
theorem equipped (job : Job) (tool : Tool.Spec) (pod : Pod) (name : String) (collector : Option Collector) :
    (container job tool pod name collector).Equipped job tool pod collector where
  given := Option.some_ne_none _
  distinct := by
    have hnames : ((container job tool pod name collector).env.getD []).map (·.name) =
        Environment.names (Environment.build job pod (job.runsWith tool) collector) := by
      rw [← arguments_eq]
      exact List.map_map
    rw [hnames]
    exact Environment.nodup_names job pod _ collector
  argument i := by rw [named?_container, Environment.lookup_numbered]
  arguments := by
    rw [named?_container, Environment.lookup_together]
    split <;> rfl
  path := by
    rw [named?_container, Environment.lookup_path]
    exact exists_path_iff
  mount m hm := by
    obtain ⟨given, hgiven, rfl, hmounts⟩ := mem_mounts hm
    exact ⟨hmounts, given, hgiven, isVolumeFor_volumeName pod given.claimName⟩
  endpoint := by
    rw [named?_container, Environment.lookup_access (by decide)]
    cases collector <;> rfl
  token := by
    rw [named?_container, Environment.lookup_access (by decide)]
    cases collector <;> rfl
  identity := by
    rw [named?_container, Environment.lookup_access (by decide)]
    cases collector <;> rfl

end Attachment

end ProfilingOperator
