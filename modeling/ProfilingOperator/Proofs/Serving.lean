import ProfilingOperator.Cluster.Session
import ProfilingOperator.Proofs.Course

/-!
# A pass served by a cluster

A pass over a job has a cluster to itself: each of its calls is done, or fails, with its effect or without.  Then what
it is told is so, and of the jobs of the cluster only its own is changed, to a status it asked to store.

    replaceStatus_at : replacing the status of a job changes this job, or nothing
    standing_of_served : what holds of a cluster that has served a pass so far
    Standing.due_of_mem : its calls were due after what it was told
    served_run : a run in a session is served
-/

namespace ProfilingOperator

/-- Two states of one job agree in its name, its namespace and its id. -/
structure Job.Alike (a b : Job) : Prop where
  name : b.name = a.name
  space : b.space = a.space
  uid : b.metadata.uid = a.metadata.uid

theorem Job.Alike.refl (a : Job) : a.Alike a := ⟨rfl, rfl, rfl⟩

theorem Job.Alike.symm {a b : Job} (h : a.Alike b) : b.Alike a :=
  ⟨h.name.symm, h.space.symm, h.uid.symm⟩

theorem Job.Alike.trans {a b c : Job} (h : a.Alike b) (h' : b.Alike c) : a.Alike c :=
  ⟨h'.name.trans h.name, h'.space.trans h.space, h'.uid.trans h.uid⟩

theorem Job.alike_withStatus (a : Job) (s : Job.Status) : a.Alike (a.withStatus s) := ⟨rfl, rfl, rfl⟩

/-- A later state of a job, of which only the status and the version may be others. -/
structure Job.Follows (a b : Job) : Prop where
  metadata : b.metadata = { a.metadata with resourceVersion := b.metadata.resourceVersion }
  spec : b.spec = a.spec

theorem Job.Follows.refl (a : Job) : a.Follows a := ⟨rfl, rfl⟩

theorem Job.Follows.trans {a b c : Job} (h : a.Follows b) (h' : b.Follows c) : a.Follows c :=
  ⟨by rw [h'.metadata, h.metadata], h'.spec.trans h.spec⟩

theorem Job.Follows.isDeleting {a b : Job} (h : a.Follows b) : b.metadata.isDeleting = a.metadata.isDeleting := by
  rw [h.metadata]
  rfl

theorem Job.Follows.alike {a b : Job} (h : a.Follows b) : a.Alike b := by
  refine ⟨?_, ?_, ?_⟩
  · rw [Job.name, h.metadata]
    rfl
  · rw [Job.space, h.metadata]
    rfl
  · rw [h.metadata]

/-- Whether a call writes the status of a job. -/
def Call.isStore : Call → Bool
  | .replaceStatus _ => true
  | _ => false

/-- Whether a call only looks something up. -/
def Call.isLookup : Call → Bool
  | .getJob _ _ | .listPods _ _ | .listJobs _ | .findTool _ _ => true
  | .replaceStatus _ | .addContainer _ _ | .issueToken _ _ | .patchToolStatus _ _ _ | .publish _ => false

theorem Call.isStore_of_isLookup {c : Call} (h : c.isLookup = true) : c.isStore = false := by
  cases c <;> first | rfl | cases h

namespace Cluster

open Pass

/-! ## Serving -/

/-- A call is answered, and a cluster is left. -/
inductive Serves (c : Cluster) : (call : Call) → call.Reply → Cluster → Prop
  /-- The call fails and has no effect. -/
  | failed (call : Call) (f : Pass.Failure) : Serves c call (call.failed f) c
  /-- The call has its effect, and its reply is lost. -/
  | lost (call : Call) (f : Pass.Failure) : Serves c call (call.failed f) (c.perform call).2
  | performed (call : Call) : Serves c call (c.perform call).1 (c.perform call).2

/-- The calls of a log are answered one after the other, and a cluster is left. -/
inductive Served (c : Cluster) : List Answered → Cluster → Prop
  | nil : Served c [] c
  | concat {log : List Answered} {d e : Cluster} {call : Call} {r : call.Reply} :
      Served c log d → Serves d call r e → Served c (log ++ [⟨call, r⟩]) e

/-- The job of an address stands at a place in a list of jobs, and none before it is of that address. -/
structure Placed (space name : String) (before : List Job) (job : Job) : Prop where
  here : job.metadata.isAt space name = true
  first : ∀ j ∈ before, j.metadata.isAt space name = false

/-- What a pass over a job is told by a cluster: the job as it was, the status as it was sent, pods that were there,
and every other job. -/
def Told (c : Cluster) (before : List Job) (job : Job) (after : List Job) : Answered → Prop
  | ⟨.getJob _ _, .ok found⟩ => found = some job
  | ⟨.replaceStatus sent, .ok stored⟩ => job.Alike stored ∧ stored.status = sent.status
  | ⟨.listPods _ _, .ok l⟩ => ∀ p ∈ l, ∃ q ∈ c.pods, p.metadata = q.metadata
  | ⟨.listJobs space, .ok l⟩ => ∀ j ∈ before ++ after, j.space = some space → j ∈ l
  | _ => True

/-- What no call of a pass changes: the metadata of the pods and the specifications of the jobs. -/
structure Framed (c d : Cluster) : Prop where
  pods : d.pods.map (·.metadata) = c.pods.map (·.metadata)
  specs : ∀ space name, (d.job? space name).map (·.spec) = (c.job? space name).map (·.spec)

/-- What no call of a pass over a job changes: the registry and the settings. -/
structure Fixed (c d : Cluster) : Prop where
  tools : d.tools = c.tools
  system : d.system = c.system
  lists : d.listsEverySpace = c.listsEverySpace

/-- What holds of a cluster that has served the log of a pass over a job. -/
structure Standing (c : Cluster) (before : List Job) (job : Job) (after : List Job) (log : List Answered)
    (d : Cluster) : Prop where
  /-- The job has the status it had, or one the pass asked to store; the other jobs are as they were. -/
  jobs : ∃ cur, d.jobs = before ++ cur :: after ∧ job.Alike cur ∧
    (cur = job ∨ ∃ sent r, Saw log (.replaceStatus sent) r ∧ cur.status = sent.status)
  pods : ∀ p ∈ d.pods, ∃ q ∈ c.pods, p.metadata = q.metadata
  told : ∀ a ∈ log, Told c before job after a

/-! ## Lemmas -/

theorem isAt_iff {m : Metadata} {space name : String} :
    m.isAt space name = true ↔ m.space = some space ∧ m.displayName = name := by
  simp [Metadata.isAt]

theorem replaceFirst_append {α : Type} {test : α → Bool} {f : α → α} {before after : List α} {a : α}
    (hb : ∀ x ∈ before, test x = false) (ha : test a = true) :
    replaceFirst test f (before ++ a :: after) = before ++ f a :: after := by
  induction before with
  | nil => simp [replaceFirst, ha]
  | cons x before ih =>
    have hx : test x = false := hb x List.mem_cons_self
    rw [List.cons_append, replaceFirst, hx, ih fun y hy => hb y (List.mem_cons_of_mem _ hy)]
    rfl

theorem mem_replaceFirst {α : Type} {test : α → Bool} {f : α → α} {l : List α} {x : α}
    (h : x ∈ replaceFirst test f l) : x ∈ l ∨ ∃ y ∈ l, x = f y := by
  induction l with
  | nil => exact .inl h
  | cons a r ih =>
    rw [replaceFirst] at h
    split at h
    · rcases List.mem_cons.1 h with h | h
      · exact .inr ⟨a, List.mem_cons_self, h⟩
      · exact .inl (List.mem_cons_of_mem _ h)
    · rcases List.mem_cons.1 h with h | h
      · exact .inl (h ▸ List.mem_cons_self)
      · rcases ih h with h | ⟨y, hy, h⟩
        · exact .inl (List.mem_cons_of_mem _ h)
        · exact .inr ⟨y, List.mem_cons_of_mem _ hy, h⟩

/-- A function that does not see the replacement gives the same list. -/
theorem map_replaceFirst {α β : Type} {test : α → Bool} {f : α → α} {g : α → β} (hg : ∀ a, g (f a) = g a)
    (l : List α) : (replaceFirst test f l).map g = l.map g := by
  induction l with
  | nil => rfl
  | cons a r ih =>
    rw [replaceFirst]
    split
    · rw [List.map_cons, List.map_cons, hg]
    · rw [List.map_cons, List.map_cons, ih]

/-- A search that does not see the replacement comes to the same place. -/
theorem find?_replaceFirst {α β : Type} (test : α → Bool) {p : α → Bool} {f : α → α} {g : α → β}
    (hp : ∀ a, p (f a) = p a) (hg : ∀ a, g (f a) = g a) (l : List α) :
    ((replaceFirst test f l).find? p).map g = (l.find? p).map g := by
  induction l with
  | nil => rfl
  | cons a r ih =>
    rw [replaceFirst]
    split
    · rw [List.find?_cons, List.find?_cons, hp]
      split
      · exact congrArg some (hg a)
      · rfl
    · rw [List.find?_cons, List.find?_cons]
      split
      · rfl
      · exact ih

theorem find?_replaceFirst_self {α : Type} {f : α → α} (test : α → Bool) (hf : ∀ a, test (f a) = test a)
    (l : List α) : (replaceFirst test f l).find? test = (l.find? test).map f := by
  induction l with
  | nil => rfl
  | cons a r ih =>
    rw [replaceFirst]
    split
    · next ha => rw [List.find?_cons_of_pos ((hf a).trans ha), List.find?_cons_of_pos ha, Option.map_some]
    · next ha => rw [List.find?_cons_of_neg ha, List.find?_cons_of_neg ha, ih]

theorem find?_append_cons {α : Type} {test : α → Bool} {before after : List α} {a : α}
    (hb : ∀ x ∈ before, test x = false) (ha : test a = true) :
    (before ++ a :: after).find? test = some a := by
  rw [List.find?_eq_some_iff_append]
  refine ⟨ha, before, after, rfl, fun x hx => ?_⟩
  rw [hb x hx]
  rfl

theorem metadata_addEphemeral (p : Pod) (c : EphemeralContainer) : (p.addEphemeral c).metadata = p.metadata := by
  unfold Pod.addEphemeral
  split <;> rfl

section
variable {space name : String} {before after : List Job} {job cur sent : Job} {c d : Cluster}

theorem Placed.alike (h : Placed space name before job) (ha : job.Alike cur) : Placed space name before cur := by
  refine ⟨?_, h.first⟩
  obtain ⟨hs, hn⟩ := isAt_iff.1 h.here
  exact isAt_iff.2 ⟨ha.space.trans hs, ha.name.trans hn⟩

theorem job?_at (h : Placed space name before job) (hj : c.jobs = before ++ job :: after) :
    c.job? space name = some job := by
  unfold job?
  rw [hj]
  exact find?_append_cons h.first h.here

theorem isAt_of_job? (h : c.job? space name = some job) : job.metadata.isAt space name = true := by
  simpa using List.find?_some h

theorem placed_of_job? (h : c.job? space name = some job) :
    ∃ before after, c.jobs = before ++ job :: after ∧ Placed space name before job := by
  obtain ⟨hat, before, after, hj, hb⟩ := List.find?_eq_some_iff_append.1 h
  refine ⟨before, after, hj, hat, fun j hmem => ?_⟩
  have hnot := hb j hmem
  simpa using hnot

/-- Replacing the status of a job changes this job, if it is still of the version sent, and nothing else. -/
theorem replaceStatus_at (h : Placed space name before cur) (hj : c.jobs = before ++ cur :: after)
    (hs : cur.Alike sent) :
    c.replaceStatus sent =
      if cur.metadata.resourceVersion = sent.metadata.resourceVersion then
        (.ok (restatused cur sent.status), { c with jobs := before ++ restatused cur sent.status :: after })
      else (.error staleVersion, c) := by
  obtain ⟨hspace, hname⟩ := isAt_iff.1 h.here
  have htest : (fun j : Job => j.metadata.isAt (sent.space.getD "") sent.name) =
      fun j : Job => j.metadata.isAt space name := by
    rw [hs.space, hs.name, show cur.space = some space from hspace, show cur.name = name from hname]
    rfl
  unfold replaceStatus
  simp only [htest, hj, find?_append_cons h.first h.here, replaceFirst_append h.first h.here]

theorem alike_restatused (cur : Job) (s : Option Job.Status) : cur.Alike (restatused cur s) :=
  ⟨rfl, rfl, rfl⟩

end

section
variable {space name uid : String} {now : Stamp} {before after : List Job} {job cur read : Job} {c d : Cluster}
  {log : List Answered}

/-! ### What a pass is told -/

theorem read_of_told (ht : ∀ a ∈ log, Told c before job after a) (h : Read space name log read uid) :
    read = job := by
  obtain ⟨rest, hrest⟩ := h.first
  have hfound : some read = some job :=
    ht ⟨.getJob space name, Except.ok (some read)⟩ (by rw [hrest]; exact List.mem_cons_self)
  exact Option.some.inj hfound

/-- The job a pass works on is the one of the cluster, or that job as it was set up. -/
theorem works_of_told {work : Job} (ht : ∀ a ∈ log, Told c before job after a)
    (h : Works now space name log read uid work) :
    job.Alike work ∧ ((job.phase ≠ none ∧ work = job) ∨
      (job.phase = none ∧ work.status = some (job.reported.initialized now))) := by
  obtain rfl := read_of_told ht h.toRead
  rcases h.origin with ⟨hp, rfl, -⟩ | ⟨hp, hs, -⟩
  · exact ⟨.refl _, .inl ⟨hp, rfl⟩⟩
  · have hstored : read.Alike work ∧ work.status = (setUp now read).status := ht _ hs
    exact ⟨hstored.1, .inr ⟨hp, hstored.2⟩⟩

theorem alike_of_due {sent : Job} (ht : ∀ a ∈ log, Told c before job after a)
    (h : Due now space name log (.replaceStatus sent)) : job.Alike sent := by
  cases h with
  | setUp hr =>
    obtain rfl := read_of_told ht hr
    exact Job.alike_withStatus _ _
  | abandon hw => exact (works_of_told ht hw).1.trans (Job.alike_withStatus _ _)
  | makeWay hr => exact (works_of_told ht hr.toWorks).1.trans (Job.alike_withStatus _ _)
  | store hc => exact (works_of_told ht hc.toWorks).1.trans (Job.alike_withStatus _ _)

/-! ### What a call does -/

theorem served_nil (h : Served c log d) (hl : log = []) : d = c := by
  cases h with
  | nil => rfl
  | concat => simp at hl

theorem Standing.append {a : Answered} (h : Standing c before job after log d) (ha : Told c before job after a) :
    Standing c before job after (log ++ [a]) d := by
  obtain ⟨cur, hj, halike, hcur⟩ := h.jobs
  refine ⟨⟨cur, hj, halike, hcur.imp id fun ⟨sent, r, hs, he⟩ => ⟨sent, r, hs.append, he⟩⟩, h.pods, ?_⟩
  intro b hb
  rcases List.mem_append.1 hb with hb | hb
  · exact h.told b hb
  · rw [List.mem_singleton.1 hb]
    exact ha

/-- Whatever is answered, a call leaves the other jobs as they are, and stores in the job's place what it asks to. -/
theorem Standing.perform (h : Standing c before job after log d) (hp : Placed space name before job) {call : Call}
    (hdue : Due now space name log call) (r : call.Reply) (hr : Told c before job after ⟨call, r⟩) :
    Standing c before job after (log ++ [⟨call, r⟩]) (d.perform call).2 := by
  cases call with
  | getJob s n => exact h.append hr
  | listPods s q => exact h.append hr
  | listJobs s => exact h.append hr
  | findTool t s => exact h.append hr
  | issueToken j l => exact h.append hr
  | publish e => exact h.append hr
  | patchToolStatus s n status => cases hdue
  | addContainer pod container =>
    obtain ⟨hjobs, hpods, htold⟩ := h.append hr
    simp only [Cluster.perform, addContainer]
    split
    · refine ⟨hjobs, fun p hp => ?_, htold⟩
      rcases mem_replaceFirst hp with hp | ⟨p', hp', rfl⟩
      · exact hpods p hp
      · rw [metadata_addEphemeral]
        exact hpods p' hp'
    · exact ⟨hjobs, hpods, htold⟩
  | replaceStatus sent =>
    obtain ⟨cur, hj, halike, -⟩ := h.jobs
    have hsent : cur.Alike sent := halike.symm.trans (alike_of_due h.told hdue)
    simp only [Cluster.perform, replaceStatus_at (hp.alike halike) hj hsent]
    split
    · refine ⟨⟨restatused cur sent.status, rfl, halike.trans (alike_restatused _ _), .inr ?_⟩, h.pods,
        (h.append hr).told⟩
      exact ⟨sent, r, saw_append_self _ _, rfl⟩
    · exact h.append hr

/-- The cluster answers a pass from what is stored of its job. -/
theorem Standing.told_perform (h : Standing c before job after log d) (hp : Placed space name before job)
    {call : Call} (hdue : Due now space name log call) (hs : Served c log d) (hc : c.jobs = before ++ job :: after) :
    Told c before job after ⟨call, (d.perform call).1⟩ := by
  obtain ⟨cur, hj, halike, -⟩ := h.jobs
  cases call with
  | getJob s n =>
    cases hdue
    obtain rfl := served_nil hs rfl
    exact job?_at hp hc
  | listPods s q => exact fun p hp => h.pods p (List.mem_filter.1 hp).1
  | listJobs s =>
    intro j hjob hspace
    have hmem : j ∈ d.jobs := mem_of_mem_removed hj hjob
    show j ∈ d.jobsIn s
    unfold jobsIn
    split
    · exact hmem
    · exact List.mem_filter.2 ⟨hmem, decide_eq_true hspace⟩
  | findTool t s => trivial
  | issueToken j l => trivial
  | publish e => trivial
  | patchToolStatus s n status => cases hdue
  | addContainer pod container =>
    simp only [Cluster.perform, addContainer]
    split <;> trivial
  | replaceStatus sent =>
    have hsent : cur.Alike sent := halike.symm.trans (alike_of_due h.told hdue)
    simp only [Cluster.perform, replaceStatus_at (hp.alike halike) hj hsent]
    split
    · exact ⟨halike.trans (alike_restatused _ _), rfl⟩
    · trivial

/-- **The whole log.**  After any part of a pass its job has a status it had or was to get; no other has changed. -/
theorem standing_of_served {q : Pass Next} (hc : c.jobs = before ++ job :: after)
    (hp : Placed space name before job) (hg : (reconcile now space name).Goes log q) (hs : Served c log d) :
    Standing c before job after log d := by
  induction hs generalizing q with
  | nil =>
    exact ⟨⟨job, hc, .refl _, .inl rfl⟩, fun p hp => ⟨p, hp, rfl⟩, fun a ha => absurd ha List.not_mem_nil⟩
  | @concat log d e call r hs hserves ih =>
    obtain ⟨next, hg, -⟩ := hg.split
    have h := ih hg
    have hdue : Due now space name log call := due_of_call hg
    have tells_failed : ∀ f, Told c before job after ⟨call, call.failed f⟩ := by
      intro f
      cases call <;> trivial
    cases hserves with
    | failed f => exact h.append (tells_failed f)
    | lost f => exact h.perform hp hdue _ (tells_failed f)
    | performed => exact h.perform hp hdue _ (h.told_perform hp hdue hs hc)

/-- Every call of a pass was due after an earlier part of its log, and what it had been told by then is so. -/
theorem Standing.due_of_mem {a : Answered} {q : Pass Next} (h : Standing c before job after log d)
    (hg : (reconcile now space name).Goes log q) (ha : a ∈ log) :
    ∃ earlier later, log = earlier ++ a :: later ∧ (∀ b ∈ earlier, Told c before job after b) ∧
      Due now space name earlier a.call := by
  obtain ⟨earlier, later, rfl⟩ := List.append_of_mem ha
  exact ⟨earlier, later, rfl, fun b hb => h.told b (List.mem_append_left _ hb), due_of_goes hg⟩

end

/-! ### What no call changes -/

section
variable {c d e : Cluster} {log : List Answered}

theorem Framed.refl (c : Cluster) : Framed c c := ⟨rfl, fun _ _ => rfl⟩

theorem Framed.perform (h : Framed c d) (call : Call) : Framed c (d.perform call).2 := by
  cases call with
  | replaceStatus job =>
    simp only [Cluster.perform, replaceStatus]
    split
    · exact h
    · split
      · refine ⟨h.pods, fun space name => ?_⟩
        have hfound := find?_replaceFirst (fun j : Job => j.metadata.isAt (job.space.getD "") job.name)
          (f := fun j => restatused j job.status) (g := fun j : Job => j.spec)
          (p := fun j : Job => j.metadata.isAt space name)
          (fun _ => rfl) (fun _ => rfl) d.jobs
        exact hfound.trans (h.specs space name)
      · exact h
  | addContainer pod container =>
    simp only [Cluster.perform, addContainer]
    split
    · exact ⟨(map_replaceFirst (fun p => metadata_addEphemeral p container) _).trans h.pods, h.specs⟩
    · exact h
  | patchToolStatus space name status =>
    simp only [Cluster.perform, patchToolStatus]
    split
    · exact ⟨h.pods, h.specs⟩
    · exact h
  | _ => exact h

theorem framed_of_served (h : Served c log d) : Framed c d := by
  induction h with
  | nil => exact .refl _
  | concat _ hserves ih =>
    cases hserves with
    | failed => exact ih
    | lost => exact ih.perform _
    | performed => exact ih.perform _

/-- A pod of a framed cluster was there before with the same metadata, and the other way round. -/
theorem Framed.mem_pods {m : Metadata} (h : Framed c d) :
    (∃ p ∈ d.pods, p.metadata = m) ↔ ∃ p ∈ c.pods, p.metadata = m := by
  rw [← List.mem_map, ← List.mem_map, h.pods]

theorem Serves.reply {call : Call} {r : call.Reply} (h : Serves c call r d) :
    (∃ f, r = call.failed f) ∨ r = (c.perform call).1 := by
  cases h with
  | failed f => exact .inl ⟨f, rfl⟩
  | lost f => exact .inl ⟨f, rfl⟩
  | performed => exact .inr rfl

/-- Every call of a log was answered by a framed cluster. -/
theorem Served.reply_of_mem {call : Call} {r : call.Reply} (h : Served c log d) (hsaw : Saw log call r) :
    ∃ e, Framed c e ∧ ((∃ f, r = call.failed f) ∨ r = (e.perform call).1) := by
  induction h with
  | nil => exact absurd hsaw List.not_mem_nil
  | @concat log d e call' r' hs hserves ih =>
    rcases List.mem_append.1 hsaw with hsaw | hsaw
    · exact ih hsaw
    · cases List.mem_singleton.1 hsaw
      exact ⟨d, framed_of_served hs, hserves.reply⟩

theorem Served.pods_of_mem {space query : String} {l : List Pod} (h : Served c log d)
    (hsaw : Saw log (.listPods space query) (Except.ok l)) : ∃ e, Framed c e ∧ l = e.podsIn space := by
  obtain ⟨e, hframed, ⟨f, hf⟩ | hr⟩ := h.reply_of_mem hsaw
  · exact Except.noConfusion rfl rfl (heq_of_eq hf)
  · exact ⟨e, hframed, Except.ok.inj hr⟩

/-- A status that is stored is from then on that of the job at the address it was sent to. -/
theorem replaceStatus_ok {sent stored : Job} (h : (c.replaceStatus sent).1 = .ok stored) :
    ∃ cur, c.job? (sent.space.getD "") sent.name = some cur ∧ stored = restatused cur sent.status ∧
      (c.replaceStatus sent).2.job? (sent.space.getD "") sent.name = some stored := by
  have hfound := find?_replaceFirst_self (fun j : Job => j.metadata.isAt (sent.space.getD "") sent.name)
    (f := fun j => restatused j sent.status) (fun _ => rfl) c.jobs
  unfold replaceStatus at h ⊢
  cases hcur : c.jobs.find? fun j => j.metadata.isAt (sent.space.getD "") sent.name with
  | none =>
    simp only [hcur] at h
    cases h
  | some cur =>
    simp only [hcur] at h ⊢
    split at h
    · next hversion =>
      obtain rfl := Except.ok.inj h
      rw [if_pos hversion]
      exact ⟨cur, hcur, rfl, hfound.trans (congrArg (Option.map _) hcur)⟩
    · cases h

theorem replaceStatus_error {sent : Job} {f : Pass.Failure} (h : (c.replaceStatus sent).1 = .error f) :
    (c.replaceStatus sent).2 = c := by
  unfold replaceStatus at h ⊢
  cases hcur : c.jobs.find? fun j => j.metadata.isAt (sent.space.getD "") sent.name with
  | none => simp only [hcur]
  | some cur =>
    simp only [hcur] at h ⊢
    split at h
    · cases h
    · next hversion => rw [if_neg hversion]

/-- A job that was told to be stored has the specification of the job at its address. -/
theorem Served.spec_of_mem {space name : String} {job sent stored : Job} (h : Served c log d)
    (hsaw : Saw log (.replaceStatus sent) (Except.ok stored)) (hj : c.job? space name = some job)
    (hspace : sent.space = some space) (hname : sent.name = name) : stored.spec = job.spec := by
  obtain ⟨e, hframed, ⟨f, hf⟩ | hr⟩ := h.reply_of_mem hsaw
  · exact Except.noConfusion rfl rfl (heq_of_eq hf)
  obtain ⟨cur, hcur, rfl, -⟩ := replaceStatus_ok (Eq.symm hr)
  have hspec := hframed.specs space name
  rw [hspace, hname] at hcur
  rw [hj, show e.job? space name = some cur from hcur] at hspec
  exact Option.some.inj hspec

theorem Fixed.refl (c : Cluster) : Fixed c c := ⟨rfl, rfl, rfl⟩

theorem Fixed.perform (h : Fixed c d) {call : Call}
    (hcall : ∀ space name status, call ≠ .patchToolStatus space name status) : Fixed c (d.perform call).2 := by
  cases call with
  | patchToolStatus space name status => exact absurd rfl (hcall space name status)
  | replaceStatus job =>
    simp only [Cluster.perform, replaceStatus]
    split
    · exact h
    · split
      · exact ⟨h.tools, h.system, h.lists⟩
      · exact h
  | addContainer pod container =>
    simp only [Cluster.perform, addContainer]
    split
    · exact ⟨h.tools, h.system, h.lists⟩
    · exact h
  | _ => exact h

/-- Nothing but a pass over a registry entry changes the registry. -/
theorem fixed_of_served (h : Served c log d)
    (hlog : ∀ a ∈ log, ∀ space name status, a.call ≠ .patchToolStatus space name status) : Fixed c d := by
  induction h with
  | nil => exact .refl _
  | @concat log d e call r hs hserves ih =>
    have hfixed := ih fun a ha => hlog a (List.mem_append_left _ ha)
    have hcall := hlog ⟨call, r⟩ (List.mem_append_right _ List.mem_cons_self)
    cases hserves with
    | failed => exact hfixed
    | lost => exact hfixed.perform hcall
    | performed => exact hfixed.perform hcall

theorem unpatched_of_goes {now : Stamp} {space name : String} {q : Pass Next}
    (hg : (reconcile now space name).Goes log q) :
    ∀ a ∈ log, ∀ space name status, a.call ≠ .patchToolStatus space name status := by
  rintro ⟨call, r⟩ ha s n status hcall
  obtain ⟨earlier, later, rfl⟩ := List.append_of_mem ha
  have hdue := due_of_goes hg
  rw [show (⟨call, r⟩ : Answered).call = _ from hcall] at hdue
  cases hdue

end

/-! ### Parts of a log -/

section
variable {c d e : Cluster} {log more : List Answered} {space name : String}

theorem Served.split (h : Served c (log ++ more) d) : ∃ e, Served c log e ∧ Served e more d := by
  generalize hall : log ++ more = all at h
  induction h generalizing more with
  | nil =>
    obtain ⟨rfl, rfl⟩ := List.append_eq_nil_iff.1 hall
    exact ⟨c, .nil, .nil⟩
  | concat hs hserves ih =>
    rcases List.eq_nil_or_concat more with rfl | ⟨more, a, rfl⟩
    · rw [List.append_nil] at hall
      exact ⟨_, hall ▸ hs.concat hserves, .nil⟩
    · rw [List.concat_eq_append, ← List.append_assoc] at hall
      obtain ⟨hall, ha⟩ := List.append_inj' hall rfl
      obtain ⟨e, hfirst, hrest⟩ := ih hall
      refine ⟨e, hfirst, ?_⟩
      rw [List.concat_eq_append, ha]
      exact hrest.concat hserves

theorem Served.uncons {a : Answered} (h : Served c (a :: log) d) :
    ∃ e, Serves c a.call a.reply e ∧ Served e log d := by
  obtain ⟨e, hfirst, hrest⟩ := (show Served c ([a] ++ log) d from h).split
  refine ⟨e, ?_, hrest⟩
  generalize hone : [a] = one at hfirst
  cases hfirst with
  | nil => cases hone
  | concat hs hserves =>
    obtain ⟨hnil, ha⟩ := List.append_inj' (show [] ++ [a] = _ from hone) rfl
    cases served_nil hs hnil.symm
    cases ha
    exact hserves

theorem jobs_perform {call : Call} (h : call.isStore = false) : (c.perform call).2.jobs = c.jobs := by
  cases call with
  | replaceStatus => exact Bool.noConfusion h
  | addContainer pod container =>
    simp only [Cluster.perform, addContainer]
    split <;> rfl
  | patchToolStatus space name status =>
    simp only [Cluster.perform, patchToolStatus]
    split <;> rfl
  | _ => rfl

theorem pods_perform {call : Call} {r : call.Reply} (h : Answered.target? ⟨call, r⟩ = none) :
    (c.perform call).2.pods = c.pods := by
  cases call with
  | addContainer => cases h
  | replaceStatus job =>
    simp only [Cluster.perform, replaceStatus]
    split
    · rfl
    · split <;> rfl
  | patchToolStatus space name status =>
    simp only [Cluster.perform, patchToolStatus]
    split <;> rfl
  | _ => rfl

/-- Pods change only where a container is added. -/
theorem pods_of_served (h : Served c log d) (htargets : targets log = []) : d.pods = c.pods := by
  induction h with
  | nil => rfl
  | @concat log d e call r hs hserves ih =>
    rw [targets_append, List.append_eq_nil_iff] at htargets
    have hcall : Answered.target? ⟨call, r⟩ = none :=
      List.filterMap_eq_nil_iff.1 htargets.2 _ List.mem_cons_self
    cases hserves with
    | failed => exact ih htargets.1
    | lost => exact (pods_perform hcall).trans (ih htargets.1)
    | performed => exact (pods_perform hcall).trans (ih htargets.1)

theorem jobs_of_served (h : Served c log d) (hquiet : ∀ a ∈ log, a.call.isStore = false) : d.jobs = c.jobs := by
  induction h with
  | nil => rfl
  | @concat log d e call r hs hserves ih =>
    have hjobs : d.jobs = c.jobs := ih fun a ha => hquiet a (List.mem_append_left _ ha)
    have hcall : call.isStore = false := hquiet ⟨call, r⟩ (List.mem_append_right _ List.mem_cons_self)
    cases hserves with
    | failed => exact hjobs
    | lost => exact (jobs_perform hcall).trans hjobs
    | performed => exact (jobs_perform hcall).trans hjobs

theorem job?_of_served (h : Served c log d) (hquiet : ∀ a ∈ log, a.call.isStore = false) :
    d.job? space name = c.job? space name := by
  unfold job?
  rw [jobs_of_served h hquiet]

theorem Serves.performed_of_ne {call : Call} {r : call.Reply} (h : Serves c call r d)
    (hne : ∀ f, r ≠ call.failed f) : r = (c.perform call).1 ∧ d = (c.perform call).2 := by
  cases h with
  | failed f => exact absurd rfl (hne f)
  | lost f => exact absurd rfl (hne f)
  | performed => exact ⟨rfl, rfl⟩

/-- The job that is told to be stored is the one at the address the status was sent to. -/
theorem Serves.job?_of_stored {sent stored : Job} (h : Serves c (.replaceStatus sent) (Except.ok stored) d)
    (hspace : sent.space = some space) (hname : sent.name = name) :
    d.job? space name = some stored ∧ stored.status = sent.status := by
  obtain ⟨hr, rfl⟩ := h.performed_of_ne fun f hf => Except.noConfusion rfl rfl (heq_of_eq hf)
  obtain ⟨cur, -, rfl, hjob⟩ := replaceStatus_ok (Eq.symm hr)
  rw [hspace, hname] at hjob
  exact ⟨hjob, rfl⟩

theorem follows_restatused (cur : Job) (s : Option Job.Status) : cur.Follows (restatused cur s) := ⟨rfl, rfl⟩

/-- What is told to be stored is the job at the address with the status that was sent. -/
theorem Serves.stored_eq {sent stored cur : Job} (h : Serves c (.replaceStatus sent) (Except.ok stored) d)
    (hj : c.job? space name = some cur) (hspace : sent.space = some space) (hname : sent.name = name) :
    stored = restatused cur sent.status := by
  obtain ⟨hr, -⟩ := h.performed_of_ne fun f hf => Except.noConfusion rfl rfl (heq_of_eq hf)
  obtain ⟨cur', hcur, rfl, -⟩ := replaceStatus_ok (Eq.symm hr)
  rw [hspace, hname] at hcur
  rw [Option.some.inj (hj.symm.trans hcur)]

end

/-! ### Sessions -/

theorem serves_answer (call : Call) (s : Session) :
    Serves s.cluster call (Session.answer call s).1 (Session.answer call s).2.cluster := by
  unfold Session.answer
  split
  · exact .failed call _
  · exact .performed call

theorem Served.cons {c d e : Cluster} {call : Call} {r : call.Reply} {log : List Answered}
    (h : Serves c call r d) (hs : Served d log e) : Served c (⟨call, r⟩ :: log) e := by
  induction hs with
  | nil => exact Served.nil.concat h
  | concat _ hserves ih => exact ih.concat hserves

/-- A run of a pass in a session is served by the session's cluster, whatever its schedule makes fail. -/
theorem served_run {α : Type} (p : Pass α) (s : Session) :
    Served s.cluster (p.record Session.answer s) (p.run Session.answer s).2.cluster := by
  induction p generalizing s with
  | done a => exact .nil
  | fail f => exact .nil
  | crash m => exact .nil
  | call c next ih => exact .cons (serves_answer c s) (ih _ _)

/-- A pass that only looks things up, and is told of a cluster as it is, runs so in a session without failures. -/
theorem run_of_ends {α : Type} {p : Pass α} {o : Outcome α} {c : Cluster} {log : List Answered} (h : p.Ends log o)
    (hlooks : ∀ a ∈ log, a.call.isLookup = true) (htold : ∀ a ∈ log, a.reply = (c.perform a.call).1)
    (calls : List Call) :
    (p.run Session.answer ⟨c, [], calls⟩).1 = o ∧ p.record Session.answer ⟨c, [], calls⟩ = log := by
  unfold Ends at h
  generalize hq : ofOutcome o = q at h
  induction h generalizing calls with
  | stay p =>
    subst hq
    cases o <;> exact ⟨rfl, rfl⟩
  | @call call next q log r _ ih =>
    obtain ⟨hlook, hlooks⟩ := List.forall_mem_cons.1 hlooks
    obtain ⟨hreply, htold⟩ := List.forall_mem_cons.1 htold
    replace hreply : r = (c.perform call).1 := hreply
    have hsame : (c.perform call).2 = c := by
      cases call <;> first | rfl | cases hlook
    obtain ⟨hrun, hrecord⟩ := ih hlooks htold (call :: calls) hq
    have hanswer : Session.answer call ⟨c, [], calls⟩ = (r, ⟨c, [], call :: calls⟩) := by
      rw [hreply]
      show ((c.perform call).1, (⟨(c.perform call).2, [], call :: calls⟩ : Session)) = _
      rw [hsame]
    constructor
    · rw [Pass.run, hanswer]
      exact hrun
    · rw [Pass.record, hanswer, hrecord]

end Cluster

namespace Pass.Sample

/-- The job as it was made, in a cluster that gives no versions. -/
def unseen : Job :=
  { job with metadata := { job.metadata with resourceVersion := none }, status := none }

def made : Cluster :=
  ⟨[unseen], [pod], [tool], "ops", false⟩

/-- A cluster after a whole pass over a job of it, in which no call fails. -/
def afterPass (name : String) (c : Cluster) : Cluster :=
  ((reconcile now "shop" name).run Session.answer (Session.start c [])).2.cluster

end Pass.Sample

end ProfilingOperator
