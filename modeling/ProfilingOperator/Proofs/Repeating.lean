import Mathlib.Data.List.Forall2
import ProfilingOperator.Proofs.Managing

/-!
# A pass after a pass

A pass that went well leaves nothing to do.  The next pass over the job as it is stored, among pods in which the
containers just added are alive and which are otherwise as they were, looks everything up once more, comes to the very
status that is stored, and asks for the next pass as the first one did.

    managed_again : a status that was left by a pass is the one that the next pass leaves
    active_again : the claims stored are those that the next plan goes on with
    repeated_pass_rests : the next pass only looks things up, and ends as the pass before it
-/

namespace ProfilingOperator

namespace Repeating

open Pass Cluster Balance

/-! ## Pods after a pass -/

/-- What has become of a pod: it is as it was, unless a container was added to it, which is then alive. -/
structure Since (container : String) (added : List Pod) (p q : Pod) : Prop where
  metadata : q.metadata = p.metadata
  alive : p ∈ added → Alive container q
  kept : p ∉ added → q = p

/-- No event of a log tells of a conflict, or of a container that could not be added. -/
def Smooth (log : List Answered) : Prop :=
  ∀ event ∈ events log, event.reason ≠ "ConflictDetected" ∧ event.reason ≠ "InjectionFailed"

instance (log : List Answered) : Decidable (Smooth log) :=
  inferInstanceAs (Decidable (∀ event ∈ events log, _))

/-- The calls of a log look something up, and are told of a cluster as it is. -/
structure Plain (w : Cluster) (log : List Answered) : Prop where
  looks : ∀ a ∈ log, a.call.isLookup = true
  told : ∀ a ∈ log, a.reply = (w.perform a.call).1

/-! ## Lemmas -/

section
variable {now later : Stamp} {space name uid container : String} {log : List Answered} {read job cur : Job}
  {tool : Tool.Spec} {pods pods' : List Pod} {added : List Pod} {c d : Cluster}

/-! ### The status -/

theorem stands_settled (hopen : job.isTerminal = false) (s : Job.Status) :
    Condition.stands (settled now job s).conditions Progress.conflicted = false := by
  unfold settled Job.Status.clearConflict
  rw [hopen]
  simp only [Bool.false_eq_true, if_false]
  split
  · exact Job.Status.stands_note_self
  · next hnot => simpa using hnot

/-- A status that was left without trouble by a pass over a job that is not done with is left again by the next pass
over as many pods with the same claims. -/
theorem managed_again {active : StringMap String} (hopen : job.isTerminal = false)
    (hstatus : cur.status = some (managed now job pods active none)) (hlength : pods'.length = pods.length) :
    managed later cur pods' active none = managed now job pods active none := by
  generalize hs : managed now job pods active none = s at hstatus ⊢
  obtain ⟨phase, conditions, finishedAt, heq⟩ := managed_eq now job pods active none
  rw [hs] at heq
  have hproject : s = ({ settled now job (selected job pods) with lastError := none }).project
      (Progress.count pods.length) active now := by
    rw [← hs, managed, selectedPods_settled]
    rfl
  have hselected : selected cur pods' = s := by
    rw [selected, Job.reported, hstatus, hlength, heq]
    rfl
  have hcalm : Condition.stands s.conditions Progress.conflicted = false := by
    rw [hproject, Job.Status.stands_project_of_ne (by decide) (by decide)]
    exact stands_settled hopen _
  have hsettled : settled later cur s = s := by
    have hclear : s.clearConflict later = s := by rw [Job.Status.clearConflict, hcalm]; rfl
    rw [settled, hclear, ite_self, heq]
  have hkept : ({ s with lastError := none } : Job.Status) = s := by rw [heq]
  rw [managed, hselected, hsettled, hkept, show s.selectedPods = Progress.count pods.length by rw [heq]; rfl]
  rw [hproject]
  exact Job.Status.project_project _ _ _ _ _

/-! ### The pods -/

theorem exists_of_forall₂ {α β : Type} {R : α → β → Prop} {l : List α} {m : List β} (h : List.Forall₂ R l m) :
    (∀ a ∈ l, ∃ b ∈ m, R a b) ∧ ∀ b ∈ m, ∃ a ∈ l, R a b := by
  induction h with
  | nil => exact ⟨nofun, nofun⟩
  | cons hab _ ih =>
    constructor
    · refine List.forall_mem_cons.2 ⟨⟨_, List.mem_cons_self, hab⟩, fun a ha => ?_⟩
      obtain ⟨b, hb, hrel⟩ := ih.1 a ha
      exact ⟨b, List.mem_cons_of_mem _ hb, hrel⟩
    · refine List.forall_mem_cons.2 ⟨⟨_, List.mem_cons_self, hab⟩, fun b hb => ?_⟩
      obtain ⟨a, ha, hrel⟩ := ih.2 b hb
      exact ⟨a, List.mem_cons_of_mem _ ha, hrel⟩

theorem Since.alive_iff {p q : Pod} (h : Since container added p q) :
    Alive container q ↔ Alive container p ∨ p ∈ added := by
  constructor
  · intro halive
    by_cases hp : p ∈ added
    · exact .inr hp
    · rw [h.kept hp] at halive
      exact .inl halive
  · rintro (halive | hp)
    · by_cases hp : p ∈ added
      · exact h.alive hp
      · rw [h.kept hp]
        exact halive
    · exact h.alive hp

/-- The claims stored are those that the next plan goes on with. -/
theorem active_again {tries : List (Pod × Except Pass.Failure Unit)} {s : Job.Status}
    (haccounts : Accounts job pods container tries s) (hadded : ∀ p, p ∈ added ↔ (p, .ok ()) ∈ tries)
    (hpods : List.Forall₂ (Since container added) pods pods') (howned : cur.Owned container) :
    (planFor cur pods' container).active = s.activePods := by
  obtain ⟨hleft, hright⟩ := exists_of_forall₂ hpods
  refine StringMap.ext_get? fun k => Option.ext fun v => ?_
  rw [active_of_owned howned, haccounts.claims]
  refine and_congr Iff.rfl ⟨?_, ?_⟩
  · rintro ⟨q, hq, rfl, halive⟩
    obtain ⟨p, hp, hsince⟩ := hright q hq
    refine ⟨p, hp, congrArg Metadata.displayName hsince.metadata.symm, ?_⟩
    exact (hsince.alive_iff.1 halive).imp id (hadded p).1
  · rintro ⟨p, hp, rfl, halive⟩
    obtain ⟨q, hq, hsince⟩ := hleft p hp
    refine ⟨q, hq, congrArg Metadata.displayName hsince.metadata, ?_⟩
    exact hsince.alive_iff.2 (halive.imp id (hadded p).2)

/-- No pod lacks its container any more. -/
theorem attempted_again (hadded : ∀ p ∈ pods, p.declares container = false → p ∈ added)
    (hpods : List.Forall₂ (Since container added) pods pods') (howned : cur.Owned container) :
    attempted cur pods' container = [] := by
  have hcreate : (planFor cur pods' container).create.map (·.1) = [] := by
    rw [create_of_owned howned, List.filter_eq_nil_iff]
    intro q hq
    obtain ⟨p, hp, hsince⟩ := (exists_of_forall₂ hpods).2 q hq
    have hdeclares : q.declares container = true := by
      by_cases hmem : p ∈ added
      · exact (hsince.alive hmem).1
      · rw [hsince.kept hmem, ← Bool.not_eq_false]
        exact fun hlacks => hmem (hadded p hp hlacks)
    simp [hdeclares]
  rw [attempted, List.map_eq_nil_iff.1 hcreate, ite_self]

theorem targetNames_again (hpods : List.Forall₂ (Since container added) pods pods') :
    targetNames pods' = targetNames pods := by
  unfold targetNames
  induction hpods with
  | nil => rfl
  | cons hsince _ ih => rw [List.map_cons, List.map_cons, ih, hsince.metadata]

theorem filter_again (test : Metadata → Bool) (hpods : List.Forall₂ (Since container added) pods pods') :
    List.Forall₂ (Since container added) (pods.filter fun p => test p.metadata)
      (pods'.filter fun p => test p.metadata) := by
  refine List.rel_filter (fun p q hsince => ?_) hpods
  show test p.metadata = true ↔ test q.metadata = true
  rw [hsince.metadata]

/-! ### Looking up once more -/

section
variable {e w : Cluster} {more : List Answered}

theorem Plain.nil : Plain w [] :=
  ⟨fun _ ha => absurd ha List.not_mem_nil, fun _ ha => absurd ha List.not_mem_nil⟩

theorem Plain.append (h : Plain w log) (h' : Plain w more) : Plain w (log ++ more) :=
  ⟨fun a ha => (List.mem_append.1 ha).elim (h.looks a) (h'.looks a),
    fun a ha => (List.mem_append.1 ha).elim (h.told a) (h'.told a)⟩

theorem plain_singleton (call : Call) (h : call.isLookup = true) : Plain w [⟨call, (w.perform call).1⟩] :=
  ⟨List.forall_mem_singleton.2 h, List.forall_mem_singleton.2 rfl⟩

theorem findTool?_eq (h : Fixed c d) (tool space : String) : d.findTool? tool space = c.findTool? tool space := by
  unfold findTool? tool?
  rw [h.system, h.tools]

/-- The tool is found again. -/
theorem search_again (h : (resolveTool job space).Ends log (.done tool)) (hs : Served e log d) (he : Fixed c e)
    (hw : Fixed c w) (hspec : cur.spec = job.spec) :
    ∃ search, (resolveTool cur space).Ends search (.done tool) ∧ Plain w search := by
  obtain ⟨r, rfl, ho⟩ := ends_resolveTool.1 h
  obtain ⟨e', hserves, -⟩ := hs.uncons
  have hr : r = Except.ok (w.findTool? job.spec.tool.name space) := by
    rcases hserves.reply with ⟨f, hf⟩ | hr
    · rw [show r = Except.error f from hf] at ho
      cases ho
    · rw [findTool?_eq hw, ← findTool?_eq he]
      exact hr
  refine ⟨[⟨.findTool cur.spec.tool.name space, Except.ok (w.findTool? cur.spec.tool.name space)⟩],
    ends_resolveTool.2 ⟨_, rfl, ?_⟩, plain_singleton (.findTool cur.spec.tool.name space) rfl⟩
  rw [ho, hr, hspec]
  unfold admitted
  rw [hspec]

/-- The pods are resolved again. -/
theorem lookup_again {selector : Option Selector} (h : (Targets.resolve space selector).Ends log (.done pods))
    (hs : Served e log d) (hw : List.Forall₂ (Since container added) e.pods w.pods) :
    ∃ lookup pods', (Targets.resolve space selector).Ends lookup (.done pods') ∧ Plain w lookup ∧
      List.Forall₂ (Since container added) pods pods' := by
  rcases ends_resolve.1 h with ⟨hnone, rfl, ho⟩ | ⟨s, f, -, -, -, ho⟩ | ⟨s, compiled, r, hsel, hcompiled, rfl, ho⟩
  · cases ho
    exact ⟨[], [], ends_resolve.2 (.inl ⟨hnone, rfl, rfl⟩), .nil, .nil⟩
  · cases ho
  obtain ⟨e', hserves, -⟩ := hs.uncons
  rcases hserves.reply with ⟨f, hf⟩ | hr
  · rw [show r = Except.error f from hf] at ho
    cases ho
  rw [show r = Except.ok (e.podsIn space) from hr] at ho
  cases ho
  refine ⟨_, _, ends_resolve.2 (.inr (.inr ⟨s, compiled, .ok (w.podsIn space), hsel, hcompiled, rfl, rfl⟩)),
    plain_singleton (.listPods space compiled.query) rfl, ?_⟩
  exact filter_again (fun m => compiled.accepts m.labelMap) (filter_again (fun m => m.space = some space) hw)

theorem rivals_alike {a b other : Job} (h : a.Alike b) : Conflict.rivals b other = Conflict.rivals a other := by
  unfold Conflict.rivals Conflict.sameJob
  rw [h.name, h.space, h.uid]

/-- No conflict is found again: of the jobs there are now, the only new one is the job itself. -/
theorem check_again {before after : List Job} (h : (conflict? job space pods).Ends log (.done none))
    (htold : ∀ a ∈ log, Told c before read after a) (hopen : job.isTerminal = false) (halike : job.Alike cur)
    (hspace : cur.space = some space) (huid : cur.metadata.uid = some uid) (hw : w.jobs = before ++ cur :: after)
    (hnames : targetNames pods' = targetNames pods) :
    ∃ check, (conflict? cur space pods').Ends check (.done none) ∧ Plain w check := by
  cases ht : cur.isTerminal with
  | true => exact ⟨[], ends_conflict?.2 (.inl ⟨ht, rfl, rfl⟩), .nil⟩
  | false =>
    rcases ends_conflict?.1 h with ⟨hdone, -⟩ | ⟨-, r, rfl, ho⟩
    · rw [hopen] at hdone
      cases hdone
    rcases r with f | others
    · cases ho
    have hclear : Conflict.detect job (targetNames pods) others = none := (Outcome.done.inj ho).symm
    have hagain : Conflict.detect cur (targetNames pods') (w.jobsIn space) = none := by
      rw [hnames, Conflict.detect_eq_none_iff]
      intro other hother hrivals
      rw [rivals_alike halike] at hrivals
      refine Conflict.detect_eq_none_iff.1 hclear other ?_ hrivals
      obtain ⟨hsame, hrival, -⟩ := Conflict.rivals_iff.1 hrivals
      -- a rival has another id, so it is one of the jobs that were listed
      have hmem : other ∈ before ++ cur :: after := by
        rw [← hw]
        unfold jobsIn at hother
        split at hother
        · exact hother
        · exact (List.mem_filter.1 hother).1
      have hne : other ≠ cur := by
        rintro rfl
        rw [Conflict.sameJob, ← halike.uid, huid] at hsame
        simp at hsame
      have hlisted : ∀ j ∈ before ++ after, j.space = some space → j ∈ others := htold _ List.mem_cons_self
      refine hlisted other ?_ (hrival.trans (halike.space.symm.trans hspace))
      rcases List.mem_append.1 hmem with hmem | hmem
      · exact List.mem_append_left _ hmem
      · exact List.mem_append_right _ ((List.mem_cons.1 hmem).resolve_left hne)
    refine ⟨[⟨.listJobs space, Except.ok (w.jobsIn space)⟩],
      ends_conflict?.2 (.inr ⟨ht, Except.ok (w.jobsIn space), rfl, ?_⟩), plain_singleton (.listJobs space) rfl⟩
    exact congrArg Outcome.done hagain.symm

end

/-- With nothing to add and nothing new to store, the management of containers asks for nothing. -/
theorem manage_rests {s : Job.Status} (hattempted : attempted cur pods container = []) (hstatus : cur.status = some s)
    (hmanaged : managed now cur pods (planFor cur pods container).active none = s) :
    manage now cur tool pods container (selected cur pods) = .done (.after (Requeue.interval s.phase)) := by
  have hphase : cur.phase = s.phase := by
    rw [Job.phase, hstatus]
    rfl
  rw [manage_eq, hattempted]
  show conclude now cur pods ((planFor cur pods container).active, none) = _
  unfold conclude store tellCompleted
  simp only [hmanaged, hstatus, if_true, hphase, ne_eq, and_not_self, if_false]
  rfl

/-- Where nothing tells of a container that could not be added, every pod that was tried got one. -/
theorem ok_of_smooth {tries : List (Pod × Except Pass.Failure Unit)} (h : Tried job tool container tries log)
    (hsmooth : Smooth log) {p : Pod} {r : Except Pass.Failure Unit} (ht : (p, r) ∈ tries) : r = .ok () := by
  cases r with
  | ok u => rfl
  | error f =>
    obtain ⟨earlier, trial, later, rfl, -, htold⟩ := h.part ht
    rw [Smooth, events_append, events_append] at hsmooth
    exact absurd rfl (hsmooth _ (List.mem_append_right _ (List.mem_append_right _ (htold f rfl)))).2

theorem mem_targets_iff {tries : List (Pod × Except Pass.Failure Unit)} (h : Tried job tool container tries log)
    (hsmooth : Smooth log) {p : Pod} : p ∈ targets log ↔ (p, .ok ()) ∈ tries := by
  constructor
  · intro hp
    obtain ⟨⟨q, r⟩, ht, rfl⟩ := List.mem_map.1 (h.mem_of_targets hp)
    rw [ok_of_smooth h hsmooth ht] at ht
    exact ht
  · exact h.mem_targets_of_added

theorem concluded_smoothly {results : List ((Pod × Nat) × Except Pass.Failure Unit)}
    (h : ∀ r ∈ results, r.2 = .ok ()) : concluded now job pods container results =
      managed now job pods (concluded now job pods container results).activePods none := by
  have htrouble : (settle container results (planFor job pods container).active none).2 = none := by
    rw [trouble_settle, Option.or_none, List.getLast?_eq_none_iff, List.filterMap_eq_nil_iff]
    intro t ht
    obtain ⟨r, hr, rfl⟩ := List.mem_map.1 ht
    rw [h r hr]
    rfl
  unfold concluded
  simp only [activePods_managed, htrouble]

/-- A job that is not done with and whose claims are its own is worked on as such. -/
theorem work_of_resolution {before rest : List Answered} (h : Resolution now space name before read uid job tool pods)
    (hs : Served c (before ++ rest) d) (hopen : read.isTerminal = false) (howned : read.Owned container) :
    job.isTerminal = false ∧ job.Owned container := by
  obtain ⟨-, ⟨-, rfl⟩ | ⟨-, hset⟩⟩ := h.started hs
  · exact ⟨hopen, howned⟩
  · constructor
    · rw [Job.isTerminal, Job.phase, hset]
      rfl
    · rw [Job.Owned, Job.reported, hset]
      exact howned

/-- The pods that are tried for a job that is not done with are those that do not declare its container. -/
theorem tries_of_attempted {results : List ((Pod × Nat) × Except Pass.Failure Unit)} (hopen : job.isTerminal = false)
    (howned : job.Owned container) (hr : results.map (·.1) = attempted job pods container) :
    (results.map fun r => (r.1.1, r.2)).map (·.1) = pods.filter fun p => !p.declares container := by
  have hall : results.map (·.1) = (planFor job pods container).create := by
    rw [hr, attempted, hopen]
    rfl
  rw [← create_of_owned howned, ← hall, List.map_map, List.map_map]
  rfl

/-- Every pod that lacked its container was tried, and got it. -/
theorem added_of_lacking {tries : List (Pod × Except Pass.Failure Unit)}
    (htried : Tried job tool container tries log) (hsmooth : Smooth log)
    (htries : tries.map (·.1) = pods.filter fun p => !p.declares container) :
    ∀ p ∈ pods, p.declares container = false → p ∈ targets log := by
  intro p hp hlacks
  have hmem : p ∈ tries.map (·.1) := by
    rw [htries]
    exact List.mem_filter.2 ⟨hp, by rw [hlacks]; rfl⟩
  obtain ⟨⟨p, r⟩, ht, rfl⟩ := List.mem_map.1 hmem
  rw [ok_of_smooth htried hsmooth ht] at ht
  exact htried.mem_targets_of_added ht

/-- A pass that only looks things up, put together from its steps. -/
theorem ends_again {w : Cluster} {search lookup check : List Answered} {next : Next}
    (hcur : w.job? space name = some cur) (hstands : cur.metadata.isDeleting = false)
    (huid : cur.metadata.uid = some uid) (hphase : cur.phase ≠ none)
    (hsearch : (resolveTool cur space).Ends search (.done tool))
    (hlookup : (Targets.resolve space cur.spec.targets.selector).Ends lookup (.done pods))
    (hcheck : (conflict? cur space pods).Ends check (.done none))
    (hrests : manage now cur tool pods (Job.containerName name uid) (selected cur pods) = .done next)
    (hplain : Plain w ((search ++ lookup) ++ check)) :
    ∃ log, (reconcile now space name).Ends log (.done next) ∧ Plain w log := by
  have hr : Resolution now space name (⟨.getJob space name, Except.ok (some cur)⟩ :: ([] ++ (search ++ lookup))) cur
      uid cur tool pods :=
    ⟨hstands, huid, [], search, lookup, ends_initialized.2 (.inl ⟨hphase, rfl, rfl⟩), hsearch, hlookup, rfl⟩
  have hserve : (serve now space name uid cur tool pods).Goes check (.done next) := by
    rw [← hrests]
    exact Goes.bind hcheck _
  have hget : Plain w [⟨.getJob space name, Except.ok (some cur)⟩] := by
    rw [← hcur]
    exact plain_singleton (.getJob space name) rfl
  exact ⟨_, hr.goes.trans hserve, hget.append hplain⟩

/-- After a pass in which no trial failed, the management of containers has nothing to do. -/
theorem manage_again {results : List ((Pod × Nat) × Except Pass.Failure Unit)} (hopen : job.isTerminal = false)
    (howned : job.Owned container) (hresults : results.map (·.1) = attempted job pods container)
    (htried : Tried job tool container (results.map fun r => (r.1.1, r.2)) log) (hsmooth : Smooth log)
    (hstatus : cur.status = some (concluded now job pods container results))
    (hpods : List.Forall₂ (Since container (targets log)) pods pods') :
    manage later cur tool pods' container (selected cur pods') =
      .done (.after (Requeue.interval (concluded now job pods container results).phase)) := by
  have haccounts : Accounts _ _ _ _ (concluded now job pods container results) := accounts_concluded howned hresults
  have hcurowned : cur.Owned container := by
    intro k v hv
    rw [Job.reported, hstatus] at hv
    exact ((haccounts.claims k v).1 hv).1
  have hok : ∀ r ∈ results, r.2 = .ok () := fun r hmem => ok_of_smooth htried hsmooth (List.mem_map.2 ⟨r, hmem, rfl⟩)
  have hlacking := added_of_lacking htried hsmooth (tries_of_attempted hopen howned hresults)
  refine manage_rests (attempted_again hlacking hpods hcurowned) hstatus ?_
  rw [active_again haccounts (fun p => mem_targets_iff htried hsmooth) hpods hcurowned]
  rw [concluded_smoothly hok] at hstatus ⊢
  rw [activePods_managed]
  exact managed_again hopen hstatus hpods.length_eq.symm

/-- The tool and the pods of a job are looked up again. -/
theorem looks_again {before : List Answered} {w : Cluster}
    (hr : Resolution now space name before read uid job tool pods) (hs : Served c before d)
    (hspec : cur.spec = job.spec) (hw : Fixed c w) (hpods : List.Forall₂ (Since container added) c.pods w.pods) :
    ∃ search lookup pods', (resolveTool cur space).Ends search (.done tool) ∧
      (Targets.resolve space cur.spec.targets.selector).Ends lookup (.done pods') ∧ Plain w (search ++ lookup) ∧
      List.Forall₂ (Since container added) pods pods' := by
  have hunpatched := unpatched_of_goes hr.goes
  obtain ⟨opening, search, lookup, rfl, hopening, hsearch, hlookup⟩ := hr.parts
  obtain ⟨e, hopened, hlooked⟩ := hs.split
  obtain ⟨e', hsearched, hlisted⟩ := hlooked.split
  have hfixed : Fixed c e := fixed_of_served hopened fun a ha => hunpatched a (List.mem_append_left _ ha)
  have huntouched : e'.pods = c.pods := by
    rw [pods_of_served hsearched (quiet_of_looks (looks_of_resolveTool hsearch)).added,
      pods_of_served hopened hopening.targets_eq]
  rw [← huntouched] at hpods
  obtain ⟨search', hsearch', hplain⟩ := search_again hsearch hsearched hfixed hw hspec
  obtain ⟨lookup', pods', hlookup', hplain', hpods'⟩ := lookup_again hlookup hlisted hpods
  rw [hspec]
  exact ⟨search', lookup', pods', hsearch', hlookup', hplain.append hplain', hpods'⟩

/-- The second pass, after one that managed its containers. -/
theorem again_of_managed {before check tried ending : List Answered} {next : Next}
    {results : List ((Pod × Nat) × Except Pass.Failure Unit)}
    (hs : Served c (before ++ (check ++ (tried ++ ending))) d)
    (hend : (reconcile now space name).Ends (before ++ (check ++ (tried ++ ending))) (.done next))
    (hr : Resolution now space name before read uid job tool pods)
    (hcheck : (conflict? job space pods).Ends check (.done none))
    (hresults : results.map (·.1) = attempted job pods (Job.containerName name uid))
    (htried : Tried job tool (Job.containerName name uid) (results.map fun r => (r.1.1, r.2)) tried)
    (hcloses : Closes job (concluded now job pods (Job.containerName name uid) results) ending (.done next))
    (hopen : read.isTerminal = false) (howned : read.Owned (Job.containerName name uid)) (hsmooth : Smooth tried)
    (hpods : List.Forall₂ (Since (Job.containerName name uid) (targets tried)) c.pods pods') :
    ∃ log', (reconcile later space name).Ends log' (.done next) ∧ Plain { d with pods := pods' } log' := by
  obtain ⟨e, hbefore, -⟩ := hs.split
  -- the job that was worked on, and what is stored of it
  obtain ⟨hjopen, hjowned⟩ := work_of_resolution hr hs hopen howned
  obtain ⟨cur, hcur, hstatus, hfollows⟩ := hr.leaves hcheck htried hcloses hs
  have hread : read.Follows cur := (hr.started hs).1.trans hfollows
  have huid : cur.metadata.uid = some uid := hread.alike.uid.trans hr.identity
  have hphase : cur.phase ≠ none := by
    rw [Job.phase, hstatus]
    exact phase_concluded_ne_none (hr.phase_ne_none hs)
  -- the steps of the second pass
  have hfixed : Fixed c { d with pods := pods' } := by
    have h := fixed_of_served hs (unpatched_of_goes hend)
    exact ⟨h.tools, h.system, h.lists⟩
  obtain ⟨search, lookup, pods₂, hsearch, hlookup, hplain, hpods₂⟩ :=
    looks_again (w := { d with pods := pods' }) hr hbefore hfollows.spec hfixed hpods
  obtain ⟨before, after, hjobs, hplaced⟩ := placed_of_job? (hr.standing hbefore).1
  have hstanding := standing_of_served hjobs hplaced hend hs
  obtain ⟨cur', hjobs', halike', -⟩ := hstanding.jobs
  obtain rfl : cur = cur' := Option.some.inj (hcur.symm.trans (job?_at (hplaced.alike halike') hjobs'))
  obtain ⟨check', hcheck', hplain'⟩ := check_again (w := { d with pods := pods' }) hcheck
    (fun a ha => hstanding.told a (List.mem_append_right _ (List.mem_append_left _ ha))) hjopen hfollows.alike
    (isAt_iff.1 (isAt_of_job? hcur)).1 huid hjobs' (targetNames_again hpods₂)
  have hrests : manage later cur tool pods₂ (Job.containerName name uid) (selected cur pods₂) = .done next := by
    rw [hcloses.asks]
    exact manage_again hjopen hjowned hresults htried hsmooth hstatus hpods₂
  exact ends_again hcur (hread.isDeleting.trans hr.stands) huid hphase hsearch hlookup hcheck' hrests
    (hplain.append hplain')

end

/-- A pass over a job that is not done with and whose claims are on its own container, if it ends with a value and meets
neither a conflict nor a container that cannot be added, is followed by a pass that only looks things up and ends with
the same value: over the job as it is stored then, at whatever time, among pods in which the containers just added are
alive and which are otherwise as they were. -/
theorem repeated_pass_rests {now later : Stamp} {space name container : String} {c d : Cluster} {log : List Answered}
    {next : Next} {read : Job} {pods' : List Pod} (hs : Served c log d)
    (hend : (reconcile now space name).Ends log (.done next)) (hj : c.job? space name = some read)
    (hopen : read.isTerminal = false)
    (hcontainer : ∀ uid, read.metadata.uid = some uid → container = Job.containerName name uid)
    (howned : read.Owned container) (hsmooth : Smooth log)
    (hpods : List.Forall₂ (Since container (targets log)) c.pods pods') :
    ((reconcile later space name).run Session.answer (Session.start { d with pods := pods' } [])).1 = .done next ∧
      ∀ a ∈ (reconcile later space name).record Session.answer (Session.start { d with pods := pods' } []),
        a.call.isLookup = true := by
  -- it is enough to have a log of the second pass that is told of the cluster as it is
  suffices hsecond : ∃ log', (reconcile later space name).Ends log' (.done next) ∧
      Plain { d with pods := pods' } log' by
    obtain ⟨log', hend', hplain⟩ := hsecond
    obtain ⟨hrun, hrecord⟩ := run_of_ends hend' hplain.looks hplain.told []
    rw [Session.start, hrun, hrecord]
    exact ⟨rfl, hplain.looks⟩
  cases exit_of_ends hend with
  | @gone found hdeleting =>
    obtain ⟨e, hget, hrest⟩ := hs.uncons
    obtain ⟨hread, hsame⟩ := job?_of_serves_getJob hget
    obtain rfl : some read = found := hj.symm.trans hread
    have hstill : d.job? space name = some read := by
      rw [served_nil hrest rfl, hsame]
      exact hj
    refine ⟨[⟨.getJob space name, Except.ok (d.job? space name)⟩], ?_, plain_singleton (.getJob space name) rfl⟩
    rw [hstill]
    refine Goes.call (c := .getJob space name) (Except.ok (some read)) ?_
    show (opened later space name (some read)).Goes _ _
    rw [opened, hdeleting read rfl]
    exact .stay _
  | madeWay hr hcheck hway =>
    cases hway with
    | told stored =>
      rw [Smooth, events_append, events_append] at hsmooth
      exact absurd rfl (hsmooth _ (List.mem_append_right _ (List.mem_append_right _ List.mem_cons_self))).1
  | @managed before check tried ending read' job uid tool pods results _ hr hcheck hresults htried hcloses =>
    obtain ⟨e, hbefore, -⟩ := hs.split
    obtain rfl : read' = read := Option.some.inj ((hr.standing hbefore).1.symm.trans hj)
    obtain rfl := hcontainer uid hr.identity
    have hsmooth' : Smooth tried := by
      rw [Smooth, events_append, events_append, events_append] at hsmooth
      exact fun event he =>
        hsmooth event (List.mem_append_right _ (List.mem_append_right _ (List.mem_append_left _ he)))
    rw [hr.targets_tried hcheck hcloses] at hpods
    exact again_of_managed hs hend hr hcheck hresults htried hcloses hopen howned hsmooth' hpods

/-! ## Two passes over a job -/

/-- A cluster with the sample job, its pod and its tool. -/
def shop : Cluster :=
  ⟨[Sample.job], [Sample.pod], [Sample.tool], "ops", false⟩

/-- The log of a whole pass over the job, in which no call fails. -/
def firstLog : List Answered :=
  (reconcile Sample.now "shop" "trace").record Session.answer (Session.start shop [])

/-- The cluster after that pass: the pod has its container, of which nothing was reported yet. -/
def shopLater : Cluster :=
  ((reconcile Sample.now "shop" "trace").run Session.answer (Session.start shop [])).2.cluster

theorem since_firstLog :
    List.Forall₂ (Since (Job.containerName "trace" "7f9c") (targets firstLog)) shop.pods shopLater.pods := by
  have hadded : Sample.pod ∈ targets firstLog := List.mem_cons_self
  have halive : Alive (Job.containerName "trace" "7f9c") (Sample.pod.addEphemeral Sample.container) :=
    ⟨rfl, fun s hs => by cases hs⟩
  exact .cons ⟨rfl, fun _ => halive, fun hnot => absurd hadded hnot⟩ .nil

/-- The pass a minute later finds nothing to do, and looks at the container again in a while as the first one does. -/
theorem shop_rests :
    ((reconcile ⟨60, 0⟩ "shop" "trace").run Session.answer
      (Session.start { shopLater with pods := shopLater.pods } [])).1 = .done (.after Requeue.running) ∧
    ∀ a ∈ (reconcile ⟨60, 0⟩ "shop" "trace").record Session.answer
      (Session.start { shopLater with pods := shopLater.pods } []), a.call.isLookup = true := by
  have hend : (reconcile Sample.now "shop" "trace").Ends firstLog (.done (.after Requeue.running)) :=
    goes_run Session.answer _ (Session.start shop [])
  have hcontainer : ∀ uid, Sample.job.metadata.uid = some uid →
      Job.containerName "trace" "7f9c" = Job.containerName "trace" uid := by
    intro uid huid
    cases huid
    rfl
  exact repeated_pass_rests (served_run _ (Session.start shop [])) hend rfl rfl hcontainer
    (fun k v hv => by cases hv) (by decide) since_firstLog

end Repeating

end ProfilingOperator
