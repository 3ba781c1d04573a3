import Mathlib.Data.List.Nodup
import ProfilingOperator.Proofs.Ending

/-!
# Writers of one status

Any number of passes over one job run side by side with other writers of its status, interleaved call by call.  The
store takes the status of a pass only if it was sent with the version that is stored, and gives every state it stores a
version of its own.  A read may be late, and the reply to a write may be lost.

    basis_of_due : a status is sent for a job that the pass was told of
    pairwise_settles : a pass sends a second status only after the first was stored
    inv_step : a step keeps the invariant
    no_lost_update : a status replaces the very state it was computed from
-/

namespace ProfilingOperator

namespace Versions

open Pass

/-! ## Statuses of a pass -/

/-- What tells the stored states of the job apart. -/
def version (j : Job) : Option String :=
  j.metadata.resourceVersion

/-- A pass sends a job whose status it has computed from that of a job. -/
inductive Computed (now : Stamp) (job : Job) : Job → Prop
  | setUp : job.phase = none → Computed now job (setUp now job)
  | failing {f : Pass.Failure} : f.isConfiguration = true → Computed now job (failing now job f)
  | conflicted (pods : List Pod) (c : Conflict) :
      Computed now job (job.withStatus ((selected job pods).markConflicted c now))
  | concluded (pods : List Pod) (container : String) (results : List ((Pod × Nat) × Except Pass.Failure Unit)) :
      Computed now job (job.withStatus (concluded now job pods container results))

/-- A job that a pass was told of: the one it has read, or what was stored when it set that up. -/
def Knows (now : Stamp) (space name : String) (log : List Answered) (job : Job) : Prop :=
  ∃ rest read, log = ⟨.getJob space name, Except.ok (some read)⟩ :: rest ∧
    (job = read ∨ Saw log (.replaceStatus (setUp now read)) (Except.ok job))

/-- Of two statuses that are sent, the earlier one was stored. -/
def Settles (a b : Answered) : Prop :=
  a.call.isStore = true → b.call.isStore = true → a.stored?.isSome = true

/-! ## Worlds -/

/-- A pass under way: the calls it has made, and what is left of it. -/
structure Run where
  now : Stamp
  log : List Answered
  rest : Pass Next

/-- A state of the job in the place of another. -/
structure Write where
  /-- The pass that has sent the status, with its log before that; nothing for any other writer. -/
  author : Option (Nat × List Answered)
  replaced : Job
  stored : Job

/-- A job with its history, and the passes over it. -/
structure World where
  job : Option Job
  /-- Every state the job was ever stored in. -/
  seen : List Job
  passes : List Run
  writes : List Write

/-- No state was ever stored with the version of this one. -/
def World.Fresh (w : World) (j : Job) : Prop :=
  ∀ s ∈ w.seen, version s ≠ version j

/-- A state is stored. -/
def World.put (w : World) (j : Job) : World :=
  { w with job := some j, seen := j :: w.seen }

/-- What a call of a pass is answered with, and the world after it. -/
inductive Answers (w : World) (i : Nat) (log : List Answered) : (c : Call) → c.Reply → World → Prop
  /-- The call fails and has no effect. -/
  | failed (c : Call) (f : Pass.Failure) : Answers w i log c (c.failed f) w
  /-- The job is read, or what it was at some time before. -/
  | read (space name : String) {j : Job} : j ∈ w.seen →
      Answers w i log (.getJob space name) (Except.ok (some j)) w
  | absent (space name : String) : Answers w i log (.getJob space name) (Except.ok none) w
  /-- A status of the stored version is stored, though the reply may be lost. -/
  | stored {old new sent : Job} {r : Except Pass.Failure Job} :
      w.job = some old → version old = version sent → w.Fresh new → new.status = sent.status →
      (r = .ok new ∨ ∃ f, r = .error f) →
      Answers w i log (.replaceStatus sent) r { w.put new with writes := ⟨some (i, log), old, new⟩ :: w.writes }
  | other {c : Call} (r : c.Reply) : c.isStore = false → (∀ space name, c ≠ .getJob space name) →
      Answers w i log c r w

/-- What can happen next. -/
inductive Step (space name : String) (w : World) : World → Prop
  | start (now : Stamp) :
      Step space name w { w with passes := w.passes ++ [⟨now, [], reconcile now space name⟩] }
  | call {i : Nat} {run : Run} {c : Call} {next : c.Reply → Pass Next} {r : c.Reply} {w' : World} :
      w.passes[i]? = some run → run.rest = .call c next → Answers w i run.log c r w' →
      Step space name w { w' with passes := w.passes.set i ⟨run.now, run.log ++ [⟨c, r⟩], next r⟩ }
  /-- The job is edited, or its status is written by somebody else. -/
  | write {old new : Job} : w.job = some old → w.Fresh new →
      Step space name w { w.put new with writes := ⟨none, old, new⟩ :: w.writes }
  | delete : Step space name w { w with job := none }
  | create {new : Job} : w.job = none → w.Fresh new → Step space name w (w.put new)

/-- No pass has started, and nothing was written yet. -/
structure Initial (w : World) : Prop where
  seen : w.seen = w.job.toList
  passes : w.passes = []
  writes : w.writes = []

/-- The worlds that come about. -/
inductive Reachable (space name : String) : World → Prop
  | init {w : World} : Initial w → Reachable space name w
  | step {w w' : World} : Reachable space name w → Step space name w w' → Reachable space name w'

/-! ## The invariant -/

/-- The states of the job have versions of their own, and none of them is replaced twice. -/
structure Store (w : World) : Prop where
  current : ∀ j, w.job = some j → j ∈ w.seen
  apart : ∀ a ∈ w.seen, ∀ b ∈ w.seen, version a = version b → a = b
  replaced : ∀ e ∈ w.writes, e.replaced ∈ w.seen ∧ w.job ≠ some e.replaced
  stored : ∀ e ∈ w.writes, e.stored ∈ w.seen
  once : (w.writes.map (·.replaced)).Nodup

/-- A read was answered with a state of the job. -/
def Honest (seen : List Job) : Answered → Prop
  | ⟨.getJob _ _, .ok (some j)⟩ => j ∈ seen
  | _ => True

/-- The passes have got where they are by their logs, and the writes are those their logs tell of. -/
structure Passes (space name : String) (w : World) : Prop where
  goes : ∀ run ∈ w.passes, (reconcile run.now space name).Goes run.log run.rest
  honest : ∀ run ∈ w.passes, ∀ a ∈ run.log, Honest w.seen a
  /-- What a pass has written, it has sent. -/
  sent : ∀ e ∈ w.writes, ∀ i earlier, e.author = some (i, earlier) → ∃ run sent r later,
    w.passes[i]? = some run ∧ run.log = earlier ++ ⟨.replaceStatus sent, r⟩ :: later ∧
      version e.replaced = version sent ∧ e.stored.status = sent.status
  /-- What a pass was told to be stored was written. -/
  told : ∀ i run, w.passes[i]? = some run → ∀ earlier sent new later,
    run.log = earlier ++ ⟨.replaceStatus sent, Except.ok new⟩ :: later →
      ∃ e ∈ w.writes, e.author = some (i, earlier) ∧ e.stored = new

/-- What holds in every world that comes about. -/
structure Inv (space name : String) (w : World) : Prop where
  store : Store w
  passes : Passes space name w

/-! ## What holds of the writes -/

/-- No status was sent yet. -/
def Unsent (log : List Answered) : Prop :=
  ∀ a ∈ log, a.call.isStore = false

/-- No status is lost. -/
structure Lossless (space name : String) (w : World) : Prop where
  /-- A status that a pass was told to be stored was written. -/
  told : ∀ i run, w.passes[i]? = some run → ∀ earlier sent new later,
    run.log = earlier ++ ⟨.replaceStatus sent, Except.ok new⟩ :: later →
      ∃ e ∈ w.writes, e.author = some (i, earlier) ∧ e.stored = new
  /-- What a pass has written replaces the state it was computed from, which the pass was told of before. -/
  computed : ∀ e ∈ w.writes, ∀ i earlier, e.author = some (i, earlier) → ∃ run sent r later,
    w.passes[i]? = some run ∧ run.log = earlier ++ ⟨.replaceStatus sent, r⟩ :: later ∧
      Knows run.now space name earlier e.replaced ∧ Computed run.now e.replaced sent ∧
      e.stored.status = sent.status
  /-- Of the passes that have read one version, one at most has written its first status. -/
  first : ∀ e ∈ w.writes, ∀ e' ∈ w.writes, ∀ i earlier j earlier' read rest read' rest',
    e.author = some (i, earlier) → Unsent earlier →
      earlier = ⟨.getJob space name, Except.ok (some read)⟩ :: rest →
    e'.author = some (j, earlier') → Unsent earlier' →
      earlier' = ⟨.getJob space name, Except.ok (some read')⟩ :: rest' →
    version read = version read' → i = j
  /-- Nobody replaces a version that was replaced already, be it a pass or another writer. -/
  once : ∀ e ∈ w.writes, ∀ e' ∈ w.writes, version e.replaced = version e'.replaced → e = e'
  /-- What another writer has stored is replaced by a pass only with what was computed from it. -/
  foreign : ∀ e ∈ w.writes, e.author = none → ∀ e' ∈ w.writes, ∀ i earlier, e'.author = some (i, earlier) →
    version e'.replaced = version e.stored → ∃ run sent, w.passes[i]? = some run ∧
      Knows run.now space name earlier e.stored ∧ Computed run.now e.stored sent ∧ e'.stored.status = sent.status
  /-- A pass whose first status was not written has written nothing. -/
  refused : ∀ i run, w.passes[i]? = some run → ∀ earlier sent r later,
    run.log = earlier ++ ⟨.replaceStatus sent, r⟩ :: later → Unsent earlier →
    (∀ e ∈ w.writes, e.author ≠ some (i, earlier)) → ∀ e ∈ w.writes, ∀ earlier', e.author ≠ some (i, earlier')

/-! ## Lemmas -/

section
variable {now : Stamp} {space name : String} {log : List Answered} {read job sent : Job} {w : World}

theorem Computed.version_eq (h : Computed now job sent) : version sent = version job := by
  cases h <;> rfl

/-- A status is sent for a job that the pass was told of, and it is that of the job it was computed from. -/
theorem basis_of_due (h : Due now space name log (.replaceStatus sent)) :
    ∃ job, Knows now space name log job ∧ Computed now job sent := by
  have hworks : ∀ {read job uid}, Works now space name log read uid job → Knows now space name log job := by
    intro read job uid hw
    obtain ⟨rest, hrest⟩ := hw.first
    refine ⟨rest, read, hrest, ?_⟩
    rcases hw.origin with ⟨-, hjob, -⟩ | ⟨-, hsaw, -⟩
    · exact .inl hjob
    · exact .inr hsaw
  cases h with
  | setUp hr hphase =>
    obtain ⟨rest, hrest⟩ := hr.first
    exact ⟨_, ⟨rest, _, hrest, .inl rfl⟩, .setUp hphase⟩
  | abandon hw hf => exact ⟨_, hworks hw, .failing hf⟩
  | makeWay hr => exact ⟨_, hworks hr.toWorks, .conflicted _ _⟩
  | @store _ read job uid tool pods results active trouble hc hr hs =>
    refine ⟨job, hworks hc.toWorks, ?_⟩
    have hconcluded : concluded now job pods (Job.containerName name uid) results =
        managed now job pods active trouble := by
      unfold concluded
      rw [hs]
    rw [← hconcluded]
    exact .concluded _ _ _

/-! ### One status after another -/

theorem exists_ends {α : Type} (p : Pass α) : ∃ log o, p.Ends log o := by
  induction p with
  | done a => exact ⟨[], .done a, .stay _⟩
  | fail f => exact ⟨[], .failed f, .stay _⟩
  | crash m => exact ⟨[], .crashed m, .stay _⟩
  | call c next ih =>
    obtain ⟨log, o, h⟩ := ih (c.failed .missingNamespace)
    exact ⟨_, o, .call _ h⟩

theorem pairwise_of_quiet (h : ∀ a ∈ log, a.call.isStore = false) : log.Pairwise Settles :=
  List.pairwise_of_forall_mem_list fun a ha b _ hstore => by
    rw [h a ha] at hstore
    cases hstore

theorem pairwise_cons_of_quiet {a : Answered} (h : ∀ b ∈ log, b.call.isStore = false) :
    (a :: log).Pairwise Settles := by
  refine List.pairwise_cons.2 ⟨fun b hb _ hstore => ?_, pairwise_of_quiet h⟩
  rw [h b hb] at hstore
  cases hstore

theorem pairwise_append_of_quiet {more : List Answered} (h : ∀ a ∈ log, a.call.isStore = false)
    (hmore : more.Pairwise Settles) : (log ++ more).Pairwise Settles := by
  refine List.pairwise_append.2 ⟨pairwise_of_quiet h, hmore, fun a ha b _ hstore => ?_⟩
  rw [h a ha] at hstore
  cases hstore

/-- If a job was set up, it was stored. -/
theorem pairwise_append_of_opening {opening more : List Answered} {uid : String}
    (h : Opening now space name opening read uid job) (hmore : more.Pairwise Settles) :
    (opening ++ more).Pairwise Settles := by
  obtain ⟨setup, hsetup, rfl⟩ := h.steps
  refine List.pairwise_cons.2 ⟨fun b hb hstore => (by cases hstore), ?_⟩
  rcases ends_initialized.1 hsetup with ⟨-, rfl, -⟩ | ⟨-, r, rfl, hr⟩
  · exact hmore
  · obtain rfl : Except.ok job = r := ofReply_eq_done.1 hr.symm
    exact List.pairwise_cons.2 ⟨fun _ _ _ _ => rfl, hmore⟩

theorem pairwise_of_abandons {f : Pass.Failure} (h : Abandons now job f log) : log.Pairwise Settles := by
  cases h with
  | silent => exact .nil
  | recorded r => exact pairwise_cons_of_quiet (List.forall_mem_singleton.2 rfl)

theorem pairwise_of_makesWay {status : Job.Status} {c : Conflict} {o : Outcome Next}
    (h : MakesWay now job status c log o) : log.Pairwise Settles := by
  cases h with
  | told => exact pairwise_cons_of_quiet (List.forall_mem_singleton.2 rfl)
  | refused => exact List.pairwise_singleton _ _

theorem pairwise_of_closes {status : Job.Status} {o : Outcome Next} (h : Closes job status log o) :
    log.Pairwise Settles := by
  cases h with
  | kept _ htell => exact pairwise_of_quiet (quiet_of_tellCompleted htell)
  | written _ htell => exact pairwise_cons_of_quiet (quiet_of_tellCompleted htell)
  | refused => exact List.pairwise_singleton _ _

theorem pairwise_append_of_looks {more : List Answered} (h : ∀ a ∈ log, a.call.isLookup = true)
    (hmore : more.Pairwise Settles) : (log ++ more).Pairwise Settles :=
  pairwise_append_of_quiet (fun a ha => Call.isStore_of_isLookup (h a ha)) hmore

theorem pairwise_append_of_resolution {before more : List Answered} {uid : String} {tool : Tool.Spec}
    {pods : List Pod} (h : Resolution now space name before read uid job tool pods) (hmore : more.Pairwise Settles) :
    (before ++ more).Pairwise Settles := by
  obtain ⟨opening, search, lookup, rfl, hopening, hsearch, hlookup⟩ := h.parts
  rw [List.append_assoc, List.append_assoc]
  exact pairwise_append_of_opening hopening (pairwise_append_of_looks (looks_of_resolveTool hsearch)
    (pairwise_append_of_looks (looks_of_resolve hlookup) hmore))

/-- A pass sends a second status only after the first was stored. -/
theorem pairwise_settles {q : Pass Next} (h : (reconcile now space name).Goes log q) : log.Pairwise Settles := by
  -- the pass is let come to some end
  obtain ⟨more, o, hmore⟩ := exists_ends q
  refine List.Pairwise.sublist (List.sublist_append_left log more) ?_
  have hexit := exit_of_ends (h.trans hmore)
  generalize log ++ more = full at hexit
  cases hexit with
  | unread => exact List.pairwise_singleton _ _
  | gone => exact List.pairwise_singleton _ _
  | nameless => exact List.pairwise_singleton _ _
  | unset => exact pairwise_append_of_quiet (List.forall_mem_singleton.2 rfl) (List.pairwise_singleton _ _)
  | toolless hopening hsearch hrecord =>
    exact pairwise_append_of_opening hopening
      (pairwise_append_of_looks (looks_of_resolveTool hsearch) (pairwise_of_abandons hrecord))
  | podless hopening hsearch hlookup hrecord =>
    exact pairwise_append_of_opening hopening (pairwise_append_of_looks (looks_of_resolveTool hsearch)
      (pairwise_append_of_looks (looks_of_resolve hlookup) (pairwise_of_abandons hrecord)))
  | unlisted hr hcheck =>
    exact pairwise_append_of_resolution hr (pairwise_of_quiet (quiet_conflict? hcheck))
  | madeWay hr hcheck hway =>
    exact pairwise_append_of_resolution hr
      (pairwise_append_of_quiet (quiet_conflict? hcheck) (pairwise_of_makesWay hway))
  | managed hr hcheck hresults htried hcloses =>
    exact pairwise_append_of_resolution hr (pairwise_append_of_quiet (quiet_conflict? hcheck)
      (pairwise_append_of_quiet htried.quiet (pairwise_of_closes hcloses)))
  | cutShort hr hcheck hmanage =>
    exact pairwise_append_of_resolution hr (pairwise_append_of_quiet (quiet_conflict? hcheck)
      (pairwise_of_quiet (ends_manage_crashed hmanage).1))

/-! ### The store -/

theorem Store.put {new : Job} (h : Store w) (hfresh : w.Fresh new) : Store (w.put new) := by
  constructor
  · intro j hj
    cases hj
    exact List.mem_cons_self
  · intro a ha b hb heq
    rcases List.mem_cons.1 ha with hanew | haold
    · rcases List.mem_cons.1 hb with hbnew | hbold
      · rw [hanew, hbnew]
      · rw [hanew] at heq
        exact absurd heq.symm (hfresh b hbold)
    · rcases List.mem_cons.1 hb with hbnew | hbold
      · rw [hbnew] at heq
        exact absurd heq (hfresh a haold)
      · exact h.apart a haold b hbold heq
  · intro e he
    obtain ⟨hseen, -⟩ := h.replaced e he
    refine ⟨List.mem_cons_of_mem _ hseen, fun hj => ?_⟩
    exact hfresh _ hseen (congrArg version (Option.some.inj hj).symm)
  · exact fun e he => List.mem_cons_of_mem _ (h.stored e he)
  · exact h.once

/-- The state that is replaced is gone: it is not replaced again. -/
theorem Store.write {author : Option (Nat × List Answered)} {old new : Job} (h : Store w) (hj : w.job = some old)
    (hfresh : w.Fresh new) : Store { w.put new with writes := ⟨author, old, new⟩ :: w.writes } := by
  have hput := h.put hfresh
  have hold : old ∈ w.seen := h.current old hj
  refine ⟨hput.current, hput.apart,
    List.forall_mem_cons.2 ⟨⟨List.mem_cons_of_mem _ hold, fun hnew => ?_⟩, hput.replaced⟩,
    List.forall_mem_cons.2 ⟨List.mem_cons_self, hput.stored⟩, List.nodup_cons.2 ⟨fun hmem => ?_, h.once⟩⟩
  · exact hfresh old hold (congrArg version (Option.some.inj hnew).symm)
  · obtain ⟨e, he, heq⟩ := List.mem_map.1 hmem
    exact (h.replaced e he).2 (hj.trans (congrArg some heq.symm))

/-! ### The passes -/

theorem Honest.mono {seen seen' : List Job} {a : Answered} (h : Honest seen a) (hseen : ∀ j ∈ seen, j ∈ seen') :
    Honest seen' a := by
  unfold Honest at *
  split at h
  · exact hseen _ h
  · trivial

/-- Nothing is asked of the passes by writes of others. -/
theorem Passes.grow {job : Option Job} {seen : List Job} {writes : List Write} (h : Passes space name w)
    (hseen : ∀ j ∈ w.seen, j ∈ seen) (hold : ∀ e ∈ w.writes, e ∈ writes)
    (hnew : ∀ e ∈ writes, e ∈ w.writes ∨ e.author = none) : Passes space name ⟨job, seen, w.passes, writes⟩ := by
  refine ⟨h.goes, fun run hrun a ha => (h.honest run hrun a ha).mono hseen, ?_, ?_⟩
  · intro e he i earlier hauthor
    rcases hnew e he with he | hnone
    · exact h.sent e he i earlier hauthor
    · rw [hnone] at hauthor
      cases hauthor
  · intro i run hi earlier sent new later hlog
    obtain ⟨e, he, hrest⟩ := h.told i run hi earlier sent new later hlog
    exact ⟨e, hold e he, hrest⟩

theorem Passes.start (h : Passes space name w) (now : Stamp) :
    Passes space name { w with passes := w.passes ++ [⟨now, [], reconcile now space name⟩] } := by
  constructor
  · exact List.forall_mem_append.2 ⟨h.goes, List.forall_mem_singleton.2 (.stay _)⟩
  · exact List.forall_mem_append.2 ⟨h.honest, List.forall_mem_singleton.2 fun a ha => absurd ha List.not_mem_nil⟩
  · intro e he i earlier hauthor
    obtain ⟨run, sent, r, later, hi, hrest⟩ := h.sent e he i earlier hauthor
    refine ⟨run, sent, r, later, ?_, hrest⟩
    rw [List.getElem?_append_left (List.getElem?_eq_some_iff.1 hi).1]
    exact hi
  · intro i run hi earlier sent new later hlog
    rw [List.getElem?_append] at hi
    split at hi
    · exact h.told i run hi earlier sent new later hlog
    · obtain rfl := List.mem_singleton.1 (List.mem_of_getElem? hi)
      cases earlier <;> cases hlog

/-- A pass that is answered is where its log has it, whatever else its call has changed. -/
theorem Passes.answer {i : Nat} {run : Run} {c : Call} {next : c.Reply → Pass Next} {r : c.Reply} {job : Option Job}
    {seen : List Job} {writes : List Write} (h : Passes space name w) (hi : w.passes[i]? = some run)
    (hrest : run.rest = .call c next) (hhonest : Honest seen ⟨c, r⟩) (hseen : ∀ j ∈ w.seen, j ∈ seen)
    (hold : ∀ e ∈ w.writes, e ∈ writes)
    (hnew : ∀ e ∈ writes, e ∈ w.writes ∨ ∃ sent, c = .replaceStatus sent ∧ e.author = some (i, run.log) ∧
      version e.replaced = version sent ∧ e.stored.status = sent.status)
    (htold : ∀ sent new, (⟨c, r⟩ : Answered) = ⟨.replaceStatus sent, Except.ok new⟩ →
      ∃ e ∈ writes, e.author = some (i, run.log) ∧ e.stored = new) :
    Passes space name ⟨job, seen, w.passes.set i ⟨run.now, run.log ++ [⟨c, r⟩], next r⟩, writes⟩ := by
  have hmem : run ∈ w.passes := List.mem_of_getElem? hi
  have hlt : i < w.passes.length := (List.getElem?_eq_some_iff.1 hi).1
  constructor
  · intro q hq
    rcases List.mem_or_eq_of_mem_set hq with hq | rfl
    · exact h.goes q hq
    · have hgoes := h.goes run hmem
      rw [hrest] at hgoes
      exact hgoes.append_call r
  · intro q hq
    have hrun : ∀ a ∈ run.log, Honest seen a := fun a ha => (h.honest run hmem a ha).mono hseen
    rcases List.mem_or_eq_of_mem_set hq with hq | rfl
    · exact fun a ha => (h.honest q hq a ha).mono hseen
    · exact List.forall_mem_append.2 ⟨hrun, List.forall_mem_singleton.2 hhonest⟩
  · intro e he j earlier hauthor
    rcases hnew e he with he | ⟨sent, rfl, hthis, hversion, hstatus⟩
    · obtain ⟨run', sent, r', later, hj, hlog, hsent⟩ := h.sent e he j earlier hauthor
      by_cases hji : i = j
      · subst hji
        obtain rfl : run = run' := Option.some.inj (hi.symm.trans hj)
        refine ⟨_, sent, r', later ++ [⟨c, r⟩], List.getElem?_set_self hlt, ?_, hsent⟩
        rw [hlog, List.append_assoc]
        rfl
      · exact ⟨run', sent, r', later, (List.getElem?_set_ne hji).trans hj, hlog, hsent⟩
    · rw [hthis] at hauthor
      cases hauthor
      exact ⟨_, sent, r, [], List.getElem?_set_self hlt, rfl, hversion, hstatus⟩
  · intro j run' hj earlier sent new later hlog
    by_cases hji : i = j
    · subst hji
      obtain rfl := Option.some.inj ((List.getElem?_set_self hlt).symm.trans hj)
      -- the call is the last of the log, or it was made before
      rcases List.eq_nil_or_concat later with rfl | ⟨later, a, rfl⟩
      · obtain ⟨rfl, hlast⟩ := List.append_inj' hlog rfl
        exact htold sent new (List.cons.inj hlast).1
      · rw [List.concat_eq_append, ← List.cons_append, ← List.append_assoc] at hlog
        obtain ⟨hlog, -⟩ := List.append_inj' hlog rfl
        obtain ⟨e, he, hstored⟩ := h.told i run hi earlier sent new later hlog
        exact ⟨e, hold e he, hstored⟩
    · rw [List.getElem?_set_ne hji] at hj
      obtain ⟨e, he, hstored⟩ := h.told j run' hj earlier sent new later hlog
      exact ⟨e, hold e he, hstored⟩

/-! ### Steps -/

theorem inv_init (h : Initial w) : Inv space name w := by
  obtain ⟨hseen, hpasses, hwrites⟩ := h
  constructor
  · constructor
    · intro j hj
      rw [hseen, hj]
      exact List.mem_cons_self
    · intro a ha b hb _
      rw [hseen, Option.mem_toList] at ha hb
      exact Option.some.inj (ha.symm.trans hb)
    · rw [hwrites]
      exact fun e he => absurd he List.not_mem_nil
    · rw [hwrites]
      exact fun e he => absurd he List.not_mem_nil
    · rw [hwrites]
      exact List.nodup_nil
  · constructor
    · rw [hpasses]
      exact fun run hrun => absurd hrun List.not_mem_nil
    · rw [hpasses]
      exact fun run hrun => absurd hrun List.not_mem_nil
    · rw [hwrites]
      exact fun e he => absurd he List.not_mem_nil
    · intro i run hi
      rw [hpasses] at hi
      cases hi

theorem honest_failed (seen : List Job) (c : Call) (f : Pass.Failure) : Honest seen ⟨c, c.failed f⟩ := by
  cases c <;> trivial

/-- A call that is answered without a status being stored. -/
theorem Inv.idle {i : Nat} {run : Run} {c : Call} {next : c.Reply → Pass Next} {r : c.Reply} (h : Inv space name w)
    (hi : w.passes[i]? = some run) (hrest : run.rest = .call c next) (hhonest : Honest w.seen ⟨c, r⟩)
    (hstored : Answered.stored? ⟨c, r⟩ = none) :
    Inv space name { w with passes := w.passes.set i ⟨run.now, run.log ++ [⟨c, r⟩], next r⟩ } := by
  refine ⟨⟨h.store.current, h.store.apart, h.store.replaced, h.store.stored, h.store.once⟩,
    h.passes.answer hi hrest hhonest (fun _ hj => hj) (fun _ he => he) (fun _ he => .inl he) ?_⟩
  intro sent new heq
  rw [heq] at hstored
  cases hstored

/-- A pass that goes on with an answer keeps the invariant: the answer tells of a state that was stored. -/
theorem inv_answers {i : Nat} {run : Run} {c : Call} {next : c.Reply → Pass Next} {r : c.Reply} {w' : World}
    (h : Inv space name w) (hi : w.passes[i]? = some run) (hrest : run.rest = .call c next)
    (ha : Answers w i run.log c r w') :
    Inv space name { w' with passes := w.passes.set i ⟨run.now, run.log ++ [⟨c, r⟩], next r⟩ } := by
  cases ha with
  | failed f => exact h.idle hi hrest (honest_failed _ _ _) (by cases c <;> rfl)
  | read _ _ hj => exact h.idle hi hrest hj rfl
  | absent => exact h.idle hi hrest trivial rfl
  | other _ hstore hread =>
    refine h.idle hi hrest ?_ ?_
    · cases c with
      | getJob space name => exact absurd rfl (hread space name)
      | _ => trivial
    · cases c with
      | replaceStatus => cases hstore
      | _ => rfl
  | @stored old new sent _ hj hversion hfresh hstatus hr =>
    refine ⟨?_, h.passes.answer hi hrest ?_ (fun _ hj => List.mem_cons_of_mem _ hj)
      (fun _ he => List.mem_cons_of_mem _ he) ?_ ?_⟩
    · have hwrite : Store { w.put new with writes := ⟨some (i, run.log), old, new⟩ :: w.writes } :=
        h.store.write hj hfresh
      exact ⟨hwrite.current, hwrite.apart, hwrite.replaced, hwrite.stored, hwrite.once⟩
    · rcases hr with rfl | ⟨f, rfl⟩ <;> trivial
    · intro e he
      rcases List.mem_cons.1 he with rfl | he
      · exact .inr ⟨sent, rfl, rfl, hversion, hstatus⟩
      · exact .inl he
    · intro sent' new' heq
      rcases hr with rfl | ⟨f, rfl⟩
      · cases heq
        exact ⟨_, List.mem_cons_self, rfl, rfl⟩
      · cases heq

/-- **One step.**  A pass, another writer or a new pass keeps the invariant. -/
theorem inv_step {w' : World} (h : Inv space name w) (hs : Step space name w w') : Inv space name w' := by
  cases hs with
  | start now =>
    exact ⟨⟨h.store.current, h.store.apart, h.store.replaced, h.store.stored, h.store.once⟩, h.passes.start now⟩
  | call hi hrest ha => exact inv_answers h hi hrest ha
  | write hj hfresh =>
    refine ⟨h.store.write hj hfresh, h.passes.grow (fun _ hj => List.mem_cons_of_mem _ hj)
      (fun _ he => List.mem_cons_of_mem _ he) fun e he => ?_⟩
    rcases List.mem_cons.1 he with rfl | he
    · exact .inr rfl
    · exact .inl he
  | delete =>
    refine ⟨⟨fun j hj => (by cases hj), h.store.apart, fun e he => ⟨(h.store.replaced e he).1, fun hj => (by cases hj)⟩,
      h.store.stored, h.store.once⟩, h.passes.grow (fun _ hj => hj) (fun _ he => he) fun _ he => .inl he⟩
  | create _ hfresh =>
    exact ⟨h.store.put hfresh,
      h.passes.grow (fun _ hj => List.mem_cons_of_mem _ hj) (fun _ he => he) fun _ he => .inl he⟩

theorem inv_reachable (h : Reachable space name w) : Inv space name w := by
  induction h with
  | init hi => exact inv_init hi
  | step _ hs ih => exact inv_step ih hs

/-! ### The writes -/

/-- What a pass knows of the job was stored at some time. -/
theorem Inv.seen_of_knows {i : Nat} {run : Run} {earlier later : List Answered} (h : Inv space name w)
    (hi : w.passes[i]? = some run) (hlog : run.log = earlier ++ later)
    (hknows : Knows run.now space name earlier job) : job ∈ w.seen := by
  obtain ⟨rest, read, hread, rfl | hsaw⟩ := hknows
  · have hmem : (⟨.getJob space name, Except.ok (some job)⟩ : Answered) ∈ run.log := by
      rw [hlog, hread]
      exact List.mem_cons_self
    exact h.passes.honest run (List.mem_of_getElem? hi) _ hmem
  · obtain ⟨before, after, hparts⟩ := List.append_of_mem hsaw
    rw [hparts, List.append_assoc, List.cons_append] at hlog
    obtain ⟨e, he, -, rfl⟩ := h.passes.told i run hi _ _ _ _ hlog
    exact h.store.stored e he

/-- What a pass has written was computed from the state that the write replaced. -/
theorem Inv.computed {e : Write} {i : Nat} {earlier : List Answered} (h : Inv space name w) (he : e ∈ w.writes)
    (hauthor : e.author = some (i, earlier)) : ∃ run sent r later,
    w.passes[i]? = some run ∧ run.log = earlier ++ ⟨.replaceStatus sent, r⟩ :: later ∧
      Knows run.now space name earlier e.replaced ∧ Computed run.now e.replaced sent ∧
      e.stored.status = sent.status := by
  obtain ⟨run, sent, r, later, hi, hlog, hversion, hstatus⟩ := h.passes.sent e he i earlier hauthor
  have hgoes := h.passes.goes run (List.mem_of_getElem? hi)
  rw [hlog] at hgoes
  obtain ⟨job, hknows, hcomputed⟩ := basis_of_due (due_of_goes hgoes)
  -- the version that was sent is that of the job it was computed from, and no other state has it
  have hsame : e.replaced = job := h.store.apart _ (h.store.replaced e he).1 _ (h.seen_of_knows hi hlog hknows)
    (hversion.trans hcomputed.version_eq)
  rw [hsame]
  exact ⟨run, sent, r, later, hi, hlog, hknows, hcomputed, hstatus⟩

/-- A version is replaced once. -/
theorem Inv.once {e e' : Write} (h : Inv space name w) (he : e ∈ w.writes) (he' : e' ∈ w.writes)
    (hversion : version e.replaced = version e'.replaced) : e = e' :=
  List.inj_on_of_nodup_map h.store.once he he'
    (h.store.apart _ (h.store.replaced e he).1 _ (h.store.replaced e' he').1 hversion)

theorem Knows.eq_of_unsent {rest : List Answered} (h : Knows now space name log job) (hunsent : Unsent log)
    (hread : log = ⟨.getJob space name, Except.ok (some read)⟩ :: rest) : job = read := by
  obtain ⟨rest', read', hread', hjob | hsaw⟩ := h
  · have hhead := (List.cons.inj (hread'.symm.trans hread)).1
    cases hhead
    exact hjob
  · cases hunsent _ hsaw

/-- Where a second status was sent, the first was stored. -/
theorem ok_of_settles {earlier later : List Answered} {r : (Call.replaceStatus sent).Reply} {b : Answered}
    (h : (earlier ++ ⟨.replaceStatus sent, r⟩ :: later).Pairwise Settles) (hb : b ∈ later)
    (hstore : b.call.isStore = true) : ∃ new, r = Except.ok new := by
  have hsettles := (List.pairwise_cons.1 (List.pairwise_append.1 h).2.1).1 b hb rfl hstore
  cases r with
  | error f => cases hsettles
  | ok new => exact ⟨new, rfl⟩

/-- A pass that has written something has written the first status it has sent. -/
theorem Inv.first_written {i : Nat} {run : Run} {earlier later : List Answered} {r : (Call.replaceStatus sent).Reply}
    {e : Write} {earlier' : List Answered} (h : Inv space name w) (hi : w.passes[i]? = some run)
    (hlog : run.log = earlier ++ ⟨.replaceStatus sent, r⟩ :: later) (hunsent : Unsent earlier) (he : e ∈ w.writes)
    (hauthor : e.author = some (i, earlier')) : ∃ e' ∈ w.writes, e'.author = some (i, earlier) := by
  obtain ⟨run', sent', r', later', hi', hlog', -⟩ := h.computed he hauthor
  obtain rfl : run = run' := Option.some.inj (hi.symm.trans hi')
  -- the status that was written is the first, or it was sent before or after it
  rcases List.append_eq_append_iff.1 (hlog.symm.trans hlog') with ⟨m, hm, hrest⟩ | ⟨m, hm, hrest⟩
  · cases m with
    | nil =>
      rw [List.append_nil] at hm
      exact ⟨e, he, hm ▸ hauthor⟩
    | cons b m =>
      obtain ⟨rfl, hlater⟩ := List.cons.inj hrest
      have hsettles := pairwise_settles (h.passes.goes run (List.mem_of_getElem? hi))
      rw [hlog] at hsettles
      have hmem : (⟨.replaceStatus sent', r'⟩ : Answered) ∈ later := by
        rw [hlater]
        exact List.mem_append_right _ List.mem_cons_self
      obtain ⟨new, rfl⟩ := ok_of_settles hsettles hmem rfl
      obtain ⟨e', he', hauthor', -⟩ := h.passes.told i run hi _ _ _ _ hlog
      exact ⟨e', he', hauthor'⟩
  · cases m with
    | nil =>
      rw [List.append_nil] at hm
      exact ⟨e, he, hm ▸ hauthor⟩
    | cons b m =>
      obtain ⟨rfl, -⟩ := List.cons.inj hrest
      have hstore := hunsent ⟨.replaceStatus sent', r'⟩ (by rw [hm]; exact List.mem_append_right _ List.mem_cons_self)
      cases hstore

end

/-- Whatever passes over a job and whatever other writers there are, and however their calls fall together: every status
that a pass has stored has replaced the very state it was computed from.  So of the passes that have read one version
one at most has its first status stored, what others have written is not overwritten by a pass that does not know of it,
and a pass whose first status is refused has changed nothing. -/
theorem no_lost_update {space name : String} {w : World} (h : Reachable space name w) : Lossless space name w := by
  have hi := inv_reachable h
  constructor
  · exact hi.passes.told
  · exact fun e he i earlier hauthor => hi.computed he hauthor
  · intro e he e' he' i earlier j earlier' read rest read' rest' hauthor hunsent hread hauthor' hunsent' hread' hversion
    obtain ⟨run, sent, r, later, hrun, hlog, hknows, -⟩ := hi.computed he hauthor
    obtain ⟨run', sent', r', later', hrun', hlog', hknows', -⟩ := hi.computed he' hauthor'
    have hsame := hi.once he he' (by
      rw [hknows.eq_of_unsent hunsent hread, hknows'.eq_of_unsent hunsent' hread', hversion])
    rw [← hsame, hauthor] at hauthor'
    exact congrArg Prod.fst (Option.some.inj hauthor')
  · exact fun e he e' he' hversion => hi.once he he' hversion
  · intro e he _ e' he' i earlier hauthor hversion
    obtain ⟨run, sent, r, later, hrun, -, hknows, hcomputed, hstatus⟩ := hi.computed he' hauthor
    have hsame := hi.store.apart _ (hi.store.replaced e' he').1 _ (hi.store.stored e he) hversion
    rw [hsame] at hknows hcomputed
    exact ⟨run, sent, hrun, hknows, hcomputed, hstatus⟩
  · intro i run hrun earlier sent r later hlog hunsent hrefused e he earlier' hauthor
    obtain ⟨e', he', hauthor'⟩ := hi.first_written hrun hlog hunsent he hauthor
    exact hrefused e' he' hauthor'

/-! ## Two passes that start together -/

/-- The sample job before any pass over it. -/
def newborn : Job :=
  { Sample.job with status := none }

/-- The job as one of two passes has set it up. -/
def raised : Job :=
  { setUp Sample.now newborn with metadata := { newborn.metadata with resourceVersion := some "2" } }

/-- The world in which both have read the job, and both have tried to set it up. -/
theorem reachable_race : ∃ w, Reachable "shop" "trace" w ∧ w.job = some raised ∧ w.passes.length = 2 ∧
    w.writes = [⟨some (0, [⟨.getJob "shop" "trace", Except.ok (some newborn)⟩]), newborn, raised⟩] := by
  have h0 : Reachable "shop" "trace" ⟨some newborn, [newborn], [], []⟩ := .init ⟨rfl, rfl, rfl⟩
  have h1 := (h0.step (.start Sample.now)).step (.start ⟨1, 0⟩)
  have h2 := h1.step (.call (i := 0) (c := .getJob "shop" "trace") rfl rfl (.read "shop" "trace" List.mem_cons_self))
  have h3 := h2.step (.call (i := 1) (c := .getJob "shop" "trace") rfl rfl (.read "shop" "trace" List.mem_cons_self))
  have hfresh : ∀ s ∈ [newborn], version s ≠ version raised := List.forall_mem_singleton.2 (by decide)
  have h4 := h3.step (.call (i := 0) (c := .replaceStatus (setUp Sample.now newborn)) rfl rfl
    (.stored rfl rfl hfresh rfl (.inl rfl)))
  have h5 := h4.step (.call (i := 1) (c := .replaceStatus (setUp ⟨1, 0⟩ newborn)) rfl rfl
    (.failed _ Cluster.staleVersion))
  exact ⟨_, h5, rfl, rfl, rfl⟩

/-- One of the two passes has set the job up, and nothing is lost. -/
theorem race_lossless : ∃ w, Reachable "shop" "trace" w ∧ w.job = some raised ∧ w.passes.length = 2 ∧
    w.writes = [⟨some (0, [⟨.getJob "shop" "trace", Except.ok (some newborn)⟩]), newborn, raised⟩] ∧
    Lossless "shop" "trace" w := by
  obtain ⟨w, hw, hjob, hpasses, hwrites⟩ := reachable_race
  exact ⟨w, hw, hjob, hpasses, hwrites, no_lost_update hw⟩

end Versions

end ProfilingOperator
