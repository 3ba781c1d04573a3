import ProfilingOperator.Pass.Tool
import ProfilingOperator.Proofs.Log
import ProfilingOperator.Proofs.Merging

/-!
# A registry entry over its validations

A registry entry is edited and validated, in any order and for as long as it stands.  Everything but its status may be
edited; a pass that ends well leaves in its status what its calls have merged there.

    Sets kind status before after : the one condition of a kind has a status, its stamp moves with the status, and all
      others stay
    sets_record : a condition is recorded so where the kinds of conditions are distinct
    ends_validate : how a pass ends well
    validated_of_course : what holds of every course of edits and passes
-/

namespace ProfilingOperator

namespace Validation

open Condition
open Pass hiding record

/-! ## Conditions -/

/-- The one condition of a kind has a status.  It has kept its place, or stands last if there was none before; its
stamp stays while its status does, and the other conditions stay as they are. -/
inductive Sets (kind : String) (status : Condition.Status) : List Condition → List Condition → Prop where
  | first {l : List Condition} {c : Condition} (hkind : c.kind = kind) (hstatus : c.status = status)
      (hnew : kind ∉ kinds l) :
      Sets kind status l (l ++ [c])
  | again {front back : List Condition} {c d : Condition} (hkind : c.kind = kind) (hstatus : c.status = status)
      (hold : d.kind = kind) (hsince : d.status = status → c.since = d.since) (hothers : kind ∉ kinds (front ++ back)) :
      Sets kind status (front ++ d :: back) (front ++ c :: back)

/-! ## Courses -/

def conditions (t : Tool) : List Condition :=
  (t.status.getD .initial).conditions

/-- A text in which some scalar is not white space. -/
def Filled (s : String) : Prop :=
  ∃ c ∈ s.toList, Text.isBlank c = false

/-- A pass that ended well: when it was, the entry it was over, the calls it made, and the entry as it is stored after
them. -/
structure Visit where
  now : Stamp
  before : Tool
  log : List Answered
  after : Tool

/-- The entry as it is stored after calls: each status that was merged with success is in the place of the one before.
-/
def stored (t : Tool) : List Answered → Tool
  | [] => t
  | ⟨.patchToolStatus _ _ s, .ok _⟩ :: log => stored (t.withStatus s) log
  | _ :: log => stored t log

/-- An entry goes on by edits, which leave its status alone, and by passes that end well. -/
inductive Course (start : Tool) : List Visit → Tool → Prop where
  | nil : Course start [] start
  | edit {visits : List Visit} {t : Tool} (metadata : Metadata) (spec : Tool.Spec) (h : Course start visits t) :
      Course start visits ⟨metadata, spec, t.status⟩
  | pass {visits : List Visit} {t : Tool} {now : Stamp} {log : List Answered} {next : Next} (h : Course start visits t)
      (hends : (validate now t).Ends log (.done next)) :
      Course start (visits ++ [⟨now, t, log, stored t log⟩]) (stored t log)

/-- What a pass makes of the status of an entry: the phase and the condition `Ready` tell whether the name and the
image are filled, and the time is that of the pass. -/
structure Told (now : Stamp) (t : Tool) (s : Tool.Status) : Prop where
  valid : Filled t.spec.name ∧ Filled t.spec.image →
    s.phase = some .ready ∧ Sets "Ready" .holds (conditions t) s.conditions
  invalid : ¬ (Filled t.spec.name ∧ Filled t.spec.image) →
    s.phase = some .invalid ∧ Sets "Ready" .fails (conditions t) s.conditions
  one : (kinds s.conditions).count "Ready" = 1
  time : s.lastValidated = some now

/-- What a pass that ended well did.  An entry that is being deleted was not written.  Into any other its status was
merged, once, and is stored as it was computed. -/
structure Lawful (v : Visit) : Prop where
  deleting : v.before.metadata.isDeleting = true → v.log = [] ∧ v.after = v.before
  standing : v.before.metadata.isDeleting = false → ∃ space s, s = v.before.validated v.now ∧ Told v.now v.before s ∧
    v.before.metadata.space = some space ∧ v.log = [⟨.patchToolStatus space v.before.name s, Except.ok ()⟩] ∧
    v.after = v.before.withStatus s ∧ v.before.statusJson.merge s.toJson = s.toJson ∧
    v.before.toJson.merge (Client.statusPatch s) = v.after.toJson

/-! ## Lemmas -/

section
variable {kind : String} {status : Condition.Status} {l l' : List Condition} {t : Tool} {now : Stamp}
  {log : List Answered}

theorem Sets.cons {d : Condition} (hd : d.kind ≠ kind) (h : Sets kind status l l') :
    Sets kind status (d :: l) (d :: l') := by
  have hnot {l : List Condition} (hl : kind ∉ kinds l) : kind ∉ kinds (d :: l) :=
    fun h => (List.mem_cons.1 h).elim (fun he => hd he.symm) hl
  cases h with
  | first hkind hstatus hnew => exact .first hkind hstatus (hnot hnew)
  | @again front back c e hkind hstatus hold hsince hothers =>
    rw [← List.cons_append, ← List.cons_append]
    exact .again hkind hstatus hold hsince (hnot hothers)

theorem Sets.count_kinds (h : Sets kind status l l') : (kinds l').count kind = 1 := by
  cases h with
  | first hkind hstatus hnew =>
    unfold kinds at hnew ⊢
    rw [List.map_append, List.count_append, List.count_eq_zero_of_not_mem hnew]
    simp [hkind]
  | again hkind hstatus hold hsince hothers =>
    unfold kinds at hothers ⊢
    rw [List.map_append] at hothers
    have hrest := List.count_eq_zero_of_not_mem hothers
    rw [List.count_append] at hrest
    rw [List.map_append, List.map_cons, List.count_append, hkind, List.count_cons_self]
    omega

/-- By induction on the conditions: the one of the kind is the first of them, or comes later and the first stays. -/
theorem sets_record (c : Condition) (h : (kinds l).Nodup) : Sets c.kind c.status l (record c l) := by
  induction l with
  | nil => exact .first rfl rfl List.not_mem_nil
  | cons d r ih =>
    obtain ⟨hd, hr⟩ := List.nodup_cons.1 h
    rw [record]
    split
    · next hkind =>
      have hothers : c.kind ∉ kinds ([] ++ r) := hkind ▸ hd
      have hsince : d.status = c.status → (d.refreshed c).since = d.since :=
        fun hsame => by rw [refreshed, if_pos hsame]
      rw [← List.nil_append (d :: r), ← List.nil_append (d.refreshed c :: r)]
      exact .again ((refreshed_kind d c).trans hkind) (refreshed_status d c) hkind hsince hothers
    · next hkind => exact (ih hr).cons hkind

theorem record_ne_nil (c : Condition) (l : List Condition) : record c l ≠ [] := by
  cases l with
  | nil => exact List.cons_ne_nil _ _
  | cons d r =>
    rw [record]
    split <;> exact List.cons_ne_nil _ _

theorem filled_iff {s : String} : Filled s ↔ Text.isBlankText s = false := by
  rw [← Bool.not_eq_true, Text.isBlankText_iff]
  simp [Filled]

/-! ### Statuses -/

theorem fault?_eq_none_iff (t : Tool) : t.spec.fault? t.name = none ↔ Filled t.spec.name ∧ Filled t.spec.image := by
  rw [Tool.Spec.fault?_eq_none_iff, filled_iff, filled_iff]

theorem validated_of_filled (h : Filled t.spec.name ∧ Filled t.spec.image) (now : Stamp) :
    t.validated now = ⟨some .ready, some now, record ⟨Tool.readyCondition, .holds, "ConfigurationValid",
      "PowerToolConfig is valid and ready for use", now⟩ (conditions t)⟩ := by
  unfold Tool.validated
  rw [(fault?_eq_none_iff t).2 h]
  rfl

theorem validated_of_not_filled (h : ¬ (Filled t.spec.name ∧ Filled t.spec.image)) (now : Stamp) :
    ∃ message, t.validated now = ⟨some .invalid, some now,
      record ⟨Tool.readyCondition, .fails, "InvalidConfiguration", message, now⟩ (conditions t)⟩ := by
  cases hfault : t.spec.fault? t.name with
  | none => exact absurd ((fault?_eq_none_iff t).1 hfault) h
  | some f =>
    refine ⟨f.message, ?_⟩
    unfold Tool.validated
    rw [hfault]
    rfl

theorem told_validated (h : (kinds (conditions t)).Nodup) (now : Stamp) : Told now t (t.validated now) := by
  by_cases hfilled : Filled t.spec.name ∧ Filled t.spec.image
  · rw [validated_of_filled hfilled]
    have hsets := sets_record
      ⟨Tool.readyCondition, .holds, "ConfigurationValid", "PowerToolConfig is valid and ready for use", now⟩ h
    exact ⟨fun _ => ⟨rfl, hsets⟩, fun hnot => absurd hfilled hnot, hsets.count_kinds, rfl⟩
  · obtain ⟨message, hvalidated⟩ := validated_of_not_filled hfilled now
    rw [hvalidated]
    have hsets := sets_record ⟨Tool.readyCondition, .fails, "InvalidConfiguration", message, now⟩ h
    exact ⟨fun hyes => absurd hyes hfilled, fun _ => ⟨rfl, hsets⟩, hsets.count_kinds, rfl⟩

/-- Whatever the outcome, nothing is left out and one condition is recorded. -/
theorem validated_records (t : Tool) (now : Stamp) :
    ∃ phase c, t.validated now = ⟨some phase, some now, record c (conditions t)⟩ := by
  by_cases hfilled : Filled t.spec.name ∧ Filled t.spec.image
  · exact ⟨_, _, validated_of_filled hfilled now⟩
  · obtain ⟨message, hvalidated⟩ := validated_of_not_filled hfilled now
    exact ⟨_, _, hvalidated⟩

theorem complete_validated (t : Tool) (now : Stamp) : (t.validated now).Complete := by
  obtain ⟨phase, c, hvalidated⟩ := validated_records t now
  rw [hvalidated]
  exact ⟨rfl, rfl, record_ne_nil c _⟩

theorem nodup_validated (h : (kinds (conditions t)).Nodup) (now : Stamp) :
    (kinds (t.validated now).conditions).Nodup := by
  obtain ⟨phase, c, hvalidated⟩ := validated_records t now
  rw [hvalidated]
  exact nodup_kinds_record c h

/-! ### Passes -/

/-- A pass ends well over an entry of a namespace: without a call if the entry is being deleted, else by the one that
was answered. -/
theorem ends_validate : (∃ next, (validate now t).Ends log (.done next)) ↔ ∃ space, t.metadata.space = some space ∧
    (t.metadata.isDeleting = true ∧ log = [] ∨
      t.metadata.isDeleting = false ∧ log = [⟨.patchToolStatus space t.name (t.validated now), Except.ok ()⟩]) := by
  unfold validate
  cases hspace : t.metadata.space with
  | none =>
    refine ⟨fun ⟨next, h⟩ => ?_, fun ⟨space, h, _⟩ => nomatch h⟩
    obtain ⟨-, hfailed⟩ := ends_fail.1 h
    cases hfailed
  | some space =>
    cases hdeleting : t.metadata.isDeleting with
    | true =>
      constructor
      · rintro ⟨next, h⟩
        exact ⟨space, rfl, .inl ⟨rfl, (ends_done.1 h).1⟩⟩
      · rintro ⟨_, -, ⟨-, rfl⟩ | ⟨hstanding, -⟩⟩
        · exact ⟨.onChange, ends_done.2 ⟨rfl, rfl⟩⟩
        · cases hstanding
    | false =>
      constructor
      · rintro ⟨next, h⟩
        obtain ⟨reply, rest, rfl, hrest⟩ := ends_call.1 h
        cases reply with
        | ok _ =>
          obtain ⟨rfl, -⟩ := ends_done.1 hrest
          exact ⟨space, rfl, .inr ⟨rfl, rfl⟩⟩
        | error f =>
          obtain ⟨-, hfailed⟩ := ends_fail.1 hrest
          cases hfailed
      · rintro ⟨_, hsame, ⟨hdoomed, -⟩ | ⟨-, rfl⟩⟩
        · cases hdoomed
        · cases hsame
          exact ⟨.after Requeue.revalidation, ends_call.2 ⟨.ok (), [], rfl, ends_done.2 ⟨rfl, rfl⟩⟩⟩

theorem goes_of_isDeleting {q : Pass Next} (hdeleting : t.metadata.isDeleting = true)
    (h : (validate now t).Goes log q) :
    log = [] := by
  unfold validate at h
  cases hspace : t.metadata.space with
  | none =>
    rw [hspace] at h
    cases h
    rfl
  | some space =>
    rw [hspace, hdeleting] at h
    cases h
    rfl

theorem lawful_of_ends {next : Next} (hdistinct : (kinds (conditions t)).Nodup)
    (h : (validate now t).Ends log (.done next)) :
    Lawful ⟨now, t, log, stored t log⟩ ∧ (kinds (conditions (stored t log))).Nodup := by
  obtain ⟨space, hspace, ⟨hdeleting, rfl⟩ | ⟨hstanding, rfl⟩⟩ := ends_validate.1 ⟨next, h⟩
  · refine ⟨⟨fun _ => ⟨rfl, rfl⟩, fun hstanding => ?_⟩, hdistinct⟩
    exact absurd (hdeleting.symm.trans hstanding) nofun
  · have hcomplete := complete_validated t now
    refine ⟨⟨fun hdeleting => ?_, fun _ => ?_⟩, nodup_validated hdistinct now⟩
    · exact absurd (hdeleting.symm.trans hstanding) nofun
    · exact ⟨space, _, rfl, told_validated hdistinct now, hspace, rfl, rfl, hcomplete.merge_toJson t,
        Tool.merge_statusPatch hcomplete t⟩

/-- Whatever is edited between the passes, each that ends well does what is lawful, the kinds of conditions stay
distinct, and an entry that is being deleted is not written even by a pass that ends otherwise. -/
theorem validated_of_course {start : Tool} {visits : List Visit} (hdistinct : (kinds (conditions start)).Nodup)
    (h : Course start visits t) :
    (∀ v ∈ visits, Lawful v) ∧ (kinds (conditions t)).Nodup ∧
    (t.metadata.isDeleting = true → ∀ now log q, (validate now t).Goes log q → log = []) := by
  have hvisits : (∀ v ∈ visits, Lawful v) ∧ (kinds (conditions t)).Nodup := by
    induction h with
    | nil => exact ⟨fun v hv => absurd hv List.not_mem_nil, hdistinct⟩
    | edit metadata spec h ih => exact ih
    | pass h hends ih =>
      obtain ⟨hlawful, hkinds⟩ := lawful_of_ends ih.2 hends
      exact ⟨List.forall_mem_append.2 ⟨ih.1, List.forall_mem_singleton.2 hlawful⟩, hkinds⟩
  exact ⟨hvisits.1, hvisits.2, fun hdeleting _ _ _ hgoes => goes_of_isDeleting hdeleting hgoes⟩

theorem Course.validated {start : Tool} {visits : List Visit} {space : String} (h : Course start visits t) (now : Stamp)
    (hspace : t.metadata.space = some space) (hstanding : t.metadata.isDeleting = false) :
    ∃ log, Course start (visits ++ [⟨now, t, log, t.withStatus (t.validated now)⟩])
      (t.withStatus (t.validated now)) := by
  obtain ⟨next, hends⟩ := ends_validate.2 ⟨space, hspace, .inr ⟨hstanding, rfl⟩⟩
  exact ⟨_, h.pass hends⟩

end

/-! ### An entry that is set right -/

namespace Sample

/-- An entry whose image is blank, with a condition of somebody else and one that tells that it is ready. -/
def start : Tool :=
  ⟨{ Metadata.empty with name := some "perf-config", space := some "ops" },
    ⟨"perf", "\t ", .none, [], none, none, [], none⟩,
    some ⟨some .ready, none, [⟨"Ready", .holds, "Configured", "", ⟨30, 0⟩⟩, ⟨"Scanned", .holds, "Clean", "", ⟨0, 0⟩⟩]⟩⟩

/-- The entry after a pass, and with another image. -/
def imaged : Tool :=
  ⟨start.metadata, { start.spec with image := "perf:1" }, some (start.validated ⟨60, 0⟩)⟩

/-- The entry after one more pass. -/
def ready : Tool :=
  imaged.withStatus (imaged.validated ⟨120, 0⟩)

/-- What the conditions of an entry are about, whether they hold, and since when. -/
def told (t : Tool) : List (String × Condition.Status × Stamp) :=
  (conditions t).map fun c => (c.kind, c.status, c.since)

/-- The condition is set to fail and to hold again, each time in its place, and keeps its stamp in the pass after. -/
theorem course_of_start : ∃ visits t, (kinds (conditions start)).Nodup ∧ Course start visits t ∧
    (∀ v ∈ visits, Lawful v) ∧
    visits.map (fun v => told v.after) =
      [[("Ready", .fails, ⟨60, 0⟩), ("Scanned", .holds, ⟨0, 0⟩)],
        [("Ready", .holds, ⟨120, 0⟩), ("Scanned", .holds, ⟨0, 0⟩)],
        [("Ready", .holds, ⟨120, 0⟩), ("Scanned", .holds, ⟨0, 0⟩)]] := by
  have hdistinct : (kinds (conditions start)).Nodup := by decide
  have hstart : Course start [] start := .nil
  obtain ⟨_, hinvalid⟩ := hstart.validated ⟨60, 0⟩ rfl rfl
  have himaged : Course start _ imaged := hinvalid.edit imaged.metadata imaged.spec
  obtain ⟨_, hready⟩ := himaged.validated ⟨120, 0⟩ rfl rfl
  obtain ⟨_, hagain⟩ := Course.validated (t := ready) hready ⟨180, 0⟩ rfl rfl
  exact ⟨_, _, hdistinct, hagain, (validated_of_course hdistinct hagain).1, by rfl⟩

end Sample

end Validation

end ProfilingOperator
