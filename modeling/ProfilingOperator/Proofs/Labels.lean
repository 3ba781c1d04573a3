import ProfilingOperator.Proofs.Selection
import ProfilingOperator.Proofs.Variables

/-!
# The label a job's results are filed under

A diagnostic container is told one label of its pod: the first pair of the selector that the pod carries.  The
selector is looked at twice for it, once lowered, to pick the pods, and once as it was written, to find the pair.
Here is said that both agree: a pod that is picked carries every pair, so that the pair that is found is the least
one, whatever the pod.

    Files s label : the label of the least pair of a selector, or the usual one of a selector without pairs
    matchingLabel_of_selects : a pod that is picked is told the label its selector files under
    one_label : all pods of a job are told the same label, and it is the usual one exactly without pairs
-/

namespace ProfilingOperator

namespace Selector

/-- The label that a selector files under: its pair of the least key, and without pairs the one for what is not known.
-/
inductive Files (s : Selector) : String → Prop where
  | least {key value : String} (there : s.matchLabels.get? key = some value)
      (least : ∀ other ∈ s.matchLabels.keys, other ≠ key → key < other) : Files s (key ++ "-" ++ value)
  | fallback (empty : s.matchLabels = .empty) : Files s "unknown"

/-! ## Lemmas -/

/-- The first entry of a map is the one of its least key. -/
theorem head?_entries_iff {m : StringMap String} {key value : String} :
    m.entries.head? = some (key, value) ↔
      m.get? key = some value ∧ ∀ other ∈ m.keys, other ≠ key → key < other := by
  have hsorted := m.sorted
  rw [← StringMap.mem_entries_iff]
  unfold StringMap.keys
  generalize m.entries = entries at hsorted
  cases entries with
  | nil => simp
  | cons e rest =>
    obtain ⟨hbehind, -⟩ := List.pairwise_cons.1 hsorted
    rw [List.head?_cons, Option.some.injEq]
    constructor
    · rintro rfl
      refine ⟨List.mem_cons_self, fun other hother hne => ?_⟩
      rcases List.mem_cons.1 hother with heq | hother
      · exact absurd heq hne
      · obtain ⟨d, hd, rfl⟩ := List.mem_map.1 hother
        exact hbehind d hd
    · rintro ⟨hmem, hleast⟩
      rcases List.mem_cons.1 hmem with heq | hmem
      · exact heq.symm
      · -- A pair that stands behind the first is not the least.
        have hlt : e.1 < key := hbehind _ hmem
        have hne : e.1 ≠ key := fun heq => String.lt_irrefl _ (heq ▸ hlt)
        exact absurd (String.lt_trans hlt (hleast e.1 List.mem_cons_self hne)) (String.lt_irrefl _)

section
variable {s : Selector} {label : String} {labels : StringMap String}

theorem exists_files (s : Selector) : ∃ label, s.Files label := by
  cases hfirst : s.matchLabels.entries.head? with
  | none => exact ⟨_, .fallback (StringMap.ext (List.head?_eq_none_iff.1 hfirst))⟩
  | some e =>
    obtain ⟨hthere, hleast⟩ := head?_entries_iff.1 hfirst
    exact ⟨_, .least hthere hleast⟩

/-- A label made of a pair has a dash, which the one for what is not known has not. -/
theorem pair_ne_unknown (key value : String) : key ++ "-" ++ value ≠ "unknown" := by
  intro h
  have hdash : '-' ∈ (key ++ "-" ++ value).toList := by simp
  rw [h] at hdash
  exact absurd hdash (by decide)

theorem Files.eq_unknown_iff (h : s.Files label) : label = "unknown" ↔ s.matchLabels = .empty := by
  cases h with
  | least there least =>
    refine iff_of_false (pair_ne_unknown _ _) fun hempty => ?_
    rw [hempty, StringMap.get?_empty] at there
    cases there
  | fallback empty => exact iff_of_true rfl empty

/-- Labels that are picked carry every pair, so the first pair that is looked for is found. -/
theorem matchingLabel_of_selects (h : s.Selects labels) (hfiles : s.Files label) :
    matchingLabel (some s) labels = label := by
  unfold matchingLabel
  rw [Option.bind_some]
  cases hfiles with
  | fallback empty =>
    rw [empty]
    rfl
  | least there least =>
    obtain ⟨rest, hentries⟩ := List.head?_eq_some_iff.1 (head?_entries_iff.2 ⟨there, least⟩)
    have hcarried := h.1 _ (hentries ▸ List.mem_cons_self)
    rw [hentries, List.find?_cons, decide_eq_true hcarried]

/-- The pods a selector is resolved to are picked by it. -/
theorem selects_of_resolve {space : String} {log : List Answered} {pods : List Pod}
    (h : (Targets.resolve space (some s)).Ends log (.done pods)) : ∀ pod ∈ pods, s.Selects pod.labels := by
  rcases Pass.ends_resolve.1 h with ⟨hnone, -⟩ | ⟨_, _, -, -, -, ho⟩ | ⟨t, c, reply, ht, hc, -, ho⟩
  · cases hnone
  · cases ho
  · obtain rfl := Option.some.inj ht
    intro pod hpod
    cases reply with
    | error f => cases ho
    | ok listed =>
      cases ho
      exact (accepts_iff_selects hc).1 (List.mem_filter.1 hpod).2

end

end Selector

/-! ## What a container is told -/

namespace Environment

section
variable {job : Job} {pod : Pod} {args : List String} {collector : Option Collector} {l : List (String × String)}
  {name value : String}

theorem mem_iff_lookup (h : (names l).Nodup) : (name, value) ∈ l ↔ l.lookup name = some value := by
  induction l with
  | nil => simp
  | cons v l ih =>
    obtain ⟨hv, hl⟩ : v.1 ∉ names l ∧ (names l).Nodup := List.nodup_cons.1 h
    obtain ⟨other, told⟩ := v
    by_cases hname : name = other
    · subst hname
      have hrest : (name, value) ∉ l := fun hmem => hv (List.mem_map.2 ⟨_, hmem, rfl⟩)
      simp [hrest, eq_comm]
    · rw [lookup_cons_of_ne hname, ← ih hl]
      simp [hname]

/-- The label of a pod is told once. -/
theorem mem_label_iff : ("POD_MATCHING_LABELS", value) ∈ build job pod args collector ↔
    value = Selector.matchingLabel job.spec.targets.selector pod.labels := by
  have hbase : (base job pod).lookup "POD_MATCHING_LABELS" =
      some (Selector.matchingLabel job.spec.targets.selector pod.labels) := by
    simp [base, List.lookup_cons]
  rw [mem_iff_lookup (nodup_names job pod args collector), lookup_build, hbase, Option.some_or, Option.some.injEq,
    eq_comm]

end

/-- There is one label that a job with a selector files under: `key-value` for its least pair, and what stands for an
unknown label exactly if it has no pair.  Each pod that is resolved for the job, by whatever answer, is told that
label and no other. -/
theorem one_label {job : Job} {s : Selector} (h : job.spec.targets.selector = some s) :
    ∃ label, s.Files label ∧ (label = "unknown" ↔ s.matchLabels = .empty) ∧
      ∀ (space : String) (log : List Answered) (pods : List Pod),
        (Targets.resolve space (some s)).Ends log (.done pods) →
        ∀ pod ∈ pods, ∀ (args : List String) (collector : Option Collector) (value : String),
          ("POD_MATCHING_LABELS", value) ∈ build job pod args collector ↔ value = label := by
  obtain ⟨label, hfiles⟩ := s.exists_files
  refine ⟨label, hfiles, hfiles.eq_unknown_iff, fun space log pods hends pod hpod args collector value => ?_⟩
  have hselects := Selector.selects_of_resolve hends pod hpod
  rw [mem_label_iff, h, Selector.matchingLabel_of_selects hselects hfiles]

/-- Two pairs and an expression. -/
def Sample.tiers : Selector :=
  ⟨StringMap.ofList [("tier", "shop"), ("app", "cart")], [⟨"edge", "DoesNotExist", []⟩]⟩

/-- The sample job for the pods of its tiers. -/
def Sample.tiered : Job :=
  { Pass.Sample.job with spec := { Pass.Sample.job.spec with targets := ⟨some Sample.tiers, none⟩ } }

/-- The sample pod with some labels. -/
def Sample.labelled (labels : List (String × String)) : Pod :=
  { Pass.Sample.pod with metadata := { Pass.Sample.pod.metadata with labels := some (StringMap.ofList labels) } }

/-- A pod of both tiers. -/
def Sample.cart : Pod :=
  Sample.labelled [("zone", "a"), ("app", "cart"), ("tier", "shop")]

/-- A list of that pod behind one at the edge. -/
def Sample.listing : List Answered :=
  [⟨.listPods "shop" "app=cart,tier=shop,!edge",
    Except.ok [Sample.labelled [("app", "cart"), ("tier", "shop"), ("edge", "a")], Sample.cart]⟩]

/-- The pod at the edge is left out, and the other is told the pair of `app`. -/
theorem tiers_are_filed_by_app :
    Sample.tiered.spec.targets.selector = some Sample.tiers ∧
    (Targets.resolve "shop" (some Sample.tiers)).Ends Sample.listing (.done [Sample.cart]) ∧
    Sample.tiers.Files "app-cart" ∧
    ∀ value, ("POD_MATCHING_LABELS", value) ∈ build Sample.tiered Sample.cart [] none ↔ value = "app-cart" := by
  have hcompiled : Selector.compile Sample.tiers = .ok
      ⟨[⟨"app", .isIn, ["cart"]⟩, ⟨"tier", .isIn, ["shop"]⟩, ⟨"edge", .absent, []⟩]⟩ := by decide +kernel
  have hends : (Targets.resolve "shop" (some Sample.tiers)).Ends Sample.listing (.done [Sample.cart]) :=
    Pass.ends_resolve.2 (.inr (.inr ⟨_, _, Except.ok _, rfl, hcompiled, rfl, rfl⟩))
  obtain ⟨label, hfiles, -, htold⟩ := one_label (show Sample.tiered.spec.targets.selector = some Sample.tiers from rfl)
  have hlabel := htold "shop" _ _ hends Sample.cart List.mem_cons_self [] none
  obtain rfl : "app-cart" = label := (hlabel "app-cart").1 (mem_label_iff.2 (by decide +kernel))
  exact ⟨rfl, hends, hfiles, hlabel⟩

end Environment

end ProfilingOperator
