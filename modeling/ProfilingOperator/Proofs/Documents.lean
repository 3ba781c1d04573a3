import ProfilingOperator.Client.Exchange
import ProfilingOperator.Proofs.Rendering
import ProfilingOperator.Tool.Basic

/-!
# Documents that are read back

A job and a registry entry each have a specification and a status.  What is written of one is read as the same value:
a member that is left out stands for what the reader puts in its place, and an optional section that is there is
written even when there is nothing in it.

    required_written, optional_written, list_written, map_written : what a member of each kind is read as
    ofJson_toJson : a record is read from what is written of it
    plain : what is written of a record is plain JSON, so that its text is read as well
    documents_round_trip : the four of them are read back, and which member stands for which section

Counts have to fit into 32 bits, and of stamps it is assumed that their text is read as themselves.
-/

namespace ProfilingOperator

open Decode Json

/-! ## What is read back -/

/-- A value that is read from the document written of it, as JSON and as text. -/
def RoundTrips {α : Type} (write : α → Json) (read : Reader α) (a : α) : Prop :=
  read (write a) = .ok a ∧ Client.readText read (write a).render = .ok a

/-- An optional section of a document: no member stands for none, and a member `written` for the bare section only. -/
def Json.Tells {α : Type} (j : Json) (name : String) (o : Option α) (bare : α) (written : Json) : Prop :=
  (j.member? name = none ↔ o = none) ∧ (j.member? name = some written ↔ o = some bare)

/-- A stamp whose text is read as itself. -/
def Stamp.Legible (t : Stamp) : Prop :=
  Stamp.ofText? t.text = .ok t

/-- A status whose counts fit into 32 bits and whose stamps are read as themselves. -/
structure Job.Status.Legible (s : Job.Status) : Prop where
  selected : s.selectedPods < 2 ^ 32
  completed : s.completedPods < 2 ^ 32
  conditions : ∀ c ∈ s.conditions, c.since.Legible
  started : ∀ t ∈ s.startedAt, t.Legible
  finished : ∀ t ∈ s.finishedAt, t.Legible

/-- A status whose stamps are read as themselves. -/
structure Tool.Status.Legible (s : Tool.Status) : Prop where
  validated : ∀ t ∈ s.lastValidated, t.Legible
  conditions : ∀ c ∈ s.conditions, c.since.Legible

/-! ## Lemmas -/

/-! ### Fields -/

namespace Decode

/-- A reading that comes to a value. -/
def Reading.Gives {α : Type} (x : Reading α) (a : α) : Prop :=
  x = .ok a

theorem Reading.Gives.and {α β : Type} {f : Reading (α → β)} {x : Reading α} {g : α → β} {a : α} (hf : f.Gives g)
    (hx : x.Gives a) : (f.and x).Gives (g a) := by
  rw [Gives, hf, hx, Reading.ok_and_ok]

theorem Reading.gives_ok {α : Type} (a : α) : (Reading.ok a).Gives a :=
  rfl

theorem record_written {α : Type} {title : String} {size : Nat} {build : Source → Reading α}
    {fields : List (String × Option Json)} {a : α} (h : (build (.members (Json.members fields))).Gives a) :
    record title size build (Json.object fields) = .ok a := by
  rw [Json.object, record, h, Reading.result_ok]

section
variable {α : Type} {fields : List (String × Option Json)} {i : Nat} {name : String} {read : Reader α}

/-- A field is read as what was written of it, or has its own value when nothing was. -/
theorem field_written {o : Option Json} {a : α} {absent short : Option α} (hfield : lastGiven name none fields = o)
    (hread : ∀ j ∈ o, read j = .ok a) (habsent : o = none → absent = some a) :
    ((Source.members (Json.members fields)).field i name read absent short).Gives a := by
  have hfind : StringMap.find name (Json.members fields) = o := (find_foldl_members name fields []).trans hfield
  cases o with
  | none =>
    rw [habsent rfl]
    exact Source.field_of_find_none hfind
  | some j => exact Source.field_of_find hfind (hread j rfl)

theorem required_written {a : α} (write : α → Json) (hfield : lastGiven name none fields = some (write a))
    (hread : read (write a) = .ok a) : ((Source.members (Json.members fields)).required i name read).Gives a :=
  field_written hfield (by rintro _ ⟨⟩; exact hread) nofun

theorem defaulted_written {a b : α} (write : α → Json) (hfield : lastGiven name none fields = some (write a))
    (hread : read (write a) = .ok a) : ((Source.members (Json.members fields)).defaulted i name read b).Gives a :=
  field_written hfield (by rintro _ ⟨⟩; exact hread) nofun

/-- A reader that refuses `null` reads it as nothing where it may stand, and anything else as before. -/
theorem nullable_written {j : Json} {a : α} (hread : read j = .ok a) (hnull : ∃ e, read .null = .error e) :
    nullable read j = .ok (some a) := by
  obtain ⟨e, hnull⟩ := hnull
  rw [nullable, hread]
  · rfl
  · rintro rfl
    rw [hnull] at hread
    cases hread

theorem optional_written {o : Option α} (write : α → Json) (hfield : lastGiven name none fields = o.map write)
    (hread : ∀ a ∈ o, read (write a) = .ok a) (hnull : ∃ e, read .null = .error e) :
    ((Source.members (Json.members fields)).optional i name read).Gives o := by
  refine field_written hfield (fun j hj => ?_) fun hnone => ?_
  · obtain ⟨a, ha, rfl⟩ := Option.map_eq_some_iff.1 hj
    rw [nullable_written (hread a ha) hnull, ha]
  · rw [Option.map_eq_none_iff.1 hnone]

theorem list_written {l : List α} (write : α → Json) (hfield : lastGiven name none fields = Json.nonEmpty write l)
    (hread : ∀ a ∈ l, read (write a) = .ok a) :
    ((Source.members (Json.members fields)).defaulted i name (list read) []).Gives l := by
  refine field_written hfield (fun j hj => ?_) fun hnone => ?_
  · unfold Json.nonEmpty at hj
    split at hj
    · cases hj
    · cases hj
      exact each_map hread
  · unfold Json.nonEmpty at hnone
    split at hnone
    · next hempty => rw [List.isEmpty_iff.1 hempty]
    · cases hnone

theorem map_written {m : StringMap String}
    (hfield : lastGiven name none fields = if m.isEmpty then none else some (Json.stringMap m)) :
    ((Source.members (Json.members fields)).defaulted i name (Decode.map Decode.string) .empty).Gives m := by
  refine field_written hfield (fun j hj => ?_) fun hnone => ?_
  · split at hj
    · cases hj
    · cases hj
      exact map_stringMap m
  · split at hnone
    · next hempty =>
      obtain ⟨entries, sorted⟩ := m
      obtain rfl : entries = [] := List.isEmpty_iff.1 hempty
      rfl
    · cases hnone

theorem word32_nat {n : Nat} (h : n < 2 ^ 32) : word32 (.nat n) = .ok n := by
  have hrange : (0 : Int) ≤ n ∧ (n : Int) < UInt32.size := ⟨Int.natCast_nonneg n, Int.ofNat_lt.2 h⟩
  rw [word32, Json.nat, whole, if_pos hrange]
  rfl

end

end Decode

/-! ### Selectors, resources and conditions -/

theorem Selector.Expression.ofJson_toJson (e : Selector.Expression) : ofJson e.toJson = .ok e := by
  obtain ⟨key, operator, values⟩ := e
  refine record_written (Reading.gives_ok _ |>.and ?key |>.and ?operator |>.and ?values)
  case key => exact required_written .str (by simp [lastGiven]) rfl
  case operator => exact required_written .str (by simp [lastGiven]) rfl
  case values => exact list_written .str (by simp [lastGiven, Json.nonEmpty, Json.list, Json.strings]) fun _ _ => rfl

theorem Selector.ofJson_toJson (s : Selector) : ofJson s.toJson = .ok s := by
  obtain ⟨matchLabels, matchExpressions⟩ := s
  refine record_written (Reading.gives_ok _ |>.and ?matchLabels |>.and ?matchExpressions)
  case matchLabels => exact map_written (by simp [lastGiven])
  case matchExpressions =>
    exact list_written _ (by simp [lastGiven, Json.nonEmpty, Json.list]) fun e _ => e.ofJson_toJson

theorem Amounts.ofJson_toJson (a : Amounts) : ofJson a.toJson = .ok a := by
  obtain ⟨cpu, memory⟩ := a
  refine record_written (Reading.gives_ok _ |>.and ?cpu |>.and ?memory)
  case cpu => exact optional_written .str (by simp [lastGiven]) (fun _ _ => rfl) ⟨_, rfl⟩
  case memory => exact optional_written .str (by simp [lastGiven]) (fun _ _ => rfl) ⟨_, rfl⟩

theorem Resources.ofJson_toJson (r : Resources) : ofJson r.toJson = .ok r := by
  obtain ⟨requests, limits⟩ := r
  refine record_written (Reading.gives_ok _ |>.and ?requests |>.and ?limits)
  case requests => exact optional_written _ (by simp [lastGiven]) (fun a _ => a.ofJson_toJson) ⟨_, rfl⟩
  case limits => exact optional_written _ (by simp [lastGiven]) (fun a _ => a.ofJson_toJson) ⟨_, rfl⟩

namespace Condition

theorem Status.variant_word (s : Status) : variant Status.known (.str s.word) = .ok s := by
  cases s <;> rfl

theorem ofJson_toJson {c : Condition} (h : c.since.Legible) : ofJson c.toJson = .ok c := by
  obtain ⟨kind, status, reason, message, since⟩ := c
  refine record_written (Reading.gives_ok _ |>.and ?kind |>.and ?status |>.and ?reason |>.and ?message |>.and ?since)
  case kind => exact required_written .str (by simp [lastGiven]) rfl
  case status => exact required_written (fun s => .str s.word) (by simp [lastGiven]) status.variant_word
  case reason => exact required_written .str (by simp [lastGiven]) rfl
  case message => exact required_written .str (by simp [lastGiven]) rfl
  case since => exact required_written Stamp.toJson (by simp [lastGiven]) (Stamp.ofJson_toJson h)

end Condition

/-! ### Jobs -/

namespace Job

theorem VolumeOutput.ofJson_toJson (o : VolumeOutput) : ofJson o.toJson = .ok o := by
  obtain ⟨claimName, path⟩ := o
  refine record_written (Reading.gives_ok _ |>.and ?claimName |>.and ?path)
  case claimName => exact required_written .str (by simp [lastGiven]) rfl
  case path => exact optional_written .str (by simp [lastGiven]) (fun _ _ => rfl) ⟨_, rfl⟩

theorem CollectorOutput.ofJson_toJson (o : CollectorOutput) : ofJson o.toJson = .ok o := by
  obtain ⟨endpoint⟩ := o
  refine record_written (Reading.gives_ok _ |>.and ?endpoint)
  case endpoint => exact required_written .str (by simp [lastGiven]) rfl

theorem OutputMode.variant_word (m : OutputMode) : variant OutputMode.known (.str m.word) = .ok m := by
  cases m <;> rfl

theorem Output.ofJson_toJson (o : Output) : ofJson o.toJson = .ok o := by
  obtain ⟨mode, volume, collector⟩ := o
  refine record_written (Reading.gives_ok _ |>.and ?mode |>.and ?volume |>.and ?collector)
  case mode => exact defaulted_written (fun m => .str m.word) (by simp [lastGiven]) mode.variant_word
  case volume => exact optional_written _ (by simp [lastGiven]) (fun v _ => v.ofJson_toJson) ⟨_, rfl⟩
  case collector => exact optional_written _ (by simp [lastGiven]) (fun c _ => c.ofJson_toJson) ⟨_, rfl⟩

theorem Targets.ofJson_toJson (t : Targets) : ofJson t.toJson = .ok t := by
  obtain ⟨selector, container⟩ := t
  refine record_written (Reading.gives_ok _ |>.and ?selector |>.and ?container)
  case selector => exact optional_written _ (by simp [lastGiven]) (fun s _ => s.ofJson_toJson) ⟨_, rfl⟩
  case container => exact optional_written .str (by simp [lastGiven]) (fun _ _ => rfl) ⟨_, rfl⟩

theorem ToolRequest.ofJson_toJson (t : ToolRequest) : ofJson t.toJson = .ok t := by
  obtain ⟨name, duration, args, resources⟩ := t
  refine record_written (Reading.gives_ok _ |>.and ?name |>.and ?duration |>.and ?args |>.and ?resources)
  case name => exact required_written .str (by simp [lastGiven]) rfl
  case duration => exact required_written .str (by simp [lastGiven]) rfl
  case args => exact optional_written _ (by simp [lastGiven]) (fun l _ => list_strings l) ⟨_, rfl⟩
  case resources => exact optional_written _ (by simp [lastGiven]) (fun r _ => r.ofJson_toJson) ⟨_, rfl⟩

theorem Spec.ofJson_toJson (s : Spec) : ofJson s.toJson = .ok s := by
  obtain ⟨targets, tool, output⟩ := s
  refine record_written (Reading.gives_ok _ |>.and ?targets |>.and ?tool |>.and ?output)
  case targets => exact required_written _ (by simp [lastGiven]) targets.ofJson_toJson
  case tool => exact required_written _ (by simp [lastGiven]) tool.ofJson_toJson
  case output => exact defaulted_written _ (by simp [lastGiven]) output.ofJson_toJson

theorem Phase.variant_word (p : Phase) : variant Phase.known (.str p.word) = .ok p := by
  cases p <;> rfl

theorem Status.ofJson_toJson {s : Status} (h : s.Legible) : ofJson s.toJson = .ok s := by
  obtain ⟨hselected, hcompleted, hconditions, hstarted, hfinished⟩ := h
  obtain ⟨phase, selectedPods, completedPods, activePods, conditions, startedAt, finishedAt, lastError⟩ := s
  refine record_written (Reading.gives_ok _ |>.and ?phase |>.and ?selectedPods |>.and ?completedPods |>.and ?activePods
    |>.and ?conditions |>.and ?startedAt |>.and ?finishedAt |>.and ?lastError)
  case phase =>
    exact optional_written (fun p => .str p.word) (by simp [lastGiven]) (fun p _ => p.variant_word) ⟨_, rfl⟩
  case selectedPods => exact defaulted_written Json.nat (by simp [lastGiven]) (word32_nat hselected)
  case completedPods => exact defaulted_written Json.nat (by simp [lastGiven]) (word32_nat hcompleted)
  case activePods => exact map_written (by simp [lastGiven])
  case conditions =>
    exact list_written _ (by simp [lastGiven]) fun c hc => Condition.ofJson_toJson (hconditions c hc)
  case startedAt =>
    exact optional_written _ (by simp [lastGiven]) (fun t ht => Stamp.ofJson_toJson (hstarted t ht)) ⟨_, rfl⟩
  case finishedAt =>
    exact optional_written _ (by simp [lastGiven]) (fun t ht => Stamp.ofJson_toJson (hfinished t ht)) ⟨_, rfl⟩
  case lastError => exact optional_written .str (by simp [lastGiven]) (fun _ _ => rfl) ⟨_, rfl⟩

end Job

/-! ### Registered tools -/

namespace Tool

theorem Capabilities.ofJson_toJson (c : Capabilities) : ofJson c.toJson = .ok c := by
  obtain ⟨add, drop⟩ := c
  refine record_written (Reading.gives_ok _ |>.and ?add |>.and ?drop)
  case add => exact list_written .str (by simp [lastGiven]) fun _ _ => rfl
  case drop => exact list_written .str (by simp [lastGiven]) fun _ _ => rfl

theorem Policy.ofJson_toJson (p : Policy) : ofJson p.toJson = .ok p := by
  obtain ⟨privileged, hostPid, capabilities, runAsRoot⟩ := p
  refine record_written (Reading.gives_ok _ |>.and ?privileged |>.and ?hostPid |>.and ?capabilities |>.and ?runAsRoot)
  case privileged => exact optional_written .bool (by simp [lastGiven]) (fun _ _ => rfl) ⟨_, rfl⟩
  case hostPid => exact optional_written .bool (by simp [lastGiven]) (fun _ _ => rfl) ⟨_, rfl⟩
  case capabilities => exact optional_written _ (by simp [lastGiven]) (fun c _ => c.ofJson_toJson) ⟨_, rfl⟩
  case runAsRoot => exact optional_written .bool (by simp [lastGiven]) (fun _ _ => rfl) ⟨_, rfl⟩

theorem Spec.ofJson_toJson (s : Spec) : ofJson s.toJson = .ok s := by
  obtain ⟨name, image, policy, allowedNamespaces, description, version, defaultArgs, resources⟩ := s
  refine record_written (Reading.gives_ok _ |>.and ?name |>.and ?image |>.and ?policy |>.and ?allowedNamespaces
    |>.and ?description |>.and ?version |>.and ?defaultArgs |>.and ?resources)
  case name => exact required_written .str (by simp [lastGiven]) rfl
  case image => exact required_written .str (by simp [lastGiven]) rfl
  case policy => exact defaulted_written _ (by simp [lastGiven]) policy.ofJson_toJson
  case allowedNamespaces => exact list_written .str (by simp [lastGiven]) fun _ _ => rfl
  case description => exact optional_written .str (by simp [lastGiven]) (fun _ _ => rfl) ⟨_, rfl⟩
  case version => exact optional_written .str (by simp [lastGiven]) (fun _ _ => rfl) ⟨_, rfl⟩
  case defaultArgs => exact list_written .str (by simp [lastGiven]) fun _ _ => rfl
  case resources => exact optional_written _ (by simp [lastGiven]) (fun r _ => r.ofJson_toJson) ⟨_, rfl⟩

theorem Phase.variant_word (p : Phase) : variant Phase.known (.str p.word) = .ok p := by
  cases p <;> rfl

theorem Status.ofJson_toJson {s : Status} (h : s.Legible) : ofJson s.toJson = .ok s := by
  obtain ⟨hvalidated, hconditions⟩ := h
  obtain ⟨phase, lastValidated, conditions⟩ := s
  refine record_written (Reading.gives_ok _ |>.and ?phase |>.and ?lastValidated |>.and ?conditions)
  case phase =>
    exact optional_written (fun p => .str p.word) (by simp [lastGiven]) (fun p _ => p.variant_word) ⟨_, rfl⟩
  case lastValidated =>
    exact optional_written _ (by simp [lastGiven]) (fun t ht => Stamp.ofJson_toJson (hvalidated t ht)) ⟨_, rfl⟩
  case conditions =>
    exact list_written _ (by simp [lastGiven]) fun c hc => Condition.ofJson_toJson (hconditions c hc)

end Tool

/-! ### Plain documents -/

namespace Json

theorem sorted_members (fields : List (String × Option Json)) :
    (Json.members fields).Pairwise fun a b => a.1 < b.1 := by
  unfold Json.members
  generalize hstart : ([] : List (String × Json)) = l
  have hl : l.Pairwise fun a b => a.1 < b.1 := hstart ▸ .nil
  clear hstart
  induction fields generalizing l with
  | nil => exact hl
  | cons f fields ih =>
    rw [List.foldl_cons]
    refine ih _ ?_
    cases f.2 with
    | none => exact hl
    | some v => exact StringMap.place_sorted f.1 v hl

theorem given_of_lastGiven {k : String} {start : Option Json} {fields : List (String × Option Json)} {v : Json}
    (h : lastGiven k start fields = some v) : start = some v ∨ ∃ f ∈ fields, f.2 = some v := by
  induction fields generalizing start with
  | nil => exact .inl h
  | cons f fields ih =>
    rw [lastGiven] at h
    obtain hstart | ⟨g, hg, hgiven⟩ := ih h
    · split at hstart
      · obtain hgiven | ⟨-, hstart⟩ := Option.or_eq_some_iff.1 hstart
        · exact .inr ⟨f, List.mem_cons_self, hgiven⟩
        · exact .inl hstart
      · exact .inl hstart
    · exact .inr ⟨g, List.mem_cons_of_mem _ hg, hgiven⟩

theorem given_of_mem_members {fields : List (String × Option Json)} {m : String × Json} (h : m ∈ Json.members fields) :
    ∃ f ∈ fields, f.2 = some m.2 := by
  have hfind := StringMap.find_of_mem (sorted_members fields) h
  exact (given_of_lastGiven ((member?_object m.1 fields).symm.trans hfind)).resolve_left nofun

/-- A member that is plain if it is there. -/
def PlainMember (d : Nat) (o : Option Json) : Prop :=
  ∀ j ∈ o, Plain d j

/-- An object whose members are plain. -/
theorem Plain.object {d : Nat} {fields : List (String × Option Json)} (h : ∀ f ∈ fields, PlainMember d f.2) :
    Plain (d + 1) (Json.object fields) := by
  refine .obj (sorted_members fields) fun m hm => ?_
  obtain ⟨f, hf, hgiven⟩ := given_of_mem_members hm
  exact h f hf m.2 hgiven

theorem Plain.list {α : Type} {d : Nat} {write : α → Json} {l : List α} (h : ∀ a ∈ l, Plain d (write a)) :
    Plain (d + 1) (Json.list write l) := by
  refine .arr fun x hx => ?_
  obtain ⟨a, ha, rfl⟩ := List.mem_map.1 hx
  exact h a ha

@[simp] theorem plain_bool (d : Nat) (b : Bool) : Plain d (.bool b) :=
  .bool b

@[simp] theorem plain_str (d : Nat) (s : String) : Plain d (.str s) :=
  .str s

theorem plain_nat {d n : Nat} (h : n < 2 ^ 32) : Plain d (.nat n) :=
  .whole (by omega) (by omega)

@[simp] theorem plain_stamp (d : Nat) (t : Stamp) : Plain d t.toJson :=
  .str t.text

@[simp] theorem plain_strings (d : Nat) (l : List String) : Plain (d + 1) (Json.strings l) :=
  .list fun s _ => .str s

@[simp] theorem plain_stringMap (d : Nat) (m : StringMap String) : Plain (d + 1) (Json.stringMap m) := by
  refine .obj (m.map Json.str).sorted fun e he => ?_
  obtain ⟨e', -, rfl⟩ := List.mem_map.1 he
  exact .str e'.2

@[simp] theorem plainMember_some {d : Nat} {j : Json} : PlainMember d (some j) ↔ Plain d j := by
  simp [PlainMember]

@[simp] theorem plainMember_map {α : Type} {d : Nat} {write : α → Json} {o : Option α} :
    PlainMember d (o.map write) ↔ ∀ a ∈ o, Plain d (write a) := by
  simp [PlainMember]

@[simp] theorem plainMember_ite {d : Nat} {p : Prop} [Decidable p] {j : Json} (h : Plain d j) :
    PlainMember d (if p then none else some j) := by
  split <;> simp [PlainMember, h]

@[simp] theorem plainMember_nonEmpty {α : Type} {d : Nat} {write : α → Json} {l : List α}
    (h : ∀ a ∈ l, Plain d (write a)) : PlainMember (d + 1) (Json.nonEmpty write l) :=
  plainMember_ite (.list h)

end Json

theorem Amounts.plain (d : Nat) (a : Amounts) : Plain (d + 1) a.toJson :=
  .object (by simp)

theorem Resources.plain (d : Nat) (r : Resources) : Plain (d + 2) r.toJson :=
  .object (by simp [Amounts.plain])

theorem Selector.Expression.plain (d : Nat) (e : Selector.Expression) : Plain (d + 2) e.toJson :=
  .object (by simp)

theorem Selector.plain (d : Nat) (s : Selector) : Plain (d + 4) s.toJson := by
  have hexpressions : Plain (d + 3) (.arr (s.matchExpressions.map Expression.toJson)) := .list fun e _ => e.plain d
  exact .object (by simp [hexpressions])

theorem Condition.plain (d : Nat) (c : Condition) : Plain (d + 1) c.toJson :=
  .object (by simp)

namespace Job

theorem VolumeOutput.plain (d : Nat) (o : VolumeOutput) : Plain (d + 1) o.toJson :=
  .object (by simp)

theorem CollectorOutput.plain (d : Nat) (o : CollectorOutput) : Plain (d + 1) o.toJson :=
  .object (by simp)

theorem Output.plain (d : Nat) (o : Output) : Plain (d + 2) o.toJson :=
  .object (by simp [VolumeOutput.plain, CollectorOutput.plain])

theorem Targets.plain (d : Nat) (t : Targets) : Plain (d + 5) t.toJson :=
  .object (by simp [Selector.plain])

theorem ToolRequest.plain (d : Nat) (t : ToolRequest) : Plain (d + 3) t.toJson :=
  .object (by simp [Resources.plain])

theorem Spec.plain (d : Nat) (s : Spec) : Plain (d + 6) s.toJson :=
  .object (by simp [Targets.plain, ToolRequest.plain, Output.plain])

theorem Status.plain {s : Status} (d : Nat) (h : s.Legible) : Plain (d + 3) s.toJson :=
  .object (by simp [plain_nat h.selected, plain_nat h.completed, Condition.plain])

end Job

namespace Tool

theorem Capabilities.plain (d : Nat) (c : Capabilities) : Plain (d + 2) c.toJson :=
  .object (by simp)

theorem Policy.plain (d : Nat) (p : Policy) : Plain (d + 3) p.toJson :=
  .object (by simp [Capabilities.plain])

theorem Spec.plain (d : Nat) (s : Spec) : Plain (d + 4) s.toJson :=
  .object (by simp [Policy.plain, Resources.plain])

theorem Status.plain (d : Nat) (s : Status) : Plain (d + 3) s.toJson :=
  .object (by simp [Condition.plain])

end Tool

/-! ### Documents -/

theorem roundTrips_of_plain {α : Type} {write : α → Json} {read : Reader α} {a : α} (hread : read (write a) = .ok a)
    (hplain : Plain maxDepth (write a)) : RoundTrips write read a := by
  refine ⟨hread, ?_⟩
  rw [Client.readText, parse_render hplain]
  simp only [hread]

/-- A section that is read back is told apart from every other. -/
theorem tells_of_written {α : Type} {j : Json} {name : String} {o : Option α} {bare : α} {write : α → Json}
    {read : Reader α} (hmember : j.member? name = o.map write) (hread : ∀ a, read (write a) = .ok a) :
    j.Tells name o bare (write bare) := by
  have hinjective : ∀ a, write a = write bare → a = bare := by
    intro a ha
    have hsame := congrArg read ha
    rw [hread, hread] at hsame
    exact Except.ok.inj hsame
  unfold Tells
  rw [hmember]
  refine ⟨Option.map_eq_none_iff, ?_⟩
  cases o with
  | none => simp
  | some a => simpa using ⟨hinjective a, congrArg write⟩

/-- Every specification and every status is read back from what is written of it.  A section that is not there is
never taken for one in which there is nothing. -/
theorem documents_round_trip :
    (∀ s : Job.Spec, RoundTrips Job.Spec.toJson Job.Spec.ofJson s) ∧
    (∀ s : Job.Status, s.Legible → RoundTrips Job.Status.toJson Job.Status.ofJson s) ∧
    (∀ s : Tool.Spec, RoundTrips Tool.Spec.toJson Tool.Spec.ofJson s) ∧
    (∀ s : Tool.Status, s.Legible → RoundTrips Tool.Status.toJson Tool.Status.ofJson s) ∧
    (∀ t : Job.Targets, t.toJson.Tells "labelSelector" t.selector ⟨.empty, []⟩ (.obj [])) ∧
    (∀ t : Job.ToolRequest, t.toJson.Tells "args" t.args [] (.arr []) ∧
      t.toJson.Tells "resources" t.resources .none (.obj [])) ∧
    (∀ r : Resources, r.toJson.Tells "requests" r.requests .none (.obj []) ∧
      r.toJson.Tells "limits" r.limits .none (.obj [])) ∧
    (∀ p : Tool.Policy, p.toJson.Tells "capabilities" p.capabilities ⟨[], []⟩ (.obj [])) ∧
    ∀ t : Tool.Spec, t.toJson.Tells "resources" t.resources .none (.obj []) := by
  have htargets (t : Job.Targets) : t.toJson.member? "labelSelector" = t.selector.map Selector.toJson := by
    simp [Job.Targets.toJson, member?_object, lastGiven]
  have hrequest (t : Job.ToolRequest) : t.toJson.member? "args" = t.args.map Json.strings ∧
      t.toJson.member? "resources" = t.resources.map Resources.toJson := by
    simp [Job.ToolRequest.toJson, member?_object, lastGiven]
  have hresources (r : Resources) : r.toJson.member? "requests" = r.requests.map Amounts.toJson ∧
      r.toJson.member? "limits" = r.limits.map Amounts.toJson := by
    simp [Resources.toJson, member?_object, lastGiven]
  have hpolicy (p : Tool.Policy) :
      p.toJson.member? "capabilities" = p.capabilities.map Tool.Capabilities.toJson := by
    simp [Tool.Policy.toJson, member?_object, lastGiven]
  have htool (t : Tool.Spec) : t.toJson.member? "resources" = t.resources.map Resources.toJson := by
    simp [Tool.Spec.toJson, member?_object, lastGiven]
  refine ⟨fun s => ?_, fun s h => ?_, fun s => ?_, fun s h => ?_, fun t => ?_, fun t => ⟨?_, ?_⟩, fun r => ⟨?_, ?_⟩,
    fun p => ?_, fun t => ?_⟩
  -- no document nests deeper than six levels
  · exact roundTrips_of_plain s.ofJson_toJson (s.plain 121)
  · exact roundTrips_of_plain (Job.Status.ofJson_toJson h) (Job.Status.plain 124 h)
  · exact roundTrips_of_plain s.ofJson_toJson (s.plain 123)
  · exact roundTrips_of_plain (Tool.Status.ofJson_toJson h) (s.plain 124)
  · exact tells_of_written (htargets t) Selector.ofJson_toJson
  · exact tells_of_written (hrequest t).1 list_strings
  · exact tells_of_written (hrequest t).2 Resources.ofJson_toJson
  · exact tells_of_written (hresources r).1 Amounts.ofJson_toJson
  · exact tells_of_written (hresources r).2 Amounts.ofJson_toJson
  · exact tells_of_written (hpolicy p) Tool.Capabilities.ofJson_toJson
  · exact tells_of_written (htool t) Resources.ofJson_toJson

/-- A moment half a second into a year. -/
def Sample.started : Stamp := ⟨1704067200, 500000000⟩

/-- The status of a job that goes on with one of two pods. -/
def Sample.running : Job.Status :=
  ⟨some .running, 2, 1, .ofList [("cart", "powertool-trace-7f9c0000")],
    [⟨"Running", .holds, "Running", "Running on 2 pods", Sample.started⟩], some Sample.started, none,
    some "pod \"till\" has no containers\n"⟩

/-- The status of a running job and that of a valid entry are read back, and a selector of every pod is written. -/
theorem running_status_round_trips :
    RoundTrips Job.Status.toJson Job.Status.ofJson Sample.running ∧
    RoundTrips Tool.Status.toJson Tool.Status.ofJson ⟨some .ready, some Sample.started, []⟩ ∧
    (Job.Targets.mk (some ⟨.empty, []⟩) none).toJson.member? "labelSelector" = some (.obj []) := by
  obtain ⟨-, hjob, -, htool, htargets, -⟩ := documents_round_trip
  have hstarted : Sample.started.Legible := rfl
  have hconditions : ∀ c ∈ Sample.running.conditions, c.since.Legible := by
    simpa [Sample.running] using hstarted
  refine ⟨hjob _ ⟨by decide, by decide, hconditions, by rintro t ⟨⟩; exact hstarted, nofun⟩,
    htool _ ⟨by rintro t ⟨⟩; exact hstarted, by simp⟩, ?_⟩
  exact (htargets ⟨some ⟨.empty, []⟩, none⟩).2.2 rfl

end ProfilingOperator
