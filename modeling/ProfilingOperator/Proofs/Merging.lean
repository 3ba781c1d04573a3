import ProfilingOperator.Client.Calls
import ProfilingOperator.Proofs.Documents

/-!
# Merging a document into another

The status of a registry entry is written by merging a document into the one that is stored.  An object is merged
member by member: a member that is `null` takes out the one of its name, any other is merged into it, and what is not
named stays.  A value that is no object takes the place of what was there.  A member that is left out is therefore not
unset: it keeps its old value.

    find_mergeMembers : what stands under a name after a merge
    mergeMembers_of_covers : members that are no objects and leave out no name of those that were there take their place
    merge_statusPatch : a status that leaves nothing out is stored as it is, and the rest of the entry stays
-/

namespace ProfilingOperator

namespace Json

/-! ## Merging -/

def memberList : Json → List (String × Json)
  | .obj ms => ms
  | _ => []

mutual

/-- A value after another is merged into it. -/
def merge (target : Json) : Json → Json
  | .obj patch => .obj (mergeMembers target.memberList patch)
  | patch => patch

/-- The members of an object after others are merged into them. -/
def mergeMembers (ms : List (String × Json)) : List (String × Json) → List (String × Json)
  | [] => ms
  | m :: patch => mergeMembers (mergeMember ms m) patch

/-- The members of an object after one is merged into them. -/
def mergeMember (ms : List (String × Json)) : String × Json → List (String × Json)
  | (k, .null) => ms.filter fun m => m.1 ≠ k
  | (k, v) => StringMap.place k (merge ((StringMap.find k ms).getD .null) v) ms

end

/-- What stands in the place of a member, if there was one, after a value is merged into it. -/
def mergeAt (old : Option Json) : Json → Option Json
  | .null => none
  | v => some (merge (old.getD .null) v)

/-- A value that takes the place of whatever it is merged into. -/
def IsLeaf (v : Json) : Prop :=
  ∀ old, mergeAt old v = some v

end Json

namespace Tool

/-! ## Statuses -/

/-- The entry with a status in place of its own. -/
def withStatus (t : Tool) (s : Status) : Tool :=
  ⟨t.metadata, t.spec, some s⟩

/-- What is written of the status of an entry; of none there is nothing. -/
def statusJson (t : Tool) : Json :=
  (t.status.map Status.toJson).getD .null

def Status.names : List String :=
  ["phase", "lastValidated", "conditions"]

/-- A status of which nothing is left out when it is written. -/
structure Status.Complete (s : Status) : Prop where
  phase : s.phase.isSome = true
  validated : s.lastValidated.isSome = true
  conditions : s.conditions ≠ []

end Tool

/-! ## Lemmas -/

namespace Json

section
variable {ms patch : List (String × Json)} {k : String}

/-- Members in key order are the same if the same stands under each name. -/
theorem eq_of_find {ns : List (String × Json)} (hms : ms.Pairwise fun a b => a.1 < b.1)
    (hns : ns.Pairwise fun a b => a.1 < b.1) (h : ∀ k, StringMap.find k ms = StringMap.find k ns) : ms = ns := by
  have hsame : (⟨ms, hms⟩ : StringMap Json) = ⟨ns, hns⟩ := StringMap.ext_get? h
  exact congrArg StringMap.entries hsame

theorem find_filter_of_ne {j : String} (h : k ≠ j) (ms : List (String × Json)) :
    StringMap.find k (ms.filter fun m => m.1 ≠ j) = StringMap.find k ms := by
  induction ms with
  | nil => rfl
  | cons m ms ih =>
    by_cases hm : m.1 = j
    · have hk : k ≠ m.1 := fun he => h (he.trans hm)
      rw [List.filter_cons_of_neg (by simpa using hm), ih, StringMap.find, if_neg hk]
    · rw [List.filter_cons_of_pos (by simpa using hm), StringMap.find, StringMap.find, ih]

theorem find_filter_self (k : String) (ms : List (String × Json)) :
    StringMap.find k (ms.filter fun m => m.1 ≠ k) = none := by
  cases h : StringMap.find k (ms.filter fun m => m.1 ≠ k) with
  | none => rfl
  | some v => simpa using (List.mem_filter.1 (StringMap.mem_of_find h)).2

theorem find_mergeMember_self (ms : List (String × Json)) (k : String) (v : Json) :
    StringMap.find k (mergeMember ms (k, v)) = mergeAt (StringMap.find k ms) v := by
  cases v with
  | null => exact find_filter_self k ms
  | _ => exact StringMap.find_place_self k _ ms

theorem find_mergeMember_of_ne {j : String} (h : k ≠ j) (ms : List (String × Json)) (v : Json) :
    StringMap.find k (mergeMember ms (j, v)) = StringMap.find k ms := by
  cases v with
  | null => exact find_filter_of_ne h ms
  | _ => exact StringMap.find_place_of_ne _ ms h

/-- Under a name there stands what is merged into its member, or what stood there if nothing is. -/
theorem find_mergeMembers (h : patch.Pairwise fun a b => a.1 < b.1) (ms : List (String × Json)) (k : String) :
    StringMap.find k (mergeMembers ms patch) =
      (StringMap.find k patch).elim (StringMap.find k ms) (mergeAt (StringMap.find k ms)) := by
  induction patch generalizing ms with
  | nil => rfl
  | cons m rest ih =>
    obtain ⟨j, v⟩ := m
    obtain ⟨hlater, hrest⟩ := List.pairwise_cons.1 h
    rw [mergeMembers, ih hrest, StringMap.find]
    by_cases hk : k = j
    · subst hk
      -- No later member has the name once more.
      have hnone : StringMap.find k rest = none := by
        cases hfind : StringMap.find k rest with
        | none => rfl
        | some w => exact absurd (hlater _ (StringMap.mem_of_find hfind)) (String.lt_irrefl _)
      rw [hnone, if_pos rfl]
      exact find_mergeMember_self ms k v
    · rw [find_mergeMember_of_ne hk, if_neg hk]

theorem sorted_mergeMember (h : ms.Pairwise fun a b => a.1 < b.1) (m : String × Json) :
    (mergeMember ms m).Pairwise fun a b => a.1 < b.1 := by
  obtain ⟨k, v⟩ := m
  cases v with
  | null => exact h.filter _
  | _ => exact StringMap.place_sorted k _ h

theorem sorted_mergeMembers (h : ms.Pairwise fun a b => a.1 < b.1) (patch : List (String × Json)) :
    (mergeMembers ms patch).Pairwise fun a b => a.1 < b.1 := by
  induction patch generalizing ms with
  | nil => exact h
  | cons m rest ih => exact ih (sorted_mergeMember h m)

/-- Leaves that name all the members that were there take their place. -/
theorem mergeMembers_of_covers (hms : ms.Pairwise fun a b => a.1 < b.1) (hpatch : patch.Pairwise fun a b => a.1 < b.1)
    (hleaf : ∀ m ∈ patch, IsLeaf m.2) (hcovers : ∀ k, StringMap.find k patch = none → StringMap.find k ms = none) :
    mergeMembers ms patch = patch := by
  refine eq_of_find (sorted_mergeMembers hms patch) hpatch fun k => ?_
  rw [find_mergeMembers hpatch]
  cases h : StringMap.find k patch with
  | none => exact hcovers k h
  | some v => exact hleaf _ (StringMap.mem_of_find h) _

theorem isLeaf_str (s : String) : IsLeaf (.str s) := fun _ => rfl

theorem isLeaf_arr (xs : List Json) : IsLeaf (.arr xs) := fun _ => rfl

theorem place_place (k : String) (v w : Json) (h : ms.Pairwise fun a b => a.1 < b.1) :
    StringMap.place k v (StringMap.place k w ms) = StringMap.place k v ms := by
  refine eq_of_find (StringMap.place_sorted k v (StringMap.place_sorted k w h)) (StringMap.place_sorted k v h)
    fun j => ?_
  by_cases hj : j = k
  · subst hj
    rw [StringMap.find_place_self, StringMap.find_place_self]
  · rw [StringMap.find_place_of_ne _ _ hj, StringMap.find_place_of_ne _ _ hj, StringMap.find_place_of_ne _ _ hj]

/-- The last of some members is replaced. -/
theorem place_members (k : String) (v : Json) (front : List (String × Option Json)) (o : Option Json) :
    StringMap.place k v (members (front ++ [(k, o)])) = members (front ++ [(k, some v)]) := by
  have hlast (o : Option Json) : members (front ++ [(k, o)]) =
      o.elim (members front) fun w => StringMap.place k w (members front) := by
    unfold members
    rw [List.foldl_append]
    cases o <;> rfl
  rw [hlast o, hlast (some v)]
  cases o with
  | none => rfl
  | some w => exact place_place k v w (sorted_members front)

end

end Json

namespace Tool

/-! ### Statuses -/

theorem sorted_statusJson (t : Tool) : t.statusJson.memberList.Pairwise fun a b => a.1 < b.1 := by
  unfold statusJson
  cases t.status with
  | none => exact .nil
  | some s => exact Json.sorted_members _

theorem Status.isLeaf_of_mem {s : Status} {m : String × Json} (h : m ∈ s.toJson.memberList) : m.2.IsLeaf := by
  obtain ⟨f, hf, hgiven⟩ := Json.given_of_mem_members h
  simp only [List.mem_cons, List.not_mem_nil, or_false] at hf
  rcases hf with rfl | rfl | rfl
  · obtain ⟨p, -, hp⟩ := Option.map_eq_some_iff.1 hgiven
    exact hp ▸ Json.isLeaf_str _
  · obtain ⟨t, -, ht⟩ := Option.map_eq_some_iff.1 hgiven
    exact ht ▸ Json.isLeaf_str _
  · unfold Json.nonEmpty at hgiven
    split at hgiven
    · cases hgiven
    · exact Option.some.inj hgiven ▸ Json.isLeaf_arr _

theorem Status.find_of_not_mem_names (s : Status) {k : String} (h : k ∉ names) :
    StringMap.find k s.toJson.memberList = none := by
  simp only [names, List.mem_cons, List.not_mem_nil, or_false, not_or] at h
  refine (Json.member?_object k _).trans ?_
  simp [Json.lastGiven, h]

/-- Where nothing is left out, every name has its member. -/
theorem Status.Complete.find_ne_none {s : Status} (h : s.Complete) {k : String} (hk : k ∈ names) :
    StringMap.find k s.toJson.memberList ≠ none := by
  obtain ⟨phase, validated, conditions⟩ := s
  obtain ⟨hphase, hvalidated, hconditions⟩ := h
  obtain ⟨p, rfl⟩ := Option.isSome_iff_exists.1 hphase
  obtain ⟨v, rfl⟩ := Option.isSome_iff_exists.1 hvalidated
  obtain ⟨c, rest, rfl⟩ := List.exists_cons_of_ne_nil hconditions
  have hfind := Json.member?_object k [("phase", some (.str p.word)), ("lastValidated", some v.toJson),
    ("conditions", some (Json.list Condition.toJson (c :: rest)))]
  refine fun hnone => ?_
  have hlast := hfind.symm.trans hnone
  simp only [names, List.mem_cons, List.not_mem_nil, or_false] at hk
  rcases hk with rfl | rfl | rfl <;> simp [Json.lastGiven] at hlast

/-- A status of which nothing is left out is stored as it is, whatever the status was that it is merged into. -/
theorem Status.Complete.merge_toJson {s : Status} (h : s.Complete) (t : Tool) :
    t.statusJson.merge s.toJson = s.toJson := by
  have hcovers (k : String) (hk : StringMap.find k s.toJson.memberList = none) :
      StringMap.find k t.statusJson.memberList = none := by
    have hname : k ∉ names := fun hname => h.find_ne_none hname hk
    unfold statusJson
    cases t.status with
    | none => rfl
    | some old => exact old.find_of_not_mem_names hname
  exact congrArg Json.obj (Json.mergeMembers_of_covers (sorted_statusJson t) (Json.sorted_members _)
    (fun m hm => Status.isLeaf_of_mem hm) hcovers)

/-- A status of which nothing is left out is stored as it is, and the rest of the entry stays. -/
theorem merge_statusPatch {s : Status} (h : s.Complete) (t : Tool) :
    t.toJson.merge (Client.statusPatch s) = (t.withStatus s).toJson := by
  have hold : t.toJson.member? "status" = t.status.map Status.toJson := by
    refine (Json.member?_object "status" _).trans ?_
    simp [Json.lastGiven]
  have hmerge : ((t.status.map Status.toJson).getD .null).merge s.toJson = s.toJson := h.merge_toJson t
  have hplace := Json.place_members "status" s.toJson [("apiVersion", some (.str Api.groupVersion)),
    ("kind", some (.str kind)), ("metadata", some t.metadata.toJson), ("spec", some t.spec.toJson)]
    (t.status.map Status.toJson)
  calc t.toJson.merge (Client.statusPatch s)
      = .obj (StringMap.place "status" (((t.toJson.member? "status").getD .null).merge s.toJson)
          t.toJson.memberList) := rfl
    _ = .obj (StringMap.place "status" s.toJson t.toJson.memberList) := by rw [hold, hmerge]
    _ = (t.withStatus s).toJson := congrArg Json.obj hplace

end Tool

end ProfilingOperator
