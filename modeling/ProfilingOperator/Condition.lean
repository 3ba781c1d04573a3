import ProfilingOperator.Stamp.Text

/-!
# Conditions

A condition says whether something holds of a resource, why, and since when.  A resource keeps at most one
condition of a kind: recording one updates the entry of its kind in place, and its stamp moves only when its status
does.

    find?_record_self : find? (record c l) c.kind = the old entry refreshed, or c
    find?_record_of_ne : k ≠ c.kind → find? (record c l) k = find? l k
    record_of_told : find? l c.kind = some ⟨c.kind, c.status, c.reason, c.message, since⟩ → record c l = l
    kinds_record : kinds (record c l) = kinds l, with c.kind added when it was not among them
-/

namespace ProfilingOperator

/-- Whether a condition holds. -/
inductive Condition.Status where
  | holds
  | fails
  | unknown
  deriving DecidableEq, Repr

/-- A condition of a resource. -/
structure Condition where
  /-- What the condition is about. -/
  kind : String
  /-- Whether it holds. -/
  status : Condition.Status
  /-- The reason in one word. -/
  reason : String
  /-- The reason in a sentence. -/
  message : String
  /-- When its status last changed. -/
  since : Stamp
  deriving DecidableEq

namespace Condition

def Status.word : Status → String
  | .holds => "True"
  | .fails => "False"
  | .unknown => "Unknown"

/-! ## Recording -/

/-- An entry after a newer condition of its kind: the stamp moves only with the status. -/
def refreshed (old new : Condition) : Condition :=
  if old.status = new.status then ⟨old.kind, old.status, new.reason, new.message, old.since⟩
  else ⟨old.kind, new.status, new.reason, new.message, new.since⟩

/-- Records a condition: in place of the first entry of its kind, or at the end. -/
def record (c : Condition) : List Condition → List Condition
  | [] => [c]
  | d :: r => if d.kind = c.kind then d.refreshed c :: r else d :: record c r

def find? (l : List Condition) (kind : String) : Option Condition :=
  l.find? fun c => c.kind = kind

def kinds (l : List Condition) : List String :=
  l.map (·.kind)

/-- Whether the condition of a kind is recorded as holding. -/
def stands (l : List Condition) (kind : String) : Bool :=
  (find? l kind).any fun c => c.status = .holds

/-! ## JSON -/

/-- The words of the statuses. -/
def Status.known : List (String × Status) :=
  [("True", .holds), ("False", .fails), ("Unknown", .unknown)]

def toJson (c : Condition) : Json :=
  .object [("type", some (.str c.kind)), ("status", some (.str c.status.word)), ("reason", some (.str c.reason)),
    ("message", some (.str c.message)), ("lastTransitionTime", some c.since.toJson)]

def ofJson : Decode.Reader Condition :=
  Decode.record "Condition" 5 fun s =>
    (Decode.Reading.ok Condition.mk)
      |>.and (s.required 0 "type" Decode.string)
      |>.and (s.required 1 "status" (Decode.variant Status.known))
      |>.and (s.required 2 "reason" Decode.string)
      |>.and (s.required 3 "message" Decode.string)
      |>.and (s.required 4 "lastTransitionTime" Stamp.ofJson)

/-! ## Lemmas -/

@[simp] theorem refreshed_kind (old new : Condition) : (old.refreshed new).kind = old.kind := by
  unfold refreshed
  split <;> rfl

@[simp] theorem refreshed_status (old new : Condition) : (old.refreshed new).status = new.status := by
  unfold refreshed
  split
  · next h => exact h
  · rfl

theorem find?_record_of_ne {c : Condition} {k : String} (h : k ≠ c.kind) (l : List Condition) :
    find? (record c l) k = find? l k := by
  induction l with
  | nil => simp [record, find?, h.symm]
  | cons d r ih =>
    rw [record]
    split
    · next hd =>
      have hk : d.kind ≠ k := fun he => h (he ▸ hd)
      simp [find?, hk]
    · simp only [find?, List.find?_cons] at ih ⊢
      split
      · rfl
      · exact ih

/-- The entry of the recorded kind: the refreshed old one, or the condition itself. -/
theorem find?_record_self (c : Condition) (l : List Condition) :
    find? (record c l) c.kind = some (((find? l c.kind).map fun d => d.refreshed c).getD c) := by
  induction l with
  | nil => simp [record, find?]
  | cons d r ih =>
    rw [record]
    split
    · next hd => simp [find?, hd]
    · next hd =>
      simp only [find?, List.find?_cons, hd, decide_false] at ih ⊢
      exact ih

/-- What was recorded of a kind is found, with the stamp of when its status last changed. -/
theorem find?_record_told (c : Condition) (l : List Condition) :
    ∃ since, find? (record c l) c.kind = some ⟨c.kind, c.status, c.reason, c.message, since⟩ := by
  rw [find?_record_self]
  cases hd : find? l c.kind with
  | none => exact ⟨c.since, rfl⟩
  | some d =>
    have hkind : d.kind = c.kind := by simpa using List.find?_some hd
    simp only [Option.map_some, Option.getD_some, refreshed, hkind]
    split
    · next hsame => exact ⟨d.since, by rw [hsame]⟩
    · exact ⟨c.since, rfl⟩

/-- Recording once more what is recorded already changes nothing, at whatever time. -/
theorem record_of_told {c : Condition} {l : List Condition} {since : Stamp}
    (h : find? l c.kind = some ⟨c.kind, c.status, c.reason, c.message, since⟩) : record c l = l := by
  induction l with
  | nil => cases h
  | cons d r ih =>
    rw [find?, List.find?_cons] at h
    rw [record]
    split at h
    · next hkind =>
      rw [if_pos (of_decide_eq_true hkind), Option.some.inj h, refreshed, if_pos rfl]
    · next hkind =>
      rw [if_neg (of_decide_eq_false hkind), ih h]

/-- The conditions of other kinds stay as they are. -/
theorem filter_record (c : Condition) (l : List Condition) :
    ((record c l).filter fun d => d.kind ≠ c.kind) = l.filter fun d => d.kind ≠ c.kind := by
  induction l with
  | nil => simp [record]
  | cons d r ih =>
    rw [record]
    split
    · next hd => simp [hd]
    · rw [List.filter_cons, List.filter_cons, ih]

/-- Recording keeps the kinds and their order; a new kind comes last. -/
theorem kinds_record (c : Condition) (l : List Condition) :
    kinds (record c l) = if c.kind ∈ kinds l then kinds l else kinds l ++ [c.kind] := by
  induction l with
  | nil => simp [record, kinds]
  | cons d r ih =>
    rw [record]
    split
    · next hd => simp [kinds, hd]
    · next hd =>
      simp only [kinds, List.map_cons, List.mem_cons] at ih ⊢
      rw [ih]
      have hne : ¬ c.kind = d.kind := fun he => hd he.symm
      by_cases hm : c.kind ∈ r.map (·.kind) <;> simp [hne, hm]

/-- The kinds stay distinct. -/
theorem nodup_kinds_record (c : Condition) {l : List Condition} (h : (kinds l).Nodup) :
    (kinds (record c l)).Nodup := by
  rw [kinds_record]
  split
  · exact h
  · next hnew =>
    refine List.nodup_append.2 ⟨h, List.pairwise_singleton _ _, fun a ha b hb => ?_⟩
    rw [List.mem_singleton.1 hb]
    rintro rfl
    exact hnew ha

/-- The recorded kind stands if the condition holds. -/
theorem stands_record_self (c : Condition) (l : List Condition) :
    stands (record c l) c.kind = decide (c.status = .holds) := by
  unfold stands
  rw [find?_record_self]
  cases find? l c.kind <;> simp

theorem stands_of_find?_eq_none {l : List Condition} {kind : String} (h : find? l kind = none) :
    stands l kind = false := by
  rw [stands, h]
  rfl

end Condition

end ProfilingOperator
