/-!
# Maps with text keys, in key order

Labels, claims and selectors are maps from text to a value whose keys are visited in ascending order.  A map is
its list of entries together with the fact that the keys strictly ascend, so equal maps are equal values.

    get?_insert_self : (m.insert k v).get? k = some v
    get?_insert_of_ne : j ≠ k → (m.insert k v).get? j = m.get? j
    mem_entries_iff : (k, v) ∈ m.entries ↔ m.get? k = some v
    ext_get? : (∀ k, m.get? k = n.get? k) → m = n
-/

namespace ProfilingOperator

/-- A map from text to `α`, kept as entries with strictly ascending keys. -/
@[ext]
structure StringMap (α : Type) where
  /-- The entries, in key order. -/
  entries : List (String × α)
  /-- The keys strictly ascend. -/
  sorted : entries.Pairwise fun a b => a.1 < b.1

namespace StringMap

/-! ## Algorithm -/

/-- Puts an entry in its place in a list with ascending keys, over one of the same key. -/
def place {α : Type} (k : String) (v : α) : List (String × α) → List (String × α)
  | [] => [(k, v)]
  | e :: r => if k < e.1 then (k, v) :: e :: r else if k = e.1 then (k, v) :: r else e :: place k v r

/-- The value at a key in a list of entries: that of the first entry of the key. -/
def find {α : Type} (k : String) : List (String × α) → Option α
  | [] => none
  | e :: r => if k = e.1 then some e.2 else find k r

/-! ## Order -/

/-- Of two texts, neither of which is the smaller, both are the same. -/
theorem lt_of_not_lt_of_ne {a b : String} (h : ¬ a < b) (hne : a ≠ b) : b < a := by
  apply Classical.byContradiction
  intro h'
  exact hne (String.le_antisymm (String.not_lt.1 h') (String.not_lt.1 h))

theorem mem_place {α : Type} {k : String} {v : α} {l : List (String × α)} {e : String × α}
    (h : e ∈ place k v l) : e = (k, v) ∨ e ∈ l := by
  induction l with
  | nil => simpa [place] using h
  | cons a r ih =>
    rw [place] at h
    split at h
    · rcases List.mem_cons.1 h with h | h
      · exact .inl h
      · exact .inr h
    · split at h
      · rcases List.mem_cons.1 h with h | h
        · exact .inl h
        · exact .inr (List.mem_cons_of_mem _ h)
      · rcases List.mem_cons.1 h with h | h
        · exact .inr (h ▸ List.mem_cons_self)
        · exact (ih h).imp id (List.mem_cons_of_mem _)

theorem place_sorted {α : Type} (k : String) (v : α) {l : List (String × α)}
    (h : l.Pairwise fun a b => a.1 < b.1) : (place k v l).Pairwise fun a b => a.1 < b.1 := by
  induction l with
  | nil => simp [place]
  | cons a r ih =>
    obtain ⟨ha, hr⟩ := List.pairwise_cons.1 h
    rw [place]
    split
    · next hlt =>
      refine List.pairwise_cons.2 ⟨fun e he => ?_, h⟩
      rcases List.mem_cons.1 he with rfl | he
      · exact hlt
      · exact String.lt_trans hlt (ha e he)
    · next hnlt =>
      split
      · next heq => exact List.pairwise_cons.2 ⟨fun e he => heq ▸ ha e he, hr⟩
      · next hne =>
        refine List.pairwise_cons.2 ⟨fun e he => ?_, ih hr⟩
        rcases mem_place he with rfl | he
        · exact lt_of_not_lt_of_ne hnlt hne
        · exact ha e he

/-! ## Operations -/

def empty {α : Type} : StringMap α := ⟨[], .nil⟩

def insert {α : Type} (m : StringMap α) (k : String) (v : α) : StringMap α :=
  ⟨place k v m.entries, place_sorted k v m.sorted⟩

def get? {α : Type} (m : StringMap α) (k : String) : Option α :=
  find k m.entries

/-- The map of a list of entries; of two entries with one key the later stands. -/
def ofList {α : Type} (l : List (String × α)) : StringMap α :=
  l.foldl (fun m e => m.insert e.1 e.2) empty

def keys {α : Type} (m : StringMap α) : List String :=
  m.entries.map (·.1)

def size {α : Type} (m : StringMap α) : Nat :=
  m.entries.length

def isEmpty {α : Type} (m : StringMap α) : Bool :=
  m.entries.isEmpty

/-- The map with each value replaced by its image. -/
def map {α β : Type} (f : α → β) (m : StringMap α) : StringMap β :=
  ⟨m.entries.map fun e => (e.1, f e.2), List.pairwise_map.2 m.sorted⟩

instance {α : Type} : Inhabited (StringMap α) := ⟨empty⟩

instance {α : Type} [DecidableEq α] : DecidableEq (StringMap α) := fun m n =>
  if h : m.entries = n.entries then isTrue (StringMap.ext h)
  else isFalse fun he => h (congrArg entries he)

/-! ## Lemmas -/

theorem find_place_self {α : Type} (k : String) (v : α) (l : List (String × α)) :
    find k (place k v l) = some v := by
  induction l with
  | nil => simp [place, find]
  | cons a r ih =>
    rw [place]
    split
    · simp [find]
    · split
      · simp [find]
      · next hne => simp [find, hne, ih]

theorem find_place_of_ne {α : Type} {j k : String} (v : α) (l : List (String × α)) (h : j ≠ k) :
    find j (place k v l) = find j l := by
  induction l with
  | nil => simp [place, find, h]
  | cons a r ih =>
    rw [place]
    split
    · simp [find, h]
    · split
      · next heq => simp [find, h, ← heq]
      · simp [find, ih]

@[simp] theorem get?_empty {α : Type} (k : String) : (empty : StringMap α).get? k = none := rfl

@[simp] theorem get?_insert_self {α : Type} (m : StringMap α) (k : String) (v : α) :
    (m.insert k v).get? k = some v :=
  find_place_self k v m.entries

theorem get?_insert_of_ne {α : Type} (m : StringMap α) {j k : String} (v : α) (h : j ≠ k) :
    (m.insert k v).get? j = m.get? j :=
  find_place_of_ne v m.entries h

theorem get?_insert {α : Type} (m : StringMap α) (j k : String) (v : α) :
    (m.insert k v).get? j = if j = k then some v else m.get? j := by
  split
  · next h => rw [h, get?_insert_self]
  · next h => exact get?_insert_of_ne m v h

theorem length_place_le {α : Type} (k : String) (v : α) (l : List (String × α)) :
    (place k v l).length ≤ l.length + 1 := by
  induction l with
  | nil => exact Nat.le_refl 1
  | cons a r ih =>
    rw [place]
    split
    · exact Nat.le_refl _
    · split
      · exact Nat.le_succ _
      · exact Nat.succ_le_succ ih

theorem size_insert_le {α : Type} (m : StringMap α) (k : String) (v : α) : (m.insert k v).size ≤ m.size + 1 :=
  length_place_le k v m.entries

theorem size_pos_iff {α : Type} {m : StringMap α} : 0 < m.size ↔ m ≠ .empty := by
  constructor
  · rintro h rfl
    exact absurd h (Nat.lt_irrefl 0)
  · exact fun h => List.length_pos_iff.2 fun hnil => h (StringMap.ext hnil)

theorem mem_of_find {α : Type} {k : String} {v : α} {l : List (String × α)} (h : find k l = some v) :
    (k, v) ∈ l := by
  induction l with
  | nil => simp [find] at h
  | cons a r ih =>
    rw [find] at h
    split at h
    · next hk =>
      have hv : a.2 = v := Option.some.inj h
      have ha : a = (k, v) := by rw [← hv, hk]
      exact ha ▸ List.mem_cons_self
    · exact List.mem_cons_of_mem _ (ih h)

theorem find_of_mem {α : Type} {k : String} {v : α} {l : List (String × α)}
    (hs : l.Pairwise fun a b => a.1 < b.1) (h : (k, v) ∈ l) : find k l = some v := by
  induction l with
  | nil => simp at h
  | cons a r ih =>
    obtain ⟨ha, hr⟩ := List.pairwise_cons.1 hs
    rw [find]
    rcases List.mem_cons.1 h with rfl | h
    · simp
    · have hlt := ha _ h
      have hne : k ≠ a.1 := fun he => String.lt_irrefl _ (he ▸ hlt)
      rw [if_neg hne, ih hr h]

theorem mem_entries_iff {α : Type} {m : StringMap α} {k : String} {v : α} :
    (k, v) ∈ m.entries ↔ m.get? k = some v :=
  ⟨find_of_mem m.sorted, mem_of_find⟩

theorem mem_keys_iff {α : Type} {m : StringMap α} {k : String} :
    k ∈ m.keys ↔ (m.get? k).isSome = true := by
  constructor
  · intro h
    obtain ⟨e, he, rfl⟩ := List.mem_map.1 h
    rw [mem_entries_iff.1 (show (e.1, e.2) ∈ m.entries from he)]
    rfl
  · intro h
    obtain ⟨v, hv⟩ := Option.isSome_iff_exists.1 h
    exact List.mem_map.2 ⟨(k, v), mem_entries_iff.2 hv, rfl⟩

/-- Two lists with strictly ascending keys and the same entries are equal. -/
theorem eq_of_sorted_of_mem {α : Type} {l r : List (String × α)}
    (hl : l.Pairwise fun a b => a.1 < b.1) (hr : r.Pairwise fun a b => a.1 < b.1)
    (h : ∀ e, e ∈ l ↔ e ∈ r) : l = r := by
  induction l generalizing r with
  | nil =>
    cases r with
    | nil => rfl
    | cons b s => exact absurd ((h b).2 List.mem_cons_self) (by simp)
  | cons a l ih =>
    cases r with
    | nil => exact absurd ((h a).1 List.mem_cons_self) (by simp)
    | cons b r =>
      obtain ⟨ha, hl'⟩ := List.pairwise_cons.1 hl
      obtain ⟨hb, hr'⟩ := List.pairwise_cons.1 hr
      have hab : a = b := by
        rcases List.mem_cons.1 ((h a).1 List.mem_cons_self) with he | he
        · exact he
        · rcases List.mem_cons.1 ((h b).2 List.mem_cons_self) with he' | he'
          · exact he'.symm
          · exact absurd (String.lt_trans (hb a he) (ha b he')) (String.lt_irrefl _)
      subst hab
      have hrest : ∀ e, e ∈ l ↔ e ∈ r := by
        intro e
        constructor
        · intro he
          rcases List.mem_cons.1 ((h e).1 (List.mem_cons_of_mem _ he)) with rfl | he'
          · exact absurd (ha _ he) (String.lt_irrefl _)
          · exact he'
        · intro he
          rcases List.mem_cons.1 ((h e).2 (List.mem_cons_of_mem _ he)) with rfl | he'
          · exact absurd (hb _ he) (String.lt_irrefl _)
          · exact he'
      rw [ih hl' hr' hrest]

/-- A map is determined by what it gives at each key. -/
theorem ext_get? {α : Type} {m n : StringMap α} (h : ∀ k, m.get? k = n.get? k) : m = n := by
  apply StringMap.ext
  apply eq_of_sorted_of_mem m.sorted n.sorted
  intro e
  rw [show e = (e.1, e.2) from rfl, mem_entries_iff, mem_entries_iff, h]

/-- After entries with ascending keys are put in one by one, a key has its entry of the list, or else what it
had before. -/
theorem get?_foldl_insert {α : Type} (l : List (String × α)) (m : StringMap α) (k : String)
    (hl : l.Pairwise fun a b => a.1 < b.1) :
    (l.foldl (fun m e => m.insert e.1 e.2) m).get? k = (find k l).or (m.get? k) := by
  induction l generalizing m with
  | nil => simp [find]
  | cons a r ih =>
    obtain ⟨ha, hr⟩ := List.pairwise_cons.1 hl
    rw [List.foldl_cons, ih _ hr, get?_insert, find]
    split
    · next hk =>
      have : find k r = none := by
        cases hf : find k r with
        | none => rfl
        | some v => exact absurd (hk ▸ ha _ (mem_of_find hf)) (String.lt_irrefl _)
      simp [this]
    · rfl

/-- The map of a map's own entries is that map. -/
@[simp] theorem ofList_entries {α : Type} (m : StringMap α) : ofList m.entries = m := by
  apply ext_get?
  intro k
  rw [ofList, get?_foldl_insert _ _ _ m.sorted, get?_empty, Option.or_none]
  rfl

end StringMap

end ProfilingOperator
