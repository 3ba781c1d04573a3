/-!
# First elements

A search returns the first element of a list that it accepts.  `First P l a` says what that is without the search: `a`
stands in the list, it has the property, and nothing in front of it has.  A look-up by a key is such a search.

    find?_eq_some_iff_first : l.find? p = some a ↔ First P l a, for a test p of P
    exists_first_iff : (∃ a, First P l a) ↔ ∃ a ∈ l, P a
    lookup_cons_of_ne : a look-up passes over other keys
-/

namespace ProfilingOperator

/-- The first element of a list with a property. -/
def First {α : Type} (P : α → Prop) (l : List α) (a : α) : Prop :=
  ∃ front back, l = front ++ a :: back ∧ P a ∧ ∀ b ∈ front, ¬P b

section
variable {α β : Type} {P : α → Prop} {l : List α} {a : α}

theorem First.mem (h : First P l a) : a ∈ l := by
  obtain ⟨front, back, rfl, -, -⟩ := h
  exact List.mem_append_right _ List.mem_cons_self

theorem First.holds (h : First P l a) : P a := by
  obtain ⟨front, back, -, ha, -⟩ := h
  exact ha

/-- A search finds the first element that its test accepts. -/
theorem find?_eq_some_iff_first {p : α → Bool} (hp : ∀ b, p b = true ↔ P b) :
    l.find? p = some a ↔ First P l a := by
  simp only [List.find?_eq_some_iff_append, Bool.not_eq_true', ← Bool.not_eq_true, hp]
  constructor
  · rintro ⟨ha, front, back, hl, hfront⟩
    exact ⟨front, back, hl, ha, hfront⟩
  · rintro ⟨front, back, hl, ha, hfront⟩
    exact ⟨ha, front, back, hl, hfront⟩

/-- A search for results returns that of the first element that has one. -/
theorem findSome?_eq_some_iff_first {f : α → Option β} {b : β} (hf : ∀ c, f c = none ↔ ¬P c) :
    l.findSome? f = some b ↔ ∃ c, First P l c ∧ f c = some b := by
  rw [List.findSome?_eq_some_iff]
  constructor
  · rintro ⟨front, c, back, hl, hc, hfront⟩
    have hholds : P c := by
      apply Classical.byContradiction
      intro hnot
      rw [(hf c).2 hnot] at hc
      cases hc
    exact ⟨c, ⟨front, back, hl, hholds, fun d hd => (hf d).1 (hfront d hd)⟩, hc⟩
  · rintro ⟨c, ⟨front, back, hl, -, hfront⟩, hc⟩
    exact ⟨front, c, back, hl, hc, fun d hd => (hf d).2 (hfront d hd)⟩

theorem exists_first_iff : (∃ b, First P l b) ↔ ∃ b ∈ l, P b := by
  constructor
  · rintro ⟨b, hb⟩
    exact ⟨b, hb.mem, hb.holds⟩
  · rintro ⟨b, hb, hholds⟩
    classical
    have hsome : (l.find? fun c => P c).isSome = true := List.find?_isSome.2 ⟨b, hb, decide_eq_true hholds⟩
    obtain ⟨c, hc⟩ := Option.isSome_iff_exists.1 hsome
    exact ⟨c, (find?_eq_some_iff_first fun d => by simp).1 hc⟩

theorem lookup_cons_of_ne {key other : String} (h : key ≠ other) (b : β) (l : List (String × β)) :
    ((other, b) :: l).lookup key = l.lookup key := by
  rw [List.lookup_cons, beq_false_of_ne h]

end

end ProfilingOperator
