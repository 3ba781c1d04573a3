/-!
# Blank text

The scalars that count as white space when a name or an image reference is checked for being empty:
the Unicode property `White_Space`.
-/

namespace ProfilingOperator.Text

/-- Whether a scalar has the Unicode property `White_Space`. -/
def isBlank (c : Char) : Bool :=
  let n := c.toNat
  (9 ≤ n && n ≤ 13) || n == 32 || n == 133 || n == 160 || n == 5760 || (8192 ≤ n && n ≤ 8202) ||
    n == 8232 || n == 8233 || n == 8239 || n == 8287 || n == 12288

/-- Whether a text holds nothing but white space. -/
def isBlankText (s : String) : Bool :=
  s.toList.all isBlank

/-! ## Lemmas -/

/-- A text is blank exactly when each of its scalars is. -/
theorem isBlankText_iff {s : String} : isBlankText s = true ↔ ∀ c ∈ s.toList, isBlank c = true := by
  simp [isBlankText]

end ProfilingOperator.Text
