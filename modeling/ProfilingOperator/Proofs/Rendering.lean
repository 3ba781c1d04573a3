import Mathlib.Algebra.Group.Int.Defs
import Mathlib.Algebra.Group.Nat.Defs
import Mathlib.Tactic.SplitIfs
import ProfilingOperator.Json.Parser
import ProfilingOperator.Json.Printer

/-!
# Reading JSON text that was written

The reader gives back what the printer wrote.  Decimals are left out here, as no resource of the operator has one.
Whole numbers have to fit into 64 bits, the members of an object have to stand in key order, and values must not nest
deeper than the reader goes.

    Plain d j : a value of this kind that opens at most `d` levels
    parse_render : Plain maxDepth j → parse j.render = .ok j

What is read of a value depends on what follows it only for numbers, which go on as long as there are digits.  So each
reader is shown to stop where the text of its value ends, whatever comes after.
-/

namespace ProfilingOperator.Json

/-- A value whose text is read as itself, of at most `d` levels. -/
inductive Plain : Nat → Json → Prop where
  | null {d : Nat} : Plain d .null
  | bool {d : Nat} (b : Bool) : Plain d (.bool b)
  | whole {d : Nat} {n : Int} (low : -2 ^ 63 ≤ n) (high : n < 2 ^ 64) : Plain d (.num (.whole n))
  | str {d : Nat} (s : String) : Plain d (.str s)
  | arr {d : Nat} {xs : List Json} (elements : ∀ x ∈ xs, Plain d x) : Plain (d + 1) (.arr xs)
  | obj {d : Nat} {ms : List (String × Json)} (sorted : ms.Pairwise fun a b => a.1 < b.1)
      (members : ∀ m ∈ ms, Plain d m.2) : Plain (d + 1) (.obj ms)

/-! ## Lemmas -/

/-! ### Numbers -/

/-- What does not go on with a number. -/
def Ends (rest : List Char) : Prop :=
  ∀ c r, rest = c :: r → c.isDigit = false ∧ c ≠ '.' ∧ c ≠ 'e' ∧ c ≠ 'E'

theorem Ends.dropWhile {rest : List Char} (h : Ends rest) : rest.dropWhile Char.isDigit = rest := by
  cases rest with
  | nil => rfl
  | cons c r => simp [(h c r rfl).1]

/-- Digits are taken up to where they end, as long as the whole number fits. -/
theorem takeDigits_append {ds rest : List Char} {n count : Nat} (hds : ∀ c ∈ ds, c.isDigit = true)
    (hbound : Nat.ofDigitChars 10 ds n < 2 ^ 64) (hrest : Ends rest) :
    takeDigits n count (ds ++ rest) = (Nat.ofDigitChars 10 ds n, count + ds.length, rest) := by
  induction ds generalizing n count with
  | nil =>
    cases rest with
    | nil => rfl
    | cons c r => simp [takeDigits, (hrest c r rfl).1]
  | cons d ds ih =>
    obtain ⟨hd, hds⟩ := List.forall_mem_cons.1 hds
    rw [Nat.ofDigitChars_cons] at hbound ⊢
    -- what is taken so far is no more than what is taken in the end
    have hstep : n * 10 + digitValue d = 10 * n + (d.toNat - '0'.toNat) := by rw [digitValue, Nat.mul_comm]
    have hle : 10 * n + (d.toNat - '0'.toNat) ≤ Nat.ofDigitChars 10 ds (10 * n + (d.toNat - '0'.toNat)) := by
      rw [Nat.ofDigitChars_eq_ofDigitChars_zero]
      exact Nat.le_trans (Nat.le_mul_of_pos_left _ (Nat.pow_pos (by decide))) (Nat.le_add_right _ _)
    rw [List.cons_append, takeDigits, hstep, if_pos ⟨hd, Nat.lt_of_le_of_lt hle hbound⟩, ih hds hbound,
      List.length_cons, Nat.add_assoc, Nat.add_comm 1]

/-- A number has digits. -/
theorem exists_toDigits_eq_cons (n : Nat) :
    ∃ c ds, Nat.toDigits 10 n = c :: ds ∧ c.isDigit = true ∧ ∀ d ∈ ds, d.isDigit = true := by
  obtain ⟨c, ds, hds⟩ := List.exists_cons_of_ne_nil (Nat.toDigits_ne_nil (n := n) (b := 10))
  have hdigits : ∀ d ∈ Nat.toDigits 10 n, d.isDigit = true :=
    fun d => Nat.isDigit_of_mem_toDigits (by decide) (by decide)
  rw [hds] at hdigits
  exact ⟨c, ds, hds, List.forall_mem_cons.1 hdigits⟩

/-- Only zero begins with a zero. -/
theorem toDigits_ne_zero_cons {n : Nat} (hn : 0 < n) (r : List Char) : Nat.toDigits 10 n ≠ '0' :: r := by
  induction n using Nat.base_induction 10 (by decide) generalizing r with
  | single n hlt =>
    rw [Nat.toDigits_of_lt_base hlt]
    have hdigit : ∀ m, m < 10 → 0 < m → m.digitChar ≠ '0' := by decide
    intro heq
    exact hdigit n hlt hn (List.cons.inj heq).1
  | digit n k hk hpos ih =>
    obtain ⟨c, ds, hds, -⟩ := exists_toDigits_eq_cons n
    rw [← Nat.toDigits_append_toDigits (by decide) hpos hk]
    intro heq
    rw [hds, List.cons_append] at heq
    exact ih hpos ds (by rw [hds, (List.cons.inj heq).1])

/-- The digits of a number are read up to where it ends. -/
theorem number_append {n : Nat} {rest : List Char} (negative : Bool) (hn : n < 2 ^ 64) (hrest : Ends rest) :
    number negative (Nat.toDigits 10 n ++ rest) = numberTail negative n 0 rest := by
  obtain rfl | hpos := Nat.eq_zero_or_pos n
  · cases rest with
    | nil => rfl
    | cons c r =>
      simp [number, (hrest c r rfl).1]
  · have hvalue : Nat.ofDigitChars 10 (Nat.toDigits 10 n) 0 = n := Nat.ofDigitChars_ten_toDigits
    obtain ⟨c, ds, htext, hc, hds⟩ := exists_toDigits_eq_cons n
    have hzero : c ≠ '0' := fun hc => toDigits_ne_zero_cons hpos ds (by rw [htext, hc])
    rw [htext] at hvalue ⊢
    rw [Nat.ofDigitChars_cons, Nat.mul_zero, Nat.zero_add] at hvalue
    have htake := @takeDigits_append ds rest _ 0 hds (hvalue.symm ▸ hn) hrest
    rw [List.cons_append, number]
    · rw [if_pos hc]
      simp only [digitValue, htake, hrest.dropWhile, hvalue, Nat.sub_self]
    · exact hzero

theorem numberTail_ends {n : Nat} {rest : List Char} (hrest : Ends rest) :
    numberTail false n 0 rest = .ok (.num (.whole n), rest) := by
  cases rest with
  | nil => rfl
  | cons c r =>
    obtain ⟨-, hpoint, hsmall, hlarge⟩ := hrest c r rfl
    simp [numberTail, hpoint, hsmall, hlarge]

theorem numberTail_negative {n : Nat} {rest : List Char} (hpos : 0 < n) (hle : n ≤ 2 ^ 63) (hrest : Ends rest) :
    numberTail true n 0 rest = .ok (.num (.whole (-n)), rest) := by
  have hn : ¬(n = 0 ∨ UInt64.size / 2 < n) :=
    not_or.2 ⟨Nat.ne_of_gt hpos, Nat.not_lt.2 hle⟩
  have htail : numberTail true n 0 rest =
      if n = 0 ∨ UInt64.size / 2 < n then decimal true n 0 rest else .ok (.num (.whole (-n)), rest) := by
    cases rest with
    | nil => rfl
    | cons c r =>
      obtain ⟨-, hpoint, hsmall, hlarge⟩ := hrest c r rfl
      simp [numberTail, hpoint, hsmall, hlarge]
  rw [htail, if_neg hn]

/-! ### Strings -/

theorem hexValue?_digitChar : ∀ n, n < 16 → hexValue? n.digitChar = some n := by
  decide

/-- A scalar is read from its escape. -/
theorem stringBody_escapeChar (c : Char) (fuel : Nat) (acc r : List Char) :
    stringBody (fuel + 1) acc (escapeChar c ++ r) = stringBody fuel (c :: acc) r := by
  unfold escapeChar
  split_ifs with hquote hslash hb hf hn hr ht hcontrol
  · subst hquote; rfl
  · subst hslash; rfl
  · obtain rfl : c = Char.ofNat 8 := by rw [← hb, Char.ofNat_toNat]
    rfl
  · obtain rfl : c = Char.ofNat 12 := by rw [← hf, Char.ofNat_toNat]
    rfl
  · subst hn; rfl
  · subst hr; rfl
  · subst ht; rfl
  · have hhigh := hexValue?_digitChar (c.toNat / 16) (by omega)
    have hlow := hexValue?_digitChar (c.toNat % 16) (by omega)
    have hquad : hexQuad ('0' :: '0' :: hexPair c.toNat ++ r) = .ok (c.toNat, r) := by
      have hzero : hexValue? '0' = some 0 := by decide
      have hvalue : c.toNat / 16 * 16 + c.toNat % 16 = c.toNat := by omega
      simp [hexQuad, hexPair, hhigh, hlow, hzero, hvalue]
    have hescape : escapeSequence ('u' :: '0' :: '0' :: hexPair c.toNat ++ r) = .ok (c, r) := by
      show numberedEscape ('0' :: '0' :: hexPair c.toNat ++ r) = .ok (c, r)
      have hlone : ¬(0xDC00 ≤ c.toNat ∧ c.toNat ≤ 0xDFFF) := by omega
      rw [numberedEscape, hquad]
      simp only [if_neg hlone]
      rw [if_pos (by omega), Char.ofNat_toNat]
    show stringBody (fuel + 1) acc ('\\' :: ('u' :: '0' :: '0' :: hexPair c.toNat ++ r)) = stringBody fuel (c :: acc) r
    rw [stringBody, if_neg (by decide), if_pos rfl, hescape]
  · simp [stringBody, hquote, hslash, hcontrol]

/-- Each scalar takes one step, so that the steps do not run out before the quote. -/
theorem stringBody_escaped {cs acc rest : List Char} {fuel : Nat} (hfuel : cs.length < fuel) :
    stringBody fuel acc (cs.flatMap escapeChar ++ '"' :: rest) = .ok (String.ofList (acc.reverse ++ cs), rest) := by
  induction cs generalizing fuel acc with
  | nil =>
    obtain ⟨f, rfl⟩ := Nat.exists_eq_add_one_of_ne_zero (Nat.ne_zero_of_lt hfuel)
    simp [stringBody]
  | cons c cs ih =>
    obtain ⟨f, rfl⟩ := Nat.exists_eq_add_one_of_ne_zero (Nat.ne_zero_of_lt hfuel)
    rw [List.flatMap_cons, List.append_assoc, stringBody_escapeChar, ih (Nat.lt_of_succ_lt_succ hfuel)]
    simp

theorem length_le_escaped (cs : List Char) : cs.length ≤ (cs.flatMap escapeChar).length := by
  induction cs with
  | nil => simp
  | cons c cs ih =>
    have hpos : 0 < (escapeChar c).length := by
      unfold escapeChar
      split_ifs <;> simp
    rw [List.flatMap_cons, List.length_append, List.length_cons]
    omega

theorem toList_escape (s : String) : (escape s).toList = '"' :: (s.toList.flatMap escapeChar ++ ['"']) := by
  simp [escape]

/-- A written string is read back. -/
theorem stringBody_escape (s : String) (rest : List Char) :
    stringBody ((s.toList.flatMap escapeChar ++ '"' :: rest).length + 1) []
        (s.toList.flatMap escapeChar ++ '"' :: rest) =
      .ok (s, rest) := by
  have hle := length_le_escaped s.toList
  rw [stringBody_escaped (by rw [List.length_append]; omega)]
  simp

/-! ### Values -/

theorem toList_render_arr (xs : List Json) :
    (render (.arr xs)).toList = '[' :: ((renderElements xs).toList ++ [']']) := by
  simp [render]

theorem toList_render_obj (ms : List (String × Json)) :
    (render (.obj ms)).toList = Char.ofNat 123 :: ((renderMembers ms).toList ++ [Char.ofNat 125]) := by
  simp [render]

/-- The elements of an array after the first, each after its comma. -/
def laterElements (xs : List Json) : List Char :=
  xs.flatMap fun x => ',' :: x.render.toList

theorem toList_renderElements (x : Json) (xs : List Json) :
    (renderElements (x :: xs)).toList = x.render.toList ++ laterElements xs := by
  induction xs generalizing x with
  | nil => simp [renderElements, laterElements]
  | cons y xs ih =>
    rw [renderElements, String.toList_append, String.toList_append, ih]
    · simp [laterElements]
    · simp

def memberText (m : String × Json) : List Char :=
  (escape m.1).toList ++ ':' :: m.2.render.toList

/-- The members of an object after the first, each after its comma. -/
def laterMembers (ms : List (String × Json)) : List Char :=
  ms.flatMap fun m => ',' :: memberText m

theorem toList_renderMembers (m : String × Json) (ms : List (String × Json)) :
    (renderMembers (m :: ms)).toList = memberText m ++ laterMembers ms := by
  induction ms generalizing m with
  | nil => simp [renderMembers, memberText, laterMembers]
  | cons n ms ih =>
    obtain ⟨k, v⟩ := m
    rw [renderMembers]
    · simp [ih, memberText, laterMembers]
    · simp

theorem toList_nat (n : Nat) : (Number.text (.whole n)).toList = Nat.toDigits 10 n := by
  show (toString n).toList = _
  simp

theorem toList_negative (n : Nat) : (Number.text (.whole (Int.negSucc n))).toList = '-' :: Nat.toDigits 10 (n + 1) := by
  show ("-" ++ toString (n + 1)).toList = _
  simp

theorem skipGap_cons {c : Char} (r : List Char) (hc : isGap c = false) : skipGap (c :: r) = c :: r := by
  simp [skipGap, hc]

theorem isGap_of_isDigit {c : Char} (hc : c.isDigit = true) : isGap c = false := by
  rw [Bool.eq_false_iff]
  intro hgap
  simp only [isGap, Bool.or_eq_true, decide_eq_true_eq] at hgap
  obtain ((rfl | rfl) | rfl) | rfl := hgap <;> cases hc

theorem value_digit {c : Char} (fuel d : Nat) (r : List Char) (hc : c.isDigit = true) :
    value (fuel + 1) d (c :: r) = number false (c :: r) := by
  rw [value, skipGap_cons r (isGap_of_isDigit hc)]
  have hbrace : c ≠ Char.ofNat 123 := by rintro rfl; cases hc
  split <;> simp_all

theorem value_toDigits {n : Nat} {rest : List Char} (fuel d : Nat) (hn : n < 2 ^ 64) (hrest : Ends rest) :
    value (fuel + 1) d (Nat.toDigits 10 n ++ rest) = .ok (.num (.whole n), rest) := by
  have hread := number_append false hn hrest
  obtain ⟨c, ds, hds, hc, -⟩ := exists_toDigits_eq_cons n
  rw [hds] at hread ⊢
  rw [List.cons_append, value_digit fuel d _ hc, ← List.cons_append, hread, numberTail_ends hrest]

/-- A text that begins with a sign that is neither skipped nor the end of an array. -/
def Begins (cs : List Char) : Prop :=
  ∃ c r, cs = c :: r ∧ isGap c = false ∧ c ≠ ']'

theorem Begins.append {cs : List Char} (h : Begins cs) (rest : List Char) : Begins (cs ++ rest) := by
  obtain ⟨c, r, rfl, hc⟩ := h
  exact ⟨c, r ++ rest, rfl, hc⟩

theorem begins_render {d : Nat} {j : Json} (h : Plain d j) : Begins j.render.toList := by
  cases h with
  | null => exact ⟨'n', ['u', 'l', 'l'], by simp [render], rfl, by decide⟩
  | bool b =>
    cases b with
    | true => exact ⟨'t', ['r', 'u', 'e'], by simp [render], rfl, by decide⟩
    | false => exact ⟨'f', ['a', 'l', 's', 'e'], by simp [render], rfl, by decide⟩
  | @whole _ n low high =>
    cases n with
    | ofNat n =>
      obtain ⟨c, ds, hds, hc, -⟩ := exists_toDigits_eq_cons n
      exact ⟨c, ds, (toList_nat n).trans hds, isGap_of_isDigit hc, by rintro rfl; cases hc⟩
    | negSucc n => exact ⟨'-', _, toList_negative n, rfl, by decide⟩
  | str s => exact ⟨'"', _, toList_escape s, rfl, by decide⟩
  | arr elements => exact ⟨'[', _, toList_render_arr _, rfl, by decide⟩
  | obj sorted members => exact ⟨Char.ofNat 123, _, toList_render_obj _, rfl, by decide⟩

/-! ### Arrays and objects -/

/-- A member with the greatest key comes last. -/
theorem place_append {α : Type} {k : String} {v : α} {acc : List (String × α)} (h : ∀ e ∈ acc, e.1 < k) :
    StringMap.place k v acc = acc ++ [(k, v)] := by
  induction acc with
  | nil => rfl
  | cons e acc ih =>
    obtain ⟨he, hacc⟩ := List.forall_mem_cons.1 h
    rw [StringMap.place, if_neg (String.lt_asymm he), if_neg (fun hk => String.lt_irrefl _ (hk ▸ he)), ih hacc]
    rfl

theorem ends_cons {c : Char} {r : List Char} (hdigit : c.isDigit = false) (hc : c ≠ '.' ∧ c ≠ 'e' ∧ c ≠ 'E') :
    Ends (c :: r) := by
  rintro c r ⟨⟩
  exact ⟨hdigit, hc⟩

/-- A value that is read from its text wherever the text stands: a step for each scalar of the text and one more are
enough. -/
def Reads (d : Nat) (j : Json) : Prop :=
  ∀ (fuel : Nat) (rest : List Char), j.render.toList.length ≤ fuel → Ends rest →
    value (fuel + 1) d (j.render.toList ++ rest) = .ok (j, rest)

theorem Reads.value_eq {d fuel : Nat} {j : Json} {rest : List Char} (h : Reads d j)
    (hfuel : j.render.toList.length < fuel) (hrest : Ends rest) :
    value fuel d (j.render.toList ++ rest) = .ok (j, rest) := by
  obtain ⟨f, rfl⟩ := Nat.exists_eq_add_one_of_ne_zero (Nat.ne_zero_of_lt hfuel)
  exact h f rest (Nat.le_of_lt_succ hfuel) hrest

/-- An element is read, at the start of an array or after a comma, and then the elements after it. -/
theorem elements_cons {fuel d : Nat} {cs r rest : List Char} {x : Json} {xs : List Json}
    (hbegins : Begins cs) (hfirst : value fuel d cs = .ok (x, r))
    (hmore : elements fuel d false r = .ok (xs, rest)) :
    elements (fuel + 1) d true cs = .ok (x :: xs, rest) ∧
      elements (fuel + 1) d false (',' :: cs) = .ok (x :: xs, rest) := by
  obtain ⟨c, r', rfl, hgap, hend⟩ := hbegins
  constructor
  · rw [elements, skipGap_cons _ hgap]
    simp [hfirst, hmore]
  · rw [elements, skipGap_cons _ (by decide)]
    split
    · next heq => cases heq
    · next heq => exact absurd (List.cons.inj heq).1 (by decide)
    · next heq =>
      obtain ⟨rfl, rfl⟩ := List.cons.inj heq
      rw [if_neg Bool.false_ne_true, if_pos rfl, skipGap_cons _ hgap]
      split
      · next heq => cases heq
      · next heq => exact absurd (List.cons.inj heq).1 hend
      · simp only [hfirst, hmore]

theorem ends_laterElements (xs : List Json) (rest : List Char) : Ends (laterElements xs ++ ']' :: rest) := by
  cases xs <;> exact ends_cons rfl (by decide)

theorem laterElements_cons (x : Json) (xs : List Json) :
    laterElements (x :: xs) = ',' :: (x.render.toList ++ laterElements xs) :=
  rfl

theorem elements_later {d fuel : Nat} {xs : List Json} (hplain : ∀ x ∈ xs, Plain d x) (hreads : ∀ x ∈ xs, Reads d x)
    (rest : List Char) (hfuel : (laterElements xs).length < fuel) :
    elements fuel d false (laterElements xs ++ ']' :: rest) = .ok (xs, rest) := by
  induction xs generalizing fuel with
  | nil =>
    obtain ⟨f, rfl⟩ := Nat.exists_eq_add_one_of_ne_zero (Nat.ne_zero_of_lt hfuel)
    rfl
  | cons x xs ih =>
    obtain ⟨f, rfl⟩ := Nat.exists_eq_add_one_of_ne_zero (Nat.ne_zero_of_lt hfuel)
    obtain ⟨hx, hxs⟩ := List.forall_mem_cons.1 hplain
    obtain ⟨hreadx, hreadxs⟩ := List.forall_mem_cons.1 hreads
    rw [laterElements_cons, List.length_cons, List.length_append] at hfuel
    rw [laterElements_cons, List.cons_append, List.append_assoc]
    have hfirst := hreadx.value_eq (show x.render.toList.length < f by omega) (ends_laterElements xs rest)
    have hmore := ih hxs hreadxs (show (laterElements xs).length < f by omega)
    exact (elements_cons ((begins_render hx).append _) hfirst hmore).2

theorem memberText_append (m : String × Json) (rest : List Char) :
    memberText m ++ rest = '"' :: (m.1.toList.flatMap escapeChar ++ '"' :: ':' :: (m.2.render.toList ++ rest)) := by
  simp [memberText, toList_escape]

theorem length_lt_memberText (m : String × Json) : m.2.render.toList.length < (memberText m).length := by
  simp only [memberText, List.length_append, List.length_cons]
  omega

/-- A member is read, at the start of an object or after a comma, and then the members after it. -/
theorem fields_cons {fuel d : Nat} {m : String × Json} {acc ms : List (String × Json)} {cs r rest : List Char}
    (hvalue : value fuel d (m.2.render.toList ++ cs) = .ok (m.2, r))
    (hmore : fields fuel d false (StringMap.place m.1 m.2 acc) r = .ok (ms, rest)) :
    fields (fuel + 1) d true acc (memberText m ++ cs) = .ok (ms, rest) ∧
      fields (fuel + 1) d false acc (',' :: (memberText m ++ cs)) = .ok (ms, rest) := by
  have hkey := stringBody_escape m.1 (':' :: (m.2.render.toList ++ cs))
  have hcolon : ∀ r, skipGap (':' :: r) = ':' :: r := fun r => skipGap_cons r rfl
  have hquote : ∀ r, skipGap ('"' :: r) = '"' :: r := fun r => skipGap_cons r rfl
  have hcomma : ∀ r, skipGap (',' :: r) = ',' :: r := fun r => skipGap_cons r rfl
  rw [memberText_append]
  constructor
  · rw [fields, hquote]
    dsimp only
    rw [if_neg (by decide), if_pos rfl]
    simp only [hkey, hcolon, hvalue, hmore]
  · rw [fields, hcomma]
    dsimp only
    rw [if_neg (by decide), if_neg Bool.false_ne_true, if_pos rfl, hquote]
    dsimp only
    rw [if_neg (by decide)]
    simp only [hkey, hcolon, hvalue, hmore]

theorem ends_laterMembers (ms : List (String × Json)) (rest : List Char) :
    Ends (laterMembers ms ++ Char.ofNat 125 :: rest) := by
  cases ms <;> exact ends_cons rfl (by decide)

theorem laterMembers_cons (m : String × Json) (ms : List (String × Json)) :
    laterMembers (m :: ms) = ',' :: (memberText m ++ laterMembers ms) :=
  rfl

theorem fields_later {d fuel : Nat} {acc ms : List (String × Json)}
    (hsorted : (acc ++ ms).Pairwise fun a b => a.1 < b.1) (hreads : ∀ m ∈ ms, Reads d m.2)
    (rest : List Char) (hfuel : (laterMembers ms).length < fuel) :
    fields fuel d false acc (laterMembers ms ++ Char.ofNat 125 :: rest) = .ok (acc ++ ms, rest) := by
  induction ms generalizing fuel acc with
  | nil =>
    obtain ⟨f, rfl⟩ := Nat.exists_eq_add_one_of_ne_zero (Nat.ne_zero_of_lt hfuel)
    rw [List.append_nil]
    rfl
  | cons m ms ih =>
    obtain ⟨f, rfl⟩ := Nat.exists_eq_add_one_of_ne_zero (Nat.ne_zero_of_lt hfuel)
    obtain ⟨hread, hreads⟩ := List.forall_mem_cons.1 hreads
    have hlt := length_lt_memberText m
    rw [laterMembers_cons, List.length_cons, List.length_append] at hfuel
    rw [laterMembers_cons, List.cons_append, List.append_assoc]
    have hlast : ∀ e ∈ acc, e.1 < m.1 := fun e he => (List.pairwise_append.1 hsorted).2.2 e he m List.mem_cons_self
    have hplace : StringMap.place m.1 m.2 acc = acc ++ [m] := place_append hlast
    have hsame : acc ++ m :: ms = acc ++ [m] ++ ms := List.append_cons acc m ms
    rw [hsame] at hsorted ⊢
    have hvalue := hread.value_eq (show m.2.render.toList.length < f by omega) (ends_laterMembers ms rest)
    have hmore := ih hsorted hreads (show (laterMembers ms).length < f by omega)
    exact (fields_cons hvalue (hplace ▸ hmore)).2

theorem elements_render {d fuel : Nat} {xs : List Json} (hplain : ∀ x ∈ xs, Plain d x) (hreads : ∀ x ∈ xs, Reads d x)
    (rest : List Char) (hfuel : (renderElements xs).toList.length + 1 < fuel) :
    elements fuel d true ((renderElements xs).toList ++ ']' :: rest) = .ok (xs, rest) := by
  obtain ⟨f, rfl⟩ := Nat.exists_eq_add_one_of_ne_zero (Nat.ne_zero_of_lt hfuel)
  cases xs with
  | nil => simp [renderElements, elements, skipGap, isGap]
  | cons x xs =>
    obtain ⟨hx, hxs⟩ := List.forall_mem_cons.1 hplain
    obtain ⟨hreadx, hreadxs⟩ := List.forall_mem_cons.1 hreads
    rw [toList_renderElements, List.length_append] at hfuel
    rw [toList_renderElements, List.append_assoc]
    have hfirst := hreadx.value_eq (show x.render.toList.length < f by omega) (ends_laterElements xs rest)
    have hmore := elements_later hxs hreadxs rest (show (laterElements xs).length < f by omega)
    exact (elements_cons ((begins_render hx).append _) hfirst hmore).1

theorem fields_render {d fuel : Nat} {ms : List (String × Json)} (hsorted : ms.Pairwise fun a b => a.1 < b.1)
    (hreads : ∀ m ∈ ms, Reads d m.2) (rest : List Char) (hfuel : (renderMembers ms).toList.length + 1 < fuel) :
    fields fuel d true [] ((renderMembers ms).toList ++ Char.ofNat 125 :: rest) = .ok (ms, rest) := by
  obtain ⟨f, rfl⟩ := Nat.exists_eq_add_one_of_ne_zero (Nat.ne_zero_of_lt hfuel)
  cases ms with
  | nil => simp [renderMembers, fields, skipGap, isGap]
  | cons m ms =>
    obtain ⟨hread, hreads⟩ := List.forall_mem_cons.1 hreads
    have hlt := length_lt_memberText m
    rw [toList_renderMembers, List.length_append] at hfuel
    rw [toList_renderMembers, List.append_assoc]
    have hvalue := hread.value_eq (show m.2.render.toList.length < f by omega) (ends_laterMembers ms rest)
    -- the first member is placed on nothing, and the others on it
    have hmore := @fields_later d f [m] ms hsorted hreads rest (by omega)
    exact (@fields_cons f d m [] (m :: ms) _ _ rest hvalue hmore).1

theorem value_list {fuel d : Nat} {r rest : List Char} {xs : List Json} (h : elements fuel d true r = .ok (xs, rest)) :
    value (fuel + 1) (d + 1) ('[' :: r) = .ok (.arr xs, rest) := by
  rw [value, skipGap_cons _ (by decide)]
  simp only [h]

theorem value_object {fuel d : Nat} {r rest : List Char} {ms : List (String × Json)}
    (h : fields fuel d true [] r = .ok (ms, rest)) :
    value (fuel + 1) (d + 1) (Char.ofNat 123 :: r) = .ok (.obj ms, rest) := by
  rw [value, skipGap_cons _ (by decide)]
  simp [h]

/-! ### Whole texts -/

/-- A written value is read. -/
theorem reads_of_plain {d : Nat} {j : Json} (h : Plain d j) : Reads d j := by
  -- the steps a value needs are no more than the scalars of its text, so those of an array are enough for each element
  induction h with
  | null =>
    intro fuel rest hfuel hrest
    simp [render, value, skipGap, isGap, literal]
  | bool b =>
    intro fuel rest hfuel hrest
    cases b <;> simp [render, value, skipGap, isGap, literal]
  | @whole d n low high =>
    intro fuel rest hfuel hrest
    rw [render]
    cases n with
    | ofNat n =>
      have hn : n < 2 ^ 64 := Int.ofNat_lt.1 high
      exact (toList_nat n).symm ▸ value_toDigits fuel d hn hrest
    | negSucc n =>
      have hread := number_append true (show n + 1 < 2 ^ 64 by omega) hrest
      rw [numberTail_negative (Nat.succ_pos n) (by omega) hrest] at hread
      rw [toList_negative, List.cons_append, value, skipGap_cons _ (by decide)]
      exact hread
  | @str d s =>
    intro fuel rest hfuel hrest
    have htext : (render (.str s)).toList ++ rest = '"' :: (s.toList.flatMap escapeChar ++ '"' :: rest) := by
      simp [render, toList_escape]
    rw [htext, value, skipGap_cons _ (by decide)]
    simp only [stringBody_escape]
  | @arr d xs hplain hreads =>
    intro fuel rest hfuel hrest
    rw [toList_render_arr, List.length_cons, List.length_append] at hfuel
    rw [toList_render_arr, List.cons_append, List.append_assoc]
    exact value_list (elements_render hplain hreads rest hfuel)
  | @obj d ms hsorted hplain hreads =>
    intro fuel rest hfuel hrest
    rw [toList_render_obj, List.length_cons, List.length_append] at hfuel
    rw [toList_render_obj, List.cons_append, List.append_assoc]
    exact value_object (fields_render hsorted hreads rest hfuel)

/-- A plain value is read back from its text. -/
theorem parse_render {j : Json} (h : Plain maxDepth j) : parse j.render = .ok j := by
  have hread := (reads_of_plain h).value_eq (show j.render.toList.length < 2 * j.render.toList.length + 2 by omega)
    (show Ends [] by rintro c r ⟨⟩)
  rw [List.append_nil] at hread
  simp only [parse, parseScalars, hread]
  rfl

end ProfilingOperator.Json
