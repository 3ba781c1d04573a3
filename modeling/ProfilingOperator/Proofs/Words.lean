import Mathlib.Algebra.Group.Nat.Defs
import Mathlib.Data.List.TakeWhile
import Mathlib.Tactic.SplitIfs
import ProfilingOperator.Duration.Parser

/-!
# Reading durations in words

Here a duration is read as it is read in memory.  A loop cuts a number and a unit off the text, adds what they weigh to
a total, and goes on with the rest; every number on the way stands in a word of 128, 64 or 32 bits.  Where a result is
checked, one that does not fit is a fault.  Where it is not, the reading is stuck.  No text gets it stuck, and what it
comes to is what `parse` gives.

    runs_cons : the loop cuts a text into its runs
    scaledInWords_eq : the steps that are not checked fit their words
    parseInWords_eq : parseInWords text = .ofExcept (parse text)
-/

namespace ProfilingOperator.Duration

/-! ## Algorithm -/

/-- What a computation in words comes to. -/
inductive Worded (α : Type) where
  | value (a : α)
  | fault (f : Fault)
  /-- A word cannot hold a result that is not checked. -/
  | stuck

namespace Worded

variable {α β : Type}

/-- Goes on with a value. -/
def bind (w : Worded α) (f : α → Worded β) : Worded β :=
  match w with
  | .value a => f a
  | .fault e => .fault e
  | .stuck => .stuck

instance : Monad Worded where
  pure := .value
  bind := .bind

/-- A computation that is not stuck. -/
def ofExcept : Except Fault α → Worded α
  | .ok a => .value a
  | .error f => .fault f

/-- A result below a bound, or a fault. -/
def checked (f : Fault) (bound n : Nat) : Worded Nat :=
  if n < bound then .value n else .fault f

/-- A result that has to be below a bound. -/
def unchecked (bound n : Nat) : Worded Nat :=
  if n < bound then .value n else .stuck

/-- A quotient, for which the divisor must not be zero. -/
def quotient (n divisor : Nat) : Worded Nat :=
  if divisor = 0 then .stuck else .value (n / divisor)

end Worded

open Worded

/-- What the places of a number come to in a unit, rounded down. -/
def partInWords (places : List Char) (scale : Nat) : Worded Nat := do
  let digits ← checked .invalid wide (ofDigits places)
  let exponent ← unchecked (2 ^ 32) places.length
  let divisor ← unchecked wide (10 ^ exponent)
  let product ← unchecked wide (digits * scale)
  quotient product divisor

/-- The nanoseconds of a number in a unit. -/
def scaledInWords (number : List Char) (scale : Nat) : Worded Nat :=
  let fraction := (number.dropWhile (· ≠ '.')).drop 1
  if fraction.contains '.' then .fault .invalid
  else do
    let whole ← checked .invalid wide (ofDigits (number.takeWhile (· ≠ '.')))
    let sum ← checked .overflow wide (whole * scale)
    let places := fraction.take placesKept
    if places = [] then return sum
    else
      let part ← partInWords places scale
      checked .overflow wide (sum + part)

def numberOf (cs : List Char) : List Char :=
  cs.takeWhile isNumeral

def unitOf (cs : List Char) : List Char :=
  (cs.dropWhile isNumeral).takeWhile (!isNumeral ·)

/-- What is left of a text after a number and a unit. -/
def restOf (cs : List Char) : List Char :=
  (cs.dropWhile isNumeral).dropWhile (!isNumeral ·)

/-- A round of the loop takes something off the text, be it of the number or of the unit. -/
theorem length_restOf_lt (c : Char) (r : List Char) : (restOf (c :: r)).length < (c :: r).length := by
  have hrest : ∀ l : List Char, (l.dropWhile (!isNumeral ·)).length ≤ l.length :=
    fun l => (List.dropWhile_sublist _).length_le
  unfold restOf
  cases hc : isNumeral c with
  | true =>
    rw [List.dropWhile_cons_of_pos hc]
    have htail : (r.dropWhile isNumeral).length ≤ r.length := (List.dropWhile_sublist _).length_le
    exact Nat.lt_succ_of_le (Nat.le_trans (hrest _) htail)
  | false =>
    rw [List.dropWhile_cons_of_neg (by simp [hc]), List.dropWhile_cons_of_pos (by simp [hc])]
    exact Nat.lt_succ_of_le (hrest r)

def weighInWords (number unit : List Char) : Worded Nat :=
  if number = [] ∨ number = ['.'] then .fault .invalid
  else if unit = [] then .fault .missingUnit
  else
    match unitScale? unit with
    | none => .fault (.unknownUnit (String.ofList unit))
    | some scale => scaledInWords number scale

/-- Adds what is left of a text to a total. -/
def totalInWords (sum : Nat) : List Char → Worded Nat
  | [] => .value sum
  | c :: r => do
    let n ← weighInWords (numberOf (c :: r)) (unitOf (c :: r))
    let sum ← checked .overflow wide (sum + n)
    totalInWords sum (restOf (c :: r))
  termination_by cs => cs.length
  decreasing_by exact length_restOf_lt c r

/-- The span of seconds and of the nanoseconds beyond them, which must not carry too far. -/
def spanInWords (seconds nanoseconds : Nat) : Worded Duration :=
  (ofNanoseconds? (seconds * perSecond + nanoseconds)).elim .stuck .value

/-- Reads a text after its sign. -/
def parseBodyInWords (negative : Bool) (body : List Char) : Worded Duration :=
  if body = ['0'] then .value zero
  else if body = [] then .fault .invalid
  else do
    let total ← totalInWords 0 body
    if negative ∧ 0 < total then .fault .negative
    else
      let seconds ← checked .overflow (2 ^ 64) (total / perSecond)
      let nanoseconds ← unchecked (2 ^ 32) (total % perSecond)
      spanInWords seconds nanoseconds

/-- Reads a text as a duration. -/
def parseInWords (text : String) : Worded Duration :=
  match text.toList with
  | [] => .fault .empty
  | '-' :: body => parseBodyInWords true body
  | '+' :: body => parseBodyInWords false body
  | body => parseBodyInWords false body

/-! ## Lemmas -/

namespace Worded

variable {α β : Type}

@[simp] theorem value_bind (a : α) (f : α → Worded β) : ((Worded.value a) >>= f) = f a := rfl

theorem checked_overflow (n : Nat) : checked .overflow wide n = .ofExcept (withinWide n) := by
  unfold checked withinWide
  split <;> rfl

theorem lt_of_withinWide {n m : Nat} (h : withinWide n = .ok m) : m < wide := by
  unfold withinWide at h
  split at h
  · next hn =>
    cases h
    exact hn
  · cases h

theorem unchecked_of_lt {bound n : Nat} (h : n < bound) : unchecked bound n = .value n := if_pos h

end Worded

/-! ### Digits -/

theorem digit_lt {c : Char} (h : c.isDigit = true) : c.toNat - '0'.toNat < 10 := by
  simp only [Char.isDigit, ge_iff_le, Bool.and_eq_true, decide_eq_true_eq, UInt32.le_iff_toNat_le] at h
  have hnine : c.toNat ≤ 57 := h.2
  have hzero : '0'.toNat = 48 := rfl
  omega

theorem foldl_digits_lt {cs : List Char} (h : ∀ c ∈ cs, c.isDigit = true) (n : Nat) :
    cs.foldl (fun n c => n * 10 + (c.toNat - '0'.toNat)) n < (n + 1) * 10 ^ cs.length := by
  induction cs generalizing n with
  | nil => simp
  | cons c cs ih =>
    obtain ⟨hc, hcs⟩ := List.forall_mem_cons.1 h
    have hdigit := digit_lt hc
    rw [List.foldl_cons, List.length_cons]
    calc _ < (n * 10 + (c.toNat - '0'.toNat) + 1) * 10 ^ cs.length := ih hcs _
      _ ≤ ((n + 1) * 10) * 10 ^ cs.length := Nat.mul_le_mul_right _ (by omega)
      _ = (n + 1) * 10 ^ (cs.length + 1) := by rw [Nat.mul_assoc, Nat.pow_succ']

/-- Digits write a number below the power of ten that has one digit more. -/
theorem ofDigits_lt {cs : List Char} (h : ∀ c ∈ cs, c.isDigit = true) : ofDigits cs < 10 ^ cs.length := by
  have hfold := foldl_digits_lt h 0
  rwa [Nat.zero_add, Nat.one_mul] at hfold

/-! ### Runs -/

/-- The loop cuts a text into its runs. -/
theorem runs_cons (c : Char) (r : List Char) :
    runs (c :: r) = (numberOf (c :: r), unitOf (c :: r)) :: runs (restOf (c :: r)) := by
  induction r generalizing c with
  | nil => cases hc : isNumeral c <;> simp [runs, numberOf, unitOf, restOf, hc]
  | cons c' r ih =>
    rw [runs, ih c']
    cases hc : isNumeral c with
    | true => simp [numberOf, unitOf, restOf, hc]
    | false =>
      cases hc' : isNumeral c' with
      | true =>
        -- the text begins with a unit, and the run after it stays
        have hrest : restOf (c :: c' :: r) = c' :: r := by simp [restOf, hc, hc']
        rw [hrest, ih c']
        simp [numberOf, unitOf, hc, hc']
      | false => simp [numberOf, unitOf, restOf, hc, hc']

theorem isDigit_of_isNumeral {c : Char} (h : isNumeral c = true) (hne : c ≠ '.') : c.isDigit = true := by
  unfold isNumeral at h
  simpa [hne] using h

/-- The digits after the point of a number that has no other point. -/
theorem digits_of_fraction {number : List Char} (h : ∀ c ∈ number, isNumeral c = true)
    (hpoint : ((number.dropWhile (· ≠ '.')).drop 1).contains '.' = false) :
    ∀ c ∈ (number.dropWhile (· ≠ '.')).drop 1, c.isDigit = true := by
  intro c hc
  refine isDigit_of_isNumeral (h c ?_) ?_
  · exact (List.dropWhile_sublist _).subset (List.mem_of_mem_drop hc)
  · rintro rfl
    rw [List.contains_iff_mem.2 hc] at hpoint
    cases hpoint

theorem unitScale?_le {unit : List Char} {scale : Nat} (h : unitScale? unit = some scale) :
    scale ≤ 3600 * perSecond := by
  unfold unitScale? at h
  split_ifs at h <;> cases h <;> decide

/-! ### Words that are not checked -/

/-- 18 places fit their words, in whatever unit. -/
theorem partInWords_eq {places : List Char} {scale : Nat} (hplaces : ∀ c ∈ places, c.isDigit = true)
    (hlength : places.length ≤ placesKept) (hscale : scale ≤ 3600 * perSecond) :
    partInWords places scale = .value (ofDigits places * scale / 10 ^ places.length) := by
  have hdivisor : 10 ^ places.length ≤ 10 ^ 18 := Nat.pow_le_pow_right (by decide) hlength
  have hdigits : ofDigits places < 10 ^ 18 := Nat.lt_of_lt_of_le (ofDigits_lt hplaces) hdivisor
  have hproduct : ofDigits places * scale ≤ 10 ^ 18 * (3600 * perSecond) := Nat.mul_le_mul (Nat.le_of_lt hdigits) hscale
  have hread : checked .invalid wide (ofDigits places) = .value (ofDigits places) :=
    if_pos (Nat.lt_trans hdigits (by decide))
  have hexponent : unchecked (2 ^ 32) places.length = .value places.length :=
    unchecked_of_lt (Nat.lt_of_le_of_lt hlength (by decide))
  have hpower : unchecked wide (10 ^ places.length) = .value (10 ^ places.length) :=
    unchecked_of_lt (Nat.lt_of_le_of_lt hdivisor (by decide))
  have hscaled : unchecked wide (ofDigits places * scale) = .value (ofDigits places * scale) :=
    unchecked_of_lt (Nat.lt_of_le_of_lt hproduct (by decide))
  have hpositive : 10 ^ places.length ≠ 0 := Nat.pos_iff_ne_zero.1 (Nat.pow_pos (by decide))
  unfold partInWords
  rw [hread, value_bind, hexponent, value_bind, hpower, value_bind, hscaled, value_bind]
  exact if_neg hpositive

/-- The products and quotients of one component fit their words, for every unit there is. -/
theorem scaledInWords_eq {number : List Char} {scale : Nat} (hnumber : ∀ c ∈ number, isNumeral c = true)
    (hscale : scale ≤ 3600 * perSecond) : scaledInWords number scale = .ofExcept (scaled number scale) := by
  unfold scaledInWords scaled
  dsimp only
  split
  · rfl
  · next hpoint =>
    have hdigits := digits_of_fraction hnumber (by simpa using hpoint)
    generalize (number.dropWhile (· ≠ '.')).drop 1 = fraction at hdigits
    generalize ofDigits (number.takeWhile (· ≠ '.')) = whole
    by_cases hlarge : wide ≤ whole
    · have hread : checked .invalid wide whole = .fault .invalid := if_neg (Nat.not_lt.2 hlarge)
      rw [hread, if_pos hlarge]
      rfl
    · have hread : checked .invalid wide whole = .value whole := if_pos (Nat.not_le.1 hlarge)
      rw [hread, value_bind, checked_overflow, if_neg hlarge]
      cases hsum : withinWide (whole * scale) with
      | error f => rfl
      | ok sum =>
        show (if fraction.take placesKept = [] then Worded.value sum
          else partInWords (fraction.take placesKept) scale >>= fun part => checked .overflow wide (sum + part)) =
            .ofExcept (withinWide (sum + _))
        split
        · next hnone =>
          -- no places weigh nothing, and the whole part was checked before
          have hfits : sum < wide := lt_of_withinWide hsum
          rw [hnone]
          simp [ofDigits, withinWide, hfits, Worded.ofExcept]
        · have hplaces : ∀ c ∈ fraction.take placesKept, c.isDigit = true :=
            fun c hc => hdigits c (List.mem_of_mem_take hc)
          rw [partInWords_eq hplaces (List.length_take_le _ _) hscale, value_bind, checked_overflow]
          rfl

theorem isNumeral_of_mem_numberOf {cs : List Char} : ∀ c ∈ numberOf cs, isNumeral c = true :=
  fun _ => List.mem_takeWhile_imp

theorem weighInWords_eq {number : List Char} (unit : List Char) (hnumber : ∀ c ∈ number, isNumeral c = true) :
    weighInWords number unit = .ofExcept (weigh (number, unit)) := by
  unfold weighInWords weigh
  dsimp only
  split
  · rfl
  · split
    · rfl
    · cases hunit : unitScale? unit with
      | none => rfl
      | some scale => exact scaledInWords_eq hnumber (unitScale?_le hunit)

theorem totalInWords_eq (sum : Nat) (cs : List Char) : totalInWords sum cs = .ofExcept (total sum (runs cs)) := by
  induction sum, cs using totalInWords.induct with
  | case1 sum =>
    unfold totalInWords
    rfl
  | case2 sum c r ih =>
    unfold totalInWords
    rw [runs_cons, weighInWords_eq _ isNumeral_of_mem_numberOf, total]
    cases weigh (numberOf (c :: r), unitOf (c :: r)) with
    | error f => rfl
    | ok n =>
      show (checked .overflow wide (sum + n) >>= fun sum => totalInWords sum (restOf (c :: r))) = _
      rw [checked_overflow]
      dsimp only
      cases withinWide (sum + n) with
      | error f => rfl
      | ok more => exact ih more

/-- The seconds of a total are checked, and what is beyond them makes no second more. -/
theorem span_of_total (n : Nat) :
    (checked .overflow (2 ^ 64) (n / perSecond) >>= fun seconds =>
      unchecked (2 ^ 32) (n % perSecond) >>= fun nanoseconds => spanInWords seconds nanoseconds) =
    .ofExcept (match ofNanoseconds? n with | some d => .ok d | none => .error .overflow) := by
  have hfits : n / perSecond < 2 ^ 64 ↔ n < limit := Nat.div_lt_iff_lt_mul (by decide)
  cases hd : ofNanoseconds? n with
  | none =>
    have hlong : ¬n / perSecond < 2 ^ 64 := by
      rw [hfits]
      exact Nat.not_lt.2 (ofNanoseconds?_eq_none_iff.1 hd)
    rw [checked, if_neg hlong]
    rfl
  | some d =>
    have hshort : n / perSecond < 2 ^ 64 := by
      refine hfits.2 (Nat.not_le.1 fun hlong => ?_)
      rw [ofNanoseconds?_eq_none_iff.2 hlong] at hd
      cases hd
    have hbeyond : n % perSecond < 2 ^ 32 := by
      unfold perSecond
      omega
    have hjoined : n / perSecond * perSecond + n % perSecond = n := Nat.div_add_mod' n perSecond
    rw [checked, if_pos hshort, value_bind, unchecked_of_lt hbeyond, value_bind, spanInWords, hjoined, hd]
    rfl

/-- In words nothing but a total that is too large gets out of bounds, and that is found. -/
theorem parseBodyInWords_eq (negative : Bool) (body : List Char) :
    parseBodyInWords negative body = .ofExcept (parseBody negative body) := by
  unfold parseBodyInWords parseBody
  split
  · rfl
  · split
    · rfl
    · rw [totalInWords_eq]
      cases total 0 (runs body) with
      | error f => rfl
      | ok n =>
        show (if negative = true ∧ 0 < n then Worded.fault .negative
          else checked .overflow (2 ^ 64) (n / perSecond) >>= fun seconds =>
            unchecked (2 ^ 32) (n % perSecond) >>= fun nanoseconds => spanInWords seconds nanoseconds) =
          .ofExcept (if negative = true ∧ 0 < n then .error .negative else _)
        split
        · rfl
        · exact span_of_total n

/-- A reading in words comes to what the text says, and is never stuck. -/
theorem parseInWords_eq (text : String) : parseInWords text = .ofExcept (parse text) := by
  unfold parseInWords parse
  generalize text.toList = cs
  split
  · rfl
  · exact parseBodyInWords_eq _ _
  · exact parseBodyInWords_eq _ _
  · simp only [parseBodyInWords_eq]

end ProfilingOperator.Duration
