import ProfilingOperator.Proofs.Words

/-!
# The grammar of durations

Which texts are durations, and of what length, said without reading them.  A duration is `0` or a sum of components,
with at most one sign before it; a component is a number and a unit.

    Amount : a number and what it comes to, unit by unit
    Components : a sum of components and its nanoseconds
    Writes : a text and the nanoseconds it writes

`parse` accepts exactly the texts that write a total below the longest span:

    weigh_eq_ok_iff : a run weighs n ↔ its unit measures a scale, its number amounts to n in it, and n fits 128 bits
    total_of_components, components_of_total : the loop adds up exactly the sums of components
    parse_eq_ok_iff_writes : parse text = .ok d ↔ Writes text d.nanoseconds
-/

namespace ProfilingOperator.Duration

/-! ## Grammar -/

/-- The number that decimal digits write: each counts by its place. -/
def numeral : List Char → Nat
  | [] => 0
  | c :: cs => (c.toNat - '0'.toNat) * 10 ^ cs.length + numeral cs

/-- A unit and its nanoseconds. -/
inductive Measures : List Char → Nat → Prop where
  | nano : Measures ['n', 's'] 1
  | micro : Measures ['u', 's'] 1000
  | microSign : Measures ['\u00b5', 's'] 1000
  | mu : Measures ['\u03bc', 's'] 1000
  | milli : Measures ['m', 's'] (10 ^ 6)
  | second : Measures ['s'] (10 ^ 9)
  | minute : Measures ['m'] (60 * 10 ^ 9)
  | hour : Measures ['h'] (3600 * 10 ^ 9)

/-- A number and what it comes to in a unit of `scale` nanoseconds.  Of the digits after the point the first 18 count,
and what they come to is rounded down. -/
inductive Amount (scale : Nat) : List Char → Nat → Prop where
  | whole {whole : List Char} (nonempty : whole ≠ []) (digits : ∀ c ∈ whole, c.isDigit = true) :
      Amount scale whole (numeral whole * scale)
  | pointed {whole fraction : List Char} (nonempty : whole ++ fraction ≠ [])
      (digits : ∀ c ∈ whole ++ fraction, c.isDigit = true) :
      Amount scale (whole ++ '.' :: fraction)
        (numeral whole * scale + numeral (fraction.take 18) * scale / 10 ^ min 18 fraction.length)

/-- Components one after another, at least one, and their nanoseconds. -/
inductive Components : List Char → Nat → Prop where
  | one {number unit : List Char} {scale n : Nat} (amount : Amount scale number n) (measures : Measures unit scale) :
      Components (number ++ unit) n
  | more {number unit rest : List Char} {scale n m : Nat} (amount : Amount scale number n)
      (measures : Measures unit scale) (others : Components rest m) : Components (number ++ unit ++ rest) (n + m)

/-- A text that writes a number of nanoseconds: at most one sign, and then a bare `0` or components.  After a minus sign
they come to nothing. -/
def Writes (text : String) (total : Nat) : Prop :=
  ∃ sign body : List Char, text.toList = sign ++ body ∧ (sign = [] ∨ sign = ['+'] ∨ sign = ['-']) ∧
    (sign = ['-'] → total = 0) ∧ (body = ['0'] ∧ total = 0 ∨ Components body total)

/-! ## Lemmas -/

theorem foldl_digits_eq (cs : List Char) (n : Nat) :
    cs.foldl (fun n c => n * 10 + (c.toNat - '0'.toNat)) n = n * 10 ^ cs.length + numeral cs := by
  induction cs generalizing n with
  | nil => simp [numeral]
  | cons c cs ih =>
    rw [List.foldl_cons, ih, numeral, List.length_cons, Nat.add_mul, Nat.mul_assoc, Nat.pow_succ', Nat.add_assoc]

theorem numeral_eq_ofDigits (cs : List Char) : numeral cs = ofDigits cs := by
  unfold ofDigits
  rw [foldl_digits_eq, Nat.zero_mul, Nat.zero_add]

/-! ### Units -/

theorem unitScale?_eq_some_iff {unit : List Char} {scale : Nat} :
    unitScale? unit = some scale ↔ Measures unit scale := by
  constructor
  · intro h
    unfold unitScale? at h
    split_ifs at h with hn hu <;> cases h
    · exact hn ▸ .nano
    · obtain rfl | rfl | rfl := hu
      · exact .micro
      · exact .microSign
      · exact .mu
    all_goals subst unit
    · exact .milli
    · exact .second
    · exact .minute
    · exact .hour
  · intro h
    cases h <;> rfl

theorem Measures.pos {unit : List Char} {scale : Nat} (h : Measures unit scale) : 0 < scale := by
  cases h <;> decide

theorem Measures.ne_nil {unit : List Char} {scale : Nat} (h : Measures unit scale) : unit ≠ [] := by
  cases h <;> exact List.cons_ne_nil _ _

theorem Measures.not_isNumeral {unit : List Char} {scale : Nat} (h : Measures unit scale) :
    ∀ c ∈ unit, isNumeral c = false := by
  have hall : unit.all (!isNumeral ·) = true := by cases h <;> rfl
  intro c hc
  have hletter := List.all_eq_true.1 hall c hc
  rwa [Bool.not_eq_true'] at hletter

/-! ### Numbers -/

section
variable {scale : Nat} {number : List Char} {n : Nat}

theorem isNumeral_of_isDigit {c : Char} (h : c.isDigit = true) : isNumeral c = true := by
  simp [isNumeral, h]

theorem ne_point_of_isDigit {c : Char} (h : c.isDigit = true) : c ≠ '.' := by
  rintro rfl
  cases h

theorem Amount.isNumeral (h : Amount scale number n) : ∀ c ∈ number, isNumeral c = true := by
  cases h with
  | whole _ digits => exact fun c hc => isNumeral_of_isDigit (digits c hc)
  | @pointed whole fraction _ digits =>
    intro c hc
    rw [List.mem_append, List.mem_cons] at hc
    obtain hc | rfl | hc := hc
    · exact isNumeral_of_isDigit (digits c (List.mem_append_left _ hc))
    · rfl
    · exact isNumeral_of_isDigit (digits c (List.mem_append_right _ hc))

theorem Amount.ne_nil (h : Amount scale number n) : number ≠ [] := by
  cases h with
  | whole nonempty _ => exact nonempty
  | pointed _ _ => simp

theorem Amount.ne_point (h : Amount scale number n) : number ≠ ['.'] := by
  cases h with
  | whole _ digits =>
    rintro rfl
    cases digits '.' (List.mem_singleton_self _)
  | @pointed whole fraction nonempty _ =>
    intro hpoint
    cases whole with
    | nil => simp_all
    | cons c whole => simp at hpoint

end

/-! ### Weights -/

/-- The checks of a weighed number pass when the weight itself fits, because no part is above it. -/
theorem bounded_eq_ok_iff {whole scale part n : Nat} (hscale : 0 < scale) :
    (if wide ≤ whole then .error .invalid
      else match withinWide (whole * scale) with
        | .error f => .error f
        | .ok m => withinWide (m + part) : Except Fault Nat) = .ok n ↔ whole * scale + part = n ∧ n < wide := by
  have hle : whole ≤ whole * scale := Nat.le_mul_of_pos_right whole hscale
  unfold withinWide
  split_ifs with hwhole hproduct
  · simp only [false_iff]
    omega
  · dsimp only
    split_ifs with hsum
    · rw [Except.ok.injEq]
      omega
    · simp only [false_iff]
      omega
  · simp only [false_iff]
    omega

theorem ne_point_of_not_mem {whole : List Char} (h : '.' ∉ whole) : ∀ c ∈ whole, decide (c ≠ '.') = true := by
  intro c hc
  rw [decide_eq_true_eq]
  rintro rfl
  exact h hc

theorem not_mem_point {digits : List Char} (h : ∀ c ∈ digits, c.isDigit = true) : '.' ∉ digits :=
  fun hmem => ne_point_of_isDigit (h _ hmem) rfl

section
variable {scale n : Nat} {whole fraction number unit : List Char}

theorem scaled_whole (hscale : 0 < scale) (hwhole : '.' ∉ whole) :
    scaled whole scale = .ok n ↔ ofDigits whole * scale = n ∧ n < wide := by
  have hall := ne_point_of_not_mem hwhole
  have htake : whole.takeWhile (· ≠ '.') = whole := List.takeWhile_eq_self_iff.2 hall
  have hdrop : whole.dropWhile (· ≠ '.') = [] := List.dropWhile_eq_nil_iff.2 hall
  unfold scaled
  dsimp only
  rw [htake, hdrop, if_neg (by decide)]
  refine (bounded_eq_ok_iff hscale).trans ?_
  simp [ofDigits]

theorem dropWhile_point (hwhole : '.' ∉ whole) :
    (whole ++ '.' :: fraction).dropWhile (· ≠ '.') = '.' :: fraction := by
  rw [List.dropWhile_append_of_pos (ne_point_of_not_mem hwhole)]
  simp

theorem scaled_pointed (hscale : 0 < scale) (hwhole : '.' ∉ whole) (hfraction : '.' ∉ fraction) :
    scaled (whole ++ '.' :: fraction) scale = .ok n ↔
      ofDigits whole * scale + ofDigits (fraction.take 18) * scale / 10 ^ min 18 fraction.length = n ∧ n < wide := by
  have hall := ne_point_of_not_mem hwhole
  have htake : (whole ++ '.' :: fraction).takeWhile (· ≠ '.') = whole := by
    rw [List.takeWhile_append_of_pos hall]
    simp
  have hone : ¬fraction.contains '.' = true := by rwa [List.contains_iff_mem]
  unfold scaled
  dsimp only
  rw [htake, dropWhile_point hwhole, List.drop_one, List.tail_cons, if_neg hone]
  refine (bounded_eq_ok_iff hscale).trans ?_
  rw [List.length_take, placesKept]
  rfl

theorem scaled_two_points (hwhole : '.' ∉ whole) (hfraction : '.' ∈ fraction) :
    scaled (whole ++ '.' :: fraction) scale = .error .invalid := by
  unfold scaled
  dsimp only
  rw [dropWhile_point hwhole, List.drop_one, List.tail_cons, if_pos (List.contains_iff_mem.2 hfraction)]

theorem amount_of_scaled (hnumber : ∀ c ∈ number, isNumeral c = true) (hempty : number ≠ []) (hpoint : number ≠ ['.'])
    (hscale : 0 < scale) (h : scaled number scale = .ok n) : Amount scale number n ∧ n < wide := by
  have hdigit : ∀ c ∈ number, c ≠ '.' → c.isDigit = true := fun c hc => isDigit_of_isNumeral (hnumber c hc)
  by_cases hmem : '.' ∈ number
  · obtain ⟨whole, fraction, rfl, hwhole⟩ := List.eq_append_cons_of_mem hmem
    by_cases hfraction : '.' ∈ fraction
    · rw [scaled_two_points hwhole hfraction] at h
      cases h
    · obtain ⟨rfl, hfits⟩ := (scaled_pointed hscale hwhole hfraction).1 h
      refine ⟨?_, hfits⟩
      rw [← numeral_eq_ofDigits, ← numeral_eq_ofDigits]
      refine .pointed ?_ ?_
      · rintro hnone
        obtain ⟨rfl, rfl⟩ := List.append_eq_nil_iff.1 hnone
        exact hpoint rfl
      · intro c hc
        obtain hc | hc := List.mem_append.1 hc
        · exact hdigit c (List.mem_append_left _ hc) (by rintro rfl; exact hwhole hc)
        · exact hdigit c (List.mem_append_right _ (List.mem_cons_of_mem _ hc)) (by rintro rfl; exact hfraction hc)
  · obtain ⟨rfl, hfits⟩ := (scaled_whole hscale hmem).1 h
    refine ⟨?_, hfits⟩
    rw [← numeral_eq_ofDigits]
    exact .whole hempty fun c hc => hdigit c hc (by rintro rfl; exact hmem hc)

theorem scaled_of_amount (hscale : 0 < scale) (h : Amount scale number n) (hfits : n < wide) :
    scaled number scale = .ok n := by
  cases h with
  | whole _ digits =>
    rw [scaled_whole hscale (not_mem_point digits), numeral_eq_ofDigits]
    exact ⟨rfl, by rwa [numeral_eq_ofDigits] at hfits⟩
  | pointed _ digits =>
    have hwhole := not_mem_point fun c hc => digits c (List.mem_append_left _ hc)
    have hfraction := not_mem_point fun c hc => digits c (List.mem_append_right _ hc)
    rw [scaled_pointed hscale hwhole hfraction]
    simp only [numeral_eq_ofDigits] at hfits ⊢
    exact ⟨trivial, hfits⟩

/-- A run weighs something if it is a number and a unit, and what they come to fits. -/
theorem weigh_eq_ok_iff (hnumber : ∀ c ∈ number, isNumeral c = true) :
    weigh (number, unit) = .ok n ↔ (∃ scale, Measures unit scale ∧ Amount scale number n) ∧ n < wide := by
  constructor
  · intro h
    unfold weigh at h
    dsimp only at h
    split_ifs at h with hbare hunit
    rw [not_or] at hbare
    cases hscale : unitScale? unit with
    | none =>
      rw [hscale] at h
      cases h
    | some scale =>
      rw [hscale] at h
      have hmeasures := unitScale?_eq_some_iff.1 hscale
      obtain ⟨hamount, hfits⟩ := amount_of_scaled hnumber hbare.1 hbare.2 hmeasures.pos h
      exact ⟨⟨scale, hmeasures, hamount⟩, hfits⟩
  · rintro ⟨⟨scale, hmeasures, hamount⟩, hfits⟩
    have hbare : ¬(number = [] ∨ number = ['.']) := not_or.2 ⟨hamount.ne_nil, hamount.ne_point⟩
    unfold weigh
    dsimp only
    rw [if_neg hbare, if_neg hmeasures.ne_nil, unitScale?_eq_some_iff.2 hmeasures]
    exact scaled_of_amount hmeasures.pos hamount hfits

end

/-! ### Sums -/

theorem Amount.begins {scale n : Nat} {number : List Char} (h : Amount scale number n) (rest : List Char) :
    ∃ c r, number ++ rest = c :: r ∧ Duration.isNumeral c = true := by
  obtain ⟨c, r, rfl⟩ := List.exists_cons_of_ne_nil h.ne_nil
  exact ⟨c, r ++ rest, rfl, h.isNumeral c List.mem_cons_self⟩

theorem Components.begins {cs : List Char} {n : Nat} (h : Components cs n) :
    ∃ c r, cs = c :: r ∧ isNumeral c = true := by
  cases h with
  | one amount _ => exact amount.begins _
  | more amount _ _ =>
    rw [List.append_assoc]
    exact amount.begins _

theorem Components.two_le_length {cs : List Char} {n : Nat} (h : Components cs n) : 2 ≤ cs.length := by
  cases h with
  | one amount measures =>
    have hnumber := List.length_pos_iff.2 amount.ne_nil
    have hunit := List.length_pos_iff.2 measures.ne_nil
    rw [List.length_append]
    omega
  | more amount measures _ =>
    have hnumber := List.length_pos_iff.2 amount.ne_nil
    have hunit := List.length_pos_iff.2 measures.ne_nil
    rw [List.length_append, List.length_append]
    omega

/-- The loop cuts a component off a text where the next begins. -/
theorem runs_append {number unit : List Char} (rest : List Char) (hempty : number ≠ [])
    (hnumber : ∀ c ∈ number, isNumeral c = true) (hunit : unit ≠ []) (hletters : ∀ c ∈ unit, isNumeral c = false)
    (hrest : ∀ c r, rest = c :: r → isNumeral c = true) :
    runs (number ++ unit ++ rest) = (number, unit) :: runs rest := by
  have hbreak : ∀ c ∈ unit, (!isNumeral c) = true := fun c hc => by rw [hletters c hc]; rfl
  have htake : (unit ++ rest).takeWhile isNumeral = [] ∧ (unit ++ rest).dropWhile isNumeral = unit ++ rest := by
    obtain ⟨u, v, rfl⟩ := List.exists_cons_of_ne_nil hunit
    have hu : isNumeral u = false := hletters u List.mem_cons_self
    simp [hu]
  have hnext : rest.takeWhile (!isNumeral ·) = [] ∧ rest.dropWhile (!isNumeral ·) = rest := by
    cases rest with
    | nil => exact ⟨rfl, rfl⟩
    | cons c r =>
      have hc : isNumeral c = true := hrest c r rfl
      simp [hc]
  have hnumberOf : numberOf (number ++ unit ++ rest) = number := by
    rw [numberOf, List.append_assoc, List.takeWhile_append_of_pos hnumber, htake.1, List.append_nil]
  have hdropped : (number ++ unit ++ rest).dropWhile isNumeral = unit ++ rest := by
    rw [List.append_assoc, List.dropWhile_append_of_pos hnumber, htake.2]
  have hunitOf : unitOf (number ++ unit ++ rest) = unit := by
    rw [unitOf, hdropped, List.takeWhile_append_of_pos hbreak, hnext.1, List.append_nil]
  have hrestOf : restOf (number ++ unit ++ rest) = rest := by
    rw [restOf, hdropped, List.dropWhile_append_of_pos hbreak, hnext.2]
  obtain ⟨c, r, hcs⟩ : ∃ c r, number ++ unit ++ rest = c :: r :=
    List.exists_cons_of_ne_nil (by simp [hempty])
  rw [hcs] at hnumberOf hunitOf hrestOf ⊢
  rw [runs_cons, hnumberOf, hunitOf, hrestOf]

theorem cut_joined (cs : List Char) : numberOf cs ++ unitOf cs ++ restOf cs = cs := by
  unfold numberOf unitOf restOf
  rw [List.append_assoc, List.takeWhile_append_dropWhile, List.takeWhile_append_dropWhile]

theorem total_cons_eq_ok_iff {sum t : Nat} {run : List Char × List Char} {rest : List (List Char × List Char)} :
    total sum (run :: rest) = .ok t ↔ ∃ n, weigh run = .ok n ∧ sum + n < wide ∧ total (sum + n) rest = .ok t := by
  rw [total]
  cases weigh run with
  | error f => simp
  | ok n =>
    dsimp only
    by_cases hfits : sum + n < wide
    · simp [withinWide, hfits]
    · simp [withinWide, hfits]

/-- What a sum of components comes to is what is added to the total. -/
theorem total_of_components {cs : List Char} {m : Nat} (h : Components cs m) {sum : Nat} (hfits : sum + m < wide) :
    total sum (runs cs) = .ok (sum + m) := by
  induction h generalizing sum with
  | @one number unit scale n amount measures =>
    have hweigh : weigh (number, unit) = .ok n :=
      (weigh_eq_ok_iff amount.isNumeral).2 ⟨⟨scale, measures, amount⟩, by omega⟩
    have hruns := runs_append [] amount.ne_nil amount.isNumeral measures.ne_nil measures.not_isNumeral (by simp)
    rw [List.append_nil] at hruns
    rw [hruns, total_cons_eq_ok_iff]
    exact ⟨n, hweigh, hfits, rfl⟩
  | @more number unit rest scale n m amount measures others ih =>
    have hweigh : weigh (number, unit) = .ok n :=
      (weigh_eq_ok_iff amount.isNumeral).2 ⟨⟨scale, measures, amount⟩, by omega⟩
    have hbegins : ∀ c r, rest = c :: r → isNumeral c = true := by
      obtain ⟨c', r', rfl, hc'⟩ := others.begins
      rintro c r hcons
      cases hcons
      exact hc'
    rw [runs_append rest amount.ne_nil amount.isNumeral measures.ne_nil measures.not_isNumeral hbegins,
      total_cons_eq_ok_iff]
    refine ⟨n, hweigh, by omega, ?_⟩
    rw [ih (by omega), Nat.add_assoc]

/-- What is added to the total is what a sum of components comes to. -/
theorem components_of_total (sum t : Nat) (cs : List Char) (h : total sum (runs cs) = .ok t) (hne : cs ≠ []) :
    ∃ m, Components cs m ∧ sum + m = t := by
  induction sum, cs using totalInWords.induct with
  | case1 sum => exact absurd rfl hne
  | case2 sum c r ih =>
    rw [runs_cons, total_cons_eq_ok_iff] at h
    obtain ⟨n, hweigh, hfits, hrest⟩ := h
    obtain ⟨⟨scale, hmeasures, hamount⟩, -⟩ := (weigh_eq_ok_iff isNumeral_of_mem_numberOf).1 hweigh
    rw [← cut_joined (c :: r)]
    cases hleft : restOf (c :: r) with
    | nil =>
      rw [hleft] at hrest
      rw [List.append_nil]
      exact ⟨n, .one hamount hmeasures, Except.ok.inj hrest⟩
    | cons c' r' =>
      obtain ⟨m, hcomponents, hsum⟩ := ih (sum + n) hrest (by rw [hleft]; exact List.cons_ne_nil _ _)
      rw [hleft] at hcomponents
      exact ⟨n + m, .more hamount hmeasures hcomponents, by omega⟩

/-! ### Texts -/

theorem nanoseconds_lt_wide (d : Duration) : d.nanoseconds < wide :=
  Nat.lt_trans d.bounded (by decide)

/-- A body is read exactly if it is a lone zero or writes components, and behind a minus only as zero. -/
theorem parseBody_eq_ok_iff {negative : Bool} {body : List Char} {d : Duration} :
    parseBody negative body = .ok d ↔
      (body = ['0'] ∧ d.nanoseconds = 0 ∨ Components body d.nanoseconds) ∧ (negative = true → d.nanoseconds = 0) := by
  constructor
  · intro h
    unfold parseBody at h
    split_ifs at h with hzero hempty
    · cases h
      exact ⟨.inl ⟨hzero, rfl⟩, fun _ => rfl⟩
    · cases htotal : total 0 (runs body) with
      | error f =>
        rw [htotal] at h
        cases h
      | ok n =>
        rw [htotal] at h
        dsimp only at h
        split_ifs at h with hnegative
        cases hspan : ofNanoseconds? n with
        | none =>
          rw [hspan] at h
          cases h
        | some e =>
          rw [hspan] at h
          obtain rfl : e = d := Except.ok.inj h
          obtain ⟨m, hcomponents, hm⟩ := components_of_total 0 n body htotal hempty
          have hlength : e.nanoseconds = m := by rw [ofNanoseconds?_eq_some_iff.1 hspan, ← hm, Nat.zero_add]
          refine ⟨.inr (hlength ▸ hcomponents), fun hminus => ?_⟩
          by_contra hpositive
          exact hnegative ⟨hminus, by omega⟩
  · rintro ⟨hbody, hminus⟩
    unfold parseBody
    obtain ⟨rfl, hnone⟩ | hcomponents := hbody
    · rw [if_pos rfl]
      exact congrArg Except.ok (Duration.ext hnone.symm)
    · obtain ⟨c, r, rfl, -⟩ := hcomponents.begins
      have hbare : c :: r ≠ ['0'] := by
        -- a bare digit has no unit
        intro h
        have hlong := hcomponents.two_le_length
        rw [h] at hlong
        exact absurd hlong (by decide)
      have htotal : total 0 (runs (c :: r)) = .ok d.nanoseconds := by
        rw [total_of_components hcomponents (by rw [Nat.zero_add]; exact nanoseconds_lt_wide d), Nat.zero_add]
      have hpositive : ¬(negative = true ∧ 0 < d.nanoseconds) := by
        rintro ⟨htrue, hlt⟩
        rw [hminus htrue] at hlt
        exact Nat.lt_irrefl 0 hlt
      rw [if_neg hbare, if_neg (List.cons_ne_nil c r), htotal]
      dsimp only
      rw [if_neg hpositive, ofNanoseconds?_eq_some_iff.2 rfl]

theorem parse_unsigned {text : String} {c : Char} {r : List Char} (h : text.toList = c :: r) (hminus : c ≠ '-')
    (hplus : c ≠ '+') : parse text = parseBody false (c :: r) := by
  unfold parse
  rw [h]
  split
  · next hnil => cases hnil
  · next hcons => exact absurd (List.cons.inj hcons).1 hminus
  · next hcons => exact absurd (List.cons.inj hcons).1 hplus
  · rfl

/-- A text is read as the span it writes. -/
theorem parse_eq_ok_iff_writes {text : String} {d : Duration} : parse text = .ok d ↔ Writes text d.nanoseconds := by
  constructor
  · intro h
    unfold parse at h
    split at h
    · cases h
    · next body htext =>
      obtain ⟨hbody, hminus⟩ := parseBody_eq_ok_iff.1 h
      exact ⟨['-'], body, htext, .inr (.inr rfl), fun _ => hminus rfl, hbody⟩
    · next body htext =>
      obtain ⟨hbody, -⟩ := parseBody_eq_ok_iff.1 h
      exact ⟨['+'], body, htext, .inr (.inl rfl), by simp, hbody⟩
    · obtain ⟨hbody, -⟩ := parseBody_eq_ok_iff.1 h
      exact ⟨[], text.toList, rfl, .inl rfl, by simp, hbody⟩
  · rintro ⟨sign, body, htext, hsign, hminus, hbody⟩
    obtain rfl | rfl | rfl := hsign
    · have hbegins : ∃ c r, body = c :: r ∧ isNumeral c = true := by
        obtain ⟨rfl, -⟩ | hcomponents := hbody
        · exact ⟨'0', [], rfl, rfl⟩
        · exact hcomponents.begins
      obtain ⟨c, r, rfl, hc⟩ := hbegins
      rw [parse_unsigned htext (by rintro rfl; cases hc) (by rintro rfl; cases hc)]
      exact parseBody_eq_ok_iff.2 ⟨hbody, by simp⟩
    · unfold parse
      rw [htext]
      exact parseBody_eq_ok_iff.2 ⟨hbody, by simp⟩
    · unfold parse
      rw [htext]
      exact parseBody_eq_ok_iff.2 ⟨hbody, fun _ => hminus rfl⟩

/-- A text is accepted if it writes a total below `2 ^ 64` seconds, and then is that span; and it is read to the end,
with every number on the way in its word. -/
theorem parse_accepts_iff (text : String) :
    (∀ d : Duration, parse text = .ok d ↔ ∃ total, Writes text total ∧ total < 2 ^ 64 * 10 ^ 9 ∧
      d.seconds = total / 10 ^ 9 ∧ d.subsecond = total % 10 ^ 9) ∧
    parseInWords text = .ofExcept (parse text) := by
  refine ⟨fun d => ?_, parseInWords_eq text⟩
  rw [parse_eq_ok_iff_writes]
  constructor
  · intro h
    exact ⟨d.nanoseconds, h, d.bounded, rfl, rfl⟩
  · rintro ⟨total, hwrites, -, hseconds, hsubsecond⟩
    have hlength : d.nanoseconds = total := by
      unfold seconds perSecond at hseconds
      unfold subsecond perSecond at hsubsecond
      omega
    rwa [hlength]

example : (parse "1h1.5m").toOption.map nanoseconds = some (3690 * 10 ^ 9) := by decide

end ProfilingOperator.Duration
