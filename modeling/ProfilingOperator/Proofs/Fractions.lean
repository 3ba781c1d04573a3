import Mathlib.Data.Rat.Floor
import Mathlib.Tactic.Ring
import ProfilingOperator.Proofs.Grammar

/-!
# Dropped places

Of the places of a number the first 18 count, and what they come to is rounded down to a nanosecond.  Whether that is
what the whole number comes to, rounded down, depends on the unit.  A second and the units below it have a power of
ten of nanoseconds, and no place after the 18th counts in them.  A minute and an hour have not: the part of a
nanosecond that the kept places leave over can be so close to a whole one that the dropped places make it up.

    exactLength whole fraction scale : what a number comes to, as a rational
    Carries scale fraction : the dropped places make up a nanosecond
    floor_exact_eq : ⌊exactLength whole fraction scale⌋ = what the kept places come to, and one if the dropped carry
    not_carries_of_dvd : scale ∣ 10 ^ 18 → ¬Carries scale fraction
    reads_floor_iff : the exact length is read of every number in a unit ↔ the unit is neither a minute nor an hour
-/

namespace ProfilingOperator.Duration

/-- What a number with a point comes to in a unit of `scale` nanoseconds. -/
def exactLength (whole fraction : List Char) (scale : Nat) : ℚ :=
  (numeral whole + numeral fraction / 10 ^ fraction.length) * scale

/-- What the kept places leave over of a nanosecond and what the dropped places come to make a nanosecond together.  A
nanosecond has `10 ^ 18` parts in the last kept place, and each of these has so many in the last dropped one. -/
def Carries (scale : Nat) (fraction : List Char) : Prop :=
  10 ^ 18 * 10 ^ (fraction.drop 18).length ≤
    numeral (fraction.take 18) * scale % 10 ^ 18 * 10 ^ (fraction.drop 18).length + numeral (fraction.drop 18) * scale

instance (scale : Nat) (fraction : List Char) : Decidable (Carries scale fraction) :=
  inferInstanceAs (Decidable (_ ≤ _))

/-- A text that is one number with a point and a unit, after at most one sign. -/
def IsPointed (text : String) (whole fraction unit : List Char) : Prop :=
  (∃ sign : List Char, text.toList = sign ++ (whole ++ '.' :: fraction ++ unit) ∧
    (sign = [] ∨ sign = ['+'] ∨ sign = ['-'])) ∧ ∀ c ∈ whole ++ fraction, c.isDigit = true

/-! ## Lemmas -/

theorem numeral_append (front back : List Char) :
    numeral (front ++ back) = numeral front * 10 ^ back.length + numeral back := by
  induction front with
  | nil => simp [numeral]
  | cons c front ih =>
    rw [List.cons_append, numeral, ih, numeral, List.length_append, Nat.pow_add]
    ring

theorem numeral_lt {cs : List Char} (h : ∀ c ∈ cs, c.isDigit = true) : numeral cs < 10 ^ cs.length := by
  rw [numeral_eq_ofDigits]
  exact ofDigits_lt h

theorem numeral_drop_lt {cs : List Char} (h : ∀ c ∈ cs, c.isDigit = true) :
    numeral (cs.drop 18) < 10 ^ (cs.drop 18).length :=
  numeral_lt fun c hc => h c (List.mem_of_mem_drop hc)

/-! ### Rounding down -/

/-- Rounded down, a number comes to its whole part and to what its places come to, rounded down. -/
theorem floor_exact (whole fraction : List Char) (scale : Nat) :
    ⌊exactLength whole fraction scale⌋ =
      ((numeral whole * scale + numeral fraction * scale / 10 ^ fraction.length : Nat) : ℤ) := by
  have hsplit : exactLength whole fraction scale =
      ((numeral whole * scale : Nat) : ℤ) +
        ((numeral fraction * scale : Nat) : ℚ) / ((10 ^ fraction.length : Nat) : ℚ) := by
    unfold exactLength
    push_cast
    ring
  rw [hsplit, Int.floor_intCast_add, Rat.floor_natCast_div_natCast]
  push_cast
  rfl

/-- A quotient whose dividend has a part that is less than one of the divisor's large parts: that part adds one or
nothing. -/
theorem div_of_parts {kept dropped scale large small : Nat} (hlarge : 0 < large) (hdropped : dropped < small)
    (hscale : scale ≤ large) :
    (kept * small + dropped) * scale / (large * small) =
      kept * scale / large + if large * small ≤ kept * scale % large * small + dropped * scale then 1 else 0 := by
  have hsmall : 0 < small := Nat.zero_lt_of_lt hdropped
  have hlimit : 0 < large * small := Nat.mul_pos hlarge hsmall
  have hparts : large * (kept * scale / large) + kept * scale % large = kept * scale := Nat.div_add_mod _ _
  have hrest : kept * scale % large < large := Nat.mod_lt _ hlarge
  generalize kept * scale / large = q at hparts ⊢
  generalize kept * scale % large = r at hparts hrest ⊢
  have hsum : (kept * small + dropped) * scale = r * small + dropped * scale + large * small * q := by
    calc (kept * small + dropped) * scale = kept * scale * small + dropped * scale := by ring
      _ = (large * q + r) * small + dropped * scale := by rw [hparts]
      _ = r * small + dropped * scale + large * small * q := by ring
  have hleft : r * small < large * small := Nat.mul_lt_mul_of_pos_right hrest hsmall
  have hright : dropped * scale ≤ small * large := Nat.mul_le_mul (Nat.le_of_lt hdropped) hscale
  rw [hsum, Nat.add_mul_div_left _ _ hlimit, Nat.add_comm]
  congr 1
  split
  · next hcarries =>
    rw [Nat.mul_comm small large] at hright
    exact Nat.div_eq_of_lt_le (by omega) (by omega)
  · next hless => exact Nat.div_eq_of_lt (by omega)

section
variable {scale : Nat} {whole fraction unit : List Char}

theorem Measures.le (h : Measures unit scale) : scale ≤ 10 ^ 18 := by
  cases h <;> decide

/-- The exact length, rounded down, is what is kept of it, and one nanosecond more if the dropped places carry. -/
theorem floor_exact_eq (hdigits : ∀ c ∈ fraction, c.isDigit = true) (hscale : scale ≤ 10 ^ 18) :
    ⌊exactLength whole fraction scale⌋ =
      ((numeral whole * scale + numeral (fraction.take 18) * scale / 10 ^ min 18 fraction.length : Nat) : ℤ) +
        if Carries scale fraction then 1 else 0 := by
  rw [floor_exact]
  by_cases hshort : fraction.length ≤ 18
  · have hless : ¬Carries scale fraction := by
      have hmod := Nat.mod_lt (numeral fraction * scale) (show 0 < 10 ^ 18 by decide)
      unfold Carries
      rw [List.take_of_length_le hshort, List.drop_of_length_le hshort, List.length_nil, Nat.pow_zero, numeral]
      omega
    rw [if_neg hless, List.take_of_length_le hshort, Nat.min_eq_right hshort, add_zero]
  · have hkept : (fraction.take 18).length = 18 := List.length_take_of_le (by omega)
    have hlength : fraction.length = 18 + (fraction.drop 18).length := by rw [List.length_drop]; omega
    have hsplit : numeral fraction =
        numeral (fraction.take 18) * 10 ^ (fraction.drop 18).length + numeral (fraction.drop 18) := by
      rw [← numeral_append, List.take_append_drop]
    have hdropped := numeral_drop_lt hdigits
    rw [hsplit, hlength, Nat.pow_add, div_of_parts (by decide) hdropped hscale, Nat.min_eq_left (by omega),
      ← Nat.add_assoc]
    push_cast
    rfl

/-- In a unit that is a power of ten of nanoseconds no dropped place counts. -/
theorem not_carries_of_dvd (hdigits : ∀ c ∈ fraction, c.isDigit = true) (hscale : 0 < scale) (hdvd : scale ∣ 10 ^ 18) :
    ¬Carries scale fraction := by
  obtain ⟨parts, hparts⟩ := hdvd
  have hdropped := numeral_drop_lt hdigits
  unfold Carries
  rw [hparts, Nat.mul_comm (numeral _) scale, Nat.mul_mod_mul_left]
  generalize hrest : numeral (fraction.take 18) % parts = rest
  have hpositive : 0 < parts := Nat.pos_of_ne_zero fun h => by rw [h] at hparts; cases hparts
  have hlt : rest + 1 ≤ parts := hrest ▸ Nat.mod_lt _ hpositive
  refine Nat.not_le.2 ?_
  calc scale * rest * 10 ^ (fraction.drop 18).length + numeral (fraction.drop 18) * scale
      < scale * rest * 10 ^ (fraction.drop 18).length + 10 ^ (fraction.drop 18).length * scale :=
        Nat.add_lt_add_left (Nat.mul_lt_mul_of_pos_right hdropped hscale) _
    _ = scale * (rest + 1) * 10 ^ (fraction.drop 18).length := by ring
    _ ≤ scale * parts * 10 ^ (fraction.drop 18).length := Nat.mul_le_mul_right _ (Nat.mul_le_mul_left _ hlt)

/-! ### Reading -/

theorem isNumeral_of_pointed (hdigits : ∀ c ∈ whole ++ fraction, c.isDigit = true) :
    ∀ c ∈ whole ++ '.' :: fraction, isNumeral c = true := by
  intro c hc
  rw [List.mem_append, List.mem_cons] at hc
  obtain hc | rfl | hc := hc
  · exact isNumeral_of_isDigit (hdigits c (List.mem_append_left _ hc))
  · rfl
  · exact isNumeral_of_isDigit (hdigits c (List.mem_append_right _ hc))

/-- What one component with a point weighs. -/
theorem weigh_pointed {n : Nat} (hdigits : ∀ c ∈ whole ++ fraction, c.isDigit = true) (hunit : Measures unit scale)
    (h : weigh (whole ++ '.' :: fraction, unit) = .ok n) :
    n = numeral whole * scale + numeral (fraction.take 18) * scale / 10 ^ min 18 fraction.length := by
  obtain ⟨⟨scale', hunit', hamount⟩, hfits⟩ := (weigh_eq_ok_iff (isNumeral_of_pointed hdigits)).1 h
  have hsame : scale' = scale := by
    have hread := unitScale?_eq_some_iff.2 hunit'
    rw [unitScale?_eq_some_iff.2 hunit] at hread
    exact (Option.some.inj hread).symm
  subst hsame
  have hwhole := not_mem_point fun c hc => hdigits c (List.mem_append_left _ hc)
  have hfraction := not_mem_point fun c hc => hdigits c (List.mem_append_right _ hc)
  have hscaled := scaled_of_amount hunit.pos hamount hfits
  rw [numeral_eq_ofDigits, numeral_eq_ofDigits]
  exact ((scaled_pointed hunit.pos hwhole hfraction).1 hscaled).1.symm

/-- A single component is the whole text: there is nothing else to add to it. -/
theorem weigh_of_parseBody {negative : Bool} {number : List Char} {d : Duration}
    (hnumber : ∀ c ∈ number, isNumeral c = true) (hpoint : '.' ∈ number) (hunit : Measures unit scale)
    (h : parseBody negative (number ++ unit) = .ok d) :
    weigh (number, unit) = .ok d.nanoseconds := by
  have hbody := (parseBody_eq_ok_iff.1 h).1
  have hcomponents : Components (number ++ unit) d.nanoseconds := by
    refine hbody.resolve_left fun hbare => ?_
    have hmem : '.' ∈ number ++ unit := List.mem_append_left _ hpoint
    rw [hbare.1] at hmem
    exact absurd hmem (by decide)
  have htotal := total_of_components hcomponents (by rw [Nat.zero_add]; exact nanoseconds_lt_wide d)
  have hruns := runs_append [] (List.ne_nil_of_mem hpoint) hnumber hunit.ne_nil hunit.not_isNumeral (by simp)
  rw [List.append_nil] at hruns
  rw [hruns, total_cons_eq_ok_iff] at htotal
  obtain ⟨n, hweigh, -, hsum⟩ := htotal
  rw [hweigh, show n = d.nanoseconds by simpa using Except.ok.inj hsum]

theorem parseBody_of_isPointed {text : String} {d : Duration} (htext : IsPointed text whole fraction unit)
    (h : parse text = .ok d) : ∃ negative, parseBody negative (whole ++ '.' :: fraction ++ unit) = .ok d := by
  obtain ⟨⟨sign, hshape, hsign⟩, hdigits⟩ := htext
  obtain rfl | rfl | rfl := hsign
  · obtain ⟨c, r, hbody⟩ : ∃ c r, whole ++ '.' :: fraction = c :: r := List.exists_cons_of_ne_nil (by simp)
    have hc : isNumeral c = true := isNumeral_of_pointed hdigits c (by rw [hbody]; exact List.mem_cons_self)
    rw [List.nil_append, hbody, List.cons_append] at hshape
    rw [parse_unsigned hshape (by rintro rfl; cases hc) (by rintro rfl; cases hc)] at h
    rw [hbody]
    exact ⟨false, h⟩
  · unfold parse at h
    rw [hshape] at h
    exact ⟨false, h⟩
  · unfold parse at h
    rw [hshape] at h
    exact ⟨true, h⟩

/-- What is read of a single component falls short of its exact length, rounded down, by what the dropped places
carry. -/
theorem nanoseconds_of_isPointed {text : String} {d : Duration} (htext : IsPointed text whole fraction unit)
    (hunit : Measures unit scale) (h : parse text = .ok d) :
    ⌊exactLength whole fraction scale⌋ = (d.nanoseconds : ℤ) + if Carries scale fraction then 1 else 0 := by
  obtain ⟨negative, hbody⟩ := parseBody_of_isPointed htext h
  have hdigits := htext.2
  have hweigh := weigh_of_parseBody (isNumeral_of_pointed hdigits) (by simp) hunit hbody
  rw [weigh_pointed hdigits hunit hweigh]
  exact floor_exact_eq (fun c hc => hdigits c (List.mem_append_right _ hc)) hunit.le

theorem eq_floor_iff_not_carries {text : String} {d : Duration} (htext : IsPointed text whole fraction unit)
    (hunit : Measures unit scale) (h : parse text = .ok d) :
    (d.nanoseconds : ℤ) = ⌊exactLength whole fraction scale⌋ ↔ ¬Carries scale fraction := by
  rw [nanoseconds_of_isPointed htext hunit h]
  split_ifs with hcarries
  · simp [hcarries]
  · simp [hcarries]

end

/-! ## Exactness -/

theorem Measures.dvd {unit : List Char} {scale : Nat} (h : Measures unit scale) (hminute : unit ≠ ['m'])
    (hhour : unit ≠ ['h']) : scale ∣ 10 ^ 18 := by
  cases h with
  | minute => exact absurd rfl hminute
  | hour => exact absurd rfl hhour
  | _ => decide

/-- Just over a nanosecond, in nineteen places of a minute. -/
theorem minute_falls_short :
    IsPointed "0.0000000000166666669m" ['0'] "0000000000166666669".toList ['m'] ∧
      parse "0.0000000000166666669m" = .ok zero ∧ Carries (60 * 10 ^ 9) "0000000000166666669".toList :=
  ⟨⟨⟨[], by decide, .inl rfl⟩, List.all_eq_true.1 (by decide)⟩, by decide, by decide⟩

/-- Just over a nanosecond, in nineteen places of an hour. -/
theorem hour_falls_short :
    IsPointed "0.0000000000002777779h" ['0'] "0000000000002777779".toList ['h'] ∧
      parse "0.0000000000002777779h" = .ok zero ∧ Carries (3600 * 10 ^ 9) "0000000000002777779".toList :=
  ⟨⟨⟨[], by decide, .inl rfl⟩, List.all_eq_true.1 (by decide)⟩, by decide, by decide⟩

/-- A component is read as its exact length, rounded down, unless its dropped places carry; then it is read as one
nanosecond less.  They never do in a unit of a second or below, and they can in a minute and in an hour. -/
theorem reads_floor_iff {unit : List Char} {scale : Nat} (hunit : Measures unit scale) :
    (∀ text whole fraction d, IsPointed text whole fraction unit → parse text = .ok d →
      ((d.nanoseconds : ℤ) = ⌊exactLength whole fraction scale⌋ ↔ ¬Carries scale fraction) ∧
      (Carries scale fraction → (d.nanoseconds : ℤ) + 1 = ⌊exactLength whole fraction scale⌋)) ∧
    ((∀ text whole fraction d, IsPointed text whole fraction unit → parse text = .ok d →
      (d.nanoseconds : ℤ) = ⌊exactLength whole fraction scale⌋) ↔ unit ≠ ['m'] ∧ unit ≠ ['h']) := by
  refine ⟨fun text whole fraction d htext hread =>
    ⟨eq_floor_iff_not_carries htext hunit hread, fun hcarries => ?_⟩, ?_, ?_⟩
  · rw [nanoseconds_of_isPointed htext hunit hread, if_pos hcarries]
  · intro hexact
    constructor
    · rintro rfl
      cases hunit
      obtain ⟨htext, hread, hcarries⟩ := minute_falls_short
      exact (eq_floor_iff_not_carries htext .minute hread).1 (hexact _ _ _ _ htext hread) hcarries
    · rintro rfl
      cases hunit
      obtain ⟨htext, hread, hcarries⟩ := hour_falls_short
      exact (eq_floor_iff_not_carries htext .hour hread).1 (hexact _ _ _ _ htext hread) hcarries
  · rintro ⟨hminute, hhour⟩ text whole fraction d htext hread
    refine (eq_floor_iff_not_carries htext hunit hread).2 ?_
    exact not_carries_of_dvd (fun c hc => htext.2 c (List.mem_append_right _ hc)) hunit.pos (hunit.dvd hminute hhour)

/-- Two and a half hours with nineteen places lose the nanosecond that their places make up. -/
theorem long_hours_are_short : Measures ['h'] (3600 * 10 ^ 9) ∧ ∃ d,
    IsPointed "+2.5000000000002777779h" ['2'] "5000000000002777779".toList ['h'] ∧
    parse "+2.5000000000002777779h" = .ok d ∧ Carries (3600 * 10 ^ 9) "5000000000002777779".toList ∧
    (d.nanoseconds : ℤ) + 1 = ⌊exactLength ['2'] "5000000000002777779".toList (3600 * 10 ^ 9)⌋ := by
  have hpointed : IsPointed "+2.5000000000002777779h" ['2'] "5000000000002777779".toList ['h'] :=
    ⟨⟨['+'], by decide, .inr (.inl rfl)⟩, List.all_eq_true.1 (by decide)⟩
  have hread : parse "+2.5000000000002777779h" = .ok ⟨9000 * 10 ^ 9, by decide⟩ := by decide
  have hcarries : Carries (3600 * 10 ^ 9) "5000000000002777779".toList := by decide
  exact ⟨.hour, _, hpointed, hread, hcarries, ((reads_floor_iff .hour).1 _ _ _ _ hpointed hread).2 hcarries⟩

/-- `0.0000000000002777779h` is a nanosecond and a little more, and is read as nothing. -/
theorem nineteen_places_are_cut_short : ∃ d, parse "0.0000000000002777779h" = .ok d ∧ d.nanoseconds = 0 ∧
    IsPointed "0.0000000000002777779h" ['0'] "0000000000002777779".toList ['h'] ∧ Measures ['h'] (3600 * 10 ^ 9) ∧
    ⌊exactLength ['0'] "0000000000002777779".toList (3600 * 10 ^ 9)⌋ = 1 := by
  obtain ⟨htext, hread, hcarries⟩ := hour_falls_short
  refine ⟨zero, hread, rfl, htext, .hour, ?_⟩
  rw [nanoseconds_of_isPointed htext .hour hread, if_pos hcarries]
  rfl

end ProfilingOperator.Duration
