import ServiceRouting.Proofs.Json.Integers

/-!
# Numbers as text

Every number, a binary64 number too, is written as the grammar wants it: digits without a
superfluous zero, then perhaps a fraction and an exponent (`exists_isDecimal_text`). So the reader
takes the whole text for the parts of a number, whatever delimiter follows it (`scanNumber_retold`).
What number they denote is another matter: a binary64 number may come back with another last bit.
-/

namespace ServiceRouting.Decimal

/-- Zero is written without an exponent. -/
def Scientific.IsPlain (s : Scientific) : Prop := s.digits = 0 → s.exponent = 0

/-- The digits of a point of the grid that is rounded to a positive number are not zero. -/
theorem Rounding.digits_ne_zero {r : Rounding} {exponent : Int} {s : Scientific}
    (hlow : 0 < r.low) (h : r.onGrid? exponent = some s) : s.digits ≠ 0 := by
  have hpositive : 0 < r.low * Nat.pow 10 (-exponent).toNat :=
    Nat.mul_pos hlow (Nat.pow_pos (by decide))
  -- What is not below the lower end is not zero.
  have hne : ∀ {n unit : Nat}, r.low * Nat.pow 10 (-exponent).toNat ≤ n * unit → n ≠ 0 := by
    rintro _ unit hle rfl
    rw [Nat.zero_mul] at hle
    omega
  unfold onGrid? at h
  cases hclosed : r.closed with
  | true =>
      simp only [hclosed, if_true] at h
      split at h
      next hbelow =>
        cases h
        simp only [Bool.and_eq_true, decide_eq_true_eq] at hbelow
        exact hne hbelow.1.1
      next =>
        obtain ⟨-, h⟩ := Option.ite_none_right_eq_some.1 h
        cases h
        exact Nat.succ_ne_zero _
  | false =>
      simp only [hclosed, Bool.false_eq_true, if_false] at h
      split at h
      next hbelow =>
        cases h
        simp only [Bool.and_eq_true, decide_eq_true_eq] at hbelow
        exact hne (Nat.le_of_lt hbelow.1.1)
      next =>
        obtain ⟨-, h⟩ := Option.ite_none_right_eq_some.1 h
        cases h
        exact Nat.succ_ne_zero _

/-- A search on grids ends with a plain decimal. -/
theorem Rounding.isPlain_search {r : Rounding} (hlow : 0 < r.low) (magnitude : Int) (tries : Nat) :
    (r.search magnitude tries).IsPlain := by
  induction tries with
  | zero => exact fun _ => rfl
  | succ tries ih =>
      rw [search]
      split
      next found hfound => exact fun hzero => absurd hzero (digits_ne_zero hlow hfound)
      next => exact ih

/-- Moving zeros keeps a decimal plain. -/
theorem Scientific.IsPlain.normalize {s : Scientific} (h : s.IsPlain) (fuel : Nat) :
    (s.normalize fuel).IsPlain := by
  induction fuel generalizing s with
  | zero => exact h
  | succ fuel ih =>
      rw [Scientific.normalize]
      split
      next hzeros =>
        refine ih fun hzero => ?_
        have hzero : s.digits / 10 = 0 := hzero
        omega
      next => exact h

/-- A number with a significand is more than its lower end, which is more than zero. -/
theorem Binary.low_rounding_pos {b : Binary} (h : 0 < b.significand) : 0 < b.rounding.low := by
  refine Nat.mul_pos ?_ (Nat.pow_pos (by decide))
  split <;> omega

/-- Bits below the sign that are not all zero have a significand. -/
theorem Binary.significand_ofBits_pos {bits : UInt64} (hsign : bits.toNat < 9223372036854775808)
    (h : bits ≠ 0) : 0 < (ofBits bits).significand := by
  have hne : bits.toNat ≠ 0 := fun hzero => h (UInt64.toNat_inj.1 hzero)
  unfold ofBits
  dsimp only
  split
  next =>
    show 0 < bits.toNat % 4503599627370496
    omega
  next =>
    show 0 < 4503599627370496 + bits.toNat % 4503599627370496
    omega

/-- The shortest decimal of a number that is not zero is plain. -/
theorem isPlain_shortest {bits : UInt64} (hsign : bits.toNat < 9223372036854775808) (h : bits ≠ 0) :
    (shortest bits).IsPlain :=
  (Rounding.isPlain_search (Binary.low_rounding_pos (Binary.significand_ofBits_pos hsign h)) _
    17).normalize 17

end ServiceRouting.Decimal

namespace ServiceRouting.Json

variable {text rest digits : List Char} {c : Char}

/-- The fraction of a number: digits after a point, or nothing. -/
inductive IsFraction : List Char → Prop where
  | absent : IsFraction []
  | digits (digits : List Char) :
      digits ≠ [] → (∀ d ∈ digits, d.isDigit = true) → IsFraction ('.' :: digits)

/-- The exponent of a number: digits after the letter, with a sign or without; or nothing. -/
inductive IsExponent : List Char → Prop where
  | absent : IsExponent []
  | digits (sign : List Char) (c : Char) (digits : List Char) :
      sign ∈ [[], ['+'], ['-']] → (∀ d ∈ c :: digits, d.isDigit = true) →
      IsExponent ('e' :: sign ++ (c :: digits))

/-- A number without its sign. Before the point stand digits without a superfluous zero. -/
inductive IsDecimal : List Char → Prop where
  | intro (c : Char) (digits fraction exponent : List Char) :
      (∀ d ∈ c :: digits, d.isDigit = true) → (c = '0' → digits = []) → IsFraction fraction →
      IsExponent exponent → IsDecimal (c :: digits ++ (fraction ++ exponent))

/-- A text that goes on neither with a digit nor with a point. -/
def EndsDigits (text : List Char) : Prop := NoDigit text ∧ text.head? ≠ some '.'

/-- The exponent is read up to a delimiter. -/
theorem IsExponent.scan (h : IsExponent text) : ∃ exponent, ∀ rest, Delimited rest →
    scanExponent (text ++ rest) = some (exponent, rest) := by
  cases h with
  | absent => exact ⟨_, fun rest hrest => by cases hrest <;> rfl⟩
  | digits sign c digits hsign hdigits =>
      have hplus : c ≠ '+' := ne_of_isDigit (hdigits c List.mem_cons_self) rfl
      have hminus : c ≠ '-' := ne_of_isDigit (hdigits c List.mem_cons_self) rfl
      refine ⟨some (decide (sign = ['-']), digitValues (c :: digits)), fun rest hrest => ?_⟩
      have htaken : takeDigits (c :: digits ++ rest) = (digitValues (c :: digits), rest) :=
        takeDigits_append hdigits hrest.noDigit
      have hsigned : takeSign (sign ++ (c :: digits ++ rest)) =
          (decide (sign = ['-']), c :: digits ++ rest) := by
        simp only [List.mem_cons, List.not_mem_nil, or_false] at hsign
        rcases hsign with rfl | rfl | rfl
        · show takeSign (c :: (digits ++ rest)) = _
          unfold takeSign
          split
          next heq => exact absurd (List.cons.inj heq).1 hplus
          next heq => exact absurd (List.cons.inj heq).1 hminus
          next => rfl
        · rfl
        · rfl
      show scanPower (sign ++ (c :: digits) ++ rest) = _
      rw [List.append_assoc, scanPower, hsigned]
      simp only [htaken]
      rfl

/-- No digit of what comes before it goes on in an exponent. -/
theorem IsExponent.endsDigits (h : IsExponent text) (hrest : Delimited rest) :
    EndsDigits (text ++ rest) := by
  cases h with
  | absent =>
      refine ⟨hrest.noDigit, ?_⟩
      cases hrest <;> exact nofun
  | digits sign c digits hsign hdigits =>
      refine ⟨fun d hd => ?_, nofun⟩
      cases hd
      rfl

/-- The fraction is read up to where its digits end. -/
theorem IsFraction.scan (h : IsFraction text) : ∃ fraction, ∀ rest, EndsDigits rest →
    scanFraction (text ++ rest) = some (fraction, rest) := by
  cases h with
  | absent =>
      refine ⟨[], fun rest hrest => ?_⟩
      show scanFraction rest = _
      unfold scanFraction
      split
      next => exact absurd rfl hrest.2
      next => rfl
  | digits digits hne hdigits =>
      refine ⟨digitValues digits, fun rest hrest => ?_⟩
      have hsome : ¬ (digitValues digits).isEmpty = true := by simp [digitValues, hne]
      rw [List.cons_append, scanFraction, takeDigits_append hdigits hrest.1, if_neg hsome]

/-- No digit of what comes before it goes on in a fraction. -/
theorem IsFraction.noDigit (h : IsFraction text) (hrest : NoDigit rest) :
    NoDigit (text ++ rest) := by
  cases h with
  | absent => exact hrest
  | digits digits hne hdigits =>
      intro d hd
      cases hd
      rfl

/-- A number is read up to a delimiter. -/
theorem IsDecimal.scan (h : IsDecimal text) (negative : Bool) : ∃ parts, ∀ rest, Delimited rest →
    scanParts ((if negative then ['-'] else []) ++ (text ++ rest)) = some (parts, rest) := by
  cases h with
  | intro c digits fraction exponent hdigits hzero hfraction hexponent =>
      obtain ⟨fractionDigits, hscanFraction⟩ := hfraction.scan
      obtain ⟨exponentDigits, hscanExponent⟩ := hexponent.scan
      refine ⟨⟨negative, digitValues (c :: digits), fractionDigits, exponentDigits⟩,
        fun rest hrest => ?_⟩
      have hends := hexponent.endsDigits hrest
      rw [List.append_assoc, List.append_assoc,
        scanParts_append negative hdigits hzero (hfraction.noDigit hends.1), scanTail,
        hscanFraction _ hends]
      simp only [Option.bind_eq_bind, Option.bind_some, hscanExponent _ hrest]
      rfl

/-- The digits of a number. -/
theorem isDigit_toDigits (n : Nat) : ∀ d ∈ Nat.toDigits 10 n, d.isDigit = true :=
  fun _ hd => Nat.isDigit_of_mem_toDigits (by decide) (by decide) hd

/-- The digits of a number are a number. -/
theorem isDecimal_toDigits (n : Nat) : IsDecimal (Nat.toDigits 10 n) := by
  obtain ⟨c, digits, heq, hzero⟩ := exists_toDigits_eq n
  have hdigits := isDigit_toDigits n
  rw [heq] at hdigits ⊢
  rw [← List.append_nil (c :: digits)]
  exact .intro c digits [] [] hdigits hzero .absent .absent

/-- Only zero is written with a zero in front. -/
theorem eq_zero_of_toDigits {n : Nat} (h : Nat.toDigits 10 n = '0' :: digits) : n = 0 := by
  obtain ⟨c, more, heq, hzero⟩ := exists_toDigits_eq n
  obtain ⟨rfl, rfl⟩ := List.cons.inj (h.symm.trans heq)
  obtain rfl := hzero rfl
  rw [← Nat.ofDigitChars_ten_toDigits (n := n), heq]
  rfl

/-- The exponent of a decimal that is not written positionally. A plus stands only before an
exponent that has no sign of its own. -/
theorem isExponent_toString (plus : Bool) (point : Int) :
    IsExponent ('e' :: (if plus && 0 < point then ['+'] else []) ++
      (toString (point - 1)).toList) := by
  cases hexponent : point - 1 with
  | ofNat n =>
      obtain ⟨c, digits, heq, -⟩ := exists_toDigits_eq n
      have hdigits := isDigit_toDigits n
      have htext : (toString (Int.ofNat n)).toList = c :: digits := (text_natCast n).trans heq
      rw [heq] at hdigits
      rw [htext]
      refine .digits _ c digits ?_ hdigits
      split <;> simp
  | negSucc n =>
      obtain ⟨c, digits, heq, -⟩ := exists_toDigits_eq (n + 1)
      have hdigits := isDigit_toDigits (n + 1)
      have htext : (toString (Int.negSucc n)).toList = '-' :: (c :: digits) :=
        (text_negSucc n).trans (congrArg _ heq)
      have hnegative : ¬ 0 < point := by
        rw [Int.negSucc_eq] at hexponent
        omega
      rw [heq] at hdigits
      rw [htext, decide_eq_false hnegative, Bool.and_false]
      exact .digits ['-'] c digits (by simp) hdigits

/-- Digits before and behind a point are a decimal. -/
theorem isDecimal_point {behind : List Char} (hdigits : ∀ d ∈ c :: digits, d.isDigit = true)
    (hzero : c = '0' → digits = []) (hne : behind ≠ [])
    (hbehind : ∀ d ∈ behind, d.isDigit = true) : IsDecimal (c :: digits ++ '.' :: behind) := by
  have hdecimal := IsDecimal.intro c digits _ [] hdigits hzero (.digits behind hne hbehind) .absent
  rwa [List.append_nil] at hdecimal

/-- A digit with the digits behind the point and an exponent is a decimal. -/
theorem isDecimal_exponent {d : Char} {exponent : List Char}
    (hdigits : ∀ e ∈ c :: d :: digits, e.isDigit = true) (hexponent : IsExponent exponent) :
    IsDecimal (c :: '.' :: d :: digits ++ exponent) := by
  obtain ⟨hc, hbehind⟩ := List.forall_mem_cons.1 hdigits
  have hfraction : IsFraction ('.' :: d :: digits) := .digits _ (by simp) hbehind
  exact .intro c [] _ _ (by simpa using hc) (fun _ => rfl) hfraction hexponent

/-- A plain decimal is written as the grammar wants it. -/
theorem isDecimal_write (style : Decimal.Layout) {s : Decimal.Scientific} (hs : s.IsPlain) :
    IsDecimal (style.write s).toList := by
  obtain ⟨c, digits, heq, hzero⟩ := exists_toDigits_eq s.digits
  have hdigits := isDigit_toDigits s.digits
  have hexponent : c = '0' → s.exponent = 0 := fun hc => hs (eq_zero_of_toDigits (hc ▸ heq))
  rw [heq] at hdigits
  obtain ⟨hc, htail⟩ := List.forall_mem_cons.1 hdigits
  have hzeros : ∀ n, ∀ d ∈ List.replicate n '0', d.isDigit = true := fun n d hd => by
    rw [List.eq_of_mem_replicate hd]
    rfl
  unfold Decimal.Layout.write
  dsimp only
  rw [heq]
  split
  next hwhole =>
    -- All digits stand before the point.
    rw [String.toList_ofList, List.cons_append]
    refine isDecimal_point ?_ ?_ (by simp) (by simp)
    · exact List.forall_mem_cons.2 ⟨hc, List.forall_mem_append.2 ⟨htail, hzeros _⟩⟩
    · intro h
      rw [hzero h, hexponent h]
      rfl
  next hwhole =>
    split
    next hpoint =>
      -- Some digits stand before the point, and some behind it.
      rw [List.length_cons] at hwhole hpoint ⊢
      obtain ⟨k, hk⟩ : ∃ k, ((digits.length + 1 : Nat) + s.exponent).toNat = k + 1 :=
        Nat.exists_eq_succ_of_ne_zero (by omega)
      have hbehind : k < digits.length := by omega
      rw [String.toList_ofList, hk, List.take_succ_cons, List.drop_succ_cons]
      refine isDecimal_point ?_ ?_ ?_ fun d hd => htail d (List.mem_of_mem_drop hd)
      · exact List.forall_mem_cons.2 ⟨hc, fun d hd => htail d (List.mem_of_mem_take hd)⟩
      · intro h
        have := hexponent h
        omega
      · simpa using hbehind
    next =>
      split
      next =>
        -- All digits stand behind the point.
        rw [String.toList_ofList]
        exact isDecimal_point (c := '0') (by simp) (fun _ => rfl) (by simp)
          (List.forall_mem_append.2 ⟨hzeros _, hdigits⟩)
      next =>
        have hexponent := isExponent_toString style.plus (((c :: digits).length : Int) + s.exponent)
        cases digits with
        | nil =>
            rw [String.toList_ofList]
            exact .intro c [] [] _ hdigits (fun _ => rfl) .absent hexponent
        | cons d more =>
            rw [String.toList_ofList]
            exact isDecimal_exponent hdigits hexponent

/-- A number is written with a sign or without, and as the grammar wants it. -/
theorem exists_isDecimal_text (n : Number) : ∃ (negative : Bool) (text : List Char),
    IsDecimal text ∧ n.text.toList = (if negative then ['-'] else []) ++ text := by
  cases n with
  | integer value =>
      cases value with
      | ofNat n => exact ⟨false, _, isDecimal_toDigits n, text_natCast n⟩
      | negSucc n => exact ⟨true, _, isDecimal_toDigits (n + 1), text_negSucc n⟩
  | float bits =>
      rw [Number.text, floatText, String.toList_append]
      generalize hmagnitude : bits &&& 0x7FFFFFFFFFFFFFFF = magnitude
      have hsign : magnitude.toNat < 9223372036854775808 := by
        rw [← hmagnitude, UInt64.toNat_and]
        exact Nat.lt_of_le_of_lt Nat.and_le_right (by decide)
      have hdecimal : IsDecimal (if magnitude = 0 then "0.0"
          else numberLayout.write (Decimal.shortest magnitude)).toList := by
        split
        next =>
          exact .intro '0' [] ['.', '0'] [] (by simp) (fun _ => rfl)
            (.digits ['0'] (by simp) (by simp)) .absent
        next hne => exact isDecimal_write _ (Decimal.isPlain_shortest hsign hne)
      refine ⟨!decide (bits = magnitude), _, hdecimal, ?_⟩
      by_cases hbits : bits = magnitude <;> simp [hbits]

/-- The text of a number is taken for parts, whatever delimiter follows it. -/
theorem exists_scanParts (n : Number) : ∃ parts, ∀ rest, Delimited rest →
    scanParts (n.text.toList ++ rest) = some (parts, rest) := by
  obtain ⟨negative, text, hdecimal, htext⟩ := exists_isDecimal_text n
  obtain ⟨parts, hparts⟩ := hdecimal.scan negative
  refine ⟨parts, fun rest hrest => ?_⟩
  rw [htext, List.append_assoc]
  exact hparts rest hrest

/-- What the reader makes of the text of a number. -/
def Number.retold (n : Number) : Document := (scanNumber n.text.toList).found

/-- The text of a number is read up to a delimiter. -/
theorem scanNumber_retold (n : Number) (hrest : Delimited rest) :
    scanNumber (n.text.toList ++ rest) = ⟨n.retold, some rest⟩ := by
  obtain ⟨parts, hparts⟩ := exists_scanParts n
  have halone := hparts [] .nil
  rw [List.append_nil] at halone
  rw [Number.retold, scanNumber, scanNumber, halone, hparts rest hrest]
  cases hnumber : Number.ofParts parts with
  | none => simp only [hnumber]
  | some number => simp only [hnumber]

/-- The text of a number starts with a sign or a digit. -/
theorem exists_text_eq (n : Number) :
    ∃ c rest, n.text.toList = c :: rest ∧ (c = '-' ∨ c.isDigit = true) := by
  obtain ⟨negative, text, hdecimal, htext⟩ := exists_isDecimal_text n
  cases negative with
  | true => exact ⟨'-', text, htext, .inl rfl⟩
  | false =>
      cases hdecimal with
      | intro c digits fraction exponent hdigits _ _ _ =>
          exact ⟨c, _, htext, .inr (hdigits c List.mem_cons_self)⟩

/-- An integer of 64 bits is read back. -/
theorem Number.IsInteger.retold {n : Number} (h : n.IsInteger) : n.retold = .number n := by
  have hscan := scanNumber_text h .nil
  rw [List.append_nil] at hscan
  rw [Number.retold, hscan]

end ServiceRouting.Json
