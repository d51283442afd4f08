import ServiceRouting.Json.Reader
import ServiceRouting.Json.Writer

/-!
# Integers as text

An integer of 64 bits, signed or unsigned, is read back from its decimal digits, whatever delimiter
follows them (`scanNumber_text`). None of its digits is left out of the significand, and no first
digit is a zero that the grammar would refuse.
-/

namespace ServiceRouting.Json

/-- An integer of 64 bits, signed or unsigned. -/
def Number.IsInteger : Number → Prop
  | .integer value => -9223372036854775808 ≤ value ∧ value < 18446744073709551616
  | .float _ => False

/-- What follows a value: the end of the text, or a character that no value goes on with. -/
inductive Delimited : List Char → Prop where
  | nil : Delimited []
  | comma (rest : List Char) : Delimited (',' :: rest)
  | bracket (rest : List Char) : Delimited (']' :: rest)
  | brace (rest : List Char) : Delimited ('\x7d' :: rest)

/-- A text that does not begin with a digit. -/
def NoDigit (text : List Char) : Prop := ∀ c ∈ text.head?, c.isDigit = false

/-- No delimiter is a digit. -/
theorem Delimited.noDigit {text : List Char} (h : Delimited text) : NoDigit text := by
  cases h with
  | nil => exact nofun
  | comma rest | bracket rest | brace rest =>
      intro c hc
      cases hc
      rfl

/-- The values of digits. -/
def digitValues (digits : List Char) : List Nat := digits.map fun c => c.toNat - '0'.toNat

variable {digits rest : List Char} {c : Char}

/-- What is a digit differs from what is none. -/
theorem ne_of_isDigit {d : Char} (hc : c.isDigit = true) (hd : d.isDigit = false) : c ≠ d := by
  rintro rfl
  rw [hc] at hd
  cases hd

/-- Digits are taken up to where they end. -/
theorem takeDigits_append (hdigits : ∀ c ∈ digits, c.isDigit = true) (hrest : NoDigit rest) :
    takeDigits (digits ++ rest) = (digitValues digits, rest) := by
  have htake : rest.takeWhile Char.isDigit = [] ∧ rest.dropWhile Char.isDigit = rest := by
    cases rest with
    | nil => exact ⟨rfl, rfl⟩
    | cons c rest => simp [hrest c rfl]
  rw [takeDigits, List.takeWhile_append_of_pos hdigits, List.dropWhile_append_of_pos hdigits,
    htake.1, htake.2, List.append_nil, digitValues]

/-- Neither fraction nor exponent comes before a delimiter. -/
theorem scanTail_delimited (negative : Bool) (whole : List Nat) (hrest : Delimited rest) :
    scanTail negative whole rest = some ({ negative, whole }, rest) := by
  cases hrest <;> rfl

/-- The digits of a number that has more than one do not start with a zero. -/
theorem exists_toDigits_eq (n : Nat) :
    ∃ c digits, Nat.toDigits 10 n = c :: digits ∧ (c = '0' → digits = []) := by
  induction n using Nat.strongRecOn with
  | ind n ih =>
      rw [Nat.toDigits_eq_if (by decide)]
      by_cases hsmall : n < 10
      · exact ⟨n.digitChar, [], if_pos hsmall, fun _ => rfl⟩
      · obtain ⟨c, digits, hdigits, hzero⟩ := ih (n / 10) (by omega)
        refine ⟨c, digits ++ [(n % 10).digitChar], by rw [if_neg hsmall, hdigits]; rfl, ?_⟩
        intro hc
        -- The number before the last digit would be zero.
        have hnil := hzero hc
        subst hc hnil
        have hvalue : n / 10 = 0 := by
          rw [← Nat.ofDigitChars_ten_toDigits (n := n / 10), hdigits]
          rfl
        omega

/-- The number that digits write is at least what they are appended to. -/
theorem le_ofDigitChars (digits : List Char) (significand : Nat) :
    significand ≤ Nat.ofDigitChars 10 digits significand := by
  induction digits generalizing significand with
  | nil => simp
  | cons c digits ih =>
      rw [Nat.ofDigitChars_cons]
      exact Nat.le_trans (by omega) (ih _)

/-- No digit of a number below 2^64 is left out of its significand. -/
theorem accumulate_digitValues {significand : Nat}
    (h : Nat.ofDigitChars 10 digits significand < 18446744073709551616) :
    Number.accumulate significand (digitValues digits) =
      (Nat.ofDigitChars 10 digits significand, []) := by
  induction digits generalizing significand with
  | nil => rfl
  | cons c digits ih =>
      rw [Nat.ofDigitChars_cons, Nat.mul_comm] at h
      have hfits := Nat.lt_of_le_of_lt (le_ofDigitChars digits _) h
      rw [digitValues, List.map_cons, Number.accumulate, if_pos hfits, Nat.ofDigitChars_cons,
        Nat.mul_comm 10]
      exact ih h

/-- A number below 2^64 is written by digits that are read back as it. -/
theorem accumulate_toDigits {n : Nat} (h : n < 18446744073709551616) :
    Number.accumulate 0 (digitValues (Nat.toDigits 10 n)) = (n, []) := by
  have hvalue : Nat.ofDigitChars 10 (Nat.toDigits 10 n) 0 = n := Nat.ofDigitChars_ten_toDigits
  rw [accumulate_digitValues (by rwa [hvalue]), hvalue]

/-- Digits without a superfluous zero are all that stands before the point of a number. -/
theorem scanParts_append (negative : Bool) (hdigits : ∀ d ∈ c :: digits, d.isDigit = true)
    (hzero : c = '0' → digits = []) (hrest : NoDigit rest) :
    scanParts ((if negative then ['-'] else []) ++ (c :: digits ++ rest)) =
      scanTail negative (digitValues (c :: digits)) rest := by
  by_cases hc : c = '0'
  · obtain rfl := hzero hc
    subst hc
    cases rest with
    | nil => cases negative <;> rfl
    | cons d rest =>
        have hd : d.isDigit = false := hrest d rfl
        have hzero : ∀ sign, (if d.isDigit then none else scanTail sign [0] (d :: rest)) =
            scanTail sign (digitValues ['0']) (d :: rest) := fun sign => by
          rw [if_neg (by simp [hd])]
          rfl
        cases negative with
        | true => exact hzero true
        | false => exact hzero false
  · have hminus : c ≠ '-' := ne_of_isDigit (hdigits c List.mem_cons_self) rfl
    have htaken : takeDigits (c :: (digits ++ rest)) = (digitValues (c :: digits), rest) :=
      takeDigits_append hdigits hrest
    cases negative with
    | true =>
        show scanParts ('-' :: c :: (digits ++ rest)) = _
        simp only [scanParts, htaken]
        split
        next heq => exact absurd (List.cons.inj heq).1 hc
        next => rfl
    | false =>
        show scanParts (c :: (digits ++ rest)) = _
        unfold scanParts
        split
        next sign text hsign =>
          split at hsign
          next heq => exact absurd (List.cons.inj heq).1 hminus
          next =>
            obtain ⟨rfl, rfl⟩ := Prod.mk.inj hsign
            split
            next heq => exact absurd (List.cons.inj heq).1 hc
            next =>
              rw [htaken]
              rfl

/-- The digits of a number are read back, with a sign or without. -/
theorem scanNumber_toDigits (negative : Bool) {n : Nat} {number : Number}
    (hparts : Number.ofParts { negative, whole := digitValues (Nat.toDigits 10 n) } = some number)
    (hrest : Delimited rest) :
    scanNumber ((if negative then ['-'] else []) ++ (Nat.toDigits 10 n ++ rest)) =
      ⟨.number number, some rest⟩ := by
  obtain ⟨c, digits, hdigits, hzero⟩ := exists_toDigits_eq n
  have hall : ∀ d ∈ c :: digits, d.isDigit = true := fun d hd =>
    Nat.isDigit_of_mem_toDigits (by decide) (by decide) (hdigits ▸ hd)
  rw [hdigits] at hparts ⊢
  rw [scanNumber, scanParts_append negative hall hzero hrest.noDigit,
    scanTail_delimited negative _ hrest]
  simp only [hparts]

/-- The text of an integer that is not negative. -/
theorem text_natCast (n : Nat) : (Number.integer n).text.toList = Nat.toDigits 10 n := by
  simp [Number.text, Int.toString_eq_repr, Int.repr]

/-- The text of a negative integer. -/
theorem text_negSucc (n : Nat) :
    (Number.integer (.negSucc n)).text.toList = '-' :: Nat.toDigits 10 (n + 1) := by
  simp [Number.text, Int.toString_eq_repr, Int.repr]

/-- An integer of 64 bits is read back from its text. -/
theorem scanNumber_text {number : Number} (h : number.IsInteger) (hrest : Delimited rest) :
    scanNumber (number.text.toList ++ rest) = ⟨.number number, some rest⟩ := by
  cases number with
  | float bits => cases h
  | integer value =>
      obtain ⟨hlow, hhigh⟩ := h
      cases value with
      | ofNat n =>
          rw [Int.ofNat_eq_natCast] at hhigh ⊢
          have hfits : n < 18446744073709551616 := by omega
          rw [text_natCast]
          refine scanNumber_toDigits false ?_ hrest
          simp [Number.ofParts, accumulate_toDigits hfits]
      | negSucc n =>
          have hmagnitude : n + 1 ≤ 9223372036854775808 := by
            rw [Int.negSucc_eq] at hlow
            omega
          have hfits : n + 1 < 18446744073709551616 := by omega
          rw [text_negSucc]
          refine scanNumber_toDigits true ?_ hrest
          simp [Number.ofParts, accumulate_toDigits hfits, hmagnitude, Int.negSucc_eq]

end ServiceRouting.Json
