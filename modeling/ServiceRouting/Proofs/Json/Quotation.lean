import ServiceRouting.Json.Reader
import ServiceRouting.Json.Writer

/-!
# Quoted texts

A text between quotes is read back as it was (`scanText_quoted`), since each of its characters is
written in one of three ways (`Escape`): as itself, after a backslash, or as a unit of 16 bits. A
unit is read together with what follows it, which could be the second unit of a pair. What follows
in a written text is a unit too, or no unit at all, and control characters make no pairs.
-/

namespace ServiceRouting.Json

/-- How a character is written between quotes. -/
inductive Escape (c : Char) : List Char → Prop where
  | plain : c ≠ '"' → c ≠ '\\' → ¬ c.toNat < 0x20 → Escape c [c]
  | short (e : Char) : e ≠ 'u' → shortEscape? e = some c → Escape c ['\\', e]
  | unit (h l : Char) :
      c.toNat < 0x20 → Text.hexNumber? ['0', '0', h, l] = some c.toNat →
      Escape c ['\\', 'u', '0', '0', h, l]

/-- The two digits of a control character write its number. -/
theorem hexNumber?_control :
    ∀ n < 0x20, Text.hexNumber? ['0', '0', Nat.digitChar (n / 16), Nat.digitChar (n % 16)] =
      some n := by
  decide

/-- Every character is written in one of the three ways. -/
theorem escape_escapedChar (c : Char) : Escape c (escapedChar c) := by
  unfold escapedChar
  split
  · exact .short '"' (by decide) rfl
  · exact .short '\\' (by decide) rfl
  · exact .short 'b' (by decide) rfl
  · exact .short 'f' (by decide) rfl
  · exact .short 'n' (by decide) rfl
  · exact .short 'r' (by decide) rfl
  · exact .short 't' (by decide) rfl
  next hquote hbackslash _ _ _ _ _ =>
    split
    next hcontrol => exact .unit _ _ hcontrol (hexNumber?_control c.toNat hcontrol)
    next hcontrol => exact .plain hquote hbackslash hcontrol

/-- A text before which a unit can stand: if another unit comes first, it has its four digits. -/
def UnitsComplete (text : List Char) : Prop :=
  ∀ a b c d rest, text = '\\' :: 'u' :: a :: b :: c :: d :: rest →
    (Text.hexNumber? [a, b, c, d]).isSome = true

variable {c : Char} {written text done : List Char}

/-- The way in which a character is written has its digits. -/
theorem Escape.unitsComplete (h : Escape c written) (text : List Char) :
    UnitsComplete (written ++ text) := by
  intro a b d e rest heq
  cases h with
  | plain _ hbackslash _ => exact absurd (List.cons.inj heq).1 hbackslash
  | short s hs _ => exact absurd (List.cons.inj (List.cons.inj heq).2).1 hs
  | unit h l _ hnumber =>
      obtain ⟨-, -, rfl, rfl, rfl, rfl, -⟩ :
          '\\' = '\\' ∧ 'u' = 'u' ∧ '0' = a ∧ '0' = b ∧ h = d ∧ l = e ∧ text = rest := by
        simpa using heq
      rw [hnumber]
      rfl

/-- The characters of a text are written with all their digits up to its closing quote. -/
theorem unitsComplete_escaped (cs text : List Char) :
    UnitsComplete (cs.flatMap escapedChar ++ '"' :: text) := by
  cases cs with
  | nil =>
      intro _ _ _ _ _ heq
      simp at heq
  | cons c cs =>
      rw [List.flatMap_cons, List.append_assoc]
      exact (escape_escapedChar c).unitsComplete _

/-- A control character that is written as a unit is read from it. -/
theorem scanText_unit {n : Nat} {h l : Char} (hn : n < 0x20)
    (hnumber : Text.hexNumber? ['0', '0', h, l] = some n) (hcomplete : UnitsComplete text) :
    scanText ('\\' :: 'u' :: '0' :: '0' :: h :: l :: text) (some done) =
      scanText text (some (Char.ofNat n :: done)) := by
  have hleading : isLeading n = false := by
    simp [isLeading]
    omega
  have htrailing : isTrailing n = false := by
    simp [isTrailing]
    omega
  -- Where another unit follows, both are read at once, and this one begins no pair.
  by_cases hunit : ∃ a b c d rest, text = '\\' :: 'u' :: a :: b :: c :: d :: rest
  · obtain ⟨a, b, c, d, rest, rfl⟩ := hunit
    obtain ⟨next, hnext⟩ := Option.isSome_iff_exists.1 (hcomplete a b c d rest rfl)
    rw [scanText, hnumber, hnext]
    simp [hleading, htrailing]
  · rw [scanText]
    · simp [hnumber, hleading, htrailing]
    · intro a b c d rest heq
      exact hunit ⟨a, b, c, d, rest, heq⟩

/-- What is written for a character is read as it. -/
theorem scanText_escape (h : Escape c written) (hcomplete : UnitsComplete text) :
    scanText (written ++ text) (some done) = scanText text (some (c :: done)) := by
  cases h with
  | plain hquote hbackslash hcontrol =>
      show scanText (c :: text) (some done) = _
      rw [scanText]
      · simp [hcontrol]
      · exact hquote
      · exact fun _ _ _ _ _ _ _ _ _ h _ => hbackslash h
      · exact fun _ _ _ _ _ h _ => hbackslash h
      · exact fun _ _ h _ => hbackslash h
  | short e he hshort =>
      show scanText ('\\' :: e :: text) (some done) = _
      rw [scanText]
      · simp [hshort]
      · exact fun _ _ _ _ _ _ _ _ _ h _ => he h
      · exact fun _ _ _ _ _ h _ => he h
  | unit h l hcontrol hnumber =>
      show scanText ('\\' :: 'u' :: '0' :: '0' :: h :: l :: text) (some done) = _
      rw [scanText_unit hcontrol hnumber hcomplete, Char.ofNat_toNat]

/-- A text is read up to its closing quote. -/
theorem scanText_escaped (cs text done : List Char) :
    scanText (cs.flatMap escapedChar ++ '"' :: text) (some done) =
      some (some (String.ofList (done.reverse ++ cs)), text) := by
  induction cs generalizing done with
  | nil => simp [scanText]
  | cons c cs ih =>
      rw [List.flatMap_cons, List.append_assoc,
        scanText_escape (escape_escapedChar c) (unitsComplete_escaped cs text), ih]
      simp

/-- A quoted text is read back as it was. -/
theorem scanText_quoted (s : String) (text : List Char) :
    ∃ rest, (quotedText s).toList ++ text = '"' :: rest ∧
      scanText rest (some []) = some (some s, text) := by
  refine ⟨s.toList.flatMap escapedChar ++ '"' :: text, by simp [quotedText], ?_⟩
  rw [scanText_escaped]
  simp

end ServiceRouting.Json
