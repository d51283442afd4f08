import ServiceRouting.Table

/-!
# The order of bytes

Texts are compared by code points, and the tables are sorted so. `bytes_lt_iff` says that comparing
the UTF-8 bytes gives the same order: the encoding of a character says in its first byte how long it
is, longer encodings start with greater bytes, and encodings of one length have the bits of the code
point in order.
-/

namespace ServiceRouting.Text

/-- The UTF-8 bytes of a text. -/
def bytes (text : String) : List UInt8 := text.toByteArray.data.toList

/-- The bytes of a text are those of its characters, one after the other. -/
theorem bytes_eq_flatMap (text : String) :
    bytes text = text.toList.flatMap String.utf8EncodeChar := by
  rw [bytes, ← String.utf8Encode_toList, List.utf8Encode, List.data_toByteArray]

variable {m n : Nat}

/-- Numbers are compared by what is above their last six bits, then by these. -/
theorem sextet_lt (h : m < n) : m / 64 < n / 64 ∨ m / 64 = n / 64 ∧ m % 64 < n % 64 := by
  omega

/-- Numbers are compared by their bits, six at a time. -/
theorem sextets_lt (h : m < n) :
    m / 262144 < n / 262144 ∨ m / 262144 = n / 262144 ∧
      (m / 4096 % 64 < n / 4096 % 64 ∨ m / 4096 % 64 = n / 4096 % 64 ∧
        (m / 64 % 64 < n / 64 % 64 ∨ m / 64 % 64 = n / 64 % 64 ∧ m % 64 < n % 64)) := by
  rcases sextet_lt h with h | ⟨heq, h⟩
  · rcases sextet_lt h with h | ⟨heq, h⟩
    · rcases sextet_lt h with h | ⟨heq, h⟩ <;> omega
    · omega
  · omega

/-- A code point has at most twenty-one bits. -/
theorem toNat_lt (c : Char) : c.val.toNat < 1114112 := by
  have hvalid := c.valid
  unfold UInt32.isValidChar Nat.isValidChar at hvalid
  omega

/-- The bytes that encode a code point, by how many they are. -/
inductive Encodes (v : Nat) : List UInt8 → Prop
  | one : v ≤ 127 → Encodes v [.ofNat v]
  | two : 127 < v → v ≤ 2047 → Encodes v [.ofNat (v / 64 % 32 + 192), .ofNat (v % 64 + 128)]
  | three : 2047 < v → v ≤ 65535 →
      Encodes v
        [.ofNat (v / 4096 % 16 + 224), .ofNat (v / 64 % 64 + 128), .ofNat (v % 64 + 128)]
  | four : 65535 < v →
      Encodes v
        [.ofNat (v / 262144 % 8 + 240), .ofNat (v / 4096 % 64 + 128), .ofNat (v / 64 % 64 + 128),
          .ofNat (v % 64 + 128)]

/-- A character is encoded as one to four bytes. -/
theorem encodes_utf8EncodeChar (c : Char) : Encodes c.val.toNat (String.utf8EncodeChar c) := by
  unfold String.utf8EncodeChar
  dsimp only
  split
  next hone => exact .one hone
  next hone =>
    split
    next htwo => exact .two (Nat.lt_of_not_le hone) htwo
    next htwo =>
      split
      next hthree => exact .three (Nat.lt_of_not_le htwo) hthree
      next hthree => exact .four (Nat.lt_of_not_le hthree)

/-- The bytes of the lesser code point come first, whatever follows. -/
theorem Encodes.append_lt {as bs : List UInt8} (ha : Encodes m as) (hb : Encodes n bs) (h : m < n)
    (hbound : n < 1114112) (xs ys : List UInt8) : as ++ xs < bs ++ ys := by
  have hsextets := sextets_lt h
  -- Of two encodings of different length the longer starts with the greater byte.
  cases ha <;> cases hb <;> first
    | omega
    | simp (disch := omega) only [List.cons_append, List.nil_append, List.cons_lt_cons_iff,
        UInt8.lt_iff_toNat_lt, ← UInt8.toNat_inj, UInt8.toNat_ofNat', Nat.reducePow,
        Nat.mod_eq_of_lt]
      omega

/-- There is always a byte. -/
theorem Encodes.nil_lt_append {as : List UInt8} (ha : Encodes m as) (xs : List UInt8) :
    [] < as ++ xs := by
  cases ha <;> exact List.nil_lt_cons ..

/-- The bytes of the lesser list of characters come first. -/
theorem flatMap_utf8EncodeChar_lt {xs ys : List Char} (h : xs < ys) :
    xs.flatMap String.utf8EncodeChar < ys.flatMap String.utf8EncodeChar := by
  induction xs generalizing ys with
  | nil =>
      cases ys with
      | nil => exact absurd h (List.lt_irrefl [])
      | cons y ys =>
          rw [List.flatMap_cons]
          exact (encodes_utf8EncodeChar y).nil_lt_append _
  | cons x xs ih =>
      cases ys with
      | nil => exact absurd h (List.not_lt_nil _)
      | cons y ys =>
          rw [List.flatMap_cons, List.flatMap_cons]
          rcases List.cons_lt_cons_iff.1 h with hlt | ⟨rfl, hlt⟩
          · exact (encodes_utf8EncodeChar x).append_lt (encodes_utf8EncodeChar y) hlt
              (toNat_lt y) _ _
          · exact List.append_left_lt (ih hlt)

/-- A lesser text has lesser bytes. -/
theorem bytes_lt {a b : String} (h : a < b) : bytes a < bytes b := by
  rw [bytes_eq_flatMap, bytes_eq_flatMap]
  exact flatMap_utf8EncodeChar_lt (String.lt_iff.1 h)

/-- Texts are in the order of their bytes. -/
theorem bytes_lt_iff {a b : String} : bytes a < bytes b ↔ a < b := by
  refine ⟨fun h => Decidable.byContradiction fun hnot => ?_, bytes_lt⟩
  by_cases heq : a = b
  · exact List.lt_irrefl (bytes b) (heq ▸ h)
  · exact List.lt_asymm h (bytes_lt (lt_of_not_lt_of_ne hnot heq))

end ServiceRouting.Text
