import ServiceRouting.Proofs.Json.Decimals
import ServiceRouting.Proofs.Json.Quotation

/-!
# Values as text

What the reader makes of the text of a value (`scan_retold`): it finds the value again, apart from
what is nested too deep and from binary64 numbers, since a decimal of many digits may be read with
another last bit. So a value is read back if all its numbers are integers of 64 bits and nesting
stays below the limit (`scan_text`); what is read from such a value can be read from its text as
well (`readFront_text`, `readText_text`).
-/

namespace ServiceRouting.Json

namespace Value

mutual
/-- Every number in the value is an integer of 64 bits. -/
def IsIntegral : Value → Prop
  | .number value => value.IsInteger
  | .array items => AllIntegral items
  | .object members => MembersIntegral members
  | _ => True

/-- Every value of a list is integral. -/
def AllIntegral : List Value → Prop
  | [] => True
  | item :: rest => IsIntegral item ∧ AllIntegral rest

/-- Every value among members is integral. -/
def MembersIntegral : List (String × Value) → Prop
  | [] => True
  | (_, value) :: rest => IsIntegral value ∧ MembersIntegral rest
end

mutual
/-- How many arrays and objects are nested in the value. -/
def depth : Value → Nat
  | .array items => itemsDepth items + 1
  | .object members => membersDepth members + 1
  | _ => 0

/-- The depth of the deepest value of a list. -/
def itemsDepth : List Value → Nat
  | [] => 0
  | item :: rest => max (depth item) (itemsDepth rest)

/-- The depth of the deepest value among members. -/
def membersDepth : List (String × Value) → Nat
  | [] => 0
  | (_, value) :: rest => max (depth value) (membersDepth rest)
end

mutual
/-- The numbers in a value. -/
def numbers : Value → List Number
  | .number value => [value]
  | .array items => itemsNumbers items
  | .object members => membersNumbers members
  | _ => []

/-- The numbers in the values of a list. -/
def itemsNumbers : List Value → List Number
  | [] => []
  | item :: rest => numbers item ++ itemsNumbers rest

/-- The numbers in the values among members. -/
def membersNumbers : List (String × Value) → List Number
  | [] => []
  | (_, value) :: rest => numbers value ++ membersNumbers rest
end

mutual
/-- What the reader makes of the text of a value that lies at some depth. -/
def retold (depth : Nat) : Value → Document
  | .null => .null
  | .bool value => .bool value
  | .number value => value.retold
  | .string value => .string value
  | .array items =>
    if 1 < depth then .sequence (itemsRetold (depth - 1) items) .closed else .unreadable
  | .object members =>
    if 1 < depth then .mapping (membersRetold (depth - 1) members) .closed else .unreadable

/-- What the reader makes of the texts of items. -/
def itemsRetold (depth : Nat) : List Value → List Document
  | [] => []
  | item :: rest => retold depth item :: itemsRetold depth rest

/-- What the reader makes of the texts of members. -/
def membersRetold (depth : Nat) : List (String × Value) → List (String × Document)
  | [] => []
  | (key, value) :: rest => (key, retold depth value) :: membersRetold depth rest
end

end Value

/-- A text that starts a value: neither a blank nor the end of an array comes first. -/
inductive Opening : List Char → Prop where
  | intro (c : Char) (rest : List Char) :
      skipBlanks (c :: rest) = c :: rest → c ≠ ']' → Opening (c :: rest)

variable {fuel depth : Nat} {text rest after : List Char} {c : Char}

/-- A digit is no blank. -/
theorem skipBlanks_digit (h : c.isDigit = true) : skipBlanks (c :: rest) = c :: rest := by
  rw [skipBlanks]
  · exact fun _ heq => ne_of_isDigit h rfl (List.cons.inj heq).1
  · exact fun _ heq => ne_of_isDigit h rfl (List.cons.inj heq).1
  · exact fun _ heq => ne_of_isDigit h rfl (List.cons.inj heq).1
  · exact fun _ heq => ne_of_isDigit h rfl (List.cons.inj heq).1

/-- A digit or a sign starts a number. -/
theorem scanValue_number (h : c = '-' ∨ c.isDigit = true) :
    scanValue (fuel + 1) depth (c :: rest) = scanNumber (c :: rest) := by
  rcases h with rfl | h
  · rfl
  · rw [scanValue, skipBlanks_digit h]
    split
    case h_8 heq =>
      obtain ⟨rfl, rfl⟩ := List.cons.inj heq
      rw [if_pos h]
    case h_9 heq => cases heq
    -- What any other branch starts with is no digit.
    all_goals
      next heq => exact absurd (List.cons.inj heq).1 (ne_of_isDigit h rfl)

/-- What is read up to its end is found unless it lies too deep. -/
theorem atDepth_some (depth : Nat) (d : Document) (rest : List Char) :
    atDepth (depth - 1) ⟨d, some rest⟩ = ⟨if 1 < depth then d else .unreadable, some rest⟩ := by
  by_cases hdepth : 1 < depth
  · rw [atDepth, if_neg (by omega), if_pos hdepth]
  · rw [atDepth, if_pos (by omega), if_neg hdepth]
    rfl

/-- A text in quotes is read as a value. -/
theorem scanValue_string {s : String} (hscan : scanText text (some []) = some (some s, rest)) :
    scanValue (fuel + 1) depth ('"' :: text) = ⟨.string s, some rest⟩ := by
  have hquote : skipBlanks ('"' :: text) = '"' :: text := rfl
  rw [scanValue]
  simp only [hquote, hscan]

/-- An array is read item by item. -/
theorem scanValue_array {items : List Document} (hopening : Opening text)
    (hitems : scanItems fuel (depth - 1) text = ⟨items, some rest⟩) :
    scanValue (fuel + 1) depth ('[' :: text) =
      ⟨if 1 < depth then .sequence items .closed else .unreadable, some rest⟩ := by
  cases hopening with
  | intro c following hblank hbracket =>
      have hopen : skipBlanks ('[' :: c :: following) = '[' :: c :: following := rfl
      rw [scanValue]
      simp only [hopen, hblank]
      split
      next heq => exact absurd (List.cons.inj heq).1 hbracket
      next =>
        simp only [hitems]
        exact atDepth_some depth (.sequence items .closed) rest

/-- An object is read member by member. -/
theorem scanValue_object {entries : List (String × Document)} {ending : Ending}
    (hquote : ∃ key, text = '"' :: key)
    (hentries : scanEntries fuel (depth - 1) text = ⟨(entries, ending), some rest⟩) :
    scanValue (fuel + 1) depth ('\x7b' :: text) =
      ⟨if 1 < depth then .mapping entries ending else .unreadable, some rest⟩ := by
  obtain ⟨key, rfl⟩ := hquote
  show atDepth (depth - 1) ⟨.mapping (scanEntries fuel (depth - 1) ('"' :: key)).found.1
    (scanEntries fuel (depth - 1) ('"' :: key)).found.2,
    (scanEntries fuel (depth - 1) ('"' :: key)).rest⟩ = _
  rw [hentries]
  exact atDepth_some depth (.mapping entries ending) rest

/-- The last item of an array is read up to the closing bracket. -/
theorem scanItems_last {item : Document}
    (hitem : scanValue fuel depth text = ⟨item, some (']' :: rest)⟩) :
    scanItems (fuel + 1) depth text = ⟨[item], some rest⟩ := by
  rw [scanItems, hitem]
  rfl

/-- An item of an array is read up to the comma before the next one. -/
theorem scanItems_cons {item : Document} {items : List Document} {place : Option (List Char)}
    (hitem : scanValue fuel depth text = ⟨item, some (',' :: after)⟩)
    (hitems : scanItems fuel depth after = ⟨items, place⟩) :
    scanItems (fuel + 1) depth text = ⟨item :: items, place⟩ := by
  rw [scanItems, hitem]
  show (⟨item :: (scanItems fuel depth after).found, _⟩ : Scanned (List Document)) = _
  rw [hitems]

/-- The last member of an object is read up to the closing brace. -/
theorem scanEntries_last {key : String} {item : Document}
    (hkey : scanText text (some []) = some (some key, ':' :: after))
    (hitem : scanValue fuel depth after = ⟨item, some ('\x7d' :: rest)⟩) :
    scanEntries (fuel + 1) depth ('"' :: text) = ⟨([(key, item)], .closed), some rest⟩ := by
  have hquote : skipBlanks ('"' :: text) = '"' :: text := rfl
  have hcolon : skipBlanks (':' :: after) = ':' :: after := rfl
  have hbrace : skipBlanks ('\x7d' :: rest) = '\x7d' :: rest := rfl
  rw [scanEntries]
  simp only [hquote, hkey, hcolon, hitem, hbrace]

/-- A member of an object is read up to the comma before the next one. -/
theorem scanEntries_cons {key : String} {item : Document} {following : List Char}
    {entries : List (String × Document)} {ending : Ending} {place : Option (List Char)}
    (hkey : scanText text (some []) = some (some key, ':' :: after))
    (hitem : scanValue fuel depth after = ⟨item, some (',' :: following)⟩)
    (hentries : scanEntries fuel depth following = ⟨(entries, ending), place⟩) :
    scanEntries (fuel + 1) depth ('"' :: text) = ⟨((key, item) :: entries, ending), place⟩ := by
  have hquote : skipBlanks ('"' :: text) = '"' :: text := rfl
  have hcolon : skipBlanks (':' :: after) = ':' :: after := rfl
  have hcomma : skipBlanks (',' :: following) = ',' :: following := rfl
  rw [scanEntries]
  simp only [hquote, hkey, hcolon, hitem, hcomma, hentries]

/-- The text of a value starts it. -/
theorem opening_text (v : Value) (rest : List Char) : Opening (v.text.toList ++ rest) := by
  cases v with
  | null => exact .intro _ _ rfl (by decide)
  | bool b => cases b <;> exact .intro _ _ rfl (by decide)
  | number number =>
      obtain ⟨c, more, htext, hc⟩ := exists_text_eq number
      show Opening (number.text.toList ++ rest)
      rw [htext]
      rcases hc with rfl | hc
      · exact .intro _ _ rfl (by decide)
      · exact .intro _ _ (skipBlanks_digit hc) (ne_of_isDigit hc rfl)
  | string s =>
      obtain ⟨following, htext, -⟩ := scanText_quoted s rest
      show Opening ((quotedText s).toList ++ rest)
      rw [htext]
      exact .intro _ _ rfl (by decide)
  | array items =>
      rw [Value.text, String.toList_append, String.toList_append]
      exact .intro _ _ rfl (by decide)
  | object members =>
      rw [Value.text, String.toList_append, String.toList_append]
      exact .intro _ _ rfl (by decide)

/-- The text of an array: its items in brackets. -/
theorem toList_text_array (items : List Value) :
    (Value.array items).text.toList = '[' :: ((itemsText items).toList ++ [']']) := by
  simp [Value.text]

/-- The text of an object: its members in braces. -/
theorem toList_text_object (members : List (String × Value)) :
    (Value.object members).text.toList = '\x7b' :: ((membersText members).toList ++ ['\x7d']) := by
  simp [Value.text]

/-- The text of an array and what follows it. -/
theorem text_array_append (items : List Value) (rest : List Char) :
    (Value.array items).text.toList ++ rest = '[' :: ((itemsText items).toList ++ ']' :: rest) := by
  simp [Value.text]

/-- The text of an object and what follows it. -/
theorem text_object_append (members : List (String × Value)) (rest : List Char) :
    (Value.object members).text.toList ++ rest =
      '\x7b' :: ((membersText members).toList ++ '\x7d' :: rest) := by
  simp [Value.text]

/-- What follows an item of an array inside it. -/
def furtherItems : List Value → List Char
  | [] => []
  | next :: items => ',' :: (itemsText (next :: items)).toList

/-- The texts of the items of an array: the first item, then what follows it. -/
theorem toList_itemsText (item : Value) (items : List Value) :
    (itemsText (item :: items)).toList = item.text.toList ++ furtherItems items := by
  cases items with
  | nil => rw [itemsText, furtherItems, List.append_nil]
  | cons next items =>
      rw [itemsText, furtherItems]
      · simp
      · simp

/-- What follows a member of an object inside it. -/
def furtherMembers : List (String × Value) → List Char
  | [] => []
  | next :: members => ',' :: (membersText (next :: members)).toList

/-- The texts of the members of an object: the first key and its value, then what follows them. -/
theorem toList_membersText (key : String) (v : Value) (members : List (String × Value)) :
    (membersText ((key, v) :: members)).toList =
      (quotedText key).toList ++ ':' :: (v.text.toList ++ furtherMembers members) := by
  cases members with
  | nil => simp [membersText, furtherMembers]
  | cons next members =>
      rw [membersText, furtherMembers]
      · simp
      · simp

/-- The first item of an array starts its items. -/
theorem opening_itemsText (item : Value) (items : List Value) (rest : List Char) :
    Opening ((itemsText (item :: items)).toList ++ rest) := by
  rw [toList_itemsText, List.append_assoc]
  exact opening_text item _

/-- The first key of an object starts its members. -/
theorem exists_quote_membersText (key : String) (v : Value) (members : List (String × Value))
    (rest : List Char) :
    ∃ following, (membersText ((key, v) :: members)).toList ++ rest = '"' :: following := by
  rw [toList_membersText, List.append_assoc]
  obtain ⟨following, htext, -⟩ := scanText_quoted key _
  exact ⟨following, htext⟩

/-- Every value whose text is shorter than the fuel is read up to its end. -/
def ReadsValues (fuel : Nat) : Prop :=
  ∀ (v : Value) (depth : Nat) (rest : List Char), v.text.toList.length < fuel → Delimited rest →
    scanValue fuel depth (v.text.toList ++ rest) = ⟨v.retold depth, some rest⟩

/-- The items of every array whose texts are shorter than the fuel are read up to their end. -/
def ReadsItems (fuel : Nat) : Prop :=
  ∀ (item : Value) (items : List Value) (depth : Nat) (rest : List Char),
    (itemsText (item :: items)).toList.length + 1 < fuel →
    scanItems fuel depth ((itemsText (item :: items)).toList ++ ']' :: rest) =
      ⟨Value.itemsRetold depth (item :: items), some rest⟩

/-- The members of every object whose texts are shorter than the fuel are read up to their end. -/
def ReadsMembers (fuel : Nat) : Prop :=
  ∀ (key : String) (v : Value) (members : List (String × Value)) (depth : Nat) (rest : List Char),
    (membersText ((key, v) :: members)).toList.length + 1 < fuel →
    scanEntries fuel depth ((membersText ((key, v) :: members)).toList ++ '\x7d' :: rest) =
      ⟨(Value.membersRetold depth ((key, v) :: members), .closed), some rest⟩

/-- With more fuel a value is read, its items and members having been. -/
theorem readsValues_succ (hreadsItems : ReadsItems fuel) (hreadsMembers : ReadsMembers fuel) :
    ReadsValues (fuel + 1) := by
  intro v depth rest hfuel hrest
  cases v with
  | null => rfl
  | bool b => cases b <;> rfl
  | number number =>
      obtain ⟨c, digits, htext, hc⟩ := exists_text_eq number
      have hscan := scanNumber_retold number hrest
      show scanValue (fuel + 1) depth (number.text.toList ++ rest) = _
      rw [htext] at hscan ⊢
      rw [List.cons_append, scanValue_number hc]
      exact hscan
  | string s =>
      obtain ⟨following, htext, hscan⟩ := scanText_quoted s rest
      show scanValue (fuel + 1) depth ((quotedText s).toList ++ rest) = _
      rw [htext]
      exact scanValue_string hscan
  | array items =>
      rw [toList_text_array] at hfuel
      rw [text_array_append]
      cases items with
      | nil => exact atDepth_some depth (.sequence [] .closed) rest
      | cons item items =>
          rw [List.length_cons, List.length_append, List.length_singleton] at hfuel
          exact scanValue_array (opening_itemsText item items _)
            (hreadsItems item items (depth - 1) rest (by omega))
  | object members =>
      rw [toList_text_object] at hfuel
      rw [text_object_append]
      cases members with
      | nil => exact atDepth_some depth (.mapping [] .closed) rest
      | cons member members =>
          obtain ⟨key, v⟩ := member
          rw [List.length_cons, List.length_append, List.length_singleton] at hfuel
          exact scanValue_object (exists_quote_membersText key v members _)
            (hreadsMembers key v members (depth - 1) rest (by omega))

/-- With more fuel the items of an array are read, the first item and the others having been. -/
theorem readsItems_succ (hreadsValues : ReadsValues fuel) (hreadsItems : ReadsItems fuel) :
    ReadsItems (fuel + 1) := by
  intro item items depth rest hfuel
  rw [toList_itemsText, List.length_append] at hfuel
  have hitem : ∀ after, Delimited after →
      scanValue fuel depth (item.text.toList ++ after) = ⟨item.retold depth, some after⟩ :=
    fun after => hreadsValues item depth after (by omega)
  rw [toList_itemsText, List.append_assoc]
  cases items with
  | nil => exact scanItems_last (hitem _ (.bracket rest))
  | cons next items =>
      rw [furtherItems, List.length_cons] at hfuel
      exact scanItems_cons (hitem _ (.comma _)) (hreadsItems next items depth rest (by omega))

/-- With more fuel the members of an object are read, the first value and the others having
been. -/
theorem readsMembers_succ (hreadsValues : ReadsValues fuel) (hreadsMembers : ReadsMembers fuel) :
    ReadsMembers (fuel + 1) := by
  intro key v members depth rest hfuel
  rw [toList_membersText, List.length_append, List.length_cons, List.length_append] at hfuel
  have hitem : ∀ after, Delimited after →
      scanValue fuel depth (v.text.toList ++ after) = ⟨v.retold depth, some after⟩ :=
    fun after => hreadsValues v depth after (by omega)
  rw [toList_membersText, List.append_assoc, List.cons_append, List.append_assoc]
  obtain ⟨following, htext, hkey⟩ := scanText_quoted key
    (':' :: (v.text.toList ++ (furtherMembers members ++ '\x7d' :: rest)))
  rw [htext]
  cases members with
  | nil => exact scanEntries_last hkey (hitem _ (.brace rest))
  | cons member members =>
      obtain ⟨nextKey, next⟩ := member
      rw [furtherMembers, List.length_cons] at hfuel
      exact scanEntries_cons hkey (hitem _ (.comma _))
        (hreadsMembers nextKey next members depth rest (by omega))

/-- Everything is read from texts shorter than the fuel. -/
theorem reads (fuel : Nat) : ReadsValues fuel ∧ ReadsItems fuel ∧ ReadsMembers fuel := by
  -- The readers call one another with less fuel, so the induction is on fuel and for all three.
  induction fuel with
  | zero => exact ⟨nofun, nofun, nofun⟩
  | succ fuel ih =>
      obtain ⟨hvalues, hitems, hmembers⟩ := ih
      exact ⟨readsValues_succ hitems hmembers, readsItems_succ hvalues hitems,
        readsMembers_succ hvalues hmembers⟩

/-- The text of a value is read up to its end. -/
theorem scan_retold (v : Value) : scan v.text.toList = ⟨v.retold depthLimit, some []⟩ := by
  obtain ⟨hvalues, -, -⟩ := reads (v.text.toList.length + 1)
  have hscan := hvalues v depthLimit [] (Nat.lt_succ_self _) .nil
  rwa [List.append_nil] at hscan

namespace Value

mutual
/-- A value is found again if its numbers are read back and it does not lie too deep. -/
theorem retold_eq (depth : Nat) : (v : Value) → (∀ n ∈ v.numbers, n.retold = .number n) →
    v.depth < depth → v.retold depth = .ofValue v
  | .null, _, _ => rfl
  | .bool _, _, _ => rfl
  | .string _, _, _ => rfl
  | .number n, h, _ => h n List.mem_cons_self
  | .array items, h, hdepth => by
      rw [Value.depth] at hdepth
      rw [retold, if_pos (by omega), itemsRetold_eq (depth - 1) items h (by omega),
        Document.ofValue]
  | .object members, h, hdepth => by
      rw [Value.depth] at hdepth
      rw [retold, if_pos (by omega), membersRetold_eq (depth - 1) members h (by omega),
        Document.ofValue]

/-- Items are found again if their numbers are read back and they do not lie too deep. -/
theorem itemsRetold_eq (depth : Nat) : (items : List Value) →
    (∀ n ∈ itemsNumbers items, n.retold = .number n) → itemsDepth items < depth →
    itemsRetold depth items = Document.ofValues items
  | [], _, _ => rfl
  | item :: rest, h, hdepth => by
      rw [itemsDepth] at hdepth
      rw [itemsRetold,
        retold_eq depth item (fun n hn => h n (List.mem_append_left _ hn)) (by omega),
        itemsRetold_eq depth rest (fun n hn => h n (List.mem_append_right _ hn)) (by omega),
        Document.ofValues]

/-- Members are found again if their numbers are read back and they do not lie too deep. -/
theorem membersRetold_eq (depth : Nat) : (members : List (String × Value)) →
    (∀ n ∈ membersNumbers members, n.retold = .number n) → membersDepth members < depth →
    membersRetold depth members = Document.ofMembers members
  | [], _, _ => rfl
  | (key, v) :: rest, h, hdepth => by
      rw [membersDepth] at hdepth
      rw [membersRetold, retold_eq depth v (fun n hn => h n (List.mem_append_left _ hn)) (by omega),
        membersRetold_eq depth rest (fun n hn => h n (List.mem_append_right _ hn)) (by omega),
        Document.ofMembers]
end

mutual
/-- The numbers in an integral value are integers. -/
theorem IsIntegral.numbers : (v : Value) → v.IsIntegral → ∀ n ∈ v.numbers, n.IsInteger
  | .number _, h, _, hn => List.mem_singleton.1 hn ▸ h
  | .array items, h, n, hn => AllIntegral.numbers items h n hn
  | .object members, h, n, hn => MembersIntegral.numbers members h n hn

/-- The numbers in integral values are integers. -/
theorem AllIntegral.numbers : (items : List Value) → AllIntegral items →
    ∀ n ∈ itemsNumbers items, n.IsInteger
  | item :: rest, h, n, hn => (List.mem_append.1 hn).elim (IsIntegral.numbers item h.1 n)
      (AllIntegral.numbers rest h.2 n)

/-- The numbers in integral values among members are integers. -/
theorem MembersIntegral.numbers : (members : List (String × Value)) → MembersIntegral members →
    ∀ n ∈ membersNumbers members, n.IsInteger
  | (_, v) :: rest, h, n, hn => (List.mem_append.1 hn).elim (IsIntegral.numbers v h.1 n)
      (MembersIntegral.numbers rest h.2 n)
end

end Value

/-- The text of a value without binary64 numbers, nested below the limit, is read back. -/
theorem scan_text {v : Value} (h : v.IsIntegral) (hdepth : v.depth < depthLimit) :
    scan v.text.toList = ⟨.ofValue v, some []⟩ := by
  rw [scan_retold, Value.retold_eq depthLimit v (fun n hn => (h.numbers v n hn).retold) hdepth]

/-- A value that its text carries: all numbers are integers of 64 bits, objects list their members
by increasing key, and nesting stays below the limit. -/
structure Value.IsPortable (v : Value) : Prop where
  integral : v.IsIntegral
  ordered : v.Ordered
  shallow : v.depth < depthLimit

section Reading

variable {α : Type} {read : Document → Reading α} {v : Value} {a : α}

/-- What is read from a value is read at the front of its text. -/
theorem readFront_text (h : v.IsPortable) (hread : read (.ofValue v) = .ok a) :
    readFront read v.text = .ok a := by
  rw [readFront, scan_text h.integral h.shallow]
  exact hread

/-- What is read from a value is read from its text. -/
theorem readText_text (h : v.IsPortable) (hread : read (.ofValue v) = .ok a) :
    readText read v.text = .ok a := by
  rw [readText, scan_text h.integral h.shallow]
  simp only [hread]
  rfl

end Reading

end ServiceRouting.Json
