/-!
# Content types

The media type of a request: a type and a subtype, both tokens, then parameters. A subtype may end
in a suffix after a plus sign. The body of a request is taken for JSON if its type is `application`
and its subtype or its suffix is `json`; case does not matter.
-/

namespace ServiceRouting.Endpoint

/-- The characters of tokens beside letters and digits. -/
def tokenMarks : List Char := "!#$%&*+-.^_|~\x27\x60".toList

/-- Whether a character may stand in a token. -/
def isTokenChar (c : Char) : Bool := c.isAlphanum || tokenMarks.contains c

/-- Whether a character may stand between the quotes of a parameter. -/
def isQuotedChar (c : Char) : Bool := 0x20 ≤ c.toNat && c.toNat < 0x7F

/-- What follows the quoted value of a parameter, from its first character on. -/
def afterQuoted : List Char → Option (List Char)
  | [] => none
  | c :: rest =>
    if !isQuotedChar c then none
    else
      let inner := rest.takeWhile fun c => c ≠ '"' && isQuotedChar c
      match rest.drop inner.length with
      | '"' :: tail => some tail
      | _ => none

/-- Whether a text is a list of parameters, looking at most `fuel` parameters far. Blanks before a
parameter and behind a quoted value are skipped, and the last parameter may be left out. -/
def areParameters : Nat → List Char → Bool
  | 0, _ => false
  | fuel + 1, text =>
    match text.dropWhile (· = ' ') with
    | [] => true
    | text =>
      let name := text.takeWhile isTokenChar
      match text.drop name.length with
      | '=' :: '"' :: value =>
        !name.isEmpty &&
          match (afterQuoted value).map (·.dropWhile (· = ' ')) with
          | some [] => true
          | some (';' :: rest) => areParameters fuel rest
          | _ => false
      | '=' :: value =>
        let inner := value.takeWhile isTokenChar
        !name.isEmpty &&
          match value.drop inner.length with
          | [] => true
          | ';' :: rest => !inner.isEmpty && areParameters fuel rest
          | _ => false
      | _ => false

/-- The subtype and the suffix of what stands behind the slash. The suffix follows the last plus
sign, unless that comes first. -/
def splitSuffix (text : List Char) : List Char × Option (List Char) :=
  let suffix := (text.reverse.takeWhile (· ≠ '+')).reverse
  let before := text.take (text.length - suffix.length - 1)
  if text.contains '+' && !before.isEmpty then (before, some suffix) else (text, none)

/-- Whether a text is a media type of JSON. -/
def isJson (contentType : String) : Bool :=
  let text := contentType.toList
  let type := text.takeWhile isTokenChar
  match text.drop type.length with
  | '/' :: rest =>
    let subtype := rest.takeWhile isTokenChar
    let parametersOk :=
      match rest.drop subtype.length with
      | [] => true
      | ';' :: parameters => areParameters text.length parameters
      | _ => false
    let lower := fun (part : List Char) => String.ofList (part.map Char.toLower)
    let (main, suffix) := splitSuffix subtype
    !subtype.isEmpty && parametersOk && lower type = "application"
      && (lower main = "json" || suffix.any (lower · = "json"))
  | _ => false

end ServiceRouting.Endpoint
