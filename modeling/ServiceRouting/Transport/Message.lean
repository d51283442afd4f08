/-!
# HTTP messages

The text of a request or an answer of HTTP/1.1 on a connection that carries one of each: a first
line, headers, an empty line, and a body whose length the headers give. Without a length the body
of an answer ends where the connection does, and a request has no body.
-/

namespace ServiceRouting

/-- A message as it arrives. -/
structure Message where
  firstLine : String
  /-- The headers, their names in lower case. -/
  headers : List (String × String)
  body : ByteArray

namespace Message

/-- The bytes before and after the first empty line. -/
def splitHead (before : List UInt8) : List UInt8 → Option (List UInt8 × List UInt8)
  | 13 :: 10 :: 13 :: 10 :: rest => some (before.reverse, rest)
  | b :: rest => splitHead (b :: before) rest
  | [] => none

/-- The name and the value of a header line. -/
def header (line : String) : String × String :=
  let characters := line.toList
  let name := characters.takeWhile (· ≠ ':')
  let value := (characters.drop (name.length + 1)).dropWhile (· = ' ')
  (String.ofList (name.map Char.toLower), String.ofList value)

/-- The message in the bytes that have arrived, if all of it has. -/
def ofBytes? (isRequest ended : Bool) (bytes : ByteArray) : Option Message := do
  let (head, body) ← splitHead [] bytes.toList
  let text ← String.fromUTF8? ⟨head.toArray⟩
  match text.splitOn "\r\n" with
  | [] => none
  | firstLine :: lines =>
    let headers := lines.map header
    let message (body : List UInt8) : Message := ⟨firstLine, headers, ⟨body.toArray⟩⟩
    match (headers.find? (·.1 = "content-length")).bind (·.2.toNat?) with
    | some length => if length ≤ body.length then some (message (body.take length)) else none
    | none => if isRequest then some (message []) else if ended then some (message body) else none

/-- The value of a header. -/
def header? (m : Message) (name : String) : Option String :=
  (m.headers.find? (·.1 = name)).map (·.2)

/-- The method and the path of a request. -/
def methodAndPath? (m : Message) : Option (String × String) :=
  match m.firstLine.splitOn " " with
  | [method, path, _] => some (method, path)
  | _ => none

/-- The status of an answer with its reason. -/
def status? (m : Message) : Option String :=
  match m.firstLine.splitOn " " with
  | _ :: code :: reason => some (String.intercalate " " (code :: reason))
  | _ => none

/-- The body as a text, unless it is none. -/
def text? (m : Message) : Option String := String.fromUTF8? m.body

/-- The bytes of a message with a JSON body, or with none. -/
def bytes (firstLine : String) (headers : List (String × String)) (json : Option String) :
    ByteArray :=
  let body := (json.getD "").toUTF8
  let type := if json.isSome then [("content-type", "application/json")] else []
  let all := headers ++ type
    ++ [("content-length", toString body.size), ("connection", "close")]
  let lines := firstLine :: all.map fun h => h.1 ++ ": " ++ h.2
  (String.intercalate "\r\n" lines ++ "\r\n\r\n").toUTF8 ++ body

/-- The bytes of a request that posts a JSON text. -/
def postBytes (host path json : String) : ByteArray :=
  bytes ("POST " ++ path ++ " HTTP/1.1") [("host", host)] (some json)

/-- The reason that goes with a status. -/
def reason : Nat → String
  | 200 => "OK"
  | 400 => "Bad Request"
  | 404 => "Not Found"
  | 405 => "Method Not Allowed"
  | 413 => "Payload Too Large"
  | 415 => "Unsupported Media Type"
  | 421 => "Misdirected Request"
  | 422 => "Unprocessable Entity"
  | 500 => "Internal Server Error"
  | 502 => "Bad Gateway"
  | 503 => "Service Unavailable"
  | _ => "Unknown"

/-- The bytes of an answer. -/
def answerBytes (status : Nat) (json : Option String) : ByteArray :=
  bytes ("HTTP/1.1 " ++ toString status ++ " " ++ reason status) [] json

end Message

end ServiceRouting
