import ServiceRouting.Call.Error
import ServiceRouting.Config.Load
import ServiceRouting.Config.Startup

/-!
# The command line of a node

A node is started with the path of its configuration and, if it shall listen elsewhere than the
configuration says, with an address. Other arguments are passed over. A start that fails is
reported with everything that lies behind the failure.
-/

namespace ServiceRouting

/-- What the arguments say. -/
structure CommandLine where
  path : Option String := none
  bind : Option SocketAddress := none

/-- Why a node does not start. -/
inductive StartFault where
  /-- There are too few arguments to say anything. -/
  | usage
  | missingPath
  | missingAddress
  | badAddress
  | noConfig
  | config (path : String) (error : ConfigError)
  | notBuiltin (name : ServiceName)
  /-- The node cannot listen, with the text of the reason. -/
  | cannotListen (text : String)

namespace StartFault

/-- The error and what lies behind it. -/
def chain : StartFault → ErrorChain
  | usage => ⟨"", []⟩
  | missingPath => ⟨"--config needs a path", []⟩
  | missingAddress => ⟨"--bind needs an address", []⟩
  | badAddress => ⟨"invalid socket address syntax", []⟩
  | noConfig => ⟨"--config is required", []⟩
  | config path e => ⟨"loading " ++ path, e.message :: e.causes⟩
  | notBuiltin name => ⟨"unknown built-in service " ++ name, []⟩
  | cannotListen text => ⟨text, []⟩

end StartFault

/-- How the program is used, under the name it was called by. -/
def usageText (program : String) : String :=
  "Usage: " ++ program ++ " --config <node.toml> [--bind <addr:port>]\n"
    ++ "Example: " ++ program ++ " --config node-1.toml\n"
    ++ "Example: " ++ program ++ " --config node-2.toml --bind 127.0.0.1:6002\n"

/-- A text with its lines after the first indented. -/
def indented (width : Nat) (text : String) : String :=
  String.intercalate ("\n" ++ String.ofList (List.replicate width ' ')) (text.splitOn "\n")

/-- Numbered causes, each on lines of its own. -/
def numberedCauses (number : Nat) : List String → String
  | [] => ""
  | cause :: rest =>
    let digits := toString number
    "\n" ++ String.ofList (List.replicate (5 - digits.length) ' ') ++ digits ++ ": "
      ++ indented 7 cause ++ numberedCauses (number + 1) rest

/-- The report of an error: causes are numbered if there are several. -/
def ErrorChain.report (e : ErrorChain) : String :=
  "Error: " ++ e.outermost
    ++ (match e.causes with
      | [] => ""
      | [cause] => "\n\nCaused by:\n    " ++ indented 4 cause
      | causes => "\n\nCaused by:" ++ numberedCauses 0 causes)
    ++ "\n"

/-- What is written when a node does not start. -/
def StartFault.report (program : String) : StartFault → String
  | usage => usageText program
  | e => e.chain.report

namespace CommandLine

/-- Reads the arguments one by one: of two with the same name the later counts. -/
def scan (line : CommandLine) : List String → Except StartFault CommandLine
  | [] => .ok line
  | "--config" :: rest =>
    match rest with
    | [] => .error .missingPath
    | path :: rest => scan { line with path := some path } rest
  | "--bind" :: rest =>
    match rest with
    | [] => .error .missingAddress
    | text :: rest =>
      match SocketAddress.parse? text with
      | none => .error .badAddress
      | some address => scan { line with bind := some address } rest
  | _ :: rest => scan line rest

/-- Reads the arguments: the path of a configuration, and perhaps an address. -/
def parse (args : List String) : Except StartFault (String × Option SocketAddress) := do
  if args.length < 2 then throw .usage
  let line ← scan {} args
  match line.path with
  | none => throw .noConfig
  | some path => return (path, line.bind)

/-- The configuration and the state of a node with this configuration file. -/
def start (path : String) (bind : Option SocketAddress) (content : Except FileFault ByteArray) :
    Except StartFault (NodeConfig × Startup) := do
  match NodeConfig.ofContent path content with
  | .error e => throw (.config path e)
  | .ok config =>
    match Startup.start config bind with
    | .error name => throw (.notBuiltin name)
    | .ok startup => return (Startup.bound config bind, startup)

end CommandLine

end ServiceRouting
