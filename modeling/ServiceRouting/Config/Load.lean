import ServiceRouting.Config.FileTree
import ServiceRouting.Config.Validation
import ServiceRouting.Json.Reader
import ServiceRouting.Toml.Reader

/-!
# Loading a configuration

A configuration is read from a TOML file and then checked. Whatever part of a file tree a process
sees enters as a function from paths to contents.
-/

namespace ServiceRouting

/-- Why a configuration cannot be used. -/
inductive ConfigError where
  /-- The file cannot be read. -/
  | file (path : String) (fault : FileFault)
  /-- The text is no configuration. -/
  | text (fault : Fault)
  | invalid (violation : Violation)
deriving DecidableEq

/-- What is wrong with a text that is no configuration. -/
def Fault.message : Fault → String
  | malformed => "the text is not TOML"
  | mismatch => "the text is not a configuration"

namespace ConfigError

/-- The text of the error. -/
def message : ConfigError → String
  | file path _ => "failed to read config file " ++ Text.quoted path
  | text fault => "failed to parse config: " ++ fault.message
  | invalid violation => "invalid config: " ++ violation.message

/-- The texts of what lies behind the error. -/
def causes : ConfigError → List String
  | file _ fault => [fault.message]
  | text fault => [fault.message]
  | invalid _ => []

end ConfigError

namespace NodeConfig

/-- Checks a configuration that was read. -/
def checked : Reading NodeConfig → Except ConfigError NodeConfig
  | .error fault => .error (.text fault)
  | .ok c =>
    match c.violation? with
    | some v => .error (.invalid v)
    | none => .ok c

/-- Reads and checks a configuration in TOML. -/
def ofToml (source : String) : Except ConfigError NodeConfig :=
  checked (Toml.readText ofDocument source)

/-- Reads and checks a configuration in JSON. -/
def ofJson (source : String) : Except ConfigError NodeConfig :=
  checked (Json.readText ofDocument source)

/-- The configuration in a file whose content was asked for. -/
def ofContent (path : String) (content : Except FileFault ByteArray) :
    Except ConfigError NodeConfig :=
  match content with
  | .error fault => .error (.file path fault)
  | .ok bytes =>
    match String.fromUTF8? bytes with
    | none => .error (.file path .notText)
    | some source => ofToml source

end NodeConfig

end ServiceRouting
