import Doip.Config.Validation
import Doip.Document.Json
import Doip.Document.Toml
import Doip.Text.Utf8

/-! Settings from texts and files. A file whose name ends in `.toml` holds TOML, every other one JSON. -/

namespace Doip

inductive ConfigError
  /-- The file is missing or no text. -/
  | unreadable (path cause : String)
  /-- The text is no document of its notation, or not of the settings' shape. -/
  | malformed (cause : String)
  | invalid (violation : String)
  | conversationNotFound (name : String)
deriving DecidableEq, Repr

def ConfigError.message : ConfigError → String
  | unreadable path cause => s!"Failed to read config file {path}: {cause}"
  | malformed cause => s!"Failed to parse config: {cause}"
  | invalid violation => s!"Invalid configuration: {violation}"
  | conversationNotFound name => s!"Conversation not found: {name}"

namespace Config

def validate (c : Config) : Except ConfigError Unit :=
  match c.violation? with
  | none => .ok ()
  | some v => .error (.invalid v.message)

def ofDocument (longer : Bool) : Option Value → Except ConfigError Config
  | none => .error (.malformed "the notation is broken")
  | some document =>
    match decode longer document with
    | none => .error (.malformed "the settings do not have their shape")
    | some c => do
      c.validate
      return c

/-- In JSON a list that stands for a record ends with its last field. -/
def ofJson (text : String) : Except ConfigError Config := ofDocument false (Json.parse? text)

/-- In TOML a list that stands for a record may go on. -/
def ofToml (text : String) : Except ConfigError Config := ofDocument true (Toml.parse? text)

/-- What stands behind the last dot of a file name; a dot in front of the name does not count. -/
def extension? (name : List Char) : Option (List Char) :=
  let tail := name.reverse.takeWhile (· ≠ '.')
  if tail.length + 1 < name.length then some tail.reverse else none

def load (path : String) : Except String Bytes → Except ConfigError Config
  | .error cause => .error (.unreadable path cause)
  | .ok content =>
    match Utf8.decode? content with
    | none => .error (.unreadable path "stream did not contain valid UTF-8")
    | some text =>
      let fileName := (path.toList.reverse.takeWhile (· ≠ '/')).reverse
      if extension? fileName = some "toml".toList then ofToml text else ofJson text

def toJson (c : Config) : String := Json.text c.toValue

end Config
end Doip
