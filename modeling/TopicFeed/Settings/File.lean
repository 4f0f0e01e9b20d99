import TopicFeed.Json.Parser
import TopicFeed.Settings.Fields
import TopicFeed.Toml.Parser
/-! Settings from texts and files. The extension of a file tells its format; without one that does,
either format will do. -/
namespace TopicFeed

/-- Why no settings were loaded. -/
inductive LoadFault where
  /-- There is no such file, or it holds no text. -/
  | unreadable
  | json
  | toml
  /-- Neither format fits and the extension names none. -/
  | unsupported (extension : String)
  deriving DecidableEq

namespace LoadFault

def message : LoadFault → String
  | .unreadable => "Failed to read config file"
  | .json => "Failed to parse JSON"
  | .toml => "Failed to parse TOML"
  | .unsupported extension => "Unsupported config format: " ++ extension

end LoadFault

namespace Settings

def ofJsonText (text : String) : Except LoadFault Settings :=
  match (Json.parse? text).bind ofJson? with
  | some settings => .ok settings
  | none => .error .json

def ofTomlText (text : String) : Except LoadFault Settings :=
  match (Toml.parse? text).bind ofToml? with
  | some settings => .ok settings
  | none => .error .toml

/-- What follows the last point of a file name, unless the name begins with it. -/
def extension (fileName : String) : String :=
  let chars := fileName.toList
  let after := chars.reverse.takeWhile (· != '.')
  if chars.length ≤ after.length + 1 then "" else .ofList after.reverse

/-- Settings from the text of a file. The names of the formats have ASCII letters only, and no
other letter has one of them for its lower case. -/
def ofFileText (fileName text : String) : Except LoadFault Settings :=
  let extension := extension fileName
  if extension.toLower = "json" then ofJsonText text
  else if extension.toLower = "toml" then ofTomlText text
  else
    match ofJsonText text with
    | .ok settings => .ok settings
    | .error _ =>
      match ofTomlText text with
      | .ok settings => .ok settings
      | .error _ => .error (.unsupported extension)

/-- Settings from a file; `content` is missing when the file is. -/
def load (fileName : String) (content : Option ByteArray) : Except LoadFault Settings :=
  match content.bind String.fromUTF8? with
  | none => .error .unreadable
  | some text => ofFileText fileName text

end Settings
end TopicFeed
