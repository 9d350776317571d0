import DaemonMesh.Config
import DaemonMesh.Config.FileTree
import DaemonMesh.Json.Reader
import DaemonMesh.Json.Record
import DaemonMesh.Json.Writer

namespace DaemonMesh

namespace RouterConfig

def fieldNames : List String := ["link_queue_capacity", "log_filter"]

/-- A field that is left out has its default. -/
def ofJson? (json : Json) : Option RouterConfig := do
  match ← json.fields? fieldNames with
  | [capacity, filter] =>
    let queueCapacity ← match capacity with
      | none => some default.queueCapacity
      | some value => UInt64.ofNat <$> value.naturalBelow? UInt64.size
    let logFilter ← match filter with
      | none => some default.logFilter
      | some value => value.text?
    some { queueCapacity, logFilter }
  | _ => none

def toJson (config : RouterConfig) : Json :=
  .members [("link_queue_capacity", .natural config.queueCapacity.toNat),
    ("log_filter", .text config.logFilter)]

/-- The text of a configuration file. -/
def written (config : RouterConfig) : String := config.toJson.indented 0

def read? (text : String) : Option RouterConfig := Json.read? text >>= ofJson?

/-- Reads a configuration and checks it. -/
def load (text : String) : Except ConfigError RouterConfig :=
  match read? text with
  | none => .error (.serializationFailed "the text is no configuration")
  | some config => (fun _ => config) <$> config.validate

/-- Writes the configuration, usable or not, and makes the directories on the way to it. -/
def save (tree : FileTree) (path : String) (config : RouterConfig) : Except BusError FileTree :=
  match tree.place path config.written.toUTF8 with
  | .error error => .error (.file error)
  | .ok tree => .ok tree

/-- Reads a configuration from a file and checks it. -/
def loadFile (tree : FileTree) (path : String) : Except BusError RouterConfig :=
  match tree.read path with
  | .error error => .error (.file error)
  | .ok content =>
    match String.fromUTF8? content with
    | none => .error (.file .invalidData)
    | some text =>
      match load text with
      | .error error => .error (.config error)
      | .ok config => .ok config

end RouterConfig

end DaemonMesh
