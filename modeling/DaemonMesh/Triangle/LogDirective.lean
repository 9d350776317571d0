import DaemonMesh.Text.Alphanumeric
import DaemonMesh.Triangle.WishedValue

namespace DaemonMesh

/-- A line of information in the log: who speaks, what is said, and named values. -/
structure LogLine where
  target : String
  message : String
  fields : List (String × String)
deriving DecidableEq, Repr

namespace LogLine

def written (line : LogLine) : String :=
  "INFO " ++ line.target ++ ": " ++ line.message
    ++ String.join (line.fields.map fun field => " " ++ field.1 ++ "=" ++ field.2)

/-- What is said counts as a named value, too. -/
def fieldNames (line : LogLine) : List String := "message" :: line.fields.map Prod.fst

end LogLine

inductive LogLevel
  | off
  | error
  | warn
  | info
  | debug
  | trace
deriving DecidableEq, Repr

namespace LogLevel

def rank : LogLevel → Nat
  | off => 0
  | error => 1
  | warn => 2
  | info => 3
  | debug => 4
  | trace => 5

def all : List LogLevel := [off, error, warn, info, debug, trace]

def name : LogLevel → String
  | off => "off"
  | error => "error"
  | warn => "warn"
  | info => "info"
  | debug => "debug"
  | trace => "trace"

/-- A rank in decimal digits, perhaps behind a plus. -/
def rank? (text : String) : Option Nat :=
  match text.toList with
  | '+' :: digits => wholeNumber? digits
  | digits => wholeNumber? digits

/-- Reads a level by its name in any case, or by its rank. -/
def read? (text : String) : Option LogLevel :=
  all.find? fun level => level.name == text.toLower || rank? text == some level.rank

/-- Reads the level behind an equals sign. If there is none, everything goes through. -/
def assigned? (text : String) : Option LogLevel := if text.isEmpty then some trace else read? text

end LogLevel

/-- A level for the lines of all targets that begin with the given text, or of any target. If a
field is given, only lines with a value of that name are meant. -/
structure LogDirective where
  target : Option String
  field : Option String
  level : LogLevel
deriving DecidableEq, Repr

/-- Why a text gives no directive. An unreadable text says nothing about lines: it is malformed, or
it speaks of spans or of wished values. A miscut one has a part that would begin or end inside a
character. -/
inductive DirectiveFault
  | unreadable
  | miscut
deriving DecidableEq, Repr

namespace LogDirective

/-- Reads a bare word: a level for all targets, or else a target that everything goes through for.
-/
def ofWord (word : String) : LogDirective :=
  match LogLevel.read? word with
  | some level => ⟨none, none, level⟩
  | none => ⟨some word, none, .trace⟩

def cut (text : List Char) (start stop : Nat) : Except DirectiveFault String :=
  match cut? text start stop with
  | none => .error .miscut
  | some part => .ok (String.ofList part)

/-- The level that begins at a position of the text and ends with it. -/
def levelAt (text : List Char) (position : Nat) : Except DirectiveFault LogLevel := do
  let part ← cut text position (byteLength text)
  match LogLevel.assigned? part with
  | none => .error .unreadable
  | some level => .ok level

/-- Reads what stands behind a closing bracket: nothing, or an equals sign with a level. -/
def readLevel (text : List Char) (position : Nat) : List Char → Except DirectiveFault LogLevel
  | [] => .ok .trace
  | '=' :: _ => levelAt text (position + 1)
  | _ => .error .unreadable

/-- A field has a name. A wished value stands behind the first equals sign, and ends at the next. -/
def isField (field : String) : Bool :=
  !field.isEmpty
    && match field.splitOn "=" with
      | _ :: value :: _ => WishedValue.isReadable value.toList
      | _ => true

/-- Reads what stands behind an opening brace: a field up to the closing brace, the closing bracket,
and perhaps a level. -/
def readField (text : List Char) (position : Nat) (rest : List Char) :
    Except DirectiveFault (String × LogLevel) := do
  let stop := position + byteLength (rest.takeWhile (· != '\x7d'))
  match rest.dropWhile (· != '\x7d') with
  | [] => .error .unreadable
  | _ :: rest =>
    let field ← cut text position stop
    match isField field, rest with
    | true, ']' :: rest => .ok (field, ← readLevel text (stop + 2) rest)
    | _, _ => .error .unreadable

def endsSpan (c : Char) : Bool := c == '\x7b' || c == ']'

/-- Reads what stands behind an opening bracket: the name of a span, which may be missing before a
field, the field, and perhaps a level. -/
def readBracket (text : List Char) (target : Option String) (position : Nat) (rest : List Char) :
    Except DirectiveFault LogDirective := do
  let stop := position + byteLength (rest.takeWhile fun c => !endsSpan c)
  match rest.dropWhile fun c => !endsSpan c with
  | [] => .error .unreadable
  | ']' :: rest =>
    let _ ← cut text position stop
    let _ ← readLevel text (stop + 1) rest
    .error .unreadable
  | _ :: rest =>
    let span ← cut text position stop
    let (field, level) ← readField text (stop + 1) rest
    if span.isEmpty && !field.contains '=' then .ok ⟨target, some field, level⟩
    else .error .unreadable

/-- Targets begin with a letter or a digit of any script, or with one of three signs. -/
def startsTarget (c : Char) : Bool := isAlphanumeric c || c == '_' || c == ':' || c == '-'

def endsTarget (c : Char) : Bool := c == '=' || c == '['

/-- Finds the parts of a directive in the text without the blanks around it, and takes them out of
the text with the blanks, at the same byte positions. So blanks in front of a directive spoil it:
they become part of its target or of its field, or a part comes to end inside a character. -/
def read (text : List Char) : Except DirectiveFault LogDirective := do
  let inner := trimBlanks text
  let stop := byteLength (inner.takeWhile fun c => !endsTarget c)
  match inner, inner.dropWhile fun c => !endsTarget c with
  | '[' :: _, _ :: rest => readBracket text none (stop + 1) rest
  | start :: _, rest =>
    if !startsTarget start then .error .unreadable
    else
      match rest with
      | [] => .ok (ofWord (String.ofList text))
      | '[' :: rest =>
        let target ← cut text 0 stop
        readBracket text (some target) (stop + 1) rest
      | _ :: _ =>
        let target ← cut text 0 stop
        .ok ⟨some target, none, ← levelAt text (stop + 1)⟩
  | [], _ => .error .unreadable

def covers (directive : LogDirective) (line : LogLine) : Bool :=
  (directive.target.all fun start => start.toList.isPrefixOf line.target.toList)
    && directive.field.all line.fieldNames.contains

/-- How closely a directive names its targets. -/
def weight (directive : LogDirective) : Nat := directive.target.elim 0 String.utf8ByteSize

/-- A field is closer than none; of two fields, the one later in the alphabet counts as closer. -/
def fieldYields : Option String → Option String → Bool
  | none, _ => true
  | some _, none => false
  | some field, some other => !(other < field)

/-- Whether another directive is as close as this one or closer: first by target, then by field. -/
def yields (directive other : LogDirective) : Bool :=
  directive.weight < other.weight
    || directive.weight == other.weight && fieldYields directive.field other.field

end LogDirective

end DaemonMesh
