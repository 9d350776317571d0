import DaemonMesh.Session
import DaemonMesh.Text.Characters

namespace DaemonMesh

/-- What the demonstration is asked to do: how many sessions to bind, where its configuration is,
and whether to log everything. Nothing is asked twice. -/
structure TriangleOptions where
  sessions : Option UInt32
  config : Option String
  debug : Bool
deriving DecidableEq, Repr

/-- The options that take a value. -/
inductive ValueOption
  | sessions
  | config
deriving DecidableEq, Repr

namespace TriangleOptions

def none : TriangleOptions := ⟨.none, .none, false⟩

def sessionCount (options : TriangleOptions) : UInt32 := options.sessions.getD 2

/-- A count in decimal digits, perhaps behind a sign. Nothing below zero is a count, but zero may
have either sign. -/
def count? (text : String) : Option UInt32 := do
  let value ← match text.toList with
    | '+' :: digits => wholeNumber? digits
    | '-' :: digits => (wholeNumber? digits).filter (· == 0)
    | digits => wholeNumber? digits
  if value < UInt32.size then some (UInt32.ofNat value) else .none

def give? (options : TriangleOptions) (option : ValueOption) (value : String) :
    Option TriangleOptions :=
  match option with
  | .sessions =>
    if options.sessions.isSome then .none
    else (fun count => { options with sessions := some count }) <$> count? value
  | .config =>
    if options.config.isSome || value.isEmpty then .none
    else some { options with config := some value }

def setDebug? (options : TriangleOptions) : Option TriangleOptions :=
  if options.debug then .none else some { options with debug := true }

/-- Reads options of one letter that stand together. The rest of the text behind one that takes a
value is its value, an equals sign between them aside; if there is no rest, the value is yet to
come. -/
def letters? (options : TriangleOptions) : List Char →
    Option (TriangleOptions × Option ValueOption)
  | [] => some (options, .none)
  | 'd' :: rest => options.setDebug? >>= fun options => options.letters? rest
  | 's' :: rest => attached? options .sessions rest
  | 'c' :: rest => attached? options .config rest
  | _ => .none
where
  attached? (options : TriangleOptions) (option : ValueOption) :
      List Char → Option (TriangleOptions × Option ValueOption)
    | [] => some (options, some option)
    | '=' :: value => (·, .none) <$> options.give? option (String.ofList value)
    | value => (·, .none) <$> options.give? option (String.ofList value)

def longValue? : String → Option ValueOption
  | "sessions" => some .sessions
  | "config" => some .config
  | _ => .none

/-- Reads an option written out, with its value behind an equals sign or yet to come. -/
def long? (options : TriangleOptions) (text : List Char) :
    Option (TriangleOptions × Option ValueOption) :=
  let name := String.ofList (text.takeWhile (· != '='))
  match text.dropWhile (· != '=') with
  | [] =>
    if name = "debug" then (·, .none) <$> options.setDebug?
    else (fun option => (options, some option)) <$> longValue? name
  | _ :: value => do
    let option ← longValue? name
    (·, .none) <$> options.give? option (String.ofList value)

def argument? (options : TriangleOptions) (argument : String) :
    Option (TriangleOptions × Option ValueOption) :=
  match argument.toList with
  | '-' :: '-' :: text => options.long? text
  | '-' :: letter :: letters => options.letters? (letter :: letters)
  | _ => .none

/-- Whether a text cannot stand as a value of its own because it looks like an option. -/
def looksLikeOption (text : String) : Bool :=
  match text.toList with
  | '-' :: _ :: _ => true
  | _ => false

/-- Reads the arguments one by one. A double dash may end them, with nothing behind it. -/
def readFrom? : List String → TriangleOptions → Option TriangleOptions
  | [], options => some options
  | ["--"], options => some options
  | argument :: rest, options =>
    match options.argument? argument with
    | .none => .none
    | some (options, .none) => readFrom? rest options
    | some (options, some option) =>
      match rest with
      | [] => .none
      | value :: rest =>
        if looksLikeOption value then .none
        else options.give? option value >>= readFrom? rest

def read? (arguments : List String) : Option TriangleOptions := readFrom? arguments none

end TriangleOptions

end DaemonMesh
