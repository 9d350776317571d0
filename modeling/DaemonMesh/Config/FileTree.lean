import DaemonMesh.Failure

namespace DaemonMesh

inductive FileNode
  | file (content : ByteArray)
  | directory

/-- Files and directories under one root. A place is the list of names that lead to it; the root
is a directory that is always there, and another directory is the one to work in. Links are places
that lead on to others. -/
structure FileTree where
  nodes : List (List String × FileNode)
  links : List (List String × List String)

namespace FileTree

/-- Where paths without a leading slash begin. A step with no name goes nowhere, so only a link
leads into the workplace from outside. -/
def workplace : List String := [""]

/-- Nothing but the workplace, which the system shows to every process under a name of its own. -/
def empty : FileTree where
  nodes := [(workplace, .directory), (["proc"], .directory), (["proc", "self"], .directory)]
  links := [(["proc", "self", "cwd"], workplace)]

def node? (tree : FileTree) (place : List String) : Option FileNode :=
  if place = [] then some .directory else tree.nodes.lookup place

def set (tree : FileTree) (place : List String) (node : FileNode) : FileTree :=
  { tree with nodes := (place, node) :: tree.nodes.filter fun entry => entry.1 ≠ place }

/-- Where one arrives at a place. -/
def arrive (tree : FileTree) (place : List String) : List String :=
  (tree.links.lookup place).getD place

def steps (path : String) : List String := path.splitOn "/"

/-- A leading slash leaves the workplace. -/
def startOf (path : List String) : List String := if path.head? = some "" then [] else workplace

/-- Whether a path begins in the workplace and takes no step up. -/
def staysInside (path : String) : Bool :=
  path.toList.head? != some '/' && !(steps path).contains ".."

/-- Names of more than 255 bytes and names with a zero character do not exist. -/
def isName (name : String) : Bool := name.utf8ByteSize ≤ 255 && !name.toList.contains '\x00'

/-- One step of a path: nothing and a dot stay, two dots go up, a name goes down. Steps are taken
from directories only. -/
def walkStep (tree : FileTree) (place : List String) (step : String) :
    Except FileError (List String) :=
  match tree.node? place with
  | none => .error .notFound
  | some (.file _) => .error .notADirectory
  | some .directory =>
    if step = "" ∨ step = "." then .ok place
    else if step = ".." then .ok place.dropLast
    else if isName step then .ok (tree.arrive (place ++ [step]))
    else .error .invalidName

/-- The place that a path leads to, whether or not anything is there. Paths of 4096 bytes and more
are not followed. -/
def follow (tree : FileTree) (path : String) : Except FileError (List String) :=
  if 4096 ≤ path.utf8ByteSize then .error .invalidName
  else (steps path).foldlM tree.walkStep (startOf (steps path))

def read (tree : FileTree) (path : String) : Except FileError ByteArray := do
  match tree.node? (← tree.follow path) with
  | some (.file content) => .ok content
  | some .directory => .error .isADirectory
  | none => .error .notFound

/-- One step of a path that may lead to a new directory. -/
def makeStep (state : FileTree × List String) (step : String) :
    Except FileError (FileTree × List String) := do
  let (tree, place) := state
  let place ← tree.walkStep place step
  match tree.node? place with
  | none => .ok (tree.set place .directory, place)
  | some .directory => .ok (tree, place)
  | some (.file _) => .error .notADirectory

/-- Makes every directory on the way. -/
def makeDirectories (tree : FileTree) (path : List String) : Except FileError FileTree :=
  Prod.fst <$> path.foldlM makeStep (tree, startOf path)

/-- Writes a whole file, in a directory that is there. A path that ends in a slash or a dot names
a directory. -/
def write (tree : FileTree) (path : String) (content : ByteArray) : Except FileError FileTree := do
  match (steps path).getLast? with
  | none | some "" | some "." | some ".." => .error .isADirectory
  | some _ =>
    let place ← tree.follow path
    match tree.node? place with
    | some .directory => .error .isADirectory
    | _ => .ok (tree.set place (.file content))

/-- Writes a whole file and makes the directories on the way to it. -/
def place (tree : FileTree) (path : String) (content : ByteArray) : Except FileError FileTree := do
  let tree ← tree.makeDirectories (steps path).dropLast
  tree.write path content

end FileTree

end DaemonMesh
