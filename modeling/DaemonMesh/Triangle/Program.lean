import DaemonMesh.Config.Store
import DaemonMesh.Triangle.Log
import DaemonMesh.Triangle.LogFilter
import DaemonMesh.Triangle.Options

namespace DaemonMesh

/-- The first line of a text whose lines end with a line feed, or with a carriage return before it.
-/
def firstLine (text : String) : String :=
  let line := text.toList.takeWhile (· != '\n')
  String.ofList (if line.getLast? = some '\r' then line.dropLast else line)

/-- What the log shows of a departure: the program's own lines, and those of both writers. -/
structure TriangleLog where
  main : List String
  toA : List String
  toC : List String
deriving DecidableEq, Repr

/-- How a run of the demonstration ends. -/
inductive TriangleRun
  | misused
  | notLoaded (path : String)
  | miscutFilter
  | aborted (failure : Failure)
  | finished (log : TriangleLog)

namespace TriangleRun

def exitCode : TriangleRun → Nat
  | misused => 2
  | notLoaded _ | aborted _ => 1
  | miscutFilter => 101
  | finished _ => 0

/-- What the run complains about. -/
def complaint? : TriangleRun → Option String
  | misused | miscutFilter | finished _ => none
  | notLoaded path => some ("Error: loading config from " ++ path)
  | aborted failure => some ("Error: " ++ failure.message)

/-- The first line of the complaint, as it stands when the complaint is printed as lines. -/
def headline? (run : TriangleRun) : Option String := run.complaint?.map firstLine

end TriangleRun

def debugLogFilter : String := "busroute=trace,triangle=debug"

def triangleConfig (files : FileTree) (options : TriangleOptions) : Except BusError RouterConfig := do
  let config ← match options.config with
    | none => .ok .default
    | some path => RouterConfig.loadFile files path
  .ok (if options.debug then config.withLogFilter debugLogFilter else config)

def guidOfA : Guid := .numbered 1

def guidOfC : Guid := .numbered 2

/-- Runs the demonstration with arguments, on files. -/
def runTriangle (arguments : List String) (files : FileTree) : TriangleRun :=
  match TriangleOptions.read? arguments with
  | none => .misused
  | some options =>
    match triangleConfig files options with
    | .error _ => .notLoaded (options.config.getD "")
    | .ok config =>
      match LogFilter.read? config.logFilter with
      | none => .miscutFilter
      | some filter =>
        match Departure.run config options.sessionCount.toNat guidOfA guidOfC with
        | .error failure => .aborted failure
        | .ok departure =>
          .finished ⟨filter.select departure.mainLines, filter.select departure.writerLinesA,
            filter.select departure.writerLinesC⟩

end DaemonMesh
