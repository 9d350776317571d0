import DaemonMesh.Triangle.LogDirective

namespace DaemonMesh

/-- What a log lets through. -/
structure LogFilter where
  directives : List LogDirective
deriving DecidableEq, Repr

namespace LogFilter

/-- Reads directives one by one. Unreadable ones are passed over, but none may be miscut. -/
def readAll? : List String → Option (List LogDirective)
  | [] => some []
  | text :: rest =>
    match LogDirective.read text.toList with
    | .ok directive => (directive :: ·) <$> readAll? rest
    | .error .unreadable => readAll? rest
    | .error .miscut => none

/-- Reads the directives between the commas of a text. -/
def read? (text : String) : Option LogFilter := LogFilter.mk <$> readAll? (text.splitOn ",")

/-- The directive that decides about a line: the closest one, and of equally close ones the last. -/
def deciding? (filter : LogFilter) (line : LogLine) : Option LogDirective :=
  (filter.directives.filter fun directive => directive.covers line).foldl
    (fun best directive =>
      match best with
      | none => some directive
      | some best => if best.yields directive then some directive else some best)
    none

/-- A line that no directive covers is left out. -/
def allows (filter : LogFilter) (line : LogLine) : Bool :=
  match filter.deciding? line with
  | none => false
  | some directive => LogLevel.info.rank ≤ directive.level.rank

/-- The lines that the filter lets through, as written. -/
def select (filter : LogFilter) (lines : List LogLine) : List String :=
  (lines.filter filter.allows).map LogLine.written

end LogFilter

end DaemonMesh
