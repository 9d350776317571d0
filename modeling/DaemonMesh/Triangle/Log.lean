import DaemonMesh.Triangle.Departure
import DaemonMesh.Triangle.LogDirective

namespace DaemonMesh

namespace Departure

def line (message : String) (fields : List (String × String)) : LogLine :=
  ⟨"triangle", message, fields⟩

def boundLine (bound : SessionId × Link) : LogLine :=
  line "session bound" [("session", bound.1.text), ("link", shownText bound.2.name)]

def unreachableLine (names : List String) : LogLine :=
  line "endpoints depending on A" [("unreachable", shownList (names.map shownText))]

/-- The router speaks under a target of its own. -/
def retiredLine (name : String) : LogLine :=
  ⟨"busroute::routing::router", "virtual endpoint retired",
    [("endpoint", shownText name), ("link", shownText ":a.1")]⟩

def eventLine : RouteEvent → LogLine
  | .retired name => line "endpoint retired" [("endpoint", name)]
  | .sessionLost endpoint session reason =>
    line "session lost" [("endpoint", endpoint), ("session", session.text), ("reason", reason.name)]

def lossLine (report : LossReport) : LogLine :=
  line "A left the bus" [("retired", shownList (report.retired.map shownText)),
    ("lost_sessions", toString report.lost.length)]

def lastLine : Except Failure Delivery → LogLine
  | .ok delivery => line "still routable" [("link", shownText delivery.link.name)]
  | .error failure => line "no route, as expected" [("error", failure.message)]

def writersLine (toA toC : List Message) : LogLine :=
  line "writers finished"
    [("written_a", toString toA.length), ("written_c", toString toC.length)]

def writerLine (link : String) (message : Message) : LogLine :=
  line "wrote message" [("link", shownText link), ("serial", toString message.serial.toNat)]

/-- What the program itself logs, from the first binding to the end of the writers. -/
def mainLines (departure : Departure) : List LogLine :=
  departure.bound.map boundLine
  ++ [unreachableLine departure.unreachable]
  ++ departure.report.retired.map retiredLine
  ++ departure.heard.map eventLine
  ++ [lossLine departure.report, lastLine departure.last,
    writersLine departure.writtenToA departure.writtenToC]

def writerLinesA (departure : Departure) : List LogLine :=
  departure.writtenToA.map (writerLine ":a.1")

def writerLinesC (departure : Departure) : List LogLine :=
  departure.writtenToC.map (writerLine ":c.1")

end Departure

end DaemonMesh
