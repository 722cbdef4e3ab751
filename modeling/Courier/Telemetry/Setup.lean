import Courier.Telemetry.Config
import Courier.Telemetry.Filter
import Courier.Json.Writer
import Courier.Time.Instant

namespace Courier

/-! Starting telemetry: the filter is read first, then logging is installed
unless another logger already is, and the start is logged. When the guard that
starting returns is dropped, the end is logged too. Each of the two events is
written only when the filter enables it, as a JSON object or as a line of text
styled for a terminal: a dimmed time stamp, the verbosity in green, the dimmed
target, the message, and each field's name in italics with a dimmed `=`. -/

inductive TelemetryError where
  /-- Logging could not be installed. -/
  | loggingInit (reason : String)
  /-- Metrics could not be registered. -/
  | metricsInit (reason : String)
  /-- The configuration was refused. -/
  | config (reason : String)
  deriving DecidableEq, Repr

namespace TelemetryError

def kind : TelemetryError → String
  | .loggingInit _ => "LoggingInit"
  | .metricsInit _ => "MetricsInit"
  | .config _ => "Config"

def message : TelemetryError → String
  | .loggingInit reason => "Failed to initialize logging: " ++ reason
  | .metricsInit reason => "Failed to initialize Prometheus metrics: " ++ reason
  | .config reason => "Invalid configuration: " ++ reason

end TelemetryError

/-- What the logger writes for one event: a JSON object, or text with terminal
styles that runs to the end of a line. A field's text is written as it is, so
the text may hold line breaks and escape sequences of its own. -/
inductive LogLine where
  | json (value : Json)
  | text (line : String)
  deriving Repr

def startEvent : LogEvent := ⟨"bus_telemetry::logging", .info, ["message", "service", "json_logs"]⟩

def stopEvent : LogEvent := ⟨"bus_telemetry", .info, ["message"]⟩

/-- Text in a terminal style: the style's escape sequence, the text, and the
sequence that resets the style. -/
def paint (style text : String) : String := "\x1b[" ++ style ++ "m" ++ text ++ "\x1b[0m"

/-- The styled head of a text line: time stamp, verbosity and target. -/
def textHead (now : Instant) (target : String) : String :=
  paint "2" now.render ++ " " ++ paint "32" " INFO" ++ " " ++ paint "2" target ++ paint "2" ":" ++ " "

/-- A field of a text line: its name in italics, a dimmed `=` and its value. -/
def textField (name value : String) : String := paint "3" name ++ paint "2" "=" ++ value

def startLine (config : TelemetryConfig) (now : Instant) : LogLine :=
  if config.jsonLogs then
    .json (.object [
      ("fields", .object [("json_logs", .bool true),
        ("message", .string "Structured logging initialized"),
        ("service", .string config.serviceName)]),
      ("filename", .string "crates/bus-telemetry/src/logging.rs"),
      ("level", .string "INFO"),
      ("line_number", .nat 71),
      ("target", .string "bus_telemetry::logging"),
      ("threadId", .string "ThreadId(1)")])
  else
    .text (textHead now "bus_telemetry::logging" ++ "Structured logging initialized " ++
      textField "service" config.serviceName ++ " " ++ textField "json_logs" "false")

def stopLine (config : TelemetryConfig) (now : Instant) : LogLine :=
  if config.jsonLogs then
    .json (.object [
      ("fields", .object [("message", .string "Shutting down telemetry")]),
      ("filename", .string "crates/bus-telemetry/src/lib.rs"),
      ("level", .string "INFO"),
      ("line_number", .nat 91),
      ("target", .string "bus_telemetry"),
      ("threadId", .string "ThreadId(1)")])
  else .text (textHead now "bus_telemetry" ++ "Shutting down telemetry")

/-- The words of a logger that finds another already installed. -/
def alreadyInstalled : String := "a global default trace dispatcher has already been set"

/-- Why starting telemetry wrote nothing: it refused, or reading the filter gave up. -/
inductive StartFailure where
  | refused (error : TelemetryError)
  | gaveUp
  deriving Repr

/-- Start telemetry in a process at `now`, then drop its guard: the lines
written, or why nothing was. `installed` says whether a logger is installed
already. -/
def TelemetryConfig.start (config : TelemetryConfig) (installed : Bool) (now : Instant) :
    Except StartFailure (List LogLine) := do
  let directives ← match parseFilter config.logLevel with
    | .ok ds => pure ds
    | .error .cutCharacter => throw .gaveUp
    | .error e => throw (.refused (.config e.message))
  if installed then throw (.refused (.loggingInit alreadyInstalled))
  if !config.consoleOutput then return []
  let started := if enables directives startEvent then [startLine config now] else []
  let stopped := if enables directives stopEvent then [stopLine config now] else []
  return started ++ stopped

end Courier
