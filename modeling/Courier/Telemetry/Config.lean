import Courier.Config

namespace Courier

/-! The configuration of logging: the service named in log lines, the filter
directives that choose which events are written, whether anything is written
to the console, and whether lines are JSON objects or text. -/

structure TelemetryConfig where
  serviceName : String
  logLevel : String
  consoleOutput : Bool
  jsonLogs : Bool
  deriving DecidableEq, Repr

namespace TelemetryConfig

/-- An unnamed service logging information and above as text on the console. -/
def standard : TelemetryConfig := ⟨defaultServiceName, "info", true, false⟩

/-- A flag is off when it is empty, `false`, `0` or `no`, ignoring case and
surrounding blanks, and on otherwise. -/
def parseFlag (value : String) : Bool :=
  let v := lowerAscii (trimBlank value)
  !(v.isEmpty || v == "false" || v == "0" || v == "no")

/-- The configuration from environment variables: `SERVICE_NAME`, the directives
of `BUS_LOG_LEVEL` or else `RUST_LOG`, the flags `BUS_CONSOLE_OUTPUT` and
`BUS_JSON_LOGS`; JSON lines are the default inside a container, which
`KUBERNETES_SERVICE_HOST` or `DOCKER_CONTAINER` reveal. -/
def ofEnvironment (env : Environment) : TelemetryConfig :=
  let inContainer := (env.get? "KUBERNETES_SERVICE_HOST").isSome || (env.get? "DOCKER_CONTAINER").isSome
  { serviceName := (env.get? "SERVICE_NAME").getD defaultServiceName
    logLevel := (env.get? "BUS_LOG_LEVEL" <|> env.get? "RUST_LOG").getD "info"
    consoleOutput := ((env.get? "BUS_CONSOLE_OUTPUT").map parseFlag).getD true
    jsonLogs := ((env.get? "BUS_JSON_LOGS").map parseFlag).getD inContainer }

end TelemetryConfig

example : TelemetryConfig.parseFlag " No " = false := by decide
example : (TelemetryConfig.ofEnvironment [("DOCKER_CONTAINER", "")]).jsonLogs = true := by decide

end Courier
