import Courier.Console.Request
import Courier.Settings
import Courier.Config
import Courier.Telemetry.Setup
import Courier.Telemetry.Metrics
import Courier.Console.Logged

namespace Courier

/-! Answers about configuration: retry waits, subscription settings,
deployments, bus and telemetry configuration, starting telemetry, and the
exposition of fresh metrics. -/

-- Powers of numbers are those of the core library, also where more algebra is
-- in scope; a literal exponent is given its type so that no default instance picks it.
attribute [local instance (high)] instPowNat

namespace Console

def durationJson (d : Duration) : Json := .object [("secs", .nat d.secs), ("nanos", .nat d.nanos)]

def settingsJson (s : SubscriptionSettings) : Json :=
  .object [("ack_deadline", durationJson s.ackDeadline), ("retention", durationJson s.retention),
    ("retry_backoff", .object [("min", durationJson s.retryBackoff.min),
      ("max", durationJson s.retryBackoff.max)]),
    ("dead_letter", .object [("topic", .string s.deadLetter.topic),
      ("max_delivery_attempts", .nat s.deadLetter.maxDeliveryAttempts)])]

def busConfigJson (c : BusConfig) : Json :=
  .object [("service_name", .string c.serviceName), ("environment", .string c.environment.name),
    ("provisioning", .string c.provisioning.name), ("max_concurrency", .nat c.maxConcurrency)]

def telemetryConfigJson (c : TelemetryConfig) : Json :=
  .object [("service_name", .string c.serviceName), ("log_level", .string c.logLevel),
    ("console_output", .bool c.consoleOutput), ("json_logs", .bool c.jsonLogs)]

/-- The wait after an attempt, with optional bounds. -/
def backoffAnswer (request : Json) : Reading Json := do
  let attempt ← Request.natBelow request "attempt" (2 ^ (32 : Nat))
  let min ← Request.duration? request "min"
  let max ← Request.duration? request "max"
  let backoff : RetryBackoff := ⟨min.getD RetryBackoff.standard.min, max.getD RetryBackoff.standard.max⟩
  return .object [("delay", durationJson (backoff.delayAfter attempt))]

/-- The standard settings of a subscription to a topic. -/
def subscriptionSettingsAnswer (request : Json) : Reading Json := do
  let topic ← Request.text request "topic"
  let deadline ← Request.word? request "ack_deadline_secs"
  let _ ← Request.word? request "max_concurrency"
  return .object [("settings", settingsJson (.forTopic topic (deadline.map Duration.ofSecs)))]

/-- The deployment a text names, with its policy. -/
def parseEnvironmentAnswer (request : Json) : Reading Json := do
  let d := Deployment.parse (← Request.text request "value")
  return .object [("environment", .string d.name), ("is_production", .bool d.isProduction),
    ("policy", .string d.provisioningPolicy.name),
    ("allows_create", .bool d.provisioningPolicy.allowsCreate)]

def buildConfig (request : Json) : Reading BusConfig := do
  let base ← match ← Request.text? request "service_name" with
    | some name =>
      let environment ← Request.text? request "environment"
      pure (BusConfig.forService name (Deployment.parse (environment.getD "")))
    | none => pure BusConfig.standard
  let withPolicy ← match ← Request.text? request "provisioning" with
    | some name => match ProvisioningPolicy.ofName? name with
      | some policy => pure (base.withProvisioning policy)
      | none => refuse ("unknown provisioning " ++ name)
    | none => pure base
  match ← Request.word? request "max_concurrency" with
  | some limit => pure (withPolicy.withMaxConcurrency limit)
  | none => pure withPolicy

def supportedVariables : List String :=
  ["SERVICE_NAME", "DEPLOY_ENV", "APP_ENV", "BUS_MAX_CONCURRENCY", "BUS_LOG_LEVEL", "RUST_LOG",
   "BUS_CONSOLE_OUTPUT", "BUS_JSON_LOGS", "KUBERNETES_SERVICE_HOST", "DOCKER_CONTAINER"]

/-- The environment a request sets; only supported variables may be set, and
no value may hold a NUL character. -/
def environmentOf (request : Json) : Reading Environment := do
  let env := (← Request.stringMap? request "env").getD []
  for (name, value) in env do
    if !supportedVariables.contains name then refuse ("unsupported variable " ++ name)
    if value.toList.contains (Char.ofNat 0) then refuse "NUL in variable value"
  return env

/-- A telemetry configuration: the standard one or the environment's, then the
request's overrides. -/
def buildTelemetryConfig (request : Json) : Reading TelemetryConfig := do
  let base ← match (← Request.text? request "base").getD "default" with
    | "default" => pure TelemetryConfig.standard
    | "env" => pure (TelemetryConfig.ofEnvironment (← environmentOf request))
    | other => refuse ("unknown base " ++ other)
  let named := match ← Request.text? request "service_name" with
    | some name => { base with serviceName := name }
    | none => base
  let leveled := match ← Request.text? request "log_level" with
    | some level => { named with logLevel := level }
    | none => named
  let consoleOutput := (Request.flag? request "console_output").getD leveled.consoleOutput
  let jsonLogs := (Request.flag? request "json_logs").getD leveled.jsonLogs
  return { leveled with consoleOutput, jsonLogs }

/-- Start telemetry at `now`, in a fresh process or in this one, where a logger
is already installed. A fresh process that gives up reports no result; giving
up in this process breaks the reading down. -/
def initTelemetryAnswer (now : Instant) (request : Json) : Reading Json := do
  let config ← buildTelemetryConfig request
  let inProcess := (Request.flag? request "in_process").getD false
  match config.start inProcess now with
  | .ok lines =>
    return .object [("ok", .bool true), ("metric_families", .nat 1),
      ("logged", .array (loggedEntries lines))]
  | .error (.refused e) =>
    let fields := [("error", Json.string ("TelemetryError::" ++ e.kind)), ("message", .string e.message)]
    return .object (if inProcess then fields else fields ++ [("logged", .array [])])
  | .error .gaveUp => if inProcess then throw .breakdown else refuse "child gave no result"

def metricsAnswer : Json := .object [("lines", Json.strings Metrics.empty.render)]

end Console

end Courier
