import Courier.Console.Envelope
import Courier.Console.Configuration
import Courier.Console.Scenario

namespace Courier

/-! Answering one request line: the request names an operation in `op`; the
answer is one JSON line in which every character beyond ASCII is escaped. An
invalid request is answered with the error `InvalidInput`. -/

namespace Console

def invalidInput (message : String) : Json :=
  .object [("error", .string "InvalidInput"), ("message", .string message)]

def answerOp (now : Instant) (request : Json) : Reading Json := do
  match ← Request.text request "op" with
  | "decode" => decodeAnswer request
  | "materialize" => materializeAnswer now request
  | "backoff" => backoffAnswer request
  | "subscription_settings" => subscriptionSettingsAnswer request
  | "parse_environment" => parseEnvironmentAnswer request
  | "config" => return .object [("config", busConfigJson (← buildConfig request))]
  | "config_from_env" =>
    return .object [("config", busConfigJson (BusConfig.ofEnvironment (← environmentOf request)))]
  | "telemetry_config_from_env" =>
    return .object [("config",
      telemetryConfigJson (TelemetryConfig.ofEnvironment (← environmentOf request)))]
  | "telemetry_config" => return .object [("config", telemetryConfigJson (← buildTelemetryConfig request))]
  | "init_telemetry" => initTelemetryAnswer now request
  | "metrics" => return metricsAnswer
  | "scenario" => scenarioAnswer now request
  | other => refuse ("unknown op " ++ other)

/-- The answer of a request whose reading broke down. -/
def breakdownAnswer : Json :=
  .object [("error", .string "panic"), ("message", .string "driver panicked")]

def answer (now : Instant) (request : Json) : Json :=
  match answerOp now request with
  | .ok value => value
  | .error (.invalid message) => invalidInput message
  | .error .breakdown => breakdownAnswer

/-- The answer line to a request line, read at the instant `now`. -/
def respond (now : Instant) (line : String) : String :=
  let reply := match Json.readText line with
    | .ok request => answer now request
    | .error e => invalidInput e.message
  reply.render .ascii

end Console

end Courier
