import Courier.Scenario.Run
import Courier.Bus.Delivery

namespace Courier

/-! Answering a scenario request: the buses are configured like `config`
requests, one broker is shared by all of them, and the operations run in
virtual time from zero. -/

namespace Console

/-- The buses a scenario asks for; one development bus of a test service when
it names none. -/
def scenarioBuses (request : Json) : Reading (List BusConfig) :=
  match Request.get? request "buses" with
  | none => .ok [BusConfig.forService "test-svc" .development]
  | some (.array (first :: rest)) => (first :: rest).mapM buildConfig
  | some _ => .error "buses must be a non-empty list"

/-- Run a scenario; the answer lists one step per operation, unless one of them
broke down. -/
def scenarioAnswer (now : Instant) (request : Json) : Reading Json := do
  let ops ← match Request.get? request "ops" with
    | some (.array items) => pure items
    | _ => refuse "ops must be a list"
  let configs ← scenarioBuses request
  let retryDelay ← Scenario.seconds? request "retry_delay_secs"
  let detail := (Request.flag? request "detail").getD false
  let known := Scenario.knownNames ops
  let world := World.fresh (Broker.empty retryDelay) configs now
  let program := Scenario.runAll detail known (ops.map (Scenario.readOp configs.length))
  let machine := Run.execute Job.start world program
  if machine.world.brokeDown then throw .breakdown
  return .object [("steps", .array machine.world.transcript)]

end Console

end Courier
