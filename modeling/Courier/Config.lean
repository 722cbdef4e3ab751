import Courier.Settings
import Courier.Text.Blank

namespace Courier

/-! The configuration of a bus: the service it speaks for, the deployment it
runs in, whether it may create what is missing, and how many deliveries of one
subscription may be handled at once. It is built in code or read from
environment variables. -/

-- Powers of numbers are those of the core library, also where more algebra is
-- in scope; a literal exponent is given its type so that no default instance picks it.
attribute [local instance (high)] instPowNat

abbrev Environment := List (String × String)

def Environment.get? (env : Environment) (name : String) : Option String := env.lookup name

def lowerAscii (text : String) : String := String.ofList (text.toList.map Char.toLower)

/-- The kind of deployment a service runs in. -/
inductive Deployment where
  | production
  | staging
  | development
  | test
  deriving DecidableEq, Repr, Inhabited

namespace Deployment

/-- The deployment named by a text, ignoring case and surrounding blanks;
unknown names are development. -/
def parse (value : String) : Deployment :=
  match lowerAscii (trimBlank value) with
  | "production" | "prod" => .production
  | "staging" | "stage" => .staging
  | "test" => .test
  | _ => .development

def name : Deployment → String
  | .production => "production"
  | .staging => "staging"
  | .development => "development"
  | .test => "test"

def isProduction : Deployment → Bool
  | .production => true
  | _ => false

/-- Production uses only what exists; elsewhere the bus creates what is missing. -/
def provisioningPolicy (d : Deployment) : ProvisioningPolicy :=
  if d.isProduction then .requireExisting else .autoProvision

end Deployment

/-- The service name used when none is given. -/
def defaultServiceName : String := "unknown-service"

/-- Deliveries of one subscription handled at once, unless configured. -/
def defaultMaxConcurrency : Nat := 16

structure BusConfig where
  serviceName : String
  environment : Deployment
  provisioning : ProvisioningPolicy
  maxConcurrency : Nat
  deriving DecidableEq, Repr

namespace BusConfig

/-- An unnamed development service that creates what is missing. -/
def standard : BusConfig :=
  ⟨defaultServiceName, .development, .autoProvision, defaultMaxConcurrency⟩

/-- A named service in a deployment, with that deployment's policy. -/
def forService (serviceName : String) (environment : Deployment) : BusConfig :=
  { standard with serviceName, environment, provisioning := environment.provisioningPolicy }

def withProvisioning (config : BusConfig) (policy : ProvisioningPolicy) : BusConfig :=
  { config with provisioning := policy }

/-- Replace the concurrency limit, which is at least one. -/
def withMaxConcurrency (config : BusConfig) (limit : Nat) : BusConfig :=
  { config with maxConcurrency := Nat.max limit 1 }

/-- Read an unsigned machine word from decimal digits with an optional plus sign. -/
def parseWord? (text : String) : Option Nat :=
  let digits := match text.toList with
    | '+' :: rest => rest
    | other => other
  if digits.isEmpty || !digits.all Char.isDigit then none
  else
    let value := digits.foldl (fun n d => n * 10 + (d.toNat - 48)) 0
    if value < 2 ^ (64 : Nat) then some value else none

/-- The configuration from environment variables: `SERVICE_NAME` unless blank,
the deployment of `DEPLOY_ENV` or else of `APP_ENV`, its policy, and a positive
`BUS_MAX_CONCURRENCY`. -/
def ofEnvironment (env : Environment) : BusConfig :=
  let environment := match env.get? "DEPLOY_ENV" <|> env.get? "APP_ENV" with
    | some value => Deployment.parse value
    | none => .development
  let serviceName := match env.get? "SERVICE_NAME" with
    | some name => if isBlank name then defaultServiceName else name
    | none => defaultServiceName
  let limit := match (env.get? "BUS_MAX_CONCURRENCY").bind parseWord? with
    | some n => if 0 < n then n else defaultMaxConcurrency
    | none => defaultMaxConcurrency
  ⟨serviceName, environment, environment.provisioningPolicy, limit⟩

end BusConfig

example : Deployment.parse " PROD " = .production := by decide
example : (BusConfig.ofEnvironment [("BUS_MAX_CONCURRENCY", "+5")]).maxConcurrency = 5 := by decide
example : (BusConfig.ofEnvironment [("BUS_MAX_CONCURRENCY", " 5")]).maxConcurrency = 16 := by decide

end Courier
