import Courier.Decimal.Layout
import Courier.Telemetry.Filter

namespace Courier

/-! The bus's metrics and their text exposition.

Five labelled counters and one gauge are kept: messages published by topic and
event type, failed publishes by topic, deliveries by subscription and outcome,
handler runs by subscription, and resources created on demand by kind; the
gauge counts handlers running now. The exposition lists each metric with its
help and type lines, metrics sorted by name, and under each its series, whose
labels are sorted by name and whose order is that of their label values. A
counter without series is left out; handler runs are written as the count
line of a histogram. -/

inductive Meter where
  | published
  | publishFailures
  | deliveries
  | handlerRuns
  | provisioned
  deriving DecidableEq, Repr

namespace Meter

def name : Meter → String
  | .published => "eventbus_messages_published_total"
  | .publishFailures => "eventbus_publish_failures_total"
  | .deliveries => "eventbus_deliveries_total"
  | .handlerRuns => "eventbus_handler_duration_seconds"
  | .provisioned => "eventbus_resources_provisioned_total"

def help : Meter → String
  | .published => "Messages accepted by the broker"
  | .publishFailures => "Publish calls that failed"
  | .deliveries => "Delivered messages by outcome"
  | .handlerRuns => "Time spent inside consumer handlers"
  | .provisioned => "Topics and subscriptions created on demand"

def kind : Meter → String
  | .handlerRuns => "histogram"
  | _ => "counter"

def labelNames : Meter → List String
  | .published => ["event_type", "topic"]
  | .publishFailures => ["topic"]
  | .deliveries => ["outcome", "subscription"]
  | .handlerRuns => ["subscription"]
  | .provisioned => ["kind"]

/-- The name of a series line of the metric. -/
def sampleName (m : Meter) : String :=
  match m with
  | .handlerRuns => m.name ++ "_count"
  | _ => m.name

/-- The labelled counters in the order of their names. -/
def all : List Meter := [.deliveries, .handlerRuns, .published, .publishFailures, .provisioned]

end Meter

/-- How a delivery ended, as the deliveries counter labels it. -/
inductive DeliveryOutcome where
  | ack
  | nack
  | malformed
  | filtered
  deriving DecidableEq, Repr

def DeliveryOutcome.label : DeliveryOutcome → String
  | .ack => "ack"
  | .nack => "nack"
  | .malformed => "malformed"
  | .filtered => "filtered"

/-- A series: a counter, its label values in the order of its sorted label
names, and its count. -/
structure Series where
  meter : Meter
  labels : List String
  count : Nat
  deriving DecidableEq, Repr

structure Metrics where
  series : List Series
  inFlight : Int
  deriving Repr

namespace Metrics

def empty : Metrics := ⟨[], 0⟩

/-- Add to a series, creating it when missing. -/
def add (m : Metrics) (meter : Meter) (labels : List String) (amount : Nat) : Metrics :=
  if m.series.any fun s => s.meter = meter && s.labels == labels then
    { m with series := m.series.map fun s =>
        if s.meter = meter && s.labels == labels then { s with count := s.count + amount } else s }
  else { m with series := m.series ++ [⟨meter, labels, amount⟩] }

def bump (m : Metrics) (meter : Meter) (labels : List String) : Metrics := m.add meter labels 1

/-- Make sure a series exists, leaving its count. -/
def touch (m : Metrics) (meter : Meter) (labels : List String) : Metrics := m.add meter labels 0

def notePublished (m : Metrics) (topic eventType : String) : Metrics :=
  m.bump .published [eventType, topic]

def notePublishFailure (m : Metrics) (topic : String) : Metrics := m.bump .publishFailures [topic]

def noteDelivery (m : Metrics) (subscription : String) (outcome : DeliveryOutcome) : Metrics :=
  m.bump .deliveries [outcome.label, subscription]

def noteProvisioned (m : Metrics) (kind : String) : Metrics := m.bump .provisioned [kind]

/-- A handler starts: its series exists from now on. -/
def handlerStarted (m : Metrics) (subscription : String) : Metrics := m.touch .handlerRuns [subscription]

def handlerEnded (m : Metrics) (subscription : String) : Metrics := m.bump .handlerRuns [subscription]

def deliveryEntered (m : Metrics) : Metrics := { m with inFlight := m.inFlight + 1 }

def deliveryLeft (m : Metrics) : Metrics := { m with inFlight := m.inFlight - 1 }

/-- A label value as the exposition writes it. -/
def escapeLabel (value : String) : String :=
  String.join (value.toList.map fun c =>
    match c with
    | '\\' => "\\\\"
    | '"' => "\\\""
    | '\n' => "\\n"
    | c => c.toString)

/-- Whether one list of label values sorts before another. -/
def labelsBefore (a b : List String) : Bool := compareNames a b = .lt

/-- Insert a series into series sorted by label values. -/
def insertByLabels (s : Series) : List Series → List Series
  | [] => [s]
  | t :: rest => if labelsBefore s.labels t.labels then s :: t :: rest else t :: insertByLabels s rest

def sampleLine (s : Series) : String :=
  let pairs := (s.meter.labelNames.zip s.labels).map fun (name, value) =>
    name ++ "=\"" ++ escapeLabel value ++ "\""
  s.meter.sampleName ++ "\x7b" ++ ",".intercalate pairs ++ "\x7d " ++ digitString s.count

def intText (value : Int) : String :=
  if value < 0 then "-" ++ digitString value.natAbs else digitString value.toNat

def render (m : Metrics) : List String :=
  let gauge := ["# HELP eventbus_deliveries_in_flight Number of handler invocations currently running",
    "# TYPE eventbus_deliveries_in_flight gauge",
    "eventbus_deliveries_in_flight " ++ intText m.inFlight]
  let families := Meter.all.map fun meter =>
    let own := (m.series.filter (·.meter = meter)).foldr insertByLabels []
    if own.isEmpty then []
    else ("# HELP " ++ meter.name ++ " " ++ meter.help) :: ("# TYPE " ++ meter.name ++ " " ++ meter.kind) ::
      own.map sampleLine
  gauge ++ families.flatten

end Metrics

example : (Metrics.empty.notePublished "t" "e").render.getLast? =
    some "eventbus_messages_published_total\x7bevent_type=\"e\",topic=\"t\"\x7d 1" := by decide

end Courier
