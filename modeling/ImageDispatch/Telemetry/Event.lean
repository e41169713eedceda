import ImageDispatch.Extension.Parameter
import ImageDispatch.Facade.Kind

/-!
# Telemetry

What a dispatcher reports about itself, and what it does with the code of others, as events.

* `Severity`, `Event.log`, `Event.span`: the log.
* `Counter`, `Gauge`: the metrics, with their names and labels.
* `Event.began`, `Event.ended`: the calls of an algorithm. They bracket what the algorithm does.
* `Event.opened`, `Event.closed`, `Event.connected`, `Event.disconnected`: the calls of the source
  of dynamic extensions and of the bootstrap service.
* `Event.founded`, `Event.dissolved`, `Event.leased`, `Event.returned`, `Event.tallied`: how the
  number of users of the vendor library changes, and for whom.
* `Event.sought`, `Event.adopted`, `Event.failed`: how a façade gets its implementations.
-/

namespace ImageDispatch

/-- How important a line of the log is. -/
inductive Severity
  | error
  /-- Something is missing or has failed, and is worked around. -/
  | warn
  | info
  | debug
  | trace
  deriving DecidableEq

/-- The name in the log. -/
def Severity.name : Severity → String
  | error => "ERROR"
  | warn => "WARN"
  | info => "INFO"
  | debug => "DEBUG"
  | trace => "TRACE"

/-- A number that only grows. -/
inductive Counter
  /-- Queries, by the type asked for. -/
  | queries (type : ExtensionType)
  /-- Descriptors collected for queries, by the type asked for. -/
  | loaded (type : ExtensionType)
  /-- Algorithms created and initialized, by extension. -/
  | creations (extension : String)
  /-- Algorithms that failed to be created or initialized, by extension. -/
  | initFailures (extension : String)
  /-- Calls served by a cached implementation, by family of façades. -/
  | hits (family : String)
  /-- Calls that had to find an implementation, by family of façades. -/
  | misses (family : String)
  /-- Detail levels that were skipped on the way down. -/
  | fallbacks
  deriving DecidableEq

/-- A number that is set. -/
inductive Gauge
  /-- Façades that hold the vendor library open. -/
  | vendorInstances
  /-- Slots of the instance table that are taken. -/
  | slotsUsed
  deriving DecidableEq

/-- The name of a gauge. -/
def Gauge.name : Gauge → String
  | vendorInstances => "vpe_vendor_library_instances"
  | slotsUsed => "vpe_instance_slots_used"

namespace Counter

/-- The name of a counter. -/
def name : Counter → String
  | queries _ => "vpe_capability_queries"
  | loaded _ => "vpe_extensions_loaded"
  | creations _ => "vpe_extension_creations"
  | initFailures _ => "vpe_extension_init_failures"
  | hits _ => "vpe_facade_cache_hits"
  | misses _ => "vpe_facade_cache_misses"
  | fallbacks => "vpe_fallback_steps"

/-- The label of a counter, with its value. -/
def label? : Counter → Option (String × String)
  | queries type | loaded type => some ("family", type.label)
  | creations extension | initFailures extension => some ("extension", extension)
  | hits family | misses family => some ("family", family)
  | fallbacks => none

/-- The name with the label. -/
def text (c : Counter) : String :=
  match c.label? with
  | some (label, value) => c.name ++ "\x7b" ++ label ++ "=" ++ value ++ "\x7d"
  | none => c.name

end Counter

/-- The description of a metric. -/
structure MetricDescription where
  /-- A gauge, and not a counter. -/
  isGauge : Bool
  name : String
  meaning : String

/-- Every metric, in the order in which they are described. -/
def metricDescriptions : List MetricDescription :=
  [⟨false, "vpe_capability_queries", "Capability queries answered by the extension manager"⟩,
    ⟨false, "vpe_extensions_loaded", "Extension descriptors collected while answering queries"⟩,
    ⟨false, "vpe_extension_creations", "Algorithm objects created and initialized"⟩,
    ⟨false, "vpe_extension_init_failures",
      "Algorithm objects that failed creation or initialization"⟩,
    ⟨false, "vpe_facade_cache_hits", "Façade calls served by a cached implementation"⟩,
    ⟨false, "vpe_facade_cache_misses", "Façade calls that had to resolve an implementation"⟩,
    ⟨false, "vpe_fallback_steps", "Detail enhancer levels skipped while descending the ladder"⟩,
    ⟨true, "vpe_vendor_library_instances", "Active façades holding the vendor library open"⟩,
    ⟨true, "vpe_instance_slots_used", "Occupied slots in the instance table"⟩]

/-- One line about a metric: what it is, its unit, what it counts. -/
def MetricDescription.text (d : MetricDescription) : String :=
  (if d.isGauge then "gauge " else "counter ") ++ s!"{d.name} Some(Count) {d.meaning}"

/-- The record form of the counters of hits and misses of a family. -/
def familyMetricsText (family : String) : String :=
  Text.record "FacadeMetrics" [("family", Text.quoted family)]

/-- The number of an algorithm object, in the order of creation. -/
abbrev ObjectId := Nat

/-- A method of an algorithm object. -/
inductive Method
  | init
  | deinit
  /-- Setting of a parameter. -/
  | set (p : Parameter)
  /-- Reading of the parameter. -/
  | get
  | work
  deriving DecidableEq

/-- Something that happened. -/
inductive Event
  | log (severity : Severity) (text : String)
  /-- The beginning of a span, with its fields. -/
  | span (severity : Severity) (name : String) (fields : List (String × String))
  | count (counter : Counter) (amount : Nat)
  | gauge (gauge : Gauge) (value : Nat)
  /-- A method of an object was called. -/
  | began (object : ObjectId) (method : Method)
  /-- A method of an object returned. -/
  | ended (object : ObjectId) (method : Method) (ok : Bool)
  /-- The source of dynamic extensions was asked to open. -/
  | opened (ok : Bool)
  /-- The source of dynamic extensions is asked to close. -/
  | closed
  /-- The bootstrap service was told of a façade that is being made. -/
  | connected (facade : FacadeId)
  /-- The bootstrap service is told that a façade is gone. -/
  | disconnected (facade : FacadeId)
  /-- A façade was made. It has a lease of the vendor library. -/
  | founded (facade : FacadeId) (kind : FacadeKind)
  /-- A façade that is gone gives its lease back. -/
  | dissolved (facade : FacadeId)
  /-- A client took a lease of the vendor library. -/
  | leased
  /-- A client gives a lease back. -/
  | returned
  /-- A client counts a user of the vendor library without a lease, up or down. -/
  | tallied (up : Bool)
  /-- A façade asks for an implementation. -/
  | sought (facade : FacadeId)
  /-- A façade has created an implementation. -/
  | adopted (facade : FacadeId) (object : ObjectId)
  /-- A façade that counts its failures has failed to create an implementation. -/
  | failed (facade : FacadeId)
  /-- A call waits for itself. -/
  | stalled
  deriving DecidableEq

/-- The line of the log, if the event has one. -/
def Event.line? : Event → Option String
  | .log severity text => some s!"{severity.name} {text}"
  | .span severity name fields =>
    some (" ".intercalate
      (s!"{severity.name} span {name}" :: fields.map fun f => f.1 ++ "=" ++ f.2))
  | _ => none

/-! ## Metrics -/

/-- The total of a counter. -/
def total (counter : Counter) (events : List Event) : Nat :=
  (events.map fun
    | .count c n => if c = counter then n else 0
    | _ => 0).foldl (· + ·) 0

/-- The value to which a gauge was set last, if it was. -/
def lastValue? (gauge : Gauge) (events : List Event) : Option Nat :=
  events.reverse.findSome? fun
    | .gauge g n => if g = gauge then some n else none
    | _ => none

/-- The metrics after the events: the counters that are not zero and the gauges that were set. -/
def metrics (events : List Event) : List (String × Nat) :=
  let counters := (events.filterMap fun | .count c _ => some c | _ => none).eraseDups
  let counted := counters.map fun c => (c.text, total c events)
  let gauges := [Gauge.vendorInstances, .slotsUsed].filterMap fun g =>
    (lastValue? g events).map fun n => (g.name, n)
  counted.filter (fun entry => entry.2 ≠ 0) ++ gauges

end ImageDispatch
