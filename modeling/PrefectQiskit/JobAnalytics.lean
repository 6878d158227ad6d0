import PrefectQiskit.ClientInterface

/-!
# The job-metrics table

`makeAnalytics` builds the table artifact of one primitive run. It is written in the order
the code evaluates, so that the first exception raised is the one the code raises.
-/

namespace PrefectQiskit.JobAnalytics

variable {Q : Qiskit}

/-- `(later - earlier).total_seconds()`. The difference of two numbers is a number, which
has no such method. -/
def totalSeconds (later earlier : PyValue) : Except BuiltinError ℚ :=
  match later, earlier with
  | .datetime a, .datetime b => do
    let micros ← a.sub b
    return micros / 1000000
  | .bool _, .bool _ | .bool _, .int _ | .bool _, .float _
  | .int _, .bool _ | .int _, .int _ | .int _, .float _
  | .float _, .bool _ | .float _, .int _ | .float _, .float _ =>
    later.attributeError "total_seconds"
  | _, _ => .error ⟨.typeError,
      s!"unsupported operand type(s) for -: '{later.typeName}' and '{earlier.typeName}'"⟩

/-- The span between two timestamps, when both are known. -/
def span (later earlier : PyValue) : Except BuiltinError (Option ℚ) :=
  if !earlier.isNone && !later.isNone then some <$> totalSeconds later earlier
  else return none

def spanValue : Option ℚ → PyValue
  | some q => .float (.finite q)
  | none => .none

def workEfficiency (qpuUsage : PyValue) (spanWork : Option ℚ) :
    Except BuiltinError PyValue :=
  match spanWork with
  | some q =>
    if qpuUsage.isNone then return .none
    else do
      let x ← qpuUsage.toFloat
      match x.div q with
      | some y => return .float y.percent
      | none => return .int 100
  | none => return .none

/-- `dt.isoformat() if dt else None` -/
def isoformatOrNone (py : Builtins) (dt : PyValue) : Except BuiltinError PyValue :=
  if dt.truthy then
    match dt with
    | .datetime d => return .str (py.isoformat d)
    | v => v.attributeError "isoformat"
  else return .none

/-- The six rows of the bloc with index `i`. -/
def pubRows (i : ℕ) (bloc : QuantumCircuit Q × List ℕ) (metadata : PyDict) :
    Except BuiltinError PyDict := do
  let span := (metadata.get? "span").getD (.dict [])
  let started ← span.get "timestamp_start" .none
  let completed ← span.get "timestamp_completed" .none
  let duration ← span.get "duration" .none
  return [
    (s!"pub[{i}].circuit.depth", .int bloc.1.depth),
    (s!"pub[{i}].circuit.size", .int bloc.1.size),
    (s!"pub[{i}].shape", .tuple (bloc.2.map fun n => .int n)),
    (s!"pub[{i}].timestamp.started", started),
    (s!"pub[{i}].timestamp.completed", completed),
    (s!"pub[{i}].duration", duration)]

/-- `for i, (primitive_bloc, result) in enumerate(zip(primitive_blocs, results))` -/
def addPubRows : ℕ → List ((QuantumCircuit Q × List ℕ) × PyDict) → PyDict →
    Except BuiltinError PyDict
  | _, [], table => return table
  | i, (bloc, metadata) :: rest, table => do
    let rows ← pubRows i bloc metadata
    addPubRows (i + 1) rest (table.update rows)

/-- `flattened` holds the entries set so far at this level. -/
def flattenItems (py : Builtins) (parentKey : String) :
    PyDict → List (String × PyValue) → PyDict
  | flattened, [] => flattened
  | flattened, (k, v) :: rest =>
    let newKey := if parentKey.isEmpty then k else s!"{parentKey}.{k}"
    match v with
    | .dict d => flattenItems py parentKey (flattened.update (flattenItems py newKey [] d)) rest
    | v => flattenItems py parentKey (flattened.set newKey (.str (py.repr v))) rest

def flattenOptions (py : Builtins) (d : PyDict) (parentKey : String) : PyDict :=
  flattenItems py parentKey [] d

/-- The job-level entries. -/
def jobRows (py : Builtins) (resourceName : String) (programType : ProgramType)
    (jobId : String) (tags : List String) (numPubs : ℕ) (metrics : JobMetrics) :
    Except BuiltinError PyDict := do
  let spanQueue ← span metrics.timestampStarted metrics.timestampCreated
  let spanWork ← span metrics.timestampCompleted metrics.timestampStarted
  let efficiency ← workEfficiency metrics.qpuUsage spanWork
  let created ← isoformatOrNone py metrics.timestampCreated
  let started ← isoformatOrNone py metrics.timestampStarted
  let completed ← isoformatOrNone py metrics.timestampCompleted
  return [
    ("resource", .str resourceName),
    ("program_type", .str programType.name),
    ("num_pubs", .int numPubs),
    ("job_id", .str jobId),
    ("tags", .list (tags.map .str)),
    ("timestamp.created", created),
    ("timestamp.started", started),
    ("timestamp.completed", completed),
    ("span.queue", spanValue spanQueue),
    ("span.work", spanValue spanWork),
    ("span.qpu", metrics.qpuUsage),
    ("work_efficiency", efficiency)]

def makeAnalytics (py : Builtins) (resourceName : String) (programType : ProgramType)
    (jobId : String) (tags : List String) (primitiveBlocs : Pubs Q) (results : Fetched Q)
    (metrics : JobMetrics) (options : Option PyDict) : Except BuiltinError PyDict := do
  let n ← results.len
  if primitiveBlocs.length ≠ n then
    throw ⟨.assertionError, ""⟩
  let table ← jobRows py resourceName programType jobId tags primitiveBlocs.length metrics
  let metadata ← results.pubMetadata
  let table ← addPubRows 0 (primitiveBlocs.circuits.zip metadata) table
  return table.update (flattenOptions py [("options", optionsValue options)] "")

end PrefectQiskit.JobAnalytics
