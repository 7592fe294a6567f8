import Hypermesh.Server.State
/-
The STOQ transport server (`stoq_simple_server.py`) on its asyncio event loop: `STOQState` with its connections,
performance metrics, benchmarks and transport settings, the routes that read or write them, the background metrics
loop and the benchmark tasks.

Everything runs on one event loop, so a coroutine runs uninterrupted from one `await` to the next. The routes have no
`await` and run whole, except `create_connection`: it stores its connection as `connecting`, yields at
`await asyncio.sleep(0.1)`, and on resuming sets that same object's status to `connected` and replies. A benchmark's
task yields at `await asyncio.sleep(test.duration)` and then marks the benchmark completed, unless the sleep raises
`OverflowError` first, converting a positive duration past the range of a float, and the task marks it failed; one
pass of the metrics
loop appends a metric for each connection and then yields for five seconds. `Loop` is the server with its suspended
coroutines, an `Event` is one uninterrupted stretch of one of them, and `step` is its effect; a run is any sequence of
enabled events.

A connection is a Python object: the suspended `create_connection` holds the object it made, which is the dictionary's
entry only as long as no later creation drew the same id. `QUICConnection.obj` is that identity and `Loop.objects` the
next one. Metrics are kept by their connection id. Left out: the metrics' timestamps and random figures, the pools
(which only their own two routes read), `stream_analytics` (which nothing writes), the constant bodies of the status,
quality and diagnostics routes, the `start`/`end` filters of `get_performance_metrics` (they parse ISO times), and the
`applied_settings` echo of `update_transport_settings`.

`get_historical_metrics` builds a time series from the request's `start` to its `end`. A `DateTime` is its wall
clock in seconds since 0001-01-01 and its UTC offset (`none` for a naive time), within `datetime`'s range; the two
`datetime.fromisoformat` results, or the `KeyError` or `ValueError` of reading them, are inputs of the request, and
each point keeps its time, not its random figures. Comparing a naive with an aware time raises `TypeError`, and a
step past year 9999 raises `OverflowError`; the general handler answers both with 500.
-/

namespace Hypermesh.Stoq

open Server (PyDict PyVal hex8)

/-! ## The state -/

/-- a `QUICConnection`, and which Python object it is: a suspended `create_connection` holds its own -/
structure QUICConnection where
  id : String
  status : String
  obj : Nat
  deriving DecidableEq, Repr

/-- an entry of `running_benchmarks`; its random results are left out -/
structure Benchmark where
  testId : String
  type : String
  status : String
  duration : Int
  deriving DecidableEq, Repr

/-- `STOQState`, each of its `performance_metrics` by its `connection_id` -/
structure State where
  connections : PyDict QUICConnection
  performanceMetrics : List String
  runningBenchmarks : PyDict Benchmark
  transportSettings : PyDict PyVal

/-- the `transport_settings` of `STOQState()` -/
def defaultTransportSettings : PyDict PyVal :=
  [("max_concurrent_streams", .int 100), ("initial_max_data", .int 1048576),
   ("initial_max_stream_data", .int 262144), ("idle_timeout", .int 30000), ("keep_alive", .bool true),
   ("congestion_control", .str "bbr")]

/-- `STOQState()`: the two sample connections (`_initialize_sample_connections`), no metrics, no benchmarks -/
def State.init : State where
  connections := [("conn-001", ⟨"conn-001", "connected", 0⟩), ("conn-002", ⟨"conn-002", "connected", 1⟩)]
  performanceMetrics := []
  runningBenchmarks := []
  transportSettings := defaultTransportSettings

/-! ## The routes that run whole -/

inductive Raise where
  | http (status : Nat) (detail : String)
  | keyError (key : String)
  | valueError
  | typeError
  | overflowError
  deriving DecidableEq, Repr

/-- the seconds from 0001-01-01T00:00:00 to 10000-01-01T00:00:00, past `datetime.max` -/
def maxWall : Nat := 3652059 * 86400

/-- a `datetime` to the second: its wall clock and its UTC offset, `none` for a naive time -/
structure DateTime where
  wall : Nat
  offset : Option Int
  valid : wall < maxWall
  deriving DecidableEq, Repr

/-- what a route returns, reduced to what the results read -/
inductive Body where
  | message (text : String)
  | connection (c : QUICConnection)
  | connections (cs : List QUICConnection)
  | systemHealth (total active failed : Nat)
  | metrics (connectionIds : List String)
  | optimizations (connectionId : String) (currentSettings : PyDict PyVal)
  | applied (ok : Bool)
  | benchmark (testId status : String)
  | transportSettings (current : PyDict PyVal)
  | transportUpdate (applied : Bool) (errors : List String)
  | historical (timestamps : List DateTime)

abbrev Reply := Except Raise Body

/-- a route without `await`: its reply and the state it leaves -/
abbrev Route := State → Reply × State

def health : Route := fun s => (.ok (.message "degraded"), s)

def getSystemHealth : Route := fun s =>
  (.ok (.systemHealth s.connections.length (s.connections.countP (·.2.status = "connected"))
    (s.connections.countP (·.2.status = "error"))), s)

def getConnections : Route := fun s => (.ok (.connections (s.connections.map Prod.snd)), s)

def getConnection (connectionId : String) : Route := fun s =>
  match s.connections.get? connectionId with
  | none => (.error (.http 404 "Connection not found"), s)
  | some c => (.ok (.connection c), s)

def closeConnection (connectionId : String) : Route := fun s =>
  match s.connections.get? connectionId with
  | none => (.error (.http 404 "Connection not found"), s)
  | some c =>
    (.ok (.message "Connection closed successfully"),
      { s with connections := s.connections.set connectionId { c with status := "disconnected" } })

/-- `get_performance_metrics` without its time filters: the metrics of a connection (all, for none or `""`), then
`metrics[-100:]` -/
def getPerformanceMetrics (connectionId : Option String) : Route := fun s =>
  let metrics := match connectionId with
    | some c => if c ≠ "" then s.performanceMetrics.filter (· = c) else s.performanceMetrics
    | none => s.performanceMetrics
  (.ok (.metrics (metrics.drop (metrics.length - 100))), s)

def getOptimizations (connectionId : String) : Route := fun s =>
  match s.connections.get? connectionId with
  | none => (.error (.http 404 "Connection not found"), s)
  | some _ => (.ok (.optimizations connectionId s.transportSettings), s)

/-- `apply_optimization`: `applied = True` whatever the optimization -/
def applyOptimization (connectionId : String) : Route := fun s =>
  match s.connections.get? connectionId with
  | none => (.error (.http 404 "Connection not found"), s)
  | some _ => (.ok (.applied true), s)

def runDiagnostics (connectionId : String) : Route := fun s =>
  match s.connections.get? connectionId with
  | none => (.error (.http 404 "Connection not found"), s)
  | some _ => (.ok (.message "issues"), s)

/-- `run_benchmark`: the benchmark is stored as running; its task is scheduled by `step` -/
def runBenchmark (type : String) (duration : Int) (uuid : String) : Route := fun s =>
  let testId := "bench-" ++ hex8 uuid
  (.ok (.benchmark testId "running"),
    { s with runningBenchmarks := s.runningBenchmarks.set testId ⟨testId, type, "running", duration⟩ })

def getBenchmarkResult (testId : String) : Route := fun s =>
  match s.runningBenchmarks.get? testId with
  | none => (.error (.http 404 "Benchmark not found"), s)
  | some b => (.ok (.benchmark testId b.status), s)

def getTransportSettings : Route := fun s => (.ok (.transportSettings s.transportSettings), s)

/-- a `TransportSettings` body: each field unset (`none`), or set, possibly to `null` -/
structure TransportSettings where
  maxConcurrentStreams : Option PyVal
  initialMaxData : Option PyVal
  initialMaxStreamData : Option PyVal
  idleTimeout : Option PyVal
  keepAlive : Option PyVal
  congestionControl : Option PyVal

/-- `settings.dict(exclude_unset=True).items()`: the fields the body set, in declaration order -/
def TransportSettings.items (t : TransportSettings) : List (String × PyVal) :=
  [("max_concurrent_streams", t.maxConcurrentStreams), ("initial_max_data", t.initialMaxData),
   ("initial_max_stream_data", t.initialMaxStreamData), ("idle_timeout", t.idleTimeout),
   ("keep_alive", t.keepAlive), ("congestion_control", t.congestionControl)].filterMap fun e => e.2.map (e.1, ·)

/-- one field of `update_transport_settings`'s loop: a value that is not `None` is applied to a known setting and
is an error for an unknown one -/
def applySetting (acc : List String × PyDict PyVal) : String × PyVal → List String × PyDict PyVal
  | (_, .none) => acc
  | (field, value) =>
    if field ∈ acc.2.map Prod.fst then (acc.1, acc.2.set field value)
    else (acc.1 ++ ["Unknown setting: " ++ field], acc.2)

def updateTransportSettings (settings : TransportSettings) : Route := fun s =>
  let (errors, transportSettings) := settings.items.foldl applySetting ([], s.transportSettings)
  (.ok (.transportUpdate (errors.length = 0) errors), { s with transportSettings })

/-! ## Historical metrics -/

/-- `a <= b`: by wall clock for two naive times, in UTC for two aware ones, and `TypeError` for one of each -/
def DateTime.le (a b : DateTime) : Except Raise Bool :=
  match a.offset, b.offset with
  | none, none => .ok (decide (a.wall ≤ b.wall))
  | some o, some o' => .ok (decide ((a.wall : Int) - o ≤ (b.wall : Int) - o'))
  | _, _ => .error .typeError

/-- `{"1m": 60, "5m": 300, "15m": 900, "1h": 3600, "1d": 86400}[interval]` -/
def intervalSeconds : String → Except Raise {i : Nat // 0 < i}
  | "1m" => .ok ⟨60, by decide⟩
  | "5m" => .ok ⟨300, by decide⟩
  | "15m" => .ok ⟨900, by decide⟩
  | "1h" => .ok ⟨3600, by decide⟩
  | "1d" => .ok ⟨86400, by decide⟩
  | interval => .error (.keyError interval)

/-- `while current <= end_time: historical_data.append(...); current += timedelta(seconds=interval_seconds)` -/
def historicalLoop (endTime : DateTime) (i : {i : Nat // 0 < i}) (current : DateTime) (historicalData : List DateTime) :
    Except Raise (List DateTime) :=
  match current.le endTime with
  | .error e => .error e
  | .ok false => .ok historicalData
  | .ok true =>
    if h : current.wall + i.1 < maxWall then
      historicalLoop endTime i ⟨current.wall + i.1, current.offset, h⟩ (historicalData ++ [current])
    else .error .overflowError
termination_by maxWall - current.wall
decreasing_by have := i.2; omega

/-- `get_historical_metrics`, from what reading `start` and `end` gave and the `interval` key -/
def getHistoricalMetrics (start end_ : Except Raise DateTime) (interval : Option String) : Route := fun s =>
  (do
    let startTime ← start
    let endTime ← end_
    let i ← intervalSeconds (interval.getD "5m")
    let historicalData ← historicalLoop endTime i startTime []
    pure (.historical historicalData), s)

inductive Req where
  | health
  | getSystemHealth
  | getConnections
  | getConnection (connectionId : String)
  | closeConnection (connectionId : String)
  | getPerformanceMetrics (connectionId : Option String)
  | getOptimizations (connectionId : String)
  | applyOptimization (connectionId : String)
  | runDiagnostics (connectionId : String)
  | runBenchmark (type : String) (duration : Int) (uuid : String)
  | getBenchmarkResult (testId : String)
  | getTransportSettings
  | updateTransportSettings (settings : TransportSettings)
  | getHistoricalMetrics (start end_ : Except Raise DateTime) (interval : Option String)

def route : Req → Route
  | .health => health
  | .getSystemHealth => getSystemHealth
  | .getConnections => getConnections
  | .getConnection c => getConnection c
  | .closeConnection c => closeConnection c
  | .getPerformanceMetrics c => getPerformanceMetrics c
  | .getOptimizations c => getOptimizations c
  | .applyOptimization c => applyOptimization c
  | .runDiagnostics c => runDiagnostics c
  | .runBenchmark type duration uuid => runBenchmark type duration uuid
  | .getBenchmarkResult t => getBenchmarkResult t
  | .getTransportSettings => getTransportSettings
  | .updateTransportSettings settings => updateTransportSettings settings
  | .getHistoricalMetrics start end_ interval => getHistoricalMetrics start end_ interval

/-- the background tasks a route schedules: `run_benchmark`'s `execute_benchmark(test_id, test)`, with the test's
duration -/
def Req.backgroundTasks : Req → List (String × Int)
  | .runBenchmark _ duration uuid => [("bench-" ++ hex8 uuid, duration)]
  | _ => []

/-! ## The event loop -/

/-- the server with its suspended coroutines: the `create_connection` calls waiting at `await asyncio.sleep(0.1)`
(the object each made, and its id), the `execute_benchmark` tasks not yet past `await asyncio.sleep(test.duration)`
(test id and duration), and the identity the next connection object gets -/
structure Loop where
  state : State
  creating : List (Nat × String)
  benchmarking : List (String × Int)
  objects : Nat

def Loop.init : Loop := ⟨State.init, [], [], 2⟩

/-- one uninterrupted stretch of one coroutine: a request to a route without `await`, `create_connection` up to its
`await`, the `create_connection` holding object `obj` resuming, the task of `execute_benchmark` for `testId` (a test
lasting `duration` seconds) running on, or one pass of `generate_metrics_background`'s loop -/
inductive Event where
  | request (r : Req)
  | createConnection (uuid : String)
  | resumeCreateConnection (obj : Nat)
  | finishBenchmark (testId : String) (duration : Int)
  | generateMetrics

/-- `create_connection` before its `await`: a new object, stored as `connecting` -/
def beginCreateConnection (uuid : String) (l : Loop) : Loop :=
  let connectionId := "conn-" ++ hex8 uuid
  { l with
    state := { l.state with
      connections := l.state.connections.set connectionId ⟨connectionId, "connecting", l.objects⟩ }
    creating := l.creating ++ [(l.objects, connectionId)]
    objects := l.objects + 1 }

/-- `create_connection` after its `await`: `connection.status = "connected"` on its own object, which is the
dictionary's entry only if no later creation replaced it; the reply is that object -/
def resumeCreateConnection (obj : Nat) (l : Loop) : Option (Reply × Loop) :=
  match l.creating.find? (·.1 = obj) with
  | none => none
  | some (_, connectionId) =>
    let connections := match l.state.connections.get? connectionId with
      | some c => if c.obj = obj then l.state.connections.set connectionId { c with status := "connected" }
        else l.state.connections
      | none => l.state.connections
    some (.ok (.connection ⟨connectionId, "connected", obj⟩),
      { l with state := { l.state with connections }, creating := l.creating.filter (·.1 ≠ obj) })

/-- the status `execute_benchmark` stores: `asyncio.sleep(d)` returns at once for `d <= 0`, and otherwise converts
`d` to a float, which raises `OverflowError` past the largest double -/
def benchmarkOutcome (duration : Int) : String :=
  if 0 < duration ∧ PyFloat.ofInt duration = none then "failed" else "completed"

/-- `execute_benchmark` past `asyncio.sleep(test.duration)`: `state.running_benchmarks[test_id]["status"]` set, by
key -/
def finishBenchmark (testId : String) (duration : Int) (l : Loop) : Loop :=
  { l with
    state := { l.state with
      runningBenchmarks := match l.state.runningBenchmarks.get? testId with
        | some b => l.state.runningBenchmarks.set testId { b with status := benchmarkOutcome duration }
        | none => l.state.runningBenchmarks }
    benchmarking := l.benchmarking.erase (testId, duration) }

/-- one metric appended, then `if len(...) > 1000: ... = ...[-1000:]` -/
def appendMetric (metrics : List String) (connectionId : String) : List String :=
  let metrics := metrics ++ [connectionId]
  if metrics.length > 1000 then metrics.drop (metrics.length - 1000) else metrics

/-- one pass of `generate_metrics_background`: a metric for every connection, whatever its status -/
def generateMetrics (l : Loop) : Loop :=
  { l with state := { l.state with
    performanceMetrics := (l.state.connections.map Prod.fst).foldl appendMetric l.state.performanceMetrics } }

/-- an event's reply, if it ends a request, and the loop after it; `none` if the event is not enabled -/
def step (l : Loop) : Event → Option (Option Reply × Loop)
  | .request r =>
    some (some (route r l.state).1,
      { l with state := (route r l.state).2, benchmarking := l.benchmarking ++ r.backgroundTasks })
  | .createConnection uuid => some (none, beginCreateConnection uuid l)
  | .resumeCreateConnection obj => (resumeCreateConnection obj l).map fun p => (some p.1, p.2)
  | .finishBenchmark testId duration =>
    if (testId, duration) ∈ l.benchmarking then some (none, finishBenchmark testId duration l) else none
  | .generateMetrics => some (none, generateMetrics l)

/-- a run of events, each enabled where it happens: the reply of each event that ends a request, and the loop after
them -/
def run (l : Loop) : List Event → Option (List (Option Reply) × Loop)
  | [] => some ([], l)
  | e :: es => match step l e with
    | none => none
    | some (o, l') => (run l' es).map fun p => (o :: p.1, p.2)

/-- a loop the server reaches from its start -/
def Reachable (l : Loop) : Prop := ∃ es rs, run Loop.init es = some (rs, l)

end Hypermesh.Stoq
