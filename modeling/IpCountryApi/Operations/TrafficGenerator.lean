import IpCountryApi.Domain.AddressText
import IpCountryApi.Domain.Json
import IpCountryApi.Library.Counters
import IpCountryApi.Library.NearestRank
import IpCountryApi.Library.WorkerPool

/-! The script that generates traffic for the dashboards: the requests it sends, the threads
that send them, and its summary. -/
namespace IpCountryApi.Operations
open Library Domain

/-! Arguments. -/

/-- A float as the command line gives one. -/
inductive Seconds where
  | finite (value : ℚ)
  | infinite (positive : Bool)
  | nan
  deriving DecidableEq

/-- value <= 0 or value > bound -/
def Seconds.outOfRange (bound : ℚ) : Seconds → Bool
  | finite value => value ≤ 0 || bound < value
  | infinite _ => true
  | nan => false

/-- urlparse(url).scheme -/
def urlScheme (url : Text) : Text :=
  let url := (url.dropWhile fun c => c.toNat ≤ 32).filter fun c => c ≠ '\t' && c ≠ '\r' && c ≠ '\n'
  match url.takeWhile (· ≠ ':'), url.dropWhile (· ≠ ':') with
  | c :: name, _ :: _ =>
    if c.isAlpha && (c :: name).all fun c => c.isAlphanum || c = '+' || c = '-' || c = '.' then
      (c :: name).map Char.toLower
    else []
  | _, _ => []

def supportedScheme (url : String) : Bool := ["http".toList, "https".toList].contains (urlScheme url.toList)

/-- What argparse has read; it asks for one base URL at least. -/
structure Namespace where
  baseUrl : List String
  given : baseUrl ≠ []
  requests : Int
  concurrency : Int
  cachedIp : String
  timeout : Seconds

/-- Arguments that the script accepts. -/
structure Args where
  baseUrl : List String
  given : baseUrl ≠ []
  requests : Nat
  requestsRange : 1 ≤ requests ∧ requests ≤ 10000
  concurrency : Nat
  concurrencyRange : 1 ≤ concurrency ∧ concurrency ≤ 100
  cachedIp : String
  timeout : Seconds
  timeoutRange : timeout.outOfRange 30 = false
  schemes : baseUrl.any (!supportedScheme ·) = false

/-- How the arguments are refused: by the parser, or by an exception that ends the script. -/
inductive ArgsError where
  | usage (message : String)
  | valueError (message : String)
  deriving DecidableEq, Repr

/-- The schemes in order, up to the first that is refused. The ValueError of urlparse for the
network location of a URL, if any, is given. -/
def checkSchemes (netlocError : String → Option String) : List String → Except ArgsError Unit
  | [] => .ok ()
  | url :: urls =>
    match netlocError url with
    | some message => .error (.valueError message)
    | none =>
      if supportedScheme url then checkSchemes netlocError urls
      else .error (.usage "--base-url supports only http and https URLs")

theorem checkSchemes_ok {netlocError : String → Option String} {urls : List String}
    (h : checkSchemes netlocError urls = .ok ()) : urls.any (!supportedScheme ·) = false := by
  induction urls with
  | nil => rfl
  | cons url urls ih =>
    rw [checkSchemes] at h
    split at h
    · cases h
    · split at h
      · rename_i hurl
        rw [List.any_cons, hurl, ih h]
        rfl
      · cases h

def parseArgs (netlocError : String → Option String) (args : Namespace) : Except ArgsError Args :=
  if requestsError : args.requests < 1 ∨ 10000 < args.requests then
    .error (.usage "--requests must be between 1 and 10000")
  else if concurrencyError : args.concurrency < 1 ∨ 100 < args.concurrency then
    .error (.usage "--concurrency must be between 1 and 100")
  else if timeoutError : args.timeout.outOfRange 30 = true then
    .error (.usage "--timeout must be greater than zero and at most 30 seconds")
  else
    match schemesError : checkSchemes netlocError args.baseUrl with
    | .error e => .error e
    | .ok () => .ok {
      baseUrl := args.baseUrl
      given := args.given
      requests := args.requests.toNat
      requestsRange := by omega
      concurrency := args.concurrency.toNat
      concurrencyRange := by omega
      cachedIp := args.cachedIp
      timeout := args.timeout
      timeoutRange := by simpa using timeoutError
      schemes := checkSchemes_ok schemesError }

/-! Requests. -/

inductive Category where
  | cachedLookup
  | root
  | health
  | expected4xx
  deriving DecidableEq, Repr

def Category.text : Category → String
  | cachedLookup => "cached_lookup"
  | root => "root"
  | health => "health"
  | expected4xx => "expected_4xx"

/-- A request as urllib takes it; the data are the JSON of a value. -/
structure Request where
  url : String
  method : String
  headers : List (String × String)
  data : Option Json

def headers : List (String × String) :=
  [("Accept", "application/json"), ("User-Agent", "arvan-observability-traffic/1.0")]

def lookupOf (baseUrl ip : String) : Request :=
  ⟨baseUrl ++ "/api/v1/lookups", "POST", headers ++ [("Content-Type", "application/json")],
    some (.object [("ip", .str ip)])⟩

def getOf (baseUrl path : String) : Request := ⟨baseUrl ++ path, "GET", headers, none⟩

/-- The request with a number, what it is for, and the statuses it may get. -/
def requestFor (index : Nat) (baseUrl cachedIp : String) : Request × Category × List Nat :=
  let bucket := index % 100
  if bucket < 85 then (lookupOf baseUrl cachedIp, .cachedLookup, [200])
  else if bucket < 95 then (getOf baseUrl "/", .root, [200])
  else if bucket < 98 then
    (getOf baseUrl (if index % 2 ≠ 0 then "/health/live" else "/health/ready"), .health, [200])
  else (lookupOf baseUrl "not-an-ip", .expected4xx, [400, 422])

structure Result where
  baseUrl : String
  category : Category
  status : Nat
  latency : Int
  expected : Bool
  error : Option String
  deriving DecidableEq, Repr

/-! Threads. -/

/-- Exceptions as far as the except clauses tell them apart. -/
inductive Raised where
  | httpError (code : Nat)
  | osError (typeName : String)
  | other (typeName : String)
  deriving DecidableEq, Repr

inductive Ask where
  | perfCounter
  | urlopen (request : Request) (timeout : Seconds)
  | read

@[reducible] def Answer : Ask → Type
  | .perfCounter => Int
  | .urlopen _ _ => Except Raised Nat
  | .read => Except Raised Unit

abbrev Script := Coro Ask Answer Raised

def ask (q : Ask) : Script (Answer q) := Coro.call q

/-- The value of a call, or its exception raised. -/
def settle {α : Type} : Except Raised α → Script α
  | .ok a => pure a
  | .error e => throw e

def rstripSlash (url : String) : String := String.ofList (url.toList.rdropWhile (· = '/'))

/-- base_urls[index % len(base_urls)].rstrip("/") -/
def baseUrlOf (index : Nat) (baseUrls : List String) : String :=
  rstripSlash (baseUrls.getD (index % baseUrls.length) "")

def execute (index : Nat) (baseUrls : List String) (cachedIp : String) (timeout : Seconds) : Script Result := do
  let baseUrl := baseUrlOf index baseUrls
  let (request, category, expectedStatuses) := requestFor index baseUrl cachedIp
  let started ← ask .perfCounter
  tryCatch
    (do
      let opened ← ask (.urlopen request timeout)
      let status ← settle opened
      let body ← ask .read
      settle body
      let finished ← ask .perfCounter
      pure ⟨baseUrl, category, status, finished - started, expectedStatuses.contains status, none⟩)
    fun e =>
      match e with
      | .httpError code => do
        let body ← ask .read
        settle body
        let finished ← ask .perfCounter
        pure ⟨baseUrl, category, code, finished - started, expectedStatuses.contains code, none⟩
      | .osError typeName => do
        let finished ← ask .perfCounter
        pure ⟨baseUrl, category, 0, finished - started, false, some typeName⟩
      | .other typeName => throw (.other typeName)

/-- The threads share a clock that does not go back; servers answer anything. -/
def threads (args : Args) : System Ask Answer Raised Result Nat Int where
  program index := execute index args.baseUrl args.cachedIp args.timeout
  enabled now _ _ e :=
    match e with
    | ⟨.perfCounter, t⟩ => now ≤ t
    | _ => True
  apply now _ _ e :=
    match e with
    | ⟨.perfCounter, t⟩ => t
    | _ => now

/-- When a request raises, the script also cancels the ones that no thread has begun, which only
leaves out launches. -/
def executor (args : Args) : Pool Ask Answer Raised Result Int := ⟨threads args, args.requests, args.concurrency⟩

/-! The summary. -/

/-- None is an index out of range. -/
def percentile (values : List Int) (quantile : ℚ) : Option Int :=
  if values = [] then some 0
  else (values.insertionSort (· ≤ ·))[(⌈quantile * values.length⌉ - 1).toNat]?

structure Latencies where
  p50 : Int
  p95 : Int
  p99 : Int

structure Summary where
  profile : String
  requests : Nat
  concurrency : Nat
  duration : Int
  throughput : ℚ
  latency : Latencies
  successfulRequests : Nat
  expected4xxResponses : Nat
  unexpectedFailures : Nat
  categories : Dict String Nat
  statusCodes : Dict String Nat
  baseUrls : Dict String Nat
  unexpectedFailureSamples : Option (List Result)

def unexpected (results : List Result) : List Result := results.filter (!·.expected)

def latencies (results : List Result) : Option Latencies := do
  let values := results.map Result.latency
  let p50 ← percentile values 0.50
  let p95 ← percentile values 0.95
  let p99 ← percentile values 0.99
  some ⟨p50, p95, p99⟩

/-- The end of main. Nothing is reported if the division by the duration raises. -/
def summarize (args : Args) (results : List Result) (duration : Int) : Option Summary := do
  let latency ← latencies results
  if duration = 0 then none
  else some {
    profile := "controlled dashboard-population and functional performance traffic"
    requests := results.length
    concurrency := args.concurrency
    duration := duration
    throughput := results.length / duration
    latency := latency
    successfulRequests := results.countP (·.expected)
    expected4xxResponses := results.countP fun item => item.category = .expected4xx && item.expected
    unexpectedFailures := (unexpected results).length
    categories := Dict.sortedItems (Dict.counter (results.map (·.category.text)))
    statusCodes := Dict.sortedItems (Dict.counter (results.map fun item => toString item.status))
    baseUrls := Dict.sortedItems (Dict.counter (results.map (·.baseUrl)))
    unexpectedFailureSamples := if unexpected results = [] then none else some ((unexpected results).take 10) }

def exitStatus (results : List Result) : Nat := if unexpected results = [] then 0 else 1

end IpCountryApi.Operations
