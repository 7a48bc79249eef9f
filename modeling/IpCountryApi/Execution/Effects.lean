import IpCountryApi.Domain.Models
import IpCountryApi.Domain.Errors
import IpCountryApi.Http.Responses
import IpCountryApi.Library.Coroutine

/-! What the program asks of the interpreter and of the libraries around it, what
it gets back, and what may be raised. -/
namespace IpCountryApi.Execution
open Library Domain Observability Http

/-- One exception object as a traceback shows it. -/
structure Shown where
  stack : String
  typeName : String
  text : String
  deriving DecidableEq, Repr

/-- Subclasses of httpx.RequestError. -/
inductive RequestError where
  | timeout
  | decoding
  | transport
  deriving DecidableEq, Repr

/-- Library exceptions as far as an except clause tells them apart. -/
inductive Kind where
  | sqlalchemy (sqlstate : Option String)
  | operational
  | timeout
  | request (error : RequestError)
  | value
  | cancelled
  | other
  deriving DecidableEq, Repr

/-- An exception raised by a library, with its cause chain, innermost first. -/
structure Foreign where
  kind : Kind
  shown : Shown
  causes : List Shown
  deriving DecidableEq, Repr

/-- A ValueError raised while parsing. -/
def valueError (typeName : String) : Foreign := ⟨.value, ⟨"", typeName, ""⟩, []⟩

inductive Exn where
  | app (error : AppError)
  | requestValidation
  | http (error : HttpError)
  | retryable (timeout : Bool)
  | foreign (error : Foreign)
  deriving DecidableEq, Repr

/-- One exception as the traceback module writes it. -/
def Shown.format (self : Shown) : String :=
  self.stack ++ self.typeName ++ (if self.text = "" then "" else ": " ++ self.text)

/-- The traceback of an exception with its causes. -/
def Foreign.traceback (self : Foreign) : String :=
  "\n\nThe above exception was the direct cause of the following exception:\n\n".intercalate
    ((self.causes ++ [self.shown]).map Shown.format)

/-- The exceptions of the application and the framework show their class. -/
def Exn.traceback : Exn → String
  | .app e => e.code
  | .requestValidation => "RequestValidationError"
  | .http _ => "HTTPException"
  | .retryable _ => "RetryError"
  | .foreign f => f.traceback

/-- asyncio.CancelledError is no Exception. -/
def Exn.isException : Exn → Bool
  | .foreign f => f.kind ≠ .cancelled
  | _ => true

/-- A row as the ORM loads it: the inet column as text, the timestamps as datetimes. -/
structure LoadedRow where
  ipAddress : Text
  countryCode : String
  countryName : String
  provider : String
  fetchedAt : Datetime
  expiresAt : Datetime
  createdAt : Datetime
  updatedAt : Datetime
  deriving DecidableEq

/-- The values of the INSERT, which are also what its conflict clause refers to. -/
structure UpsertStatement where
  ipAddress : Text
  countryCode : String
  countryName : PyStr
  provider : String
  fetchedAt : Datetime
  expiresAt : Datetime
  createdAt : Datetime
  updatedAt : Datetime
  deriving DecidableEq

/-- A provider's HTTP answer: its status and what decoding its body as JSON gives. -/
structure HttpResponse where
  status : Nat
  json : Except Foreign Json

inductive Query where
  | clock
  | now
  | perfCounter
  | timestamp
  | uuid4
  | contextGet
  | contextSet (value : String)
  | contextReset (token : Option String)
  | metric (call : MetricCall)
  | scrape
  | print (line : String)
  | scalar (key : Text)
  | execute (statement : UpsertStatement)
  | commit (statement : UpsertStatement)
  | provider (ip : IPAddress)
  | clientGet (path : Text) (authorization : String)
  | sleep (milliseconds : Nat)
  | readinessProbe
  | template (name : String)
  | staticFile (method path : String)
  | send (response : Response)

/-- The answer to each query. Clock readings are microseconds of UTC; setting a context
variable returns the token that resets it; uuid4 draws sixteen random bytes. -/
@[reducible] def Reply : Query → Type
  | .clock => Int
  | .now => Int
  | .perfCounter => Int
  | .timestamp => Int
  | .uuid4 => BitVec 128
  | .contextGet => Option String
  | .contextSet _ => Option String
  | .contextReset _ => Unit
  | .metric _ => Unit
  | .scrape => ApplicationMetrics
  | .print _ => Unit
  | .scalar _ => Except Foreign (Option LoadedRow)
  | .execute _ => Except Foreign Unit
  | .commit _ => Except Foreign Unit
  | .provider _ => Except Foreign (Except AppError GeoIPResult)
  | .clientGet _ _ => Except Foreign HttpResponse
  | .sleep _ => Except Foreign Unit
  | .readinessProbe => Except Foreign Unit
  | .template _ => Except Foreign String
  | .staticFile _ _ => Except Foreign StaticAnswer
  | .send _ => Unit

/-- The event loop may switch to another task only at these queries. -/
def Query.awaits : Query → Bool
  | .scalar _ | .execute _ | .commit _ | .provider _ | .clientGet _ _ | .sleep _ | .readinessProbe
  | .staticFile _ _ | .send _ => true
  | _ => false

abbrev Prog := Coro Query Reply Exn
abbrev Answered := Event Query Reply
abbrev Past := History Query Reply

/-- The metric call an answered query made. -/
def metricCall (e : Answered) : Option MetricCall :=
  match e.query with
  | .metric call => some call
  | _ => none

/-- The value of a call, or its exception raised. -/
def settle {α : Type} : Except Foreign α → Prog α
  | .ok a => pure a
  | .error f => throw (.foreign f)

def raiseApp {α : Type} : Except AppError α → Prog α
  | .ok a => pure a
  | .error e => throw (.app e)

/-- An except Exception clause. -/
def exceptException {α : Type} (body : Prog α) (handler : Exn → Prog α) : Prog α :=
  tryCatch body fun e => if e.isException then handler e else throw e

def perform (q : Query) : Prog (Reply q) := Coro.call q

def record (call : MetricCall) : Prog Unit := perform (.metric call)

/-! Contract rules for these constructs. -/
section Rules
variable {C : Contract Query Reply} {h : Past} {α β : Type}

theorem perform_seen {q : Query} (hq : C.sees q = true) {f : Reply q → Prog β} {post : Past → Except Exn β → Prop} :
    Meets C (perform q >>= f) h post ↔ C.guar h q ∧ ∀ r, C.rely h ⟨q, r⟩ → Meets C (f r) (⟨q, r⟩ :: h) post :=
  Meets.call_bind_seen hq f h post

theorem perform_unseen {q : Query} (hq : C.sees q = false) {f : Reply q → Prog β}
    {post : Past → Except Exn β → Prop} :
    Meets C (perform q >>= f) h post ↔ ∀ r, Meets C (f r) h post :=
  Meets.call_bind_unseen hq f h post

theorem settle_meets {x : Except Foreign α} {post : Past → Except Exn α → Prop} :
    Meets C (settle x) h post ↔ post h (x.mapError .foreign) := by
  cases x <;> rfl

theorem settle_bind_meets {x : Except Foreign α} {f : α → Prog β} {post : Past → Except Exn β → Prop} :
    Meets C (settle x >>= f) h post ↔
      match x with
      | .ok a => Meets C (f a) h post
      | .error e => post h (.error (.foreign e)) := by
  cases x <;> rfl

theorem raiseApp_bind_meets {x : Except AppError α} {f : α → Prog β} {post : Past → Except Exn β → Prop} :
    Meets C (raiseApp x >>= f) h post ↔
      match x with
      | .ok a => Meets C (f a) h post
      | .error e => post h (.error (.app e)) := by
  cases x <;> rfl

/-- A handler that re-raises leaves the outcome as it was. -/
theorem exceptException_meets {body : Prog α} {handler : Exn → Prog α} {post : Past → Except Exn α → Prop}
    (reraises : ∀ h e, Meets C (handler e) h post ↔ post h (.error e)) :
    Meets C (exceptException body handler) h post ↔ Meets C body h post := by
  rw [exceptException]
  refine Meets.tryCatch_reraise_iff _ _ fun e h' => ?_
  split
  · exact reraises h' e
  · rfl

end Rules
end IpCountryApi.Execution
