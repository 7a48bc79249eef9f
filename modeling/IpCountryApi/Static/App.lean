import IpCountryApi.Domain.Json
import Mathlib.Data.List.DropRight
import Mathlib.Data.List.Infix
import Mathlib.Logic.Relation

/-! The script of the lookup page: what it shows, what its listeners do, and the events that
run them. -/
namespace IpCountryApi.Static
open Domain

/-- What the script engine computes by itself. A conversion without a result raises a TypeError. -/
structure Engine where
  isZero : String → Bool
  toText : Json → Option String
  timeValue : Option Json → Option (Option Int)
  formatTime : Int → String

/-- Exceptions as far as the catch clause tells them apart. -/
inductive Thrown where
  | abortError
  | typeError
  deriving DecidableEq, Repr

/-! The tables of texts. A field that is missing reads as undefined. -/

structure ErrorMessage where
  title : Option String
  message : Option String
  kind : Option String
  deriving DecidableEq, Repr

structure Presentation where
  label : Option String
  detail : Option String
  note : Option String
  state : Option String
  deriving DecidableEq, Repr

def internalError : ErrorMessage :=
  ⟨some "The lookup could not be completed", some "An unexpected problem occurred. Please try again.", some "backend-error"⟩

def errorMessages : List (String × ErrorMessage) :=
  [("INVALID_IP", ⟨some "That IP address cannot be looked up",
      some "Please enter a valid public IPv4 or IPv6 address.", some "validation-error"⟩),
    ("NON_PUBLIC_IP", ⟨some "That address is not public",
      some "Private, loopback, reserved, and link-local addresses cannot be resolved by this service.",
      some "validation-error"⟩),
    ("DATABASE_UNAVAILABLE", ⟨some "The lookup service is temporarily unavailable",
      some "The application cannot currently reach its PostgreSQL cache. Please try again shortly.", some "backend-error"⟩),
    ("DATABASE_SCHEMA_UNAVAILABLE", ⟨some "The lookup service is starting up",
      some "The data store is not ready yet. Please wait a moment and try again.", some "backend-error"⟩),
    ("PROVIDER_TIMEOUT", ⟨some "The lookup took too long",
      some "The GeoIP provider did not respond in time. Please try again.", some "backend-error"⟩),
    ("PROVIDER_AUTHENTICATION_FAILED", ⟨some "The GeoIP provider is unavailable",
      some "The upstream lookup service could not accept this request. Please try again later.", some "backend-error"⟩),
    ("PROVIDER_RATE_LIMITED", ⟨some "Too many provider requests",
      some "The GeoIP provider is temporarily rate limited. Please wait and try again.", some "backend-error"⟩),
    ("PROVIDER_INVALID_RESPONSE", ⟨some "The provider returned an unexpected result",
      some "Country data could not be verified for this address. Please try again.", some "backend-error"⟩),
    ("PROVIDER_UNAVAILABLE", ⟨some "The GeoIP provider is temporarily unavailable",
      some "Fresh country data cannot be retrieved right now. Please try again shortly.", some "backend-error"⟩),
    ("INTERNAL_ERROR", internalError)]

def providerPresentation : Presentation :=
  ⟨some "Fresh provider lookup", some "External GeoIP provider",
    some "This IP was not found in the local cache, so fresh country data was retrieved and stored.",
    some "success-provider"⟩

def sourcePresentation : List (String × Presentation) :=
  [("provider", providerPresentation),
    ("database", ⟨some "PostgreSQL cache", some "PostgreSQL cache",
      some "This result was served directly from PostgreSQL without another external request.",
      some "success-database"⟩)]

def timedOutMessage : ErrorMessage :=
  ⟨some "The lookup timed out", some "The service did not respond in time. Check your connection and try again.",
    some "network-error"⟩

def unreachableMessage : ErrorMessage :=
  ⟨some "The service could not be reached", some "Check your network connection and try the lookup again.",
    some "network-error"⟩

/-- The names under which every object inherits something, freezing or not. -/
def inherited : List String :=
  ["constructor", "hasOwnProperty", "isPrototypeOf", "propertyIsEnumerable", "toLocaleString", "toString", "valueOf",
    "__proto__", "__defineGetter__", "__defineSetter__", "__lookupGetter__", "__lookupSetter__"]

/-- table[key]: what is inherited has none of the fields that the script reads. -/
def index {α : Type} (table : List (String × α)) (bare : α) (key : String) : Option α :=
  match table.lookup key with
  | some found => some found
  | none => if inherited.contains key then some bare else none

/-! The elements of the page that the script reads or writes. -/

structure ResultPanel where
  countryName : String
  countryCode : String
  normalizedIp : String
  sourceLabel : String
  sourceDetail : String
  sourceNote : String
  fetchedAt : String
  expiresAt : String
  sourceClass : String
  deriving DecidableEq, Repr

structure Page where
  state : String
  ariaBusy : Bool
  inputValue : List Char
  inputDisabled : Bool
  ariaInvalid : Bool
  buttonDisabled : Bool
  buttonLabelHidden : Bool
  buttonLoadingHidden : Bool
  examplesDisabled : Bool
  formMessage : String
  loadingHidden : Bool
  resultHidden : Bool
  errorHidden : Bool
  result : ResultPanel
  errorTitle : String
  errorMessage : String
  requestIdHidden : Bool
  requestId : String
  announcement : String
  deriving DecidableEq, Repr

/-- The page as it is served. -/
def Page.served : Page where
  state := "idle"
  ariaBusy := false
  inputValue := []
  inputDisabled := false
  ariaInvalid := false
  buttonDisabled := false
  buttonLabelHidden := false
  buttonLoadingHidden := true
  examplesDisabled := false
  formMessage := ""
  loadingHidden := true
  resultHidden := true
  errorHidden := true
  result := ⟨"", "", "", "", "", "", "", "", "source-badge"⟩
  errorTitle := "That IP address cannot be looked up"
  errorMessage := "Please enter a valid public IPv4 or IPv6 address."
  requestIdHidden := true
  requestId := ""
  announcement := ""

/-- What the page has become outlives an exception. -/
abbrev Script := EStateM Thrown Page

namespace Page
variable (self : Page)

/-- A value that is undefined sets the text undefined. -/
def setPageState (state : Option String) : Page := { self with state := state.getD "undefined" }

/-- The text reaches the live region with the next frame. -/
def announce (text : String) : Page := { self with announcement := text }

def setLoading (loading : Bool) : Page :=
  { self with
    ariaBusy := loading
    inputDisabled := loading
    buttonDisabled := loading
    buttonLabelHidden := loading
    buttonLoadingHidden := !loading
    examplesDisabled := loading }

def clearFeedback : Page :=
  { self with
    formMessage := ""
    ariaInvalid := false
    loadingHidden := true
    resultHidden := true
    errorHidden := true }

def showLoading : Page :=
  { self.clearFeedback.setPageState (some "loading") with loadingHidden := false }.announce
    "Lookup started. Checking the local cache and GeoIP provider."

def showValidationMessage (message : String) : Page :=
  { self.clearFeedback.setPageState (some "validation-error") with ariaInvalid := true, formMessage := message }.announce
    message

end Page

namespace Engine
variable (self : Engine)

/-- `${value}` and the key in table[value]. -/
def template : Option Json → Script String
  | none => pure "undefined"
  | some value =>
    match self.toText value with
    | some text => pure text
    | none => throw .typeError

/-- What element.textContent = value sets. -/
def textContent : Option Json → Script String
  | none | some .null => pure ""
  | some value => self.template (some value)

def displayTime (value : Option Json) : Script String :=
  match self.timeValue value with
  | none => throw .typeError
  | some none => pure "Not available"
  | some (some time) => pure (self.formatTime time ++ " UTC")

def truthy : Option Json → Bool
  | none | some .null => false
  | some (.bool value) => value
  | some (.number literal) => !self.isZero literal
  | some (.str text) => text ≠ ""
  | some (.brokenStr _) | some (.array _) | some (.object _) => true

/-- Only the string itself counts as the database. -/
def sourceClass : Option Json → String
  | some (.str source) => if source = "database" then "source-badge database" else "source-badge provider"
  | _ => "source-badge provider"

def showResult (payload : Json) : Script Unit := do
  let key ← self.template (payload.get? "source")
  let presentation := (index sourcePresentation ⟨none, none, none, none⟩ key).getD providerPresentation
  modify Page.clearFeedback
  modify fun page => page.setPageState presentation.state
  let countryName ← self.textContent (payload.get? "country_name")
  modify fun page => { page with result.countryName := countryName }
  let countryCode ← self.textContent (payload.get? "country_code")
  modify fun page => { page with result.countryCode := countryCode }
  let ip ← self.textContent (payload.get? "ip")
  modify fun page => { page with result.normalizedIp := ip }
  modify fun page => { page with result.sourceLabel := presentation.label.getD "" }
  modify fun page => { page with result.sourceDetail := presentation.detail.getD "" }
  modify fun page => { page with result.sourceNote := presentation.note.getD "" }
  let fetchedAt ← self.displayTime (payload.get? "fetched_at")
  modify fun page => { page with result.fetchedAt := fetchedAt }
  let expiresAt ← self.displayTime (payload.get? "expires_at")
  modify fun page => { page with result.expiresAt := expiresAt }
  modify fun page => { page with result.sourceClass := sourceClass (payload.get? "source") }
  modify fun page => { page with resultHidden := false }
  let spoken ← self.template (payload.get? "country_name")
  modify fun page =>
    page.announce ("Lookup complete. " ++ spoken ++ ". " ++ presentation.label.getD "undefined" ++ ".")

/-- The request id to show, if it is a string that is not empty. -/
def requestIdText : Option Json → Option String
  | some (.str text) => if text ≠ "" then some text else none
  | some (.brokenStr value) => some ((self.toText (.brokenStr value)).getD "")
  | _ => none

/-- override || ERROR_MESSAGES[code] || ERROR_MESSAGES.INTERNAL_ERROR -/
def errorMessage (code : Option Json) : Option ErrorMessage → Script ErrorMessage
  | some override => pure override
  | none => do
    let key ← self.template code
    pure ((index errorMessages ⟨none, none, none⟩ key).getD internalError)

def showError (code requestId : Option Json) (override : Option ErrorMessage) : Script Unit := do
  let error ← self.errorMessage code override
  modify Page.clearFeedback
  modify fun page => page.setPageState error.kind
  modify fun page => { page with errorTitle := error.title.getD "" }
  modify fun page => { page with errorMessage := error.message.getD "" }
  let requestId := self.requestIdText requestId
  modify fun page => { page with requestIdHidden := requestId.isNone, requestId := requestId.getD "" }
  modify fun page => { page with errorHidden := false }
  modify fun page => page.announce (error.title.getD "undefined" ++ ". " ++ error.message.getD "undefined")
  if error.kind = some "validation-error" then
    modify fun page => { page with ariaInvalid := true }

/-- How an activation of the submit listener ends. -/
inductive Ending where
  | result
  | error
  | superseded
  | unhandled
  deriving DecidableEq, Repr

/-- The try block once the response and its payload are there. -/
def answered (ok : Bool) (payload : Option Json) : Script Ending := do
  match payload with
  | some value =>
    if ok && self.truthy payload then
      self.showResult value
      pure .result
    else failed
  | none => failed
where
  failed : Script Ending := do
    let apiError := payload.bind fun value => value.get? "error"
    self.showError (apiError.bind fun e => e.get? "code") (apiError.bind fun e => e.get? "request_id") none
    pure .error

/-- The catch clause. -/
def caught (timedOut : Bool) (error : Thrown) : Script Ending :=
  if error = .abortError ∧ timedOut = false then pure .superseded
  else do
    self.showError none none (some (if timedOut then timedOutMessage else unreachableMessage))
    pure .error

end Engine

/-! The listeners between the events. -/

/-- What an activation of the submit listener awaits: the response, or the rest of its body. -/
inductive Awaited where
  | response
  | body (ok : Bool)
  deriving DecidableEq, Repr

/-- An activation of the submit listener that has sent its request and waits. Controllers
are numbered in the order of their creation. -/
structure Lookup where
  controller : Nat
  ip : List Char
  timedOut : Bool
  awaits : Awaited
  deriving DecidableEq, Repr

structure Session where
  page : Page
  activeController : Option Nat
  controllers : Nat
  aborted : List Nat
  timers : List Nat
  lookups : List Lookup

/-- The page right after its script has run. -/
def Session.start : Session := ⟨.served, none, 0, [], [], []⟩

structure Response where
  ok : Bool
  contentType : Option String
  deriving DecidableEq, Repr

/-- One turn of the event loop. The network and the timer answer to a controller. -/
inductive Event where
  | type (value : List Char)
  | submit
  | retryClick
  | exampleClick (ip : List Char)
  | headers (controller : Nat) (response : Response)
  | body (controller : Nat) (payload : Option Json)
  | failure (controller : Nat) (error : Thrown)
  | timeout (controller : Nat)

/-- What String.prototype.trim removes. -/
def whitespace (c : Char) : Bool :=
  (9 ≤ c.toNat && c.toNat ≤ 13) || (0x2000 ≤ c.toNat && c.toNat ≤ 0x200A) ||
    [32, 0xA0, 0x1680, 0x2028, 0x2029, 0x202F, 0x205F, 0x3000, 0xFEFF].contains c.toNat

def trim (value : List Char) : List Char := (value.dropWhile whitespace).rdropWhile whitespace

/-- contentType.includes("application/json") -/
def Response.isJson (self : Response) : Bool :=
  decide ("application/json".toList <:+: (self.contentType.getD "").toList)

namespace Session
variable (self : Session) (engine : Engine)

def abort (controller : Nat) : Session := { self with aborted := controller :: self.aborted }

/-- Abort what is in flight, and send the next request. -/
def send (ip : List Char) : Session :=
  let self := match self.activeController with
    | some active => self.abort active
    | none => self
  let controller := self.controllers
  { self with
    page := (self.page.setLoading true).showLoading
    activeController := some controller
    controllers := controller + 1
    timers := controller :: self.timers
    lookups := self.lookups ++ [⟨controller, ip, false, .response⟩] }

/-- The submit listener up to its first await. -/
def submit : Session :=
  if self.page.buttonDisabled then self
  else
    let ip := trim self.page.inputValue
    let self := { self with page.inputValue := ip }
    if ip = [] then { self with page := self.page.showValidationMessage "Enter a public IPv4 or IPv6 address." }
    else self.send ip

/-- The listener of an example button. -/
def exampleClick (ip : List Char) : Session :=
  { self with page.inputValue := ip, page.ariaInvalid := false, page.formMessage := "" }

/-- The finally clause. -/
def finish (controller : Nat) (page : Page) : Session :=
  let self := { self with
    page := page
    timers := self.timers.filter (· ≠ controller)
    lookups := self.lookups.filter (·.controller ≠ controller) }
  if self.activeController = some controller then
    { self with activeController := none, page := self.page.setLoading false }
  else self

/-- The rest of an activation after its last await. -/
def resume (controller : Nat) (rest : Script Engine.Ending) : Session × Engine.Ending :=
  match rest self.page with
  | .ok ending page => (self.finish controller page, ending)
  | .error _ page => (self.finish controller page, .unhandled)

/-- The activation of a controller, if it is still waiting. -/
def lookup? (controller : Nat) : Option Lookup := self.lookups.find? (·.controller = controller)

def update (controller : Nat) (f : Lookup → Lookup) : Session :=
  { self with lookups := self.lookups.map fun l => if l.controller = controller then f l else l }

/-- The response is there: its body is read if it claims to be JSON. -/
def headers (l : Lookup) (response : Response) : Session × Option Engine.Ending :=
  if response.isJson then (self.update l.controller fun l => { l with awaits := .body response.ok }, none)
  else
    let (self, ending) := self.resume l.controller
      (tryCatch (engine.answered response.ok none) (engine.caught l.timedOut))
    (self, some ending)

/-- What a turn does, and how an activation ended in it. Not every event can occur: disabled
controls get no input, fetch rejects with an AbortError only after an abort, and what has
settled or was cleared does not come again. -/
def step : Event → Option (Session × Option Engine.Ending)
  | .type value => if self.page.inputDisabled then none else some ({ self with page.inputValue := value }, none)
  | .submit => some (self.submit, none)
  | .retryClick => some (self.submit, none)
  | .exampleClick ip => if self.page.examplesDisabled then none else some (self.exampleClick ip, none)
  | .headers controller response =>
    match self.lookup? controller with
    | some ⟨_, ip, timedOut, .response⟩ => some (self.headers engine ⟨controller, ip, timedOut, .response⟩ response)
    | _ => none
  | .body controller payload =>
    match self.lookup? controller with
    | some ⟨_, _, timedOut, .body ok⟩ =>
      let (self, ending) := self.resume controller (tryCatch (engine.answered ok payload) (engine.caught timedOut))
      some (self, some ending)
    | _ => none
  | .failure controller error =>
    match self.lookup? controller with
    | some ⟨_, _, timedOut, .response⟩ =>
      if error = .abortError ∧ controller ∉ self.aborted then none
      else
        let (self, ending) := self.resume controller (engine.caught timedOut error)
        some (self, some ending)
    | _ => none
  | .timeout controller =>
    if controller ∈ self.timers then
      let self := { self with timers := self.timers.filter (· ≠ controller) }
      some ((self.update controller fun l => { l with timedOut := true }).abort controller, none)
    else none

/-- One event that could occur. -/
def Follows (before after : Session) : Prop := ∃ event ending, before.step engine event = some (after, ending)

/-- Some events have occurred since the page was served. -/
def Reachable : Prop := Relation.ReflTransGen (Follows engine) start self

end Session
end IpCountryApi.Static
