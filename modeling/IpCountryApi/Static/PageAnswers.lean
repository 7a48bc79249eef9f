import IpCountryApi.Http.Confinement
import IpCountryApi.Static.PageTimeouts

/-! What the page shows of an answer to a lookup. -/
namespace IpCountryApi.Static
open Domain Engine Http

/-- Texts convert to themselves, and parsing one as a date raises nothing. -/
structure Engine.Standard (engine : Engine) : Prop where
  toText : ∀ text, engine.toText (.str text) = some text
  timeValue : ∀ text, (engine.timeValue (some (.str text))).isSome

/-- displayTime of a text. -/
def Engine.shownTime (self : Engine) (text : String) : String :=
  match self.timeValue (some (.str text)) with
  | some (some time) => self.formatTime time ++ " UTC"
  | _ => "Not available"

def presentationOf : Source → Presentation
  | .provider => providerPresentation
  | .database => ⟨some "PostgreSQL cache", some "PostgreSQL cache",
      some "This result was served directly from PostgreSQL without another external request.",
      some "success-database"⟩

/-- The result panel with a result, its times as the server writes them. -/
structure ShowsResult (engine : Engine) (isoformat : Datetime → String) (result : LookupResult) (page : Page) : Prop where
  panels : page.panels = ⟨false, true, false⟩
  state : page.state = (presentationOf result.source).state.getD "undefined"
  name : result.countryName = page.result.countryName
  result : page.result =
    { countryName := page.result.countryName
      countryCode := result.countryCode
      normalizedIp := String.ofList result.ip.str
      sourceLabel := (presentationOf result.source).label.getD ""
      sourceDetail := (presentationOf result.source).detail.getD ""
      sourceNote := (presentationOf result.source).note.getD ""
      fetchedAt := engine.shownTime (isoformat result.fetchedAt)
      expiresAt := engine.shownTime (isoformat result.expiresAt)
      sourceClass := "source-badge " ++ result.source.text }

/-- The error panel with the message for a code, and the request id of the answer. -/
structure ShowsError (code requestId : String) (page : Page) : Prop where
  message : ∃ error, errorMessages.lookup code = some error ∧ Shows error page
  requestId : page.requestIdHidden = decide (requestId = "") ∧ page.requestId = requestId

variable {engine : Engine} {page : Page}

theorem template_str (h : engine.Standard) (text : String) : engine.template (some (.str text)) page = .ok text page := by
  simp only [template, h.toText]
  rfl

theorem textContent_str (h : engine.Standard) (text : String) : engine.textContent (some (.str text)) page = .ok text page :=
  template_str h text

theorem displayTime_str (h : engine.Standard) (text : String) :
    engine.displayTime (some (.str text)) page = .ok (engine.shownTime text) page := by
  obtain ⟨value, hvalue⟩ := Option.isSome_iff_exists.mp (h.timeValue text)
  simp only [displayTime, shownTime, hvalue]
  cases value <;> rfl

theorem index_source (source : Source) :
    index sourcePresentation ⟨none, none, none, none⟩ source.text = some (presentationOf source) := by
  cases source <;> decide

theorem sourceClass_source (source : Source) : sourceClass (some (.str source.text)) = "source-badge " ++ source.text := by
  cases source <;> decide

theorem showResult_shows (h : engine.Standard) (app : Application) {result : LookupResult}
    (encodes : result.countryName.encodes = true) (page : Page) :
    ∃ after, engine.showResult (app.lookupResponse result) page = .ok () after ∧
      ShowsResult engine app.framework.isoformat result after := by
  obtain ⟨countryName, hname⟩ := PyStr.encodes_iff.mp encodes
  have name : (app.lookupResponse result).get? "country_name" = some (.str countryName) := congrArg (some ∘ PyStr.json) hname
  have code : (app.lookupResponse result).get? "country_code" = some (.str result.countryCode) := rfl
  have ip : (app.lookupResponse result).get? "ip" = some (.str (String.ofList result.ip.str)) := rfl
  have source : (app.lookupResponse result).get? "source" = some (.str result.source.text) := rfl
  have fetched : (app.lookupResponse result).get? "fetched_at" = some (.str (app.framework.isoformat result.fetchedAt)) := rfl
  have expires : (app.lookupResponse result).get? "expires_at" = some (.str (app.framework.isoformat result.expiresAt)) := rfl
  simp only [showResult, name, code, ip, source, fetched, expires, bind, EStateM.bind, template_str h, textContent_str h,
    displayTime_str h, index_source, Option.getD_some, sourceClass_source, modify, modifyGet, MonadStateOf.modifyGet,
    EStateM.modifyGet]
  exact ⟨_, rfl, rfl, rfl, hname, rfl⟩

theorem showError_code (h : engine.Standard) {code : String} {error : ErrorMessage}
    (hcode : errorMessages.lookup code = some error) (requestId : String) (page : Page) :
    ∃ after, engine.showError (some (.str code)) (some (.str requestId)) none page = .ok () after ∧
      ShowsError code requestId after := by
  have herror : engine.errorMessage (some (.str code)) none page = .ok error page := by
    simp only [errorMessage, bind, EStateM.bind, template_str h, index, hcode]
    rfl
  have shown : ∀ page' : Page, ∃ after : Page, Shows error after ∧ after.requestIdHidden = (engine.requestIdText (some (.str requestId))).isNone ∧
      after.requestId = (engine.requestIdText (some (.str requestId))).getD "" ∧
      engine.showError (some (.str code)) (some (.str requestId)) none page = .ok () after := by
    intro _
    simp only [showError, bind, EStateM.bind, herror, modify, modifyGet, MonadStateOf.modifyGet, EStateM.modifyGet]
    split
    · exact ⟨_, ⟨rfl, rfl, rfl, rfl⟩, rfl, rfl, rfl⟩
    · exact ⟨_, ⟨rfl, rfl, rfl, rfl⟩, rfl, rfl, rfl⟩
  obtain ⟨after, hshows, hhidden, hid, hrun⟩ := shown page
  refine ⟨after, hrun, ⟨error, hcode, hshows⟩, ?_⟩
  rw [hhidden, hid, requestIdText]
  by_cases hempty : requestId = "" <;> simp [hempty]

/-- What the page shows of the content of an answer. -/
inductive Displays (engine : Engine) (app : Application) (request : Request) (content : Json) : Page → Prop
  | result {page : Page} {text : String} {result : LookupResult} (asked : Application.Asked request text)
      (ip : validatePublicIp text = .ok result.ip) (found : content = app.lookupResponse result)
      (shows : ShowsResult engine app.framework.isoformat result page) : Displays engine app request content page
  | error {page : Page} {code message requestId : String} (failed : content = envelope code message requestId)
      (shows : ShowsError code requestId page) : Displays engine app request content page
  | refused {page : Page} {detail : String} (refused : content = .object [("detail", .str detail)])
      (shows : Shows internalError page) : Displays engine app request content page

/-- response.ok -/
def okStatus (status : Nat) : Bool := 200 ≤ status && status ≤ 299

theorem okStatus_error {status : Nat} (h : 400 ≤ status) : okStatus status = false := by
  simp only [okStatus, Bool.and_eq_false_iff, decide_eq_false_iff_not]
  omega

/-- The try block with an error answer. -/
theorem answered_failed {content : Json} {code requestId : Option Json}
    (hcode : ((content.get? "error").bind fun e => e.get? "code") = code)
    (hid : ((content.get? "error").bind fun e => e.get? "request_id") = requestId) {after : Page}
    (hrun : engine.showError code requestId none page = .ok () after) (timedOut : Bool) :
    tryCatch (engine.answered false (some content)) (engine.caught timedOut) page = .ok .error after := by
  simp only [tryCatch, tryCatchThe, MonadExceptOf.tryCatch, EStateM.tryCatch, answered, answered.failed, Bool.false_and,
    Bool.false_eq_true, if_false, bind, EStateM.bind, Option.bind_some, hcode, hid, hrun]
  rfl

/-- The try block with a payload to show. -/
theorem answered_found {content : Json} (htruthy : engine.truthy (some content) = true) {after : Page}
    (hrun : engine.showResult content page = .ok () after) (timedOut : Bool) :
    tryCatch (engine.answered true (some content)) (engine.caught timedOut) page = .ok .result after := by
  simp only [tryCatch, tryCatchThe, MonadExceptOf.tryCatch, EStateM.tryCatch, answered, htruthy, Bool.and_self, if_true,
    bind, EStateM.bind, hrun]
  rfl

theorem answered_lookup (h : engine.Standard) {app : Application} {request : Request} {status : Nat} {content : Json}
    (ha : app.AnswersLookup request status content) (timedOut : Bool) (page : Page) :
    ∃ ending after, tryCatch (engine.answered (okStatus status) (some content)) (engine.caught timedOut) page = .ok ending after ∧
      Displays engine app request content after := by
  have envelope : ∀ {status code message requestId error}, errorMessages.lookup code = some error → 400 ≤ status →
      ∃ ending after, tryCatch (engine.answered (okStatus status) (some (envelope code message requestId)))
          (engine.caught timedOut) page = .ok ending after ∧
        Displays engine app request (Http.envelope code message requestId) after := by
    intro status code message requestId error hcode hstatus
    obtain ⟨after, hrun, hshows⟩ := showError_code h hcode requestId page
    rw [okStatus_error hstatus]
    exact ⟨.error, after, answered_failed rfl rfl hrun timedOut, .error rfl hshows⟩
  cases ha with
  | found asked ip encodes =>
    obtain ⟨after, hrun, hshows⟩ := showResult_shows h app encodes page
    exact ⟨.result, after, answered_found rfl hrun timedOut, .result asked ip rfl hshows⟩
  | failed e requestId =>
    have hcode : ∃ error, errorMessages.lookup e.code = some error := by cases e <;> exact ⟨_, rfl⟩
    obtain ⟨error, hcode⟩ := hcode
    exact envelope hcode e.statusCode_error.1
  | invalid requestId => exact envelope rfl (by decide)
  | unexpected requestId => exact envelope rfl (by decide)
  | refused unreadable =>
    obtain ⟨after, hrun, hshows⟩ : ∃ after, engine.showError none none none page = .ok () after ∧ Shows internalError after :=
      showError_shows rfl
    rw [okStatus_error (by decide)]
    exact ⟨.error, after, answered_failed rfl rfl hrun timedOut, .refused rfl hshows⟩

end IpCountryApi.Static
