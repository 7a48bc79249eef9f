import IpCountryApi.Http.Serving

/-! A finished request from outside: what was sent and counted, told by whether anything
unexpected was raised on the way. -/
namespace IpCountryApi.Http
open Library Domain Execution Observability

/-- No call raised an unguarded exception, and every URL the middlewares ask for parses. -/
def Undisturbed (app : Application) (request : Request) (h : Past) : Prop :=
  faults h = [] ∧ app.wwwFails request = false ∧ app.framework.urlPath request ≠ none

/-- The answer of the outermost layers. -/
def outermost (f : Foreign) : Response := if f.kind = .cancelled then serverError else internalError

variable {app : Application} {request : Request} {h before : Past}

/-- Only log lines come between the exception and the answer to it. -/
theorem afterwards_tail (app : Application) (f : Foreign) (time : Int) (before : Past) : ∃ tail, Extends calm before tail ∧
    (app.afterwards f time before = ⟨.send (outermost f), ()⟩ :: ⟨.print (crashLine f), ()⟩ :: tail ∨
      app.afterwards f time before = ⟨.print (crashLine f), ()⟩ :: ⟨.send (outermost f), ()⟩ :: tail) := by
  unfold Application.afterwards
  by_cases hk : f.kind = .cancelled
  · have ho : outermost f = serverError := if_pos hk
    rw [if_pos hk, ho]
    exact ⟨before, .refl, .inl rfl⟩
  · have ho : outermost f = internalError := if_neg hk
    rw [if_neg hk, ho]
    exact ⟨⟨.contextGet, none⟩ :: logged _ _ _ time before, logged_extends.push rfl, .inr rfl⟩

theorem sent_afterwards (f : Foreign) (time : Int) : sent (app.afterwards f time before) = outermost f :: sent before := by
  obtain ⟨tail, hx, he | he⟩ := afterwards_tail app f time before
  all_goals
    rw [he, ← sent_extends (tame_extends hx)]
    rfl

/-- Nothing more is raised. -/
theorem afterwards_extends (app : Application) (f : Foreign) (time : Int) (before : Past) :
    Extends (fun e => (fault e).isNone) before (app.afterwards f time before) := by
  obtain ⟨tail, hx, he | he⟩ := afterwards_tail app f time before
  all_goals
    rw [he]
    exact ((hx.mono fun _ h => (Bool.and_eq_true_iff.mp (tame_of_calm h)).1).push rfl).push rfl

theorem faults_afterwards (f : Foreign) (time : Int) : faults (app.afterwards f time before) = faults before :=
  (afterwards_extends app f time before).filterMap_eq fun _ he => by simpa using he

theorem httpRequests_afterwards (f : Foreign) (time : Int) :
    httpRequests (app.afterwards f time before) = httpRequests before := by
  obtain ⟨tail, hx, he | he⟩ := afterwards_tail app f time before
  all_goals
    rw [he, ← httpRequests_extends (tame_extends hx)]
    rfl

theorem refusedFile_afterwards (f : Foreign) (time : Int) :
    (app.afterwards f time before).any refusedFile = before.any refusedFile := by
  obtain ⟨tail, hx, he | he⟩ := afterwards_tail app f time before
  all_goals
    rw [he, ← refusedFile_extends hx]
    rfl

theorem faults_mute {older newer : Past} (hx : Extends mute older newer) : faults newer = faults older :=
  hx.filterMap_eq fun _ he => by simpa using (Bool.and_eq_true_iff.mp he).1

/-- The exception a call raised is the only unguarded one. -/
theorem Origin.faults_eq {f : Foreign} (ho : Origin app request h f) :
    faults h = [f] ∨ (faults h = [] ∧ f = valueError "ValueError") := by
  cases ho with
  | call raised first rest redirected served =>
    refine .inl ?_
    rw [faults_mute rest, faults, List.filterMap_cons, raised]
    exact congrArg _ first
  | redirect fails url calls served => exact .inr ⟨calls, url⟩
  | path fails url calls redirected => exact .inr ⟨calls, url⟩

theorem Origin.disturbed {f : Foreign} (ho : Origin app request h f) : ¬ Undisturbed app request h := by
  rintro ⟨hf, hw, hu⟩
  cases ho with
  | call raised first rest redirected served =>
    rw [faults_mute rest, faults, List.filterMap_cons, raised] at hf
    cases hf
  | redirect fails url calls served =>
    rw [hw] at fails
    cases fails
  | path fails url calls redirected => exact hu fails

/-- The two ways a request ends: undisturbed, with the answer of the inner layers, or with
the answer of the outermost ones. -/
theorem ServeRun.ending (hs : ServeRun app request h) :
    (Undisturbed app request h ∧ ∃ requestId path duration inner, sent h = [inner.setHeader "x-request-id" requestId] ∧
      Served app request h requestId path duration inner) ∨
    (¬ Undisturbed app request h ∧ ∃ f time before, h = app.afterwards f time before ∧ sent h = [outermost f] ∧
      httpRequests h = [] ∧ contextAfter before = none ∧ Origin app request before f) := by
  cases hs with
  | @served before requestId path duration inner unsent served =>
    refine .inl ⟨⟨served.calls, served.redirected, by simp [served.parsed]⟩, requestId, path, duration, inner, ?_, ?_⟩
    · exact congrArg (inner.setHeader "x-request-id" requestId :: ·) unsent
    · exact ⟨served.redirected, served.parsed, served.calls, served.pattern, served.own, served.answer, served.counted⟩
  | @failed before f time unsent uncounted left origin =>
    refine .inr ⟨?_, f, time, before, rfl, ?_, ?_, left, origin⟩
    · rw [Undisturbed, faults_afterwards]
      exact origin.disturbed
    · rw [sent_afterwards, unsent]
    · rw [httpRequests_afterwards, uncounted]

end IpCountryApi.Http
