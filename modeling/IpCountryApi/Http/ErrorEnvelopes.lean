import IpCountryApi.Http.ServeRuns

/-! The error envelope: which finished requests keep it for every error status. -/
namespace IpCountryApi.Http
open Library Domain Execution Observability

/-- Every error response that is not about readiness carries the envelope. -/
def ErrorsEnveloped (request : Request) (h : Past) : Prop :=
  ∀ response ∈ sent h, 400 ≤ response.status → readyPath request = false → response.body.Enveloped

/-- Turned away by the router, the body reader, the files, the host check or CORS, all of
which answer in their own form. -/
def TurnedAway (app : Application) (request : Request) (h : Past) : Prop :=
  (app.refused request || h.any refusedFile) = true

/-- Not cancelled, and not turned away unless the URL fails to parse after that. -/
def EnvelopeKept (app : Application) (request : Request) (h : Past) : Prop :=
  (∀ f ∈ faults h, f.kind ≠ .cancelled) ∧ (TurnedAway app request h → app.framework.urlPath request = none)

theorem internalError_enveloped : internalError.body.Enveloped := ⟨"unknown", _, _, rfl⟩

theorem serverError_plain : ¬ serverError.body.Enveloped := by
  rintro ⟨_, _, _, he⟩
  cases he

variable {app : Application} {request : Request} {h : Past}

theorem Served.enveloped {requestId path : String} {duration : Int} {inner : Response}
    (hs : Served app request h requestId path duration inner) (hr : readyPath request = false) :
    (400 ≤ inner.status → inner.body.Enveloped) ↔ EnvelopeKept app request h := by
  have calm : ∀ f ∈ faults h, f.kind ≠ .cancelled := by simp [hs.calls]
  cases ha : app.refused request || h.any refusedFile with
  | false =>
    refine iff_of_true (fun he => ?_) ⟨calm, fun ht => ?_⟩
    · exact (hs.answer.served ha he).resolve_left (by simp [hr])
    · rw [TurnedAway, ha] at ht
      cases ht
  | true =>
    obtain ⟨herror, hplain⟩ := hs.answer.refused ha
    refine iff_of_false (fun he => hplain (he herror)) fun hk => ?_
    have hnone := hk.2 ha
    rw [hs.parsed] at hnone
    cases hnone

theorem Origin.enveloped {f : Foreign} (ho : Origin app request h f) :
    EnvelopeKept app request h ↔ f.kind ≠ .cancelled := by
  constructor
  · intro hk
    rcases ho.faults_eq with hf | ⟨_, rfl⟩
    · exact hk.1 f (by simp [hf])
    · simp [valueError]
  · intro hk
    refine ⟨fun f' hf' => ?_, fun ht => ?_⟩
    · rcases ho.faults_eq with hf | ⟨hf, _⟩
      · rw [hf, List.mem_singleton] at hf'
        exact hf' ▸ hk
      · simp [hf] at hf'
    · cases ho with
      | call _ _ _ _ served => simp [TurnedAway, served.1, served.2] at ht
      | redirect _ _ _ served => simp [TurnedAway, served.1, served.2] at ht
      | path fails => exact fails

theorem ServeRun.enveloped (hs : ServeRun app request h) :
    ErrorsEnveloped request h ↔ readyPath request = true ∨ EnvelopeKept app request h := by
  cases hr : readyPath request with
  | true => simp [ErrorsEnveloped, hr]
  | false =>
    rcases hs.ending with ⟨_, requestId, path, duration, inner, hsent, served⟩ | ⟨_, f, time, before, rfl, hsent, _, _, origin⟩
    · rw [← served.enveloped hr]
      simp [ErrorsEnveloped, hsent, hr]
    · have hkept : EnvelopeKept app request (app.afterwards f time before) ↔ f.kind ≠ .cancelled := by
        rw [EnvelopeKept, TurnedAway, faults_afterwards, refusedFile_afterwards]
        exact origin.enveloped
      rw [hkept]
      by_cases hk : f.kind = .cancelled
      · have ho : outermost f = serverError := if_pos hk
        simp [ErrorsEnveloped, hsent, hr, ho, serverError_plain, hk, show serverError.status = 500 from rfl]
      · have ho : outermost f = internalError := if_neg hk
        simp [ErrorsEnveloped, hsent, hr, ho, internalError_enveloped, hk]

variable {T : InetType} {apps : Nat → Application} {w : World T} {c : Config Query Reply Exn Unit HttpJob (World T)}

/-- Stable envelope: the error responses to a finished request carry the envelope if and only
if it was about readiness, or was neither cancelled nor turned away. -/
theorem errors_enveloped (hw : ∀ i, w.context i = none) (hc : (serving T apps).Reachable w c)
    {t : Task Query Reply Exn Unit HttpJob} (ht : t ∈ c.tasks) {x : Except Exn Unit} (hx : t.Finished x) :
    ErrorsEnveloped t.job.request t.history ↔
      readyPath t.job.request = true ∨ EnvelopeKept (apps t.job.replica) t.job.request t.history :=
  (finished_serve hw hc ht hx).enveloped

def unmatchedRequest : Request := ⟨"GET", "/nowhere", [("host", "localhost"), ("x-request-id", "b")], .absent⟩

def isEnvelope : Body → Bool
  | .json (.object [("error", _)]) => true
  | _ => false

theorem isEnvelope_of_enveloped {body : Body} (h : body.Enveloped) : isEnvelope body = true := by
  obtain ⟨_, _, _, rfl⟩ := h
  rfl

/-- A request that no route matches is answered in the form of the framework. -/
theorem not_errors_enveloped : ∃ c, (serving hostAddresses fun _ => fakeApplication).Reachable
      (.start hostAddresses "0.1.0" true) c ∧ c.Quiescent ∧
    ∃ t ∈ c.tasks, t.job.request.path = "/nowhere" ∧ ¬ ErrorsEnveloped t.job.request t.history := by
  obtain ⟨c, hc, hp⟩ := System.play_reaches (serving hostAddresses fun _ => fakeApplication)
    (.start hostAddresses "0.1.0" true)
    (.launch ⟨0, unmatchedRequest⟩ :: List.replicate 30 (.reply 0 (serverReplies none (.ok none))))
    (fun c => System.settled c && c.tasks.any fun t => decide (t.job.request.path = "/nowhere") &&
      !readyPath t.job.request && (sent t.history).any fun response => response.status = 404 && !isEnvelope response.body)
    (by decide +kernel)
  simp only [Bool.and_eq_true, List.any_eq_true, Bool.not_eq_true', decide_eq_true_eq] at hp
  obtain ⟨hsettled, t, ht, ⟨hpath, hready⟩, response, hsent, hstatus, hbody⟩ := hp
  refine ⟨c, hc, System.quiescent_of_settled hsettled, t, ht, hpath, fun he => ?_⟩
  rw [isEnvelope_of_enveloped (he response hsent (by omega) hready)] at hbody
  cases hbody

def privateRequest : Request :=
  ⟨"POST", "/api/v1/lookups", [("host", "localhost"), ("x-request-id", "b")], .json (.object [("ip", .str "10.0.0.1")])⟩

/-- An address that is not public, and an exception that nothing handles. -/
theorem errors_enveloped_example : ∃ c, (serving hostAddresses fun _ => fakeApplication).Reachable
      (.start hostAddresses "0.1.0" true) c ∧
    (c.tasks.map fun t => (sent t.history).map Response.status) = [[422], [500]] ∧
    ∀ t ∈ c.tasks, ErrorsEnveloped t.job.request t.history := by
  obtain ⟨c, hc, hp⟩ := System.play_reaches (serving hostAddresses fun _ => fakeApplication)
    (.start hostAddresses "0.1.0" true)
    ([.launch ⟨0, privateRequest⟩, .launch ⟨0, googleRequest⟩] ++
      (List.replicate 30 [.reply 0 (serverReplies (some "b") (.ok none)),
        .reply 1 (serverReplies none (.error (runtimeError "")))]).flatten)
    (fun c => System.settled c && decide ((c.tasks.map fun t => (sent t.history).map Response.status) = [[422], [500]] ∧
      ∀ t ∈ c.tasks, (∀ f ∈ faults t.history, f.kind ≠ .cancelled) ∧
        (fakeApplication.refused t.job.request || t.history.any refusedFile) = false))
    (by decide +kernel)
  obtain ⟨hsettled, hp⟩ := Bool.and_eq_true_iff.mp hp
  obtain ⟨hstatus, hp⟩ := of_decide_eq_true hp
  refine ⟨c, hc, hstatus, fun t ht => ?_⟩
  obtain ⟨x, hx⟩ := System.quiescent_of_settled hsettled t ht
  obtain ⟨hcalm, hkept⟩ := hp t ht
  exact (errors_enveloped (fun _ => rfl) hc ht hx).mpr (.inr ⟨hcalm, fun h => absurd h (by simp [TurnedAway, hkept])⟩)

end IpCountryApi.Http
