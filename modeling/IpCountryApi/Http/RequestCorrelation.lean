import IpCountryApi.Http.ServeRuns

/-! Request ids: which finished requests carry one id in the response header and in the
error envelope. -/
namespace IpCountryApi.Http
open Library Domain Execution Observability

/-- One response was sent; its header carries a well-formed id, the client's own if that is
valid, and an error envelope carries the same id. -/
def Correlated (request : Request) (h : Past) : Prop :=
  ∃ response requestId, sent h = [response] ∧ response.header "x-request-id" = some requestId ∧
    requestIdPattern requestId.toList = true ∧
    (validRequestId (request.header "x-request-id") = true → request.header "x-request-id" = some requestId) ∧
    ∀ other, response.body.EnvelopeOf other → other = requestId

/-- The outermost layers know no request id. -/
theorem outermost_header (f : Foreign) : (outermost f).header "x-request-id" = none := by
  rw [outermost]
  split <;> rfl

theorem ServeRun.correlated {app : Application} {request : Request} {h : Past} (hs : ServeRun app request h) :
    Correlated request h ↔ Undisturbed app request h := by
  rcases hs.ending with ⟨hu, requestId, path, duration, inner, hsent, served⟩ | ⟨hu, f, _, _, _, hsent, _⟩
  · refine iff_of_true ⟨_, requestId, hsent, Response.header_setHeader .., served.pattern, served.own, ?_⟩ hu
    intro other hbody
    rw [Response.setHeader_body] at hbody
    exact served.answer.own other hbody
  · refine iff_of_false ?_ hu
    rintro ⟨response, requestId, hsent', hheader, _⟩
    rw [hsent, List.cons.injEq] at hsent'
    rw [← hsent'.1, outermost_header] at hheader
    cases hheader

variable {T : InetType} {apps : Nat → Application} {w : World T} {c : Config Query Reply Exn Unit HttpJob (World T)}

/-- Correlation: whatever else is running, a finished request carries its id if and only if
it was undisturbed. -/
theorem requests_correlated (hw : ∀ i, w.context i = none) (hc : (serving T apps).Reachable w c)
    {t : Task Query Reply Exn Unit HttpJob} (ht : t ∈ c.tasks) {x : Except Exn Unit} (hx : t.Finished x) :
    Correlated t.job.request t.history ↔ Undisturbed (apps t.job.replica) t.job.request t.history :=
  (finished_serve hw hc ht hx).correlated

/-- A request with a valid id of its own whose database driver raises something undocumented
is answered without an id. -/
theorem not_requests_correlated : ∃ c, (serving hostAddresses fun _ => fakeApplication).Reachable
      (.start hostAddresses "0.1.0" true) c ∧ c.Quiescent ∧
    ∃ t ∈ c.tasks, validRequestId (t.job.request.header "x-request-id") = true ∧ ¬ Correlated t.job.request t.history := by
  obtain ⟨c, hc, hp⟩ := System.play_reaches (serving hostAddresses fun _ => fakeApplication)
    (.start hostAddresses "0.1.0" true)
    (.launch ⟨0, googleRequest⟩ :: List.replicate 30 (.reply 0 (serverReplies none (.error (runtimeError "")))))
    (fun c => System.settled c && c.tasks.any fun t => validRequestId (t.job.request.header "x-request-id") &&
      decide ((sent t.history).map (fun response => response.header "x-request-id") = [none]))
    (by decide +kernel)
  obtain ⟨hsettled, hp⟩ := Bool.and_eq_true_iff.mp hp
  obtain ⟨t, ht, hp⟩ := List.any_eq_true.mp hp
  obtain ⟨hvalid, hp⟩ := Bool.and_eq_true_iff.mp hp
  have hnone := of_decide_eq_true hp
  refine ⟨c, hc, System.quiescent_of_settled hsettled, t, ht, hvalid, ?_⟩
  rintro ⟨response, requestId, hsent, hheader, _⟩
  rw [hsent, List.map_singleton, hheader] at hnone
  cases hnone

/-- A lookup that misses the cache, beside a request that no route matches. -/
theorem requests_correlated_example : ∃ c, (serving hostAddresses fun _ => fakeApplication).Reachable
      (.start hostAddresses "0.1.0" true) c ∧ c.tasks.length = 2 ∧
    ∀ t ∈ c.tasks, Correlated t.job.request t.history := by
  obtain ⟨c, hc, hp⟩ := System.play_reaches (serving hostAddresses fun _ => fakeApplication)
    (.start hostAddresses "0.1.0" true)
    ([.launch ⟨0, googleRequest⟩, .launch ⟨0, ⟨"GET", "/nowhere", [("host", "localhost"), ("x-request-id", "b")], .absent⟩⟩] ++
      (List.replicate 40 [.reply 0 (serverReplies none (.ok none)), .reply 1 (serverReplies none (.ok none))]).flatten)
    (fun c => System.settled c && decide (c.tasks.length = 2 ∧ ∀ t ∈ c.tasks, faults t.history = [] ∧
      fakeApplication.wwwFails t.job.request = false))
    (by decide +kernel)
  obtain ⟨hsettled, hp⟩ := Bool.and_eq_true_iff.mp hp
  obtain ⟨htwo, hp⟩ := of_decide_eq_true hp
  refine ⟨c, hc, htwo, fun t ht => ?_⟩
  obtain ⟨x, hx⟩ := System.quiescent_of_settled hsettled t ht
  exact (requests_correlated (fun _ => rfl) hc ht hx).mpr ⟨(hp t ht).1, (hp t ht).2, nofun⟩

end IpCountryApi.Http
