import IpCountryApi.Http.Confinement
import IpCountryApi.Http.ExceptionLeak
import IpCountryApi.Library.Parallel

/-! What the IPinfo token has an influence on: the Authorization header of the requests to
the provider, and nothing else. -/
namespace IpCountryApi.Http
open Library Domain Execution Observability Services Providers Repositories

/-- A query without its credentials. -/
def masked : Query → Query
  | .clientGet path _ => .clientGet path ""
  | q => q

theorem reply_masked (q : Query) : Reply (masked q) = Reply q := by
  cases q <;> rfl

/-- Queries that differ in their credentials only. -/
def credentials : Likeness Query Reply where
  same q q' := masked q = masked q'
  refl _ := rfl
  replies h := by rw [← reply_masked, h, reply_masked]

/-- One call, with one reply, up to its credentials. -/
inductive SameCall : Answered → Answered → Prop
  | same (e : Answered) : SameCall e e
  | clientGet (path : Text) (authorization authorization' : String) (answer : Except Foreign HttpResponse) :
      SameCall ⟨.clientGet path authorization, answer⟩ ⟨.clientGet path authorization', answer⟩

theorem masked_cases (q : Query) : (∃ path authorization, q = .clientGet path authorization) ∨ masked q = q := by
  cases q with
  | clientGet path authorization => exact .inl ⟨path, authorization, rfl⟩
  | _ => exact .inr rfl

theorem masked_clientGet {q : Query} {path : Text} (h : masked q = .clientGet path "") :
    ∃ authorization, q = .clientGet path authorization := by
  rcases masked_cases q with ⟨path', authorization, rfl⟩ | hq
  · cases h
    exact ⟨authorization, rfl⟩
  · exact ⟨"", hq.symm.trans h⟩

theorem sameCall {e e' : Answered} (h : credentials.SameEvent e e') : SameCall e e' := by
  obtain ⟨q, r⟩ := e
  obtain ⟨q', r'⟩ := e'
  obtain ⟨hq, hr⟩ := h
  replace hq : masked q = masked q' := hq
  rcases masked_cases q with ⟨path, authorization, rfl⟩ | hm
  · obtain ⟨authorization', rfl⟩ := masked_clientGet hq.symm
    cases hr
    exact .clientGet path authorization authorization' _
  · rcases masked_cases q' with ⟨path, authorization, rfl⟩ | hm'
    · obtain ⟨authorization', rfl⟩ := masked_clientGet hq
      cases hr
      exact .clientGet path authorization' authorization _
    · obtain rfl : q = q' := hm.symm.trans (hq.trans hm')
      cases hr
      exact .same _

namespace ProviderChoice

def withToken (self : ProviderChoice) (token : String) : ProviderChoice :=
  match self with
  | .fake => .fake
  | .ipinfo provider => .ipinfo { provider with token := token }

end ProviderChoice

/-- The application with another token. -/
def Application.withToken (self : Application) (token : String) : Application :=
  { self with replica := { self.replica with provider := ProviderChoice.withToken self.replica.provider token } }

section Layers
variable {α β : Type} {ip : IPAddress}

theorem perform_parallel {q : Query} {f f' : Reply q → Prog β} (hf : ∀ r, Parallel credentials (f r) (f' r)) :
    Parallel credentials (perform q >>= f) (perform q >>= f') := (Parallel.refl _).bind hf

theorem request_parallel (self : IPinfoLiteProvider) (token : String) :
    Parallel credentials (self.request ip) (IPinfoLiteProvider.request { self with token := token } ip) := by
  apply Parallel.bind
  · apply Parallel.tryCatch
    · refine Parallel.call rfl fun r r' hr => ?_
      rw [eq_of_heq hr]
      exact .refl _
    · exact fun e => .refl _
  · exact fun response => .refl _

theorem retrying_parallel {body body' : Prog α} (h : Parallel credentials body body') (attempt remaining : Nat) :
    Parallel credentials (retrying body attempt remaining) (retrying body' attempt remaining) := by
  induction remaining generalizing attempt with
  | zero => exact h
  | succ remaining ih =>
    apply h.tryCatch
    intro e
    cases e with
    | retryable timeout => exact perform_parallel fun slept => (Parallel.refl _).bind fun _ => ih (attempt + 1)
    | _ => exact .refl _

theorem provider_parallel (choice : ProviderChoice) (token : String) (ip : IPAddress) :
    Parallel credentials (choice.lookup ip) ((ProviderChoice.withToken choice token).lookup ip) := by
  cases choice with
  | fake => exact .refl _
  | ipinfo self =>
    refine perform_parallel fun started => Parallel.ensuring ?_
    apply Parallel.tryCatch
    · exact (retrying_parallel (request_parallel self token) 1 self.maxRetries).bind fun _ => .refl _
    · exact fun e => .refl _

theorem lookup_parallel (self : Replica) (token value : String) :
    Parallel credentials (self.service.lookup value)
      (Replica.service { self with provider := ProviderChoice.withToken self.provider token } |>.lookup value) := by
  rw [IPLookupService.lookup, IPLookupService.lookup]
  refine (Parallel.refl _).bind fun ip => perform_parallel fun now => (Parallel.refl _).bind fun cached => ?_
  have refreshed : Parallel credentials (self.service.refresh ip)
      (Replica.service { self with provider := ProviderChoice.withToken self.provider token } |>.refresh ip) :=
    (provider_parallel self.provider token ip).bind fun _ => .refl _
  split
  · exact .refl _
  · exact (refreshed.tryCatch fun e => .refl _).bind fun _ => .refl _

variable (app : Application) (token : String) (request : Request)

theorem createLookup_parallel :
    Parallel credentials (app.createLookup request) ((app.withToken token).createLookup request) :=
  (Parallel.refl _).bind fun payload => (lookup_parallel app.replica token payload.ip).bind fun _ => .refl _

theorem router_parallel : Parallel credentials (app.router request) ((app.withToken token).router request) := by
  rw [Application.router, Application.router]
  cases destination request.method request.path with
  | endpoint route =>
    show Parallel credentials (app.handle request route.endpoint) ((app.withToken token).handle request route.endpoint)
    cases route.endpoint with
    | createLookup => exact createLookup_parallel app token request
    | _ => exact .refl _
  | _ => exact .refl _

theorem asgi_parallel : Parallel credentials (app.asgi request) ((app.withToken token).asgi request) := by
  have inner : Parallel credentials (exceptionMiddleware app.replica.log (app.router request))
      (exceptionMiddleware app.replica.log ((app.withToken token).router request)) :=
    (router_parallel app token request).tryCatch fun _ => .refl _
  have trusted : Parallel credentials (app.trustedHostMiddleware request (exceptionMiddleware app.replica.log (app.router request)))
      ((app.withToken token).trustedHostMiddleware request
        (exceptionMiddleware app.replica.log ((app.withToken token).router request))) := by
    rw [Application.trustedHostMiddleware, Application.trustedHostMiddleware]
    show Parallel credentials (if app.trustedHost request then _ else _) (if app.trustedHost request then _ else _)
    split
    · exact inner
    · exact .refl _
  have cors : Parallel credentials (app.corsMiddleware request (app.trustedHostMiddleware request
        (exceptionMiddleware app.replica.log (app.router request))))
      ((app.withToken token).corsMiddleware request ((app.withToken token).trustedHostMiddleware request
        (exceptionMiddleware app.replica.log ((app.withToken token).router request)))) := by
    rw [Application.corsMiddleware, Application.corsMiddleware]
    have same : (app.withToken token).preflight request = app.preflight request := rfl
    rw [same]
    cases app.preflight request with
    | some asked => exact .refl _
    | none => exact trusted.bind fun _ => .refl _
  refine Parallel.tryCatch (Parallel.bind ?_ fun _ => .refl _) fun _ => .refl _
  exact (Parallel.refl _).bind fun requestId => perform_parallel fun _ => perform_parallel fun _ =>
    cors.ensuring.bind fun _ => .refl _

theorem serve_parallel : Parallel credentials (app.serve request) ((app.withToken token).serve request) :=
  (asgi_parallel app token request).tryCatch fun _ => .refl _

end Layers

/-! Deployments whose tokens differ. -/

/-- What two requests have in common that are served with different tokens: all but the
credentials of their calls, which are their own. -/
structure SameRequest (token : String) (t t' : Task Query Reply Exn Unit HttpJob) : Prop where
  job : t'.job = t.job
  finished : ∀ x, t.Finished x ↔ t'.Finished x
  calls : List.Forall₂ SameCall t.history t'.history
  sent : sent t'.history = sent t.history
  printed : printed t'.history = printed t.history
  bearer : ∀ e ∈ t'.history, ∀ path authorization, e.query = .clientGet path authorization → authorization = "Bearer " ++ token

section Runs
variable {T : InetType} {apps : Nat → Application} {w : World T} {c : Config Query Reply Exn Unit HttpJob (World T)}

theorem offers_sameCall {e e' : Answered} (h : SameCall e e') (i replica : Nat) : w.Offers i replica e ↔ w.Offers i replica e' := by
  cases h <;> rfl

theorem after_sameCall {e e' : Answered} (h : SameCall e e') (i replica : Nat) : w.after i replica e' = w.after i replica e := by
  cases h <;> rfl

theorem bearer_withToken {app : Application} {token : String} {request : Request} {path : Text} {authorization : String}
    (h : (app.withToken token).Permitted request (.clientGet path authorization)) : authorization = "Bearer " ++ token := by
  obtain ⟨ip, -, provider, hprovider, -, hauthorization⟩ := h
  replace hprovider : ProviderChoice.withToken app.replica.provider token = .ipinfo provider := hprovider
  cases hchoice : app.replica.provider with
  | fake =>
    rw [hchoice] at hprovider
    cases hprovider
  | ipinfo self =>
    rw [hchoice] at hprovider
    cases hprovider
    exact hauthorization

/-- No token of any replica has an influence on a response, a log line, a metric, a row or the
course of a request, in any interleaving: every run is also one with other tokens, where only
the Authorization headers differ. The client gets the same replies with any token, which holds
of tokens that it can encode. -/
theorem token_unobservable (tokens : Nat → String) (hc : (serving T apps).Reachable w c) :
    ∃ c', (serving T fun n => (apps n).withToken (tokens n)).Reachable w c' ∧ c'.world = c.world ∧
      List.Forall₂ (fun t t' => SameRequest (tokens t.job.replica) t t') c.tasks c'.tasks := by
  have programs : ∀ j : HttpJob, Parallel credentials ((serving T apps).program j)
      ((serving T fun n => (apps n).withToken (tokens n)).program j) :=
    fun j => serve_parallel (apps j.replica) (tokens j.replica) j.request
  obtain ⟨c', hc', hworld, htasks⟩ := hc.parallel programs
    (fun _ i j _ _ h he => ⟨he.1, (offers_sameCall (sameCall h) i j.replica).mp he.2⟩)
    (fun _ i j _ _ h => after_sameCall (sameCall h) i j.replica)
  refine ⟨c', hc', hworld, List.forall₂_iff_zip.mpr ⟨htasks.length_eq, fun {t t'} hzip => ?_⟩⟩
  obtain ⟨hjob, hresidual, hhistory⟩ := List.forall₂_zip htasks hzip
  have same : ∀ e e', credentials.SameEvent e e' → SameCall e e' := fun _ _ h => sameCall h
  refine ⟨hjob, fun x => Likeness.SameTask.finished ⟨hjob, hresidual, hhistory⟩, hhistory.imp same, ?_, ?_, ?_⟩
  · exact (Likeness.filterMap_history hhistory fun e e' h => by cases same e e' h <;> rfl).symm
  · exact (Likeness.filterMap_history hhistory fun e e' h => by cases same e e' h <;> rfl).symm
  · intro e he path authorization hquery
    have permitted := (hc'.within (fun j => Application.serve_within _ j.request) (List.of_mem_zip hzip).2).2 e he
    rw [hquery, hjob] at permitted
    exact bearer_withToken permitted

end Runs

def ipinfoApplication (token : String) : Application :=
  ⟨"0.1.0", ["localhost"], [], ⟨.ipinfo ⟨.ascii, token, 1⟩, 60, quietLog⟩, plainFramework⟩

def presents (authorization : String) (e : Answered) : Bool :=
  match e.query with
  | .clientGet _ authorization' => authorization' = authorization
  | _ => false

/-- Replies to a lookup that asks the provider, which does not know the token. -/
def unauthorizedReplies : (q : Query) → Option (Reply q)
  | .clientGet _ _ => some (.ok ⟨401, .ok .null⟩)
  | q => serverReplies (some "a") (.ok none) q

/-- A lookup that presents its token, and is refused. -/
def unauthorizedRun : (serving hostAddresses fun _ => ipinfoApplication "one").Recording (.start hostAddresses "0.1.0" true)
    fun c => c.tasks.any fun t => t.history.any (presents "Bearer one") && (sent t.history).any fun response => response.status = 503 where
  moves := .launch ⟨0, googleRequest⟩ :: List.replicate 40 (.reply 0 unauthorizedReplies)
  passes := by decide +kernel

theorem token_unobservable_example : ∃ c c' : Config Query Reply Exn Unit HttpJob (World hostAddresses),
    (c.tasks.any fun t => t.history.any (presents "Bearer one")) = true ∧
    List.Forall₂ (SameRequest "two") c.tasks c'.tasks := by
  obtain ⟨c, hc, hp⟩ := unauthorizedRun.reaches
  obtain ⟨c', -, -, htasks⟩ := token_unobservable (fun _ => "two") hc
  refine ⟨c, c', ?_, htasks⟩
  obtain ⟨t, ht, hp⟩ := List.any_eq_true.mp hp
  exact List.any_eq_true.mpr ⟨t, ht, (Bool.and_eq_true_iff.mp hp).1⟩

end IpCountryApi.Http
