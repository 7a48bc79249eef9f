import IpCountryApi.Execution.Deployment
import IpCountryApi.Http.RequestRuns
import IpCountryApi.Library.Playback
import IpCountryApi.Services.SharedCache

/-! Any number of requests, interleaved, on any number of replicas of the application. -/
namespace IpCountryApi.Http
open Library Domain Execution Observability Services

structure HttpJob where
  replica : Nat
  request : Request

/-- Replicas with settings of their own over one database; libraries may answer and fail
in any way, and requests may be cancelled. -/
def serving (T : InetType) (apps : Nat → Application) : System Query Reply Exn Unit HttpJob (World T) :=
  deployment T (fun _ _ => True) (fun j => (apps j.replica).serve j.request) HttpJob.replica

instance (T : InetType) (apps : Nat → Application) (w : World T) (i : Nat) (j : HttpJob) (e : Answered) :
    Decidable ((serving T apps).enabled w i j e) :=
  inferInstanceAs (Decidable ((deployment _ _ _ _).enabled w i j e))

variable {T : InetType} {apps : Nat → Application} {w : World T}
  {c c' : Config Query Reply Exn Unit HttpJob (World T)}

/-- A reply changes the context of its own task, as the history of that task tells. -/
theorem context_after {i replica : Nat} (e : Answered) {h : Past} (hi : w.context i = contextAfter h) :
    (w.after i replica e).context i = contextAfter (e :: h) := by
  obtain ⟨q, r⟩ := e
  cases q with
  | contextSet value => exact Function.update_self ..
  | contextReset token => exact Function.update_self ..
  | commit st => cases r <;> exact hi
  | _ => exact hi

theorem context_after_ne {i n replica : Nat} (e : Answered) (hn : n ≠ i) :
    (w.after i replica e).context n = w.context n := by
  obtain ⟨q, r⟩ := e
  cases q with
  | contextSet value => exact Function.update_of_ne hn ..
  | contextReset token => exact Function.update_of_ne hn ..
  | commit st => cases r <;> rfl
  | _ => rfl

/-- Each task has a context of its own. -/
def OwnContexts (c : Config Query Reply Exn Unit HttpJob (World T)) : Prop :=
  ∀ i, c.world.context i = contextAfter ((c.tasks[i]?.map Task.history).getD [])

theorem ownContexts (hw : ∀ i, w.context i = none) (hc : (serving T apps).Reachable w c) : OwnContexts c := by
  refine hc.invariant (fun i => hw i) fun c c' _ ih hs n => ?_
  cases hs with
  | launch j =>
    rw [System.launch, List.getElem?_append]
    split
    · exact ih n
    · rename_i hn
      have hout : c.tasks[n]? = none := List.getElem?_eq_none (by omega)
      have hcontext := ih n
      rw [hout] at hcontext
      rcases Nat.lt_or_ge c.tasks.length n with hlt | hle
      · rw [List.getElem?_eq_none (by simp; omega)]
        exact hcontext
      · obtain rfl : n = c.tasks.length := by omega
        simpa using hcontext
  | answer i j q k h r waiting _ =>
    obtain ⟨hi, _⟩ := List.getElem?_eq_some_iff.mp waiting
    by_cases hn : n = i
    · subst n
      have hcontext := ih i
      rw [waiting] at hcontext
      rw [System.answer, List.getElem?_set_self hi]
      exact context_after ⟨q, r⟩ hcontext
    · rw [System.answer, List.getElem?_set_ne (Ne.symm hn), ← ih n]
      exact context_after_ne ⟨q, r⟩ hn

theorem requestContract_seen (method : String) (h : Past) : (requestContract method).seen h = h :=
  List.filter_eq_self.mpr fun _ _ => rfl

private theorem request_relied (hw : ∀ i, w.context i = none) (c : Config Query Reply Exn Unit HttpJob (World T))
    (i : Nat) (j : HttpJob) (q : Query) (k : Reply q → Prog Unit) (h : Past) (r : Reply q)
    (hc : (serving T apps).Reachable w c) (waiting : c.tasks[i]? = some ⟨j, .ask q k, h⟩)
    (enabled : (serving T apps).enabled c.world i j ⟨q, r⟩) (_ : (requestContract j.request.method).sees q = true)
    (_ : (requestContract j.request.method).guar ((requestContract j.request.method).seen h) q) :
    (requestContract j.request.method).rely ((requestContract j.request.method).seen h) ⟨q, r⟩ := by
  have hcontext := ownContexts hw hc i
  rw [waiting] at hcontext
  rw [requestContract_seen]
  cases q with
  | contextGet => exact (show r = _ from enabled.2).trans hcontext
  | contextSet value => exact (show r = _ from enabled.2).trans hcontext
  | execute st =>
    cases r with
    | error f => trivial
    | ok _ => exact UpsertStatement.Admitted.encodes (T := T) enabled.2
  | _ => trivial

/-- Every request that is over was answered in one of the ways the server has. -/
theorem finished_serve (hw : ∀ i, w.context i = none) (hc : (serving T apps).Reachable w c)
    {t : Task Query Reply Exn Unit HttpJob} (ht : t ∈ c.tasks) {x : Except Exn Unit} (hx : t.Finished x) :
    ServeRun (apps t.job.replica) t.job.request t.history := by
  have run := hc.finished (C := fun j => requestContract j.request.method)
    (fun j => serve_meets (apps j.replica) j.request) (request_relied hw) ht hx
  rwa [requestContract_seen] at run

/-- Whatever a request is about to count has bounded labels. -/
theorem waiting_bounded (hw : ∀ i, w.context i = none) (hc : (serving T apps).Reachable w c) {i : Nat} {j : HttpJob}
    {call : MetricCall} {k : Reply (.metric call) → Prog Unit} {h : Past}
    (hi : c.tasks[i]? = some ⟨j, .ask (.metric call) k, h⟩) : Bounded j.request.method call := by
  have hm := hc.meets (C := fun j => requestContract j.request.method)
    (fun j => serve_meets (apps j.replica) j.request) (request_relied hw) i _ hi
  exact hm.1 rfl call rfl

/-! A small deployment for concrete runs: the fake provider, one trusted host, URLs taken
from the request as they are. -/

def plainFramework : Framework where
  urlPath request := some request.path
  wwwUrl request := some ("http://www." ++ String.ofList (Application.host request) ++ request.path)
  slashUrl request := otherSlash request.path
  openapi := []
  page _ := ""
  isoformat _ := ""
  preflightFailures _ _ _ _ := []
  preflightHeaders _ _ := []
  simpleHeaders _ _ _ := []
  contentType_kept _ _ _ := List.not_mem_nil

def fakeApplication : Application := ⟨"0.1.0", ["localhost"], [], ⟨.fake, 60, quietLog⟩, plainFramework⟩

def googleRequest : Request :=
  ⟨"POST", "/api/v1/lookups", [("host", "localhost"), ("x-request-id", "a")], .json (.object [("ip", .str "8.8.8.8")])⟩

/-- Replies to the server with one value of the context variable and one answer of the cache. -/
def serverReplies (context : Option String) (loaded : Except Foreign (Option LoadedRow)) : (q : Query) → Option (Reply q)
  | .contextGet => some context
  | .contextSet _ => some none
  | .contextReset _ => some ()
  | .scalar _ => some loaded
  | .send _ => some ()
  | q => replies 0 none unitedStates q

/-- An exception that the database driver does not document. -/
def runtimeError (text : String) : Foreign := ⟨.other, ⟨"", "RuntimeError", text⟩, []⟩

end IpCountryApi.Http
