import IpCountryApi.Static.PageScripts

/-! The page under every order of events: what is in flight, what is visible, and what can
be used. -/
namespace IpCountryApi.Static
open Domain Engine

/-- The lookup page as its user sees it. -/
inductive View where
  | quiet
  | loading
  | result
  | error
  deriving DecidableEq, Repr

def View.panels : View → Panels
  | quiet => ⟨false, false, false⟩
  | loading => ⟨true, false, false⟩
  | result => ⟨false, true, false⟩
  | error => ⟨false, false, true⟩

/-- What one turn may do to the view, with the activation that ended in it. -/
inductive View.Turn : View → Option Ending → View → Prop
  | stay (view : View) : Turn view none view
  | refuse {view : View} (h : view ≠ .loading) : Turn view none .quiet
  | send {view : View} (h : view ≠ .loading) : Turn view none .loading
  | succeed : Turn .loading (some .result) .result
  | fail : Turn .loading (some .error) .error

/-- The one activation that waits while the view is loading. -/
structure Flight (s : Session) (l : Lookup) : Prop where
  only : s.lookups = [l]
  active : s.activeController = some l.controller
  aborted : l.controller ∈ s.aborted → l.timedOut = true

/-- What a session keeps between the turns. -/
structure Coherent (s : Session) (view : View) : Prop where
  panels : s.page.panels = view.panels
  controls : s.page.controls = ⟨view = .loading, view = .loading, view = .loading⟩
  flight : view = .loading → ∃ l, Flight s l
  idle : view ≠ .loading → s.lookups = [] ∧ s.activeController = none
  numbered : ∀ controller, controller ∈ s.aborted ∨ controller ∈ s.timers → controller < s.controllers

variable {engine : Engine} {s after : Session} {view : View} {ending : Option Ending}

section Pages
variable {page : Page}

@[simp] theorem panels_setLoading (loading : Bool) : (page.setLoading loading).panels = page.panels := rfl

@[simp] theorem controls_setLoading (loading : Bool) : (page.setLoading loading).controls = ⟨loading, loading, loading⟩ := rfl

@[simp] theorem panels_showLoading : page.showLoading.panels = View.loading.panels := rfl

@[simp] theorem controls_showLoading : page.showLoading.controls = page.controls := rfl

@[simp] theorem panels_showValidationMessage (message : String) :
    (page.showValidationMessage message).panels = View.quiet.panels := rfl

@[simp] theorem controls_showValidationMessage (message : String) :
    (page.showValidationMessage message).controls = page.controls := rfl

end Pages

/-- Input that leaves panels and controls alone. -/
theorem Coherent.edit (h : Coherent s view) {page : Page} (hpanels : page.panels = s.page.panels)
    (hcontrols : page.controls = s.page.controls) : Coherent { s with page := page } view where
  panels := hpanels.trans h.panels
  controls := hcontrols.trans h.controls
  flight hv := by
    obtain ⟨l, hl⟩ := h.flight hv
    exact ⟨l, hl.only, hl.active, hl.aborted⟩
  idle := h.idle
  numbered := h.numbered

theorem coherent_start : Coherent .start .quiet where
  panels := rfl
  controls := rfl
  flight := nofun
  idle _ := ⟨rfl, rfl⟩
  numbered _ h := by rcases h with h | h <;> cases h

/-- Nothing is aborted if nothing is in flight. -/
theorem send_idle (hactive : s.activeController = none) (ip : List Char) : s.send ip = { s with
    page := (s.page.setLoading true).showLoading
    activeController := some s.controllers
    controllers := s.controllers + 1
    timers := s.controllers :: s.timers
    lookups := s.lookups ++ [⟨s.controllers, ip, false, .response⟩] } := by
  simp only [Session.send, hactive]

theorem Coherent.send (h : Coherent s view) (hv : view ≠ .loading) (ip : List Char) : Coherent (s.send ip) .loading := by
  obtain ⟨hnone, hactive⟩ := h.idle hv
  rw [send_idle hactive]
  refine ⟨rfl, rfl, fun _ => ⟨⟨s.controllers, ip, false, .response⟩, ?_, rfl, ?_⟩, fun hn => absurd rfl hn, ?_⟩
  · simp only [hnone, List.nil_append]
  · -- a controller that did not exist yet cannot have been aborted
    intro hin
    exact absurd (h.numbered s.controllers (.inl hin)) (lt_irrefl _)
  · intro controller hin
    rcases hin with hin | hin
    · exact Nat.lt_succ_of_lt (h.numbered controller (.inl hin))
    · rcases List.mem_cons.mp hin with rfl | hin
      · exact Nat.lt_succ_self _
      · exact Nat.lt_succ_of_lt (h.numbered controller (.inr hin))

/-- The submit listener refuses, sends, or does nothing while a request is in flight. -/
theorem Coherent.submit (h : Coherent s view) : ∃ view', view.Turn none view' ∧ Coherent s.submit view' := by
  have hbutton : s.page.buttonDisabled = decide (view = .loading) := congrArg Controls.button h.controls
  rw [Session.submit]
  by_cases hv : view = .loading
  · rw [if_pos (by rw [hbutton, decide_eq_true hv])]
    exact ⟨view, .stay view, h⟩
  · have trimmed : Coherent { s with page.inputValue := trim s.page.inputValue } view := h.edit rfl rfl
    have hcontrols : s.page.controls = ⟨false, false, false⟩ := by rw [h.controls, decide_eq_false hv]
    rw [if_neg (by simp [hbutton, hv])]
    dsimp only
    split
    · exact ⟨.quiet, .refuse hv, rfl, hcontrols, nofun, fun _ => h.idle hv, h.numbered⟩
    · exact ⟨.loading, .send hv, trimmed.send hv _⟩

/-- Whatever settles belongs to the one activation that waits. -/
theorem Coherent.flight_of_lookup (h : Coherent s view) {controller : Nat} {l : Lookup}
    (hl : s.lookup? controller = some l) : view = .loading ∧ l.controller = controller ∧ Flight s l := by
  have hmem : l ∈ s.lookups := List.mem_of_find?_eq_some hl
  have hkey : l.controller = controller := by simpa using List.find?_some hl
  by_cases hv : view = .loading
  · obtain ⟨l', hflight⟩ := h.flight hv
    rw [hflight.only, List.mem_singleton] at hmem
    exact ⟨hv, hkey, hmem ▸ hflight⟩
  · rw [(h.idle hv).1] at hmem
    cases hmem

/-- The rest of the activation ends the flight, with one panel and the form enabled. -/
theorem Coherent.resume (h : Coherent s .loading) {l : Lookup} (hflight : Flight s l) {script : Script Ending}
    (hscript : ∃ ending after, script s.page = .ok ending after ∧ after.controls = s.page.controls ∧
      Concluded ending after.panels) :
    ∃ view', View.Turn .loading (some (s.resume l.controller script).2) view' ∧
      Coherent (s.resume l.controller script).1 view' := by
  obtain ⟨ending, page, hrun, _, hconcluded⟩ := hscript
  have hover : (s.lookups.filter fun l' => decide (l'.controller ≠ l.controller)) = [] := by
    rw [hflight.only]
    simp
  have hfinish : s.finish l.controller page = { s with
      page := page.setLoading false
      activeController := none
      timers := s.timers.filter (· ≠ l.controller)
      lookups := [] } := by
    rw [Session.finish, if_pos hflight.active]
    simp only [hover]
  have coherent : ∀ view', view' ≠ .loading → page.panels = view'.panels → Coherent (s.finish l.controller page) view' := by
    intro view' hv hpanels
    rw [hfinish]
    refine ⟨hpanels, by simp [hv], fun he => absurd he hv, fun _ => ⟨rfl, rfl⟩, ?_⟩
    intro controller hin
    exact h.numbered controller (hin.imp_right List.mem_of_mem_filter)
  rw [Session.resume, hrun]
  rcases hconcluded with ⟨rfl, hpanels⟩ | ⟨rfl, hpanels⟩
  · exact ⟨.result, .succeed, coherent .result nofun hpanels⟩
  · exact ⟨.error, .fail, coherent .error nofun hpanels⟩

/-- A change of the activation while it waits. -/
theorem Coherent.update (h : Coherent s .loading) {l : Lookup} (hflight : Flight s l) {f : Lookup → Lookup}
    (hcontroller : (f l).controller = l.controller) (htimed : (f l).timedOut = l.timedOut) :
    Coherent (s.update l.controller f) .loading where
  panels := h.panels
  controls := h.controls
  flight _ := by
    refine ⟨f l, ?_, ?_, ?_⟩
    · rw [Session.update, hflight.only, List.map_singleton, if_pos rfl]
    · rw [hcontroller]
      exact hflight.active
    · rw [hcontroller, htimed]
      exact hflight.aborted
  idle hn := absurd rfl hn
  numbered := h.numbered

/-- The response ends the activation unless its body is to be read. -/
theorem Coherent.headers (h : Coherent s .loading) (engine : Engine) {l : Lookup} (hflight : Flight s l) (response : Response) :
    ∃ view', View.Turn .loading (s.headers engine l response).2 view' ∧ Coherent (s.headers engine l response).1 view' := by
  rw [Session.headers]
  split
  · exact ⟨.loading, .stay .loading, h.update hflight rfl rfl⟩
  · exact h.resume hflight (concludes fun _ => settled_spec _ _ _)

theorem Coherent.timeout (h : Coherent s view) {controller : Nat} (hin : controller ∈ s.timers) :
    Coherent (({ s with timers := s.timers.filter (· ≠ controller) }.update controller fun l =>
      { l with timedOut := true }).abort controller) view where
  panels := h.panels
  controls := h.controls
  flight hv := by
    obtain ⟨l, hflight⟩ := h.flight hv
    by_cases hl : l.controller = controller
    · refine ⟨{ l with timedOut := true }, ?_, hflight.active, fun _ => rfl⟩
      simp only [Session.abort, Session.update, hflight.only, List.map_singleton, if_pos hl]
    · refine ⟨l, ?_, hflight.active, fun hin => ?_⟩
      · simp only [Session.abort, Session.update, hflight.only, List.map_singleton, if_neg hl]
      · exact hflight.aborted ((List.mem_cons.mp hin).resolve_left hl)
  idle hv := by
    obtain ⟨hnone, hactive⟩ := h.idle hv
    refine ⟨?_, hactive⟩
    simp only [Session.abort, Session.update, hnone, List.map_nil]
  numbered c hc := by
    rcases hc with hc | hc
    · rcases List.mem_cons.mp hc with rfl | hc
      · exact h.numbered c (.inr hin)
      · exact h.numbered c (.inl hc)
    · exact h.numbered c (.inr (List.mem_of_mem_filter hc))

/-- Every turn is one of the view: the page refines it. -/
theorem Coherent.step (h : Coherent s view) {event : Event} (hs : s.step engine event = some (after, ending)) :
    ∃ view', view.Turn ending view' ∧ Coherent after view' := by
  cases event with
  | type value =>
    simp only [Session.step] at hs
    split at hs
    · cases hs
    · cases hs
      exact ⟨view, .stay view, h.edit rfl rfl⟩
  | submit =>
    cases hs
    exact h.submit
  | retryClick =>
    cases hs
    exact h.submit
  | exampleClick ip =>
    simp only [Session.step] at hs
    split at hs
    · cases hs
    · cases hs
      exact ⟨view, .stay view, h.edit rfl rfl⟩
  | headers controller response =>
    simp only [Session.step] at hs
    split at hs
    · rename_i ip timedOut hl
      obtain ⟨rfl, rfl, hflight⟩ := h.flight_of_lookup hl
      have hheaders := h.headers engine hflight response
      rw [Option.some.inj hs] at hheaders
      exact hheaders
    · cases hs
  | body controller payload =>
    simp only [Session.step] at hs
    split at hs
    · rename_i hl
      obtain ⟨rfl, rfl, hflight⟩ := h.flight_of_lookup hl
      cases hs
      exact h.resume hflight (concludes fun _ => settled_spec _ _ _)
    · cases hs
  | failure controller error =>
    simp only [Session.step] at hs
    split at hs
    · rename_i hl
      obtain ⟨rfl, rfl, hflight⟩ := h.flight_of_lookup hl
      split at hs
      · cases hs
      · rename_i habort
        cases hs
        refine h.resume hflight (concludes fun _ => caught_spec _ _ fun he => ?_)
        exact hflight.aborted (not_not.mp fun hout => habort ⟨he, hout⟩)
    · cases hs
  | timeout controller =>
    simp only [Session.step] at hs
    split at hs
    · rename_i hin
      cases hs
      exact ⟨view, .stay view, h.timeout hin⟩
    · cases hs

/-- The runs of the page: some view always fits. -/
theorem coherent_of_reachable (h : s.Reachable engine) : ∃ view, Coherent s view := by
  induction h with
  | refl => exact ⟨.quiet, coherent_start⟩
  | tail _ hfollows ih =>
    obtain ⟨view, hcoherent⟩ := ih
    obtain ⟨event, ending, hs⟩ := hfollows
    obtain ⟨view', _, hcoherent'⟩ := hcoherent.step hs
    exact ⟨view', hcoherent'⟩

def Session.inFlight (self : Session) : Bool := !self.lookups.isEmpty

/-- What holds between two turns. -/
structure Consistent (s : Session) : Prop where
  single : s.lookups.length ≤ 1
  active : s.activeController.isSome = s.inFlight
  controls : s.page.controls = ⟨s.inFlight, s.inFlight, s.inFlight⟩
  loading : s.page.panels.loading = s.inFlight
  exclusive : ¬ (s.page.panels.result = true ∧ s.page.panels.error = true)

/-- What holds right after the request in flight has settled. -/
structure Settled (s : Session) (ending : Ending) : Prop where
  landed : s.inFlight = false
  usable : s.page.controls = ⟨false, false, false⟩
  shown : s.page.panels = ⟨false, true, false⟩ ∨ s.page.panels = ⟨false, false, true⟩
  kept : ending ≠ .superseded ∧ ending ≠ .unhandled

theorem Coherent.inFlight (h : Coherent s view) : s.inFlight = decide (view = .loading) := by
  by_cases hv : view = .loading
  · obtain ⟨l, hflight⟩ := h.flight hv
    rw [Session.inFlight, hflight.only, decide_eq_true hv]
    rfl
  · rw [Session.inFlight, (h.idle hv).1, decide_eq_false hv]
    rfl

theorem Coherent.consistent (h : Coherent s view) : Consistent s where
  single := by
    by_cases hv : view = .loading
    · obtain ⟨l, hflight⟩ := h.flight hv
      rw [hflight.only]
      exact le_rfl
    · rw [(h.idle hv).1]
      exact Nat.zero_le 1
  active := by
    rw [h.inFlight]
    by_cases hv : view = .loading
    · obtain ⟨l, hflight⟩ := h.flight hv
      rw [hflight.active, decide_eq_true hv]
      rfl
    · rw [(h.idle hv).2, decide_eq_false hv]
      rfl
  controls := by rw [h.inFlight, h.controls]
  loading := by
    rw [h.inFlight, h.panels]
    cases view <;> rfl
  exclusive := by
    rw [h.panels]
    cases view <;> decide

/-- The page in any order of events: what it shows and allows tells whether its one request
is in flight, and the turn in which that settles leaves one panel and a usable form. -/
theorem page_consistent (h : s.Reachable engine) : Consistent s ∧
    ∀ event after ending, s.step engine event = some (after, ending) →
      (ending.isSome = true ↔ s.inFlight = true ∧ after.inFlight = false) ∧
      ∀ e, ending = some e → Settled after e := by
  obtain ⟨view, hcoherent⟩ := coherent_of_reachable h
  refine ⟨hcoherent.consistent, fun event after ending hs => ?_⟩
  obtain ⟨view', hturn, hafter⟩ := hcoherent.step hs
  rw [hcoherent.inFlight, hafter.inFlight]
  constructor
  · cases hturn <;> simp_all
  · rintro e rfl
    cases hturn with
    | succeed => exact ⟨hafter.inFlight, hafter.controls, .inl hafter.panels, nofun, nofun⟩
    | fail => exact ⟨hafter.inFlight, hafter.controls, .inr hafter.panels, nofun, nofun⟩

/-! A run computed from its events. -/

def Session.play (engine : Engine) (s : Session) : List Event → Option Session
  | [] => some s
  | event :: events => (s.step engine event).bind fun turn => turn.1.play engine events

theorem reachable_of_play {events : List Event} (hs : s.Reachable engine) (h : s.play engine events = some after) :
    after.Reachable engine := by
  induction events generalizing s with
  | nil =>
    cases h
    exact hs
  | cons event events ih =>
    obtain ⟨turn, hturn, hrest⟩ := Option.bind_eq_some_iff.mp h
    exact ih (hs.tail ⟨event, turn.2, hturn⟩) hrest

/-- An engine that knows strings and no dates. -/
def plainEngine : Engine where
  isZero literal := literal = "0"
  toText
    | .str text => some text
    | _ => none
  timeValue _ := some none
  formatTime _ := ""

def cachedPayload : Json := .object [("country_name", .str "United States"), ("source", .str "database")]

/-- A lookup that times out, and its repetition up to the payload. -/
def retried : List Event :=
  [.type "8.8.8.8 ".toList, .submit, .timeout 0, .failure 0 .abortError, .retryClick,
    .headers 1 ⟨true, some "application/json"⟩]

theorem page_consistent_example : ∃ s, s.Reachable plainEngine ∧ Consistent s ∧ s.inFlight = true ∧
    ∃ after, s.step plainEngine (.body 1 (some cachedPayload)) = some (after, some .result) ∧ Settled after .result := by
  have hplay : ((Session.start.play plainEngine retried).any fun s => s.inFlight &&
      ((s.step plainEngine (.body 1 (some cachedPayload))).any fun turn => turn.2 = some .result)) = true := by
    decide +kernel
  obtain ⟨s, hs, hend⟩ := (Option.any_eq_true _ _).mp hplay
  obtain ⟨hflight, hlast⟩ := (Bool.and_eq_true _ _).mp hend
  obtain ⟨⟨after, ending⟩, hstep, hresult⟩ := (Option.any_eq_true _ _).mp hlast
  obtain rfl := of_decide_eq_true hresult
  have hreachable := reachable_of_play .refl hs
  obtain ⟨hconsistent, hsteps⟩ := page_consistent hreachable
  exact ⟨s, hreachable, hconsistent, hflight, after, hstep, (hsteps _ _ _ hstep).2 _ rfl⟩

end IpCountryApi.Static
