import IpCountryApi.Static.PageRuns

/-! What the page shows once the timer of a lookup has fired before the lookup settled. -/
namespace IpCountryApi.Static
open Domain Engine

/-- What fetch does once its signal is aborted: the request that is pending, or the reading of
its body, rejects. A body that rejects is no payload. -/
def Session.AbortRejects (self : Session) : Event → Prop
  | .headers controller _ => controller ∉ self.aborted
  | .body controller payload => controller ∈ self.aborted → payload = none
  | .failure controller error => controller ∈ self.aborted → error = .abortError
  | _ => True

/-- One event that could occur, with a fetch that rejects on abort. -/
def Session.Proceeds (engine : Engine) (before after : Session) : Prop :=
  ∃ event ending, before.AbortRejects event ∧ before.step engine event = some (after, ending)

/-- Whenever the lookup of a controller settles, the page is as it should be. -/
def Session.SettlesTo (self : Session) (engine : Engine) (controller : Nat) (shown : Page → Prop) : Prop :=
  ∀ last event after ending, Relation.ReflTransGen (Proceeds engine) self last → (last.lookup? controller).isSome = true →
    last.AbortRejects event → last.step engine event = some (after, some ending) → shown after.page

/-- The error panel with a message. -/
structure Shows (error : ErrorMessage) (page : Page) : Prop where
  panels : page.panels = ⟨false, false, true⟩
  state : page.state = error.kind.getD "undefined"
  title : page.errorTitle = error.title.getD ""
  message : page.errorMessage = error.message.getD ""

variable {engine : Engine} {s fired last after : Session} {controller : Nat} {l : Lookup} {ending : Option Ending}

theorem Shows.setLoading {error : ErrorMessage} {page : Page} (h : Shows error page) (loading : Bool) :
    Shows error (page.setLoading loading) := ⟨h.panels, h.state, h.title, h.message⟩

theorem showError_shows {code requestId : Option Json} {override : Option ErrorMessage} {error : ErrorMessage} {page : Page}
    (h : engine.errorMessage code override page = .ok error page) :
    ∃ after, engine.showError code requestId override page = .ok () after ∧ Shows error after := by
  simp only [Engine.showError, bind, EStateM.bind, h, modify, modifyGet, MonadStateOf.modifyGet, EStateM.modifyGet]
  split
  · exact ⟨_, rfl, rfl, rfl, rfl, rfl⟩
  · exact ⟨_, rfl, rfl, rfl, rfl, rfl⟩

/-- The catch clause after the timer. -/
theorem caught_timedOut (engine : Engine) (error : Thrown) (page : Page) :
    ∃ after, engine.caught true error page = .ok .error after ∧ Shows timedOutMessage after := by
  obtain ⟨after, hrun, hshows⟩ : ∃ after, engine.showError none none (some timedOutMessage) page = .ok () after ∧
      Shows timedOutMessage after := showError_shows rfl
  refine ⟨after, ?_, hshows⟩
  rw [Engine.caught, if_neg (by simp)]
  simp only [bind, EStateM.bind, if_pos, hrun]
  rfl

/-- A body without payload never gets there: its error has no code. -/
theorem answered_none (engine : Engine) (ok timedOut : Bool) (page : Page) :
    ∃ after, tryCatch (engine.answered ok none) (engine.caught timedOut) page = .ok .error after ∧
      Shows internalError after := by
  obtain ⟨after, hrun, hshows⟩ : ∃ after, engine.showError none none none page = .ok () after ∧ Shows internalError after :=
    showError_shows rfl
  refine ⟨after, ?_, hshows⟩
  simp only [tryCatch, tryCatchThe, MonadExceptOf.tryCatch, EStateM.tryCatch, Engine.answered, Engine.answered.failed, bind,
    EStateM.bind, Option.bind_none, hrun]
  rfl

/-! What no turn changes. -/

/-- A lookup that was aborted by its timer while it waited for the response, until it settles. -/
structure Expired (s : Session) (controller : Nat) : Prop where
  aborted : controller ∈ s.aborted
  numbered : controller < s.controllers
  waits : ∀ l ∈ s.lookups, l.controller = controller → l.timedOut = true ∧ l.awaits = .response

/-- The end of an activation removes lookups only. -/
theorem Expired.resume (h : Expired s controller) (settled : Nat) (script : Script Ending) :
    Expired (s.resume settled script).1 controller := by
  have finished : ∀ page, Expired (s.finish settled page) controller := by
    intro page
    rw [Session.finish]
    split
    · exact ⟨h.aborted, h.numbered, fun l hl => h.waits l (List.mem_of_mem_filter hl)⟩
    · exact ⟨h.aborted, h.numbered, fun l hl => h.waits l (List.mem_of_mem_filter hl)⟩
  rw [Session.resume]
  split
  · exact finished _
  · exact finished _

theorem Expired.update (h : Expired s controller) (other : Nat) {f : Lookup → Lookup}
    (hf : ∀ l, (f l).controller = l.controller)
    (hkept : other = controller → ∀ l, l.timedOut = true → (f l).timedOut = true ∧ (f l).awaits = l.awaits) :
    Expired (s.update other f) controller where
  aborted := h.aborted
  numbered := h.numbered
  waits l hl hc := by
    obtain ⟨l', hl', rfl⟩ := List.mem_map.mp hl
    split at hc
    · rename_i hother
      rw [hf] at hc
      obtain ⟨htimed, hwaits⟩ := h.waits l' hl' hc
      obtain ⟨htimed', hwaits'⟩ := hkept (hother.symm.trans hc) l' htimed
      rw [if_pos hother]
      exact ⟨htimed', hwaits'.trans hwaits⟩
    · rename_i hother
      rw [if_neg hother]
      exact h.waits l' hl' hc

theorem Expired.send (h : Expired s controller) (ip : List Char) : Expired (s.send ip) controller := by
  have sent : ∀ aborted, controller ∈ aborted → Expired { s with
      aborted := aborted
      page := (s.page.setLoading true).showLoading
      activeController := some s.controllers
      controllers := s.controllers + 1
      timers := s.controllers :: s.timers
      lookups := s.lookups ++ [⟨s.controllers, ip, false, .response⟩] } controller := by
    intro aborted hin
    refine ⟨hin, Nat.lt_succ_of_lt h.numbered, fun l hl hc => ?_⟩
    rcases List.mem_append.mp hl with hl | hl
    · exact h.waits l hl hc
    · -- the new controller has a number of its own
      rw [List.mem_singleton.mp hl] at hc
      exact absurd h.numbered (hc ▸ lt_irrefl _)
  rw [Session.send]
  cases s.activeController with
  | none => exact sent s.aborted h.aborted
  | some active => exact sent (active :: s.aborted) (.tail _ h.aborted)

theorem Expired.submit (h : Expired s controller) : Expired s.submit controller := by
  rw [Session.submit]
  split
  · exact h
  · have trimmed : Expired { s with page.inputValue := trim s.page.inputValue } controller := ⟨h.aborted, h.numbered, h.waits⟩
    dsimp only
    split
    · exact ⟨h.aborted, h.numbered, h.waits⟩
    · exact trimmed.send _

theorem Expired.headers (h : Expired s controller) (engine : Engine) (hother : l.controller ≠ controller)
    (response : Response) : Expired (s.headers engine l response).1 controller := by
  rw [Session.headers]
  split
  · exact h.update l.controller (fun _ => rfl) fun ho => absurd ho hother
  · exact h.resume l.controller _

theorem Expired.step (h : Expired s controller) {event : Event} (hrejects : s.AbortRejects event)
    (hs : s.step engine event = some (after, ending)) : Expired after controller := by
  cases event with
  | type value =>
    simp only [Session.step] at hs
    split at hs
    · cases hs
    · cases hs
      exact ⟨h.aborted, h.numbered, h.waits⟩
  | submit =>
    cases hs
    exact h.submit
  | retryClick =>
    cases hs
    exact h.submit
  | exampleClick ip =>
    simp only [Session.step] at hs
    split at hs
    · cases hs
    · cases hs
      exact ⟨h.aborted, h.numbered, h.waits⟩
  | headers other response =>
    simp only [Session.step] at hs
    split at hs
    · rename_i ip timedOut _
      -- the response of another lookup, for this one was aborted
      have hheaders := h.headers engine (l := ⟨other, ip, timedOut, .response⟩)
        (fun ho : other = controller => hrejects (ho ▸ h.aborted)) response
      rw [Option.some.inj hs] at hheaders
      exact hheaders
    · cases hs
  | body other payload =>
    simp only [Session.step] at hs
    split at hs
    · cases hs
      exact h.resume other _
    · cases hs
  | failure other error =>
    simp only [Session.step] at hs
    split at hs
    · split at hs
      · cases hs
      · cases hs
        exact h.resume other _
    · cases hs
  | timeout other =>
    simp only [Session.step] at hs
    split at hs
    · cases hs
      have updated := h.update other (f := fun l => { l with timedOut := true }) (fun _ => rfl) fun _ l _ => ⟨rfl, rfl⟩
      exact ⟨.tail _ updated.aborted, updated.numbered, updated.waits⟩
    · cases hs

/-- No other event can settle it than the rejection of its request. -/
theorem Expired.settles (h : Expired s controller) {view : View} (hcoherent : Coherent s view) {event : Event} {e : Ending}
    (hpending : (s.lookup? controller).isSome = true) (hrejects : s.AbortRejects event)
    (hs : s.step engine event = some (after, some e)) : Shows timedOutMessage after.page := by
  obtain ⟨l, hl⟩ := Option.isSome_iff_exists.mp hpending
  obtain ⟨rfl, rfl, hflight⟩ := hcoherent.flight_of_lookup hl
  obtain ⟨htimed, hwaits⟩ := h.waits l (List.mem_of_find?_eq_some hl) rfl
  -- there is no other lookup
  have same : ∀ {other l'}, s.lookup? other = some l' → l' = l ∧ l.controller = other := by
    intro other l' hl'
    obtain ⟨_, hother, hflight'⟩ := hcoherent.flight_of_lookup hl'
    have hsame : l' = l := List.singleton_inj.mp (hflight'.only.symm.trans hflight.only)
    exact ⟨hsame, hsame ▸ hother⟩
  cases event with
  | type value =>
    simp only [Session.step] at hs
    split at hs <;> cases hs
  | submit => cases hs
  | retryClick => cases hs
  | exampleClick ip =>
    simp only [Session.step] at hs
    split at hs <;> cases hs
  | headers other response =>
    simp only [Session.step] at hs
    split at hs
    · rename_i hl'
      exact absurd h.aborted ((same hl').2 ▸ hrejects)
    · cases hs
  | body other payload =>
    simp only [Session.step] at hs
    split at hs
    · rename_i hl'
      rw [← (same hl').1] at hwaits
      cases hwaits
    · cases hs
  | failure other error =>
    simp only [Session.step] at hs
    split at hs
    · rename_i timedOut hl'
      obtain ⟨hsame, rfl⟩ := same hl'
      rw [← hsame] at htimed
      obtain rfl : timedOut = true := htimed
      split at hs
      · cases hs
      · obtain ⟨page, hrun, hshows⟩ := caught_timedOut engine error s.page
        have hfinish : (s.finish l.controller page).page = page.setLoading false := by
          rw [Session.finish, if_pos hflight.active]
        rw [Session.resume, hrun] at hs
        obtain ⟨rfl, _⟩ := Prod.mk.inj (Option.some.inj hs)
        rw [hfinish]
        exact hshows.setLoading false
    · cases hs
  | timeout other =>
    simp only [Session.step] at hs
    split at hs <;> cases hs

/-- The timer marks its lookup and aborts it. -/
theorem fired_timeout {view : View} (hcoherent : Coherent s view) (hl : s.lookup? controller = some l)
    (hfire : s.step engine (.timeout controller) = some (fired, none)) :
    fired.lookups = [{ l with timedOut := true }] ∧ controller ∈ fired.aborted := by
  obtain ⟨_, rfl, hflight⟩ := hcoherent.flight_of_lookup hl
  simp only [Session.step] at hfire
  split at hfire
  · obtain ⟨rfl, _⟩ := Prod.mk.inj (Option.some.inj hfire)
    refine ⟨?_, .head _⟩
    simp only [Session.abort, Session.update, hflight.only, List.map_singleton, if_true]
  · cases hfire

theorem reachable_of_proceeds (h : s.Reachable engine) (hrun : Relation.ReflTransGen (Session.Proceeds engine) s last) :
    last.Reachable engine := by
  induction hrun with
  | refl => exact h
  | tail _ hproceeds ih =>
    obtain ⟨event, ending, _, hs⟩ := hproceeds
    exact ih.tail ⟨event, ending, hs⟩

/-- The runs after the timer. -/
theorem Expired.run (h : Expired s controller) (hrun : Relation.ReflTransGen (Session.Proceeds engine) s last) :
    Expired last controller := by
  induction hrun with
  | refl => exact h
  | tail _ hproceeds ih =>
    obtain ⟨event, ending, hrejects, hs⟩ := hproceeds
    exact ih.step hrejects hs

/-- A body that is being read when the timer fires ends as no payload, and that as an internal error. -/
theorem body_interrupted (engine : Engine) {view : View} (hcoherent : Coherent fired view) {ok : Bool}
    (hl : fired.lookup? controller = some l) (hawaits : l.awaits = .body ok) :
    ∃ after, fired.step engine (.body controller none) = some (after, some .error) ∧ Shows internalError after.page := by
  obtain ⟨_, rfl, hflight⟩ := hcoherent.flight_of_lookup hl
  obtain ⟨page, hrun, hshows⟩ := answered_none engine ok l.timedOut fired.page
  have hfinish : (fired.finish l.controller page).page = page.setLoading false := by
    rw [Session.finish, if_pos hflight.active]
  refine ⟨fired.finish l.controller page, ?_, ?_⟩
  · obtain ⟨controller, ip, timedOut, awaits⟩ := l
    obtain rfl : awaits = .body ok := hawaits
    simp only [Session.step, hl, Session.resume, hrun]
  · rw [hfinish]
    exact hshows.setLoading false

theorem internalError_differs {page : Page} (h : Shows internalError page) : ¬ Shows timedOutMessage page := by
  intro htimed
  have htitle : internalError.title.getD "" = timedOutMessage.title.getD "" := h.title.symm.trans htimed.title
  revert htitle
  decide

theorem body_not_timedOut (h : fired.Reachable engine) {ok : Bool} (hl : fired.lookup? controller = some l)
    (hawaits : l.awaits = .body ok) : ¬ fired.SettlesTo engine controller (Shows timedOutMessage) := by
  obtain ⟨view, hcoherent⟩ := coherent_of_reachable h
  obtain ⟨after, hstep, hshows⟩ := body_interrupted engine hcoherent hl hawaits
  intro hsettles
  have hrejects : fired.AbortRejects (.body controller none) := fun _ => rfl
  exact internalError_differs hshows (hsettles fired _ after _ .refl (hl ▸ rfl) hrejects hstep)

/-- What an aborted lookup awaits can reject at once, which settles it. -/
theorem rejection_settles (engine : Engine) (hl : fired.lookup? controller = some l) (haborted : controller ∈ fired.aborted) :
    ∃ event after ending, fired.AbortRejects event ∧ fired.step engine event = some (after, some ending) := by
  obtain ⟨number, ip, timedOut, awaits⟩ := l
  cases awaits with
  | response =>
    let settled := fired.resume controller (engine.caught timedOut .abortError)
    have hstep : fired.step engine (.failure controller .abortError) = some (settled.1, some settled.2) := by
      simp only [Session.step, hl]
      exact if_neg fun h => h.2 haborted
    have hrejects : fired.AbortRejects (.failure controller .abortError) := fun _ => rfl
    exact ⟨_, _, _, hrejects, hstep⟩
  | body ok =>
    let settled := fired.resume controller (tryCatch (engine.answered ok none) (engine.caught timedOut))
    have hstep : fired.step engine (.body controller none) = some (settled.1, some settled.2) := by
      simp only [Session.step, hl, settled]
    have hrejects : fired.AbortRejects (.body controller none) := fun _ => rfl
    exact ⟨_, _, _, hrejects, hstep⟩

/-- A lookup whose timer fires is shown as timed out, in every order of events from there,
if it still waits for the response, and not if its body is being read. It can settle at once. -/
theorem timeout_shown_iff (h : s.Reachable engine) (hl : s.lookup? controller = some l)
    (hfire : s.step engine (.timeout controller) = some (fired, none)) :
    (fired.SettlesTo engine controller (Shows timedOutMessage) ↔ l.awaits = .response) ∧
      ∃ event after ending, fired.AbortRejects event ∧ fired.step engine event = some (after, some ending) := by
  obtain ⟨view, hcoherent⟩ := coherent_of_reachable h
  obtain ⟨hlookups, haborted⟩ := fired_timeout hcoherent hl hfire
  have hreachable : fired.Reachable engine := h.tail ⟨_, _, hfire⟩
  have hkey : l.controller = controller := (hcoherent.flight_of_lookup hl).2.1
  have hl' : fired.lookup? controller = some { l with timedOut := true } := by
    rw [Session.lookup?, hlookups]
    simp [hkey]
  refine ⟨?_, rejection_settles engine hl' haborted⟩
  constructor
  · intro hsettles
    cases hawaits : l.awaits with
    | response => rfl
    | body ok => exact absurd hsettles (body_not_timedOut hreachable hl' hawaits)
  · intro hawaits last event after ending hrun hpending hrejects hs
    have expired : Expired fired controller := by
      obtain ⟨_, hfired⟩ := coherent_of_reachable hreachable
      refine ⟨haborted, hfired.numbered controller (.inl haborted), fun l' hl' _ => ?_⟩
      rw [hlookups, List.mem_singleton] at hl'
      rw [hl']
      exact ⟨rfl, hawaits⟩
    obtain ⟨_, hlast⟩ := coherent_of_reachable (reachable_of_proceeds hreachable hrun)
    exact (expired.run hrun).settles hlast hpending hrejects hs

/-- A request that waits for its response, and one whose body is being read. -/
def waiting : List Event := [.type "8.8.8.8".toList, .submit]

def reading : List Event := waiting ++ [.headers 0 ⟨true, some "application/json"⟩]

theorem timer_of_play (events : List Event) (awaits : Awaited)
    (hplay : ((Session.start.play plainEngine events).any fun s =>
      s.lookup? 0 = some ⟨0, "8.8.8.8".toList, false, awaits⟩ &&
        ((s.step plainEngine (.timeout 0)).any fun turn => turn.2 = none)) = true) :
    ∃ s fired : Session, s.Reachable plainEngine ∧ s.lookup? 0 = some ⟨0, "8.8.8.8".toList, false, awaits⟩ ∧
      s.step plainEngine (.timeout 0) = some (fired, none) := by
  obtain ⟨s, hs, hend⟩ := (Option.any_eq_true _ _).mp hplay
  obtain ⟨hl, hlast⟩ := (Bool.and_eq_true _ _).mp hend
  obtain ⟨⟨fired, ending⟩, hstep, hnone⟩ := (Option.any_eq_true _ _).mp hlast
  obtain rfl := of_decide_eq_true hnone
  exact ⟨s, fired, reachable_of_play .refl hs, of_decide_eq_true hl, hstep⟩

theorem timeout_shown_waiting : ∃ s fired : Session, s.Reachable plainEngine ∧
    s.step plainEngine (.timeout 0) = some (fired, none) ∧ fired.SettlesTo plainEngine 0 (Shows timedOutMessage) := by
  obtain ⟨s, fired, h, hl, hfire⟩ := timer_of_play waiting .response (by decide +kernel)
  exact ⟨s, fired, h, hfire, (timeout_shown_iff h hl hfire).1.mpr rfl⟩

/-- The response claims to be JSON, and the timer fires while its body is being read. -/
theorem timeout_not_shown : ∃ s fired : Session, s.Reachable plainEngine ∧ (s.lookup? 0).isSome = true ∧
    s.step plainEngine (.timeout 0) = some (fired, none) ∧ ¬ fired.SettlesTo plainEngine 0 (Shows timedOutMessage) := by
  obtain ⟨s, fired, h, hl, hfire⟩ := timer_of_play reading (.body true) (by decide +kernel)
  obtain ⟨view, hcoherent⟩ := coherent_of_reachable h
  obtain ⟨hlookups, _⟩ := fired_timeout hcoherent hl hfire
  have hl' : fired.lookup? 0 = some ⟨0, "8.8.8.8".toList, true, .body true⟩ := by
    rw [Session.lookup?, hlookups]
    rfl
  exact ⟨s, fired, h, hl ▸ rfl, hfire, body_not_timedOut (h.tail ⟨_, _, hfire⟩) hl' rfl⟩

end IpCountryApi.Static
