import IpCountryApi.Static.PageAnswers

/-! The page in a browser together with the replicas it asks, among any other clients. -/
namespace IpCountryApi.Static
open Domain Engine Http Library Execution

/-- The request that fetch sends for a text; the browser adds its headers. -/
def PageRequest (ip : List Char) (request : Request) : Prop :=
  request.method = "POST" ∧ request.path = "/api/v1/lookups" ∧ request.body = .json (.object [("ip", .str (String.ofList ip))])

/-- Which task serves the request of which controller, and the text that was submitted last. -/
structure Browsing (T : InetType) where
  session : Session
  asked : Option (List Char)
  exchanges : List (Nat × Nat)
  servers : Config Query Reply Exn Unit HttpJob (World T)

/-- The response as the script sees it before its body. -/
def seen (response : Http.Response) : Response := ⟨okStatus response.status, response.header "content-type"⟩

/-- What happens without a response: input, the timer, and what goes wrong on the way. -/
def Event.isOwn : Event → Bool
  | .headers _ _ | .body _ (some _) => false
  | _ => true

namespace Browsing
variable {T : InetType}

def start (w : World T) : Browsing T := ⟨.start, none, [], ⟨w, []⟩⟩

def turn (self : Browsing T) (session : Session) : Browsing T :=
  { self with
    session := session
    asked := match session.lookups.find? (·.controller = self.session.controllers) with
      | some sent => some sent.ip
      | none => self.asked }

/-- A turn of the page, a request of the page reaching a replica, a step of the replicas or of
other clients, or a response reaching the page: first its headers, then its body. The page
came from these replicas, so its requests carry a host they trust. -/
inductive Step (engine : Engine) (apps : Nat → Application) : Browsing T → Browsing T → Prop
  | own {x : Browsing T} {event : Event} {session : Session} {ending : Option Ending} (own : event.isOwn = true)
      (turn : x.session.step engine event = some (session, ending)) : Step engine apps x (x.turn session)
  | request {x : Browsing T} {l : Lookup} {j : HttpJob} (sends : l ∈ x.session.lookups)
      (unsent : ∀ i, (l.controller, i) ∉ x.exchanges) (page : PageRequest l.ip j.request)
      (routed : (apps j.replica).Routed j.request) :
      Step engine apps x { x with
        exchanges := (l.controller, x.servers.tasks.length) :: x.exchanges
        servers := (serving T apps).launch x.servers j }
  | serve {x : Browsing T} {servers : Config Query Reply Exn Unit HttpJob (World T)}
      (serves : (serving T apps).Step x.servers servers) : Step engine apps x { x with servers := servers }
  | headers {x : Browsing T} {controller i : Nat} {t : Task Query Reply Exn Unit HttpJob} {response : Http.Response}
      {session : Session} {ending : Option Ending} (exchange : (controller, i) ∈ x.exchanges)
      (task : x.servers.tasks[i]? = some t) (answered : response ∈ sent t.history)
      (turn : x.session.step engine (.headers controller (seen response)) = some (session, ending)) :
      Step engine apps x (x.turn session)
  | body {x : Browsing T} {controller i : Nat} {t : Task Query Reply Exn Unit HttpJob} {response : Http.Response}
      {l : Lookup} {content : Json} {session : Session} {ending : Option Ending} (exchange : (controller, i) ∈ x.exchanges)
      (task : x.servers.tasks[i]? = some t) (answered : response ∈ sent t.history)
      (awaits : x.session.lookup? controller = some l ∧ l.awaits = .body (okStatus response.status))
      (json : response.body = .json content)
      (turn : x.session.step engine (.body controller (some content)) = some (session, ending)) :
      Step engine apps x (x.turn session)

def Reachable (engine : Engine) (apps : Nat → Application) (w : World T) (x : Browsing T) : Prop :=
  Relation.ReflTransGen (Step engine apps) (start w) x

end Browsing

/-! What a turn does to the display and to the waiting lookups. -/

namespace Page

/-- What the panels show. -/
def display (self : Page) : Panels × String × ResultPanel × String × String × Bool × String :=
  (self.panels, self.state, self.result, self.errorTitle, self.errorMessage, self.requestIdHidden, self.requestId)

end Page

variable {engine : Engine} {page page' : Page}

theorem Shows.congr {error : ErrorMessage} (h : Shows error page) (hd : page'.display = page.display) : Shows error page' := by
  simp only [Page.display, Prod.mk.injEq] at hd
  obtain ⟨hpanels, hstate, -, htitle, hmessage, -⟩ := hd
  exact ⟨hpanels.trans h.panels, hstate.trans h.state, htitle.trans h.title, hmessage.trans h.message⟩

theorem ShowsResult.congr {isoformat : Datetime → String} {result : LookupResult} (h : ShowsResult engine isoformat result page)
    (hd : page'.display = page.display) : ShowsResult engine isoformat result page' := by
  simp only [Page.display, Prod.mk.injEq] at hd
  obtain ⟨hpanels, hstate, hresult, -⟩ := hd
  exact ⟨hpanels.trans h.panels, hstate.trans h.state, by rw [hresult, h.name], by rw [hresult]; exact h.result⟩

theorem ShowsError.congr {code requestId : String} (h : ShowsError code requestId page) (hd : page'.display = page.display) :
    ShowsError code requestId page' := by
  obtain ⟨error, hcode, hshows⟩ := h.message
  refine ⟨⟨error, hcode, hshows.congr hd⟩, ?_⟩
  simp only [Page.display, Prod.mk.injEq] at hd
  obtain ⟨-, -, -, -, -, hhidden, hid⟩ := hd
  exact ⟨hhidden.trans h.requestId.1, hid.trans h.requestId.2⟩

theorem Displays.congr {app : Application} {request : Request} {content : Json} (h : Displays engine app request content page)
    (hd : page'.display = page.display) : Displays engine app request content page' := by
  cases h with
  | result asked ip found shows => exact .result asked ip found (shows.congr hd)
  | error failed shows => exact .error failed (shows.congr hd)
  | refused refused shows => exact .refused refused (shows.congr hd)

section Turns
variable {s after : Session} {view : View} {event : Event} {ending : Option Ending}

theorem display_resume {script : Script Ending} {e : Ending} (hrun : script s.page = .ok e page) (controller : Nat) :
    (s.resume controller script).1.page.display = page.display := by
  rw [Session.resume, hrun]
  dsimp only
  rw [Session.finish]
  split <;> rfl

theorem lookups_resume (script : Script Ending) (controller : Nat) :
    (s.resume controller script).1.controllers = s.controllers ∧ ∀ l ∈ (s.resume controller script).1.lookups, l ∈ s.lookups := by
  have finished : ∀ page, (s.finish controller page).controllers = s.controllers ∧
      ∀ l ∈ (s.finish controller page).lookups, l ∈ s.lookups := by
    intro page
    rw [Session.finish]
    split <;> exact ⟨rfl, fun l hl => List.mem_of_mem_filter hl⟩
  rw [Session.resume]
  split <;> exact finished _

/-- The catch clause shows one of the two network errors, or leaves the page to a newer request. -/
theorem caught_shows (engine : Engine) (timedOut : Bool) (error : Thrown) (page : Page) :
    ∃ e after, engine.caught timedOut error page = .ok e after ∧
      (after = page ∨ Shows timedOutMessage after ∨ Shows unreachableMessage after) := by
  by_cases h : error = .abortError ∧ timedOut = false
  · exact ⟨.superseded, page, by rw [caught, if_pos h]; rfl, .inl rfl⟩
  · obtain ⟨after, hrun, hshows⟩ : ∃ after, engine.showError none none (some (if timedOut then timedOutMessage else unreachableMessage))
        page = .ok () after ∧ Shows (if timedOut then timedOutMessage else unreachableMessage) after := showError_shows rfl
    refine ⟨.error, after, ?_, .inr ?_⟩
    · rw [caught, if_neg h]
      simp only [bind, EStateM.bind, hrun]
      rfl
    · cases timedOut with
      | true => exact .inl hshows
      | false => exact .inr hshows

/-- The lookups that wait after a turn waited before it, or one of them has just been sent. -/
structure Tracked (s after : Session) : Prop where
  controllers : s.controllers ≤ after.controllers
  lookups : ∀ l' ∈ after.lookups, (∃ l ∈ s.lookups, l.controller = l'.controller ∧ l.ip = l'.ip) ∨
    (l'.controller = s.controllers ∧ s.controllers < after.controllers ∧ after.page.panels = View.loading.panels)

theorem Tracked.fewer (hcontrollers : after.controllers = s.controllers) (hlookups : ∀ l ∈ after.lookups, l ∈ s.lookups) :
    Tracked s after :=
  ⟨hcontrollers.ge, fun l hl => .inl ⟨l, hlookups l hl, rfl, rfl⟩⟩

theorem Tracked.resume (script : Script Ending) (controller : Nat) : Tracked s (s.resume controller script).1 :=
  .fewer (lookups_resume script controller).1 (lookups_resume script controller).2

theorem Tracked.update (controller : Nat) {f : Lookup → Lookup} (hf : ∀ l, (f l).controller = l.controller ∧ (f l).ip = l.ip) :
    Tracked s (s.update controller f) := by
  refine ⟨le_rfl, fun l' hl' => .inl ?_⟩
  obtain ⟨l, hl, rfl⟩ := List.mem_map.mp hl'
  refine ⟨l, hl, ?_⟩
  split
  · exact ⟨(hf l).1.symm, (hf l).2.symm⟩
  · exact ⟨rfl, rfl⟩

theorem Tracked.submit : Tracked s s.submit := by
  have sent : ∀ (s : Session) (ip : List Char), Tracked s (s.send ip) := by
    intro s ip
    have hsend : (s.send ip).lookups = s.lookups ++ [⟨s.controllers, ip, false, .response⟩] ∧
        (s.send ip).controllers = s.controllers + 1 ∧ (s.send ip).page.panels = View.loading.panels := by
      rw [Session.send]
      cases s.activeController <;> exact ⟨rfl, rfl, rfl⟩
    refine ⟨hsend.2.1 ▸ Nat.le_succ _, fun l hl => ?_⟩
    rw [hsend.1] at hl
    rcases List.mem_append.mp hl with hl | hl
    · exact .inl ⟨l, hl, rfl, rfl⟩
    · rw [List.mem_singleton.mp hl]
      exact .inr ⟨rfl, hsend.2.1 ▸ Nat.lt_succ_self _, hsend.2.2⟩
  rw [Session.submit]
  split
  · exact .fewer rfl fun _ h => h
  · dsimp only
    split
    · exact .fewer rfl fun _ h => h
    · have hsent := sent { s with page.inputValue := trim s.page.inputValue } (trim s.page.inputValue)
      exact ⟨hsent.controllers, hsent.lookups⟩

theorem tracked_step (hs : s.step engine event = some (after, ending)) : Tracked s after := by
  cases event with
  | type value =>
    simp only [Session.step] at hs
    split at hs
    · cases hs
    · cases hs
      exact .fewer rfl fun _ h => h
  | submit | retryClick =>
    cases hs
    exact .submit
  | exampleClick ip =>
    simp only [Session.step] at hs
    split at hs
    · cases hs
    · cases hs
      exact .fewer rfl fun _ h => h
  | headers controller response =>
    simp only [Session.step] at hs
    split at hs
    · simp only [Session.headers] at hs
      split at hs
      · cases hs
        exact .update controller fun _ => ⟨rfl, rfl⟩
      · cases hs
        exact .resume _ controller
    · cases hs
  | body controller payload =>
    simp only [Session.step] at hs
    split at hs
    · cases hs
      exact .resume _ controller
    · cases hs
  | failure controller error =>
    simp only [Session.step] at hs
    split at hs
    · split at hs
      · cases hs
      · cases hs
        exact .resume _ controller
    · cases hs
  | timeout controller =>
    simp only [Session.step] at hs
    split at hs
    · cases hs
      have hupdate := Tracked.update (s := { s with timers := s.timers.filter (· ≠ controller) }) controller
        (f := fun l => { l with timedOut := true }) fun _ => ⟨rfl, rfl⟩
      exact ⟨hupdate.controllers, hupdate.lookups⟩
    · cases hs

/-- Neither the result nor the error panel is visible. -/
def Hidden (page : Page) : Prop := page.panels.result = false ∧ page.panels.error = false

/-- What the display becomes in a turn without a payload. -/
inductive Redisplayed (before after : Page) : Prop
  | same (display : after.display = before.display)
  | hidden (hidden : Hidden after)
  | timedOut (shows : Shows timedOutMessage after)
  | unreachable (shows : Shows unreachableMessage after)
  | unreadable (shows : Shows internalError after)

theorem redisplayed_none (ok timedOut : Bool) (controller : Nat) :
    Redisplayed s.page (s.resume controller (tryCatch (engine.answered ok none) (engine.caught timedOut))).1.page := by
  obtain ⟨after, hrun, hshows⟩ := answered_none engine ok timedOut s.page
  exact .unreadable (hshows.congr (display_resume hrun controller))

theorem redisplayed_submit (s : Session) : Redisplayed s.page s.submit.page := by
  rw [Session.submit]
  split
  · exact .same rfl
  · dsimp only
    split
    · exact .hidden ⟨rfl, rfl⟩
    · rw [Session.send]
      dsimp only
      cases s.activeController <;> exact .hidden ⟨rfl, rfl⟩

theorem redisplayed_step (hpayload : ∀ controller content, event ≠ .body controller (some content))
    (hs : s.step engine event = some (after, ending)) : Redisplayed s.page after.page := by
  cases event with
  | type value | exampleClick value =>
    simp only [Session.step] at hs
    split at hs
    · cases hs
    · cases hs
      exact .same rfl
  | submit | retryClick =>
    cases hs
    exact redisplayed_submit s
  | headers controller response =>
    simp only [Session.step] at hs
    split at hs
    · simp only [Session.headers] at hs
      split at hs
      · cases hs
        exact .same rfl
      · cases hs
        exact redisplayed_none _ _ controller
    · cases hs
  | body controller payload =>
    cases payload with
    | some content => exact absurd rfl (hpayload controller content)
    | none =>
      simp only [Session.step] at hs
      split at hs
      · cases hs
        exact redisplayed_none _ _ controller
      · cases hs
  | failure controller error =>
    simp only [Session.step] at hs
    split at hs
    · rename_i timedOut _
      split at hs
      · cases hs
      · cases hs
        obtain ⟨e, page, hrun, hshown⟩ := caught_shows engine timedOut error s.page
        have hdisplay := display_resume hrun controller
        rcases hshown with rfl | hshows | hshows
        · exact .same hdisplay
        · exact .timedOut (hshows.congr hdisplay)
        · exact .unreachable (hshows.congr hdisplay)
    · cases hs
  | timeout controller =>
    simp only [Session.step] at hs
    split at hs
    · cases hs
      exact .same rfl
    · cases hs

end Turns

/-! What a page shows. -/

section Runs
variable {T : InetType} {apps : Nat → Application} {w : World T} {x x' : Browsing T}

/-- Why the panels show what they show: nothing, an error on the way, or what a replica has
answered to the text that was submitted last. -/
inductive Shown (engine : Engine) (apps : Nat → Application) (asked : Option (List Char))
    (servers : Config Query Reply Exn Unit HttpJob (World T)) (page : Page) : Prop
  | hidden (hidden : Hidden page)
  | timedOut (shows : Shows timedOutMessage page)
  | unreachable (shows : Shows unreachableMessage page)
  | unreadable (shows : Shows internalError page)
  | answer {ip : List Char} {t : Task Query Reply Exn Unit HttpJob} {response : Http.Response} {content : Json}
      (asked : asked = some ip) (task : t ∈ servers.tasks) (request : PageRequest ip t.job.request)
      (answered : response ∈ sent t.history) (json : response.body = .json content)
      (displays : Displays engine (apps t.job.replica) t.job.request content page)

variable {asked : Option (List Char)} {servers servers' : Config Query Reply Exn Unit HttpJob (World T)}

theorem Shown.redisplay (h : Shown engine apps asked servers page) (hd : Redisplayed page page') :
    Shown engine apps asked servers page' := by
  cases hd with
  | same display =>
    cases h with
    | hidden hidden =>
      have hpanels : page'.panels = page.panels := congrArg Prod.fst display
      exact .hidden (by rwa [Hidden, hpanels])
    | timedOut shows => exact .timedOut (shows.congr display)
    | unreachable shows => exact .unreachable (shows.congr display)
    | unreadable shows => exact .unreadable (shows.congr display)
    | answer asked task request answered json displays => exact .answer asked task request answered json (displays.congr display)
  | hidden hidden => exact .hidden hidden
  | timedOut shows => exact .timedOut shows
  | unreachable shows => exact .unreachable shows
  | unreadable shows => exact .unreadable shows

/-- Tasks keep their requests and what they have sent. -/
theorem kept_task (hs : (serving T apps).Step servers servers') {i : Nat} {t : Task Query Reply Exn Unit HttpJob}
    (ht : servers.tasks[i]? = some t) :
    ∃ t', servers'.tasks[i]? = some t' ∧ t'.job = t.job ∧ ∀ response ∈ sent t.history, response ∈ sent t'.history := by
  obtain ⟨t', ht', hjob, newer, hnewer⟩ := System.Steps.task (.single hs) ht
  refine ⟨t', ht', hjob, fun response hresponse => ?_⟩
  rw [hnewer, sent, List.filterMap_append]
  exact List.mem_append_right _ hresponse

theorem Shown.serve (h : Shown engine apps asked servers page) (hs : (serving T apps).Step servers servers') :
    Shown engine apps asked servers' page := by
  cases h with
  | hidden hidden => exact .hidden hidden
  | timedOut shows => exact .timedOut shows
  | unreachable shows => exact .unreachable shows
  | unreadable shows => exact .unreadable shows
  | answer asked task request answered json displays =>
    obtain ⟨i, hi⟩ := List.mem_iff_getElem?.mp task
    obtain ⟨t', ht', hjob, hsent⟩ := kept_task hs hi
    exact .answer asked (List.mem_of_getElem? ht') (hjob ▸ request) (hsent _ answered) json (hjob ▸ displays)

/-- The task of an exchange serves the request of its lookup. -/
def Exchanged (apps : Nat → Application) (servers : Config Query Reply Exn Unit HttpJob (World T)) (i : Nat) (l : Lookup) : Prop :=
  ∃ t, servers.tasks[i]? = some t ∧ PageRequest l.ip t.job.request ∧ (apps t.job.replica).Routed t.job.request

/-- What a page and its replicas keep. -/
structure Honest (engine : Engine) (apps : Nat → Application) (x : Browsing T) : Prop where
  coherent : ∃ view, Coherent x.session view
  numbered : ∀ l ∈ x.session.lookups, l.controller < x.session.controllers
  begun : ∀ exchange ∈ x.exchanges, exchange.1 < x.session.controllers
  asked : ∀ l ∈ x.session.lookups, x.asked = some l.ip
  exchanged : ∀ controller i, (controller, i) ∈ x.exchanges → ∀ l ∈ x.session.lookups, l.controller = controller →
    Exchanged apps x.servers i l
  shown : Shown engine apps x.asked x.servers x.session.page

theorem lookups_length {s : Session} {view : View} (h : Coherent s view) : s.lookups.length ≤ 1 := by
  by_cases hv : view = .loading
  · obtain ⟨l, hl⟩ := h.flight hv
    rw [hl.only]
    exact le_rfl
  · rw [(h.idle hv).1]
    exact Nat.zero_le 1

theorem eq_singleton {l : Lookup} {lookups : List Lookup} (hl : l ∈ lookups) (hlength : lookups.length ≤ 1) : lookups = [l] := by
  match lookups with
  | [] => cases hl
  | [l'] => rw [List.mem_singleton.mp hl]
  | _ :: _ :: _ => simp at hlength

/-- After a turn all waiting lookups waited before, or the only one has just been sent. -/
theorem turn_asked (h : Honest engine apps x) {session : Session} (htracked : Tracked x.session session)
    (hlength : session.lookups.length ≤ 1) :
    ((x.turn session).asked = x.asked ∧ ∀ l' ∈ session.lookups, ∃ l ∈ x.session.lookups, l.controller = l'.controller ∧ l.ip = l'.ip) ∨
    ∃ l', session.lookups = [l'] ∧ l'.controller = x.session.controllers ∧ x.session.controllers < session.controllers ∧
      (x.turn session).asked = some l'.ip ∧ session.page.panels = View.loading.panels := by
  cases hfind : session.lookups.find? (·.controller = x.session.controllers) with
  | none =>
    refine .inl ⟨by simp only [Browsing.turn, hfind], fun l' hl' => ?_⟩
    rcases htracked.lookups l' hl' with hold | ⟨hnew, -, -⟩
    · exact hold
    · have hnone := List.find?_eq_none.mp hfind l' hl'
      simp [hnew] at hnone
  | some l' =>
    have hl' := List.mem_of_find?_eq_some hfind
    have hnew : l'.controller = x.session.controllers := by simpa using List.find?_some hfind
    rcases htracked.lookups l' hl' with ⟨l, hl, hsame, -⟩ | ⟨-, hmore, hpanels⟩
    · exact absurd (h.numbered l hl) (by omega)
    · exact .inr ⟨l', eq_singleton hl' hlength, hnew, hmore, by simp only [Browsing.turn, hfind], hpanels⟩

theorem Honest.turn (h : Honest engine apps x) {session : Session} {event : Event} {ending : Option Ending}
    (hs : x.session.step engine event = some (session, ending))
    (hshown : Shown engine apps x.asked x.servers session.page) : Honest engine apps (x.turn session) := by
  obtain ⟨view, hcoherent⟩ := h.coherent
  obtain ⟨view', -, hafter⟩ := hcoherent.step hs
  have htracked := tracked_step hs
  have hbegun : ∀ exchange ∈ (x.turn session).exchanges, exchange.1 < session.controllers :=
    fun exchange hexchange => (h.begun exchange hexchange).trans_le htracked.controllers
  rcases turn_asked h htracked (lookups_length hafter) with ⟨hasked, hold⟩ | ⟨l', hlookups, hnew, hmore, hasked, hpanels⟩
  · refine ⟨⟨view', hafter⟩, fun l' hl' => ?_, hbegun, fun l' hl' => ?_, fun controller i hexchange l' hl' hl => ?_, ?_⟩
    · obtain ⟨l, hl, hsame, -⟩ := hold l' hl'
      exact hsame ▸ (h.numbered l hl).trans_le htracked.controllers
    · obtain ⟨l, hl, -, hip⟩ := hold l' hl'
      rw [hasked, h.asked l hl, hip]
    · obtain ⟨l, hin, hsame, hip⟩ := hold l' hl'
      obtain ⟨t, ht, hpage, hrouted⟩ := h.exchanged controller i hexchange l hin (hsame.trans hl)
      exact ⟨t, ht, hip ▸ hpage, hrouted⟩
    · rw [hasked]
      exact hshown
  · have only : ∀ l ∈ session.lookups, l = l' := fun l hl => List.mem_singleton.mp (hlookups ▸ hl)
    refine ⟨⟨view', hafter⟩, fun l hl => ?_, hbegun, fun l hl => ?_, fun controller i hexchange l hl hc => ?_, ?_⟩
    · rw [only l hl, hnew]
      exact hmore
    · rw [only l hl, hasked]
    · -- no exchange has begun for a lookup that has just been sent
      rw [only l hl, hnew] at hc
      exact absurd (h.begun _ hexchange) (by simp [hc])
    · exact .hidden ⟨congrArg Panels.result hpanels, congrArg Panels.error hpanels⟩

theorem honest_start (w : World T) : Honest engine apps (Browsing.start w) :=
  ⟨⟨.quiet, coherent_start⟩, nofun, nofun, nofun, nofun, .hidden ⟨rfl, rfl⟩⟩

/-- A request of the page is a lookup. -/
theorem reaches_of_page {app : Application} {ip : List Char} {request : Request} (h : PageRequest ip request)
    (hr : app.Routed request) : app.Reaches request .createLookup := by
  obtain ⟨hmethod, hpath, -⟩ := h
  refine ⟨hr, ⟨"/api/v1/lookups", ["POST"], .createLookup, true⟩, ?_, rfl⟩
  rw [hmethod, hpath]
  decide

/-- What a page asks for is what it was submitted with. -/
theorem asked_of_page {ip : List Char} {request : Request} (h : PageRequest ip request) {text : String}
    (ha : Application.Asked request text) : text = String.ofList ip := by
  obtain ⟨value, payload, hbody, hvalid, rfl⟩ := ha
  rw [h.2.2] at hbody
  cases hbody
  have hip : Json.get? "ip" (.object [("ip", .str (String.ofList ip))]) = some (.str (String.ofList ip)) := rfl
  simp only [LookupRequest.modelValidate, hip] at hvalid
  split at hvalid
  · split at hvalid
    · cases hvalid
      rfl
    · cases hvalid
  · cases hvalid

/-- What a replica sends to a request of the page answers it, unless the server could not. -/
theorem answer_of_page (hservers : (serving T apps).Reachable w servers) {t : Task Query Reply Exn Unit HttpJob}
    (ht : t ∈ servers.tasks) {ip : List Char} (hpage : PageRequest ip t.job.request)
    (hrouted : (apps t.job.replica).Routed t.job.request) {response : Http.Response} (hsent : response ∈ sent t.history) :
    (apps t.job.replica).IsLookupAnswer t.job.request response ∨
      response = .plainText 500 "Internal Server Error" := by
  obtain ⟨e, he, hresponse⟩ := List.mem_filterMap.mp hsent
  have hpermitted := (hservers.within (fun j => Application.serve_within (apps j.replica) j.request) ht).2 e he
  obtain ⟨q, r⟩ := e
  cases q with
  | send response' =>
    cases hresponse
    exact hpermitted (reaches_of_page hpage hrouted)
  | _ => cases hresponse

theorem honest_step (hstandard : engine.Standard) (hservers : (serving T apps).Reachable w x.servers) (h : Honest engine apps x)
    (hs : x.Step engine apps x') : Honest engine apps x' := by
  cases hs with
  | @own event session ending own turn =>
    refine h.turn turn (h.shown.redisplay (redisplayed_step ?_ turn))
    rintro controller content rfl
    cases own
  | @request l j sends unsent page routed =>
    have old : ∀ {i l}, Exchanged apps x.servers i l → Exchanged apps ((serving T apps).launch x.servers j) i l := by
      rintro i l ⟨t, ht, hrequest⟩
      obtain ⟨t', ht', hjob, -⟩ := kept_task (.launch x.servers j) ht
      exact ⟨t', ht', hjob ▸ hrequest⟩
    refine ⟨h.coherent, h.numbered, ?_, h.asked, ?_, h.shown.serve (.launch x.servers j)⟩
    · intro exchange hexchange
      rcases List.mem_cons.mp hexchange with rfl | hexchange
      · exact h.numbered l sends
      · exact h.begun exchange hexchange
    · intro controller i hexchange l' hl' hc
      obtain ⟨view, hcoherent⟩ := h.coherent
      rcases List.mem_cons.mp hexchange with he | hexchange
      · cases he
        have honly := eq_singleton sends (lookups_length hcoherent)
        have hsame : l' = l := by
          rw [honly, List.mem_singleton] at hl'
          exact hl'
        rw [hsame]
        exact ⟨⟨j, (serving T apps).program j, []⟩, by simp [System.launch], page, routed⟩
      · exact old (h.exchanged controller i hexchange l' hl' hc)
  | @serve servers serves =>
    refine ⟨h.coherent, h.numbered, h.begun, h.asked, ?_, h.shown.serve serves⟩
    intro controller i hexchange l hl hc
    obtain ⟨t, ht, hrequest⟩ := h.exchanged controller i hexchange l hl hc
    obtain ⟨t', ht', hjob, -⟩ := kept_task serves ht
    exact ⟨t', ht', hjob ▸ hrequest⟩
  | @headers controller i t response session ending exchange task answered turn =>
    exact h.turn turn (h.shown.redisplay (redisplayed_step (by simp) turn))
  | @body controller i t response l content session ending exchange task answered awaits json turn =>
    obtain ⟨hlookup, hawaits⟩ := awaits
    have hl : l ∈ x.session.lookups := List.mem_of_find?_eq_some hlookup
    have hc : l.controller = controller := by simpa using List.find?_some hlookup
    obtain ⟨t', ht', hpage, hrouted⟩ := h.exchanged controller i exchange l hl hc
    obtain rfl : t' = t := Option.some.inj (ht'.symm.trans task)
    have htask := List.mem_of_getElem? task
    rcases answer_of_page hservers htask hpage hrouted answered with ⟨-, content', hjson, hanswers⟩ | ⟨_, _, rfl⟩
    · rw [json] at hjson
      cases hjson
      refine h.turn turn ?_
      obtain ⟨lc, lip, timedOut, la⟩ := l
      simp only at hawaits
      subst hawaits
      simp only [Session.step, hlookup] at turn
      cases turn
      obtain ⟨e, page, hrun, hdisplays⟩ := answered_lookup hstandard hanswers timedOut x.session.page
      exact .answer (h.asked _ hl) htask hpage answered json (hdisplays.congr (display_resume hrun controller))
    · cases json

theorem honest (hstandard : engine.Standard) (hx : x.Reachable engine apps w) :
    (serving T apps).Reachable w x.servers ∧ Honest engine apps x := by
  induction hx with
  | refl => exact ⟨.start, honest_start w⟩
  | tail _ hs ih =>
    obtain ⟨hservers, h⟩ := ih
    refine ⟨?_, honest_step hstandard hservers h hs⟩
    cases hs with
    | request => exact hservers.tail (.launch _ _)
    | serve serves => exact hservers.tail serves
    | own | headers | body => exact hservers

/-- The result on the page is one that a replica answered to the last lookup of the page, and
is for the address that was submitted. -/
structure Answered (engine : Engine) (apps : Nat → Application) (x : Browsing T) (ip : List Char)
    (t : Task Query Reply Exn Unit HttpJob) (result : LookupResult) : Prop where
  asked : x.asked = some ip
  request : t ∈ x.servers.tasks ∧ PageRequest ip t.job.request
  address : validatePublicIp (String.ofList ip) = .ok result.ip
  answered : ∃ response ∈ sent t.history, response.body = .json ((apps t.job.replica).lookupResponse result)
  shows : ShowsResult engine (apps t.job.replica).framework.isoformat result x.session.page

/-- The error on the page is one of the way to the replicas, or one that a replica answered to
the last lookup of the page, with the request id of that answer. -/
structure Truthful (engine : Engine) (apps : Nat → Application) (x : Browsing T) : Prop where
  result : x.session.page.panels.result = true → ∃ ip t result, Answered engine apps x ip t result
  error : x.session.page.panels.error = true → Shows timedOutMessage x.session.page ∨ Shows unreachableMessage x.session.page ∨
    Shows internalError x.session.page ∨ ∃ ip t response code message requestId, x.asked = some ip ∧ t ∈ x.servers.tasks ∧
      PageRequest ip t.job.request ∧ response ∈ sent t.history ∧ response.body = .json (envelope code message requestId) ∧
      ShowsError code requestId x.session.page

/-- However inputs, timers, the network, replicas and other clients interleave, the page never
shows a result or an error that does not belong to the text submitted last. -/
theorem page_truthful (hstandard : engine.Standard) (hx : x.Reachable engine apps w) : Truthful engine apps x := by
  obtain ⟨-, h⟩ := honest hstandard hx
  have failed : ∀ {error : ErrorMessage}, Shows error x.session.page → x.session.page.panels.result ≠ true := by
    intro error hshows hresult
    rw [hshows.panels] at hresult
    cases hresult
  constructor
  · intro hresult
    cases h.shown with
    | hidden hidden => exact absurd hresult (by simp [hidden.1])
    | timedOut shows | unreachable shows | unreadable shows => exact absurd hresult (failed shows)
    | answer asked task request answered json displays =>
      cases displays with
      | @result text result askedFor ip found shows =>
        have htext := asked_of_page request askedFor
        exact ⟨_, _, result, asked, ⟨task, request⟩, htext ▸ ip, ⟨_, answered, found ▸ json⟩, shows⟩
      | error _ shows =>
        obtain ⟨_, -, hshows⟩ := shows.message
        exact absurd hresult (failed hshows)
      | refused _ shows => exact absurd hresult (failed shows)
  · intro herror
    cases h.shown with
    | hidden hidden => exact absurd herror (by simp [hidden.2])
    | timedOut shows => exact .inl shows
    | unreachable shows => exact .inr (.inl shows)
    | unreadable shows => exact .inr (.inr (.inl shows))
    | answer asked task request answered json displays =>
      cases displays with
      | result _ _ _ shows =>
        rw [shows.panels] at herror
        cases herror
      | error failed shows =>
        exact .inr (.inr (.inr ⟨_, _, _, _, _, _, asked, task, request, answered, failed ▸ json, shows⟩))
      | refused _ shows => exact .inr (.inr (.inl shows))

end Runs

/-! A lookup from the submission to the result. -/

theorem plainEngine_standard : plainEngine.Standard := ⟨fun _ => rfl, fun _ => rfl⟩

def typed : Session := { Session.start with page.inputValue := "8.8.8.8".toList }

def readingBody : Session := typed.submit.update 0 fun l => { l with awaits := .body true }

/-- The response can be read as JSON, and its content is shown as a result. -/
def showsResult (response : Http.Response) : Bool :=
  decide (response.status = 200) && decide (response.header "content-type" = some "application/json") &&
    match response.body with
    | .json content => (readingBody.step plainEngine (.body 0 (some content))).any fun turn => turn.1.page.panels.result
    | _ => false

theorem serve_steps {T : InetType} {engine : Engine} {apps : Nat → Application} {w : World T} {x : Browsing T}
    (hx : x.Reachable engine apps w) {servers : Config Query Reply Exn Unit HttpJob (World T)}
    (hs : (serving T apps).Steps x.servers servers) : Browsing.Reachable engine apps w { x with servers := servers } := by
  induction hs with
  | refl => exact hx
  | tail _ hs ih => exact ih.tail (.serve hs)

/-- The replica answers one lookup, which misses the cache. -/
theorem answered_run : ∃ c t response, (serving hostAddresses fun _ => fakeApplication).Steps
      ((serving hostAddresses fun _ => fakeApplication).launch ⟨.start hostAddresses "0.1.0" true, []⟩ ⟨0, googleRequest⟩) c ∧
    c.tasks[0]? = some t ∧ response ∈ sent t.history ∧ showsResult response = true := by
  have hp : ((serving hostAddresses fun _ => fakeApplication).play
      ((serving hostAddresses fun _ => fakeApplication).launch ⟨.start hostAddresses "0.1.0" true, []⟩ ⟨0, googleRequest⟩)
      (List.replicate 40 (.reply 0 (serverReplies (some "a") (.ok none))))).any
      (fun c => c.tasks[0]?.any fun t => (sent t.history).any showsResult) = true := by
    decide +kernel
  obtain ⟨c, hplay, hc⟩ := (Option.any_eq_true _ _).mp hp
  obtain ⟨t, ht, hsent⟩ := (Option.any_eq_true _ _).mp hc
  obtain ⟨response, hresponse, hshows⟩ := List.any_eq_true.mp hsent
  exact ⟨c, t, response, System.play_steps hplay, ht, hresponse, hshows⟩

theorem page_truthful_example : ∃ x : Browsing hostAddresses, x.session.page.panels.result = true ∧
    Truthful plainEngine (fun _ => fakeApplication) x := by
  obtain ⟨c, t, response, hsteps, htask, hsent, hshows⟩ := answered_run
  obtain ⟨hheaders, hbody⟩ := Bool.and_eq_true_iff.mp hshows
  obtain ⟨hstatus, htype⟩ := Bool.and_eq_true_iff.mp hheaders
  have hseen : seen response = ⟨true, some "application/json"⟩ := by
    rw [seen, of_decide_eq_true hstatus, of_decide_eq_true htype]
    rfl
  cases hjson : response.body with
  | json content =>
    rw [hjson] at hbody
    obtain ⟨turn, hturn, hresult⟩ := (Option.any_eq_true _ _).mp hbody
    let asking : Browsing hostAddresses := ⟨typed.submit, some "8.8.8.8".toList, [], ⟨.start hostAddresses "0.1.0" true, []⟩⟩
    have typing : Session.start.step plainEngine (.type "8.8.8.8".toList) = some (typed, none) := rfl
    have submitting : typed.step plainEngine .submit = some (typed.submit, none) := rfl
    have hasking : asking.Reachable plainEngine (fun _ => fakeApplication) (.start hostAddresses "0.1.0" true) :=
      (Relation.ReflTransGen.refl.tail (.own rfl typing)).tail
        (.own rfl submitting)
    have hrequest : PageRequest "8.8.8.8".toList googleRequest := ⟨rfl, rfl, by rw [String.ofList_toList]; rfl⟩
    have hreplied : Browsing.Reachable plainEngine (fun _ => fakeApplication) (.start hostAddresses "0.1.0" true)
        { asking with exchanges := [(0, 0)], servers := c } :=
      serve_steps (hasking.tail (.request (l := ⟨0, "8.8.8.8".toList, false, .response⟩) (j := ⟨0, googleRequest⟩)
        List.mem_cons_self nofun hrequest ⟨rfl, by decide⟩)) hsteps
    have headers : typed.submit.step plainEngine (.headers 0 (seen response)) = some (readingBody, none) := by
      rw [hseen]
      rfl
    have hread := hreplied.tail (.headers List.mem_cons_self htask hsent headers)
    have hshown := hread.tail (.body List.mem_cons_self htask hsent
      ⟨rfl, by rw [of_decide_eq_true hstatus]; rfl⟩ hjson hturn)
    exact ⟨_, hresult, page_truthful plainEngine_standard hshown⟩
  | _ =>
    rw [hjson] at hbody
    cases hbody

end IpCountryApi.Static
