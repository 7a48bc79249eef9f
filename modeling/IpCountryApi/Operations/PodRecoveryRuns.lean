import IpCountryApi.Operations.PodRecovery

/-! Runs of the Pod recovery script: what it does to the cluster, and what its report says of
the lookups, however its two threads interleave. -/
namespace IpCountryApi.Operations.PodRecovery
open Library Domain Relation

variable {args : Args} {s s' : State}

/-! What the script does to the cluster. -/

def Main.watch? : Main → Option Watch
  | .deleting watch | .testing watch | .listing watch | .pausing watch | .leaving watch | .stopping watch _
  | .joining watch _ | .summing watch _ | .totalling watch _ _ | .copyingCodes watch _ _ _
  | .copyingFailures watch _ _ _ _ => some watch
  | .checking | .starting _ _ | .reported _ | .raised => none

/-- The loop that waits for the recovery has not ended. -/
def Main.isWatching : Main → Bool
  | .deleting _ | .testing _ | .listing _ | .pausing _ => true
  | _ => false

/-- The first inventory that was read. -/
def Inventoried (outputs : List (Option Json)) (before : List Pod) : Prop :=
  ∃ payload, outputs.head? = some (some payload) ∧ podInventory payload = some before

/-- One Pod of the first inventory was deleted, and everything else only read. -/
structure Deleted (args : Args) (commands : List (List PyStr)) (outputs : List (Option Json)) (before : List Pod)
    (deleted : Pod) : Prop where
  inventoried : Inventoried outputs before
  eligible : Eligible before deleted
  commands : ∃ name n, argument deleted.name = some name ∧
    commands = getPods args :: deletePod args name :: List.replicate n (getPods args)

/-- The last inventory that was read shows the recovery. -/
def Recovered (outputs : List (Option Json)) (before after : List Pod) (deleted : Pod) : Prop :=
  (∃ payload, outputs.getLast? = some (some payload) ∧ podInventory payload = some after) ∧
    hasRecovered before after deleted = true

/-- What holds of the commands and the outputs wherever main is. -/
def Watched (args : Args) (main : Main) (commands : List (List PyStr)) (outputs : List (Option Json)) : Prop :=
  match main with
  | .checking => commands = [getPods args] ∧ outputs = []
  | .starting before _ => commands = [getPods args] ∧ Inventoried outputs before
  | .raised => commands = [getPods args] ∨ ∃ before deleted, Deleted args commands outputs before deleted
  | .reported report => Deleted args commands outputs report.before report.deletedPod ∧
      (report.recovered = true → Recovered outputs report.before report.after report.deletedPod) ∧
      report.replacementPod = (readyPods report.after).find? (fun pod => !(names report.before).contains pod.name) ∧
      report.readyReplicasAfter = (readyPods report.after).length
  | main => ∀ watch, main.watch? = some watch → Deleted args commands outputs watch.before watch.deleted ∧
      (watch.recovered = true → main.isWatching = false ∧ Recovered outputs watch.before watch.after watch.deleted)

variable {commands : List (List PyStr)} {outputs : List (Option Json)} {before : List Pod} {deleted : Pod}

theorem Inventoried.read (h : Inventoried outputs before) (payload : Option Json) :
    Inventoried (outputs ++ [payload]) before := by
  obtain ⟨first, hfirst, hbefore⟩ := h
  exact ⟨first, by rw [List.head?_append, hfirst]; rfl, hbefore⟩

theorem Deleted.read (h : Deleted args commands outputs before deleted) (payload : Option Json) :
    Deleted args commands (outputs ++ [payload]) before deleted :=
  ⟨h.inventoried.read payload, h.eligible, h.commands⟩

theorem watched_main (h : Watched args s.main s.commands s.outputs) {event : Event}
    (hs : s.mainStep args event = some s') : Watched args s'.main s'.commands s'.outputs := by
  obtain ⟨main, traffic, stop, statusCodes, failures, commands, outputs, sent, settled⟩ := s
  cases event with
  | output payload =>
    cases main with
    | checking =>
      obtain ⟨hcommands, houtputs⟩ := h
      simp only at hcommands houtputs
      subst hcommands houtputs
      simp only [State.mainStep] at hs
      split at hs
      · cases hs
        exact .inl rfl
      · rename_i before hbefore
        split at hs
        · cases hs
          exact .inl rfl
        · rename_i deleted _
          cases hs
          obtain ⟨read, rfl, hread⟩ := Option.bind_eq_some_iff.mp hbefore
          exact ⟨rfl, read, rfl, hread⟩
    | deleting watch =>
      obtain ⟨hdeleted, hrecovered⟩ := h watch rfl
      simp only [State.mainStep] at hs
      split at hs
      · cases hs
        rintro _ ⟨rfl⟩
        exact ⟨hdeleted.read _, fun hr => Bool.noConfusion (hrecovered hr).1⟩
      · cases hs
        exact .inr ⟨_, _, hdeleted.read _⟩
    | listing watch =>
      obtain ⟨hdeleted, hrecovered⟩ := h watch rfl
      simp only [State.mainStep] at hs
      split at hs
      · cases hs
        exact .inr ⟨_, _, hdeleted.read _⟩
      · rename_i after hafter
        obtain ⟨read, rfl, hread⟩ := Option.bind_eq_some_iff.mp hafter
        split at hs
        · rename_i hrecovery
          cases hs
          rintro _ ⟨rfl⟩
          exact ⟨hdeleted.read _, fun _ => ⟨rfl, ⟨read, List.getLast?_concat, hread⟩, hrecovery⟩⟩
        · cases hs
          rintro _ ⟨rfl⟩
          exact ⟨hdeleted.read _, fun hr => Bool.noConfusion (hrecovered hr).1⟩
    | _ => cases hs
  | clock now =>
    cases main with
    | starting before deleted =>
      obtain ⟨hcommands, hbefore⟩ := h
      simp only at hcommands
      subst hcommands
      simp only [State.mainStep] at hs
      split at hs
      · rename_i name hname
        cases hs
        rintro _ ⟨rfl⟩
        exact ⟨⟨hbefore, deleted.2, name, 0, hname, rfl⟩, fun hr => by cases hr⟩
      · cases hs
        exact .inl rfl
    | testing watch =>
      obtain ⟨⟨hinventoried, heligible, name, n, hname, hcommands⟩, hrecovered⟩ := h watch rfl
      simp only at hcommands
      subst hcommands
      simp only [State.mainStep] at hs
      split at hs
      · cases hs
        rintro _ ⟨rfl⟩
        refine ⟨⟨hinventoried, heligible, name, n + 1, hname, ?_⟩, fun hr => Bool.noConfusion (hrecovered hr).1⟩
        rw [List.replicate_succ', List.cons_append, List.cons_append]
      · cases hs
        rintro _ ⟨rfl⟩
        exact ⟨⟨hinventoried, heligible, name, n, hname, rfl⟩, fun hr => Bool.noConfusion (hrecovered hr).1⟩
    | leaving watch =>
      cases hs
      exact h
    | _ => cases hs
  | awake =>
    cases main with
    | pausing watch =>
      cases hs
      exact h
    | stopping watch recoverySeconds =>
      cases hs
      exact h
    | _ => cases hs
  | joined =>
    cases main with
    | joining watch recoverySeconds =>
      simp only [State.mainStep] at hs
      split at hs
      · cases hs
        exact h
      · cases hs
        exact .inr ⟨_, _, (h watch rfl).1⟩
    | _ => cases hs
  | turn =>
    cases main with
    | summing watch _ | totalling watch _ _ | copyingCodes watch _ _ _ =>
      cases hs
      exact h
    | copyingFailures watch _ _ _ _ =>
      obtain ⟨hdeleted, hrecovered⟩ := h watch rfl
      cases hs
      exact ⟨hdeleted, fun hr => (hrecovered hr).2, rfl, rfl⟩
    | _ => cases hs
  | test | settle | count | waited => cases hs

theorem watched_traffic (h : Watched args s.main s.commands s.outputs) {event : Event}
    (hs : s.trafficStep args event = some s') : Watched args s'.main s'.commands s'.outputs := by
  obtain ⟨main, traffic, stop, statusCodes, failures, commands, outputs, sent, settled⟩ := s
  cases event with
  | test =>
    cases traffic with
    | testing requestNumber =>
      simp only [State.trafficStep] at hs
      split at hs <;> cases hs <;> exact h
    | _ => cases hs
  | settle attempt =>
    cases traffic with
    | sending requestNumber =>
      cases hs
      exact h
    | _ => cases hs
  | count =>
    cases traffic with
    | failing requestNumber failureType =>
      cases hs
      exact h
    | _ => cases hs
  | waited =>
    cases traffic with
    | waiting requestNumber =>
      cases hs
      exact h
    | _ => cases hs
  | output | clock | awake | joined | turn => cases hs

theorem watched (hs : s.Reachable args) : Watched args s.main s.commands s.outputs := by
  induction hs with
  | refl => exact ⟨rfl, rfl⟩
  | tail _ hstep ih =>
    obtain ⟨event, hmain | htraffic⟩ := hstep
    · exact watched_main ih hmain
    · exact watched_traffic ih htraffic

/-- At any time the script has listed the Pods once, or has chosen one of two Ready Pods on
distinct nodes from that list, deleted it, and listed the Pods again any number of times. -/
theorem deletes_once (hs : s.Reachable args) : s.commands = [getPods args] ∨
    ∃ before deleted, Deleted args s.commands s.outputs before deleted := by
  have h := watched hs
  cases hmain : s.main with
  | checking | starting before deleted =>
    rw [hmain] at h
    exact .inl h.1
  | raised =>
    rw [hmain] at h
    exact h
  | reported report =>
    rw [hmain] at h
    exact .inr ⟨_, _, h.1⟩
  | _ watch =>
    rw [hmain] at h
    exact .inr ⟨_, _, (h watch rfl).1⟩

/-! What the counters say of the requests. -/

def codesOf (attempts : List Attempt) : Dict String Nat := Dict.counter (attempts.filterMap Attempt.statusCode)

def typesOf (attempts : List Attempt) : Dict String Nat := Dict.counter (attempts.filterMap Attempt.failureType)

/-- The settled requests whose failures, if any, are counted as well. -/
def closed (traffic : Traffic) (settled : List Attempt) : List Attempt :=
  match traffic with
  | .failing _ _ => settled.dropLast
  | _ => settled

def Traffic.requestNumber? : Traffic → Option Nat
  | .testing n | .sending n | .failing n _ | .waiting n => some n
  | .unstarted | .returned | .died => none

def Traffic.isSending : Traffic → Bool
  | .sending _ => true
  | _ => false

/-- What the thread has sent, in turns over the base URLs, and what its counters hold. -/
structure Tallied (args : Args) (traffic : Traffic) (statusCodes failures : Dict String Nat) (sent : List String)
    (settled : List Attempt) : Prop where
  codes : statusCodes = codesOf settled
  types : failures = typesOf (closed traffic settled)
  failing : ∀ n failureType, traffic = .failing n failureType →
    ∃ earlier attempt, settled = earlier ++ [attempt] ∧ attempt.failureType = some failureType
  turns : sent = (List.range sent.length).map fun i => baseUrlOf i args.baseUrl
  number : ∀ n, traffic.requestNumber? = some n → sent.length = n
  each : settled.length + traffic.isSending.toNat = sent.length
  caught : ∀ attempt ∈ settled.dropLast, attempt.isCaught = true
  last : traffic ≠ .died → ∀ attempt ∈ settled, attempt.isCaught = true

theorem codesOf_concat (attempts : List Attempt) (attempt : Attempt) :
    codesOf (attempts ++ [attempt]) = match attempt.statusCode with
      | some code => (codesOf attempts).increment code
      | none => codesOf attempts := by
  rw [codesOf, List.filterMap_append]
  cases h : attempt.statusCode with
  | none => simp [h, codesOf]
  | some code => simp [h, codesOf, Dict.counter_concat]

theorem typesOf_concat {attempts : List Attempt} {attempt : Attempt} {failureType : String}
    (h : attempt.failureType = some failureType) :
    typesOf (attempts ++ [attempt]) = (typesOf attempts).increment failureType := by
  simp [typesOf, h, Dict.counter_concat]

theorem typesOf_concat_none {attempts : List Attempt} {attempt : Attempt} (h : attempt.failureType = none) :
    typesOf (attempts ++ [attempt]) = typesOf attempts := by
  simp [typesOf, h]

theorem Attempt.failureType_of_not_caught {attempt : Attempt} (h : attempt.isCaught = false) : attempt.failureType = none := by
  cases attempt with
  | escaped typeName => rfl
  | response | httpError | osError => cases h

variable {traffic traffic' : Traffic} {statusCodes failures : Dict String Nat} {sent : List String}
  {settled : List Attempt} {attempt : Attempt} {n : Nat} {failureType : String}

theorem Tallied.sends (h : Tallied args (.testing n) statusCodes failures sent settled) :
    Tallied args (.sending (n + 1)) statusCodes failures (sent ++ [baseUrlOf n args.baseUrl]) settled := by
  have hn := h.number n rfl
  have heach := h.each
  refine ⟨h.codes, h.types, nofun, ?_, ?_, ?_, h.caught, fun _ => h.last nofun⟩
  · rw [List.length_append, List.length_singleton, List.range_succ, List.map_append, ← h.turns, List.map_singleton, hn]
  · rintro _ ⟨rfl⟩
    rw [List.length_append, List.length_singleton, hn]
  · rw [List.length_append, List.length_singleton, ← heach]
    rfl

theorem Tallied.settles (h : Tallied args (.sending n) statusCodes failures sent settled) :
    Tallied args (.next n attempt) (match attempt.statusCode with
      | some code => statusCodes.increment code
      | none => statusCodes) failures sent (settled ++ [attempt]) := by
  have hlast := h.last nofun
  have heach : settled.length + 1 = sent.length := h.each
  have hcodes := h.codes
  have htypes : failures = typesOf settled := h.types
  have hlength : (settled ++ [attempt]).length = sent.length := by rw [← heach, List.length_append, List.length_singleton]
  have hdrop : ∀ a ∈ (settled ++ [attempt]).dropLast, a.isCaught = true := by rwa [List.dropLast_concat]
  rw [Traffic.next]
  split
  · rename_i hcaught
    refine ⟨?_, ?_, nofun, h.turns, nofun, hlength, hdrop, fun hd => absurd rfl hd⟩
    · rw [codesOf_concat, ← hcodes]
    · exact htypes.trans (typesOf_concat_none (Attempt.failureType_of_not_caught (by simpa using hcaught))).symm
  · rename_i hcaught
    have hall : ∀ a ∈ settled ++ [attempt], a.isCaught = true := by
      intro a ha
      rcases List.mem_append.mp ha with ha | ha
      · exact hlast a ha
      · rw [List.mem_singleton.mp ha]
        simpa using hcaught
    split
    · rename_i failureType hfailure
      refine ⟨?_, ?_, ?_, h.turns, h.number, hlength, hdrop, fun _ => hall⟩
      · rw [codesOf_concat, ← hcodes]
      · rw [closed, List.dropLast_concat]
        exact htypes
      · rintro _ _ ⟨rfl, rfl⟩
        exact ⟨settled, attempt, rfl, hfailure⟩
    · rename_i hfailure
      refine ⟨?_, ?_, nofun, h.turns, h.number, hlength, hdrop, fun _ => hall⟩
      · rw [codesOf_concat, ← hcodes]
      · exact htypes.trans (typesOf_concat_none hfailure).symm

theorem Tallied.counts (h : Tallied args (.failing n failureType) statusCodes failures sent settled) :
    Tallied args (.waiting n) statusCodes (failures.increment failureType) sent settled := by
  obtain ⟨earlier, attempt, rfl, hfailure⟩ := h.failing n failureType rfl
  have htypes := h.types
  rw [closed, List.dropLast_concat] at htypes
  refine ⟨h.codes, ?_, nofun, h.turns, h.number, h.each, h.caught, fun _ => h.last nofun⟩
  exact (congrArg (Dict.increment · failureType) htypes).trans (typesOf_concat hfailure).symm

/-- What a step of the thread does for main: more has settled, and nothing once the thread is
over. -/
structure Progressed (traffic traffic' : Traffic) (settled settled' : List Attempt) : Prop where
  longer : settled <+: settled'
  fuller : closed traffic settled <+: closed traffic' settled'
  ended : traffic.isOver = true → traffic'.isOver = true ∧ settled' = settled

theorem tallied_traffic (h : Tallied args s.traffic s.statusCodes s.failures s.sent s.settled) {event : Event}
    (hs : s.trafficStep args event = some s') :
    Tallied args s'.traffic s'.statusCodes s'.failures s'.sent s'.settled ∧
      Progressed s.traffic s'.traffic s.settled s'.settled ∧ s'.main = s.main := by
  obtain ⟨main, traffic, stop, statusCodes, failures, commands, outputs, sent, settled⟩ := s
  cases event with
  | test =>
    cases traffic with
    | testing requestNumber =>
      simp only [State.trafficStep] at hs
      split at hs
      · cases hs
        exact ⟨⟨h.codes, h.types, nofun, h.turns, nofun, h.each, h.caught, fun _ => h.last nofun⟩,
          ⟨List.prefix_rfl, List.prefix_rfl, nofun⟩, rfl⟩
      · cases hs
        exact ⟨h.sends, ⟨List.prefix_rfl, List.prefix_rfl, nofun⟩, rfl⟩
    | _ => cases hs
  | settle attempt =>
    cases traffic with
    | sending requestNumber =>
      cases hs
      refine ⟨h.settles, ⟨List.prefix_append settled [attempt], ?_, nofun⟩, rfl⟩
      rw [Traffic.next]
      split
      · exact List.prefix_append settled [attempt]
      · split
        · simp only [closed, List.dropLast_concat]
          exact List.prefix_rfl
        · exact List.prefix_append settled [attempt]
    | _ => cases hs
  | count =>
    cases traffic with
    | failing requestNumber failureType =>
      cases hs
      exact ⟨h.counts, ⟨List.prefix_rfl, List.dropLast_prefix settled, nofun⟩, rfl⟩
    | _ => cases hs
  | waited =>
    cases traffic with
    | waiting requestNumber =>
      cases hs
      exact ⟨⟨h.codes, h.types, nofun, h.turns, h.number, h.each, h.caught, fun _ => h.last nofun⟩,
        ⟨List.prefix_rfl, List.prefix_rfl, nofun⟩, rfl⟩
    | _ => cases hs
  | output | clock | awake | joined | turn => cases hs

/-- The thread starts when main is done with the first inventory. -/
def Idle (main : Main) (traffic : Traffic) (sent : List String) : Prop :=
  match main with
  | .checking | .starting _ _ => traffic = .unstarted ∧ sent = []
  | _ => True

theorem Tallied.starts (h : Tallied args .unstarted statusCodes failures [] settled) :
    Tallied args (.testing 0) statusCodes failures [] settled :=
  ⟨h.codes, h.types, nofun, h.turns, fun n hn => by cases hn; rfl, h.each, h.caught, fun _ => h.last nofun⟩

/-- The wait for the other thread is over. -/
def Main.isReading : Main → Bool
  | .summing _ _ | .totalling _ _ _ | .copyingCodes _ _ _ _ | .copyingFailures _ _ _ _ _ | .reported _ => true
  | _ => false

def failuresOf (attempts : List Attempt) : Nat := attempts.countP fun attempt => attempt.failureType.isSome

def statusesOf (attempts : List Attempt) : Nat := attempts.countP fun attempt => attempt.statusCode.isSome

/-- Four readings of the counters: what had settled, and was counted, at each of them. -/
structure ReadAt (first closed settled p₁ p₂ p₃ p₄ : List Attempt) (report : Report) : Prop where
  failures : first <+: p₁ ∧ p₁ <+: p₄ ∧ p₄ <+: closed
  statuses : p₁ <+: p₂ ∧ p₂ <+: p₃ ∧ p₃ <+: settled
  unexpectedFailures : report.unexpectedFailures = failuresOf p₁
  requests : report.requests = statusesOf p₂ + report.unexpectedFailures
  statusCodes : report.statusCodes = Dict.sortedItems (codesOf p₃)
  failureTypes : report.failureTypes = Dict.sortedItems (typesOf p₄)

/-- What main has read so far, none of it before the first ones had settled. -/
def ReadAfter (first closed settled : List Attempt) : Main → Prop
  | .totalling _ _ unexpectedFailures =>
    ∃ p₁, first <+: p₁ ∧ p₁ <+: closed ∧ unexpectedFailures = failuresOf p₁
  | .copyingCodes _ _ unexpectedFailures requests =>
    ∃ p₁ p₂, first <+: p₁ ∧ p₁ <+: closed ∧ p₁ <+: p₂ ∧ p₂ <+: settled ∧ unexpectedFailures = failuresOf p₁ ∧
      requests = statusesOf p₂ + unexpectedFailures
  | .copyingFailures _ _ unexpectedFailures requests statusCodes =>
    ∃ p₁ p₂ p₃, first <+: p₁ ∧ p₁ <+: closed ∧ p₁ <+: p₂ ∧ p₂ <+: p₃ ∧ p₃ <+: settled ∧
      unexpectedFailures = failuresOf p₁ ∧ requests = statusesOf p₂ + unexpectedFailures ∧ statusCodes = codesOf p₃
  | .reported report => ∃ p₁ p₂ p₃ p₄, ReadAt first closed settled p₁ p₂ p₃ p₄ report
  | _ => first <+: closed

theorem total_codesOf (attempts : List Attempt) : (codesOf attempts).total = statusesOf attempts := by
  rw [codesOf, Dict.total_counter, List.length_filterMap_eq_countP, statusesOf]

theorem total_typesOf (attempts : List Attempt) : (typesOf attempts).total = failuresOf attempts := by
  rw [typesOf, Dict.total_counter, List.length_filterMap_eq_countP, failuresOf]

theorem closed_prefix (traffic : Traffic) (settled : List Attempt) : closed traffic settled <+: settled := by
  cases traffic with
  | failing => exact List.dropLast_prefix settled
  | _ => exact List.prefix_rfl

theorem ReadAfter.later {first settled settled' : List Attempt} {main : Main} {done done' : List Attempt}
    (h : ReadAfter first done settled main) (hdone : done <+: done') (hle : settled <+: settled') :
    ReadAfter first done' settled' main := by
  cases main with
  | totalling _ _ _ =>
    obtain ⟨p₁, hfirst, h₁, hread⟩ := h
    exact ⟨p₁, hfirst, h₁.trans hdone, hread⟩
  | copyingCodes _ _ _ _ =>
    obtain ⟨p₁, p₂, hfirst, h₁, h₂, h₃, hread⟩ := h
    exact ⟨p₁, p₂, hfirst, h₁.trans hdone, h₂, h₃.trans hle, hread⟩
  | copyingFailures _ _ _ _ _ =>
    obtain ⟨p₁, p₂, p₃, hfirst, h₁, h₂, h₃, h₄, hread⟩ := h
    exact ⟨p₁, p₂, p₃, hfirst, h₁.trans hdone, h₂, h₃, h₄.trans hle, hread⟩
  | reported report =>
    obtain ⟨p₁, p₂, p₃, p₄, hread⟩ := h
    obtain ⟨hfirst, h₁, h₂⟩ := hread.failures
    obtain ⟨h₃, h₄, h₅⟩ := hread.statuses
    exact ⟨p₁, p₂, p₃, p₄, { hread with failures := ⟨hfirst, h₁, h₂.trans hdone⟩, statuses := ⟨h₃, h₄, h₅.trans hle⟩ }⟩
  | _ => exact h.trans hdone

/-- What main leaves alone. -/
structure Untouched (s s' : State) : Prop where
  statusCodes : s'.statusCodes = s.statusCodes
  failures : s'.failures = s.failures
  sent : s'.sent = s.sent
  settled : s'.settled = s.settled
  traffic : s'.traffic = s.traffic ∨ s.traffic = .unstarted ∧ s.sent = [] ∧ s'.traffic = .testing 0 ∧ s.main.isReading = false
  idle : Idle s.main s.traffic s.sent → Idle s'.main s'.traffic s'.sent
  reading : s.main.isReading = true → s'.main.isReading = true

theorem untouched_main (h : Idle s.main s.traffic s.sent) {event : Event} (hs : s.mainStep args event = some s') : Untouched s s' := by
  obtain ⟨main, traffic, stop, statusCodes, failures, commands, outputs, sent, settled⟩ := s
  cases event with
  | output payload =>
    cases main with
    | checking | deleting _ | listing _ =>
      simp only [State.mainStep] at hs
      repeat' split at hs
      all_goals
        cases hs
        exact ⟨rfl, rfl, rfl, rfl, .inl rfl, fun h => by first | exact h | trivial, nofun⟩
    | _ => cases hs
  | clock now =>
    cases main with
    | testing _ =>
      simp only [State.mainStep] at hs
      split at hs <;> cases hs <;> exact ⟨rfl, rfl, rfl, rfl, .inl rfl, fun _ => trivial, nofun⟩
    | starting _ _ =>
      simp only [State.mainStep] at hs
      split at hs <;> cases hs <;> exact ⟨rfl, rfl, rfl, rfl, .inr ⟨h.1, h.2, rfl, rfl⟩, fun _ => trivial, nofun⟩
    | leaving _ =>
      cases hs
      exact ⟨rfl, rfl, rfl, rfl, .inl rfl, fun _ => trivial, nofun⟩
    | _ => cases hs
  | awake =>
    cases main with
    | pausing _ | stopping _ _ =>
      cases hs
      exact ⟨rfl, rfl, rfl, rfl, .inl rfl, fun _ => trivial, nofun⟩
    | _ => cases hs
  | joined =>
    cases main with
    | joining _ _ =>
      simp only [State.mainStep] at hs
      split at hs <;> cases hs <;> exact ⟨rfl, rfl, rfl, rfl, .inl rfl, fun _ => trivial, nofun⟩
    | _ => cases hs
  | turn =>
    cases main with
    | summing _ _ | totalling _ _ _ | copyingCodes _ _ _ _ | copyingFailures _ _ _ _ _ =>
      cases hs
      exact ⟨rfl, rfl, rfl, rfl, .inl rfl, fun _ => trivial, fun _ => rfl⟩
    | _ => cases hs
  | test | settle | count | waited => cases hs

theorem Untouched.tallied (hs : Untouched s s') (h : Tallied args s.traffic s.statusCodes s.failures s.sent s.settled) :
    Tallied args s'.traffic s'.statusCodes s'.failures s'.sent s'.settled := by
  rw [hs.statusCodes, hs.failures, hs.sent, hs.settled]
  rcases hs.traffic with ht | ⟨hidle, hsent, ht, -⟩
  · rwa [ht]
  · rw [hidle, hsent] at h
    rw [hsent, ht]
    exact h.starts

theorem Untouched.closed (hs : Untouched s s') : closed s'.traffic s'.settled = closed s.traffic s.settled := by
  rw [hs.settled]
  rcases hs.traffic with ht | ⟨hidle, -, ht, -⟩
  · rw [ht]
  · rw [hidle, ht]
    rfl

theorem readAfter_main {first : List Attempt} (h : Tallied args s.traffic s.statusCodes s.failures s.sent s.settled)
    (hread : ReadAfter first (closed s.traffic s.settled) s.settled s.main) {event : Event}
    (hs : s.mainStep args event = some s') : ReadAfter first (closed s.traffic s.settled) s.settled s'.main := by
  obtain ⟨main, traffic, stop, statusCodes, failures, commands, outputs, sent, settled⟩ := s
  have hclosed := closed_prefix traffic settled
  cases event with
  | output payload =>
    cases main with
    | checking | deleting _ | listing _ =>
      simp only [State.mainStep] at hs
      repeat' split at hs
      all_goals
        cases hs
        exact hread
    | _ => cases hs
  | clock now =>
    cases main with
    | testing _ | starting _ _ =>
      simp only [State.mainStep] at hs
      split at hs <;> cases hs <;> exact hread
    | leaving _ =>
      cases hs
      exact hread
    | _ => cases hs
  | awake =>
    cases main with
    | pausing _ | stopping _ _ =>
      cases hs
      exact hread
    | _ => cases hs
  | joined =>
    cases main with
    | joining _ _ =>
      simp only [State.mainStep] at hs
      split at hs <;> cases hs <;> exact hread
    | _ => cases hs
  | turn =>
    cases main with
    | summing _ _ =>
      cases hs
      exact ⟨_, hread, List.prefix_rfl, by rw [h.types, total_typesOf]⟩
    | totalling _ _ _ =>
      obtain ⟨p₁, hfirst, h₁, hfailures⟩ := hread
      cases hs
      exact ⟨p₁, settled, hfirst, h₁, h₁.trans hclosed, List.prefix_rfl, hfailures, by rw [h.codes, total_codesOf]⟩
    | copyingCodes _ _ _ _ =>
      obtain ⟨p₁, p₂, hfirst, h₁, h₂, h₃, hfailures, hrequests⟩ := hread
      cases hs
      exact ⟨p₁, p₂, settled, hfirst, h₁, h₂, h₃, List.prefix_rfl, hfailures, hrequests, h.codes⟩
    | copyingFailures _ _ _ _ _ =>
      obtain ⟨p₁, p₂, p₃, hfirst, h₁, h₂, h₃, h₄, hfailures, hrequests, hcodes⟩ := hread
      cases hs
      exact ⟨p₁, p₂, p₃, _, ⟨hfirst, h₁, List.prefix_rfl⟩, ⟨h₂, h₃, h₄⟩, hfailures, hrequests,
        congrArg Dict.sortedItems hcodes, congrArg Dict.sortedItems h.types⟩
    | _ => cases hs
  | test | settle | count | waited => cases hs

theorem idle_traffic {main : Main} (h : Idle main s.traffic s.sent) {event : Event}
    (hs : s.trafficStep args event = some s') : Idle main s'.traffic s'.sent := by
  cases main with
  | checking | starting _ _ =>
    have hidle : s.traffic = .unstarted := h.1
    cases event <;> simp [State.trafficStep, hidle] at hs
  | _ => trivial

/-- What a run keeps of the counters and of their readings. -/
structure Counted (args : Args) (first : List Attempt) (s : State) : Prop where
  idle : Idle s.main s.traffic s.sent
  tallied : Tallied args s.traffic s.statusCodes s.failures s.sent s.settled
  read : ReadAfter first (closed s.traffic s.settled) s.settled s.main

theorem Counted.step {first : List Attempt} (h : Counted args first s) (hs : State.Follows args s s') :
    Counted args first s' ∧
      (s.main.isReading = true → s.traffic.isOver = true →
        s'.main.isReading = true ∧ s'.traffic.isOver = true ∧ s'.settled = s.settled) := by
  obtain ⟨event, hmain | htraffic⟩ := hs
  · have hkept := untouched_main h.idle hmain
    have hread := readAfter_main h.tallied h.read hmain
    refine ⟨⟨hkept.idle h.idle, hkept.tallied h.tallied, ?_⟩, fun hreading hover => ⟨hkept.reading hreading, ?_, hkept.settled⟩⟩
    · rwa [hkept.closed, hkept.settled]
    · rcases hkept.traffic with ht | ⟨-, -, -, hnot⟩
      · rwa [ht]
      · rw [hnot] at hreading
        cases hreading
  · obtain ⟨htallied, hprogressed, hsame⟩ := tallied_traffic h.tallied htraffic
    refine ⟨⟨?_, htallied, ?_⟩, fun hreading hover => ⟨hsame ▸ hreading, hprogressed.ended hover⟩⟩
    · rw [hsame]
      exact idle_traffic h.idle htraffic
    · rw [hsame]
      exact h.read.later hprogressed.fuller hprogressed.longer

theorem Counted.steps {first : List Attempt} (h : Counted args first s) (hs : ReflTransGen (State.Follows args) s s') :
    Counted args first s' ∧
      (s.main.isReading = true → s.traffic.isOver = true →
        s'.main.isReading = true ∧ s'.traffic.isOver = true ∧ s'.settled = s.settled) := by
  induction hs with
  | refl => exact ⟨h, fun hreading hover => ⟨hreading, hover, rfl⟩⟩
  | tail _ hstep ih =>
    obtain ⟨hcounted, hkept⟩ := ih
    obtain ⟨hcounted', hkept'⟩ := hcounted.step hstep
    refine ⟨hcounted', fun hreading hover => ?_⟩
    obtain ⟨hr, ho, hsettled⟩ := hkept hreading hover
    obtain ⟨hr', ho', hsettled'⟩ := hkept' hr ho
    exact ⟨hr', ho', hsettled'.trans hsettled⟩

theorem counted_start : Counted args [] (State.start args) :=
  ⟨⟨rfl, rfl⟩, ⟨rfl, rfl, nofun, rfl, nofun, rfl, nofun, nofun⟩, List.prefix_rfl⟩

theorem counted (hs : s.Reachable args) : Counted args [] s := (counted_start.steps hs).1

/-- From the end of the wait on, main reads no less than what was counted then. -/
theorem Counted.summing {watch : Watch} {recoverySeconds : Int} {first : List Attempt} (h : Counted args first s)
    (hmain : s.main = .summing watch recoverySeconds) : Counted args (closed s.traffic s.settled) s :=
  ⟨h.idle, h.tallied, by rw [hmain]; exact List.prefix_rfl⟩

theorem reading_main {event : Event} (hs : s.mainStep args event = some s') (hreading : s'.main.isReading = true) :
    s.main.isReading = true ∨ ∃ watch recoverySeconds, s'.main = .summing watch recoverySeconds := by
  obtain ⟨main, traffic, stop, statusCodes, failures, commands, outputs, sent, settled⟩ := s
  cases event with
  | output payload =>
    cases main with
    | checking | deleting _ | listing _ =>
      simp only [State.mainStep] at hs
      repeat' split at hs
      all_goals
        cases hs
        cases hreading
    | _ => cases hs
  | clock now =>
    cases main with
    | testing _ | starting _ _ =>
      simp only [State.mainStep] at hs
      split at hs <;> cases hs <;> cases hreading
    | leaving _ =>
      cases hs
      cases hreading
    | _ => cases hs
  | awake =>
    cases main with
    | pausing _ | stopping _ _ =>
      cases hs
      cases hreading
    | _ => cases hs
  | joined =>
    cases main with
    | joining watch recoverySeconds =>
      simp only [State.mainStep] at hs
      split at hs
      · cases hs
        exact .inr ⟨watch, recoverySeconds, rfl⟩
      · cases hs
        cases hreading
    | _ => cases hs
  | turn =>
    cases main with
    | summing _ _ | totalling _ _ _ | copyingCodes _ _ _ _ | copyingFailures _ _ _ _ _ => exact .inl rfl
    | _ => cases hs
  | test | settle | count | waited => cases hs

/-- The state in which main stops waiting for the other thread. -/
theorem waited (hs : s.Reachable args) (hreading : s.main.isReading = true) :
    ∃ ended watch recoverySeconds, ended.Reachable args ∧ ended.main = .summing watch recoverySeconds ∧
      ReflTransGen (State.Follows args) ended s := by
  induction hs with
  | refl => cases hreading
  | @tail c c' hc hstep ih =>
    have later : c.main.isReading = true → ∃ ended watch recoverySeconds, ended.Reachable args ∧
        ended.main = .summing watch recoverySeconds ∧ ReflTransGen (State.Follows args) ended c' := by
      intro h
      obtain ⟨ended, watch, recoverySeconds, hended, hmain, hafter⟩ := ih h
      exact ⟨ended, watch, recoverySeconds, hended, hmain, hafter.tail hstep⟩
    obtain ⟨event, hmain | htraffic⟩ := id hstep
    · rcases reading_main hmain hreading with h | ⟨watch, recoverySeconds, hsumming⟩
      · exact later h
      · exact ⟨c', watch, recoverySeconds, hc.tail hstep, hsumming, .refl⟩
    · obtain ⟨-, -, hsame⟩ := tallied_traffic (counted hc).tallied htraffic
      exact later (hsame ▸ hreading)

/-- Answered with another status than 200, and counted among the statuses and the failures. -/
def Attempt.isHttpFailure (attempt : Attempt) : Bool := attempt.statusCode.isSome && attempt.failureType.isSome

theorem Attempt.counts (attempt : Attempt) :
    (if attempt.statusCode.isSome = true then 1 else 0) + (if attempt.failureType.isSome = true then 1 else 0) =
      (if attempt.isCaught = true then 1 else 0) + (if attempt.isHttpFailure = true then 1 else 0) := by
  cases attempt with
  | response code => by_cases h : code = 200 <;> simp [statusCode, failureType, isCaught, isHttpFailure, h]
  | _ => rfl

theorem statuses_add_failures (attempts : List Attempt) :
    statusesOf attempts + failuresOf attempts =
      attempts.countP Attempt.isCaught + attempts.countP Attempt.isHttpFailure := by
  induction attempts with
  | nil => rfl
  | cons attempt attempts ih =>
    simp only [statusesOf, failuresOf, List.countP_cons] at ih ⊢
    have h := attempt.counts
    omega

/-! The report. -/

/-- The exit status is zero only after a recovery, with no failure counted: one Pod of the first
inventory was deleted and is gone, and in its place is a Ready Pod of another name. -/
structure Verdict (args : Args) (s : State) (report : Report) : Prop where
  deleted : Deleted args s.commands s.outputs report.before report.deletedPod
  recovered : report.recovered = true → Recovered s.outputs report.before report.after report.deletedPod
  replaced : report.recovered = true → report.deletedPod.name ∉ names report.after ∧ report.readyReplicasAfter = 2 ∧
    ∃ replacement, report.replacementPod = some replacement ∧ replacement ∈ readyPods report.after ∧
      replacement.name ∉ names report.before
  exitStatus : report.exitStatus = 0 ↔ report.recovered = true ∧ report.unexpectedFailures = 0

theorem hasRecovered_iff {after : List Pod} : hasRecovered before after deleted = true ↔
    (readyPods after).length = 2 ∧ deleted.name ∉ names after ∧ ∃ pod ∈ readyPods after, pod.name ∉ names before := by
  simp [hasRecovered, and_assoc]

theorem recovery_judged {report : Report} (hs : s.Reachable args) (hmain : s.main = .reported report) : Verdict args s report := by
  have h := watched hs
  rw [hmain] at h
  obtain ⟨hdeleted, hrecovered, hreplacement, hready⟩ := h
  have hreplaced : report.recovered = true → report.deletedPod.name ∉ names report.after ∧ report.readyReplicasAfter = 2 ∧
      ∃ replacement, report.replacementPod = some replacement ∧ replacement ∈ readyPods report.after ∧
        replacement.name ∉ names report.before := by
    intro hr
    obtain ⟨htwo, hgone, pod, hpod, hname⟩ := hasRecovered_iff.mp (hrecovered hr).2
    refine ⟨hgone, hready.trans htwo, ?_⟩
    have hsome : ((readyPods report.after).find? fun pod => !(names report.before).contains pod.name).isSome :=
      List.find?_isSome.mpr ⟨pod, hpod, by simpa using hname⟩
    obtain ⟨replacement, hfound⟩ := Option.isSome_iff_exists.mp hsome
    have hnew := List.find?_some hfound
    exact ⟨replacement, hreplacement.trans hfound, List.mem_of_find?_eq_some hfound, by simpa using hnew⟩
  refine ⟨hdeleted, hrecovered, hreplaced, ?_⟩
  rw [Report.exitStatus]
  constructor
  · intro hzero
    split at hzero
    · rename_i hgood
      simp only [Bool.and_eq_true, decide_eq_true_eq] at hgood
      exact hgood.1
    · cases hzero
  · rintro ⟨hr, hnone⟩
    simp [hr, hnone, (hreplaced hr).2.1]

/-- What the report says of the requests when the thread was over by the end of the wait. An
answer with an error status counts as two requests, an exception that ends the thread as none. -/
structure Complete (args : Args) (sent : List String) (settled : List Attempt) (report : Report) : Prop where
  sent : sent = (List.range settled.length).map fun i => baseUrlOf i args.baseUrl
  caught : ∀ attempt ∈ settled.dropLast, attempt.isCaught = true
  unexpectedFailures : report.unexpectedFailures = failuresOf settled
  requests : report.requests = settled.countP Attempt.isCaught + settled.countP Attempt.isHttpFailure
  statusCodes : ∀ code, (Dict.get? report.statusCodes code).getD 0 = (settled.filterMap Attempt.statusCode).count code
  failureTypes : ∀ failureType, (Dict.get? report.failureTypes failureType).getD 0 =
    (settled.filterMap Attempt.failureType).count failureType
  exitStatus : report.exitStatus = 0 ↔
    report.recovered = true ∧ ∀ attempt ∈ settled, attempt = .response 200 ∨ attempt.isCaught = false

/-- The report counts at least what was counted when main stopped waiting, at most what is
counted now, and everything if the thread was over by then. -/
structure Accounted (args : Args) (ended s : State) (report : Report) : Prop where
  follows : ended.Reachable args ∧ ReflTransGen (State.Follows args) ended s
  waited : ∃ watch recoverySeconds, ended.main = .summing watch recoverySeconds
  read : ∃ p₁ p₂ p₃ p₄, ReadAt (closed ended.traffic ended.settled) (closed s.traffic s.settled) s.settled p₁ p₂ p₃ p₄ report
  complete : ended.traffic.isOver = true → Complete args ended.sent ended.settled report

theorem getD_sorted_counter (ks : List String) (k : String) :
    (Dict.get? (Dict.sortedItems (Dict.counter ks)) k).getD 0 = ks.count k := by
  rw [Dict.get?_sorted_counter]
  split
  · rename_i h
    exact h.symm
  · rfl

theorem failuresOf_eq_zero {attempts : List Attempt} :
    failuresOf attempts = 0 ↔ ∀ attempt ∈ attempts, attempt = .response 200 ∨ attempt.isCaught = false := by
  rw [failuresOf, List.countP_eq_zero]
  refine forall₂_congr fun attempt _ => ?_
  cases attempt <;> simp [Attempt.failureType, Attempt.isCaught]

theorem closed_of_over (h : traffic.isOver = true) : closed traffic settled = settled := by
  cases traffic with
  | returned | died => rfl
  | _ => cases h

theorem requests_accounted {report : Report} (hs : s.Reachable args) (hmain : s.main = .reported report) :
    ∃ ended, Accounted args ended s report := by
  obtain ⟨ended, watch, recoverySeconds, hended, hsumming, hafter⟩ := waited hs (by rw [hmain]; rfl)
  obtain ⟨hcounted, hkept⟩ := ((counted hended).summing hsumming).steps hafter
  have hread := hcounted.read
  rw [hmain] at hread
  refine ⟨ended, ⟨hended, hafter⟩, ⟨watch, recoverySeconds, hsumming⟩, hread, fun hover => ?_⟩
  obtain ⟨-, hover', hsettled⟩ := hkept (by rw [hsumming]; rfl) hover
  obtain ⟨p₁, p₂, p₃, p₄, hread⟩ := hread
  obtain ⟨hfirst, h₁₄, h₄⟩ := hread.failures
  obtain ⟨h₁₂, h₂₃, h₃⟩ := hread.statuses
  rw [closed_of_over hover] at hfirst
  rw [closed_of_over hover', hsettled] at h₄
  rw [hsettled] at h₃
  -- every reading lies between the settled requests and themselves
  obtain rfl : p₁ = ended.settled := (h₁₄.trans h₄).eq_of_length_le hfirst.length_le
  obtain rfl : p₂ = ended.settled := (h₂₃.trans h₃).eq_of_length_le h₁₂.length_le
  obtain rfl : p₃ = ended.settled := h₃.eq_of_length_le h₂₃.length_le
  obtain rfl : p₄ = ended.settled := h₄.eq_of_length_le h₁₄.length_le
  have htallied := (counted hended).tallied
  have heach := htallied.each
  have hidle : ended.traffic.isSending = false := by
    cases ht : ended.traffic with
    | returned | died => rfl
    | _ =>
      rw [ht] at hover
      cases hover
  rw [hidle] at heach
  refine ⟨?_, htallied.caught, hread.unexpectedFailures, ?_, ?_, ?_, ?_⟩
  · rw [show ended.settled.length = ended.sent.length from heach]
    exact htallied.turns
  · rw [hread.requests, hread.unexpectedFailures, statuses_add_failures]
  · intro code
    rw [hread.statusCodes, codesOf, getD_sorted_counter]
  · intro failureType
    rw [hread.failureTypes, typesOf, getD_sorted_counter]
  · rw [(recovery_judged hs hmain).exitStatus, hread.unexpectedFailures, failuresOf_eq_zero]

/-! A recovery during which one lookup is answered with 503. -/

def State.follow (args : Args) (self : State) (event : Event) : Option State :=
  (self.mainStep args event).or (self.trafficStep args event)

theorem reachable_of_follow {events : List Event} (hs : s.Reachable args)
    (h : events.foldlM (State.follow args) s = some s') : s'.Reachable args := by
  induction events generalizing s with
  | nil =>
    cases h
    exact hs
  | cons event events ih =>
    obtain ⟨next, hnext, hrest⟩ := Option.bind_eq_some_iff.mp h
    refine ih (hs.tail ⟨event, ?_⟩) hrest
    exact (Option.or_eq_some_iff.mp hnext).imp_right And.right

def podJson (name node : String) : Json :=
  .object [("metadata", .object [("name", .str name)]), ("spec", .object [("nodeName", .str node)]),
    ("status", .object [("phase", .str "Running"), ("containerStatuses", .array [.object [("ready", .bool true)]])])]

def podsJson (pods : List (String × String)) : Json := .object [("items", .array (pods.map fun pod => podJson pod.1 pod.2))]

def twoPods : Args := ⟨"ip-country-api", "app.kubernetes.io/instance=ip-country-api", ["https://one.test/", "https://two.test"], 180⟩

def oneFailure : List Event :=
  [.output (podsJson [("api-b", "two"), ("api-a", "one")]), .clock 0, .test, .output (some .null), .settle (.httpError 503), .clock 1,
    .output (podsJson [("api-b", "two"), ("api-c", "one")]), .count, .clock 2, .waited, .test, .settle (.response 200), .awake,
    .waited, .test, .joined, .turn, .turn, .turn, .turn]

def Main.report? : Main → Option Report
  | .reported report => some report
  | _ => none

theorem Main.report?_eq_some {main : Main} {report : Report} (h : main.report? = some report) : main = .reported report := by
  cases main with
  | reported =>
    cases h
    rfl
  | _ => cases h

/-- A report of a recovery during which one of two lookups failed, after more than one command. -/
def reportsFailure (s : State) : Bool :=
  s.main.report?.any (fun report => report.recovered && report.requests == 3 && report.exitStatus == 1) &&
    s.commands.length != 1

theorem oneFailure_run : ∃ s report, State.Reachable twoPods s ∧ s.main = .reported report ∧
    s.commands ≠ [getPods twoPods] ∧ report.recovered = true ∧ report.requests = 3 ∧ report.exitStatus = 1 := by
  have h : (oneFailure.foldlM (State.follow twoPods) (.start twoPods)).any reportsFailure = true := by
    decide +kernel
  obtain ⟨s, hrun, hs⟩ := (Option.any_eq_true _ _).mp h
  obtain ⟨hreport, hlength⟩ := Bool.and_eq_true_iff.mp hs
  obtain ⟨report, hmain, hreport⟩ := (Option.any_eq_true _ _).mp hreport
  simp only [Bool.and_eq_true, beq_iff_eq] at hreport
  refine ⟨s, report, reachable_of_follow .refl hrun, Main.report?_eq_some hmain, ?_, hreport.1.1, hreport.1.2, hreport.2⟩
  intro hcommands
  rw [hcommands] at hlength
  cases hlength

theorem deletes_once_example : ∃ s, State.Reachable twoPods s ∧
    ∃ before deleted, Deleted twoPods s.commands s.outputs before deleted := by
  obtain ⟨s, report, hs, hmain, hcommands, -⟩ := oneFailure_run
  exact ⟨s, hs, (deletes_once hs).resolve_left hcommands⟩

theorem recovery_judged_example : ∃ s report, report.recovered = true ∧ Verdict twoPods s report := by
  obtain ⟨s, report, hs, hmain, -, hrecovered, -⟩ := oneFailure_run
  exact ⟨s, report, hrecovered, recovery_judged hs hmain⟩

theorem requests_accounted_example : ∃ s report, report.requests = 3 ∧ ∃ ended, Accounted twoPods ended s report := by
  obtain ⟨s, report, hs, hmain, -, -, hrequests, -⟩ := oneFailure_run
  exact ⟨s, report, hrequests, requests_accounted hs hmain⟩

end IpCountryApi.Operations.PodRecovery
