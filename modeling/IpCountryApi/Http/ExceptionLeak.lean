import IpCountryApi.Http.ServeRuns
import IpCountryApi.Library.Transcripts

/-! Two runs of one request that differ in an unexpected exception alone: what differs in
their responses and in their log lines. -/
namespace IpCountryApi.Http
open Library Domain Execution Observability

/-- Lines printed, newest first. -/
def printed (h : Past) : List String :=
  h.filterMap fun e =>
    match e.query with
    | .print line => some line
    | _ => none

/-- The query has an answer worth comparing. -/
def told (e : Answered) : Bool :=
  match e.query with
  | .print _ | .send _ | .metric _ | .contextReset _ => false
  | _ => true

/-- The same answer, or another unexpected exception of the same call. -/
def Alike (e₁ e₂ : Answered) : Prop :=
  e₁ = e₂ ∨ e₁.query = e₂.query ∧ ∃ f₁ f₂, fault e₁ = some f₁ ∧ fault e₂ = some f₂ ∧
    f₁.kind ≠ .cancelled ∧ f₂.kind ≠ .cancelled

/-- Two runs got the same answers, up to the unexpected exceptions. -/
def SameButFaults (h₁ h₂ : Past) : Prop := List.Forall₂ Alike (h₁.filter told) (h₂.filter told)

/-- Everything that leaves the process is the same. -/
def SameOutput (h₁ h₂ : Past) : Prop := sent h₁ = sent h₂ ∧ printed h₁ = printed h₂

theorem printed_mute {older newer : Past} (hx : Extends mute older newer) : printed newer = printed older :=
  hx.filterMap_eq fun e he => by
    obtain ⟨q, r⟩ := e
    cases q <;> simp [mute] at he ⊢

theorem printed_of_fault {e : Answered} {f : Foreign} (hf : fault e = some f) (h : Past) : printed (e :: h) = printed h := by
  obtain ⟨q, r⟩ := e
  cases q with
  | print line => cases hf
  | _ => rfl

/-- Answers that are not worth comparing are all the same. -/
theorem told_of_ne {q : Query} {r₁ r₂ : Reply q} (hne : r₁ ≠ r₂) (r : Reply q) : told ⟨q, r⟩ = true := by
  cases q with
  | print | send | metric | contextReset => exact absurd rfl hne
  | _ => rfl

/-- The first answers in which two such runs differ are unexpected exceptions. -/
theorem SameButFaults.parting {common rest₁ rest₂ : Past} {q : Query} {r₁ r₂ : Reply q} (hne : r₁ ≠ r₂)
    (h : SameButFaults (common ++ ⟨q, r₁⟩ :: rest₁).reverse (common ++ ⟨q, r₂⟩ :: rest₂).reverse) :
    ∃ f₁ f₂, fault ⟨q, r₁⟩ = some f₁ ∧ fault ⟨q, r₂⟩ = some f₂ ∧ f₁.kind ≠ .cancelled ∧ f₂.kind ≠ .cancelled := by
  rw [SameButFaults, List.filter_reverse, List.filter_reverse, List.forall₂_reverse_iff, List.filter_append,
    List.filter_append, List.filter_cons_of_pos (told_of_ne hne r₁), List.filter_cons_of_pos (told_of_ne hne r₂)] at h
  have hdrop := List.forall₂_drop (common.filter told).length h
  rw [List.drop_left, List.drop_left] at hdrop
  rcases (List.forall₂_cons.mp hdrop).1 with he | ⟨_, halike⟩
  · cases he
    exact absurd rfl hne
  · exact halike

/-- An element that is the only one of its kind splits a list in one way. -/
private theorem split_unique {β : Type} {p : β → Bool} {a b : β} {l l' m m' : List β} (h : l ++ a :: m = l' ++ b :: m')
    (ha : p a = true) (hl : ∀ x ∈ l', p x = false) (hm : ∀ x ∈ m', p x = false) : a = b ∧ m = m' := by
  induction l generalizing l' with
  | nil =>
    cases l' with
    | nil => exact List.cons.inj h
    | cons x l' =>
      have hx := hl x List.mem_cons_self
      rw [← (List.cons.inj h).1, ha] at hx
      cases hx
  | cons y l ih =>
    cases l' with
    | nil =>
      have hmem : a ∈ m' := (List.cons.inj h).2 ▸ List.mem_append_right _ List.mem_cons_self
      rw [hm a hmem] at ha
      cases ha
    | cons x l' => exact ih (List.cons.inj h).2 fun x hx => hl x (List.mem_cons_of_mem _ hx)

section Failures
variable {app : Application} {request : Request} {newer older : Past} {e : Answered} {f : Foreign}

/-- What logging the failure prints. -/
def failureLine (log : LogConfig) (time : Int) : List String :=
  if LogLevel.error.severity < log.level.severity then []
  else [log.process .error "unknown" time [("error_type", .text "INTERNAL_ERROR"), ("event", .text "unexpected_request_failure")]]

/-- The time stamp of that line, if it is printed, is among the newest answers. -/
def failureTold (log : LogConfig) (time : Int) : Past :=
  ⟨.contextGet, none⟩ :: if LogLevel.error.severity < log.level.severity then [] else [⟨.timestamp, time⟩]

theorem printed_afterwards {before : Past} (time : Int) (hk : f.kind ≠ .cancelled) (left : contextAfter before = none) :
    printed (app.afterwards f time before) = crashLine f :: (failureLine app.replica.log time ++ printed before) := by
  rw [Application.afterwards, if_neg hk, failureLine, logged, left]
  split <;> rfl

theorem told_afterwards {before : Past} (time : Int) (hk : f.kind ≠ .cancelled) :
    ∃ rest, (app.afterwards f time before).filter told = failureTold app.replica.log time ++ rest := by
  rw [Application.afterwards, if_neg hk, failureTold, logged]
  split
  · exact ⟨before.filter told, rfl⟩
  · exact ⟨⟨.contextGet, contextAfter before⟩ :: before.filter told, rfl⟩

/-- A request in which an unexpected exception was raised: everything it has sent and printed,
and the newest answers it got. -/
theorem ServeRun.leak (hs : ServeRun app request (newer ++ e :: older)) (hf : fault e = some f) (hk : f.kind ≠ .cancelled) :
    ∃ time, sent (newer ++ e :: older) = [internalError] ∧ faults (newer ++ e :: older) = [f] ∧
      printed (newer ++ e :: older) = crashLine f :: (failureLine app.replica.log time ++ printed older) ∧
      ∃ rest, (newer ++ e :: older).filter told = failureTold app.replica.log time ++ rest := by
  have hraised : f ∈ faults (newer ++ e :: older) := List.mem_filterMap.mpr ⟨e, by simp, hf⟩
  rcases hs.ending with ⟨hu, _⟩ | ⟨_, f', time, before, heq, hsent, _, left, origin⟩
  · rw [hu.1] at hraised
    cases hraised
  · have hfaults : faults (newer ++ e :: older) = faults before := by rw [heq, faults_afterwards]
    have hone := origin.faults_eq
    cases origin with
    | redirect _ _ calls _ | path _ _ calls _ =>
      rw [hfaults, calls] at hraised
      cases hraised
    | @call before' e' raised first rest _ _ =>
      obtain ⟨last, hlast, quiet⟩ := afterwards_extends app f' time before
      obtain ⟨added, hadded, hmute⟩ := rest
      have hsplit : newer ++ e :: older = (last ++ added) ++ e' :: before' := by
        rw [heq, hlast, hadded, List.append_assoc]
      obtain ⟨rfl, rfl⟩ := split_unique (p := fun e => (fault e).isSome) hsplit (by simp [hf])
        (fun x hx => by
          rcases List.mem_append.mp hx with hx | hx
          · simpa using quiet x hx
          · simpa using (Bool.and_eq_true_iff.mp (hmute x hx)).1)
        (fun x hx => by simpa using List.filterMap_eq_nil_iff.mp first x hx)
      obtain rfl : f' = f := Option.some.inj (raised.symm.trans hf)
      have ho : outermost f' = internalError := if_neg hk
      have hprinted : printed before = printed older := by
        rw [printed_mute ⟨added, hadded, hmute⟩, printed_of_fault raised]
      refine ⟨time, hsent.trans (by rw [ho]), ?_, ?_, heq ▸ told_afterwards time hk⟩
      · refine hfaults.trans (hone.resolve_right fun hnone => ?_)
        rw [hfaults, hnone.1] at hraised
        cases hraised
      · rw [heq, printed_afterwards time hk left, hprinted]

end Failures

theorem crashLine_inj {f₁ f₂ : Foreign} : crashLine f₁ = crashLine f₂ ↔ f₁.traceback = f₂.traceback :=
  String.append_right_inj _

/-- Aligned answers after the exception have the same time stamp, if there is one. -/
private theorem failureLine_eq {log : LogConfig} {time₁ time₂ : Int} {rest₁ rest₂ : Past}
    (h : List.Forall₂ Alike (failureTold log time₁ ++ rest₁) (failureTold log time₂ ++ rest₂)) :
    failureLine log time₁ = failureLine log time₂ := by
  unfold failureTold at h
  unfold failureLine
  split
  · rfl
  · rename_i hl
    rw [if_neg hl, if_neg hl] at h
    rcases (List.forall₂_cons.mp (List.forall₂_cons.mp h).2).1 with he | ⟨_, _, _, hf, _⟩
    · cases he
      rfl
    · cases hf

variable {T : InetType} {apps : Nat → Application} {w₁ w₂ : World T}
  {c₁ c₂ : Config Query Reply Exn Unit HttpJob (World T)}

/-- Two finished runs of one request that differ in an unexpected exception alone have the
same output if and only if its traceback is the same. -/
theorem same_output_iff (hw₁ : ∀ i, w₁.context i = none) (hw₂ : ∀ i, w₂.context i = none)
    (hc₁ : (serving T apps).Reachable w₁ c₁) (hc₂ : (serving T apps).Reachable w₂ c₂)
    {t₁ t₂ : Task Query Reply Exn Unit HttpJob} (ht₁ : t₁ ∈ c₁.tasks) (ht₂ : t₂ ∈ c₂.tasks)
    {x₁ x₂ : Except Exn Unit} (hx₁ : t₁.Finished x₁) (hx₂ : t₂.Finished x₂) (hjob : t₁.job = t₂.job)
    (halike : SameButFaults t₁.history t₂.history) :
    SameOutput t₁.history t₂.history ↔
      (faults t₁.history).map Foreign.traceback = (faults t₂.history).map Foreign.traceback := by
  have run₁ := finished_serve hw₁ hc₁ ht₁ hx₁
  have run₂ := finished_serve hw₂ hc₂ ht₂ hx₂
  have runs₁ := hc₁.runs ht₁ hx₁
  have runs₂ := hc₂.runs ht₂ hx₂
  obtain ⟨job, _, h₁⟩ := t₁
  obtain ⟨_, _, h₂⟩ := t₂
  obtain rfl : job = _ := hjob
  simp only at *
  rcases runs₁.part runs₂ with ⟨he, _⟩ | ⟨common, q, r₁, r₂, rest₁, rest₂, hne, he₁, he₂⟩
  · obtain rfl := List.reverse_injective he
    exact iff_of_true ⟨rfl, rfl⟩ rfl
  · obtain rfl := List.reverse_eq_iff.mp he₁
    obtain rfl := List.reverse_eq_iff.mp he₂
    obtain ⟨f₁, f₂, hf₁, hf₂, hk₁, hk₂⟩ := halike.parting hne
    simp only [List.reverse_append, List.reverse_cons, List.append_assoc, List.singleton_append] at run₁ run₂ halike ⊢
    obtain ⟨time₁, sent₁, faults₁, printed₁, rest₁, told₁⟩ := run₁.leak hf₁ hk₁
    obtain ⟨time₂, sent₂, faults₂, printed₂, rest₂, told₂⟩ := run₂.leak hf₂ hk₂
    rw [SameButFaults, told₁, told₂] at halike
    rw [SameOutput, sent₁, sent₂, printed₁, printed₂, faults₁, faults₂, failureLine_eq halike]
    simp only [List.map_singleton, List.cons.injEq, crashLine_inj, and_true, true_and]

/-- A test for two answers of the runs below. -/
def alikeTest : Answered → Answered → Bool
  | ⟨.clock, t₁⟩, ⟨.clock, t₂⟩ => t₁ = t₂
  | ⟨.perfCounter, t₁⟩, ⟨.perfCounter, t₂⟩ => t₁ = t₂
  | ⟨.contextGet, value₁⟩, ⟨.contextGet, value₂⟩ => value₁ = value₂
  | ⟨.contextSet id₁, token₁⟩, ⟨.contextSet id₂, token₂⟩ => id₁ = id₂ && token₁ = token₂
  | ⟨.scalar key₁, .error f₁⟩, ⟨.scalar key₂, .error f₂⟩ => key₁ = key₂ &&
      [f₁, f₂].all fun f => !isSqlalchemy f.kind && f.kind ≠ .cancelled
  | _, _ => false

private theorem alike_of_test {e₁ e₂ : Answered} (h : alikeTest e₁ e₂ = true) : Alike e₁ e₂ := by
  unfold alikeTest at h
  split at h
  · exact .inl (by rw [of_decide_eq_true h])
  · exact .inl (by rw [of_decide_eq_true h])
  · exact .inl (by rw [of_decide_eq_true h])
  · obtain ⟨hid, htoken⟩ := Bool.and_eq_true_iff.mp h
    obtain rfl := of_decide_eq_true hid
    exact .inl (by rw [of_decide_eq_true htoken])
  · rename_i key₁ f₁ key₂ f₂
    simp only [List.all_cons, List.all_nil, Bool.and_eq_true, Bool.not_eq_true', decide_eq_true_eq, and_true] at h
    obtain ⟨rfl, ⟨hs₁, hk₁⟩, hs₂, hk₂⟩ := h
    exact .inr ⟨rfl, f₁, f₂, by simp [fault, hs₁], by simp [fault, hs₂], hk₁, hk₂⟩
  · cases h

private theorem forall₂_of_test {l₁ l₂ : Past} (hlength : l₁.length = l₂.length)
    (h : (l₁.zip l₂).all (fun e => alikeTest e.1 e.2) = true) : List.Forall₂ Alike l₁ l₂ :=
  List.forall₂_iff_zip.mpr ⟨hlength, fun hab => alike_of_test (List.all_eq_true.mp h _ hab)⟩

/-- A lookup whose database driver raises f. -/
def crashRun (f : Foreign) : Option (Config Query Reply Exn Unit HttpJob (World hostAddresses)) :=
  (serving hostAddresses fun _ => fakeApplication).play
    (System.launch (serving hostAddresses fun _ => fakeApplication) ⟨.start hostAddresses "0.1.0" true, []⟩ ⟨0, googleRequest⟩)
    (List.replicate 30 (.reply 0 (serverReplies none (.error f))))

def crashTest (f₁ f₂ : Foreign) : Bool :=
  (crashRun f₁).any fun c₁ => (crashRun f₂).any fun c₂ =>
    match c₁.tasks, c₂.tasks with
    | [⟨_, .done _, h₁⟩], [⟨_, .done _, h₂⟩] =>
      decide ((h₁.filter told).length = (h₂.filter told).length ∧ faults h₁ = [f₁] ∧ faults h₂ = [f₂] ∧
        printed h₁ = [crashLine f₁] ∧ printed h₂ = [crashLine f₂]) &&
      ((h₁.filter told).zip (h₂.filter told)).all fun e => alikeTest e.1 e.2
    | _, _ => false

private theorem crashRun_job {f : Foreign} {c : Config Query Reply Exn Unit HttpJob (World hostAddresses)}
    {t : Task Query Reply Exn Unit HttpJob} (h : crashRun f = some c) (ht : c.tasks = [t]) :
    (serving hostAddresses fun _ => fakeApplication).Reachable (.start hostAddresses "0.1.0" true) c ∧
      t.job = ⟨0, googleRequest⟩ := by
  have steps := System.play_steps h
  obtain ⟨t', ht', hjob, _⟩ := System.Steps.task (i := 0) steps rfl
  rw [ht, List.getElem?_cons_zero, Option.some.injEq] at ht'
  exact ⟨.head (.launch _ _) steps, ht' ▸ hjob⟩

/-- Two runs of one lookup that differ in the exception of the database driver. -/
private theorem crash_pair (f₁ f₂ : Foreign) (h : crashTest f₁ f₂ = true) : ∃ c₁ c₂ t₁ t₂ x₁ x₂,
    (serving hostAddresses fun _ => fakeApplication).Reachable (.start hostAddresses "0.1.0" true) c₁ ∧
    (serving hostAddresses fun _ => fakeApplication).Reachable (.start hostAddresses "0.1.0" true) c₂ ∧
    t₁ ∈ c₁.tasks ∧ t₂ ∈ c₂.tasks ∧ t₁.Finished x₁ ∧ t₂.Finished x₂ ∧ t₁.job = t₂.job ∧
    SameButFaults t₁.history t₂.history ∧ faults t₁.history = [f₁] ∧ faults t₂.history = [f₂] ∧
    printed t₁.history = [crashLine f₁] ∧ printed t₂.history = [crashLine f₂] := by
  simp only [crashTest, Option.any_eq_true] at h
  obtain ⟨c₁, hrun₁, c₂, hrun₂, h⟩ := h
  split at h
  · rename_i j₁ x₁ h₁ j₂ x₂ h₂ ht₁ ht₂
    obtain ⟨hd, hall⟩ := Bool.and_eq_true_iff.mp h
    obtain ⟨hlength, hf₁, hf₂, hp₁, hp₂⟩ := of_decide_eq_true hd
    obtain ⟨hc₁, hj₁⟩ := crashRun_job hrun₁ ht₁
    obtain ⟨hc₂, hj₂⟩ := crashRun_job hrun₂ ht₂
    exact ⟨c₁, c₂, ⟨j₁, .done x₁, h₁⟩, ⟨j₂, .done x₂, h₂⟩, x₁, x₂, hc₁, hc₂, by rw [ht₁]; exact List.mem_cons_self, by rw [ht₂]; exact List.mem_cons_self,
      rfl, rfl, hj₁.trans hj₂.symm, forall₂_of_test hlength hall, hf₁, hf₂, hp₁, hp₂⟩
  · cases h

/-- The text of an exception of the database driver reaches the log. -/
theorem not_same_output : ∃ c₁ c₂ t₁ t₂ x₁ x₂,
    (serving hostAddresses fun _ => fakeApplication).Reachable (.start hostAddresses "0.1.0" true) c₁ ∧
    (serving hostAddresses fun _ => fakeApplication).Reachable (.start hostAddresses "0.1.0" true) c₂ ∧
    t₁ ∈ c₁.tasks ∧ t₂ ∈ c₂.tasks ∧ t₁.Finished x₁ ∧ t₂.Finished x₂ ∧ t₁.job = t₂.job ∧
    SameButFaults t₁.history t₂.history ∧ ¬ SameOutput t₁.history t₂.history := by
  obtain ⟨c₁, c₂, t₁, t₂, x₁, x₂, hc₁, hc₂, ht₁, ht₂, hx₁, hx₂, hjob, halike, _, _, hp₁, hp₂⟩ :=
    crash_pair (runtimeError "password=hunter2") (runtimeError "") (by decide +kernel)
  refine ⟨c₁, c₂, t₁, t₂, x₁, x₂, hc₁, hc₂, ht₁, ht₂, hx₁, hx₂, hjob, halike, fun hsame => ?_⟩
  have hprinted := hsame.2
  rw [hp₁, hp₂, List.cons.injEq, crashLine_inj] at hprinted
  exact absurd hprinted.1 (by decide +kernel)

/-- Exceptions of different classes with one traceback are not told apart. -/
theorem same_output_iff_example : ∃ t₁ t₂ : Task Query Reply Exn Unit HttpJob,
    faults t₁.history ≠ faults t₂.history ∧ SameOutput t₁.history t₂.history := by
  obtain ⟨c₁, c₂, t₁, t₂, x₁, x₂, hc₁, hc₂, ht₁, ht₂, hx₁, hx₂, hjob, halike, hf₁, hf₂, _, _⟩ :=
    crash_pair (runtimeError "") { runtimeError "" with kind := .value } (by decide +kernel)
  refine ⟨t₁, t₂, by rw [hf₁, hf₂]; decide, ?_⟩
  refine (same_output_iff (fun _ => rfl) (fun _ => rfl) hc₁ hc₂ ht₁ ht₂ hx₁ hx₂ hjob halike).mpr ?_
  rw [hf₁, hf₂]
  rfl

end IpCountryApi.Http
