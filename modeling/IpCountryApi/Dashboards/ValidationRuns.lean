import IpCountryApi.Dashboards.Validation
import Mathlib.Data.List.Forall2

/-! What a run of the validation script has read and checked when it gets to its report. -/
namespace IpCountryApi.Dashboards
open Library Domain

def readPanel (appNamespace : Text) (uid : Uid) (panel : Json) : Option (List Query) := do
  let title ← panel.get? "title"
  let targets ← (panel.get? "targets").bind iterate
  let queries ← targets.mapM fun target => (readTarget appNamespace uid title target).map Option.toList
  some queries.flatten

/-- The uid of a dashboard and its expressions, which are the part of it that the report counts. -/
def readFile (appNamespace : Text) (payload : Json) : Option (Uid × List Query) := do
  let uid ← (payload.get? "uid").bind Uid.ofJson
  let queries ← (iterPanels payload).mapM (readPanel appNamespace uid)
  some (uid, queries.flatten)

/-- The query failed, by its answer. -/
def Answer.fails : Answer → Bool
  | .decoded response => !isSuccess response
  | _ => true

/-- No value of the answer is an infinity or not a number. -/
def Answer.finite : Answer → Bool
  | .decoded response =>
    ((response.get? "data").bind valuesFromResult).all fun values => values.all PyNumber.isFinite
  | _ => true

/-- The checks of queries whose answers start with the n-th. -/
def Checked (answers : Nat → Answer) (n : Nat) (queries : List Query) (checks : List Check) : Prop :=
  List.Forall₂ (fun numbered check => numbered.1.check (answers numbered.2) = some check) (queries.zipIdx n) checks

variable {appNamespace : Text} {answers : Nat → Answer} {n : Nat} {queries queries' : List Query}
  {checks checks' : List Check} {before between after : Progress}

theorem Checked.length (h : Checked answers n queries checks) : checks.length = queries.length := by
  have hlength := List.Forall₂.length_eq h
  rw [List.length_zipIdx] at hlength
  exact hlength.symm

theorem Checked.append (h : Checked answers n queries checks) (h' : Checked answers (n + queries.length) queries' checks') :
    Checked answers n (queries ++ queries') (checks ++ checks') := by
  rw [Checked, List.zipIdx_append]
  exact List.rel_append h h'

/-- A part of a file's loop that asks some queries. -/
structure Asks (answers : Nat → Answer) (queries : List Query) (before after : Progress) : Prop where
  kept : after.dashboardCounts = before.dashboardCounts
  counted : after.count = before.count + queries.length
  checked : ∃ checks, after.checks = before.checks ++ checks ∧ Checked answers before.checks.length queries checks

theorem Asks.refl (before : Progress) : Asks answers [] before before := ⟨rfl, rfl, [], by simp, .nil⟩

theorem Asks.trans (h : Asks answers queries before between) (h' : Asks answers queries' between after) :
    Asks answers (queries ++ queries') before after := by
  obtain ⟨checks, hchecks, hchecked⟩ := h.checked
  obtain ⟨checks', hchecks', hchecked'⟩ := h'.checked
  refine ⟨h'.kept.trans h.kept, ?_, checks ++ checks', ?_, hchecked.append ?_⟩
  · rw [h'.counted, h.counted, List.length_append, Nat.add_assoc]
  · rw [hchecks', hchecks, List.append_assoc]
  · rw [hchecks, List.length_append, hchecked.length] at hchecked'
    exact hchecked'

/-- A loop asks what its passes ask, one after another. -/
theorem Asks.foldlM {pass : Progress → Json → Option Progress} {read : Json → Option (List Query)} {values : List Json}
    (h : values.foldlM pass before = some after) (hpass : ∀ {before after value}, pass before value = some after →
      ∃ queries, read value = some queries ∧ Asks answers queries before after) :
    ∃ queries, values.mapM read = some queries ∧ Asks answers queries.flatten before after := by
  induction values generalizing before with
  | nil =>
    obtain rfl : before = after := Option.some.inj h
    exact ⟨[], rfl, .refl before⟩
  | cons value values ih =>
    rw [List.foldlM_cons] at h
    obtain ⟨between, hfirst, hrest⟩ := Option.bind_eq_some_iff.mp h
    obtain ⟨queries, hread, hasks⟩ := hpass hfirst
    obtain ⟨rest, hreads, hasks'⟩ := ih hrest
    refine ⟨queries :: rest, ?_, hasks.trans hasks'⟩
    rw [List.mapM_cons, hread, hreads]
    rfl

theorem target_asks {uid : Uid} {title target : Json}
    (h : before.target appNamespace answers uid title target = some after) :
    ∃ queries, (readTarget appNamespace uid title target).map Option.toList = some queries ∧
      Asks answers queries before after := by
  rw [Progress.target] at h
  obtain ⟨read, hread, hrest⟩ := Option.bind_eq_some_iff.mp h
  cases read with
  | none =>
    obtain rfl : before = after := Option.some.inj hrest
    exact ⟨[], by rw [hread]; rfl, .refl before⟩
  | some query =>
    obtain ⟨check, hcheck, hafter⟩ := Option.bind_eq_some_iff.mp hrest
    obtain rfl := Option.some.inj hafter
    exact ⟨[query], by rw [hread]; rfl, rfl, rfl, [check], rfl, .cons hcheck .nil⟩

theorem panel_asks {uid : Uid} {panel : Json} (h : before.panel appNamespace answers uid panel = some after) :
    ∃ queries, readPanel appNamespace uid panel = some queries ∧ Asks answers queries before after := by
  rw [Progress.panel] at h
  obtain ⟨title, htitle, hrest⟩ := Option.bind_eq_some_iff.mp h
  obtain ⟨targets, htargets, hloop⟩ := Option.bind_eq_some_iff.mp hrest
  obtain ⟨queries, hread, hasks⟩ := Asks.foldlM hloop target_asks
  refine ⟨queries.flatten, ?_, hasks⟩
  simp only [readPanel, htitle, htargets, hread, Option.bind_eq_bind, Option.bind_some]

/-- A file replaces the count of its uid. -/
theorem file_asks {payload : Json} (h : before.file appNamespace answers payload = some after) :
    ∃ uid queries checks, readFile appNamespace payload = some (uid, queries) ∧ after.checks = before.checks ++ checks ∧
      Checked answers before.checks.length queries checks ∧
      after.dashboardCounts = before.dashboardCounts.set uid queries.length := by
  obtain ⟨uid, huid, hrest⟩ := Option.bind_eq_some_iff.mp h
  obtain ⟨between, hloop, hafter⟩ := Option.bind_eq_some_iff.mp hrest
  obtain ⟨queries, hread, hasks⟩ := Asks.foldlM hloop panel_asks
  obtain ⟨checks, hchecks, hchecked⟩ := hasks.checked
  obtain rfl := Option.some.inj hafter
  refine ⟨uid, queries.flatten, checks, ?_, hchecks, hchecked, ?_⟩
  · rw [readFile, huid]
    simp only [hread, Option.bind_eq_bind, Option.bind_some]
  · have hcount := hasks.counted
    rw [Nat.zero_add] at hcount
    rw [hasks.kept, hcount]

def countOf (file : Uid × List Query) : Uid × Nat := (file.1, file.2.length)

theorem files_ask {files : List Json} (h : files.foldlM (Progress.file appNamespace answers) before = some after) :
    ∃ read checks, files.mapM (readFile appNamespace) = some read ∧ after.checks = before.checks ++ checks ∧
      Checked answers before.checks.length (read.flatMap Prod.snd) checks ∧
      after.dashboardCounts = before.dashboardCounts.update (read.map countOf) := by
  induction files generalizing before with
  | nil =>
    obtain rfl : before = after := Option.some.inj h
    exact ⟨[], [], rfl, by simp, .nil, rfl⟩
  | cons payload files ih =>
    rw [List.foldlM_cons] at h
    obtain ⟨between, hfirst, hrest⟩ := Option.bind_eq_some_iff.mp h
    obtain ⟨uid, queries, checks, hread, hchecks, hchecked, hcounts⟩ := file_asks hfirst
    obtain ⟨read, checks', hreads, hchecks', hchecked', hcounts'⟩ := ih hrest
    refine ⟨(uid, queries) :: read, checks ++ checks', ?_, ?_, hchecked.append ?_, ?_⟩
    · rw [List.mapM_cons, hread, hreads]
      rfl
    · rw [hchecks', hchecks, List.append_assoc]
    · rw [hchecks, List.length_append, hchecked.length] at hchecked'
      exact hchecked'
    · rw [hcounts', hcounts]
      rfl

/-- What was read in the files, up to the first one that the script cannot read. -/
def readFiles (appNamespace : Text) (files : List Json) : List (Uid × List Query) :=
  (files.mapM (readFile appNamespace)).getD []

theorem sorted_perm {uids ordered : List Uid} (h : sorted uids = some ordered) : ordered.Perm uids := by
  rw [sorted] at h
  obtain ⟨_, hordered⟩ := Option.ite_none_right_eq_some.mp h
  obtain rfl := Option.some.inj hordered
  exact List.mergeSort_perm uids _

/-- A run checks the queries of its files in order, and keeps the last count of each uid. -/
theorem main_reads {files : List Json} {result : Outcome} (h : main appNamespace answers files = some result) :
    ∃ checks uids, Checked answers 0 ((readFiles appNamespace files).flatMap Prod.snd) checks ∧
      uids.Perm (Dict.update [] ((readFiles appNamespace files).map countOf)).keys ∧
      result = outcome checks (Dict.update [] ((readFiles appNamespace files).map countOf)) uids := by
  obtain ⟨progress, hloop, hrest⟩ := Option.bind_eq_some_iff.mp h
  obtain ⟨uids, hsorted, hresult⟩ := Option.bind_eq_some_iff.mp hrest
  obtain ⟨read, checks, hread, hchecks, hchecked, hcounts⟩ := files_ask hloop
  have hperm := sorted_perm hsorted
  obtain rfl := Option.some.inj hresult
  rw [hcounts] at hperm
  refine ⟨checks, uids, ?_, ?_, ?_⟩
  · rw [readFiles, hread]
    exact hchecked
  · rw [readFiles, hread]
    exact hperm
  · rw [readFiles, hread, hchecks, hcounts]
    rfl

/-! Every query is one of its file's dashboard. -/

theorem mem_of_mapM {α β : Type} {f : α → Option β} {l : List α} {r : List β} (h : l.mapM f = some r) {b : β} (hb : b ∈ r) :
    ∃ a ∈ l, f a = some b := by
  induction l generalizing r with
  | nil =>
    obtain rfl : [] = r := Option.some.inj h
    cases hb
  | cons a l ih =>
    rw [List.mapM_cons] at h
    obtain ⟨first, hfirst, hrest⟩ := Option.bind_eq_some_iff.mp h
    obtain ⟨rest, hmap, hr⟩ := Option.bind_eq_some_iff.mp hrest
    obtain rfl := Option.some.inj hr
    rcases List.mem_cons.mp hb with rfl | hb
    · exact ⟨a, .head l, hfirst⟩
    · obtain ⟨a', ha', hb'⟩ := ih hmap hb
      exact ⟨a', .tail a ha', hb'⟩

theorem readTarget_dashboard {uid : Uid} {title target : Json} {query : Query}
    (h : readTarget appNamespace uid title target = some (some query)) : query.dashboard = uid := by
  cases target with
  | object fields =>
    rw [readTarget] at h
    split at h
    · cases h
    · cases h
      rfl
    · cases h
  | null | bool | number | str | brokenStr | array => cases h

theorem readPanel_dashboard {uid : Uid} {panel : Json} (h : readPanel appNamespace uid panel = some queries)
    {query : Query} (hquery : query ∈ queries) : query.dashboard = uid := by
  rw [readPanel] at h
  obtain ⟨title, _, hrest⟩ := Option.bind_eq_some_iff.mp h
  obtain ⟨targets, _, hread⟩ := Option.bind_eq_some_iff.mp hrest
  obtain ⟨read, hmap, hqueries⟩ := Option.bind_eq_some_iff.mp hread
  obtain rfl := Option.some.inj hqueries
  obtain ⟨one, hone, hmem⟩ := List.mem_flatten.mp hquery
  obtain ⟨target, _, htarget⟩ := mem_of_mapM hmap hone
  obtain ⟨found, hfound, rfl⟩ := Option.map_eq_some_iff.mp htarget
  rw [Option.mem_toList] at hmem
  obtain rfl : found = some query := hmem
  exact readTarget_dashboard hfound

theorem readFiles_dashboard {files : List Json} {file : Uid × List Query} (h : file ∈ readFiles appNamespace files)
    {query : Query} (hquery : query ∈ file.2) : query.dashboard = file.1 := by
  rw [readFiles] at h
  cases hread : files.mapM (readFile appNamespace) with
  | none =>
    rw [hread] at h
    cases h
  | some read =>
    rw [hread] at h
    obtain ⟨payload, _, hpayload⟩ := mem_of_mapM hread h
    obtain ⟨uid, _, hrest⟩ := Option.bind_eq_some_iff.mp hpayload
    obtain ⟨queries, hmap, hfile⟩ := Option.bind_eq_some_iff.mp hrest
    obtain rfl := Option.some.inj hfile
    obtain ⟨one, hone, hmem⟩ := List.mem_flatten.mp hquery
    obtain ⟨panel, _, hpanel⟩ := mem_of_mapM hmap hone
    exact readPanel_dashboard hpanel hmem

end IpCountryApi.Dashboards
