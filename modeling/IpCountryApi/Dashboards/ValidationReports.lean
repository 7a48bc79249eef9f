import IpCountryApi.Dashboards.ValidationRuns
import IpCountryApi.Library.Overwrites

/-! Whether the report of the validation script adds up. -/
namespace IpCountryApi.Dashboards
open Library Domain

/-- The check gives no reason for a failure. -/
def Check.passes (check : Check) : Bool := check.valid && check.finite && (check.useful || check.emptyAllowed)

/-- The checks beside the answers they got. -/
def withAnswers (answers : Nat → Answer) (checks : List Check) : List (Check × Answer) :=
  checks.zipIdx.map fun numbered => (numbered.1, answers numbered.2)

/-- The report of a run says what its checks and answers were. -/
structure Accounted (answers : Nat → Answer) (result : Outcome) : Prop where
  total : result.summary.dashboards.total = result.summary.totalExpressions
  perUid : ∀ uid, result.summary.dashboards.get? uid = (result.summary.dashboardResults.get? uid).map DashboardResult.total
  failures : (result.summary.failures.getD []).Perm (result.checks.filter fun check => !check.passes)
  errors : result.summary.parseOrApiErrors = (withAnswers answers result.checks).countP fun ca => ca.2.fails
  nonFinite : result.summary.nonFiniteExpressions =
    (withAnswers answers result.checks).countP fun ca => !ca.2.fails && !ca.2.finite
  errorsPerUid : ∀ uid r, result.summary.dashboardResults.get? uid = some r →
    r.apiErrors = ((withAnswers answers result.checks).filter fun ca => ca.1.dashboard = uid).countP fun ca => ca.2.fails
  nonFinitePerUid : ∀ uid r, result.summary.dashboardResults.get? uid = some r →
    r.nonFinite = ((withAnswers answers result.checks).filter fun ca => ca.1.dashboard = uid).countP fun ca =>
      !ca.2.fails && !ca.2.finite
  status : result.exitStatus = 0 ↔ ∀ check ∈ result.checks, check.passes = true

/-- What keeps a report from miscounting: every count that a later file of the same uid replaces
is zero, and so is every count under NaN, no query fails, and what is not finite may be empty. -/
structure Countable (answers : Nat → Answer) (read : List (Uid × List Query)) : Prop where
  once : read.Pairwise fun file later => file.1 = later.1 → file.2 = []
  named : ∀ file ∈ read, file.1 = .nan → file.2 = []
  answered : ∀ i query, (read.flatMap Prod.snd)[i]? = some query → (answers i).fails = false
  finite : ∀ i query, (read.flatMap Prod.snd)[i]? = some query → query.emptyAllowed = false → (answers i).finite = true

variable {answers : Nat → Answer} {queries : List Query} {checks : List Check} {query : Query} {answer : Answer}
  {check : Check}

/-! The flags of a check. -/

/-- Flags that imply others. -/
def Check.Coherent (check : Check) : Prop :=
  (check.finite = true → check.valid = true) ∧ (check.useful = true → check.finite = true)

/-- What a check tells about its query and its answer. -/
structure Told (query : Query) (answer : Answer) (check : Check) : Prop where
  dashboard : check.dashboard = query.dashboard
  emptyAllowed : check.emptyAllowed = query.emptyAllowed
  valid : check.valid = !answer.fails
  finite : check.finite = (!answer.fails && answer.finite)
  useful : check.useful = true → check.finite = true

theorem check_told (h : query.check answer = some check) : Told query answer check := by
  cases answer with
  | uncaught => cases h
  | caught exception =>
    obtain rfl := Option.some.inj h
    exact ⟨rfl, rfl, rfl, rfl, id⟩
  | decoded response =>
    cases response with
    | object fields =>
      rw [Query.check] at h
      by_cases hsuccess : isSuccess (.object fields) = true
      · rw [if_pos hsuccess] at h
        obtain ⟨data, hdata, hrest⟩ := Option.bind_eq_some_iff.mp h
        obtain ⟨values, hvalues, hcheck⟩ := Option.bind_eq_some_iff.mp hrest
        obtain rfl := Option.some.inj hcheck
        refine ⟨rfl, rfl, ?_, ?_, fun h => (Bool.and_eq_true_iff.mp h).2⟩
        · simp [Query.answered, Answer.fails, hsuccess]
        · simp [Query.answered, Answer.fails, Answer.finite, hsuccess, hdata, hvalues]
      · rw [if_neg hsuccess] at h
        obtain rfl := Option.some.inj h
        have hfails : Answer.fails (.decoded (.object fields)) = true := by simpa [Answer.fails] using hsuccess
        exact ⟨rfl, rfl, by rw [hfails]; rfl, by rw [hfails]; rfl, id⟩
    | null | bool | number | str | brokenStr | array => cases h

/-- The i-th check is that of the i-th query and the i-th answer. -/
theorem Checked.told (h : Checked answers 0 queries checks) {i : Nat} (hquery : queries[i]? = some query)
    (hcheck : checks[i]? = some check) : Told query (answers i) check := by
  obtain ⟨hq, rfl⟩ := List.getElem?_eq_some_iff.mp hquery
  obtain ⟨hc, rfl⟩ := List.getElem?_eq_some_iff.mp hcheck
  have hi : i < (queries.zipIdx 0).length := by rwa [List.length_zipIdx]
  have hpair := List.Forall₂.get h hi hc
  simp only [List.get_eq_getElem, List.getElem_zipIdx, Nat.zero_add] at hpair
  exact check_told hpair

theorem Checked.query_told (h : Checked answers 0 queries checks) {i : Nat} (hcheck : checks[i]? = some check) :
    ∃ query, queries[i]? = some query ∧ Told query (answers i) check := by
  obtain ⟨hi, _⟩ := List.getElem?_eq_some_iff.mp hcheck
  rw [h.length] at hi
  exact ⟨queries[i], List.getElem?_eq_getElem hi, h.told (List.getElem?_eq_getElem hi) hcheck⟩

theorem mem_withAnswers {ca : Check × Answer} (h : ca ∈ withAnswers answers checks) :
    ∃ i, checks[i]? = some ca.1 ∧ ca.2 = answers i := by
  obtain ⟨numbered, hnumbered, rfl⟩ := List.mem_map.mp h
  exact ⟨numbered.2, List.mem_zipIdx_iff_getElem?.mp hnumbered, rfl⟩

theorem withAnswers_told (h : Checked answers 0 queries checks) {ca : Check × Answer}
    (hca : ca ∈ withAnswers answers checks) :
    ca.1.valid = !ca.2.fails ∧ ca.1.finite = (!ca.2.fails && ca.2.finite) := by
  obtain ⟨i, hcheck, hanswer⟩ := mem_withAnswers hca
  obtain ⟨query, _, htold⟩ := h.query_told hcheck
  rw [hanswer]
  exact ⟨htold.valid, htold.finite⟩

theorem map_withAnswers (answers : Nat → Answer) (checks : List Check) :
    (withAnswers answers checks).map Prod.fst = checks := by
  rw [withAnswers, List.map_map]
  exact List.zipIdx_map_fst 0 checks

theorem Checked.coherent (h : Checked answers 0 queries checks) (hcheck : check ∈ checks) : check.Coherent := by
  obtain ⟨i, hi⟩ := List.mem_iff_getElem?.mp hcheck
  obtain ⟨query, _, htold⟩ := h.query_told hi
  refine ⟨fun hfinite => ?_, htold.useful⟩
  rw [htold.finite, Bool.and_eq_true_iff] at hfinite
  exact htold.valid.trans hfinite.1

/-! The failures. -/

/-- Three filters that share nothing are one. -/
theorem filters_perm {α : Type} {p q r s : α → Bool} {l : List α}
    (h : ∀ x ∈ l, (p x).toNat + (q x).toNat + (r x).toNat = (s x).toNat) :
    (l.filter p ++ l.filter q ++ l.filter r).Perm (l.filter s) := by
  induction l with
  | nil => exact .refl _
  | cons x l ih =>
    have hrest := ih fun y hy => h y (.tail x hy)
    have hx := h x (.head l)
    rw [List.append_assoc] at hrest ⊢
    cases hp : p x <;> cases hq : q x <;> cases hr : r x <;> cases hs : s x <;> simp [hp, hq, hr, hs] at hx
    · simpa [hp, hq, hr, hs] using hrest
    · simp only [List.filter_cons, hp, hq, hr, hs, if_true, Bool.false_eq_true, if_false]
      rw [← List.append_assoc] at hrest ⊢
      exact List.perm_middle.trans (hrest.cons x)
    · simp only [List.filter_cons, hp, hq, hr, hs, if_true, Bool.false_eq_true, if_false]
      exact List.perm_middle.trans (hrest.cons x)
    · simp only [List.filter_cons, hp, hq, hr, hs, if_true, Bool.false_eq_true, if_false]
      exact hrest.cons x

def Check.unexplained (check : Check) : Bool := (check.valid && !check.useful) && !check.emptyAllowed

/-- The check gets into two of the lists of failures. -/
def Check.repeated (check : Check) : Bool := !check.valid || (!check.finite && !check.emptyAllowed)

/-- How many of the three lists have a check. -/
theorem Check.Coherent.lists (h : check.Coherent) : (!check.valid).toNat + check.unexplained.toNat + (!check.finite).toNat =
    (!check.passes).toNat + check.repeated.toNat := by
  obtain ⟨hvalid, hfinite⟩ := h
  rw [unexplained, passes, repeated]
  cases hv : check.valid with
  | false =>
    have hf : check.finite = false := by simpa [hv] using hvalid
    simp [hf]
  | true =>
    cases hf : check.finite with
    | false =>
      have hu : check.useful = false := by simpa [hf] using hfinite
      cases check.emptyAllowed <;> simp [hu]
    | true => cases check.useful <;> cases check.emptyAllowed <;> rfl

theorem toNat_eq (b : Bool) : b.toNat = if b = true then 1 else 0 := by cases b <;> rfl

/-- The three lists of failures, as they are concatenated. -/
def failuresOf (checks : List Check) : List Check :=
  checks.filter (fun check => !check.valid) ++ checks.filter Check.unexplained ++ checks.filter fun check => !check.finite

/-- The checks that are there twice are what is too much. -/
theorem failuresOf_length (h : ∀ check ∈ checks, check.Coherent) :
    (failuresOf checks).length = (checks.filter fun check => !check.passes).length + checks.countP Check.repeated := by
  simp only [failuresOf, List.length_append, ← List.countP_eq_length_filter]
  induction checks with
  | nil => rfl
  | cons check checks ih =>
    have hrest := ih fun other hother => h other (.tail check hother)
    have hlists := (h check (.head checks)).lists
    simp only [toNat_eq] at hlists
    simp only [List.countP_cons]
    omega

theorem failuresOf_perm_iff (h : ∀ check ∈ checks, check.Coherent) :
    (failuresOf checks).Perm (checks.filter fun check => !check.passes) ↔ ∀ check ∈ checks, check.repeated = false := by
  refine ⟨fun hperm => ?_, fun honce => filters_perm fun check hcheck => ?_⟩
  · have hlength := failuresOf_length h
    rw [hperm.length_eq] at hlength
    have hnone : checks.countP Check.repeated = 0 := by omega
    simpa [List.countP_eq_zero] using hnone
  · have hlists := (h check hcheck).lists
    rw [honce check hcheck] at hlists
    exact hlists

/-- A check passes when no list of failures has it. -/
theorem Check.not_passes (check : Check) : (!check.passes) = (!check.valid || check.unexplained || !check.finite) := by
  rw [passes, unexplained]
  cases check.valid <;> cases check.finite <;> cases check.useful <;> cases check.emptyAllowed <;> rfl

theorem unexplainedEmpty_eq (checks : List Check) :
    (checks.filter fun check => check.valid && !check.useful).filter (fun check => !check.emptyAllowed) =
      checks.filter Check.unexplained := by
  rw [List.filter_filter]
  exact List.filter_congr fun check _ => Bool.and_comm _ _

theorem outcome_failures (checks : List Check) (counts : Dict Uid Nat) (uids : List Uid) :
    (outcome checks counts uids).summary.failures.getD [] = failuresOf checks := by
  simp only [outcome, unexplainedEmpty_eq, failuresOf]
  split
  · rfl
  · rename_i hnone
    simp only [Bool.or_eq_true, Bool.not_eq_true', List.isEmpty_eq_false_iff, ne_eq, not_or, not_not] at hnone
    obtain ⟨⟨hinvalid, hunexplained⟩, hnonFinite⟩ := hnone
    rw [hinvalid, hunexplained, hnonFinite]
    rfl

theorem outcome_status (checks : List Check) (counts : Dict Uid Nat) (uids : List Uid) :
    (outcome checks counts uids).exitStatus = 0 ↔ ∀ check ∈ checks, check.passes = true := by
  have hpasses : (∀ check ∈ checks, check.passes = true) ↔
      ∀ check ∈ checks, (!check.valid || check.unexplained || !check.finite) = false := by
    simp only [← Check.not_passes, Bool.not_eq_false']
  rw [hpasses]
  simp only [outcome, unexplainedEmpty_eq]
  split
  · rename_i hsome
    refine iff_of_false one_ne_zero fun hall => ?_
    simp only [Bool.or_eq_false_iff] at hall
    have hinvalid : (checks.filter fun check => !check.valid) = [] :=
      List.filter_eq_nil_iff.mpr fun check hcheck => by simp [(hall check hcheck).1.1]
    have hunexplained : checks.filter Check.unexplained = [] :=
      List.filter_eq_nil_iff.mpr fun check hcheck => by simp [(hall check hcheck).1.2]
    have hnonFinite : (checks.filter fun check => !check.finite) = [] :=
      List.filter_eq_nil_iff.mpr fun check hcheck => by simp [(hall check hcheck).2]
    rw [hinvalid, hunexplained, hnonFinite] at hsome
    cases hsome
  · rename_i hnone
    simp only [Bool.or_eq_true, Bool.not_eq_true', List.isEmpty_eq_false_iff, ne_eq, not_or, not_not,
      List.filter_eq_nil_iff] at hnone
    obtain ⟨⟨hinvalid, hunexplained⟩, hnonFinite⟩ := hnone
    refine iff_of_true rfl fun check hcheck => ?_
    simp [hinvalid check hcheck, hunexplained check hcheck, hnonFinite check hcheck]

/-! The counts. -/

theorem Checked.dashboards {n : Nat} (h : Checked answers n queries checks) :
    checks.map Check.dashboard = queries.map Query.dashboard := by
  induction queries generalizing n checks with
  | nil =>
    cases h
    rfl
  | cons query queries ih =>
    rw [Checked, List.zipIdx_cons] at h
    obtain ⟨check, rest, hcheck, hrest, rfl⟩ := List.forall₂_cons_left_iff.mp h
    rw [List.map_cons, List.map_cons, (check_told hcheck).dashboard, ih hrest]

/-- As many queries as were counted for the files of a uid. -/
theorem count_dashboards {read : List (Uid × List Query)} (h : ∀ file ∈ read, ∀ query ∈ file.2, query.dashboard = file.1)
    (uid : Uid) : ((read.flatMap Prod.snd).map Query.dashboard).count uid = Dict.totalFor (read.map countOf) uid := by
  induction read with
  | nil => rfl
  | cons file read ih =>
    have hrest := ih fun other hother => h other (.tail file hother)
    have hsame : file.2.map Query.dashboard = List.replicate file.2.length file.1 := by
      rw [List.eq_replicate_iff, List.length_map]
      exact ⟨rfl, List.forall_mem_map.mpr (h file (.head read))⟩
    rw [List.flatMap_cons, List.map_append, List.count_append, hsame, hrest, List.count_replicate, List.map_cons]
    by_cases hfile : file.1 = uid <;> simp [Dict.totalFor, Dict.total, countOf, hfile]

theorem total_countOf (read : List (Uid × List Query)) :
    Dict.total (read.map countOf) = (read.flatMap Prod.snd).length := by
  simp [Dict.total, countOf, List.length_flatMap, Function.comp_def]

theorem lastCounts_countOf {read : List (Uid × List Query)} :
    Dict.LastCounts (read.map countOf) ↔ read.Pairwise fun file later => file.1 = later.1 → file.2 = [] := by
  rw [Dict.LastCounts, List.pairwise_map]
  simp only [countOf, List.length_eq_zero_iff]

/-- Checks counted by their flags and by their answers. -/
theorem countP_withAnswers {p : Check → Bool} {q : Check × Answer → Bool} (select : Check → Bool)
    (h : ∀ ca ∈ withAnswers answers checks, p ca.1 = q ca) :
    (checks.filter select).countP p = ((withAnswers answers checks).filter fun ca => select ca.1).countP q := by
  have hfilter : checks.filter select = ((withAnswers answers checks).filter fun ca => select ca.1).map Prod.fst := by
    have hselect := List.filter_map (p := select) (f := Prod.fst) (l := withAnswers answers checks)
    rw [map_withAnswers] at hselect
    exact hselect
  rw [hfilter, List.countP_map]
  exact List.countP_congr fun ca hca => by rw [Function.comp_apply, h ca (List.mem_of_mem_filter hca)]

theorem dashboardResults_get? (checks : List Check) {counts : Dict Uid Nat} {uids : List Uid} (hperm : uids.Perm counts.keys)
    (uid : Uid) : (outcome checks counts uids).summary.dashboardResults.get? uid =
      if uid ∈ counts.keys then some (dashboardResult checks uid) else none := by
  rw [outcome, Dict.get?_map_pair]
  simp only [hperm.mem_iff]

/-- Where no check is under NaN, comparison finds the checks of a uid. -/
theorem filter_equals (h : ∀ check ∈ checks, check.dashboard ≠ .nan) (uid : Uid) :
    checks.filter (fun check => check.dashboard.equals uid) = checks.filter fun check => check.dashboard = uid :=
  List.filter_congr fun check hcheck => by simp [Uid.equals, h check hcheck]

theorem total_nan (checks : List Check) : (dashboardResult checks .nan).total = 0 := by
  rw [dashboardResult, List.length_eq_zero_iff, List.filter_eq_nil_iff]
  intro check _
  simp [Uid.equals]

/-! The report. -/

section Report
variable {read : List (Uid × List Query)} (hchecked : Checked answers 0 (read.flatMap Prod.snd) checks)
  (hread : ∀ file ∈ read, ∀ query ∈ file.2, query.dashboard = file.1)
include hchecked

/-- The counts of the files add up when none is replaced. -/
theorem total_iff : (Dict.update [] (read.map countOf)).total = checks.length ↔
    read.Pairwise fun file later => file.1 = later.1 → file.2 = [] := by
  rw [← lastCounts_countOf, ← Dict.total_update_iff.2, total_countOf, hchecked.length]

include hread in
theorem dashboards_named (h : ∀ file ∈ read, file.1 = .nan → file.2 = []) : ∀ check ∈ checks, check.dashboard ≠ .nan := by
  intro check hcheck hnan
  have hmem : check.dashboard ∈ checks.map Check.dashboard := List.mem_map_of_mem hcheck
  rw [hchecked.dashboards] at hmem
  obtain ⟨query, hquery, hdashboard⟩ := List.mem_map.mp hmem
  obtain ⟨file, hfile, hquery⟩ := List.mem_flatMap.mp hquery
  have hempty := h file hfile ((hread file hfile query hquery).symm.trans (hdashboard.trans hnan))
  rw [hempty] at hquery
  cases hquery

include hread in
theorem perUid_of_once (h : read.Pairwise fun file later => file.1 = later.1 → file.2 = [])
    (hnamed : ∀ file ∈ read, file.1 = .nan → file.2 = []) {uids : List Uid}
    (hperm : uids.Perm (Dict.update [] (read.map countOf)).keys) (uid : Uid) :
    (Dict.update [] (read.map countOf)).get? uid =
      ((outcome checks (Dict.update [] (read.map countOf)) uids).summary.dashboardResults.get? uid).map DashboardResult.total := by
  have htotal : (dashboardResult checks uid).total = Dict.totalFor (read.map countOf) uid := by
    have hcount := count_dashboards hread uid
    rw [← hchecked.dashboards, List.count, List.countP_map] at hcount
    rw [← hcount, dashboardResult, filter_equals (dashboards_named hchecked hread hnamed), ← List.countP_eq_length_filter]
    exact List.countP_congr fun check _ => by simp
  have hkey := Dict.get?_update_iff.mpr (lastCounts_countOf.mpr h) uid
  rw [dashboardResults_get? checks hperm]
  split
  · rename_i hmem
    rw [Option.map_some, htotal, ← hkey]
    cases hget : (Dict.update [] (read.map countOf)).get? uid with
    | some count => rfl
    | none =>
      rw [Dict.get?, Option.map_eq_none_iff, KeyedTable.fetch_none] at hget
      exact absurd hmem hget
  · rename_i hmem
    rw [Dict.get?, KeyedTable.fetch_none.mpr hmem]
    rfl

omit hchecked in
/-- What is counted under NaN is not found again. -/
theorem named_of_perUid (h : read.Pairwise fun file later => file.1 = later.1 → file.2 = []) {uids : List Uid}
    (hperm : uids.Perm (Dict.update [] (read.map countOf)).keys)
    (hresults : (Dict.update [] (read.map countOf)).get? .nan =
      ((outcome checks (Dict.update [] (read.map countOf)) uids).summary.dashboardResults.get? .nan).map DashboardResult.total) :
    ∀ file ∈ read, file.1 = .nan → file.2 = [] := by
  have hkey := Dict.get?_update_iff.mpr (lastCounts_countOf.mpr h) .nan
  rw [hresults, dashboardResults_get? checks hperm] at hkey
  have hzero : Dict.totalFor (read.map countOf) Uid.nan = 0 := by
    rw [← hkey]
    split
    · rw [Option.map_some, total_nan, Option.getD_some]
    · rfl
  intro file hfile hnan
  have hnone := Dict.totalFor_eq_zero.mp hzero (countOf file) (List.mem_map_of_mem hfile) hnan
  exact List.length_eq_zero_iff.mp hnone

/-- The flags of repeated checks, by the queries and the answers. -/
theorem repeated_iff : (∀ check ∈ checks, check.repeated = false) ↔ ∀ i query, (read.flatMap Prod.snd)[i]? = some query →
    (answers i).fails = false ∧ (query.emptyAllowed = false → (answers i).finite = true) := by
  have hflags : ∀ {i query check}, Told query (answers i) check →
      (check.repeated = false ↔ (answers i).fails = false ∧ (query.emptyAllowed = false → (answers i).finite = true)) := by
    intro i query check h
    rw [Check.repeated, h.valid, h.finite, h.emptyAllowed]
    cases (answers i).fails <;> cases (answers i).finite <;> cases query.emptyAllowed <;> simp
  refine ⟨fun h i query hquery => ?_, fun h check hcheck => ?_⟩
  · obtain ⟨hi, _⟩ := List.getElem?_eq_some_iff.mp hquery
    rw [← hchecked.length] at hi
    exact (hflags (hchecked.told hquery (List.getElem?_eq_getElem hi))).mp (h _ (List.getElem_mem hi))
  · obtain ⟨i, hi⟩ := List.mem_iff_getElem?.mp hcheck
    obtain ⟨query, hquery, htold⟩ := hchecked.query_told hi
    exact (hflags htold).mpr (h i query hquery)

/-- Checks of failed queries by their flag. -/
theorem countP_invalid (select : Check → Bool) : (checks.filter select).countP (fun check => !check.valid) =
    ((withAnswers answers checks).filter fun ca => select ca.1).countP fun ca => ca.2.fails :=
  countP_withAnswers select fun ca hca => by rw [(withAnswers_told hchecked hca).1, Bool.not_not]

/-- Where no query failed, the flag tells what is not finite. -/
theorem countP_nonFinite (h : ∀ i query, (read.flatMap Prod.snd)[i]? = some query → (answers i).fails = false)
    (select : Check → Bool) :
    (checks.filter select).countP (fun check => !check.finite) =
      ((withAnswers answers checks).filter fun ca => select ca.1).countP fun ca => !ca.2.fails && !ca.2.finite := by
  refine countP_withAnswers select fun ca hca => ?_
  obtain ⟨i, hcheck, hanswer⟩ := mem_withAnswers hca
  obtain ⟨query, hquery, _⟩ := hchecked.query_told hcheck
  have hfails := h i query hquery
  rw [(withAnswers_told hchecked hca).2, hanswer, hfails]
  rfl

end Report

/-- The reports that add up, of all runs that get to one. -/
theorem accounted_iff {appNamespace : Text} {files : List Json} {result : Outcome}
    (h : main appNamespace answers files = some result) :
    Accounted answers result ↔ Countable answers (readFiles appNamespace files) := by
  obtain ⟨checks, uids, hchecked, hperm, rfl⟩ := main_reads h
  have hread : ∀ file ∈ readFiles appNamespace files, ∀ query ∈ file.2, query.dashboard = file.1 :=
    fun file hfile query hquery => readFiles_dashboard hfile hquery
  have hcoherent : ∀ check ∈ checks, check.Coherent := fun check hcheck => hchecked.coherent hcheck
  refine ⟨fun haccounted => ?_, fun hcountable => ?_⟩
  · have hfailures := haccounted.failures
    rw [outcome_failures] at hfailures
    have hrepeated := (repeated_iff hchecked).mp ((failuresOf_perm_iff hcoherent).mp hfailures)
    have honce := (total_iff hchecked).mp haccounted.total
    exact ⟨honce, named_of_perUid honce hperm (haccounted.perUid .nan), fun i query hquery => (hrepeated i query hquery).1,
      fun i query hquery => (hrepeated i query hquery).2⟩
  · have hrepeated := (repeated_iff hchecked).mpr fun i query hquery =>
      ⟨hcountable.answered i query hquery, hcountable.finite i query hquery⟩
    have hinvalid := countP_invalid hchecked fun _ => true
    have hnonFinite := countP_nonFinite hchecked hcountable.answered fun _ => true
    simp only [List.filter_true] at hinvalid hnonFinite
    rw [List.countP_eq_length_filter] at hinvalid hnonFinite
    have hnamed := dashboards_named hchecked hread hcountable.named
    refine ⟨(total_iff hchecked).mpr hcountable.once,
      perUid_of_once hchecked hread hcountable.once hcountable.named hperm, ?_, ?_, ?_, ?_, ?_, outcome_status checks _ _⟩
    · rw [outcome_failures]
      exact (failuresOf_perm_iff hcoherent).mpr hrepeated
    · exact hinvalid
    · exact hnonFinite
    · intro uid r hr
      rw [dashboardResults_get? checks hperm] at hr
      obtain rfl := Option.some.inj (Option.ite_none_right_eq_some.mp hr).2
      rw [dashboardResult, filter_equals hnamed]
      exact countP_invalid hchecked _
    · intro uid r hr
      rw [dashboardResults_get? checks hperm] at hr
      obtain rfl := Option.some.inj (Option.ite_none_right_eq_some.mp hr).2
      rw [dashboardResult, filter_equals hnamed]
      exact countP_nonFinite hchecked hcountable.answered _

/-- A dashboard of one panel with one expression. -/
def onePanel (uid : Json) (expression : String) : Json :=
  .object [("uid", uid), ("panels", .array [.object [("title", .str "Traffic"),
    ("targets", .array [.object [("expr", .str expression)]])]])]

/-- A vector of one series that is one. -/
def oneSeries : Answer :=
  .decoded (.object [("status", .str "success"), ("data", .object [("resultType", .str "vector"),
    ("result", .array [.object [("value", .array [.number "1753000000", .str "1"])]])])])

theorem accounted_two : ∃ result, main "ip-country-api".toList (fun _ => oneSeries)
    [onePanel (.str "traffic") "up", onePanel (.str "errors") "up"] = some result ∧ Accounted (fun _ => oneSeries) result := by
  have hsome : (main "ip-country-api".toList (fun _ => oneSeries)
      [onePanel (.str "traffic") "up", onePanel (.str "errors") "up"]).isSome = true := by
    decide +kernel
  have hfails : oneSeries.fails = false := by decide +kernel
  have hfinite : oneSeries.finite = true := by decide +kernel
  obtain ⟨result, hresult⟩ := Option.isSome_iff_exists.mp hsome
  exact ⟨result, hresult, (accounted_iff hresult).mpr ⟨by decide +kernel, by decide +kernel, fun _ _ _ => hfails, fun _ _ _ _ => hfinite⟩⟩

/-- The first query cannot connect. -/
def unreachableOnce (i : Nat) : Answer := if i = 0 then .caught "URLError" else oneSeries

/-- Two files with one uid and one failed query: one of two expressions is counted, and the
failing check is there twice. -/
theorem repeated_not_accounted : ∃ result, main "ip-country-api".toList unreachableOnce
    [onePanel (.str "traffic") "up", onePanel (.str "traffic") "up"] = some result ∧ ¬ Accounted unreachableOnce result ∧
    result.summary.dashboards = [(Uid.text "traffic", 1)] ∧ result.summary.totalExpressions = 2 ∧
    (result.summary.failures.getD []).length = 2 ∧ (result.checks.filter fun check => !check.passes).length = 1 := by
  have hrun : (main "ip-country-api".toList unreachableOnce
      [onePanel (.str "traffic") "up", onePanel (.str "traffic") "up"]).map (fun result =>
      (result.summary.dashboards, result.summary.totalExpressions, (result.summary.failures.getD []).length,
        (result.checks.filter fun check => !check.passes).length)) = some ([(Uid.text "traffic", 1)], 2, 2, 1) := by
    decide +kernel
  obtain ⟨result, hresult, hvalues⟩ := Option.map_eq_some_iff.mp hrun
  simp only [Prod.mk.injEq] at hvalues
  refine ⟨result, hresult, fun haccounted => ?_, hvalues⟩
  have hfailures := haccounted.failures.length_eq
  rw [hvalues.2.2.1, hvalues.2.2.2] at hfailures
  cases hfailures

end IpCountryApi.Dashboards
