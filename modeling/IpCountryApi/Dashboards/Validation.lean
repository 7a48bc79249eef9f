import IpCountryApi.Dashboards.Expressions
import IpCountryApi.Domain.FloatText
import IpCountryApi.Domain.Json

/-! The validation script: what it reads in dashboards, what it makes of the answers of
Prometheus, and its report. A run that an exception ends has no report. -/
namespace IpCountryApi.Dashboards
open Library Domain

/-! Python on decoded values. -/

def truthy : Json → Bool
  | .null => false
  | .bool value => value
  | .number literal => jsonNumber literal.toList ≠ .finite 0
  | .str text => text ≠ ""
  | .brokenStr _ => true
  | .array items => !items.isEmpty
  | .object fields => !fields.isEmpty

/-- A str as the sequence of its code points, each a str of its own. -/
def characters (value : PyStr) : List Json := value.points.map fun point => (PyStr.ofPoints [point]).json

/-- What a for loop goes through: the keys of an object, the characters of a str. -/
def iterate : Json → Option (List Json)
  | .array items => some items
  | .object fields => some ((Dict.update [] fields).keys.map PyStr.json)
  | .str text => some (characters text)
  | .brokenStr value => some (characters (.broken value))
  | _ => none

/-- value[1] -/
def second : Json → Option Json
  | .array items => items[1]?
  | .str text => (characters text)[1]?
  | .brokenStr value => (characters (.broken value))[1]?
  | _ => none

/-- float(str(value)), where None is a ValueError: only numbers and texts are written as one. -/
def readValue : Json → Option PyNumber
  | .number literal => float literal.toList
  | .str text => float text.toList
  | _ => none

/-! The panels of a dashboard, in the order of its text. -/

def isPanel (payload : Json) : Bool := (payload.get? "targets").isSome && (payload.get? "title").isSome

mutual

def iterPanels : Json → List Json
  | .object fields =>
    (if isPanel (.object fields) then [.object fields] else []) ++ (Dict.update [] (fieldPanels fields)).flatMap Prod.snd
  | .array items => itemPanels items
  | _ => []

def itemPanels : List Json → List Json
  | [] => []
  | value :: items => iterPanels value ++ itemPanels items

/-- What the value of each field yields; of equal keys the dictionary keeps the last one. -/
def fieldPanels : List (PyStr × Json) → List (PyStr × List Json)
  | [] => []
  | (key, value) :: fields => (key, iterPanels value) :: fieldPanels fields

end

/-! The values of an answer. -/

/-- The values of one series. -/
def rawItem (item : Json) : Option (List Json) :=
  match item with
  | .object _ => do
    let own ← match item.get? "value" with
      | some value => (second value).map fun v => [v]
      | none => some []
    let values ← match item.get? "values" with
      | some values => iterate values
      | none => some []
    let more ← values.mapM second
    some (own ++ more)
  | _ => some []

def isSingle : Option Json → Bool
  | some (.str resultType) => resultType = "scalar" || resultType = "string"
  | _ => false

def rawValues (data : Json) : Option (List Json) :=
  match data with
  | .object _ =>
    match data.get? "resultType" with
    -- no member of a set
    | some (.array _) | some (.object _) => none
    | resultType =>
      match data.get? "result" with
      | some (.array result) =>
        if isSingle resultType && result.length = 2 then result[1]?.map fun v => [v]
        else (result.mapM rawItem).map List.flatten
      | _ => some []
  | _ => none

def valuesFromResult (data : Json) : Option (List PyNumber) := (rawValues data).map fun values => values.filterMap readValue

/-! The uids. -/

/-- A uid as the key of a dictionary: equal numbers are one key, and NaN is one object. -/
inductive Uid where
  | null
  | number (value : PyNumber)
  | text (value : PyStr)
  deriving DecidableEq, Repr

instance : Coe String Uid := ⟨fun value => .text value⟩

namespace Uid

/-- Lists and dictionaries are no keys. -/
def ofJson : Json → Option Uid
  | .null => some .null
  | .bool value => some (.number (.ofInt value.toNat))
  | .number literal => some (.number (jsonNumber literal.toList))
  | .str value => some value
  | .brokenStr value => some (.text (.broken value))
  | .array _ | .object _ => none

def nan : Uid := .number .nan

/-- Comparison with ==, where NaN is not even itself. -/
def equals (self other : Uid) : Bool := self = other && self ≠ nan

def isNumber : Uid → Bool
  | .number _ => true
  | _ => false

def isText : Uid → Bool
  | .text _ => true
  | _ => false

def lt : Uid → Uid → Bool
  | .number a, .number b => a.lt b
  | .text a, .text b => a.lt b
  | _, _ => false

/-- Only some uids have expressions of their own to replace. -/
def renderExpression (self : Uid) (expression appNamespace : Text) : Text :=
  match self with
  | .text (.text uid) => Dashboards.renderExpression uid expression appNamespace
  | _ => renderWith [] genericVariables expression appNamespace

end Uid

/-- Numbers and texts have no order between them, and None has none at all. -/
def comparable (uids : List Uid) : Bool := uids.length ≤ 1 || uids.all Uid.isNumber || uids.all Uid.isText

def sorted (uids : List Uid) : Option (List Uid) :=
  if comparable uids then some (uids.mergeSort fun a b => !b.lt a) else none

/-! The checks. -/

/-- A target with an expression. The title is shown as text. -/
structure Query where
  dashboard : Uid
  panel : Json
  expression : Text
  emptyAllowed : Bool

structure Check where
  dashboard : Uid
  panel : Json
  expression : Text
  valid : Bool
  useful : Bool
  legitimateZero : Bool
  emptyAllowed : Bool
  finite : Bool
  error : Option Json

/-- What prometheus_query does: it returns, raises what the script catches, or something else. -/
inductive Answer where
  | decoded (response : Json)
  | caught (exception : String)
  | uncaught

def isSuccess (response : Json) : Bool :=
  match response.get? "status" with
  | some (.str status) => status = "success"
  | _ => false

namespace Query

def failed (self : Query) (error : Json) : Check :=
  ⟨self.dashboard, self.panel, self.expression, false, false, false, self.emptyAllowed, false, some error⟩

def answered (self : Query) (values : List PyNumber) : Check :=
  let finite := values.all PyNumber.isFinite
  let hasData := !values.isEmpty && finite
  let zero := hasData && values.all fun value => value = .finite 0
  ⟨self.dashboard, self.panel, self.expression, true, hasData, zero, self.emptyAllowed, finite,
    if hasData || self.emptyAllowed then none else some (.str "empty result")⟩

def check (self : Query) : Answer → Option Check
  | .caught exception => some (self.failed (.str exception))
  | .decoded (.object fields) =>
    let response := Json.object fields
    if isSuccess response then do
      let data ← response.get? "data"
      let values ← valuesFromResult data
      some (self.answered values)
    else some (self.failed ((response.get? "error").getD (.str "Prometheus API error")))
  | _ => none

end Query

/-- The query of a target, if it has an expression. -/
def readTarget (appNamespace : Text) (uid : Uid) (title target : Json) : Option (Option Query) :=
  match target with
  | .object _ =>
    match (target.get? "expr").filter truthy with
    | none => some none
    | some (.str expression) =>
      some (some ⟨uid, title, uid.renderExpression expression.toList appNamespace,
        ((target.get? "validationAllowEmpty").map truthy).getD false⟩)
    | some _ => none
  | _ => none

/-- The variables of the loop. -/
structure Progress where
  checks : List Check
  dashboardCounts : Dict Uid Nat
  count : Nat

namespace Progress
variable (appNamespace : Text) (answers : Nat → Answer)

/-- One check for every query, so that their number tells which answer is next. -/
def target (uid : Uid) (title : Json) (self : Progress) (target : Json) : Option Progress := do
  match ← readTarget appNamespace uid title target with
  | none => some self
  | some query =>
    let check ← query.check (answers self.checks.length)
    some { self with checks := self.checks ++ [check], count := self.count + 1 }

def panel (uid : Uid) (self : Progress) (panel : Json) : Option Progress := do
  let title ← panel.get? "title"
  let targets ← (panel.get? "targets").bind iterate
  targets.foldlM (Progress.target appNamespace answers uid title) self

def file (self : Progress) (payload : Json) : Option Progress := do
  let uid ← (payload.get? "uid").bind Uid.ofJson
  let self ← (iterPanels payload).foldlM (Progress.panel appNamespace answers uid) { self with count := 0 }
  some { self with dashboardCounts := self.dashboardCounts.set uid self.count }

end Progress

structure DashboardResult where
  total : Nat
  useful : Nat
  legitimateZero : Nat
  unexplainedEmpty : Nat
  apiErrors : Nat
  nonFinite : Nat
  deriving DecidableEq, Repr

structure Summary where
  dashboards : Dict Uid Nat
  totalExpressions : Nat
  validExpressions : Nat
  usefulDataExpressions : Nat
  legitimateZeroResults : Nat
  emptyExpressions : Nat
  allowedEmptyExpressions : Nat
  unexplainedEmptyExpressions : Nat
  parseOrApiErrors : Nat
  nonFiniteExpressions : Nat
  dashboardResults : Dict Uid DashboardResult
  failures : Option (List Check)

structure Outcome where
  checks : List Check
  summary : Summary
  exitStatus : Nat

def dashboardResult (checks : List Check) (uid : Uid) : DashboardResult :=
  let items := checks.filter fun item => item.dashboard.equals uid
  { total := items.length
    useful := items.countP fun item => item.useful
    legitimateZero := items.countP fun item => item.legitimateZero
    unexplainedEmpty := items.countP fun item => item.valid && !item.useful && !item.emptyAllowed
    apiErrors := items.countP fun item => !item.valid
    nonFinite := items.countP fun item => !item.finite }

/-- What is reported of the checks, with the uids in the order given. -/
def outcome (checks : List Check) (dashboardCounts : Dict Uid Nat) (uids : List Uid) : Outcome :=
  let invalid := checks.filter fun item => !item.valid
  let empty := checks.filter fun item => item.valid && !item.useful
  let unexplainedEmpty := empty.filter fun item => !item.emptyAllowed
  let nonFinite := checks.filter fun item => !item.finite
  let failed := !invalid.isEmpty || !unexplainedEmpty.isEmpty || !nonFinite.isEmpty
  { checks
    summary :=
      { dashboards := dashboardCounts
        totalExpressions := checks.length
        validExpressions := checks.countP fun item => item.valid
        usefulDataExpressions := checks.countP fun item => item.useful
        legitimateZeroResults := checks.countP fun item => item.legitimateZero
        emptyExpressions := empty.length
        allowedEmptyExpressions := empty.countP fun item => item.emptyAllowed
        unexplainedEmptyExpressions := unexplainedEmpty.length
        parseOrApiErrors := invalid.length
        nonFiniteExpressions := nonFinite.length
        dashboardResults := uids.map fun uid => (uid, dashboardResult checks uid)
        failures := if failed then some (invalid ++ unexplainedEmpty ++ nonFinite) else none }
    exitStatus := if failed then 1 else 0 }

/-- The script on the dashboards of its paths, in their order. -/
def main (appNamespace : Text) (answers : Nat → Answer) (files : List Json) : Option Outcome := do
  let progress ← files.foldlM (Progress.file appNamespace answers) ⟨[], [], 0⟩
  let uids ← sorted progress.dashboardCounts.keys
  some (outcome progress.checks progress.dashboardCounts uids)

end IpCountryApi.Dashboards
