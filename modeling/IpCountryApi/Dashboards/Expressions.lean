import IpCountryApi.Library.Dict
import IpCountryApi.Library.MarkedPieces

/-! The expressions of dashboards as the validation script renders them: Grafana's variables
are replaced by the values they stand for. -/
namespace IpCountryApi.Dashboards
open Library

abbrev Text := List Char

abbrev Table := Dict Text Text

def substitutions : Dict String Table :=
  [("arvan-challenge-sre-overview", []),
    ("ip-country-api-performance", [("${namespace:regex}".toList, "ip-country-api".toList), ("${pod:regex}".toList, ".*".toList),
      ("${route:regex}".toList, ".*".toList), ("${status_code:regex}".toList, ".*".toList)]),
    ("cloudnativepg-sre-performance", [("${namespace:regex}".toList, "database".toList),
      ("${cluster:regex}".toList, "ip-country-postgres".toList), ("${instance:regex}".toList, ".*".toList),
      ("${database:regex}".toList, "ip_country".toList)]),
    ("k3s-reliability-capacity", [("${node:regex}".toList, ".*".toList), ("${namespace:regex}".toList, ".*".toList),
      ("${workload:regex}".toList, ".*".toList)])]

def genericVariables : Table :=
  [("cluster".toList, ".*".toList), ("instance".toList, ".*".toList), ("integration".toList, ".*".toList),
    ("job".toList, ".*".toList), ("namespace".toList, ".*".toList), ("node".toList, ".*".toList), ("pod".toList, ".*".toList),
    ("route".toList, ".*".toList), ("service".toList, ".*".toList), ("status_code".toList, ".*".toList),
    ("type".toList, ".*".toList), ("volume".toList, ".*".toList), ("workload".toList, ".*".toList)]

/-- SUBSTITUTIONS.get(uid, {}) -/
def substitutionsOf (uid : String) : Table := (substitutions.get? uid).getD []

/-- The forms in which an expression names a variable. -/
inductive Form where
  | regex
  | braced
  | plain
  deriving DecidableEq, Repr

/-- What follows the dollar sign. -/
def Form.body (name : Text) : Form → Text
  | regex => '{' :: name ++ ":regex\x7d".toList
  | braced => '{' :: name ++ ['}']
  | plain => name

def Form.token (form : Form) (name : Text) : Text := '$' :: form.body name

/-- The passes of render_expression for one variable. -/
def renderVariable (rendered : Text) (entry : Text × Text) : Text :=
  let (name, value) := entry
  let rendered := [Form.braced, .plain].foldl (fun rendered form =>
    let rendered := replace ("=~\"".toList ++ form.token name ++ ['"']) ("=~\"".toList ++ value ++ ['"']) rendered
    replace ("=\"".toList ++ form.token name ++ ['"']) ("=~\"".toList ++ value ++ ['"']) rendered) rendered
  [Form.regex, .braced, .plain].foldl (fun rendered form => replace (form.token name) value rendered) rendered

/-- render_expression with its two tables, in any order. -/
def renderWith (replacements generic : Table) (expression appNamespace : Text) : Text :=
  let rendered := replace "$__rate_interval".toList "5m".toList (replace "__APP_NAMESPACE__".toList appNamespace expression)
  let rendered := replacements.foldl (fun rendered (before, after) => replace before after rendered) rendered
  generic.foldl renderVariable rendered

def renderExpression (uid : String) (expression appNamespace : Text) : Text :=
  renderWith (substitutionsOf uid) genericVariables expression appNamespace

end IpCountryApi.Dashboards
