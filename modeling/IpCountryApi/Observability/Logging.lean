import IpCountryApi.Observability.RequestContext

/-! The structured log: filtering by level, the processor chain, and the line printed. -/
namespace IpCountryApi.Observability
open Execution

inductive LogLevel where
  | debug
  | info
  | warning
  | error
  | critical
  deriving DecidableEq, Repr

namespace LogLevel

def severity : LogLevel → Nat
  | debug => 10
  | info => 20
  | warning => 30
  | error => 40
  | critical => 50

def name : LogLevel → String
  | debug => "debug"
  | info => "info"
  | warning => "warning"
  | error => "error"
  | critical => "critical"

end LogLevel

inductive LogValue where
  | text (value : String)
  | number (value : Int)
  | milliseconds (nanoseconds : Int)
  | isoTime (microseconds : Int)
  deriving DecidableEq, Repr

abbrev EventDict := List (String × LogValue)

def sensitiveKeys : List String :=
  ["authorization", "cookie", "database_url", "ipinfo_token", "password", "secret", "token"]

def redactSecrets (event : EventDict) : EventDict :=
  event.map fun field =>
    if sensitiveKeys.contains field.1.toLower then (field.1, .text "[REDACTED]") else field

def addRequestId (requestId : String) (event : EventDict) : EventDict :=
  if event.any fun field => field.1 = "request_id" then event
  else event ++ [("request_id", .text requestId)]

/-- What configure_logging sets up: a threshold and a renderer for event dictionaries. -/
structure LogConfig where
  level : LogLevel
  renderer : EventDict → String

def LogConfig.process (self : LogConfig) (level : LogLevel) (requestId : String) (time : Int)
    (event : EventDict) : String :=
  let event := addRequestId requestId event
  let event := event ++ [("level", .text level.name)]
  let event := event ++ [("timestamp", .isoTime time)]
  self.renderer (redactSecrets event)

/-- logger.info(event, **fields) and its siblings. -/
def LogConfig.log (self : LogConfig) (level : LogLevel) (event : String) (fields : EventDict) : Prog Unit :=
  if level.severity < self.level.severity then pure ()
  else do
    let requestId ← requestIdContextGet
    let time ← perform .timestamp
    perform (.print (self.process level requestId time (fields ++ [("event", .text event)])))

end IpCountryApi.Observability
