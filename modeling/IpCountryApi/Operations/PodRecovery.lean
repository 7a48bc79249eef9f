import IpCountryApi.Dashboards.Validation
import IpCountryApi.Library.Counters
import IpCountryApi.Operations.TrafficGenerator

/-! The script that deletes a Pod while it keeps sending lookups: what it reads of the cluster,
its two threads, and its report. -/
namespace IpCountryApi.Operations.PodRecovery
open Library Domain Dashboards

/-! The inventory. A payload of another shape raises. -/

/-- The name is a member of sets. -/
structure Pod where
  name : Uid
  node : Json
  phase : Json
  ready : Bool

/-- value[key] -/
def subscript (value : Json) (key : String) : Option Json :=
  match value with
  | .object _ => value.get? key
  | _ => none

/-- value.get(key, default) -/
def getOr (value : Json) (key : String) (default : Json) : Option Json :=
  match value with
  | .object _ => some ((value.get? key).getD default)
  | _ => none

/-- all(status.get("ready", False) for status in statuses) -/
def allReady : List Json → Option Bool
  | [] => some true
  | status :: statuses => do
    let ready ← getOr status "ready" (.bool false)
    if truthy ready then allReady statuses else some false

def podReady (statuses metadata : Json) : Option Bool :=
  if !truthy statuses then some false
  else do
    let listed ← iterate statuses
    let ready ← allReady listed
    if !ready then some false
    else do
      let deletionTimestamp ← getOr metadata "deletionTimestamp" .null
      some (!truthy deletionTimestamp)

/-- A name that is no member of a set raises here: the script makes a set of the names or takes
one as an argument before it runs another command. -/
def podOf (item : Json) : Option Pod := do
  let status ← getOr item "status" (.object [])
  let statuses ← getOr status "containerStatuses" (.array [])
  let metadata ← subscript item "metadata"
  let name ← (subscript metadata "name").bind Uid.ofJson
  let spec ← getOr item "spec" (.object [])
  let node ← getOr spec "nodeName" .null
  let phase ← getOr status "phase" .null
  let ready ← podReady statuses metadata
  some ⟨name, node, phase, ready⟩

def names (pods : List Pod) : List Uid := pods.map Pod.name

def podInventory (payload : Json) : Option (List Pod) := do
  let items ← (subscript payload "items").bind iterate
  let pods ← items.mapM podOf
  if comparable (names pods) then some (pods.insertionSort fun a b => !b.name.lt a.name) else none

def readyPods (pods : List Pod) : List Pod := pods.filter (·.ready)

/-- The set of the nodes, if all of them can be members of one. -/
def nodes (pods : List Pod) : Option (List Uid) := (pods.mapM fun pod => Uid.ofJson pod.node).map List.dedup

/-- Two Ready Pods on distinct nodes, the first of which is to be deleted. -/
def Eligible (before : List Pod) (deleted : Pod) : Prop :=
  ∃ other, readyPods before = [deleted, other] ∧ (nodes [deleted, other]).map List.length = some 2

/-- The Pod to delete, or an exception. -/
def choose (before : List Pod) : Option { deleted : Pod // Eligible before deleted } :=
  match h : readyPods before with
  | [deleted, other] =>
    if hnodes : (nodes [deleted, other]).map List.length = some 2 then some ⟨deleted, other, h, hnodes⟩ else none
  | _ => none

/-- The condition on which the loop breaks. -/
def hasRecovered (before after : List Pod) (deleted : Pod) : Bool :=
  (readyPods after).length = 2 && !(names after).contains deleted.name &&
    (readyPods after).any fun pod => !(names before).contains pod.name

/-! The threads. -/

structure Args where
  namespaceName : String
  selector : String
  baseUrl : List String
  recoveryTimeout : Int

def getPods (args : Args) : List PyStr :=
  ["-n", args.namespaceName, "get", "pods", "-l", args.selector, "-o", "json"]

/-- Some surrogates stand for bytes, and NUL ends an argument. -/
def isArgumentPoint : CodePoint → Bool
  | .scalar c => c.toNat ≠ 0
  | .surrogate offset => 0x480 ≤ offset.val && offset.val < 0x500

/-- The name as subprocess.run takes an argument, or an exception. -/
def argument : Uid → Option PyStr
  | .text name => if name.points.all isArgumentPoint then some name else none
  | .null | .number _ => none

def deletePod (args : Args) (name : PyStr) : List PyStr :=
  ["-n", args.namespaceName, "delete", "pod", name, "--wait=false"]

/-- How a request ends: an answer whose body was read, an HTTPError, an OSError, or an
exception that ends the thread. -/
inductive Attempt where
  | response (code : Nat)
  | httpError (code : Nat)
  | osError (typeName : String)
  | escaped (typeName : String)
  deriving DecidableEq, Repr

/-- The status code under which the attempt is counted. -/
def Attempt.statusCode : Attempt → Option String
  | .response code | .httpError code => some (toString code)
  | .osError _ | .escaped _ => none

/-- The failure type under which the attempt is counted. -/
def Attempt.failureType : Attempt → Option String
  | .response code => if code ≠ 200 then some ("HTTP " ++ toString code) else none
  | .httpError code => some ("HTTP " ++ toString code)
  | .osError typeName => some typeName
  | .escaped _ => none

def Attempt.isCaught : Attempt → Bool
  | .escaped _ => false
  | _ => true

/-- send_requests: the number of the next request, and where the thread is. The failure counter
follows the status counter, and main may read between the two. -/
inductive Traffic where
  | unstarted
  | testing (requestNumber : Nat)
  | sending (requestNumber : Nat)
  | failing (requestNumber : Nat) (failureType : String)
  | waiting (requestNumber : Nat)
  | returned
  | died

def Traffic.isOver : Traffic → Bool
  | .returned | .died => true
  | _ => false

/-- Where the thread goes on once the status of its request is counted. -/
def Traffic.next (requestNumber : Nat) (attempt : Attempt) : Traffic :=
  if !attempt.isCaught then .died
  else
    match attempt.failureType with
    | some failureType => .failing requestNumber failureType
    | none => .waiting requestNumber

/-- The variables of main while it waits for the recovery. -/
structure Watch where
  before : List Pod
  deleted : Pod
  eligible : Eligible before deleted
  started : Int
  after : List Pod
  recovered : Bool

structure Report where
  deletedPod : Pod
  replacementPod : Option Pod
  recoverySeconds : Int
  before : List Pod
  after : List Pod
  readyReplicasAfter : Nat
  distinctNodesAfter : Nat
  requests : Nat
  statusCodes : Dict String Nat
  failureTypes : Dict String Nat
  unexpectedFailures : Nat
  recovered : Bool

/-- Where main is. It reads the counters one after another and takes no lock for it. -/
inductive Main where
  | checking
  | starting (before : List Pod) (deleted : { deleted : Pod // Eligible before deleted })
  | deleting (watch : Watch)
  | testing (watch : Watch)
  | listing (watch : Watch)
  | pausing (watch : Watch)
  | leaving (watch : Watch)
  | stopping (watch : Watch) (recoverySeconds : Int)
  | joining (watch : Watch) (recoverySeconds : Int)
  | summing (watch : Watch) (recoverySeconds : Int)
  | totalling (watch : Watch) (recoverySeconds : Int) (unexpectedFailures : Nat)
  | copyingCodes (watch : Watch) (recoverySeconds : Int) (unexpectedFailures requests : Nat)
  | copyingFailures (watch : Watch) (recoverySeconds : Int) (unexpectedFailures requests : Nat)
      (statusCodes : Dict String Nat)
  | reported (report : Report)
  | raised

/-- The commands that were run, their outputs, and what the thread has sent and got, are kept
in order. -/
structure State where
  main : Main
  traffic : Traffic
  stop : Bool
  statusCodes : Dict String Nat
  failures : Dict String Nat
  commands : List (List PyStr)
  outputs : List (Option Json)
  sent : List String
  settled : List Attempt

def State.start (args : Args) : State := ⟨.checking, .unstarted, false, [], [], [getPods args], [], [], []⟩

def Watch.report (self : Watch) (recoverySeconds : Int) (unexpectedFailures requests : Nat)
    (statusCodes failures : Dict String Nat) : Report where
  deletedPod := self.deleted
  replacementPod := (readyPods self.after).find? fun pod => !(names self.before).contains pod.name
  recoverySeconds := recoverySeconds
  before := self.before
  after := self.after
  readyReplicasAfter := (readyPods self.after).length
  distinctNodesAfter := ((nodes (readyPods self.after)).getD []).length
  requests := requests
  statusCodes := Dict.sortedItems statusCodes
  failureTypes := Dict.sortedItems failures
  unexpectedFailures := unexpectedFailures
  recovered := self.recovered

/-- The value main returns. -/
def Report.exitStatus (self : Report) : Nat :=
  if self.recovered && self.unexpectedFailures = 0 && self.readyReplicasAfter = 2 then 0 else 1

/-- What either thread gets: the output of a command unless it failed, a clock reading, the end
of a sleep or of a wait for the other thread, its own next turn, or the end of a request. -/
inductive Event where
  | output (payload : Option Json)
  | clock (now : Int)
  | awake
  | turn
  | joined
  | test
  | settle (attempt : Attempt)
  | count
  | waited

namespace State
variable (args : Args) (self : State)

/-- A step of main. -/
def mainStep : Event → Option State
  | .output payload =>
    let self := { self with outputs := self.outputs ++ [payload] }
    match self.main with
    | .checking =>
      match payload.bind podInventory with
      | none => some { self with main := .raised }
      | some before =>
        match choose before with
        | none => some { self with main := .raised }
        | some deleted => some { self with main := .starting before deleted }
    | .deleting watch => if payload.isSome then some { self with main := .testing watch } else some { self with main := .raised }
    | .listing watch =>
      match payload.bind podInventory with
      | none => some { self with main := .raised }
      | some after =>
        if hasRecovered watch.before after watch.deleted then
          some { self with main := .leaving { watch with after := after, recovered := true } }
        else some { self with main := .pausing { watch with after := after } }
    | _ => none
  | .clock now =>
    match self.main with
    | .starting before deleted =>
      match argument deleted.1.name with
      | some name => some { self with
          main := .deleting ⟨before, deleted.1, deleted.2, now, [], false⟩
          traffic := .testing 0
          commands := self.commands ++ [deletePod args name] }
      | none => some { self with main := .raised, traffic := .testing 0 }
    | .testing watch =>
      if now - watch.started < args.recoveryTimeout then
        some { self with main := .listing watch, commands := self.commands ++ [getPods args] }
      else some { self with main := .leaving watch }
    | .leaving watch => some { self with main := .stopping watch (now - watch.started) }
    | _ => none
  | .awake =>
    match self.main with
    | .pausing watch => some { self with main := .testing watch }
    | .stopping watch recoverySeconds => some { self with main := .joining watch recoverySeconds, stop := true }
    | _ => none
  | .joined =>
    match self.main with
    | .joining watch recoverySeconds =>
      -- the report counts the nodes
      if (nodes (readyPods watch.after)).isSome then some { self with main := .summing watch recoverySeconds }
      else some { self with main := .raised }
    | _ => none
  | .turn =>
    match self.main with
    | .summing watch recoverySeconds =>
      some { self with main := .totalling watch recoverySeconds self.failures.total }
    | .totalling watch recoverySeconds unexpectedFailures =>
      let requests := self.statusCodes.total + unexpectedFailures
      some { self with main := .copyingCodes watch recoverySeconds unexpectedFailures requests }
    | .copyingCodes watch recoverySeconds unexpectedFailures requests =>
      let statusCodes := self.statusCodes
      some { self with main := .copyingFailures watch recoverySeconds unexpectedFailures requests statusCodes }
    | .copyingFailures watch recoverySeconds unexpectedFailures requests statusCodes =>
      let report := watch.report recoverySeconds unexpectedFailures requests statusCodes self.failures
      some { self with main := .reported report }
    | _ => none
  | _ => none

/-- A step of the thread that sends the requests. -/
def trafficStep : Event → Option State
  | .test =>
    match self.traffic with
    | .testing requestNumber =>
      if self.stop then some { self with traffic := .returned }
      else some { self with
        traffic := .sending (requestNumber + 1)
        sent := self.sent ++ [baseUrlOf requestNumber args.baseUrl] }
    | _ => none
  | .settle attempt =>
    match self.traffic with
    | .sending requestNumber =>
      some { self with
        traffic := Traffic.next requestNumber attempt
        statusCodes := match attempt.statusCode with
          | some code => self.statusCodes.increment code
          | none => self.statusCodes
        settled := self.settled ++ [attempt] }
    | _ => none
  | .count =>
    match self.traffic with
    | .failing requestNumber failureType =>
      some { self with traffic := .waiting requestNumber, failures := self.failures.increment failureType }
    | _ => none
  | .waited =>
    match self.traffic with
    | .waiting requestNumber => some { self with traffic := .testing requestNumber }
    | _ => none
  | _ => none

/-- One step of one of the threads. -/
def Follows (before after : State) : Prop :=
  ∃ event, before.mainStep args event = some after ∨ before.trafficStep args event = some after

def Reachable : Prop := Relation.ReflTransGen (Follows args) (start args) self

end State
end IpCountryApi.Operations.PodRecovery
