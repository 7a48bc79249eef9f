import IpCountryApi.Domain.Json
import IpCountryApi.Observability.Metrics

/-! Responses as the application hands them to its server. -/
namespace IpCountryApi.Http
open Domain Observability

inductive Body where
  | json (value : Json)
  | text (content : String)
  | html (content : String)
  | exposition (metrics : ApplicationMetrics)
  | file (content : String)
  | empty

structure Response where
  status : Nat
  headers : List (String × String)
  body : Body

namespace Response

/-- Header names compare without letter case; the server keeps them in lower case. -/
def header (self : Response) (name : String) : Option String :=
  (self.headers.find? fun h => h.1 = name).map Prod.snd

def setHeader (self : Response) (name value : String) : Response :=
  { self with headers := self.headers.filter (fun h => h.1 ≠ name) ++ [(name, value)] }

def setHeaders (self : Response) (fields : List (String × String)) : Response :=
  fields.foldl (fun self field => self.setHeader field.1 field.2) self

@[simp] theorem setHeader_status (self : Response) (name value : String) :
    (self.setHeader name value).status = self.status := rfl
@[simp] theorem setHeader_body (self : Response) (name value : String) :
    (self.setHeader name value).body = self.body := rfl
@[simp] theorem header_setHeader (self : Response) (name value : String) :
    (self.setHeader name value).header name = some value := by
  have hn : (self.headers.filter fun h => h.1 ≠ name).find? (fun h => h.1 = name) = none := by
    simp [List.find?_eq_none]
  rw [header, setHeader, List.find?_append, hn]
  simp

@[simp] theorem setHeaders_status (self : Response) (fields : List (String × String)) :
    (self.setHeaders fields).status = self.status := by
  induction fields generalizing self with
  | nil => rfl
  | cons field fields ih => exact ih (self.setHeader field.1 field.2)

@[simp] theorem setHeaders_body (self : Response) (fields : List (String × String)) :
    (self.setHeaders fields).body = self.body := by
  induction fields generalizing self with
  | nil => rfl
  | cons field fields ih => exact ih (self.setHeader field.1 field.2)

theorem header_setHeader_ne (self : Response) {name other : String} (h : name ≠ other) (value : String) :
    (self.setHeader name value).header other = self.header other := by
  have hsame : ∀ fields : List (String × String),
      (fields.filter fun field => field.1 ≠ name).find? (fun field => field.1 = other) =
        fields.find? fun field => field.1 = other := by
    intro fields
    rw [List.find?_filter]
    congr 1
    funext field
    by_cases hfield : field.1 = other
    · simp [hfield, Ne.symm h]
    · simp [hfield]
  rw [header, header, setHeader, List.find?_append, hsame]
  simp [h]

theorem header_setHeaders (self : Response) {fields : List (String × String)} {name : String}
    (h : name ∉ fields.map Prod.fst) : (self.setHeaders fields).header name = self.header name := by
  induction fields generalizing self with
  | nil => rfl
  | cons field fields ih =>
    obtain ⟨hne, hrest⟩ := List.ne_and_not_mem_of_not_mem_cons h
    exact (ih (self.setHeader field.1 field.2) hrest).trans (self.header_setHeader_ne (Ne.symm hne) field.2)

def jsonResponse (status : Nat) (content : Json) : Response :=
  ⟨status, [("content-type", "application/json")], .json content⟩

def plainText (status : Nat) (content : String) : Response :=
  ⟨status, [("content-type", "text/plain; charset=utf-8")], .text content⟩

end Response

/-- The statuses a file is answered with: whole, in part, unchanged, or after a
range that is malformed or out of the file. -/
inductive FileStatus where
  | whole
  | partialContent
  | notModified
  | badRange
  | rangeNotSatisfiable
  deriving DecidableEq, Repr

def FileStatus.code : FileStatus → Nat
  | .whole => 200
  | .partialContent => 206
  | .notModified => 304
  | .badRange => 400
  | .rangeNotSatisfiable => 416

/-- HTTP errors the framework raises while it routes, reads a body or serves a file. -/
inductive HttpError where
  | unparsableBody
  | unauthorized
  | notFound
  | methodNotAllowed
  deriving DecidableEq, Repr

namespace HttpError

def statusCode : HttpError → Nat
  | unparsableBody => 400
  | unauthorized => 401
  | notFound => 404
  | methodNotAllowed => 405

def detail : HttpError → String
  | unparsableBody => "There was an error parsing the body"
  | unauthorized => "Unauthorized"
  | notFound => "Not Found"
  | methodNotAllowed => "Method Not Allowed"

end HttpError

/-- What the static file application does with a path. -/
inductive StaticAnswer where
  | file (status : FileStatus) (content : String)
  | error (e : HttpError)

end IpCountryApi.Http
