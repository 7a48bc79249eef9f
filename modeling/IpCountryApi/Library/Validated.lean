import Mathlib.Data.List.Basic

/-! Validation that goes on after an error: the checks of a record are made one after another,
and all of their errors are reported in that order. -/
namespace IpCountryApi.Library

/-- A value, or at least one error. -/
inductive Validated (ε α : Type) where
  | valid (value : α)
  | invalid (first : ε) (more : List ε)

namespace Validated
variable {ε α β : Type}

def errors : Validated ε α → List ε
  | valid _ => []
  | invalid first more => first :: more

def ofExcept : Except ε α → Validated ε α
  | .ok value => valid value
  | .error e => invalid e []

/-- The next check is made whether or not the ones before have failed. -/
def andAlso : Validated ε (α → β) → Validated ε α → Validated ε β
  | valid f, valid value => valid (f value)
  | valid _, invalid first more => invalid first more
  | invalid first more, x => invalid first (more ++ x.errors)

@[simp] theorem errors_valid (value : α) : (valid value : Validated ε α).errors = [] := rfl

@[simp] theorem errors_andAlso (f : Validated ε (α → β)) (x : Validated ε α) :
    (f.andAlso x).errors = f.errors ++ x.errors := by
  cases f with
  | valid f => cases x <;> rfl
  | invalid first more => rfl

/-- The values of a list, one check an item. -/
def traverse (f : α → Validated ε β) : List α → Validated ε (List β)
  | [] => valid []
  | a :: as => ((valid List.cons).andAlso (f a)).andAlso (traverse f as)

theorem errors_traverse (f : α → Validated ε β) (as : List α) : (traverse f as).errors = as.flatMap fun a => (f a).errors := by
  induction as with
  | nil => rfl
  | cons a as ih => rw [traverse, errors_andAlso, errors_andAlso, ih, errors_valid, List.nil_append, List.flatMap_cons]

end Validated
end IpCountryApi.Library
