import Mathlib.Data.List.DropRight

/-! The generic syntax of URIs: any string splits into scheme, authority and the rest, and an
authority into user information, host and port. -/
namespace IpCountryApi.Library.Uri

/-- The characters that end an authority. -/
def endsAuthority (c : Char) : Bool := c = '/' || c = '?' || c = '#'

def endsScheme (c : Char) : Bool := c = ':' || endsAuthority c

def scheme (uri : List Char) : Option (List Char) :=
  match uri.takeWhile (!endsScheme ·), uri.dropWhile (!endsScheme ·) with
  | c :: name, ':' :: _ => some (c :: name)
  | _, _ => none

/-- What follows the scheme. -/
def hierarchy (uri : List Char) : List Char :=
  match uri.takeWhile (!endsScheme ·), uri.dropWhile (!endsScheme ·) with
  | _ :: _, ':' :: rest => rest
  | _, _ => uri

def authority (uri : List Char) : Option (List Char) :=
  match hierarchy uri with
  | '/' :: '/' :: rest => some (rest.takeWhile (!endsAuthority ·))
  | _ => none

/-- What follows the user information of an authority. -/
def hostPort (authority : List Char) : List Char := authority.rtakeWhile (· ≠ '@')

/-- The host: an address in brackets, or everything before the port. -/
def hostOf (authority : List Char) : List Char :=
  match hostPort authority with
  | '[' :: literal => '[' :: literal.takeWhile (· ≠ ']') ++ [']']
  | text => text.takeWhile (· ≠ ':')

def host (uri : List Char) : Option (List Char) := (authority uri).map hostOf

variable {name rest suffix : List Char}

private theorem split_named (hname : name.all (!endsScheme ·) = true) (rest : List Char) :
    (name ++ ':' :: rest).takeWhile (!endsScheme ·) = name ∧
    (name ++ ':' :: rest).dropWhile (!endsScheme ·) = ':' :: rest := by
  have hall := List.all_eq_true.mp hname
  rw [List.takeWhile_append_of_pos hall, List.dropWhile_append_of_pos hall]
  exact ⟨List.append_nil name, rfl⟩

/-- A scheme is read up to its colon. -/
theorem scheme_named (hne : name ≠ []) (hname : name.all (!endsScheme ·) = true) (rest : List Char) :
    scheme (name ++ ':' :: rest) = some name := by
  obtain ⟨htake, hdrop⟩ := split_named hname rest
  rw [scheme, htake, hdrop]
  cases name with
  | nil => exact absurd rfl hne
  | cons c name => rfl

theorem authority_named (hne : name ≠ []) (hname : name.all (!endsScheme ·) = true) (rest : List Char) :
    authority (name ++ ':' :: '/' :: '/' :: rest) = some (rest.takeWhile (!endsAuthority ·)) := by
  obtain ⟨htake, hdrop⟩ := split_named hname ('/' :: '/' :: rest)
  rw [authority, hierarchy, htake, hdrop]
  cases name with
  | nil => exact absurd rfl hne
  | cons c name => rfl

/-- What an authority is does not depend on what follows its end. -/
theorem takeWhile_ended {after : List Char} (hend : ∀ c ∈ after.head?, endsAuthority c = true) :
    (rest ++ after).takeWhile (!endsAuthority ·) = rest.takeWhile (!endsAuthority ·) := by
  induction rest with
  | nil =>
    cases after with
    | nil => rfl
    | cons c after =>
      rw [List.nil_append, List.takeWhile_cons, hend c rfl]
      rfl
  | cons c rest ih =>
    rw [List.cons_append, List.takeWhile_cons, List.takeWhile_cons, ih]

/-- Trailing characters are dropped from what follows a character that is kept. -/
theorem rdropWhile_append {p : Char → Bool} {front : List Char} (hne : front ≠ []) (hlast : ¬ p (front.getLast hne) = true)
    (rest : List Char) : (front ++ rest).rdropWhile p = front ++ rest.rdropWhile p := by
  induction rest using List.reverseRecOn with
  | nil =>
    rw [List.append_nil, List.rdropWhile_nil, List.append_nil, List.rdropWhile_eq_self_iff]
    exact fun _ => hlast
  | append_singleton rest c ih =>
    rw [← List.append_assoc, List.rdropWhile_concat, List.rdropWhile_concat]
    split
    · exact ih
    · exact List.append_assoc front rest [c]

/-- Without a separator there is no user information. -/
theorem hostPort_plain (h : '@' ∉ suffix) : hostPort suffix = suffix := by
  rw [hostPort, List.rtakeWhile_eq_self_iff]
  intro c hc
  simpa using fun he : c = '@' => h (he ▸ hc)

/-- Only the last separator counts. -/
theorem hostPort_append (front : List Char) (h : '@' ∈ suffix) : hostPort (front ++ suffix) = hostPort suffix := by
  rw [hostPort, hostPort, List.rtakeWhile, List.rtakeWhile, List.reverse_append, List.takeWhile_append, if_neg]
  intro hlength
  have hself : suffix.reverse.takeWhile (· ≠ '@') = suffix.reverse := (List.takeWhile_prefix _).eq_of_length hlength
  have hat : '@' ∈ suffix.reverse.takeWhile (· ≠ '@') := by
    rw [hself]
    exact List.mem_reverse.2 h
  simpa using List.mem_takeWhile_imp hat

/-- The host of an authority that starts with a plain name. -/
theorem hostOf_named (hne : name ≠ []) (hname : name.all (fun c => c ≠ '@' && c ≠ ':' && c ≠ '[') = true)
    (suffix : List Char) : hostOf (name ++ suffix) = if '@' ∈ suffix then hostOf suffix else name ++ suffix.takeWhile (· ≠ ':') := by
  have hplain : ∀ c ∈ name, c ≠ '@' ∧ c ≠ ':' ∧ c ≠ '[' := by
    intro c hc
    simpa [and_assoc] using List.all_eq_true.mp hname c hc
  split
  · rename_i hat
    rw [hostOf, hostOf, hostPort_append name hat]
  · rename_i hat
    have hnone : '@' ∉ name ++ suffix := by
      rw [List.mem_append, not_or]
      exact ⟨fun hc => (hplain _ hc).1 rfl, hat⟩
    rw [hostOf, hostPort_plain hnone]
    split
    · rename_i literal hliteral
      cases name with
      | nil => exact absurd rfl hne
      | cons c name =>
        obtain ⟨rfl, _⟩ := List.cons.inj hliteral
        exact absurd rfl (hplain _ List.mem_cons_self).2.2
    · exact List.takeWhile_append_of_pos fun c hc => decide_eq_true (hplain c hc).2.1

end IpCountryApi.Library.Uri
