import IpCountryApi.Library.Numerals
import IpCountryApi.Execution.Effects

/-! The request id: its pattern, where it comes from, and the context variable that
carries it. -/
namespace IpCountryApi.Observability
open Library Execution

def isAsciiAlphanum (c : Char) : Bool :=
  ('A' ≤ c && c ≤ 'Z') || ('a' ≤ c && c ≤ 'z') || ('0' ≤ c && c ≤ '9')

/-- The characters after the first: [A-Za-z0-9._:-]. -/
def isRequestIdChar (c : Char) : Bool :=
  isAsciiAlphanum c || c == '.' || c == '_' || c == ':' || c == '-'

/-- REQUEST_ID_PATTERN.fullmatch. -/
def requestIdPattern (value : List Char) : Bool :=
  match value with
  | [] => false
  | c :: rest => isAsciiAlphanum c && rest.length ≤ 127 && rest.all isRequestIdChar

def validRequestId (value : Option String) : Bool :=
  match value with
  | none => false
  | some value => requestIdPattern value.toList

/-- The integer of a random UUID: version and variant overwrite six of the bits. -/
def uuid4Int (random : BitVec 128) : BitVec 128 :=
  let int := random &&& ~~~(0xc000#128 <<< 48) ||| (0x8000#128 <<< 48)
  int &&& ~~~(0xf000#128 <<< 64) ||| (4#128 <<< 76)

/-- str(uuid4()): 32 hexadecimal digits in five groups. -/
def uuid4Text (random : BitVec 128) : List Char :=
  let hex := (bigEndian 16 32 (uuid4Int random).toNat).map Nat.digitChar
  hex.take 8 ++ '-' :: (hex.drop 8).take 4 ++ '-' :: (hex.drop 12).take 4 ++
    '-' :: (hex.drop 16).take 4 ++ '-' :: hex.drop 20

def requestIdOrNew (value : Option String) : Prog String :=
  match value with
  | some text => if validRequestId value then pure text else fresh
  | none => fresh
where
  fresh : Prog String := do
    let random ← perform .uuid4
    pure (String.ofList (uuid4Text random))

/-- request_id_context.get(): a context that never set the variable reads its default. -/
def requestIdContextGet : Prog String := do
  let value ← perform .contextGet
  pure (value.getD "unknown")

private theorem digitChar_ascii {d : Nat} (hd : d < 16) : isAsciiAlphanum (Nat.digitChar d) = true := by
  interval_cases d <;> decide

private theorem isRequestIdChar_of_ascii {c : Char} (hc : isAsciiAlphanum c = true) :
    isRequestIdChar c = true := by
  simp [isRequestIdChar, hc]

private theorem hex_ascii (n : Nat) : ∀ c ∈ (bigEndian 16 32 n).map Nat.digitChar, isAsciiAlphanum c = true := by
  intro c hc
  obtain ⟨d, hd, rfl⟩ := List.mem_map.mp hc
  exact digitChar_ascii (mem_bigEndian (by decide) hd)

/-- A new request id is a valid one. -/
theorem requestIdPattern_uuid4 (random : BitVec 128) : requestIdPattern (uuid4Text random) = true := by
  have hlen : ((bigEndian 16 32 (uuid4Int random).toNat).map Nat.digitChar).length = 32 := by
    simp [bigEndian_length]
  have hall := hex_ascii (uuid4Int random).toNat
  rw [uuid4Text]
  generalize (bigEndian 16 32 (uuid4Int random).toNat).map Nat.digitChar = hex at hlen hall ⊢
  have hvalid : ∀ c ∈ hex, isRequestIdChar c = true := fun c hc => isRequestIdChar_of_ascii (hall c hc)
  cases hex with
  | nil => simp at hlen
  | cons c rest =>
    have hrest : ∀ n m, ((rest.drop n).take m).all isRequestIdChar = true := fun n m =>
      List.all_eq_true.mpr fun d hd =>
        hvalid d (List.mem_cons_of_mem _ (List.mem_of_mem_drop (List.mem_of_mem_take hd)))
    have hdrop : ∀ n, (rest.drop n).all isRequestIdChar = true := fun n =>
      List.all_eq_true.mpr fun d hd => hvalid d (List.mem_cons_of_mem _ (List.mem_of_mem_drop hd))
    have hfirst := hrest 0
    rw [List.drop_zero] at hfirst
    have hdash : isRequestIdChar '-' = true := by decide
    have hc := hall c List.mem_cons_self
    have hr : rest.length = 31 := by simpa using hlen
    simp [requestIdPattern, hc, hr, hrest, hdrop, hfirst, hdash, List.all_append]

end IpCountryApi.Observability
