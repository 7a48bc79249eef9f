import IpCountryApi.Domain.AddressRoundTrip
import IpCountryApi.Execution.Effects
import IpCountryApi.Library.KeyedTable

/-! The table ip_lookup_cache: its key type, its rows, and what the upsert statement
does to them. -/
namespace IpCountryApi.Execution
open Library Domain

/-- PostgreSQL's inet as far as the application relies on it: plain address literals are
accepted and read back as the address they write, and a zone is not accepted. -/
structure InetType where
  Value : Type
  decEq : DecidableEq Value
  input : Text → Option Value
  output : Value → Text
  plain : ∀ a : IPAddress, a.scopeId = none → ∃ v, input a.str = some v ∧ ipAddress (output v) = some a
  zone : ∀ s : Text, '%' ∈ s → input s = none

instance (T : InetType) : DecidableEq T.Value := T.decEq

/-- The host addresses of inet, written as the application writes them. -/
def hostAddresses : InetType where
  Value := IPAddress
  decEq := inferInstance
  input s := if '%' ∈ s then none else ipAddress s
  output := IPAddress.str
  plain a ha := by
    have hp : '%' ∉ a.str := fun hp => (a.str_percent.mp hp) ha
    exact ⟨a, by rw [if_neg hp, ipAddress_str], ipAddress_str a⟩
  zone s hs := by simp [hs]

namespace InetType
variable {T : InetType} {a b : IPAddress} {v : T.Value}

theorem output_input (ha : a.scopeId = none) (h : T.input a.str = some v) :
    ipAddress (T.output v) = some a := by
  obtain ⟨v', hv, ho⟩ := T.plain a ha
  rw [hv] at h
  rwa [← Option.some.inj h]

/-- An address the column type accepts carries no zone. -/
theorem scopeId_of_input (h : T.input a.str = some v) : a.scopeId = none := by
  by_contra hs
  rw [T.zone a.str ((IPAddress.str_percent a).mpr hs)] at h
  cases h

/-- One inet value belongs to one address. -/
theorem input_injective (ha : T.input a.str = some v) (hb : T.input b.str = some v) : a = b := by
  have h := output_input (scopeId_of_input ha) ha
  rw [output_input (scopeId_of_input hb) hb] at h
  exact (Option.some.inj h).symm

end InetType

variable {T : InetType}

/-- A row of ip_lookup_cache. A timestamptz keeps the instant of a datetime. -/
structure Row (T : InetType) where
  ipAddress : T.Value
  countryCode : String
  countryName : String
  provider : String
  fetchedAt : Int
  expiresAt : Int
  createdAt : Int
  updatedAt : Int
  deriving DecidableEq

structure Row.LoadsAs (row : Row T) (loaded : LoadedRow) : Prop where
  ipAddress : loaded.ipAddress = T.output row.ipAddress
  countryCode : loaded.countryCode = row.countryCode
  countryName : loaded.countryName = row.countryName
  provider : loaded.provider = row.provider
  fetchedAt : loaded.fetchedAt.instant = row.fetchedAt
  expiresAt : loaded.expiresAt.instant = row.expiresAt
  createdAt : loaded.createdAt.instant = row.createdAt
  updatedAt : loaded.updatedAt.instant = row.updatedAt

instance (row : Row T) (loaded : LoadedRow) : Decidable (row.LoadsAs loaded) :=
  decidable_of_iff (loaded.ipAddress = T.output row.ipAddress ∧ loaded.countryCode = row.countryCode ∧
      loaded.countryName = row.countryName ∧ loaded.provider = row.provider ∧
      loaded.fetchedAt.instant = row.fetchedAt ∧ loaded.expiresAt.instant = row.expiresAt ∧
      loaded.createdAt.instant = row.createdAt ∧ loaded.updatedAt.instant = row.updatedAt)
    ⟨fun ⟨h₁, h₂, h₃, h₄, h₅, h₆, h₇, h₈⟩ => ⟨h₁, h₂, h₃, h₄, h₅, h₆, h₇, h₈⟩,
      fun h => ⟨h.1, h.2, h.3, h.4, h.5, h.6, h.7, h.8⟩⟩

/-- A SELECT by key: the key is a value of the column type, and the row under it is loaded. -/
def Row.selects (table : List (Row T)) (key : Text) (loaded : Option LoadedRow) : Bool :=
  (T.input key).any fun v =>
    match KeyedTable.fetch Row.ipAddress table v, loaded with
    | none, none => true
    | some row, some loaded => decide (row.LoadsAs loaded)
    | _, _ => false

theorem Row.selects_none {table : List (Row T)} {key : Text} :
    Row.selects table key none = true ↔
      ∃ v, T.input key = some v ∧ KeyedTable.fetch Row.ipAddress table v = none := by
  unfold Row.selects
  cases T.input key with
  | none => simp
  | some v => cases hf : KeyedTable.fetch Row.ipAddress table v <;> simp [hf]

theorem Row.selects_some {table : List (Row T)} {key : Text} {loaded : LoadedRow} :
    Row.selects table key (some loaded) = true ↔ ∃ v row, T.input key = some v ∧
      KeyedTable.fetch Row.ipAddress table v = some row ∧ row.LoadsAs loaded := by
  unfold Row.selects
  cases T.input key with
  | none => simp
  | some v => cases hf : KeyedTable.fetch Row.ipAddress table v <;> simp [hf]

namespace UpsertStatement

def row (st : UpsertStatement) (v : T.Value) (countryName : String) : Row T where
  ipAddress := v
  countryCode := st.countryCode
  countryName := countryName
  provider := st.provider
  fetchedAt := st.fetchedAt.instant
  expiresAt := st.expiresAt.instant
  createdAt := st.createdAt.instant
  updatedAt := st.updatedAt.instant

/-- The SET list of ON CONFLICT DO UPDATE. -/
def update (st : UpsertStatement) (countryName : String) (row : Row T) : Row T :=
  { row with
    countryCode := st.countryCode
    countryName := countryName
    provider := st.provider
    fetchedAt := st.fetchedAt.instant
    expiresAt := st.expiresAt.instant
    updatedAt := st.updatedAt.instant }

/-- A str that the driver can send and PostgreSQL stores in varchar(n). -/
def fits (n : Nat) : PyStr → Bool
  | .text value => value.length ≤ n && !value.toList.contains (Char.ofNat 0)
  | .broken _ => false

/-- Every value is one its column accepts. -/
def Admitted (T : InetType) (st : UpsertStatement) : Prop :=
  (T.input st.ipAddress).isSome ∧ fits 2 st.countryCode ∧ fits 128 st.countryName ∧ fits 32 st.provider

instance (st : UpsertStatement) : Decidable (st.Admitted T) := inferInstanceAs (Decidable (_ ∧ _))

/-- What a statement with admitted values does to the table. -/
def write (st : UpsertStatement) (table : List (Row T)) : List (Row T) :=
  match T.input st.ipAddress, st.countryName with
  | some v, .text countryName => KeyedTable.insertOrMerge Row.ipAddress (st.row v countryName) (st.update countryName) table
  | _, _ => table

variable {st : UpsertStatement} {v : T.Value} {name : String} {table : List (Row T)} {r : Row T}

@[simp] theorem update_ipAddress (st : UpsertStatement) (name : String) (r : Row T) :
    (st.update name r).ipAddress = r.ipAddress := rfl
@[simp] theorem row_ipAddress : (st.row v name).ipAddress = v := rfl

theorem encodes_of_fits {n : Nat} {value : PyStr} (h : fits n value = true) : value.encodes = true := by
  cases value with
  | text => rfl
  | broken => cases h

theorem Admitted.encodes (h : st.Admitted T) : st.countryName.encodes = true := encodes_of_fits h.2.2.1

theorem Admitted.key (h : st.Admitted T) : ∃ v, T.input st.ipAddress = some v := Option.isSome_iff_exists.mp h.1

theorem Admitted.text (h : st.Admitted T) : ∃ name : String, st.countryName = name := PyStr.encodes_iff.mp h.encodes

/-- The row holds what the statement says, apart from the time of its insertion. -/
structure Wrote (st : UpsertStatement) (r : Row T) : Prop where
  ipAddress : T.input st.ipAddress = some r.ipAddress
  countryCode : r.countryCode = st.countryCode
  countryName : st.countryName = r.countryName
  provider : r.provider = st.provider
  fetchedAt : r.fetchedAt = st.fetchedAt.instant
  expiresAt : r.expiresAt = st.expiresAt.instant
  updatedAt : r.updatedAt = st.updatedAt.instant

theorem write_eq (hv : T.input st.ipAddress = some v) (hname : st.countryName = name) :
    st.write table = KeyedTable.insertOrMerge Row.ipAddress (st.row v name) (st.update name) table := by
  rw [write, hv, hname]

/-- A statement with a value that is not admitted writes nothing. -/
theorem write_cases (st : UpsertStatement) (table : List (Row T)) : st.write table = table ∨
    ∃ v, ∃ name : String, T.input st.ipAddress = some v ∧ st.countryName = name ∧
      st.write table = KeyedTable.insertOrMerge Row.ipAddress (st.row v name) (st.update name) table := by
  cases hv : T.input st.ipAddress with
  | none => exact .inl (by rw [write, hv])
  | some v =>
    cases hname : st.countryName with
    | text name => exact .inr ⟨v, name, rfl, rfl, write_eq hv hname⟩
    | broken => exact .inl (by rw [write, hv, hname])

theorem nodup_write (hn : (table.map Row.ipAddress).Nodup) : ((st.write table).map Row.ipAddress).Nodup := by
  rcases st.write_cases table with ht | ⟨v, name, _, _, ht⟩
  · rwa [ht]
  · rw [ht]
    exact KeyedTable.nodup_insertOrMerge (st.update_ipAddress name) hn

/-- The row that a statement leaves under its key: a new one, or the old one with
everything but created_at replaced. -/
theorem fetch_write (hv : T.input st.ipAddress = some v) (hname : st.countryName = name) (table : List (Row T)) :
    KeyedTable.fetch Row.ipAddress (st.write table) v =
      some (((KeyedTable.fetch Row.ipAddress table v).map (st.update name)).getD (st.row v name)) := by
  rw [write_eq hv hname]
  exact KeyedTable.fetch_insertOrMerge_self (st.update_ipAddress name) table

theorem fetch_write_ne {k : T.Value} (hk : T.input st.ipAddress ≠ some k) (table : List (Row T)) :
    KeyedTable.fetch Row.ipAddress (st.write table) k = KeyedTable.fetch Row.ipAddress table k := by
  rcases st.write_cases table with ht | ⟨v, name, hv, _, ht⟩
  · rw [ht]
  · rw [ht]
    refine KeyedTable.fetch_insertOrMerge_ne (st.update_ipAddress name) table fun he => hk ?_
    rw [hv, he, row_ipAddress]

/-- After a write each row is an old row, an old row updated, or a new row. -/
theorem mem_write (hn : (table.map Row.ipAddress).Nodup) (hr : r ∈ st.write table) : r ∈ table ∨
    ∃ name : String, st.countryName = name ∧
      ((∃ old ∈ table, T.input st.ipAddress = some old.ipAddress ∧ r = st.update name old) ∨
        ∃ v, T.input st.ipAddress = some v ∧ r = st.row v name) := by
  rcases st.write_cases table with ht | ⟨v, name, hv, hname, ht⟩
  · exact .inl (ht ▸ hr)
  · rw [ht] at hr
    rcases KeyedTable.mem_insertOrMerge (st.update_ipAddress name) hn hr with ⟨hr, _⟩ | rfl
    · exact .inl hr
    · refine .inr ⟨name, hname, ?_⟩
      cases hf : KeyedTable.fetch Row.ipAddress table (st.row v name).ipAddress with
      | none => exact .inr ⟨v, hv, rfl⟩
      | some old => exact .inl ⟨old, KeyedTable.fetch_mem hf, hv.trans (congrArg some (KeyedTable.fetch_key hf).symm), rfl⟩

theorem wrote_row (hv : T.input st.ipAddress = some v) (hname : st.countryName = name) : st.Wrote (st.row v name) :=
  ⟨hv, rfl, hname, rfl, rfl, rfl, rfl⟩

theorem wrote_update (hv : T.input st.ipAddress = some r.ipAddress) (hname : st.countryName = name) :
    st.Wrote (st.update name r) := ⟨hv, rfl, hname, rfl, rfl, rfl, rfl⟩

/-- A row that is not an old one holds what was written. -/
theorem mem_write_wrote (hn : (table.map Row.ipAddress).Nodup) (hr : r ∈ st.write table) :
    r ∈ table ∨ st.Wrote r := by
  rcases mem_write hn hr with hr | ⟨name, hname, ⟨old, _, hv, rfl⟩ | ⟨v, hv, rfl⟩⟩
  · exact .inl hr
  · exact .inr (wrote_update hv hname)
  · exact .inr (wrote_row hv hname)

/-- An admitted statement leaves a row with what it says. -/
theorem exists_wrote (admitted : st.Admitted T) (table : List (Row T)) : ∃ r ∈ st.write table, st.Wrote r := by
  obtain ⟨v, hv⟩ := admitted.key
  obtain ⟨name, hname⟩ := admitted.text
  have hf := fetch_write hv hname table
  refine ⟨_, KeyedTable.fetch_mem hf, ?_⟩
  cases hold : KeyedTable.fetch Row.ipAddress table v with
  | none => exact wrote_row hv hname
  | some old => exact wrote_update (hv.trans (congrArg some (KeyedTable.fetch_key hold).symm)) hname

/-- The row under the key of an admitted statement holds what was written. -/
theorem wrote_of_mem (admitted : st.Admitted T) (hn : (table.map Row.ipAddress).Nodup) (hr : r ∈ st.write table)
    (hk : T.input st.ipAddress = some r.ipAddress) : st.Wrote r := by
  obtain ⟨row, hrow, wrote⟩ := exists_wrote admitted table
  have hn' : ((st.write table).map Row.ipAddress).Nodup := nodup_write hn
  have hr' := KeyedTable.fetch_eq_some hn' hr
  rw [← Option.some.inj (wrote.ipAddress.symm.trans hk), KeyedTable.fetch_eq_some hn' hrow] at hr'
  exact Option.some.inj hr' ▸ wrote

/-- No write removes a row or changes when it was created. -/
theorem write_keeps (st : UpsertStatement) (hr : r ∈ table) :
    ∃ r' ∈ st.write table, r'.ipAddress = r.ipAddress ∧ r'.createdAt = r.createdAt := by
  rcases st.write_cases table with ht | ⟨v, name, _, _, ht⟩
  · exact ⟨r, by rwa [ht], rfl, rfl⟩
  · rw [ht]
    rcases KeyedTable.kept_insertOrMerge Row.ipAddress (st.row v name) (st.update name) hr with hr | hr
    · exact ⟨r, hr, rfl, rfl⟩
    · exact ⟨_, hr, rfl, rfl⟩

end UpsertStatement
end IpCountryApi.Execution
