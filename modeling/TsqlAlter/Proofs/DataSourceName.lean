import Mathlib.Data.List.Basic
import TsqlAlter.Connection
import TsqlAlter.Text.Numeral
import TsqlAlter.Text.Parts
import TsqlAlter.Text.Span

/-!
# What a data source name tells

A DSN is a row of items behind the scheme, and an item is a key and a value. The value may be nearly
any text: it may hold equals signs and may look like another item. Still, every parameter can be
read off the DSN, for a key has no equals sign, and neither a semicolon in a value nor a separator
in the host is there to mislead a reader.

What cannot be told is whether an empty host was given or none, and whether port 0 was given or
none. These are the only differences between connections that leave no trace.

`item?`, `items?` and `address?` read the pieces of a DSN and `ofDsn?` the whole. `told` is what is
left of a connection, and `IsPlain` says that no text in it holds a mark that a reader goes by.

Results:
* `items?_dsn`: the items are read off the DSN.
* `address?_address`: so are the host and the port off the address.
* `ofDsn?_dsn`: and the connection off the whole.
* `dsn_told`: what cannot be told does not count.
* `dsn_determines`: DSNs are equal just if the connections are, as far as they can be told.

Left out: values with semicolons in them. A DSN has no way to escape one, so it may be the DSN of
another connection as well.
-/

namespace TsqlAlter

namespace Connection

open Text

variable {c : Connection} {separator : PortSeparator}

/-! ## A reader -/

/-- Cuts an item at its first equals sign into the key and the value. -/
def item? (text : List Char) : Option (String × String) :=
  match text.dropWhile (· != '=') with
  | [] => none
  | _ :: value => some (.ofList (text.takeWhile (· != '=')), .ofList value)

/-- Takes off the scheme and cuts the rest at the semicolons. -/
def items? (dsn : String) : Option (List (String × String)) :=
  (dsn.toList.dropPrefix? "dblib:".toList).bind fun rest => (parts ';' rest).mapM item?

/-- Cuts an address at the separator into the host and the port, if there is one. -/
def address? (separator : PortSeparator) (address : String) : Option (String × Option UInt16) :=
  match parts separator.char address.toList with
  | [host] => some (.ofList host, none)
  | [host, port] => (natural? port).bind fun n =>
    if n < UInt16.size then some (.ofList host, some (.ofNat n)) else none
  | _ => none

/-- Reads the connection off a DSN. -/
def ofDsn? (separator : PortSeparator) (dsn : String) : Option Connection := do
  let items ← items? dsn
  let (host, port) ← address? separator (← items.lookup "host")
  return {
    host := some host
    port
    dbname := items.lookup "dbname"
    charset := items.lookup "charset" }

/-! ## What is there to be read -/

/-- No value holds a semicolon, and the host does not hold the separator. -/
structure IsPlain (c : Connection) (separator : PortSeparator) : Prop where
  host : ∀ s ∈ c.host, ';' ∉ s.toList ∧ separator.char ∉ s.toList
  dbname : ∀ s ∈ c.dbname, ';' ∉ s.toList
  charset : ∀ s ∈ c.charset, ';' ∉ s.toList

instance (c : Connection) (separator : PortSeparator) : Decidable (c.IsPlain separator) :=
  decidable_of_iff
    ((∀ s ∈ c.host, ';' ∉ s.toList ∧ separator.char ∉ s.toList) ∧
      (∀ s ∈ c.dbname, ';' ∉ s.toList) ∧ ∀ s ∈ c.charset, ';' ∉ s.toList)
    ⟨fun h => ⟨h.1, h.2.1, h.2.2⟩, fun h => ⟨h.host, h.dbname, h.charset⟩⟩

/-- The connection as far as a DSN tells it: with an empty host for none, and without port 0. -/
def told (c : Connection) : Connection :=
  { c with host := some (c.host.getD ""), port := c.port.filter (· != 0) }

/-- The host and the port behind it. -/
def address (c : Connection) (separator : PortSeparator) : String :=
  c.host.getD "" ++ portText separator c.port

/-- The items of a DSN: the address, and what else is given. -/
def items (c : Connection) (separator : PortSeparator) : List (String × String) :=
  ("host", c.address separator) :: (c.dbname.toList.map ("dbname", ·) ++
    c.charset.toList.map ("charset", ·))

/-- An item as it is written. -/
def written (item : String × String) : List Char := item.1.toList ++ '=' :: item.2.toList

theorem toList_dsn (c : Connection) (separator : PortSeparator) :
    (c.dsn separator).toList =
      "dblib:".toList ++ joined ';' ((c.items separator).map written) := by
  unfold dsn items address
  cases c.dbname <;> cases c.charset <;> simp [item, joined, written]

/-! ## Reading the items -/

theorem item?_written {item : String × String} (key : '=' ∉ item.1.toList) :
    item? (written item) = some item := by
  obtain ⟨taken, left⟩ := span_append_cons key item.2.toList
  rw [item?, written, taken, left]
  simp

theorem mapM_item?_written {rows : List (String × String)} (keys : ∀ i ∈ rows, '=' ∉ i.1.toList) :
    (rows.map written).mapM item? = some rows := by
  induction rows with
  | nil => rfl
  | cons first rows ih =>
    rw [List.forall_mem_cons] at keys
    simp [item?_written keys.1, ih keys.2]

/-- What the keys are. -/
theorem mem_items {i : String × String} (h : i ∈ c.items separator) :
    i = ("host", c.address separator) ∨ (∃ s, c.dbname = some s ∧ i = ("dbname", s)) ∨
      ∃ s, c.charset = some s ∧ i = ("charset", s) := by
  simp only [items, List.mem_cons, List.mem_append, List.mem_map, Option.mem_toList] at h
  rcases h with rfl | ⟨s, given, rfl⟩ | ⟨s, given, rfl⟩
  · exact .inl rfl
  · exact .inr (.inl ⟨s, given, rfl⟩)
  · exact .inr (.inr ⟨s, given, rfl⟩)

/-- Nothing stands behind the host, or the separator and the digits of a port. -/
theorem portText_cases (separator : PortSeparator) (port : Option UInt16) :
    (port.filter (· != 0) = none ∧ portText separator port = "") ∨
      ∃ n, port.filter (· != 0) = some n ∧
        (portText separator port).toList = separator.char :: Nat.toDigits 10 n.toNat := by
  cases port with
  | none => exact .inl ⟨rfl, rfl⟩
  | some n =>
    by_cases zero : n = 0
    · subst zero
      exact .inl ⟨rfl, rfl⟩
    · refine .inr ⟨n, by simp [zero], ?_⟩
      simp [portText, zero]

theorem not_mem_host (plain : c.IsPlain separator) :
    ';' ∉ (c.host.getD "").toList ∧ separator.char ∉ (c.host.getD "").toList := by
  cases given : c.host with
  | none => simp
  | some s => exact plain.host s given

theorem not_mem_address (plain : c.IsPlain separator) :
    ';' ∉ (c.address separator).toList := by
  have other : ';' ≠ separator.char := by cases separator <;> decide
  have host := (not_mem_host plain).1
  rw [address, String.toList_append]
  obtain ⟨-, port⟩ | ⟨n, -, port⟩ := portText_cases separator c.port
  · rw [port]
    simpa using host
  · rw [port]
    simp [host, other, not_mem_toDigits]

/-- No key holds an equals sign, and no item a semicolon. -/
theorem not_mem_written (plain : c.IsPlain separator) {i : String × String}
    (h : i ∈ c.items separator) : '=' ∉ i.1.toList ∧ ';' ∉ written i := by
  obtain rfl | ⟨s, given, rfl⟩ | ⟨s, given, rfl⟩ := mem_items h
  · simp [written, not_mem_address plain]
  · simp [written, plain.dbname s given]
  · simp [written, plain.charset s given]

/-- **The items are read off the DSN.** -/
theorem items?_dsn (plain : c.IsPlain separator) :
    items? (c.dsn separator) = some (c.items separator) := by
  have free : ∀ row ∈ (c.items separator).map written, ';' ∉ row := by
    intro row hr
    obtain ⟨i, hi, rfl⟩ := List.mem_map.1 hr
    exact (not_mem_written plain hi).2
  rw [items?, toList_dsn, List.dropPrefix?_append_of_beq _ (beq_self_eq_true _), Option.bind_some,
    parts_joined (by simp [items]) free,
    mapM_item?_written fun i hi => (not_mem_written plain hi).1]

/-! ## Reading the parameters -/

/-- **The host and the port are read off the address.** -/
theorem address?_address (plain : c.IsPlain separator) :
    address? separator (c.address separator) =
      some (c.host.getD "", c.port.filter (· != 0)) := by
  have host := parts_eq_singleton_iff.2 (not_mem_host plain).2
  obtain ⟨given, port⟩ | ⟨n, given, port⟩ := portText_cases separator c.port
  · rw [address?, address, port, String.append_empty, host, given]
    simp
  · have digits : separator.char ∉ Nat.toDigits 10 n.toNat :=
      not_mem_toDigits (by cases separator <;> rfl) n.toNat
    have cut : parts separator.char (c.address separator).toList =
        [(c.host.getD "").toList, Nat.toDigits 10 n.toNat] := by
      rw [address, String.toList_append, port, parts_append_cons, host,
        parts_eq_singleton_iff.2 digits]
      rfl
    have small : n.toNat < UInt16.size := n.toNat_lt_size
    simp [address?, cut, natural?_toDigits, small, given]

/-- A DSN has an address, and the other parameters stand under their keys. -/
theorem lookup_items (c : Connection) (separator : PortSeparator) :
    (c.items separator).lookup "host" = some (c.address separator) ∧
      (c.items separator).lookup "dbname" = c.dbname ∧
      (c.items separator).lookup "charset" = c.charset := by
  refine ⟨rfl, ?_, ?_⟩ <;> unfold items <;> cases c.dbname <;> cases c.charset <;> rfl

/-- **The connection is read off the DSN**, as far as it can be told. -/
theorem ofDsn?_dsn (plain : c.IsPlain separator) :
    ofDsn? separator (c.dsn separator) = some c.told := by
  obtain ⟨host, dbname, charset⟩ := lookup_items c separator
  simp [ofDsn?, items?_dsn plain, host, dbname, charset, address?_address plain, told]

/-! ## What can be told -/

/-- **What cannot be told does not count.** -/
theorem dsn_told (c : Connection) (separator : PortSeparator) :
    c.told.dsn separator = c.dsn separator := by
  have port : portText separator (c.port.filter (· != 0)) = portText separator c.port := by
    cases c.port with
    | none => rfl
    | some n =>
      by_cases zero : n = 0
      · subst zero
        rfl
      · rw [Option.filter_some, if_pos (bne_iff_ne.2 zero)]
  dsimp only [dsn, told, Option.getD_some]
  rw [port]

/-- Port 0 is what no port is taken for. -/
theorem filter_port (port : Option UInt16) :
    port.filter (· != 0) = if port.getD 0 = 0 then none else some (port.getD 0) := by
  cases port with
  | none => rfl
  | some n => by_cases zero : n = 0 <;> simp [zero]

theorem getD_filter_port (port : Option UInt16) :
    (port.filter (· != 0)).getD 0 = port.getD 0 := by
  rw [filter_port]
  split
  · next zero => exact zero.symm
  · rfl

theorem told_eq_iff {p q : Connection} : p.told = q.told ↔
    p.host.getD "" = q.host.getD "" ∧ p.port.getD 0 = q.port.getD 0 ∧ p.dbname = q.dbname ∧
      p.charset = q.charset := by
  have port : p.port.filter (· != 0) = q.port.filter (· != 0) ↔ p.port.getD 0 = q.port.getD 0 := by
    constructor
    · intro same
      rw [← getD_filter_port, same, getD_filter_port]
    · intro same
      rw [filter_port, same, ← filter_port]
  simp [told, port]

/-- **A DSN determines its connection.** A reader of the DSN finds the values of the connection.
The DSNs of two connections are equal exactly if the connections agree on the host, where an empty
one is as good as none, on the port, where 0 is as good as none, and on the database and the
character set, where an empty text is a value of its own. -/
theorem dsn_determines (separator : PortSeparator) (p : Connection) (plain : p.IsPlain separator) :
    ofDsn? separator (p.dsn separator) = some p.told ∧
    ∀ q : Connection, q.IsPlain separator → (p.dsn separator = q.dsn separator ↔
      p.host.getD "" = q.host.getD "" ∧ p.port.getD 0 = q.port.getD 0 ∧ p.dbname = q.dbname ∧
        p.charset = q.charset) := by
  refine ⟨ofDsn?_dsn plain, fun q plain' => ?_⟩
  rw [← told_eq_iff]
  constructor
  · intro same
    have read := ofDsn?_dsn plain
    rw [same, ofDsn?_dsn plain'] at read
    exact (Option.some.inj read).symm
  · intro same
    rw [← dsn_told p, same, dsn_told]

/-- Port 0, a database whose name looks like an address, and an empty character set. -/
def misleading : Connection where
  port := some 0
  dbname := some "host=a:1,2"
  charset := some ""

theorem dsn_determines_misleading :
    misleading.IsPlain .comma ∧
    ofDsn? .comma (misleading.dsn .comma) =
      some { host := some "", dbname := some "host=a:1,2", charset := some "" } ∧
    misleading.dsn .comma = { misleading with host := some "", port := none }.dsn .comma ∧
    misleading.dsn .comma ≠ { misleading with charset := none }.dsn .comma := by
  have plain : misleading.IsPlain .comma := by decide
  obtain ⟨read, same⟩ := dsn_determines .comma misleading plain
  refine ⟨plain, read, (same _ (by decide)).2 (by decide), fun h => ?_⟩
  exact absurd ((same _ (by decide)).1 h) (by decide)

end Connection

end TsqlAlter
