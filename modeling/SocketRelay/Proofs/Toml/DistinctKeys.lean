import SocketRelay.Toml.Document
import Mathlib.Data.List.Nodup

/-!
# Keys of documents

In no table of a document a key is there twice (`distinct_of_parse?`). A key gets
into an outline where its name is looked up and not found, or takes the place of
an entry with the same key, so every change of an outline keeps this
(`Outline.Distinct.edit`). A value that is read has it by induction on how deep it
is nested (`distinct_of_readValue`).
-/

namespace SocketRelay

namespace Text

variable {α : Type} {read : Reader α}

/-- What is read over and over was read each time. -/
theorem exists_of_mem_many {cs : List Char} {a : α} (mem : a ∈ (many read cs).1) :
    ∃ cs rest, read cs = some (a, rest) := by
  fun_induction many read cs with
  | case1 cs failed => cases mem
  | case2 cs b rest step shorter as last eq ih =>
    rcases List.mem_cons.mp mem with rfl | mem
    · exact ⟨cs, rest, step⟩
    · exact ih (eq ▸ mem)
  | case3 cs b rest step same => cases mem

theorem exists_of_mem_separated {sep : Reader Unit} {cs rest : List Char} {as : List α}
    (h : separated sep read cs = some (as, rest)) :
    ∀ a ∈ as, ∃ cs rest, read cs = some (a, rest) := by
  obtain ⟨⟨a, cs'⟩, first, h⟩ := Option.bind_eq_some_iff.mp h
  cases h
  refine List.forall_mem_cons.mpr ⟨⟨cs, cs', first⟩, fun a mem => ?_⟩
  obtain ⟨cs, rest, h⟩ := exists_of_mem_many mem
  obtain ⟨⟨u, cs⟩, -, h⟩ := Option.bind_eq_some_iff.mp h
  exact ⟨cs, rest, h⟩

end Text

namespace Toml

open Text

/-! ## Values -/

/-- In no table inside of a value a key is there twice. -/
inductive Value.Distinct : Value → Prop where
  | string (s : String) : Distinct (.string s)
  | integer (n : Int64) : Distinct (.integer n)
  | float (x : Binary64) : Distinct (.float x)
  | boolean (b : Bool) : Distinct (.boolean b)
  | datetime (text : String) : Distinct (.datetime text)
  | array {items : List Value} (each : ∀ v ∈ items, Distinct v) : Distinct (.array items)
  | table {entries : Table} (keys : (entries.map (·.1)).Nodup)
    (each : ∀ e ∈ entries, Distinct e.2) : Distinct (.table entries)
  | tables {items : List Table} (keys : ∀ t ∈ items, (t.map (·.1)).Nodup)
    (each : ∀ t ∈ items, ∀ e ∈ t, Distinct e.2) : Distinct (.tables items)

structure Table.Distinct (t : Table) : Prop where
  keys : (t.map (·.1)).Nodup
  each : ∀ e ∈ t, e.2.Distinct

theorem Value.distinct_table {t : Table} : (Value.table t).Distinct ↔ t.Distinct := by
  refine ⟨fun h => ?_, fun h => .table h.keys h.each⟩
  cases h with
  | table keys each => exact ⟨keys, each⟩

theorem Value.distinct_array {items : List Value} :
    (Value.array items).Distinct ↔ ∀ v ∈ items, v.Distinct := by
  refine ⟨fun h => ?_, .array⟩
  cases h with
  | array each => exact each

theorem Value.distinct_tables {items : List Table} :
    (Value.tables items).Distinct ↔ ∀ t ∈ items, t.Distinct := by
  refine ⟨fun h => ?_, fun each =>
    .tables (fun t mem => (each t mem).keys) fun t mem => (each t mem).each⟩
  cases h with
  | tables keys each => exact fun t mem => ⟨keys t mem, each t mem⟩

/-! ## Outlines -/

inductive Node.Distinct : Node → Prop where
  | value {v : Value} (distinct : v.Distinct) : Distinct (.value v)
  | table {origin : Origin} {entries : Outline} (keys : (entries.map (·.1)).Nodup)
    (each : ∀ e ∈ entries, Distinct e.2) : Distinct (.table origin entries)
  | tables {items : List Outline} (keys : ∀ o ∈ items, (o.map (·.1)).Nodup)
    (each : ∀ o ∈ items, ∀ e ∈ o, Distinct e.2) : Distinct (.tables items)

structure Outline.Distinct (o : Outline) : Prop where
  keys : (o.map (·.1)).Nodup
  each : ∀ e ∈ o, e.2.Distinct

theorem Node.distinct_table {origin : Origin} {o : Outline} :
    (Node.table origin o).Distinct ↔ o.Distinct := by
  refine ⟨fun h => ?_, fun h => .table h.keys h.each⟩
  cases h with
  | table keys each => exact ⟨keys, each⟩

theorem Node.distinct_tables {items : List Outline} :
    (Node.tables items).Distinct ↔ ∀ o ∈ items, o.Distinct := by
  refine ⟨fun h => ?_, fun each =>
    .tables (fun o mem => (each o mem).keys) fun o mem => (each o mem).each⟩
  cases h with
  | tables keys each => exact fun o mem => ⟨keys o mem, each o mem⟩

theorem tableOf_eq_map (o : Outline) : tableOf o = o.map fun e => (e.1, e.2.toValue) := by
  induction o with
  | nil => rfl
  | cons e o ih => rw [tableOf, ih, List.map_cons]

theorem tablesOf_eq_map (items : List Outline) : tablesOf items = items.map tableOf := by
  induction items with
  | nil => rfl
  | cons o items ih => rw [tablesOf, ih, List.map_cons]

theorem keys_tableOf (o : Outline) : (tableOf o).map (·.1) = o.map (·.1) := by
  rw [tableOf_eq_map, List.map_map]
  rfl

theorem Node.Distinct.toValue {n : Node} (h : n.Distinct) : n.toValue.Distinct := by
  induction h with
  | value distinct => exact distinct
  | table keys each ih =>
    rw [Node.toValue, Value.distinct_table]
    refine ⟨(keys_tableOf _).symm ▸ keys, ?_⟩
    rw [tableOf_eq_map]
    exact List.forall_mem_map.mpr ih
  | tables keys each ih =>
    rw [Node.toValue, Value.distinct_tables, tablesOf_eq_map]
    refine List.forall_mem_map.mpr fun o mem => ⟨(keys_tableOf o).symm ▸ keys o mem, ?_⟩
    rw [tableOf_eq_map]
    exact List.forall_mem_map.mpr (ih o mem)

namespace Outline

variable {o o' : Outline} {key : String} {n : Node}

theorem Distinct.tableOf (h : Distinct o) : (Toml.tableOf o).Distinct := by
  refine ⟨(keys_tableOf o).symm ▸ h.keys, ?_⟩
  rw [tableOf_eq_map]
  exact List.forall_mem_map.mpr fun e mem => (h.each e mem).toValue

namespace Distinct

theorem nil : Distinct [] := ⟨List.nodup_nil, fun _ mem => by cases mem⟩

/-- A new key at the end. -/
theorem concat (h : Distinct o) (absent : o.lookup key = none) (distinct : n.Distinct) :
    Distinct (o ++ [(key, n)]) := by
  refine ⟨?_, List.forall_mem_append.mpr ⟨h.each, List.forall_mem_singleton.mpr distinct⟩⟩
  rw [List.map_append]
  refine List.nodup_append_comm.mpr (List.nodup_cons.mpr ⟨fun mem => ?_, h.keys⟩)
  obtain ⟨e, mem, same⟩ := List.mem_map.mp mem
  have other := List.lookup_eq_none_iff.mp absent e mem
  rw [same, bne_self_eq_false] at other
  cases other

theorem replace (h : Distinct o) (distinct : n.Distinct) : Distinct (o.replace key n) := by
  have keys : (o.replace key n).map (·.1) = o.map (·.1) := by
    rw [Outline.replace, List.map_map]
    refine List.map_congr_left fun e _ => ?_
    dsimp only [Function.comp]
    split <;> rfl
  refine ⟨keys ▸ h.keys, List.forall_mem_map.mpr fun e mem => ?_⟩
  dsimp only
  split
  · exact distinct
  · exact h.each e mem

theorem erase (h : Distinct o) (key : String) : Distinct (o.erase key) :=
  ⟨h.keys.sublist (List.filter_sublist.map _), fun e mem => h.each e (List.mem_of_mem_filter mem)⟩

theorem of_lookup (h : Distinct o) (found : o.lookup key = some n) : n.Distinct := by
  obtain ⟨before, after, rfl, -⟩ := List.lookup_eq_some_iff.mp found
  exact h.each (key, n) (List.mem_append_right _ List.mem_cons_self)

/-- An edit keeps keys distinct if the change that it makes in the end does. -/
theorem edit {α : Type} {dotted : Bool} {change : Origin → Outline → Option (α × Outline)}
    {P : α → Prop}
    (keeps : ∀ {origin o a o'}, Distinct o → change origin o = some (a, o') → P a ∧ Distinct o')
    {path : List String} {origin : Origin} {a : α} (h : Distinct o)
    (edited : Outline.edit dotted change path origin o = some (a, o')) : P a ∧ Distinct o' := by
  induction path generalizing origin o o' with
  | nil => exact keeps h edited
  | cons key path ih =>
    rw [Outline.edit] at edited
    split at edited
    · next absent =>
      obtain ⟨⟨a, inner⟩, below, edited⟩ := Option.bind_eq_some_iff.mp edited
      cases edited
      obtain ⟨own, distinct⟩ := ih nil below
      exact ⟨own, h.concat absent (Node.distinct_table.mpr distinct)⟩
    · cases edited
    · next items found =>
      have each := Node.distinct_tables.mp (h.of_lookup found)
      obtain ⟨last, is_last, edited⟩ := Option.bind_eq_some_iff.mp edited
      obtain ⟨⟨a, inner⟩, below, edited⟩ := Option.bind_eq_some_iff.mp edited
      cases edited
      obtain ⟨own, distinct⟩ := ih (each last (List.mem_of_getLast? is_last)) below
      refine ⟨own, h.replace (Node.distinct_tables.mpr (List.forall_mem_append.mpr
        ⟨fun o mem => each o (List.dropLast_subset items mem), ?_⟩))⟩
      exact List.forall_mem_singleton.mpr distinct
    · next origin' inner found =>
      split at edited
      · cases edited
      · obtain ⟨⟨a, inner'⟩, below, edited⟩ := Option.bind_eq_some_iff.mp edited
        cases edited
        obtain ⟨own, distinct⟩ := ih (Node.distinct_table.mp (h.of_lookup found)) below
        exact ⟨own, h.replace (Node.distinct_table.mpr distinct)⟩

/-- An edit that is made for the outline only. -/
theorem edit_unit {dotted : Bool} {change : Origin → Outline → Option (Unit × Outline)}
    (keeps : ∀ {origin o u o'}, Distinct o → change origin o = some (u, o') → Distinct o')
    {path : List String} {origin : Origin} (h : Distinct o)
    (edited : (Outline.edit dotted change path origin o).map (·.2) = some o') : Distinct o' := by
  obtain ⟨⟨u, o''⟩, made, rfl⟩ := Option.map_eq_some_iff.mp edited
  exact (h.edit (P := fun _ => True) (fun h changed => ⟨trivial, keeps h changed⟩) made).2

theorem insert (h : Distinct o) {path : KeyPath} {v : Value} (distinct : v.Distinct)
    (inserted : o.insert path v = some o') : Distinct o' := by
  refine h.edit_unit (fun h changed => ?_) inserted
  split at changed
  · cases changed
  · next free =>
    cases changed
    exact h.concat (Option.not_isSome_iff_eq_none.mp (not_or.mp free).2) (.value distinct)

theorem ofPairs {pairs : List (KeyPath × Value)} (distinct : ∀ p ∈ pairs, p.2.Distinct)
    (built : Outline.ofPairs pairs = some o) : Distinct o := by
  suffices from' : ∀ start : Outline, Distinct start →
      pairs.foldlM (fun o p => o.insert p.1 p.2) start = some o → Distinct o from
    from' [] nil built
  clear built
  induction pairs with
  | nil => rintro start h ⟨⟩; exact h
  | cons p pairs ih =>
    intro start h built
    obtain ⟨next, inserted, built⟩ := Option.bind_eq_some_iff.mp built
    obtain ⟨first, rest⟩ := List.forall_mem_cons.mp distinct
    exact ih rest next (h.insert first inserted) built

theorem reopen (h : Distinct o) {path : KeyPath} {inner : Outline}
    (reopened : o.reopen path = some (inner, o')) : Distinct inner ∧ Distinct o' := by
  refine h.edit (fun h changed => ?_) reopened
  split at changed
  · cases changed; exact ⟨nil, h⟩
  · next found =>
    cases changed
    exact ⟨Node.distinct_table.mp (h.of_lookup found), h.erase _⟩
  · cases changed

theorem reserve (h : Distinct o) {path : KeyPath} (reserved : o.reserve path = some o') :
    Distinct o' := by
  refine h.edit_unit (fun h changed => ?_) reserved
  split at changed
  · next absent =>
    cases changed
    exact h.concat absent (Node.distinct_tables.mpr nofun)
  · cases changed; exact h
  · cases changed

theorem close (h : Distinct o) {path : KeyPath} {table : Outline} (distinct : Distinct table)
    (closed : o.close path table = some o') : Distinct o' := by
  refine h.edit_unit (fun h changed => ?_) closed
  split at changed
  · next absent =>
    cases changed
    exact h.concat absent (Node.distinct_table.mpr distinct)
  · cases changed

theorem push (h : Distinct o) {path : KeyPath} {table : Outline} (distinct : Distinct table)
    (pushed : o.push path table = some o') : Distinct o' := by
  refine h.edit_unit (fun h changed => ?_) pushed
  split at changed
  · next absent =>
    cases changed
    exact h.concat absent (Node.distinct_tables.mpr (List.forall_mem_singleton.mpr distinct))
  · next items found =>
    cases changed
    have each := Node.distinct_tables.mp (h.of_lookup found)
    exact h.replace (Node.distinct_tables.mpr (List.forall_mem_append.mpr
      ⟨each, List.forall_mem_singleton.mpr distinct⟩))
  · cases changed

end Distinct

end Outline

/-! ## Reading values -/

variable {cs rest : List Char} {v : Value}

theorem distinct_of_integer? {negative : Bool} {n : Nat} (h : integer? negative n = some v) :
    v.Distinct := by
  obtain ⟨-, same⟩ := Option.ite_none_right_eq_some.mp h
  cases same
  exact .integer _

theorem distinct_of_readBased {base : Nat} (h : readBased base cs = some (v, rest)) :
    v.Distinct := by
  obtain ⟨⟨digits, cs⟩, -, h⟩ := Option.bind_eq_some_iff.mp h
  obtain ⟨v, integer, h⟩ := Option.bind_eq_some_iff.mp h
  cases h
  exact distinct_of_integer? integer

theorem distinct_of_readDecimal {negative : Bool}
    (h : readDecimal negative cs = some (v, rest)) : v.Distinct := by
  obtain ⟨⟨whole, cs⟩, -, h⟩ := Option.bind_eq_some_iff.mp h
  dsimp only at h
  split at h
  · cases h
  · obtain ⟨⟨fraction, cs⟩, -, h⟩ := Option.bind_eq_some_iff.mp h
    obtain ⟨⟨exponent, cs⟩, -, h⟩ := Option.bind_eq_some_iff.mp h
    dsimp only at h
    split at h
    · obtain ⟨v, integer, h⟩ := Option.bind_eq_some_iff.mp h
      cases h
      exact distinct_of_integer? integer
    · split at h
      · cases h
      · cases h; exact .float _

theorem distinct_of_readNumber (h : readNumber cs = some (v, rest)) : v.Distinct := by
  unfold readNumber at h
  split at h
  · exact distinct_of_readBased h
  · exact distinct_of_readBased h
  · exact distinct_of_readBased h
  · dsimp only at h
    split at h
    · cases h; exact .float _
    · cases h; exact .float _
    · exact distinct_of_readDecimal h

theorem distinct_of_readScalar (h : readScalar cs = some (v, rest)) : v.Distinct := by
  unfold readScalar at h
  split at h
  · cases h
  · next c tail =>
    split at h
    · obtain ⟨⟨s, cs⟩, -, same⟩ := Option.map_eq_some_iff.mp h
      cases same
      exact .string s
    · split at h
      · obtain ⟨⟨u, cs⟩, -, same⟩ := Option.map_eq_some_iff.mp h
        cases same
        exact .boolean true
      · split at h
        · obtain ⟨⟨u, cs⟩, -, same⟩ := Option.map_eq_some_iff.mp h
          cases same
          exact .boolean false
        · cases moment : readMoment (c :: tail) with
          | some m => rw [moment] at h; cases h; exact .datetime _
          | none => rw [moment] at h; exact distinct_of_readNumber h

section
variable {item : Reader Value} (distinct : ∀ {cs v rest}, item cs = some (v, rest) → v.Distinct)
include distinct

theorem distinct_of_readItems {items : List Value} (h : readItems item cs = some (items, rest)) :
    ∀ v ∈ items, v.Distinct := by
  unfold readItems at h
  split at h
  · cases h; exact nofun
  · obtain ⟨⟨items, cs⟩, separate, h⟩ := Option.bind_eq_some_iff.mp h
    obtain ⟨⟨u, cs⟩, -, h⟩ := Option.bind_eq_some_iff.mp h
    cases h
    intro v mem
    obtain ⟨cs, rest, padded⟩ := exists_of_mem_separated separate v mem
    obtain ⟨⟨v, cs⟩, read, same⟩ := Option.bind_eq_some_iff.mp padded
    cases same
    exact distinct read

theorem distinct_of_readPair {p : KeyPath × Value} (h : readPair item cs = some (p, rest)) :
    p.2.Distinct := by
  obtain ⟨⟨path, cs⟩, -, h⟩ := Option.bind_eq_some_iff.mp h
  obtain ⟨⟨u, cs⟩, -, h⟩ := Option.bind_eq_some_iff.mp h
  obtain ⟨⟨v, cs⟩, read, h⟩ := Option.bind_eq_some_iff.mp h
  cases h
  exact distinct read

theorem distinct_of_readPairs {pairs : List (KeyPath × Value)}
    (h : readPairs item cs = some (pairs, rest)) : ∀ p ∈ pairs, p.2.Distinct := by
  unfold readPairs at h
  split at h
  · cases h; exact nofun
  · obtain ⟨⟨pairs, cs⟩, separate, h⟩ := Option.bind_eq_some_iff.mp h
    obtain ⟨⟨u, cs⟩, -, h⟩ := Option.bind_eq_some_iff.mp h
    cases h
    intro p mem
    obtain ⟨cs, rest, read⟩ := exists_of_mem_separated separate p mem
    exact distinct_of_readPair distinct read

end

theorem distinct_of_readValue (depth : Nat) (h : readValue depth cs = some (v, rest)) :
    v.Distinct := by
  induction depth generalizing cs v rest with
  | zero => exact distinct_of_readScalar h
  | succ depth ih =>
    rw [readValue] at h
    dsimp only at h
    split at h
    · obtain ⟨⟨items, cs⟩, read, same⟩ := Option.map_eq_some_iff.mp h
      cases same
      exact .array (distinct_of_readItems ih read)
    · obtain ⟨⟨pairs, cs⟩, read, h⟩ := Option.bind_eq_some_iff.mp h
      obtain ⟨outline, built, h⟩ := Option.bind_eq_some_iff.mp h
      cases h
      exact Value.distinct_table.mpr
        (Outline.Distinct.ofPairs (distinct_of_readPairs ih read) built).tableOf
    · exact distinct_of_readScalar h

/-! ## Documents -/

def Line.value? : Line → Option Value
  | pair _ v => some v
  | _ => none

theorem distinct_of_readLine {line : Line} (h : readLine cs = some (line, rest)) :
    ∀ v ∈ line.value?, v.Distinct := by
  have finish {line' : Line} {cs cs' : List Char}
      (h : ((some (line', cs)).bind fun read =>
        (readLineEnd read.2).bind fun rest => some (read.1, skipSpace rest.2)) = some (line, cs')) :
      line = line' := by
    obtain ⟨read, first, h⟩ := Option.bind_eq_some_iff.mp h
    obtain ⟨rest, -, h⟩ := Option.bind_eq_some_iff.mp h
    cases first
    cases h
    rfl
  unfold readLine at h
  dsimp only at h
  split at h
  · cases finish h; exact nofun
  · cases finish h; exact nofun
  · cases finish h; exact nofun
  · obtain ⟨⟨path, cs⟩, -, h⟩ := Option.bind_eq_some_iff.mp h
    obtain ⟨⟨u, cs⟩, -, h⟩ := Option.bind_eq_some_iff.mp h
    cases finish h
    exact nofun
  · obtain ⟨⟨path, cs⟩, -, h⟩ := Option.bind_eq_some_iff.mp h
    obtain ⟨⟨u, cs⟩, -, h⟩ := Option.bind_eq_some_iff.mp h
    cases finish h
    exact nofun
  · obtain ⟨⟨⟨path, v⟩, cs⟩, pair, h⟩ := Option.bind_eq_some_iff.mp h
    cases finish h
    rintro v ⟨⟩
    exact distinct_of_readPair (distinct_of_readValue nestingLimit) pair

theorem distinct_of_lines? {lines : List Line} (h : lines? cs = some lines) :
    ∀ line ∈ lines, ∀ v ∈ line.value?, v.Distinct := by
  unfold lines? at h
  dsimp only at h
  split at h
  · next lines' eq =>
    cases h
    intro line mem
    have mem : line ∈ (lines, ([] : List Char)).1 := mem
    rw [← eq] at mem
    obtain ⟨cs, rest, h⟩ := exists_of_mem_many mem
    exact distinct_of_readLine h
  · cases h

/-- Neither the finished tables of a draft nor the last one have a key twice. -/
structure Draft.Distinct (d : Draft) : Prop where
  closed : d.closed.Distinct
  current : d.current.Distinct

namespace Draft.Distinct

variable {d d' : Draft} {o : Outline}

theorem close (h : d.Distinct) (closed : d.close = some o) : o.Distinct := by
  unfold Draft.close at closed
  split at closed
  · cases closed; exact h.current
  · exact h.closed.push h.current closed
  · exact h.closed.close h.current closed

theorem add (h : d.Distinct) {line : Line} (distinct : ∀ v ∈ line.value?, v.Distinct)
    (added : d.add line = some d') : d'.Distinct := by
  cases line with
  | blank => cases added; exact h
  | pair path v =>
    obtain ⟨current, inserted, same⟩ := Option.bind_eq_some_iff.mp added
    cases same
    exact ⟨h.closed, h.current.insert (distinct v rfl) inserted⟩
  | header path =>
    obtain ⟨o, closed, added⟩ := Option.bind_eq_some_iff.mp added
    obtain ⟨⟨reopened, rest⟩, edited, same⟩ := Option.bind_eq_some_iff.mp added
    cases same
    obtain ⟨current, closed⟩ := (h.close closed).reopen edited
    exact ⟨closed, current⟩
  | itemHeader path =>
    obtain ⟨o, closed, added⟩ := Option.bind_eq_some_iff.mp added
    obtain ⟨o', reserved, same⟩ := Option.bind_eq_some_iff.mp added
    cases same
    exact ⟨(h.close closed).reserve reserved, .nil⟩

theorem addAll (h : d.Distinct) {lines : List Line}
    (distinct : ∀ line ∈ lines, ∀ v ∈ line.value?, v.Distinct)
    (added : lines.foldlM Draft.add d = some d') : d'.Distinct := by
  induction lines generalizing d with
  | nil => cases added; exact h
  | cons line lines ih =>
    obtain ⟨next, first, added⟩ := Option.bind_eq_some_iff.mp added
    obtain ⟨distinct, distinct'⟩ := List.forall_mem_cons.mp distinct
    exact ih (h.add distinct first) distinct' added

end Draft.Distinct

/-- In no table of a document a key is there twice. -/
theorem distinct_of_parse? {text : String} {t : Table} (parsed : parse? text = some t) :
    t.Distinct := by
  obtain ⟨lines, read, built⟩ := Option.bind_eq_some_iff.mp parsed
  obtain ⟨d, added, built⟩ := Option.bind_eq_some_iff.mp built
  obtain ⟨o, closed, same⟩ := Option.bind_eq_some_iff.mp built
  cases same
  have start : Draft.Distinct {} := ⟨.nil, .nil⟩
  exact ((start.addAll (distinct_of_lines? read) added).close closed).tableOf

end Toml

end SocketRelay
