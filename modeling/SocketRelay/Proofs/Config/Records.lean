import SocketRelay.Config.Sections
import Mathlib.Data.List.Nodup
import Mathlib.Data.List.Pairwise
import Mathlib.Data.List.Perm.Basic

/-!
# Records and their fields

Every field of a record is a `Slot`: what its key holds is put into a place of its
own, which the other fields leave alone. A `Layout` is a record whose fields are
such slots. What a table gives depends on the slots only: its entries may come in
another order (`Layout.read_perm`), and an entry of no field counts for nothing
(`Layout.read_append`). To give the key of a slot another value, or to take it
away, changes this slot only (`Layout.read_replaced`, `Layout.read_removed`). The
five records of a configuration have layouts.
-/

namespace SocketRelay.Config

open Net Toml

/-! ## Slots -/

/-- A place in a record, the key it is read from, and how. -/
structure Slot (σ : Type) where
  Content : Type
  key : String
  decode : Decoder Content
  get : σ → Content
  put : Content → σ → σ
  get_put : ∀ x s, get (put x s) = x := by intros; rfl
  put_get : ∀ s, put (get s) s = s := by intros; rfl
  put_put : ∀ x y s, put x (put y s) = put x s := by intros; rfl

namespace Slot

variable {σ : Type} {l m : Slot σ}

def field (l : Slot σ) : Field σ := .of l.key l.decode l.put

/-- Two slots are different places. -/
def Apart (l m : Slot σ) : Prop := ∀ x y s, l.put x (m.put y s) = m.put y (l.put x s)

theorem Apart.symm (h : l.Apart m) : m.Apart l := fun x y s => (h y x s).symm

/-- The slot with its content as it is at the start. -/
def reset (l : Slot σ) (start s : σ) : σ := l.put (l.get start) s

end Slot

/-- A field that holds nothing or what `decode` reads. -/
theorem Field.of_some {σ α : Type} (key : String) (decode : Decoder α) (put : Option α → σ → σ) :
    Field.of key decode (fun x => put (some x)) =
      Field.of key (fun v => (decode v).map some) put := by
  refine congrArg (Field.mk key) (funext fun v => funext fun s => ?_)
  show (decode v).map (fun x => put (some x) s) = ((decode v).map some).map (put · s)
  cases decode v <;> rfl

/-! ## Layouts -/

/-- A record of slots that are all apart, and what it is at the start. -/
structure Layout (σ : Type) where
  start : σ
  slots : List (Slot σ)
  distinct : (slots.map (·.key)).Nodup := by decide
  apart : slots.Pairwise Slot.Apart := by simp [Slot.Apart]

namespace Layout

variable {σ : Type} {L : Layout σ} {l m : Slot σ} {s t : σ} {entries left right more : Table}
  {v : Value}

def keys (L : Layout σ) : List String := L.slots.map (·.key)

def fields (L : Layout σ) : List (Field σ) := L.slots.map Slot.field

def read (L : Layout σ) (entries : Table) : Except DecodeError σ := ofTable L.fields L.start entries

/-- The slot of a key at its start, if it has one. -/
def reset (L : Layout σ) (key : String) (s : σ) : σ :=
  match L.slots.find? (·.key == key) with
  | some l => l.reset L.start s
  | none => s

theorem find?_slot (mem : l ∈ L.slots) : L.slots.find? (·.key == l.key) = some l := by
  cases found : L.slots.find? (·.key == l.key) with
  | none =>
    have other := List.find?_eq_none.mp found l mem
    rw [beq_self_eq_true] at other
    exact absurd rfl other
  | some m =>
    have same : m.key = l.key := by simpa using List.find?_some found
    rw [List.inj_on_of_nodup_map L.distinct (List.mem_of_find?_eq_some found) mem same]

theorem find?_unknown {key : String} (unknown : key ∉ L.keys) :
    L.slots.find? (·.key == key) = none :=
  List.find?_eq_none.mpr fun _ mem same =>
    unknown (List.mem_map.mpr ⟨_, mem, beq_iff_eq.mp same⟩)

theorem reset_slot (mem : l ∈ L.slots) (s : σ) : L.reset l.key s = l.reset L.start s := by
  rw [reset, find?_slot mem]

theorem reset_unknown {key : String} (unknown : key ∉ L.keys) (s : σ) : L.reset key s = s := by
  rw [reset, find?_unknown unknown]

theorem find?_field (key : String) :
    L.fields.find? (·.key == key) = (L.slots.find? (·.key == key)).map Slot.field := by
  rw [fields, List.find?_map]
  rfl

theorem setEntry_slot (mem : l ∈ L.slots) (s : σ) (v : Value) :
    setEntry L.fields s (l.key, v) = (l.decode v).map (l.put · s) := by
  rw [setEntry, find?_field, find?_slot mem]
  rfl

theorem setEntry_unknown {key : String} (unknown : key ∉ L.keys) (s : σ) (v : Value) :
    setEntry L.fields s (key, v) = .ok s := by
  rw [setEntry, find?_field, find?_unknown unknown]
  rfl

theorem slot_or_unknown (L : Layout σ) (key : String) :
    (∃ l ∈ L.slots, l.key = key) ∨ key ∉ L.keys := by
  by_cases known : key ∈ L.keys
  · exact .inl (List.mem_map.mp known)
  · exact .inr known

theorem apart_of_ne (mem : l ∈ L.slots) (mem' : m ∈ L.slots) (other : l.key ≠ m.key) :
    l.Apart m := by
  have : Std.Symm (@Slot.Apart σ) := ⟨fun _ _ => Slot.Apart.symm⟩
  exact L.apart.forall mem mem' fun same => other (same ▸ rfl)

/-! ## Entries one after the other -/

theorem ofTable_cons (s : σ) (e : String × Value) (entries : Table) :
    ofTable L.fields s (e :: entries) =
      (setEntry L.fields s e).bind fun s => ofTable L.fields s entries := rfl

theorem ofTable_append (s : σ) (entries more : Table) :
    ofTable L.fields s (entries ++ more) =
      (ofTable L.fields s entries).bind fun s => ofTable L.fields s more :=
  List.foldlM_append

/-- Entries of other keys do not mind what is in a slot, and leave it there. -/
theorem ofTable_put (mem : l ∈ L.slots) (absent : l.key ∉ entries.map (·.1)) (x : l.Content)
    (s : σ) : ofTable L.fields (l.put x s) entries = (ofTable L.fields s entries).map
    (l.put x) := by
  induction entries generalizing s with
  | nil => rfl
  | cons e entries ih =>
    obtain ⟨key, v⟩ := e
    obtain ⟨other, absent'⟩ := not_or.mp (mt List.mem_cons.mpr absent)
    rw [ofTable_cons, ofTable_cons]
    obtain ⟨m, mem', rfl⟩ | unknown := L.slot_or_unknown key
    · rw [setEntry_slot mem', setEntry_slot mem']
      cases m.decode v with
      | error e => rfl
      | ok y =>
        show ofTable L.fields (m.put y (l.put x s)) entries = _
        rw [apart_of_ne mem' mem (Ne.symm other)]
        exact ih absent' (m.put y s)
    · rw [setEntry_unknown unknown, setEntry_unknown unknown]
      exact ih absent' s

theorem get_of_ofTable (mem : l ∈ L.slots) (absent : l.key ∉ entries.map (·.1))
    (read : ofTable L.fields s entries = .ok t) : l.get t = l.get s := by
  have kept := ofTable_put mem absent (l.get s) s
  rw [l.put_get, read] at kept
  have same : t = l.put (l.get s) t := Except.ok.inj kept
  rw [same, l.get_put]

/-! ## Tables -/

/-- In a table that gives a record, the key of a slot holds what is in the slot; without the key the
slot is as at the start. -/
theorem read_entry (mem : l ∈ L.slots) (absent : l.key ∉ (left ++ right).map (·.1))
    (read : L.read (left ++ (l.key, v) :: right) = .ok s) :
    ∃ x t, l.decode v = .ok x ∧ L.read (left ++ right) = .ok t ∧ s = l.put x t ∧
      l.get t = l.get L.start := by
  rw [List.map_append] at absent
  obtain ⟨absent, absent'⟩ := not_or.mp (mt List.mem_append.mpr absent)
  unfold Layout.read at read ⊢
  rw [ofTable_append] at read ⊢
  cases before : ofTable L.fields L.start left with
  | error e => rw [before] at read; cases read
  | ok r =>
    rw [before] at read
    change (setEntry L.fields r (l.key, v)).bind _ = _ at read
    rw [setEntry_slot mem] at read
    cases decoded : l.decode v with
    | error e => rw [decoded] at read; cases read
    | ok x =>
      rw [decoded] at read
      change ofTable L.fields (l.put x r) right = _ at read
      rw [ofTable_put mem absent'] at read
      cases after : ofTable L.fields r right with
      | error e => rw [after] at read; cases read
      | ok t =>
        rw [after] at read
        cases read
        refine ⟨x, t, rfl, after, rfl, ?_⟩
        rw [get_of_ofTable mem absent' after, get_of_ofTable mem absent before]

theorem read_removed (mem : l ∈ L.slots) (absent : l.key ∉ (left ++ right).map (·.1))
    (read : L.read (left ++ (l.key, v) :: right) = .ok s) :
    L.read (left ++ right) = .ok (l.reset L.start s) := by
  obtain ⟨x, t, -, without, rfl, initial⟩ := read_entry mem absent read
  rw [without, Slot.reset, l.put_put, ← initial, l.put_get]

theorem decode_of_read (mem : l ∈ L.slots) (absent : l.key ∉ (left ++ right).map (·.1))
    (read : L.read (left ++ (l.key, v) :: right) = .ok s) : l.decode v = .ok (l.get s) := by
  obtain ⟨x, t, decoded, -, rfl, -⟩ := read_entry mem absent read
  rw [decoded, l.get_put]

/-- Another value under the key of a slot. If it cannot be decoded, its error is that of the
table. -/
theorem read_replaced (mem : l ∈ L.slots) (absent : l.key ∉ (left ++ right).map (·.1))
    (read : L.read (left ++ (l.key, v) :: right) = .ok s) (w : Value) :
    L.read (left ++ (l.key, w) :: right) = (l.decode w).map (l.put · s) := by
  obtain ⟨x, t, -, without, rfl, -⟩ := read_entry mem absent read
  rw [List.map_append] at absent
  obtain ⟨-, absent⟩ := not_or.mp (mt List.mem_append.mpr absent)
  unfold Layout.read at without ⊢
  rw [ofTable_append] at without ⊢
  cases before : ofTable L.fields L.start left with
  | error e => rw [before] at without; cases without
  | ok r =>
    rw [before] at without
    change ofTable L.fields r right = _ at without
    show (setEntry L.fields r (l.key, w)).bind _ = _
    rw [setEntry_slot mem]
    cases l.decode w with
    | error e => rfl
    | ok y =>
      show ofTable L.fields (l.put y r) right = .ok (l.put y (l.put x t))
      rw [ofTable_put mem absent, without, l.put_put]
      rfl

/-- Entries of no field count for nothing. -/
theorem read_append (unknown : ∀ e ∈ more, e.1 ∉ L.keys) :
    L.read (entries ++ more) = L.read entries := by
  have nothing (s : σ) : ofTable L.fields s more = .ok s := by
    induction more with
    | nil => rfl
    | cons e more ih =>
      obtain ⟨first, rest⟩ := List.forall_mem_cons.mp unknown
      rw [ofTable_cons, setEntry_unknown first]
      exact ih rest
  unfold Layout.read
  rw [ofTable_append]
  cases ofTable L.fields L.start entries with
  | error e => rfl
  | ok s => exact nothing s

theorem read_unknown {key : String} (unknown : key ∉ L.keys) :
    L.read (left ++ (key, v) :: right) = L.read (left ++ right) := by
  unfold Layout.read
  rw [ofTable_append, ofTable_append]
  refine congrArg _ (funext fun s => ?_)
  rw [ofTable_cons, setEntry_unknown unknown]
  rfl

/-- Without the entry of a key its field is as at the start, if it has one. -/
theorem read_without {key : String} (absent : key ∉ (left ++ right).map (·.1))
    (read : L.read (left ++ (key, v) :: right) = .ok s) :
    L.read (left ++ right) = .ok (L.reset key s) := by
  obtain ⟨l, mem, rfl⟩ | unknown := L.slot_or_unknown key
  · rw [reset_slot mem]
    exact read_removed mem absent read
  · rw [reset_unknown unknown, ← read_unknown unknown]
    exact read

/-- Two entries with different keys may change places. -/
theorem setEntry_swap {a b : String × Value} (other : a.1 ≠ b.1) {r : σ}
    (first : setEntry L.fields s a = .ok r) (second : setEntry L.fields r b = .ok t) :
    ∃ r', setEntry L.fields s b = .ok r' ∧ setEntry L.fields r' a = .ok t := by
  obtain ⟨ka, va⟩ := a
  obtain ⟨kb, vb⟩ := b
  obtain ⟨l, mem, rfl⟩ | unknown := L.slot_or_unknown ka
  · obtain ⟨m, mem', rfl⟩ | unknown := L.slot_or_unknown kb
    · rw [setEntry_slot mem] at first
      rw [setEntry_slot mem'] at second
      cases da : l.decode va with
      | error e => rw [da] at first; cases first
      | ok x =>
        rw [da] at first
        cases first
        cases db : m.decode vb with
        | error e => rw [db] at second; cases second
        | ok y =>
          rw [db] at second
          cases second
          refine ⟨m.put y s, by rw [setEntry_slot mem', db]; rfl, ?_⟩
          rw [setEntry_slot mem, da]
          exact congrArg Except.ok (apart_of_ne mem mem' other x y s)
    · rw [setEntry_unknown unknown] at second
      cases second
      exact ⟨s, setEntry_unknown unknown s vb, first⟩
  · rw [setEntry_unknown unknown] at first
    cases first
    exact ⟨t, second, setEntry_unknown unknown t va⟩

theorem ofTable_eq_ok_cons {e : String × Value} :
    ofTable L.fields s (e :: entries) = .ok t ↔
      ∃ r, setEntry L.fields s e = .ok r ∧ ofTable L.fields r entries = .ok t := by
  rw [ofTable_cons]
  cases setEntry L.fields s e with
  | error e => exact ⟨nofun, fun ⟨_, h, _⟩ => by cases h⟩
  | ok r => exact ⟨fun h => ⟨r, rfl, h⟩, fun ⟨_, h, read⟩ => by cases h; exact read⟩

/-- The entries of a table may come in another order. -/
theorem read_perm (distinct : (entries.map (·.1)).Nodup) (perm : entries.Perm more)
    (read : L.read entries = .ok s) : L.read more = .ok s := by
  unfold Layout.read at read ⊢
  generalize L.start = start at read ⊢
  induction perm generalizing start s with
  | nil => exact read
  | cons e _ ih =>
    obtain ⟨r, first, read⟩ := ofTable_eq_ok_cons.mp read
    exact ofTable_eq_ok_cons.mpr ⟨r, first, ih (List.nodup_cons.mp distinct).2 r read⟩
  | swap a b entries =>
    obtain ⟨r, first, read⟩ := ofTable_eq_ok_cons.mp read
    obtain ⟨t, second, read⟩ := ofTable_eq_ok_cons.mp read
    have other : b.1 ≠ a.1 := fun same =>
      (List.nodup_cons.mp distinct).1 (List.mem_map.mpr ⟨a, List.mem_cons_self, same.symm⟩)
    obtain ⟨r', first, second⟩ := setEntry_swap other first second
    exact ofTable_eq_ok_cons.mpr ⟨r', first, ofTable_eq_ok_cons.mpr ⟨t, second, read⟩⟩
  | trans perm _ ih ih' =>
    exact ih' ((perm.map _).nodup_iff.mp distinct) start (ih distinct start read)

/-! ## Records in any form -/

theorem foldlM_keeps {α β ε : Type} {f : β → α → Except ε β} {P : β → Prop} {as : List α}
    (keeps : ∀ a ∈ as, ∀ b b', P b → f b a = .ok b' → P b') {b b' : β} (start : P b)
    (run : as.foldlM f b = .ok b') : P b' := by
  induction as generalizing b with
  | nil => cases run; exact start
  | cons a as ih =>
    obtain ⟨first, rest⟩ := List.forall_mem_cons.mp keeps
    change (f b a).bind (fun b => as.foldlM f b) = .ok b' at run
    cases step : f b a with
    | error e => rw [step] at run; cases run
    | ok next => rw [step] at run; exact ih rest (first b next start step) run

theorem ofTable_keeps {P : σ → Prop} (start : P s)
    (keeps : ∀ f ∈ L.fields, ∀ v s t, P s → f.set v s = .ok t → P t)
    (read : ofTable L.fields s entries = .ok t) : P t := by
  refine foldlM_keeps (fun e _ s t kept set => ?_) start read
  unfold setEntry at set
  split at set
  · next f found => exact keeps f (List.mem_of_find?_eq_some found) e.2 s t kept set
  · cases set; exact kept

/-- What holds at the start and is kept by every field holds of the record, in whatever form it is
written. -/
theorem record_keeps {P : σ → Prop} {name : String} (start : P L.start)
    (keeps : ∀ l ∈ L.slots, ∀ v x s, l.decode v = .ok x → P s → P (l.put x s))
    (read : record name L.fields L.start v = .ok s) : P s := by
  have set (f : Field σ) (mem : f ∈ L.fields) (v : Value) (s t : σ) (kept : P s)
      (set : f.set v s = .ok t) : P t := by
    obtain ⟨l, listed, rfl⟩ := List.mem_map.mp mem
    change (l.decode v).map (l.put · s) = .ok t at set
    cases decoded : l.decode v with
    | error e => rw [decoded] at set; cases set
    | ok x => rw [decoded] at set; cases set; exact keeps l listed v x s decoded kept
  have items (items : List Value) (read : ofItems L.fields L.start items = .ok s) : P s :=
    foldlM_keeps (fun p mem s t => set p.1 (List.of_mem_zip mem).1 p.2 s t) start read
  cases v with
  | table entries => exact ofTable_keeps start set read
  | array values => exact items values read
  | tables values => exact items (values.map .table) read
  | datetime text => cases read; exact start
  | string | integer | float | boolean => cases read

end Layout

/-! ## The records of a configuration -/

def loggingLayout : Layout Log.Settings where
  start := {}
  slots := [
    .mk _ "level" (choice Log.Level.keys) (·.level) fun x s => { s with level := x },
    .mk _ "format" (choice Log.Format.keys) (·.format) fun x s => { s with format := x },
    .mk _ "output" (choice Log.Output.keys) (·.output) fun x s => { s with output := x },
    .mk _ "file_path" (fun v => (string .path v).map some) (·.filePath)
      fun x s => { s with filePath := x }]

def tcpLayout : Layout Tcp.Settings where
  start := {}
  slots := [
    .mk _ "workers" (natural .capacity) (·.workers) fun x s => { s with workers := x },
    .mk _ "buffer_size" (natural .capacity) (·.bufferSize) fun x s => { s with bufferSize := x },
    .mk _ "nodelay" flag (·.nodelay) fun x s => { s with nodelay := x }]

def udpLayout : Layout Udp.Settings where
  start := {}
  slots := [
    .mk _ "idle_timeout_secs" (natural .seconds) (·.idleTimeoutSecs)
      fun x s => { s with idleTimeoutSecs := x },
    .mk _ "sweep_interval_secs" (natural .seconds) (·.sweepIntervalSecs)
      fun x s => { s with sweepIntervalSecs := x },
    .mk _ "write_timeout_secs" (natural .seconds) (·.writeTimeoutSecs)
      fun x s => { s with writeTimeoutSecs := x },
    .mk _ "read_timeout_secs" (natural .seconds) (·.readTimeoutSecs)
      fun x s => { s with readTimeoutSecs := x },
    .mk _ "outbound_queue" (natural .capacity) (·.outboundQueue)
      fun x s => { s with outboundQueue := x },
    .mk _ "ingest_per_core" (natural .capacity) (·.ingestPerCore)
      fun x s => { s with ingestPerCore := x },
    .mk _ "event_queue" (natural .capacity) (·.eventQueue) fun x s => { s with eventQueue := x },
    .mk _ "max_datagram_size" (natural .capacity) (·.maxDatagramSize)
      fun x s => { s with maxDatagramSize := x }]

def routeLayout : Layout RouteDraft where
  start := {}
  slots := [
    .mk _ "protocol" (fun v => (choice Protocol.keys v).map some) (·.protocol)
      fun x s => { s with protocol := x },
    .mk _ "bind_address" (fun v => (address v).map some) (·.bindAddress)
      fun x s => { s with bindAddress := x },
    .mk _ "local_port" (fun v => (port v).map some) (·.localPort)
      fun x s => { s with localPort := x },
    .mk _ "remote_host" (fun v => (string .text v).map some) (·.remoteHost)
      fun x s => { s with remoteHost := x },
    .mk _ "remote_port" (fun v => (port v).map some) (·.remotePort)
      fun x s => { s with remotePort := x }]

def loggingSlot : Slot Config :=
  .mk _ "logging" decodeLogging (·.logging) fun x s => { s with logging := x }

def tcpSlot : Slot Config := .mk _ "tcp" decodeTcp (·.tcp) fun x s => { s with tcp := x }

def udpSlot : Slot Config := .mk _ "udp" decodeUdp (·.udp) fun x s => { s with udp := x }

def routesSlot : Slot Config :=
  .mk _ "routes" (list decodeRoute) (·.routes) fun x s => { s with routes := x }

def layout : Layout Config where
  start := {}
  slots := [loggingSlot, tcpSlot, udpSlot, routesSlot]
  apart := by simp [Slot.Apart, loggingSlot, tcpSlot, udpSlot, routesSlot]

-- The fields of the other layouts are those of their records as they stand. Where a field may hold
-- nothing, its slot has an option as the content.

theorem fields_loggingLayout : loggingLayout.fields = loggingFields := by
  unfold loggingFields
  rw [Field.of_some "file_path" (string .path) fun x (s : Log.Settings) => { s with filePath := x }]
  rfl

theorem fields_routeLayout : routeLayout.fields = routeFields := by
  unfold routeFields
  rw [Field.of_some _ _ fun x (s : RouteDraft) => { s with protocol := x },
    Field.of_some _ _ fun x (s : RouteDraft) => { s with bindAddress := x },
    Field.of_some _ _ fun x (s : RouteDraft) => { s with localPort := x },
    Field.of_some _ _ fun x (s : RouteDraft) => { s with remoteHost := x },
    Field.of_some _ _ fun x (s : RouteDraft) => { s with remotePort := x }]
  rfl

end SocketRelay.Config
