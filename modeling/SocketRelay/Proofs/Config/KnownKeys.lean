import SocketRelay.Proofs.Config.Records
import SocketRelay.Proofs.Toml.DistinctKeys

/-!
# Known keys

A configuration depends on the keys of its document that name a field, wherever a
table of settings stands: at the top, as one of the parts, or as a route (`Spot`).
Each of these tables is read by a layout. What the document gives follows from what
the table gives: a part is the content of one slot (`Part.decode_entry`), a route is
one item of the content of another (`ItemAt`). Main statement:
`parse_dependsOnKnownKeys`.
-/

namespace SocketRelay

open Net Toml

namespace Config

/-! ## Places of tables -/

/-- A part of a configuration that has a table of its own. -/
inductive Part where
  | logging
  | tcp
  | udp
  deriving DecidableEq, Repr

namespace Part

def key : Part → String
  | logging => "logging"
  | tcp => "tcp"
  | udp => "udp"

def keys : Part → List String
  | logging => loggingLayout.keys
  | tcp => tcpLayout.keys
  | udp => udpLayout.keys

/-- The configuration with the field of a key of this part at its default, if there is one. -/
def reset (key : String) (c : Config) : Part → Config
  | logging => { c with logging := loggingLayout.reset key c.logging }
  | tcp => { c with tcp := tcpLayout.reset key c.tcp }
  | udp => { c with udp := udpLayout.reset key c.udp }

end Part

def requiredKeys : List String := ["protocol", "local_port", "remote_host", "remote_port"]

/-- A place in a document where a table of settings stands, with what stands around it. -/
inductive Spot where
  | top
  | part (p : Part) (left right : Table)
  /-- A route that is an item of an array in brackets. -/
  | item (left right : Table) (before after : List Value)
  /-- A route with a header. -/
  | header (left right : Table) (before after : List Table)

namespace Spot

/-- The document with this table in the place. -/
def fill : Spot → Table → Table
  | top, t => t
  | part p left right, t => left ++ (p.key, .table t) :: right
  | item left right before after, t =>
    left ++ ("routes", .array (before ++ .table t :: after)) :: right
  | header left right before after, t =>
    left ++ ("routes", .tables (before ++ t :: after)) :: right

def keys : Spot → List String
  | top => layout.keys
  | part p _ _ => p.keys
  | item .. | header .. => routeLayout.keys

def requires : Spot → String → Bool
  | top, _ | part .., _ => false
  | item .., key | header .., key => requiredKeys.contains key

/-- The route with the field of an optional key at its default. -/
def resetRoute (key : String) (r : Route) : Route :=
  if key = "bind_address" then { r with bindAddress := .unspecified } else r

/-- The configuration with the field of an optional key at its default, if there is one. -/
def reset (key : String) (c : Config) : Spot → Config
  | top => layout.reset key c
  | part p _ _ => p.reset key c
  | item _ _ before _ => { c with routes := c.routes.modify before.length (resetRoute key) }
  | header _ _ before _ => { c with routes := c.routes.modify before.length (resetRoute key) }

end Spot

/-- Of a document, others in which the entries of its tables of settings stand in another order, and
more of them, with keys that name no field. No document has a key twice in one table. -/
inductive Rearranged (d : Table) : Table → Prop where
  | refl : Rearranged d d
  | step {spot : Spot} {t t' more : Table} (before : Rearranged d (spot.fill t))
    (perm : (t ++ more).Perm t') (unknown : ∀ e ∈ more, e.1 ∉ spot.keys)
    (distinct : (spot.fill t').Distinct) : Rearranged d (spot.fill t')

/-- The configuration of a document depends on known keys only. -/
structure DependsOnKnownKeys (d : Table) (c : Config) : Prop where
  rearranged : ∀ d', Rearranged d d' → decode d' = .ok c
  /-- Without an optional key, what it sets is as by default and all else stays. Without a key that
  a route cannot do without, this key is missing. -/
  removed : ∀ (spot : Spot) (left : Table) (key : String) (v : Value) (right : Table),
    d = spot.fill (left ++ (key, v) :: right) →
    decode (spot.fill (left ++ right)) =
      if spot.requires key then .error (.missing key) else .ok (spot.reset key c)
  /-- There are no overrides, so whole seconds are in effect. -/
  overrides : c.udp.overrides = {}
  idleTimeout : c.udp.idleTimeout = .ofSecs c.udp.idleTimeoutSecs
  sweepInterval : c.udp.sweepInterval = .ofSecs c.udp.sweepIntervalSecs
  writeTimeout : c.udp.writeTimeout = .ofSecs c.udp.writeTimeoutSecs
  readTimeout : c.udp.readTimeout = .ofSecs c.udp.readTimeoutSecs

/-! ## Entries of documents -/

section
variable {left right : Table} {key : String} {v : Value}

theorem absent_of_distinct (distinct : Table.Distinct (left ++ (key, v) :: right)) :
    key ∉ (left ++ right).map (·.1) := by
  have keys := distinct.keys
  rw [List.map_append, List.map_cons] at keys
  have front := (List.perm_middle.nodup_iff).mp keys
  rw [← List.map_append] at front
  exact (List.nodup_cons.mp front).1

theorem distinct_value (distinct : Table.Distinct (left ++ (key, v) :: right)) : v.Distinct :=
  distinct.each (key, v) (List.mem_append_right _ List.mem_cons_self)

end

/-- The table in a place of a document has no key twice. -/
theorem Spot.distinct_of_fill {spot : Spot} {t : Table} (distinct : (spot.fill t).Distinct) :
    t.Distinct := by
  cases spot with
  | top => exact distinct
  | part => exact Value.distinct_table.mp (distinct_value distinct)
  | item left right before after =>
    have each := Value.distinct_array.mp (distinct_value distinct)
    exact Value.distinct_table.mp (each _ (List.mem_append_right _ List.mem_cons_self))
  | header left right before after =>
    have each := Value.distinct_tables.mp (distinct_value distinct)
    exact each _ (List.mem_append_right _ List.mem_cons_self)

/-! ## Lists -/

theorem modify_middle {α : Type} (before after : List α) (a : α) (f : α → α) :
    (before ++ a :: after).modify before.length f = before ++ f a :: after := by
  induction before with
  | nil => rfl
  | cons b before ih => rw [List.cons_append, List.length_cons, List.modify_succ_cons, ih]; rfl

/-- If all items of a list are decoded, one of them may be another. -/
theorem mapM_middle {α β : Type} {f : α → Except DecodeError β} {before after : List α} {a : α}
    {bs : List β} (decoded : (before ++ a :: after).mapM f = .ok bs) :
    ∃ bs₁ b bs₂, bs = bs₁ ++ b :: bs₂ ∧ bs₁.length = before.length ∧ f a = .ok b ∧
      ∀ a', (before ++ a' :: after).mapM f = (f a').map (bs₁ ++ · :: bs₂) := by
  induction before generalizing bs with
  | nil =>
    rw [List.nil_append, List.mapM_cons] at decoded
    cases first : f a with
    | error e => rw [first] at decoded; cases decoded
    | ok b =>
      rw [first] at decoded
      cases rest : after.mapM f with
      | error e => rw [rest] at decoded; cases decoded
      | ok bs₂ =>
        rw [rest] at decoded
        cases decoded
        refine ⟨[], b, bs₂, rfl, rfl, rfl, fun a' => ?_⟩
        rw [List.nil_append, List.mapM_cons, rest]
        cases f a' <;> rfl
  | cons c before ih =>
    rw [List.cons_append, List.mapM_cons] at decoded
    cases first : f c with
    | error e => rw [first] at decoded; cases decoded
    | ok b₀ =>
      rw [first] at decoded
      cases rest : (before ++ a :: after).mapM f with
      | error e => rw [rest] at decoded; cases decoded
      | ok bs' =>
        rw [rest] at decoded
        cases decoded
        obtain ⟨bs₁, b, bs₂, rfl, length, own, other⟩ := ih rest
        refine ⟨b₀ :: bs₁, b, bs₂, rfl, congrArg (· + 1) length, own, fun a' => ?_⟩
        rw [List.cons_append, List.mapM_cons, first, other a']
        cases f a' <;> rfl

/-! ## Tables of settings -/

/-- The same entries in another order, and more without a field, give the same record. -/
theorem Layout.read_rearranged {σ : Type} {L : Layout σ} {t t' more : Table} {s : σ}
    (distinct : t'.Distinct) (perm : (t ++ more).Perm t') (unknown : ∀ e ∈ more, e.1 ∉ L.keys)
    (read : L.read t = .ok s) : L.read t' = .ok s := by
  have keys : ((t ++ more).map (·.1)).Nodup := (perm.map _).nodup_iff.mpr distinct.keys
  exact Layout.read_perm keys perm ((Layout.read_append unknown).trans read)

theorem decodeLogging_table (t : Table) : decodeLogging (.table t) = loggingLayout.read t := by
  rw [Layout.read, fields_loggingLayout]
  rfl

theorem decodeRoute_table (t : Table) :
    decodeRoute (.table t) = (routeLayout.read t).bind (·.finish fun _ key => .missing key) := by
  rw [Layout.read, fields_routeLayout]
  rfl

variable {c : Config} {d left right : Table} {key : String} {v : Value}

/-- In a document the value of a known key gives what is in its slot, and another value changes this
slot only. -/
theorem decode_entry {l : Slot Config} (mem : l ∈ layout.slots)
    (distinct : Table.Distinct (left ++ (l.key, v) :: right))
    (read : decode (left ++ (l.key, v) :: right) = .ok c) :
    l.decode v = .ok (l.get c) ∧
      ∀ w, decode (left ++ (l.key, w) :: right) = (l.decode w).map (l.put · c) := by
  have absent := absent_of_distinct distinct
  exact ⟨Layout.decode_of_read mem absent read, Layout.read_replaced mem absent read⟩

namespace Part

def slot : Part → Slot Config
  | logging => loggingSlot
  | tcp => tcpSlot
  | udp => udpSlot

theorem slot_key (p : Part) : p.slot.key = p.key := by cases p <;> rfl

theorem slot_mem (p : Part) : p.slot ∈ layout.slots := by
  cases p with
  | logging => exact List.mem_cons_self
  | tcp => exact List.mem_cons_of_mem _ List.mem_cons_self
  | udp => exact List.mem_cons_of_mem _ (List.mem_cons_of_mem _ List.mem_cons_self)

theorem decode_rearranged {p : Part} {t t' more : Table} {x : p.slot.Content}
    (distinct : t'.Distinct) (perm : (t ++ more).Perm t') (unknown : ∀ e ∈ more, e.1 ∉ p.keys)
    (decoded : p.slot.decode (.table t) = .ok x) : p.slot.decode (.table t') = .ok x := by
  cases p with
  | logging =>
    have read : loggingLayout.read t = .ok x := (decodeLogging_table t).symm.trans decoded
    exact (decodeLogging_table t').trans (Layout.read_rearranged distinct perm unknown read)
  | tcp => exact Layout.read_rearranged (L := tcpLayout) distinct perm unknown decoded
  | udp => exact Layout.read_rearranged (L := udpLayout) distinct perm unknown decoded

theorem decode_removed {p : Part} (distinct : Table.Distinct (left ++ (key, v) :: right))
    (decoded : p.slot.decode (.table (left ++ (key, v) :: right)) = .ok (p.slot.get c)) :
    (p.slot.decode (.table (left ++ right))).map (p.slot.put · c) = .ok (p.reset key c) := by
  have absent := absent_of_distinct distinct
  cases p with
  | logging =>
    have read := (decodeLogging_table _).symm.trans decoded
    have without := (decodeLogging_table _).trans (Layout.read_without absent read)
    exact congrArg (Except.map _) without
  | tcp => exact congrArg (Except.map _) (Layout.read_without (L := tcpLayout) absent decoded)
  | udp => exact congrArg (Except.map _) (Layout.read_without (L := udpLayout) absent decoded)

end Part

/-! ## Routes -/

structure RouteDraft.Gives (draft : RouteDraft) (r : Route) : Prop where
  protocol : draft.protocol = some r.protocol
  bindAddress : draft.bindAddress.getD .unspecified = r.bindAddress
  localPort : draft.localPort = some r.localPort
  remoteHost : draft.remoteHost = some r.remoteHost
  remotePort : draft.remotePort = some r.remotePort

theorem RouteDraft.finish_eq_ok {draft : RouteDraft} {absent : Nat → String → DecodeError}
    {r : Route} (finished : draft.finish absent = .ok r) : draft.Gives r := by
  obtain ⟨protocol, bindAddress, localPort, remoteHost, remotePort⟩ := draft
  cases protocol with
  | none => cases finished
  | some protocol =>
    cases localPort with
    | none => cases finished
    | some localPort =>
      cases remoteHost with
      | none => cases finished
      | some remoteHost =>
        cases remotePort with
        | none => cases finished
        | some remotePort => cases finished; exact ⟨rfl, rfl, rfl, rfl, rfl⟩

theorem keys_routeLayout : routeLayout.keys =
    ["protocol", "bind_address", "local_port", "remote_host", "remote_port"] := rfl

theorem RouteDraft.Gives.finish {draft : RouteDraft} {r : Route} (gives : draft.Gives r)
    (absent : Nat → String → DecodeError) : draft.finish absent = .ok r := by
  unfold RouteDraft.finish
  rw [gives.protocol, gives.localPort, gives.remoteHost, gives.remotePort, gives.bindAddress]
  rfl

/-- Without a required key it is missing, without any other the route is as it was but for the
default. -/
theorem RouteDraft.Gives.finish_reset {draft : RouteDraft} {r : Route} (gives : draft.Gives r)
    (key : String) :
    (routeLayout.reset key draft).finish (fun _ key => .missing key) =
      if requiredKeys.contains key then .error (.missing key)
      else .ok (Spot.resetRoute key r) := by
  by_cases known : key ∈ routeLayout.keys
  · rw [keys_routeLayout] at known
    simp only [List.mem_cons, List.not_mem_nil, or_false] at known
    rcases known with rfl | rfl | rfl | rfl | rfl
    · rfl
    · have unspecified : RouteDraft.Gives { draft with bindAddress := none }
          { r with bindAddress := .unspecified } :=
        ⟨gives.protocol, rfl, gives.localPort, gives.remoteHost, gives.remotePort⟩
      exact unspecified.finish _
    · show RouteDraft.finish _ { draft with localPort := none } = _
      rw [RouteDraft.finish, gives.protocol]
      rfl
    · show RouteDraft.finish _ { draft with remoteHost := none } = _
      rw [RouteDraft.finish, gives.protocol, gives.localPort]
      rfl
    · show RouteDraft.finish _ { draft with remotePort := none } = _
      rw [RouteDraft.finish, gives.protocol, gives.localPort, gives.remoteHost]
      rfl
  · have optional : requiredKeys.contains key = false := by
      simp only [keys_routeLayout, List.mem_cons, List.not_mem_nil, or_false, not_or] at known
      simp [requiredKeys, known]
    have other : key ≠ "bind_address" := fun same => known (by rw [same]; decide)
    rw [Layout.reset_unknown known, gives.finish, optional, Spot.resetRoute, if_neg other]
    rfl

section
variable {t t' more : Table} {r : Route}

/-- A table that is read gives what its draft gives. -/
theorem decodeRoute_of_read {draft : RouteDraft} (read : routeLayout.read t = .ok draft) :
    decodeRoute (.table t) = draft.finish fun _ key => .missing key := by
  rw [decodeRoute_table, read]
  rfl

theorem decodeRoute_eq_ok (decoded : decodeRoute (.table t) = .ok r) :
    ∃ draft, routeLayout.read t = .ok draft ∧ draft.Gives r := by
  cases read : routeLayout.read t with
  | error e => rw [decodeRoute_table, read] at decoded; cases decoded
  | ok draft =>
    rw [decodeRoute_of_read read] at decoded
    exact ⟨draft, rfl, RouteDraft.finish_eq_ok decoded⟩

theorem decodeRoute_rearranged (distinct : t'.Distinct) (perm : (t ++ more).Perm t')
    (unknown : ∀ e ∈ more, e.1 ∉ routeLayout.keys) (decoded : decodeRoute (.table t) = .ok r) :
    decodeRoute (.table t') = .ok r := by
  obtain ⟨draft, read, gives⟩ := decodeRoute_eq_ok decoded
  rw [decodeRoute_of_read (Layout.read_rearranged distinct perm unknown read)]
  exact gives.finish _

theorem decodeRoute_removed (distinct : Table.Distinct (left ++ (key, v) :: right))
    (decoded : decodeRoute (.table (left ++ (key, v) :: right)) = .ok r) :
    decodeRoute (.table (left ++ right)) =
      if requiredKeys.contains key then .error (.missing key)
      else .ok (Spot.resetRoute key r) := by
  obtain ⟨draft, read, gives⟩ := decodeRoute_eq_ok decoded
  rw [decodeRoute_of_read (Layout.read_without (absent_of_distinct distinct) read)]
  exact gives.finish_reset key

/-- A list of routes whose item at `n` is a table, in one of its forms. If it is read, its other
items are read whatever this table is. -/
def ItemAt (form : Table → Value) (n : Nat) : Prop :=
  ∀ t rs, list decodeRoute (form t) = .ok rs →
    ∃ rs₁ r rs₂, rs = rs₁ ++ r :: rs₂ ∧ rs₁.length = n ∧ decodeRoute (.table t) = .ok r ∧
      ∀ t', list decodeRoute (form t') = (decodeRoute (.table t')).map (rs₁ ++ · :: rs₂)

theorem itemAt_array (before after : List Value) :
    ItemAt (fun t => .array (before ++ .table t :: after)) before.length := by
  intro t rs decoded
  obtain ⟨rs₁, r, rs₂, routes, length, own, other⟩ := mapM_middle decoded
  exact ⟨rs₁, r, rs₂, routes, length, own, fun t' => other (.table t')⟩

theorem itemAt_tables (before after : List Table) :
    ItemAt (fun t => .tables (before ++ t :: after)) before.length := by
  intro t rs decoded
  exact mapM_middle (f := fun entries => decodeRoute (.table entries)) decoded

end

section
variable {form : Table → Value} {n : Nat} {t t' more : Table}

theorem routesSlot_mem : routesSlot ∈ layout.slots :=
  List.mem_cons_of_mem _ (List.mem_cons_of_mem _ (List.mem_cons_of_mem _ List.mem_cons_self))

theorem ItemAt.decode_rearranged (item : ItemAt form n)
    (distinct : Table.Distinct (left ++ ("routes", form t) :: right)) (distinct' : t'.Distinct)
    (perm : (t ++ more).Perm t') (unknown : ∀ e ∈ more, e.1 ∉ routeLayout.keys)
    (read : decode (left ++ ("routes", form t) :: right) = .ok c) :
    decode (left ++ ("routes", form t') :: right) = .ok c := by
  obtain ⟨decoded, other⟩ := decode_entry routesSlot_mem distinct read
  obtain ⟨rs₁, r, rs₂, routes, -, own, items⟩ := item t c.routes decoded
  have same := decodeRoute_rearranged distinct' perm unknown own
  calc decode (left ++ ("routes", form t') :: right)
    _ = (list decodeRoute (form t')).map (routesSlot.put · c) := other (form t')
    _ = .ok (routesSlot.put c.routes c) := by rw [items, same, routes]; rfl
    _ = .ok c := rfl

theorem ItemAt.decode_removed (item : ItemAt form n) {left' right' : Table}
    (distinct : Table.Distinct (left ++ ("routes", form (left' ++ (key, v) :: right')) :: right))
    (distinct' : Table.Distinct (left' ++ (key, v) :: right'))
    (read : decode (left ++ ("routes", form (left' ++ (key, v) :: right')) :: right) = .ok c) :
    decode (left ++ ("routes", form (left' ++ right')) :: right) =
      if requiredKeys.contains key then .error (.missing key)
      else .ok { c with routes := c.routes.modify n (Spot.resetRoute key) } := by
  obtain ⟨decoded, other⟩ := decode_entry routesSlot_mem distinct read
  obtain ⟨rs₁, r, rs₂, routes, rfl, own, items⟩ := item _ c.routes decoded
  have without := decodeRoute_removed distinct' own
  have modified := modify_middle rs₁ rs₂ r (Spot.resetRoute key)
  calc decode (left ++ ("routes", form (left' ++ right')) :: right)
    _ = (list decodeRoute (form (left' ++ right'))).map (routesSlot.put · c) := other _
    _ = _ := by
      rw [items, without, routes, modified]
      cases requiredKeys.contains key <;> rfl

end

/-! ## Documents -/

section
variable {spot : Spot} {t t' more : Table}

theorem Part.decode_entry {p : Part}
    (distinct : Table.Distinct (left ++ (p.key, .table t) :: right))
    (read : decode (left ++ (p.key, .table t) :: right) = .ok c) :
    p.slot.decode (.table t) = .ok (p.slot.get c) ∧
      ∀ t', decode (left ++ (p.key, .table t') :: right) =
        (p.slot.decode (.table t')).map (p.slot.put · c) := by
  rw [← p.slot_key] at distinct read ⊢
  obtain ⟨decoded, other⟩ := Config.decode_entry p.slot_mem distinct read
  exact ⟨decoded, fun t' => other (.table t')⟩

theorem Spot.decode_rearranged (distinct : (spot.fill t).Distinct)
    (distinct' : (spot.fill t').Distinct) (perm : (t ++ more).Perm t')
    (unknown : ∀ e ∈ more, e.1 ∉ spot.keys) (read : decode (spot.fill t) = .ok c) :
    decode (spot.fill t') = .ok c := by
  have own : t'.Distinct := Spot.distinct_of_fill distinct'
  cases spot with
  | top => exact Layout.read_rearranged (L := layout) own perm unknown read
  | part p left right =>
    obtain ⟨decoded, other⟩ := Part.decode_entry distinct read
    have same := Part.decode_rearranged own perm unknown decoded
    show decode (left ++ (p.key, .table t') :: right) = .ok c
    rw [other, same]
    exact congrArg Except.ok (p.slot.put_get c)
  | item left right before after =>
    exact (itemAt_array before after).decode_rearranged distinct own perm unknown read
  | header left right before after =>
    exact (itemAt_tables before after).decode_rearranged distinct own perm unknown read

theorem Spot.decode_removed (distinct : (spot.fill (left ++ (key, v) :: right)).Distinct)
    (read : decode (spot.fill (left ++ (key, v) :: right)) = .ok c) :
    decode (spot.fill (left ++ right)) =
      if spot.requires key then .error (.missing key) else .ok (spot.reset key c) := by
  have own : Table.Distinct (left ++ (key, v) :: right) := Spot.distinct_of_fill distinct
  cases spot with
  | top => exact Layout.read_without (L := layout) (absent_of_distinct own) read
  | part p =>
    obtain ⟨decoded, other⟩ := Part.decode_entry distinct read
    exact (other _).trans (Part.decode_removed own decoded)
  | item left right before after =>
    exact (itemAt_array before after).decode_removed distinct own read
  | header left right before after =>
    exact (itemAt_tables before after).decode_removed distinct own read

example (c : Config) : Spot.top.reset "routes" c = { c with routes := [] } := rfl

example (c : Config) : Spot.top.reset "udp" c = { c with udp := {} } := rfl

example (c : Config) (left right : Table) :
    (Spot.part .tcp left right).reset "nodelay" c = { c with tcp.nodelay := true } := rfl

/-- Every step keeps the configuration, and that no key stands twice. -/
theorem Rearranged.decode {d' : Table} (rearranged : Rearranged d d') (distinct : d.Distinct)
    (read : decode d = .ok c) : d'.Distinct ∧ Config.decode d' = .ok c := by
  induction rearranged with
  | refl => exact ⟨distinct, read⟩
  | step _ perm unknown distinct' ih =>
    exact ⟨distinct', Spot.decode_rearranged ih.1 distinct' perm unknown ih.2⟩

end

/-! ## Overrides -/

theorem put_overrides : ∀ l ∈ udpLayout.slots, ∀ x s, (l.put x s).overrides = s.overrides := by
  simp [udpLayout]

theorem overrides_of_decodeUdp {s : Udp.Settings} (decoded : decodeUdp v = .ok s) :
    s.overrides = {} :=
  Layout.record_keeps (L := udpLayout) (P := fun s => s.overrides = {}) rfl
    (fun l mem _ x s _ kept => (put_overrides l mem x s).trans kept) decoded

/-- No key sets an override. -/
theorem overrides_of_decode (read : decode d = .ok c) : c.udp.overrides = {} := by
  have read : record "RelayConfig" layout.fields layout.start (.table d) = .ok c := read
  refine Layout.record_keeps (P := fun c => c.udp.overrides = {}) rfl ?_ read
  intro l mem v x c decoded kept
  simp only [layout, List.mem_cons, List.not_mem_nil, or_false] at mem
  rcases mem with rfl | rfl | rfl | rfl
  · exact kept
  · exact kept
  · exact overrides_of_decodeUdp decoded
  · exact kept

/-- Of a document without a key twice in one table. -/
theorem DependsOnKnownKeys.of_distinct (distinct : d.Distinct) (read : decode d = .ok c) :
    DependsOnKnownKeys d c := by
  have overrides : c.udp.overrides = {} := overrides_of_decode read
  refine ⟨fun d' rearranged => (rearranged.decode distinct read).2, ?_, overrides, ?_, ?_, ?_, ?_⟩
  · rintro spot left key v right rfl
    exact Spot.decode_removed distinct read
  · rw [Udp.Settings.idleTimeout, overrides]; rfl
  · rw [Udp.Settings.sweepInterval, overrides]; rfl
  · rw [Udp.Settings.writeTimeout, overrides]; rfl
  · rw [Udp.Settings.readTimeout, overrides]; rfl

/-! ## Texts -/

/-- A text that gives a configuration is a document, and the configuration depends on the known keys
of the document only. -/
theorem parse_dependsOnKnownKeys {text : String} {c : Config} (parsed : parse text = .ok c) :
    ∃ d, Toml.parse? text = some d ∧ decode d = .ok c ∧ DependsOnKnownKeys d c := by
  unfold parse parseWith at parsed
  cases document : Toml.parse? text with
  | none => rw [document] at parsed; cases parsed
  | some d =>
    rw [document] at parsed
    change (decode d).mapError ParseError.decode = .ok c at parsed
    cases read : decode d with
    | error e => rw [read] at parsed; cases parsed
    | ok _ =>
      rw [read] at parsed
      cases parsed
      exact ⟨d, rfl, read, .of_distinct (distinct_of_parse? document) read⟩

/-- A section and a route, and keys that name no field. -/
def dnsText : String :=
  "owner = 'ops'\n[udp]\nidle_timeout_secs = 90\n[udp.limits]\nrate = 10\n[[routes]]\n" ++
    "remote_host = 'dns'\nremote_port = 5353\nweight = 1\nprotocol = 'udp'\nlocal_port = 53\n"

def dns : Config where
  udp := { idleTimeoutSecs := 90 }
  routes := [⟨.udp, .unspecified, 53, "dns", 5353⟩]

theorem dnsText_dependsOnKnownKeys : parse dnsText = .ok dns ∧
    ∃ d, Toml.parse? dnsText = some d ∧ decode d = .ok dns ∧ DependsOnKnownKeys d dns := by
  have parsed : parse dnsText = .ok dns := by
    have read : (parse dnsText).toOption = some dns := by decide +kernel
    cases result : parse dnsText with
    | error e => rw [result] at read; cases read
    | ok c => rw [result] at read; cases read; rfl
  exact ⟨parsed, parse_dependsOnKnownKeys parsed⟩

end Config

end SocketRelay
