import SocketRelay.Proofs.Udp.Moves

/-!
# The session table of a running engine

`Registered` says how the table, the removed sessions, the number of the session
created last and two counters hang together. Every move keeps it, whatever
lookups and dials answer and whatever reports arrive. As long as numbers have
not run out, it makes the table a table: one session per client, each under the
text of its client's address and with a number of its own (`run_tableInvariant`).
-/

namespace SocketRelay.Udp.Engine

structure Registered (e : Engine) : Prop where
  unique : e.keys.Nodup
  named : ∀ p ∈ e.table, p.1 = p.2.client.text
  /-- The numbers given out so far are one, two and so on. -/
  numbered : (e.everySession.map (·.id)).Perm
    ((List.range e.everySession.length).map fun i => UInt64.ofNat (i + 1))
  last : e.lastId = UInt64.ofNat e.everySession.length
  created : e.stats.created = e.lastId
  evicted : e.stats.evicted = UInt64.ofNat e.removed.length
  sized : e.everySession ≠ [] → Channel.canHave e.settings.outboundQueue.toNat = true

theorem registered_start (target : String) (settings : Settings) (now : Instant) :
    Registered (start target settings now) where
  unique := List.nodup_nil
  named _ h := absurd h List.not_mem_nil
  numbered := .refl _
  last := rfl
  created := rfl
  evicted := rfl
  sized h := absurd rfl h

namespace Registered

variable {e e' : Engine}

theorem record (h : Registered e) (event : Event) : Registered (e.record event) :=
  ⟨h.unique, h.named, h.numbered, h.last, h.created, h.evicted, h.sized⟩

/-- Changes inside of sessions, and of what `Registered` does not speak of. -/
theorem of_same (h : Registered e) (keys : e'.keys = e.keys)
    (named : ∀ p ∈ e'.table, p.1 = p.2.client.text)
    (ids : e'.everySession.map (·.id) = e.everySession.map (·.id))
    (removed : e'.removed.length = e.removed.length) (lastId : e'.lastId = e.lastId)
    (settings : e'.settings = e.settings) (created : e'.stats.created = e.stats.created)
    (evicted : e'.stats.evicted = e.stats.evicted) : Registered e' := by
  have length : e'.everySession.length = e.everySession.length := by
    simpa using congrArg List.length ids
  refine ⟨keys ▸ h.unique, named, ?_, ?_, ?_, ?_, ?_⟩
  · rw [ids, length]; exact h.numbered
  · rw [lastId, length]; exact h.last
  · rw [created, lastId]; exact h.created
  · rw [evicted, removed]; exact h.evicted
  · intro some
    rw [settings]
    refine h.sized fun none => some (List.eq_nil_of_length_eq_zero ?_)
    rw [length, none, List.length_nil]

theorem found (h : Registered e) (remote : Net.Endpoint) :
    Registered { e with resolved := some remote } :=
  h.of_same rfl h.named rfl rfl rfl rfl rfl rfl

theorem text_of_session? (h : Registered e) {key : String} {s : Session}
    (live : e.session? key = some s) : s.client.text = key :=
  (h.named _ (mem_table_of_session? live)).symm

theorem everySession_eq_nil (h : Registered e)
    (size : Channel.canHave e.settings.outboundQueue.toNat = false) : e.everySession = [] := by
  by_contra some
  rw [h.sized some] at size
  cases size

theorem table_eq_nil (h : Registered e)
    (size : Channel.canHave e.settings.outboundQueue.toNat = false) : e.table = [] :=
  List.map_eq_nil_iff.mp (List.append_eq_nil_iff.mp (h.everySession_eq_nil size)).2

theorem named_update (h : Registered e) {key : String} {s : Session}
    (live : e.session? key = some s) {f : Session → Session} (client : (f s).client = s.client) :
    ∀ p ∈ (e.update key f).table, p.1 = p.2.client.text := by
  intro p hp
  rcases mem_table_update h.unique live hp with rfl | ⟨hp, -⟩
  · rw [client]
    exact h.named _ (mem_table_of_session? live)
  · exact h.named p hp

/-- A change of one session that leaves its number and its client alone. -/
theorem update (h : Registered e) {key : String} {s : Session} (live : e.session? key = some s)
    {f : Session → Session} (id : (f s).id = s.id) (client : (f s).client = s.client) :
    Registered (e.update key f) :=
  h.of_same (keys_update e key f) (h.named_update live client)
    ((everySession_update h.unique live f).map_eq id) rfl rfl rfl rfl rfl

theorem apply (h : Registered e) (now : Instant) (s : Session) (effect : Effect) :
    Registered (e.apply now s effect) := by
  have table : (e.apply now s effect).table = e.table := apply_frame (·.table) (by intros; rfl)
  have removed : (e.apply now s effect).removed = e.removed :=
    apply_frame (·.removed) (by intros; rfl)
  refine h.of_same (by rw [keys, table, keys]) (table ▸ h.named)
    (by rw [everySession, table, removed, everySession]) (by rw [removed]) ?_ ?_ ?_ ?_
  · exact apply_frame (·.lastId) (by intros; rfl)
  · exact apply_frame (·.settings) (by intros; rfl)
  · exact apply_frame (·.stats.created) (by intros; rfl)
  · exact apply_frame (·.stats.evicted) (by intros; rfl)

theorem create (h : Registered e) (now : Instant) {client remote : Net.Endpoint}
    (absent : e.session? client.text = none)
    (size : Channel.canHave e.settings.outboundQueue.toNat = true) :
    Registered (e.create now client remote) := by
  let s := Session.start (e.lastId + 1) client remote e.settings.outboundQueue.toNat now
  have every : (e.create now client remote).everySession = e.everySession ++ [s] :=
    e.everySession_create now client remote
  have next : UInt64.ofNat (e.everySession.length + 1) = e.lastId + 1 := by
    rw [h.last, UInt64.ofNat_add]; rfl
  refine ⟨?_, ?_, ?_, ?_, ?_, h.evicted, fun _ => size⟩
  · rw [keys_create]
    exact (List.nodup_append_comm.mpr <| by
      simpa using ⟨notMem_keys_of_session? absent, h.unique⟩)
  · intro p hp
    rcases List.mem_append.mp hp with hp | hp
    · exact h.named p hp
    · rw [List.mem_singleton.mp hp]; rfl
  · rw [every, List.length_append, List.length_singleton, List.range_succ, List.map_append,
      List.map_append]
    refine h.numbered.append ?_
    rw [List.map_singleton, List.map_singleton, next]
    exact .refl _
  · rw [every, List.length_append, List.length_singleton, next]; rfl
  · change e.stats.created + 1 = e.lastId + 1
    rw [h.created]

theorem enqueue (h : Registered e) (now : Instant) {d : Datagram} {s : Session}
    (live : e.session? d.source.text = some s) :
    Registered (e.enqueue now s d.source.text d) := by
  have every := everySession_enqueue now d h.unique live
  have named := h.named _ (mem_table_of_session? live)
  refine h.of_same (keys_enqueue _) (fun p hp => ?_) (every.map_eq rfl) ?_ ?_ ?_ ?_ ?_
  · rcases mem_table_enqueue h.unique live hp with rfl | ⟨hp, -⟩
    · exact named
    · exact h.named p hp
  · exact enqueue_frame (·.removed.length) (by intros; rfl) _
  · exact enqueue_frame (·.lastId) (by intros; rfl) _
  · exact enqueue_frame (·.settings) (by intros; rfl) _
  · exact enqueue_frame (·.stats.created) (by intros; rfl) _
  · exact enqueue_frame (·.stats.evicted) (by intros; rfl) _

theorem evict (h : Registered e) {key : String} {s : Session} (live : e.session? key = some s)
    (reason : EvictionReason) : Registered (e.evict key reason) := by
  have every := everySession_evict h.unique live reason
  obtain ⟨before, after, split, joined⟩ := table_evict h.unique live reason
  have sub : (e.evict key reason).table.Sublist e.table := by
    rw [joined, split]
    exact List.Sublist.append_left (List.sublist_cons_self ..) _
  refine ⟨(sub.map _).nodup h.unique, fun p hp => h.named p (sub.mem hp), ?_, ?_, ?_, ?_, ?_⟩
  · rw [every.length_eq]
    exact (every.map _).trans h.numbered
  · rw [every.length_eq, ← h.last, evict_eq live]; rfl
  · rw [evict_eq live]; exact h.created
  · rw [evict_eq live]
    simp only [Engine.record, List.length_append, List.length_singleton, UInt64.ofNat_add,
      h.evicted]
    rfl
  · intro some
    rw [settings_evict]
    exact h.sized fun none => some (List.eq_nil_of_length_eq_zero (by
      rw [every.length_eq, none, List.length_nil]))

theorem move {now : Instant} (m : Move now e e') (h : Registered e) : Registered e' := by
  cases m with
  | received | readFailed | stalled | resolved | refused | reportTaken =>
    exact h.of_same rfl h.named rfl rfl rfl rfl rfl rfl
  | stopped size =>
    have table := h.table_eq_nil size
    refine h.of_same (by rw [keys, keys, table]; rfl) (fun _ hp => absurd hp List.not_mem_nil)
      (by rw [everySession_stop]) ?_ rfl rfl rfl rfl
    simp [stop, table]
  | created absent _ size => exact h.create now absent size
  | enqueued live => exact h.enqueue now live
  | swept live idle => exact h.evict live .idle
  | reported live same => exact h.evict live _
  | stepped live step =>
    obtain ⟨id, client, -⟩ := stepSession_identity step
    exact (h.update live id client).apply now _ _
  | @drained index s s' input effect gone step =>
    obtain ⟨id, client, -⟩ := stepSession_identity step
    have every := everySession_set gone s'
    have set : Registered { e with removed := e.removed.set index s' } :=
      h.of_same rfl h.named (every.map_eq id) (List.length_set ..) rfl rfl rfl rfl
    exact set.apply now _ _

end Registered

theorem run_registered (target : String) (settings : Settings) (began : Instant)
    (inputs : List Input) : Registered ((start target settings began).run inputs) :=
  run_keeps Registered.move (registered_start target settings began) inputs

/-! ## Numbers that have not run out -/

namespace Registered

variable {e : Engine}

theorem ids_nodup_of_few (h : Registered e) (few : e.everySession.length < UInt64.size) :
    (e.everySession.map (·.id)).Nodup := by
  refine h.numbered.nodup_iff.mpr (List.Nodup.map_on ?_ List.nodup_range)
  intro i hi j hj same
  have hi := List.mem_range.mp hi
  have hj := List.mem_range.mp hj
  have := congrArg UInt64.toNat same
  rw [UInt64.toNat_ofNat_of_lt' (by omega), UInt64.toNat_ofNat_of_lt' (by omega)] at this
  omega

/-- What only one number has, at most one session has. -/
theorem countP_of_few (h : Registered e) (few : e.everySession.length < UInt64.size) {s : Session}
    (hs : s ∈ e.everySession) {p : Session → Bool} (only : ∀ x, p x = true → x.id = s.id) :
    e.everySession.countP p = if p s then 1 else 0 := by
  have distinct := h.ids_nodup_of_few few
  obtain ⟨before, after, split⟩ := List.append_of_mem hs
  rw [split] at distinct ⊢
  rw [List.map_append, List.map_cons, List.nodup_middle, List.nodup_cons, ← List.map_append]
    at distinct
  have others : (before ++ after).countP p = 0 := List.countP_eq_zero.mpr fun x hx px =>
    distinct.1 (List.mem_map.mpr ⟨x, hx, only x px⟩)
  rw [List.countP_append] at others
  rw [List.countP_append, List.countP_cons]
  omega

theorem id_range_of_few (h : Registered e) (few : e.everySession.length < UInt64.size)
    {s : Session} (hs : s ∈ e.everySession) : 1 ≤ s.id.toNat ∧ s.id.toNat ≤ e.lastId.toNat := by
  obtain ⟨i, hi, same⟩ :=
    List.mem_map.mp (h.numbered.subset (List.mem_map_of_mem (f := (·.id)) hs))
  have hi := List.mem_range.mp hi
  rw [h.last, ← same, UInt64.toNat_ofNat_of_lt' (by omega), UInt64.toNat_ofNat_of_lt' few]
  omega

end Registered

/-- What the table promises while numbers have not run out. -/
structure TableInvariant (e : Engine) : Prop where
  keys_nodup : e.keys.Nodup
  clients_nodup : (e.table.map (·.2.client)).Nodup
  key_eq_text : ∀ p ∈ e.table, p.1 = p.2.client.text
  ids_nodup : (e.table.map (·.2.id)).Nodup
  one_le_id : ∀ p ∈ e.table, 1 ≤ p.2.id
  id_le_lastId : ∀ p ∈ e.table, p.2.id ≤ e.lastId
  lastId_eq_created : e.lastId = e.stats.created
  created_eq : e.stats.created.toNat = e.stats.evicted.toNat + e.table.length

theorem run_tableInvariant (target : String) (settings : Settings) (began : Instant)
    (inputs : List Input)
    (few : ((start target settings began).run inputs).everySession.length < UInt64.size) :
    TableInvariant ((start target settings began).run inputs) := by
  have h := run_registered target settings began inputs
  generalize (start target settings began).run inputs = e at few h
  have inEvery : ∀ p ∈ e.table, p.2 ∈ e.everySession := fun p hp =>
    List.mem_append_right _ (List.mem_map_of_mem hp)
  refine ⟨h.unique, ?_, h.named, ?_, ?_, ?_, h.created.symm, ?_⟩
  · have texts : (e.table.map (·.2.client)).map Net.Endpoint.text = e.keys := by
      rw [List.map_map]
      exact List.map_congr_left fun p hp => (h.named p hp).symm
    exact .of_map Net.Endpoint.text (texts ▸ h.unique)
  · have ids := h.ids_nodup_of_few few
    rw [everySession, List.map_append, List.map_map] at ids
    exact (List.nodup_append.mp ids).2.1
  · intro p hp
    rw [UInt64.le_iff_toNat_le]
    exact (h.id_range_of_few few (inEvery p hp)).1
  · intro p hp
    rw [UInt64.le_iff_toNat_le]
    exact (h.id_range_of_few few (inEvery p hp)).2
  · have length : e.everySession.length = e.removed.length + e.table.length := by
      rw [everySession, List.length_append, List.length_map]
    rw [h.created, h.last, h.evicted, UInt64.toNat_ofNat_of_lt' few,
      UInt64.toNat_ofNat_of_lt' (by omega), length]

/-- Two clients, one of them again after its session was idle; a dial that fails, a report about a
number that nobody has, and one about a session that is there. -/
def mixedInputs : List Input :=
  let a : Net.Endpoint := .v4 ⟨10, 0, 0, 1⟩ 4001
  let b : Net.Endpoint := .v4 ⟨10, 0, 0, 2⟩ 4001
  let remote : Net.Endpoint := .v4 ⟨192, 0, 2, 1⟩ 53
  let free : Opening := ⟨.ok [remote], .ok ()⟩
  [.datagram (.ofMillis 1000) free ⟨a, [1]⟩,
   .datagram (.ofMillis 2000) ⟨.ok [remote], .error .networkUnreachable⟩ ⟨b, [2]⟩,
   .datagram (.ofMillis 3000) free ⟨b, [3]⟩,
   .report ⟨a.text, 7, .read⟩,
   .sweep (.ofMillis 62000) [b.text, a.text],
   .datagram (.ofMillis 62000) free ⟨a, [4]⟩,
   .query (.ofMillis 62000),
   .report ⟨b.text, 2, .remoteIdle⟩]

theorem run_tableInvariant_mixed :
    ((start "example.net:53" {} .zero).run mixedInputs).everySession.length < UInt64.size ∧
      TableInvariant ((start "example.net:53" {} .zero).run mixedInputs) := by
  have few : ((start "example.net:53" {} .zero).run mixedInputs).everySession.length <
      UInt64.size := by decide +kernel
  exact ⟨few, run_tableInvariant "example.net:53" {} .zero mixedInputs few⟩

end SocketRelay.Udp.Engine

namespace SocketRelay.Udp.Relay

open Engine

/-- What every move keeps of an engine with a proper table holds in every state of a relay. -/
theorem Reachable.registered_keeps {P : Instant → Engine → Prop} {l : Listener} {cores : UInt64}
    {memory : Nat}
    {began t : Instant} {start r : Relay} (started : l.start? cores memory began = some start)
    (reached : Reachable start t r) (wait : ∀ {t now e}, t ≤ now → P t e → P now e)
    (move : ∀ {now e e'}, Move now e e' → Registered e → P now e → P now e')
    (first : ∀ t, P t ((Engine.start l.target l.settings began).record
      (.relayStarted .udp l.listen l.target))) : Registered r.engine ∧ P t r.engine := by
  refine reached.keeps (P := fun t e => Registered e ∧ P t e)
    (fun later h => ⟨h.1, wait later h.2⟩) (fun m h => ⟨h.1.move m, move m h.1 h.2⟩) fun t => ?_
  rw [Listener.engine_of_start? started]
  exact ⟨(registered_start l.target l.settings began).record _, first t⟩

end SocketRelay.Udp.Relay
