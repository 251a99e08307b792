import SocketRelay.Udp.Relay
import Mathlib.Data.List.Nodup

/-!
# The session table as a list

While no key stands twice in the table, the session of a key splits the table
into what is before it and what is after it (`table_split`). An update of that
key changes the session in its place, and a removal joins the two parts.
-/

namespace SocketRelay.Udp

/-- A session after the manager handed it a payload, whether or not its queue took that. -/
def Session.taken (s : Session) (now : Instant) (p : Payload) : Session :=
  { s with forwarder := (s.forwarder.offer p).getD s.forwarder, clock := s.clock.touch now }

namespace Engine

/-- The sessions that were ever opened. -/
def everySession (e : Engine) : List Session := e.removed ++ e.table.map (·.2)

def keys (e : Engine) : List String := e.table.map (·.1)

section
variable {e : Engine} {key : String} {s : Session}

theorem mem_table_of_session? (live : e.session? key = some s) : (key, s) ∈ e.table := by
  obtain ⟨before, after, h, -⟩ := List.lookup_eq_some_iff.mp live
  rw [h]
  exact List.mem_append_right _ List.mem_cons_self

theorem notMem_keys_of_session? (absent : e.session? key = none) : key ∉ e.keys := by
  intro h
  obtain ⟨p, hp, rfl⟩ := List.mem_map.mp h
  have := List.lookup_eq_none_iff.mp absent p hp
  simp at this

theorem mem_keys_of_session? (live : e.session? key = some s) : key ∈ e.keys :=
  List.mem_map.mpr ⟨_, mem_table_of_session? live, rfl⟩

theorem mem_everySession_of_session? (live : e.session? key = some s) : s ∈ e.everySession :=
  List.mem_append_right _ (List.mem_map.mpr ⟨_, mem_table_of_session? live, rfl⟩)

theorem ne_of_mem_split {before after : List (String × Session)} (unique : e.keys.Nodup)
    (split : e.table = before ++ (key, s) :: after) : ∀ p ∈ before ++ after, p.1 ≠ key := by
  rw [keys, split, List.map_append, List.map_cons, List.nodup_middle, List.nodup_cons,
    ← List.map_append] at unique
  exact fun p hp same => unique.1 (List.mem_map.mpr ⟨p, hp, same⟩)

/-- The table around the session of a key. -/
theorem table_split (unique : e.keys.Nodup) (live : e.session? key = some s) :
    ∃ before after, e.table = before ++ (key, s) :: after ∧
      ∀ p ∈ before ++ after, p.1 ≠ key := by
  obtain ⟨before, after, h, -⟩ := List.lookup_eq_some_iff.mp live
  exact ⟨before, after, h, ne_of_mem_split unique h⟩

theorem session?_of_mem_table (unique : e.keys.Nodup) (h : (key, s) ∈ e.table) :
    e.session? key = some s := by
  obtain ⟨before, after, split⟩ := List.append_of_mem h
  refine List.lookup_eq_some_iff.mpr ⟨before, after, split, fun p hp => ?_⟩
  have other := ne_of_mem_split unique split p (List.mem_append_left _ hp)
  exact bne_iff_ne.mpr (Ne.symm other)

/-- Changing the session of a key leaves the rest of the table as it is. -/
theorem table_update (unique : e.keys.Nodup) (live : e.session? key = some s)
    (f : Session → Session) :
    ∃ before after, e.table = before ++ (key, s) :: after ∧
      (e.update key f).table = before ++ (key, f s) :: after := by
  obtain ⟨before, after, h, others⟩ := table_split unique live
  refine ⟨before, after, h, ?_⟩
  have kept {l : List (String × Session)} {g : String × Session → String × Session}
      (same : ∀ p ∈ l, g p = p) : l.map g = l := (List.map_congr_left same).trans (List.map_id l)
  simp only [update, h, List.map_append, List.map_cons, if_true]
  refine congrArg₂ (· ++ ·) ?_ (congrArg _ ?_)
  · exact kept fun p hp => if_neg (others p (List.mem_append_left _ hp))
  · exact kept fun p hp => if_neg (others p (List.mem_append_right _ hp))

theorem keys_create (e : Engine) (now : Instant) (client remote : Net.Endpoint) :
    (e.create now client remote).keys = e.keys ++ [client.text] := by
  simp [keys, create, record]

theorem keys_update (e : Engine) (key : String) (f : Session → Session) :
    (e.update key f).keys = e.keys := by
  simp only [keys, update, List.map_map]
  refine List.map_congr_left fun p _ => ?_
  simp only [Function.comp_apply]
  split <;> rfl

theorem mem_table_update (unique : e.keys.Nodup) (live : e.session? key = some s)
    {f : Session → Session} {p : String × Session} (hp : p ∈ (e.update key f).table) :
    p = (key, f s) ∨ (p ∈ e.table ∧ p.1 ≠ key) := by
  obtain ⟨before, after, h, h'⟩ := table_update unique live f
  have others := ne_of_mem_split unique h
  rw [h'] at hp
  rw [h]
  rcases List.mem_append.mp hp with hp | hp
  · exact .inr ⟨List.mem_append_left _ hp, others p (List.mem_append_left _ hp)⟩
  · rcases List.mem_cons.mp hp with rfl | hp
    · exact .inl rfl
    · exact .inr ⟨List.mem_append_right _ (List.mem_cons_of_mem _ hp),
        others p (List.mem_append_right _ hp)⟩

theorem evict_eq (live : e.session? key = some s) (reason : EvictionReason) :
    e.evict key reason =
      { e with
        table := e.table.filter (·.1 ≠ key)
        removed := e.removed ++ [s]
        stats.evicted := e.stats.evicted + 1 }.record (.sessionEvicted s.client reason) := by
  simp only [evict, live]

/-- Removing the session of a key leaves the rest of the table as it is. -/
theorem table_evict (unique : e.keys.Nodup) (live : e.session? key = some s)
    (reason : EvictionReason) :
    ∃ before after, e.table = before ++ (key, s) :: after ∧
      (e.evict key reason).table = before ++ after := by
  obtain ⟨before, after, h, others⟩ := table_split unique live
  refine ⟨before, after, h, ?_⟩
  have kept : ∀ l : List (String × Session), (∀ p ∈ l, p.1 ≠ key) →
      l.filter (·.1 ≠ key) = l := fun l hl =>
    List.filter_eq_self.mpr fun p hp => decide_eq_true (hl p hp)
  rw [evict_eq live]
  simp only [record, h, List.filter_append]
  rw [List.filter_cons_of_neg (by simp),
    kept before fun p hp => others p (List.mem_append_left _ hp),
    kept after fun p hp => others p (List.mem_append_right _ hp)]

theorem lookup_filter_ne (key k : String) (table : List (String × Session)) :
    (table.filter (·.1 ≠ key)).lookup k = if k = key then none else table.lookup k := by
  induction table with
  | nil => simp
  | cons p table ih =>
    obtain ⟨k', s⟩ := p
    rw [List.filter_cons]
    by_cases hk : k = k'
    · subst hk
      by_cases h : k = key
      · rw [if_neg (by simp [h]), ih, if_pos h, if_pos h]
      · rw [if_pos (by simp [h]), if_neg h, List.lookup_cons_self, List.lookup_cons_self]
    · have other : (k == k') = false := beq_eq_false_iff_ne.mpr hk
      by_cases h : k' = key
      · rw [if_neg (by simp [h]), ih, List.lookup_cons, other]
      · rw [if_pos (by simp [h]), List.lookup_cons, List.lookup_cons, other, ih]

theorem lookup_map_eq (key k : String) (f : Session → Session) (table : List (String × Session)) :
    (table.map fun (k, s) => if k = key then (k, f s) else (k, s)).lookup k =
      if k = key then (table.lookup key).map f else table.lookup k := by
  induction table with
  | nil => simp
  | cons p table ih =>
    obtain ⟨k', s⟩ := p
    rw [List.map_cons]
    by_cases hk : k = k'
    · subst hk
      by_cases h : k = key
      · subst h
        simp only [if_true, List.lookup_cons_self, Option.map_some]
      · simp only [if_neg h, List.lookup_cons_self]
    · have other : (k == k') = false := beq_eq_false_iff_ne.mpr hk
      by_cases h : k' = key
      · subst h
        simp only [if_true, List.lookup_cons, other, ih, if_neg hk]
      · have away : (key == k') = false := beq_eq_false_iff_ne.mpr (Ne.symm h)
        simp only [if_neg h, List.lookup_cons, other, away, ih]

theorem session?_update (e : Engine) (key k : String) (f : Session → Session) :
    (e.update key f).session? k = if k = key then (e.session? key).map f else e.session? k :=
  lookup_map_eq key k f e.table

/-- What a key's session is when the session of another key, or of this one, was removed. -/
theorem session?_evict (e : Engine) (key k : String) (reason : EvictionReason) :
    (e.evict key reason).session? k = if k = key then none else e.session? k := by
  cases live : e.session? key with
  | none =>
    have : e.evict key reason = e := by simp only [evict, live]
    rw [this]
    split
    · next h => rw [h, live]
    · rfl
  | some s =>
    rw [evict_eq live]
    exact lookup_filter_ne key k e.table

end

/-! ## The sessions that were ever opened -/

/-- `after` is `before` with one session changed. -/
def Replaced (s s' : Session) (before after : List Session) : Prop :=
  ∃ left right, before = left ++ s :: right ∧ after = left ++ s' :: right

section
variable {e : Engine} {key : String} {s s' : Session}

theorem everySession_create (e : Engine) (now : Instant) (client remote : Net.Endpoint) :
    (e.create now client remote).everySession = e.everySession ++
      [.start (e.lastId + 1) client remote e.settings.outboundQueue.toNat now] := by
  simp [everySession, create, record]

theorem everySession_stop (e : Engine) : e.stop.everySession = e.everySession := by
  simp [everySession, stop]

theorem everySession_update (unique : e.keys.Nodup) (live : e.session? key = some s)
    (f : Session → Session) :
    Replaced s (f s) e.everySession (e.update key f).everySession := by
  obtain ⟨before, after, h, h'⟩ := table_update unique live f
  refine ⟨e.removed ++ before.map (·.2), after.map (·.2), ?_, ?_⟩
  · simp [everySession, h]
  · have : (e.update key f).removed = e.removed := rfl
    simp [everySession, h', this]

theorem replaced_set {l : List Session} {index : Nat} (gone : l[index]? = some s) (s' : Session) :
    Replaced s s' l (l.set index s') := by
  obtain ⟨lt, rfl⟩ := List.getElem?_eq_some_iff.mp gone
  refine ⟨l.take index, l.drop (index + 1), ?_, ?_⟩
  · rw [List.getElem_cons_drop, List.take_append_drop]
  · rw [List.set_eq_take_append_cons_drop, if_pos lt]

theorem everySession_set {index : Nat} (gone : e.removed[index]? = some s) (s' : Session) :
    Replaced s s' e.everySession
      { e with removed := e.removed.set index s' }.everySession := by
  obtain ⟨left, right, before, after⟩ := replaced_set gone s'
  refine ⟨left, right ++ e.table.map (·.2), ?_, ?_⟩
  · rw [everySession, before, List.append_assoc, List.cons_append]
  · simp only [everySession, after, List.append_assoc, List.cons_append]

theorem everySession_evict (unique : e.keys.Nodup) (live : e.session? key = some s)
    (reason : EvictionReason) : (e.evict key reason).everySession.Perm e.everySession := by
  obtain ⟨before, after, h, h'⟩ := table_evict unique live reason
  have removed : (e.evict key reason).removed = e.removed ++ [s] := by rw [evict_eq live]; rfl
  rw [everySession, everySession, h, h', removed]
  simp only [List.map_append, List.map_cons, List.append_assoc, List.singleton_append]
  exact (List.perm_middle.symm).append_left _

theorem Replaced.map_eq {α : Type} {before after : List Session} (h : Replaced s s' before after)
    {f : Session → α} (same : f s' = f s) : after.map f = before.map f := by
  obtain ⟨left, right, rfl, rfl⟩ := h
  simp [same]

theorem Replaced.mem_before {before after : List Session} (h : Replaced s s' before after) :
    s ∈ before := by
  obtain ⟨left, right, rfl, rfl⟩ := h
  exact List.mem_append_right _ List.mem_cons_self

theorem Replaced.count_flatMap {α : Type} [DecidableEq α] {before after : List Session}
    (h : Replaced s s' before after) (f : Session → List α) (a : α) :
    (after.flatMap f).count a + (f s).count a = (before.flatMap f).count a + (f s').count a := by
  obtain ⟨left, right, rfl, rfl⟩ := h
  simp only [List.flatMap_append, List.flatMap_cons, List.count_append]
  omega

theorem Replaced.length_flatMap {α : Type} {before after : List Session}
    (h : Replaced s s' before after) (f : Session → List α) :
    (after.flatMap f).length + (f s).length = (before.flatMap f).length + (f s').length := by
  obtain ⟨left, right, rfl, rfl⟩ := h
  simp only [List.flatMap_append, List.flatMap_cons, List.length_append]
  omega

theorem Replaced.countP {before after : List Session} (h : Replaced s s' before after)
    (p : Session → Bool) :
    after.countP p + (if p s then 1 else 0) = before.countP p + (if p s' then 1 else 0) := by
  obtain ⟨left, right, rfl, rfl⟩ := h
  simp only [List.countP_append, List.countP_cons]
  omega

theorem Replaced.mem {before after : List Session} (h : Replaced s s' before after)
    {x : Session} (hx : x ∈ after) : x = s' ∨ x ∈ before := by
  obtain ⟨left, right, rfl, rfl⟩ := h
  simp only [List.mem_append, List.mem_cons] at hx ⊢
  tauto

end

/-! ## Datagrams -/

section
variable {e : Engine} {now : Instant} {s : Session} {d : Datagram}

theorem enqueue_of_offer_some {f : Forwarder} (room : s.forwarder.offer d.payload = some f)
    (key : String) :
    e.enqueue now s key d =
      { e with handled := e.handled ++ [(now, d)] }.update key fun s =>
        { s with forwarder := f, clock := s.clock.touch now } := by
  simp only [enqueue, room]

theorem enqueue_of_offer_none (full : s.forwarder.offer d.payload = none) (key : String) :
    e.enqueue now s key d =
      { { e with handled := e.handled ++ [(now, d)] }.update key fun s =>
          { s with clock := s.clock.touch now } with
        dropped := e.dropped ++ [d]
        stats.dropped := e.stats.dropped + 1 }.record (.datagramDropped d.source) := by
  simp only [enqueue, full]

theorem handled_enqueue (key : String) :
    (e.enqueue now s key d).handled = e.handled ++ [(now, d)] := by
  cases room : s.forwarder.offer d.payload with
  | some f => rw [enqueue_of_offer_some room]; rfl
  | none => rw [enqueue_of_offer_none room]; rfl

theorem enqueue_frame {α : Type} (f : Engine → α)
    (unread : ∀ (e : Engine) (table : List (String × Session)) (handled : List (Instant × Datagram))
      (lost : List Datagram) (dropped : UInt64) (log : List Event),
      f { e with table, handled, dropped := lost, stats.dropped := dropped, log } = f e)
    (key : String) : f (e.enqueue now s key d) = f e := by
  cases room : s.forwarder.offer d.payload with
  | some _ =>
    rw [enqueue_of_offer_some room]
    exact unread e _ _ e.dropped e.stats.dropped e.log
  | none => rw [enqueue_of_offer_none room]; exact unread e ..

theorem table_enqueue (key : String) :
    (e.enqueue now s key d).table = (e.update key fun x =>
      { x with
        forwarder := (s.forwarder.offer d.payload).getD x.forwarder
        clock := x.clock.touch now }).table := by
  cases room : s.forwarder.offer d.payload with
  | some f => rw [enqueue_of_offer_some room]; rfl
  | none => rw [enqueue_of_offer_none room]; rfl

theorem log_enqueue (key : String) :
    (e.enqueue now s key d).log = e.log ++
      if (s.forwarder.offer d.payload).isSome then [] else [.datagramDropped d.source] := by
  cases room : s.forwarder.offer d.payload with
  | some f => rw [enqueue_of_offer_some room]; exact (List.append_nil _).symm
  | none => rw [enqueue_of_offer_none room]; rfl

theorem dropped_enqueue (key : String) :
    (e.enqueue now s key d).dropped = e.dropped ++
      if (s.forwarder.offer d.payload).isSome then [] else [d] := by
  cases room : s.forwarder.offer d.payload with
  | some f => rw [enqueue_of_offer_some room]; exact (List.append_nil _).symm
  | none => rw [enqueue_of_offer_none room]; rfl

theorem keys_enqueue (key : String) : (e.enqueue now s key d).keys = e.keys := by
  rw [keys, table_enqueue]
  exact keys_update ..

theorem everySession_enqueue (now : Instant) (d : Datagram) {key : String}
    (unique : e.keys.Nodup) (live : e.session? key = some s) :
    Replaced s (s.taken now d.payload) e.everySession (e.enqueue now s key d).everySession := by
  have removed : (e.enqueue now s key d).removed = e.removed :=
    enqueue_frame (·.removed) (by intros; rfl) key
  have every := everySession_update unique live fun x =>
    { x with
      forwarder := (s.forwarder.offer d.payload).getD x.forwarder
      clock := x.clock.touch now }
  unfold everySession at every ⊢
  rw [table_enqueue, removed]
  exact every

theorem mem_table_enqueue {key : String} (unique : e.keys.Nodup) (live : e.session? key = some s)
    {p : String × Session} (hp : p ∈ (e.enqueue now s key d).table) :
    p = (key, s.taken now d.payload) ∨ (p ∈ e.table ∧ p.1 ≠ key) := by
  rw [table_enqueue] at hp
  exact mem_table_update unique live hp

theorem session?_create (now : Instant) {client : Net.Endpoint} (remote : Net.Endpoint)
    (absent : e.session? client.text = none) :
    (e.create now client remote).session? client.text =
      some (.start (e.lastId + 1) client remote e.settings.outboundQueue.toNat now) := by
  unfold session? at absent
  simp [session?, create, record, List.lookup_append, absent]

theorem session?_create_of_ne (now : Instant) {client : Net.Endpoint} (remote : Net.Endpoint)
    {k : String} (other : k ≠ client.text) :
    (e.create now client remote).session? k = e.session? k := by
  have away : (k == client.text) = false := beq_eq_false_iff_ne.mpr other
  simp [session?, create, record, List.lookup_append, List.lookup_cons, away]

theorem session?_enqueue {key : String} (live : e.session? key = some s) (k : String) :
    (e.enqueue now s key d).session? k =
      if k = key then some (s.taken now d.payload) else e.session? k := by
  have changed := e.session?_update key k fun x =>
    { x with
      forwarder := (s.forwarder.offer d.payload).getD x.forwarder
      clock := x.clock.touch now }
  rw [live, Option.map_some] at changed
  unfold session? at changed ⊢
  rw [table_enqueue]
  exact changed

/-- What the manager does with a datagram. Without a session it looks for the target, and opens a
session unless something is in the way. -/
theorem handleDatagram_cases (e : Engine) (now : Instant) (o : Opening) (d : Datagram) :
    (∃ s, e.session? d.source.text = some s ∧
      e.handleDatagram now o d = e.enqueue now s d.source.text d) ∨
    (e.session? d.source.text = none ∧
      ((∃ error, e.handleDatagram now o d = e.refuse now d error) ∨
      ∃ remote, e.resolve o.lookup = .ok remote ∧
        ((∃ error, e.handleDatagram now o d =
          { e with resolved := some remote }.refuse now d error) ∨
        (Channel.canHave e.settings.outboundQueue.toNat = false ∧
          e.handleDatagram now o d = { e with resolved := some remote }.stop) ∨
        (Channel.canHave e.settings.outboundQueue.toNat = true ∧
          ∃ s, ({ e with resolved := some remote }.create now d.source remote).session?
              d.source.text = some s ∧
            e.handleDatagram now o d =
              ({ e with resolved := some remote }.create now d.source remote).enqueue now s
                d.source.text d)))) := by
  cases live : e.session? d.source.text with
  | some s => exact .inl ⟨s, rfl, by simp only [handleDatagram, deliver, live]⟩
  | none =>
    refine .inr ⟨rfl, ?_⟩
    simp only [handleDatagram, openSession, live]
    cases found : e.resolve o.lookup with
    | error error => exact .inl ⟨error, rfl⟩
    | ok remote =>
      refine .inr ⟨remote, rfl, ?_⟩
      cases o.dial with
      | error cause => exact .inl ⟨_, rfl⟩
      | ok _ =>
        refine .inr ?_
        by_cases size : Channel.canHave e.settings.outboundQueue.toNat = true
        · have created := session?_create (e := { e with resolved := some remote }) now remote live
          refine .inr ⟨size, _, created, ?_⟩
          simp only [if_pos size, deliver, created]
        · have small := Bool.not_eq_true _ ▸ size
          refine .inl ⟨small, ?_⟩
          simp only [if_neg size]
          rfl

end

end Engine

end SocketRelay.Udp
