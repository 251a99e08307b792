import SocketRelay.Proofs.Udp.ReadLoop
import SocketRelay.Proofs.Udp.Shares

/-!
# Two engines side by side

One engine has many clients, the other has one of them only. They are `Alike` if
the share of that client is the same in both, with other numbers, and so are its
refused datagrams. What is about the client happens in both engines, what is
about others in the first one only; either way they stay alike.
-/

namespace SocketRelay.Udp.Engine

open Net

/-- Two engines that are the same to one client, who is the only one that the second engine has. -/
structure Alike (key : String) (g : UInt64 → UInt64) (remote : Endpoint) (e a : Engine) : Prop where
  settings : a.settings = e.settings
  running : a.running = e.running
  resolved : ∀ x, e.resolved = some x → x = remote
  resolved_alone : ∀ x, a.resolved = some x → x = remote
  share : a.share key = (e.share key).renumber g
  refused : a.refusedOf key = e.refusedOf key
  keys : ∀ k ∈ a.keys, k = key
  removed : ∀ s ∈ a.removed, s.client.text = key

variable {key k : String} {g : UInt64 → UInt64} {remote : Endpoint} {e e' a : Engine}
  {now : Instant} {s s' : Session} {d : Datagram} {o : Opening}

/-- What is the same to the client besides its share. -/
structure SameAround (key : String) (e e' : Engine) : Prop where
  settings : e'.settings = e.settings
  running : e'.running = e.running
  resolved : e'.resolved = e.resolved
  refused : e'.refusedOf key = e.refusedOf key

theorem sameAround_enqueue (e : Engine) (now : Instant) (s : Session) (k : String) (d : Datagram)
    (key : String) : SameAround key e (e.enqueue now s k d) :=
  ⟨enqueue_frame (·.settings) (by intros; rfl) _, enqueue_frame (·.running) (by intros; rfl) _,
    enqueue_frame (·.resolved) (by intros; rfl) _,
    enqueue_frame (·.refusedOf key) (by intros; rfl) _⟩

theorem sameAround_evict (e : Engine) (k : String) (reason : EvictionReason) (key : String) :
    SameAround key e (e.evict k reason) :=
  ⟨settings_evict .., evict_frame (·.running) (by intros; rfl) ..,
    evict_frame (·.resolved) (by intros; rfl) ..,
    evict_frame (·.refusedOf key) (by intros; rfl) ..⟩

theorem sameAround_apply (e : Engine) (now : Instant) (s : Session) (effect : Effect)
    (key : String) : SameAround key e (e.apply now s effect) :=
  ⟨apply_frame (·.settings) (by intros; rfl), apply_frame (·.running) (by intros; rfl),
    apply_frame (·.resolved) (by intros; rfl), apply_frame (·.refusedOf key) (by intros; rfl)⟩

theorem resolve_eq {more : List Endpoint} (known : ∀ x, e.resolved = some x → x = remote)
    (finds : o.lookup = .ok (remote :: more)) : e.resolve o.lookup = .ok remote := by
  unfold resolve
  cases before : e.resolved with
  | some x => rw [known x before]
  | none => rw [finds]

/-- What the manager does with a datagram of a client without a session, once the target is
found. -/
theorem handleDatagram_of_absent (absent : e.session? d.source.text = none)
    (found : e.resolve o.lookup = .ok remote)
    (size : Channel.canHave e.settings.outboundQueue.toNat = true) :
    e.handleDatagram now o d =
      match o.dial with
      | .error cause => { e with resolved := some remote }.refuse now d (.dial e.target cause)
      | .ok () =>
        ({ e with resolved := some remote }.create now d.source remote).enqueue now
          (.start (e.lastId + 1) d.source remote e.settings.outboundQueue.toNat now)
          d.source.text d := by
  have created := session?_create (e := { e with resolved := some remote }) now remote absent
  simp only [handleDatagram, absent, openSession, found]
  cases o.dial with
  | error cause => rfl
  | ok _ => simp only [size, if_true, deliver, created]

theorem stepSession_renumber (settings : a.settings = e.settings) (isOpen : Bool)
    (input : TaskInput) :
    a.stepSession now (s.renumber g) isOpen input =
      (e.stepSession now s isOpen input).map fun (s', effect) => (s'.renumber g, effect) := by
  have replier (i : ReplierInput) : stepSession.replier a (s.renumber g) i =
      (stepSession.replier e s i).map fun (s', effect) => (s'.renumber g, effect) := by
    simp only [stepSession.replier, settings, Option.map_map]
    rfl
  cases input with
  | forwarder i =>
    simp only [stepSession, Option.map_map]
    rfl
  | shutdown =>
    simp only [stepSession]
    split
    · rfl
    · exact replier _
  | heard | readFailed | readDeadline | responded | respondFailed => exact replier _

namespace Alike

theorem session? (h : Alike key g remote e a) :
    a.session? key = (e.session? key).map (·.renumber g) := by
  rw [session?_eq_head?, session?_eq_head?, h.share, Share.renumber, List.head?_map]

/-- What is about another client leaves the two engines alike. -/
theorem others (h : Alike key g remote e a) (around : SameAround key e e')
    (share : e'.share key = e.share key) : Alike key g remote e' a :=
  ⟨h.settings.trans around.settings.symm, h.running.trans around.running.symm,
    around.resolved ▸ h.resolved, h.resolved_alone, share ▸ h.share,
    h.refused.trans around.refused.symm, h.keys, h.removed⟩

/-- What is about the client happens in both engines. -/
theorem both {a' : Engine} (h : Alike key g remote e a) (around : SameAround key e e')
    (around_alone : SameAround key a a') (share : a'.share key = (e'.share key).renumber g)
    (keys : a'.keys = a.keys) (removed : a'.removed = a.removed) : Alike key g remote e' a' :=
  ⟨around_alone.settings.trans (h.settings.trans around.settings.symm),
    around_alone.running.trans (h.running.trans around.running.symm),
    around.resolved ▸ h.resolved, around_alone.resolved ▸ h.resolved_alone, share,
    around_alone.refused.trans (h.refused.trans around.refused.symm), keys ▸ h.keys,
    removed ▸ h.removed⟩

theorem found (h : Alike key g remote e a) :
    Alike key g remote { e with resolved := some remote } { a with resolved := some remote } :=
  ⟨h.settings, h.running, fun _ same => (Option.some.inj same).symm,
    fun _ same => (Option.some.inj same).symm, h.share, h.refused, h.keys, h.removed⟩

/-! ## Datagrams -/

theorem enqueue (h : Alike key g remote e a) (own : d.source.text = key) (now : Instant)
    (s : Session) :
    Alike key g remote (e.enqueue now s key d) (a.enqueue now (s.renumber g) key d) := by
  have forwarder : (s.renumber g).forwarder = s.forwarder := rfl
  refine h.both (sameAround_enqueue ..) (sameAround_enqueue ..) ?_ (keys_enqueue _)
    (enqueue_frame (·.removed) (by intros; rfl) _)
  rw [share_enqueue own, share_enqueue own, h.share, forwarder]
  refine Share.ext ?_ rfl rfl ?_
  · simp only [Share.renumber, List.map_map]
    rfl
  · simp only [Share.renumber, List.map_append]
    refine congrArg _ ?_
    split <;> rfl

theorem refuse (h : Alike key g remote e a) (now : Instant) (d : Datagram) (error error' : Error) :
    Alike key g remote (e.refuse now d error) (a.refuse now d error') :=
  ⟨h.settings, h.running, h.resolved, h.resolved_alone, by
    rw [share_refuse, share_refuse]; exact h.share, by
    rw [refusedOf_refuse, refusedOf_refuse, h.refused], h.keys, h.removed⟩

theorem create (h : Alike key g remote e a) {client : Endpoint} (own : client.text = key)
    (next : a.lastId + 1 = g (e.lastId + 1)) (now : Instant) :
    Alike key g remote (e.create now client remote) (a.create now client remote) := by
  refine ⟨h.settings, h.running, h.resolved, h.resolved_alone, ?_, h.refused, ?_, h.removed⟩
  · subst own
    rw [share_create, share_create, h.share, h.settings, next]
    simp only [Share.renumber, List.map_append, List.map_cons, List.map_nil]
    rfl
  · rw [keys_create]
    intro k hk
    rcases List.mem_append.mp hk with hk | hk
    · exact h.keys k hk
    · rw [List.mem_singleton.mp hk, own]

/-- `next` says that the second engine gives a new session the number that it should have. -/
theorem handleDatagram (h : Alike key g remote e a) (own : d.source.text = key)
    (finds : ∃ more, o.lookup = .ok (remote :: more))
    (size : Channel.canHave e.settings.outboundQueue.toNat = true) (now : Instant)
    (next : e.session? key = none → o.dial = .ok () → a.lastId + 1 = g (e.lastId + 1)) :
    Alike key g remote (e.handleDatagram now o d) (a.handleDatagram now o d) := by
  obtain ⟨more, finds⟩ := finds
  have same := h.session?
  cases live : e.session? key with
  | some s =>
    rw [live, Option.map_some] at same
    simp only [Engine.handleDatagram, deliver, own, live, same]
    exact h.enqueue own now s
  | none =>
    rw [live, Option.map_none] at same
    rw [handleDatagram_of_absent (own ▸ live) (resolve_eq h.resolved finds) size,
      handleDatagram_of_absent (own ▸ same) (resolve_eq h.resolved_alone finds)
        (h.settings ▸ size)]
    cases dial : o.dial with
    | error cause => exact h.found.refuse now d _ _
    | ok _ =>
      have next := next live dial
      have created := (h.found.create own next now).enqueue own now
        (.start (e.lastId + 1) d.source remote e.settings.outboundQueue.toNat now)
      have start : (Session.start (e.lastId + 1) d.source remote
          e.settings.outboundQueue.toNat now).renumber g =
          .start (a.lastId + 1) d.source remote a.settings.outboundQueue.toNat now := by
        rw [next, h.settings]
        rfl
      rw [start] at created
      rw [own]
      exact created

theorem handleDatagram_other (h : Alike key g remote e a) (other : d.source.text ≠ key)
    (finds : ∃ more, o.lookup = .ok (remote :: more))
    (size : Channel.canHave e.settings.outboundQueue.toNat = true) (now : Instant) :
    Alike key g remote (e.handleDatagram now o d) a := by
  obtain ⟨more, finds⟩ := finds
  have enqueued {e : Engine} (h : Alike key g remote e a) (s : Session) :
      Alike key g remote (e.enqueue now s d.source.text d) a :=
    h.others (sameAround_enqueue ..) (share_enqueue_of_ne other)
  cases live : e.session? d.source.text with
  | some s =>
    simp only [Engine.handleDatagram, deliver, live]
    exact enqueued h s
  | none =>
    have found : Alike key g remote { e with resolved := some remote } a :=
      ⟨h.settings, h.running, fun _ same => (Option.some.inj same).symm, h.resolved_alone, h.share,
        h.refused, h.keys, h.removed⟩
    rw [handleDatagram_of_absent live (resolve_eq h.resolved finds) size]
    cases o.dial with
    | error cause =>
      refine found.others ⟨rfl, rfl, rfl, ?_⟩ (share_refuse ..)
      rw [refusedOf_refuse, if_neg other, List.append_nil]
    | ok _ =>
      have created : Alike key g remote
          ({ e with resolved := some remote }.create now d.source remote) a :=
        found.others ⟨rfl, rfl, rfl, rfl⟩ (share_create_of_ne other ..)
      exact enqueued created _

/-! ## Removal -/

theorem evict (h : Alike key g remote e a) (table : Registered e) (reason : EvictionReason) :
    Alike key g remote (e.evict key reason) (a.evict key reason) := by
  have same := h.session?
  cases live : e.session? key with
  | none =>
    rw [live, Option.map_none] at same
    simp only [Engine.evict, live, same]
    exact h
  | some s =>
    rw [live, Option.map_some] at same
    have own := table.text_of_session? live
    have share : (a.evict key reason).share key = ((e.evict key reason).share key).renumber g := by
      rw [share_evict live own, share_evict same own, h.share]
      simp only [Share.renumber, List.map_append, List.map_cons, List.map_nil]
      rfl
    rw [evict_eq live, evict_eq same] at share ⊢
    refine ⟨h.settings, h.running, h.resolved, h.resolved_alone, share, h.refused,
      fun k hk => ?_, ?_⟩
    · exact h.keys k (List.map_subset _ (fun _ => List.mem_of_mem_filter) hk)
    · intro x hx
      rcases List.mem_append.mp hx with hx | hx
      · exact h.removed x hx
      · rw [List.mem_singleton.mp hx]
        exact own

theorem evict_other (h : Alike key g remote e a) (table : Registered e) (other : k ≠ key)
    (reason : EvictionReason) : Alike key g remote (e.evict k reason) a :=
  h.others (sameAround_evict ..) (share_evict_of_ne other table reason)

/-- Of several removals, the second engine has those of the one client. -/
theorem evicts (h : Alike key g remote e a) (table : Registered e) (idle : List String) :
    Alike key g remote (idle.foldl (fun e k => e.evict k .idle) e)
      ((idle.filter (· = key)).foldl (fun e k => e.evict k .idle) a) := by
  induction idle generalizing e a with
  | nil => exact h
  | cons k idle ih =>
    have registered : Registered (e.evict k .idle) := by
      cases live : e.session? k with
      | none => simp only [Engine.evict, live]; exact table
      | some s => exact table.evict live .idle
    rw [List.filter_cons]
    by_cases here : k = key
    · subst here
      rw [if_pos (decide_eq_true rfl)]
      exact ih (h.evict table .idle) registered
    · rw [if_neg (by simpa using here)]
      exact ih (h.evict_other table here .idle) registered

theorem sweep (h : Alike key g remote e a) (table : Registered e) (now : Instant)
    (order : List String) :
    Alike key g remote (e.sweep now order) (a.sweep now (order.filter (· = key))) := by
  have keys : a.idleKeys now (order.filter (· = key)) =
      (e.idleKeys now order).filter (· = key) := by
    simp only [idleKeys, List.filter_filter]
    refine List.filter_congr fun k _ => ?_
    by_cases here : k = key
    · -- Whether a session is idle does not depend on its number.
      subst here
      rw [h.session?, Option.any_map, h.settings, Bool.and_comm]
      rfl
    · simp only [here, decide_false, Bool.and_false, Bool.false_and]
  unfold Engine.sweep
  rw [keys]
  exact h.evicts table _

/-- The translated report is about the session of the second engine if the report is about the
session of the first one. -/
theorem handleReport (h : Alike key g remote e a) (table : Registered e) {x : Report}
    (own : x.key = key) (same_id : ∀ s, e.session? key = some s → (g s.id = g x.id ↔ s.id = x.id)) :
    Alike key g remote (e.handleReport x) (a.handleReport { x with id := g x.id }) := by
  have same := h.session?
  subst own
  cases live : e.session? x.key with
  | none =>
    rw [live, Option.map_none] at same
    simp only [Engine.handleReport, live, same]
    exact h
  | some s =>
    rw [live, Option.map_some] at same
    have same_id : (s.renumber g).id = g x.id ↔ s.id = x.id := same_id s live
    simp only [Engine.handleReport, live, same]
    by_cases mine : s.id = x.id
    · rw [if_pos mine, if_pos (same_id.mpr mine)]
      exact h.evict table _
    · rw [if_neg mine, if_neg (mt same_id.mp mine)]
      exact h

theorem handleReport_other (h : Alike key g remote e a) (table : Registered e) {x : Report}
    (other : x.key ≠ key) : Alike key g remote (e.handleReport x) a := by
  unfold Engine.handleReport
  split
  · split
    · exact h.evict_other table other _
    · exact h
  · exact h

/-! ## Tasks -/

theorem apply (h : Alike key g remote e a) (own : s.client.text = key) (now : Instant)
    (effect : Effect) :
    Alike key g remote (e.apply now s effect) (a.apply now (s.renumber g) effect) := by
  have own' : (s.renumber g).client.text = key := own
  have events : (effect.events s.client).map (·.renumber g) = effect.events s.client := by
    cases effect with
    | none | forwarded | replied => rfl
    | failed reason cause => cases cause <;> rfl
  refine h.both (sameAround_apply ..) (sameAround_apply ..) ?_
    (apply_frame (·.keys) (by intros; rfl)) (apply_frame (·.removed) (by intros; rfl))
  rw [share_apply, share_apply, if_pos own, if_pos own', h.share]
  simp only [Share.renumber, List.map_append, events]
  rfl

theorem apply_other (h : Alike key g remote e a) (other : s.client.text ≠ key) (now : Instant)
    (effect : Effect) : Alike key g remote (e.apply now s effect) a := by
  refine h.others (sameAround_apply ..) ?_
  rw [share_apply, if_neg other, List.append_nil]

theorem update (h : Alike key g remote e a) (s : Session) :
    Alike key g remote (e.update key fun _ => s) (a.update key fun _ => s.renumber g) := by
  refine ⟨h.settings, h.running, h.resolved, h.resolved_alone, ?_, h.refused, ?_, h.removed⟩
  · rw [share_update, share_update, h.share]
    simp only [Share.renumber, List.map_map]
    rfl
  · rw [keys_update]; exact h.keys

/-- All that the second engine removed are sessions of the client. -/
theorem removed_eq (h : Alike key g remote e a) :
    a.removed = (e.share key).removed.map (·.renumber g) := by
  have all : (a.share key).removed = a.removed :=
    List.filter_eq_self.mpr fun s hs => decide_eq_true (h.removed s hs)
  rw [← all, h.share]
  rfl

theorem set {index : Nat} (h : Alike key g remote e a) (gone : e.removed[index]? = some s)
    (own : s.client.text = key) (client : s'.client = s.client) :
    Alike key g remote { e with removed := e.removed.set index s' }
      { a with removed := a.removed.set (e.place key index) (s'.renumber g) } := by
  have mine : ∀ x ∈ a.removed.set (e.place key index) (s'.renumber g), x.client.text = key := by
    intro x hx
    rcases List.mem_or_eq_of_mem_set hx with hx | rfl
    · exact h.removed x hx
    · exact client ▸ own
  refine ⟨h.settings, h.running, h.resolved, h.resolved_alone, ?_, h.refused, h.keys, mine⟩
  obtain ⟨table, -, dropped, events⟩ := Share.ext_iff.mp h.share
  rw [share_set gone own client]
  refine Share.ext table ?_ dropped events
  have all := List.filter_eq_self.mpr fun s hs => decide_eq_true (mine s hs)
  simp only [Engine.share, Share.renumber, List.map_set]
  rw [all, h.removed_eq]
  rfl

theorem stepTask_live (h : Alike key g remote e a) (table : Registered e) (now : Instant)
    (input : TaskInput) :
    Alike key g remote ((e.stepTask now (.live key) input).getD e)
      ((a.stepTask now (.live key) input).getD a) := by
  have same := h.session?
  cases live : e.session? key with
  | none =>
    rw [live, Option.map_none] at same
    simp only [stepTask, live, same]
    exact h
  | some s =>
    rw [live, Option.map_some] at same
    have own := table.text_of_session? live
    simp only [stepTask, live, same, Option.bind_eq_bind, Option.bind_some, Option.pure_def,
      stepSession_renumber h.settings]
    cases e.stepSession now s true input with
    | none => exact h
    | some p => exact (h.update p.1).apply own now p.2

theorem stepTask_live_other (h : Alike key g remote e a) (table : Registered e) (other : k ≠ key)
    (now : Instant) (input : TaskInput) :
    Alike key g remote ((e.stepTask now (.live k) input).getD e) a := by
  cases stepped : e.stepTask now (.live k) input with
  | none => exact h
  | some e' =>
    simp only [stepTask, Option.bind_eq_bind, Option.bind_eq_some_iff, Option.pure_def] at stepped
    obtain ⟨s, live, ⟨s', effect⟩, -, eq⟩ := stepped
    cases eq
    have foreign : s.client.text ≠ key := table.text_of_session? live ▸ other
    have updated : Alike key g remote (e.update k fun _ => s') a :=
      h.others ⟨rfl, rfl, rfl, rfl⟩ (share_update_of_ne other e _)
    exact updated.apply_other foreign now effect

theorem stepTask_removed {index : Nat} (h : Alike key g remote e a)
    (gone : e.removed[index]? = some s) (own : s.client.text = key) (now : Instant)
    (input : TaskInput) :
    Alike key g remote ((e.stepTask now (.removed index) input).getD e)
      ((a.stepTask now (.removed (e.place key index)) input).getD a) := by
  have same : a.removed[e.place key index]? = some (s.renumber g) := by
    rw [h.removed_eq, List.getElem?_map, share_removed_getElem? gone own, Option.map_some]
  simp only [stepTask, gone, same, Option.bind_eq_bind, Option.bind_some, Option.pure_def,
    stepSession_renumber h.settings]
  cases step : e.stepSession now s false input with
  | none => exact h
  | some p =>
    obtain ⟨-, client, -⟩ := stepSession_identity step
    exact (h.set gone own client).apply own now p.2

theorem stepTask_removed_other {index : Nat} (h : Alike key g remote e a)
    (other : (e.removed[index]?).any (·.client.text = key) = false) (now : Instant)
    (input : TaskInput) :
    Alike key g remote ((e.stepTask now (.removed index) input).getD e) a := by
  cases stepped : e.stepTask now (.removed index) input with
  | none => exact h
  | some e' =>
    simp only [stepTask, Option.bind_eq_bind, Option.bind_eq_some_iff, Option.pure_def] at stepped
    obtain ⟨s, gone, ⟨s', effect⟩, step, eq⟩ := stepped
    cases eq
    obtain ⟨-, client, -⟩ := stepSession_identity step
    have foreign : s.client.text ≠ key := by
      rw [gone, Option.any_some] at other
      exact of_decide_eq_false other
    have changed : Alike key g remote { e with removed := e.removed.set index s' } a :=
      h.others ⟨rfl, rfl, rfl, rfl⟩ (share_set_of_ne gone foreign client)
    exact changed.apply_other foreign now effect

end Alike

end SocketRelay.Udp.Engine
