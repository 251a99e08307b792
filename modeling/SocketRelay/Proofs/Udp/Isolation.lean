import SocketRelay.Proofs.Udp.Numbers
import SocketRelay.Proofs.Udp.SideBySide

/-!
# One client among others

What an engine does for one client does not depend on the others. Leaving out
all inputs about other clients (`Engine.alone`) gives the same share of sessions,
dropped datagrams and events. The sessions have other numbers, in the same order
(`Engine.run_isolated`). This holds as long as numbers do not run out.

Numbers are translated by `rank` among all numbers that the client will ever
get, so a report can be translated before the session it names is opened. That
the next session gets the number that it should have is an argument about the
rest of the run (`Engine.numbers_isPrefix_run`).
-/

namespace SocketRelay.Udp.Engine

open Net

/-- Wherever the input looks up the target, it finds `remote` first. -/
def Input.Finds (remote : Endpoint) : Input → Prop
  | .datagram _ o _ => ∃ more, o.lookup = .ok (remote :: more)
  | _ => True

/-- The input as an engine with one client only meets it, unless it is about another client. -/
def Input.alone? (key : String) (g : UInt64 → UInt64) (e : Engine) : Input → Option Input
  | .datagram now o d => if d.source.text = key then some (.datagram now o d) else none
  | .sweep now order => some (.sweep now (order.filter (· = key)))
  | .report r => if r.key = key then some (.report { r with id := g r.id }) else none
  | .query now => some (.query now)
  | .task now (.live k) input => if k = key then some (.task now (.live k) input) else none
  | .task now (.removed index) input =>
    if (e.removed[index]?).any (·.client.text = key) then
      some (.task now (.removed (e.place key index)) input)
    else none

def alone (key : String) (g : UInt64 → UInt64) : Engine → List Input → List Input
  | _, [] => []
  | e, i :: inputs => (i.alone? key g e).toList ++ alone key g (e.handle i) inputs

variable {key : String} {remote : Endpoint} {e e' a : Engine} {now : Instant} {d : Datagram}
  {o : Opening}

theorem numbers_of_opened (table : Registered e) (absent : e.session? d.source.text = none)
    (found : e.resolve o.lookup = .ok remote)
    (size : Channel.canHave e.settings.outboundQueue.toNat = true) (dial : o.dial = .ok ()) :
    (e.handleDatagram now o d).numbers d.source.text =
      e.numbers d.source.text ++ [e.lastId + 1] := by
  have created : Registered ({ e with resolved := some remote }.create now d.source remote) :=
    (table.found remote).create now absent size
  have live := session?_create (e := { e with resolved := some remote }) now remote absent
  have every := everySession_enqueue now d created.unique live
  have more := numbers_create { e with resolved := some remote } now d.source remote d.source.text
  rw [if_pos rfl] at more
  rw [handleDatagram_of_absent absent found size, dial]
  exact (numbers_replaced every rfl rfl).trans more

theorem settings_run (e : Engine) (inputs : List Input) :
    (e.run inputs).settings = e.settings :=
  run_keeps (P := fun e' => e'.settings = e.settings) (fun m h => (settings_move m).trans h) rfl
    inputs

theorem alike_start (target : String) (settings : Settings) (began : Instant) (key : String)
    (g : UInt64 → UInt64) (remote : Endpoint) :
    Alike key g remote (start target settings began) (start target settings began) :=
  ⟨rfl, rfl, fun _ none => (by cases none), fun _ none => (by cases none), rfl, rfl,
    fun _ hk => absurd hk List.not_mem_nil, fun _ hs => absurd hs List.not_mem_nil⟩

namespace Alike

theorem length_everySession (h : Alike key g remote e a) (table : Registered e) :
    a.everySession.length = (e.numbers key).length := by
  have mine : a.table.filter (·.1 = key) = a.table :=
    List.filter_eq_self.mpr fun p hp => decide_eq_true (h.keys p.1 (List.mem_map_of_mem hp))
  have sessions : (a.share key).table = a.table.map (·.2) := congrArg _ mine
  rw [h.share] at sessions
  rw [everySession, h.removed_eq, ← sessions, numbers_eq table]
  simp only [Share.renumber, List.length_append, List.length_map]

/-- The next session of the client has the next place among the client's numbers. -/
theorem lastId_succ {numbers : List UInt64} (h : Alike key (rank numbers) remote e a)
    (table : Registered e) (single : Registered a) (distinct : numbers.Nodup)
    (inside : e.numbers key ++ [e.lastId + 1] <+: numbers) :
    a.lastId + 1 = rank numbers (e.lastId + 1) := by
  obtain ⟨after, rfl⟩ := inside
  have new : e.lastId + 1 ∉ e.numbers key := fun before =>
    (List.nodup_append.mp (List.nodup_append.mp distinct).1).2.2 _ before _ List.mem_cons_self rfl
  rw [List.append_assoc, List.singleton_append, rank_append new, ← h.length_everySession table,
    single.last, UInt64.ofNat_add]
  rfl

theorem step {numbers : List UInt64} (h : Alike key (rank numbers) remote e a)
    (table : Registered e) (single : Registered a)
    (size : Channel.canHave e.settings.outboundQueue.toNat = true) (distinct : numbers.Nodup)
    (few : numbers.length < UInt64.size) {i : Input} (finds : i.Finds remote)
    (inside : (e.handle i).numbers key <+: numbers) :
    Alike key (rank numbers) remote (e.handle i)
      (a.run (i.alone? key (rank numbers) e).toList) := by
  -- Numbers that the client has already are translated for good.
  have before : e.numbers key <+: numbers := (numbers_isPrefix_run table [i] key).1.trans inside
  cases i with
  | datagram now o d =>
    simp only [handle] at inside ⊢
    by_cases own : d.source.text = key
    · rw [Input.alone?, if_pos own]
      show Alike _ _ _ _ (a.handle (.datagram now o d))
      simp only [handle, h.running]
      by_cases running : e.running = true
      · rw [if_pos running] at inside ⊢
        rw [if_pos running]
        refine h.handleDatagram own finds size now fun absent dial => ?_
        obtain ⟨more, found⟩ := finds
        subst own
        rw [numbers_of_opened table absent (resolve_eq h.resolved found) size dial] at inside
        exact h.lastId_succ table single distinct inside
      · rw [if_neg running, if_neg running]
        exact h
    · rw [Input.alone?, if_neg own]
      split
      · exact h.handleDatagram_other own finds size now
      · exact h
  | sweep now order =>
    show Alike _ _ _ _ (a.handle (.sweep now (order.filter (· = key))))
    simp only [handle, h.running]
    split
    · exact h.sweep table now order
    · exact h
  | report x =>
    simp only [handle]
    by_cases own : x.key = key
    · rw [Input.alone?, if_pos own]
      show Alike _ _ _ _ (a.handle (.report { x with id := rank numbers x.id }))
      simp only [handle, h.running]
      split
      · refine h.handleReport table own fun s live => ?_
        -- The report may have any number, but that of the session in the table is known.
        have here :=
          id_mem_numbers (mem_everySession_of_session? live) (table.text_of_session? live)
        rw [eq_comm, rank_inj few (before.mem here), eq_comm]
      · exact h
    · rw [Input.alone?, if_neg own]
      split
      · exact h.handleReport_other table own
      · exact h
  | query now => exact h
  | task now place input =>
    cases place with
    | live k =>
      simp only [Input.alone?]
      by_cases own : k = key
      · subst own
        rw [if_pos rfl]
        exact h.stepTask_live table now input
      · rw [if_neg own]
        exact h.stepTask_live_other table own now input
    | removed index =>
      simp only [Input.alone?]
      by_cases own : (e.removed[index]?).any (·.client.text = key) = true
      · rw [if_pos own]
        obtain ⟨s, gone, mine⟩ := (Option.any_eq_true _ _).mp own
        exact h.stepTask_removed gone (of_decide_eq_true mine) now input
      · rw [if_neg own]
        exact h.stepTask_removed_other (Bool.not_eq_true _ ▸ own) now input

theorem run {numbers : List UInt64} (h : Alike key (rank numbers) remote e a)
    (table : Registered e) (single : Registered a)
    (size : Channel.canHave e.settings.outboundQueue.toNat = true) (distinct : numbers.Nodup)
    (few : numbers.length < UInt64.size) {inputs : List Input}
    (finds : ∀ i ∈ inputs, i.Finds remote) (inside : (e.run inputs).numbers key <+: numbers) :
    Alike key (rank numbers) remote (e.run inputs)
      (a.run (alone key (rank numbers) e inputs)) := by
  induction inputs generalizing e a with
  | nil => exact h
  | cons i inputs ih =>
    have table' : Registered (e.run [i]) := run_keeps Registered.move table [i]
    have inside' := (numbers_isPrefix_run table' inputs key).1.trans inside
    have stepped := h.step table single size distinct few (finds i List.mem_cons_self) inside'
    have size' : Channel.canHave (e.run [i]).settings.outboundQueue.toNat = true :=
      settings_run e [i] ▸ size
    rw [alone, Engine.run, Engine.run, List.foldl_append]
    exact ih stepped table' (run_keeps Registered.move single _) size'
      (fun j hj => finds j (List.mem_cons_of_mem _ hj)) inside

end Alike

/-! ## Queues of impossible size -/

/-- The client has seen nothing so far. -/
structure Unseen (key : String) (e : Engine) : Prop where
  dropped : e.dropped = []
  events : e.log.filter (·.isOf key) = []

namespace Unseen

theorem share (h : Unseen key e) (table : Registered e)
    (size : Channel.canHave e.settings.outboundQueue.toNat = false) :
    e.share key = ⟨[], [], [], []⟩ := by
  have removed := (List.append_eq_nil_iff.mp (table.everySession_eq_nil size)).1
  rw [Engine.share, table.table_eq_nil size, removed, h.dropped, h.events]
  rfl

theorem record (h : Unseen key e) {event : Event} (quiet : event.isOf key = false) :
    Unseen key (e.record event) := by
  refine ⟨h.dropped, ?_⟩
  rw [Engine.record, List.filter_append, h.events, List.filter_cons_of_neg (by simp [quiet])]
  rfl

theorem move (m : Move now e e') (table : Registered e)
    (size : Channel.canHave e.settings.outboundQueue.toNat = false) (h : Unseen key e) :
    Unseen key e' := by
  have none := table.everySession_eq_nil size
  have absent {k : String} {s : Session} (live : e.session? k = some s) : False :=
    List.not_mem_nil (none ▸ mem_everySession_of_session? live)
  cases m with
  | received | resolved | reportTaken | stopped => exact ⟨h.dropped, h.events⟩
  | readFailed | stalled =>
    refine record (e := { e with stats := _ }) ?_ rfl
    exact ⟨h.dropped, h.events⟩
  | refused error _ =>
    refine record (e := { e with stats := _, handled := _, refused := _ }) ?_
      (isOf_openFailure ..)
    exact ⟨h.dropped, h.events⟩
  | created _ _ possible => rw [size] at possible; cases possible
  | enqueued live | swept live _ | reported live _ | stepped live _ => exact (absent live).elim
  | drained gone _ =>
    rw [(List.append_eq_nil_iff.mp none).1] at gone
    cases gone

end Unseen

theorem run_unseen (target : String) (settings : Settings) (began : Instant)
    (size : Channel.canHave settings.outboundQueue.toNat = false) (inputs : List Input)
    (key : String) :
    ((start target settings began).run inputs).share key = ⟨[], [], [], []⟩ := by
  obtain ⟨table, same, unseen⟩ := run_keeps
    (P := fun e => Registered e ∧ e.settings = settings ∧ Unseen key e)
    (fun m h => ⟨h.1.move m, (settings_move m).trans h.2.1, h.2.2.move m h.1 (h.2.1 ▸ size)⟩)
    ⟨registered_start target settings began, rfl, rfl, rfl⟩ inputs
  exact unseen.share table (by rw [same]; exact size)

/-! ## The two runs -/

/-- What a client has of an engine with others in it, and of one without. -/
structure Isolated (key : String) (e single : Engine) : Prop where
  settings : single.settings = e.settings
  share : single.share key = (e.share key).renumber (rank (e.numbers key))
  /-- If no queue has the size that the settings ask for, the first session that can be dialled
  ends the manager, whoever it is for, and no datagram is refused from then on. -/
  refused : Channel.canHave e.settings.outboundQueue.toNat = true →
    single.refusedOf key = e.refusedOf key
  order : ∀ m ∈ e.numbers key, ∀ n ∈ e.numbers key, m < n →
    rank (e.numbers key) m < rank (e.numbers key) n

/-- The second run has the inputs about one client only, and its engine knows no other. -/
theorem run_isolated (target : String) (settings : Settings) (began : Instant) (key : String)
    (remote : Endpoint) (inputs : List Input) (finds : ∀ i ∈ inputs, i.Finds remote)
    (few : ((start target settings began).run inputs).everySession.length < UInt64.size) :
    Isolated key ((start target settings began).run inputs)
      ((start target settings began).run (alone key
        (rank (((start target settings began).run inputs).numbers key))
        (start target settings began) inputs)) := by
  have table := registered_start target settings began
  have increasing : Increasing ((start target settings began).run inputs) :=
    (run_keeps (P := fun e => Registered e ∧ Increasing e)
      (fun m h => ⟨h.1.move m, h.2.move m h.1⟩) ⟨table, fun _ _ => List.Pairwise.nil⟩ inputs).2
  have increasing := increasing few key
  generalize numbers_def : ((start target settings began).run inputs).numbers key = numbers
    at increasing
  have fewer : numbers.length < UInt64.size := by
    refine Nat.lt_of_le_of_lt ?_ few
    rw [← numbers_def]
    exact List.length_filterMap_le ..
  have distinct : numbers.Nodup := increasing.imp fun less same => by
    rw [same] at less
    exact UInt64.lt_irrefl _ less
  have alike (size : Channel.canHave settings.outboundQueue.toNat = true) :
      Alike key (rank numbers) remote ((start target settings began).run inputs)
        ((start target settings began).run
          (alone key (rank numbers) (start target settings began) inputs)) :=
    (alike_start target settings began key _ remote).run table table size distinct fewer finds
      (numbers_def ▸ List.prefix_refl _)
  have same := settings_run (start target settings began)
  refine ⟨(same _).trans (same _).symm, ?_, fun size => ?_, fun m hm n hn less => ?_⟩
  · rw [numbers_def]
    cases size : Channel.canHave settings.outboundQueue.toNat with
    | true => exact (alike size).share
    | false =>
      rw [run_unseen target settings began size, run_unseen target settings began size]
      rfl
  · rw [same] at size
    exact (alike size).refused
  · rw [numbers_def] at hm hn ⊢
    exact rank_lt fewer increasing hm hn less

/-- Two clients. One of them is there again after its session was removed, and its second session
comes third of all. -/
def sharedInputs : List Input :=
  let a : Endpoint := .v4 ⟨10, 0, 0, 1⟩ 4001
  let b : Endpoint := .v4 ⟨10, 0, 0, 2⟩ 4001
  mixedInputs ++
    [.task (.ofMillis 62000) (.removed 1) (.forwarder .take),
     .task (.ofMillis 62000) (.removed 0) (.forwarder .take),
     .task (.ofMillis 62000) (.live b.text) (.forwarder .take),
     .task (.ofMillis 62000) (.live a.text) (.forwarder .take),
     .task (.ofMillis 62000) (.live a.text) (.forwarder (.writeFailed .messageTooLong)),
     .report ⟨a.text, 1, .write⟩,
     .report ⟨a.text, 3, .write⟩]

theorem run_isolated_shared :
    let key := (Endpoint.v4 ⟨10, 0, 0, 1⟩ 4001).text
    let e := (start "example.net:53" {} .zero).run sharedInputs
    let single := (start "example.net:53" {} .zero).run
      (alone key (rank (e.numbers key)) (start "example.net:53" {} .zero) sharedInputs)
    (∀ i ∈ sharedInputs, i.Finds (.v4 ⟨192, 0, 2, 1⟩ 53)) ∧ e.everySession.length < UInt64.size ∧
      Isolated key e single ∧ e.numbers key = [1, 3] ∧
      single.everySession.map (·.id) = [1, 2] := by
  have finds : ∀ i ∈ sharedInputs, i.Finds (.v4 ⟨192, 0, 2, 1⟩ 53) := by
    intro i hi
    simp only [sharedInputs, mixedInputs, List.cons_append, List.nil_append, List.mem_cons,
      List.not_mem_nil, or_false] at hi
    rcases hi with rfl | rfl | rfl | rfl | rfl | rfl | rfl | rfl | rfl | rfl | rfl | rfl | rfl |
      rfl | rfl
    all_goals first | exact ⟨[], rfl⟩ | trivial
  have few : ((start "example.net:53" {} .zero).run sharedInputs).everySession.length <
      UInt64.size := by decide +kernel
  exact ⟨finds, few, run_isolated "example.net:53" {} .zero _ _ sharedInputs finds few,
    by decide +kernel, by decide +kernel⟩

end SocketRelay.Udp.Engine
