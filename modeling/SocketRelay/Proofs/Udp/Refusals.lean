import SocketRelay.Proofs.Udp.Resolution

/-!
# Sessions that cannot be opened

A datagram whose session cannot be opened changes what is told of the past, and
perhaps the address of the target (`Engine.handleDatagram_of_fails`). What an
engine does depends on neither the datagrams that it handled and refused, nor the
log, nor the number of refusals (`Engine.run_retells`), so that it goes on as if
such a datagram had never come. Once the address is known, lookups do not matter
any more (`Engine.run_withoutLookup`).
-/

namespace SocketRelay.Udp.Engine

open Net

variable {e e' : Engine} {now : Instant} {o : Opening} {d : Datagram}

/-! ## Openings that fail -/

/-- The opening of a session for this client fails. The engine then knows this address, and logs
this event. -/
inductive OpeningFails (e : Engine) (o : Opening) (client : Endpoint) :
    Option Endpoint → Event → Prop where
  | notLookedUp {cause : IoError} (unknown : e.resolved = none) (failed : o.lookup = .error cause) :
    OpeningFails e o client none
      (.targetResolveFailed e.target (Error.resolve e.target cause).message)
  | notFound (unknown : e.resolved = none) (empty : o.lookup = .ok []) :
    OpeningFails e o client none (.targetResolveFailed e.target (Error.noAddress e.target).message)
  /-- The address was just found. -/
  | notDialed {remote : Endpoint} {others : List Endpoint} {cause : IoError}
    (unknown : e.resolved = none) (found : o.lookup = .ok (remote :: others))
    (failed : o.dial = .error cause) :
    OpeningFails e o client (some remote)
      (.sessionDialFailed client e.target (Error.dial e.target cause).message)
  /-- The address was found before. -/
  | notDialedAgain {remote : Endpoint} {cause : IoError} (known : e.resolved = some remote)
    (failed : o.dial = .error cause) :
    OpeningFails e o client (some remote)
      (.sessionDialFailed client e.target (Error.dial e.target cause).message)

theorem OpeningFails.of_error {client : Endpoint} {error : Error}
    (failed : (e.openSession now o client).1 = .error error) :
    ∃ known event, OpeningFails e o client known event := by
  unfold openSession resolve at failed
  have opened {p : Prop} [Decidable p] {a b : Engine} :
      ¬ (if p then ((.ok () : Except Error Unit), a) else (.ok (), b)).1 = .error error := by
    split <;> exact fun failed => nomatch failed
  cases resolved : e.resolved with
  | some remote =>
    cases dial : o.dial with
    | error cause => exact ⟨_, _, .notDialedAgain resolved dial⟩
    | ok _ =>
      simp only [resolved, dial] at failed
      exact absurd failed opened
  | none =>
    cases lookup : o.lookup with
    | error cause => exact ⟨_, _, .notLookedUp resolved lookup⟩
    | ok found =>
      cases found with
      | nil => exact ⟨_, _, .notFound resolved lookup⟩
      | cons remote others =>
        cases dial : o.dial with
        | error cause => exact ⟨_, _, .notDialed resolved lookup dial⟩
        | ok _ =>
          simp only [resolved, lookup, dial] at failed
          exact absurd failed opened

theorem handleDatagram_of_fails {known : Option Endpoint} {event : Event}
    (absent : e.session? d.source.text = none) (fails : OpeningFails e o d.source known event) :
    e.handleDatagram now o d =
      { e with
        resolved := known
        handled := e.handled ++ [(now, d)]
        refused := e.refused ++ [d]
        stats.dialFailures := e.stats.dialFailures + 1
        log := e.log ++ [event] } := by
  cases fails with
  | notLookedUp unknown failed =>
    simp only [handleDatagram, absent, openSession, resolve, unknown, failed]
    rw [← unknown]
    rfl
  | notFound unknown empty =>
    simp only [handleDatagram, absent, openSession, resolve, unknown, empty]
    rw [← unknown]
    rfl
  | notDialed unknown found failed =>
    simp only [handleDatagram, absent, openSession, resolve, unknown, found, failed]
    rfl
  | notDialedAgain known failed =>
    simp only [handleDatagram, absent, openSession, resolve, known, failed]
    rfl

/-! ## What is told of the past -/

/-- What an engine tells of the past and never looks at. -/
structure Past where
  handled : List (Instant × Datagram) := []
  refused : List Datagram := []
  log : List Event := []
  dialFailures : UInt64 := 0

namespace Past

def add (p q : Past) : Past where
  handled := p.handled ++ q.handled
  refused := p.refused ++ q.refused
  log := p.log ++ q.log
  dialFailures := p.dialFailures + q.dialFailures

@[simp] theorem add_empty (p : Past) : p.add {} = p := by simp [add]

theorem add_assoc (p q r : Past) : (p.add q).add r = p.add (q.add r) := by
  simp [add, UInt64.add_assoc]

end Past

def past (e : Engine) : Past := ⟨e.handled, e.refused, e.log, e.stats.dialFailures⟩

def retell (e : Engine) (p : Past) : Engine :=
  { e with
    handled := p.handled
    refused := p.refused
    log := p.log
    stats.dialFailures := p.dialFailures }

section
variable (e : Engine) (p : Past)

@[simp] theorem running_retell : (e.retell p).running = e.running := rfl

@[simp] theorem settings_retell : (e.retell p).settings = e.settings := rfl

@[simp] theorem session?_retell (key : String) :
    (e.retell p).session? key = e.session? key := rfl

@[simp] theorem resolve_retell (lookup : Except IoError (List Endpoint)) :
    (e.retell p).resolve lookup = e.resolve lookup := rfl

@[simp] theorem stepSession_retell (now : Instant) (s : Session) (isOpen : Bool)
    (input : TaskInput) :
    (e.retell p).stepSession now s isOpen input = e.stepSession now s isOpen input := rfl

end

/-- Here `f` adds to the past, and else does the same whatever the past is. -/
def Retells (f : Engine → Engine) (e : Engine) : Prop :=
  ∃ more, ∀ p, f (e.retell p) = (f e).retell (p.add more)

namespace Retells

variable {f g : Engine → Engine}

theorem of_same (same : ∀ p, f (e.retell p) = (f e).retell p) : Retells f e :=
  ⟨{}, fun p => by rw [same, Past.add_empty]⟩

theorem congr (h : Retells g e) (same : ∀ p, f (e.retell p) = g (e.retell p)) : Retells f e := by
  obtain ⟨more, h⟩ := h
  have here : f e = g e := same e.past
  exact ⟨more, fun p => by rw [same, h, here]⟩

/-- Here `f` does nothing. -/
theorem of_idle (idle : ∀ p, f (e.retell p) = e.retell p) : Retells f e :=
  congr (of_same (f := id) fun _ => rfl) idle

theorem comp (first : Retells f e) (second : Retells g (f e)) : Retells (fun e => g (f e)) e := by
  obtain ⟨more, first⟩ := first
  obtain ⟨more', second⟩ := second
  exact ⟨more.add more', fun p => by dsimp only; rw [first, second, Past.add_assoc]⟩

theorem record (event : Event) : Retells (·.record event) e :=
  ⟨{ log := [event] }, fun p => by simp [Engine.record, retell, Past.add]⟩

theorem evict (key : String) (reason : EvictionReason) : Retells (·.evict key reason) e := by
  cases live : e.session? key with
  | none => exact of_idle fun p => by simp only [Engine.evict, session?_retell, live]
  | some s =>
    refine (comp (of_same (f := fun e => { e with
      table := e.table.filter (·.1 ≠ key)
      removed := e.removed ++ [s]
      stats.evicted := e.stats.evicted + 1 }) fun _ => rfl)
      (record (.sessionEvicted s.client reason))).congr fun p => ?_
    exact evict_eq (e := e.retell p) live reason

theorem sweep (now : Instant) (order : List String) : Retells (·.sweep now order) e := by
  have all (keys : List String) :
      Retells (fun e => keys.foldl (fun e key => e.evict key .idle) e) e := by
    induction keys generalizing e with
    | nil => exact of_idle fun _ => rfl
    | cons key keys ih => exact comp (evict key .idle) ih
  exact (all (e.idleKeys now order)).congr fun _ => rfl

theorem handleReport (r : Report) : Retells (·.handleReport r) e := by
  cases live : e.session? r.key with
  | none => exact of_idle fun p => by simp only [Engine.handleReport, session?_retell, live]
  | some s =>
    by_cases same : s.id = r.id
    · refine (evict r.key (.failure r.reason)).congr fun p => ?_
      simp only [Engine.handleReport, session?_retell, live, if_pos same]
    · refine of_idle fun p => ?_
      simp only [Engine.handleReport, session?_retell, live, if_neg same]

theorem enqueue (now : Instant) (s : Session) (key : String) (d : Datagram) :
    Retells (·.enqueue now s key d) e := by
  cases room : s.forwarder.offer d.payload with
  | some f =>
    refine ⟨{ handled := [(now, d)] }, fun p => ?_⟩
    dsimp only
    rw [enqueue_of_offer_some room, enqueue_of_offer_some room]
    simp [update, retell, Past.add]
  | none =>
    refine ⟨{ handled := [(now, d)], log := [.datagramDropped d.source] }, fun p => ?_⟩
    dsimp only
    rw [enqueue_of_offer_none room, enqueue_of_offer_none room]
    simp [update, Engine.record, retell, Past.add]

theorem create (now : Instant) (client remote : Endpoint) :
    Retells (·.create now client remote) e :=
  ⟨{ log := [.sessionCreated client (e.lastId + 1) remote] }, fun p => by
    simp [Engine.create, Engine.record, retell, Past.add]⟩

theorem refuse (now : Instant) (d : Datagram) (error : Error) :
    Retells (·.refuse now d error) e :=
  ⟨⟨[(now, d)], [d], [e.openFailure d.source error], 1⟩, fun p => by
    simp [Engine.refuse, Engine.record, retell, Past.add, openFailure]⟩

theorem deliver (now : Instant) (d : Datagram) : Retells (·.deliver now d) e := by
  cases live : e.session? d.source.text with
  | none => exact of_idle fun p => by simp only [Engine.deliver, session?_retell, live]
  | some s =>
    refine (enqueue now s d.source.text d).congr fun p => ?_
    simp only [Engine.deliver, session?_retell, live]

theorem handleDatagram (now : Instant) (o : Opening) (d : Datagram) :
    Retells (·.handleDatagram now o d) e := by
  cases live : e.session? d.source.text with
  | some s =>
    refine (deliver now d).congr fun p => ?_
    simp only [Engine.handleDatagram, session?_retell, live]
  | none =>
    cases found : e.resolve o.lookup with
    | error error =>
      refine (refuse now d error).congr fun p => ?_
      simp only [Engine.handleDatagram, openSession, session?_retell, live, resolve_retell, found]
    | ok remote =>
      have known : Retells (fun e => { e with resolved := some remote }) e := of_same fun _ => rfl
      cases dial : o.dial with
      | error cause =>
        refine (known.comp (refuse now d (.dial e.target cause))).congr fun p => ?_
        simp only [Engine.handleDatagram, openSession, session?_retell, live, resolve_retell, found,
          dial]
        rfl
      | ok _ =>
        by_cases size : Channel.canHave e.settings.outboundQueue.toNat = true
        · refine ((known.comp (create now d.source remote)).comp (deliver now d)).congr fun p => ?_
          simp only [Engine.handleDatagram, openSession, session?_retell, live, resolve_retell,
            found, dial, settings_retell, size, if_true]
        · have stopped : Retells (·.stop) { e with resolved := some remote } := of_same fun _ => rfl
          refine ((known.comp stopped).comp (deliver now d)).congr fun p => ?_
          simp only [Engine.handleDatagram, openSession, session?_retell, live, resolve_retell,
            found, dial, settings_retell, size, Bool.false_eq_true, if_false]

theorem apply (now : Instant) (s : Session) (effect : Effect) : Retells
    (·.apply now s effect) e := by
  cases effect with
  | none | forwarded | replied => exact of_same fun _ => rfl
  | failed reason cause =>
    let lost : List Event :=
      if (e.reports.offer (s.reporter.report reason)).2 = .full then
        [.eventQueueFull s.client reason] else []
    cases cause with
    | none =>
      refine ⟨{ log := lost }, fun p => ?_⟩
      simp only [Engine.apply, fail_eq, retell, Past.add, Option.map_none, Option.toList_none,
        List.append_nil, UInt64.add_zero, lost]
    | some cause =>
      refine ⟨{ log := .sessionIoFailed s.client cause.1 cause.2.message :: lost }, fun p => ?_⟩
      simp only [Engine.apply, fail_eq, retell, Past.add, Option.map_some, Option.toList_some,
        List.append_assoc, List.singleton_append, List.append_nil, UInt64.add_zero, lost]

theorem stepTask (now : Instant) (place : Place) (input : TaskInput) :
    Retells (fun e => (e.stepTask now place input).getD e) e := by
  -- A step of the session that was found, which `put` writes back to its place.
  have step (found : Option Session) (isOpen : Bool) {put : Session → Engine → Engine}
      (kept : ∀ s', Retells (put s') e) :
      Retells (fun e => (found.bind fun s => (e.stepSession now s isOpen input).bind fun next =>
        some ((put next.1 e).apply now s next.2)).getD e) e := by
    cases found with
    | none => exact of_idle fun _ => rfl
    | some s =>
      cases stepped : e.stepSession now s isOpen input with
      | none =>
        refine of_idle fun p => ?_
        simp only [Option.bind_some, stepSession_retell, stepped]
        rfl
      | some next =>
        refine ((kept next.1).comp (apply now s next.2)).congr fun p => ?_
        simp only [Option.bind_some, stepSession_retell, stepped]
        rfl
  cases place with
  | live key =>
    have kept (s' : Session) : Retells (·.update key fun _ => s') e := of_same fun _ => rfl
    exact (step (e.session? key) true kept).congr fun _ => rfl
  | removed index =>
    have kept (s' : Session) : Retells (fun e => { e with removed := e.removed.set index s' }) e :=
      of_same fun _ => rfl
    exact (step e.removed[index]? false kept).congr fun _ => rfl

theorem handle (i : Input) : Retells (·.handle i) e := by
  have guarded {f : Engine → Engine} (h : Retells f e) :
      Retells (fun e => if e.running then f e else e) e := by
    by_cases running : e.running = true
    · exact h.congr fun p => if_pos (running_retell e p ▸ running)
    · exact of_idle fun p => if_neg (running_retell e p ▸ running)
  cases i with
  | datagram now o d => exact guarded (handleDatagram now o d)
  | sweep now order => exact guarded (sweep now order)
  | report r => exact guarded (handleReport r)
  | query now => exact of_idle fun _ => rfl
  | task now place input => exact stepTask now place input

end Retells

theorem run_retells (inputs : List Input) : Retells (·.run inputs) e := by
  induction inputs generalizing e with
  | nil => exact .of_idle fun _ => rfl
  | cons i inputs ih => exact (Retells.handle i).comp ih

/-! ## Once the address is known -/

/-- The same input with a lookup that finds nothing. -/
def Input.withoutLookup : Input → Input
  | .datagram now o d => .datagram now { o with lookup := .ok [] } d
  | i => i

theorem handle_withoutLookup {remote : Endpoint} (known : e.resolved = some remote) (i : Input) :
    e.handle i.withoutLookup = e.handle i := by
  cases i with
  | datagram now o d =>
    have found (lookup : Except IoError (List Endpoint)) : e.resolve lookup = .ok remote := by
      simp only [resolve, known]
    simp only [Input.withoutLookup, handle, handleDatagram, openSession, found]
  | sweep | report | query | task => rfl

theorem resolved_handle_of_known {remote : Endpoint} (known : e.resolved = some remote)
    (i : Input) : (e.handle i).resolved = some remote := by
  have untouched : Untouched e := fun unknown => by rw [known] at unknown; cases unknown
  cases running : e.running with
  | true => rw [resolved_handle untouched running, known, Option.some_or]
  | false => exact (handle_of_stopped running i).2.trans known

theorem run_withoutLookup {remote : Endpoint} (known : e.resolved = some remote)
    (inputs : List Input) :
    (e.run inputs).resolved = some remote ∧
      e.run (inputs.map Input.withoutLookup) = e.run inputs := by
  induction inputs generalizing e with
  | nil => exact ⟨known, rfl⟩
  | cons i inputs ih =>
    obtain ⟨still, same⟩ := ih (resolved_handle_of_known known i)
    refine ⟨still, ?_⟩
    rw [List.map_cons, run, List.foldl_cons, handle_withoutLookup known]
    exact same

/-! ## No trace -/

/-- What a datagram leaves behind if its session could not be opened. -/
structure LeavesNoTrace (e : Engine) (now : Instant) (d : Datagram) (known : Option Endpoint)
    (event : Event) (e' : Engine) : Prop where
  /-- The sessions, their queues and all other counters are as they were. -/
  state : e' = { e with
    resolved := known
    handled := e.handled ++ [(now, d)]
    refused := e.refused ++ [d]
    stats.dialFailures := e.stats.dialFailures + 1
    log := e.log ++ [event] }
  sessions : e'.everySession = e.everySession
  /-- Whatever comes later does the same, and adds the same to the past, as if only the address of
  the target were known. -/
  later : ∀ inputs, ∃ more, ({ e with resolved := known }.run inputs).past = e.past.add more ∧
    e'.run inputs = ({ e with resolved := known }.run inputs).retell (e'.past.add more)

theorem leavesNoTrace {known : Option Endpoint} {event : Event} (running : e.running = true)
    (absent : e.session? d.source.text = none) (fails : OpeningFails e o d.source known event) :
    LeavesNoTrace e now d known event (e.handle (.datagram now o d)) := by
  have state : e.handle (.datagram now o d) = _ :=
    (if_pos running).trans (handleDatagram_of_fails absent fails)
  refine ⟨state, by rw [state]; rfl, fun inputs => ?_⟩
  obtain ⟨more, same⟩ := run_retells (e := { e with resolved := known }) inputs
  refine ⟨more, congrArg past (same e.past), ?_⟩
  rw [← same, state]
  rfl

/-- An opening that fails, for whatever reason, leaves no trace but in the past and in the address
of the target. An address that is known stays, and lookups do not matter then. -/
theorem refusals_leaveNoTrace :
    (∀ (e : Engine) (now : Instant) (o : Opening) (d : Datagram) (error : Error),
      e.running = true → e.session? d.source.text = none →
      (e.openSession now o d.source).1 = .error error →
      ∃ known event, OpeningFails e o d.source known event ∧
        LeavesNoTrace e now d known event (e.handle (.datagram now o d))) ∧
    ∀ (e : Engine) (remote : Endpoint), e.resolved = some remote → ∀ inputs,
      (e.run inputs).resolved = some remote ∧
        e.run (inputs.map Input.withoutLookup) = e.run inputs := by
  refine ⟨fun _ _ _ _ _ running absent failed => ?_, fun _ _ known => run_withoutLookup known⟩
  obtain ⟨known, event, fails⟩ := OpeningFails.of_error failed
  exact ⟨known, event, fails, leavesNoTrace running absent fails⟩

/-- A dial fails after the target was found. The next datagram of the client opens a session with
the address that was found, whatever its own lookup says. -/
theorem refusals_leaveNoTrace_dial :
    let e := start "example.net:53" {} .zero
    let client : Endpoint := .v4 ⟨10, 0, 0, 1⟩ 4001
    let remote : Endpoint := .v4 ⟨192, 0, 2, 1⟩ 53
    let busy : Opening := ⟨.ok [remote], .error .networkUnreachable⟩
    let e' := e.handle (.datagram (.ofMillis 1) busy ⟨client, [1]⟩)
    let again : Input := .datagram (.ofMillis 2) ⟨.ok [client], .ok ()⟩ ⟨client, [2]⟩
    (∃ known event, OpeningFails e busy client known event ∧
      LeavesNoTrace e (.ofMillis 1) ⟨client, [1]⟩ known event e') ∧
    e'.run [again.withoutLookup] = e'.run [again] ∧
    ((e'.run [again]).session? client.text).map (·.remote) = some remote := by
  intro e client remote busy e' again
  have known : e'.resolved = some remote := by decide +kernel
  have running : e.running = true := by decide
  exact ⟨refusals_leaveNoTrace.1 e (.ofMillis 1) busy ⟨client, [1]⟩ _ running rfl rfl,
    (refusals_leaveNoTrace.2 e' remote known [again]).2, by decide +kernel⟩

end SocketRelay.Udp.Engine
