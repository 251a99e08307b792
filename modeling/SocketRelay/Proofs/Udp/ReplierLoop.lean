import SocketRelay.Proofs.Udp.Repliers

/-!
# The loop of a replier

In a turn of its loop a replier meets a reply, which it writes to the client, an error
of its socket, the end of the time for a read, or the removal of its session (`Turn`).
The turns that it goes on after add to what it wrote what it read, and no more
(`Engine.turns_of_goesOn`). The first other turn ends it, with a report if it gives up
(`Engine.turn_of_givesUp`), and what comes after finds nobody
(`Engine.turns_of_ended`). The steps are those of the engine's tasks
(`Engine.stepTask_live`, `Engine.stepTask_removed`). Main statement:
`Engine.replierLoop_exact`.
-/

namespace SocketRelay.Udp

open Net

/-- What a replier meets in one turn of its loop. -/
inductive Turn where
  /-- The remote sent a datagram; writing it to the client ended so. -/
  | reply (p : Payload) (written : Except IoError Unit)
  | readFailed (cause : IoError)
  /-- The remote sent nothing in time, and the client has been silent for `idle`. -/
  | silence (idle : Duration)
  /-- The session is removed. -/
  | shutdown

namespace Turn

def inputs : Turn → List ReplierInput
  | .reply p (.ok ()) => [.heard p, .responded]
  | .reply p (.error cause) => [.heard p, .respondFailed cause]
  | .readFailed cause => [.readFailed cause]
  | .silence idle => [.readDeadline idle]
  | .shutdown => [.shutdown]

/-- What a receive buffer of `size` bytes holds of the reply of a turn. -/
def read (size : UInt64) : Turn → List Payload
  | .reply p _ => [p.truncate size]
  | .readFailed _ | .silence _ | .shutdown => []

/-- The replier goes on after a turn. -/
inductive GoesOn (idleTimeout : Duration) : Turn → Prop where
  | replied (p : Payload) : GoesOn idleTimeout (.reply p (.ok ()))
  | active {idle : Duration} (short : idle < idleTimeout) : GoesOn idleTimeout (.silence idle)

/-- The replier gives up at a turn, for a reason and perhaps because of an error of a socket. -/
inductive GivesUp (idleTimeout : Duration) :
    Turn → FailureReason → Option (SessionOp × IoError) → Prop where
  | read (cause : IoError) :
      GivesUp idleTimeout (.readFailed cause) .read (some (.readReply, cause))
  | respond (p : Payload) (cause : IoError) :
      GivesUp idleTimeout (.reply p (.error cause)) .respond (some (.respond, cause))
  | idle {idle : Duration} (long : ¬ idle < idleTimeout) :
      GivesUp idleTimeout (.silence idle) .remoteIdle none

theorem goesOn_or_ends (idleTimeout : Duration) (t : Turn) :
    t.GoesOn idleTimeout ∨ t = .shutdown ∨ ∃ reason cause, t.GivesUp idleTimeout reason cause := by
  match t with
  | .reply p (.ok ()) => exact .inl (.replied p)
  | .reply p (.error cause) => exact .inr (.inr ⟨_, _, .respond p cause⟩)
  | .readFailed cause => exact .inr (.inr ⟨_, _, .read cause⟩)
  | .silence idle =>
    by_cases short : idle < idleTimeout
    · exact .inl (.active short)
    · exact .inr (.inr ⟨_, _, .idle short⟩)
  | .shutdown => exact .inr (.inl rfl)

/-- Turns up to the first that the replier does not go on after. -/
theorem exists_split (idleTimeout : Duration) (script : List (Instant × Turn)) :
    ∃ before rest, script = before ++ rest ∧ (∀ t ∈ before, t.2.GoesOn idleTimeout) ∧
      (rest = [] ∨ ∃ now t after, rest = (now, t) :: after ∧ ¬ t.GoesOn idleTimeout) := by
  induction script with
  | nil => exact ⟨[], [], rfl, List.forall_mem_nil _, .inl rfl⟩
  | cons t script ih =>
    by_cases on : t.2.GoesOn idleTimeout
    · obtain ⟨before, rest, rfl, all, first⟩ := ih
      exact ⟨t :: before, rest, rfl, List.forall_mem_cons.mpr ⟨on, all⟩, first⟩
    · exact ⟨[], t :: script, rfl, List.forall_mem_nil _, .inr ⟨t.1, t.2, script, rfl, on⟩⟩

end Turn

/-- A session whose replier wrote all that it read. -/
def Session.exchanged (s : Session) (ps : List Payload) : Session :=
  { s with replier := { s.replier with
      heard := s.replier.heard ++ ps
      answered := s.replier.answered ++ ps } }

namespace Engine

/-- The replier of a session meets something. What it cannot take changes nothing. -/
def meet (e : Engine) (now : Instant) (s : Session) (input : ReplierInput) : Engine × Session :=
  match stepSession.replier e s input with
  | some (s', effect) => (e.apply now s effect, s')
  | none => (e, s)

def turn (x : Engine × Session) (t : Instant × Turn) : Engine × Session :=
  t.2.inputs.foldl (fun x input => x.1.meet t.1 x.2 input) x

def turns (x : Engine × Session) (script : List (Instant × Turn)) : Engine × Session :=
  script.foldl turn x

/-- The loop of a session's replier from its start on. -/
def replierLoop (e : Engine) (s : Session) (script : List (Instant × Turn)) : Engine × Session :=
  turns (e, { s with replier := {} }) script

/-- Payloads were written to the client of a session. -/
def answering (e : Engine) (s : Session) (ps : List Payload) : Engine :=
  { e with
    stats.replied := e.stats.replied + UInt64.ofNat ps.length
    delivered := e.delivered ++ ps.map s.delivery }

variable {e : Engine} {s : Session} {now : Instant} {t : Turn}

/-! ## Turns -/

theorem answering_nil (e : Engine) (s : Session) : e.answering s [] = e := by
  simp [answering]

theorem answering_answering (e : Engine) (s : Session) (ps qs : List Payload) :
    (e.answering s ps).answering (s.exchanged ps) qs = e.answering s (ps ++ qs) := by
  simp only [answering, List.length_append, List.map_append, UInt64.ofNat_add, UInt64.add_assoc,
    List.append_assoc]
  rfl

theorem exchanged_nil (s : Session) : s.exchanged [] = s := by
  simp [Session.exchanged]

theorem exchanged_exchanged (s : Session) (ps qs : List Payload) :
    (s.exchanged ps).exchanged qs = s.exchanged (ps ++ qs) := by
  simp only [Session.exchanged, List.append_assoc]

theorem meet_of_step {input : ReplierInput} {r : Replier} {effect : Effect}
    (step : s.replier.step e.settings.maxDatagramSize e.settings.idleTimeout input =
      some (r, effect)) (now : Instant) :
    e.meet now s input = (e.apply now s effect, { s with replier := r }) := by
  rw [meet, stepSession.replier, step]
  rfl

theorem meet_of_ended (ended : s.replier.isAlive = false) (now : Instant) (input : ReplierInput) :
    e.meet now s input = (e, s) := by
  rw [meet, stepSession.replier, Replier.step_eq_none ended]
  rfl

theorem turn_of_goesOn (waiting : s.replier.phase = .waiting)
    (on : t.GoesOn e.settings.idleTimeout) (now : Instant) :
    turn (e, s) (now, t) = (e.answering s (t.read e.settings.maxDatagramSize),
      s.exchanged (t.read e.settings.maxDatagramSize)) := by
  cases on with
  | replied p =>
    obtain ⟨id, client, remote, clock, forwarder, phase, heard, answered⟩ := s
    cases (waiting : phase = .waiting)
    rfl
  | @active idle short =>
    have step : s.replier.step e.settings.maxDatagramSize e.settings.idleTimeout
        (.readDeadline idle) = some (s.replier, .none) := by
      rw [Replier.step, waiting]
      exact if_pos short
    rw [Turn.read, answering_nil, exchanged_nil]
    exact meet_of_step step now

theorem turn_of_shutdown (waiting : s.replier.phase = .waiting) (now : Instant) :
    turn (e, s) (now, .shutdown) =
      (e, { s with replier := { s.replier with phase := .stopped } }) := by
  have step : s.replier.step e.settings.maxDatagramSize e.settings.idleTimeout .shutdown =
      some ({ s.replier with phase := .stopped }, .none) := by
    rw [Replier.step, waiting]
  exact meet_of_step step now

theorem turn_of_givesUp {reason : FailureReason} {cause : Option (SessionOp × IoError)}
    (waiting : s.replier.phase = .waiting)
    (up : t.GivesUp e.settings.idleTimeout reason cause) (now : Instant) :
    turn (e, s) (now, t) = (e.fail now s reason cause,
      { s with replier := { s.replier with
          phase := .failed reason
          heard := s.replier.heard ++ t.read e.settings.maxDatagramSize } }) := by
  cases up with
  | respond p cause =>
    obtain ⟨id, client, remote, clock, forwarder, phase, heard, answered⟩ := s
    cases (waiting : phase = .waiting)
    rfl
  | read cause =>
    have step : s.replier.step e.settings.maxDatagramSize e.settings.idleTimeout
        (.readFailed cause) = some ({ s.replier with phase := .failed .read },
          .failed .read (some (.readReply, cause))) := by
      rw [Replier.step, waiting]
    rw [Turn.read, List.append_nil]
    exact meet_of_step step now
  | @idle idle long =>
    have step : s.replier.step e.settings.maxDatagramSize e.settings.idleTimeout
        (.readDeadline idle) = some ({ s.replier with phase := .failed .remoteIdle },
          .failed .remoteIdle none) := by
      rw [Replier.step, waiting]
      exact if_neg long
    rw [Turn.read, List.append_nil]
    exact meet_of_step step now

theorem turn_of_ended (ended : s.replier.isAlive = false) (t : Instant × Turn) :
    turn (e, s) t = (e, s) := by
  rw [turn]
  induction t.2.inputs with
  | nil => rfl
  | cons input inputs ih => rw [List.foldl_cons, meet_of_ended ended, ih]

/-! ## Loops -/

theorem turns_cons (x : Engine × Session) (t : Instant × Turn) (script : List (Instant × Turn)) :
    turns x (t :: script) = turns (turn x t) script := rfl

theorem turns_of_ended (ended : s.replier.isAlive = false) (script : List (Instant × Turn)) :
    turns (e, s) script = (e, s) := by
  induction script with
  | nil => rfl
  | cons t script ih => rw [turns_cons, turn_of_ended ended, ih]

/-- Turns after which a waiting replier goes on, with turns that follow. -/
theorem turns_of_goesOn {before : List (Instant × Turn)} (waiting : s.replier.phase = .waiting)
    (on : ∀ t ∈ before, t.2.GoesOn e.settings.idleTimeout) (rest : List (Instant × Turn)) :
    turns (e, s) (before ++ rest) =
      turns (e.answering s (before.flatMap (·.2.read e.settings.maxDatagramSize)),
        s.exchanged (before.flatMap (·.2.read e.settings.maxDatagramSize))) rest := by
  induction before generalizing e s with
  | nil => rw [List.flatMap_nil, answering_nil, exchanged_nil, List.nil_append]
  | cons t before ih =>
    obtain ⟨first, others⟩ := List.forall_mem_cons.mp on
    rw [List.cons_append, turns_cons, turn_of_goesOn waiting first t.1]
    refine (ih (e := e.answering s _) (s := s.exchanged _) waiting others).trans ?_
    rw [answering_answering, exchanged_exchanged, List.flatMap_cons]
    rfl

theorem turns_of_shutdown (waiting : s.replier.phase = .waiting) (now : Instant)
    (after : List (Instant × Turn)) : turns (e, s) ((now, .shutdown) :: after) =
      (e, { s with replier := { s.replier with phase := .stopped } }) := by
  rw [turns_cons, turn_of_shutdown waiting, turns_of_ended rfl]

theorem turns_of_givesUp {reason : FailureReason} {cause : Option (SessionOp × IoError)}
    (waiting : s.replier.phase = .waiting)
    (up : t.GivesUp e.settings.idleTimeout reason cause) (now : Instant)
    (after : List (Instant × Turn)) : turns (e, s) ((now, t) :: after) = (e.fail now s reason cause,
      { s with replier := { s.replier with
          phase := .failed reason
          heard := s.replier.heard ++ t.read e.settings.maxDatagramSize } }) := by
  rw [turns_cons, turn_of_givesUp waiting up, turns_of_ended rfl]

/-! ## Steps of the engine -/

/-- What a replier meets, as it is put to the engine, which finds out itself how long the client
has been silent. -/
def taskInput : ReplierInput → TaskInput
  | .heard p => .heard p
  | .readFailed cause => .readFailed cause
  | .readDeadline _ => .readDeadline
  | .responded => .responded
  | .respondFailed cause => .respondFailed cause
  | .shutdown => .shutdown

theorem stepSession_taskInput {input : ReplierInput} {isOpen : Bool}
    (idle : ∀ d, input = .readDeadline d → d = s.clock.idle now)
    (gone : input = .shutdown → isOpen = false) :
    e.stepSession now s isOpen (taskInput input) = stepSession.replier e s input := by
  cases input with
  | heard | readFailed | responded | respondFailed => rfl
  | readDeadline d => rw [idle d rfl]; rfl
  | shutdown => rw [gone rfl]; rfl

theorem apply_update (e : Engine) (now : Instant) (s : Session) (effect : Effect) (key : String)
    (f : Session → Session) :
    (e.update key f).apply now s effect = (e.apply now s effect).update key f := by
  cases effect with
  | none | forwarded | replied => rfl
  | failed reason cause => rw [apply, apply, fail_eq, fail_eq]; rfl

theorem apply_removed (e : Engine) (now : Instant) (s : Session) (effect : Effect)
    (removed : List Session) : { e with removed }.apply now s effect =
      { e.apply now s effect with removed } := by
  cases effect with
  | none | forwarded | replied => rfl
  | failed reason cause => rw [apply, apply, fail_eq, fail_eq]

/-- A session in the table meets what its replier can take, and is put back. -/
theorem stepTask_live {key : String} (live : e.session? key = some s) {input : ReplierInput}
    (idle : ∀ d, input = .readDeadline d → d = s.clock.idle now) (stays : input ≠ .shutdown) :
    e.stepTask now (.live key) (taskInput input) = (stepSession.replier e s input).map fun _ =>
      (e.meet now s input).1.update key fun _ => (e.meet now s input).2 := by
  rw [stepTask, live, Option.bind_eq_bind, Option.bind_some,
    stepSession_taskInput idle fun gone => absurd gone stays, meet]
  cases stepSession.replier e s input with
  | none => rfl
  | some next => exact congrArg some (apply_update ..)

/-- The same for a session that was removed. -/
theorem stepTask_removed {index : Nat} (gone : e.removed[index]? = some s) {input : ReplierInput}
    (idle : ∀ d, input = .readDeadline d → d = s.clock.idle now) :
    e.stepTask now (.removed index) (taskInput input) =
      (stepSession.replier e s input).map fun _ =>
        { (e.meet now s input).1 with removed := e.removed.set index (e.meet now s input).2 } := by
  rw [stepTask, gone, Option.bind_eq_bind, Option.bind_some,
    stepSession_taskInput idle fun _ => rfl, meet]
  cases stepSession.replier e s input with
  | none => rfl
  | some next => exact congrArg some (apply_removed ..)

/-- The loop goes on through turns that let it, and ends with the first other turn. -/
theorem replierLoop_exact (e : Engine) (s : Session) (script : List (Instant × Turn)) :
    ∃ before rest, script = before ++ rest ∧
      (∀ t ∈ before, t.2.GoesOn e.settings.idleTimeout) ∧
      let written := before.flatMap (·.2.read e.settings.maxDatagramSize)
      let replied := e.stats.replied + UInt64.ofNat written.length
      let delivered := e.delivered ++ written.map s.delivery
      (rest = [] ∧ replierLoop e s script =
        ({ e with stats.replied := replied, delivered },
          { s with replier := ⟨.waiting, written, written⟩ })) ∨
      (∃ now after, rest = (now, .shutdown) :: after ∧ replierLoop e s script =
        ({ e with stats.replied := replied, delivered },
          { s with replier := ⟨.stopped, written, written⟩ })) ∨
      ∃ now t after reason cause, rest = (now, t) :: after ∧
        t.GivesUp e.settings.idleTimeout reason cause ∧
        ∃ reports fate, e.reports.offer ⟨s.client.text, s.id, reason⟩ = (reports, fate) ∧
          replierLoop e s script =
            ({ e with
                stats.replied := replied
                stats.overflows := if fate = .full then e.stats.overflows + 1 else e.stats.overflows
                log := e.log ++
                  (cause.map fun (op, c) => Event.sessionIoFailed s.client op c.message).toList ++
                  if fate = .full then [.eventQueueFull s.client reason] else []
                delivered, reports
                raised := e.raised ++ [⟨now, ⟨s.client.text, s.id, reason⟩, fate⟩] },
              { s with replier :=
                  ⟨.failed reason, written ++ t.read e.settings.maxDatagramSize, written⟩ }) := by
  obtain ⟨before, rest, rfl, on, last⟩ := Turn.exists_split e.settings.idleTimeout script
  refine ⟨before, rest, rfl, on, ?_⟩
  rw [replierLoop, turns_of_goesOn rfl on]
  rcases last with rfl | ⟨now, t, after, rfl, ends⟩
  · exact .inl ⟨rfl, rfl⟩
  · have ending := (t.goesOn_or_ends e.settings.idleTimeout).resolve_left ends
    rcases ending with rfl | ⟨reason, cause, up⟩
    · exact .inr (.inl ⟨now, after, rfl, turns_of_shutdown rfl now after⟩)
    · refine .inr (.inr ⟨now, t, after, reason, cause, rfl, up, _, _, rfl, ?_⟩)
      refine (turns_of_givesUp (e := e.answering _ _) rfl up now after).trans ?_
      rw [fail_eq]
      rfl

end Engine

end SocketRelay.Udp
