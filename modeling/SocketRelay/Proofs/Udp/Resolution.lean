import SocketRelay.Proofs.Udp.ReadLoop

/-!
# The address of the target

An engine looks its target up until a lookup gives an address, and keeps that
address. Before that it has no sessions, so that every datagram asks
(`Engine.Untouched`); hence the address that an engine knows is the first that
its inputs give (`Engine.Untouched.run`).
-/

namespace SocketRelay.Udp.Engine

open Net

variable {e e' : Engine} {now : Instant}

def found? : Except IoError (List Endpoint) → Option Endpoint
  | .ok (remote :: _) => some remote
  | _ => none

def Input.found? : Input → Option Endpoint
  | .datagram _ o _ => Engine.found? o.lookup
  | _ => none

/-- There are no sessions before the address of the target is known. -/
def Untouched (e : Engine) : Prop := e.resolved = none → e.table = []

theorem Untouched.move (m : Move now e e') (h : Untouched e) : Untouched e' := by
  have keys {e₁ : Engine} (same : e₁.resolved = e.resolved) (keys : e₁.keys = e.keys) :
      Untouched e₁ := by
    intro unknown
    have none := h (same ▸ unknown)
    rw [Engine.keys, Engine.keys, none] at keys
    exact List.map_eq_nil_iff.mp keys
  have evicted (key : String) (reason : EvictionReason) : Untouched (e.evict key reason) := by
    intro unknown
    rw [evict_frame (·.resolved) (by intros; rfl)] at unknown
    unfold evict session?
    rw [h unknown]
    exact h unknown
  cases m with
  | received | readFailed | stalled | refused | reportTaken => exact h
  | resolved => intro unknown; cases unknown
  | stopped => exact fun _ => rfl
  | created absent known =>
    intro unknown
    rw [show (e.create now _ _).resolved = e.resolved from rfl, known] at unknown
    cases unknown
  | enqueued live =>
    exact keys (enqueue_frame (·.resolved) (by intros; rfl) _) (keys_enqueue _)
  | swept => exact evicted _ _
  | reported => exact evicted _ _
  | @stepped k s s' input effect live step =>
    refine keys (apply_frame (·.resolved) (by intros; rfl)) ?_
    rw [apply_frame (·.keys) (by intros; rfl), keys_update]
  | drained =>
    exact keys (apply_frame (·.resolved) (by intros; rfl)) (apply_frame (·.keys) (by intros; rfl))

theorem handle_of_stopped (stopped : e.running = false) (i : Input) :
    (e.handle i).running = false ∧ (e.handle i).resolved = e.resolved := by
  cases i with
  | datagram now o d =>
    rw [handle, if_neg (by rw [stopped]; exact Bool.false_ne_true)]
    exact ⟨stopped, rfl⟩
  | sweep | report | query | task =>
    exact ⟨(handle_frame (·.running) (by intros; rfl) fun _ _ _ eq => by cases eq).trans stopped,
      handle_frame (·.resolved) (by intros; rfl) fun _ _ _ eq => by cases eq⟩

theorem run_of_stopped (stopped : e.running = false) (inputs : List Input) :
    (e.run inputs).resolved = e.resolved := by
  induction inputs generalizing e with
  | nil => rfl
  | cons i inputs ih =>
    obtain ⟨running, resolved⟩ := handle_of_stopped stopped i
    exact (ih running).trans resolved

theorem resolved_openSession (e : Engine) (now : Instant) (o : Opening) (client : Endpoint) :
    (e.openSession now o client).2.resolved = e.resolved.or (found? o.lookup) := by
  have kept (e : Engine) (remote : Endpoint) (known : e.resolved = some remote) :
      (if Channel.canHave e.settings.outboundQueue.toNat then
        ((.ok () : Except Error Unit), e.create now client remote)
      else (.ok (), e.stop)).2.resolved = some remote := by
    split <;> exact known
  unfold openSession resolve
  cases known : e.resolved with
  | some remote =>
    cases o.dial with
    | error cause => rfl
    | ok _ => exact kept _ remote rfl
  | none =>
    cases o.lookup with
    | error cause => exact known
    | ok found =>
      cases found with
      | nil => exact known
      | cons remote others =>
        cases o.dial with
        | error cause => rfl
        | ok _ => exact kept _ remote rfl

theorem resolved_deliver (e : Engine) (now : Instant) (d : Datagram) :
    (e.deliver now d).resolved = e.resolved := by
  unfold deliver
  split
  · exact enqueue_frame (·.resolved) (by intros; rfl) _
  · rfl

theorem resolved_handleDatagram (h : Untouched e) (now : Instant) (o : Opening) (d : Datagram) :
    (e.handleDatagram now o d).resolved = e.resolved.or (found? o.lookup) := by
  unfold handleDatagram
  cases live : e.session? d.source.text with
  | some s =>
    cases known : e.resolved with
    | some remote => exact (resolved_deliver e now d).trans known
    | none => rw [session?, h known] at live; cases live
  | none =>
    have opened := resolved_openSession e now o d.source
    dsimp only
    split
    · next eq => rw [resolved_deliver, ← opened, eq]
    · next eq => rw [← opened, eq]; rfl

/-- While the manager is there, only the first address that is found counts. -/
theorem resolved_handle (h : Untouched e) (running : e.running = true) (i : Input) :
    (e.handle i).resolved = e.resolved.or i.found? := by
  cases i with
  | datagram now o d =>
    rw [handle, if_pos running]
    exact resolved_handleDatagram h now o d
  | sweep | report | query | task =>
    rw [handle_frame (·.resolved) (by intros; rfl) fun _ _ _ eq => by cases eq]
    exact Option.or_none.symm

theorem Untouched.run (h : Untouched e) {inputs : List Input} {remote : Endpoint}
    (known : (e.run inputs).resolved = some remote) :
    e.resolved.or (inputs.findSome? (·.found?)) = some remote := by
  induction inputs generalizing e with
  | nil => rw [List.findSome?_nil, Option.or_none]; exact known
  | cons i inputs ih =>
    cases running : e.running with
    | true =>
      obtain ⟨now, moves⟩ := e.handle_moves i
      have later := ih (moves.keeps (fun m => Untouched.move m) h) known
      rw [resolved_handle h running, Option.or_assoc] at later
      rw [← later, List.findSome?_cons]
      cases i.found? <;> rfl
    | false =>
      rw [run_of_stopped running] at known
      rw [known, Option.some_or]

end SocketRelay.Udp.Engine
