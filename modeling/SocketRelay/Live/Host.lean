import SocketRelay.Event
import SocketRelay.Live.Sockets
import Std.Async.Timer
import Std.Sync.Notify

/-!
# States that run

A relay that runs is a state that changes by the actions of its model, as the
clock and the sockets bring them. Its loops put actions to the state: at once,
or as soon as the state allows one.
-/

namespace SocketRelay.Live

open SocketRelay.Net
open Std.Async

structure Host (σ : Type) where
  state : IO.Ref σ
  /-- Tells everybody who waits of a change. -/
  changed : Std.Notify
  /-- The events that a state has logged since it last forgot. -/
  events : σ → List Event
  forget : σ → σ
  report : Event → IO Unit

/-- Does the same over and over, as long as it says so. -/
partial def repeatedly (turn : Async Bool) : Async Unit := do
  if ← turn then repeatedly turn

namespace Host

variable {σ : Type}

def start (s : σ) (events : σ → List Event) (forget : σ → σ) (report : Event → IO Unit) :
    IO (Host σ) :=
  return { state := ← IO.mkRef (forget s), changed := ← Std.Notify.new, events, forget, report }

/-- Changes the state if that is possible, and reports what that logged. -/
def act (h : Host σ) (change : Instant → σ → Option σ) : IO (Option σ) := do
  let t ← now
  let next ← h.state.modifyGet fun s =>
    match change t s with
    | some next => (some next, h.forget next)
    | none => (none, s)
  if let some s := next then
    (h.events s).forM h.report
    h.changed.notify
  return next

/-- Changes the state as soon as that is possible, unless it never will be. -/
partial def actSoon (h : Host σ) (change : Instant → σ → Option σ)
    (goesOn : σ → Bool := fun _ => true) : Async (Option σ) := do
  let changed ← h.changed.wait
  match ← h.act change with
  | some next => return next
  | none =>
    if goesOn (← h.state.get) then
      await changed
      h.actSoon change goesOn
    else return none

/-- Waits until the state is such. -/
partial def waitUntil (h : Host σ) (p : σ → Bool) : Async Unit := do
  let changed ← h.changed.wait
  unless p (← h.state.get) do
    await changed
    h.waitUntil p

end Host

end SocketRelay.Live
