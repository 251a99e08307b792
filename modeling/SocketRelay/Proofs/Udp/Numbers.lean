import SocketRelay.Proofs.Udp.SessionTable

/-!
# The numbers of one client's sessions

Numbers are given out over all clients, so one client's sessions have gaps
between theirs. But a client has one session after the other, so its numbers
grow (`Engine.Increasing`), and no removal changes their order
(`Engine.numbers_evict`). Counting them from one closes the gaps and keeps the
order (`rank_lt`).
-/

namespace SocketRelay.Udp

/-- The place of a number in a list, counted from one; zero if it is not there. -/
def rank (numbers : List UInt64) (n : UInt64) : UInt64 :=
  if n ∈ numbers then .ofNat (numbers.idxOf n + 1) else 0

theorem rank_append {before : List UInt64} {n : UInt64} (new : n ∉ before) (after : List UInt64) :
    rank (before ++ n :: after) n = .ofNat (before.length + 1) := by
  have here : n ∈ before ++ n :: after := List.mem_append_right _ List.mem_cons_self
  rw [rank, if_pos here, List.idxOf_append_of_notMem new, List.idxOf_cons_self, Nat.add_zero]

section
variable {numbers : List UInt64} {m n : UInt64}

theorem toNat_rank (few : numbers.length < UInt64.size) (hn : n ∈ numbers) :
    (rank numbers n).toNat = numbers.idxOf n + 1 := by
  have := List.idxOf_lt_length_of_mem hn
  rw [rank, if_pos hn, UInt64.toNat_ofNat_of_lt' (by omega)]

theorem rank_inj (few : numbers.length < UInt64.size) (hn : n ∈ numbers) :
    rank numbers m = rank numbers n ↔ m = n := by
  refine ⟨fun same => ?_, fun same => same ▸ rfl⟩
  have place := toNat_rank few hn
  by_cases hm : m ∈ numbers
  · have other := toNat_rank few hm
    rw [same, place] at other
    exact (List.idxOf_inj hm).mp (by omega)
  · rw [← same, rank, if_neg hm] at place
    cases place

theorem rank_lt (few : numbers.length < UInt64.size) (increasing : numbers.Pairwise (· < ·))
    (hm : m ∈ numbers) (hn : n ∈ numbers) (h : m < n) : rank numbers m < rank numbers n := by
  rw [UInt64.lt_iff_toNat_lt, toNat_rank few hm, toNat_rank few hn, Nat.add_lt_add_iff_right]
  have hi := List.idxOf_lt_length_of_mem hm
  have hj := List.idxOf_lt_length_of_mem hn
  rcases Nat.lt_trichotomy (numbers.idxOf m) (numbers.idxOf n) with before | same | behind
  · exact before
  · rw [(List.idxOf_inj hm).mp same] at h
    exact absurd h (UInt64.lt_irrefl n)
  · have := List.pairwise_iff_getElem.mp increasing _ _ hj hi behind
    rw [List.getElem_idxOf, List.getElem_idxOf] at this
    exact absurd (UInt64.lt_trans h this) (UInt64.lt_irrefl m)

end

/-- The number of a session of this client. -/
def Session.numberFor (key : String) (s : Session) : Option UInt64 :=
  if s.client.text = key then some s.id else none

namespace Engine

variable {e e' : Engine} {now : Instant} {key : String} {s s' : Session}

def numbers (e : Engine) (key : String) : List UInt64 :=
  e.everySession.filterMap (·.numberFor key)

theorem Replaced.filterMap_eq {α : Type} {before after : List Session}
    (h : Replaced s s' before after) {f : Session → Option α} (same : f s' = f s) :
    after.filterMap f = before.filterMap f := by
  obtain ⟨left, right, rfl, rfl⟩ := h
  rw [List.filterMap_append, List.filterMap_append, List.filterMap_cons, List.filterMap_cons, same]

theorem numbers_replaced (every : Replaced s s' e.everySession e'.everySession)
    (id : s'.id = s.id) (client : s'.client = s.client) : e'.numbers key = e.numbers key :=
  every.filterMap_eq (by rw [Session.numberFor, id, client, Session.numberFor])

theorem numbers_create (e : Engine) (now : Instant) (client remote : Net.Endpoint) (key : String) :
    (e.create now client remote).numbers key =
      e.numbers key ++ if client.text = key then [e.lastId + 1] else [] := by
  rw [numbers, everySession_create, List.filterMap_append, ← numbers, List.filterMap_cons,
    List.filterMap_nil]
  unfold Session.numberFor
  by_cases own : client.text = key <;> simp [own, Session.start]

/-- A removed session comes behind its client's older ones, and the table has none of them. -/
theorem numbers_evict (table : Registered e) {k : String} (live : e.session? k = some s)
    (reason : EvictionReason) (key : String) : (e.evict k reason).numbers key = e.numbers key := by
  obtain ⟨before, after, split, joined⟩ := table_evict table.unique live reason
  have others := ne_of_mem_split table.unique split
  have removed : (e.evict k reason).removed = e.removed ++ [s] := by rw [evict_eq live]; rfl
  have named := table.text_of_session? live
  have elsewhere (own : s.client.text = key) :
      (before.map (·.2)).filterMap (·.numberFor key) = [] := by
    refine List.filterMap_eq_nil_iff.mpr fun x hx => if_neg fun here => ?_
    obtain ⟨p, hp, rfl⟩ := List.mem_map.mp hx
    refine others p (List.mem_append_left _ hp) ?_
    rw [table.named p (split ▸ List.mem_append_left _ hp), here, ← own, named]
  simp only [numbers, everySession, joined, removed, split, List.map_append, List.map_cons,
    List.filterMap_append, List.filterMap_cons, List.filterMap_nil, List.append_assoc]
  by_cases own : s.client.text = key
  · rw [elsewhere own]
    simp only [Session.numberFor, own, if_true, List.nil_append, List.cons_append]
  · simp only [Session.numberFor, own, if_false, List.nil_append]

/-- One more session, or as many as before. -/
inductive Grown (key : String) (e e' : Engine) : Prop where
  | same (numbers : e'.numbers key = e.numbers key)
    (length : e.everySession.length ≤ e'.everySession.length)
  | one (numbers : e'.numbers key = e.numbers key ++ [e.lastId + 1])
    (length : e'.everySession.length = e.everySession.length + 1)

theorem grown_of_move (m : Move now e e') (table : Registered e) (key : String) :
    Grown key e e' := by
  have unchanged {e' : Engine} (every : e'.everySession = e.everySession) : Grown key e e' :=
    .same (by rw [numbers, every, numbers]) (Nat.le_of_eq (congrArg _ every.symm))
  have replaced {e' : Engine} {s s' : Session}
      (every : Replaced s s' e.everySession e'.everySession) (id : s'.id = s.id)
      (client : s'.client = s.client) : Grown key e e' :=
    .same (numbers_replaced every id client)
      (Nat.le_of_eq (by simpa using congrArg List.length (every.map_eq (f := (·.id)) id).symm))
  have evicted {k : String} {s : Session} (live : e.session? k = some s) (reason : EvictionReason) :
      Grown key e (e.evict k reason) :=
    .same (numbers_evict table live reason key)
      (Nat.le_of_eq (everySession_evict table.unique live reason).length_eq.symm)
  cases m with
  | received | readFailed | stalled | resolved | refused | reportTaken => exact unchanged rfl
  | stopped size => exact unchanged (everySession_stop e)
  | @created client remote absent known size =>
    have length : (e.create now client remote).everySession.length =
        e.everySession.length + 1 := by
      rw [everySession_create, List.length_append, List.length_singleton]
    have more := e.numbers_create now client remote key
    split at more
    · exact .one more length
    · rw [List.append_nil] at more
      exact .same more (by omega)
  | enqueued live => exact replaced (everySession_enqueue now _ table.unique live) rfl rfl
  | swept live idle => exact evicted live _
  | reported live same => exact evicted live _
  | @stepped k s s' input effect live step =>
    obtain ⟨id, client, -⟩ := stepSession_identity step
    refine replaced ?_ id client
    rw [everySession_apply]
    exact everySession_update table.unique live fun _ => s'
  | @drained index s s' input effect gone step =>
    obtain ⟨id, client, -⟩ := stepSession_identity step
    refine replaced ?_ id client
    rw [everySession_apply]
    exact everySession_set gone s'

theorem id_mem_numbers (hs : s ∈ e.everySession) (own : s.client.text = key) :
    s.id ∈ e.numbers key :=
  List.mem_filterMap.mpr ⟨s, hs, if_pos own⟩

theorem exists_of_mem_numbers {n : UInt64} (h : n ∈ e.numbers key) :
    ∃ s ∈ e.everySession, s.client.text = key ∧ s.id = n := by
  obtain ⟨s, hs, eq⟩ := List.mem_filterMap.mp h
  unfold Session.numberFor at eq
  split at eq
  · next own => exact ⟨s, hs, own, Option.some.inj eq⟩
  · cases eq

/-- The numbers of a client grow as long as numbers do not run out. -/
def Increasing (e : Engine) : Prop :=
  e.everySession.length < UInt64.size → ∀ key, (e.numbers key).Pairwise (· < ·)

theorem Increasing.move (m : Move now e e') (table : Registered e) (h : Increasing e) :
    Increasing e' := by
  intro few key
  obtain ⟨numbers, length⟩ | ⟨numbers, length⟩ := grown_of_move m table key
  · rw [numbers]
    exact h (Nat.lt_of_le_of_lt length few) key
  · have few' : e.everySession.length + 1 < UInt64.size := length ▸ few
    rw [numbers, List.pairwise_append]
    refine ⟨h (by omega) key, List.pairwise_singleton .., fun m hm n hn => ?_⟩
    obtain ⟨s, hs, -, rfl⟩ := exists_of_mem_numbers hm
    have last := (table.id_range_of_few (by omega) hs).2
    rw [List.mem_singleton.mp hn, UInt64.lt_iff_toNat_lt]
    have next : (e.lastId + 1).toNat = e.lastId.toNat + 1 := by
      rw [table.last, show UInt64.ofNat e.everySession.length + 1 =
        UInt64.ofNat (e.everySession.length + 1) from (UInt64.ofNat_add ..).symm,
        UInt64.toNat_ofNat_of_lt' few', UInt64.toNat_ofNat_of_lt' (by omega)]
    omega

/-- Numbers are only added, at the end. -/
theorem numbers_isPrefix_run (table : Registered e) (inputs : List Input) (key : String) :
    e.numbers key <+: (e.run inputs).numbers key ∧
      e.everySession.length ≤ (e.run inputs).everySession.length := by
  refine (run_keeps (P := fun e' => Registered e' ∧ e.numbers key <+: e'.numbers key ∧
    e.everySession.length ≤ e'.everySession.length) (fun m h => ⟨h.1.move m, ?_⟩)
    ⟨table, List.prefix_refl _, Nat.le_refl _⟩ inputs).2
  obtain ⟨numbers, length⟩ | ⟨numbers, length⟩ := grown_of_move m h.1 key
  · rw [numbers]
    exact ⟨h.2.1, Nat.le_trans h.2.2 length⟩
  · rw [numbers]
    exact ⟨h.2.1.trans (List.prefix_append ..), by omega⟩

end Engine

end SocketRelay.Udp
