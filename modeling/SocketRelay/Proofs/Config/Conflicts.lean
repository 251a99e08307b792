import SocketRelay.Proofs.Config.Admission
import Mathlib.Data.Finset.Card
import Mathlib.Data.Finset.SDiff
import Mathlib.Data.List.Dedup

/-!
# Listeners claimed twice

A route conflicts with the nearest route before it that asks for the same socket
(`Config.Conflict`). The routes that were gone through are kept with the last one in
front, so the first of them that fits is the nearest (`Config.find?_nearest`). The
conflicts that are reported are these, in the order of the routes
(`Config.exists_conflicts`); each is a route whose socket was there before, so they
are as many as there are routes less sockets (`Config.length_conflictsFrom`). Main
statement: `Config.portConflicts_exact`.
-/

namespace SocketRelay

open Net

def Route.socket (r : Route) : Protocol × IpAddress × UInt16 :=
  (r.protocol, r.bindAddress, r.localPort)

namespace Config

theorem sameListener_iff_socket {a b : Route} : sameListener a b = true ↔ a.socket = b.socket := by
  rw [sameListener_iff, Route.socket, Route.socket, Prod.mk.injEq, Prod.mk.injEq]

def sockets (routes : List Route) : List (Protocol × IpAddress × UInt16) :=
  (routes.filter fun r => r.localPort ≠ 0).map Route.socket

/-- The route `r` at index `i` asks for the socket of a route before it. The nearest such is at
index `j`. -/
structure Conflict (routes : List Route) (i j : Nat) (r : Route) : Prop where
  here : routes[i]? = some r
  named : r.localPort ≠ 0
  before : j < i
  same : ∃ other, routes[j]? = some other ∧ other.socket = r.socket
  between : ∀ k other, j < k → k < i → routes[k]? = some other → other.socket ≠ r.socket

variable {routes done rest : List Route} {r : Route} {i j : Nat}

/-! ## The nearest route -/

theorem getElem?_concat_eq_some {k : Nat} {other : Route} :
    (done ++ [r])[k]? = some other ↔ done[k]? = some other ∨ k = done.length ∧ r = other := by
  rcases Nat.lt_trichotomy k done.length with lt | rfl | gt
  · rw [List.getElem?_append_left lt]
    exact (or_iff_left fun last => Nat.ne_of_lt lt last.1).symm
  · rw [List.getElem?_concat_length, List.getElem?_eq_none (Nat.le_refl _), Option.some.injEq]
    exact ⟨fun same => .inr ⟨rfl, same⟩, fun h => h.elim nofun And.right⟩
  · have short : (done ++ [r]).length ≤ k := by rw [List.length_append]; exact gt
    rw [List.getElem?_eq_none short, List.getElem?_eq_none (Nat.le_of_lt gt)]
    exact iff_of_false nofun fun h => h.elim nofun fun last => Nat.ne_of_gt gt last.1

theorem lt_length_of_getElem? {k : Nat} {other : Route} (at? : done[k]? = some other) :
    k < done.length := (List.getElem?_eq_some_iff.mp at?).1

theorem reverse_zipIdx_concat (done : List Route) (r : Route) :
    (done ++ [r]).zipIdx.reverse = (r, done.length) :: done.zipIdx.reverse := by
  rw [List.zipIdx_append, List.reverse_append, Nat.zero_add]
  rfl

/-- The first that fits from the back is the last that fits. -/
theorem find?_nearest (p : Route → Bool) (done : List Route) (j : Nat) :
    (∃ other, done.zipIdx.reverse.find? (fun x => p x.1) = some (other, j)) ↔
      (∃ other, done[j]? = some other ∧ p other = true) ∧
        ∀ k other, j < k → done[k]? = some other → p other = false := by
  induction done using List.reverseRecOn with
  | nil => simp
  | append_singleton done r ih =>
    rw [reverse_zipIdx_concat, List.find?_cons]
    dsimp only
    simp only [getElem?_concat_eq_some]
    cases fits : p r with
    | true =>
      constructor
      · rintro ⟨other, same⟩
        cases same
        refine ⟨⟨r, .inr ⟨rfl, rfl⟩, fits⟩, fun k other after at? => ?_⟩
        have := at?.imp_left lt_length_of_getElem?
        omega
      · rintro ⟨⟨other, at?, -⟩, between⟩
        rcases at? with at? | ⟨rfl, rfl⟩
        · have := between done.length r (lt_length_of_getElem? at?) (.inr ⟨rfl, rfl⟩)
          rw [fits] at this
          cases this
        · exact ⟨r, rfl⟩
    | false =>
      rw [ih]
      constructor
      · rintro ⟨⟨other, at?, found⟩, between⟩
        refine ⟨⟨other, .inl at?, found⟩, fun k other after at? => ?_⟩
        rcases at? with at? | ⟨-, rfl⟩
        · exact between k other after at?
        · exact fits
      · rintro ⟨⟨other, at?, found⟩, between⟩
        rcases at? with at? | ⟨-, rfl⟩
        · exact ⟨⟨other, at?, found⟩, fun k other after at? => between k other after (.inl at?)⟩
        · rw [fits] at found
          cases found

theorem getElem?_next : (done ++ r :: rest)[done.length]? = some r := by
  rw [List.getElem?_append_right (Nat.le_refl _), Nat.sub_self, List.getElem?_cons_zero]

/-- The conflict of the route after those that were gone through. -/
theorem conflict_at : Conflict (done ++ r :: rest) done.length j r ↔ r.localPort ≠ 0 ∧
    ∃ other, done.zipIdx.reverse.find? (fun x => sameListener x.1 r) = some (other, j) := by
  have earlier {k : Nat} (lt : k < done.length) : (done ++ r :: rest)[k]? = done[k]? :=
    List.getElem?_append_left lt
  rw [find?_nearest (sameListener · r)]
  constructor
  · rintro ⟨-, named, before, ⟨other, at?, same⟩, between⟩
    refine ⟨named, ⟨other, earlier before ▸ at?, sameListener_iff_socket.mpr same⟩,
      fun k other after at? => ?_⟩
    have lt := lt_length_of_getElem? at?
    exact Bool.eq_false_iff.mpr fun same =>
      between k other after lt ((earlier lt).trans at?) (sameListener_iff_socket.mp same)
  · rintro ⟨named, ⟨other, at?, same⟩, between⟩
    have before := lt_length_of_getElem? at?
    refine ⟨getElem?_next, named, before,
      ⟨other, (earlier before).trans at?, sameListener_iff_socket.mp same⟩,
      fun k other after lt at? same => ?_⟩
    have := between k other after (earlier lt ▸ at?)
    rw [sameListener_iff_socket.mpr same] at this
    cases this

theorem Conflict.unique {j' : Nat} {r' : Route} (h : Conflict routes i j r)
    (h' : Conflict routes i j' r') : j = j' ∧ r = r' := by
  have route : r = r' := Option.some.inj (h.here.symm.trans h'.here)
  obtain ⟨other, at?, same⟩ := h.same
  obtain ⟨other', at?', same'⟩ := h'.same
  rcases Nat.lt_trichotomy j j' with lt | eq | gt
  · exact absurd (route ▸ same') (h.between j' other' lt h'.before at?')
  · exact ⟨eq, route⟩
  · exact absurd (route ▸ same) (h'.between j other gt h.before at?)

/-- A route conflicts with some route as soon as one before it has its socket. -/
theorem exists_conflict_iff : (∃ j, Conflict routes i j r) ↔
    routes[i]? = some r ∧ r.localPort ≠ 0 ∧
      ∃ j other, j < i ∧ routes[j]? = some other ∧ other.socket = r.socket := by
  constructor
  · rintro ⟨j, here, named, before, ⟨other, at?, same⟩, -⟩
    exact ⟨here, named, j, other, before, at?, same⟩
  · rintro ⟨here, named, j, other, before, at?, same⟩
    obtain ⟨inside, rfl⟩ := List.getElem?_eq_some_iff.mp here
    have split : routes = routes.take i ++ routes[i] :: routes.drop (i + 1) := by
      rw [List.cons_getElem_drop_succ, List.take_append_drop]
    have length : (routes.take i).length = i := List.length_take_of_le (Nat.le_of_lt inside)
    have seen : (other, j) ∈ (routes.take i).zipIdx.reverse := by
      rw [List.mem_reverse, List.mem_zipIdx_iff_getElem?, List.getElem?_take_of_lt before]
      exact at?
    cases found : (routes.take i).zipIdx.reverse.find? (fun x => sameListener x.1 routes[i]) with
    | none =>
      exact absurd (sameListener_iff_socket.mpr same) (List.find?_eq_none.mp found _ seen)
    | some x =>
      have conflict : Conflict (routes.take i ++ routes[i] :: routes.drop (i + 1))
          (routes.take i).length x.2 routes[i] := conflict_at.mpr ⟨named, x.1, found⟩
      rw [← split, length] at conflict
      exact ⟨x.2, conflict⟩

/-! ## Reports -/

/-- The next route is reported with its conflict, if it has one. -/
theorem conflictsFrom_next (done rest : List Route) (r : Route) :
    let after := conflictsFrom (done ++ [r]).length (done ++ [r]).zipIdx.reverse rest
    (∃ j, Conflict (done ++ r :: rest) done.length j r ∧
      conflictsFrom done.length done.zipIdx.reverse (r :: rest) =
        conflict r done.length j :: after) ∨
    (∀ j, ¬ Conflict (done ++ r :: rest) done.length j r) ∧
      conflictsFrom done.length done.zipIdx.reverse (r :: rest) = after := by
  rw [reverse_zipIdx_concat, List.length_append, List.length_singleton]
  simp only [conflict_at, conflictsFrom]
  split
  · next any => exact .inr ⟨fun j h => h.1 any, rfl⟩
  · next named =>
    split
    · next other j found => exact .inl ⟨j, ⟨named, other, found⟩, rfl⟩
    · next none =>
      refine .inr ⟨?_, rfl⟩
      rintro j ⟨-, other, found⟩
      rw [none] at found
      cases found

/-- The conflicts of the routes that are left, in their order. -/
theorem exists_conflicts (done rest : List Route) : ∃ found : List (Nat × Nat × Route),
    found.Pairwise (fun x y => x.1 < y.1) ∧
    (∀ i j r, (i, j, r) ∈ found ↔ done.length ≤ i ∧ Conflict (done ++ rest) i j r) ∧
    conflictsFrom done.length done.zipIdx.reverse rest =
      found.map fun x => conflict x.2.2 x.1 x.2.1 := by
  induction rest generalizing done with
  | nil =>
    refine ⟨[], .nil, fun i j r => iff_of_false List.not_mem_nil fun ⟨late, conflict⟩ => ?_, rfl⟩
    have := lt_length_of_getElem? conflict.here
    rw [List.append_nil] at this
    omega
  | cons r rest ih =>
    obtain ⟨found, ordered, exact, reported⟩ := ih (done ++ [r])
    rw [List.append_assoc, List.singleton_append, List.length_append,
      List.length_singleton] at exact
    rcases conflictsFrom_next done rest r with ⟨j, conflict, eq⟩ | ⟨none, eq⟩
    · refine ⟨(done.length, j, r) :: found, .cons (fun x hx => ?_) ordered, fun i j' r' => ?_, ?_⟩
      · exact ((exact _ _ _).mp hx).1
      · rw [List.mem_cons, exact]
        constructor
        · rintro (same | ⟨late, conflict'⟩)
          · cases same
            exact ⟨Nat.le_refl _, conflict⟩
          · exact ⟨Nat.le_of_succ_le late, conflict'⟩
        · rintro ⟨late, conflict'⟩
          rcases Nat.eq_or_lt_of_le late with rfl | late
          · obtain ⟨rfl, rfl⟩ := conflict.unique conflict'
            exact .inl rfl
          · exact .inr ⟨late, conflict'⟩
      · rw [eq, reported]
        rfl
    · refine ⟨found, ordered, fun i j r' => ?_, eq.trans reported⟩
      rw [exact]
      refine ⟨fun ⟨late, conflict⟩ => ⟨Nat.le_of_succ_le late, conflict⟩,
        fun ⟨late, conflict⟩ => ?_⟩
      rcases Nat.eq_or_lt_of_le late with rfl | late
      · have same : r = r' := Option.some.inj (getElem?_next.symm.trans conflict.here)
        exact absurd (same ▸ conflict) (none j)
      · exact ⟨late, conflict⟩

/-! ## How many -/

theorem sockets_cons_of_any (any : r.localPort = 0) : sockets (r :: rest) = sockets rest := by
  rw [sockets, List.filter_cons_of_neg (by simpa using any), sockets]

theorem sockets_cons_of_named (named : r.localPort ≠ 0) :
    sockets (r :: rest) = r.socket :: sockets rest := by
  rw [sockets, List.filter_cons_of_pos (by simpa using named), List.map_cons, sockets]

theorem port_of_mem_sockets {x : Protocol × IpAddress × UInt16} (h : x ∈ sockets routes) :
    x.2.2 ≠ 0 := by
  obtain ⟨r, mem, rfl⟩ := List.mem_map.mp h
  exact of_decide_eq_true (List.mem_filter.mp mem).2

/-- The routes that are not reported bring the sockets that were not there before. -/
theorem length_conflictsFrom (index : Nat) (seen : List (Route × Nat)) (rest : List Route) :
    (conflictsFrom index seen rest).length +
        ((sockets rest).toFinset \ (seen.map (·.1.socket)).toFinset).card =
      (sockets rest).length := by
  induction rest generalizing index seen with
  | nil => simp [conflictsFrom, sockets]
  | cons r rest ih =>
    have after := ih (index + 1) ((r, index) :: seen)
    rw [List.map_cons, List.toFinset_cons] at after
    dsimp only at after
    rw [conflictsFrom, List.length_append]
    by_cases any : r.localPort = 0
    · have new : r.socket ∉ (sockets rest).toFinset := fun mem =>
        port_of_mem_sockets (List.mem_toFinset.mp mem) any
      rw [Finset.sdiff_insert_of_notMem new] at after
      rw [if_pos any, sockets_cons_of_any any, List.length_nil, Nat.zero_add, after]
    · rw [if_neg any, sockets_cons_of_named any, List.toFinset_cons, List.length_cons, ← after]
      cases found : seen.find? (fun x => sameListener x.1 r) with
      | some x =>
        have same : sameListener x.1 r = true :=
          List.find?_some (p := fun x : Route × Nat => sameListener x.1 r) found
        have known : r.socket ∈ (seen.map (·.1.socket)).toFinset :=
          List.mem_toFinset.mpr (List.mem_map.mpr
            ⟨x, List.mem_of_find?_eq_some found, sameListener_iff_socket.mp same⟩)
        rw [Finset.insert_sdiff_of_mem _ known, Finset.insert_eq_of_mem known,
          List.length_singleton]
        omega
      | none =>
        have new : r.socket ∉ (seen.map (·.1.socket)).toFinset := fun mem => by
          obtain ⟨x, hx, same⟩ := List.mem_map.mp (List.mem_toFinset.mp mem)
          exact List.find?_eq_none.mp found x hx (sameListener_iff_socket.mpr same)
        have more (known others : Finset (Protocol × IpAddress × UInt16)) (new : r.socket ∉ known) :
            insert r.socket others \ known = insert r.socket (others \ insert r.socket known) := by
          grind
        rw [more _ _ new, Finset.card_insert_of_notMem (by simp), List.length_nil]
        omega

/-! ## All routes -/

theorem isError_conflict (r : Route) (i j : Nat) : (conflict r i j).isError = true := rfl

theorem nodup_sockets_iff : (sockets routes).Nodup ↔ routes.Pairwise fun a b => ¬ a.Clashes b := by
  rw [List.Nodup, sockets, List.pairwise_map, List.pairwise_filter]
  refine List.Pairwise.iff fun a b => ?_
  rw [decide_eq_true_iff, decide_eq_true_iff, Route.Clashes, ← sameListener_iff,
    sameListener_iff_socket]
  refine ⟨fun distinct ⟨named, same⟩ => ?_, fun apart _ named same => apart ⟨named, same⟩⟩
  have port : a.localPort = b.localPort := congrArg (·.2.2) same
  exact distinct (port ▸ named) named same

/-- Which conflicts are reported, and how many. -/
theorem portConflicts_exact (c : Config) :
    (∃ found : List (Nat × Nat × Route),
      found.Pairwise (fun x y => x.1 < y.1) ∧
      (∀ i j r, (i, j, r) ∈ found ↔ Conflict c.routes i j r) ∧
      (portConflicts c).issues = found.map fun (i, j, r) =>
        ⟨s!"routes[{i}].local_port",
          s!"{r.protocol} port {r.localPort} conflicts with routes[{j}]", .error⟩) ∧
    (∀ i r, (∃ j, Conflict c.routes i j r) ↔ c.routes[i]? = some r ∧ r.localPort ≠ 0 ∧
      ∃ j other, j < i ∧ c.routes[j]? = some other ∧ other.socket = r.socket) ∧
    ((portConflicts c).isValid = true ↔ (sockets c.routes).Nodup) ∧
    (portConflicts c).errors.length + (sockets c.routes).toFinset.card =
      (sockets c.routes).length := by
  obtain ⟨found, ordered, exact, reported⟩ := exists_conflicts [] c.routes
  have issues : (portConflicts c).issues = found.map fun x => conflict x.2.2 x.1 x.2.1 := reported
  refine ⟨⟨found, ordered, fun i j r => ?_, ?_⟩, fun i r => exists_conflict_iff, ?_, ?_⟩
  · rw [exact]
    exact and_iff_right (Nat.zero_le i)
  · rw [issues]
    refine List.map_congr_left fun x _ => ?_
    rw [conflict, routeField, String.append_assoc]
    rfl
  · rw [isValid_iff, portConflicts, harmless_conflictsFrom, nodup_sockets_iff]
    exact and_iff_right fun _ _ _ mem => absurd mem List.not_mem_nil
  · have all : (portConflicts c).errors = (portConflicts c).issues := by
      refine List.filter_eq_self.mpr fun issue mem => ?_
      rw [issues] at mem
      obtain ⟨x, -, rfl⟩ := List.mem_map.mp mem
      exact isError_conflict _ _ _
    have count := length_conflictsFrom 0 [] c.routes
    rw [List.map_nil, List.toFinset_nil, Finset.sdiff_empty] at count
    rw [all]
    exact count

end Config

end SocketRelay
