import SocketRelay.Config.Loader
import SocketRelay.Proofs.Text.Pieces
import SocketRelay.Proofs.Udp.Settings

/-!
# Configurations that are accepted

Validation accepts the configurations that `Config.Admissible` describes, and no
others (`Config.accepted_iff_admissible`). A validator accepts what it reports
no error about; warnings do not count (`Config.Harmless`). The conflicts of
listeners are found route by route, so what was seen before is part of the
statement about them (`Config.harmless_conflictsFrom`).
-/

namespace SocketRelay

open Net Text

/-- Whether two routes ask for one listener. A route with the port 0 asks for any that is free. -/
def Route.Clashes (a b : Route) : Prop :=
  b.localPort ≠ 0 ∧ a.protocol = b.protocol ∧ a.bindAddress = b.bindAddress ∧
    a.localPort = b.localPort

namespace Config

/-- A configuration that a program can start with. -/
structure Admissible (c : Config) : Prop where
  routes : c.routes ≠ []
  /-- No host is blank. -/
  hosts : ∀ r ∈ c.routes, ∃ ch ∈ r.remoteHost.toList, isBlank ch = false
  ports : ∀ r ∈ c.routes, r.remotePort ≠ 0
  logFile : c.logging.output = .file → ∃ path, c.logging.filePath = some path
  bufferSize : c.tcp.bufferSize ≠ 0
  /-- No setting is zero in effect. -/
  udp : ∀ setting, c.udp.isZero setting = false
  listeners : c.routes.Pairwise fun a b => ¬ a.Clashes b

def Accepted (c : Config) : Prop := (validate c standard).result = .ok ()

/-! ## Reports without errors -/

def Harmless (issues : List Issue) : Prop := ∀ i ∈ issues, i.isError = false

theorem isValid_iff {r : Report} : r.isValid = true ↔ Harmless r.issues := by
  simp [Report.isValid, Harmless]

theorem harmless_append {xs ys : List Issue} : Harmless (xs ++ ys) ↔ Harmless xs ∧ Harmless ys :=
  List.forall_mem_append

theorem harmless_issueIf {condition : Bool} {issue : Issue} (error : issue.isError = true) :
    Harmless (issueIf condition issue) ↔ condition = false := by
  cases condition <;> simp [issueIf, Harmless, error]

theorem harmless_warningIf {condition : Bool} {issue : Issue} (warning : issue.isError = false) :
    Harmless (issueIf condition issue) := by
  cases condition <;> simp [issueIf, Harmless, warning]

theorem mem_indexedIssues {f : Nat → Route → List Issue} {routes : List Route} {issue : Issue} :
    issue ∈ indexedIssues f routes ↔ ∃ i r, routes[i]? = some r ∧ issue ∈ f i r := by
  simp only [indexedIssues, List.mem_flatMap, Prod.exists, List.mem_zipIdx_iff_getElem?]
  exact ⟨fun ⟨r, i, at?, mem⟩ => ⟨i, r, at?, mem⟩, fun ⟨i, r, at?, mem⟩ => ⟨r, i, at?, mem⟩⟩

theorem harmless_routeIssues {i : Nat} {r : Route} :
    Harmless (routeIssues i r) ↔
      (∃ ch ∈ r.remoteHost.toList, isBlank ch = false) ∧ r.remotePort ≠ 0 := by
  rw [routeIssues, harmless_append, harmless_append, harmless_issueIf rfl, harmless_issueIf rfl,
    and_iff_left (harmless_warningIf rfl), isBlankText_eq_false_iff, beq_eq_false_iff_ne]

theorem harmless_indexedIssues {routes : List Route} :
    Harmless (indexedIssues routeIssues routes) ↔
      ∀ r ∈ routes, (∃ ch ∈ r.remoteHost.toList, isBlank ch = false) ∧ r.remotePort ≠ 0 := by
  refine ⟨fun h r mem => ?_, fun h issue mem => ?_⟩
  · obtain ⟨i, at?⟩ := List.mem_iff_getElem?.mp mem
    exact harmless_routeIssues.mp fun issue hi => h issue (mem_indexedIssues.mpr ⟨i, r, at?, hi⟩)
  · obtain ⟨i, r, at?, hi⟩ := mem_indexedIssues.mp mem
    exact harmless_routeIssues.mpr (h r (List.mem_of_getElem? at?)) issue hi

theorem harmless_zeroIssues {s : Udp.Settings} {message : String} {settings : List Udp.Setting} :
    Harmless (zeroIssues s message settings) ↔ ∀ setting ∈ settings, s.isZero setting = false := by
  rw [Harmless, zeroIssues, List.forall_mem_map]
  refine ⟨fun h setting mem => ?_, fun h setting mem => ?_⟩
  · by_contra zero
    cases h setting (List.mem_filter.mpr ⟨mem, Bool.not_eq_false _ ▸ zero⟩)
  · obtain ⟨mem, zero⟩ := List.mem_filter.mp mem
    rw [h setting mem] at zero
    cases zero

theorem harmless_zeroIssues_all {s : Udp.Settings} {durations capacities : String} :
    Harmless (zeroIssues s durations Udp.Setting.durations) ∧
      Harmless (zeroIssues s capacities Udp.Setting.capacities) ↔
    ∀ setting, s.isZero setting = false := by
  rw [harmless_zeroIssues, harmless_zeroIssues, ← List.forall_mem_append]
  exact ⟨fun h setting => h setting setting.mem_all, fun h setting _ => h setting⟩

/-! ## Listeners -/

theorem sameListener_iff {a b : Route} : sameListener a b = true ↔
    a.protocol = b.protocol ∧ a.bindAddress = b.bindAddress ∧ a.localPort = b.localPort := by
  simp [sameListener, and_assoc]

/-- The first route is reported if one before it asks for its listener. -/
theorem conflictsFrom_cons (index : Nat) (seen : List (Route × Nat)) (r : Route)
    (rest : List Route) : ∃ here,
      conflictsFrom index seen (r :: rest) =
        here ++ conflictsFrom (index + 1) ((r, index) :: seen) rest ∧
      (Harmless here ↔ ∀ p ∈ seen, ¬ p.1.Clashes r) := by
  refine ⟨_, rfl, ?_⟩
  split
  · next any =>
    exact ⟨fun _ p _ clash => clash.1 any, fun _ issue mem => absurd mem List.not_mem_nil⟩
  · next one =>
    split
    · next route before found =>
      have same := List.find?_some found
      refine ⟨fun h => ?_, fun h => ?_⟩
      · cases h _ List.mem_cons_self
      · exact absurd ⟨one, sameListener_iff.mp same⟩ (h _ (List.mem_of_find?_eq_some found))
    · next none =>
      refine ⟨fun _ p mem clash => ?_, fun _ issue mem => absurd mem List.not_mem_nil⟩
      exact List.find?_eq_none.mp none p mem (sameListener_iff.mpr clash.2)

theorem harmless_conflictsFrom {index : Nat} {seen : List (Route × Nat)} {routes : List Route} :
    Harmless (conflictsFrom index seen routes) ↔
      (∀ r ∈ routes, ∀ p ∈ seen, ¬ p.1.Clashes r) ∧ routes.Pairwise fun a b => ¬ a.Clashes b := by
  induction routes generalizing index seen with
  | nil => simp [conflictsFrom, Harmless]
  | cons r rest ih =>
    obtain ⟨here, parts, reported⟩ := conflictsFrom_cons index seen r rest
    rw [parts, harmless_append, reported, ih, List.pairwise_cons, List.forall_mem_cons]
    simp only [List.forall_mem_cons]
    refine ⟨fun ⟨first, others, rest⟩ => ?_, fun ⟨⟨first, others⟩, after, rest⟩ => ?_⟩
    · exact ⟨⟨first, fun r' mem => (others r' mem).2⟩, fun r' mem => (others r' mem).1, rest⟩
    · exact ⟨first, fun r' mem => ⟨after r' mem, others r' mem⟩, rest⟩

/-! ## Acceptance -/

theorem validate_eq_ok_iff {c : Config} {validators : List Validator} :
    (validate c validators).result = .ok () ↔ ∀ v ∈ validators, (v c).isValid = true := by
  induction validators with
  | nil => exact ⟨fun _ v mem => absurd mem List.not_mem_nil, fun _ => rfl⟩
  | cons v vs ih =>
    rw [List.forall_mem_cons, ← ih, validate]
    cases valid : (v c).isValid with
    | true => exact ⟨fun h => ⟨rfl, h⟩, fun h => h.2⟩
    | false => exact ⟨fun h => (by cases h), fun h => (by cases h.1)⟩

theorem logFile_iff {s : Log.Settings} : (s.output == .file && s.filePath.isNone) = false ↔
    (s.output = .file → ∃ path, s.filePath = some path) := by
  cases s.filePath <;> simp

theorem accepted_iff_admissible {c : Config} : c.Accepted ↔ c.Admissible := by
  have listeners : Harmless (portConflicts c).issues ↔
      c.routes.Pairwise fun a b => ¬ a.Clashes b := by
    rw [portConflicts, harmless_conflictsFrom]
    exact and_iff_right fun _ _ _ mem => absurd mem List.not_mem_nil
  have values : Harmless (basic c).issues ↔ c.routes ≠ [] ∧
      (∀ r ∈ c.routes, (∃ ch ∈ r.remoteHost.toList, isBlank ch = false) ∧ r.remotePort ≠ 0) ∧
      (c.logging.output = .file → ∃ path, c.logging.filePath = some path) ∧
      c.tcp.bufferSize ≠ 0 ∧ ∀ setting, c.udp.isZero setting = false := by
    simp only [basic, harmless_append, and_assoc, harmless_zeroIssues_all]
    rw [harmless_issueIf rfl, harmless_indexedIssues, harmless_issueIf rfl, logFile_iff,
      harmless_issueIf rfl, beq_eq_false_iff_ne, List.isEmpty_eq_false_iff]
  rw [Accepted, validate_eq_ok_iff]
  simp only [standard, List.forall_mem_cons, List.not_mem_nil, false_imp_iff, implies_true,
    and_true, isValid_iff]
  rw [listeners, values]
  refine ⟨fun ⟨⟨routes, each, logFile, bufferSize, udp⟩, listeners⟩ => ?_, fun h => ?_⟩
  · exact ⟨routes, fun r mem => (each r mem).1, fun r mem => (each r mem).2, logFile, bufferSize,
      udp, listeners⟩
  · exact ⟨⟨h.routes, fun r mem => ⟨h.hosts r mem, h.ports r mem⟩, h.logFile, h.bufferSize, h.udp⟩,
      h.listeners⟩

end Config

end SocketRelay
