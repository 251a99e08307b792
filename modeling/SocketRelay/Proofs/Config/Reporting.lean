import SocketRelay.Proofs.Config.Admission

/-!
# What validation says

Validators that find no error only hand on their warnings (`Config.validate_append`), and
the first that finds one ends the validation (`Config.validate_cons_of_invalid`). So a
verdict names the errors of one validator, and the warnings of all up to it. Main
statement: `Config.validate_reports`.
-/

namespace SocketRelay.Config

def Report.ofSeverity (r : Report) (severity : Severity) : List Issue :=
  r.issues.filter fun i => i.severity = severity

def warningsOf (c : Config) (validators : List Validator) : List Issue :=
  validators.flatMap fun v => (v c).ofSeverity .warning

variable {c : Config} {v : Validator}

/-- A validator that finds an error has the last word. -/
theorem validate_cons_of_invalid (invalid : (v c).isValid = false) (after : List Validator) :
    validate c (v :: after) = ⟨(v c).ofSeverity .warning, .error (.rejected
      ("; ".intercalate
        (((v c).ofSeverity .error).map fun i => i.field ++ ": " ++ i.message)))⟩ := by
  rw [validate, invalid]
  rfl

/-- Validators without an error leave the verdict to those after them. -/
theorem validate_append {before : List Validator} (valid : ∀ u ∈ before, (u c).isValid = true)
    (after : List Validator) : validate c (before ++ after) =
      ⟨warningsOf c before ++ (validate c after).warnings, (validate c after).result⟩ := by
  induction before with
  | nil => rfl
  | cons u before ih =>
    obtain ⟨first, others⟩ := List.forall_mem_cons.mp valid
    rw [List.cons_append, validate, if_pos first, ih others]
    dsimp only
    rw [← List.append_assoc]
    rfl

/-- Validation fails with the errors of the first validator that has any, and hands on the warnings
of the validators up to it. -/
theorem validate_reports (c : Config) (validators : List Validator) :
    ((validate c validators).result = .ok () ↔
      ∀ v ∈ validators, ∀ i ∈ (v c).issues, i.severity ≠ .error) ∧
    ((validate c validators).result = .ok () ∧
        (validate c validators).warnings = warningsOf c validators ∨
      ∃ before v after, validators = before ++ v :: after ∧
        (∀ u ∈ before, ∀ i ∈ (u c).issues, i.severity ≠ .error) ∧
        (∃ i ∈ (v c).issues, i.severity = .error) ∧
        (validate c validators).result = .error (.rejected
          ("; ".intercalate
            (((v c).ofSeverity .error).map fun i => i.field ++ ": " ++ i.message))) ∧
        (validate c validators).warnings = warningsOf c (before ++ [v])) := by
  have valid_iff (v : Validator) :
      (v c).isValid = true ↔ ∀ i ∈ (v c).issues, i.severity ≠ .error := by
    rw [isValid_iff]
    simp [Harmless, Issue.isError]
  refine ⟨?_, ?_⟩
  · simp only [validate_eq_ok_iff, valid_iff]
  · cases first : validators.find? (fun v => !(v c).isValid) with
    | none =>
      have valid : ∀ v ∈ validators, (v c).isValid = true := by
        simpa using List.find?_eq_none.mp first
      have verdict := validate_append valid []
      rw [List.append_nil] at verdict
      rw [verdict]
      exact .inl ⟨rfl, List.append_nil _⟩
    | some v =>
      obtain ⟨invalid, before, after, rfl, valid⟩ := List.find?_eq_some_iff_append.mp first
      have invalid : (v c).isValid = false := by simpa using invalid
      have valid : ∀ u ∈ before, (u c).isValid = true := by simpa using valid
      rw [validate_append valid, validate_cons_of_invalid invalid]
      refine .inr ⟨before, v, after, rfl, fun u hu => (valid_iff u).mp (valid u hu), ?_, rfl, ?_⟩
      · by_contra none
        have harmless : (v c).isValid = true :=
          (valid_iff v).mpr fun i hi same => none ⟨i, hi, same⟩
        rw [harmless] at invalid
        cases invalid
      · rw [warningsOf, warningsOf, List.flatMap_append, List.flatMap_singleton]

end SocketRelay.Config
