import SocketRelay.Text.Digits

/-!
# Numbers read back

The digits of a number, as they are written, read back as that number
(`decimal?_toDigits`), also in front of something else that is not a digit
(`NumberFormat.read_toDigits`). `decimal?_eq_some_iff` says what else reads as a
number.
-/

namespace SocketRelay.Text

variable {base n : Nat}

theorem valueOf_append_singleton (cs : List Char) (c : Char) :
    valueOf base (cs ++ [c]) = base * valueOf base cs + (digitValue? base c).getD 0 := by
  simp [valueOf, List.foldl_append]

theorem valueOf_toDigits (one_lt : 1 < base) (le : base ≤ 16) :
    valueOf base (Nat.toDigits base n) = n := by
  induction n using Nat.strongRecOn with
  | ind n ih =>
    rw [Nat.toDigits_eq_if one_lt]
    split
    · next lt => simp [valueOf, digitValue?_digitChar le lt]
    · next ge =>
      have less : n / base < n := Nat.div_lt_self (by omega) one_lt
      rw [valueOf_append_singleton, ih _ less,
        digitValue?_digitChar le (Nat.mod_lt n (by omega)), Option.getD_some]
      exact Nat.div_add_mod n base

theorem isDigitIn_digitChar (le : base ≤ 16) (lt : n < base) :
    isDigitIn base (Nat.digitChar n) = true := by
  rw [isDigitIn, digitValue?_digitChar le lt, Option.isSome_some]

theorem isDigitIn_of_mem_toDigits (one_lt : 1 < base) (le : base ≤ 16) {c : Char}
    (h : c ∈ Nat.toDigits base n) : isDigitIn base c = true := by
  induction n using Nat.strongRecOn with
  | ind n ih =>
    rw [Nat.toDigits_eq_if one_lt] at h
    split at h
    · next lt =>
      rw [List.mem_singleton.mp h]
      exact isDigitIn_digitChar le lt
    · next ge =>
      rcases List.mem_append.mp h with h | h
      · exact ih _ (Nat.div_lt_self (by omega) one_lt) h
      · rw [List.mem_singleton.mp h]
        exact isDigitIn_digitChar le (Nat.mod_lt n (by omega))

/-- Only zero is written with a zero in front. -/
theorem head?_toDigits_ne_zero (one_lt : 1 < base) (le : base ≤ 16) (pos : 0 < n) :
    (Nat.toDigits base n).head? ≠ some '0' := by
  induction n using Nat.strongRecOn with
  | ind n ih =>
    rw [Nat.toDigits_eq_if one_lt]
    split
    · next lt =>
      have nonzero : ∀ d < 16, 0 < d → Nat.digitChar d ≠ '0' := by decide
      simpa using nonzero n (by omega) pos
    · next ge =>
      rw [List.head?_append, List.head?_eq_some_head Nat.toDigits_ne_nil, Option.some_or,
        ← List.head?_eq_some_head]
      exact ih _ (Nat.div_lt_self (by omega) one_lt) (Nat.div_pos (by omega) (by omega))

def NoDigit (base : Nat) (cs : List Char) : Prop :=
  ∀ c, cs.head? = some c → isDigitIn base c = false

theorem span_toDigits (one_lt : 1 < base) (le : base ≤ 16) {rest : List Char}
    (stop : NoDigit base rest) :
    (Nat.toDigits base n ++ rest).takeWhile (isDigitIn base) = Nat.toDigits base n ∧
      (Nat.toDigits base n ++ rest).dropWhile (isDigitIn base) = rest := by
  have digits : ∀ c ∈ Nat.toDigits base n, isDigitIn base c = true := fun c hc =>
    isDigitIn_of_mem_toDigits one_lt le hc
  rw [List.takeWhile_append_of_pos digits, List.dropWhile_append_of_pos digits]
  cases rest with
  | nil => simp
  | cons c rest =>
    have := stop c rfl
    simp [this]

theorem NumberFormat.read_toDigits {f : NumberFormat} (one_lt : 1 < f.base) (le : f.base ≤ 16)
    (limit : n ≤ f.limit)
    (short : ∀ m, f.maxDigits = some m → (Nat.toDigits f.base n).length ≤ m) {rest : List Char}
    (stop : NoDigit f.base rest) :
    f.read (Nat.toDigits f.base n ++ rest) = some (n, rest) := by
  obtain ⟨taken, dropped⟩ := span_toDigits (n := n) one_lt le stop
  have nonempty : (Nat.toDigits f.base n).isEmpty = false := by
    simp [Nat.toDigits_ne_nil]
  have notLong :
      (f.maxDigits.any fun m => decide (m < (Nat.toDigits f.base n).length)) = false := by
    cases h : f.maxDigits with
    | none => rfl
    | some m => simpa using short m h
  have noZeros : (decide (1 < (Nat.toDigits f.base n).length) &&
      (Nat.toDigits f.base n).head? == some '0') = false := by
    rcases Nat.eq_zero_or_pos n with rfl | pos
    · simp [Nat.toDigits_zero]
    · have := head?_toDigits_ne_zero one_lt le pos
      simp [this]
  simp only [NumberFormat.read, taken, dropped, valueOf_toDigits one_lt le, nonempty, notLong,
    Bool.and_assoc, noZeros, Bool.and_false, Bool.or_false, Bool.false_or]
  rw [if_neg (by simpa using limit)]

/-- What is left begins behind the digits. -/
theorem NumberFormat.rest_of_read {f : NumberFormat} {cs rest : List Char}
    (h : f.read cs = some (n, rest)) : rest = cs.dropWhile (isDigitIn f.base) := by
  simp only [NumberFormat.read] at h
  split at h
  · cases h
  · cases h; rfl

theorem number?_toDigits (one_lt : 1 < base) (le : base ≤ 16) :
    number? base (Nat.toDigits base n) = some n := by
  have digits : (Nat.toDigits base n).all (isDigitIn base) = true :=
    List.all_eq_true.mpr fun _ => isDigitIn_of_mem_toDigits one_lt le
  rw [number?, digits, List.isEmpty_eq_false_iff.mpr Nat.toDigits_ne_nil,
    valueOf_toDigits one_lt le]
  rfl

/-- No plus sign is written in front. -/
theorem decimal?_toDigits : decimal? (Nat.toDigits 10 n) = some n := by
  unfold decimal?
  split
  · next digits plus =>
    have digit : isDigitIn 10 '+' = true := isDigitIn_of_mem_toDigits (n := n) (by decide)
      (by decide) (by rw [plus]; exact List.mem_cons_self)
    cases digit
  · exact number?_toDigits (by decide) (by decide)

/-! ## Decimal numbers -/

variable {cs : List Char}

theorem digitValue?_ten (c : Char) :
    digitValue? 10 c = if c.isDigit then some (c.toNat - '0'.toNat) else none := by
  have digit : c.isDigit = true ↔ 0x30 ≤ c.toNat ∧ c.toNat ≤ 0x39 := by
    simp only [Char.isDigit, Bool.and_eq_true, decide_eq_true_eq]
    rfl
  unfold digitValue?
  dsimp only
  by_cases decimal : c.isDigit = true
  · have small : c.toNat - 0x30 < 10 := by
      have := digit.mp decimal
      omega
    rw [if_pos decimal, if_pos (by simpa using digit.mp decimal), Option.bind_some, if_pos small]
    rfl
  · rw [if_neg decimal, if_neg (by simpa using mt digit.mpr decimal)]
    -- a letter is worth ten or more
    split
    · rw [Option.bind_some, if_neg (by omega)]
    · split
      · rw [Option.bind_some, if_neg (by omega)]
      · rfl

theorem isDigitIn_ten (c : Char) : isDigitIn 10 c = c.isDigit := by
  rw [isDigitIn, digitValue?_ten]
  cases c.isDigit <;> rfl

theorem valueOf_ten (digits : ∀ c ∈ cs, c.isDigit = true) :
    valueOf 10 cs = Nat.ofDigitChars 10 cs 0 := by
  have same (n : Nat) : cs.foldl (fun n c => 10 * n + (digitValue? 10 c).getD 0) n =
      Nat.ofDigitChars 10 cs n := by
    unfold Nat.ofDigitChars
    induction cs generalizing n with
    | nil => rfl
    | cons c cs ih =>
      rw [List.foldl_cons, List.foldl_cons, digitValue?_ten, if_pos (digits c List.mem_cons_self),
        Option.getD_some, ih fun c mem => digits c (List.mem_cons_of_mem _ mem)]
  exact same 0

theorem number?_ten_eq_some_iff : number? 10 cs = some n ↔
    cs ≠ [] ∧ (∀ c ∈ cs, c.isDigit = true) ∧ Nat.ofDigitChars 10 cs 0 = n := by
  have all : cs.all (isDigitIn 10) = true ↔ ∀ c ∈ cs, c.isDigit = true := by
    simp only [List.all_eq_true, isDigitIn_ten]
  unfold number?
  split
  · next refused =>
    refine iff_of_false (by simp) fun ⟨filled, digits, _⟩ => ?_
    rw [all.mpr digits, Bool.not_true, Bool.or_false, List.isEmpty_iff] at refused
    exact filled refused
  · next read =>
    simp only [Bool.or_eq_true, Bool.not_eq_true', not_or, List.isEmpty_iff, Bool.not_eq_false]
      at read
    obtain ⟨filled, digits⟩ := read
    rw [Option.some.injEq, valueOf_ten (all.mp digits)]
    exact ⟨fun same => ⟨filled, all.mp digits, same⟩, fun h => h.2.2⟩

/-- A number is read from decimal digits, at least one, after at most one plus sign. -/
theorem decimal?_eq_some_iff : decimal? cs = some n ↔
    ∃ digits, (cs = digits ∨ cs = '+' :: digits) ∧ digits ≠ [] ∧
      (∀ c ∈ digits, c.isDigit = true) ∧ Nat.ofDigitChars 10 digits 0 = n := by
  have noPlus {digits : List Char} (all : ∀ c ∈ '+' :: digits, c.isDigit = true) : False := by
    have := all '+' List.mem_cons_self
    cases this
  unfold decimal?
  split
  · next digits =>
    rw [number?_ten_eq_some_iff]
    refine ⟨fun read => ⟨digits, .inr rfl, read⟩, ?_⟩
    rintro ⟨digits', same | same, filled, all, value⟩
    · subst same
      exact (noPlus all).elim
    · cases same
      exact ⟨filled, all, value⟩
  · next plain =>
    rw [number?_ten_eq_some_iff]
    refine ⟨fun read => ⟨cs, .inl rfl, read⟩, ?_⟩
    rintro ⟨digits, same | same, read⟩
    · exact same ▸ read
    · exact absurd same (plain digits)

end SocketRelay.Text
