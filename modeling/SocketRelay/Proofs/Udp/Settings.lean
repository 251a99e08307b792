import SocketRelay.Udp.Settings
import SocketRelay.Udp.Engine

/-!
# What a check of settings says

The check refuses settings of which one is zero in effect, for the first of them
(`Settings.check_eq_ok_iff`, `Settings.check_eq_error_iff`). How large a setting
is does not matter to it.
-/

namespace SocketRelay.Udp

theorem Setting.mem_all (s : Setting) : s ∈ all := by cases s <;> decide

namespace Settings

variable {s : Settings}

theorem check_eq_ok_iff : s.check = .ok () ↔ ∀ setting, s.isZero setting = false := by
  unfold check
  cases found : Setting.all.find? s.isZero with
  | none =>
    refine ⟨fun _ setting => ?_, fun _ => rfl⟩
    simpa using List.find?_eq_none.mp found setting setting.mem_all
  | some setting =>
    have zero := List.find?_some found
    refine ⟨fun ok => (by cases ok), fun h => ?_⟩
    rw [h setting] at zero
    cases zero

theorem check_eq_error_iff {e : Error} :
    s.check = .error e ↔
      ∃ setting, Setting.all.find? s.isZero = some setting ∧ e = .zero setting := by
  unfold check
  cases Setting.all.find? s.isZero with
  | none => exact ⟨fun h => (by cases h), fun ⟨_, h, _⟩ => (by cases h)⟩
  | some setting =>
    refine ⟨fun h => ⟨setting, rfl, ?_⟩, fun ⟨_, h, same⟩ => ?_⟩
    · cases h; rfl
    · cases h; rw [same]

/-- A channel can have as many slots as a setting says that is not zero, unless they are too
many. -/
theorem canHave_iff {n : UInt64} (nonzero : (n == 0) = false) :
    Channel.canHave n.toNat = true ↔ n.toNat ≤ Channel.maxCapacity := by
  have pos : 0 < n.toNat := by
    refine Nat.pos_of_ne_zero fun zero => ?_
    rw [UInt64.toNat_inj (b := 0) |>.mp zero] at nonzero
    cases nonzero
  simp [Channel.canHave, pos]

theorem toNat_ingestCapacity (s : Settings) (cores : UInt64) :
    (s.ingestCapacity cores).toNat =
      max (cores.toNat * s.ingestPerCore.toNat % UInt64.size) 1 := by
  have product : (cores * s.ingestPerCore).toNat =
      cores.toNat * s.ingestPerCore.toNat % UInt64.size := UInt64.toNat_mul ..
  rw [← product]
  show (if cores * s.ingestPerCore ≤ 1 then 1 else cores * s.ingestPerCore).toNat = _
  split
  · next small => exact (Nat.max_eq_right (UInt64.le_iff_toNat_le.mp small)).symm
  · next large =>
    have := mt UInt64.le_iff_toNat_le.mpr large
    exact (Nat.max_eq_left (Nat.le_of_not_le this)).symm

/-- The product of cores and slots is taken as it is if it fits into sixty-four bits, and is another
number if not. -/
theorem toNat_ingestCapacity_eq_iff (s : Settings) (cores : UInt64) :
    (s.ingestCapacity cores).toNat = max (cores.toNat * s.ingestPerCore.toNat) 1 ↔
      cores.toNat * s.ingestPerCore.toNat < UInt64.size := by
  rw [toNat_ingestCapacity]
  generalize cores.toNat * s.ingestPerCore.toNat = product
  have size : 1 < UInt64.size := by decide
  have less := Nat.mod_lt product (Nat.zero_lt_of_lt size)
  refine ⟨fun same => ?_, fun fits => by rw [Nat.mod_eq_of_lt fits]⟩
  generalize product % UInt64.size = rest at same less
  generalize UInt64.size = size at *
  omega

end Settings

end SocketRelay.Udp
