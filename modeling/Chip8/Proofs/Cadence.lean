import Chip8.Cadence
import Mathlib.Algebra.Order.Floor.Semifield
import Mathlib.Data.Rat.Floor

/-! # How many updates are due

    As long as the updates that are due fit into 64 bits, so do those that were due at any earlier
    time, and there are no fewer of them the more time has passed. Then nothing of an update is lost
    but the part of it that is not complete yet, and from one time to another no part is lost twice.

    The product of time and rate fits into 128 bits in any case, since a clock counts its seconds
    in 64. -/

namespace Chip8

/-- The time between two readings of a clock. -/
structure Duration where
  seconds : UInt64
  /-- The nanoseconds of a second that is not over. -/
  nanoseconds : Fin Cadence.second

namespace Duration

/-- All of a duration in nanoseconds. -/
def total (d : Duration) : Nat := d.seconds.toNat * Cadence.second + d.nanoseconds

theorem total_lt (d : Duration) : d.total < UInt64.size * Cadence.second := by
  calc d.seconds.toNat * Cadence.second + d.nanoseconds
    _ < d.seconds.toNat * Cadence.second + Cadence.second :=
      Nat.add_lt_add_left d.nanoseconds.isLt _
    _ = (d.seconds.toNat + 1) * Cadence.second := (Nat.succ_mul ..).symm
    _ ≤ UInt64.size * Cadence.second := Nat.mul_le_mul_right _ d.seconds.toNat_lt

/-- There are 94 bits of time and 32 of rate. -/
theorem total_mul_lt (d : Duration) (hz : UInt32) : d.total * hz.toNat < 2 ^ 128 := by
  calc d.total * hz.toNat
    _ ≤ UInt64.size * Cadence.second * 2 ^ 32 :=
      Nat.mul_le_mul (Nat.le_of_lt d.total_lt) (Nat.le_of_lt hz.toNat_lt)
    _ < 2 ^ 128 := by decide

end Duration

namespace Cadence

/-! ### One cadence -/

theorem target_total (d : Duration) (hz : UInt32) :
    target d.total hz = d.total * hz.toNat / second % 2 ^ 64 := by
  have hproduct : product d.total hz = d.total * hz.toNat := Nat.mod_eq_of_lt (d.total_mul_lt hz)
  rw [target, hproduct]
  rfl

/-- So many updates are due that they can be counted in 64 bits. -/
def Fits (elapsed : Nat) (hz : UInt32) : Prop := elapsed * hz.toNat / second < UInt64.size

variable {elapsed latest : Nat} {hz : UInt32}

theorem Fits.of_le (h : Fits latest hz) (hle : elapsed ≤ latest) : Fits elapsed hz := by
  have hproduct : elapsed * hz.toNat ≤ latest * hz.toNat := Nat.mul_le_mul_right _ hle
  exact Nat.lt_of_le_of_lt (Nat.div_le_div_right hproduct) h

/-- Then the number of them is exact. -/
theorem target_eq (h : Fits elapsed hz) : target elapsed hz = elapsed * hz.toNat / second := by
  unfold Fits at h
  have hproduct : product elapsed hz = elapsed * hz.toNat := by
    apply Nat.mod_eq_of_lt
    have hlt := (Nat.div_lt_iff_lt_mul (by decide)).mp h
    exact Nat.lt_trans hlt (by decide)
  rw [target, hproduct, Nat.mod_eq_of_lt h]

theorem target_le (h : Fits latest hz) (hle : elapsed ≤ latest) :
    target elapsed hz ≤ target latest hz := by
  rw [target_eq h, target_eq (h.of_le hle)]
  exact Nat.div_le_div_right (Nat.mul_le_mul_right _ hle)

theorem target_max (h : Fits (max elapsed latest) hz) :
    target (max elapsed latest) hz = max (target elapsed hz) (target latest hz) := by
  rcases Nat.le_total elapsed latest with hle | hle
  · rw [Nat.max_eq_right hle] at h ⊢
    exact (Nat.max_eq_right (target_le h hle)).symm
  · rw [Nat.max_eq_left hle] at h ⊢
    exact (Nat.max_eq_left (target_le h hle)).symm

/-- Where they do not fit, the count of them has begun anew. -/
theorem target_eq_iff : target elapsed hz = elapsed * hz.toNat / second ↔ Fits elapsed hz := by
  refine ⟨fun heq => ?_, target_eq⟩
  unfold Fits
  rw [← heq]
  exact Nat.mod_lt _ (by decide)

theorem target_le_of_rate_le {hz' : UInt32} (h : Fits elapsed hz') (hle : hz ≤ hz') :
    target elapsed hz ≤ target elapsed hz' := by
  have hproduct : elapsed * hz.toNat ≤ elapsed * hz'.toNat :=
    Nat.mul_le_mul_left _ (UInt32.le_iff_toNat_le.mp hle)
  have hfit : Fits elapsed hz := Nat.lt_of_le_of_lt (Nat.div_le_div_right hproduct) h
  rw [target_eq hfit, target_eq h]
  exact Nat.div_le_div_right hproduct

/-- In whole seconds there is no part of an update to be lost. -/
theorem target_seconds {seconds : Nat} (h : Fits (seconds * second) hz) :
    target (seconds * second) hz = seconds * hz.toNat := by
  rw [target_eq h, Nat.mul_right_comm, Nat.mul_div_cancel _ (by decide)]

theorem le_foldl_max (times : List Nat) (start : Nat) : start ≤ times.foldl max start := by
  induction times generalizing start with
  | nil => exact Nat.le_refl start
  | cons time later ih => exact Nat.le_trans (Nat.le_max_left start time) (ih _)

/-- What is due at the latest of some times is the most that is due at any of them. -/
theorem foldl_max_target {times : List Nat} {start : Nat} (h : Fits (times.foldl max start) hz) :
    (times.map (target · hz)).foldl max (target start hz) =
      target (times.foldl max start) hz := by
  induction times generalizing start with
  | nil => rfl
  | cons time later ih =>
    have hle : max start time ≤ later.foldl max (max start time) := by
      rw [List.foldl_cons] at h
      exact le_foldl_max _ _
    rw [List.map_cons, List.foldl_cons, List.foldl_cons, ← target_max (h.of_le hle)]
    exact ih h

@[simp] theorem target_zero (hz : UInt32) : target 0 hz = 0 := by
  simp [target, product]

/-! ### What is lost -/

/-- The updates that are due if parts of them count. -/
def exact (elapsed : Nat) (hz : UInt32) : ℚ := (elapsed * hz.toNat : ℕ) / second

/-- The part of an update that is not complete is all that is lost. -/
theorem exact_sub_target (h : Fits elapsed hz) :
    0 ≤ exact elapsed hz - target elapsed hz ∧ exact elapsed hz - target elapsed hz < 1 := by
  have hfloor : target elapsed hz = ⌊exact elapsed hz⌋₊ := by
    rw [target_eq h]
    exact (Nat.floor_div_eq_div _ _).symm
  have hnonneg : 0 ≤ exact elapsed hz := by
    unfold exact
    positivity
  rw [hfloor]
  constructor
  · exact sub_nonneg.mpr (Nat.floor_le hnonneg)
  · exact sub_lt_iff_lt_add'.mpr (Nat.lt_floor_add_one _)

theorem exact_sub (hz : UInt32) (hle : elapsed ≤ latest) :
    exact (latest - elapsed) hz = exact latest hz - exact elapsed hz := by
  have hproduct : ((latest - elapsed) * hz.toNat : ℕ) =
      ((latest * hz.toNat : ℕ) : ℚ) - (elapsed * hz.toNat : ℕ) := by
    rw [Nat.sub_mul, Nat.cast_sub (Nat.mul_le_mul_right _ hle)]
  rw [exact, hproduct, sub_div]
  rfl

/-- From one time to another the updates that are due are those of the time between, up to less
    than one update. -/
theorem abs_targets_sub_lt_one (h : Fits latest hz) (hle : elapsed ≤ latest) :
    |((target latest hz : ℚ) - target elapsed hz) - exact (latest - elapsed) hz| < 1 := by
  obtain ⟨hnonneg, hlt⟩ := exact_sub_target h
  obtain ⟨hnonneg', hlt'⟩ := exact_sub_target (h.of_le hle)
  have hlost : ((target latest hz : ℚ) - target elapsed hz) - exact (latest - elapsed) hz =
      (exact elapsed hz - target elapsed hz) - (exact latest hz - target latest hz) := by
    rw [exact_sub hz hle]
    ring
  rw [hlost]
  exact abs_sub_lt_of_nonneg_of_lt hnonneg' hlt' hnonneg hlt

end Cadence

/-! ### All three cadences -/

/-- What is due by a time. -/
def Rates.due (rates : Rates) (elapsed : Nat) : Counts where
  cpu := Cadence.target elapsed rates.cpu
  timer := Cadence.target elapsed rates.timer
  frame := Cadence.target elapsed rates.frame

/-- What is due can be counted in 64 bits. -/
structure Rates.Fit (rates : Rates) (elapsed : Nat) : Prop where
  cpu : Cadence.Fits elapsed rates.cpu
  timer : Cadence.Fits elapsed rates.timer
  frame : Cadence.Fits elapsed rates.frame

theorem Rates.Fit.of_le {rates : Rates} {elapsed latest : Nat} (h : rates.Fit latest)
    (hle : elapsed ≤ latest) : rates.Fit elapsed :=
  ⟨h.cpu.of_le hle, h.timer.of_le hle, h.frame.of_le hle⟩

theorem Rates.due_max {rates : Rates} {elapsed latest : Nat}
    (h : rates.Fit (max latest elapsed)) :
    rates.due (max latest elapsed) =
      { cpu := max (rates.due latest).cpu (rates.due elapsed).cpu
        timer := max (rates.due latest).timer (rates.due elapsed).timer
        frame := max (rates.due latest).frame (rates.due elapsed).frame } := by
  simp only [Rates.due, Cadence.target_max h.cpu, Cadence.target_max h.timer,
    Cadence.target_max h.frame]

theorem Rates.due_zero (rates : Rates) : rates.due 0 = {} := by
  simp [due]

end Chip8
