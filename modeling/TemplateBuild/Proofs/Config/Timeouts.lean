import Mathlib.Tactic.Positivity
import Mathlib.Tactic.Ring
import TemplateBuild.Config.Settings
import TemplateBuild.Proofs.Config.Acceptance
import TemplateBuild.Proofs.Decimal.Rounding

/-!
# Reading a timeout

A timeout is read to the nearest nanosecond.  A positive number of at most half a nanosecond is
therefore read as zero, which is refused only when the layers are resolved, and one that a
duration cannot hold is no duration at all.
-/

set_option autoImplicit false

namespace TemplateBuild

/-- The number that a floating-point number stands for. -/
def Binary64.value? : Binary64 → Option ℚ
  | .finite negative mantissa exponent =>
    some ((if negative then -1 else 1) * (mantissa * 2 ^ exponent))
  | _ => none

namespace Duration

/-- In seconds. -/
def value (duration : Duration) : ℚ :=
  duration.seconds + duration.nanos / 10 ^ 9

theorem value_ofSeconds (seconds : Nat) : (ofSeconds seconds).value = seconds := by
  simp [ofSeconds, value]

theorem value_ofNanos (nanos : Nat) : (ofNanos nanos).value = nanos / 10 ^ 9 := by
  have parts : (nanos : ℚ) =
      1000000000 * (nanos / 1000000000 : Nat) + (nanos % 1000000000 : Nat) := by
    exact_mod_cast (Nat.div_add_mod nanos 1000000000).symm
  rw [value, ofNanos, parts]
  ring

theorem isZero_ofNanos (nanos : Nat) : (ofNanos nanos).isZero = true ↔ nanos = 0 := by
  simp only [isZero, ofNanos, Bool.and_eq_true, beq_iff_eq]
  omega

end Duration

/-- A timeout is rejected only if it is zero. -/
theorem ConfigLayer.provisioning_accepted_iff {layer : ConfigLayer} {timeout : Duration}
    {remote : Remote} (set : layer.timeout = some timeout) (chosen : layer.remote = .ok remote)
    (environment : Environment) :
    (∃ provisioning, layer.provisioning environment = .ok provisioning) ↔
      timeout.isZero = false := by
  rw [provisioning, chosen, checkedTimeout, set]
  cases zero : timeout.isZero <;> simp [zero, bind, Except.bind, pure, Except.pure]

namespace ConfigTable

/-- Half a nanosecond, in seconds. -/
def halfNano : ℚ :=
  1 / 2 / 10 ^ 9

/-- The number of seconds that a value stands for. -/
def secondsOf? : ConfigValue → Option ℚ
  | .integer seconds => some seconds
  | .number seconds => seconds.value?
  | _ => none

section Rounded

variable (mantissa : Nat) (exponent : Int)

theorem durationOf_nearest : ∃ (scaled : Ratio) (nanos : Nat),
    durationOf mantissa exponent = .ofNanos nanos ∧ scaled.Nearest nanos ∧
      0 < scaled.denominator ∧ scaled.value = mantissa * 2 ^ exponent * 10 ^ 9 := by
  have positive := Ratio.denominator_ofPower_pos mantissa exponent
  refine ⟨_, _, rfl, Ratio.nearest_round positive, positive, ?_⟩
  rw [← Ratio.value_ofPower, Ratio.value, Ratio.value, nanosPerSecond]
  push_cast
  ring

/-- The duration is at most half a nanosecond away from the number. -/
theorem abs_durationOf_sub_le :
    |(durationOf mantissa exponent).value - mantissa * 2 ^ exponent| ≤ halfNano := by
  obtain ⟨scaled, nanos, same, nearest, positive, value⟩ := durationOf_nearest mantissa exponent
  have close := nearest.abs_sub_value_le positive
  rw [value, abs_le] at close
  rw [same, Duration.value_ofNanos, halfNano, abs_le]
  constructor <;> linarith

theorem isZero_durationOf :
    (durationOf mantissa exponent).isZero = true ↔ (mantissa * 2 ^ exponent : ℚ) ≤ halfNano := by
  obtain ⟨scaled, nanos, same, nearest, positive, value⟩ := durationOf_nearest mantissa exponent
  rw [same, Duration.isZero_ofNanos, nearest.eq_zero_iff positive, value, halfNano]
  constructor <;> intro <;> linarith

theorem durationOf_held : (durationOf mantissa exponent).seconds < secondsLimit ↔
    (mantissa * 2 ^ exponent : ℚ) + halfNano < 2 ^ 64 := by
  obtain ⟨scaled, nanos, same, nearest, positive, value⟩ := durationOf_nearest mantissa exponent
  have even : 2 ^ 64 * 10 ^ 9 % 2 = 0 := by norm_num
  have reached := nearest.le_iff_of_even positive even
  have limit : (durationOf mantissa exponent).seconds < secondsLimit ↔
      ¬ 2 ^ 64 * 10 ^ 9 ≤ nanos := by
    rw [same, secondsLimit, UInt64.size]
    simp only [Duration.ofNanos]
    omega
  rw [limit, reached, value, halfNano, not_le]
  push_cast
  constructor <;> intro <;> linarith

end Rounded

/-- What a duration has to do with the number that it was read from. -/
structure Keeps (value : ConfigValue) (seconds : ℚ) (duration : Duration) : Prop where
  positive : 0 < seconds
  below : seconds + halfNano < 2 ^ 64
  exact : ∀ whole, value = .integer whole → duration.value = seconds
  close : |duration.value - seconds| ≤ halfNano
  nanos : duration.nanos < nanosPerSecond
  held : duration.seconds < secondsLimit
  isZero : duration.isZero = true ↔ seconds ≤ halfNano

theorem keeps_integer {whole : Int} (positive : 0 < whole) (word : whole < 2 ^ 63) :
    Keeps (.integer whole) whole (.ofSeconds whole.toNat) := by
  obtain ⟨seconds, rfl⟩ := Int.eq_ofNat_of_zero_le positive.le
  have one : (1 : ℚ) ≤ seconds := by exact_mod_cast positive
  have limit : (seconds : ℚ) + 1 ≤ 2 ^ 64 := by
    have bound : seconds + 1 ≤ 2 ^ 64 := by omega
    exact_mod_cast bound
  have exact := Duration.value_ofSeconds seconds
  have half : halfNano = 1 / 2 / 10 ^ 9 := rfl
  rw [Int.toNat_natCast, Int.cast_natCast]
  refine ⟨by linarith, by linarith, fun _ _ => exact, ?_,
    by simp [Duration.ofSeconds, nanosPerSecond], ?_, iff_of_false ?_ (by linarith)⟩
  · rw [exact, sub_self, abs_zero]
    linarith
  · rw [secondsLimit, UInt64.size]
    simp only [Duration.ofSeconds]
    omega
  · simp only [Duration.isZero, Duration.ofSeconds, Bool.and_eq_true, beq_iff_eq]
    omega

theorem keeps_durationOf {mantissa : Nat} {exponent : Int} (nonzero : mantissa ≠ 0)
    (held : (durationOf mantissa exponent).seconds < secondsLimit) :
    Keeps (.number (.finite false mantissa exponent)) (mantissa * 2 ^ exponent)
      (durationOf mantissa exponent) where
  positive := by
    have positive : (0 : ℚ) < mantissa := by exact_mod_cast Nat.pos_of_ne_zero nonzero
    positivity
  below := (durationOf_held mantissa exponent).mp held
  exact := by simp
  close := abs_durationOf_sub_le mantissa exponent
  nanos := by
    obtain ⟨_, nanos, same, _⟩ := durationOf_nearest mantissa exponent
    rw [same]
    exact Nat.mod_lt _ (by decide)
  held := held
  isZero := isZero_durationOf mantissa exponent

/-- What becomes of a value where a timeout is read. -/
inductive Times (key : String) (value : ConfigValue) : Except ConfigError (Option Duration) → Prop
  | absent : value = .nil → Times key value (.ok none)
  | kept {seconds : ℚ} {duration : Duration} : secondsOf? value = some seconds →
      Keeps value seconds duration → Times key value (.ok (some duration))
  | refused {fault : String} : value ≠ .nil →
      (∀ seconds, secondsOf? value = some seconds → seconds ≤ 0) →
      Times key value (.error (.invalidValue key fault))
  | overflow {seconds : ℚ} : secondsOf? value = some seconds → 2 ^ 64 ≤ seconds + halfNano →
      Times key value (.error .durationOverflow)

theorem readSeconds_times (key : String) {value : ConfigValue}
    (word : ∀ whole, value = .integer whole → whole < 2 ^ 63) :
    Times key value (readSeconds key value) := by
  cases value with
  | nil => exact .absent rfl
  | integer whole =>
      rw [readSeconds]
      split
      · next positive => exact .kept rfl (keeps_integer positive (word whole rfl))
      · next negative => exact .refused (by simp) (by simpa [secondsOf?] using negative)
  | number number =>
      rcases number with _ | _ | ⟨_ | _, mantissa, exponent⟩
      · exact .refused (by simp) (by simp [secondsOf?, Binary64.value?])
      · exact .refused (by simp) (by simp [secondsOf?, Binary64.value?])
      · have value : secondsOf? (.number (.finite false mantissa exponent)) =
            some ((mantissa : ℚ) * 2 ^ exponent) := by simp [secondsOf?, Binary64.value?]
        rw [readSeconds]
        simp only
        split
        · next zero =>
          refine .refused (by simp) ?_
          simp [secondsOf?, Binary64.value?, zero]
        · next nonzero =>
          split
          · next held => exact .kept value (keeps_durationOf nonzero held)
          · next long =>
            rw [durationOf_held, not_lt] at long
            exact .overflow value long
      · have negative : ((-1 : ℚ) * (mantissa * 2 ^ exponent)) ≤ 0 := by
          have natural : (0 : ℚ) ≤ mantissa * 2 ^ exponent := by positivity
          linarith
        refine .refused (by simp) ?_
        simpa [secondsOf?, Binary64.value?] using negative
  | _ => exact .refused (by simp) (by simp [secondsOf?])

section Outcomes

variable {key : String} {value : ConfigValue} {result : Except ConfigError (Option Duration)}

theorem Times.eq_none_iff (times : Times key value result) :
    result = .ok none ↔ value = .nil := by
  have numberless : ∀ seconds, secondsOf? value = some seconds → value ≠ .nil := by
    rintro seconds isNumber rfl
    cases isNumber
  cases times with
  | absent same => simp [same]
  | kept isNumber _ => simp [numberless _ isNumber]
  | refused present _ => simp [present]
  | overflow isNumber _ => simp [numberless _ isNumber]

theorem Times.keeps {duration : Duration} (times : Times key value (.ok (some duration))) :
    ∃ seconds, secondsOf? value = some seconds ∧ Keeps value seconds duration := by
  cases times with
  | kept isNumber keeps => exact ⟨_, isNumber, keeps⟩

theorem Times.refused_iff (times : Times key value result) :
    (∃ fault, result = .error (.invalidValue key fault)) ↔
      value ≠ .nil ∧ ∀ seconds, secondsOf? value = some seconds → seconds ≤ 0 := by
  cases times with
  | absent same => simp [same]
  | kept isNumber keeps =>
      refine iff_of_false (by simp) fun ⟨_, negative⟩ => ?_
      exact absurd (negative _ isNumber) (not_le.mpr keeps.positive)
  | refused present negative => exact iff_of_true ⟨_, rfl⟩ ⟨present, negative⟩
  | overflow isNumber long =>
      refine iff_of_false (by simp) fun ⟨_, negative⟩ => ?_
      have low := negative _ isNumber
      norm_num [halfNano] at long
      linarith

theorem Times.overflow_iff (times : Times key value result) :
    result = .error .durationOverflow ↔
      ∃ seconds, secondsOf? value = some seconds ∧ 2 ^ 64 ≤ seconds + halfNano := by
  cases times with
  | absent same => simp [same, secondsOf?]
  | kept isNumber keeps =>
      refine iff_of_false (by simp) ?_
      rintro ⟨seconds, same, long⟩
      obtain rfl := Option.some.inj (isNumber.symm.trans same)
      exact absurd long (not_le.mpr keeps.below)
  | refused _ negative =>
      refine iff_of_false (by simp) ?_
      rintro ⟨seconds, isNumber, long⟩
      have low := negative _ isNumber
      norm_num [halfNano] at long
      linarith
  | overflow isNumber long => exact iff_of_true rfl ⟨_, isNumber, long⟩

theorem Times.failure {failure : ConfigError} (times : Times key value (.error failure)) :
    failure = .durationOverflow ∨ ∃ fault, failure = .invalidValue key fault := by
  cases times with
  | refused => exact Or.inr ⟨_, rfl⟩
  | overflow => exact Or.inl rfl

end Outcomes

/-! ## From the table to the settings -/

theorem bind_eq_ok {α β : Type} {first : Except ConfigError α} {next : α → Except ConfigError β}
    {result : β} (read : first >>= next = .ok result) :
    ∃ value, first = .ok value ∧ next value = .ok result := by
  cases first with
  | error failure => cases read
  | ok value => exact ⟨value, rfl, read⟩

/-- The timeout of a layer is the one that was read for it. -/
theorem timeout_of_read {table : ConfigTable} {base : Path} {layer : ConfigLayer}
    (ran : read table base = .ok layer) :
    readSeconds "timeoutSecs" (valueAt table "timeoutSecs") = .ok layer.timeout := by
  rw [read, readView] at ran
  iterate 9 obtain ⟨_, _, ran⟩ := bind_eq_ok ran
  obtain ⟨engine, _, ran⟩ := bind_eq_ok ran
  cases engine
  all_goals
    iterate 6 obtain ⟨_, _, ran⟩ := bind_eq_ok ran
    obtain ⟨timeout, timed, ran⟩ := bind_eq_ok ran
    iterate 3 obtain ⟨_, _, ran⟩ := bind_eq_ok ran
    cases ran
    exact timed

/-- What becomes of a timeout.  A positive number is read as the nearest duration, unless no
duration can hold it.  Half a nanosecond or less is read as zero, which is refused only when the
layers are resolved; every other timeout that was read is accepted then. -/
theorem readSeconds_of_value (key : String) {value : ConfigValue}
    (word : ∀ whole, value = .integer whole → whole < 2 ^ 63) :
    (readSeconds key value = .ok none ↔ value = .nil) ∧
    (∀ duration, readSeconds key value = .ok (some duration) →
      ∃ seconds, secondsOf? value = some seconds ∧ Keeps value seconds duration ∧
        ∀ (layer : ConfigLayer) (remote : Remote) (environment : Environment),
          layer.timeout = some duration → layer.remote = .ok remote →
            ((∃ provisioning, layer.provisioning environment = .ok provisioning) ↔
              halfNano < seconds)) ∧
    ((∃ fault, readSeconds key value = .error (.invalidValue key fault)) ↔
      value ≠ .nil ∧ ∀ seconds, secondsOf? value = some seconds → seconds ≤ 0) ∧
    (readSeconds key value = .error .durationOverflow ↔
      ∃ seconds, secondsOf? value = some seconds ∧ 2 ^ 64 ≤ seconds + halfNano) ∧
    (∀ failure, readSeconds key value = .error failure →
      failure = .durationOverflow ∨ ∃ fault, failure = .invalidValue key fault) ∧
    (∀ table base layer, valueAt table "timeoutSecs" = value → read table base = .ok layer →
      readSeconds "timeoutSecs" value = .ok layer.timeout) := by
  have times := readSeconds_times key word
  refine ⟨times.eq_none_iff, fun duration kept => ?_, times.refused_iff, times.overflow_iff,
    fun failure failed => (failed ▸ times).failure, ?_⟩
  · obtain ⟨seconds, isNumber, keeps⟩ := (kept ▸ times).keeps
    refine ⟨seconds, isNumber, keeps, fun layer remote environment held chosen => ?_⟩
    rw [ConfigLayer.provisioning_accepted_iff held chosen, ← Bool.not_eq_true, keeps.isZero, not_le]
  · rintro table base layer rfl ran
    exact timeout_of_read ran

/-- The number nearest to 10⁻¹⁰. -/
def tinyTimeout : ConfigValue :=
  .number (.finite false 7737125245533627 (-86))

/-- The number 10²⁰. -/
def vastTimeout : ConfigValue :=
  .number (.finite false 6103515625000000 14)

/-- A tiny timeout is read as zero and refused later; one that is too long is no duration. -/
theorem readSeconds_of_extremes :
    readSeconds "timeoutSecs" tinyTimeout = .ok (some ⟨0, 0⟩) ∧
      (¬ ∃ provisioning, ConfigLayer.provisioning { timeout := some ⟨0, 0⟩ } ⟨[]⟩ =
        .ok provisioning) ∧
      readSeconds "timeoutSecs" vastTimeout = .error .durationOverflow := by
  have tiny : readSeconds "timeoutSecs" tinyTimeout = .ok (some ⟨0, 0⟩) := by cbv
  have tinyWord : ∀ whole, tinyTimeout = .integer whole → whole < 2 ^ 63 := by simp [tinyTimeout]
  have vastWord : ∀ whole, vastTimeout = .integer whole → whole < 2 ^ 63 := by simp [vastTimeout]
  obtain ⟨_, kept, _⟩ := readSeconds_of_value "timeoutSecs" tinyWord
  obtain ⟨_, _, _, overflow, _⟩ := readSeconds_of_value "timeoutSecs" vastWord
  obtain ⟨seconds, _, keeps, later⟩ := kept _ tiny
  refine ⟨tiny, ?_, overflow.mpr ⟨_, rfl, ?_⟩⟩
  · rw [later _ (.listing Provisioning.defaultListing) _ rfl rfl, not_lt]
    exact keeps.isZero.mp rfl
  · norm_num [halfNano]

end ConfigTable

end TemplateBuild
