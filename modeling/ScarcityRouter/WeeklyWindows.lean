import ScarcityRouter.Policy

namespace ScarcityRouter

/-!
# Weekly windows on the calendar

The meaning of a weekly rule as the set of its occurrences: on every included weekday `d` one
interval of wall-clock minutes, `[opens d, closes d)`, that may run past midnight.

* `wallMinute` — the wall clock in minutes from the epoch; a day and a minute of it.
* `WeeklyRule.StartsOn`, `opens`, `closes`, `InWindow` — the occurrences of a rule.
* `WeeklyRule.InDates` — the inclusive date bounds, of one calendar day.
* `weeklyWindowContains_iff` — **the minute tests of the code are the occurrences**.
* `weeklyRule_covers_iff` — what a rule covers and what it reports as date-expired: the bounds are
  those of the instant's own local date.
* `bounds_of_starting_day_refused` — the early hours after the last permitted date, where the
  starting day would be within the bounds and the instant's own date is not.
-/

section Calendar

variable [Platform]

/-- The local wall clock, in minutes from the epoch. -/
def wallMinute (timezone : TimeZoneName) (at_ : Instant) : ℤ :=
  localClock timezone at_ / 60000000

/-- The wall clock is a day and a minute of the day. -/
theorem wallMinute_eq (timezone : TimeZoneName) (at_ : Instant) :
    wallMinute timezone at_ = 1440 * localDate timezone at_ + minuteOfDay timezone at_ := by
  unfold wallMinute localDate minuteOfDay dayLength
  omega

theorem minuteOfDay_bounds (timezone : TimeZoneName) (at_ : Instant) :
    0 ≤ minuteOfDay timezone at_ ∧ minuteOfDay timezone at_ < 1440 := by
  unfold minuteOfDay dayLength
  omega

end Calendar

namespace WeeklyRule

variable (rule : WeeklyRule)

/-! ### Occurrences -/

/-- An occurrence starts on the day: its weekday is included. -/
def StartsOn (d : ℤ) : Prop := ∃ w ∈ rule.weekdays, (w.val : ℤ) = (d + 3) % 7

/-- The first minute of the occurrence of a day. -/
def opens (d : ℤ) : ℤ := 1440 * d + rule.startLocal.val

/-- The first minute after it: an end that is not after the start is of the following day. -/
def closes (d : ℤ) : ℤ :=
  1440 * (if rule.startLocal < rule.endLocal then d else d + 1) + rule.endLocal.val

/-- The day is within the date bounds. -/
def InDates (d : ℤ) : Prop := (∀ s ∈ rule.startDate, s ≤ d) ∧ ∀ e ∈ rule.endDate, d ≤ e

section Coverage

variable [Platform] (at_ : Instant)

/-- The instant is within the occurrence of the day. -/
def Within (d : ℤ) : Prop :=
  rule.opens d ≤ wallMinute rule.timezone at_ ∧ wallMinute rule.timezone at_ < rule.closes d

/-- The instant is within an occurrence. -/
def InWindow : Prop := ∃ d, rule.StartsOn d ∧ rule.Within at_ d

/-- The instant is within an occurrence whose starting day is within the date bounds. -/
def InDatedWindow : Prop := ∃ d, rule.StartsOn d ∧ rule.InDates d ∧ rule.Within at_ d

end Coverage

/-! ### The minute tests -/

section Tests

variable {rule} [Platform] {at_ : Instant}

/-- A window that ends after its start covers a day from start to end, and no other day. -/
theorem within_iff_of_lt (h : rule.startLocal < rule.endLocal) {d : ℤ} :
    rule.Within at_ d ↔ d = localDate rule.timezone at_ ∧
      rule.startLocal.val ≤ minuteOfDay rule.timezone at_ ∧
      minuteOfDay rule.timezone at_ < rule.endLocal.val := by
  have hminute := minuteOfDay_bounds rule.timezone at_
  have hstart := rule.startLocal.isLt
  have hend := rule.endLocal.isLt
  unfold Within opens closes
  rw [if_pos h, wallMinute_eq]
  omega

/-- Another window covers a day from the start, and the next day up to the end. -/
theorem within_iff_of_not_lt (h : ¬ rule.startLocal < rule.endLocal) {d : ℤ} :
    rule.Within at_ d ↔
      d = localDate rule.timezone at_ ∧
        rule.startLocal.val ≤ minuteOfDay rule.timezone at_ ∨
      d = localDate rule.timezone at_ - 1 ∧
        minuteOfDay rule.timezone at_ < rule.endLocal.val := by
  have hminute := minuteOfDay_bounds rule.timezone at_
  have hstart := rule.startLocal.isLt
  have hend := rule.endLocal.isLt
  have hle : rule.endLocal.val ≤ rule.startLocal.val := not_lt.mp h
  unfold Within opens closes
  rw [if_neg h, wallMinute_eq]
  omega

omit [Platform] in
/-- The weekday test of the code is the one of the calendar. -/
theorem any_weekday_iff {n d : ℤ} (h : n = (d + 3) % 7) :
    (rule.weekdays.any fun w => (w.val : ℤ) = n) = true ↔ rule.StartsOn d := by
  unfold StartsOn
  rw [List.any_eq_true, h]
  simp only [decide_eq_true_eq]

/-- **The minute tests of the code are the occurrences.** -/
theorem weeklyWindowContains_iff :
    weeklyWindowContains rule at_ = true ↔ rule.InWindow at_ := by
  have htoday := @any_weekday_iff rule (localWeekday rule.timezone at_)
    (localDate rule.timezone at_) rfl
  have hyesterday := @any_weekday_iff rule ((localWeekday rule.timezone at_ - 1) % 7)
    (localDate rule.timezone at_ - 1) (by unfold localWeekday; omega)
  unfold weeklyWindowContains InWindow
  by_cases h : rule.startLocal < rule.endLocal
  · simp only [if_pos h, Bool.and_eq_true, decide_eq_true_eq, htoday, within_iff_of_lt h]
    constructor
    · rintro ⟨⟨hday, hstart⟩, hend⟩
      exact ⟨_, hday, rfl, hstart, hend⟩
    · rintro ⟨d, hday, rfl, hstart, hend⟩
      exact ⟨⟨hday, hstart⟩, hend⟩
  · simp only [if_neg h, Bool.or_eq_true, Bool.and_eq_true, decide_eq_true_eq, htoday, hyesterday,
      within_iff_of_not_lt h, ge_iff_le]
    constructor
    · rintro (⟨hday, hstart⟩ | ⟨hday, hend⟩)
      · exact ⟨_, hday, .inl ⟨rfl, hstart⟩⟩
      · exact ⟨_, hday, .inr ⟨rfl, hend⟩⟩
    · rintro ⟨d, hday, ⟨rfl, hstart⟩ | ⟨rfl, hend⟩⟩
      · exact .inl ⟨hday, hstart⟩
      · exact .inr ⟨hday, hend⟩

/-- The bounds test of the code is on the instant's own date. -/
theorem dateBoundsContain_iff :
    dateBoundsContain rule at_ = true ↔ rule.InDates (localDate rule.timezone at_) := by
  unfold dateBoundsContain InDates
  rw [Bool.and_eq_true, Option.all_eq_true, Option.all_eq_true]
  simp only [decide_eq_true_eq, Option.mem_def]

/-- Where the window does not run past midnight, the starting day is the instant's own date. -/
theorem inDatedWindow_iff_of_lt (h : rule.startLocal < rule.endLocal) :
    rule.InDatedWindow at_ ↔
      rule.InWindow at_ ∧ rule.InDates (localDate rule.timezone at_) := by
  unfold InDatedWindow InWindow
  constructor
  · rintro ⟨d, hday, hdates, hwithin⟩
    obtain rfl := ((within_iff_of_lt h).mp hwithin).1
    exact ⟨⟨_, hday, hwithin⟩, hdates⟩
  · rintro ⟨⟨d, hday, hwithin⟩, hdates⟩
    obtain rfl := ((within_iff_of_lt h).mp hwithin).1
    exact ⟨_, hday, hdates, hwithin⟩

theorem coversAt_iff : rule.coversAt at_ = true ↔
    rule.InWindow at_ ∧ rule.InDates (localDate rule.timezone at_) := by
  unfold coversAt
  rw [Bool.and_eq_true, weeklyWindowContains_iff, dateBoundsContain_iff]

theorem isDateExpiredAt_iff : rule.isDateExpiredAt at_ = true ↔
    rule.InWindow at_ ∧ ¬ rule.InDates (localDate rule.timezone at_) := by
  unfold isDateExpiredAt
  rw [Bool.and_eq_true, weeklyWindowContains_iff, Bool.not_eq_true', ← dateBoundsContain_iff,
    Bool.not_eq_true]

end Tests

end WeeklyRule

/-- **What a weekly rule covers.** A rule is active exactly when the instant's wall clock is within
    an occurrence, which may run past midnight under the weekday of its starting day, and the
    instant's own local date is within the bounds; without running past midnight these are the
    bounds of the starting day. It is date-expired exactly when it would be active but for the
    bounds, so past its end date it is never active and reported expired in its windows. -/
theorem weeklyRule_covers_iff [Platform] (rule : WeeklyRule) (at_ : Instant) :
    (rule.coversAt at_ = true ↔
      rule.InWindow at_ ∧ rule.InDates (localDate rule.timezone at_)) ∧
    (rule.startLocal < rule.endLocal → (rule.coversAt at_ = true ↔ rule.InDatedWindow at_)) ∧
    (rule.isDateExpiredAt at_ = true ↔
      rule.InWindow at_ ∧ ¬ rule.InDates (localDate rule.timezone at_)) ∧
    (∀ e ∈ rule.endDate, e < localDate rule.timezone at_ →
      rule.coversAt at_ = false ∧ (rule.InWindow at_ → rule.isDateExpiredAt at_ = true)) := by
  refine ⟨rule.coversAt_iff, fun h => ?_, rule.isDateExpiredAt_iff, fun e he hpast => ?_⟩
  · rw [WeeklyRule.coversAt_iff, WeeklyRule.inDatedWindow_iff_of_lt h]
  · have hout : ¬ rule.InDates (localDate rule.timezone at_) := fun hdates =>
      not_le.mpr hpast (hdates.2 e he)
    refine ⟨?_, fun hwindow => WeeklyRule.isDateExpiredAt_iff.mpr ⟨hwindow, hout⟩⟩
    rw [← Bool.not_eq_true, WeeklyRule.coversAt_iff]
    exact fun h => hout h.2

/-- Friday nights from 22:00 to 06:00, up to Friday, 2 January 1970. -/
def fridayNight : WeeklyRule where
  ruleId := .lit "friday-night"
  target := { provider := .lit "openai", supported := openai_supported }
  timezone := "UTC"
  weekdays := [4]
  startLocal := 1320
  endLocal := 360
  reasonCode := .lit "night"
  endDate := some 1

/-- **The early hours after the last permitted date**: on Saturday at 02:00 the night of the
    permitted Friday still runs, and the rule is not active. -/
theorem bounds_of_starting_day_refused : ¬ ∀ [Platform] (rule : WeeklyRule) (at_ : Instant),
    rule.coversAt at_ = true ↔ rule.InDatedWindow at_ := by
  intro h
  let _ := utcPlatform
  have hcovers : fridayNight.coversAt 180000000000 = false := by decide +kernel
  have hwindow : fridayNight.InDatedWindow 180000000000 := by
    refine ⟨1, ⟨4, List.mem_singleton.mpr rfl, by decide⟩, ⟨?_, ?_⟩, ?_⟩
    · intro s hs
      cases hs
    · intro e he
      obtain rfl := Option.some.inj he
      exact le_refl _
    · exact ⟨by decide +kernel, by decide +kernel⟩
  rw [(h fridayNight 180000000000).mpr hwindow] at hcovers
  cases hcovers

end ScarcityRouter
