import DeliveryTrace.Calendar.Reading
import Mathlib.Data.List.Basic

/-! # Dates and moments are written differently

Each reader takes a part off the start of a text. What the reader of a date takes has no colon, and
an RFC 3339 moment has colons in its time. So no word is a date of a log line and an RFC 3339 moment
at once.
-/

namespace DeliveryTrace.Reading

open Text

/-- The rest stands behind a part of the text that has no colon. -/
def PassesNoColon (text rest : Text) : Prop := ∃ part, ':' ∉ part ∧ text = part ++ rest

variable {text middle rest : Text}

theorem PassesNoColon.trans (first : PassesNoColon text middle)
    (second : PassesNoColon middle rest) : PassesNoColon text rest := by
  obtain ⟨part, absent, rfl⟩ := first
  obtain ⟨more, missing, rfl⟩ := second
  refine ⟨part ++ more, ?_, (List.append_assoc part more rest).symm⟩
  simp [absent, missing]

theorem PassesNoColon.mem (passes : PassesNoColon text rest) (colon : ':' ∈ rest) :
    ':' ∈ text := by
  obtain ⟨part, _, rfl⟩ := passes
  exact List.mem_append_right part colon

theorem not_mem_of_passesNoColon (passes : PassesNoColon text []) : ':' ∉ text := by
  obtain ⟨part, absent, rfl⟩ := passes
  rwa [List.append_nil]

/-! ## Single readers -/

theorem passesNoColon_trimStart (text : Text) : PassesNoColon text (trimStart text) := by
  obtain ⟨gap, blank, same⟩ := exists_gap_append_trimStart text
  exact ⟨gap, fun member => absurd (blank ':' member) (by decide), same⟩

/-- A number is a run of digits at the start of a text. -/
theorem exists_digits_of_leadingNumber? {least most value : Nat}
    (found : leadingNumber? least most text = some (value, rest)) :
    ∃ digits : Text, (∀ c ∈ digits, c.isDigit = true) ∧ least ≤ digits.length ∧
      text = digits ++ rest := by
  unfold leadingNumber? at found
  have leads : (text.take most).takeWhile Char.isDigit <+: text :=
    (List.takeWhile_prefix _).trans (List.take_prefix most text)
  simp only [Option.ite_none_left_eq_some, Option.some.injEq, Prod.mk.injEq] at found
  obtain ⟨enough, _, rfl⟩ := found
  exact ⟨_, List.all_eq_true.mp List.all_takeWhile, Nat.not_lt.mp enough,
    (List.prefix_iff_eq_append.mp leads).symm⟩

theorem passesNoColon_leadingNumber? {least most value : Nat}
    (found : leadingNumber? least most text = some (value, rest)) : PassesNoColon text rest := by
  obtain ⟨digits, numeral, _, same⟩ := exists_digits_of_leadingNumber? found
  exact ⟨digits, fun member => absurd (numeral ':' member) (by decide), same⟩

theorem eq_cons_of_mark? {c : Char} (found : mark? c text = some rest) : text = c :: rest := by
  cases text with
  | nil => cases found
  | cons first text =>
      simp only [mark?, Option.ite_none_right_eq_some, Option.some.injEq] at found
      rw [found.1, found.2]

theorem passesNoColon_mark? {c : Char} (other : c ≠ ':') (found : mark? c text = some rest) :
    PassesNoColon text rest :=
  ⟨[c], by simp [other.symm], eq_cons_of_mark? found⟩

theorem passesNoColon_short? {value : Nat} (found : short? text = some (value, rest)) :
    PassesNoColon text rest :=
  (passesNoColon_trimStart text).trans (passesNoColon_leadingNumber? found)

theorem passesNoColon_year? {year : Int} (found : year? text = some (year, rest)) :
    PassesNoColon text rest := by
  unfold year? at found
  apply (passesNoColon_trimStart text).trans
  split at found
  · next digits signed =>
    obtain ⟨⟨value, _⟩, number, same⟩ := Option.map_eq_some_iff.mp found
    cases same
    rw [signed]
    exact .trans ⟨['-'], by decide, rfl⟩ (passesNoColon_leadingNumber? number)
  · next digits signed =>
    obtain ⟨⟨value, _⟩, number, same⟩ := Option.map_eq_some_iff.mp found
    cases same
    rw [signed]
    exact .trans ⟨['+'], by decide, rfl⟩ (passesNoColon_leadingNumber? number)
  · obtain ⟨⟨value, _⟩, number, same⟩ := Option.map_eq_some_iff.mp found
    cases same
    exact passesNoColon_leadingNumber? number

theorem passesNoColon_dateTimeMark? (found : dateTimeMark? text = some rest) :
    PassesNoColon text rest := by
  cases text with
  | nil => cases found
  | cons c text =>
      simp only [dateTimeMark?, Bool.or_eq_true, decide_eq_true_eq, Option.ite_none_right_eq_some,
        Option.some.injEq] at found
      obtain ⟨letter, rfl⟩ := found
      refine ⟨[c], ?_, rfl⟩
      rcases letter with (rfl | rfl) | rfl <;> decide

/-! ## Dates and moments -/

/-- A date of a log line has no colon. -/
theorem colon_not_mem_of_dateWord? {date : Date} (read : dateWord? text = some date) :
    ':' ∉ text := by
  apply not_mem_of_passesNoColon
  unfold dateWord? whole? at read
  split at read
  · next found =>
    simp only [date?, id_eq, Option.bind_eq_bind, Option.bind_eq_some_iff, Option.pure_def,
      Option.some.injEq, Prod.mk.injEq] at found
    obtain ⟨⟨_, afterYear⟩, year, _, hyphen, ⟨_, afterMonth⟩, month, _, second, ⟨_, _⟩, day, _, _,
      _, rfl⟩ := found
    have dash : '-' ≠ ':' := by decide
    exact (passesNoColon_year? year).trans <| (passesNoColon_mark? dash hyphen).trans <|
      (passesNoColon_short? month).trans <| (passesNoColon_mark? dash second).trans <|
      passesNoColon_short? day
  · cases read

/-- An RFC 3339 moment has a colon behind its hour. -/
theorem colon_mem_of_rfc3339? {moment : Moment} (read : rfc3339? text = some moment) :
    ':' ∈ text := by
  unfold rfc3339? at read
  obtain ⟨_, year, read⟩ := Option.bind_eq_some_iff.mp read
  obtain ⟨_, hyphen, read⟩ := Option.bind_eq_some_iff.mp read
  obtain ⟨_, month, read⟩ := Option.bind_eq_some_iff.mp read
  obtain ⟨_, second, read⟩ := Option.bind_eq_some_iff.mp read
  obtain ⟨_, day, read⟩ := Option.bind_eq_some_iff.mp read
  obtain ⟨_, letter, read⟩ := Option.bind_eq_some_iff.mp read
  obtain ⟨⟨_, afterHour⟩, hour, read⟩ := Option.bind_eq_some_iff.mp read
  obtain ⟨_, colon, _⟩ := Option.bind_eq_some_iff.mp read
  have dash : '-' ≠ ':' := by decide
  have front : PassesNoColon text afterHour :=
    (passesNoColon_leadingNumber? year).trans <| (passesNoColon_mark? dash hyphen).trans <|
      (passesNoColon_leadingNumber? month).trans <| (passesNoColon_mark? dash second).trans <|
      (passesNoColon_leadingNumber? day).trans <| (passesNoColon_dateTimeMark? letter).trans <|
      passesNoColon_leadingNumber? hour
  have stands : afterHour = ':' :: _ := eq_cons_of_mark? colon
  apply front.mem
  rw [stands]
  exact List.mem_cons_self

theorem rfc3339?_eq_none_of_dateWord? {date : Date} (read : dateWord? text = some date) :
    rfc3339? text = none := by
  rw [Option.eq_none_iff_forall_ne_some]
  intro moment other
  exact colon_not_mem_of_dateWord? read (colon_mem_of_rfc3339? other)

end DeliveryTrace.Reading
