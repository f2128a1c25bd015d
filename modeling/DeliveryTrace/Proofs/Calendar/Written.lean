import DeliveryTrace.Calendar.Reading
import DeliveryTrace.Proofs.Text.Numeral

/-! # Times and moments as they are written

A time of day consists of three numerals of two digits. An RFC 3339 moment is a date and a time of
day with an optional fraction and an offset. The main statements say that both are read as they are
written.
-/

namespace DeliveryTrace

open Text

variable {digits word rest : Text}

namespace Reading

/-! ## Times of day -/

theorem mark?_cons (c : Char) (rest : Text) : mark? c (c :: rest) = some rest := if_pos rfl

theorem short?_append (isNumeral : IsNumeral 2 digits) (rest : Text) :
    short? (digits ++ rest) = some (ofDigits digits, rest) := by
  have isWord := isNumeral.isPlainWord.isWord
  rw [short?, trimStart_of_visible (isWord.startsVisible_append rest)]
  exact isNumeral.leadingNumber? (by decide) rest

/-- The word is the time of day in hours, minutes and seconds. -/
inductive IsClock : Text → Clock → Prop
  | mk {hour minute second : Text} {clock : Clock} (isHour : IsNumeral 2 hour)
      (isMinute : IsNumeral 2 minute) (isSecond : IsNumeral 2 second)
      (shown : Clock.ofShown? (ofDigits hour) (ofDigits minute) (ofDigits second) 0 = some clock) :
      IsClock (hour ++ ':' :: (minute ++ ':' :: second)) clock

theorem IsClock.isPlainWord {clock : Clock} (written : IsClock word clock) :
    IsPlainWord word := by
  cases written with
  | mk isHour isMinute isSecond _ =>
      have minutes := isMinute.isPlainWord.append (isPlainWord_colon.append isSecond.isPlainWord)
      exact isHour.isPlainWord.append (isPlainWord_colon.append minutes)

theorem IsClock.clockWord? {clock : Clock} (written : IsClock word clock) :
    clockWord? word = some clock := by
  cases written with
  | @mk hour minute second _ isHour isMinute isSecond shown =>
      have last := short?_append isSecond []
      rw [List.append_nil] at last
      simp only [Reading.clockWord?, clock?, Option.bind_eq_bind, short?_append isHour,
        short?_append isMinute, last, Option.bind_some, mark?_cons, id_eq, shown, Option.pure_def,
        whole?]

/-! ## Moments -/

/-- The fraction of a second in nanoseconds: nothing, or a point and digits, of which nine
count. -/
inductive IsFraction : Text → Nat → Prop
  | whole : IsFraction [] 0
  | digits {digits : Text} (nonempty : digits ≠ []) (numeral : digits.all Char.isDigit = true) :
      IsFraction ('.' :: digits) (ofDigits ((digits.take 9).rightpad 9 '0'))

/-- The offset from universal time: the letter Z, or a sign, hours and minutes. -/
inductive IsOffset : Text → Prop
  | universal {letter : Char} (isZ : letter = 'Z' ∨ letter = 'z') : IsOffset [letter]
  | signed {sign : Char} {hours minutes : Text} (isSign : sign = '+' ∨ sign = '-')
      (areHours : IsNumeral 2 hours) (areMinutes : IsNumeral 2 minutes)
      (shown : ofDigits hours < 24 ∧ ofDigits minutes < 60) :
      IsOffset (sign :: (hours ++ ':' :: minutes))

/-- The word is the moment with its offset, which does not count. -/
inductive IsRfc3339 : Text → Moment → Prop
  | mk {year month day hour minute second fraction offset : Text} {letter : Char} {nanos : Nat}
      {date : Date} {clock : Clock} (isYear : IsNumeral 4 year) (isMonth : IsNumeral 2 month)
      (isDay : IsNumeral 2 day) (isT : letter = 'T' ∨ letter = 't') (isHour : IsNumeral 2 hour)
      (isMinute : IsNumeral 2 minute) (isSecond : IsNumeral 2 second)
      (isFraction : IsFraction fraction nanos) (isOffset : IsOffset offset)
      (dated : Date.ofParts? (ofDigits year) (ofDigits month) (ofDigits day) = some date)
      (shown : Clock.ofShown? (ofDigits hour) (ofDigits minute) (ofDigits second) nanos =
        some clock) :
      IsRfc3339 (year ++ '-' :: (month ++ '-' :: (day ++ letter :: (hour ++ ':' ::
        (minute ++ ':' :: (second ++ (fraction ++ offset))))))) ⟨date, clock⟩

namespace IsOffset

theorem isPlainWord (written : IsOffset word) : IsPlainWord word := by
  cases written with
  | universal isZ => rcases isZ with rfl | rfl <;> decide
  | @signed sign hours minutes isSign areHours areMinutes _ =>
      have plain : IsPlainWord [sign] := by rcases isSign with rfl | rfl <;> decide
      have ofMinutes := isPlainWord_colon.append areMinutes.isPlainWord
      exact plain.append (areHours.isPlainWord.append ofMinutes)

theorem exists_cons (written : IsOffset word) :
    ∃ c tail, word = c :: tail ∧ c.isDigit = false ∧ c ≠ '.' := by
  cases written with
  | universal isZ => exact ⟨_, _, rfl, by rcases isZ with rfl | rfl <;> decide⟩
  | signed isSign => exact ⟨_, _, rfl, by rcases isSign with rfl | rfl <;> decide⟩

theorem offset? (written : IsOffset word) :
    ∃ seconds, whole? (Reading.offset? (mark? ':') word) = some seconds := by
  cases written with
  | universal isZ => rcases isZ with rfl | rfl <;> exact ⟨0, rfl⟩
  | @signed sign hours minutes isSign areHours areMinutes shown =>
      have last := areMinutes.leadingNumber? (Nat.le_refl 2) []
      rw [List.append_nil] at last
      have other : ¬ (sign = 'Z' ∨ sign = 'z') := by rcases isSign with rfl | rfl <;> decide
      have signed : (sign = '+' ∨ sign = '-') ∨ sign = '\u2212' := .inl isSign
      have first := areHours.leadingNumber? (Nat.le_refl 2) (':' :: minutes)
      simp [Reading.offset?, other, signed, first, mark?_cons, last, shown, whole?]

end IsOffset

theorem IsFraction.fraction? {nanos : Nat} (written : IsFraction word nanos)
    (isOffset : IsOffset rest) : fraction? (word ++ rest) = some (nanos, rest) := by
  obtain ⟨c, tail, rfl, other, unpointed⟩ := isOffset.exists_cons
  cases written with
  | whole =>
      rw [List.nil_append, Reading.fraction?]
      rintro _ ⟨⟩
      exact unpointed rfl
  | @digits digits nonempty numeral =>
      rw [List.all_eq_true] at numeral
      have taken : (digits ++ c :: tail).takeWhile Char.isDigit = digits := by
        rw [List.takeWhile_append_of_pos numeral, List.takeWhile_cons_of_neg (by simp [other]),
          List.append_nil]
      have left : (digits ++ c :: tail).dropWhile Char.isDigit = c :: tail := by
        rw [List.dropWhile_append_of_pos numeral, List.dropWhile_cons_of_neg (by simp [other])]
      rw [List.cons_append, Reading.fraction?, taken, left]
      exact if_neg nonempty

theorem IsFraction.isPlainWord_append {nanos : Nat} (written : IsFraction word nanos)
    (plain : IsPlainWord rest) : IsPlainWord (word ++ rest) := by
  cases written with
  | whole => exact plain
  | digits nonempty numeral =>
      have point : IsPlainWord ['.'] := by decide
      have digits := isPlainWord_of_isDigit nonempty numeral
      exact (point.append digits).append plain

theorem IsRfc3339.isPlainWord {moment : Moment} (written : IsRfc3339 word moment) :
    IsPlainWord word := by
  have dash : IsPlainWord ['-'] := by decide
  cases written with
  | @mk year month day hour minute second fraction offset letter nanos date clock isYear isMonth
      isDay isT isHour isMinute isSecond isFraction isOffset _ _ =>
      have mark : IsPlainWord [letter] := by rcases isT with rfl | rfl <;> decide
      have seconds := isSecond.isPlainWord.append
        (isFraction.isPlainWord_append isOffset.isPlainWord)
      have minutes := isMinute.isPlainWord.append (isPlainWord_colon.append seconds)
      have time := isHour.isPlainWord.append (isPlainWord_colon.append minutes)
      exact isYear.isPlainWord.append (dash.append (isMonth.isPlainWord.append (dash.append
        (isDay.isPlainWord.append (mark.append time)))))

theorem IsRfc3339.rfc3339? {moment : Moment} (written : IsRfc3339 word moment) :
    rfc3339? word = some moment := by
  cases written with
  | @mk year month day hour minute second fraction offset letter nanos date clock isYear isMonth
      isDay isT isHour isMinute isSecond isFraction isOffset dated shown =>
      obtain ⟨seconds, away⟩ := isOffset.offset?
      have behindDay (rest : Text) : dateTimeMark? (letter :: rest) = some rest := by
        rcases isT with rfl | rfl <;> rfl
      have two := Nat.le_refl 2
      unfold Reading.rfc3339?
      refine Option.bind_eq_some_iff.mpr ⟨_, isYear.leadingNumber? (Nat.le_refl 4) _, ?_⟩
      refine Option.bind_eq_some_iff.mpr ⟨_, mark?_cons '-' _, ?_⟩
      refine Option.bind_eq_some_iff.mpr ⟨_, isMonth.leadingNumber? two _, ?_⟩
      refine Option.bind_eq_some_iff.mpr ⟨_, mark?_cons '-' _, ?_⟩
      refine Option.bind_eq_some_iff.mpr ⟨_, isDay.leadingNumber? two _, ?_⟩
      refine Option.bind_eq_some_iff.mpr ⟨_, behindDay _, ?_⟩
      refine Option.bind_eq_some_iff.mpr ⟨_, isHour.leadingNumber? two _, ?_⟩
      refine Option.bind_eq_some_iff.mpr ⟨_, mark?_cons ':' _, ?_⟩
      refine Option.bind_eq_some_iff.mpr ⟨_, isMinute.leadingNumber? two _, ?_⟩
      refine Option.bind_eq_some_iff.mpr ⟨_, mark?_cons ':' _, ?_⟩
      refine Option.bind_eq_some_iff.mpr ⟨_, isSecond.leadingNumber? two _, ?_⟩
      refine Option.bind_eq_some_iff.mpr ⟨_, isFraction.fraction? isOffset, ?_⟩
      refine Option.bind_eq_some_iff.mpr ⟨_, away, ?_⟩
      refine Option.bind_eq_some_iff.mpr ⟨_, dated, ?_⟩
      exact Option.bind_eq_some_iff.mpr ⟨_, shown, rfl⟩

end Reading

end DeliveryTrace
