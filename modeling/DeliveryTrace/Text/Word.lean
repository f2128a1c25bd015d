import DeliveryTrace.Text.Cut

/-! # The words of a log line

Both mail servers write `KEY=value` and `KEY="quoted value"` words. A quoted value may hold blanks
and, after a backslash, quotes, so a word ends only at an ASCII blank outside quotes; before the
next word every blank is skipped. The main statement says that reading one word splits the trimmed
text, so that the words of a text exhaust it.
-/

namespace DeliveryTrace.Text

/-- Split a text where its first word ends. Inside quotes a backslash hides the next character. -/
def scanWord : (quoted : Bool) → Text → Text × Text
  | _, [] => ([], [])
  | quoted, c :: rest =>
    if quoted && c = '\\' then
      match rest with
      | [] => ([c], [])
      | hidden :: rest =>
        let (word, after) := scanWord quoted rest
        (c :: hidden :: word, after)
    else if !quoted && isAsciiBlank c then ([], c :: rest)
    else
      let (word, after) := scanWord (if c = '"' then !quoted else quoted) rest
      (c :: word, after)

/-- The word and what follows it are the whole text. -/
theorem scanWord_append (quoted : Bool) (text : Text) :
    (scanWord quoted text).1 ++ (scanWord quoted text).2 = text := by
  fun_induction scanWord quoted text <;> simp_all

/-- A text that starts with no ASCII blank has a first word. -/
theorem scanWord_ne_nil {c : Char} {rest : Text} (visible : isAsciiBlank c = false) :
    (scanWord false (c :: rest)).1 ≠ [] := by
  rw [scanWord.eq_def]
  simp [visible]

/-- The first word of a text and the rest behind it, both without leading blanks. -/
def splitWord? (text : Text) : Option (Text × Text) :=
  match trimStart text with
  | [] => none
  | start => some ((scanWord false start).1, trimStart (scanWord false start).2)

theorem length_trimStart_le (text : Text) : (trimStart text).length ≤ text.length :=
  (List.dropWhile_suffix isBlank).length_le

/-- What is left after a word is shorter than the text. -/
theorem length_of_splitWord? {text word rest : Text}
    (found : splitWord? text = some (word, rest)) : rest.length < text.length := by
  unfold splitWord? at found
  split at found
  · simp at found
  · next start nonempty =>
    obtain ⟨rfl, rfl⟩ := Prod.mk.inj (Option.some.inj found)
    obtain ⟨c, tail, same⟩ := List.exists_cons_of_ne_nil nonempty
    have visible : isAsciiBlank c = false := by
      have shown : isBlank c = false := by
        have kept := List.head?_dropWhile_not isBlank text
        simpa [show text.dropWhile isBlank = c :: tail from same] using kept
      cases ascii : isAsciiBlank c with
      | false => rfl
      | true => simp [isBlank_of_isAsciiBlank ascii] at shown
    have whole := congrArg List.length (scanWord_append false (trimStart text))
    have word := List.length_pos_iff.mpr (same ▸ @scanWord_ne_nil c tail visible)
    have shorter := length_trimStart_le (scanWord false (trimStart text)).2
    have bounded := length_trimStart_le text
    simp only [List.length_append] at whole
    omega

/-- All words of a text, in order. -/
def words (text : Text) : List Text :=
  match _found : splitWord? text with
  | none => []
  | some (word, rest) => word :: words rest
termination_by text.length
decreasing_by exact length_of_splitWord? ‹_›

/-- The value of the first word `key=value`, without one surrounding pair of quotes. -/
def field? (key text : Text) : Option Text :=
  ((words text).findSome? (behind? (key ++ ['=']))).map (unwrap '"' '"')

end DeliveryTrace.Text
