import DeliveryTrace.Text.Blank

/-! # Cutting a text at a mark

Texts are cut behind a mark that they start with, at its first occurrence, at the last occurrence of
a character, or at every occurrence of one. The main statement says that a cut loses nothing but the
mark.
-/

namespace DeliveryTrace.Text

/-- The text behind a mark that it starts with. -/
def behind? : (mark text : Text) → Option Text
  | [], text => some text
  | _ :: _, [] => none
  | m :: mark, c :: text => if m = c then behind? mark text else none

/-- Whether a text starts with a mark. -/
def startsWith (mark text : Text) : Bool := (behind? mark text).isSome

/-- The text in front of a last character that must be the given one. -/
def withoutEnd? (c : Char) (text : Text) : Option Text :=
  if text.getLast? = some c then some text.dropLast else none

/-- The parts before and after the first occurrence of `mark`. -/
def cut? (mark : Text) : Text → Option (Text × Text)
  | [] => if mark = [] then some ([], []) else none
  | c :: rest =>
    match behind? mark (c :: rest) with
    | some after => some ([], after)
    | none => (cut? mark rest).map fun (before, after) => (c :: before, after)

/-- The parts before and after the last occurrence of the character `mark`. -/
def cutLast? (mark : Char) : Text → Option (Text × Text)
  | [] => none
  | c :: rest =>
    match cutLast? mark rest with
    | some (before, after) => some (c :: before, after)
    | none => if c = mark then some ([], rest) else none

/-- The texts that follow the occurrences of `mark`, leftmost occurrence first. -/
def afters (mark : Text) : Text → List Text
  | [] => []
  | c :: rest =>
    match behind? mark (c :: rest) with
    | some after => after :: afters mark rest
    | none => afters mark rest

/-- Whether `mark` occurs in a text. -/
def occurs (mark text : Text) : Bool := (cut? mark text).isSome

/-- The pieces between the occurrences of the character `mark`: one more than it occurs. -/
def pieces (mark : Char) : Text → List Text
  | [] => [[]]
  | c :: rest =>
    if c = mark then [] :: pieces mark rest
    else
      match pieces mark rest with
      | [] => [[c]]
      | first :: others => (c :: first) :: others

/-- The inside of a text that starts with `opening` and, after that, ends with `closing`. -/
def inside? (opening closing : Char) : Text → Option Text
  | [] => none
  | c :: rest => if c = opening then withoutEnd? closing rest else none

/-- Remove one surrounding pair of marks; a text without the pair stays as it is. -/
def unwrap (opening closing : Char) (text : Text) : Text :=
  (inside? opening closing text).getD text

/-- A mark and what stands behind it are the whole text. -/
theorem behind?_eq_some_iff {mark text rest : Text} :
    behind? mark text = some rest ↔ text = mark ++ rest := by
  fun_induction behind? mark text with
  | case1 => simp [eq_comm]
  | case2 => simp
  | case3 mark c text ih => simp [ih]
  | case4 m mark c text different => simp [Ne.symm different]

theorem length_of_behind? {mark text rest : Text} (found : behind? mark text = some rest) :
    rest.length ≤ text.length := by
  rw [behind?_eq_some_iff.mp found, List.length_append]
  exact Nat.le_add_left _ _

/-- A last character and what stands in front of it are the whole text. -/
theorem withoutEnd?_eq_some_iff {c : Char} {text before : Text} :
    withoutEnd? c text = some before ↔ text = before ++ [c] := by
  unfold withoutEnd?
  constructor
  · intro found
    split at found
    · next last =>
      obtain ⟨before', rfl⟩ := List.getLast?_eq_some_iff.mp last
      simpa using found
    · simp at found
  · rintro rfl
    simp

/-- A cut loses nothing but the mark. -/
theorem append_of_cut? {mark text before after : Text}
    (found : cut? mark text = some (before, after)) : text = before ++ mark ++ after := by
  fun_induction cut? mark text generalizing before with
  | case1 => simp_all
  | case2 => simp at found
  | case3 c rest tail leads =>
    obtain ⟨rfl, rfl⟩ := Prod.mk.inj (Option.some.inj found)
    exact behind?_eq_some_iff.mp leads
  | case4 c rest leads ih =>
    obtain ⟨⟨before, after⟩, inner, same⟩ := Option.map_eq_some_iff.mp found
    obtain ⟨rfl, rfl⟩ := Prod.mk.inj same
    simp [ih inner]

end DeliveryTrace.Text
