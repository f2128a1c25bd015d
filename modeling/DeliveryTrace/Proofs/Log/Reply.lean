import DeliveryTrace.Log.Reply
import DeliveryTrace.Proofs.Text.Escape

/-! # Replies that were escaped

A reply is logged in quotes, with its own quotes escaped, and is read as it is logged. The code
stays the same. The main statement says what becomes of the identifier: the first `id=` word is
missed exactly if a word with a quote stands in front of it, and then `queued as` is all that counts.
-/

namespace DeliveryTrace.Reply

open Text

variable {reply named : Text}

/-! ## The code -/

theorem code?_eq_some_iff {text : Text} {code : Nat} :
    code? text = some code ↔ ∃ a b c rest, trimStart text = a :: b :: c :: rest ∧
      ('2' ≤ a ∧ a ≤ '5' ∧ b.isDigit ∧ c.isDigit ∧ endsCode rest) ∧ ofDigits [a, b, c] = code := by
  unfold code?
  split
  · next a b c rest start =>
    rw [Option.ite_none_right_eq_some, start]
    constructor
    · rintro ⟨valid, found⟩
      exact ⟨a, b, c, rest, rfl, valid, Option.some.inj found⟩
    · rintro ⟨_, _, _, _, same, valid, found⟩
      cases same
      exact ⟨valid, congrArg some found⟩
  · next short =>
    refine iff_of_false nofun ?_
    rintro ⟨a, b, c, rest, start, _⟩
    exact short a b c rest start

theorem not_isSpecial_of_isDigit {c : Char} (digit : c.isDigit = true) : ¬ IsSpecial c := by
  rintro (rfl | rfl) <;> cases digit

theorem not_isSpecial_of_le {c : Char} (least : '2' ≤ c) (most : c ≤ '5') : ¬ IsSpecial c := by
  rintro (rfl | rfl)
  · exact absurd least (by decide)
  · exact absurd most (by decide)

theorem endsCode_escaped (text : Text) : endsCode (escaped text) = endsCode text := by
  cases text with
  | nil => rfl
  | cons c text =>
      by_cases special : IsSpecial c
      · rw [escaped_cons_of_special special]
        rcases special with rfl | rfl <;> rfl
      · rw [escaped_cons special]
        rfl

/-- No quote stands within a code or right behind it, so escaping leaves the code alone. -/
theorem code?_escaped (reply : Text) : code? (escaped reply) = code? reply := by
  ext code
  rw [code?_eq_some_iff, code?_eq_some_iff, trimStart_escaped]
  constructor
  · rintro ⟨a, b, c, rest, start, ⟨least, most, second, third, ends⟩, found⟩
    obtain ⟨_, whole, inner⟩ :=
      exists_cons_of_escaped_eq_cons (not_isSpecial_of_le least most) start
    obtain ⟨_, rfl, innermost⟩ :=
      exists_cons_of_escaped_eq_cons (not_isSpecial_of_isDigit second) inner
    obtain ⟨behind, rfl, rfl⟩ :=
      exists_cons_of_escaped_eq_cons (not_isSpecial_of_isDigit third) innermost
    rw [endsCode_escaped] at ends
    exact ⟨a, b, c, behind, whole, ⟨least, most, second, third, ends⟩, found⟩
  · rintro ⟨a, b, c, rest, start, ⟨least, most, second, third, ends⟩, found⟩
    refine ⟨a, b, c, escaped rest, ?_, ⟨least, most, second, third, ?_⟩, found⟩
    · rw [start, escaped_cons (not_isSpecial_of_le least most),
        escaped_cons (not_isSpecial_of_isDigit second),
        escaped_cons (not_isSpecial_of_isDigit third)]
    · rwa [endsCode_escaped]

/-! ## The identifier -/

/-- The identifier that a word names, without closing punctuation. -/
def identifier? (named : Text) : Option Text :=
  let identifier := dropTail isClosing named
  if isIdentifier identifier then some identifier else none

/-- The identifier in the word behind the first `queued as`. -/
def queuedAs? (reply : Text) : Option Text := do
  let (_, after) ← cut? "queued as ".toList reply
  let (named, _) ← splitWord? after
  identifier? named

/-- The first `id=` word decides; without one `queued as` does. -/
theorem queueId?_eq (reply : Text) :
    queueId? reply =
      match (words reply).findSome? (behind? "id=".toList) with
      | some named => identifier? named
      | none => queuedAs? reply := by
  unfold queueId? namedWord? queuedAs?
  cases (words reply).findSome? (behind? "id=".toList) with
  | some named => rfl
  | none =>
      cases cut? "queued as ".toList reply with
      | none => rfl
      | some parts => cases found : splitWord? parts.2 <;> simp [found, identifier?]

theorem identifier?_of_special {c : Char} (member : c ∈ named) (special : IsSpecial c) :
    identifier? named = none := by
  have kept : c ∈ dropTail isClosing named := by
    apply mem_dropTail member
    rcases special with rfl | rfl <;> rfl
  apply if_neg
  intro identifies
  simp only [isIdentifier, Bool.and_eq_true, List.all_eq_true] at identifies
  have marked := identifies.2 c kept
  rcases special with rfl | rfl <;> cases marked

/-- What is escaped in a word keeps it from being an identifier. -/
theorem identifier?_escaped (named : Text) : identifier? (escaped named) = identifier? named := by
  by_cases hidden : ∃ c ∈ named, IsSpecial c
  · obtain ⟨c, member, special⟩ := hidden
    rw [identifier?_of_special member special, identifier?_of_special (mem_escaped member) special]
  · rw [escaped_eq_self fun c member special => hidden ⟨c, member, special⟩]

theorem queuedAs?_escaped (reply : Text) : queuedAs? (escaped reply) = queuedAs? reply := by
  unfold queuedAs?
  rw [cut?_escaped (by decide) (not_isSpecial_of_not_mem (by decide) (by decide))]
  cases cut? "queued as ".toList reply with
  | none => rfl
  | some parts =>
      simp only [Option.map_some, Option.bind_eq_bind, Option.bind_some]
      cases found : splitWord? parts.2 with
      | none => rw [splitWord?_escaped_eq_none_iff.mpr found]
      | some split =>
          by_cases quote : '"' ∈ split.1
          · obtain ⟨more, last⟩ := splitWord?_escaped_of_mem found quote
            have inside : '"' ∈ escaped (split.1 ++ more) :=
              mem_escaped (List.mem_append_left more quote)
            rw [last, Option.bind_some, Option.bind_some, identifier?_of_special inside (.inl rfl),
              identifier?_of_special quote (.inl rfl)]
          · rw [splitWord?_escaped found quote, Option.bind_some, Option.bind_some,
              identifier?_escaped]

/-- A word with a quote stands in front of the first `id=` word of the reply. -/
def QuotesBeforeId (reply : Text) : Prop :=
  ∃ before named after, words reply = before ++ ("id=".toList ++ named) :: after ∧
    (∀ word ∈ before, ¬ "id=".toList <+: word) ∧ ∃ word ∈ before, '"' ∈ word

theorem ordinary_id : ∀ m ∈ "id=".toList, ¬ IsSpecial m :=
  not_isSpecial_of_not_mem (by decide) (by decide)

theorem findSome?_map_escaped (written : List Text) :
    (written.map escaped).findSome? (behind? "id=".toList) =
      (written.findSome? (behind? "id=".toList)).map escaped := by
  rw [List.findSome?_map, List.map_findSome?]
  congr 1
  funext word
  exact behind?_escaped ordinary_id word

/-- Up to the first word with a quote an escaped reply is read as the reply is. -/
theorem queueId?_escaped_of_mem {front later : List Text} {word : Text}
    (split : words reply = front ++ word :: later) (unquoted : ∀ word ∈ front, '"' ∉ word)
    (quote : '"' ∈ word) :
    queueId? (escaped reply) =
      match (front ++ [word]).findSome? (behind? "id=".toList) with
      | some named => identifier? named
      | none => queuedAs? reply := by
  obtain ⟨more, written⟩ := words_escaped_of_mem split unquoted quote
  rw [queueId?_eq, written, List.findSome?_append, List.findSome?_append, findSome?_map_escaped,
    queuedAs?_escaped, List.findSome?_singleton, List.findSome?_singleton,
    behind?_escaped ordinary_id, behind?_append_of_mem quote (by decide)]
  cases front.findSome? (behind? "id=".toList) with
  | some named => exact identifier?_escaped named
  | none =>
      cases leads : behind? "id=".toList word with
      | none => rfl
      | some named =>
          -- The word names something with a quote in it, whether it goes on or not.
          have inside : '"' ∈ named := by
            rw [behind?_eq_some_iff.mp leads, List.mem_append] at quote
            exact quote.resolve_left (by decide)
          have longer := mem_escaped (List.mem_append_left more inside)
          exact (identifier?_of_special longer (.inl rfl)).trans
            (identifier?_of_special inside (.inl rfl)).symm

/-- Some word with a quote is the first one. -/
theorem exists_first_quote {written : List Text} (quote : ∃ word ∈ written, '"' ∈ word) :
    ∃ front word later, written = front ++ word :: later ∧ (∀ word ∈ front, '"' ∉ word) ∧
      '"' ∈ word := by
  have isSome : (written.find? fun word => '"' ∈ word).isSome = true := by
    simpa using quote
  obtain ⟨first, found⟩ := Option.isSome_iff_exists.mp isSome
  obtain ⟨holds, front, later, split, others⟩ := List.find?_eq_some_iff_append.mp found
  exact ⟨front, first, later, split, by simpa using others, of_decide_eq_true holds⟩

theorem quotesBeforeId_of_missed {front later : List Text} {named : Text}
    (split : words reply = front ++ later) (quote : ∃ word ∈ front, '"' ∈ word)
    (missed : front.findSome? (behind? "id=".toList) = none)
    (found : later.findSome? (behind? "id=".toList) = some named) : QuotesBeforeId reply := by
  obtain ⟨between, word, after, rfl, leads, others⟩ := List.findSome?_eq_some_iff.mp found
  rw [List.findSome?_eq_none_iff] at missed
  obtain ⟨quoting, member, inside⟩ := quote
  refine ⟨front ++ between, named, after, ?_, ?_, quoting, List.mem_append_left _ member, inside⟩
  · rw [split, behind?_eq_some_iff.mp leads, List.append_assoc]
  · intro other member
    apply behind?_eq_none_iff.mp
    exact (List.mem_append.mp member).elim (missed other) (others other)

theorem queueId?_escaped_of_not_quotes (early : ¬ QuotesBeforeId reply) :
    queueId? (escaped reply) = queueId? reply := by
  by_cases quote : ∃ word ∈ words reply, '"' ∈ word
  · obtain ⟨front, word, later, split, unquoted, inside⟩ := exists_first_quote quote
    have whole : words reply = (front ++ [word]) ++ later := by
      rw [split, List.append_assoc, List.singleton_append]
    have parts := @List.findSome?_append _ _ (behind? "id=".toList) (front ++ [word]) later
    rw [queueId?_escaped_of_mem split unquoted inside, queueId?_eq, whole, parts]
    cases read : (front ++ [word]).findSome? (behind? "id=".toList) with
    | some named => rfl
    | none =>
        cases found : later.findSome? (behind? "id=".toList) with
        | none => rfl
        | some named =>
            exact absurd
              (quotesBeforeId_of_missed whole ⟨word, List.mem_concat_self, inside⟩ read found) early
  · have unquoted : ∀ word ∈ words reply, '"' ∉ word :=
      fun word member inside => quote ⟨word, member, inside⟩
    rw [queueId?_eq, queueId?_eq, words_escaped_of_not_mem unquoted, findSome?_map_escaped,
      queuedAs?_escaped]
    cases (words reply).findSome? (behind? "id=".toList) with
    | none => rfl
    | some named => exact identifier?_escaped named

theorem queueId?_escaped_of_quotes (late : QuotesBeforeId reply) :
    queueId? (escaped reply) = queuedAs? reply := by
  obtain ⟨before, named, after, split, unnamed, quote⟩ := late
  obtain ⟨front, word, later, rfl, unquoted, inside⟩ := exists_first_quote quote
  have missed : (front ++ [word]).findSome? (behind? "id=".toList) = none := by
    rw [List.findSome?_eq_none_iff]
    intro other member
    apply behind?_eq_none_iff.mpr
    apply unnamed
    rw [List.append_cons]
    exact List.mem_append_left later member
  rw [List.append_assoc, List.cons_append] at split
  rw [queueId?_escaped_of_mem split unquoted inside, missed]

/-- **The identifier of an escaped reply.** It is that of the reply, unless a word with a quote
stands in front of the first `id=` word; then it is the one behind `queued as`. -/
theorem queueId?_escaped (reply : Text) :
    (¬ QuotesBeforeId reply → queueId? (escaped reply) = queueId? reply) ∧
      (QuotesBeforeId reply → queueId? (escaped reply) = queuedAs? reply) :=
  ⟨queueId?_escaped_of_not_quotes, queueId?_escaped_of_quotes⟩

end DeliveryTrace.Reply
