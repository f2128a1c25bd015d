import DeliveryTrace.Proofs.Log.Locality
import DeliveryTrace.Proofs.Text.Escape

/-! # Quoted values cannot forge fields

Exim logs in quotes what others choose, such as the subject of a message. The main statement says
that the value of a field which the event does not carry is of no account: with any other value in
its place the line says the same.
-/

namespace DeliveryTrace

open Text

/-- A key without an equals sign, quotes and blanks. -/
structure IsKey (key : Text) : Prop where
  unassigned : '=' ∉ key
  unquoted : '"' ∉ key
  visible : ∀ c ∈ key, isBlank c = false

/-- A field whose value is written in quotes. -/
def quotedField (key value : Text) : Text := key ++ '=' :: inQuotes value

variable {key wanted front : Text} {fields : List Text}

theorem isKey_of_isAsciiAlnum (alnum : ∀ c ∈ key, isAsciiAlnum c = true) : IsKey key where
  unassigned member := absurd (alnum '=' member) (by decide)
  unquoted member := absurd (alnum '"' member) (by decide)
  visible c member := isBlank_of_isAsciiAlnum (alnum c member)

theorem IsKey.isPlainWord (isKey : IsKey key) : IsPlainWord (key ++ ['=']) where
  nonempty := List.append_ne_nil_of_right_ne_nil key (List.cons_ne_nil _ _)
  visible := List.forall_mem_append.mpr ⟨isKey.visible, List.forall_mem_singleton.mpr rfl⟩
  unquoted member := (List.mem_append.mp member).elim isKey.unquoted (by simp)

theorem IsKey.isWord_quotedField (isKey : IsKey key) (value : Text) :
    IsWord (quotedField key value) := by
  have word := isKey.isPlainWord.isWord.append (isComplete_inQuotes value)
  rwa [List.append_assoc, List.singleton_append] at word

theorem mem_quotedField (key value : Text) : '"' ∈ quotedField key value :=
  List.mem_append_right key (List.mem_cons_of_mem _ List.mem_cons_self)

/-- Blanks behind a quoted field are behind its last quote. -/
theorem trimEnd_quotedField (front key value behind : Text) :
    trimEnd (front ++ (quotedField key value ++ behind)) =
      front ++ (quotedField key value ++ trimEnd behind) := by
  have quote : isBlank '"' = false := by decide
  have kept := trimEnd_append_cons quote (front ++ (key ++ '=' :: '"' :: escaped value)) behind
  simpa only [quotedField, inQuotes, List.append_assoc, List.cons_append,
    List.nil_append] using kept

/-- A field with another key is not the wanted one. -/
theorem behind?_of_key (isKey : IsKey key) (isWanted : IsKey wanted) (foreign : key ≠ wanted)
    (value : Text) : behind? (wanted ++ ['=']) (key ++ '=' :: value) = none := by
  rw [behind?_eq_none_iff]
  rintro ⟨rest, same⟩
  apply foreign
  rw [List.append_assoc, List.singleton_append] at same
  have cut := pieces_append isWanted.unassigned rest
  rw [same, pieces_append isKey.unassigned] at cut
  exact (List.cons.inj cut).1

/-- The value of a quoted field does not count for another field. -/
theorem field?_quotedField (isKey : IsKey key) (isWanted : IsKey wanted) (foreign : key ≠ wanted)
    (gapped : Gapped fields front) (value behind : Text) :
    field? wanted (front ++ (quotedField key value ++ behind)) =
      ((fields ++ words (scanWord false behind).2).findSome? (behind? (wanted ++ ['=']))).map
        (unwrap '"' '"') := by
  have missed : behind? (wanted ++ ['=']) (quotedField key value ++ (scanWord false behind).1) =
      none := by
    rw [quotedField, List.append_assoc]
    exact behind?_of_key isKey isWanted foreign _
  rw [field?, words_gapped gapped, words_append (isKey.isWord_quotedField value),
    List.findSome?_append, List.findSome?_cons, missed, List.findSome?_append]

/-- The wanted field is the same for any two values of another one. -/
theorem field?_congr (isKey : IsKey key) (isWanted : IsKey wanted) (foreign : key ≠ wanted)
    (gapped : Gapped fields front) (value other behind : Text) :
    field? wanted (trimStart (front ++ (quotedField key value ++ behind))) =
      field? wanted (trimStart (front ++ (quotedField key other ++ behind))) := by
  rw [field?_trimStart, field?_trimStart, field?_quotedField isKey isWanted foreign gapped,
    field?_quotedField isKey isWanted foreign gapped]

namespace Exim

/-- The flags of deliveries. -/
def deliveryFlags : List Text := [['=', '>'], ['-', '>'], ['>', '>']]

/-- The field that an event carries, given its flag and the words behind it. -/
def carriedKey (flag : Text) (fields : List Text) : Text :=
  if flag = ['<', '='] then if fields.head? = some ['<', '>'] then ['R'] else ['i', 'd']
  else ['C']

variable {flag : Text}

theorem isKey_carriedKey (flag : Text) (fields : List Text) : IsKey (carriedKey flag fields) := by
  apply isKey_of_isAsciiAlnum
  rw [← List.all_eq_true, carriedKey]
  split
  · split <;> rfl
  · rfl

theorem carriedKey_of_empty (fields : List Text) :
    carriedKey ['<', '='] (['<', '>'] :: fields) = ['R'] := by
  rw [carriedKey, if_pos rfl, List.head?_cons, if_pos rfl]

theorem carriedKey_of_ne {sender : Text} (named : sender ≠ ['<', '>']) (fields : List Text) :
    carriedKey ['<', '='] (sender :: fields) = ['i', 'd'] := by
  rw [carriedKey, if_pos rfl, List.head?_cons, if_neg (mt Option.some.inj named)]

theorem carriedKey_of_mem (delivers : flag ∈ deliveryFlags) (fields : List Text) :
    carriedKey flag fields = ['C'] := by
  apply if_neg
  rintro rfl
  exact absurd delivers (by decide)

theorem ofFlag?_of_mem (delivers : flag ∈ deliveryFlags) : Event.ofFlag? flag = some .delivery := by
  rcases delivers with _ | ⟨_, _ | ⟨_, _ | ⟨_, ⟨⟩⟩⟩⟩
  all_goals rfl

/-- The fields of a delivery are the words behind its flag. -/
theorem event_delivery (line : LogLine) (delivers : flag ∈ deliveryFlags)
    (gapped : Gapped (flag :: fields) front) :
    ∃ tail, Gapped fields tail ∧
      ∀ rest, event line (front ++ rest) = delivery line (trimStart (tail ++ rest)) := by
  obtain ⟨tail, others, split⟩ := splitWord?_gapped gapped
  refine ⟨tail, others, fun rest => ?_⟩
  simp only [event, split rest, ofFlag?_of_mem delivers]

/-- The sender of an arrival is the word behind its flag, and its fields are the words behind
that. -/
theorem event_sender (line : LogLine) (gapped : Gapped (['<', '='] :: fields) front) :
    ∃ tail, Gapped fields tail ∧ ∀ rest sender text,
      splitWord? (tail ++ rest) = some (sender, text) →
        event line (front ++ rest) = arrival line sender text := by
  obtain ⟨tail, others, split⟩ := splitWord?_gapped gapped
  refine ⟨tail, others, fun rest sender text sent => ?_⟩
  have arrives : Event.ofFlag? ['<', '='] = some .arrival := rfl
  rw [← splitWord?_trimStart] at sent
  simp only [event, split rest, arrives, sent]

/-- A delivery tells what its `C` field says. -/
theorem delivery_congr {text other : Text} (same : field? ['C'] text = field? ['C'] other)
    (line : LogLine) : delivery line text = delivery line other := by
  rw [delivery, delivery, same]

/-- An arrival from the empty sender tells what its `R` field says, any other what its `id` field
says. -/
theorem arrival_congr {text other sender : Text} (line : LogLine)
    (notified : sender = ['<', '>'] → field? ['R'] text = field? ['R'] other)
    (identified : sender ≠ ['<', '>'] → field? ['i', 'd'] text = field? ['i', 'd'] other) :
    arrival line sender text = arrival line sender other := by
  unfold arrival
  split
  · next empty => rw [notified empty]
  · next named => rw [identified named]

/-- The sender counts only as the empty one or another one. -/
theorem arrival_of_ne {sender other : Text} (line : LogLine) (named : sender ≠ ['<', '>'])
    (renamed : other ≠ ['<', '>']) (text : Text) :
    arrival line sender text = arrival line other text := by
  rw [arrival, arrival, if_neg named, if_neg renamed]

/-- The value of a field that the event does not carry is of no account for it. -/
theorem event_quotedField (line : LogLine) (gapped : Gapped (flag :: fields) front)
    (flagged : flag = ['<', '='] ∨ flag ∈ deliveryFlags) (isKey : IsKey key)
    (unread : key ≠ carriedKey flag fields) (value other behind : Text) :
    event line (front ++ (quotedField key value ++ behind)) =
      event line (front ++ (quotedField key other ++ behind)) := by
  have isCarried := isKey_carriedKey flag fields
  rcases flagged with rfl | delivers
  · obtain ⟨tail, others, arrives⟩ := event_sender line gapped
    cases fields with
    | nil =>
        -- The field stands where the sender should.
        have named : ∀ value, quotedField key value ++ (scanWord false behind).1 ≠ ['<', '>'] := by
          intro value same
          have quote := List.mem_append_left (scanWord false behind).1 (mem_quotedField key value)
          rw [same] at quote
          exact absurd quote (by decide)
        have sent := fun value =>
          splitWord?_append_of_isWord (isKey.isWord_quotedField value) behind
        cases others
        rw [arrives (quotedField key value ++ behind) _ _ (sent value),
          arrives (quotedField key other ++ behind) _ _ (sent other)]
        exact arrival_of_ne line (named value) (named other) _
    | cons sender fields =>
        obtain ⟨rest, later, split⟩ := splitWord?_gapped others
        rw [arrives _ _ _ (split _), arrives _ _ _ (split _)]
        apply arrival_congr
        · rintro rfl
          rw [carriedKey_of_empty] at unread isCarried
          exact field?_congr isKey isCarried unread later value other behind
        · intro named
          rw [carriedKey_of_ne named] at unread isCarried
          exact field?_congr isKey isCarried unread later value other behind
  · obtain ⟨tail, others, delivered⟩ := event_delivery line delivers gapped
    rw [carriedKey_of_mem delivers] at unread isCarried
    rw [delivered, delivered]
    apply delivery_congr
    exact field?_congr isKey isCarried unread others value other behind

/-! ## Lines -/

/-- **What a quoted value says is of no account.** With any other value of a field that the event
does not carry, the line says the same. -/
theorem parse_quotedField
    (entry : IsEntry (before ++ (front ++ (quotedField key value ++ behind))) moment transaction
      (trimEnd (front ++ (quotedField key value ++ behind))))
    (gapped : Gapped (flag :: fields) front)
    (flagged : flag = ['<', '='] ∨ flag ∈ deliveryFlags) (isKey : IsKey key)
    (unread : key ≠ carriedKey flag fields) (other : Text) :
    parse (before ++ (front ++ (quotedField key other ++ behind))) =
      { parse (before ++ (front ++ (quotedField key value ++ behind))) with
        raw := before ++ (front ++ (quotedField key other ++ behind)) } := by
  obtain ⟨c, tail, start, shown⟩ := gapped.exists_cons
  have visible (rest : Text) : StartsVisible (front ++ rest) := by
    rw [start]
    exact startsVisible_cons shown (tail ++ rest)
  have follows (rest : Text) : front ++ rest ≠ [] := by
    rw [start]
    exact List.cons_ne_nil c _
  have replaced : IsEntry (before ++ (front ++ (quotedField key other ++ behind))) moment
      transaction (trimEnd (front ++ (quotedField key other ++ behind))) := by
    apply entry.replace
    · exact follows _
    · exact visible _
    · exact follows _
    · exact visible _
  rw [parse_eq_event entry, parse_eq_event replaced, ← event_withRaw, trimEnd_quotedField,
    trimEnd_quotedField]
  exact event_quotedField _ gapped flagged isKey unread other value _

/-- A subject does not get to name the identifier of its message. -/
theorem parse_quotedField_subject :
    let before := "2017-01-02 10:00:00 1cNiyF-00040R-Kc ".toList
    let front := "<= r@localhost ".toList
    let behind := " id=first@localhost".toList
    let forged := "Re: \" id=other@localhost \\\" \u00fc \\".toList
    let raw := before ++ (front ++ (quotedField ['T'] forged ++ behind))
    parse raw =
        { parse (before ++ (front ++ (quotedField ['T'] [] ++ behind))) with raw } ∧
      (parse raw).messageId = some "first@localhost".toList := by
  intro before front behind forged raw
  have entry : IsEntry (before ++ (front ++ (quotedField ['T'] [] ++ behind)))
      ⟨⟨2017, 1, 2, by decide⟩, ⟨10, 0, 0, 0, by decide⟩⟩ "1cNiyF-00040R-Kc".toList
      (trimEnd (front ++ (quotedField ['T'] [] ++ behind))) := by decide +kernel
  have gapped : Gapped ["<=".toList, "r@localhost".toList] front :=
    gapped_of_isPlainWord (by decide)
  have isKey : IsKey ['T'] := isKey_of_isAsciiAlnum (List.all_eq_true.mp rfl)
  refine ⟨parse_quotedField entry gapped (.inl rfl) isKey (by decide) forged, ?_⟩
  decide +kernel

end Exim

end DeliveryTrace
