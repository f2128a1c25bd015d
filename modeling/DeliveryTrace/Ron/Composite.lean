import DeliveryTrace.Ron.Number

/-! # Lists, maps and records in object notation

Items stand between brackets and are separated by commas, with an optional comma after the last
one. A record holds named fields and may carry the name of its type; a field with an unknown name
is read over, and what may stand there is any value of the notation. A file holds one value, and
attributes may precede it. By an attribute a file may ask for extensions, which change how some
values are written.
-/

namespace DeliveryTrace.Ron

open Text

variable {ε α β σ : Type}

/-! ## Extensions -/

/-- A change to the notation that a file may ask for. -/
inductive Extension where
  /-- What a type wraps may stand without the brackets of the type. No such type is read here. -/
  | unwrapNewtypes
  /-- An optional value may stand without its `Some`. -/
  | implicitSome
  /-- The fields of a record or the items of a tuple may stand in the brackets of a `Some` without
  brackets of their own. -/
  | unwrapVariantNewtypes
  /-- A record must carry the name of its type. -/
  | explicitStructNames
deriving DecidableEq

namespace Extension

/-- All extensions. -/
def all : List Extension :=
  [unwrapNewtypes, implicitSome, unwrapVariantNewtypes, explicitStructNames]

/-- The name by which a file asks for an extension. -/
def name : Extension → Text
  | unwrapNewtypes => "unwrap_newtypes".toList
  | implicitSome => "implicit_some".toList
  | unwrapVariantNewtypes => "unwrap_variant_newtypes".toList
  | explicitStructNames => "explicit_struct_names".toList

/-- The extension with a given name. -/
def ofName? (text : Text) : Option Extension := all.find? fun extension => extension.name = text

end Extension

/-! ## Separated items -/

/-- Read items separated by commas up to a closing character, which is left standing. `item` adds
what it reads to the state. -/
def separated (closing : Char) (item : σ → Reader ε σ) (state : σ) (text : Text) :
    Except (Fault ε) (Found σ text) :=
  match gap text with
  | .error fault => .error fault
  | .ok ⟨((), start), shorter⟩ =>
    if start.head? = some closing then .ok ⟨(state, start), shorter⟩
    else
      match item state start with
      | .error fault => .error fault
      | .ok ⟨(state, afterItem), shorterItem⟩ =>
        match gap afterItem with
        | .error fault => .error fault
        | .ok ⟨((), rest), shorterGap⟩ =>
          have bound : rest.length ≤ text.length :=
            Nat.le_trans shorterGap (Nat.le_trans shorterItem shorter)
          match rest with
          | [] => .error .malformed
          | c :: afterComma =>
            if c = ',' then
              have decreases : afterComma.length < text.length := bound
              match separated closing item state afterComma with
              | .error fault => .error fault
              | .ok ⟨found, shorterRest⟩ =>
                .ok ⟨found, Nat.le_trans shorterRest (Nat.le_of_lt decreases)⟩
            else if c = closing then .ok ⟨(state, c :: afterComma), bound⟩
            else .error .malformed
termination_by text.length

/-- Read items between two brackets. -/
def bracketed (opening closing : Char) (item : σ → Reader ε σ) (state : σ) : Reader ε σ := do
  Reader.char opening
  let state ← separated closing item state
  Reader.char closing
  return state

/-- A key and a value with a colon between; the value may depend on the key. -/
def entry (key : Reader ε α) (value : α → Reader ε β) : Reader ε β := do
  let key ← key
  gap
  Reader.char ':'
  gap
  value key

/-- One item between round brackets, with an optional comma behind it. -/
def bracketedOne (reader : Reader ε α) : Reader ε α := do
  Reader.char '('
  gap
  let value ← reader
  gap
  if ← Reader.takesMark [','] then gap
  Reader.char ')'
  return value

/-- Whether the next character is a given one. -/
def isNext (c : Char) : Reader ε Bool := Reader.ahead fun rest => rest.head? = some c

/-- What stands behind the name `Some`: a value in brackets, or, if the extension for it is in use,
a value without them. -/
def behindSome (extensions : List Extension) (inBrackets bare : Reader ε α) : Reader ε α := do
  gap
  if ← isNext '(' then bracketedOne inBrackets
  else
    Reader.require (.implicitSome ∈ extensions)
    bare

/-! ## Values that are read over -/

/-- The names that stand for themselves and name no number. -/
def plainNames : List Text := ["true", "false", "None"].map String.toList

/-- A character between apostrophes, from behind the first one. -/
def characterBody : Reader ε Unit := do
  let c ← Reader.next
  if c = '\\' then
    let _ ← escape .character
    Reader.char '\''
  else Reader.char '\''

/-- A byte string behind its mark `b`. -/
def byteString : Reader ε Unit := do
  if ← Reader.takesMark ['"'] then
    let _ ← quotedBody .bytes []
    return ()
  else
    Reader.char 'r'
    let _ ← rawBody
    return ()

/-- Whether a name and a colon come next, behind the bracket that opens a record or a tuple. -/
def looksNamed (text : Text) : Bool :=
  let look : Reader Empty Bool := do
    gap
    let _ ← name
    gap
    Reader.ahead fun rest => rest.head? = some ':'
  match look text with
  | .ok ⟨(named, _), _⟩ => named
  | .error _ => false

/-- What is left of a literal behind its first character, if that character opens one. -/
def literalBody (opening : Char) : Reader ε Unit := do
  match opening with
  | '\'' => characterBody
  | '"' => do
    let _ ← quotedBody .text []
    return ()
  | 'r' => do
    let _ ← rawBody
    return ()
  | 'b' => byteString
  | _ => return ()

/-- How many brackets are open behind a character, where `inner` are open in front of it; none if
the character closes one more. -/
def openBehind? (inner : Nat) (c : Char) : Option Nat :=
  if c = '(' ∨ c = '[' ∨ c = '\x7b' then some (inner + 1)
  else if c = ')' ∨ c = ']' ∨ c = '\x7d' then if inner = 0 then none else some (inner - 1)
  else some inner

/-- Whether several items stand in front of a closing round bracket: whether a comma separates two
of them rather than standing behind the only one. Commas in literals and in brackets do not count;
`inner` brackets are open. -/
def holdsSeveral (inner : Nat) (text : Text) : Bool :=
  let blanks : Reader Empty Unit := gap
  match blanks text with
  | .error _ | .ok ⟨((), []), _⟩ => false
  | .ok ⟨((), c :: behind), shorter⟩ =>
    if c = ',' ∧ inner = 0 then
      match blanks behind with
      | .error _ => false
      | .ok ⟨((), next), _⟩ => next.head? ≠ some ')'
    else
      -- A letter that may open a literal may also belong to a name.
      let literal : Reader Empty Unit := Reader.orElse (literalBody c) (return ())
      match openBehind? inner c, literal behind with
      | some inner, .ok ⟨((), rest), shorterRest⟩ =>
        have : rest.length < text.length := Nat.lt_of_le_of_lt shorterRest shorter
        holdsSeveral inner rest
      | _, _ => false
termination_by text.length

/-- Read over what the brackets of a `Some` hold, given how to read over a value there and over an
item of an unwrapped record or tuple. -/
def wrappedOver (extensions : List Extension) (value item : Reader ε Unit) : Reader ε Unit := do
  if .unwrapVariantNewtypes ∉ extensions then value
  else if ← isNext ')' then return ()
  else if ← Reader.ahead looksNamed then separated ')' (fun _ => entry name fun _ => item) ()
  else if ← Reader.ahead (holdsSeveral 0) then separated ')' (fun _ => item) ()
  else value

/-- Read over what stands behind the name `Some`. -/
def someOver (extensions : List Extension) (value item : Reader ε Unit) : Reader ε Unit :=
  behindSome extensions (wrappedOver extensions value item) value

/-- Read over one value, given how to read over what stands behind the name `Some` and between
brackets. Two round brackets with nothing between them are a value of their own. -/
def valueOver (wrapped : Reader ε Unit) (brackets : Char → Char → Reader ε Unit) :
    Reader ε Unit := do
  if ← takesOneOf plainNames then return ()
  else if ← takesName "Some".toList then wrapped
  else if ← Reader.takesMark ['(', ')'] then return ()
  else if ← takesOneOf unboundedNames then rangeTail
  else if ← Reader.ahead startsName then
    let _ ← name
    gap
    if ← isNext '(' then brackets '(' ')'
  else if ← isNext '(' then brackets '(' ')'
  else if ← isNext '[' then brackets '[' ']'
  else if ← isNext '\x7b' then brackets '\x7b' '\x7d'
  else if ← Reader.takesMark ['\''] then characterBody
  else if ← Reader.ahead fun text => text.head? = some '"' || text.head? = some 'r' then
    let _ ← text
    return ()
  else if ← Reader.ahead (startsWith "b'".toList) then numberOrRange
  else if ← Reader.takesMark ['b'] then byteString
  else numberOrRange

/-- Read over items between brackets. Braces hold any values as keys, each with its value. Round
brackets hold named fields if a name and a colon come first. -/
def itemsOver (item : Reader ε Unit) (opening closing : Char) : Reader ε Unit := do
  let named ← Reader.ahead fun text => opening = '(' && looksNamed (text.drop 1)
  bracketed opening closing
    (fun _ =>
      if opening = '\x7b' then entry item fun _ => item
      else if named then entry name fun _ => item
      else item) ()

/-- Read over one value. Values may nest until the allowance is used up: a `Some`, two brackets and an
item between them each take one from it. An unwrapped value counts as if it had brackets. -/
def anyValue (extensions : List Extension) : (allowance : Nat) → Reader ε Unit
  | 0 => valueOver Reader.malformed fun _ _ => Reader.malformed
  | 1 => valueOver (someOver extensions (anyValue extensions 0) Reader.malformed)
      (itemsOver Reader.malformed)
  | 2 => valueOver (someOver extensions (anyValue extensions 1) Reader.malformed)
      (itemsOver (anyValue extensions 0))
  | allowance + 3 =>
    valueOver
      (someOver extensions (anyValue extensions (allowance + 2)) (anyValue extensions allowance))
      (itemsOver (anyValue extensions (allowance + 1)))

/-! ## Typed values -/

/-- An optional value, written `None` or `Some` with the value behind. The extension for it allows
for the value alone. -/
def optional (extensions : List Extension) (reader : Reader ε α) : Reader ε (Option α) := do
  if ← takesName "None".toList then return none
  else if ← takesName "Some".toList then some <$> behindSome extensions reader reader
  else
    Reader.require (.implicitSome ∈ extensions)
    some <$> reader

/-- A list of values. -/
def list (reader : Reader ε α) : Reader ε (List α) :=
  List.reverse <$> bracketed '[' ']' (fun items => (· :: items) <$> reader) []

/-- A map from texts to values, in the order of the file. A key may appear more than once. -/
def map (reader : Reader ε α) : Reader ε (List (Text × α)) :=
  List.reverse <$> bracketed '\x7b' '\x7d'
    (fun items => entry text fun key => do
      let value ← reader
      return (key, value) :: items) []

/-- The type name in front of a record, which may be missing, unless an extension asks for it, but
must not be another one. -/
def typeName (extensions : List Extension) (expected : Text) : Reader ε Unit := do
  if ← Reader.ahead fun rest => rest.head?.any isNameContinue then
    let found ← name
    Reader.require (found = expected)
  else Reader.require (.explicitStructNames ∉ extensions)

/-- A record. `field` adds the value of a field to the state, or knows no such field; a value of
the latter kind is read over within the allowance. -/
def record (extensions : List Extension) (expected : Text) (allowance : Nat)
    (field : Text → Option (σ → Reader ε σ)) (state : σ) : Reader ε σ := do
  typeName extensions expected
  gap
  bracketed '(' ')'
    (fun state => entry name fun key =>
      match field key with
      | some add => add state
      | none => do
        anyValue extensions allowance
        return state) state

/-- A field of a record that may be given once. -/
def once (given : Option α) (reader : Reader ε α) : Reader ε α := do
  Reader.require given.isNone
  reader

/-! ## Files -/

/-- The extensions that a file asks for: at least one, each by its name. -/
def enabled : Reader ε (List Extension) := do
  let extensions ← bracketed '(' ')'
    (fun found => do
      match Extension.ofName? (← name) with
      | some extension => return extension :: found
      | none => Reader.malformed) []
  Reader.require (extensions ≠ [])
  return extensions

/-- What a file may state of its value. -/
def statementNames : List Text := ["type", "schema"].map String.toList

/-- What a file states of its value, which is not checked. -/
def statement : Reader ε Unit := do
  Reader.require (← takesOneOf statementNames)
  gap
  Reader.char '='
  gap
  let _ ← text
  return ()

/-- An attribute behind its mark `#`, with the blanks behind it: the extensions that it asks for,
which are none if it is a statement. -/
def fileAttribute : Reader ε (List Extension) := do
  gap
  Reader.char '!'
  gap
  Reader.char '['
  gap
  let extensions ←
    if ← takesName "enable".toList then do
      gap
      enabled
    else do
      statement
      pure []
  gap
  Reader.char ']'
  gap
  return extensions

/-- All attributes that come next: the extensions that they ask for together. -/
def fileAttributes (text : Text) : Except (Fault ε) (Found (List Extension) text) :=
  match text with
  | '#' :: behind =>
    match fileAttribute behind with
    | .error fault => .error fault
    | .ok ⟨(extensions, rest), shorter⟩ =>
      have decreases : rest.length < ('#' :: behind).length := Nat.lt_succ_of_le shorter
      match fileAttributes rest with
      | .error fault => .error fault
      | .ok ⟨(more, last), shorterRest⟩ =>
        .ok ⟨(extensions ++ more, last), Nat.le_trans shorterRest (Nat.le_of_lt decreases)⟩
  | text => .ok ⟨([], text), Nat.le_refl _⟩
termination_by text.length
decreasing_by exact decreases

/-- A whole file with one value, which attributes may precede. -/
def file (reader : List Extension → Reader ε α) (content : Text) : Except (Fault ε) α :=
  Reader.onWhole
    (do
      gap
      let extensions ← fileAttributes
      let value ← reader extensions
      gap
      return value) content

end DeliveryTrace.Ron
