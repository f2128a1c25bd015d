import DeliveryTrace.Text.Cut

/-! # First and last occurrences of a mark

Cutting finds the first occurrence of a mark and the last one of a character. The main statements
say where these are: the cut falls in front of a mark that does not end earlier in the text, and
behind it stands the first of the texts that follow an occurrence.
-/

namespace DeliveryTrace.Text

variable {mark before after text : Text}

theorem behind?_append (mark after : Text) : behind? mark (mark ++ after) = some after :=
  behind?_eq_some_iff.mpr rfl

theorem behind?_eq_none_iff : behind? mark text = none ↔ ¬ mark <+: text := by
  rw [Option.eq_none_iff_forall_ne_some]
  constructor
  · rintro differs ⟨rest, rfl⟩
    exact differs rest (behind?_append mark rest)
  · rintro differs rest found
    exact differs ⟨rest, (behind?_eq_some_iff.mp found).symm⟩

theorem startsWith_iff : startsWith mark text = true ↔ mark <+: text := by
  rw [startsWith, ← Option.ne_none_iff_isSome, ne_eq, behind?_eq_none_iff, Decidable.not_not]

/-- A mark does not reach beyond a character that it lacks. -/
theorem behind?_append_cons {c : Char} (foreign : c ∉ mark) (text rest : Text) :
    behind? mark (text ++ c :: rest) = (behind? mark text).map (· ++ c :: rest) := by
  induction mark generalizing text with
  | nil => rfl
  | cons m mark ih =>
      rw [List.mem_cons, not_or] at foreign
      cases text with
      | nil => exact if_neg (Ne.symm foreign.1)
      | cons d text =>
          rw [List.cons_append, behind?, behind?]
          split
          · exact ih foreign.2 text
          · rfl

/-- A text that holds what the mark lacks starts with the mark on its own account. -/
theorem behind?_append_of_mem {c : Char} (member : c ∈ text) (foreign : c ∉ mark) (more : Text) :
    behind? mark (text ++ more) = (behind? mark text).map (· ++ more) := by
  obtain ⟨front, rest, rfl⟩ := List.append_of_mem member
  rw [List.append_assoc, List.cons_append, behind?_append_cons foreign, behind?_append_cons foreign,
    Option.map_map]
  congr 1
  funext behind
  simp

/-- A mark that occurs nowhere does not occur behind the first character either. -/
theorem occurs_cons_eq_false_iff {c : Char} :
    occurs mark (c :: text) = false ↔
      behind? mark (c :: text) = none ∧ occurs mark text = false := by
  unfold occurs
  cases leads : behind? mark (c :: text) with
  | none => simp [cut?, leads]
  | some after => simp [cut?, leads]

theorem occurs_iff : occurs mark text = true ↔ mark <:+: text := by
  induction text with
  | nil => simp [occurs, cut?]
  | cons c text ih =>
      have missed := @occurs_cons_eq_false_iff mark text c
      rw [List.infix_cons_iff, ← ih, ← Bool.not_eq_false, missed, behind?_eq_none_iff,
        ← Bool.not_eq_true, Decidable.not_and_iff_or_not, Decidable.not_not, Decidable.not_not]

/-- **A cut falls in front of the first mark.** An occurrence further to the front would end in
front of the last character of the mark. -/
theorem cut?_append (nonempty : mark ≠ [])
    (first : occurs mark (before ++ mark.dropLast) = false) (after : Text) :
    cut? mark (before ++ mark ++ after) = some (before, after) := by
  induction before with
  | nil =>
      obtain ⟨c, rest, rfl⟩ := List.exists_cons_of_ne_nil nonempty
      have leads := behind?_append (c :: rest) after
      simp only [List.nil_append, List.cons_append] at leads ⊢
      rw [cut?, leads]
  | cons c before ih =>
      rw [List.cons_append, occurs_cons_eq_false_iff, behind?_eq_none_iff] at first
      have later : behind? mark (c :: before ++ mark ++ after) = none := by
        rw [behind?_eq_none_iff]
        intro leads
        -- The mark is too short to reach beyond `mark.dropLast` from here.
        refine first.1 (List.prefix_of_prefix_length_le leads ?_ ?_)
        · refine List.IsPrefix.trans ?_ (List.prefix_append _ after)
          exact (List.prefix_append_right_inj (c :: before)).mpr (List.dropLast_prefix mark)
        · simp only [List.length_cons, List.length_append, List.length_dropLast]
          omega
      simp only [List.cons_append] at later ⊢
      rw [cut?, later, ih first.2]
      rfl

/-- What stands behind the first mark, on the near side of a character that the mark lacks or beyond
it. -/
theorem snd_cut?_append_cons {c : Char} (nonempty : mark ≠ []) (foreign : c ∉ mark)
    (text rest : Text) :
    (cut? mark (text ++ c :: rest)).map Prod.snd =
      ((cut? mark text).map fun (_, after) => after ++ c :: rest).or
        ((cut? mark rest).map Prod.snd) := by
  induction text with
  | nil =>
      have missed : behind? mark (c :: rest) = none := by
        rw [behind?_eq_none_iff]
        rintro ⟨tail, starts⟩
        obtain ⟨m, others, rfl⟩ := List.exists_cons_of_ne_nil nonempty
        exact foreign (List.mem_cons.mpr (.inl (List.cons.inj starts).1.symm))
      simp [cut?, missed, nonempty, Function.comp_def]
  | cons d text ih =>
      have leads := behind?_append_cons foreign (d :: text) rest
      rw [List.cons_append] at leads ⊢
      rw [cut?, cut?, leads]
      cases behind? mark (d :: text) with
      | some after => rfl
      | none => simpa [Option.map_map, Function.comp_def] using ih

theorem occurs_singleton_of_not_mem {m : Char} (absent : m ∉ text) : occurs [m] text = false := by
  induction text with
  | nil => rfl
  | cons c text ih =>
      rw [List.mem_cons, not_or] at absent
      rw [occurs_cons_eq_false_iff]
      exact ⟨if_neg absent.1, ih absent.2⟩

/-- Behind the first mark stands the first of the texts that follow a mark. -/
theorem head?_afters (nonempty : mark ≠ []) (text : Text) :
    (afters mark text).head? = (cut? mark text).map Prod.snd := by
  induction text with
  | nil => simp [afters, cut?, nonempty]
  | cons c text ih =>
      cases leads : behind? mark (c :: text) with
      | none =>
          rw [afters, cut?, leads]
          simp [ih, Function.comp_def]
      | some after =>
          rw [afters, cut?, leads]
          rfl

theorem pieces_ne_nil (m : Char) (text : Text) : pieces m text ≠ [] := by
  cases text with
  | nil => exact List.cons_ne_nil [] []
  | cons c text =>
      unfold pieces
      split
      · exact List.cons_ne_nil [] _
      · split
        · exact List.cons_ne_nil [c] []
        · exact List.cons_ne_nil _ _

theorem pieces_of_not_mem {m : Char} (absent : m ∉ text) : pieces m text = [text] := by
  induction text with
  | nil => rfl
  | cons c text ih =>
      rw [List.mem_cons, not_or] at absent
      rw [pieces, if_neg (Ne.symm absent.1), ih absent.2]

/-- The first piece ends in front of the first mark. -/
theorem pieces_append {m : Char} (absent : m ∉ before) (after : Text) :
    pieces m (before ++ m :: after) = before :: pieces m after := by
  induction before with
  | nil => rw [List.nil_append, pieces, if_pos rfl]
  | cons c before ih =>
      rw [List.mem_cons, not_or] at absent
      rw [List.cons_append, pieces, if_neg (Ne.symm absent.1), ih absent.2]

/-- What is not the mark stands in some piece. -/
theorem mem_pieces {m c : Char} (member : c ∈ text) (other : c ≠ m) :
    ∃ piece ∈ pieces m text, c ∈ piece := by
  induction text with
  | nil => cases member
  | cons first text ih =>
      unfold pieces
      by_cases marked : first = m
      · have later := (List.mem_cons.mp member).resolve_left (marked ▸ other)
        obtain ⟨piece, listed, inside⟩ := ih later
        rw [if_pos marked]
        exact ⟨piece, List.mem_cons_of_mem _ listed, inside⟩
      · rw [if_neg marked]
        rcases List.mem_cons.mp member with rfl | later
        · cases pieces m text <;> simp
        · obtain ⟨piece, listed, inside⟩ := ih later
          cases cut : pieces m text with
          | nil =>
              rw [cut] at listed
              cases listed
          | cons start others =>
              rw [cut] at listed
              rcases List.mem_cons.mp listed with rfl | behind
              · exact ⟨_, List.mem_cons_self, List.mem_cons_of_mem _ inside⟩
              · exact ⟨piece, List.mem_cons_of_mem _ behind, inside⟩

/-- A cut at the last occurrence loses nothing but the mark. -/
theorem append_of_cutLast? {m : Char} (found : cutLast? m text = some (before, after)) :
    text = before ++ m :: after := by
  induction text generalizing before with
  | nil => cases found
  | cons c text ih =>
      cases later : cutLast? m text with
      | some parts =>
          simp only [cutLast?, later, Option.some.injEq, Prod.mk.injEq] at found
          obtain ⟨rfl, rfl⟩ := found
          exact congrArg (c :: ·) (ih later)
      | none =>
          simp only [cutLast?, later, Option.ite_none_right_eq_some, Option.some.injEq,
            Prod.mk.injEq] at found
          obtain ⟨rfl, rfl, rfl⟩ := found
          rfl

theorem cutLast?_of_not_mem {m : Char} (absent : m ∉ text) : cutLast? m text = none := by
  induction text with
  | nil => rfl
  | cons c text ih =>
      rw [List.mem_cons, not_or] at absent
      rw [cutLast?, ih absent.2, if_neg (Ne.symm absent.1)]

/-- What has no further mark behind it is the last occurrence. -/
theorem cutLast?_append {m : Char} (absent : m ∉ after) (before : Text) :
    cutLast? m (before ++ m :: after) = some (before, after) := by
  induction before with
  | nil => rw [List.nil_append, cutLast?, cutLast?_of_not_mem absent, if_pos rfl]
  | cons c before ih => rw [List.cons_append, cutLast?, ih]

/-! ## Pairs of marks -/

theorem unwrap_append (opening closing : Char) (inner : Text) :
    unwrap opening closing (opening :: (inner ++ [closing])) = inner := by
  have closed : withoutEnd? closing (inner ++ [closing]) = some inner :=
    withoutEnd?_eq_some_iff.mpr rfl
  rw [unwrap, inside?, if_pos rfl, closed, Option.getD_some]

theorem unwrap_of_not_mem {opening : Char} (absent : opening ∉ text) (closing : Char) :
    unwrap opening closing text = text := by
  cases text with
  | nil => rfl
  | cons c text =>
      rw [List.mem_cons, not_or] at absent
      rw [unwrap, inside?, if_neg (Ne.symm absent.1), Option.getD_none]

end DeliveryTrace.Text
