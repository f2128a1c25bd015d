import DeliveryTrace.Window
import Mathlib.Data.List.DropRight
import Mathlib.Data.List.Induction

/-! # Windows hold the newest lines

Whatever is done to a new window, it holds the last lines of all that were appended to it. How many
these are follows a rule of its own: each line adds one, and neither a line nor a new limit leaves
more than the limit allows. The main statement derives from this that a line which was dropped never
comes back and that none is dropped without need.
-/

namespace DeliveryTrace

/-! ## The newest lines of a list -/

/-- A number of lines under a limit. -/
def capped (limit : Option Nat) (count : Nat) : Nat := limit.elim count (min count)

theorem keepNewest_rtake (limit : Option Nat) {lines : List Text} {count : Nat}
    (within : count ≤ lines.length) :
    keepNewest limit (lines.rtake count) = lines.rtake (capped limit count) := by
  cases limit with
  | none => rfl
  | some most =>
      simp only [keepNewest, capped, List.rtake, List.drop_drop, List.length_drop,
        Option.elim_some]
      congr 1
      omega

theorem keepNewest_eq_rtake (limit : Option Nat) (lines : List Text) :
    keepNewest limit lines = lines.rtake (capped limit lines.length) := by
  have whole : lines.rtake lines.length = lines := by simp [List.rtake]
  conv_lhs => rw [← whole]
  exact keepNewest_rtake limit (Nat.le_refl _)

/-- Lines that have given way once make no difference when more are added. -/
theorem keepNewest_append (limit : Option Nat) (lines added : List Text) :
    keepNewest limit (keepNewest limit lines ++ added) = keepNewest limit (lines ++ added) := by
  cases limit with
  | none => rfl
  | some most =>
      simp only [keepNewest, List.drop_append, List.drop_drop, List.length_append,
        List.length_drop]
      congr 2 <;> omega

theorem keepNewest_eq_self {limit : Option Nat} {lines : List Text}
    (room : ∀ most ∈ limit, lines.length ≤ most) : keepNewest limit lines = lines := by
  cases limit with
  | none => rfl
  | some most =>
      have short : lines.length - most = 0 := Nat.sub_eq_zero_of_le (room most rfl)
      rw [keepNewest, short, List.drop_zero]

theorem keepNewest_suffix (limit : Option Nat) (lines : List Text) :
    keepNewest limit lines <:+ lines := by
  cases limit with
  | none => exact List.suffix_rfl
  | some most => exact List.drop_suffix _ lines

namespace Window

/-! ## Appending in parts -/

theorem eq_of_fields {left right : Window} (limit : left.limit = right.limit)
    (lines : left.lines = right.lines) : left = right := by
  cases left
  cases right
  cases limit
  cases lines
  rfl

theorem append_nil (window : Window) : window.append [] = window := by
  apply eq_of_fields
  · rfl
  · change keepNewest window.limit (window.lines ++ []) = window.lines
    rw [List.append_nil]
    exact keepNewest_eq_self window.length_le

/-- Lines may be appended all at once or in parts. -/
theorem append_append (window : Window) (lines added : List Text) :
    (window.append lines).append added = window.append (lines ++ added) := by
  apply eq_of_fields
  · rfl
  · change keepNewest window.limit (keepNewest window.limit (window.lines ++ lines) ++ added) =
      keepNewest window.limit (window.lines ++ (lines ++ added))
    rw [keepNewest_append, List.append_assoc]

/-! ## Operations -/

/-- What may be done to a window. A read may fail before its source ends. -/
inductive Operation where
  | push (line : Text)
  | limit (most : Option Nat)
  | read (source : ByteSource)

/-- The lines that an operation appends, whether or not the limit leaves them. -/
def Operation.added : Operation → List Text
  | push line => [Text.dropTail isLineEnd line]
  | limit _ => []
  | read source => sourceLines source

/-- Do one operation. -/
def perform (window : Window) : Operation → Window
  | .push line => window.push line
  | .limit most => window.withLimit most
  | .read source => (window.read source).1

theorem lines_perform (window : Window) (operation : Operation) :
    (window.perform operation).lines =
      keepNewest (window.perform operation).limit (window.lines ++ operation.added) := by
  cases operation with
  | push line => rfl
  | limit most =>
      rw [Operation.added, List.append_nil]
      rfl
  | read source => rfl

theorem perform_eq_append (window : Window) {operation : Operation}
    (keeps : ∀ most, operation ≠ .limit most) :
    window.perform operation = window.append operation.added := by
  cases operation with
  | push line => rfl
  | limit most => exact absurd rfl (keeps most)
  | read source => rfl

/-- While the limit stays, operations only append. -/
theorem foldl_perform_eq_append (window : Window) {operations : List Operation}
    (keep : ∀ operation ∈ operations, ∀ most, operation ≠ .limit most) :
    operations.foldl perform window = window.append (operations.flatMap Operation.added) := by
  induction operations generalizing window with
  | nil => exact window.append_nil.symm
  | cons operation operations ih =>
      rw [List.forall_mem_cons] at keep
      rw [List.foldl_cons, ih _ keep.2, perform_eq_append window keep.1, append_append]
      rfl

/-- Later operations show lines that are held now and lines that they append themselves. -/
theorem foldl_perform_suffix (window : Window) (operations : List Operation) :
    (operations.foldl perform window).lines <:+
      window.lines ++ operations.flatMap Operation.added := by
  induction operations generalizing window with
  | nil =>
      rw [List.flatMap_nil, List.append_nil]
      exact List.suffix_rfl
  | cons operation operations ih =>
      have later := ih (window.perform operation)
      obtain ⟨dropped, kept⟩ :=
        keepNewest_suffix (window.perform operation).limit (window.lines ++ operation.added)
      rw [← lines_perform] at kept
      refine later.trans ⟨dropped, ?_⟩
      rw [← List.append_assoc, kept, List.append_assoc]
      rfl

/-! ## How many lines are held -/

/-- The limit of a window and the number of lines under it. -/
structure Tally where
  limit : Option Nat := none
  held : Nat := 0

namespace Tally

/-- Count one more line. -/
def addLine (tally : Tally) (_ : Text) : Tally :=
  { tally with held := capped tally.limit (tally.held + 1) }

/-- Count the lines of an operation one by one; a new limit counts at once. -/
def perform (tally : Tally) : Operation → Tally
  | .limit most => ⟨most, capped most tally.held⟩
  | .push line => tally.addLine line
  | .read source => (sourceLines source).foldl addLine tally

end Tally

/-- The window holds as many of the last appended lines as the tally says. -/
structure Holds (window : Window) (appended : List Text) (tally : Tally) : Prop where
  limit : window.limit = tally.limit
  within : tally.held ≤ appended.length
  lines : window.lines = appended.rtake tally.held

variable {window : Window} {appended : List Text} {tally : Tally}

theorem Holds.addLine (holds : window.Holds appended tally) (line : Text) :
    (window.append [line]).Holds (appended ++ [line]) (tally.addLine line) := by
  have longer : tally.held + 1 ≤ (appended ++ [line]).length := by
    rw [List.length_append]
    exact Nat.succ_le_succ holds.within
  refine ⟨holds.limit, ?_, ?_⟩
  · refine Nat.le_trans ?_ longer
    unfold Tally.addLine capped
    cases tally.limit with
    | none => exact Nat.le_refl _
    | some most => exact Nat.min_le_left _ most
  · change keepNewest window.limit (window.lines ++ [line]) = _
    rw [holds.lines, ← List.rtake_concat_succ, keepNewest_rtake _ longer, holds.limit]
    rfl

theorem Holds.addLines (holds : window.Holds appended tally) (lines : List Text) :
    (window.append lines).Holds (appended ++ lines) (lines.foldl Tally.addLine tally) := by
  induction lines generalizing window appended tally with
  | nil =>
      rw [append_nil, List.append_nil]
      exact holds
  | cons line lines ih =>
      have later := ih (holds.addLine line)
      rwa [append_append, List.append_assoc] at later

theorem Holds.withLimit (holds : window.Holds appended tally) (most : Option Nat) :
    (window.withLimit most).Holds appended ⟨most, capped most tally.held⟩ := by
  refine ⟨rfl, ?_, ?_⟩
  · refine Nat.le_trans ?_ holds.within
    cases most with
    | none => exact Nat.le_refl _
    | some most => exact Nat.min_le_left _ most
  · change keepNewest most window.lines = _
    rw [holds.lines, keepNewest_rtake most holds.within]

/-- One operation keeps window and tally together. -/
theorem Holds.perform (holds : window.Holds appended tally) (operation : Operation) :
    (window.perform operation).Holds (appended ++ operation.added) (tally.perform operation) := by
  cases operation with
  | push line => exact holds.addLine _
  | limit most =>
      rw [Operation.added, List.append_nil]
      exact holds.withLimit most
  | read source => exact holds.addLines (sourceLines source)

theorem holds_foldl_perform (operations : List Operation) :
    (operations.foldl perform (.ofLines [])).Holds (operations.flatMap Operation.added)
      (operations.foldl Tally.perform {}) := by
  induction operations using List.reverseRecOn with
  | nil => exact ⟨rfl, Nat.le_refl 0, rfl⟩
  | append_singleton operations operation ih =>
      rw [List.foldl_append, List.foldl_append, List.flatMap_append, List.flatMap_singleton]
      exact ih.perform operation

/-- **A window holds the newest lines.** After any operations it holds the last of all lines that
were appended, as many as the tally counts and never more than the limit. Lines that were dropped
stay away whatever comes later; no line is dropped while there is room; and under one limit from the
start these are simply the last lines up to the limit. -/
theorem lines_foldl_perform (operations : List Operation) :
    let window := operations.foldl perform (.ofLines [])
    let appended := operations.flatMap Operation.added
    let tally := operations.foldl Tally.perform {}
    (window.limit = tally.limit ∧ window.lines = appended.rtake tally.held ∧
      window.lines.length = tally.held ∧ ∀ most ∈ window.limit, window.lines.length ≤ most) ∧
    (∀ later : List Operation, ((operations ++ later).foldl perform (.ofLines [])).lines <:+
      window.lines ++ later.flatMap Operation.added) ∧
    (∀ operation : Operation,
      (∀ most ∈ (window.perform operation).limit,
        window.lines.length + operation.added.length ≤ most) →
      (window.perform operation).lines = window.lines ++ operation.added) ∧
    ∀ most : Nat, (∀ operation ∈ operations, ∀ other, operation ≠ .limit other) →
      ((Operation.limit (some most) :: operations).foldl perform (.ofLines [])).lines =
        appended.rtake (min most appended.length) := by
  intro window appended tally
  have holds : window.Holds appended tally := holds_foldl_perform operations
  refine ⟨⟨holds.limit, holds.lines, ?_, window.length_le⟩, ?_, ?_, ?_⟩
  · rw [holds.lines, List.rtake, List.length_drop]
    exact Nat.sub_sub_self holds.within
  · intro later
    rw [List.foldl_append]
    exact window.foldl_perform_suffix later
  · intro operation room
    rw [lines_perform]
    apply keepNewest_eq_self
    rwa [List.length_append]
  · intro most keep
    rw [List.foldl_cons, foldl_perform_eq_append _ keep, Nat.min_comm]
    change keepNewest (some most) (keepNewest (some most) [] ++ appended) = _
    rw [keepNewest_append, List.nil_append]
    exact keepNewest_eq_rtake (some most) appended

/-- A line that gave way to a limit of one stays away when the limit is lifted. -/
theorem lines_foldl_perform_lifted :
    let operations : List Operation :=
      [.push ['a'], .push ['b', '\n'], .limit (some 1), .limit none, .push ['c'],
        .read { bytes := [100, 10, 101], fault? := some [] }]
    let pushes : List Operation := [.push ['a'], .push ['b'], .push ['c']]
    (operations.foldl perform (.ofLines [])).lines = [['b'], ['c'], ['d']] ∧
      (operations.foldl Tally.perform {}).held = 3 ∧
      ((pushes ++ [Operation.limit (some 4)]).foldl perform (.ofLines [])).lines =
        [['a'], ['b'], ['c']] ∧
      ((Operation.limit (some 2) :: pushes).foldl perform (.ofLines [])).lines =
        [['b'], ['c']] := by
  intro operations pushes
  have held : (operations.foldl Tally.perform {}).held = 3 := by decide
  obtain ⟨⟨_, newest, _, _⟩, _, _, _⟩ := lines_foldl_perform operations
  obtain ⟨_, _, room, single⟩ := lines_foldl_perform pushes
  have plain : ∀ operation ∈ pushes, ∀ other, operation ≠ .limit other := by simp [pushes]
  refine ⟨?_, held, ?_, ?_⟩
  · rw [newest, held]
    decide
  · rw [List.foldl_append]
    exact room (.limit (some 4)) (by decide)
  · exact single 2 plain

end Window

end DeliveryTrace
