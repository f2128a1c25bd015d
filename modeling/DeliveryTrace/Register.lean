import DeliveryTrace.Text.Blank
import Std.Data.TreeMap

/-! # Registers

A register files items under texts and keeps them in filing order. Keys are ordered by their
characters, which is also the order of their UTF-8 bytes. The main statement says that filing
appends to one key and leaves every other key alone.
-/

namespace DeliveryTrace

/-- Items filed under texts. A key is present only with an item. -/
structure Register (α : Type) where
  entries : Std.TreeMap Text (List α)
  entries_ne_nil : ∀ key : Text, entries[key]? ≠ some []

namespace Register

variable {α : Type}

/-- The register without items. -/
def empty : Register α := ⟨∅, by simp⟩

instance : Inhabited (Register α) := ⟨empty⟩

/-- The items filed under a key, oldest first. -/
def items (register : Register α) (key : Text) : List α := register.entries.getD key []

/-- File one item. -/
def file (register : Register α) (key : Text) (item : α) : Register α where
  entries := register.entries.insert key (register.items key ++ [item])
  entries_ne_nil other := by
    rw [Std.TreeMap.getElem?_insert]
    split
    · simp
    · exact register.entries_ne_nil other

/-- File one item unless it is already filed under that key. -/
def fileOnce [BEq α] (register : Register α) (key : Text) (item : α) : Register α :=
  if (register.items key).contains item then register else register.file key item

/-- The keys that have items, in increasing order. -/
def keys (register : Register α) : List Text := register.entries.keys

/-- The number of keys that have items. -/
def size (register : Register α) : Nat := register.entries.size

@[simp]
theorem items_empty (key : Text) : (empty : Register α).items key = [] := by
  simp [items, empty]

/-- Filing appends to one key and leaves every other key alone. -/
theorem items_file (register : Register α) (key other : Text) (item : α) :
    (register.file key item).items other =
      if key = other then register.items key ++ [item] else register.items other := by
  simp only [file, items, Std.TreeMap.getD_insert, Std.compare_eq_iff_eq]

/-- Filing once appends to one key unless the item is there, and leaves every other key alone. -/
theorem items_fileOnce [BEq α] [LawfulBEq α] (register : Register α) (key other : Text) (item : α) :
    (register.fileOnce key item).items other =
      if key = other ∧ item ∉ register.items key then register.items key ++ [item]
      else register.items other := by
  unfold fileOnce
  by_cases filed : item ∈ register.items key
  · simp [filed]
  · simp [filed, items_file]

theorem keys_pairwise (register : Register α) :
    register.keys.Pairwise fun left right => compare left right = .lt :=
  Std.TreeMap.ordered_keys

end Register

end DeliveryTrace
