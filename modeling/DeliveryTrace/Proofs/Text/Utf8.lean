import DeliveryTrace.Text.Utf8
import Mathlib.Data.List.Basic

/-! # Decoding in parts

An ASCII byte is part of no other character: it ends an unfinished one and is read afresh. So lossy
decoding can be done in parts, cut at any ASCII byte, and a line feed in the decoded text stems from
a line feed among the bytes, however ill-formed the bytes around it are.
-/

namespace DeliveryTrace.Utf8

/-- An unfinished character lies beyond ASCII: no ASCII byte belongs to it, and its code will not be
one of ASCII. The forms whose code starts with zeros exclude small second bytes. -/
structure Partial.BeyondAscii (pending : Partial) : Prop where
  unfinished : pending.missing ≠ 0
  lowest : 0x80 ≤ pending.lowest.toNat
  code : 2 ≤ pending.code ∨ pending.missing ≠ 1 ∧ (1 ≤ pending.code ∨ 0x82 ≤ pending.lowest.toNat)

variable {pending : Partial} {pending? : Option Partial} {byte : UInt8} {bytes : List UInt8}

/-! ## One byte -/

theorem beyondAscii_of_opened? (opened : opened? byte = some pending) : pending.BeyondAscii := by
  simp only [opened?, Bool.and_eq_true, decide_eq_true_eq, UInt8.le_iff_toNat_le,
    UInt8.reduceToNat] at opened
  split at opened
  · next range =>
    cases opened
    exact ⟨Nat.one_ne_zero, Nat.le_refl _, .inl (Nat.le_sub_of_add_le range.1)⟩
  split at opened
  · cases opened
    exact ⟨by decide, by decide, by decide⟩
  split at opened
  · cases opened
    exact ⟨by decide, by decide, by decide⟩
  split at opened
  · next range =>
    cases opened
    exact ⟨Nat.succ_ne_zero 1, Nat.le_refl _,
      .inr ⟨Nat.succ_succ_ne_one 0, .inl (Nat.le_sub_of_add_le range.1)⟩⟩
  split at opened
  · cases opened
    exact ⟨by decide, by decide, by decide⟩
  split at opened
  · cases opened
    exact ⟨by decide, by decide, by decide⟩
  split at opened
  · next range =>
    cases opened
    exact ⟨Nat.succ_ne_zero 2, Nat.le_refl _,
      .inr ⟨Nat.succ_succ_ne_one 1, .inl (Nat.le_sub_of_add_le range.1)⟩⟩
  · cases opened

/-- Where a character may begin, a byte is an ASCII character, opens another one or is
ill-formed. -/
theorem start_cases (byte : UInt8) :
    (byte < 0x80 ∧ start byte = ([some (Char.ofNat byte.toNat)], none)) ∨
      (∃ pending, pending.BeyondAscii ∧ start byte = ([], some pending)) ∨
      start byte = ([none], none) := by
  unfold start
  by_cases ascii : byte < 0x80
  · exact .inl ⟨ascii, if_pos ascii⟩
  · rw [if_neg ascii]
    cases opened : opened? byte with
    | none => exact .inr (.inr rfl)
    | some pending => exact .inr (.inl ⟨pending, beyondAscii_of_opened? opened, rfl⟩)

/-- After an unfinished character, a byte completes it beyond ASCII, continues it, or breaks it and
is read afresh. -/
theorem step_cases (beyond : pending.BeyondAscii) (byte : UInt8) :
    (∃ code, 0x80 ≤ code ∧ step (some pending) byte = ([some (Char.ofNat code)], none)) ∨
      (∃ longer, longer.BeyondAscii ∧ step (some pending) byte = ([], some longer)) ∨
      step (some pending) byte = (none :: (start byte).1, (start byte).2) := by
  unfold step
  by_cases inside : pending.lowest ≤ byte && byte ≤ pending.highest
  · have least := inside
    simp only [Bool.and_eq_true, decide_eq_true_eq, UInt8.le_iff_toNat_le] at least
    have code := beyond.code
    by_cases last : pending.missing = 1
    · refine .inl ⟨64 * pending.code + (byte.toNat - 0x80), ?_, ?_⟩
      · omega
      · simp only [inside, last, if_true]
    · have unfinished := beyond.unfinished
      have larger : 2 ≤ 64 * pending.code + (byte.toNat - 0x80) := by omega
      have fewer : pending.missing - 1 ≠ 0 := by omega
      refine .inr (.inl ⟨⟨pending.missing - 1, 0x80, 0xBF, _⟩,
        ⟨fewer, Nat.le_refl _, .inl larger⟩, ?_⟩)
      simp only [inside, last, if_true, if_false]
  · exact .inr (.inr (if_neg inside))

theorem beyondAscii_start (started : some pending = (start byte).2) : pending.BeyondAscii := by
  rcases start_cases byte with ⟨_, read⟩ | ⟨opened, beyond, read⟩ | read
  · rw [read] at started
    cases started
  · rw [read] at started
    cases started
    exact beyond
  · rw [read] at started
    cases started

theorem beyondAscii_step (beyond : ∀ pending ∈ pending?, pending.BeyondAscii) (byte : UInt8) :
    ∀ pending ∈ (step pending? byte).2, pending.BeyondAscii := by
  intro left stepped
  cases pending? with
  | none => exact beyondAscii_start stepped.symm
  | some pending =>
      rcases step_cases (beyond pending rfl) byte with ⟨_, _, read⟩ | ⟨_, longer, read⟩ | read
      · rw [read] at stepped
        cases stepped
      · rw [read] at stepped
        cases stepped
        exact longer
      · rw [read] at stepped
        exact beyondAscii_start stepped.symm

/-- An ASCII byte leaves no unfinished character behind. -/
theorem step_of_lt (beyond : ∀ pending ∈ pending?, pending.BeyondAscii) (ascii : byte < 0x80) :
    step pending? byte = (units pending? [] ++ [some (Char.ofNat byte.toNat)], none) := by
  have afresh : start byte = ([some (Char.ofNat byte.toNat)], none) := if_pos ascii
  cases pending? with
  | none => exact afresh
  | some pending =>
      have outside : ¬ pending.lowest ≤ byte := by
        have lowest := (beyond pending rfl).lowest
        have small : byte.toNat < 0x80 := UInt8.lt_iff_toNat_lt.mp ascii
        rw [UInt8.le_iff_toNat_le]
        omega
      simp only [step, outside, afresh, decide_false, Bool.false_and, Bool.false_eq_true, if_false]
      rfl

/-! ## Line feeds -/

theorem eq_of_ofNat_eq_lineFeed {code : Nat} (same : Char.ofNat code = '\n') : code = 0x0A := by
  by_cases valid : code.isValidChar
  · have value : (Char.ofNat code).toNat = code := by
      rw [Char.ofNat, dif_pos valid]
      rfl
    rw [← value, same]
    rfl
  · rw [Char.ofNat, dif_neg valid] at same
    cases same

theorem eq_of_lineFeed_mem_start (member : some '\n' ∈ (start byte).1) : byte = 0x0A := by
  rcases start_cases byte with ⟨_, read⟩ | ⟨_, _, read⟩ | read
  · rw [read, List.mem_singleton, Option.some.injEq] at member
    exact UInt8.toNat_inj.mp (eq_of_ofNat_eq_lineFeed member.symm)
  · rw [read] at member
    cases member
  · rw [read, List.mem_singleton] at member
    cases member

theorem eq_of_lineFeed_mem_step (beyond : ∀ pending ∈ pending?, pending.BeyondAscii)
    (member : some '\n' ∈ (step pending? byte).1) : byte = 0x0A := by
  cases pending? with
  | none => exact eq_of_lineFeed_mem_start member
  | some pending =>
      rcases step_cases (beyond pending rfl) byte with ⟨code, large, read⟩ | ⟨_, _, read⟩ | read
      · rw [read, List.mem_singleton, Option.some.injEq] at member
        have small := eq_of_ofNat_eq_lineFeed member.symm
        omega
      · rw [read] at member
        cases member
      · rw [read, List.mem_cons] at member
        exact eq_of_lineFeed_mem_start (member.resolve_left (by simp))

theorem mem_of_lineFeed_mem_units (beyond : ∀ pending ∈ pending?, pending.BeyondAscii)
    (member : some '\n' ∈ units pending? bytes) : 0x0A ∈ bytes := by
  induction bytes generalizing pending? with
  | nil => cases pending? <;> simp [units] at member
  | cons byte bytes ih =>
      rw [units, List.mem_append] at member
      rcases member with now | later
      · rw [eq_of_lineFeed_mem_step beyond now]
        exact List.mem_cons_self
      · exact List.mem_cons_of_mem _ (ih (beyondAscii_step beyond byte) later)

/-! ## Byte sequences -/

/-- At an ASCII byte the units before it and the units behind it are read apart. -/
theorem units_append (beyond : ∀ pending ∈ pending?, pending.BeyondAscii) (bytes : List UInt8)
    (ascii : byte < 0x80) (rest : List UInt8) :
    units pending? (bytes ++ byte :: rest) =
      units pending? bytes ++ some (Char.ofNat byte.toNat) :: units none rest := by
  induction bytes generalizing pending? with
  | nil =>
      rw [List.nil_append, units, step_of_lt beyond ascii, List.append_assoc]
      rfl
  | cons first bytes ih =>
      rw [List.cons_append, units, units, ih (beyondAscii_step beyond first), List.append_assoc]

/-- Something is shown for an unfinished character, whatever follows. -/
theorem units_some_ne_nil (beyond : pending.BeyondAscii) (bytes : List UInt8) :
    units (some pending) bytes ≠ [] := by
  induction bytes generalizing pending with
  | nil => exact List.cons_ne_nil none []
  | cons byte bytes ih =>
      rw [units]
      rcases step_cases beyond byte with ⟨_, _, read⟩ | ⟨longer, beyond, read⟩ | read
      · simp [read]
      · rw [read]
        exact ih beyond
      · simp [read]

theorem units_cons_ne_nil (byte : UInt8) (bytes : List UInt8) :
    units none (byte :: bytes) ≠ [] := by
  rw [units, step]
  rcases start_cases byte with ⟨_, read⟩ | ⟨pending, beyond, read⟩ | read
  · simp [read]
  · rw [read]
    exact units_some_ne_nil beyond bytes
  · simp [read]

/-! ## Lossy decoding -/

theorem decodeLossy_append (bytes : List UInt8) (ascii : byte < 0x80) (rest : List UInt8) :
    decodeLossy (bytes ++ byte :: rest) =
      decodeLossy bytes ++ Char.ofNat byte.toNat :: decodeLossy rest := by
  unfold decodeLossy
  rw [units_append (by simp) bytes ascii, List.map_append, List.map_cons]
  rfl

theorem decodeLossy_eq_nil_iff : decodeLossy bytes = [] ↔ bytes = [] := by
  unfold decodeLossy
  rw [List.map_eq_nil_iff]
  cases bytes with
  | nil => simp [units]
  | cons byte bytes => simp [units_cons_ne_nil byte bytes]

/-- A line feed in the decoded text stems from a line feed. -/
theorem lineFeed_not_mem_decodeLossy (absent : 0x0A ∉ bytes) : '\n' ∉ decodeLossy bytes := by
  unfold decodeLossy
  intro member
  obtain ⟨unit, listed, same⟩ := List.mem_map.mp member
  cases unit with
  | none => exact absurd same (by decide)
  | some c =>
      rw [Option.getD_some] at same
      subst same
      exact absent (mem_of_lineFeed_mem_units (by simp) listed)

end DeliveryTrace.Utf8
