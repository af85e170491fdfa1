import AdFilter.Index.Tables
import Mathlib

/-! A lookup by address finds the rules whose shortcut the address contains. -/

namespace AdFilter

namespace Text

/-- The windows of a row of bytes are its parts of the right length. -/
theorem mem_windows_iff {width : Nat} (positive : 0 < width) {bytes window : List UInt8} :
    window ∈ windows width bytes ↔ window.length = width ∧ window <:+: bytes := by
  -- A part begins with the first byte, or lies behind it.
  induction bytes with
  | nil =>
    simp only [windows, List.not_mem_nil, List.infix_nil, false_iff, not_and]
    -- A window has at least one byte, and nothing has none.
    rintro sized rfl
    simp only [List.length_nil] at sized
    omega
  | cons byte rest ih =>
    simp only [windows]
    split
    · rename_i room
      -- The first window is what a part of that length can only be at the beginning.
      rw [List.mem_cons, ih, List.infix_cons_iff]
      constructor
      · rintro (rfl | ⟨sized, inside⟩)
        · exact ⟨by simpa using Nat.min_eq_left room, Or.inl (List.take_prefix ..)⟩
        · exact ⟨sized, Or.inr inside⟩
      · rintro ⟨sized, starts | inside⟩
        · exact Or.inl (sized ▸ List.prefix_iff_eq_take.mp starts)
        · exact Or.inr ⟨sized, inside⟩
    · rename_i short
      -- No part of a row is longer than the row.
      simp only [List.not_mem_nil, false_iff, not_and]
      intro sized inside
      have fits := inside.length_le
      simp only [List.length_cons] at fits
      omega

/-- A part of a text is encoded as a part of its encoding. -/
theorem bytes_infix {part text : List Char} (inside : part <:+: text) :
    bytes part <:+: bytes text := by
  obtain ⟨before, after, rfl⟩ := inside
  -- Each character has its bytes in a row of their own.
  exact ⟨bytes before, bytes after, by simp⟩

end Text

namespace ShortcutTable

/-- Each window of a part is a window of the whole. -/
theorem digests_subset {part text : String}
    (inside : Text.contains text.toList part.toList = true) : digests part ⊆ digests text := by
  -- A window of the part lies in the bytes of the text as well, and has the same digest there.
  intro digest member
  simp only [digests, List.mem_map, @Text.mem_windows_iff width (by decide)] at member ⊢
  obtain ⟨window, ⟨sized, within⟩, rfl⟩ := member
  have encoded := Text.bytes_infix (Text.contains_iff.mp inside)
  exact ⟨window, ⟨sized, within.trans encoded⟩, rfl⟩

/-- A shortcut that is fit for the table has at least one window. -/
theorem digests_ne_nil {shortcut : String} (fit : isUnusable shortcut = false) :
    digests shortcut ≠ [] := by
  -- A shortcut with fewer bytes than a window is refused.
  have room : width ≤ (Text.bytes shortcut.toList).length := by
    simp only [isUnusable, Bool.or_eq_false_iff, decide_eq_false_iff_not, Nat.not_lt,
      ← Text.length_bytes] at fit
    exact fit.1.1.1.1
  have first : (Text.bytes shortcut.toList).take width ∈
      Text.windows width (Text.bytes shortcut.toList) :=
    (Text.mem_windows_iff (by decide)).mpr
      ⟨List.length_take_of_le room, (List.take_prefix ..).isInfix⟩
  exact List.ne_nil_of_mem (List.mem_map_of_mem first)

/-- The digest that is chosen is the first of those that the fewest rules have used. -/
theorem leastUsed?_eq_argmin (table : ShortcutTable) (digests : List UInt32) :
    table.leastUsed? digests = digests.argmin table.useCount := by
  -- The two are folds with the same step, written in two ways.
  show digests.foldl _ none = digests.foldl _ none
  congr 1
  funext best digest
  cases best <;> rfl

/-- The rules that are listed under a digest. -/
def bucket (table : ShortcutTable) (digest : UInt32) : List Nat := table.buckets.getD digest []

/-- A rule stands in the bucket of a digest. -/
def Lists (table : ShortcutTable) (digest : UInt32) (i : Nat) : Prop :=
  i ∈ table.buckets.getD digest []

/-- The table with one more rule under a digest. -/
def file (table : ShortcutTable) (key : UInt32) (index : Nat) : ShortcutTable where
  buckets := table.buckets.insert key (table.bucket key ++ [index])
  uses := table.uses.insert key (table.useCount key + 1)

/-- Only the bucket of the digest gets longer, by the rule at its end. -/
@[simp] theorem bucket_file (table : ShortcutTable) (key digest : UInt32) (index : Nat) :
    (table.file key index).bucket digest =
      table.bucket digest ++ if digest = key then [index] else [] := by
  simp only [file, bucket, Std.HashMap.getD_insert, beq_iff_eq]
  -- Only the bucket of the key is longer by one.
  by_cases same : digest = key
  · simp [same]
  · simp [same, Ne.symm same]

/-- Only the digest is used once more. -/
@[simp] theorem useCount_file (table : ShortcutTable) (key digest : UInt32) (index : Nat) :
    (table.file key index).useCount digest =
      table.useCount digest + if digest = key then 1 else 0 := by
  simp only [file, useCount, Std.HashMap.getD_insert, beq_iff_eq]
  -- Only the key is counted once more.
  by_cases same : digest = key
  · simp [same]
  · simp [same, Ne.symm same]

/-- The table takes a rule with a shortcut that is fit for it, and lists it under the window of this shortcut
that the fewest rules have used. -/
theorem insert?_eq_some_iff {table added : ShortcutTable} {index : Nat} {rule : NetworkRule} :
    table.insert? index rule = some added ↔
      ∃ shortcut, rule.shortcut = some shortcut ∧ isUnusable shortcut = false ∧
        ∃ key ∈ (digests shortcut).argmin table.useCount, table.file key index = added := by
  simp only [insert?, Option.bind_eq_bind, Option.bind_eq_some_iff, Option.pure_def,
    Option.some.injEq, leastUsed?_eq_argmin, Option.guard_eq_some', Bool.not_eq_true',
    exists_const, Option.mem_def, file, bucket]

/-- The table takes a rule with a shortcut and lists it under the digest of one of its windows. -/
theorem insert?_eq_some {table added : ShortcutTable} {index : Nat} {rule : NetworkRule}
    (taken : table.insert? index rule = some added) :
    ∃ shortcut, rule.shortcut = some shortcut ∧ ∃ key ∈ digests shortcut,
      ∀ digest i, added.Lists digest i ↔ table.Lists digest i ∨ i = index ∧ digest = key := by
  obtain ⟨shortcut, given, _, key, least, rfl⟩ := insert?_eq_some_iff.mp taken
  -- The rule stands in the bucket of its rarest window, and nothing else is moved.
  refine ⟨shortcut, given, key, List.argmin_mem least, fun digest i => ?_⟩
  show i ∈ (table.file key index).bucket digest ↔ i ∈ table.bucket digest ∨ _
  rw [bucket_file, List.mem_append]
  by_cases same : digest = key <;> simp [same]

/-- The table refuses a rule just if it has no shortcut that is fit for it. -/
theorem insert?_eq_none_iff {table : ShortcutTable} {index : Nat} {rule : NetworkRule} :
    table.insert? index rule = none ↔
      ∀ shortcut, rule.shortcut = some shortcut → isUnusable shortcut = true := by
  constructor
  · intro refused shortcut given
    by_contra fit
    -- A shortcut that is fit has windows to choose from.
    cases least : (digests shortcut).argmin table.useCount with
    | none => exact digests_ne_nil (by simpa using fit) (List.argmin_eq_none.mp least)
    | some key =>
      have taken : table.insert? index rule = some (table.file key index) :=
        insert?_eq_some_iff.mpr ⟨shortcut, given, by simpa using fit, key, least, rfl⟩
      rw [refused] at taken
      cases taken
  · intro unfit
    refine Option.eq_none_iff_forall_ne_some.mpr fun added taken => ?_
    obtain ⟨shortcut, given, fit, _⟩ := insert?_eq_some_iff.mp taken
    rw [unfit shortcut given] at fit
    cases fit

/-- A lookup yields the listed rules whose shortcut the address contains. -/
theorem mem_lookup_iff {table : ShortcutTable} {rules : Array NetworkRule} {url : String} {i : Nat} :
    i ∈ table.lookup rules url ↔ (∃ digest ∈ digests url, table.Lists digest i) ∧
      ∃ rule shortcut, rules[i]? = some rule ∧ rule.shortcut = some shortcut ∧
        Text.contains url.toList shortcut.toList = true := by
  -- What is listed is filtered by the shortcut of the rule itself.
  simp only [lookup, List.mem_flatMap, List.mem_filter, Option.any_eq_true,
    Option.bind_eq_some_iff, Lists]
  grind

end ShortcutTable

end AdFilter
