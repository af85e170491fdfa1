import AdFilter.Proofs.Site
import AdFilter.Text.Bytes
import Mathlib

/-! Entries with an open end: when the suffix of a host is cut off at the right place, and when it is not. -/

namespace AdFilter

namespace Text

/-- Only the empty text has no bytes. -/
theorem byteLength_eq_zero_iff {text : List Char} : byteLength text = 0 ↔ text = [] := by
  cases text with
  | nil => simp [byteLength]
  | cons c rest =>
    -- Every character has a byte at least.
    have filled := c.utf8Size_pos
    simp only [byteLength, reduceCtorEq, iff_false]
    omega

/-- A text of ASCII characters has as many bytes as characters. -/
theorem byteLength_of_ascii {text : List Char} (ascii : ∀ c ∈ text, c.toNat < 128) :
    byteLength text = text.length := by
  induction text with
  | nil => rfl
  | cons c rest ih =>
    simp only [List.forall_mem_cons] at ascii
    -- The first 128 characters are those of one byte.
    have single : c.utf8Size = 1 := by
      have low : c.val ≤ 127 := by
        rw [UInt32.le_iff_toNat_le]
        exact Nat.le_of_lt_succ ascii.1
      simp [Char.utf8Size, low]
    rw [byteLength, ih ascii.2, single, List.length_cons, Nat.add_comm]

/-- The part of a text that has as many bytes as are asked for is what is taken. -/
theorem takeBytes?_append (before after : List Char) :
    takeBytes? (byteLength before) (before ++ after) = some before := by
  induction before with
  | nil => cases after <;> rfl
  | cons c before ih =>
    -- Every character has a byte at least, so more than none are asked for.
    have filled := c.utf8Size_pos
    rw [List.cons_append, byteLength, takeBytes?.eq_3 _ _ _ (by omega), if_pos (Nat.le_add_right ..),
      Nat.add_sub_cancel_left, ih, Option.map_some]

/-- A text of ASCII characters is cut by every number of bytes that it has. -/
theorem takeBytes?_of_ascii {text : List Char} (ascii : ∀ c ∈ text, c.toNat < 128) {count : Nat}
    (inside : count ≤ byteLength text) : takeBytes? count text = some (text.take count) := by
  rw [byteLength_of_ascii ascii] at inside
  -- So many characters have just as many bytes, and they are a part to be taken.
  have size : byteLength (text.take count) = count := by
    rw [byteLength_of_ascii fun c member => ascii c (List.mem_of_mem_take member), List.length_take]
    omega
  have taken := takeBytes?_append (text.take count) (text.drop count)
  rwa [List.take_append_drop, size] at taken

end Text

namespace Domain

variable {host name rest : List Char}

/-- A host can be held against an entry that is given in reverse. -/
def CutsCleanly (entry host : List Char) : Prop := (tryCoversReversed entry host).isSome

/-- To hold a host against an entry with an open end is to cut it between two characters. -/
theorem cutsCleanly_openEnd_iff : CutsCleanly ('*' :: '.' :: name) host ↔
    ∀ place ∈ cutPlace? host, ∃ rest, Text.takeBytes? place host = some rest ∧ CutsCleanly name rest := by
  rw [CutsCleanly, tryCoversReversed]
  -- Without a place to cut at, the entry is not compared at all.
  cases cutPlace? host with
  | none => simp
  | some place => simp [Option.isSome_bind, Option.any_eq_true, CutsCleanly]

/-- An entry without an open end of its own is compared without any cut. -/
theorem cutsCleanly_of_closed (closed : ¬ ['*', '.'] <+: name) : CutsCleanly name host := by
  have plain : ∀ more, name ≠ '*' :: '.' :: more := by
    rintro more rfl
    exact closed (List.prefix_append ['*', '.'] more)
  -- Only an entry with an open end asks for a cut.
  rw [CutsCleanly, tryCoversReversed.eq_2 _ _ plain, Option.isSome_some]

/-- A host that does not end in a dot is cut before the dot of its suffix, if it has one. -/
theorem cutPlace?_spec (undotted : Site.trimDots host = host) :
    ('.' ∉ host ∧ cutPlace? host = none) ∨
      ∃ rest, host = rest ++ '.' :: Site.publicSuffixOf host ∧
        cutPlace? host = some (Text.byteLength rest) := by
  have suffix := Site.publicSuffixOf_spec host
  rw [undotted] at suffix
  unfold cutPlace?
  -- A host without a dot is its own suffix; any other one has something before it.
  rcases suffix with ⟨dotless, same⟩ | ⟨filled, rest, whole⟩
  · left
    exact ⟨dotless, by simp [same]⟩
  · right
    have some := mt Text.byteLength_eq_zero_iff.mp filled
    have size : Text.byteLength host =
        Text.byteLength rest + (1 + Text.byteLength (Site.publicSuffixOf host)) := by
      conv_lhs => rw [whole]
      rw [Text.byteLength_append, Text.byteLength]
      rfl
    refine ⟨rest, whole, ?_⟩
    simp only
    rw [if_neg (by omega), size]
    congr 1
    omega

/-- A host of dots alone is not cut. -/
theorem cutPlace?_of_dots (dots : Site.trimDots host = []) : cutPlace? host = none := by
  have none : Site.publicSuffixOf host = [] := by
    -- A host that has a dot before its suffix is not made of dots alone.
    rcases Site.publicSuffixOf_spec host with ⟨_, same⟩ | ⟨_, rest, whole⟩
    · rw [same, dots]
    · simp [dots] at whole
  simp [cutPlace?, none, Text.byteLength]

/-- What every cut leaves of a host, and allows to be cut again, allows to be held against any entry. -/
theorem cutsCleanly_of_keeps (Keeps : List Char → Prop)
    (cuts : ∀ {host place}, Keeps host → cutPlace? host = some place →
      ∃ rest, Text.takeBytes? place host = some rest ∧ Keeps rest)
    (keeps : Keeps host) (entry : List Char) : CutsCleanly entry host := by
  unfold CutsCleanly
  -- Each open end of the entry takes one cut, and the rest of the host is as good as the host.
  fun_induction tryCoversReversed entry host with
  | case1 => rfl
  | case2 name host place found ih =>
    obtain ⟨rest, taken, again⟩ := cuts keeps found
    rw [taken, Option.bind_some]
    exact ih rest again
  | case3 => rfl

/-- A host that is not cut can be held against any entry. -/
theorem cutsCleanly_of_uncut (uncut : cutPlace? host = none) (entry : List Char) :
    CutsCleanly entry host := by
  -- Where there is no place to cut at, no cut can leave one.
  refine cutsCleanly_of_keeps (cutPlace? · = none) (fun uncut found => ?_) uncut entry
  rw [uncut] at found
  cases found

/-- A host of ASCII characters can be held against any entry. -/
theorem cutsCleanly_of_ascii (ascii : ∀ c ∈ host, c.toNat < 128) (entry : List Char) :
    CutsCleanly entry host := by
  apply cutsCleanly_of_keeps (fun host => ∀ c ∈ host, c.toNat < 128) _ ascii entry
  intro host place ascii found
  -- The cut is never behind the end of the host.
  have inside : place ≤ Text.byteLength host := by
    unfold cutPlace? at found
    simp only at found
    split at found
    · cases found
    · cases found
      omega
  exact ⟨_, Text.takeBytes?_of_ascii ascii inside, fun c member => ascii c (List.mem_of_mem_take member)⟩

/-- A host that does not end in a dot is cut cleanly, and what is left of it is the part before its suffix. -/
theorem takeBytes?_of_cutPlace? (undotted : Site.trimDots host = host) {place : Nat}
    (found : cutPlace? host = some place) : ∃ rest, Text.takeBytes? place host = some rest ∧
      host = rest ++ '.' :: Site.publicSuffixOf host := by
  rcases cutPlace?_spec undotted with ⟨_, none⟩ | ⟨rest, whole, there⟩
  · rw [none] at found
    cases found
  -- The cut is where the rest ends, so it goes through no character.
  · obtain rfl := Option.some.inj (there.symm.trans found)
    refine ⟨rest, ?_, whole⟩
    conv_lhs => rw [whole]
    exact Text.takeBytes?_append rest _

/-- A host that does not end in a dot can be held against an entry with one open end. -/
theorem cutsCleanly_of_single (undotted : Site.trimDots host = host) {entry : List Char}
    (single : ¬ ['*', '.', '*', '.'] <+: entry) : CutsCleanly entry host := by
  by_cases opened : ['*', '.'] <+: entry
  · obtain ⟨name, rfl⟩ := opened
    refine cutsCleanly_openEnd_iff.mpr fun place found => ?_
    obtain ⟨rest, taken, _⟩ := takeBytes?_of_cutPlace? undotted found
    refine ⟨rest, taken, cutsCleanly_of_closed ?_⟩
    -- Another open end behind the first would be the second of the entry.
    rintro ⟨more, rfl⟩
    exact single (List.prefix_append ['*', '.', '*', '.'] more)
  · exact cutsCleanly_of_closed opened

/-- A host without trailing dots and without an empty label can be held against any entry. -/
theorem cutsCleanly_of_labels (undotted : Site.trimDots host = host)
    (labels : ¬ ['.', '.'] <:+: host) (entry : List Char) : CutsCleanly entry host := by
  apply cutsCleanly_of_keeps (fun host => Site.trimDots host = host ∧ ¬ ['.', '.'] <:+: host) _
    ⟨undotted, labels⟩ entry
  intro host place ⟨undotted, labels⟩ found
  obtain ⟨rest, taken, whole⟩ := takeBytes?_of_cutPlace? undotted found
  refine ⟨rest, taken, ?_, fun inside => labels ?_⟩
  · -- A dot at the end of the rest would stand beside the one that is cut off with the suffix.
    rw [Site.trimDots, List.reverse_eq_iff]
    cases ending : rest.reverse with
    | nil => rfl
    | cons c more =>
      refine List.dropWhile_cons_of_neg fun dot => labels ?_
      obtain rfl : c = '.' := by simpa using dot
      rw [whole, List.reverse_eq_cons_iff.mp ending]
      exact ⟨more.reverse, Site.publicSuffixOf host, by simp⟩
  · rw [whole]
    exact inside.trans (List.prefix_append rest _).isInfix

/-- A name ends what is left of a host just if the name with the suffix ends the host. -/
theorem within_iff_suffix (suffix : List Char) : within rest name = true ↔
    rest ++ '.' :: suffix = name ++ '.' :: suffix ∨
      '.' :: (name ++ '.' :: suffix) <:+ rest ++ '.' :: suffix := by
  -- The suffix is the same on both sides, so it may be left out or put on again.
  rw [within_iff, List.append_cancel_right_eq]
  refine or_congr Iff.rfl ?_
  constructor
  · rintro ⟨before, rfl⟩
    exact ⟨before, by simp⟩
  · rintro ⟨before, same⟩
    have whole : before ++ '.' :: name ++ '.' :: suffix = rest ++ '.' :: suffix := by simpa using same
    exact ⟨before, List.append_cancel_right whole⟩

/-- An entry with an open end is compared with what the cut leaves of the host. -/
theorem tryCovers_openEnd {name : String} (closed : '*' ∉ name.toList) (host : String) :
    tryCovers (name ++ ".*") host =
      (cutPlace? host.toList).elim (some false) fun place =>
        (Text.takeBytes? place host.toList).map fun rest => within rest name.toList := by
  have reversed : (name ++ ".*").toList.reverse = '*' :: '.' :: name.toList.reverse := by simp
  -- The name has no open end of its own.
  have plain : ∀ more, name.toList.reverse ≠ '*' :: '.' :: more := by
    intro more same
    exact closed (List.mem_reverse.mp (same ▸ List.mem_cons_self))
  have compared (rest : List Char) : tryCoversReversed name.toList.reverse rest =
      some (within rest name.toList) := by
    rw [tryCoversReversed.eq_2 _ _ plain, List.reverse_reverse]
  rw [tryCovers, reversed, tryCoversReversed]
  simp only [compared, Option.map_eq_bind, Function.comp_def]
  cases cutPlace? host.toList <;> rfl

end Domain

namespace Domain

/--
An entry with an open end covers a host just if the host, without its suffix, lies within the name.

This is so for every host that does not end in a dot, or has nothing else; it is cut between two
characters. All domains of a rule can be held against such a host if it is in ASCII, if it has no empty
label, or if no entry has two open ends.
-/
theorem covers_openEnd_iff {host : String}
    (ends : Site.trimDots host.toList = host.toList ∨ Site.trimDots host.toList = []) :
    (∀ name : String, '*' ∉ name.toList → IsDefined (name ++ ".*") host ∧
      (covers (name ++ ".*") host = true ↔
        Site.trimDots host.toList = name.toList ++ '.' :: Site.publicSuffixOf host.toList ∨
          '.' :: (name.toList ++ '.' :: Site.publicSuffixOf host.toList) <:+
            Site.trimDots host.toList)) ∧
    ∀ domains : Domains,
      ((∀ c ∈ host.toList, c.toNat < 128) ∨ ¬ ['.', '.'] <:+: host.toList ∨
        ∀ entry ∈ domains.restricted ++ domains.permitted, ¬ ".*.*".toList <:+ entry.toList) →
      domains.IsDefinedOn host := by
  have twice (entry : String) : ['*', '.', '*', '.'] <+: entry.toList.reverse ↔
      ".*.*".toList <:+ entry.toList := by
    rw [← List.reverse_suffix, List.reverse_reverse]
    rfl
  rcases ends with undotted | dots
  · constructor
    · intro name closed
      constructor
      · apply cutsCleanly_of_single undotted
        rw [twice]
        rintro ⟨before, same⟩
        -- The name would have the first of the two stars.
        have whole : before ++ ".*".toList ++ ".*".toList = name.toList ++ ".*".toList := by
          simpa using same
        exact closed (List.append_cancel_right whole ▸ by simp)
      · rw [covers, tryCovers_openEnd closed, undotted]
        rcases cutPlace?_spec undotted with ⟨dotless, none⟩ | ⟨_, _, place⟩
        · -- Without a dot there is nothing before the suffix, and no dot to end a name.
          rw [none]
          simp only [Option.elim_none, Option.getD_some, Bool.false_eq_true, false_iff, not_or]
          exact ⟨fun same => dotless (same ▸ by simp), fun ending => dotless (ending.subset (by simp))⟩
        · obtain ⟨rest, taken, whole⟩ := takeBytes?_of_cutPlace? undotted place
          rw [place, Option.elim_some, taken, Option.map_some, Option.getD_some,
            within_iff_suffix (Site.publicSuffixOf host.toList), ← whole]
    · rintro domains (ascii | labels | single) entry member
      · exact cutsCleanly_of_ascii ascii _
      · exact cutsCleanly_of_labels undotted labels _
      · exact cutsCleanly_of_single undotted (mt (twice entry).mp (single entry member))
  · have uncut := cutPlace?_of_dots dots
    constructor
    · intro name closed
      refine ⟨cutsCleanly_of_uncut uncut _, ?_⟩
      -- A host of dots is not cut, and has no name in it.
      rw [covers, tryCovers_openEnd closed, uncut, dots]
      simp
    · intro domains _ entry _
      exact cutsCleanly_of_uncut uncut _

/-- A host in a registry of two labels, with a letter beyond ASCII before the cut. -/
theorem covers_openEnd_iff_registry :
    Site.trimDots "www.ärger.co.uk".toList = "www.ärger.co.uk".toList ∧ '*' ∉ "ärger".toList ∧
      IsDefined ("ärger" ++ ".*") "www.ärger.co.uk" ∧
      (covers ("ärger" ++ ".*") "www.ärger.co.uk" = true ↔
        Site.trimDots "www.ärger.co.uk".toList =
            "ärger".toList ++ '.' :: Site.publicSuffixOf "www.ärger.co.uk".toList ∨
          '.' :: ("ärger".toList ++ '.' :: Site.publicSuffixOf "www.ärger.co.uk".toList) <:+
            Site.trimDots "www.ärger.co.uk".toList) ∧
      ¬ ['.', '.'] <:+: "www.ärger.co.uk".toList ∧
      (⟨["ärger.*"], ["www.*.*"]⟩ : Domains).IsDefinedOn "www.ärger.co.uk" := by
  have undotted : Site.trimDots "www.ärger.co.uk".toList = "www.ärger.co.uk".toList := by
    decide +kernel
  have closed : '*' ∉ "ärger".toList := by decide +kernel
  -- No two dots stand in a row, so the entry with two open ends can be compared as well.
  have labels : ¬ ['.', '.'] <:+: "www.ärger.co.uk".toList := by decide +kernel
  obtain ⟨covered, defined⟩ := covers_openEnd_iff (.inl undotted)
  obtain ⟨clean, reads⟩ := covered "ärger" closed
  exact ⟨undotted, closed, clean, reads, labels, defined _ (.inr (.inl labels))⟩

/--
A dot at the end of a host puts the cut in the wrong place.

The suffix is found without the dot and cut off with it, so the host is not covered; with two dots the
cut can go through a character.
-/
theorem covers_openEnd_dotted :
    '*' ∉ "a".toList ∧
      Site.trimDots "a.com.".toList = "a".toList ++ '.' :: Site.publicSuffixOf "a.com.".toList ∧
      covers ("a" ++ ".*") "a.com." = false ∧ ¬ IsDefined ("a" ++ ".*") "é.." := by
  -- The first character of the host has two bytes, and the cut is behind the first of them.
  have stops : tryCovers ("a" ++ ".*") "é.." = none := by decide +kernel
  refine ⟨by decide +kernel, by decide +kernel, by decide +kernel, ?_⟩
  rw [IsDefined, stops]
  exact Bool.false_ne_true

end Domain

end AdFilter
