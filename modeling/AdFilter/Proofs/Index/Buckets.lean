import AdFilter.Proofs.Index.Rules
import Mathlib

/-!
Rules that are offered to a table of shortcuts one after the other: each one that it takes stands once in one
bucket, and a lookup by address finds it there.
-/

namespace AdFilter

namespace ShortcutTable

/-- The table after a rule was offered to it with an index; it stays as it is if it refuses the rule. -/
def offer (table : ShortcutTable) (entry : Nat × NetworkRule) : ShortcutTable :=
  (table.insert? entry.1 entry.2).getD table

/-- The table after rules were offered to it one after the other. -/
def ofOffers (entries : List (Nat × NetworkRule)) : ShortcutTable := entries.foldl offer {}

/-- After the offers before it the rule was offered with the index, and the table took it. -/
def TookAfter (entries before : List (Nat × NetworkRule)) (i : Nat) (rule : NetworkRule) : Prop :=
  -- The offers that follow have no say in it.
  ∃ after, entries = before ++ (i, rule) :: after ∧ ((ofOffers before).insert? i rule).isSome = true

/-- Each digest was used as often as its bucket is long. -/
def Balanced (table : ShortcutTable) : Prop :=
  ∀ digest, table.useCount digest = (table.bucket digest).length

/-- A window of a shortcut, whose bucket is as short as that of any other one. -/
structure IsShortest (table : ShortcutTable) (shortcut : String) (window : List UInt8) : Prop where
  width_eq : window.length = width
  inside : window <:+: Text.bytes shortcut.toList
  shortest : ∀ other, other.length = width → other <:+: Text.bytes shortcut.toList →
    (table.bucket (Digest.ofBytes window)).length ≤ (table.bucket (Digest.ofBytes other)).length

variable {entries before : List (Nat × NetworkRule)} {table : ShortcutTable} {rule : NetworkRule}
  {shortcut : String} {digest : UInt32} {i : Nat}

/-- An offer leaves the table as it is, or files the rule under the least used digest of its shortcut. -/
theorem offer_cases (table : ShortcutTable) (entry : Nat × NetworkRule) :
    table.insert? entry.1 entry.2 = none ∧ table.offer entry = table ∨
      ∃ shortcut, entry.2.shortcut = some shortcut ∧
        ∃ key ∈ (digests shortcut).argmin table.useCount,
          table.insert? entry.1 entry.2 = some (table.file key entry.1) ∧
            table.offer entry = table.file key entry.1 := by
  -- An offer that is refused leaves the table as it was.
  cases taken : table.insert? entry.1 entry.2 with
  | none => exact .inl ⟨rfl, by rw [offer, taken, Option.getD_none]⟩
  | some added =>
    obtain ⟨shortcut, given, _, key, least, rfl⟩ := insert?_eq_some_iff.mp taken
    exact .inr ⟨shortcut, given, key, least, rfl, by rw [offer, taken, Option.getD_some]⟩

/-- An offer keeps the uses and the buckets in step. -/
theorem Balanced.offer (balanced : Balanced table) (entry : Nat × NetworkRule) :
    Balanced (table.offer entry) := by
  intro digest
  rcases offer_cases table entry with ⟨_, same⟩ | ⟨_, _, key, _, _, filed⟩
  · rw [same, balanced]
  · -- The digest that is used once more is the one whose bucket gets longer.
    rw [filed, useCount_file, bucket_file, List.length_append, balanced]
    split <;> rfl

/-- The digest that is chosen is that of a window with a shortest bucket. -/
theorem Balanced.exists_isShortest (balanced : Balanced table) {key : UInt32}
    (least : key ∈ (digests shortcut).argmin table.useCount) :
    ∃ window, IsShortest table shortcut window ∧ Digest.ofBytes window = key := by
  have isWindow {window : List UInt8} := @Text.mem_windows_iff width (by decide)
    (Text.bytes shortcut.toList) window
  obtain ⟨window, member, rfl⟩ := List.mem_map.mp (List.argmin_mem least)
  refine ⟨window, ⟨(isWindow.mp member).1, (isWindow.mp member).2, fun other wide inside => ?_⟩, rfl⟩
  -- To have the fewest uses is to have the shortest bucket.
  rw [← balanced, ← balanced]
  exact List.le_of_mem_argmin (List.mem_map_of_mem (isWindow.mpr ⟨wide, inside⟩)) least

/-- An offer adds nothing to a bucket but its own index, at the end. -/
theorem bucket_offer (table : ShortcutTable) (entry : Nat × NetworkRule) (digest : UInt32) :
    ∃ more, (table.offer entry).bucket digest = table.bucket digest ++ more ∧
      more.Sublist [entry.1] := by
  -- A rule that is refused changes nothing, and one that is taken is filed under one key.
  rcases offer_cases table entry with ⟨_, same⟩ | ⟨_, _, key, _, _, filed⟩
  · exact ⟨[], by rw [same, List.append_nil], List.nil_sublist _⟩
  · refine ⟨_, by rw [filed, bucket_file], ?_⟩
    split
    · exact List.Sublist.refl _
    · exact List.nil_sublist _

/-- No rule stands in a bucket of the empty table. -/
@[simp] theorem bucket_empty (digest : UInt32) : bucket {} digest = [] := by simp [bucket]

/-- The empty table is balanced. -/
theorem balanced_empty : Balanced {} := fun digest => by simp [useCount]

/-- Offers are made to the table that those before them have left. -/
theorem ofOffers_append (before after : List (Nat × NetworkRule)) :
    ofOffers (before ++ after) = after.foldl offer (ofOffers before) := List.foldl_append

/-- After any offers the uses and the buckets are in step. -/
theorem balanced_ofOffers (entries : List (Nat × NetworkRule)) : Balanced (ofOffers entries) := by
  -- The invariant holds of the empty table, and each offer keeps it.
  induction entries using List.reverseRecOn with
  | nil => exact balanced_empty
  | append_singleton entries entry ih =>
    rw [ofOffers_append]
    exact ih.offer entry

/-- Offers add to the end of a bucket, and nothing but their indices in their order. -/
theorem bucket_foldl_offer (entries : List (Nat × NetworkRule)) (table : ShortcutTable)
    (digest : UInt32) :
    ∃ more, (entries.foldl offer table).bucket digest = table.bucket digest ++ more ∧
      more.Sublist (entries.map Prod.fst) := by
  -- What the first offer adds stands before all that the others add.
  induction entries generalizing table with
  | nil => exact ⟨[], (List.append_nil _).symm, List.Sublist.refl _⟩
  | cons entry rest ih =>
    obtain ⟨now, first, single⟩ := bucket_offer table entry digest
    obtain ⟨later, whole, ordered⟩ := ih (table.offer entry)
    exact ⟨now ++ later, by rw [List.foldl_cons, whole, first, List.append_assoc], single.append ordered⟩

/-- After any offers a bucket holds indices of offers, in their order. -/
theorem bucket_ofOffers_sublist (entries : List (Nat × NetworkRule)) (digest : UInt32) :
    ((ofOffers entries).bucket digest).Sublist (entries.map Prod.fst) := by
  obtain ⟨more, whole, ordered⟩ := bucket_foldl_offer entries {} digest
  -- The bucket of the empty table has nothing in front.
  rw [ofOffers, whole, bucket_empty, List.nil_append]
  exact ordered

/-- Each index in a bucket is that of a rule that was taken. -/
theorem exists_tookAfter (member : i ∈ (ofOffers entries).bucket digest) :
    ∃ before rule, TookAfter entries before i rule := by
  -- Either the last offer has added the index, or an earlier one has, and was taken in the shorter run too.
  induction entries using List.reverseRecOn with
  | nil => simp [ofOffers] at member
  | append_singleton entries entry ih =>
    have kept : (i ∈ (ofOffers entries).bucket digest) →
        ∃ before rule, TookAfter (entries ++ [entry]) before i rule := by
      intro earlier
      obtain ⟨before, rule, after, rfl, taken⟩ := ih earlier
      exact ⟨before, rule, after ++ [entry], by simp, taken⟩
    rw [ofOffers_append, List.foldl_cons, List.foldl_nil] at member
    rcases offer_cases (ofOffers entries) entry with ⟨_, same⟩ | ⟨_, _, key, _, taken, filed⟩
    · exact kept (same ▸ member)
    · rw [filed, bucket_file, List.mem_append] at member
      rcases member with earlier | now
      · exact kept earlier
      · obtain rfl : i = entry.1 := by
          split at now
          · exact List.mem_singleton.mp now
          · exact absurd now List.not_mem_nil
        exact ⟨entries, entry.2, [], rfl, by rw [taken, Option.isSome_some]⟩

/-- Of distinct indices the one of a rule that was taken stands once in the bucket of one of the windows whose
bucket was the shortest when it was offered, and in no other bucket. -/
theorem TookAfter.count_bucket (took : TookAfter entries before i rule)
    (distinct : (entries.map Prod.fst).Nodup) :
    ∃ shortcut window, rule.shortcut = some shortcut ∧
      IsShortest (ofOffers before) shortcut window ∧
      ∀ digest, ((ofOffers entries).bucket digest).count i =
        if digest = Digest.ofBytes window then 1 else 0 := by
  obtain ⟨after, rfl, taken⟩ := took
  rcases offer_cases (ofOffers before) (i, rule) with
    ⟨refused, _⟩ | ⟨shortcut, given, key, least, _, filed⟩
  · rw [refused] at taken
    cases taken
  · obtain ⟨window, shortest, rfl⟩ := (balanced_ofOffers before).exists_isShortest least
    refine ⟨shortcut, window, given, shortest, fun digest => ?_⟩
    -- No offer before or after this one comes with the same index.
    have apart : i ∉ before.map Prod.fst ∧ i ∉ after.map Prod.fst := by
      simp only [List.map_append, List.map_cons, List.nodup_append, List.nodup_cons,
        List.mem_cons] at distinct
      exact ⟨fun earlier => distinct.2.2 i earlier i (.inl rfl) rfl, distinct.2.1.1⟩
    have earlier : ((ofOffers before).bucket digest).count i = 0 :=
      List.count_eq_zero.mpr fun member =>
        apart.1 ((bucket_ofOffers_sublist before digest).subset member)
    obtain ⟨more, whole, ordered⟩ :=
      bucket_foldl_offer after ((ofOffers before).file (Digest.ofBytes window) i) digest
    have later : more.count i = 0 :=
      List.count_eq_zero.mpr fun member => apart.2 (ordered.subset member)
    rw [ofOffers_append, List.foldl_cons, filed, whole, bucket_file, List.count_append,
      List.count_append, earlier, later]
    split <;> simp

/-- After a refused offer a run goes on as it would have without it. -/
theorem ofOffers_of_refused (after : List (Nat × NetworkRule))
    (refused : (ofOffers before).insert? i rule = none) :
    ofOffers (before ++ (i, rule) :: after) = ofOffers (before ++ after) := by
  -- The offers that follow are made to the same table.
  have same : (ofOffers before).offer (i, rule) = ofOffers before := by
    rw [offer, refused, Option.getD_none]
  rw [ofOffers_append, List.foldl_cons, same, ofOffers_append]

/-- Among distinct indices a lookup by address yields those of the rules that were taken and whose shortcut the
address contains. -/
theorem mem_lookup_iff_exists_tookAfter (distinct : (entries.map Prod.fst).Nodup)
    {rules : Array NetworkRule}
    (held : ∀ before i rule, TookAfter entries before i rule → rules[i]? = some rule) {url : String} :
    i ∈ (ofOffers entries).lookup rules url ↔
      ∃ before rule shortcut, TookAfter entries before i rule ∧ rule.shortcut = some shortcut ∧
        Text.contains url.toList shortcut.toList = true := by
  rw [mem_lookup_iff]
  constructor
  · rintro ⟨⟨digest, _, listed⟩, rule, shortcut, found, given, inside⟩
    obtain ⟨before, other, took⟩ := exists_tookAfter listed
    -- The rule that is looked at is the one that was offered with the index.
    obtain rfl : other = rule := Option.some.inj ((held before i other took).symm.trans found)
    exact ⟨before, other, shortcut, took, given, inside⟩
  · rintro ⟨before, rule, shortcut, took, given, inside⟩
    obtain ⟨_, window, same, shortest, filed⟩ := took.count_bucket distinct
    obtain rfl := Option.some.inj (given.symm.trans same)
    -- The window under which the rule is filed is one of the address as well.
    have here : Digest.ofBytes window ∈ digests shortcut :=
      List.mem_map_of_mem ((Text.mem_windows_iff (by decide)).mpr
        ⟨shortest.width_eq, shortest.inside⟩)
    have listed : i ∈ (ofOffers entries).bucket (Digest.ofBytes window) := by
      rw [← List.count_pos_iff, filed, if_pos rfl]
      exact Nat.one_pos
    exact ⟨⟨_, digests_subset inside here, listed⟩, rule, shortcut, held before i rule took, given,
      inside⟩

/--
After any offers of rules with distinct indices the table is in order.

Each digest was used as often as its bucket is long, and no more often than rules were offered. A rule that was
taken stands once in the bucket of one window of its shortcut, one whose bucket was the shortest when the rule
was offered, and in no other bucket. A rule is refused only if it has no shortcut that is fit for the table, and
the table is then as it would be without the offer. A lookup by address comes upon no index without a rule, and
yields just the indices of those rules that were taken and whose shortcut the address contains.
-/
theorem ofOffers_exact (distinct : (entries.map Prod.fst).Nodup) :
    (∀ digest, (ofOffers entries).useCount digest = ((ofOffers entries).bucket digest).length ∧
      (ofOffers entries).useCount digest ≤ entries.length) ∧
    (∀ before i rule, TookAfter entries before i rule →
      ∃ shortcut window, rule.shortcut = some shortcut ∧
        IsShortest (ofOffers before) shortcut window ∧
        ∀ digest, ((ofOffers entries).bucket digest).count i =
          if digest = Digest.ofBytes window then 1 else 0) ∧
    (∀ before i rule after, entries = before ++ (i, rule) :: after →
      (ofOffers before).insert? i rule = none →
      (∀ shortcut, rule.shortcut = some shortcut → isUnusable shortcut = true) ∧
        ofOffers entries = ofOffers (before ++ after)) ∧
    ∀ rules : Array NetworkRule,
      (∀ before i rule, TookAfter entries before i rule → rules[i]? = some rule) →
      (∀ digest, ∀ i ∈ (ofOffers entries).bucket digest, i < rules.size) ∧
      ∀ url i, i ∈ (ofOffers entries).lookup rules url ↔
        ∃ before rule shortcut, TookAfter entries before i rule ∧ rule.shortcut = some shortcut ∧
          Text.contains url.toList shortcut.toList = true := by
  refine ⟨fun digest => ?_, fun before i rule took => took.count_bucket distinct,
    fun before i rule after whole refused => ?_, fun rules held => ⟨fun digest i member => ?_,
      fun url i => mem_lookup_iff_exists_tookAfter distinct held⟩⟩
  · -- A bucket holds indices of offers, each one at most once.
    have same := balanced_ofOffers entries digest
    have bounded := (bucket_ofOffers_sublist entries digest).length_le
    rw [List.length_map] at bounded
    exact ⟨same, same ▸ bounded⟩
  · exact ⟨insert?_eq_none_iff.mp refused, whole ▸ ofOffers_of_refused after refused⟩
  · -- What stands in a bucket was taken, and the rules that were taken are there.
    obtain ⟨before, rule, took⟩ := exists_tookAfter member
    exact (Array.getElem?_eq_some_iff.mp (held before i rule took)).1

/-- A rule is found by a shortcut with a character that a window cuts through, behind one with the same
shortcut, which has used the other window, and one that was refused. -/
theorem ofOffers_exact_cut :
    let same : NetworkRule := { RuleIndex.adsOnSite with shortcut := some "é-ads" }
    let entries := [(2, same), (1, RuleIndex.adsOnSite), (0, same)]
    let rules := #[same, RuleIndex.adsOnSite, same]
    (entries.map Prod.fst).Nodup ∧
      (∀ before i rule, TookAfter entries before i rule → rules[i]? = some rule) ∧
      0 ∈ (ofOffers entries).lookup rules "https://example.com/é-ads/" := by
  intro same entries rules
  have distinct : (entries.map Prod.fst).Nodup := by decide
  have held : ∀ before i rule, TookAfter entries before i rule → rules[i]? = some rule := by
    rintro before i rule ⟨after, whole, _⟩
    have offered : (i, rule) ∈ entries := by simp [whole]
    have all : ∀ entry ∈ entries, rules[entry.1]? = some entry.2 := by simp [entries, rules]
    exact all (i, rule) offered
  -- The third rule is offered when the windows of its shortcut have been used once.
  have took : TookAfter entries [(2, same), (1, RuleIndex.adsOnSite)] 0 same := ⟨[], rfl, by cbv⟩
  refine ⟨distinct, held, (((ofOffers_exact distinct).2.2.2 rules held).2 _ 0).mpr ?_⟩
  exact ⟨_, same, "é-ads", took, rfl, by decide +kernel⟩

end ShortcutTable

end AdFilter
