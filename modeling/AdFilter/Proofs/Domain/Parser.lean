import AdFilter.Domain
import AdFilter.Proofs.Attempt
import AdFilter.Proofs.Text.Blank
import AdFilter.Proofs.Text.Lower
import Mathlib

/-! The domains that are read from a list: each is a text in small letters without white space. -/

namespace AdFilter

/-- The name of a domain, as a list may give it. -/
structure Domain.IsName (d : String) : Prop where
  filled : d ≠ ""
  unbroken : ∀ c ∈ d.toList, Text.isBlank c = false

/-- No domain on which a rule applies is the empty text. -/
def Domains.Named (domains : Domains) : Prop := ∀ d ∈ domains.permitted, d ≠ ""

/-- All domains, those on which a rule never applies as well, have names. -/
def Domains.AllNamed (domains : Domains) : Prop :=
  ∀ d ∈ domains.permitted ++ domains.restricted, Domain.IsName d

namespace Domains

/-- Without domains, there is none that lacks a name. -/
theorem allNamed_empty : AllNamed {} := by simp [AllNamed]

/-- Where all domains have names, those on which the rule applies have some. -/
theorem AllNamed.named {domains : Domains} (all : domains.AllNamed) : domains.Named := fun d member =>
  (all d (List.mem_append_left _ member)).filled

/-- The domains of two lists have names if those of each list have. -/
theorem AllNamed.append {a b : Domains} (first : a.AllNamed) (second : b.AllNamed) :
    AllNamed ⟨a.permitted ++ b.permitted, a.restricted ++ b.restricted⟩ := by
  intro d member
  simp only [List.mem_append] at member
  -- An entry is one of the first domains or of the second, permitted or restricted.
  rcases member with (one | other) | (one | other)
  · exact first d (List.mem_append_left _ one)
  · exact second d (List.mem_append_left _ other)
  · exact first d (List.mem_append_right _ one)
  · exact second d (List.mem_append_right _ other)

end Domains

namespace Domain

/-- The name that an entry speaks of. -/
def Entry.name : Entry → String
  | permitted name => name
  | restricted name => name

/-- A text without white space is a name in lower case. -/
theorem isName_lower {text : List Char} (filled : text ≠ [])
    (unbroken : ∀ c ∈ text, Text.isBlank c = false) : IsName (String.ofList (Text.lower text)) where
  filled := by
    -- What is not empty before lower case is not empty after it.
    have lower := Text.lower_ne_nil filled
    simpa [String.ext_iff] using lower
  unbroken := by
    rw [String.toList_ofList]
    exact Text.isBlank_of_mem_lower unbroken

/-- An entry that is accepted has a name. -/
theorem isName_of_readEntry {raw : List Char} {entry : Entry}
    (read : readEntry raw = .ok (some entry)) : IsName entry.name := by
  -- Entries of both kinds are checked in the same way before they are accepted.
  have accepted {make : String → Entry} {text : List Char} (same : ∀ name, (make name).name = name)
      (read : (if text.isEmpty || text.any Text.isBlank then Except.error ()
        else .ok (some (make (String.ofList (Text.lower text))))) = .ok (some entry)) :
      IsName entry.name := by
    split at read
    · cases read
    · rename_i fine
      simp only [Bool.or_eq_true, List.isEmpty_iff, List.any_eq_true, not_or, not_exists, not_and,
        Bool.not_eq_true] at fine
      cases read
      rw [same]
      exact isName_lower fine.1 fine.2
  unfold readEntry at read
  simp only at read
  split at read
  · cases read
  · exact accepted (fun _ => rfl) read
  · exact accepted (fun _ => rfl) read

/-- Each entry of a list that is accepted was read from some part of it. -/
theorem exists_of_mapM_readEntry {parts : List (List Char)} {entries : List (Option Entry)}
    (read : parts.mapM readEntry = .ok entries) :
    ∀ entry ∈ entries, ∃ part, readEntry part = .ok entry := by
  -- The list is read from the front, and the first error would end it.
  induction parts generalizing entries with
  | nil =>
    cases read
    simp
  | cons part parts ih =>
    rw [List.mapM_cons] at read
    -- The first part is read, and so are the others behind it.
    obtain ⟨entry, first, read⟩ := exists_of_bind_eq_ok read
    obtain ⟨rest, others, read⟩ := exists_of_bind_eq_ok read
    cases read
    intro other member
    rcases List.mem_cons.mp member with rfl | member
    · exact ⟨part, first⟩
    · exact ih others other member

/-- The domains are those that were there and that of the entry. -/
theorem mem_push {domains : Domains} {entry : Option Entry} {d : String}
    (member : d ∈ (push domains entry).permitted ++ (push domains entry).restricted) :
    d ∈ domains.permitted ++ domains.restricted ∨ ∃ one, entry = some one ∧ one.name = d := by
  match entry with
  | none => exact .inl member
  -- The name goes to the end of one of the two lists.
  | some (.permitted name) =>
    simp only [push, List.mem_append, List.mem_singleton] at member ⊢
    rcases member with (there | rfl) | there
    · exact .inl (.inl there)
    · exact .inr ⟨_, rfl, rfl⟩
    · exact .inl (.inr there)
  | some (.restricted name) =>
    simp only [push, List.mem_append, List.mem_singleton] at member ⊢
    rcases member with there | there | rfl
    · exact .inl (.inl there)
    · exact .inl (.inr there)
    · exact .inr ⟨_, rfl, rfl⟩

/-- Entries that have names, put in one after the other, leave all domains with names. -/
theorem allNamed_foldl_push {entries : List (Option Entry)} {domains : Domains}
    (sound : ∀ entry, some entry ∈ entries → IsName entry.name) (all : domains.AllNamed) :
    (entries.foldl push domains).AllNamed := by
  induction entries generalizing domains with
  | nil => exact all
  | cons entry entries ih =>
    -- What is added is the entry itself, and all others were there before.
    refine ih (fun other member => sound other (List.mem_cons_of_mem _ member)) fun d member => ?_
    rcases mem_push member with there | ⟨one, rfl, rfl⟩
    · exact all d there
    · exact sound one List.mem_cons_self

/-- The domains of a list have names. -/
theorem parse_allNamed {text : String} {domains : Domains} (read : parse text = .ok domains) :
    domains.AllNamed := by
  -- The entries are read one by one and put into domains that are empty at first.
  unfold parse at read
  simp only at read
  split at read
  · cases read
  · rename_i entries all
    cases read
    -- Each entry that is put in was read from some part of the text.
    refine allNamed_foldl_push (fun entry member => ?_) Domains.allNamed_empty
    obtain ⟨part, read⟩ := exists_of_mapM_readEntry all _ member
    exact isName_of_readEntry read

/-- White space in front of an entry is no part of it. -/
theorem readEntry_cons {c : Char} (blank : Text.isBlank c = true) (raw : List Char) :
    readEntry (c :: raw) = readEntry raw := by
  -- White space in front is trimmed off anyway.
  have same : Text.trim (c :: raw) = Text.trim raw := by
    rw [Text.trim, Text.trimStart, List.dropWhile_cons_of_pos blank, Text.trim, Text.trimStart]
  rw [readEntry, same, readEntry]

/-- White space in front of a list says nothing. -/
theorem parse_trimStart {text : List Char} {domains : Domains}
    (read : parse (String.ofList text) = .ok domains) :
    parse (String.ofList (Text.trimStart text)) = .ok domains := by
  have entries : ((Text.trimStart text).splitOnP fun c => c == ',' || c == '|').mapM readEntry =
      (text.splitOnP fun c => c == ',' || c == '|').mapM readEntry := by
    -- What is blank stands in front of the first entry, since it separates none.
    clear read
    induction text with
    | nil => rfl
    | cons c text ih =>
      by_cases blank : Text.isBlank c = true
      · have inner : (c == ',' || c == '|') = false := by
          by_contra separates
          simp only [Bool.not_eq_false, Bool.or_eq_true, beq_iff_eq] at separates
          rcases separates with rfl | rfl
          · exact absurd blank (by decide)
          · exact absurd blank (by decide)
        obtain ⟨first, others, parts⟩ := List.exists_cons_of_ne_nil
          (List.splitOnP_ne_nil (fun c => c == ',' || c == '|') text)
        rw [Text.trimStart, List.dropWhile_cons_of_pos blank, ← Text.trimStart, ih,
          List.splitOnP_cons_eq_if_modifyHead, inner, parts, List.mapM_cons]
        simp only [Bool.false_eq_true, if_false, List.modifyHead_cons, List.mapM_cons,
          readEntry_cons blank]
      · rw [Text.trimStart, List.dropWhile_cons_of_neg blank]
  unfold parse at read ⊢
  simp only [String.toList_ofList] at read ⊢
  rw [entries]
  split at read
  · cases read
  · exact read

end Domain

end AdFilter
