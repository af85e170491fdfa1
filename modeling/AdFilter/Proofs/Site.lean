import AdFilter.Proofs.Index.Domains
import AdFilter.Proofs.Text.AsciiCase
import AdFilter.Site
import Mathlib

/-!
The public suffix of a host is all of it, or what stands behind one of its last two dots; the site
of a host depends on its last labels, without regard to case and to dots at the end.
-/

namespace AdFilter.Site

/-- A host that has lost its trailing dots does not end in one. -/
theorem head?_reverse_trimDots (host : List Char) : (trimDots host).reverse.head? ≠ some '.' := by
  intro dotted
  -- What is dropped from behind stops at the first character that is no dot.
  have stops := List.head?_dropWhile_not (· == '.') host.reverse
  simp only [trimDots, List.reverse_reverse] at dotted
  simp [dotted] at stops

/-- The public suffix is the host without trailing dots if no dot is left, and stands behind a dot else. -/
theorem publicSuffixOf_spec (host : List Char) :
    ('.' ∉ trimDots host ∧ publicSuffixOf host = trimDots host) ∨
      publicSuffixOf host ≠ [] ∧ ∃ rest, trimDots host = rest ++ '.' :: publicSuffixOf host := by
  have undotted := head?_reverse_trimDots host
  have whole : trimDots host = (trimDots host).reverse.reverse := by simp
  unfold publicSuffixOf
  simp only
  -- The search runs from the end, so the host is taken in reverse from here on.
  generalize (trimDots host).reverse = reversed at undotted whole ⊢
  rw [whole]
  split
  · rename_i cut
    left
    have clear := Text.not_stop_of_cutWhere?_none cut
    exact ⟨fun dot => absurd (clear '.' (by simpa using dot)) (by simp), rfl⟩
  · rename_i last before cut
    right
    obtain ⟨dot, stops, rfl⟩ := Text.eq_append_of_cutWhere? cut
    obtain rfl : dot = '.' := by simpa using stops
    -- The last label is not empty, since the host would end in a dot.
    have filled : last ≠ [] := by
      rintro rfl
      exact undotted rfl
    split
    · exact ⟨by simpa using filled, before.reverse, by simp⟩
    · rename_i second more again
      obtain ⟨dot, stops, rfl⟩ := Text.eq_append_of_cutWhere? again
      obtain rfl : dot = '.' := by simpa using stops
      -- A registry takes two labels, and anything else one.
      split
      · exact ⟨by simp, more.reverse, by simp⟩
      · exact ⟨by simpa using filled, (second ++ '.' :: more).reverse, by simp⟩

/-! ### The site of a host -/

variable {host other : List Char}

/-- No dots are left at the end of a host, however many there were. -/
theorem trimDots_append_dots (host : List Char) (n : Nat) :
    trimDots (host ++ List.replicate n '.') = trimDots host := by
  -- From behind, the dots come first and are all dropped.
  rw [trimDots, List.reverse_append, List.reverse_replicate, List.dropWhile_append_of_pos]
  · rfl
  · intro c member
    rw [List.eq_of_mem_replicate member]
    rfl

/-- Dots are at the end of a host whatever the case of its letters. -/
theorem trimDots_map (host : List Char) :
    trimDots (host.map Char.toLower) = (trimDots host).map Char.toLower := by
  -- Small letters do not make a dot of anything else.
  have dot (c : Char) : (c.toLower == '.') = (c == '.') := Text.toLower_beq (by decide) c
  rw [trimDots, ← List.map_reverse, List.dropWhile_map, ← List.map_reverse, trimDots]
  congr 3
  exact funext dot

/-- Where something is left of a host, all that stands before it is left as well. -/
theorem trimDots_append (front : List Char) (filled : trimDots host ≠ []) :
    trimDots (front ++ host) = front ++ trimDots host := by
  -- The dropping stops within the host, so it does not reach the front.
  have stops : (host.reverse.dropWhile (· == '.')).isEmpty = false := by
    simpa [trimDots] using filled
  rw [trimDots, List.reverse_append, List.dropWhile_append, if_neg (by simp [stops]), trimDots]
  simp

/-- The labels of a host in small letters. -/
def labelsOf (host : List Char) : List (List Char) :=
  (trimDots (host.map Char.toLower)).splitOn '.'

/-- The last of some labels, as many as make up the site. -/
def siteOf (labels : List (List Char)) : List (List Char) :=
  labels.drop (labels.length - siteLabels labels)

/-- The site of a host is made up of the last of its labels. -/
theorem ofHost_ofList (host : List Char) :
    ofHost (String.ofList host) = String.ofList (['.'].intercalate (siteOf (labelsOf host))) := by
  rw [ofHost, String.toList_ofList]
  rfl

/-- Hosts that differ in the case of letters have the same labels. -/
theorem labelsOf_eq_of_map_eq (same : host.map Char.toLower = other.map Char.toLower) :
    labelsOf host = labelsOf other := by
  rw [labelsOf, same, labelsOf]

/-- Dots at the end make no labels. -/
theorem labelsOf_append_dots (host : List Char) (n : Nat) :
    labelsOf (host ++ List.replicate n '.') = labelsOf host := by
  have dot : Char.toLower '.' = '.' := rfl
  -- A dot has no case, so the dots are still there to be trimmed.
  rw [labelsOf, List.map_append, List.map_replicate, dot, trimDots_append_dots, labelsOf]

/-- What stands before a dot adds its own labels in front, if anything but dots stands behind it. -/
theorem labelsOf_append_cons (front : List Char) (filled : trimDots host ≠ []) :
    labelsOf (front ++ '.' :: host) = (front.map Char.toLower).splitOn '.' ++ labelsOf host := by
  have dot : Char.toLower '.' = '.' := rfl
  have left : trimDots (host.map Char.toLower) ≠ [] := by
    rw [trimDots_map]
    simpa using filled
  -- The dot in between is where the labels of the front end.
  have whole : (front ++ '.' :: host).map Char.toLower =
      (front.map Char.toLower ++ ['.']) ++ host.map Char.toLower := by simp [dot]
  rw [labelsOf, whole, trimDots_append _ left, List.append_assoc, List.singleton_append,
    List.splitOn, List.splitOnP_append_cons _ _ (by rfl)]
  rfl

/-- The labels of a host, joined by dots, are the host in small letters without dots at the end. -/
theorem intercalate_labelsOf (host : List Char) :
    ['.'].intercalate (labelsOf host) = (trimDots host).map Char.toLower := by
  -- Cut at the dots and joined with dots, a host is itself.
  rw [labelsOf, List.intercalate_splitOn, trimDots_map]

/-- There are two labels at least where a dot is left between them. -/
theorem two_le_length_labelsOf (dotted : '.' ∈ trimDots host) : 2 ≤ (labelsOf host).length := by
  obtain ⟨before, behind, cut⟩ := List.append_of_mem dotted
  have dot : Char.toLower '.' = '.' := rfl
  rw [labelsOf, trimDots_map, cut, List.map_append, List.map_cons, dot, List.splitOn,
    List.splitOnP_append_cons _ _ (by rfl), List.length_append]
  -- A text has one part at least, on either side of the dot.
  have first := List.length_pos_of_ne_nil
    (List.splitOnP_ne_nil (· == '.') (before.map Char.toLower))
  have second := List.length_pos_of_ne_nil
    (List.splitOnP_ne_nil (· == '.') (behind.map Char.toLower))
  omega

/-- Further labels in front of two or more are no part of the site, unless the two are a registry. -/
theorem siteOf_append {front labels : List (List Char)} (filled : front ≠ [])
    (two : 2 ≤ labels.length) (site : isRegistry (['.'].intercalate labels) = false) :
    siteOf (front ++ labels) = siteOf labels := by
  have more : ¬ (front ++ labels).length ≤ 2 := by
    have := List.length_pos_of_ne_nil filled
    rw [List.length_append]
    omega
  -- What is taken from the end lies within the labels that were there.
  have last {k : Nat} (within : k ≤ labels.length) :
      (front ++ labels).drop ((front ++ labels).length - k) = labels.drop (labels.length - k) := by
    have skip : (front ++ labels).length - k = front.length + (labels.length - k) := by
      rw [List.length_append]
      omega
    rw [skip, List.drop_length_add_append]
  by_cases single : labels.length = 2
  · -- The two labels were the whole site, and stay the last two.
    have whole : labels.drop (labels.length - 2) = labels := by simp [single]
    have count : siteLabels (front ++ labels) = 2 := by
      rw [siteLabels, if_neg more, last two, whole, site]
      rfl
    have alone : siteLabels labels = 2 := by
      rw [siteLabels, if_pos (by omega), single]
    rw [siteOf, count, last two, siteOf, alone]
  · -- With three labels or more the same two are looked at.
    have count : siteLabels (front ++ labels) = siteLabels labels := by
      have many : ¬ labels.length ≤ 2 := by omega
      rw [siteLabels, if_neg more, last two, siteLabels, if_neg many]
    have within : siteLabels labels ≤ labels.length := by
      unfold siteLabels
      simp only
      split
      · exact Nat.le_refl _
      · split
        · omega
        · exact two
    rw [siteOf, count, last within, siteOf]

/--
Two spellings of a host that make no difference for its site.

Letters may be written in either case, dots may stand at the end, and further labels in front of a
host that is no suffix by itself.
-/
inductive Respelled : List Char → List Char → Prop
  | letters {host other : List Char} (same : host.map Char.toLower = other.map Char.toLower) :
      Respelled host other
  | dots (host : List Char) (n : Nat) : Respelled host (host ++ List.replicate n '.')
  | labels (front : List Char) {host : List Char} (two : '.' ∈ trimDots host)
      (site : isRegistry ((trimDots host).map Char.toLower) = false) :
      Respelled host (front ++ '.' :: host)

/-- A host that is spelled in another way belongs to the same site. -/
theorem Respelled.ofHost_eq (respelled : Respelled host other) :
    ofHost (String.ofList host) = ofHost (String.ofList other) := by
  rw [ofHost_ofList, ofHost_ofList]
  -- Case, dots at the end and labels in front are all that may differ.
  cases respelled with
  | letters same => rw [labelsOf_eq_of_map_eq same]
  | dots n => rw [labelsOf_append_dots]
  | labels front two site =>
    rw [labelsOf_append_cons front (List.ne_nil_of_mem two), siteOf_append]
    · exact List.splitOnP_ne_nil _ _
    · exact two_le_length_labelsOf two
    · rw [intercalate_labelsOf, site]

end AdFilter.Site
