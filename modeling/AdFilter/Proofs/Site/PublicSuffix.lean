import AdFilter.Proofs.Site
import AdFilter.Proofs.Text.Search
import Mathlib

/-!
The suffix that is found from the end of a host and the site that is made of its labels draw one
boundary: the site is the suffix with one more label. What a site is made of is its own site.
-/

namespace AdFilter.Site

variable {host text label last : List Char} {labels front more : List (List Char)}

/-! ### Labels joined by dots -/

/-- Two rows of labels are joined by a dot between them. -/
theorem intercalate_append (filled : front ≠ []) (others : more ≠ []) :
    ['.'].intercalate (front ++ more) = ['.'].intercalate front ++ '.' :: ['.'].intercalate more := by
  induction front with
  | nil => exact absurd rfl filled
  | cons first front ih =>
    -- Dots stand between labels only, so the last label of the front is a case of its own.
    cases front with
    | nil =>
      obtain ⟨next, more, rfl⟩ := List.exists_cons_of_ne_nil others
      simp
    | cons next front => simpa using ih (List.cons_ne_nil next front)

/-- The last of some labels end the text of them all. -/
theorem intercalate_rtake_suffix (labels : List (List Char)) (k : Nat) :
    ['.'].intercalate (labels.rtake k) <:+ ['.'].intercalate labels := by
  have whole : labels.take (labels.length - k) ++ labels.rtake k = labels := List.take_append_drop ..
  -- No label may be taken, or all of them; else a dot stands between the two parts.
  by_cases none : labels.rtake k = []
  · simp [none]
  · by_cases all : labels.take (labels.length - k) = []
    · rw [all, List.nil_append] at whole
      rw [whole]
    · rw [← congrArg (['.'].intercalate ·) whole, intercalate_append all none]
      exact ⟨['.'].intercalate (labels.take (labels.length - k)) ++ ['.'], by simp⟩

/-- A text is cut at its last dot into the last label and the others, read backwards. -/
theorem cutWhere?_reverse_intercalate (filled : front ≠ []) (dotless : '.' ∉ label) :
    Text.cutWhere? (· == '.') (['.'].intercalate (front ++ [label])).reverse =
      some (label.reverse, (['.'].intercalate front).reverse) := by
  -- From behind, the first dot stands where the last label begins.
  rw [intercalate_append filled (List.cons_ne_nil label []), List.reverse_append, List.reverse_cons,
    List.append_assoc, List.intercalate_singleton]
  exact Text.cutWhere?_first (mt List.mem_reverse.mp dotless)

/-- A single label is not cut. -/
theorem cutWhere?_reverse_of_dotless (dotless : '.' ∉ label) :
    Text.cutWhere? (· == '.') label.reverse = none :=
  Text.cutWhere?_absent (mt List.mem_reverse.mp dotless)

/-! ### The suffix is made of labels -/

/-- The number of labels in the public suffix of a host with the given labels. -/
def suffixLabels (labels : List (List Char)) : Nat :=
  if 2 < labels.length ∧ isRegistry (['.'].intercalate (labels.rtake 2)) then 2 else 1

/-- The last of some labels, as many as make up the public suffix. -/
def suffixOf (labels : List (List Char)) : List (List Char) := labels.rtake (suffixLabels labels)

/-- The public suffix that is found from the end of a host is made of the last of its labels. -/
theorem publicSuffixOf_eq (some : labels ≠ []) (dotless : ∀ label ∈ labels, '.' ∉ label)
    (whole : trimDots host = ['.'].intercalate labels) :
    publicSuffixOf host = ['.'].intercalate (suffixOf labels) := by
  unfold publicSuffixOf
  simp only [whole]
  -- The labels are taken off the end one by one, as the search takes them.
  rcases List.eq_nil_or_concat' labels with rfl | ⟨front, last, rfl⟩
  · exact absurd rfl some
  have clear : '.' ∉ last := dotless last (by simp)
  rcases List.eq_nil_or_concat' front with rfl | ⟨front, label, rfl⟩
  · simp [cutWhere?_reverse_of_dotless clear, suffixOf, suffixLabels, List.rtake]
  have again : '.' ∉ label := dotless label (by simp)
  have two : (front ++ [label] ++ [last]).rtake 2 = [label] ++ [last] := by
    rw [List.rtake_concat_succ, List.rtake_concat_succ, List.rtake_zero, List.nil_append]
  have one : (front ++ [label] ++ [last]).rtake 1 = [last] := by
    rw [List.rtake_concat_succ, List.rtake_zero, List.nil_append]
  rw [cutWhere?_reverse_intercalate (by simp) clear]
  by_cases alone : front = []
  · -- Two labels are no registry with a site in front.
    subst alone
    have count : suffixLabels ([] ++ [label] ++ [last]) = 1 := by simp [suffixLabels]
    rw [suffixOf, count, one, List.intercalate_singleton]
    simp [cutWhere?_reverse_of_dotless again]
  · have many : 2 < (front ++ [label] ++ [last]).length := by
      have := List.length_pos_of_ne_nil alone
      simpa using this
    have both : ['.'].intercalate ([label] ++ [last]) = label ++ '.' :: last := by simp
    have count : suffixLabels (front ++ [label] ++ [last]) =
        if isRegistry (label ++ '.' :: last) then 2 else 1 := by
      simp only [suffixLabels, many, true_and, two, both]
    simp only [cutWhere?_reverse_intercalate alone again, List.reverse_reverse, suffixOf, count]
    split
    · rw [two, both]
    · rw [one, List.intercalate_singleton]

/-! ### The site has one more label -/

/-- With two labels or more, the site has one more than the public suffix. -/
theorem siteLabels_eq (two : 2 ≤ labels.length) : siteLabels labels = suffixLabels labels + 1 := by
  have last : labels.drop (labels.length - 2) = labels.rtake 2 := rfl
  unfold siteLabels suffixLabels
  simp only [last]
  -- Neither looks for a registry in two labels; with more, both look at the last two.
  by_cases short : labels.length ≤ 2
  · have same : labels.length = 2 := by omega
    simp [same]
  · have many : 2 < labels.length := by omega
    simp only [short, many, if_false, true_and]
    split <;> rfl

/-- The site is a label in front of the public suffix, with the other labels before it. -/
theorem exists_label (two : 2 ≤ labels.length) : ∃ others label,
    labels = others ++ label :: suffixOf labels ∧ siteOf labels = label :: suffixOf labels ∧
      suffixOf labels ≠ [] := by
  -- The suffix never takes up all labels, so there is one to stand in front of it.
  have room : suffixLabels labels < labels.length := by
    unfold suffixLabels
    split <;> omega
  have step : labels.length - (suffixLabels labels + 1) < labels.length := by omega
  have next : labels.length - (suffixLabels labels + 1) + 1 = labels.length - suffixLabels labels := by
    omega
  have site : siteOf labels = labels[labels.length - (suffixLabels labels + 1)] :: suffixOf labels := by
    rw [siteOf, siteLabels_eq two, List.drop_eq_getElem_cons step, next]
    rfl
  refine ⟨labels.take (labels.length - (suffixLabels labels + 1)), _, ?_, site, ?_⟩
  · rw [← site, siteOf, siteLabels_eq two, List.take_append_drop]
  · have some : 0 < suffixLabels labels := by
      unfold suffixLabels
      split <;> decide
    rw [← List.length_pos_iff, suffixOf, List.rtake, List.length_drop]
    omega

/-! ### The site of a site -/

/-- What ends a host without dots at its end has none at its own. -/
theorem trimDots_of_suffix (ends : text <:+ trimDots host) : trimDots text = text := by
  have undotted := head?_reverse_trimDots host
  -- Read backwards, the text is where the host begins, and that begins with no dot.
  rw [← List.reverse_prefix] at ends
  rw [trimDots, List.reverse_eq_iff]
  cases reversed : text.reverse with
  | nil => rfl
  | cons c rest =>
    rw [reversed] at ends
    obtain ⟨more, whole⟩ := ends
    rw [← whole] at undotted
    exact List.dropWhile_cons_of_neg (by simpa using undotted)

/-- The site of a site has all its labels. -/
theorem siteLabels_siteOf (labels : List (List Char)) :
    siteLabels (siteOf labels) = (siteOf labels).length := by
  by_cases short : labels.length ≤ 2
  · -- A host of one or two labels is its own site.
    have count : siteLabels labels = labels.length := if_pos short
    have all : siteOf labels = labels := by simp [siteOf, count]
    rw [all, count]
  · -- A longer host keeps its last two labels, or three of them, and is judged by the last two again.
    by_cases registry : isRegistry (['.'].intercalate (labels.drop (labels.length - 2))) = true
    · have count : siteLabels labels = 3 := by simp [siteLabels, short, registry]
      have size : (siteOf labels).length = 3 := by
        rw [siteOf, count, List.length_drop]
        omega
      -- The last two labels are the registry still.
      have last : (siteOf labels).drop (3 - 2) = labels.drop (labels.length - 2) := by
        rw [siteOf, count, List.drop_drop]
        congr 1
        omega
      simp only [siteLabels, size, last, registry]
      rfl
    · have count : siteLabels labels = 2 := by simp [siteLabels, short, registry]
      have size : (siteOf labels).length = 2 := by
        rw [siteOf, count, List.length_drop]
        omega
      simp only [siteLabels, size]
      rfl

/-- No label of a host has a dot. -/
theorem dot_not_mem_of_mem_labelsOf (member : label ∈ labelsOf host) : '.' ∉ label := by
  intro dot
  have clear := (Text.infix_of_mem_splitOnP member).2 '.' dot
  cases clear

/-- Every host has a label. -/
theorem labelsOf_ne_nil (host : List Char) : labelsOf host ≠ [] := List.splitOnP_ne_nil _ _

/-- The site of a host has a label. -/
theorem siteOf_ne_nil (host : List Char) : siteOf (labelsOf host) ≠ [] := by
  -- A host has a label, and each of the three cases takes one at least.
  have some := List.length_pos_of_ne_nil (labelsOf_ne_nil host)
  have count : 0 < siteLabels (labelsOf host) := by
    unfold siteLabels
    simp only
    split
    · exact some
    · split <;> decide
  rw [← List.length_pos_iff, siteOf, List.length_drop]
  omega

/-- What is in small letters stays as it is. -/
theorem map_toLower_eq_self (lower : ∀ c ∈ text, c.toLower = c) : text.map Char.toLower = text :=
  (List.map_congr_left lower).trans (List.map_id' text)

/-- The labels of a site are those that it was made of. -/
theorem labelsOf_intercalate_siteOf (host : List Char) :
    labelsOf (['.'].intercalate (siteOf (labelsOf host))) = siteOf (labelsOf host) := by
  have ends : ['.'].intercalate (siteOf (labelsOf host)) <:+ trimDots (host.map Char.toLower) := by
    rw [trimDots_map, ← intercalate_labelsOf]
    exact intercalate_rtake_suffix _ _
  have small : (['.'].intercalate (siteOf (labelsOf host))).map Char.toLower =
      ['.'].intercalate (siteOf (labelsOf host)) := by
    -- All that is left of the host was put in small letters.
    refine map_toLower_eq_self fun c member => ?_
    have inside := ends.subset member
    rw [trimDots_map] at inside
    obtain ⟨d, _, rfl⟩ := List.mem_map.mp inside
    exact Char.toLower_toLower_eq_toLower d
  rw [labelsOf, small, trimDots_of_suffix ends, List.splitOn_intercalate '.' _ (siteOf_ne_nil host)]
  intro label member
  exact dot_not_mem_of_mem_labelsOf (List.mem_of_mem_drop member)

/-- The site of a site is the site itself. -/
theorem ofHost_ofHost (host : String) : ofHost (ofHost host) = ofHost host := by
  rw [← String.ofList_toList (s := host), ofHost_ofList, ofHost_ofList, labelsOf_intercalate_siteOf]
  -- The site of a site has no label to be left out.
  have all : siteOf (siteOf (labelsOf host.toList)) = siteOf (labelsOf host.toList) := by
    rw [siteOf, siteLabels_siteOf, Nat.sub_self, List.drop_zero]
  rw [all]

/-! ### Both on one host -/

/-- A host in small letters is cut into labels as it is. -/
theorem labelsOf_of_lower (lower : ∀ c ∈ host, c.isUpper = false) :
    labelsOf host = (trimDots host).splitOn '.' := by
  -- Without capital letters there is nothing to be changed in case.
  have small : host.map Char.toLower = host := map_toLower_eq_self fun c member =>
    Char.toLower_eq_of_not_isUpper (by simp [lower c member])
  rw [labelsOf, small]

/-- The labels of a host in small letters make up all of it but the dots at its end. -/
theorem trimDots_eq_intercalate (lower : ∀ c ∈ host, c.isUpper = false) :
    trimDots host = ['.'].intercalate (labelsOf host) := by
  -- Cut at the dots and joined with dots, a host is itself.
  rw [labelsOf_of_lower lower, List.intercalate_splitOn]

/-- The suffix of a host in small letters is made of the last of its labels. -/
theorem toList_publicSuffix {host : String} (lower : ∀ c ∈ host.toList, c.isUpper = false) :
    (publicSuffix host).toList = ['.'].intercalate (suffixOf (labelsOf host.toList)) := by
  rw [publicSuffix, String.toList_ofList]
  -- The labels have no dot inside, and joined with dots they are the host.
  exact publicSuffixOf_eq (labelsOf_ne_nil _) (fun _ member => dot_not_mem_of_mem_labelsOf member)
    (trimDots_eq_intercalate lower)

/-- The site of a host is made of the last of its labels. -/
theorem toList_ofHost (host : String) :
    (ofHost host).toList = ['.'].intercalate (siteOf (labelsOf host.toList)) := by
  conv_lhs => rw [← String.ofList_toList (s := host), ofHost_ofList]
  rw [String.toList_ofList]

/--
The site of a host and its public suffix agree, and the site of a site is the site itself.

Without trailing dots, a host that has no dot left is both. Any other ends in a dot and the suffix, and
the site is that with the label before the dot.
-/
theorem ofHost_eq_label_publicSuffix (host : String) :
    ((∀ c ∈ host.toList, c.isUpper = false) →
      ('.' ∉ trimDots host.toList → (ofHost host).toList = trimDots host.toList ∧
        (publicSuffix host).toList = trimDots host.toList) ∧
      ('.' ∈ trimDots host.toList → ∃ front label,
        trimDots host.toList = front ++ label ++ '.' :: (publicSuffix host).toList ∧
          '.' ∉ label ∧ (front = [] ∨ ['.'] <:+ front) ∧
            (ofHost host).toList = label ++ '.' :: (publicSuffix host).toList)) ∧
    ofHost (ofHost host) = ofHost host := by
  refine ⟨fun lower => ⟨fun single => ?_, fun dotted => ?_⟩, ofHost_ofHost host⟩
  · -- Without a dot the host is a single label.
    have alone : labelsOf host.toList = [trimDots host.toList] := by
      rw [labelsOf_of_lower lower]
      exact List.splitOnP_eq_singleton fun c member => beq_false_of_ne fun same => single (same ▸ member)
    rw [toList_ofHost, toList_publicSuffix lower, alone]
    simp [siteOf, siteLabels, suffixOf, suffixLabels, List.rtake]
  · -- Else the suffix leaves labels of the host, and the last of them makes the site.
    have whole := trimDots_eq_intercalate lower
    obtain ⟨others, label, cut, site, some⟩ := exists_label (two_le_length_labelsOf dotted)
    have member : label ∈ labelsOf host.toList := by
      rw [cut]
      simp
    have dotless := dot_not_mem_of_mem_labelsOf member
    have last : ['.'].intercalate (label :: suffixOf (labelsOf host.toList)) =
        label ++ '.' :: (publicSuffix host).toList := by
      have joined := intercalate_append (List.cons_ne_nil label []) some
      rwa [List.singleton_append, List.intercalate_singleton, ← toList_publicSuffix lower] at joined
    have ending : (ofHost host).toList = label ++ '.' :: (publicSuffix host).toList := by
      rw [toList_ofHost, site, last]
    -- The label is at the front of the host, or a dot stands before it.
    by_cases alone : others = []
    · refine ⟨[], label, ?_, dotless, .inl rfl, ending⟩
      rw [whole, cut, alone, List.nil_append, last, List.nil_append]
    · refine ⟨['.'].intercalate others ++ ['.'], label, ?_, dotless, .inr (List.suffix_append ..), ending⟩
      rw [whole, cut, intercalate_append alone (List.cons_ne_nil label _), last]
      simp

/-- A registry with further labels before it, and a host of one label, with dots at the end of each. -/
theorem ofHost_eq_label_publicSuffix_registry :
    (∀ c ∈ "a.b.co.uk..".toList, c.isUpper = false) ∧ '.' ∈ trimDots "a.b.co.uk..".toList ∧
      (∃ front label,
        trimDots "a.b.co.uk..".toList = front ++ label ++ '.' :: (publicSuffix "a.b.co.uk..").toList ∧
          '.' ∉ label ∧ (front = [] ∨ ['.'] <:+ front) ∧
            (ofHost "a.b.co.uk..").toList = label ++ '.' :: (publicSuffix "a.b.co.uk..").toList) ∧
      publicSuffix "a.b.co.uk.." = "co.uk" ∧ ofHost "a.b.co.uk.." = "b.co.uk" ∧
      (∀ c ∈ "host.".toList, c.isUpper = false) ∧ '.' ∉ trimDots "host.".toList ∧
      (ofHost "host.").toList = trimDots "host.".toList ∧
      (publicSuffix "host.").toList = trimDots "host.".toList := by
  have lower : ∀ c ∈ "a.b.co.uk..".toList, c.isUpper = false := by simp
  have dotted : '.' ∈ trimDots "a.b.co.uk..".toList := by decide +kernel
  have small : ∀ c ∈ "host.".toList, c.isUpper = false := by simp
  have single : '.' ∉ trimDots "host.".toList := by decide +kernel
  -- The first host has a label before its suffix, and the second is its own.
  have registry := ((ofHost_eq_label_publicSuffix "a.b.co.uk..").1 lower).2 dotted
  have alone := ((ofHost_eq_label_publicSuffix "host.").1 small).1 single
  exact ⟨lower, dotted, registry, by decide +kernel, by decide +kernel, small, single, alone⟩

end AdFilter.Site
