import AdFilter.Network.Pattern

/-! How far blotting out goes in the source of an expression, seen character by character. -/

namespace AdFilter.Network

/-- The character only stands behind backslashes in the text, and no backslash does. -/
def isClear (c : Char) : List Char → Bool
  | [] => true
  | ['\\'] => false
  | '\\' :: d :: rest => d != '\\' && isClear c rest
  | d :: rest => d != c && isClear c rest

section Clear

variable {c : Char} {u v : List Char}

/-- Past a clear text, only what follows counts. -/
theorem isClear_append (clear : isClear c u = true) : isClear c (u ++ v) = isClear c v := by
  -- The text is read in escapes and single characters, and none of them is cut in two.
  fun_induction isClear c u with
  | case1 => rfl
  | case2 => cases clear
  | case3 d rest ih =>
    simp only [Bool.and_eq_true] at clear
    simp [isClear, clear.1, ih clear.2]
  | case4 d rest single slash ih =>
    simp only [Bool.and_eq_true] at clear
    -- A backslash would have been read as the beginning of an escape.
    have plain : d ≠ '\\' := by
      rintro rfl
      cases rest with
      | nil => exact single rfl rfl
      | cons e rest => exact slash e rest rfl rfl
    simp [isClear, plain, clear.1, ih clear.2]

/-- A clear text does not begin with the character. -/
theorem head?_ne_of_isClear (clear : isClear c u = true) (slash : c ≠ '\\') :
    u.head? ≠ some c := by
  -- A first character of its own is not the one, and a backslash is not either.
  fun_cases isClear c u with
  | case1 => simp
  | case2 => simpa using slash.symm
  | case3 d rest => simpa using slash.symm
  | case4 d rest => simp_all [isClear]

end Clear

section Groups

variable {opening closing : Char}

/-- The search for a group goes past a character that no unescaped opening one follows. -/
theorem blotGroup_cons {c : Char} {rest : List Char}
    (passed : c = '\\' ∨ rest.head? ≠ some opening) :
    blotGroup opening closing (c :: rest) = c :: blotGroup opening closing rest := by
  cases rest with
  | nil => rfl
  | cons d rest =>
    -- The place is none where a group is cut out.
    rw [blotGroup, if_neg]
    simpa [Classical.or_iff_not_imp_left] using passed

/-- The search for a group goes past a clear text. -/
theorem blotGroup_append {u v : List Char} (slash : opening ≠ '\\')
    (clear : isClear opening u = true) (next : v.head? ≠ some opening) :
    blotGroup opening closing (u ++ v) = u ++ blotGroup opening closing v := by
  -- At each place the character before is a backslash, or the next is not the opening one.
  have head {text : List Char} (clear : isClear opening text = true) :
      (text ++ v).head? ≠ some opening := by
    cases text with
    | nil => exact next
    | cons c text => simpa using head?_ne_of_isClear clear slash
  fun_induction isClear opening u with
  | case1 => rfl
  | case2 => cases clear
  | case3 d rest ih =>
    simp only [Bool.and_eq_true] at clear
    simp only [List.cons_append]
    -- The backslash keeps what it escapes, and the escaped character is passed like any other.
    rw [blotGroup_cons (Or.inl rfl), blotGroup_cons (Or.inr (head clear.2)), ih clear.2]
  | case4 d rest _ _ ih =>
    simp only [Bool.and_eq_true] at clear
    simp only [List.cons_append]
    rw [blotGroup_cons (Or.inr (head clear.2)), ih clear.2]

/-- Nothing closes in a clear text. -/
theorem afterLast?_eq_none {c : Char} {rest : List Char} (slash : closing ≠ '\\')
    (clear : isClear closing rest = true) : afterLast? closing (c :: rest) = none := by
  -- The search looks at pairs of neighbours, and each closing character has a backslash before it.
  have step {c : Char} {rest : List Char} (passed : c = '\\' ∨ rest.head? ≠ some closing)
      (later : afterLast? closing rest = none) : afterLast? closing (c :: rest) = none := by
    cases rest with
    | nil => rfl
    | cons d rest =>
      -- Neither this pair nor a later one closes.
      have apart : ¬ ((c != '\\' && d == closing) = true) := by
        simpa [Classical.or_iff_not_imp_left] using passed
      simp [afterLast?, later, apart]
  fun_induction isClear closing rest generalizing c with
  | case1 => rfl
  | case2 => cases clear
  | case3 d rest ih =>
    simp only [Bool.and_eq_true] at clear
    -- An escape is passed in two steps, and in the second the backslash stands before.
    exact step (Or.inr (by simpa using slash.symm)) (step (Or.inl rfl) (ih clear.2))
  | case4 d rest _ _ ih =>
    simp only [Bool.and_eq_true, bne_iff_ne, ne_eq] at clear
    exact step (Or.inr (by simpa using clear.1)) (ih clear.2)

/-- On one line, what follows the last closing character is clear of it. -/
theorem afterLast?_append {u v : List Char} {c : Char} (slash : closing ≠ '\\') (line : '\n' ∉ u)
    (plain : c ≠ '\\') (clear : isClear closing v = true) :
    afterLast? closing (u ++ c :: closing :: v) = some v := by
  -- Nothing is found later, so the place that ends the first text is the last one.
  have step {d : Char} {rest after : List Char} (same : d ≠ '\n')
      (later : afterLast? closing rest = some after) :
      afterLast? closing (d :: rest) = some after := by
    cases rest with
    | nil => cases later
    | cons e rest => simp [afterLast?, same, later]
  induction u with
  -- At the place itself the pair closes, and the clear text behind it does not.
  | nil => simp [afterLast?, afterLast?_eq_none slash clear, plain]
  | cons d u ih =>
    exact step (List.ne_of_not_mem_cons line).symm (ih (List.not_mem_of_not_mem_cons line))

end Groups

/-- The search for an escaped letter goes past a character that none follows. -/
theorem blotLetter_cons {c : Char} {rest : List Char}
    (passed : ∀ e tail, rest = '\\' :: e :: tail → c = '\\' ∨ e.isAlpha = false) :
    blotLetter (c :: rest) = c :: blotLetter rest := by
  -- Three characters decide: one that is no backslash, a backslash and a letter.
  match rest with
  | [] => rfl
  | [_] => rfl
  | d :: e :: rest =>
    -- The three characters are no place to cut.
    rw [blotLetter, if_neg]
    simp only [Bool.and_eq_true, bne_iff_ne, ne_eq, beq_iff_eq, not_and]
    rintro ⟨plain, rfl⟩
    simpa [plain] using passed e rest rfl

end AdFilter.Network
