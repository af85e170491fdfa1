import AdFilter.Proofs.Network.Blot
import AdFilter.Proofs.Network.Scan

/-! What blotting out makes of a source is the source of the chunks that are left. -/

namespace AdFilter.Network

open Regex (Chunk isBracket isSetBody isCountBody Paired source)

/-- The brackets that a step looks for. -/
inductive Step.Marks : Step → Char → Char → Prop
  | group : Marks .group '(' ')'
  | set : Marks .set '[' ']'
  | count : Marks .count '\x7b' '\x7d'

/-- The chunk is complete, and no backslash is escaped in it. -/
structure Sound (chunk : Chunk) : Prop where
  fits : chunk.Fits
  single : ¬ ['\\', '\\'] <:+: chunk.text

section Texts

variable {step : Step} {opening closing : Char} {chunk : Chunk}

/-- A text ends like what follows a part of it. -/
theorem getLast?_ne_of_append {u v : List Char} {c d : Char} (plain : d ≠ c)
    (tail : v.getLast? ≠ some c) : (u ++ d :: v).getLast? ≠ some c := by
  -- Behind the character stands nothing, or a text that ends otherwise.
  cases v with
  | nil => simpa using plain
  | cons e v => simpa using tail

/-- No clear text ends with a backslash. -/
theorem getLast?_ne_of_isClear {c : Char} {text : List Char} (clear : isClear c text = true) :
    text.getLast? ≠ some '\\' := by
  -- The last character is escaped, or stands alone and is no backslash.
  fun_induction isClear c text with
  | case1 => simp
  | case2 => cases clear
  | case3 d rest ih =>
    simp only [Bool.and_eq_true, bne_iff_ne] at clear
    exact getLast?_ne_of_append (u := ['\\']) clear.1 (ih clear.2)
  | case4 d rest single slash ih =>
    simp only [Bool.and_eq_true] at clear
    have plain : d ≠ '\\' := by
      rintro rfl
      cases rest with
      | nil => exact single rfl rfl
      | cons e rest => exact slash e rest rfl rfl
    exact getLast?_ne_of_append (u := []) plain (ih clear.2)

/-- No text whose brackets are paired ends with a backslash, unless that is escaped. -/
theorem getLast?_ne_of_paired {text : List Char} (paired : Paired text)
    (single : ¬ ['\\', '\\'] <:+: text) : text.getLast? ≠ some '\\' := by
  have behind {u v : List Char} {c : Char} (single : ¬ ['\\', '\\'] <:+: u ++ c :: v) :
      ¬ ['\\', '\\'] <:+: v := by
    intro twice
    exact single ((List.infix_cons twice).trans (List.suffix_append ..).isInfix)
  -- A paired text ends with a bracket, an escaped character or a plain one.
  induction paired with
  | nil => simp
  | plain free slash tail ih =>
    exact getLast?_ne_of_append (u := []) slash (ih (behind (u := []) single))
  | @escape c rest short tail ih =>
    have plain : c ≠ '\\' := by
      rintro rfl
      exact single (List.prefix_append ['\\', '\\'] rest).isInfix
    exact getLast?_ne_of_append (u := ['\\']) plain (ih (behind (u := ['\\']) single))
  | @set inner rest _ _ _ tail ih =>
    exact getLast?_ne_of_append (u := '[' :: inner) (by decide)
      (ih (behind (u := '[' :: inner) single))
  | @count inner rest _ tail ih =>
    exact getLast?_ne_of_append (u := '\x7b' :: inner) (by decide)
      (ih (behind (u := '\x7b' :: inner) single))
  | @group inner rest _ _ tail _ ih =>
    exact getLast?_ne_of_append (u := '(' :: inner) (by decide)
      (ih (behind (u := '(' :: inner) single))

/-- What may stand in brackets is clear of brackets, unless a backslash is escaped. -/
theorem isClear_of_isSetBody {c : Char} {inner : List Char} (bracket : isBracket c = true)
    (fits : isSetBody inner = true) (single : ¬ ['\\', '\\'] <:+: inner) :
    isClear c inner = true := by
  -- In brackets, others stand behind a backslash only.
  fun_induction isSetBody inner with
  | case1 => rfl
  | case2 d rest ih =>
    simp only [Bool.and_eq_true] at fits
    have plain : d ≠ '\\' := by
      rintro rfl
      exact single (List.prefix_append ['\\', '\\'] rest).isInfix
    have behind : ¬ ['\\', '\\'] <:+: rest :=
      fun twice => single (List.infix_cons (List.infix_cons twice))
    simp [isClear, plain, ih fits.2 behind]
  | case3 d rest slash ih =>
    simp only [Bool.and_eq_true, bne_iff_ne, Bool.not_eq_true'] at fits
    have other : d ≠ c := by
      rintro rfl
      rw [bracket] at fits
      cases fits.1.2
    have behind : ¬ ['\\', '\\'] <:+: rest := fun twice => single (List.infix_cons twice)
    simp [isClear, fits.1.1, other, ih fits.2 behind]

/-- What may stand in braces is clear of brackets. -/
theorem isClear_of_isCountBody {c : Char} {inner : List Char} (bracket : isBracket c = true)
    (fits : isCountBody inner = true) : isClear c inner = true := by
  -- Digits, commas and blanks are no brackets.
  have count (d : Char) (numeric : (d.isDigit || d == ',' || d == ' ') = true) :
      d ≠ c ∧ d ≠ '\\' := by
    constructor
    · rintro rfl
      simp [isBracket] at bracket
      rcases bracket with rfl | rfl | rfl | rfl | rfl | rfl <;> cases numeric
    · rintro rfl
      cases numeric
  induction inner with
  | nil => rfl
  | cons d rest ih =>
    simp only [isCountBody, List.all_cons, Bool.and_eq_true] at fits
    obtain ⟨other, plain⟩ := count d (by simpa using fits.1)
    simp [isClear, plain, other, ih fits.2]

/-- What stands between the brackets of a chunk has no escaped backslash in it either. -/
theorem Sound.inner {u v inner : List Char} (sound : Sound chunk)
    (same : chunk.text = u ++ (inner ++ v)) : ¬ ['\\', '\\'] <:+: inner := by
  intro twice
  -- Two backslashes inside would stand in the whole chunk.
  refine sound.single (twice.trans ?_)
  exact ⟨u, v, by rw [same, List.append_assoc]⟩

/-- An escape in which no backslash is escaped is one of another character. -/
theorem Sound.ne_slash {c : Char} (sound : Sound (.escape c)) : c ≠ '\\' := by
  rintro rfl
  -- An escaped backslash would be two of them in a row.
  exact sound.single List.infix_rfl

/-- A chunk of another step, groups apart, is clear of the brackets of a step. -/
theorem isClear_text {c : Char} (bracket : isBracket c = true) (sound : Sound chunk)
    (marks : step.Marks opening closing) (mark : c = opening ∨ c = closing)
    (group : step? chunk ≠ some .group) (other : step? chunk ≠ some step) :
    isClear c chunk.text = true := by
  -- The brackets of the chunk itself are of another kind, and its inside has none.
  cases chunk with
  | char d =>
    have apart : d ≠ c := by
      rintro rfl
      exact absurd sound.fits.1 (by simp [bracket])
    simp [Chunk.text, isClear, sound.fits.2.1, apart]
  | escape d =>
    simp [Chunk.text, isClear, sound.ne_slash]
  | set inner =>
    have apart : '[' ≠ c ∧ ']' ≠ c := by
      cases marks with
      | set => exact absurd rfl other
      | _ => rcases mark with rfl | rfl <;> decide
    have inside := isClear_of_isSetBody bracket sound.fits.1 (sound.inner (u := ['[']) rfl)
    simp [Chunk.text, isClear, isClear_append inside, apart]
  | count inner =>
    have apart : '\x7b' ≠ c ∧ '\x7d' ≠ c := by
      cases marks with
      | count => exact absurd rfl other
      | _ => rcases mark with rfl | rfl <;> decide
    simp [Chunk.text, isClear, isClear_append (isClear_of_isCountBody bracket sound.fits.1), apart]
  | group inner => exact absurd rfl group

/-- A chunk that a step blots out stands between the brackets of the step. -/
theorem exists_of_step?_eq (sound : Sound chunk) (marks : step.Marks opening closing)
    (kind : step? chunk = some step) :
    ∃ inner c, chunk.text = opening :: (inner ++ [c, closing]) ∧ c ≠ '\\' := by
  -- The inside is not empty, and its last character is not a backslash.
  have close {opening closing : Char} {inner : List Char} (filled : inner ≠ [])
      (ends : inner.getLast? ≠ some '\\') :
      ∃ front c, opening :: (inner ++ [closing]) = opening :: (front ++ [c, closing]) ∧ c ≠ '\\' := by
    obtain rfl | ⟨front, c, rfl⟩ := List.eq_nil_or_concat' inner
    · exact absurd rfl filled
    · exact ⟨front, c, by simp, by simpa using ends⟩
  cases marks with
  | group =>
    cases chunk with
    | group inner =>
      have single := sound.inner (u := ['(']) rfl
      exact close sound.fits.2 (getLast?_ne_of_paired sound.fits.1 single)
    | escape c => simp [step?] at kind
    | _ => cases kind
  | set =>
    cases chunk with
    | set inner =>
      have single := sound.inner (u := ['[']) rfl
      have clear := isClear_of_isSetBody (c := '(') rfl sound.fits.1 single
      exact close sound.fits.2.1 (getLast?_ne_of_isClear clear)
    | escape c => simp [step?] at kind
    | _ => cases kind
  | count =>
    cases chunk with
    | count inner =>
      have clear := isClear_of_isCountBody (c := '(') rfl sound.fits.1
      exact close sound.fits.2 (getLast?_ne_of_isClear clear)
    | escape c => simp [step?] at kind
    | _ => cases kind

/-- Chunks in a row are clear where each of them is. -/
theorem isClear_source {c : Char} {chunks : List Chunk}
    (clear : ∀ chunk ∈ chunks, isClear c chunk.text = true) : isClear c (source chunks) = true := by
  induction chunks with
  | nil => rfl
  | cons chunk chunks ih =>
    rw [Regex.source_cons, isClear_append (clear chunk (by simp))]
    exact ih fun other member => clear other (by simp [member])

/-- A step is ready for chunks where groups are gone, unless it is the one that takes them away. -/
structure Ready (step : Step) (chunks : List Chunk) : Prop where
  sound : ∀ chunk ∈ chunks, Sound chunk
  line : '\n' ∉ source chunks
  groups : ∀ chunk ∈ chunks, step? chunk = some .group → step = .group

theorem Ready.tail {chunks : List Chunk} (ready : Ready step (chunk :: chunks)) :
    Ready step chunks where
  sound := fun other member => ready.sound other (by simp [member])
  line := fun member => ready.line (by simp [member])
  groups := fun other member => ready.groups other (by simp [member])

/-- A step finds nothing in chunks of other kinds. -/
theorem Ready.isClear {chunks : List Chunk} (ready : Ready step chunks)
    (marks : step.Marks opening closing) {c : Char} (mark : c = opening ∨ c = closing)
    (member : chunk ∈ chunks) (other : step? chunk ≠ some step) :
    isClear c chunk.text = true := by
  -- A group that is still there belongs to the step itself.
  have bracket : isBracket c = true := by
    cases marks <;> rcases mark with rfl | rfl <;> rfl
  have group : step? chunk ≠ some .group := by
    intro group
    obtain rfl := ready.groups chunk member group
    exact other group
  exact isClear_text bracket (ready.sound chunk member) marks mark group other

/-- The last closing bracket that a step looks for is that of the last chunk of its kind. -/
theorem afterLast?_source {rest : List Chunk} (ready : Ready step (chunk :: rest))
    (marks : step.Marks opening closing) (kind : step? chunk = some step) :
    ∃ v, source (chunk :: rest) = opening :: v ∧
      afterLast? closing v = some (source (step.behind (chunk :: rest))) := by
  have bracket : step ≠ .letter := by
    rintro rfl
    cases marks
  have slash : closing ≠ '\\' := by
    cases marks <;> decide
  let other (chunk : Chunk) : Bool := decide (step? chunk ≠ some step)
  have cut : (chunk :: rest).rdropWhile other ++ (chunk :: rest).rtakeWhile other = chunk :: rest :=
    List.rdropWhile_append_rtakeWhile
  have behind : step.behind (chunk :: rest) = (chunk :: rest).rtakeWhile other := by
    rw [Step.behind, if_neg bracket]
  have filled : (chunk :: rest).rdropWhile other ≠ [] := by
    intro none
    have all := List.rdropWhile_eq_nil_iff.mp none chunk (by simp)
    simp [other, kind] at all
  have last := List.rdropWhile_last_not other (chunk :: rest) filled
  rw [behind]
  -- Behind the last chunk of the kind nothing closes any more.
  have clear : Network.isClear closing (source ((chunk :: rest).rtakeWhile other)) = true := by
    refine isClear_source fun chunk' member => ready.isClear marks (Or.inr rfl) ?_ ?_
    · exact (List.rtakeWhile_suffix ..).subset member
    · simpa [other] using List.mem_rtakeWhile_imp member
  generalize (chunk :: rest).rtakeWhile other = after at cut clear ⊢
  -- The last chunk of the kind stands at the end of what is cut out.
  obtain ⟨front, final, same⟩ := (List.eq_nil_or_concat' _).resolve_left filled
  simp only [same, List.getLast_concat] at last
  rw [same] at cut
  -- The text between the first opening bracket and the last closing one is on one line.
  have member : final ∈ chunk :: rest := by simp [← cut]
  obtain ⟨inner, c, closed, plain⟩ :=
    exists_of_step?_eq (ready.sound final member) marks (by simpa [other] using last)
  obtain ⟨inner', c', opened, _⟩ :=
    exists_of_step?_eq (ready.sound chunk (by simp)) marks kind
  have line := ready.line
  rw [← cut] at line ⊢
  -- Written out, the source ends its first part with the closing bracket of that chunk.
  have whole : source (front ++ [final] ++ after) =
      (source front ++ opening :: inner) ++ c :: closing :: source after := by
    simp [closed]
  rw [whole] at line ⊢
  obtain ⟨middle, begins⟩ : ∃ middle, source front ++ opening :: inner = opening :: middle := by
    cases front with
    | nil => exact ⟨inner, rfl⟩
    | cons first front =>
      obtain rfl : first = chunk := (List.cons.inj cut).1
      exact ⟨inner' ++ [c', closing] ++ source front ++ opening :: inner, by simp [opened]⟩
  rw [begins] at line ⊢
  refine ⟨middle ++ c :: closing :: source after, rfl, ?_⟩
  exact afterLast?_append slash (fun member => line (by simp [member])) plain clear

variable {chunks left : List Chunk}

/-- A character that an opening bracket follows is blotted out together with what is closed. -/
theorem blotGroup_open {c : Char} {v after : List Char} (plain : c ≠ '\\')
    (found : afterLast? closing v = some after) :
    blotGroup opening closing (c :: opening :: v) = blot ++ after := by
  -- The group is closed at the last place where it can be.
  simp [blotGroup, plain, found]

/-- What a step for brackets makes of the source is the source of the chunks that it leaves. -/
theorem blotGroup_source (ready : Ready step chunks) (marks : step.Marks opening closing)
    (first : ∀ chunk ∈ chunks.head?, step? chunk ≠ some step)
    (blotted : blotOut? step chunks = some left) :
    blotGroup opening closing (source chunks) = source left := by
  have slash : opening ≠ '\\' := by
    cases marks <;> decide
  fun_induction blotOut? step chunks generalizing left with
  | case1 y z rest kind =>
    obtain ⟨dots, eq, rfl⟩ := Option.map_eq_some_iff.mp blotted
    obtain ⟨v, opened, found⟩ := afterLast?_source ready.tail marks kind
    have sound := ready.sound y (by simp)
    rw [Regex.source_cons, opened]
    -- The last character before the bracket is never a backslash.
    cases y with
    | char c =>
      cases eq
      exact blotGroup_open sound.fits.2.1 found
    | escape c =>
      cases eq
      simp only [Chunk.text, List.cons_append, List.nil_append]
      rw [blotGroup_cons (Or.inl rfl), blotGroup_open sound.ne_slash found]
      rfl
    | set | count | group => cases eq
  | case2 y z rest other ih =>
    obtain ⟨tail, eq, rfl⟩ := Option.map_eq_some_iff.mp blotted
    -- The chunk after this one does not begin with the bracket, so the search goes on.
    have next : (source (z :: rest)).head? ≠ some opening := by
      have head := head?_ne_of_isClear (ready.isClear marks (Or.inl rfl) (by simp) other) slash
      cases z <;> exact head
    have clear := ready.isClear marks (Or.inl rfl) (by simp) (first y rfl)
    rw [Regex.source_cons y, Regex.source_cons y, blotGroup_append slash clear next]
    rw [ih ready.tail (fun chunk head => by cases head; exact other) eq]
  | case3 short single =>
    cases blotted
    cases short with
    | nil => rfl
    | cons y rest =>
      cases rest with
      | nil =>
        have clear := ready.isClear marks (Or.inl rfl) (by simp) (first y rfl)
        simpa [blotGroup] using @blotGroup_append opening closing y.text [] slash clear (by simp)
      | cons z rest => exact absurd rfl (single y z rest)

/-- The search for an escaped letter goes past a chunk that none follows. -/
theorem blotLetter_text {y : Chunk} {v : List Char} (fits : y.Fits)
    (flat : step? y = none ∨ step? y = some .letter)
    (next : ∀ e tail, v = '\\' :: e :: tail → e.isAlpha = false) :
    blotLetter (y.text ++ v) = y.text ++ blotLetter v := by
  -- An escape is passed in two steps, the backslash first.
  cases y with
  -- A character is followed by what follows the chunk.
  | char c => exact blotLetter_cons fun e tail same => Or.inr (next e tail same)
  | escape c =>
    simp only [Chunk.text, List.cons_append, List.nil_append]
    rw [blotLetter_cons fun _ _ _ => Or.inl rfl,
      blotLetter_cons fun e tail same => Or.inr (next e tail same)]
  | set | count | group => simp [step?] at flat

/-- What the step for letters makes of the source is the source of the chunks that it leaves. -/
theorem blotLetter_source (sound : ∀ chunk ∈ chunks, Sound chunk)
    (flat : ∀ chunk ∈ chunks, step? chunk = none ∨ step? chunk = some .letter)
    (blotted : blotOut? .letter chunks = some left) :
    blotLetter (source chunks) = source left := by
  -- The induction is on the chunks; the first escaped letter behind another chunk is the place.
  induction chunks generalizing left with
  | nil =>
    cases blotted
    rfl
  | cons y chunks ih =>
    have others : ∀ chunk ∈ chunks, Sound chunk := fun chunk member => sound chunk (by simp [member])
    have one := sound y (by simp)
    cases chunks with
    | nil =>
      cases blotted
      simpa [blotLetter] using @blotLetter_text y [] one.fits (flat y (by simp)) (by simp)
    | cons z rest =>
      unfold blotOut? at blotted
      split at blotted
      · rename_i kind
        obtain ⟨dots, eq, rfl⟩ := Option.map_eq_some_iff.mp blotted
        -- The escaped letter is cut out with the last character of the chunk before it.
        obtain ⟨e, rfl, letter⟩ : ∃ e, z = .escape e ∧ e.isAlpha = true := by
          cases z <;> simp_all [step?]
        cases y with
        | char c =>
          cases eq
          simp [Chunk.text, blotLetter, letter, one.fits.2.1, Step.behind, blot]
        | escape c =>
          cases eq
          simp [Chunk.text, blotLetter, letter, one.ne_slash, Step.behind, blot]
        | set | count | group => cases eq
      · rename_i other
        obtain ⟨tail, eq, rfl⟩ := Option.map_eq_some_iff.mp blotted
        -- No escaped letter comes next, since that would be a chunk for the step.
        have next : ∀ e tail, source (z :: rest) = '\\' :: e :: tail → e.isAlpha = false := by
          intro e tail same
          have fits := (others z (by simp)).fits
          cases z with
          | char c =>
            obtain rfl : c = '\\' := (List.cons.inj same).1
            exact absurd rfl fits.2.1
          | escape c =>
            obtain rfl : c = e := (List.cons.inj (List.cons.inj same).2).1
            simpa [step?] using other
          | set | count | group => exact absurd (List.cons.inj same).1 (by decide)
        rw [Regex.source_cons y, Regex.source_cons y, blotLetter_text one.fits (flat y (by simp)) next]
        rw [ih others (fun chunk member => flat chunk (by simp [member])) eq]

/-- A dot is complete. -/
theorem sound_dot : Sound (.char '.') := ⟨by simp [Chunk.Fits, isBracket], by decide⟩

/-- An escaped dot is complete. -/
theorem sound_escapedDot : Sound (.escape '.') := ⟨rfl, by decide⟩

/-- What is gone stays gone. -/
theorem step?_ne_of_mem {other : Step} (gone : ∀ chunk ∈ chunks, step? chunk ≠ some other)
    (blotted : blotOut? step chunks = some left) (member : chunk ∈ left) :
    step? chunk ≠ some other := by
  rcases mem_of_blotOut? blotted member with member | rfl | rfl
  -- What is left is a chunk from before, or one of the points that stand in.
  · exact gone chunk member
  · simp [step?]
  · simp [show step? (.escape '.') = none by decide]

/-- After a step for brackets any other may follow. -/
theorem Ready.next (ready : Ready step chunks) (bracket : step ≠ .letter)
    (first : ∀ chunk ∈ chunks.head?, step? chunk ≠ some step)
    (blotted : blotOut? step chunks = some left) (next : Step) : Ready next left where
  sound := by
    -- Dots are complete and stand on one line; groups are gone after the first step.
    intro chunk member
    rcases mem_of_blotOut? blotted member with member | rfl | rfl
    · exact ready.sound chunk member
    · exact sound_dot
    · exact sound_escapedDot
  line := by
    intro member
    obtain ⟨chunk, member, within⟩ := List.mem_flatMap.mp member
    rcases mem_of_blotOut? blotted member with member | rfl | rfl
    · exact ready.line (List.mem_flatMap.mpr ⟨chunk, member, within⟩)
    · simp [Chunk.text] at within
    · simp [Chunk.text] at within
  groups := by
    intro chunk member group
    exfalso
    -- The step for groups takes them away, and before any other step there are none.
    by_cases same : step = .group
    · subst same
      exact step?_ne_of_blotOut? blotted bracket first member group
    · refine step?_ne_of_mem (fun chunk member group => ?_) blotted member group
      exact same (ready.groups chunk member group)

end Texts

/-- The source with all that the steps blot out. -/
def blottedText (text : List Char) : List Char :=
  blotLetter (blotGroup '\x7b' '\x7d' (blotGroup '[' ']' (blotGroup '(' ')' (blot ++ text))))

/-- The steps leave characters and escapes, which are all that the blotted source is made of. -/
theorem blotted?_spec {chunks left : List Chunk} (sound : ∀ chunk ∈ chunks, Sound chunk)
    (line : '\n' ∉ source chunks) (blotted : blotted? chunks = some left) :
    blottedText (source chunks) = source left ∧
      (∀ chunk ∈ left, chunk.Fits) ∧
      (∀ chunk ∈ left, step? chunk = none ∨ step? chunk = some .letter) ∧
      ∀ letters, letters ≠ [] → (∀ c ∈ letters, isSpecial c = false) → Spells letters left →
        Spells letters chunks := by
  -- The four steps are taken one after the other, and each leaves the row ready for the next.
  simp only [blotted?, List.foldlM_cons, List.foldlM_nil, Option.bind_eq_bind,
    Option.bind_eq_some_iff, Option.pure_def, Option.some.injEq, exists_eq_right] at blotted
  obtain ⟨one, first, two, second, three, third, fourth⟩ := blotted
  obtain ⟨_, rfl⟩ := exists_of_blotOut?_dot first
  obtain ⟨_, rfl⟩ := exists_of_blotOut?_dot second
  obtain ⟨tail, rfl⟩ := exists_of_blotOut?_dot third
  have dot {step : Step} {tail : List Chunk} :
      ∀ chunk ∈ (Chunk.char '.' :: tail).head?, step? chunk ≠ some step := by
    intro chunk head
    cases head
    simp [step?]
  have ready : Ready .group (.char '.' :: .char '.' :: .char '.' :: chunks) := by
    refine ⟨?_, by simpa [Chunk.text] using line, fun _ _ _ => rfl⟩
    simpa [sound_dot] using sound
  have ready₁ := ready.next (by decide) dot first .set
  have ready₂ := ready₁.next (by decide) dot second .count
  have ready₃ := ready₂.next (by decide) dot third .letter
  have text : source (.char '.' :: .char '.' :: .char '.' :: chunks) = blot ++ source chunks := rfl
  have flat : ∀ chunk ∈ .char '.' :: tail, step? chunk = none ∨ step? chunk = some .letter := by
    intro chunk member
    have sets := step?_ne_of_mem
      (fun _ => step?_ne_of_blotOut? second (by decide) dot) third member
    -- Each kind of bracket is gone after its own step, and no later step brings it back.
    have counts := step?_ne_of_blotOut? third (by decide) dot member
    have groups : step? chunk ≠ some .group := by
      intro group
      cases ready₃.groups chunk member group
    cases kind : step? chunk with
    | none => exact Or.inl rfl
    | some step =>
      cases step with
      | group => exact absurd kind groups
      | set => exact absurd kind sets
      | count => exact absurd kind counts
      | letter => exact Or.inr rfl
  refine ⟨?_, ?_, ?_, ?_⟩
  · unfold blottedText
    rw [← text, blotGroup_source ready .group dot first, blotGroup_source ready₁ .set dot second,
      blotGroup_source ready₂ .count dot third, blotLetter_source ready₃.sound flat fourth]
  · intro chunk member
    rcases mem_of_blotOut? fourth member with member | rfl | rfl
    · exact (ready₃.sound chunk member).fits
    · exact sound_dot.fits
    · exact sound_escapedDot.fits
  · intro chunk member
    rcases mem_of_blotOut? fourth member with member | rfl | rfl
    · exact flat chunk member
    · exact Or.inl rfl
    · exact Or.inl (by decide)
  · intro letters filled plain spells
    -- The letters are followed back through the steps, and then past the dots in front.
    have spells := spells_of_blotOut? fourth plain filled spells
    have spells := spells_of_blotOut? third plain filled spells
    have spells := spells_of_blotOut? second plain filled spells
    have spells := spells_of_blotOut? first plain filled spells
    have spells := spells_of_dot (Or.inl rfl) plain filled spells
    have spells := spells_of_dot (Or.inl rfl) plain filled spells
    exact spells_of_dot (Or.inl rfl) plain filled spells

end AdFilter.Network
