import AdFilter.Proofs.Text.AsciiCase
import AdFilter.Proofs.Text.Search
import AdFilter.Url

/-! The host of an address, and what it depends on. -/

namespace AdFilter

namespace Url

variable {scheme host tail : List Char}

/-- What stands behind a host does not go on with it, nor does it make a user name of it. -/
def IsTail : List Char → Prop
  | [] => True
  | c :: rest => endsAuthority c = true ∨ c = ':' ∧ '@' ∉ rest.takeWhile (!endsAuthority ·)

/-- The host goes on to the first character that may stand behind it. -/
theorem takeWhile_host (plain : ∀ c ∈ host, endsAuthority c = false ∧ c ≠ ':' ∧ c ≠ '@')
    (ends : ∀ c ∈ tail.head?, endsAuthority c = true ∨ c = ':') :
    (host ++ tail).takeWhile (fun c => !endsAuthority c && c != ':') = host := by
  apply Text.takeWhile_append_eq
  · intro c member
    simp [plain c member]
  · intro c first
    -- The first character behind the host is no part of it.
    rcases ends c first with stops | rfl
    · simp [stops]
    · rfl

/-- No user is named where none is named behind the host. -/
theorem cutHost_eq (plain : ∀ c ∈ host, endsAuthority c = false ∧ c ≠ ':' ∧ c ≠ '@')
    (ends : IsTail tail) : cutHost (host ++ tail) = ([], host) := by
  have inside : ∀ c ∈ host, (!endsAuthority c) = true := by
    simpa using fun c member => (plain c member).1
  -- The mark of a user stands neither in the host nor, before a slash, in what follows it.
  have nobody : '@' ∉ (host ++ tail).takeWhile (!endsAuthority ·) := by
    rw [List.takeWhile_append_of_pos inside]
    intro member
    rcases List.mem_append.mp member with member | member
    · exact (plain '@' member).2.2 rfl
    · cases tail with
      | nil => simp at member
      | cons d rest =>
        rcases ends with stops | ⟨rfl, free⟩
        · simp [stops] at member
        · -- The port belongs to the authority, in which no user may be named.
          have goes : endsAuthority ':' = false := rfl
          simp only [List.takeWhile_cons, goes, Bool.not_false, if_true, List.mem_cons] at member
          rcases member with colon | member
          · exact absurd colon (by decide)
          · exact free member
  -- Nobody is cut off, and so the host begins at once.
  simp only [cutHost, Text.cutWhere?_absent nobody]
  rw [takeWhile_host plain]
  intro c first
  cases tail with
  | nil => cases first
  | cons d rest =>
    obtain rfl : d = c := by simpa using first
    exact ends.imp_right And.left

/-- The user information goes up to its mark, and the host stands behind that. -/
theorem cutHost_user {user : List Char} (plain : ∀ c ∈ user, endsAuthority c = false ∧ c ≠ '@')
    (rest : List Char) : cutHost (user ++ '@' :: rest) =
      (user ++ ['@'], rest.takeWhile fun c => !endsAuthority c && c != ':') := by
  -- No character of the user ends the authority, so the mark behind the user is reached.
  have inside : ∀ c ∈ user, (!endsAuthority c) = true := by
    intro c member
    rw [(plain c member).1]
    rfl
  have named : Text.cutWhere? (· == '@') ((user ++ '@' :: rest).takeWhile (!endsAuthority ·)) =
      some (user, rest.takeWhile (!endsAuthority ·)) := by
    have goes : endsAuthority '@' = false := rfl
    rw [List.takeWhile_append_of_pos inside, List.takeWhile_cons_of_pos (by rw [goes]; rfl)]
    exact Text.cutWhere?_first fun member => (plain '@' member).2 rfl
  have behind : (user ++ '@' :: rest).drop (user.length + 1) = rest := by
    rw [List.append_cons, List.drop_left' (by simp)]
  simp only [cutHost, named, behind]

/-- The scheme is cut off with its separator. -/
theorem cutScheme?_append (named : ∀ c ∈ scheme, c ≠ ':' ∧ c ≠ '/') (rest : List Char) :
    cutScheme? (scheme ++ "://".toList ++ rest) = some (scheme ++ "://".toList, rest) := by
  -- Slashes in the name of the scheme would be found before those that end it.
  have single : Text.contains scheme ['/', '/'] = false := by
    rw [← Bool.not_eq_true, Text.contains_iff]
    exact fun inside => (named '/' (inside.subset (by simp))).2 rfl
  have colon : Text.cutWhere? (· == ':') (scheme ++ ':' :: '/' :: '/' :: rest) =
      some (scheme, '/' :: '/' :: rest) :=
    Text.cutWhere?_first fun member => (named ':' member).1 rfl
  have whole : scheme ++ "://".toList ++ rest = scheme ++ ':' :: '/' :: '/' :: rest := by simp
  rw [whole]
  simp [cutScheme?, colon, single]

/-- The host stands between the scheme and the tail. -/
theorem locateHost?_eq (named : ∀ c ∈ scheme, c ≠ ':' ∧ c ≠ '/') (filled : host ≠ [])
    (plain : ∀ c ∈ host, endsAuthority c = false ∧ c ≠ ':' ∧ c ≠ '@') (ends : IsTail tail) :
    locateHost? (scheme ++ "://".toList ++ host ++ tail) = some (scheme ++ "://".toList, host) := by
  -- The scheme is cut at its colon, and no user stands before the host.
  rw [List.append_assoc, locateHost?, cutScheme?_append named]
  simp [cutHost_eq plain ends, filled]

/-- The host in small letters. -/
theorem lowerHost?_eq (named : ∀ c ∈ scheme, c ≠ ':' ∧ c ≠ '/') (filled : host ≠ [])
    (plain : ∀ c ∈ host, endsAuthority c = false ∧ c ≠ ':' ∧ c ≠ '@') (ends : IsTail tail) :
    lowerHost? (String.ofList (scheme ++ "://".toList ++ host ++ tail)) =
      some (String.ofList (host.map Char.toLower)) := by
  simp only [lowerHost?, host?, String.toList_ofList, locateHost?_eq named filled plain ends,
    Option.map_some, Text.toLower_ofList]

/-! ### The case of the address -/

/-- A slash is not the small letter of anything else. -/
theorem toLower_eq_slash {c : Char} : c.toLower = '/' ↔ c = '/' := Text.toLower_eq_iff (by decide)

/-- A text begins with two slashes, or does not do so even in small letters. -/
theorem slashes_or_not (text : List Char) : (∃ tail, text = '/' :: '/' :: tail) ∨
    (∀ tail, text ≠ '/' :: '/' :: tail) ∧ ∀ tail, text.map Char.toLower ≠ '/' :: '/' :: tail := by
  -- A text of less than two characters has no room for them, and longer ones are told by the first two.
  rcases text with _ | ⟨c, _ | ⟨d, tail⟩⟩
  · simp
  · simp
  · by_cases both : c = '/' ∧ d = '/'
    · obtain ⟨rfl, rfl⟩ := both
      exact .inl ⟨tail, rfl⟩
    · refine .inr ⟨?_, ?_⟩ <;> simp_all [toLower_eq_slash]

/-- A text contains two slashes just if it does so in small letters. -/
theorem contains_slashes_map (text : List Char) :
    Text.contains (text.map Char.toLower) ['/', '/'] = Text.contains text ['/', '/'] := by
  rw [Bool.eq_iff_iff, Text.contains_iff, Text.contains_iff]
  constructor
  · rintro ⟨before, after, same⟩
    -- The text in small letters is cut before and behind the slashes, and the text itself at the same places.
    obtain ⟨first, last, rfl, front, rfl⟩ := List.map_eq_append_iff.mp same.symm
    obtain ⟨first, middle, rfl, rfl, slashes⟩ := List.map_eq_append_iff.mp front
    have slashes : middle = ['/', '/'] := (Text.map_toLower_eq_iff (by simp)).mp slashes
    exact ⟨first, last, by rw [slashes]⟩
  · exact fun inside => inside.map Char.toLower

/-- The scheme in small letters is cut off in small letters. -/
theorem cutScheme?_map (url : List Char) : cutScheme? (url.map Char.toLower) =
    (cutScheme? url).map (Prod.map (List.map Char.toLower) (List.map Char.toLower)) := by
  unfold cutScheme?
  -- The colon is found at the same place, so the parts to compare are those around it.
  rw [Text.cutWhere?_map (Text.toLower_beq (by decide))]
  cases Text.cutWhere? (· == ':') url with
  | none =>
    simp only [Option.map_none]
    rcases slashes_or_not url with ⟨tail, rfl⟩ | ⟨apart, still⟩
    · rfl
    · split
      · exact absurd ‹_› (still _)
      · simp
  | some parts =>
    obtain ⟨name, rest⟩ := parts
    simp only [Option.map_some, Prod.map_apply, contains_slashes_map]
    rcases slashes_or_not rest with ⟨tail, rfl⟩ | ⟨apart, still⟩
    · -- The slashes are the same in small letters, and only what stands around them changes.
      have slashes : ('/' :: '/' :: tail).map Char.toLower = '/' :: '/' :: tail.map Char.toLower := rfl
      simp only [slashes]
      split <;> simp
    · split
      · exact absurd ‹_› (still _)
      · simp

/-- The user information and what follows the host are cut off in small letters, too. -/
theorem cutHost_map (rest : List Char) : cutHost (rest.map Char.toLower) =
    Prod.map (List.map Char.toLower) (List.map Char.toLower) (cutHost rest) := by
  -- No character that ends the authority is the small letter of another one.
  have inside (c : Char) : (!endsAuthority c.toLower) = !endsAuthority c := by
    rw [endsAuthority, Text.toLower_beq (by decide), Text.toLower_beq (by decide),
      Text.toLower_beq (by decide), endsAuthority]
  have named (c : Char) :
      (!endsAuthority c.toLower && c.toLower != ':') = (!endsAuthority c && c != ':') := by
    rw [inside, bne, Text.toLower_beq (by decide), bne]
  have authority : (rest.map Char.toLower).takeWhile (!endsAuthority ·) =
      (rest.takeWhile (!endsAuthority ·)).map Char.toLower := by
    rw [List.takeWhile_map]
    congr 2
    exact funext inside
  have host (tail : List Char) :
      (tail.map Char.toLower).takeWhile (fun c => !endsAuthority c && c != ':') =
        (tail.takeWhile (fun c => !endsAuthority c && c != ':')).map Char.toLower := by
    rw [List.takeWhile_map]
    congr 2
    exact funext named
  unfold cutHost
  -- Both cuts are made at the same places, so only the parts are put in small letters.
  rw [authority, Text.cutWhere?_map (Text.toLower_beq (by decide))]
  cases Text.cutWhere? (· == '@') (rest.takeWhile (!endsAuthority ·)) with
  | none => simp [host]
  | some parts => simp [host, ← List.map_drop]

/-- The host of an address in small letters is the host in small letters. -/
theorem locateHost?_map (url : List Char) : locateHost? (url.map Char.toLower) =
    (locateHost? url).map (Prod.map (List.map Char.toLower) (List.map Char.toLower)) := by
  simp only [locateHost?, cutScheme?_map]
  -- An address without a scheme has no host in either case.
  cases cutScheme? url with
  | none => rfl
  | some parts =>
    simp only [Option.map_some, Option.bind_eq_bind, Option.bind_some, Prod.map_fst, Prod.map_snd,
      cutHost_map, List.isEmpty_map]
    split <;> simp

/-- The host in small letters does not depend on the case of the address. -/
theorem lowerHost?_toLower (url : String) : lowerHost? url.toLower = lowerHost? url := by
  simp only [lowerHost?, host?, Text.toList_toLower, locateHost?_map, Option.map_map]
  -- The host is put in small letters once more, which changes nothing.
  congr 1
  funext parts
  simp [Text.toLower_ofList, Function.comp_def, Char.toLower_toLower_eq_toLower]

end Url

end AdFilter
