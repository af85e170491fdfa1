import AdFilter.Proofs.Url

/-!
Addresses without a scheme: the host of `//rest` is looked for behind the first colon, if there is one,
so it is the host of the absolute address only where that colon makes no difference.
-/

namespace AdFilter.Url

variable {before after rest : List Char}

/-- A user is named in what stands before the path. -/
def NamesUser (rest : List Char) : Prop := '@' ∈ rest.takeWhile (!endsAuthority ·)

/-- The colon stands in the user information, before the mark that ends it. -/
def InUser (before after : List Char) : Prop :=
  (∀ c ∈ before, endsAuthority c = false ∧ c ≠ '@') ∧ NamesUser after

/-- A user is named by the first mark, if nothing before it ends the authority. -/
theorem namesUser_iff : NamesUser rest ↔ ∃ user tail,
    rest = user ++ '@' :: tail ∧ ∀ c ∈ user, endsAuthority c = false ∧ c ≠ '@' := by
  constructor
  -- The first mark is as good as any, and no other one stands before it.
  · intro named
    obtain ⟨user, more, cut, first⟩ := List.eq_append_cons_of_mem named
    obtain ⟨tail, whole⟩ := List.takeWhile_prefix (!endsAuthority ·) (l := rest)
    refine ⟨user, more ++ tail, ?_, fun c member => ?_⟩
    · rw [← whole, cut, List.append_assoc, List.cons_append]
    · have inside : c ∈ rest.takeWhile (!endsAuthority ·) := by simp [cut, member]
      exact ⟨by simpa using List.mem_takeWhile_imp inside, fun same => first (same ▸ member)⟩
  · rintro ⟨user, tail, rfl, plain⟩
    have inside : ∀ c ∈ user, (!endsAuthority c) = true := by
      simpa using fun c member => (plain c member).1
    have goes : endsAuthority '@' = false := rfl
    rw [NamesUser, List.takeWhile_append_of_pos inside, List.takeWhile_cons_of_pos (by simp [goes])]
    simp

/-- A user that is named behind a colon, and not before it, has the colon in its information. -/
theorem inUser_of_namesUser (named : NamesUser (before ++ ':' :: after))
    (nobody : ¬ NamesUser before) : InUser before after := by
  obtain ⟨user, tail, whole, plain⟩ := namesUser_iff.mp named
  -- The mark stands behind the colon or before it.
  rcases List.append_eq_append_iff.mp whole with ⟨more, rfl, behind⟩ | ⟨more, rfl, behind⟩
  · cases more with
    | nil => cases behind
    | cons colon more =>
      obtain ⟨rfl, rfl⟩ := List.cons.inj behind
      refine ⟨fun c member => plain c (List.mem_append_left _ member), ?_⟩
      exact namesUser_iff.mpr ⟨more, tail, rfl, fun c member => plain c (by simp [member])⟩
  · -- The mark stands before the colon, where no user is named.
    cases more with
    | nil => cases behind
    | cons mark more =>
      obtain ⟨rfl, rfl⟩ := List.cons.inj behind
      exact absurd (namesUser_iff.mpr ⟨user, more, rfl, plain⟩) nobody

/-- A host goes on over this character. -/
def goesOn (c : Char) : Bool := !endsAuthority c && c != ':'

/-- A host goes no further than to a colon. -/
theorem takeWhile_goesOn_colon (before after : List Char) :
    (before ++ ':' :: after).takeWhile goesOn = before.takeWhile goesOn := by
  -- A host ends at a colon, whatever stands behind it.
  have stops : (':' :: after).takeWhile goesOn = [] := List.takeWhile_cons_of_neg (by decide)
  rw [List.takeWhile_append, stops, List.append_nil]
  split
  · rename_i all
    exact ((List.takeWhile_prefix goesOn).eq_of_length all).symm
  · rfl

/-- Where no user is named, the host stands at the beginning. -/
theorem cutHost_of_no_user (nobody : ¬ NamesUser rest) :
    cutHost rest = ([], rest.takeWhile goesOn) := by
  -- Without an at sign before the path there is no user to cut off.
  have uncut : Text.cutWhere? (· == '@') (rest.takeWhile (!endsAuthority ·)) = none :=
    Text.cutWhere?_absent nobody
  simp only [cutHost, uncut]
  rfl

/-- A colon within the user information, and what stands before it, has no part in the host. -/
theorem cutHost_of_inUser (inside : InUser before after) :
    (cutHost (before ++ ':' :: after)).2 = (cutHost after).2 := by
  obtain ⟨user, tail, rfl, plain⟩ := namesUser_iff.mp inside.2
  -- The mark that ends the information is the same one with what stands before the colon.
  have longer : ∀ c ∈ before ++ ':' :: user, endsAuthority c = false ∧ c ≠ '@' := by
    simp only [List.mem_append, List.mem_cons]
    rintro c (member | rfl | member)
    · exact inside.1 c member
    · decide
    · exact plain c member
  have whole : before ++ ':' :: (user ++ '@' :: tail) = (before ++ ':' :: user) ++ '@' :: tail := by simp
  rw [whole, cutHost_user longer, cutHost_user plain]

/-- Any other colon ends the host, if that does not end before it. -/
theorem cutHost_of_not_inUser (outside : ¬ InUser before after) :
    (cutHost (before ++ ':' :: after)).2 = (cutHost before).2 := by
  -- Whether a user is named is settled before the colon, and so is the host behind its mark.
  by_cases named : NamesUser before
  · obtain ⟨user, tail, rfl, plain⟩ := namesUser_iff.mp named
    rw [List.append_assoc, List.cons_append, cutHost_user plain, cutHost_user plain]
    exact takeWhile_goesOn_colon tail after
  · have nobody : ¬ NamesUser (before ++ ':' :: after) := fun user =>
      outside (inUser_of_namesUser user named)
    rw [cutHost_of_no_user nobody, cutHost_of_no_user named]
    exact takeWhile_goesOn_colon before after

/-- The host that stands at the beginning of a text, behind the user information. -/
def hostIn? (rest : List Char) : Option String :=
  let host := (cutHost rest).2
  if host.isEmpty then none else some (String.ofList host)

/-- The host of an address is looked for in what is left behind its scheme. -/
theorem host?_of_cutScheme? {url : String} (scheme : List Char)
    (cut : cutScheme? url.toList = some (scheme, rest)) : host? url = hostIn? rest := by
  simp only [host?, locateHost?, cut, Option.bind_eq_bind, Option.bind_some, hostIn?]
  -- A host that is empty is none.
  split <;> rfl

/-- The host of an absolute address stands behind the two slashes. -/
theorem host?_absolute (rest : String) : host? ("https://" ++ rest) = hostIn? rest.toList := by
  -- The scheme has neither a colon nor a slash, so the first ones are those behind it.
  have named : ∀ c ∈ "https".toList, c ≠ ':' ∧ c ≠ '/' := by simp
  have whole : "https://".toList = "https".toList ++ "://".toList := by simp
  refine host?_of_cutScheme? ("https".toList ++ "://".toList) ?_
  rw [String.toList_append, whole]
  exact cutScheme?_append named rest.toList

/-- Two slashes in front of a text without a colon are a scheme. -/
theorem host?_slashes_of_no_colon {rest : String} (none : ':' ∉ rest.toList) :
    host? ("//" ++ rest) = hostIn? rest.toList := by
  -- Without a colon there is no scheme, and the slashes are passed over.
  have uncut : Text.cutWhere? (· == ':') ('/' :: '/' :: rest.toList) = Option.none :=
    Text.cutWhere?_absent (by simp [none])
  refine host?_of_cutScheme? ['/', '/'] ?_
  rw [String.toList_append]
  change cutScheme? ('/' :: '/' :: rest.toList) = _
  simp only [cutScheme?, uncut]

/-- With a colon, all that stands before it is taken for the scheme. -/
theorem host?_slashes_of_colon {before after : String} (first : ':' ∉ before.toList) :
    host? ("//" ++ (before ++ ":" ++ after)) = hostIn? after.toList := by
  have cut : Text.cutWhere? (· == ':') ('/' :: '/' :: before.toList ++ ':' :: after.toList) =
      some ('/' :: '/' :: before.toList, after.toList) :=
    -- The slashes in front have no colon, so the first one is that of the text.
    Text.cutWhere?_first (by simp [first])
  have slashes : Text.contains ('/' :: '/' :: before.toList) ['/', '/'] = true :=
    Text.contains_iff.mpr ⟨[], before.toList, rfl⟩
  refine host?_of_cutScheme? ('/' :: '/' :: before.toList ++ [':']) ?_
  have whole : ("//" ++ (before ++ ":" ++ after)).toList =
      '/' :: '/' :: before.toList ++ ':' :: after.toList := by simp
  unfold cutScheme?
  -- The double slash in front comes before any behind the colon.
  simp only [whole, cut, slashes, if_true]
  split <;> rfl

/--
The host of an address without a scheme, against that of the absolute address.

They are the same if no colon follows the slashes. With a colon, the host is looked for behind the
first one, which makes no difference just if that stands in the user information, or the text before
the colon and that behind it happen to have the same host.
-/
theorem host?_relative_iff (rest : String) :
    (':' ∉ rest.toList → host? ("//" ++ rest) = host? ("https://" ++ rest)) ∧
      ∀ before after : String, rest = before ++ ":" ++ after → ':' ∉ before.toList →
        host? ("//" ++ rest) = host? ("https://" ++ after) ∧
          (host? ("//" ++ rest) = host? ("https://" ++ rest) ↔
            InUser before.toList after.toList ∨
              host? ("https://" ++ before) = host? ("https://" ++ after)) := by
  constructor
  · intro none
    rw [host?_slashes_of_no_colon none, host?_absolute]
  · rintro before after rfl first
    have whole : (before ++ ":" ++ after).toList = before.toList ++ ':' :: after.toList := by simp
    rw [host?_slashes_of_colon first, host?_absolute, host?_absolute, host?_absolute, whole]
    refine ⟨rfl, ?_⟩
    -- In the user information the colon changes nothing; elsewhere it ends the host.
    by_cases inside : InUser before.toList after.toList
    · have same := cutHost_of_inUser inside
      exact iff_of_true (by rw [hostIn?, hostIn?, same]) (.inl inside)
    · have same := cutHost_of_not_inUser inside
      have host : hostIn? (before.toList ++ ':' :: after.toList) = hostIn? before.toList := by
        rw [hostIn?, hostIn?, same]
      rw [host, or_iff_right inside]
      exact eq_comm

/-- No colon at all, and one between the name and the password of a user. -/
theorem host?_relative_iff_user :
    ':' ∉ "example.com/a?b".toList ∧
      host? ("//" ++ "example.com/a?b") = host? ("https://" ++ "example.com/a?b") ∧
      "user:word@example.com/a:b" = "user" ++ ":" ++ "word@example.com/a:b" ∧ ':' ∉ "user".toList ∧
      InUser "user".toList "word@example.com/a:b".toList ∧
      host? ("//" ++ "user:word@example.com/a:b") = host? ("https://" ++ "user:word@example.com/a:b") := by
  have none : ':' ∉ "example.com/a?b".toList := by decide +kernel
  have whole : "user:word@example.com/a:b" = "user" ++ ":" ++ "word@example.com/a:b" := by
    decide +kernel
  have first : ':' ∉ "user".toList := by decide +kernel
  -- The user is followed by a word and an at sign, before the path begins.
  have inside : InUser "user".toList "word@example.com/a:b".toList := by
    simp [InUser, NamesUser, endsAuthority]
  have reads := (host?_relative_iff "user:word@example.com/a:b").2 _ _ whole first
  exact ⟨none, (host?_relative_iff "example.com/a?b").1 none, whole, first, inside,
    reads.2.mpr (.inl inside)⟩

/-- The port of an address without a scheme is taken for its host, and the path for one with a colon in it. -/
theorem host?_relative_port :
    host? ("//" ++ "example.com:8080/x") = some "8080" ∧
      host? ("https://" ++ "example.com:8080/x") = some "example.com" ∧
      host? ("//" ++ "example.com/x?u=https://b.com") = none ∧
      host? ("https://" ++ "example.com/x?u=https://b.com") = some "example.com" := by
  decide +kernel

end AdFilter.Url
