import AdFilter.Proofs.Site
import AdFilter.Proofs.Url
import AdFilter.Request

/-! Whether a request crosses sites depends on the sites of its two addresses alone. -/

namespace AdFilter

/-- The parts of an address with a host, of which none takes another one's place. -/
structure Address where
  scheme : List Char
  user? : Option (List Char)
  host : List Char
  port? : Option (List Char)
  tail : List Char
  scheme_plain : ∀ c ∈ scheme, c ≠ ':' ∧ c ≠ '/'
  user_plain : ∀ user ∈ user?, ∀ c ∈ user, Url.endsAuthority c = false ∧ c ≠ '@'
  host_filled : host ≠ []
  host_plain : ∀ c ∈ host, Url.endsAuthority c = false ∧ c ≠ ':' ∧ c ≠ '@'
  port_plain : ∀ port ∈ port?, ∀ c ∈ port, Url.endsAuthority c = false ∧ c ≠ '@'
  /-- Nothing follows, or a path, a query or a fragment does. -/
  tail_opens : ∀ c ∈ tail.head?, Url.endsAuthority c = true

namespace Address

/-- The user information with its mark, if there is any. -/
def userText (a : Address) : List Char := a.user?.elim [] (· ++ ['@'])

/-- What stands behind the host: the port with its mark, if there is one, and the tail. -/
def behindHost (a : Address) : List Char := a.port?.elim [] (':' :: ·) ++ a.tail

/-- The address as it is written. -/
def text (a : Address) : String :=
  String.ofList (a.scheme ++ "://".toList ++ (a.userText ++ (a.host ++ a.behindHost)))

/-- What stands behind the host names no user. -/
theorem isTail_behindHost (a : Address) : Url.IsTail a.behindHost := by
  unfold behindHost
  -- Without a port the tail follows the host, and else the colon of the port does.
  cases found : a.port? with
  | none =>
    have opens := a.tail_opens
    cases tail : a.tail with
    | nil => trivial
    | cons c rest =>
      rw [tail] at opens
      exact Or.inl (opens c rfl)
  | some port =>
    have plain := a.port_plain port found
    refine Or.inr ⟨rfl, ?_⟩
    -- The authority ends with the port, since the tail begins with a character that ends it.
    have inside : ∀ c ∈ port, (!Url.endsAuthority c) = true := by
      intro c member
      rw [(plain c member).1]
      rfl
    have authority : (port ++ a.tail).takeWhile (!Url.endsAuthority ·) = port := by
      apply Text.takeWhile_append_eq inside
      intro c first
      rw [a.tail_opens c first]
      rfl
    intro (member : '@' ∈ (port ++ a.tail).takeWhile (!Url.endsAuthority ·))
    rw [authority] at member
    exact (plain '@' member).2 rfl

/-- The host goes on to what stands behind it. -/
theorem head?_behindHost (a : Address) :
    ∀ c ∈ a.behindHost.head?, Url.endsAuthority c = true ∨ c = ':' := by
  intro c first
  have tail := a.isTail_behindHost
  -- Of what follows the host only the first character counts.
  cases behind : a.behindHost with
  | nil =>
    rw [behind] at first
    cases first
  | cons d rest =>
    rw [behind] at first tail
    obtain rfl : d = c := by simpa using first
    exact tail.imp_right And.left

/-- The authority of an address is cut into its user information and its host. -/
theorem cutHost_text (a : Address) :
    Url.cutHost (a.userText ++ (a.host ++ a.behindHost)) = (a.userText, a.host) := by
  unfold userText
  -- A user ends at its mark, and the host is read from there.
  cases found : a.user? with
  | none => exact Url.cutHost_eq a.host_plain a.isTail_behindHost
  | some user =>
    have plain := a.user_plain user found
    have whole : user ++ ['@'] ++ (a.host ++ a.behindHost) =
        user ++ '@' :: (a.host ++ a.behindHost) := by simp
    show Url.cutHost (user ++ ['@'] ++ (a.host ++ a.behindHost)) = _
    rw [whole, Url.cutHost_user plain, Url.takeWhile_host a.host_plain a.head?_behindHost]
    rfl

/-- The host is found in an address, whatever stands around it. -/
theorem host?_text (a : Address) : Url.host? a.text = some (String.ofList a.host) := by
  -- The scheme is cut at its colon, and the host ends where the tail begins.
  rw [Url.host?, text, String.toList_ofList, Url.locateHost?, Url.cutScheme?_append a.scheme_plain]
  simp [a.cutHost_text, a.host_filled]

/-- A request crosses sites if the hosts of its addresses belong to different ones. -/
theorem isThirdParty_eq (a d : Address) (types : TypeSet) :
    Request.isThirdParty ⟨a.text, some d.text, types⟩ =
      (Site.ofHost (String.ofList d.host) != Site.ofHost (String.ofList a.host)) := by
  have small (e : Address) : Url.lowerHost? e.text = some (String.ofList (e.host.map Char.toLower)) := by
    rw [Url.lowerHost?, host?_text, Option.map_some, Text.toLower_ofList]
  -- Small letters are one more spelling of the hosts.
  have site (e : Address) : Site.ofHost (String.ofList (e.host.map Char.toLower)) =
      Site.ofHost (String.ofList e.host) := by
    apply Site.Respelled.ofHost_eq
    apply Site.Respelled.letters
    simp
  simp only [Request.isThirdParty, Request.documentHost?, Option.bind_some, small, Site.crosses,
    Site.same, site]
  rfl

/--
Whether a request crosses sites depends on the sites alone.

The hosts are what is found in the two addresses. Any number of other spellings of them, in addresses
with other parts around them, leave the answer as it is.
-/
theorem isThirdParty_of_respelled {a a' d d' : Address}
    (host : Relation.EqvGen Site.Respelled a.host a'.host)
    (document : Relation.EqvGen Site.Respelled d.host d'.host) (types types' : TypeSet) :
    (Url.host? a.text = some (String.ofList a.host) ∧
      Url.host? d.text = some (String.ofList d.host)) ∧
      Request.isThirdParty ⟨a.text, some d.text, types⟩ =
        (Site.ofHost (String.ofList d.host) != Site.ofHost (String.ofList a.host)) ∧
      Request.isThirdParty ⟨a'.text, some d'.text, types'⟩ =
        Request.isThirdParty ⟨a.text, some d.text, types⟩ := by
  -- Each single change keeps the site, and so do all of them one after the other.
  have site {host other : List Char} (changed : Relation.EqvGen Site.Respelled host other) :
      Site.ofHost (String.ofList host) = Site.ofHost (String.ofList other) := by
    induction changed with
    | rel _ _ respelled => exact respelled.ofHost_eq
    | refl _ => rfl
    | symm _ _ _ ih => exact ih.symm
    | trans _ _ _ _ _ first second => exact first.trans second
  refine ⟨⟨a.host?_text, d.host?_text⟩, isThirdParty_eq a d types, ?_⟩
  rw [isThirdParty_eq, isThirdParty_eq, site host, site document]

/-- Another scheme, a user, a subdomain, capitals, a dot at the end, a port and a query. -/
theorem isThirdParty_of_respelled_cdn :
    ∃ a a' d : Address, a.text = "http://example.com/a.js" ∧
      a'.text = "wss://me:pw@cdn.Example.COM.:8080?a.js" ∧ d.text = "https://x.co.uk/" ∧
      Relation.EqvGen Site.Respelled a.host a'.host ∧
      Relation.EqvGen Site.Respelled d.host d.host ∧
      Request.isThirdParty ⟨a'.text, some d.text, .only .script⟩ =
        Request.isThirdParty ⟨a.text, some d.text, .only .script⟩ := by
  let a : Address := {
    scheme := "http".toList, user? := none, host := "example.com".toList, port? := none
    tail := "/a.js".toList
    scheme_plain := by simp, user_plain := by simp, host_filled := by simp
    host_plain := by simp [Url.endsAuthority], port_plain := by simp
    tail_opens := by simp [Url.endsAuthority] }
  let a' : Address := {
    scheme := "wss".toList, user? := some "me:pw".toList, host := "cdn.Example.COM.".toList
    port? := some "8080".toList, tail := "?a.js".toList
    scheme_plain := by simp, user_plain := by simp [Url.endsAuthority], host_filled := by simp
    host_plain := by simp [Url.endsAuthority], port_plain := by simp [Url.endsAuthority]
    tail_opens := by simp [Url.endsAuthority] }
  let d : Address := {
    scheme := "https".toList, user? := none, host := "x.co.uk".toList, port? := none
    tail := "/".toList
    scheme_plain := by simp, user_plain := by simp, host_filled := by simp
    host_plain := by simp [Url.endsAuthority], port_plain := by simp
    tail_opens := by simp [Url.endsAuthority] }
  -- One change after the other: the letters, the subdomain, the dot.
  have letters : Site.Respelled "example.com".toList "Example.COM".toList := .letters (by decide)
  have labels : Site.Respelled "Example.COM".toList "cdn.Example.COM".toList :=
    .labels "cdn".toList (by decide) (by decide)
  have dots : Site.Respelled "cdn.Example.COM".toList "cdn.Example.COM.".toList :=
    .dots "cdn.Example.COM".toList 1
  have host : Relation.EqvGen Site.Respelled a.host a'.host :=
    .trans _ _ _ (.trans _ _ _ (.rel _ _ letters) (.rel _ _ labels)) (.rel _ _ dots)
  have document : Relation.EqvGen Site.Respelled d.host d.host := .refl _
  refine ⟨a, a', d, by decide, by decide, by decide, host, document, ?_⟩
  exact (isThirdParty_of_respelled host document (.only .script) (.only .script)).2.2

end Address

end AdFilter
