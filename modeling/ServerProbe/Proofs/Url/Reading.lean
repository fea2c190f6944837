import ServerProbe.Proofs.Url.Parts

/-! What an address is like that was read from a text.

Its parts are those that the readers of the parts gave. A well-known scheme is
always followed by a host, and a port that is kept is not the usual one.
-/

set_option autoImplicit false

namespace ServerProbe

theorem bind_ok_iff {E A B : Type} {first : Except E A} {next : A → Except E B} {value : B} :
    first >>= next = .ok value ↔ ∃ given, first = .ok given ∧ next given = .ok value := by
  cases first with
  | error failure => simp [bind, Except.bind]
  | ok given => simp [bind, Except.bind]

namespace Url

theorem Host.ne_empty_of_ofText {text : List Char} {host : Host} (read : ofText text = .ok host) :
    host ≠ .domain "" := by
  unfold ofText at read
  split at read
  · unfold ofBracketed at read
    split at read
    · split at read
      · cases read
        exact nofun
      · cases read
    · cases read
  · split at read
    · cases read
    · cases read
    · next name notEmpty ascii =>
      split at read
      · split at read
        · cases read
          exact nofun
        · cases read
      · cases read
        intro isEmpty
        have nothing := Host.domain.inj isEmpty
        rw [String.ofList_eq_empty_iff] at nothing
        exact notEmpty nothing

theorem readHost_ne_empty {text : List Char} {host : Host}
    (read : readHost .wellKnown text = .ok host) : host ≠ .domain "" := by
  unfold readHost at read
  rw [if_pos rfl] at read
  split at read
  · cases read
  · exact Host.ne_empty_of_ofText read

theorem port_of_readPort {scheme : String} {text rest : List Char} {port : Nat}
    (read : readPort scheme text = .ok (some port, rest)) :
    port < Text.shortLimit ∧ usualPort? scheme ≠ some port := by
  unfold readPort at read
  dsimp only at read
  -- The authority ends behind the digits, or a character must end it there.
  split at read
  all_goals
    split at read
    · cases read
    · next inRange =>
      split at read
      · cases read
      · next unusual =>
        cases read
        exact ⟨Nat.lt_of_not_le fun large => inRange (Or.inl large),
          fun usual => unusual (Or.inr usual)⟩

/-- What holds of every address that was read. -/
structure Proper (url : Url) : Prop where
  path : NoControl url.path.toList
  query : ∀ query, url.query = some query → NoControl query.toList
  host : ∀ host, url.host = some host → NoControl host.text.toList
  named : SchemeKind.ofScheme url.scheme = .wellKnown → url.host.isSome = true
  port : ∀ port, url.port = some port →
    port < Text.shortLimit ∧ usualPort? url.scheme ≠ some port

/-- The host that is kept of an authority: none when it is empty. -/
def Host.kept? (host : Host) : Option Host :=
  if host == .domain "" then none else some host

theorem Host.eq_of_kept? {host found : Host} (kept : host.kept? = some found) : host = found := by
  unfold kept? at kept
  split at kept
  · cases kept
  · exact Option.some.inj kept

theorem Host.isSome_kept? {host : Host} (notEmpty : host ≠ .domain "") :
    host.kept?.isSome = true := by
  rw [kept?, beq_false_of_ne notEmpty]
  rfl

theorem proper_withAuthority {scheme username password : String} {hostText path tail : List Char}
    {host : Host} {port : Option Nat} {fragment : Option String}
    (hostRead : readHost (.ofScheme scheme) hostText = .ok host)
    (unusual : ∀ number, port = some number →
      number < Text.shortLimit ∧ usualPort? scheme ≠ some number) :
    Proper {
      scheme, username, password, port, fragment
      hasAuthority := true
      host := host.kept?
      path := pathAfterAuthority (.ofScheme scheme) path
      query := (readTail (.ofScheme scheme) tail).1 } where
  path := noControl_pathAfterAuthority _ path
  query _ := noControl_query
  host _ kept := Host.eq_of_kept? kept ▸ noControl_of_readHost hostRead
  named isKnown := Host.isSome_kept? (readHost_ne_empty (isKnown ▸ hostRead))
  port := unusual

theorem proper_of_readAuthority {scheme : String} {text : List Char} {url : Url}
    (read : readAuthority scheme (.ofScheme scheme) text = .ok url) : url.Proper := by
  obtain ⟨credentials, -, hostPart⟩ := bind_ok_iff.mp read
  obtain ⟨host, hostRead, given⟩ := bind_ok_iff.mp hostPart
  -- Two complaints about an empty host, and then perhaps a port.
  simp only [bind, Except.bind] at given
  split at given
  · cases given
  · split at given
    · cases given
    · split at given
      · split at given
        · cases given
        · next found portRead =>
          obtain ⟨port, rest⟩ := found
          cases given
          refine proper_withAuthority hostRead ?_
          rintro number rfl
          exact port_of_readPort portRead
      · cases given
        exact proper_withAuthority hostRead nofun

theorem proper_withoutHost {scheme : String} {kind : SchemeKind} {hasAuthority : Bool}
    {path : String} {tail : List Char} (clean : NoControl path.toList)
    (unnamed : SchemeKind.ofScheme scheme ≠ .wellKnown) :
    (withoutHost scheme kind hasAuthority path tail).Proper where
  path := clean
  query _ := noControl_query
  host := nofun
  named isKnown := absurd isKnown unnamed
  port := nofun

theorem Proper.withHost {url : Url} (proper : url.Proper)
    (unnamed : SchemeKind.ofScheme url.scheme ≠ .wellKnown) {host : Option Host}
    (clean : ∀ found, host = some found → NoControl found.text.toList) :
    Proper { url with host := host } :=
  { proper with
    host := clean
    named := fun isKnown => absurd isKnown unnamed }

theorem noControl_of_fileHost {text : List Char} {found : Host}
    (read : ((Host.ofText text).map fun host =>
      if host = .domain "localhost" then none else some host) = .ok (some found)) :
    NoControl found.text.toList := by
  cases hostRead : Host.ofText text with
  | error problem =>
    rw [hostRead] at read
    cases read
  | ok host =>
    rw [hostRead] at read
    have kept := Except.ok.inj read
    dsimp only at kept
    split at kept
    · cases kept
    · cases kept
      exact Host.noControl_of_ofText hostRead

theorem proper_of_readFile {text : List Char} {url : Url} (read : readFile text = .ok url) :
    url.Proper := by
  have unnamed : SchemeKind.ofScheme "file" ≠ .wellKnown := by decide
  have slash : NoControl "/".toList := by decide
  have proper (path tail : List Char) :
      (withoutHost "file" .file true (filePath path) tail).Proper :=
    proper_withoutHost (noControl_filePath path) unnamed
  unfold readFile at read
  dsimp only at read
  split at read
  · split at read
    · split at read
      · cases read
        exact proper _ _
      · split at read
        · obtain ⟨host, hostRead, given⟩ := bind_ok_iff.mp read
          cases hostRead
          cases given
          exact (proper _ _).withHost unnamed (by simp)
        · obtain ⟨host, hostRead, given⟩ := bind_ok_iff.mp read
          cases given
          refine (proper _ _).withHost unnamed fun found kept => ?_
          split at kept
          · cases kept
          · rw [kept] at hostRead
            exact noControl_of_fileHost hostRead
    · split at read
      · cases read
        exact proper _ _
      · cases read
        exact proper _ _
  · cases read
    exact proper _ _
  · cases read
    exact proper_withoutHost slash unnamed

theorem proper_of_readOther {scheme : String} {text : List Char} {url : Url}
    (other : SchemeKind.ofScheme scheme = .other) (read : readOther scheme text = .ok url) :
    url.Proper := by
  have unnamed : SchemeKind.ofScheme scheme ≠ .wellKnown := by
    rw [other]
    exact nofun
  unfold readOther at read
  dsimp only at read
  split at read
  · rw [← other] at read
    exact proper_of_readAuthority read
  · split at read
    · cases read
      exact proper_withoutHost (noControl_pathAfterSlash _ _) unnamed
    · cases read
      exact proper_withoutHost (noControl_encode (fun _ control => control) _) unnamed

theorem proper_of_ofText {text : String} {url : Url} (read : ofText text = .ok url) :
    url.Proper := by
  unfold ofText at read
  split at read
  · cases read
  · split at read
    · exact proper_of_readFile read
    · next known =>
      rw [← known] at read
      exact proper_of_readAuthority read
    · next other => exact proper_of_readOther other read

end Url
end ServerProbe
