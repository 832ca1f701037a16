import Icap.Proofs.Except
import Icap.Proofs.Url.Escape
import Icap.Proofs.Url.Ipv6
import Icap.Route

/-!
# The host of a route

The host of an `icap` URL may be text of any kind. What a URL does not allow is refused or escaped,
so nothing in the host of a route that has been read from a URL is blank or a control, whatever the
text of the URL holds.

* `Url.isVisible_readOpaque` — hosts that need not be names.
* `Url.hasHost_of_read` — the parts of an `icap` URL that names a host.
* `Route.isVisible_host` — hosts of routes.
-/

namespace Icap

open Text

namespace Url

variable {cs host : List Char}

/-! ## Hosts -/

/-- **A host that need not be a name is visible**, be it an address or text. -/
theorem isVisible_readOpaque (h : Host.readOpaque cs = .ok host) : ∀ c ∈ host, IsVisible c := by
  rw [Host.readOpaque] at h
  split at h
  · rw [Host.readBracketed] at h
    split at h
    · split at h
      · cases h
        exact Ipv6.forall_mem_print isVisible_hexDigit (by decide) (by decide) _
      · cases h
    · cases h
  · split at h
    · cases h
    next allowed =>
      cases h
      refine isVisible_escape fun space => allowed ?_
      exact List.any_eq_true.mpr ⟨' ', space, by decide⟩

/-- The host in an authority, if there is one, is read as one that need not be a name, unless the
scheme is special. -/
theorem exists_readOpaque {authority left : List Char} {atEnd : Bool} {named : Option (List Char)}
    {port : Option Nat} (h : readAuthority false authority atEnd = .ok (named, port, left))
    (named_host : host ∈ named) : ∃ cs, cs ≠ [] ∧ Host.readOpaque cs = .ok host := by
  simp only [readAuthority] at h
  split at h
  · cases h
  · split at h
    · split at h <;> cases h
      cases named_host
    next nonempty =>
      rw [if_neg Bool.false_ne_true] at h
      obtain ⟨host', read, h⟩ := exists_of_bind_eq_ok h
      obtain ⟨port', -, h⟩ := exists_of_bind_eq_ok h
      cases h
      cases named_host
      exact ⟨_, nonempty, read⟩

/-- A URL names a host that need not be a name, and has a path or none. -/
structure HasHost (u : Url) (host : List Char) : Prop where
  host : ∃ cs, cs ≠ [] ∧ Host.readOpaque cs = .ok host
  path : u.path = [] ∨ ∃ cs, u.path = readPath cs

variable {scheme : List Char} {u : Url} {s : String}

theorem scheme_of_readHierarchy (h : readHierarchy scheme cs = .ok u) : u.scheme = scheme := by
  obtain ⟨parts, -, h⟩ := exists_of_bind_eq_ok h
  cases h
  rfl

theorem scheme_of_readFile (h : readFile scheme cs = .ok u) : u.scheme = scheme := by
  simp only [readFile] at h
  split at h
  · split at h
    · cases h
      rfl
    · obtain ⟨host, -, h⟩ := exists_of_bind_eq_ok h
      cases h
      rfl
  · cases h
    rfl

theorem hasHost_of_readHierarchy (special : specialSchemes.contains scheme = false)
    (h : readHierarchy scheme cs = .ok u) (named_host : host ∈ u.host) : HasHost u host := by
  obtain ⟨⟨named, port, left⟩, authority, h⟩ := exists_of_bind_eq_ok h
  cases h
  rw [special] at authority
  refine ⟨exists_readOpaque authority named_host, ?_⟩
  dsimp only
  split
  · exact .inl rfl
  · exact .inr ⟨_, rfl⟩
  · exact .inr ⟨_, rfl⟩

/-- **The host of an `icap` URL** is one that need not be a name. -/
theorem hasHost_of_read (h : Url.read s = .ok u) (icap : u.scheme = "icap".toList)
    (named_host : host ∈ u.host) : HasHost u host := by
  rw [Url.read] at h
  split at h
  · cases h
  next scheme rest _ =>
    split at h
    next special =>
      -- the scheme is none of the special ones
      rw [← scheme_of_readHierarchy h, icap] at special
      cases special
    next special =>
      split at h
      next file =>
        rw [← scheme_of_readFile h, icap] at file
        cases file
      next =>
        split at h
        · exact hasHost_of_readHierarchy (Bool.eq_false_iff.mpr special) h named_host
        · cases h
          cases named_host

end Url

namespace Route

variable {url : String} {r : Route}

theorem mem_of_mem_dropBrackets {c : Char} {cs : List Char} (h : c ∈ dropBrackets cs) : c ∈ cs := by
  rw [dropBrackets, List.mem_reverse] at h
  have h := (List.dropWhile_sublist _).subset h
  rw [List.mem_reverse] at h
  exact (List.dropWhile_sublist _).subset h

/-- A route that has been read is made of the host and the path of a URL. -/
theorem exists_hasHost_of_read (h : Route.read url = .ok r) : ∃ u host port, Url.HasHost u host ∧
    r = make (String.ofList host) port (String.ofList u.path) := by
  rw [Route.read] at h
  split at h
  next u read =>
    rw [ofUrl] at h
    split at h
    next icap =>
      split at h
      next host named_host =>
        cases h
        exact ⟨u, host, _, Url.hasHost_of_read read icap named_host, rfl⟩
      · cases h
    · cases h
  · cases h

/-- **The host of a route that a URL leads to is visible.** -/
theorem isVisible_host (h : Route.read url = .ok r) : ∀ c ∈ r.host.toList, IsVisible c := by
  obtain ⟨u, host, port, hasHost, rfl⟩ := exists_hasHost_of_read h
  obtain ⟨cs, -, allowed⟩ := hasHost.host
  intro c hc
  rw [make, String.toList_ofList, String.toList_ofList] at hc
  exact Url.isVisible_readOpaque allowed c (mem_of_mem_dropBrackets hc)

theorem isVisible_uriHost (h : Route.read url = .ok r) : ∀ c ∈ r.uriHost.toList, IsVisible c := by
  have host := isVisible_host h
  have brackets : (∀ c ∈ "[".toList, IsVisible c) ∧ ∀ c ∈ "]".toList, IsVisible c := by
    simp [IsVisible]
  rw [uriHost]
  split
  · simp only [String.toList_append, List.forall_mem_append]
    exact ⟨⟨brackets.1, host⟩, brackets.2⟩
  · exact host

end Route

end Icap
