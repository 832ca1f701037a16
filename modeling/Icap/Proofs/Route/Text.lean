import Icap.Proofs.Route.Host
import Icap.Proofs.Url.Path

/-!
# Routes, printed and read back

The route of a URL is in a settled form: its host is an address or text without escapes to make, its
service is the rest of a settled path. The text of such a route is a URL again, and the route that
this URL leads to is the same one. So a route that is shown finds the sessions of the route that was
meant.

* `IsSettledHost`, `Route.IsSettled` — settled hosts and routes.
* `Route.isSettled_of_read` — what is read is settled.
* `Url.read_icapText` — a URL whose parts are settled is read back.
* `Route.read_text_of_read` — a route is read back from its text.
-/

namespace Icap

open Text

variable {cs host service : List Char} {port : Nat}

/-! ## Hosts -/

namespace Url

/-- A host as it is once it has been read: an address, or text in which nothing is refused and
nothing escaped. -/
inductive IsSettledHost : List Char → Prop
  | address {ps : Ipv6} : Ipv6.IsAddress ps → IsSettledHost ps.print.toList
  | text {cs : List Char} : cs ≠ [] → (∀ c ∈ cs, IsVisible c ∧ c ∉ Host.forbidden) →
      IsSettledHost cs

/-- **What is read of a host is settled.** -/
theorem isSettledHost_of_readOpaque (nonempty : cs ≠ []) (h : Host.readOpaque cs = .ok host) :
    IsSettledHost host := by
  rw [Host.readOpaque] at h
  split at h
  · rw [Host.readBracketed] at h
    split at h
    · split at h
      next ps read =>
        cases h
        exact .address (Ipv6.isAddress_of_read? read)
      · cases h
    · cases h
  · split at h
    · cases h
    next allowed =>
      cases h
      have plain : ∀ c ∈ cs, c ∉ Host.forbidden := by
        intro c hc forbidden
        exact allowed (List.any_eq_true.mpr ⟨c, hc, List.contains_iff_mem.mpr forbidden⟩)
      refine .text (escape_ne_nil nonempty) ?_
      -- blanks are refused, and what else is not visible is escaped
      refine forall_mem_escape (by decide) (by decide) fun c hc low high _ => ⟨?_, plain c hc⟩
      exact isVisible_of_ne_space low high (by rintro rfl; exact plain ' ' hc (by decide))

namespace IsSettledHost

/-- The characters of a settled host. -/
theorem forall_mem (h : IsSettledHost host) :
    ∀ c ∈ host, IsVisible c ∧ c ∉ ['/', '?', '#', '@', '[', ']'] := by
  have forbidden : ['/', '?', '#', '@', '[', ']'] ⊆ Host.forbidden := by decide
  cases h with
  | address _ => exact Ipv6.forall_mem_print (by decide) (by decide) (by decide) _
  | text _ h => exact fun c hc => ⟨(h c hc).1, fun mem => (h c hc).2 (forbidden mem)⟩

theorem brackets (h : IsSettledHost host) : ∀ c ∈ host, c ≠ '[' ∧ c ≠ ']' := by
  intro c hc
  have noBracket := (h.forall_mem c hc).2
  simp only [List.mem_cons, List.not_mem_nil, or_false, not_or] at noBracket
  exact noBracket.2.2.2.2

end IsSettledHost

/-! ### Hosts shown -/

/-- A URL shows a host in brackets if there is a colon in it. -/
def shownHost (host : List Char) : List Char :=
  if ':' ∈ host then '[' :: (host ++ [']']) else host

theorem shownHost_address {ps : Ipv6} (h : Ipv6.IsAddress ps) :
    shownHost ps.print.toList = '[' :: (ps.print.toList ++ [']']) :=
  if_pos (Ipv6.colon_mem_print h)

theorem shownHost_text (h : ∀ c ∈ cs, IsVisible c ∧ c ∉ Host.forbidden) : shownHost cs = cs :=
  if_neg fun colon => (h ':' colon).2 (by decide)

/-- Characters that are neither brackets nor, outside of brackets, colons belong to the host. -/
theorem hostSpan_append (inside : Bool) (brackets : ∀ c ∈ cs, c ≠ '[' ∧ c ≠ ']')
    (colons : inside = false → ':' ∉ cs) (rest : List Char) :
    hostSpan inside (cs ++ rest) =
      (cs ++ (hostSpan inside rest).1, (hostSpan inside rest).2) := by
  induction cs with
  | nil => rfl
  | cons c cs ih =>
    obtain ⟨⟨notOpen, notClosed⟩, others⟩ := List.forall_mem_cons.mp brackets
    have noColon : ¬(c = ':' ∧ inside = false) := by
      rintro ⟨rfl, outside⟩
      exact colons outside List.mem_cons_self
    rw [List.cons_append, hostSpan, if_neg noColon, if_neg notOpen, if_neg notClosed,
      ih others fun outside mem => colons outside (List.mem_cons_of_mem c mem)]
    rfl

namespace IsSettledHost

/-- **A settled host ends** at the colon behind it. -/
theorem hostSpan_shownHost (h : IsSettledHost host) (rest : List Char) :
    hostSpan false (shownHost host ++ ':' :: rest) = (shownHost host, ':' :: rest) := by
  have brackets := h.brackets
  cases h with
  | @address ps address =>
    have closed : hostSpan true (']' :: ':' :: rest) = ([']'], ':' :: rest) := rfl
    have inside : hostSpan true (ps.print.toList ++ ']' :: ':' :: rest) =
        (ps.print.toList ++ [']'], ':' :: rest) := by
      rw [hostSpan_append true brackets (fun outside => absurd outside (by decide)), closed]
    rw [shownHost_address address, List.cons_append, List.append_assoc, List.singleton_append,
      hostSpan, if_neg (by decide), if_pos rfl, inside]
  | text nonempty plain =>
    have outside : hostSpan false (':' :: rest) = ([], ':' :: rest) := rfl
    rw [shownHost_text plain, hostSpan_append false brackets
      fun _ colon => (plain ':' colon).2 (by decide), outside, List.append_nil]

/-- **A settled host is read back.** -/
theorem readOpaque_shownHost (h : IsSettledHost host) :
    Host.readOpaque (shownHost host) = .ok host := by
  have brackets := h.brackets
  cases h with
  | @address ps address =>
    have last : ('[' :: (ps.print.toList ++ [']'])).getLast? = some ']' := by
      rw [← List.cons_append, List.getLast?_concat]
    have inner : ('[' :: (ps.print.toList ++ [']'])).tail.dropLast = ps.print.toList := by
      rw [List.tail_cons, List.dropLast_concat]
    rw [shownHost_address address, Host.readOpaque, if_pos List.head?_cons, Host.readBracketed,
      if_pos last, inner, Ipv6.read?_print address]
  | text nonempty plain =>
    have noBracket : host.head? ≠ some '[' := fun head =>
      (brackets '[' (List.mem_of_mem_head? head)).1 rfl
    have allowed : ¬host.any (Host.forbidden.contains ·) = true := by
      intro refused
      obtain ⟨c, hc, forbidden⟩ := List.any_eq_true.mp refused
      exact (plain c hc).2 (List.contains_iff_mem.mp forbidden)
    rw [shownHost_text plain, Host.readOpaque, if_neg noBracket, if_neg allowed,
      escape_eq_self fun c hc => ⟨(plain c hc).1, List.not_mem_nil⟩]

/-- The characters of a settled host as a URL shows it. -/
theorem forall_mem_shownHost (h : IsSettledHost host) :
    ∀ c ∈ shownHost host, IsVisible c ∧ c ∉ ['/', '?', '#', '@'] := by
  have inner : ∀ c ∈ host, IsVisible c ∧ c ∉ ['/', '?', '#', '@'] := by
    refine fun c hc => (h.forall_mem c hc).imp_right (mt fun mem => ?_)
    exact List.mem_append_left ['[', ']'] mem
  rw [shownHost]
  split
  · rw [List.forall_mem_cons, List.forall_mem_append]
    exact ⟨by decide, inner, List.forall_mem_singleton.mpr (by decide)⟩
  · exact inner

theorem shownHost_ne_nil (h : IsSettledHost host) : shownHost host ≠ [] := by
  cases h with
  | address address =>
    rw [shownHost_address address]
    exact List.cons_ne_nil _ _
  | text nonempty plain =>
    rw [shownHost_text plain]
    exact nonempty

end IsSettledHost

/-! ## Authorities -/

/-- A host and a port as a URL shows them. -/
def shownAuthority (host : List Char) (port : Nat) : List Char :=
  shownHost host ++ ':' :: (decimal port).toList

theorem forall_mem_shownAuthority (h : IsSettledHost host) (port : Nat) :
    ∀ c ∈ shownAuthority host port, IsVisible c ∧ c ∉ ['/', '?', '#', '@'] := by
  have digits : ∀ d < 10, IsVisible (hexDigit d) ∧ hexDigit d ∉ ['/', '?', '#', '@'] := by decide
  rw [shownAuthority, List.forall_mem_append, List.forall_mem_cons]
  refine ⟨h.forall_mem_shownHost, by decide, fun c hc => ?_⟩
  obtain ⟨d, hd, rfl⟩ := exists_digit_of_mem_decimal hc
  exact digits d hd

theorem credentials_eq_none (h : '@' ∉ cs) : credentials cs = none := by
  rw [credentials, piecesBy_of_not_mem h]
  rfl

theorem readPort_decimal (h : port < 65536) : readPort (decimal port).toList = .ok (some port) := by
  obtain ⟨run, behind⟩ := digitRun_of_digits fun c (hc : c ∈ (decimal port).toList) =>
    isSome_decimal? hc
  simp only [readPort, run, behind, leadingValue_decimal, decimal_ne_nil, if_false]
  rw [if_neg (by omega)]

/-- **A settled host with a port** is read as host and port. -/
theorem readAuthority_of_settled (h : IsSettledHost host) (hport : port < 65536) :
    readAuthority false (shownAuthority host port) false = .ok (some host, some port, []) := by
  have noUser : '@' ∉ shownAuthority host port := fun user =>
    (forall_mem_shownAuthority h port '@' user).2 (by decide)
  have behind : afterDigits decimal? (decimal port).toList = [] :=
    (digitRun_of_digits fun _ => isSome_decimal?).2
  have span : hostSpan false (shownAuthority host port) =
      (shownHost host, ':' :: (decimal port).toList) := h.hostSpan_shownHost _
  simp only [readAuthority, credentials_eq_none noUser, Option.getD_none, Option.isSome_none,
    Bool.false_eq_true, false_and, if_false, span, h.shownHost_ne_nil, h.readOpaque_shownHost,
    List.tail_cons, readPort_decimal hport, behind]
  rfl

/-! ## URLs -/

/-- The text of an `icap` URL with a port. -/
def icapText (host : List Char) (port : Nat) (service : List Char) : List Char :=
  "icap".toList ++ ':' :: '/' :: '/' :: (shownAuthority host port ++ '/' :: service)

/-- A text of which nothing is dropped at either end. -/
theorem dropEnds_eq_self {p : Char → Bool} (h : ∀ c ∈ cs, p c = false) :
    ((cs.dropWhile p).reverse.dropWhile p).reverse = cs := by
  have front {cs : List Char} (h : ∀ c ∈ cs, p c = false) : cs.dropWhile p = cs := by
    cases cs with
    | nil => rfl
    | cons c cs => exact List.dropWhile_cons_of_neg (by simp [h c List.mem_cons_self])
  rw [front h, front fun c hc => h c (List.mem_reverse.mp hc), List.reverse_reverse]

theorem stripped_eq_self (h : ∀ c ∈ cs, IsVisible c) : stripped cs = cs := by
  have inner : ∀ c ∈ cs, decide (c.toNat ≤ 0x20) = false := by
    intro c hc
    have := (h c hc).1
    simp only [decide_eq_false_iff_not]
    omega
  rw [stripped, dropEnds_eq_self inner, List.filter_eq_self]
  -- nor is anything dropped in the middle
  intro c hc
  have visible := h c hc
  have kept : c ≠ '\t' ∧ c ≠ '\n' ∧ c ≠ '\r' := by
    refine ⟨?_, ?_, ?_⟩ <;>
    · rintro rfl
      exact absurd visible (by decide)
  simp [kept]

theorem scheme?_icap (rest : List Char) :
    scheme? ("icap".toList ++ ':' :: rest) = some ("icap".toList, rest) := by
  have letters : ∀ c ∈ "icap".toList, isSchemeChar c = true := List.all_eq_true.mp (by decide)
  have stop : isSchemeChar ':' = false := by decide
  have folded : foldCase "icap".toList = "icap".toList := by decide
  have head : "icap".toList.head? = some 'i' := by decide
  rw [scheme?, List.dropWhile_append_of_pos letters, List.takeWhile_append_of_pos letters,
    List.dropWhile_cons_of_neg (by simp [stop]), List.takeWhile_cons_of_neg (by simp [stop]),
    List.append_nil, List.head?_append, head, Option.some_or, folded]
  exact if_pos (by decide)

/-- A settled authority ends at the slash behind it. -/
theorem authoritySpan_shownAuthority (h : IsSettledHost host) (port : Nat) (rest : List Char) :
    authoritySpan false (shownAuthority host port ++ '/' :: rest) =
      (shownAuthority host port, '/' :: rest) := by
  have inner : ∀ c ∈ shownAuthority host port, (!(c == '/' || c == '?' || c == '#' ||
      (false && c == '\\'))) = true := by
    intro c hc
    have other := (forall_mem_shownAuthority h port c hc).2
    simp only [List.mem_cons, List.not_mem_nil, or_false, not_or] at other
    simp [other]
  rw [authoritySpan, List.span_eq_takeWhile_dropWhile, List.dropWhile_append_of_pos inner,
    List.takeWhile_append_of_pos inner, List.dropWhile_cons_of_neg (by decide),
    List.takeWhile_cons_of_neg (by decide), List.append_nil]

/-- Nothing follows a settled path. -/
theorem span_of_isSettled (h : IsSettled service) :
    ('/' :: service).span (fun c => !endsPath c) = ('/' :: service, []) := by
  have ends : ∀ c, endsPath c = true → c ∈ pathReserved := by
    intro c hc
    rw [endsPath, Bool.or_eq_true, beq_iff_eq, beq_iff_eq] at hc
    rcases hc with rfl | rfl <;> decide
  have inner : ∀ c ∈ '/' :: service, (!endsPath c) = true := by
    refine List.forall_mem_cons.mpr ⟨by decide, fun c hc => ?_⟩
    rw [Bool.not_eq_true', Bool.eq_false_iff]
    exact mt (ends c) (h.plain c hc).2
  rw [List.span_eq_takeWhile_dropWhile, List.takeWhile_eq_self_iff.mpr inner,
    List.dropWhile_eq_nil_iff.mpr inner]

/-- **A URL whose parts are settled** has these parts. -/
theorem read_icapText (h : IsSettledHost host) (hport : port < 65536)
    (hservice : IsSettled service) :
    read (String.ofList (icapText host port service)) =
      .ok ⟨"icap".toList, true, some host, some port, '/' :: service, []⟩ := by
  have visible : ∀ c ∈ icapText host port service, IsVisible c := by
    simp only [icapText, List.forall_mem_append, List.forall_mem_cons]
    have letters : "icap".toList.all (fun c => decide (IsVisible c)) = true := by decide
    refine ⟨fun c hc => of_decide_eq_true (List.all_eq_true.mp letters c hc), by decide, by decide,
      by decide, fun c hc => (forall_mem_shownAuthority h port c hc).1, by decide,
      fun c hc => (hservice.plain c hc).1⟩
  have special : specialSchemes.contains "icap".toList = false := by decide
  rw [read, String.toList_ofList, stripped_eq_self visible, icapText, scheme?_icap]
  dsimp only
  -- the scheme is neither special nor that of files
  rw [if_neg (by decide), if_neg (by decide)]
  show readHierarchy _ _ = _
  simp only [readHierarchy, special, authoritySpan_shownAuthority h, List.isEmpty_cons,
    readAuthority_of_settled h hport, bind, Except.bind, List.nil_append,
    span_of_isSettled hservice, readPath_of_isSettled hservice]
  rfl

end Url

namespace Route

variable {url : String} {r : Route}

/-- A route in settled form. -/
structure IsSettled (r : Route) : Prop where
  host : Url.IsSettledHost r.host.toList
  service : Url.IsSettled r.service.toList
  noSlash : r.service.toList.head? ≠ some '/'

theorem dropBrackets_eq_self (h : ∀ c ∈ cs, c ≠ '[' ∧ c ≠ ']') : dropBrackets cs = cs := by
  refine Url.dropEnds_eq_self fun c hc => ?_
  simp [isBracket, h c hc]

/-- **What is read is settled.** -/
theorem isSettled_of_read (h : Route.read url = .ok r) : r.IsSettled := by
  obtain ⟨u, host, port, hasHost, rfl⟩ := exists_hasHost_of_read h
  obtain ⟨cs, nonempty, read⟩ := hasHost.host
  have settled := Url.isSettledHost_of_readOpaque nonempty read
  refine ⟨?_, ?_, ?_⟩
  · rw [make, String.toList_ofList, String.toList_ofList, dropBrackets_eq_self settled.brackets]
    exact settled
  · rw [make, dropSlashes, String.toList_ofList, String.toList_ofList]
    rcases hasHost.path with none | ⟨cs, path⟩
    · rw [none]
      exact Url.isSettled_nil
    · obtain ⟨rest, text, hrest⟩ := Url.exists_isSettled_readPath cs
      rw [path, text, List.dropWhile_cons_of_pos rfl]
      exact hrest.dropSlashes
  · rw [make, dropSlashes, String.toList_ofList]
    intro slash
    have other := List.head?_dropWhile_not (· == '/') (String.ofList u.path).toList
    rw [slash] at other
    exact absurd other (by decide)

/-- The text of a route is that of a URL with its parts. -/
theorem text_eq_icapText (r : Route) : r.text =
    String.ofList (Url.icapText r.host.toList r.port.toNat r.service.toList) := by
  have shown : r.uriHost.toList = Url.shownHost r.host.toList := by
    rw [uriHost, Url.shownHost]
    by_cases colon : ':' ∈ r.host.toList
    · rw [if_pos colon, if_pos (List.contains_iff_mem.mpr colon)]
      simp
    · rw [if_neg colon, if_neg (mt List.contains_iff_mem.mp colon)]
  have front : "icap://".toList = "icap".toList ++ [':', '/', '/'] := by simp
  have colon : ":".toList = [':'] := by decide
  have slash : "/".toList = ['/'] := by decide
  rw [← String.toList_inj, String.toList_ofList]
  simp only [text, String.toList_append, shown, front, colon, slash, Url.icapText,
    Url.shownAuthority, List.append_assoc, List.cons_append, List.nil_append]

/-- A settled route is read back. -/
theorem IsSettled.read_text (h : r.IsSettled) : Route.read r.text = .ok r := by
  have port : r.port.toNat < 65536 := r.port.toNat_lt
  have front : r.service.toList.dropWhile (· == '/') = r.service.toList := by
    cases split : r.service.toList with
    | nil => rfl
    | cons c cs =>
      refine List.dropWhile_cons_of_neg fun slash => h.noSlash ?_
      rw [split, beq_iff_eq.mp slash]
      rfl
  have service : dropSlashes (String.ofList ('/' :: r.service.toList)) = r.service := by
    rw [dropSlashes, String.toList_ofList, List.dropWhile_cons_of_pos rfl, front,
      String.ofList_toList]
  have whole : make r.host (UInt16.ofNat r.port.toNat)
      (String.ofList ('/' :: r.service.toList)) = r := by
    rw [make, dropBrackets_eq_self h.host.brackets, String.ofList_toList, service,
      UInt16.ofNat_toNat]
  rw [Route.read, text_eq_icapText, Url.read_icapText h.host port h.service]
  dsimp only
  rw [ofUrl, if_pos rfl]
  dsimp only
  rw [String.ofList_toList, Option.elim_some, whole]

/-- **A route is read back from its text.** -/
theorem read_text_of_read (h : Route.read url = .ok r) : Route.read r.text = .ok r :=
  (isSettled_of_read h).read_text

/-- A user name, an address in another spelling, the port zero, dot segments and escapes. -/
theorem read_text_of_mapped_address :
    Route.read "ICAP://u@[0::FFFF:1.2.3.4]:0//a/../b%2f/./é?q" =
        .ok ⟨"::ffff:1.2.3.4", 0, "b%2f/%C3%A9"⟩ ∧
      Route.read (Route.text ⟨"::ffff:1.2.3.4", 0, "b%2f/%C3%A9"⟩) =
        .ok ⟨"::ffff:1.2.3.4", 0, "b%2f/%C3%A9"⟩ := by
  have read : Route.read "ICAP://u@[0::FFFF:1.2.3.4]:0//a/../b%2f/./é?q" =
      .ok ⟨"::ffff:1.2.3.4", 0, "b%2f/%C3%A9"⟩ := by decide +kernel
  exact ⟨read, read_text_of_read read⟩

end Route

end Icap
