import Icap.Proofs.Request.Offsets
import Icap.Proofs.Route.Host

/-!
# The name of a file in its request

The name of a file stands in the HTTP request as it is, but for slashes in front of it. A name is
text of any kind, so it may hold what the request means by: the space between the parts of its first
line, the end of a line, and the empty line that ends a head. The request is what it should be just
for names that hold none of these. The route adds nothing to that, as the host of a route that has
been read from a URL is visible.

* `IsPlainGet` — a request for a file and nothing else.
* `crlfs` — the line ends in bytes.
* `isPlainGet_iff`, `endsWithFirst_iff`, `crlfs_fileRequest` — what each kind of separator does.
* `request_of_respmod` — all of it, for the request in a RESPMOD request.
-/

namespace Icap

open Text
open Icap.Frame (EndsWithFirst)

/-! ## Line ends in bytes -/

/-- The number of line ends in bytes. -/
def crlfs (bs : Bytes) : Nat := (bs.zip bs.tail).count (13, 10)

theorem crlfs_cons_cons (b c : UInt8) (bs : Bytes) :
    crlfs (b :: c :: bs) = (if (b, c) = (13, 10) then 1 else 0) + crlfs (c :: bs) := by
  rw [crlfs, List.tail_cons, List.zip_cons_cons, List.count_cons, Nat.add_comm]
  simp only [beq_iff_eq, crlfs, List.tail_cons]

/-- A seam adds a line end only between a carriage return and a line feed. -/
theorem crlfs_append : ∀ {x y : Bytes}, ¬(x.getLast? = some 13 ∧ y.head? = some 10) →
    crlfs (x ++ y) = crlfs x + crlfs y
  | [], _, _ => by simp [crlfs]
  | [b], [], _ => by simp [crlfs]
  | [b], c :: y, h => by
    have seam : (b, c) ≠ (13, 10) := by simpa using h
    rw [List.singleton_append, crlfs_cons_cons, if_neg seam]
    simp [crlfs]
  | b :: c :: x, y, h => by
    have ih : crlfs (c :: x ++ y) = _ := crlfs_append (by simpa using h)
    rw [List.cons_append, List.cons_append, crlfs_cons_cons, ← List.cons_append, ih,
      crlfs_cons_cons, Nat.add_assoc]

/-- Bytes without a carriage return add no line end to those behind them. -/
theorem crlfs_append_of_not_mem {x : Bytes} (h : 13 ∉ x) (y : Bytes) :
    crlfs (x ++ y) = crlfs y := by
  have none : crlfs x = 0 := by
    rw [crlfs, List.count_eq_zero]
    exact fun mem => h (List.of_mem_zip mem).1
  rw [crlfs_append fun seam => h (List.mem_of_getLast? seam.1), none, Nat.zero_add]

namespace Agent

variable {r : Route} {filename : String} {w : List Char}

/-! ## The first line -/

/-- A name is slashes and what is left without them. -/
theorem exists_slashes (filename : String) :
    ∃ slashes, filename.toList = slashes ++ (Route.dropSlashes filename).toList ∧
      ∀ c ∈ slashes, c = '/' := by
  refine ⟨filename.toList.takeWhile (· == '/'), ?_, fun c hc => ?_⟩
  · rw [Route.dropSlashes, String.toList_ofList, List.takeWhile_append_dropWhile]
  · simpa using List.mem_takeWhile_imp hc

theorem toList_getLine (filename : String) : (getLine filename).toList =
    "GET /".toList ++ ((Route.dropSlashes filename).toList ++ " HTTP/1.1".toList) := by
  rw [getLine, String.toList_append, String.toList_append, List.append_assoc]

/-- A word without a character that the line adds stands in the line if it stands in the name. -/
theorem infix_getLine_iff (hne : w ≠ [])
    (h : ∀ c ∈ w, c ∉ "GET /".toList ∧ c ∉ " HTTP/1.1".toList) :
    w <:+: (getLine filename).toList ↔ w <:+: filename.toList := by
  obtain ⟨slashes, name, all⟩ := exists_slashes filename
  have slash : ∀ c ∈ w, c ∉ slashes := by
    intro c hc mem
    exact (h c hc).1 (all c mem ▸ by decide)
  rw [toList_getLine, infix_append_right hne fun c hc => (h c hc).1,
    infix_append_left hne fun c hc => (h c hc).2, name, infix_append_right hne slash]

theorem lineEnd_infix_getLine_iff :
    lineEnd <:+: (getLine filename).toList ↔ lineEnd <:+: filename.toList :=
  infix_getLine_iff (by decide) (by simp [lineEnd])

theorem emptyLine_infix_getLine_iff :
    lineEnd ++ lineEnd <:+: (getLine filename).toList ↔
      lineEnd ++ lineEnd <:+: filename.toList :=
  infix_getLine_iff (by decide) (by simp [lineEnd])

theorem piecesBy_getLine (filename : String) : piecesBy ' ' (getLine filename).toList =
    "GET".toList :: (piecesBy ' ' ('/' :: (Route.dropSlashes filename).toList) ++
      ["HTTP/1.1".toList]) := by
  have split : (getLine filename).toList = "GET".toList ++ ' ' ::
      ('/' :: (Route.dropSlashes filename).toList ++ ' ' :: "HTTP/1.1".toList) := by
    rw [toList_getLine]
    rfl
  rw [split, piecesBy_append, piecesBy_append,
    piecesBy_of_not_mem (show ' ' ∉ "GET".toList by decide),
    piecesBy_of_not_mem (show ' ' ∉ "HTTP/1.1".toList by decide)]
  rfl

theorem space_mem_dropSlashes_iff :
    ' ' ∈ (Route.dropSlashes filename).toList ↔ ' ' ∈ filename.toList := by
  obtain ⟨slashes, name, all⟩ := exists_slashes filename
  have slash : ' ' ∉ slashes := fun mem => absurd (all ' ' mem) (by decide)
  rw [name, List.mem_append, or_iff_right slash]

/-- **A space in the name parts the line** once more. -/
theorem length_piecesBy_getLine (filename : String) :
    (piecesBy ' ' (getLine filename).toList).length =
      (Route.dropSlashes filename).toList.count ' ' + 3 := by
  rw [piecesBy_getLine, List.length_cons, List.length_append, length_piecesBy,
    List.count_cons_of_ne (by decide)]
  rfl

/-- The line begins and ends with no line end. -/
theorem nil_not_mem_lines_getLine (h : ¬lineEnd ++ lineEnd <:+: (getLine filename).toList) :
    [] ∉ lines (getLine filename).toList := by
  intro mem
  have front : (getLine filename).toList.head? = some 'G' := by
    rw [toList_getLine]
    rfl
  have back : (getLine filename).toList.getLast? = some '1' := by
    rw [toList_getLine, ← List.append_assoc]
    exact List.getLast?_append_of_ne_nil _ (by decide)
  rcases cases_of_nil_mem_lines mem with none | first | last | within
  · rw [none] at front
    cases front
  · obtain ⟨z, hz⟩ := first
    rw [← hz] at front
    simp [lineEnd] at front
  · obtain ⟨z, hz⟩ := last
    rw [← hz] at back
    simp [lineEnd] at back
  · exact h within

/-! ## The second line -/

theorem isVisible_hostLine {url : String} (read : Route.read url = .ok r) :
    ∀ c ∈ (hostLine r).toList, c = ' ' ∨ IsVisible c := by
  have front : ∀ c ∈ "Host: ".toList, c = ' ' ∨ IsVisible c := by simp [IsVisible]
  have colon : ∀ c ∈ ":".toList, c = ' ' ∨ IsVisible c := by simp [IsVisible]
  rw [hostLine]
  simp only [String.toList_append, List.forall_mem_append]
  exact ⟨⟨⟨front, fun c hc => .inr (Route.isVisible_uriHost read c hc)⟩, colon⟩,
    fun c hc => .inr (isVisible_decimal _ c hc)⟩

theorem prefix_hostLine (r : Route) : "Host: ".toList <+: (hostLine r).toList := by
  unfold hostLine
  simp only [String.toList_append, List.append_assoc]
  exact List.prefix_append _ _

theorem hostLine_ne_nil (r : Route) : (hostLine r).toList ≠ [] := by
  intro hnil
  have front := prefix_hostLine r
  rw [hnil] at front
  exact absurd front (by decide)

/-- The line that names the server has no line end in it, and no part of one. -/
theorem not_mem_hostLine {url : String} (read : Route.read url = .ok r) :
    '\r' ∉ (hostLine r).toList := by
  intro mem
  rcases isVisible_hostLine read _ mem with space | visible
  · cases space
  · exact absurd visible (by decide)

/-! ## The request -/

/-- The text of the request for a file. -/
def requestText (r : Route) (filename : String) : List Char :=
  (getLine filename).toList ++ (lineEnd ++ ((hostLine r).toList ++ (lineEnd ++ lineEnd)))

theorem fileRequest_eq_encodeChars (r : Route) (filename : String) :
    fileRequest r filename = Utf8.encodeChars (requestText r filename) := by
  have host : [hostLine r].map String.toList ≠ [] := List.cons_ne_nil _ _
  rw [fileRequest_eq, headBytes, headText, blankLine_eq, ← Utf8.encodeChars_append, List.map_cons,
    joinLines_cons _ host, List.map_singleton, joinLines_singleton, requestText]
  simp only [List.append_assoc]

theorem decodeChars_fileRequest (r : Route) (filename : String) :
    Utf8.decodeChars (fileRequest r filename) = .ok (requestText r filename) := by
  rw [fileRequest_eq_encodeChars, Utf8.decodeChars_encodeChars]

/-- The lines of the request: those of its first line, the one that names the server, and the two
empty ones at the end. -/
theorem lines_requestText (plain : '\r' ∉ (hostLine r).toList) (filename : String) :
    lines (requestText r filename) =
      lines (getLine filename).toList ++ [(hostLine r).toList, [], []] := by
  have line : ¬lineEnd <:+: (hostLine r).toList := fun within =>
    plain (within.subset List.mem_cons_self)
  have two : lines lineEnd = [[], []] := rfl
  rw [requestText, lines_append, lines_append, lines_of_not_infix line, two]
  rfl

/-- A request for one file and nothing else: a text of two lines and the empty line that ends it.
The first one is the method, a target with a slash in front, and the version, each a space from the
next; the second one names the server. -/
def IsPlainGet (request : Bytes) : Prop :=
  ∃ text first second target, Utf8.decodeChars request = .ok text ∧
    lines text = [first, second, [], []] ∧
    piecesBy ' ' first = ["GET".toList, '/' :: target, "HTTP/1.1".toList] ∧
    "Host: ".toList <+: second

variable {url : String}

/-- **The request for a file is plain** just if its name has neither a space nor a line end. -/
theorem isPlainGet_iff (read : Route.read url = .ok r) :
    IsPlainGet (fileRequest r filename) ↔
      ' ' ∉ filename.toList ∧ ¬lineEnd <:+: filename.toList := by
  have all := lines_requestText (not_mem_hostLine read) filename
  rw [← lineEnd_infix_getLine_iff, ← space_mem_dropSlashes_iff]
  constructor
  · rintro ⟨text, first, second, target, decoded, two, three, -⟩
    obtain rfl := Except.ok.inj (decoded.symm.trans (decodeChars_fileRequest r filename))
    rw [all, show [first, second, [], []] = [first] ++ [second, [], []] from rfl] at two
    obtain ⟨one, -⟩ := List.append_inj' two rfl
    obtain ⟨line, rfl⟩ := eq_of_lines_eq_singleton one
    have length := length_piecesBy_getLine filename
    rw [three] at length
    exact ⟨List.count_eq_zero.mp (Nat.add_right_cancel (m := 3) length).symm, line⟩
  · rintro ⟨space, line⟩
    have target : ' ' ∉ '/' :: (Route.dropSlashes filename).toList := by simpa using space
    refine ⟨_, (getLine filename).toList, (hostLine r).toList, (Route.dropSlashes filename).toList,
      decodeChars_fileRequest r filename, ?_, ?_, ?_⟩
    · rw [all, lines_of_not_infix line]
      rfl
    · rw [piecesBy_getLine, piecesBy_of_not_mem target]
      rfl
    · exact prefix_hostLine r

/-- **The request for a file ends where it is meant to** just if its name has no empty line. -/
theorem endsWithFirst_iff (read : Route.read url = .ok r) :
    EndsWithFirst blankLine (fileRequest r filename) ↔
      ¬lineEnd ++ lineEnd <:+: filename.toList := by
  rw [← emptyLine_infix_getLine_iff]
  constructor
  · rintro ⟨-, first⟩ ⟨x, y, within⟩
    -- the empty line in the name ends the request too early
    have split : requestText r filename = (x ++ (lineEnd ++ lineEnd)) ++
        (y ++ (lineEnd ++ ((hostLine r).toList ++ (lineEnd ++ lineEnd)))) := by
      rw [requestText, ← within]
      simp only [List.append_assoc]
    rw [fileRequest_eq_encodeChars, split, Utf8.encodeChars_append] at first
    have early := first (Utf8.encodeChars (x ++ (lineEnd ++ lineEnd))) (List.prefix_append _ _)
      ⟨Utf8.encodeChars x, by rw [blankLine_eq, ← Utf8.encodeChars_append]⟩
    have rest := Utf8.eq_nil_of_encodeChars (List.self_eq_append_right.mp early)
    simp [lineEnd] at rest
  · intro noEmpty
    have all := lines_requestText (not_mem_hostLine read) filename
    have ends : blankLine <:+ fileRequest r filename :=
      ⟨_, (fileRequest_eq r filename).symm⟩
    refine ⟨ends, ?_⟩
    · rintro p ⟨y, hy⟩ ⟨x, rfl⟩
      rw [List.append_assoc, fileRequest_eq_encodeChars, blankLine_eq] at hy
      obtain ⟨a, b, split, rfl, rfl⟩ :=
        Utf8.exists_of_encodeChars_append (by simp [lineEnd]) (by simp [lineEnd]) hy.symm
      rw [split, List.append_assoc, lines_append, lines_lineEnd] at all
      have full : ∀ l ∈ lines (getLine filename).toList ++ [(hostLine r).toList], l ≠ [] := by
        rw [List.forall_mem_append, List.forall_mem_singleton]
        exact ⟨fun l hl hnil => nil_not_mem_lines_getLine noEmpty (hnil ▸ hl), hostLine_ne_nil r⟩
      have last := eq_of_append_two_nil full (lines_ne_nil b) (by simpa using all.symm)
      rw [eq_nil_of_lines last] at hy
      simpa [blankLine_eq, fileRequest_eq_encodeChars] using hy

/-- **A line end in the name is one more in the request.** -/
theorem crlfs_fileRequest (read : Route.read url = .ok r) :
    crlfs (fileRequest r filename) = crlfs (Utf8.encode filename) + 3 := by
  obtain ⟨slashes, name, all⟩ := exists_slashes filename
  have slash : 13 ∉ Utf8.encodeChars slashes := by
    intro mem
    exact absurd (all _ (Utf8.mem_of_mem_encodeChars (by decide) mem)) (by decide)
  have host : 13 ∉ Utf8.encodeChars (hostLine r).toList := by
    intro mem
    exact not_mem_hostLine read (Utf8.mem_of_mem_encodeChars (by decide) mem)
  have split : fileRequest r filename = Utf8.encodeChars "GET /".toList ++
      (Utf8.encodeChars (Route.dropSlashes filename).toList ++
        32 :: (Utf8.encodeChars "HTTP/1.1".toList ++ 13 :: ([10] ++
          (Utf8.encodeChars (hostLine r).toList ++ [13, 10, 13, 10])))) := by
    rw [fileRequest_eq_encodeChars, requestText, toList_getLine]
    simp only [Utf8.encodeChars_append, List.append_assoc]
    rfl
  have version : crlfs (32 :: (Utf8.encodeChars "HTTP/1.1".toList ++ 13 :: ([10] ++
      (Utf8.encodeChars (hostLine r).toList ++ [13, 10, 13, 10])))) = 3 := by
    rw [← List.cons_append, crlfs_append_of_not_mem (by decide), List.singleton_append,
      crlfs_cons_cons, ← List.singleton_append, crlfs_append_of_not_mem (by decide),
      crlfs_append_of_not_mem host]
    decide
  have seam : ∀ y : Bytes, (32 :: y).head? ≠ some 10 := fun y => by simp
  rw [split, crlfs_append_of_not_mem (by decide), crlfs_append fun h => seam _ h.2, version,
    Utf8.encode, name, Utf8.encodeChars_append, crlfs_append_of_not_mem slash]

/-- The request for a file stands behind the head of a RESPMOD request, up to the offset that the
head announces. -/
theorem exists_fileRequest (a : Agent) (r : Route) (filename : String) (payload : Bytes)
    (keepAlive : Bool) :
    ∃ resHdr resBody body,
      (a.respmod r filename payload keepAlive).bytes =
        headBytes (a.frontLines r keepAlive ++ [offsetsLine resHdr resBody]) ++ body ∧
      body.take resHdr = fileRequest r filename :=
  ⟨_, _, _, a.respmod_bytes r filename payload keepAlive, by rw [body, List.take_left]⟩

/-- **What the name of a file does to its request**, on a route that has been read from a URL. Up to
the offset of the response stand a line with the name and a line with the server. This is a plain
request just if the name has neither a space nor a line end; the empty line at its end is the first
one just if the name has none; and beyond its own three line ends it has those of the name. -/
theorem request_of_respmod {url : String} {r : Route} (read : Route.read url = .ok r) (a : Agent)
    (filename : String) (payload : Bytes) (keepAlive : Bool) :
    ∃ resHdr resBody body,
      (a.respmod r filename payload keepAlive).bytes =
        headBytes (a.frontLines r keepAlive ++ [offsetsLine resHdr resBody]) ++ body ∧
      body.take resHdr = headBytes [getLine filename, hostLine r] ∧
      (IsPlainGet (body.take resHdr) ↔ ' ' ∉ filename.toList ∧ ¬lineEnd <:+: filename.toList) ∧
      (EndsWithFirst blankLine (body.take resHdr) ↔ ¬lineEnd ++ lineEnd <:+: filename.toList) ∧
      crlfs (body.take resHdr) = crlfs (Utf8.encode filename) + 3 := by
  obtain ⟨resHdr, resBody, body, bytes, request⟩ :=
    exists_fileRequest a r filename payload keepAlive
  refine ⟨resHdr, resBody, body, bytes, ?_⟩
  rw [request]
  exact ⟨fileRequest_eq r filename, isPlainGet_iff read, endsWithFirst_iff read,
    crlfs_fileRequest read⟩

/-- The URL of a server. -/
def serverUrl : String := "icap://127.0.0.1/avscan"

theorem read_serverUrl : Route.read serverUrl = .ok ⟨"127.0.0.1", 1344, "avscan"⟩ := by
  decide +kernel

theorem request_of_respmod_umlaut :
    Route.read serverUrl = .ok ⟨"127.0.0.1", 1344, "avscan"⟩ ∧
      ∃ resHdr resBody body,
        (respmod { userAgent := "u" } ⟨"127.0.0.1", 1344, "avscan"⟩ "//ä\n" [65] true).bytes =
          headBytes (frontLines { userAgent := "u" } ⟨"127.0.0.1", 1344, "avscan"⟩ true ++
            [offsetsLine resHdr resBody]) ++ body ∧
        body.take resHdr =
          headBytes [getLine "//ä\n", hostLine ⟨"127.0.0.1", 1344, "avscan"⟩] ∧
        (IsPlainGet (body.take resHdr) ↔ ' ' ∉ "//ä\n".toList ∧ ¬lineEnd <:+: "//ä\n".toList) ∧
        (EndsWithFirst blankLine (body.take resHdr) ↔
          ¬lineEnd ++ lineEnd <:+: "//ä\n".toList) ∧
        crlfs (body.take resHdr) = crlfs (Utf8.encode "//ä\n") + 3 :=
  ⟨read_serverUrl, request_of_respmod read_serverUrl { userAgent := "u" } "//ä\n" [65] true⟩

/-- The name of a file with a whole request in it. -/
def twoRequests : String := "a HTTP/1.1\r\nHost: b\r\n\r\nGET /c"

/-- A name that ends its request and begins another one. -/
theorem exists_injected_request :
    ∃ r resHdr resBody body,
      Route.read serverUrl = .ok r ∧
      (respmod { userAgent := "u" } r twoRequests [65] true).bytes =
        headBytes (frontLines { userAgent := "u" } r true ++ [offsetsLine resHdr resBody]) ++
          body ∧
      ¬IsPlainGet (body.take resHdr) ∧ ¬EndsWithFirst blankLine (body.take resHdr) ∧
      crlfs (body.take resHdr) = 6 := by
  obtain ⟨resHdr, resBody, body, bytes, request⟩ := exists_fileRequest { userAgent := "u" }
    ⟨"127.0.0.1", 1344, "avscan"⟩ twoRequests [65] true
  refine ⟨_, resHdr, resBody, body, read_serverUrl, bytes, ?_⟩
  rw [request, isPlainGet_iff read_serverUrl, endsWithFirst_iff read_serverUrl,
    crlfs_fileRequest read_serverUrl]
  decide +kernel

end Agent

end Icap
