import Icap.Proofs.Request.Offsets
import Icap.Proofs.Response.Answers
import Icap.Settings

/-!
# A request sent back

What stands behind the HTTP request in a RESPMOD request is written as the responses of servers are:
the head of an HTTP response, one chunk, and the end of a body. A server that has nothing to object
may send it back as it is, and in any pieces it is read as the file that was sent.

* `echo` — the response of such a server.
* `isWellFormed_echo` — it is written well, for a file of any content.
* `echo_of_respmod` — what is read of it.
-/

namespace Icap

open Text
open Response (fresh feedAll)

namespace Agent

variable {payload : Bytes}

/-! ## The response -/

/-- The lines of the head that a server puts in front of what it sends back. -/
def echoLines : List String := ["ICAP/1.0 200 OK", "Encapsulated: res-hdr=0, res-body=19"]

/-- The response of a server that sends a file back. -/
def echo (payload : Bytes) : Answer where
  status := "ICAP/1.0 200 OK"
  fields := ["Encapsulated: res-hdr=0, res-body=19"]
  httpLines := some ["HTTP/1.1 200 OK"]
  sizeLine := { digits := (hex payload.length).toList }
  payload

theorem lines_echo (payload : Bytes) : (echo payload).lines = echoLines := rfl

theorem text_sizeLine_echo (payload : Bytes) :
    (echo payload).sizeLine.text = (hex payload.length).toList := by
  simp [echo, SizeLine.text]

/-- The size of a file is written well in front of it. -/
theorem isFor_sizeLine_echo (payload : Bytes) :
    (echo payload).sizeLine.IsFor payload.length where
  spells := spells_hex payload.length
  before := List.forall_mem_nil _
  after := List.forall_mem_nil _
  line := by
    rw [text_sizeLine_echo]
    intro within
    have digit := (spells_hex payload.length).isBlank_eq '\r' (within.subset List.mem_cons_self)
    cases digit

theorem sizeFits_echo (bound : payload.length < word) :
    (Utf8.encodeChars (echo payload).sizeLine.text).length ≤ 64 := by
  have digits := length_hex_le bound
  have bytes := Utf8.length_encodeChars_le (hex payload.length).toList
  rw [text_sizeLine_echo]
  omega

theorem judge_echoLines : Vendor.violations.judge 200 echoLines = .ok Verdict.clean := by
  decide +kernel

/-- **A file that is sent back is a well-formed response**, whatever its content. -/
theorem isWellFormed_echo (nonempty : payload ≠ []) (bound : payload.length < word) :
    (echo payload).IsWellFormed .violations 64 200 where
  status := by
    have read : StatusLine.readIcap "ICAP/1.0 200 OK" = .ok ⟨200, "OK"⟩ := by decide +kernel
    exact ⟨_, read, rfl⟩
  isScan := .inl rfl
  lines := by
    rw [lines_echo]
    decide +kernel
  fits := by
    rw [lines_echo]
    decide +kernel
  accepted := ⟨Verdict.clean, judge_echoLines⟩
  announced := by
    refine ⟨[], ⟨"Encapsulated", "res-hdr=0, res-body=19"⟩, [],
      { resHdr := some 0, resBody := some 19 }, ⟨⟨_, _, rfl, ?_⟩, ?_, by simp⟩, ?_, rfl, rfl⟩
    · decide +kernel
    · decide +kernel
    · decide +kernel
  httpHead := by
    rintro _ ⟨⟩
    refine ⟨⟨_, [], ⟨200, "OK"⟩, rfl, ?_⟩, ?_, ?_⟩
    · decide +kernel
    · decide +kernel
    · decide +kernel
  sizeLine := isFor_sizeLine_echo payload
  sizeFits := sizeFits_echo bound
  payload := ⟨nonempty, bound⟩

/-- What of a request stands behind its HTTP request is what a server sends back. -/
theorem bytes_echo (r : Route) (filename : String) (payload : Bytes) :
    headBytes echoLines ++ (body r filename payload).drop (fileRequest r filename).length =
      (echo payload).bytes ++ Terminator.bytes := by
  have back : (echo payload).bytes = headBytes echoLines ++
      (fileResponse ++ (lineBytes (hex payload.length).toList ++ payload)) := by
    rw [Answer.bytes, lines_echo, text_sizeLine_echo, fileResponse_eq]
    rfl
  rw [body, List.drop_left, back]
  simp [Respmod.trailer]

/-- **A server may send a file back as it stands in the request**, behind a head that announces it,
and in pieces of any size. The response is then done and has not failed, the verdict is that the
file is clean, the file is the one that was sent, and nothing is owed of the end of the body. The
file is one that memory can hold, so that its size is a number of 64 bits. -/
theorem echo_of_respmod (a : Agent) (r : Route) (filename : String) (payload : Bytes)
    (keepAlive : Bool) (nonempty : payload ≠ []) (bound : payload.length < word) :
    ∃ resHdr resBody body,
      (a.respmod r filename payload keepAlive).bytes =
        headBytes (a.frontLines r keepAlive ++ [offsetsLine resHdr resBody]) ++ body ∧
      ∀ pieces : List Bytes,
        pieces.flatten =
          headBytes ["ICAP/1.0 200 OK", "Encapsulated: res-hdr=0, res-body=19"] ++
            body.drop resHdr →
        (feedAll .violations (fresh ({} : Settings).maxHeader) pieces).isDone = true ∧
        (feedAll .violations (fresh ({} : Settings).maxHeader) pieces).cause = none ∧
        (feedAll .violations (fresh ({} : Settings).maxHeader) pieces).takeOutcome.1 =
          .ok { Verdict.clean with bytes := some payload } ∧
        (feedAll .violations (fresh ({} : Settings).maxHeader) pieces).owed = 0 := by
  refine ⟨_, _, _, a.respmod_bytes r filename payload keepAlive, fun pieces flat => ?_⟩
  have room : 64 + blankLine.length ≤ ({} : Settings).maxHeader := by decide
  have decoded := (isWellFormed_echo nonempty bound).feedAll_eq room judge_echoLines
    (List.prefix_refl _) (flat.trans (bytes_echo r filename payload))
  rw [decoded]
  exact ⟨rfl, rfl, rfl, rfl⟩

/-- A file whose bytes look like the end of a body. -/
theorem echo_of_respmod_terminator :
    Terminator.bytes ≠ [] ∧ Terminator.bytes.length < word ∧
      ∃ resHdr resBody body,
        (Agent.respmod { userAgent := "u" } ⟨"h", 1, "s"⟩ "/a b" Terminator.bytes true).bytes =
          headBytes (frontLines { userAgent := "u" } ⟨"h", 1, "s"⟩ true ++
            [offsetsLine resHdr resBody]) ++ body ∧
        ∀ pieces : List Bytes,
          pieces.flatten =
            headBytes ["ICAP/1.0 200 OK", "Encapsulated: res-hdr=0, res-body=19"] ++
              body.drop resHdr →
          (feedAll .violations (fresh ({} : Settings).maxHeader) pieces).isDone = true ∧
          (feedAll .violations (fresh ({} : Settings).maxHeader) pieces).cause = none ∧
          (feedAll .violations (fresh ({} : Settings).maxHeader) pieces).takeOutcome.1 =
            .ok { Verdict.clean with bytes := some Terminator.bytes } ∧
          (feedAll .violations (fresh ({} : Settings).maxHeader) pieces).owed = 0 := by
  have nonempty : Terminator.bytes ≠ [] := by decide
  have bound : Terminator.bytes.length < word := by decide
  exact ⟨nonempty, bound,
    echo_of_respmod { userAgent := "u" } ⟨"h", 1, "s"⟩ "/a b" Terminator.bytes true nonempty bound⟩

end Agent

end Icap
