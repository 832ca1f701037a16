import Icap.Proofs.Frame.Delimiter
import Icap.Proofs.Head.StatusLine
import Icap.Proofs.Response.Pieces
import Icap.Proofs.Text.Lines
import Icap.Proofs.Text.Utf8

/-!
# The head and what is behind it

A response takes in its head at one stroke, when the empty line that ends it has arrived. What the
head says is settled then; the stages behind it look at the bytes alone, and all that they add to
the verdict is the file that the server sends.

* `HasHead` — the lines of the head that bytes begin with.
* `feed_of_head`, `exists_head_of_feed` — the head is taken in, and what is behind it is fed.
* `failed_of_ne_firstByte` — no verdict comes of bytes that do not begin like a status line.
* `feed_retell` — behind the head, what the head has said does not matter.
* `bytes_of_feed` — a body that is due is there when the response is done, and is not empty.
-/

namespace Icap

/-- Whether a stage has a body before it. -/
def Stage.isBodyDue : Stage → Bool
  | .httpHead _ body => body
  | .chunkSize _ | .payload _ _ => true
  | .head _ | .done _ => false

namespace Response

open Icap.Frame (EndsWithFirst)

variable {v : Vendor} {limit code : Nat} {r r' : Response} {lines : List String} {stage : Stage}
  {a head : Bytes}

/-! ## Taking in a head -/

/-- The lines of the head that bytes begin with: it ends where an empty line stands for the first
time, and without that line it is text. -/
def HasHead (bytes : Bytes) (lines : List String) : Prop :=
  ∃ head rest text, bytes = head ++ rest ∧ EndsWithFirst blankLine head ∧
    Utf8.decodeChars (head.take (head.length - blankLine.length)) = .ok text ∧
    lines = (Text.lines text).map String.ofList

/-- A head is taken in if its status is that of a scan, the vendor's style makes a verdict of it and
its sections can be read. -/
theorem takeHead_eq_ok_iff :
    takeHead v r lines = (r', .ok stage) ↔
      ∃ code verdict, readStatus (lines.headD "") = .ok code ∧ v.judge code lines = .ok verdict ∧
        (code = 200 ∨ code = 201) ∧ readSections lines = .ok stage ∧
        r' = { r with lines, status := some code,
                      verdict := if verdict.disposition.isSome then verdict else r.verdict } := by
  constructor
  · intro h
    simp only [takeHead] at h
    split at h
    · cases h
    next code hcode =>
      split at h
      · cases h
      next verdict hjudge =>
        by_cases hscan : code = 200 ∨ code = 201
        · rw [if_pos hscan] at h
          obtain ⟨hr, hs⟩ := Prod.mk.inj h
          refine ⟨code, verdict, hcode, hjudge, hscan, hs, ?_⟩
          rw [← hr]
          split <;> rfl
        · rw [if_neg hscan] at h
          split at h <;> cases h
  · rintro ⟨code, verdict, hcode, hjudge, hscan, hs, rfl⟩
    simp only [takeHead, hcode, hjudge, if_pos hscan, hs]
    split <;> rfl

/-- The bytes of a head with those behind it. -/
theorem feed_of_head (ends : EndsWithFirst blankLine head)
    (fits : head.length ≤ limit + blankLine.length) {text : List Char}
    (htext : Utf8.decodeChars (head.take (head.length - blankLine.length)) = .ok text)
    (rest : Bytes) :
    (fresh limit).feed v (head ++ rest) = (stepHead v (fresh limit) text rest).settle v := by
  rw [feed_eq]
  simp only [step, fresh, stepFrame, Frame.feed_of_endsWithFirst Frame.isPlain_blankLine ends fits,
    htext]

/-- What a response does with its first bytes: it waits for the end of its head, fails, or takes the
head in. -/
theorem feed_fresh_cases (v : Vendor) (limit : Nat) (a : Bytes) :
    (Frame.feed {} blankLine limit a).outcome = .ok false ∧
        ((fresh limit).feed v a).1.isDone = false ∨
      ((fresh limit).feed v a).1.isDone = true ∧ ((fresh limit).feed v a).1.cause ≠ none ∨
      ∃ lines r stage left, HasHead a lines ∧ takeHead v (fresh limit) lines = (r, .ok stage) ∧
        (fresh limit).feed v a = { r with stage }.feed v left := by
  rw [feed_eq]
  simp only [step, fresh, stepFrame]
  cases ho : (Frame.feed {} blankLine limit a).outcome with
  | error fault => exact .inr (.inl ⟨rfl, Option.some_ne_none _⟩)
  | ok found =>
    cases found with
    | false => exact .inl ⟨rfl, rfl⟩
    | true =>
      obtain ⟨head, rest, rfl, ends, fits⟩ :=
        Frame.exists_endsWithFirst_of_feed Frame.isPlain_blankLine ho
      rw [Frame.feed_of_endsWithFirst Frame.isPlain_blankLine ends fits]
      dsimp only
      cases htext : Utf8.decodeChars (head.take (head.length - blankLine.length)) with
      | error fault => exact .inr (.inl ⟨rfl, Option.some_ne_none _⟩)
      | ok text =>
        simp only [stepHead]
        split
        · exact .inr (.inl ⟨rfl, Option.some_ne_none _⟩)
        next r stage taken =>
          have hasHead : HasHead (head ++ rest) _ := ⟨head, rest, text, rfl, ends, htext, rfl⟩
          exact .inr (.inr ⟨_, r, stage, rest, hasHead, taken, rfl⟩)

/-- A response that is done and has not failed has taken in a head. -/
theorem exists_head_of_feed (done : ((fresh limit).feed v a).1.isDone = true)
    (cause : ((fresh limit).feed v a).1.cause = none) :
    ∃ lines r stage left, HasHead a lines ∧ takeHead v (fresh limit) lines = (r, .ok stage) ∧
      (fresh limit).feed v a = { r with stage }.feed v left := by
  rcases feed_fresh_cases v limit a with ⟨-, waits⟩ | ⟨-, failed⟩ | taken
  · rw [waits] at done
    cases done
  · exact absurd cause failed
  · exact taken

/-- A response that is done without passing its limit has had the end of a head. -/
theorem exists_blankLine_of_feed (done : ((fresh limit).feed v a).1.isDone = true)
    (fits : ((fresh limit).feed v a).1.hitLimit = false) :
    ∃ p, p <+: a ∧ blankLine <:+ p := by
  rw [feed_eq] at done fits
  simp only [step, fresh, stepFrame] at done fits
  cases ho : (Frame.feed {} blankLine limit a).outcome with
  | error fault =>
    cases Frame.feed_fault ho
    rw [ho] at fits
    cases fits
  | ok found =>
    cases found with
    | false =>
      rw [ho] at done
      cases done
    | true =>
      obtain ⟨head, rest, rfl, ends, -⟩ :=
        Frame.exists_endsWithFirst_of_feed Frame.isPlain_blankLine ho
      exact ⟨head, List.prefix_append head rest, ends.1⟩

/-! ### The first byte -/

/-- The first byte of a status line, the capital I of the protocol version. -/
def firstByte : UInt8 := 73

/-- Bytes that begin with another small byte do not begin with a head that has a status. -/
theorem eq_firstByte_of_readStatus {b : UInt8} (hb : b.toNat < 0x80)
    (hasHead : HasHead (b :: a) lines) (status : readStatus (lines.headD "") = .ok code) :
    b = firstByte := by
  obtain ⟨head, rest, text, heq, -, htext, rfl⟩ := hasHead
  have first : (((Text.lines text).map String.ofList).headD "").toList =
      (Text.lines text).headD [] := by
    cases Text.lines text <;> simp
  obtain ⟨more, hline⟩ : ∃ more, (Text.lines text).headD [] =
      StatusLine.icapVersion.toList ++ ' ' :: more := by
    rw [← first]
    simp only [readStatus] at status
    split at status
    next hread => exact StatusLine.eq_append_of_readIcap hread
    · cases status
    · cases status
  cases hw : head.take (head.length - blankLine.length) with
  | nil =>
    rw [hw] at htext
    cases htext
    simp [StatusLine.icapVersion] at hline
  | cons b' w =>
    obtain rfl : b = b' := by
      obtain ⟨z, hz⟩ := List.take_prefix (head.length - blankLine.length) head
      rw [← hz, hw] at heq
      exact (List.cons.inj heq).1
    rw [hw] at htext
    obtain ⟨t, rfl⟩ := Utf8.exists_cons_of_decodeChars hb htext
    rcases Text.head_lines (Char.ofNat b.toNat) t with empty | ⟨p, begins⟩
    · rw [empty] at hline
      simp [StatusLine.icapVersion] at hline
    · rw [begins] at hline
      have version : StatusLine.icapVersion.toList = 'I' :: "CAP/1.0".toList := by decide
      rw [version] at hline
      have small : ∀ n < 0x80, Char.ofNat n = 'I' → n = 73 := by decide
      exact UInt8.toNat_inj.mp (small _ hb (List.cons.inj hline).1)

/-- **Bytes that begin with another small byte come to no verdict.** With the end of a head among
them, they fail. -/
theorem failed_of_ne_firstByte {b : UInt8} (hb : b.toNat < 0x80) (hne : b ≠ firstByte) :
    (((fresh limit).feed v (b :: a)).1.isDone = true →
        ((fresh limit).feed v (b :: a)).1.cause ≠ none) ∧
      ∀ p, p <+: b :: a → blankLine <:+ p → ((fresh limit).feed v (b :: a)).1.isDone = true := by
  rcases feed_fresh_cases v limit (b :: a) with ⟨waits, notDone⟩ | ⟨done, failed⟩ |
    ⟨lines, r, stage, left, hasHead, taken, -⟩
  · constructor
    · rw [notDone]
      intro done
      cases done
    · intro p hp blank
      have found := Frame.found_of_suffix Frame.isPlain_blankLine 0 (Frame.Counts.start blankLine)
        (by decide) hp (by simpa using blank)
      rw [(Frame.feed_of_waiting waits).1] at found
      cases found
  · exact ⟨fun _ => failed, fun _ _ _ => done⟩
  · obtain ⟨code, verdict, status, -⟩ := takeHead_eq_ok_iff.mp taken
    exact absurd (eq_firstByte_of_readStatus hb hasHead status) hne

/-! ## Behind the head -/

/-- The response whose head said something else. -/
def retell (r : Response) (lines : List String) (status : Option Nat) (verdict : Verdict) :
    Response :=
  { r with lines, status, verdict := { verdict with bytes := r.verdict.bytes } }

@[simp] theorem retell_self (r : Response) : r.retell r.lines r.status r.verdict = r := rfl

/-- A step with another response in place of the one that it comes to. -/
def Step.map (f : Response → Response) : Step → Step
  | .wait r left => .wait (f r) left
  | .next r left => .next (f r) left
  | .fail r fault => .fail (f r) fault

variable {told : List String} {status : Option Nat} {verdict : Verdict}

/-- A stage that gathers a frame does not look at what the head said, if its reader does not. -/
theorem stepFrame_retell {f : Frame} {d buf : Bytes} {keep : Frame → Stage}
    (read : Response → List Char → Bytes → Step)
    (hread : ∀ text left, read (r.retell told status verdict) text left =
      (read r text left).map (·.retell told status verdict)) :
    stepFrame (r.retell told status verdict) f d buf keep (read (r.retell told status verdict)) =
      (stepFrame r f d buf keep (read r)).map (·.retell told status verdict) := by
  have limit : (r.retell told status verdict).limit = r.limit := rfl
  simp only [stepFrame, hread, limit]
  split
  · rfl
  · rfl
  · split <;> rfl

/-- Behind the head, a stage does not look at what the head said. -/
theorem step_retell (behind : r.stage.rank < 4) (a : Bytes) :
    step v (r.retell told status verdict) a =
      (step v r a).map (·.retell told status verdict) := by
  have stage : (r.retell told status verdict).stage = r.stage := rfl
  simp only [step, stage]
  cases hs : r.stage with
  | head frame => simp [hs, Stage.rank] at behind
  | httpHead frame body =>
    refine stepFrame_retell (fun r => stepHttpHead r body) fun text left => ?_
    simp only [stepHttpHead]
    split <;> rfl
  | chunkSize frame =>
    refine stepFrame_retell stepChunkSize fun text left => ?_
    simp only [stepChunkSize]
    split <;> rfl
  | payload size got =>
    simp only [stepPayload]
    split
    · rfl
    · split <;> rfl
  | done owed => rfl

/-- **Behind the head, what the head has said does not matter.** -/
theorem feed_retell (behind : r.stage.rank < 4) (a : Bytes) :
    ((r.retell told status verdict).feed v a).1 =
      (r.feed v a).1.retell told status verdict := by
  induction hn : r.stage.rank using Nat.strongRecOn generalizing r a with
  | ind n ih =>
    subst hn
    rw [feed_eq, feed_eq, step_retell behind]
    cases hs : step v r a with
    | wait r' left => rfl
    | next r' left =>
      have later := rank_lt_of_step hs
      exact ih _ later (Nat.lt_trans later behind) left rfl
    | fail r' fault => rfl

/-- Behind the head, all that changes of what is known is the file that the server sends. -/
theorem feed_eq_retell (behind : r.stage.rank < 4) (a : Bytes) :
    (r.feed v a).1 = (r.feed v a).1.retell r.lines r.status r.verdict := by
  have h : ((r.retell r.lines r.status r.verdict).feed v a).1 =
      (r.feed v a).1.retell r.lines r.status r.verdict := feed_retell behind a
  rwa [retell_self] at h

/-! ## The body -/

theorem stepFrame_wait {f : Frame} {d buf left : Bytes} {keep : Frame → Stage}
    {read : List Char → Bytes → Step}
    (hread : ∀ text left r' left', read text left ≠ .wait r' left')
    (h : stepFrame r f d buf keep read = .wait r' left) :
    (f.feed d r.limit buf).outcome = .ok false ∧
      r'.stage = keep (f.feed d r.limit buf).frame := by
  simp only [stepFrame] at h
  split at h
  · cases h
  next outcome =>
    cases h
    exact ⟨outcome, rfl⟩
  · split at h
    · cases h
    · exact absurd h (hread _ _ _ _)

/-- While a stage waits, a body that is due remains due. -/
theorem isBodyDue_of_wait {left : Bytes} (due : r.stage.isBodyDue = true)
    (h : step v r a = .wait r' left) : r'.stage.isBodyDue = true := by
  simp only [step] at h
  cases hs : r.stage with
  | httpHead frame body =>
    rw [hs] at h due
    obtain ⟨-, hstage⟩ := stepFrame_wait ((isReader_httpHead (v := v) r body).ne_wait r) h
    rw [hstage]
    exact due
  | chunkSize frame =>
    rw [hs] at h
    obtain ⟨-, hstage⟩ := stepFrame_wait ((isReader_chunkSize (v := v) r).ne_wait r) h
    rw [hstage]
    rfl
  | payload size got =>
    rw [hs] at h
    simp only [stepPayload] at h
    split at h
    · cases h
    · split at h <;> cases h
      rfl
  | head frame | done owed => simp [hs, Stage.isBodyDue] at due

/-- The stage behind one with a body due has it due as well, or the body is there and the response
is done. -/
theorem isBodyDue_of_next {left : Bytes} (due : r.stage.isBodyDue = true)
    (h : step v r a = .next r' left) :
    r'.stage.isBodyDue = true ∨
      ∃ file owed, file ≠ [] ∧ r'.verdict.bytes = some file ∧ r'.stage = .done owed := by
  simp only [step] at h
  cases hs : r.stage with
  | httpHead frame body =>
    rw [hs] at h due
    obtain ⟨text, rest, hread⟩ := stepFrame_next h
    simp only [stepHttpHead] at hread
    obtain rfl : body = true := due
    split at hread <;> cases hread
    exact .inl rfl
  | chunkSize frame =>
    rw [hs] at h
    obtain ⟨text, rest, hread⟩ := stepFrame_next h
    simp only [stepChunkSize] at hread
    split at hread <;> cases hread
    exact .inl rfl
  | payload size got =>
    rw [hs] at h
    simp only [stepPayload] at h
    split at h
    · cases h
    next hsize =>
      split at h <;> cases h
      next hlen =>
        -- as many bytes as the line in front of the chunk says, which is not none
        refine .inr ⟨_, _, fun hnil => ?_, rfl, rfl⟩
        rw [hnil] at hlen
        exact hsize (Nat.le_zero.mp (Nat.not_lt.mp hlen))
  | head frame | done owed => simp [hs, Stage.isBodyDue] at due

/-- **A body that is due is there when the response is done**, and is not empty. -/
theorem bytes_of_feed (due : r.stage.isBodyDue = true) (a : Bytes)
    (done : (r.feed v a).1.isDone = true) (cause : (r.feed v a).1.cause = none) :
    ∃ file, file ≠ [] ∧ (r.feed v a).1.verdict.bytes = some file := by
  induction hn : r.stage.rank using Nat.strongRecOn generalizing r a with
  | ind n ih =>
    subst hn
    rw [feed_eq] at done cause ⊢
    cases hs : step v r a with
    | wait r' left =>
      rw [hs] at done
      obtain ⟨owed, hstage⟩ := isDone_iff.mp done
      have due' := isBodyDue_of_wait due hs
      rw [show r'.stage = .done owed from hstage] at due'
      cases due'
    | next r' left =>
      rw [hs] at done cause
      rcases isBodyDue_of_next due hs with due' | ⟨file, owed, hne, hfile, hstage⟩
      · exact ih _ (rank_lt_of_step hs) due' left done cause rfl
      · refine ⟨file, hne, ?_⟩
        rw [Step.settle, feed_of_done hstage]
        exact hfile
    | fail r' fault =>
      rw [hs] at cause
      cases cause

end Response

end Icap
