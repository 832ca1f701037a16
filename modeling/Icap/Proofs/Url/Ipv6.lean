import Icap.Proofs.Text.Cuts
import Icap.Proofs.Text.Printed
import Icap.Url.Ipv6

/-!
# IPv6 addresses, printed and read back

Whatever is read as an address has eight pieces of sixteen bits, and the text that is printed for
eight such pieces is read as them again. It may say `::` for the longest run of zeros, or end with a
dotted quadruple, but nothing in it is left open.

* `IsAddress` — eight pieces of sixteen bits.
* `isAddress_of_read?` — what is read is an address.
* `readFrom_printPieces` — pieces with colons between them are read back.
* `isRun_longestZeros` — where `::` stands, the pieces are zero.
* `read?_print` — an address is read back.
-/

namespace Icap

open Text

namespace Ipv6

variable {a b n : Nat} {c : Char} {digits rest cs : List Char} {r r' : Reading}
  {ps qs done : List Nat} {gap : Option Nat}  {run : Nat × Nat}

/-- The pieces of an address: eight, of sixteen bits each. -/
def IsAddress (ps : List Nat) : Prop := ps.length = 8 ∧ ∀ p ∈ ps, p < 65536

/-! ## What is read -/

/-- What has been read of an address may become one. -/
structure Reading.IsSound (r : Reading) : Prop where
  length_le : r.pieces.length ≤ 8
  piece_lt : ∀ p ∈ r.pieces, p < 65536
  gap_le : ∀ g ∈ r.gap, g ≤ r.pieces.length

theorem hex?_lt (h : hex? c = some n) : n < 16 := by
  rw [hex?] at h
  split at h
  next range =>
    obtain ⟨low, high⟩ : 48 ≤ c.toNat ∧ c.toNat ≤ 57 := range
    cases h
    omega
  split at h
  next range =>
    obtain ⟨low, high⟩ : 97 ≤ c.toNat ∧ c.toNat ≤ 102 := range
    cases h
    omega
  split at h
  next range =>
    obtain ⟨low, high⟩ : 65 ≤ c.toNat ∧ c.toNat ≤ 70 := range
    cases h
    omega
  · cases h

/-- Four hexadecimal digits at most make a piece. -/
theorem leadingValue_lt (short : cs.length ≤ 4) : leadingValue 16 hex? cs < 65536 := by
  have digits : ∀ d ∈ (digitRun hex? cs).filterMap hex?, d < 16 := by
    intro d hd
    obtain ⟨c, -, hc⟩ := List.mem_filterMap.mp hd
    exact hex?_lt hc
  have shorter : ((digitRun hex? cs).filterMap hex?).length ≤ 4 :=
    Nat.le_trans (List.length_filterMap_le _ _)
      (Nat.le_trans (List.takeWhile_sublist _).length_le short)
  calc leadingValue 16 hex? cs
      < 16 ^ ((digitRun hex? cs).filterMap hex?).length := valueOf_lt digits
    _ ≤ 16 ^ 4 := Nat.pow_le_pow_right (by decide) shorter

theorem octet?_lt (h : octet? cs = some n) : n < 256 := by
  rw [octet?] at h
  split at h
  · cases h
  · exact (wholeDecimal?_eq_some_iff.mp h).2

theorem quadruple?_lt (h : quadruple? cs = some (a, b)) : a < 65536 ∧ b < 65536 := by
  simp only [quadruple?] at h
  split at h
  next w x y z parts =>
    obtain ⟨rfl, rfl⟩ := Prod.mk.inj (Option.some.inj h)
    have octet (n : Nat) (hn : some n ∈ (piecesBy '.' cs).map octet?) : n < 256 := by
      obtain ⟨part, -, hpart⟩ := List.mem_map.mp hn
      exact octet?_lt hpart
    rw [parts] at octet
    have := octet w (by simp)
    have := octet x (by simp)
    have := octet y (by simp)
    have := octet z (by simp)
    omega
  · cases h

theorem Reading.IsSound.push (h : r.IsSound) (room : r.pieces.length ≠ 8) (hn : n < 65536) :
    Reading.IsSound ⟨n :: r.pieces, r.gap⟩ where
  length_le := by
    have := h.length_le
    rw [List.length_cons]
    omega
  piece_lt := List.forall_mem_cons.mpr ⟨hn, h.piece_lt⟩
  gap_le g hg := Nat.le_succ_of_le (h.gap_le g hg)

/-- What has been read stays sound as more is read. -/
theorem isSound_of_readFrom (h : r.IsSound) (read : readFrom r cs = some r') : r'.IsSound := by
  have piece (cs : List Char) : leadingValue 16 hex? (digitRun hex? (cs.take 4)) < 65536 :=
    leadingValue_lt (Nat.le_trans (List.takeWhile_sublist _).length_le (List.length_take_le 4 cs))
  fun_induction readFrom r cs with
  | case1 r =>
    cases read
    exact h
  | case4 r cs room _ ih =>
    -- the gap begins behind the pieces that have been read
    refine ih ⟨(h.push room (by decide)).length_le, (h.push room (by decide)).piece_lt, ?_⟩ read
    rintro g ⟨⟩
    exact Nat.le_refl _
  | case5 r c cs room _ _ _ =>
    cases read
    exact h.push room (piece _)
  | case7 r c cs room _ _ _ _ few =>
    obtain ⟨⟨a, b⟩, quadruple, rfl⟩ := Option.map_eq_some_iff.mp read
    obtain ⟨ha, hb⟩ := quadruple?_lt quadruple
    have room' : (a :: r.pieces).length ≠ 8 := by
      rw [List.length_cons]
      omega
    exact (h.push room ha).push room' hb
  | case9 r c cs room _ _ _ _ _ _ ih => exact ih (h.push room (piece _)) read
  | case2 | case3 | case6 | case8 | case10 => cases read

theorem isAddress_of_finish? (h : r.IsSound) (finish : r.finish? = some ps) : IsAddress ps := by
  have length := h.length_le
  have small : ∀ p ∈ r.pieces.reverse, p < 65536 :=
    fun p hp => h.piece_lt p (List.mem_reverse.mp hp)
  simp only [Reading.finish?] at finish
  split at finish
  next g hg =>
    have gap := h.gap_le g hg
    cases finish
    refine ⟨?_, fun p hp => ?_⟩
    · simp only [List.length_append, List.length_take, List.length_replicate, List.length_drop,
        List.length_reverse]
      omega
    · simp only [List.mem_append, List.mem_replicate] at hp
      rcases hp with (hp | ⟨-, rfl⟩) | hp
      · exact small p (List.mem_of_mem_take hp)
      · decide
      · exact small p (List.mem_of_mem_drop hp)
  · split at finish
    next eight =>
      cases finish
      exact ⟨eight, small⟩
    · cases finish

/-- **What is read is an address.** -/
theorem isAddress_of_read? (h : read? cs = some ps) : IsAddress ps := by
  have start : Reading.IsSound ⟨[], none⟩ := ⟨by decide, by simp, by simp⟩
  have gap : Reading.IsSound ⟨[0], some 1⟩ := ⟨by decide, by simp, by simp⟩
  have finish {r : Reading} {cs : List Char} (sound : r.IsSound)
      (h : (readFrom r cs).bind Reading.finish? = some ps) : IsAddress ps := by
    obtain ⟨r', read, finished⟩ := Option.bind_eq_some_iff.mp h
    exact isAddress_of_finish? (isSound_of_readFrom sound read) finished
  rw [read?.eq_def] at h
  split at h
  · exact finish gap h
  · cases h
  · split at h
    · cases h
    · exact finish start h

/-! ## Pieces with colons between them -/

theorem digitRun_take (spells : Spells digits n) (short : digits.length ≤ 4)
    (stops : ∀ c ∈ rest.head?, hex? c = none) :
    digitRun hex? ((digits ++ rest).take 4) = digits := by
  have stops' : ∀ c ∈ (rest.take (4 - digits.length)).head?, hex? c = none := by
    intro c hc
    rw [List.head?_take] at hc
    split at hc
    · cases hc
    · exact stops c hc
  rw [List.take_append, List.take_of_length_le short]
  exact (spells.leadingValue_eq stops').1

/-- What is read of a text that begins with the digits of a number, by what is behind them. -/
def readBehind (r : Reading) (n : Nat) (text : List Char) : List Char → Option Reading
  | [] => some ⟨n :: r.pieces, r.gap⟩
  | '.' :: _ =>
    if 6 < r.pieces.length then none
    else (quadruple? text).map fun (a, b) => ⟨b :: a :: r.pieces, r.gap⟩
  | [':'] => none
  | ':' :: rest => readFrom ⟨n :: r.pieces, r.gap⟩ rest
  | _ => none

/-- **A number with digits enough for a piece is read**, whatever is behind it. -/
theorem readFrom_digits (spells : Spells digits n) (short : digits.length ≤ 4)
    (stops : ∀ c ∈ rest.head?, hex? c = none) (room : r.pieces.length ≠ 8) :
    readFrom r (digits ++ rest) = readBehind r n (digits ++ rest) rest := by
  have run := digitRun_take spells short stops
  have value : leadingValue 16 hex? (digits ++ []) = n := (spells.leadingValue_eq (by simp)).2.2
  rw [List.append_nil] at value
  have behind : (digits ++ rest).drop digits.length = rest := List.drop_left
  obtain ⟨c, ds, split⟩ := List.exists_cons_of_ne_nil spells.ne_nil
  have noColon : c ≠ ':' := by
    rintro rfl
    have digit := spells.isSome_hex? ':' (by simp [split])
    exact absurd digit (by decide)
  have text : digits ++ rest = c :: (ds ++ rest) := by rw [split, List.cons_append]
  rw [text] at run behind ⊢
  rw [readFrom, if_neg room, if_neg noColon]
  simp only [run, value, spells.ne_nil, false_or]
  -- from here on it is the character behind the digits that counts
  split
  next nothing =>
    rw [run, behind] at nothing
    rw [nothing, readBehind]
  next point =>
    rw [run, behind] at point
    rw [point, readBehind]
  next colon =>
    rw [run, behind] at colon
    rw [colon, readBehind]
  next more colon =>
    rw [run, behind] at colon
    rw [colon, readBehind]
    exact more
  next noText noPoint noEnd noColon =>
    simp only [run, behind] at noText noPoint noEnd noColon
    rw [readBehind] <;> assumption

theorem length_hex_le_four (h : n < 65536) : (hex n).toList.length ≤ 4 := by
  rw [hex, String.toList_ofList]
  exact length_digitsOnto_le (by decide) (k := 3) [] h

theorem readFrom_hex_end (hn : n < 65536) (room : done.length ≠ 8) :
    readFrom ⟨done, gap⟩ (hex n).toList = some ⟨n :: done, gap⟩ := by
  rw [← List.append_nil (hex n).toList, readFrom_digits (spells_hex n) (length_hex_le_four hn)
    (by simp) room, readBehind]

theorem readFrom_hex_colon (hn : n < 65536) (room : done.length ≠ 8) (hcs : cs ≠ []) :
    readFrom ⟨done, gap⟩ ((hex n).toList ++ ':' :: cs) = readFrom ⟨n :: done, gap⟩ cs := by
  have stops : ∀ c ∈ (':' :: cs).head?, hex? c = none := by
    rintro c ⟨⟩
    decide
  rw [readFrom_digits (spells_hex n) (length_hex_le_four hn) stops room, readBehind]
  exact hcs

/-! ### Lists of pieces -/

theorem toList_printPieces_cons (n : Nat) (hps : ps ≠ []) :
    (printPieces (n :: ps)).toList = (hex n).toList ++ ':' :: (printPieces ps).toList := by
  obtain ⟨m, ps, rfl⟩ := List.exists_cons_of_ne_nil hps
  simp only [printPieces, List.map_cons, String.toList_intercalate, List.intercalate_cons_cons,
    List.append_assoc]
  rfl

theorem printPieces_singleton (n : Nat) : (printPieces [n]).toList = (hex n).toList := by
  simp [printPieces]

theorem toList_printPieces_ne_nil (hps : ps ≠ []) : (printPieces ps).toList ≠ [] := by
  obtain ⟨n, ps, rfl⟩ := List.exists_cons_of_ne_nil hps
  by_cases alone : ps = []
  · rw [alone, printPieces_singleton]
    exact (spells_hex n).ne_nil
  · rw [toList_printPieces_cons n alone]
    simp

/-- **Pieces with colons between them are read back.** -/
theorem readFrom_printPieces (small : ∀ p ∈ ps, p < 65536) (room : done.length + ps.length ≤ 8) :
    readFrom ⟨done, gap⟩ (printPieces ps).toList = some ⟨ps.reverse ++ done, gap⟩ := by
  induction ps generalizing done with
  | nil =>
    rw [show (printPieces []).toList = [] from rfl, readFrom]
    rfl
  | cons n ps ih =>
    obtain ⟨hn, small⟩ := List.forall_mem_cons.mp small
    rw [List.length_cons] at room
    by_cases alone : ps = []
    · rw [alone, printPieces_singleton, readFrom_hex_end hn (by omega)]
      rfl
    · rw [toList_printPieces_cons n alone,
        readFrom_hex_colon hn (by omega) (toList_printPieces_ne_nil alone),
        ih small (by rw [List.length_cons]; omega), List.reverse_cons, List.append_assoc]
      rfl

/-- Pieces in front of the first `::`. -/
theorem readFrom_printPieces_gap (hps : ps ≠ []) (small : ∀ p ∈ ps, p < 65536)
    (room : done.length + ps.length < 8) (cs : List Char) :
    readFrom ⟨done, none⟩ ((printPieces ps).toList ++ ':' :: ':' :: cs) =
      readFrom ⟨0 :: (ps.reverse ++ done), some (done.length + ps.length + 1)⟩ cs := by
  induction ps generalizing done with
  | nil => exact absurd rfl hps
  | cons n ps ih =>
    obtain ⟨hn, small⟩ := List.forall_mem_cons.mp small
    rw [List.length_cons] at room
    by_cases alone : ps = []
    · rw [alone, printPieces_singleton, readFrom_hex_colon hn (by omega) (List.cons_ne_nil _ _),
        readFrom, if_neg (by rw [List.length_cons]; omega), if_pos rfl]
      rfl
    · rw [toList_printPieces_cons n alone, List.append_assoc, List.cons_append,
        readFrom_hex_colon hn (by omega) (by simp),
        ih alone small (by rw [List.length_cons]; omega)]
      simp only [List.length_cons, List.reverse_cons, List.append_assoc, List.singleton_append]
      congr 3
      omega

/-! ## Zeros left out -/

/-- At the start of a run of this length, the pieces are zero. -/
def IsRun (ps : List Nat) (run : Nat × Nat) : Prop :=
  ∃ before after, ps = before ++ List.replicate run.2 0 ++ after ∧ before.length = run.1

theorem IsRun.append (h : IsRun ps run) (qs : List Nat) : IsRun (ps ++ qs) run := by
  obtain ⟨before, after, rfl, length⟩ := h
  exact ⟨before, after ++ qs, by simp, length⟩

/-- The search for the longest run of zeros goes from run to run. -/
theorem isRun_longestZeros_of_isRun {best : Nat × Nat} {index zeros : Nat} (hbest : IsRun qs best)
    (hindex : qs.length = index) (hzeros : ∃ before, qs = before ++ List.replicate zeros 0)
    (ps : List Nat) : IsRun (qs ++ ps) (longestZeros index zeros best ps) := by
  induction ps generalizing qs best index zeros with
  | nil => simpa [longestZeros] using hbest
  | cons p ps ih =>
    obtain ⟨before, split⟩ := hzeros
    have length := congrArg List.length split
    rw [List.length_append, List.length_replicate] at length
    have shift : qs ++ p :: ps = qs ++ [p] ++ ps := by simp
    rw [shift, longestZeros]
    -- the zeros that have been counted are the last of the pieces that have been seen
    split
    next zero =>
      have longer : qs ++ [p] = before ++ List.replicate (zeros + 1) 0 := by
        rw [split, zero, List.append_assoc, List.replicate_succ']
      refine ih ?_ (by rw [List.length_append, hindex]; rfl) ⟨before, longer⟩
      split
      · exact ⟨before, [], by rw [longer, List.append_nil], by omega⟩
      · exact hbest.append [p]
    · exact ih (hbest.append [p]) (by rw [List.length_append, hindex]; rfl) ⟨qs ++ [p], by simp⟩

/-- **Where the printer leaves pieces out**, they are zero. -/
theorem isRun_longestZeros (ps : List Nat) : IsRun ps (longestZeros 0 0 (0, 0) ps) := by
  have start : IsRun [] (0, 0) := ⟨[], [], rfl, rfl⟩
  simpa using isRun_longestZeros_of_isRun start rfl ⟨[], rfl⟩ ps

/-! ## Addresses -/

/-- The missing pieces are zeros. -/
theorem finish?_gap (room : ps.length + qs.length < 8) :
    Reading.finish? ⟨qs.reverse ++ 0 :: ps.reverse, some (ps.length + 1)⟩ =
      some (ps ++ List.replicate (8 - (ps.length + qs.length)) 0 ++ qs) := by
  have pieces : (qs.reverse ++ 0 :: ps.reverse).reverse = ps ++ [0] ++ qs := by simp
  have front : (ps ++ [0]).length = ps.length + 1 := by simp
  have missing : 8 - (ps.length + qs.length) = 8 - (ps ++ [0] ++ qs).length + 1 := by
    rw [List.length_append, front]
    omega
  rw [Reading.finish?, pieces]
  dsimp only
  rw [← front, List.take_left, List.drop_left, missing, List.replicate_succ]
  simp only [List.append_assoc, List.singleton_append]

theorem head?_printPieces (hps : ps ≠ []) :
    ∃ c cs, (printPieces ps).toList = c :: cs ∧ c ≠ ':' := by
  obtain ⟨n, ps, rfl⟩ := List.exists_cons_of_ne_nil hps
  obtain ⟨c, cs, digits⟩ := List.exists_cons_of_ne_nil (spells_hex n).ne_nil
  have noColon : c ≠ ':' := by
    rintro rfl
    have digit := (spells_hex n).isSome_hex? ':' (by simp [digits])
    exact absurd digit (by decide)
  by_cases alone : ps = []
  · rw [alone, printPieces_singleton]
    exact ⟨c, cs, digits, noColon⟩
  · rw [toList_printPieces_cons n alone, digits]
    exact ⟨c, _, rfl, noColon⟩

/-- A text that does not begin with a colon is read from its start. -/
theorem read?_of_head (hc : c ≠ ':') (hcs : cs ≠ []) :
    read? (c :: cs) = (readFrom ⟨[], none⟩ (c :: cs)).bind Reading.finish? := by
  have long := List.length_pos_iff.mpr hcs
  rw [read?.eq_def]
  split
  next colon => exact absurd (List.cons.inj colon).1 hc
  next colon => exact absurd (List.cons.inj colon).1 hc
  · rw [if_neg (by rw [List.length_cons]; omega)]

/-- **Pieces around `::` are read back**, with zeros in the middle. -/
theorem read?_printPieces_gap (hps : ∀ p ∈ ps, p < 65536) (hqs : ∀ p ∈ qs, p < 65536)
    (room : ps.length + qs.length < 8) :
    read? ((printPieces ps).toList ++ ':' :: ':' :: (printPieces qs).toList) =
      some (ps ++ List.replicate (8 - (ps.length + qs.length)) 0 ++ qs) := by
  have finish := finish?_gap room
  have behind : readFrom ⟨0 :: ps.reverse, some (ps.length + 1)⟩ (printPieces qs).toList =
      some ⟨qs.reverse ++ 0 :: ps.reverse, some (ps.length + 1)⟩ :=
    readFrom_printPieces hqs (by rw [List.length_cons, List.length_reverse]; omega)
  by_cases front : ps = []
  · subst front
    rw [show (printPieces []).toList = [] from rfl, List.nil_append, read?]
    exact (congrArg (Option.bind · Reading.finish?) behind).trans finish
  · obtain ⟨c, cs, text, noColon⟩ := head?_printPieces front
    have start := readFrom_printPieces_gap front hps
      (by rw [List.length_nil]; omega : ([] : List Nat).length + ps.length < 8)
      (printPieces qs).toList
    rw [List.append_nil, List.length_nil, Nat.zero_add, behind] at start
    rw [text, List.cons_append] at start ⊢
    rw [read?_of_head noColon (by simp), start]
    exact finish

/-- **Eight pieces are read back** with a colon between each two of them. -/
theorem read?_printPieces (h : IsAddress ps) : read? (printPieces ps).toList = some ps := by
  obtain ⟨eight, small⟩ := h
  have read : readFrom ⟨[], none⟩ (printPieces ps).toList = some ⟨ps.reverse ++ [], none⟩ :=
    readFrom_printPieces small (by rw [eight]; decide)
  obtain ⟨n, m, more, rfl⟩ : ∃ n m more, ps = n :: m :: more := by
    match ps, eight with
    | n :: m :: more, _ => exact ⟨n, m, more, rfl⟩
  obtain ⟨c, cs, text, noColon⟩ := head?_printPieces (List.cons_ne_nil n (m :: more))
  have long : cs ≠ [] := by
    rintro rfl
    have := congrArg List.length text
    have := List.length_pos_iff.mpr (spells_hex n).ne_nil
    rw [toList_printPieces_cons n (by simp)] at *
    simp at *
    omega
  rw [text] at read ⊢
  rw [read?_of_head noColon long, read, List.append_nil]
  simp only [Option.bind_some, Reading.finish?, List.reverse_reverse, if_pos eight]

/-! ### Quadruples -/

theorem octet?_decimal (h : n < 256) : octet? (decimal n).toList = some n := by
  have shortest : ¬((decimal n).toList.head? = some '0' ∧ (decimal n).toList ≠ ['0']) := by
    rintro ⟨zero, other⟩
    obtain ⟨ds, nonempty, numeral, printed⟩ := exists_digits_decimal n
    obtain ⟨d, more, rfl⟩ := List.exists_cons_of_ne_nil nonempty
    have digit : ∀ d < 10, hexDigit d = '0' → d = 0 := by decide
    rw [printed] at zero other
    have hd := digit d (numeral.digit_lt d List.mem_cons_self) (by simpa using zero)
    obtain rfl := numeral.shortest d more rfl hd
    subst hd
    exact other rfl
  rw [octet?, if_neg shortest, wholeDecimal?_decimal h]

theorem toList_printQuadruple (a b : Nat) : (printQuadruple a b).toList =
    (decimal (a / 256)).toList ++ '.' :: ((decimal (a % 256)).toList ++ '.' ::
      ((decimal (b / 256)).toList ++ '.' :: (decimal (b % 256)).toList)) := by
  simp only [printQuadruple, List.map_cons, List.map_nil, String.toList_intercalate]
  simp [List.intercalate_cons_cons]

theorem quadruple?_printQuadruple (ha : a < 65536) (hb : b < 65536) :
    quadruple? (printQuadruple a b).toList = some (a, b) := by
  have noPoint (n : Nat) : '.' ∉ (decimal n).toList := fun h => by
    have := isSome_decimal? h
    exact absurd this (by decide)
  have octet {n : Nat} (hn : n < 256) := octet?_decimal hn
  rw [quadruple?, toList_printQuadruple]
  simp only [piecesBy_append, piecesBy_of_not_mem (noPoint _), List.singleton_append, List.map_cons,
    List.map_nil, octet (show a / 256 < 256 by omega), octet (show a % 256 < 256 by omega),
    octet (show b / 256 < 256 by omega), octet (show b % 256 < 256 by omega)]
  rw [Nat.div_add_mod', Nat.div_add_mod']

/-- The digits of a number of one byte are taken for those of a piece at first. -/
theorem spells_decimal (h : n < 256) :
    (∃ m, Spells (decimal n).toList m) ∧ (decimal n).toList.length ≤ 4 := by
  constructor
  · obtain ⟨ds, nonempty, numeral, printed⟩ := exists_digits_decimal n
    rw [printed]
    have isDigit := fun d hd => Nat.lt_trans (numeral.digit_lt d hd) (by decide : 10 < 16)
    exact ⟨_, spells_of_digits nonempty isDigit⟩
  · rw [decimal, String.toList_ofList]
    exact length_digitsOnto_le (by decide) (k := 3) [] (by omega)

theorem readFrom_printQuadruple (ha : a < 65536) (hb : b < 65536) (room : done.length ≤ 6) :
    readFrom ⟨done, gap⟩ (printQuadruple a b).toList = some ⟨b :: a :: done, gap⟩ := by
  obtain ⟨⟨m, spells⟩, short⟩ := spells_decimal (show a / 256 < 256 by omega)
  have stops (cs : List Char) : ∀ c ∈ ('.' :: cs).head?, hex? c = none := by
    rintro c ⟨⟩
    decide
  have quadruple := quadruple?_printQuadruple ha hb
  rw [toList_printQuadruple] at quadruple ⊢
  rw [readFrom_digits spells short (stops _) (by dsimp only; omega), readBehind, quadruple,
    if_neg (by dsimp only; omega)]
  rfl

/-- **An address is read back** from what is printed for it. -/
theorem read?_print (h : IsAddress ps) : read? (print ps).toList = some ps := by
  obtain ⟨eight, small⟩ := h
  unfold print
  split
  next a b =>
    -- an address of four bytes, with the mark of such addresses in front
    have quadruple : readFrom ⟨[0xFFFF, 0], some 1⟩ (printQuadruple a b).toList =
        some ⟨[b, a, 0xFFFF, 0], some 1⟩ :=
      readFrom_printQuadruple (small a (by simp)) (small b (by simp)) (by decide)
    have nonempty : (printQuadruple a b).toList ≠ [] := by
      rw [toList_printQuadruple]
      simp
    have mark : (hex 0xFFFF).toList = "ffff".toList := by decide +kernel
    have text : ("::ffff:" ++ printQuadruple a b).toList =
        ':' :: ':' :: ((hex 0xFFFF).toList ++ ':' :: (printQuadruple a b).toList) := by
      rw [mark, String.toList_append]
      rfl
    rw [text, read?, readFrom_hex_colon (by decide) (by decide) nonempty, quadruple]
    rfl
  next =>
    obtain ⟨start, zeros, longest⟩ : ∃ start zeros, longestZeros 0 0 (0, 0) ps = (start, zeros) :=
      ⟨_, _, rfl⟩
    obtain ⟨before, after, split, length⟩ := longest ▸ isRun_longestZeros ps
    rw [longest]
    dsimp only at split length ⊢
    split
    next long =>
      have run : (before ++ List.replicate zeros 0).length = start + zeros := by
        rw [List.length_append, length, List.length_replicate]
      have front : ps.take start = before := by
        rw [split, List.append_assoc, ← length, List.take_left]
      have back : ps.drop (start + zeros) = after := by
        rw [split, ← run, List.drop_left]
      have total : before.length + zeros + after.length = 8 := by
        rw [← eight, split, List.length_append, run, length]
      have missing : 8 - (before.length + after.length) = zeros := by omega
      have read : read? ((printPieces before).toList ++ ':' :: ':' :: (printPieces after).toList) =
          some (before ++ List.replicate zeros 0 ++ after) := by
        rw [← missing]
        exact read?_printPieces_gap (fun p hp => small p (by simp [split, hp]))
          (fun p hp => small p (by simp [split, hp])) (by omega)
      rw [front, back, split, ← read, String.toList_append, String.toList_append, List.append_assoc]
      rfl
    · -- no run of zeros is long enough to be left out
      exact read?_printPieces ⟨eight, small⟩

/-! ### Characters -/

/-- What is printed are digits, colons and points. -/
theorem forall_mem_print {P : Char → Prop} (digit : ∀ d < 16, P (hexDigit d)) (colon : P ':')
    (point : P '.') (ps : Ipv6) : ∀ c ∈ ps.print.toList, P c := by
  have pieces : ∀ ps : List Nat, ∀ c ∈ (printPieces ps).toList, P c := by
    intro ps
    refine forall_mem_intercalate (by simpa using colon)
      (List.forall_mem_map.mpr fun n _ c hc => ?_)
    obtain ⟨d, hd, rfl⟩ := exists_digit_of_mem_hex hc
    exact digit d hd
  have quadruple : ∀ a b, ∀ c ∈ (printQuadruple a b).toList, P c := by
    intro a b
    refine forall_mem_intercalate (by simpa using point)
      (List.forall_mem_map.mpr fun n _ c hc => ?_)
    obtain ⟨d, hd, rfl⟩ := exists_digit_of_mem_decimal hc
    exact digit d (Nat.lt_trans hd (by decide))
  have colons : ∀ c ∈ "::".toList, P c := by simpa using colon
  have mapped : ∀ c ∈ "::ffff:".toList, P c := by
    simpa using ⟨colon, digit 15 (by decide), colon⟩
  unfold print
  split
  next a b =>
    rw [String.toList_append, List.forall_mem_append]
    exact ⟨mapped, quadruple a b⟩
  next =>
    dsimp only
    split
    · simp only [String.toList_append, List.forall_mem_append]
      exact ⟨⟨pieces _, colons⟩, pieces _⟩
    · exact pieces _

/-- There is a colon in what is printed. -/
theorem colon_mem_print (h : IsAddress ps) : ':' ∈ (print ps).toList := by
  unfold print
  split
  · rw [String.toList_append]
    simp
  next =>
    dsimp only
    split
    · simp only [String.toList_append]
      simp
    · match ps, h.1 with
      | n :: m :: more, _ =>
        rw [toList_printPieces_cons n (List.cons_ne_nil m more)]
        simp

end Ipv6

end Icap
