-- Compact texts in parts. A text is read as its parts are, one after the other,
-- unless the cut between them goes through the number behind a hash sign. The
-- places in the reports about a part move by the bytes that stand in front of it.
import Verdict.Proofs.Formula.Compact

namespace Verdict.Formula.Compact

/-! ## Places -/

/-- The piece in a text with `n` more bytes in front. -/
def Piece.moved (n : Nat) : Piece → Piece
  | element e => element e
  | missingNumber place => missingNumber (place + n)
  | illegal place c => illegal (place + n) c

@[simp] theorem Piece.element?_moved (n : Nat) (p : Piece) :
    (p.moved n).element? = p.element? := by
  cases p <;> rfl

@[simp] theorem Piece.moved_zero (p : Piece) : p.moved 0 = p := by
  cases p <;> rfl

theorem Piece.moved_moved (m n : Nat) (p : Piece) : (p.moved m).moved n = p.moved (m + n) := by
  cases p <;> simp [moved, Nat.add_assoc]

theorem hashPiece_moved (n place : Nat) (digits : List Char) :
    hashPiece (place + n) digits = (hashPiece place digits).moved n := by
  unfold hashPiece
  cases Text.readIndex? digits <;> rfl

theorem charPiece?_moved (n place : Nat) (c : Char) :
    charPiece? (place + n) c = (charPiece? place c).map (Piece.moved n) := by
  unfold charPiece?
  split
  · rfl
  · split
    · rfl
    · split
      · rfl
      · rfl

/-- The same text further on gives the same pieces further on. -/
theorem scan_moved (n : Nat) (inNumber : Bool) (place : Nat) (cs : List Char) :
    scan inNumber (place + n) cs = (scan inNumber place cs).map (Piece.moved n) := by
  induction cs generalizing inNumber place with
  | nil => simp [scan]
  | cons c cs ih =>
    have hplace : place + n + c.utf8Size = place + c.utf8Size + n := by omega
    rw [scan, scan, hplace]
    split
    · exact ih true _
    · split
      · rw [ih, hashPiece_moved, List.map_cons]
      · rw [ih, charPiece?_moved, List.map_append]
        cases charPiece? place c <;> rfl

theorem width_toList (text : String) : width text.toList = text.utf8ByteSize := by
  have hofList : ∀ cs, (String.ofList cs).utf8ByteSize = width cs := by
    intro cs
    induction cs with
    | nil => rfl
    | cons c cs ih =>
      rw [String.ofList_cons, String.utf8ByteSize_append, String.utf8ByteSize_singleton, ih]
      rfl
  rw [← hofList, String.ofList_toList]

/-! ## Cuts -/

/-- The text ends with a hash sign and the digits behind it, if there are any. -/
def EndsInNumber (cs : List Char) : Prop :=
  ∃ front digits, cs = front ++ '#' :: digits ∧ ∀ d ∈ digits, d.isDigit = true

theorem EndsInNumber.cons {cs : List Char} (h : EndsInNumber cs) (c : Char) :
    EndsInNumber (c :: cs) := by
  obtain ⟨front, digits, rfl, hdigits⟩ := h
  exact ⟨c :: front, digits, rfl, hdigits⟩

theorem EndsInNumber.last {cs : List Char} (h : EndsInNumber cs) {c : Char}
    (hc : cs.getLast? = some c) : c = '#' ∨ c.isDigit = true := by
  obtain ⟨front, digits, rfl, hdigits⟩ := h
  rw [List.getLast?_append_cons] at hc
  rcases List.mem_cons.mp (List.mem_of_getLast? hc) with rfl | hmem
  · exact Or.inl rfl
  · exact Or.inr (hdigits c hmem)

/-- The digits at the beginning are the same with more text behind, unless the text has nothing but
digits and the text behind goes on with one. -/
theorem takeWhile_isDigit_append {s t : List Char}
    (h : (∀ c ∈ s, c.isDigit = true) → NoDigitFirst t) :
    (s ++ t).takeWhile Char.isDigit = s.takeWhile Char.isDigit := by
  by_cases hs : ∀ c ∈ s, c.isDigit = true
  · rw [Text.takeWhile_run hs (h hs), List.takeWhile_eq_self_iff.mpr hs]
  · have hlength : (s.takeWhile Char.isDigit).length ≠ s.length := by
      intro hlength
      apply hs
      exact List.takeWhile_eq_self_iff.mp ((List.takeWhile_prefix _).eq_of_length hlength)
    rw [List.takeWhile_append, if_neg hlength]

/-- The scan of two texts, where the first may begin inside of a number. If it ends inside of one,
the second must not go on with it. -/
theorem scan_append {inNumber : Bool} {s t : List Char}
    (h : EndsInNumber s ∨ (inNumber = true ∧ ∀ c ∈ s, c.isDigit = true) → NoDigitFirst t)
    (place : Nat) :
    scan inNumber place (s ++ t) =
      scan inNumber place s ++ scan false (place + width s) t := by
  induction s generalizing inNumber place with
  | nil =>
    cases inNumber with
    | false => simp [scan, width]
    | true =>
      have ht : NoDigitFirst t := h (Or.inr ⟨rfl, by simp⟩)
      simp [scan, width, scan_of_noDigitFirst ht]
  | cons c s ih =>
    have hplace : place + width (c :: s) = place + c.utf8Size + width s := by
      rw [width]
      omega
    rw [List.cons_append, scan, scan, hplace]
    by_cases hdigit : (inNumber && c.isDigit) = true
    · rw [if_pos hdigit, if_pos hdigit]
      rw [Bool.and_eq_true] at hdigit
      apply ih
      rintro (hs | ⟨-, hs⟩)
      · exact h (Or.inl (hs.cons c))
      · exact h (Or.inr ⟨hdigit.1, List.forall_mem_cons.mpr ⟨hdigit.2, hs⟩⟩)
    · rw [if_neg hdigit, if_neg hdigit]
      by_cases hhash : c = '#'
      · subst hhash
        have hnumber : (∀ d ∈ s, d.isDigit = true) → NoDigitFirst t :=
          fun hs => h (Or.inl ⟨[], s, rfl, hs⟩)
        rw [if_pos rfl, if_pos rfl, takeWhile_isDigit_append hnumber, List.cons_append]
        congr 1
        apply ih
        rintro (hs | ⟨-, hs⟩)
        · exact h (Or.inl (hs.cons '#'))
        · exact hnumber hs
      · rw [if_neg hhash, if_neg hhash, List.append_assoc]
        congr 1
        apply ih
        rintro (hs | ⟨hfalse, -⟩)
        · exact h (Or.inl (hs.cons c))
        · cases hfalse

theorem pieces_append {s t : List Char} (h : EndsInNumber s → NoDigitFirst t) :
    pieces (s ++ t) = pieces s ++ (pieces t).map (Piece.moved (width s)) := by
  have hscan : scan false 0 (s ++ t) = scan false 0 s ++ scan false (0 + width s) t := by
    apply scan_append
    rintro (hs | ⟨hfalse, -⟩)
    · exact h hs
    · cases hfalse
  unfold pieces
  rw [hscan, scan_moved]

/-! ## Texts -/

/-- The cut between two texts goes through no number. -/
def CutsNoNumber (s t : String) : Prop := EndsInNumber s.toList → NoDigitFirst t.toList

/-- The reports about a part of a formula, which begins behind `n` bytes of it. -/
def partReports (formula : String) (n : Nat) (part : String) : List Report :=
  (((pieces part.toList).map (Piece.moved n)).filterMap Piece.complaint?).map
    (Report.warning · formula)

theorem reports_eq_partReports (formula : String) :
    reports formula = partReports formula 0 formula := by
  simp [reports, partReports]

theorem elements_append {s t : String} (h : CutsNoNumber s t) :
    elements (s ++ t) = elements s ++ elements t := by
  unfold elements
  rw [String.toList_append, pieces_append h, List.filterMap_append, List.filterMap_map]
  simp

theorem partReports_append {s t : String} (h : CutsNoNumber s t) (formula : String) (n : Nat) :
    partReports formula n (s ++ t) =
      partReports formula n s ++ partReports formula (n + s.utf8ByteSize) t := by
  have hmoved : (pieces t.toList).map (Piece.moved n ∘ Piece.moved s.utf8ByteSize) =
      (pieces t.toList).map (Piece.moved (n + s.utf8ByteSize)) := by
    apply List.map_congr_left
    intro p _
    rw [Function.comp_apply, p.moved_moved, Nat.add_comm]
  unfold partReports
  rw [String.toList_append, pieces_append h, width_toList, List.map_append, List.map_map, hmoved,
    List.filterMap_append, List.map_append]

/-! ## What cannot be read -/

/-- A stretch that is passed over: a character that stands for nothing, or a hash sign with digits
that are no id, if there are any. -/
inductive IsIllegible : List Char → Prop
  | character {c : Char} : Text.isBlank c = false → LogicOp.ofSymbol? c = none →
      Text.isAsciiLower c = false → c ≠ '#' → IsIllegible [c]
  | number {digits : List Char} : (∀ d ∈ digits, d.isDigit = true) →
      Text.readIndex? digits = none → IsIllegible ('#' :: digits)

theorem IsIllegible.ne_nil {cs : List Char} (h : IsIllegible cs) : cs ≠ [] := by
  cases h <;> simp

/-- It gives one piece, and that is no element. -/
theorem IsIllegible.exists_piece {cs : List Char} (h : IsIllegible cs) :
    ∃ p, pieces cs = [p] ∧ p.element? = none ∧ ∀ n, (p.moved n).complaint?.isSome = true := by
  cases h with
  | @character c hblank hsymbol hlower hhash =>
    refine ⟨.illegal 0 c, ?_, rfl, fun n => rfl⟩
    simp [pieces, scan, charPiece?, hblank, hsymbol, hlower, hhash]
  | @number digits hdigits hindex =>
    refine ⟨.missingNumber 0, ?_, rfl, fun n => rfl⟩
    have hrest : scan true ('#').utf8Size digits = [] := by
      have h := scan_digits hdigits ('#').utf8Size []
      rw [List.append_nil] at h
      rw [h, scan]
    have htake : digits.takeWhile Char.isDigit = digits := List.takeWhile_eq_self_iff.mpr hdigits
    simp only [pieces, scan, Bool.false_and, Bool.false_eq_true, if_false, if_true, htake,
      Nat.zero_add, hrest]
    simp [hashPiece, hindex]

theorem IsIllegible.elements_eq {text : String} (h : IsIllegible text.toList) :
    elements text = [] := by
  obtain ⟨p, hp, hnone, -⟩ := h.exists_piece
  simp [elements, hp, hnone]

theorem IsIllegible.exists_report {text : String} (h : IsIllegible text.toList)
    (formula : String) (n : Nat) : ∃ report, partReports formula n text = [report] := by
  obtain ⟨p, hp, -, hsome⟩ := h.exists_piece
  obtain ⟨message, hmessage⟩ := Option.isSome_iff_exists.mp (hsome n)
  exact ⟨.warning message formula, by simp [partReports, hp, hmessage]⟩

/-- An illegible stretch is not empty, so a number cannot run on over it. -/
theorem IsIllegible.cutsNoNumber {s bad t : String} (h : IsIllegible bad.toList)
    (hs : CutsNoNumber s bad) : CutsNoNumber s (bad ++ t) := by
  intro hnumber c hc
  rw [String.toList_append, List.head?_append_of_ne_nil _ h.ne_nil] at hc
  exact hs hnumber c hc

/-! ## The law -/

/-- If the cut between two texts goes through no number, both together give the elements of the
first and then those of the second, and the reports about the first and then those about the
second, with the bytes of the first added to their places. So a stretch that cannot be read is
reported once and changes nothing else: what stands in front of it and behind it is read as if it
were not there. -/
theorem a_text_is_read_part_by_part :
    (∀ s t : String, CutsNoNumber s t →
      elements (s ++ t) = elements s ++ elements t ∧
      reports (s ++ t) = partReports (s ++ t) 0 s ++ partReports (s ++ t) s.utf8ByteSize t) ∧
    (∀ s bad t : String, IsIllegible bad.toList → CutsNoNumber s bad → CutsNoNumber bad t →
      elements (s ++ (bad ++ t)) = elements s ++ elements t ∧
      ∃ report, reports (s ++ (bad ++ t)) =
        partReports (s ++ (bad ++ t)) 0 s ++
          report :: partReports (s ++ (bad ++ t)) (s.utf8ByteSize + bad.utf8ByteSize) t) ∧
    ∀ text : String, reports text = partReports text 0 text := by
  refine ⟨?_, ?_, reports_eq_partReports⟩
  · intro s t h
    refine ⟨elements_append h, ?_⟩
    rw [reports_eq_partReports, partReports_append h, Nat.zero_add]
  · intro s bad t hbad hs ht
    have hcut : CutsNoNumber s (bad ++ t) := hbad.cutsNoNumber hs
    obtain ⟨report, hreport⟩ := hbad.exists_report (s ++ (bad ++ t)) s.utf8ByteSize
    refine ⟨?_, report, ?_⟩
    · rw [elements_append hcut, elements_append ht, hbad.elements_eq, List.nil_append]
    · rw [reports_eq_partReports, partReports_append hcut, partReports_append ht, Nat.zero_add,
        hreport]
      rfl

/-- No number ends in front of the digit 7, so the digit is illegible, and so is the number behind
it, which is too large. The letter with an accent takes two bytes. -/
theorem an_accent_parts_a_formula :
    let s := "(a#12é"
    let t := "7.#99999999999999999999)"
    (CutsNoNumber s t ∧ elements (s ++ t) = elements s ++ elements t ∧
      reports (s ++ t) = partReports (s ++ t) 0 s ++ partReports (s ++ t) s.utf8ByteSize t) ∧
    (elements s = [.op .openParen, .ref 0, .ref 12] ∧ elements t = [.op .and, .op .closeParen] ∧
      partReports (s ++ t) s.utf8ByteSize t =
        [.warning "公式位置 7 的非法字符 '7'，已忽略" (s ++ t),
          .warning "公式位置 9 的 '#' 后缺少编号，已忽略" (s ++ t)]) ∧
    IsIllegible "é".toList ∧ CutsNoNumber "(a#12" "é" ∧ CutsNoNumber "é" t ∧
      elements ("(a#12" ++ ("é" ++ t)) = elements "(a#12" ++ elements t := by
  intro s t
  have hs : CutsNoNumber s t := fun h => absurd (h.last (c := 'é') (by decide)) (by decide)
  have hbad : IsIllegible "é".toList := .character (by decide) rfl (by decide) (by decide)
  have hfront : CutsNoNumber "(a#12" "é" := by
    rintro - c ⟨⟩
    rfl
  have hback : CutsNoNumber "é" t := fun h => absurd (h.last (c := 'é') (by decide)) (by decide)
  refine ⟨⟨hs, a_text_is_read_part_by_part.1 s t hs⟩, ⟨?_, ?_, ?_⟩, hbad, hfront, hback,
    (a_text_is_read_part_by_part.2.1 _ _ t hbad hfront hback).1⟩
  · decide +kernel
  · decide +kernel
  · decide +kernel

end Verdict.Formula.Compact
