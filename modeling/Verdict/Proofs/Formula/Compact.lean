-- Compact texts are read as they are written. Nothing stands between two
-- elements, but none of them begins with a digit, so the number behind a hash
-- sign ends where its element ends, whatever comes next.
import Verdict.Formula.Compact
import Verdict.Proofs.Text.Digits

namespace Verdict

/-- The element can be written: its id is not too large for an index. -/
def Element.Fits (e : Element) : Prop := ∀ id ∈ e.id?, id ≤ Text.maxIndex

namespace Formula.Compact

/-! ## Scanning -/

/-- The length of a text in bytes. -/
def width : List Char → Nat
  | [] => 0
  | c :: cs => c.utf8Size + width cs

/-- The text does not go on with a number. -/
def NoDigitFirst (cs : List Char) : Prop := ∀ c ∈ cs.head?, c.isDigit = false

/-- In front of such a text it does not matter whether a number was read. -/
theorem scan_of_noDigitFirst {cs : List Char} (h : NoDigitFirst cs) (inNumber : Bool)
    (place : Nat) : scan inNumber place cs = scan false place cs := by
  rcases cs with _ | ⟨c, cs⟩
  · simp [scan]
  · have hc : c.isDigit = false := h c rfl
    simp [scan, hc]

/-- The digits of a number are passed over. -/
theorem scan_digits {digits : List Char} (h : ∀ c ∈ digits, c.isDigit = true) (place : Nat)
    (rest : List Char) :
    scan true place (digits ++ rest) = scan true (place + width digits) rest := by
  induction digits generalizing place with
  | nil => rfl
  | cons d digits ih =>
    have hd : d.isDigit = true := h d List.mem_cons_self
    simp only [List.cons_append, scan, hd, Bool.and_self, if_true, width]
    rw [ih (fun c hc => h c (List.mem_cons_of_mem d hc)), Nat.add_assoc]

/-- A character that is no hash sign and no digit is read alone. -/
theorem scan_cons_of_piece {c : Char} {p : Piece} {place : Nat} (hdigit : c.isDigit = false)
    (hhash : c ≠ '#') (hpiece : charPiece? place c = some p) (inNumber : Bool)
    (rest : List Char) :
    scan inNumber place (c :: rest) = p :: scan false (place + c.utf8Size) rest := by
  simp [scan, hdigit, hhash, hpiece]

/-! ## Single elements -/

/-- What is read of the letter of an id. -/
theorem smallLetter_facts : ∀ id < 26, id ≠ Element.takenLetter →
    (Text.smallLetter id).isDigit = false ∧ Text.smallLetter id ≠ '#' ∧
      Text.isBlank (Text.smallLetter id) = false ∧
      LogicOp.ofSymbol? (Text.smallLetter id) = none ∧
      Text.isAsciiLower (Text.smallLetter id) = true ∧ (Text.smallLetter id).toNat - 97 = id := by
  decide

theorem charPiece?_smallLetter {id : Nat} (h : id < 26) (hx : id ≠ Element.takenLetter)
    (place : Nat) : charPiece? place (Text.smallLetter id) = some (.element (.ref id)) := by
  obtain ⟨-, -, hblank, hsymbol, hlower, hid⟩ := smallLetter_facts id h hx
  simp [charPiece?, hblank, hsymbol, hlower, hid]

theorem symbol_facts (o : LogicOp) :
    o.symbol.isDigit = false ∧ o.symbol ≠ '#' ∧ Text.isBlank o.symbol = false := by
  cases o <;> decide

theorem charPiece?_symbol (o : LogicOp) (place : Nat) :
    charPiece? place o.symbol = some (.element (.op o)) := by
  obtain ⟨-, -, hblank⟩ := symbol_facts o
  simp [charPiece?, hblank]

/-- The text of an element does not begin with a digit. -/
theorem noDigitFirst_element (e : Element) (rest : List Char) :
    NoDigitFirst (e.chars ++ rest) := by
  intro c hc
  rcases e with o | id
  · cases hc
    exact (symbol_facts o).1
  · by_cases hid : id < 26 ∧ id ≠ Element.takenLetter
    · simp only [Element.chars, hid, ne_eq, not_false_eq_true, and_self, if_true] at hc
      cases hc
      exact (smallLetter_facts id hid.1 hid.2).1
    · simp only [Element.chars, hid, if_false] at hc
      cases hc
      rfl

theorem noDigitFirst_chars (es : List Element) : NoDigitFirst (chars es) := by
  rcases es with _ | ⟨e, es⟩
  · intro c hc
    cases hc
  · exact noDigitFirst_element e (chars es)

/-- An element is read from its text, and the scan goes on behind it as it would anywhere. -/
theorem scan_element {e : Element} (he : e.Fits) {rest : List Char} (hrest : NoDigitFirst rest)
    (inNumber : Bool) (place : Nat) :
    scan inNumber place (e.chars ++ rest) =
      .element e :: scan false (place + width e.chars) rest := by
  rcases e with o | id
  · obtain ⟨hdigit, hhash, -⟩ := symbol_facts o
    exact scan_cons_of_piece hdigit hhash (charPiece?_symbol o place) inNumber rest
  · by_cases hid : id < 26 ∧ id ≠ Element.takenLetter
    · obtain ⟨hdigit, hhash, -⟩ := smallLetter_facts id hid.1 hid.2
      have hpiece := charPiece?_smallLetter hid.1 hid.2 place
      simp only [Element.chars, hid, ne_eq, not_false_eq_true, and_self, if_true]
      exact scan_cons_of_piece hdigit hhash hpiece inNumber rest
    · -- The scan takes all digits behind `#`, so those of the id must not run on into the rest.
      have hdigits : ∀ c ∈ Text.natDigits id, c.isDigit = true :=
        fun c hc => Text.isDigit_of_mem_natDigits hc
      have hpiece : hashPiece place (Text.natDigits id) = .element (.ref id) := by
        unfold hashPiece
        rw [Text.readIndex?_natDigits (he id rfl)]
      have hhash : ('#').isDigit = false := rfl
      simp only [Element.chars, hid, if_false, List.cons_append]
      rw [scan, hhash, Bool.and_false, if_neg Bool.false_ne_true, if_pos rfl,
        Text.takeWhile_run hdigits hrest, hpiece, scan_digits hdigits,
        scan_of_noDigitFirst hrest]
      simp only [width, Nat.add_assoc]

/-! ## Formulas -/

/-- The text of a formula gives its elements, and nothing is passed over. -/
theorem scan_chars {es : List Element} (h : ∀ e ∈ es, e.Fits) (inNumber : Bool) (place : Nat) :
    scan inNumber place (chars es) = es.map Piece.element := by
  induction es generalizing inNumber place with
  | nil => simp [scan]
  | cons e es ih =>
    have he : e.Fits := h e List.mem_cons_self
    have hes : ∀ f ∈ es, f.Fits := fun f hf => h f (List.mem_cons_of_mem e hf)
    show scan inNumber place (e.chars ++ chars es) = _
    rw [scan_element he (noDigitFirst_chars es), ih hes]
    rfl

theorem elements_render {es : List Element} (h : ∀ e ∈ es, e.Fits) :
    elements (render es) = es := by
  unfold elements pieces render
  rw [String.toList_ofList, scan_chars h, List.filterMap_map]
  exact List.filterMap_some

theorem reports_render {es : List Element} (h : ∀ e ∈ es, e.Fits) : reports (render es) = [] := by
  unfold reports pieces render
  rw [String.toList_ofList, scan_chars h, List.filterMap_map, List.map_eq_nil_iff,
    List.filterMap_eq_nil_iff]
  intro e _
  rfl

/-! ## Any text -/

theorem fits_of_hashPiece {place : Nat} {digits : List Char} {e : Element}
    (h : hashPiece place digits = .element e) : e.Fits := by
  unfold hashPiece at h
  split at h
  · rename_i n hn
    cases h
    rintro id ⟨⟩
    exact Text.readIndex?_le hn
  · cases h

/-- A letter has its place in the alphabet as its id. -/
theorem fits_of_charPiece? {place : Nat} {c : Char} {e : Element}
    (h : charPiece? place c = some (.element e)) : e.Fits := by
  unfold charPiece? at h
  split at h
  · cases h
  · split at h
    · cases h
      rintro id ⟨⟩
    · split at h
      · rename_i hlower
        cases h
        rintro id ⟨⟩
        simp only [Text.isAsciiLower, Bool.and_eq_true, decide_eq_true_eq] at hlower
        have hz : c.toNat ≤ 122 := hlower.2
        unfold Text.maxIndex
        omega
      · cases h

/-- Whatever a text is, the elements that are read from it can be written. -/
theorem fits_of_mem_scan {inNumber : Bool} {place : Nat} {cs : List Char} {e : Element}
    (h : .element e ∈ scan inNumber place cs) : e.Fits := by
  induction cs generalizing inNumber place with
  | nil => simp [scan] at h
  | cons c cs ih =>
    unfold scan at h
    split at h
    · exact ih h
    · split at h
      · rcases List.mem_cons.mp h with h | h
        · exact fits_of_hashPiece h.symm
        · exact ih h
      · rcases List.mem_append.mp h with h | h
        · exact fits_of_charPiece? (Option.mem_toList.mp h)
        · exact ih h

theorem fits_of_mem_elements {text : String} {e : Element} (h : e ∈ elements text) : e.Fits := by
  obtain ⟨p, hp, hpe⟩ := List.mem_filterMap.mp h
  cases p with
  | element f =>
    cases hpe
    exact fits_of_mem_scan hp
  | missingNumber place => cases hpe
  | illegal place c => cases hpe

/-- A formula is read back from its compact text, whatever stands next to what, and nothing is
reported. What is read from any text at all is read again from the text that is written for it. -/
theorem a_written_formula_is_read_back :
    (∀ es : List Element, (∀ e ∈ es, e.Fits) →
      elements (render es) = es ∧ reports (render es) = []) ∧
    ∀ text : String, elements (render (elements text)) = elements text ∧
      reports (render (elements text)) = [] := by
  refine ⟨fun es h => ⟨elements_render h, reports_render h⟩, ?_⟩
  intro text
  have h : ∀ e ∈ elements text, e.Fits := fun e he => fits_of_mem_elements he
  exact ⟨elements_render h, reports_render h⟩

/-- References stand next to each other, one of them has the letter of `xor`, and one is as large
as an index can be. -/
theorem neighbours_are_read_back :
    let es : List Element := [.ref 23, .op .xor, .ref 2, .ref 26, .ref 5, .ref 100, .op .xor,
      .ref Text.maxIndex, .ref 0, .op .openParen]
    render es = "#23xc#26f#100x#18446744073709551615a(" ∧ (∀ e ∈ es, e.Fits) ∧
      elements (render es) = es ∧ reports (render es) = [] := by
  intro es
  have h : ∀ e ∈ es, e.Fits := by
    simp [es, Element.Fits, Element.id?, Text.maxIndex]
  exact ⟨by decide +kernel, h, a_written_formula_is_read_back.1 es h⟩

end Formula.Compact

end Verdict
