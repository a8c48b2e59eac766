-- The tokens of written JSON. A string is read as it was before it was
-- escaped, a number or a name up to the next character that is no part of it,
-- and texts that stand one after the other are read one after the other.
import Verdict.Json.Token
import Verdict.Proofs.Text.Digits

namespace Verdict.Json

/-! ## Strings -/

/-- The part is read as the character, whatever parts come after it. -/
def Part.StandsFor (p : Part) (c : Char) : Prop :=
  ∀ ps, joinParts (p :: ps) = (joinParts ps).map (c :: ·)

theorem standsFor_char (c : Char) : (Part.char c).StandsFor c := fun _ => rfl

/-- A unit that is no half of a pair stands for the character with its number. -/
theorem standsFor_unit {n : Nat} (h : n < 0xD800) : (Part.unit n).StandsFor (Char.ofNat n) := by
  intro ps
  have hhigh : ¬ (0xD800 ≤ n ∧ n < 0xDC00) := by omega
  have hlow : ¬ (0xDC00 ≤ n ∧ n < 0xE000) := by omega
  have hhalf : ¬ (0xD800 ≤ n ∧ n < 0xE000) := by omega
  cases ps with
  | nil => simp only [joinParts, hhalf, if_false]
  | cons p ps =>
    cases p with
    | char c => simp only [joinParts, hhalf, if_false]
    | unit m => simp only [joinParts, hhigh, hlow, if_false]

theorem readString?_quote (rest : List Char) : readString? ('"' :: rest) = some ([], rest) := by
  conv => lhs; unfold readString?
  rw [if_pos rfl]

/-- A control is written by its number. -/
theorem readString?_control {c : Char} (h : c.toNat < 0x20) (rest : List Char) :
    readString? ('\\' :: 'u' :: '0' :: '0' :: Nat.digitChar (c.toNat / 16) ::
        Nat.digitChar (c.toNat % 16) :: rest) =
      (readString? rest).map fun q => (.unit c.toNat :: q.1, q.2) := by
  have hdigits : ∀ n < 0x20,
      unit? '0' '0' (Nat.digitChar (n / 16)) (Nat.digitChar (n % 16)) = some n := by decide
  rw [readString?]
  simp only [hdigits c.toNat h]
  cases readString? rest <;> rfl

/-- Any other character stands for itself, but for those that have a letter of their own. -/
theorem readString?_plain {c : Char} (hquote : c ≠ '"') (hback : c ≠ '\\') (h : ¬ c.toNat < 0x20)
    (rest : List Char) :
    readString? (c :: rest) = (readString? rest).map fun q => (.char c :: q.1, q.2) := by
  conv => lhs; unfold readString?
  rw [if_neg hquote, if_neg hback, if_neg h]
  cases readString? rest <;> rfl

theorem readString?_escape {e c : Char} (hunit : e ≠ 'u') (h : escape? e = some c)
    (rest : List Char) :
    readString? ('\\' :: e :: rest) = (readString? rest).map fun q => (.char c :: q.1, q.2) := by
  conv => lhs; unfold readString?
  rw [if_neg (by decide), if_pos rfl]
  split
  · rename_i heq
    cases heq
    exact absurd rfl hunit
  · rename_i heq
    cases heq
    rw [h]
    cases readString? rest <;> rfl
  · rename_i heq
    cases heq

/-- Every character is written so that it is read as one part, and that part stands for it. -/
theorem exists_part (c : Char) : ∃ p : Part, p.StandsFor c ∧ ∀ rest,
    readString? (escaped c ++ rest) = (readString? rest).map fun q => (p :: q.1, q.2) := by
  unfold escaped
  split
  iterate 7 exact ⟨.char _, standsFor_char _, readString?_escape (by decide) rfl⟩
  rename_i hquote hback _ _ _ _ _
  split
  · rename_i hcontrol
    refine ⟨.unit c.toNat, ?_, readString?_control hcontrol⟩
    have h : (Part.unit c.toNat).StandsFor (Char.ofNat c.toNat) := standsFor_unit (by omega)
    rwa [Char.ofNat_toNat] at h
  · rename_i hcontrol
    exact ⟨.char c, standsFor_char c, readString?_plain hquote hback hcontrol⟩

theorem readString?_flatMap (cs rest : List Char) : ∃ parts, joinParts parts = some cs ∧
    readString? (cs.flatMap escaped ++ '"' :: rest) = some (parts, rest) := by
  induction cs with
  | nil => exact ⟨[], rfl, readString?_quote rest⟩
  | cons c cs ih =>
    obtain ⟨parts, hjoin, hread⟩ := ih
    obtain ⟨p, hstands, hp⟩ := exists_part c
    refine ⟨p :: parts, ?_, ?_⟩
    · rw [hstands, hjoin]
      rfl
    · rw [List.flatMap_cons, List.append_assoc, hp, hread]
      rfl

/-! ## Words -/

/-- A word may end in front of the text. -/
def EndsWord (rest : List Char) : Prop := ∀ c ∈ rest.head?, isWordPart c = false

/-- In front of a text where a word may end, the characters are read as the tokens. -/
def Reads (cs : List Char) (ts : List Token) : Prop :=
  ∀ rest, EndsWord rest → tokens? (cs ++ rest) = (tokens? rest).map (ts ++ ·)

theorem endsWord_of_punctuation {c : Char} (h : isWordPart c = false) (rest : List Char) :
    EndsWord (c :: rest) := by
  intro d hd
  cases hd
  exact h

/-- The text ends a word that stands in front of it. -/
def Closes (cs : List Char) : Prop := ∀ rest, EndsWord rest → EndsWord (cs ++ rest)

theorem closes_cons {c : Char} (h : isWordPart c = false) (cs : List Char) : Closes (c :: cs) :=
  fun _ _ => endsWord_of_punctuation h _

theorem Reads.append {as bs : List Char} {ts us : List Token} (ha : Reads as ts)
    (hb : Reads bs us) (hends : Closes bs) : Reads (as ++ bs) (ts ++ us) := by
  intro rest hrest
  rw [List.append_assoc, ha _ (hends rest hrest), hb rest hrest, Option.map_map]
  congr 1
  funext vs
  exact (List.append_assoc ..).symm

theorem wordPart_facts {c : Char} (h : isWordPart c = true) :
    isSpace c = false ∧ punctuation? c = none ∧ c ≠ '"' := by
  have hne : ∀ d, isWordPart d = false → c ≠ d := by
    rintro d hd rfl
    rw [h] at hd
    cases hd
  refine ⟨?_, ?_, hne _ rfl⟩
  · unfold isSpace
    simp only [Bool.or_eq_false_iff, beq_eq_false_iff_ne]
    exact ⟨⟨⟨hne _ rfl, hne _ rfl⟩, hne _ rfl⟩, hne _ rfl⟩
  · unfold punctuation?
    split
    iterate 6 exact absurd rfl (hne _ rfl)
    rfl

/-- A word is taken up to where it may end. -/
theorem tokens?_word {c : Char} {cs rest : List Char} (hc : isWordPart c = true)
    (hcs : ∀ d ∈ cs, isWordPart d = true) (hrest : EndsWord rest) :
    tokens? (c :: cs ++ rest) =
      (word? (c :: cs)).bind fun t => (tokens? rest).map (t :: ·) := by
  obtain ⟨hspace, hpunctuation, hquote⟩ := wordPart_facts hc
  have htake : (cs ++ rest).takeWhile isWordPart = cs := Text.takeWhile_run hcs hrest
  have hdrop : (cs ++ rest).dropWhile isWordPart = rest := Text.dropWhile_run hcs hrest
  rw [List.cons_append, tokens?, hspace, hpunctuation]
  simp only [Bool.false_eq_true, if_false, hquote, htake, hdrop]
  cases word? (c :: cs) <;> cases tokens? rest <;> rfl

theorem reads_word {c : Char} {cs : List Char} {t : Token} (hc : isWordPart c = true)
    (hcs : ∀ d ∈ cs, isWordPart d = true) (hword : word? (c :: cs) = some t) :
    Reads (c :: cs) [t] := by
  intro rest hrest
  rw [tokens?_word hc hcs hrest, hword]
  rfl

theorem Reads.punctuation {c : Char} {t : Token} {cs : List Char} {ts : List Token}
    (hcs : Reads cs ts) (hspace : isSpace c = false) (h : punctuation? c = some t) :
    Reads (c :: cs) (t :: ts) := by
  intro rest hrest
  rw [List.cons_append, tokens?, hspace, h]
  simp only [Bool.false_eq_true, if_false]
  rw [hcs rest hrest, Option.map_map]
  rfl

theorem reads_nil : Reads [] [] := by
  intro rest _
  simp only [List.nil_append, Option.map_id']

theorem reads_string (s : String) : Reads (stringText s) [.string (some s)] := by
  intro rest _
  obtain ⟨parts, hjoin, hread⟩ := readString?_flatMap s.toList rest
  have htext : stringText s ++ rest = '"' :: (s.toList.flatMap escaped ++ '"' :: rest) := by
    unfold stringText
    simp
  rw [htext, tokens?]
  have hspace : isSpace '"' = false := rfl
  have hpunctuation : punctuation? '"' = none := rfl
  simp only [hspace, hpunctuation, Bool.false_eq_true, if_false, if_true]
  split
  · rename_i hnone
    rw [hread] at hnone
    cases hnone
  · rename_i parts' after hsome
    rw [hread] at hsome
    cases hsome
    rw [hjoin, Option.map_some, String.ofList_toList]
    rfl

end Verdict.Json
