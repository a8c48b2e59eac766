-- The two forms in which a formula is kept. Tokens and compact text give the
-- same repaired formula, for all that the reader of tokens refuses ids that the
-- reader of texts takes, because the repair takes these out in any case.
import Verdict.Proofs.Equation.Runs
import Verdict.Proofs.Formula.Compact
import Verdict.Proofs.Formula.Repair

namespace Verdict

/-! ## Spellings -/

/-- The spellings of an operator, in the form in which names are looked up. -/
def LogicOp.spellings : LogicOp → List String
  | and => ["and", ".", "&"]
  | or => ["or", "+", "|"]
  | xor => ["xor", "x", "^"]
  | not => ["not", "-", "!"]
  | openParen => ["openparen", "open_paren", "("]
  | closeParen => ["closeparen", "close_paren", ")"]

/-- These are the spellings that are read as the operator, and there are no others. -/
theorem LogicOp.mem_spellings {o : LogicOp} {form : String} :
    form ∈ o.spellings ↔ ofForm? form = some o := by
  constructor
  · intro h
    cases o <;> simp only [spellings, List.mem_cons, List.not_mem_nil, or_false] at h <;>
      rcases h with rfl | rfl | rfl <;> decide
  · intro h
    unfold ofForm? at h
    repeat' split at h
    all_goals cases h
    all_goals assumption

namespace TokenDefinition

/-- The token stands for the element: an operator in one of its spellings, with any value, or the
word for a reference with the id, as a number or in decimal. Blanks around a word and the case of
its letters do not count. -/
inductive Spells : TokenDefinition → Element → Prop
  | operator {t : TokenDefinition} {o : LogicOp} :
      Text.nameForm t.op ∈ o.spellings → Spells t (.op o)
  | number {t : TokenDefinition} {id : Nat} : Text.nameForm t.op ∈ ["noderef", "node", "id"] →
      t.value = some (.index id) → Spells t (.ref id)
  | decimal {t : TokenDefinition} {id : Nat} : Text.nameForm t.op ∈ ["noderef", "node", "id"] →
      t.value = some (.label (Text.natText id)) → Spells t (.ref id)

/-- No operator is spelled like the word for a reference. -/
theorem isReference_of_spelling {t : TokenDefinition} {o : LogicOp}
    (h : Text.nameForm t.op ∈ o.spellings) : t.isReference = false := by
  unfold isReference
  generalize Text.nameForm t.op = form at h
  cases o <;> simp only [LogicOp.spellings, List.mem_cons, List.not_mem_nil, or_false] at h <;>
    rcases h with rfl | rfl | rfl <;> decide

theorem element?_of_spelling {t : TokenDefinition} {o : LogicOp}
    (h : Text.nameForm t.op ∈ o.spellings) : t.element? = some (.op o) := by
  have hname : LogicOp.ofName? t.op = some o := LogicOp.mem_spellings.mp h
  unfold element? read
  rw [isReference_of_spelling h, if_neg Bool.false_ne_true]
  unfold readOperator
  rw [hname]

/-- A reference is read if its id is not too large for a condition. -/
theorem element?_of_written {t : TokenDefinition} {v : ConditionId} {id : Nat}
    (hword : Text.nameForm t.op ∈ ["noderef", "node", "id"]) (hvalue : t.value = some v)
    (hid : v.written = .ok id) :
    t.element? = if id ≤ maxConditionId then some (.ref id) else none := by
  have href : t.isReference = true := List.contains_iff_mem.mpr hword
  unfold element? read
  rw [href, if_pos rfl, hvalue]
  unfold readReference
  simp only [ConditionId.number_of_written hid]
  by_cases hle : id ≤ maxConditionId
  · rw [if_pos hle, if_pos hle]
  · rw [if_neg hle, if_neg hle]

end TokenDefinition

/-! ## Ids out of range -/

/-- The element is an operator, or a reference to an id up to a bound. -/
def Element.isWithin (bound : Nat) : Element → Bool
  | op _ => true
  | ref id => decide (id ≤ bound)

/-- A token is read as the element that it stands for, unless that is out of range. -/
theorem TokenDefinition.element?_of_spells {t : TokenDefinition} {e : Element}
    (h : t.Spells e) (he : e.Fits) :
    t.element? = if e.isWithin maxConditionId then some e else none := by
  cases h with
  | operator hop => exact element?_of_spelling hop
  | @number id hword hvalue =>
    rw [element?_of_written hword hvalue rfl]
    simp only [Element.isWithin, decide_eq_true_eq]
  | @decimal id hword hvalue =>
    have hid : id ≤ Text.maxIndex := he id rfl
    rw [element?_of_written hword hvalue (ConditionId.written_natText hid)]
    simp only [Element.isWithin, decide_eq_true_eq]

/-- The tokens of a formula give its elements but for the references that are too large. -/
theorem TokenDefinition.elements_of_spells {tokens : List TokenDefinition} {es : List Element}
    (h : List.Forall₂ Spells tokens es) (hfits : ∀ e ∈ es, e.Fits) :
    elements tokens = es.filter (Element.isWithin maxConditionId) := by
  unfold elements
  induction h with
  | nil => rfl
  | @cons t e tokens es ht _ ih =>
    have hrest := ih fun f hf => hfits f (List.mem_cons_of_mem e hf)
    have he := element?_of_spells ht (hfits e List.mem_cons_self)
    by_cases hwithin : e.isWithin maxConditionId = true
    · rw [if_pos hwithin] at he
      rw [List.filterMap_cons_some he, List.filter_cons_of_pos hwithin, hrest]
    · rw [if_neg hwithin] at he
      rw [List.filterMap_cons_none he, List.filter_cons_of_neg hwithin, hrest]

namespace Formula

/-- A reference that is out of a range can stand nowhere in a formula over a part of the range. -/
theorem admits_of_not_isWithin {bound maxId : Nat} (h : maxId ≤ bound) {p : Progress}
    {e : Element} (he : ¬ e.isWithin bound = true) : p.admits maxId e = false := by
  rcases e with o | id
  · exact absurd rfl he
  · have hid : ¬ id ≤ maxId := by
      intro hle
      exact he (decide_eq_true (hle.trans h))
    unfold Progress.admits
    simp only [hid, decide_false, Bool.and_false]

/-- References to ids out of range may as well be left out before the repair: they are taken out
in any case, and leave no trace on what comes behind them. -/
theorem kept_filter {bound maxId : Nat} (h : maxId ≤ bound) (p : Progress) (es : List Element) :
    kept maxId p (es.filter (Element.isWithin bound)) = kept maxId p es := by
  induction es generalizing p with
  | nil => rfl
  | cons e es ih =>
    by_cases he : e.isWithin bound = true
    · rw [List.filter_cons_of_pos he]
      unfold kept
      rw [ih, ih]
    · rw [List.filter_cons_of_neg he, ih]
      -- The reference goes on the right as well, and the progress there stays what it was.
      conv => rhs; unfold kept
      rw [admits_of_not_isWithin h he, if_neg Bool.false_ne_true]

theorem normalize_filter {bound maxId : Nat} (h : maxId ≤ bound) (es : List Element) :
    normalize maxId (es.filter (Element.isWithin bound)) = normalize maxId es := by
  have hrepaired : repaired maxId (es.filter (Element.isWithin bound)) = repaired maxId es := by
    unfold repaired
    rw [kept_filter h]
  rw [normalize_eq, normalize_eq, hrepaired]

end Formula

namespace Equation

/-- A formula that is kept as tokens and as a compact text is repaired to the same elements, for
every largest id that a condition can have. The text gives all elements; the tokens give those
whose ids a condition can have. -/
theorem tokens_and_text_give_the_same_formula {es : List Element}
    {tokens : List TokenDefinition} (hfits : ∀ e ∈ es, e.Fits)
    (hspell : List.Forall₂ TokenDefinition.Spells tokens es) {maxId : Nat}
    (hmax : maxId ≤ maxConditionId) :
    (ofDefinition (.tokens tokens)).normalized maxId =
        (ofDefinition (.formula (Formula.render es))).normalized maxId ∧
      (ofDefinition (.formula (Formula.render es))).elements = es ∧
      (ofDefinition (.tokens tokens)).elements =
        es.filter (Element.isWithin maxConditionId) := by
  have htext : (ofDefinition (.formula (Formula.render es))).elements = es :=
    Formula.Compact.elements_render hfits
  have htokens : (ofDefinition (.tokens tokens)).elements =
      es.filter (Element.isWithin maxConditionId) :=
    TokenDefinition.elements_of_spells hspell hfits
  refine ⟨?_, htext, htokens⟩
  calc (ofDefinition (.tokens tokens)).normalized maxId
      = Formula.normalize maxId (ofDefinition (.tokens tokens)).elements :=
        (keeps_ofElements _).normalized maxId
    _ = Formula.normalize maxId es := by rw [htokens, Formula.normalize_filter hmax]
    _ = Formula.normalize maxId (ofDefinition (.formula (Formula.render es))).elements := by
        rw [htext]
    _ = (ofDefinition (.formula (Formula.render es))).normalized maxId :=
        ((keeps_ofElements _).normalized maxId).symm

/-- A formula over the ids up to 3 that refers to 5000 as well. -/
theorem a_reference_that_tokens_refuse_is_repaired_away :
    let es : List Element :=
      [.ref 0, .op .xor, .ref 5000, .op .openParen, .ref 2, .op .or, .op .not]
    let tokens : List TokenDefinition := [⟨" NODE ", some (.index 0)⟩, ⟨"^", none⟩,
      ⟨"Id", some (.label "5000")⟩, ⟨"Open_Paren", none⟩, ⟨"nodeRef", some (.label "2")⟩,
      ⟨"OR", some (.index 1)⟩, ⟨"!", none⟩]
    (∀ e ∈ es, e.Fits) ∧ List.Forall₂ TokenDefinition.Spells tokens es ∧ 3 ≤ maxConditionId ∧
      Formula.render es = "ax#5000(c+-" ∧
      Formula.render ((ofDefinition (.tokens tokens)).normalized 3) = "ax(c)+b+d" ∧
      Formula.render ((ofDefinition (.formula (Formula.render es))).normalized 3) =
        "ax(c)+b+d" := by
  intro es tokens
  have hfits : ∀ e ∈ es, e.Fits := by
    simp [es, Element.Fits, Element.id?, Text.maxIndex]
  have hspell : List.Forall₂ TokenDefinition.Spells tokens es :=
    .cons (.number (by decide +kernel) rfl) <| .cons (.operator (by decide +kernel)) <|
    .cons (.decimal (by decide +kernel) (by decide +kernel)) <|
    .cons (.operator (by decide +kernel)) <|
    .cons (.decimal (by decide +kernel) (by decide +kernel)) <|
    .cons (.operator (by decide +kernel)) <| .cons (.operator (by decide +kernel)) .nil
  have hmax : 3 ≤ maxConditionId := by decide
  have hsame := (tokens_and_text_give_the_same_formula hfits hspell hmax).1
  have htext : Formula.render ((ofDefinition (.formula (Formula.render es))).normalized 3) =
      "ax(c)+b+d" := by decide +kernel
  exact ⟨hfits, hspell, hmax, by decide +kernel, by rw [hsame, htext], htext⟩

end Equation

end Verdict
