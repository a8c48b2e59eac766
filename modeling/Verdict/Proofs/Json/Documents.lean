-- JSON values in text. The text that is written for a value is read as the
-- document of that value, and the document gives the value again. Of a number
-- with a point this is taken for granted: reading it may round.
import Mathlib.Data.String.Basic
import Verdict.Json.Document
import Verdict.Proofs.Json.Numbers
import Verdict.Proofs.Keyed

namespace Verdict.Json

open Document

/-! ## The document of a value -/

mutual

/-- The document that the text of a value is read as. -/
def document : Json → Document
  | .null => .null
  | .bool b => .bool b
  | .int n => .number (numberText (Text.intDigits n))
  | .float x => .number (numberText (floatText x))
  | .str s => .str (some s)
  | .arr items => .arr (documents items)
  | .obj fields => .obj (memberDocuments fields)

def documents : List Json → List Document
  | [] => []
  | item :: items => document item :: documents items

def memberDocument : String × Json → StringText × Document
  | (key, value) => (some key, document value)

def memberDocuments : List (String × Json) → List (StringText × Document)
  | [] => []
  | field :: fields => memberDocument field :: memberDocuments fields

end

mutual

/-- The numbers with a point or an exponent. -/
def floats : Json → List Float
  | .float x => [x]
  | .arr items => itemFloats items
  | .obj fields => memberFloats fields
  | _ => []

def itemFloats : List Json → List Float
  | [] => []
  | item :: items => floats item ++ itemFloats items

def memberFloat : String × Json → List Float
  | (_, value) => floats value

def memberFloats : List (String × Json) → List Float
  | [] => []
  | field :: fields => memberFloat field ++ memberFloats fields

end

/-- The number is read from its text as it was written. -/
def ReadsBack (x : Float) : Prop := Json.ofText? (Json.float x).text = some (.float x)

/-- All numbers of a value are read as they are written. -/
def Exact (j : Json) : Prop := ∀ x ∈ j.floats, ReadsBack x

theorem memberDocuments_eq_map (fields : List (String × Json)) :
    memberDocuments fields = fields.map memberDocument := by
  induction fields with
  | nil => rfl
  | cons field fields ih =>
    rw [memberDocuments, ih]
    rfl

theorem mem_itemFloats {x : Float} {items : List Json} :
    x ∈ itemFloats items ↔ ∃ item ∈ items, x ∈ item.floats := by
  induction items with
  | nil => simp [itemFloats]
  | cons item items ih => simp [itemFloats, ih]

theorem mem_memberFloats {x : Float} {fields : List (String × Json)} :
    x ∈ memberFloats fields ↔ ∃ field ∈ fields, x ∈ field.2.floats := by
  induction fields with
  | nil => simp [memberFloats]
  | cons field fields ih =>
    obtain ⟨key, value⟩ := field
    simp [memberFloats, memberFloat, ih]

theorem exact_arr {items : List Json} : Exact (.arr items) ↔ ∀ item ∈ items, Exact item := by
  unfold Exact
  simp only [floats, mem_itemFloats]
  exact ⟨fun h item hi x hx => h x ⟨item, hi, hx⟩, fun h x ⟨item, hi, hx⟩ => h item hi x hx⟩

theorem exact_obj {fields : List (String × Json)} :
    Exact (.obj fields) ↔ ∀ field ∈ fields, Exact field.2 := by
  unfold Exact
  simp only [floats, mem_memberFloats]
  exact ⟨fun h field hi x hx => h x ⟨field, hi, hx⟩, fun h x ⟨field, hi, hx⟩ => h field hi x hx⟩

@[simp] theorem exact_str (text : String) : Exact (.str text) := by simp [Exact, floats]

@[simp] theorem exact_obj_nil : Exact (.obj []) := by simp [exact_obj]

@[simp] theorem exact_obj_cons (field : String × Json) (fields : List (String × Json)) :
    Exact (.obj (field :: fields)) ↔ Exact field.2 ∧ Exact (.obj fields) := by
  rw [exact_obj, List.forall_mem_cons, exact_obj]

@[simp] theorem exact_ofOption {α : Type} {write : α → Json} {o : Option α} :
    Exact (ofOption write o) ↔ ∀ a, o = some a → Exact (write a) := by
  cases o with
  | none => simp [Exact, ofOption, floats]
  | some a => simp [ofOption]

/-! ## Numbers -/

/-- A number that is read back has the form of a number, and that form has its value. -/
theorem ReadsBack.exists_number {x : Float} (h : ReadsBack x) :
    ∃ n, NumberText.ofChars? (floatText x) = some n ∧ n.value? = some (.float x) := by
  unfold ReadsBack Json.ofText? Document.ofText? text at h
  rw [String.toList_ofList, render] at h
  have hparts : ∀ c ∈ floatText x, isWordPart c = true := fun c hc => isWordPart_floatText hc
  rcases hcs : floatText x with _ | ⟨c, cs⟩
  · rw [hcs] at h
    simp [tokens?] at h
  rw [hcs] at h hparts
  have hword : tokens? (c :: cs) = (word? (c :: cs)).map fun t => [t] := by
    have hend : EndsWord [] := fun d hd => by cases hd
    have htokens := tokens?_word (hparts c List.mem_cons_self)
      (fun d hd => hparts d (List.mem_cons_of_mem c hd)) hend
    rw [List.append_nil] at htokens
    rw [htokens]
    cases word? (c :: cs) <;> simp [tokens?]
  rcases ht : word? (c :: cs) with _ | t
  · rw [hword, ht] at h
    cases h
  rw [hword, ht] at h
  cases t with
  | number n =>
    refine ⟨n, word?_eq_number.mp ht, ?_⟩
    simpa [step?, begin?, fill, value?] using h
  | _ => simp [step?, begin?, fill, value?] at h

/-! ## The text of a value -/

/-- The characters are read as tokens, and the tokens make the document wherever a value may
stand. -/
def Makes (cs : List Char) (d : Document) : Prop :=
  ∃ t ts, Reads cs (t :: ts) ∧
    ∀ holes, ((begin? holes t).bind fun s => ts.foldlM step? s) = some (fill d holes)

theorem makes_of_token {cs : List Char} {t : Token} {d : Document} (h : Reads cs [t])
    (hd : ∀ holes, begin? holes t = some (fill d holes)) : Makes cs d := by
  refine ⟨t, [], h, fun holes => ?_⟩
  rw [hd holes]
  rfl

/-- The first item of an array is read like any other value. -/
theorem step?_firstItem {holes : List Hole} {t : Token} {s : State}
    (h : begin? (.item [] :: holes) t = some s) : step? (.firstItem holes) t = some s := by
  cases t with
  | rightBracket => cases h
  | _ => exact h

/-- The characters are read as tokens that lead from one state to the other, whatever values are
still open. -/
def Leads (cs : List Char) (before after : List Hole → State) : Prop :=
  ∃ ts, Reads cs ts ∧ ∀ holes, ts.foldlM step? (before holes) = some (after holes)

variable {s u v : List Hole → State}

theorem leads_nil (s : List Hole → State) : Leads [] s s := ⟨[], reads_nil, fun _ => rfl⟩

theorem Leads.append {as bs : List Char} (ha : Leads as s u) (hb : Leads bs u v)
    (hends : Closes bs) : Leads (as ++ bs) s v := by
  obtain ⟨ts, hts, hsu⟩ := ha
  obtain ⟨us, hus, huv⟩ := hb
  refine ⟨ts ++ us, hts.append hus hends, fun holes => ?_⟩
  rw [List.foldlM_append, hsu]
  exact huv holes

theorem Leads.punctuation {c : Char} {t : Token} {cs : List Char} (h : Leads cs u v)
    (hspace : isSpace c = false) (hc : punctuation? c = some t)
    (hs : ∀ holes, step? (s holes) t = some (u holes)) : Leads (c :: cs) s v := by
  obtain ⟨ts, hts, huv⟩ := h
  refine ⟨t :: ts, hts.punctuation hspace hc, fun holes => ?_⟩
  rw [List.foldlM_cons, hs]
  exact huv holes

theorem Makes.leads {cs : List Char} {d : Document} (h : Makes cs d)
    (f : List Hole → List Hole) :
    Leads cs (fun holes => .value (f holes)) fun holes => fill d (f holes) := by
  obtain ⟨t, ts, hreads, hmakes⟩ := h
  exact ⟨t :: ts, hreads, fun holes => hmakes (f holes)⟩

theorem Makes.leads_firstItem {cs : List Char} {d : Document} (h : Makes cs d) :
    Leads cs .firstItem fun holes => .nextItem holes [d] := by
  obtain ⟨t, ts, hreads, hmakes⟩ := h
  refine ⟨t :: ts, hreads, fun holes => ?_⟩
  have hitem := hmakes (.item [] :: holes)
  rcases hs : begin? (.item [] :: holes) t with _ | s
  · rw [hs] at hitem
    cases hitem
  · rw [hs] at hitem
    rw [List.foldlM_cons, step?_firstItem hs]
    exact hitem

/-- What begins with a bracket makes a document if the rest leads to it. -/
theorem makes_of_leads {c : Char} {t : Token} {cs : List Char} {d : Document}
    (hspace : isSpace c = false) (hc : punctuation? c = some t)
    (hs : ∀ holes, begin? holes t = some (s holes)) (h : Leads cs s (fill d)) :
    Makes (c :: cs) d := by
  obtain ⟨ts, hts, hd⟩ := h
  refine ⟨t, ts, hts.punctuation hspace hc, fun holes => ?_⟩
  rw [hs]
  exact hd holes

theorem closes_renderItems (items : List Json) : Closes (renderItems items) := by
  intro rest hrest
  cases items with
  | nil => exact hrest
  | cons item items => exact endsWord_of_punctuation rfl _

theorem closes_renderFields (fields : List (String × Json)) : Closes (renderFields fields) := by
  intro rest hrest
  cases fields with
  | nil => exact hrest
  | cons field fields => exact endsWord_of_punctuation rfl _

mutual

/-- The text of a value makes the document of the value. -/
theorem makes_document : ∀ j : Json, Exact j → Makes j.render j.document
  | .null, _ => makes_of_token (reads_word rfl (List.all_eq_true.mp rfl) rfl) fun _ => rfl
  | .bool true, _ => makes_of_token (reads_word rfl (List.all_eq_true.mp rfl) rfl) fun _ => rfl
  | .bool false, _ => makes_of_token (reads_word rfl (List.all_eq_true.mp rfl) rfl) fun _ => rfl
  | .int n, _ => by
    have hform := ofChars?_intDigits n
    rw [document, numberText, hform]
    exact makes_of_token (reads_number (fun _ hc => isWordPart_intDigits hc) hform) fun _ => rfl
  | .float x, h => by
    obtain ⟨n, hform, -⟩ := (h x (by simp [floats])).exists_number
    rw [document, numberText, hform]
    exact makes_of_token (reads_number (fun _ hc => isWordPart_floatText hc) hform) fun _ => rfl
  | .str s, _ => makes_of_token (reads_string s) fun _ => rfl
  | .arr [], _ =>
    makes_of_leads rfl rfl (fun _ => rfl) ((leads_nil _).punctuation rfl rfl fun _ => rfl)
  | .arr (item :: items), h => by
    have hexact := exact_arr.mp h
    have hitem := (makes_document item (hexact item List.mem_cons_self)).leads_firstItem
    have hitems := leads_items items [document item] fun i hi =>
      hexact i (List.mem_cons_of_mem _ hi)
    have hend : Leads [']']
        (fun holes => .nextItem holes ((documents items).reverse ++ [document item]))
        (fill (document (.arr (item :: items)))) := by
      refine (leads_nil _).punctuation rfl rfl fun holes => ?_
      simp [step?, document, documents]
    exact makes_of_leads rfl rfl (fun _ => rfl)
      ((hitem.append hitems (closes_renderItems items)).append hend (closes_cons rfl []))
  | .obj [], _ =>
    makes_of_leads rfl rfl (fun _ => rfl) ((leads_nil _).punctuation rfl rfl fun _ => rfl)
  | .obj (field :: fields), h => by
    have hexact := exact_obj.mp h
    have hfield := leads_member field [] true (hexact field List.mem_cons_self)
    have hfields := leads_members fields [memberDocument field] fun f hf =>
      hexact f (List.mem_cons_of_mem _ hf)
    have hend : Leads ['\x7d']
        (fun holes => .nextField holes ((memberDocuments fields).reverse ++ [memberDocument field]))
        (fill (document (.obj (field :: fields)))) := by
      refine (leads_nil _).punctuation rfl rfl fun holes => ?_
      simp [step?, document, memberDocuments]
    exact makes_of_leads rfl rfl (fun _ => rfl)
      ((hfield.append hfields (closes_renderFields fields)).append hend (closes_cons rfl []))

theorem leads_items : ∀ (items : List Json) (before : List Document),
    (∀ item ∈ items, Exact item) → Leads (renderItems items) (fun holes => .nextItem holes before)
      fun holes => .nextItem holes ((documents items).reverse ++ before)
  | [], before, _ => leads_nil _
  | item :: items, before, h => by
    have hitem := (makes_document item (h item List.mem_cons_self)).leads (.item before :: ·)
    have hitems := leads_items items (document item :: before) fun i hi =>
      h i (List.mem_cons_of_mem _ hi)
    have hboth := hitem.append hitems (closes_renderItems items)
    rw [documents, List.reverse_cons, List.append_assoc]
    exact hboth.punctuation rfl rfl fun _ => rfl

theorem leads_member : ∀ (field : String × Json) (before : List (StringText × Document))
    (mayEnd : Bool), Exact field.2 →
    Leads (renderField field) (fun holes => .key holes before mayEnd)
      fun holes => .nextField holes (memberDocument field :: before)
  | (key, value), before, mayEnd, h => by
    have hkey : Leads (stringText key) (fun holes => .key holes before mayEnd)
        fun holes => .colon holes before (some key) :=
      ⟨_, reads_string key, fun _ => rfl⟩
    have hvalue := (makes_document value h).leads (.member before (some key) :: ·)
    have hcolon : Leads (':' :: render value) (fun holes => .colon holes before (some key))
        fun holes => .nextField holes (memberDocument (key, value) :: before) :=
      hvalue.punctuation rfl rfl fun _ => rfl
    exact hkey.append hcolon (closes_cons rfl _)

theorem leads_members : ∀ (fields : List (String × Json)) (before : List (StringText × Document)),
    (∀ field ∈ fields, Exact field.2) →
    Leads (renderFields fields) (fun holes => .nextField holes before)
      fun holes => .nextField holes ((memberDocuments fields).reverse ++ before)
  | [], before, _ => leads_nil _
  | field :: fields, before, h => by
    have hfield := leads_member field before false (h field List.mem_cons_self)
    have hfields := leads_members fields (memberDocument field :: before) fun f hf =>
      h f (List.mem_cons_of_mem _ hf)
    have hboth := hfield.append hfields (closes_renderFields fields)
    rw [memberDocuments, List.reverse_cons, List.append_assoc]
    exact hboth.punctuation rfl rfl fun _ => rfl

end

/-- The text of a value is read as the document of the value. -/
theorem ofText?_text {j : Json} (h : Exact j) : Document.ofText? j.text = some j.document := by
  obtain ⟨ts, hreads, hd⟩ := (makes_document j h).leads id
  have htokens : tokens? j.render = some ts := by
    have hend : EndsWord [] := fun c hc => by cases hc
    simpa [tokens?] using hreads [] hend
  have hfold := hd []
  unfold Document.ofText? text
  rw [String.toList_ofList, htokens]
  simp only [id, fill] at hfold
  simp [hfold]

/-! ## The value of a document -/

theorem value?_document_int {depth : Nat} {n : Int} (hlow : Text.minInt64 ≤ n)
    (hhigh : n ≤ Text.maxIndex) : (int n).document.value? depth = some (int n) := by
  rw [document, numberText, ofChars?_intDigits, value?]
  exact value?_intNumber hlow hhigh

theorem value?_document_number {depth : Nat} {n : NumberText} {j : Json} (h : n.value? = some j)
    (hexact : Exact j) : j.document.value? depth = some j := by
  rcases isNumber_of_value? h with ⟨m, rfl⟩ | ⟨x, rfl⟩
  · obtain ⟨hlow, hhigh⟩ := range_of_value? h
    exact value?_document_int hlow hhigh
  · obtain ⟨n, hform, hvalue⟩ := (hexact x (by simp [floats])).exists_number
    rw [document, numberText, hform, value?]
    exact hvalue

theorem members?_memberDocuments {depth : Nat} {fields : List (String × Json)}
    (h : ∀ field ∈ fields, field.2.document.value? depth = some field.2) :
    members? depth (memberDocuments fields) = some fields := by
  induction fields with
  | nil => rfl
  | cons field fields ih =>
    obtain ⟨key, value⟩ := field
    have hvalue : value.document.value? depth = some value := h _ List.mem_cons_self
    have hfields := ih fun f hf => h f (List.mem_cons_of_mem _ hf)
    have hfield : member? depth (memberDocument (key, value)) = some (key, value) := by
      unfold memberDocument member?
      simp only [hvalue]
    rw [memberDocuments, members?, hfield, hfields]

mutual

/-- A value that was read is read from its own document. -/
theorem value?_document : ∀ (depth : Nat) (d : Document) (j : Json),
    d.value? depth = some j → Exact j → j.document.value? depth = some j
  | _, .null, j, h, _ => by
    cases h
    rfl
  | _, .bool b, j, h, _ => by
    cases h
    rfl
  | depth, .number n, j, h, hexact => value?_document_number h hexact
  | _, .str s, j, h, _ => by
    obtain ⟨s, -, rfl⟩ := Option.map_eq_some_iff.mp h
    rfl
  | depth, .arr items, j, h, hexact => by
    rw [value?] at h
    split at h
    · cases h
    · rename_i hdepth
      obtain ⟨vs, hvs, rfl⟩ := Option.map_eq_some_iff.mp h
      rw [document, value?, if_neg hdepth,
        values?_documents (depth - 1) items vs hvs (exact_arr.mp hexact)]
      rfl
  | depth, .obj fields, j, h, hexact => by
    rw [value?] at h
    split at h
    · cases h
    · rename_i hdepth
      obtain ⟨ms, hms, rfl⟩ := Option.map_eq_some_iff.mp h
      -- Of members with one key only the last is kept, and it is one of those that were read.
      have hkept : ∀ m ∈ Keyed.ofList ms, m.2.document.value? (depth - 1) = some m.2 := fun m hm =>
        value?_members (depth - 1) fields ms hms m (Keyed.mem_of_mem_ofList hm)
          (exact_obj.mp hexact m hm)
      rw [document, value?, if_neg hdepth, members?_memberDocuments hkept, Option.map_some,
        (Keyed.sorted_ofList ms).ofList_eq]

theorem values?_documents : ∀ (depth : Nat) (ds : List Document) (vs : List Json),
    values? depth ds = some vs → (∀ v ∈ vs, Exact v) → values? depth (documents vs) = some vs
  | depth, [], vs, h, hexact => by
    cases h
    rfl
  | depth, d :: ds, vs, h, hexact => by
    rw [values?] at h
    split at h
    · rename_i w ws hw hws
      cases h
      have hfirst := value?_document depth d w hw (hexact w List.mem_cons_self)
      have hrest := values?_documents depth ds ws hws fun v hv =>
        hexact v (List.mem_cons_of_mem _ hv)
      rw [documents, values?, hfirst, hrest]
    · cases h

theorem value?_member : ∀ (depth : Nat) (f : StringText × Document) (m : String × Json),
    member? depth f = some m → Exact m.2 → m.2.document.value? depth = some m.2
  | depth, (none, d), m, h, _ => by
    unfold member? at h
    cases h
  | depth, (some key, d), m, h, hexact => by
    unfold member? at h
    rcases hv : value? depth d with _ | v
    · simp [hv] at h
    · simp only [hv] at h
      cases h
      exact value?_document depth d v hv hexact

theorem value?_members : ∀ (depth : Nat) (fs : List (StringText × Document))
    (ms : List (String × Json)), members? depth fs = some ms →
    ∀ m ∈ ms, Exact m.2 → m.2.document.value? depth = some m.2
  | depth, [], ms, h => by
    cases h
    simp
  | depth, f :: fs, ms, h => by
    rw [members?] at h
    split at h
    · rename_i first rest hfirst hrest
      cases h
      intro m hm hexact
      rcases List.mem_cons.mp hm with rfl | hm
      · exact value?_member depth f m hfirst hexact
      · exact value?_members depth fs rest hrest m hm hexact
    · cases h

end

end Verdict.Json
