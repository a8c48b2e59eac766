-- Sessions with a store: requests one after another, and snapshots that are
-- kept, changed and put back in between. A store serves them as a finite map
-- does, and a snapshot counts only from the step that puts it in.
import Mathlib.Logic.Function.Basic
import Verdict.Proofs.Definition.Writing
import Verdict.Proofs.Store.Requests

namespace Verdict

/-- Snapshots of rule sets, by the names under which they are kept. -/
abbrev Snapshots := String → Option RuleSet

/-- What answers the requests of a session, and the snapshots that the session keeps. -/
structure Session (σ : Type) where
  state : σ
  kept : Snapshots := fun _ => none

namespace Session

inductive Step where
  | ask (q : Request)
  /-- Asks for a rule set, and keeps what is found. -/
  | keep (id name : String)
  /-- Changes a snapshot, in whatever way. -/
  | change (name : String) (f : RuleSet → RuleSet)
  /-- Puts a snapshot in. -/
  | load (name : String)
  /-- Puts a snapshot in the place of the rule set with its id. -/
  | update (name : String)

namespace Step

/-- What is asked for. A snapshot is put in only if there is one. -/
def request? (kept : Snapshots) : Step → Option Request
  | ask q => some q
  | keep id _ => some (.get id)
  | change _ _ => none
  | load name => (kept name).map .load
  | update name => (kept name).map .update

/-- The name of the snapshot that is put in. -/
def source? : Step → Option String
  | load name | update name => some name
  | ask _ | keep _ _ | change _ _ => none

def keptAfter (kept : Snapshots) (answer : Option Answer) : Step → Snapshots
  | keep _ name => Function.update kept name (answer.bind Answer.found?)
  | change name f => Function.update kept name ((kept name).map f)
  | ask _ | load _ | update _ => kept

end Step

variable {σ τ : Type}

/-- The answer of a step, if it asks for anything, and the session after it. -/
def step (respond : σ → Request → Answer × σ) (x : Session σ) (t : Step) :
    Option Answer × Session σ :=
  match t.request? x.kept with
  | some q => (some (respond x.state q).1,
      ⟨(respond x.state q).2, t.keptAfter x.kept (some (respond x.state q).1)⟩)
  | none => (none, ⟨x.state, t.keptAfter x.kept none⟩)

/-- The answers of steps, and the session after them. -/
def run (respond : σ → Request → Answer × σ) (x : Session σ) :
    List Step → List (Option Answer) × Session σ
  | [] => ([], x)
  | t :: rest =>
    let others := run respond (x.step respond t).2 rest
    ((x.step respond t).1 :: others.1, others.2)

/-! ## Two sessions -/

section

variable {f : σ → Request → Answer × σ} {g : τ → Request → Answer × τ}

/-- Sessions give the same answers if they are alike in a way that each step keeps. -/
theorem run_alike (Allowed : Step → Prop) {Alike : Session σ → Session τ → Prop}
    (hstep : ∀ x y t, Allowed t → Alike x y →
      (x.step f t).1 = (y.step g t).1 ∧ Alike (x.step f t).2 (y.step g t).2)
    {steps : List Step} (hallowed : ∀ t ∈ steps, Allowed t) {x : Session σ} {y : Session τ}
    (h : Alike x y) :
    (x.run f steps).1 = (y.run g steps).1 ∧ Alike (x.run f steps).2 (y.run g steps).2 := by
  induction steps generalizing x y with
  | nil => exact ⟨rfl, h⟩
  | cons t rest ih =>
    obtain ⟨hanswer, hafter⟩ := hstep x y t (hallowed t List.mem_cons_self) h
    obtain ⟨hanswers, halike⟩ := ih (fun u hu => hallowed u (List.mem_cons_of_mem t hu)) hafter
    refine ⟨?_, halike⟩
    simp only [run]
    rw [hanswer, hanswers]

end

/-! ## Snapshots -/

/-- Sessions that differ at most in one snapshot. -/
structure AlikeBut (name : String) (x y : Session σ) : Prop where
  state : x.state = y.state
  kept : ∀ other ≠ name, x.kept other = y.kept other

section

variable {name : String} {x y : Session σ}

theorem AlikeBut.request?_eq (h : x.AlikeBut name y) {t : Step} (ht : t.source? ≠ some name) :
    t.request? x.kept = t.request? y.kept := by
  cases t with
  | load other =>
    have hother : other ≠ name := fun heq => ht (congrArg some heq)
    exact congrArg (Option.map Request.load) (h.kept other hother)
  | update other =>
    have hother : other ≠ name := fun heq => ht (congrArg some heq)
    exact congrArg (Option.map Request.update) (h.kept other hother)
  | _ => rfl

theorem AlikeBut.keptAfter_eq (h : x.AlikeBut name y) (t : Step) (answer : Option Answer)
    {other : String} (hother : other ≠ name) :
    t.keptAfter x.kept answer other = t.keptAfter y.kept answer other := by
  have hkept := h.kept other hother
  cases t with
  | keep id place =>
    simp only [Step.keptAfter, Function.update_apply]
    rw [hkept]
  | change place f =>
    simp only [Step.keptAfter, Function.update_apply]
    split
    · rename_i hplace
      rw [← hplace, hkept]
    · exact hkept
  | _ => exact hkept

theorem AlikeBut.step (respond : σ → Request → Answer × σ) (h : x.AlikeBut name y) {t : Step}
    (ht : t.source? ≠ some name) : (x.step respond t).1 = (y.step respond t).1 ∧
      (x.step respond t).2.AlikeBut name (y.step respond t).2 := by
  unfold Session.step
  rw [h.request?_eq ht, h.state]
  split
  · exact ⟨rfl, rfl, fun other hother => h.keptAfter_eq t _ hother⟩
  · exact ⟨rfl, rfl, fun other hother => h.keptAfter_eq t _ hother⟩

theorem alikeBut_change (respond : σ → Request → Answer × σ) (x : Session σ) (name : String)
    (f : RuleSet → RuleSet) : (x.step respond (.change name f)).2.AlikeBut name x :=
  ⟨rfl, fun _ hother => Function.update_of_ne hother _ _⟩

end

/-! ## The map of the store -/

/-- A store with its map, and with snapshots that are the same. -/
structure Matches (made : String → RuleSetDefinition → RuleSet) (x : Session Store)
    (y : Session RuleSetMap) : Prop where
  orderly : x.state.Orderly
  made : x.state.ofDefinition = made
  map : x.state.map = y.state
  kept : x.kept = y.kept

theorem Matches.step {made : String → RuleSetDefinition → RuleSet} {x : Session Store}
    {y : Session RuleSetMap} (h : Matches made x y) (t : Step) :
    (x.step Store.respond t).1 = (y.step (RuleSetMap.respond made) t).1 ∧
      Matches made (x.step Store.respond t).2 (y.step (RuleSetMap.respond made) t).2 := by
  have hrespond : ∀ q, RuleSetMap.respond made y.state q =
      ((x.state.respond q).1, (x.state.respond q).2.map) := by
    intro q
    rw [← h.made, ← h.map]
    exact x.state.respond_map q
  unfold Session.step
  rw [← h.kept]
  split
  · rename_i q hq
    rw [hrespond q]
    exact ⟨rfl, h.orderly.respond q, (x.state.ofDefinition_respond q).trans h.made, rfl, rfl⟩
  · exact ⟨rfl, h.orderly, h.made, h.map, rfl⟩

end Session

namespace Store

/-- However a store is used, step by step, it answers as a finite map from ids to rule sets does,
and tells of itself what the map tells. Each rule set stands under its own id. The text of a
definition is loaded as the definition. A text that is none, and an id that is not there, are
refused and leave the store as it was. An evaluation answers as the rule set alone does, and touches
no other one. A change of a snapshot makes no difference as long as no step puts that snapshot
in. -/
theorem the_store_is_a_finite_map (reporter : Reporter) (options : Options)
    (steps : List Session.Step) :
    let made := fun newId d => (RuleSet.ofDefinition reporter newId d).withOptions options
    let byStore := Session.run Store.respond { state := { reporter, options } } steps
    let byMap := Session.run (RuleSetMap.respond made) { state := ∅ } steps
    let s := byStore.2.state
    let m := byMap.2.state
    byStore.1 = byMap.1 ∧ s.Shows m ∧
    (∀ id r, s.get? id = some r → r.id = id) ∧
    (∀ newId d, d.Fits →
      s.respond (.loadText newId d.json.text) = s.respond (.loadDefinition newId d)) ∧
    (∀ newId text, RuleSetDefinition.ofText? text = none →
      s.respond (.loadText newId text) = (.refused .notJson, s)) ∧
    (∀ q id, q.needs? = some id → id ∉ m → s.respond q = (.refused (.unknownRuleSet id), s)) ∧
    (∀ id r record now, s.get? id = some r →
      (s.respond (.evaluate id record now)).1 = .evaluated (r.evaluate record now) ∧
      ∀ other, (s.respond (.evaluate id record now)).2.get? other =
        if other = id then some (r.evaluated record now) else s.get? other) ∧
    (∀ name f later, (∀ t ∈ later, t.source? ≠ some name) →
      let changed := (byStore.2.step Store.respond (.change name f)).2
      (changed.run Store.respond later).1 = (byStore.2.run Store.respond later).1 ∧
      (changed.run Store.respond later).2.state = (byStore.2.run Store.respond later).2.state) := by
  intro made byStore byMap s m
  have horderly : ({ reporter, options } : Store).Orderly :=
    Orderly.clear (s := { reporter, options })
  have hstart : Session.Matches made { state := { reporter, options } } { state := ∅ } :=
    ⟨horderly, rfl, rfl, rfl⟩
  obtain ⟨hanswers, hmatches⟩ := Session.run_alike (fun _ => True)
    (fun _ _ t _ h => h.step t) (fun t (_ : t ∈ steps) => trivial) hstart
  have hs : s.Orderly := hmatches.orderly
  have hm : s.map = m := hmatches.map
  refine ⟨hanswers, hm ▸ hs.shows, hs.named, ?_, ?_, ?_, ?_, ?_⟩
  · intro newId d hd
    exact respond_loadText hd.ofText?_text
  · intro newId text htext
    exact respond_of_notJson htext
  · intro q id hq hid
    exact respond_of_unknown hq (hm ▸ hid)
  · intro id r record now hr
    rw [respond_evaluate hr]
    exact ⟨rfl, fun other => Keyed.find?_insert id other _ s.ruleSets⟩
  · intro name f later hlater changed
    have hchanged : changed.AlikeBut name byStore.2 :=
      Session.alikeBut_change Store.respond byStore.2 name f
    obtain ⟨hsame, hafter⟩ := Session.run_alike (fun t => t.source? ≠ some name)
      (fun _ _ t ht h => h.step Store.respond ht) hlater hchanged
    exact ⟨hsame, hafter.state⟩

/-- A condition with values and one without. -/
def stockDefinition : RuleSetDefinition where
  id := some "a"
  name := none
  conditions := [⟨.label "A", "Gt", some (.field "stock"), some (.literal "Int" "1")⟩,
    ⟨.index 1, "Eq", none, none⟩]
  equation := .formula "a"

theorem fits_stockDefinition : stockDefinition.Fits := by
  have hleaf : ∀ {d : NodeDefinition} {name text : String},
      some ⟨some name, some (.str text), none, none, none⟩ = some d → d.Fits valueDepth := by
    rintro _ name text ⟨⟩
    show NodeDefinition.Fits valueDepth ⟨some name, (some text).map .str, none, none, none⟩
    exact .node (fun _ h => nomatch h) fun _ h => nomatch h
  constructor
  · intro c hc
    rcases List.mem_pair.mp hc with rfl | rfl
    · exact ⟨fun _ h => (nomatch h), fun _ h => hleaf h, fun _ h => hleaf h⟩
    · refine ⟨?_, fun _ h => (nomatch h), fun _ h => (nomatch h)⟩
      rintro _ ⟨⟩
      decide
  · intro items h
    cases h

/-- Another text of this definition: the first condition is a list, and its comparator a symbol. -/
def stockText : String :=
  "\x7b\"id\":\"a\",\"conditions\":[" ++
    "[\"A\",\">\",[\"Field\",\"stock\"],[\"Int\",1]],\x7b\"id\":1,\"comparator\":\"Eq\"\x7d]," ++
    "\"equation\":\x7b\"formula\":\"a\"\x7d\x7d"

/-- A text with an enabled and a disabled condition is loaded, and so is a rule set without
conditions. What is found for the first gets one more condition, and there is no rule set "c". -/
theorem a_changed_snapshot_stays_outside :
    let steps : List Session.Step :=
      [.ask (.loadText "new" stockText), .ask (.load (.new "b")), .keep "a" "mine"]
    let record : Record := .document (.obj [("stock", .int 5)])
    let now := Moment.midnight ⟨2024, 1, 1, by decide⟩
    let x := (Session.run Store.respond { state := {} } steps).2
    let s := x.state
    let r := RuleSet.ofDefinition {} "new" stockDefinition
    let changed := (x.step Store.respond (.change "mine" fun r => r.add 2 (.disabled 2 .eq))).2
    s.ids = ["a", "b"] ∧ s.stats = ⟨2, 2, 1⟩ ∧ s.get? "a" = some r ∧
      changed.kept "mine" ≠ x.kept "mine" ∧
      (changed.run Store.respond [.ask (.get "a")]).1 =
        (x.run Store.respond [.ask (.get "a")]).1 ∧
      s.respond (.loadText "new" stockDefinition.json.text) =
        s.respond (.loadDefinition "new" stockDefinition) ∧
      s.respond (.loadText "new" "oops") = (.refused .notJson, s) ∧
      s.respond (.delete "c") = (.refused (.unknownRuleSet "c"), s) ∧
      (s.respond (.evaluate "a" record now)).1 = .evaluated (r.evaluate record now) ∧
      (r.evaluate record now).matchedConditions = ["stock Gt 1"] := by
  intro steps record now x s r changed
  obtain ⟨-, hshows, -, hwritten, htext, hunknown, hevaluate, hchange⟩ :=
    the_store_is_a_finite_map {} {} steps
  have hstate : s = { ruleSets := [("a", r), ("b", .new "b")] } := by decide +kernel
  have hfound : s.get? "a" = some r := by rw [hstate]; rfl
  have hnot : s.contains "c" = false := by rw [hstate]; rfl
  have hc := hshows.contains "c"
  obtain ⟨hsame, -⟩ := hchange "mine" (fun r => r.add 2 (.disabled 2 .eq)) [.ask (.get "a")]
    (by decide)
  refine ⟨?_, ?_, hfound, by decide +kernel, hsame, ?_, ?_, ?_, ?_, by decide +kernel⟩
  · rw [hstate]
    rfl
  · rw [hstate]
    decide +kernel
  · exact hwritten "new" stockDefinition fits_stockDefinition
  · exact htext "new" "oops" (Option.isNone_iff_eq_none.mp (by decide +kernel))
  · exact hunknown (.delete "c") "c" rfl (of_decide_eq_false (hc.symm.trans hnot))
  · exact (hevaluate "a" r record now hfound).1

end Store

end Verdict
