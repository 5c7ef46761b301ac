import FlagEngine.Proofs.Conditions.Kleene
import FlagEngine.Proofs.Rules

/-!
# Expanded audiences

References of a rule to audiences stand for the conditions of the audiences, and what is behind a reference in
an audience does not matter. Thus a rule is decided like a single tree without a project, `Rule.expanded`, in
which the references of audiences are left over: `Rule.expands_audiences`.
-/

namespace FlagEngine

namespace Condition

mutual

/-- The tree with trees in place of its leaves. -/
def substitute (f : Leaf → Condition) : Condition → Condition
  | .leaf l => f l
  | .branch op operands => .branch op (substituteAll f operands)

def substituteAll (f : Leaf → Condition) : List Condition → List Condition
  | [] => []
  | c :: cs => substitute f c :: substituteAll f cs

end

variable {f : Leaf → Condition} {assign : Leaf → Truth} {c : Condition} {p : Project}
  {attributes : Attributes}

theorem substituteAll_eq_map (operands : List Condition) :
    substituteAll f operands = operands.map (substitute f) := by
  induction operands with
  | nil => rfl
  | cons c cs ih => rw [substituteAll, ih, List.map_cons]

/-- A leaf may be replaced before or after it is evaluated. -/
theorem valueUnder_substitute :
    (c.substitute f).valueUnder assign = c.valueUnder fun l => (f l).valueUnder assign := by
  induction c using inductionOn with
  | leaf l => rfl
  | branch op operands ih =>
    rw [substitute, valueUnder_branch, valueUnder_branch, substituteAll_eq_map, List.map_map]
    exact congrArg _ (List.map_congr_left ih)

theorem evaluate_eq_valueUnder : c.evaluate attributes = c.valueUnder (Leaf.evaluate attributes) := rfl

namespace Leaf

/-- What stands for a leaf of a rule: for a reference the conditions of the audience, if there is one. -/
def resolve (p : Project) : Leaf → Condition
  | .audience id =>
    match p.audience? id with
    | some a => a.conditions
    | none => .leaf (.malformed (.string id))
  | .test t => .leaf (.test t)
  | .malformed json => .leaf (.malformed json)

theorem value_test (t : Test) : (t.truth attributes).value = (Leaf.test t).evaluate attributes := by
  simp only [Test.truth, evaluate]
  cases t.evaluate attributes <;> rfl

theorem value_truthWithin (id : String) (l : Leaf) :
    (l.truthWithin attributes id).value = l.evaluate attributes := by
  cases l with
  | test t => exact value_test t
  | audience nested | malformed json => rfl

/-- An audience is worth what its conditions are worth without any other audiences. -/
theorem value_audience {id : String} {a : Audience} (h : p.audience? id = some a) :
    ((Leaf.audience id).truth p attributes).value = a.conditions.evaluate attributes := by
  simp only [truth, h, value_evaluateM, value_truthWithin, evaluate_eq_valueUnder]

theorem value_truth (l : Leaf) :
    (l.truth p attributes).value = (l.resolve p).evaluate attributes := by
  cases l with
  | test t => exact value_test t
  | audience id =>
    cases h : p.audience? id with
    | none => simp only [truth, resolve, h]; rfl
    | some a => simp only [value_audience h, resolve, h]
  | malformed json => rfl

end Leaf

end Condition

open Condition (Leaf)

/-- The conditions of a rule with those of its audiences in place of the references to them. -/
def Rule.expanded (p : Project) (r : Rule) : Condition :=
  r.targeting.substitute (Leaf.resolve p)

theorem Rule.value_targeting (p : Project) (r : Rule) (attributes : Attributes) :
    (r.targeting.evaluateM (Leaf.truth p attributes)).value = (r.expanded p).evaluate attributes := by
  rw [Condition.value_evaluateM, expanded, Condition.evaluate_eq_valueUnder, Condition.valueUnder_substitute]
  exact congrArg r.targeting.valueUnder (funext Leaf.value_truth)

/-- The value of the audience rests on the audiences that it refers to, be they others or itself: there are
answers to the references that would make a difference. -/
def Audience.RestsOnReferences (a : Audience) (attributes : Attributes) : Prop :=
  ∃ assign assign' : Leaf → Truth,
    (∀ l, (∀ id, l ≠ .audience id) →
      assign l = l.evaluate attributes ∧ assign' l = l.evaluate attributes) ∧
    a.conditions.valueUnder assign ≠ a.conditions.valueUnder assign'

theorem Audience.RestsOnReferences.evaluate_eq_unknown {a : Audience} {attributes : Attributes}
    (h : a.RestsOnReferences attributes) : a.conditions.evaluate attributes = .unknown := by
  obtain ⟨assign, assign', htests, hne⟩ := h
  by_contra hknown
  -- A value that is known while the references are not would stay, whatever they are answered.
  have hlearns (answer : Leaf → Truth)
      (hanswer : ∀ l, (∀ id, l ≠ .audience id) → answer l = l.evaluate attributes) :
      a.conditions.valueUnder answer = a.conditions.evaluate attributes := by
    refine Condition.valueUnder_learnsTo (fun l _ hl => hanswer l ?_) hknown
    rintro id rfl
    exact hl rfl
  refine hne ?_
  rw [hlearns assign fun l hl => (htests l hl).1, hlearns assign' fun l hl => (htests l hl).2]

/-- **A rule is decided like its expansion.** It matches a user exactly if the tree is true in which the
conditions of its audiences stand for the references to them, with a malformed leaf for an unknown audience and
the references inside audiences left as they are. These end there and are unknown, also those of an audience to
itself or round in a circle, and so is an audience that rests on them. Without conditions and audiences a rule
matches everyone. -/
theorem Rule.expands_audiences (p : Project) (r : Rule) (name : String) (attributes : Attributes) :
    ((r.admits p name attributes).value = true ↔ (r.expanded p).evaluate attributes = .yes) ∧
    (∀ id nested, ((Leaf.audience nested).truthWithin attributes id).value = .unknown) ∧
    (∀ id a, p.audience? id = some a → a.RestsOnReferences attributes →
      ((Leaf.audience id).truth p attributes).value = .unknown) ∧
    (r.conditions = none → r.audienceIds = [] → (r.admits p name attributes).value = true) := by
  have hadmits : (r.admits p name attributes).value = true ↔ (r.expanded p).evaluate attributes = .yes := by
    rw [admits_eq_true, Covers, value_targeting]
  refine ⟨hadmits, fun _ _ => rfl, fun id a ha hrests => ?_, fun hconditions hids => ?_⟩
  · rw [Leaf.value_audience ha, hrests.evaluate_eq_unknown]
  · rw [hadmits, expanded, targeting, hconditions, hids]
    rfl

namespace Rule.Expansion.Sample

def reference (id : String) : Condition :=
  .leaf (.audience id)

def domestic : Condition :=
  .leaf (.test ⟨some "country", some "custom_attribute", none, some (.string "us")⟩)

/-- Refers to the other audience of a circle. -/
def first : Audience :=
  ⟨"1", "first", .branch .or [reference "2"]⟩

/-- Refers to the first audience and to itself. -/
def second : Audience :=
  ⟨"2", "second", .branch .and [reference "1", .branch .not [reference "2"]]⟩

def project : Project :=
  .ofDatafile { (default : Datafile) with
    audiences := [first, second, ⟨"3", "domestic", domestic⟩] }

/-- Any of the audiences, and one that does not exist. -/
def rule : Rule :=
  { (default : Rule) with
    audienceIds := ["1", "2", "3", "4"] }

def attributes : Attributes :=
  Std.TreeMap.ofList [("country", Attribute.string "us")]

/-- Answers to all references at once. -/
def answer (v : Truth) : Leaf → Truth
  | .audience _ => v
  | l => l.evaluate attributes

theorem answer_eq (v : Truth) {l : Leaf} (h : ∀ id, l ≠ .audience id) : answer v l = l.evaluate attributes := by
  cases l with
  | audience id => exact (h id rfl).elim
  | test t | malformed json => rfl

theorem restsOnReferences {a : Audience}
    (h : a.conditions.valueUnder (answer .yes) ≠ a.conditions.valueUnder (answer .unknown)) :
    a.RestsOnReferences attributes :=
  ⟨answer .yes, answer .unknown, fun _ hl => ⟨answer_eq .yes hl, answer_eq .unknown hl⟩, h⟩

end Rule.Expansion.Sample

open Rule.Expansion in
/-- Two audiences of the rule run in circles, one does not exist, and the last one decides. -/
theorem Rule.expands_audiences_of_circle :
    (Sample.rule.expanded Sample.project).evaluate Sample.attributes = .yes ∧
      (Sample.rule.admits Sample.project "rule" Sample.attributes).value = true ∧
      ((Leaf.audience "1").truth Sample.project Sample.attributes).value = .unknown ∧
      ((Leaf.audience "2").truth Sample.project Sample.attributes).value = .unknown := by
  have hvalue : (Sample.rule.expanded Sample.project).evaluate Sample.attributes = .yes := by decide +kernel
  obtain ⟨hadmits, -, hcircle, -⟩ :=
    expands_audiences Sample.project Sample.rule "rule" Sample.attributes
  refine ⟨hvalue, hadmits.mpr hvalue, hcircle "1" Sample.first rfl ?_, hcircle "2" Sample.second rfl ?_⟩
  · exact Sample.restsOnReferences (by decide +kernel)
  · exact Sample.restsOnReferences (by decide +kernel)

end FlagEngine
