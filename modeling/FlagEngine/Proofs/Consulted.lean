import FlagEngine.Proofs.Conditions
import FlagEngine.Proofs.Projects
import FlagEngine.Proofs.Resemblance
import FlagEngine.Services

/-!
# Consulted attributes

Of a user's attributes, deciding a flag looks at the one that replaces the user id in bucketing, at those that
conditions of the project are about, and at those that its bandits are told. All others may be anything:
`Flag.decided_by_consulted`.
-/

namespace FlagEngine

open Condition (Leaf)

/-- The names of attributes that a project consults. -/
inductive Project.Consults (p : Project) : String → Prop where
  | bucketing : Consults p Attributes.bucketingKey
  /-- By the conditions of a rule. -/
  | rule {r : Rule} {c : Condition} {name : String} :
      p.HasRule r → r.conditions = some c → c.Tests name → Consults p name
  | audience {id name : String} {audience : Audience} :
      p.audience? id = some audience → audience.conditions.Tests name → Consults p name
  /-- By the bandit of an experiment. -/
  | bandit {id attributeId name : String} {e : Experiment} {b : Experiment.Bandit} :
      p.experiment? id = some e → e.bandit = some b → attributeId ∈ b.attributeIds →
        p.attributeName? attributeId = some name → Consults p name

variable {p : Project} {a a' : Attributes}

namespace Attributes

/-- The attributes have the same values, or none, wherever the project consults them. -/
def AgreeIn (p : Project) (a a' : Attributes) : Prop :=
  ∀ name, p.Consults name → a[name]? = a'[name]?

/-- An attribute that the project does not consult may be set to anything. -/
theorem agreeIn_insert {name : String} (h : ¬ p.Consults name) (a : Attributes) (value : Attribute) :
    AgreeIn p (a.insert name value) a := by
  intro name' hname'
  rw [Std.TreeMap.getElem?_insert, if_neg]
  intro he
  rw [Std.LawfulEqCmp.compare_eq_iff_eq.mp he] at h
  exact h hname'

end Attributes

/-! ## Rules -/

namespace Condition

theorem not_hasLeaf_anyAudience {ids : List String} {t : Test} : ¬ (anyAudience ids).HasLeaf (.test t) := by
  rintro (_ | ⟨hc, hl⟩)
  obtain ⟨id, -, rfl⟩ := List.mem_map.mp hc
  cases hl

theorem Test.truth_congr {t : Test} (h : ∀ name, t.name = some name → a[name]? = a'[name]?) :
    t.truth a = t.truth a' := by
  unfold truth
  rw [evaluate_congr h]

/-- A leaf of an audience has the same value for attributes that agree on the name that it is about. -/
theorem Leaf.truthWithin_congr {id : String} {l : Leaf}
    (h : ∀ t name, l = .test t → t.name = some name → a[name]? = a'[name]?) :
    l.truthWithin a id = l.truthWithin a' id := by
  cases l with
  | test t => exact Test.truth_congr fun name => h t name rfl
  | audience nested | malformed json => rfl

theorem Leaf.truth_congr (ha : a.AgreeIn p a') {l : Leaf}
    (h : ∀ t name, l = .test t → t.name = some name → a[name]? = a'[name]?) :
    l.truth p a = l.truth p a' := by
  cases l with
  | test t => exact Test.truth_congr fun name => h t name rfl
  | audience id =>
    simp only [truth]
    cases hid : p.audience? id with
    | none => rfl
    | some audience =>
      refine evaluateM_congr fun l hl => truthWithin_congr ?_
      rintro t name rfl hname
      exact ha name (.audience hid ⟨t, hl, hname⟩)
  | malformed json => rfl

end Condition

/-- A rule of the project covers attributes that agree alike, for the same reasons. -/
theorem Rule.admits_congr (ha : a.AgreeIn p a') {r : Rule} (hr : p.HasRule r) (n : String) :
    r.admits p n a = r.admits p n a' := by
  have htargeting : r.targeting.evaluateM (Leaf.truth p a) = r.targeting.evaluateM (Leaf.truth p a') := by
    refine Condition.evaluateM_congr fun l hl => Leaf.truth_congr ha ?_
    rintro t name rfl hname
    unfold targeting at hl
    cases hc : r.conditions with
    | none =>
      rw [hc] at hl
      exact (Condition.not_hasLeaf_anyAudience hl).elim
    | some c =>
      rw [hc] at hl
      exact ha name (.rule hr hc ⟨t, hl, hname⟩)
  unfold admits
  rw [htargeting]

/-! ## Bandits -/

namespace Attributes

theorem getElem?_restrict (a : Attributes) (names : List String) (name : String) :
    (a.restrict names)[name]? = if name ∈ names then a[name]? else none := by
  rw [restrict, Std.TreeMap.getElem?_filter']
  by_cases hn : name ∈ names <;> cases a[name]? <;> simp [hn]

theorem toList_restrict_congr {names : List String} (h : ∀ name ∈ names, a[name]? = a'[name]?) :
    (a.restrict names).toList = (a'.restrict names).toList := by
  refine (Std.TreeMap.Equiv.of_forall_constGet?_eq fun name => ?_).toList_eq
  have hname : (a.restrict names)[name]? = (a'.restrict names)[name]? := by
    rw [getElem?_restrict, getElem?_restrict]
    exact ite_congr rfl (h name) fun _ => rfl
  exact hname

theorem fingerprint_congr (h : a.toList = a'.toList) : a.fingerprint = a'.fingerprint := by
  unfold fingerprint hash pairs
  rw [h]

theorem bucketingId_congr (h : a[bucketingKey]? = a'[bucketingKey]?) (userId : String) :
    a.bucketingId userId = a'.bucketingId userId := by
  unfold bucketingId
  rw [h]

end Attributes

namespace Bandit

/-- A call as a bandit gets it, with the attributes in ascending order of their names. -/
structure Message where
  ruleId : String
  userId : String
  attributes : List (String × Attribute)
  uuid : String

def Call.message (call : Call) : Message :=
  ⟨call.ruleId, call.userId, call.attributes.toList, call.uuid⟩

/-- The attribute is one that the bandit of a rule is told. The project has an experiment of that id, and an id
that its bandit names is that of the attribute. -/
inductive Tells (p : Project) (ruleId : String) : String → Prop where
  | intro {e : Experiment} {b : Experiment.Bandit} {attributeId name : String} :
      p.experiment? ruleId = some e → e.bandit = some b → attributeId ∈ b.attributeIds →
        p.attributeName? attributeId = some name → Tells p ruleId name

theorem Tells.consults {ruleId name : String} (h : Tells p ruleId name) : p.Consults name := by
  obtain ⟨he, hb, hid, hname⟩ := h
  exact .bandit he hb hid hname

theorem mem_attributeNames {ruleId name : String} : name ∈ attributeNames p ruleId ↔ Tells p ruleId name := by
  unfold attributeNames
  constructor
  · intro h
    split at h
    · next b hb =>
      obtain ⟨e, he, hb⟩ := Option.bind_eq_some_iff.mp hb
      obtain ⟨attributeId, hmem, hkey⟩ := List.mem_filterMap.mp h
      exact ⟨he, hb, hmem, hkey⟩
    · cases h
  · rintro ⟨he, hb, hmem, hkey⟩
    rw [he, Option.bind_some, hb]
    exact List.mem_filterMap.mpr ⟨_, hmem, hkey⟩

theorem toList_told_congr {ruleId : String} (ha : ∀ name, Tells p ruleId name → a[name]? = a'[name]?) :
    (told p ruleId a).toList = (told p ruleId a').toList :=
  Attributes.toList_restrict_congr fun name hname => ha name (mem_attributeNames.mp hname)

/-- A bandit is consulted alike with attributes that agree on what it is told. -/
theorem resembles_consult {ruleId : String} (ha : ∀ name, Tells p ruleId name → a[name]? = a'[name]?)
    (userId : String) (options : CacheOptions) :
    (consult p userId a ruleId options).Resembles (fun call call' => call.message = call'.message) Eq
      (consult p userId a' ruleId options) := by
  have htold := toList_told_congr ha
  have hfingerprint := Attributes.fingerprint_congr htold
  unfold consult
  dsimp only
  rw [hfingerprint]
  refine .ask fun finding => ?_
  cases finding with
  | hit e => exact .done rfl
  | miss ticket =>
    refine .ask fun uuid => .fetch ?_ fun reply => ?_
    · unfold Call.message
      rw [htold]
    · apply Plan.Resembles.refl
      · intro call
        rfl
      · intro choice
        rfl

end Bandit

/-! ## Flags -/

/-- All reasons count, and so do the messages to bandits. -/
def sameMessages : Tolerance where
  alike call call' := call.message = call'.message
  essential _ := true
  alike_refl _ := rfl

theorem Attributes.AgreeIn.alike (ha : a.AgreeIn p a') (userId : String) :
    a.Alike sameMessages p userId a' where
  bucketingId := bucketingId_congr (ha _ .bucketing) userId
  admits _ hr n := Rule.admits_congr ha hr n
  consult _ := Bandit.resembles_consult (fun name h => ha name h.consults) userId

theorem User.alike_of_agreeIn {user user' : User} (flag : Flag) (hid : user.id = user'.id)
    (hforced : ∀ point : DecisionPoint, user.forced[point]? = user'.forced[point]?)
    (ha : user.attributes.AgreeIn p user'.attributes) : user.Alike sameMessages p flag user' where
  id := hid
  attributes := ha.alike user.id
  forced ruleKey := by
    refine .of_eq ?_
    unfold forcedDecision?
    rw [hforced, hid]

namespace Flag

/-- **Decisions depend only on consulted attributes.** Let two users have the same id and force the same
decisions, and let their attributes agree wherever the project consults them. However the services answer and
whatever a bandit replies to what it is told, to decide a flag for either user comes to the same verdict or
failure for the same reasons and leaves the services in the same state, and what passes on the way is the
same, too: question for question, answer for answer, and message for message to the bandits. -/
theorem decided_by_consulted {σ : Type} (handler : Plan.Handler σ)
    (reply : Bandit.Message → σ → Bandit.Reply × σ) (s : σ) (engine : Engine) (p : Project) (flag : Flag)
    (options : Options) (user user' : User) (hid : user.id = user'.id)
    (hforced : ∀ point : DecisionPoint, user.forced[point]? = user'.forced[point]?)
    (hattributes : user.attributes.AgreeIn p user'.attributes) :
    let call (u : User) := (flag.deliberate engine p u options).settle (engine.tracker? u.id options)
    let run (u : User) := (call u).run handler (fun call => reply call.message) s
    let transcript (u : User) := (call u).transcript handler (fun call => reply call.message) s
    (run user).1.result = (run user').1.result ∧ (run user).1.reasons = (run user').1.reasons ∧
      (run user).2 = (run user').2 ∧
      List.Forall₂ (Exchange.Resembles fun call call' => call.message = call'.message)
        (transcript user) (transcript user') := by
  intro call run transcript
  have halike : user.Alike sameMessages p flag user' := User.alike_of_agreeIn flag hid hforced hattributes
  have hcall : (call user).Resembles sameMessages.alike (Outcome.Resembles sameMessages) (call user') := by
    simp only [call, ← hid]
    exact (resembles_deliberate halike).settle _
  obtain ⟨houtcome, hstate, htranscript⟩ :=
    hcall.run handler (fun _ _ h => congrArg reply h) s
  have hreasons := houtcome.reasons.essential
  simp only [sameMessages, List.filter_true] at hreasons
  exact ⟨houtcome.result, hreasons, hstate, htranscript⟩

end Flag

/-! ### A project that consults one attribute -/

namespace Project.Consults.Sample

def condition : Condition :=
  .leaf (.test ⟨some "country", some "custom_attribute", some "exists", none⟩)

/-- An experiment with a bandit for everyone whose country is known. The bandit is told the country. -/
def experiment : Experiment :=
  { (default : Experiment) with
    id := "x"
    key := "x"
    status := .running
    variations := [⟨"v", "on", none, []⟩]
    conditions := some condition
    bandit := some ⟨10000, ["a"]⟩ }

def flag : Flag :=
  ⟨"1", "f", "", ["x"], []⟩

def datafile : Datafile :=
  { (default : Datafile) with
    experiments := [experiment]
    flags := [flag]
    attributes := [⟨"a", "country"⟩] }

def engine : Engine :=
  { (default : Engine) with hasBandit := true }

/-- A bandit that wants to be told one attribute. -/
def reply (message : Bandit.Message) (s : Services) : Bandit.Reply × Services :=
  (if message.attributes.length = 1 then .ok "v" else .error .invalidResponse, s)

def user (attributes : Attributes) : User :=
  ⟨"u", attributes, ∅⟩

/-- What the flag comes to for a user with some attributes. -/
def run (attributes : Attributes) : Outcome Verdict × Services :=
  ((flag.deliberate engine (.ofDatafile datafile) (user attributes) .empty).settle
    (engine.tracker? (user attributes).id .empty)).run Services.answer (fun call => reply call.message)
      default

def french : Attributes :=
  (∅ : Attributes).insert "country" (.string "fr")

def coloured : Attributes :=
  french.insert "colour" (.string "red")

theorem eq_experiment {id : String} {e : Experiment}
    (h : (Project.ofDatafile datafile).experiment? id = some e) : e = experiment :=
  List.mem_singleton.mp (Project.of_experiment? h).1

theorem eq_country {name : String} (h : (Project.ofDatafile datafile).Consults name) :
    name = Attributes.bucketingKey ∨ name = "country" := by
  have hcondition (c : Condition) (hc : experiment.rule.conditions = some c) (ht : c.Tests name) :
      name = "country" := by
    cases hc
    obtain ⟨t, hl, hname⟩ := ht
    cases hl
    exact (Option.some.inj hname).symm
  cases h with
  | bucketing => exact .inl rfl
  | rule hr hc ht =>
    cases hr with
    | experiment he =>
      rw [eq_experiment he] at hc
      exact .inr (hcondition _ hc ht)
    | rollout hrollout => exact nomatch (Index.of_getElem?_lastBy hrollout).1
    | holdout hh => exact nomatch hh
  | audience ha => exact nomatch (Index.of_getElem?_lastBy ha).1
  | bandit he hb hmem hname =>
    rw [eq_experiment he] at hb
    cases hb
    rw [List.mem_singleton.mp hmem] at hname
    have hcountry : (Project.ofDatafile datafile).attributeName? "a" = some "country" := by
      simp [Project.attributeName?, Project.ofDatafile, datafile, Index.getElem?_ofLast, List.findRev?]
    exact .inr (Option.some.inj (hname.symm.trans hcountry))

end Project.Consults.Sample

namespace Flag

open Project.Consults

/-- The bandit is told the country of a user, and nobody asks for the colour. -/
theorem decided_by_consulted_of_colour :
    Sample.coloured.AgreeIn (.ofDatafile Sample.datafile) Sample.french ∧
      (Sample.run Sample.french).1.result.toOption.isSome = true ∧
      (Sample.run Sample.coloured).1.result = (Sample.run Sample.french).1.result ∧
      (Sample.run Sample.coloured).2 = (Sample.run Sample.french).2 := by
  have hattributes : Sample.coloured.AgreeIn (.ofDatafile Sample.datafile) Sample.french := by
    refine Attributes.agreeIn_insert (fun h => ?_) Sample.french _
    rcases Sample.eq_country h with h | h <;> exact absurd h (by decide)
  have hrun := decided_by_consulted Services.answer Sample.reply default Sample.engine
    (.ofDatafile Sample.datafile) Sample.flag .empty (Sample.user Sample.coloured)
    (Sample.user Sample.french) rfl (fun _ => rfl) hattributes
  dsimp only at hrun
  unfold Sample.run
  exact ⟨hattributes, by decide +kernel, hrun.1, hrun.2.2.1⟩

end Flag

end FlagEngine
