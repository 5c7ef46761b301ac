import FlagEngine.Proofs.Inheritance

/-!
# Disciplines

What a plan asks may depend on what it has been told. A discipline says which answers are relied on and
which questions are then allowed, and `Plan.Follows` says that a plan keeps to it whatever else it is
told and whatever its fetches bring. A plan that is `Plan.Only` about some questions, as what a tracker does is
about profiles, follows every discipline that allows these. Without any discipline, `Deliberation.Yields` says
what a deliberation comes to.
-/

namespace FlagEngine

structure Discipline where
  /-- The answers that are relied on. -/
  told : (q : Query) → q.Answer → Prop
  allowed : Query → Prop

/-- To leave profiles alone. -/
def profileFree : Discipline where
  told _ _ := True
  allowed
    | .profile _ | .saveVariation _ _ _ => False
    | _ => True

/-- To leave the project in force alone. -/
def projectFree : Discipline where
  told _ _ := True
  allowed
    | .project => False
    | _ => True

/-- To do as one likes. -/
def unrestricted : Discipline where
  told _ _ := True
  allowed _ := True

namespace Plan

variable {α β σ : Type} {D : Discipline}

def Follows (D : Discipline) (post : α → Prop) : Plan α → Prop
  | .done a => post a
  | .ask q next => D.allowed q ∧ ∀ answer, D.told q answer → (next answer).Follows D post
  | .fetch _ next => ∀ reply, (next reply).Follows D post

theorem Follows.bind {x : Plan α} {f : α → Plan β} {post : β → Prop} {mid : α → Prop}
    (hx : x.Follows D mid) (hf : ∀ a, mid a → (f a).Follows D post) : (x >>= f).Follows D post := by
  induction x with
  | done a => exact hf a hx
  | ask q next ih => exact ⟨hx.1, fun answer ha => ih answer (hx.2 answer ha)⟩
  | fetch call next ih => exact fun reply => ih reply (hx reply)

theorem Follows.mono {x : Plan α} {post post' : α → Prop} (hx : x.Follows D post)
    (h : ∀ a, post a → post' a) : x.Follows D post' := by
  induction x with
  | done a => exact h a hx
  | ask q next ih => exact ⟨hx.1, fun answer ha => ih answer (hx.2 answer ha)⟩
  | fetch call next ih => exact fun reply => ih reply (hx reply)

theorem follows_query {q : Query} {post : q.Answer → Prop} (hq : D.allowed q)
    (hp : ∀ answer, D.told q answer → post answer) : (query q).Follows D post :=
  ⟨hq, hp⟩

theorem follows_unrestricted (x : Plan α) : x.Follows unrestricted fun _ => True := by
  induction x with
  | done a => trivial
  | ask q next ih => exact ⟨trivial, fun answer _ => ih answer⟩
  | fetch call next ih => exact ih

theorem Follows.run {post : α → Prop} {x : Plan α} (hx : x.Follows D post)
    {handler : Handler σ} (hD : ∀ q s, D.told q (handler q s).1)
    (reply : Bandit.Call → σ → Bandit.Reply × σ) (s : σ) : post (x.run handler reply s).1 := by
  induction x generalizing s with
  | done a => exact hx
  | ask q next ih => exact ih _ (hx.2 _ (hD q s)) _
  | fetch call next ih => exact ih _ (hx _) _

/-! ## Plans about some questions only -/

variable {P : Query → Prop}

/-- The plan asks questions with a property only, and fetches nothing. -/
def Only (P : Query → Prop) : Plan α → Prop
  | .done _ => True
  | .ask q next => P q ∧ ∀ answer, (next answer).Only P
  | .fetch _ _ => False

theorem Only.bind {x : Plan α} {f : α → Plan β} (hx : x.Only P) (hf : ∀ a, (f a).Only P) : (x >>= f).Only P := by
  induction x with
  | done a => exact hf a
  | ask q next ih => exact ⟨hx.1, fun answer => ih answer (hx.2 answer)⟩
  | fetch call next _ => exact hx.elim

theorem Only.mono {P' : Query → Prop} {x : Plan α} (hx : x.Only P) (h : ∀ q, P q → P' q) : x.Only P' := by
  induction x with
  | done a => trivial
  | ask q next ih => exact ⟨h q hx.1, fun answer => ih answer (hx.2 answer)⟩
  | fetch call next _ => exact hx.elim

theorem Only.follows {x : Plan α} (hx : x.Only P) (h : ∀ q, P q → D.allowed q) : x.Follows D fun _ => True := by
  induction x with
  | done a => trivial
  | ask q next ih => exact ⟨h q hx.1, fun answer _ => ih answer (hx.2 answer)⟩
  | fetch call next _ => exact hx.elim

end Plan

/-- The question is about the profile of a user. -/
def Query.IsProfile : Query → Prop
  | .profile _ | .saveVariation _ _ _ => True
  | _ => False

namespace Tracker

theorem only_load (t : Tracker) : t.load.Only Query.IsProfile := by
  unfold load
  split
  · trivial
  · exact ⟨trivial, fun _ => trivial⟩

theorem only_saved? (t : Tracker) (experimentId : String) : (t.saved? experimentId).Only Query.IsProfile :=
  t.only_load.bind fun _ => trivial

theorem only_record (t : Tracker) (experimentId variationId : String) :
    (t.record experimentId variationId).Only Query.IsProfile :=
  t.only_load.bind fun _ => trivial

theorem only_saveAll (userId : String) (pending : List (String × String)) :
    (saveAll userId pending).Only Query.IsProfile := by
  induction pending with
  | nil => trivial
  | cons change pending ih => exact ⟨trivial, fun _ => ih⟩

theorem only_saveIfAny (tracker : Option Tracker) : (saveIfAny tracker).Only Query.IsProfile := by
  cases tracker with
  | none => trivial
  | some t => exact only_saveAll t.userId t.pending

end Tracker

namespace Deliberation

variable {α β : Type} {D : Discipline} {pre : Option Tracker → Prop}
  {post : Except Bandit.Failure α → Option Tracker → Prop} {I : Option Tracker → Prop}

/-- The deliberation follows the discipline, and leads from one assertion about the tracker to another. -/
def Follows (D : Discipline) (pre : Option Tracker → Prop)
    (post : Except Bandit.Failure α → Option Tracker → Prop) (x : Deliberation α) : Prop :=
  ∀ tracker, pre tracker → (x tracker).Follows D fun o => post o.result o.tracker

theorem Follows.bind {x : Deliberation α} {f : α → Deliberation β}
    {mid : Except Bandit.Failure α → Option Tracker → Prop}
    {post : Except Bandit.Failure β → Option Tracker → Prop} (hx : x.Follows D pre mid)
    (hf : ∀ a, (f a).Follows D (mid (.ok a)) post)
    (he : ∀ e tracker, mid (.error e) tracker → post (.error e) tracker) :
    (x >>= f).Follows D pre post := by
  intro tracker ht
  refine (hx tracker ht).bind fun o ho => ?_
  obtain ⟨result, tracker', reasons⟩ := o
  cases result with
  | error e => exact he e tracker' ho
  | ok a => exact (hf a tracker' ho).bind fun o' ho' => ho'

/-! ## Assertions that are kept -/

/-- The deliberation follows the discipline and keeps an assertion about the tracker. -/
def Keeps (D : Discipline) (I : Option Tracker → Prop) (x : Deliberation α) : Prop :=
  x.Follows D I fun _ => I

theorem Keeps.bind {x : Deliberation α} {f : α → Deliberation β} (hx : x.Keeps D I)
    (hf : ∀ a, (f a).Keeps D I) : (x >>= f).Keeps D I :=
  Follows.bind hx hf fun _ _ h => h

theorem keeps_pure (a : α) : (Pure.pure a : Deliberation α).Keeps D I :=
  fun _ h => h

theorem keeps_ofReasoned (x : Reasoned α) : (ofReasoned x).Keeps D I :=
  fun _ h => h

theorem keeps_note (r : Reason) : (note r).Keeps D I :=
  fun _ h => h

theorem keeps_fail (r : Reason) (f : Bandit.Failure) : (fail r f : Deliberation α).Keeps D I :=
  fun _ h => h

theorem keeps_ofPlan {x : Plan α} (hx : x.Follows D fun _ => True) : (ofPlan x).Keeps D I :=
  fun _ h => hx.bind fun _ _ => h

/-- The deliberation asks questions with a property only, whatever the profile at hand. -/
def Only (P : Query → Prop) (x : Deliberation α) : Prop :=
  ∀ tracker, (x tracker).Only P

theorem Only.mono {P P' : Query → Prop} {x : Deliberation α} (hx : x.Only P) (h : ∀ q, P q → P' q) : x.Only P' :=
  fun tracker => (hx tracker).mono h

theorem Only.keeps {P : Query → Prop} {x : Deliberation α} (hx : x.Only P) (h : ∀ q, P q → D.allowed q) :
    x.Keeps D fun _ => True :=
  fun tracker _ => (hx tracker).follows h

theorem only_saved? (experimentId : String) : (saved? experimentId).Only Query.IsProfile := by
  intro tracker
  cases tracker with
  | none => trivial
  | some t => exact (t.only_saved? experimentId).bind fun _ => trivial

theorem only_record (experimentId variationId : String) :
    (record experimentId variationId).Only Query.IsProfile := by
  intro tracker
  cases tracker with
  | none => trivial
  | some t => exact (t.only_record experimentId variationId).bind fun _ => trivial

/-- To consult a bandit is allowed wherever only profiles and the project in force are not. -/
theorem follows_consult (hD : ∀ q, profileFree.allowed q → projectFree.allowed q → D.allowed q)
    (p : Project) (userId : String) (attributes : Attributes) (ruleId : String)
    (options : Bandit.CacheOptions) :
    (Bandit.consult p userId attributes ruleId options).Follows D fun _ => True := by
  refine ⟨hD _ trivial trivial, fun finding _ => ?_⟩
  cases finding with
  | hit e => trivial
  | miss t =>
    refine ⟨hD _ trivial trivial, fun uuid _ reply => ?_⟩
    cases reply with
    | error f => trivial
    | ok variationId => exact ⟨hD _ trivial trivial, fun _ _ => trivial⟩

theorem inherited_keeps (hD : ∀ q, profileFree.allowed q → projectFree.allowed q → D.allowed q)
    (I : Option Tracker → Prop) : Inherited fun _ x => x.Keeps D I where
  ofReasoned := keeps_ofReasoned
  fail := keeps_fail
  forced _ _ := keeps_ofPlan (Plan.follows_query (hD _ trivial trivial) fun _ _ => trivial)
  consult _ _ _ _ _ := keeps_ofPlan (follows_consult hD ..)
  bind := Keeps.bind

/-! ## What deliberations yield -/

variable {σ : Type} {P : α → Prop} {Q : β → Prop} {x : Deliberation α} {f : α → Deliberation β}

/-- Unless the deliberation fails, it comes to a value with the property, whatever it is told on the way. -/
def Yields (P : α → Prop) (x : Deliberation α) : Prop :=
  x.Follows unrestricted (fun _ => True) fun result _ => ∀ a, result = .ok a → P a

theorem Yields.bind (hx : x.Yields P) (hf : ∀ a, P a → (f a).Yields Q) : (x >>= f).Yields Q := by
  refine Follows.bind hx (fun a tracker ha => hf a (ha a rfl) tracker trivial) ?_
  rintro e tracker - b ⟨⟩

theorem Yields.mono {P' : α → Prop} (hx : x.Yields P) (h : ∀ a, P a → P' a) : x.Yields P' :=
  fun tracker ht => (hx tracker ht).mono fun _ ho a ha => h a (ho a ha)

theorem yields_pure {a : α} (h : P a) : (Pure.pure a : Deliberation α).Yields P := by
  rintro tracker - b ⟨⟩
  exact h

theorem yields_none : (Pure.pure none : Deliberation (Option α)).Yields fun r => ∀ a ∈ r, P a :=
  yields_pure fun _ h => nomatch h

theorem yields_ofReasoned {r : Reasoned α} (h : P r.value) : (ofReasoned r).Yields P := by
  rintro tracker - b ⟨⟩
  exact h

theorem yields_fail (r : Reason) (e : Bandit.Failure) : (fail r e : Deliberation α).Yields P := by
  rintro tracker - b ⟨⟩

/-- Nothing need be known of what comes first. -/
theorem yields_bind (h : ∀ a, (f a).Yields Q) : (x >>= f).Yields Q := by
  have hx : x.Yields fun _ => True :=
    fun tracker _ => (x tracker).follows_unrestricted.mono fun _ _ _ _ => trivial
  exact hx.bind fun a _ => h a

theorem Yields.of_settle (hx : x.Yields P) {tracker : Option Tracker} {handler : Plan.Handler σ}
    {reply : Bandit.Call → σ → Bandit.Reply × σ} {s : σ} {a : α}
    (h : ((x.settle tracker).run handler reply s).1.result = .ok a) : P a := by
  have hsettle : (x.settle tracker).Follows unrestricted fun o => ∀ a, o.result = .ok a → P a :=
    (hx tracker trivial).bind fun o ho =>
      (Plan.follows_unrestricted _).bind fun _ _ => ho
  exact hsettle.run (fun _ _ => trivial) reply s a h

end Deliberation

end FlagEngine
