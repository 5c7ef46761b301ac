import FlagEngine.Proofs.Calls
import FlagEngine.Proofs.Transcripts

/-!
# Preservation

Assertions about what has passed and the state of the services that are kept in every run of a plan. An
assertion that is kept by the questions that are not about bandits, and wherever a bandit is consulted, is
kept by every call: `Engine.preserves_given`.
-/

namespace FlagEngine

variable {α β σ : Type} {handler : Plan.Handler σ} {reply : Bandit.Call → σ → Bandit.Reply × σ}
  {I J : Transcript → σ → Prop}

/-- The question is not about bandits. -/
def Query.IsOrdinary : Query → Prop
  | .beginDecision _ _ _ | .completeDecision _ _ _ | .uuid => False
  | _ => True

theorem Query.IsProfile.isOrdinary {q : Query} (hq : q.IsProfile) : q.IsOrdinary := by
  cases q with
  | profile | saveVariation => trivial
  | project | forcedVariation | beginDecision | completeDecision | uuid => exact hq.elim

namespace Plan

theorem transcript_bind (x : Plan α) (f : α → Plan β) (s : σ) :
    (x >>= f).transcript handler reply s
      = (f (x.run handler reply s).1).transcript handler reply (x.run handler reply s).2
        ++ x.transcript handler reply s := by
  induction x generalizing s with
  | done a => exact (List.append_nil _).symm
  | ask q next ih =>
    rw [ask_bind, transcript, ih, List.append_assoc]
    rfl
  | fetch call next ih =>
    rw [fetch_bind, transcript, ih, List.append_assoc]
    rfl

/-- Every run of the plan leads from an assertion about what has passed and the state of the services to
another one. -/
def Carries (handler : Handler σ) (reply : Bandit.Call → σ → Bandit.Reply × σ) (I J : Transcript → σ → Prop)
    (x : Plan α) : Prop :=
  ∀ past s, I past s → J (x.transcript handler reply s ++ past) (x.run handler reply s).2

theorem carries_done (a : α) (h : ∀ past s, I past s → J past s) :
    (Plan.done a).Carries handler reply I J :=
  h

theorem carries_ask {q : Query} {next : q.Answer → Plan α} (mid : q.Answer → Transcript → σ → Prop)
    (hq : ∀ past s, I past s → mid (handler q s).1 (.asked q (handler q s).1 :: past) (handler q s).2)
    (hnext : ∀ answer, (next answer).Carries handler reply (mid answer) J) :
    (Plan.ask q next).Carries handler reply I J := by
  intro past s h
  rw [transcript, List.append_assoc]
  exact hnext _ _ _ (hq past s h)

theorem carries_fetch {call : Bandit.Call} {next : Bandit.Reply → Plan α}
    (mid : Bandit.Reply → Transcript → σ → Prop)
    (hcall : ∀ past s, I past s →
      mid (reply call s).1 (.fetched call (reply call s).1 :: past) (reply call s).2)
    (hnext : ∀ answer, (next answer).Carries handler reply (mid answer) J) :
    (Plan.fetch call next).Carries handler reply I J := by
  intro past s h
  rw [transcript, List.append_assoc]
  exact hnext _ _ _ (hcall past s h)

/-- Every run of the plan keeps an assertion about what has passed and the state of the services. -/
def Preserves (handler : Handler σ) (reply : Bandit.Call → σ → Bandit.Reply × σ)
    (I : Transcript → σ → Prop) (x : Plan α) : Prop :=
  x.Carries handler reply I I

theorem preserves_done (a : α) : (Plan.done a).Preserves handler reply I :=
  carries_done a fun _ _ h => h

theorem preserves_ask {q : Query} {next : q.Answer → Plan α}
    (hq : ∀ past s, I past s → I (.asked q (handler q s).1 :: past) (handler q s).2)
    (hnext : ∀ answer, (next answer).Preserves handler reply I) :
    (Plan.ask q next).Preserves handler reply I :=
  carries_ask (fun _ => I) hq hnext

theorem preserves_fetch {call : Bandit.Call} {next : Bandit.Reply → Plan α}
    (hcall : ∀ past s, I past s → I (.fetched call (reply call s).1 :: past) (reply call s).2)
    (hnext : ∀ answer, (next answer).Preserves handler reply I) :
    (Plan.fetch call next).Preserves handler reply I :=
  carries_fetch (fun _ => I) hcall hnext

theorem Preserves.bind {x : Plan α} {f : α → Plan β} (hx : x.Preserves handler reply I)
    (hf : ∀ a, (f a).Preserves handler reply I) : (x >>= f).Preserves handler reply I := by
  intro past s h
  rw [transcript_bind, List.append_assoc, run_bind]
  exact hf _ _ _ (hx past s h)

/-- What every question and every fetch keeps is kept by any plan. -/
theorem preserves_of_steps
    (hask : ∀ q past s, I past s → I (.asked q (handler q s).1 :: past) (handler q s).2)
    (hfetch : ∀ call past s, I past s → I (.fetched call (reply call s).1 :: past) (reply call s).2)
    (x : Plan α) : x.Preserves handler reply I := by
  induction x with
  | done a => exact preserves_done a
  | ask q next ih => exact preserves_ask (hask q) ih
  | fetch call next ih => exact preserves_fetch (hfetch call) ih

theorem outward_preserves : Outward fun _ x => x.Preserves handler reply I where
  done := preserves_done
  finish hx hf := hx.bind fun a => by
    obtain ⟨b, hb⟩ := hf a
    rw [hb]
    exact preserves_done b

/-- What the questions of a plan keep is kept by the plan, if it fetches nothing. -/
theorem Only.preserves {P : Query → Prop} {x : Plan α} (hx : x.Only P)
    (h : ∀ q, P q → ∀ past s, I past s → I (.asked q (handler q s).1 :: past) (handler q s).2) :
    x.Preserves handler reply I := by
  induction x with
  | done a => exact preserves_done a
  | ask q next ih => exact preserves_ask (h q hx.1) fun answer => ih answer (hx.2 answer)
  | fetch call next _ => exact hx.elim

end Plan

section

-- The assertion is kept by every question that is not about bandits.
variable (hI : ∀ q : Query, q.IsOrdinary → ∀ past s, I past s →
  I (.asked q (handler q s).1 :: past) (handler q s).2)

include hI

theorem Tracker.preserves_saveIfAny (tracker : Option Tracker) :
    (saveIfAny tracker).Preserves handler reply I :=
  (only_saveIfAny tracker).preserves fun q hq => hI q hq.isOrdinary

/-! ## Deliberations -/

namespace Deliberation

/-- Every run of the deliberation keeps the assertion, whatever the profile at hand. -/
def Preserves (handler : Plan.Handler σ) (reply : Bandit.Call → σ → Bandit.Reply × σ)
    (I : Transcript → σ → Prop) (x : Deliberation α) : Prop :=
  ∀ tracker, (x tracker).Preserves handler reply I

omit hI in
theorem Preserves.bind {x : Deliberation α} {f : α → Deliberation β} (hx : x.Preserves handler reply I)
    (hf : ∀ a, (f a).Preserves handler reply I) : (x >>= f).Preserves handler reply I := by
  intro tracker
  refine (hx tracker).bind fun o => ?_
  obtain ⟨result, tracker', reasons⟩ := o
  cases result with
  | error e => exact Plan.preserves_done _
  | ok a => exact (hf a tracker').bind fun _ => Plan.preserves_done _

omit hI in
theorem preserves_ofPlan {x : Plan α} (hx : x.Preserves handler reply I) :
    (ofPlan x).Preserves handler reply I :=
  fun _ => hx.bind fun _ => Plan.preserves_done _

theorem Only.preserves {x : Deliberation α} (hx : x.Only Query.IsProfile) : x.Preserves handler reply I :=
  fun tracker => (hx tracker).preserves fun q hq => hI q hq.isOrdinary

theorem composed_preserves : Composed fun _ x => x.Preserves handler reply I where
  ofReasoned _ _ := Plan.preserves_done _
  fail _ _ _ := Plan.preserves_done _
  forced _ _ := preserves_ofPlan (Plan.preserves_ask (hI _ trivial) Plan.preserves_done)
  bind := Preserves.bind

theorem Preserves.settle {x : Deliberation α} (hx : x.Preserves handler reply I)
    (tracker : Option Tracker) : (x.settle tracker).Preserves handler reply I :=
  (hx tracker).bind fun o =>
    (Tracker.preserves_saveIfAny hI o.tracker).bind fun _ => Plan.preserves_done _

omit hI in
theorem preserves_each {xs : List (Deliberation α)} (hxs : ∀ x ∈ xs, x.Preserves handler reply I)
    (tracker : Option Tracker) : (each xs tracker).Preserves handler reply I := by
  induction xs generalizing tracker with
  | nil => exact Plan.preserves_done _
  | cons x xs ih =>
    obtain ⟨hx, hxs⟩ := List.forall_mem_cons.mp hxs
    exact (hx tracker).bind fun o => (ih hxs o.tracker).bind fun _ => Plan.preserves_done _

theorem preserves_settleAll {xs : List (Deliberation α)} (hxs : ∀ x ∈ xs, x.Preserves handler reply I)
    (tracker : Option Tracker) : (settleAll xs tracker).Preserves handler reply I :=
  (preserves_each hxs tracker).bind fun a =>
    (Tracker.preserves_saveIfAny hI a.2).bind fun _ => Plan.preserves_done _

end Deliberation

/-! ## Calls -/

open Deliberation

variable {engine : Engine} {p : Project} {options : Options}

theorem Experiment.preserves_serve? {x : Experiment} {userId : String} {attributes : Attributes}
    (hconsult : (x.passesGroup engine.sharder p (attributes.bucketingId userId)).value = true →
      (Bandit.consult p userId attributes x.id options.cacheOptions).Preserves handler reply I) :
    (x.serve? engine p userId attributes options).Preserves handler reply I :=
  (composed_preserves hI).serve? (fun h => preserves_ofPlan (hconsult h)) ((only_saved? x.id).preserves hI)
    fun v => (only_record x.id v).preserves hI

theorem Flag.preserves_deliberate {user : User}
    (hconsult : ∀ id x, p.experiment? id = some x →
      (x.passesGroup engine.sharder p (user.attributes.bucketingId user.id)).value = true →
      (Bandit.consult p user.id user.attributes x.id options.cacheOptions).Preserves handler reply I)
    (flag : Flag) : (flag.deliberate engine p user options).Preserves handler reply I :=
  (composed_preserves hI).deliberate fun id x hx => x.preserves_serve? hI (hconsult id x hx)

/-- The assertion is kept by a call that has been told the project. -/
theorem Engine.preserves_given {errand : Errand}
    (hconsult : ∀ id x, p.experiment? id = some x →
      (x.passesGroup engine.sharder p (errand.user.attributes.bucketingId errand.user.id)).value = true →
      (Bandit.consult p errand.user.id errand.user.attributes x.id
        (errand.options engine).cacheOptions).Preserves handler reply I) :
    ((engine.carryOut errand).given (some p)).Preserves handler reply I := by
  have hflag (flag : Flag) :
      (flag.deliberate engine p errand.user (errand.options engine)).Preserves handler reply I :=
    flag.preserves_deliberate hI hconsult
  refine Plan.outward_preserves.given_some (fun flag => ?_) (fun flags => ?_) fun id x hx => ?_
  · exact (hflag flag).settle hI _
  · refine preserves_settleAll hI (fun x hx => ?_) _
    obtain ⟨flag, _, rfl⟩ := List.mem_map.mp hx
    exact hflag flag
  · exact (x.preserves_serve? hI (hconsult id x hx)).settle hI _

end

/-- What a call keeps as soon as it has been told the project is so when it ends. -/
theorem Engine.at_end_of_given {engine : Engine} {errand : Errand} {s : σ}
    (hgiven : ((engine.carryOut errand).given (handler .project s).1).Preserves handler reply I)
    (h : I [.asked .project (handler .project s).1] (handler .project s).2) :
    I ((engine.carryOut errand).transcript handler reply s)
      ((engine.carryOut errand).run handler reply s).2 := by
  have htranscript : (engine.carryOut errand).transcript handler reply s
      = ((engine.carryOut errand).given (handler .project s).1).transcript handler reply
          (handler .project s).2 ++ [.asked .project (handler .project s).1] := by
    cases errand <;> rfl
  have hrun : (engine.carryOut errand).run handler reply s
      = ((engine.carryOut errand).given (handler .project s).1).run handler reply
          (handler .project s).2 := by
    cases errand <;> rfl
  rw [htranscript, hrun]
  exact hgiven _ _ h

end FlagEngine
