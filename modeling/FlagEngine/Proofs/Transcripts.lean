import FlagEngine.Proofs.Discipline

/-!
# Transcripts

What passes between a plan and the services around it in a run. `Plan.Leads` says of a plan what is so at
its end, whatever it is told and whatever its fetches bring, in terms of all that has passed by then;
`Plan.Leads.run` applies it to a run. `Deliberation.Leads` says the same of a deliberation. An assertion that
only exchanges with the store of profiles can put an end to is kept by whatever leaves profiles alone:
`Deliberation.inherited_maintains`.
-/

namespace FlagEngine

/-- A question with its answer, or a fetch with its reply. -/
inductive Exchange where
  | asked (q : Query) (answer : q.Answer)
  | fetched (call : Bandit.Call) (reply : Bandit.Reply)

/-- What has passed, the latest first. -/
abbrev Transcript := List Exchange

namespace Exchange

/-- The exchange is one with the store of profiles. -/
def concernsProfile : Exchange → Bool
  | .asked (.profile _) _ | .asked (.saveVariation _ _ _) _ => true
  | _ => false

/-- The exchange looks a profile up. -/
def isLookup : Exchange → Bool
  | .asked (.profile _) _ => true
  | _ => false

theorem concernsProfile_of_isLookup {x : Exchange} (h : x.isLookup = true) :
    x.concernsProfile = true := by
  cases x with
  | asked q answer =>
    cases q with
    | profile => rfl
    | project | forcedVariation | saveVariation | beginDecision | completeDecision | uuid => cases h
  | fetched call reply => cases h

theorem concernsProfile_asked {q : Query} (hq : profileFree.allowed q) (answer : q.Answer) :
    (asked q answer).concernsProfile = false := by
  cases q with
  | profile => exact hq.elim
  | saveVariation => exact hq.elim
  | project | forcedVariation | beginDecision | completeDecision | uuid => rfl

end Exchange

namespace Plan

variable {α β σ : Type}

/-- What passes in a run. -/
def transcript (handler : Handler σ) (reply : Bandit.Call → σ → Bandit.Reply × σ) :
    Plan α → σ → Transcript
  | .done _, _ => []
  | .ask q next, s =>
    (next (handler q s).1).transcript handler reply (handler q s).2 ++ [.asked q (handler q s).1]
  | .fetch call next, s =>
    (next (reply call s).1).transcript handler reply (reply call s).2 ++ [.fetched call (reply call s).1]

theorem transcript_ask (handler : Handler σ) (reply : Bandit.Call → σ → Bandit.Reply × σ) (q : Query)
    (next : q.Answer → Plan α) (s : σ) :
    (Plan.ask q next).transcript handler reply s
      = (next (handler q s).1).transcript handler reply (handler q s).2 ++ [.asked q (handler q s).1] :=
  rfl

/-- Whatever happens, the plan ends in the assertion about what has passed and what comes out. -/
def Leads (post : Transcript → α → Prop) : Plan α → Transcript → Prop
  | .done a, past => post past a
  | .ask q next, past => ∀ answer, (next answer).Leads post (.asked q answer :: past)
  | .fetch call next, past => ∀ reply, (next reply).Leads post (.fetched call reply :: past)

variable {x : Plan α} {f : α → Plan β} {past : Transcript} {post post' : Transcript → α → Prop}

theorem Leads.bind {post : Transcript → β → Prop} {mid : Transcript → α → Prop} (hx : x.Leads mid past)
    (hf : ∀ past a, mid past a → (f a).Leads post past) : (x >>= f).Leads post past := by
  induction x generalizing past with
  | done a => exact hf past a hx
  | ask q next ih => exact fun answer => ih answer (hx answer)
  | fetch call next ih => exact fun reply => ih reply (hx reply)

theorem Leads.mono (hx : x.Leads post past) (h : ∀ past a, post past a → post' past a) :
    x.Leads post' past := by
  induction x generalizing past with
  | done a => exact h past a hx
  | ask q next ih => exact fun answer => ih answer (hx answer)
  | fetch call next ih => exact fun reply => ih reply (hx reply)

/-- What nothing that passes can put an end to stands to the end. -/
theorem Leads.frame {R : Transcript → Prop} (hR : ∀ past y, R past → R (y :: past))
    (hx : x.Leads post past) (h : R past) : x.Leads (fun past a => post past a ∧ R past) past := by
  induction x generalizing past with
  | done a => exact ⟨hx, h⟩
  | ask q next ih => exact fun answer => ih answer (hx answer) (hR _ _ h)
  | fetch call next ih => exact fun reply => ih reply (hx reply) (hR _ _ h)

theorem Leads.run (hx : x.Leads post past) (handler : Handler σ)
    (reply : Bandit.Call → σ → Bandit.Reply × σ) (s : σ) :
    post (x.transcript handler reply s ++ past) (x.run handler reply s).1 := by
  induction x generalizing past s with
  | done a => exact hx
  | ask q next ih =>
    have h := ih _ (hx (handler q s).1) (handler q s).2
    rwa [transcript, List.append_assoc]
  | fetch call next ih =>
    have h := ih _ (hx (reply call s).1) (reply call s).2
    rwa [transcript, List.append_assoc]

/-- A plan that leaves profiles alone keeps what only exchanges about profiles can put an end to. -/
theorem Follows.leads {I : Transcript → Prop} (hx : x.Follows profileFree fun _ => True)
    (hI : ∀ past y, Exchange.concernsProfile y = false → I past → I (y :: past)) (h : I past) :
    x.Leads (fun past _ => I past) past := by
  induction x generalizing past with
  | done a => exact h
  | ask q next ih =>
    intro answer
    exact ih answer (hx.2 answer trivial) (hI _ _ (Exchange.concernsProfile_asked hx.1 answer) h)
  | fetch call next ih => exact fun reply => ih reply (hx reply) (hI _ _ rfl h)

end Plan

/-! ## Deliberations -/

namespace Deliberation

variable {α β : Type} {I pre : Transcript → Option Tracker → Prop}
  {post : Transcript → Except Bandit.Failure α → Option Tracker → Prop}

/-- From one assertion about what has passed and the tracker the deliberation leads to another. -/
def Leads (pre : Transcript → Option Tracker → Prop)
    (post : Transcript → Except Bandit.Failure α → Option Tracker → Prop) (x : Deliberation α) : Prop :=
  ∀ past tracker, pre past tracker →
    (x tracker).Leads (fun past o => post past o.result o.tracker) past

theorem Leads.bind {x : Deliberation α} {f : α → Deliberation β}
    {mid : Transcript → Except Bandit.Failure α → Option Tracker → Prop}
    {post : Transcript → Except Bandit.Failure β → Option Tracker → Prop} (hx : x.Leads pre mid)
    (hf : ∀ a, (f a).Leads (fun past => mid past (.ok a)) post)
    (he : ∀ past e tracker, mid past (.error e) tracker → post past (.error e) tracker) :
    (x >>= f).Leads pre post := by
  intro past tracker h
  refine (hx past tracker h).bind fun past o ho => ?_
  obtain ⟨result, tracker', reasons⟩ := o
  cases result with
  | error e => exact he past e tracker' ho
  | ok a => exact (hf a past tracker' ho).bind fun past o' ho' => ho'

theorem Leads.of_pre {x : Deliberation α} {pre' : Transcript → Option Tracker → Prop}
    (hx : x.Leads pre' post) (h : ∀ past tracker, pre past tracker → pre' past tracker) :
    x.Leads pre post :=
  fun past tracker hpre => hx past tracker (h past tracker hpre)

theorem Leads.frame {x : Deliberation α} {R : Transcript → Prop} (hR : ∀ past y, R past → R (y :: past))
    (hx : x.Leads pre post) : x.Leads (fun past tracker => pre past tracker ∧ R past)
      fun past result tracker => post past result tracker ∧ R past :=
  fun past tracker h => Plan.Leads.frame hR (hx past tracker h.1) h.2

/-- A value that is given with its reasons is known. -/
theorem leads_ofReasoned_bind {x : Reasoned α} {f : α → Deliberation β}
    {post : Transcript → Except Bandit.Failure β → Option Tracker → Prop}
    (h : (f x.value).Leads pre post) : (ofReasoned x >>= f).Leads pre post :=
  fun past tracker hpre => (h past tracker hpre).bind fun _ _ ho => ho

theorem leads_pure {a : α} (h : ∀ past tracker, pre past tracker → post past (.ok a) tracker) :
    (Pure.pure a : Deliberation α).Leads pre post :=
  h

/-- The deliberation keeps an assertion. -/
def Maintains (I : Transcript → Option Tracker → Prop) (x : Deliberation α) : Prop :=
  x.Leads I fun past _ => I past

theorem Maintains.leads {x : Deliberation α} (hx : x.Maintains I)
    (h : ∀ past result tracker, I past tracker → post past result tracker) : x.Leads I post :=
  fun past tracker hI => (hx past tracker hI).mono fun past o ho => h past o.result o.tracker ho

theorem inherited_maintains
    (hI : ∀ past tracker y, Exchange.concernsProfile y = false → I past tracker → I (y :: past) tracker) :
    Inherited fun _ x => x.Maintains I where
  ofReasoned _ _ _ h := h
  fail _ _ _ _ h := h
  forced _ _ past tracker h := fun _ => hI past tracker _ rfl h
  consult _ _ _ _ _ _ tracker h :=
    ((follows_consult (fun _ hq _ => hq) ..).leads (hI · tracker) h).bind fun _ _ h => h
  bind hx hf := Leads.bind hx hf fun _ _ _ h => h

end Deliberation

end FlagEngine
