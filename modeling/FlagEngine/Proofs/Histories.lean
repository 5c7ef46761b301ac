import FlagEngine.Proofs.Assignments
import FlagEngine.Proofs.Bandit.Stage
import FlagEngine.Proofs.Preservation
import FlagEngine.Proofs.SingleSaves
import FlagEngine.Proofs.WriteBack

/-!
# Histories

Calls of a client one after the other, and changes of the services from outside between them. Once a call has
saved a variation for a user, the store keeps it, `World.assigned?_after`, and the experiment serves it
whatever has become of its audience, its group and its traffic: `World.sticky_bucketing_outlives_targeting`.
-/

namespace FlagEngine

open Deliberation

section

variable {κ α : Type} {responder : Responder κ} {engine : Engine} {w : World κ} {u e v : String}

namespace World

/-- What happens to a world: a call that runs to its end, or a change from outside. -/
inductive Act where
  | call (errand : Errand)
  | change (change : Services.Change)

def perform (engine : Engine) (responder : Responder κ) (w : World κ) : Act → World κ
  | .call errand => ((engine.carryOut errand).play responder w).2
  | .change change => { w with services := w.services.change change }

/-- The world after some acts, the latest first. -/
def after (engine : Engine) (responder : Responder κ) (w : World κ) : List Act → World κ
  | [] => w
  | act :: earlier => (w.after engine responder earlier).perform engine responder act

/-- Every project that is used by one of the calls offers the variation. -/
def Offers (engine : Engine) (responder : Responder κ) (w : World κ) (experimentId variationId : String)
    (acts : List Act) : Prop :=
  ∀ errand earlier, .call errand :: earlier <:+ acts →
    ∀ p, (w.after engine responder earlier).services.project = some p → p.Offers experimentId variationId

end World

/-! ## Saves -/

/-- What has been saved last for the user and the experiment is what the store has. If nothing has been saved,
it is what the store had. -/
def Stands (u e : String) (assigned : Option String) (past : Transcript) (w : World κ) : Prop :=
  (∃ v, past.Saves u e v ∧ w.services.assigned? u e = some v) ∨
    (∀ v, ¬ past.Saves u e v) ∧ w.services.assigned? u e = assigned

theorem Stands.asked {assigned : Option String} {past : Transcript} (q : Query)
    (h : Stands u e assigned past w) :
    Stands u e assigned (.asked q (World.answer q w).1 :: past) (World.answer q w).2 := by
  by_cases hq : ∃ v, q = .saveVariation u e v
  · obtain ⟨v, rfl⟩ := hq
    refine .inl ⟨v, List.mem_cons_self, ?_⟩
    exact (ProfileStore.getElem?_profile_save ..).trans (if_pos ⟨rfl, rfl⟩)
  · have hsaves (v : String) : Transcript.Saves (.asked q (World.answer q w).1 :: past) u e v ↔
        past.Saves u e v := by
      rw [Transcript.saves_cons, or_iff_right]
      intro heq
      injection heq with heq
      exact hq ⟨v, heq⟩
    have hassigned : (World.answer q w).2.services.assigned? u e = w.services.assigned? u e := by
      cases q with
      | saveVariation u' e' v' =>
        refine (ProfileStore.getElem?_profile_save ..).trans (if_neg ?_)
        rintro ⟨rfl, rfl⟩
        exact hq ⟨v', rfl⟩
      | project | forcedVariation | profile | beginDecision | completeDecision | uuid => rfl
    unfold Stands
    simp only [hsaves, hassigned]
    exact h

theorem Stands.fetched {assigned : Option String} {past : Transcript} (call : Bandit.Call)
    (h : Stands u e assigned past w) :
    Stands u e assigned (.fetched call (World.fetch responder call w).1 :: past)
      (World.fetch responder call w).2 := by
  have hsaves (v : String) : Transcript.Saves (.fetched call (World.fetch responder call w).1 :: past) u e v ↔
      past.Saves u e v := by
    rw [Transcript.saves_cons, or_iff_right]
    intro heq
    cases heq
  unfold Stands
  simp only [hsaves]
  exact h

/-- What a call has saved for a user and an experiment is what the store has when it ends. -/
theorem World.assigned?_of_saves {errand : Errand}
    (h : ((engine.carryOut errand).transcript World.answer (World.fetch responder) w).Saves u e v) :
    (w.perform engine responder (.call errand)).services.assigned? u e = some v := by
  have hkept : (engine.carryOut errand).Preserves World.answer (World.fetch responder)
      (Stands u e (w.services.assigned? u e)) :=
    Plan.preserves_of_steps (fun q _ _ h => h.asked q) (fun call _ _ h => h.fetched call) _
  have hstands := hkept [] w (.inr ⟨nofun, rfl⟩)
  have hsingly := (engine.leads_carryOut errand).run World.answer (World.fetch responder) w
  rw [List.append_nil] at hstands hsingly
  rcases hstands with ⟨v', hv', hassigned⟩ | ⟨hnone, _⟩
  · rw [hsingly u e v v' h hv']
    exact hassigned
  · exact (hnone v h).elim

/-! ## Keeping a variation -/

theorem Plan.assigned?_play {x : Plan α} (hx : x.Follows (sticking u e v) fun _ => True)
    (ha : w.services.assigned? u e = some v)
    (hp : ∀ p, w.services.project = some p → p.Offers e v) :
    (x.play responder w).2.services.assigned? u e = some v := by
  induction x generalizing w with
  | done a => exact ha
  | ask q next ih =>
    obtain ⟨hassigned, htold⟩ := Services.answer_sticking hx.1 ha fun _ => hp
    refine ih _ (hx.2 _ htold) hassigned fun p hproject => hp p ?_
    rw [← hproject]
    cases q <;> rfl
  | fetch call next ih => exact ih _ (hx _) ha hp

namespace World

/-- The store keeps a variation through calls and changes, as long as the projects in use offer it. -/
theorem assigned?_after (engine : Engine) {acts : List Act} (ha : w.services.assigned? u e = some v)
    (hoffers : w.Offers engine responder e v acts) :
    (w.after engine responder acts).services.assigned? u e = some v := by
  induction acts with
  | nil => exact ha
  | cons act earlier ih =>
    have hearlier : w.Offers engine responder e v earlier := fun errand acts hsuffix =>
      hoffers errand acts (hsuffix.trans (List.suffix_cons _ _))
    have hassigned := ih hearlier
    cases act with
    | call errand =>
      exact Plan.assigned?_play (engine.follows_carryOut errand) hassigned
        (hoffers errand earlier List.suffix_rfl)
    | change change => exact (Services.assigned?_change change).trans hassigned

end World

/-! ## The experiment on its own -/

/-- An experiment serves the variation that the profile has, if none is set for the user, and there is nothing
to save then. -/
theorem Experiment.ends_serve?_of_saved {x : Experiment} {p : Project} {variation : Variation}
    {options : Options} (hrunning : x.rule.isRunning = true) (hb : x.bandit = none)
    (hset : x.setVariation? u (w.services.forced.variationId? u x.id) = none)
    (ha : w.services.assigned? u x.id = some v) (hv : x.rule.variationById? v = some variation)
    (attributes : Attributes) :
    (x.serve? engine p u attributes options).Ends World.answer (World.fetch responder)
      (some (.ofUser u)) w (.ok (some ⟨variation, none⟩))
      (some ⟨u, some (w.services.profiles.profile u), []⟩) w := by
  have hoverridden : (x.overridden? u).Ends World.answer (World.fetch responder) (some (.ofUser u)) w
      (.ok (x.setVariation? u (w.services.forced.variationId? u x.id))) (some (.ofUser u)) w :=
    ends_overridden? rfl
  have hread : (Deliberation.saved? x.id).Ends World.answer (World.fetch responder) (some (.ofUser u)) w
      (.ok (w.services.assigned? u x.id)) (some ⟨u, some (w.services.profiles.profile u), []⟩) w :=
    ⟨[], rfl⟩
  unfold serve?
  rw [if_pos hrunning]
  rw [hset] at hoverridden
  refine hoverridden.bind ?_
  have hsaved : (x.saved? u).Ends World.answer (World.fetch responder) (some (.ofUser u)) w
      (.ok (some variation)) (some ⟨u, some (w.services.profiles.profile u), []⟩) w := by
    unfold saved?
    rw [hb]
    rw [ha] at hread
    refine hread.bind ?_
    rw [Option.bind_some, hv]
    exact (ends_note _).bind (ends_pure.mpr ⟨rfl, rfl, rfl⟩)
  exact hsaved.bind (ends_pure.mpr ⟨rfl, rfl, rfl⟩)

theorem Plan.transcript_query_project (f : Option Project → Plan α) (w : World κ) :
    ((query .project : Plan (Option Project)) >>= f).transcript World.answer (World.fetch responder) w
      = (f w.services.project).transcript World.answer (World.fetch responder) w
        ++ [.asked .project w.services.project] := rfl

namespace Engine

variable {p : Project} {x : Experiment} {variation : Variation} {key : String}

theorem tracker?_of_keepsProfiles {options : Options} (hkeeps : engine.keepsProfiles = true)
    (hoptions : options.contains .ignoreUserProfileService = false) (userId : String) :
    engine.tracker? userId options = some (.ofUser userId) := by
  unfold tracker?
  rw [hkeeps, hoptions]
  rfl

/-- Asked for the variation of the experiment, the client answers with the saved one, and saves nothing. -/
theorem variationOf_of_saved (hkeeps : engine.keepsProfiles = true)
    (hdefaults : engine.defaults.contains .ignoreUserProfileService = false)
    (hproject : w.services.project = some p) (hkey : p.experimentByKey? key = some x)
    (hrunning : x.rule.isRunning = true) (hb : x.bandit = none)
    (hset : x.setVariation? u (w.services.forced.variationId? u x.id) = none)
    (ha : w.services.assigned? u x.id = some v) (hv : x.rule.variationById? v = some variation)
    (attributes : Attributes) :
    let call := engine.variationOf key u attributes
    (∃ events, call.play responder w = ((.ok (some variation.key), events), w)) ∧
      ∀ u' e' v', ¬ (call.transcript World.answer (World.fetch responder) w).Saves u' e' v' := by
  intro call
  obtain ⟨reasons, hserve⟩ : (x.serve? engine p u attributes engine.defaults).Ends World.answer
      (World.fetch responder) (some (.ofUser u)) w (.ok (some ⟨variation, none⟩))
      (some ⟨u, some (w.services.profiles.profile u), []⟩) w :=
    Experiment.ends_serve?_of_saved hrunning hb hset ha hv attributes
  have htracker : engine.tracker? u engine.defaults = some (.ofUser u) :=
    tracker?_of_keepsProfiles hkeeps hdefaults u
  refine ⟨?_, fun u' e' v' hsaves => ?_⟩
  · have hplay : call.play responder w = _ := Plan.play_query_project _ w
    have hserved : (x.serve? engine p u attributes engine.defaults (some (.ofUser u))).play responder w = _ :=
      hserve
    rw [hplay, hproject]
    simp only [hkey, htracker, Plan.play_bind, settle, hserved]
    exact ⟨_, rfl⟩
  · have htranscript : call.transcript World.answer (World.fetch responder) w
        = (x.serve? engine p u attributes engine.defaults (some (.ofUser u))).transcript World.answer
            (World.fetch responder) w ++ [.asked .project w.services.project] := by
      have hcall : call.transcript World.answer (World.fetch responder) w = _ :=
        Plan.transcript_query_project _ w
      rw [hcall, hproject]
      simp only [hkey, htracker, settle, Plan.transcript_bind, Plan.run_bind, hserve]
      -- The tracker has no changes to save.
      rfl
    have hunsaved : (x.serve? engine p u attributes engine.defaults (some (.ofUser u))).Leads
        (fun past o => Unsaved past o.tracker) [] :=
      Unsaved.maintains_serve? x u attributes [] _ (htracker ▸ Unsaved.tracker? engine u engine.defaults)
    have hpast := hunsaved.run World.answer (World.fetch responder) w
    rw [List.append_nil] at hpast
    rw [htranscript] at hsaves
    rcases List.mem_append.mp hsaves with hserved | hasked
    · exact hpast.unsaved u' e' v' hserved
    · cases List.mem_singleton.mp hasked

end Engine

end

namespace World

/-- **Sticky bucketing outlives targeting.** A client keeps profiles, and a call of it has saved a variation for
a user and an experiment. Then any calls run one after the other, any datafiles are published and any other
changes made in between, where every project that is used offers the variation. Asked for the variation of
the experiment after all this, the client answers with the one that has been saved, and saves nothing, by
whatever attributes. The experiment, as the project in force has it, only has to run without a bandit and
to have the variation, and no variation is set for the user. -/
theorem sticky_bucketing_outlives_targeting {κ : Type} (responder : Responder κ) (engine : Engine) (w : World κ)
    (saver : Errand) (later : List Act) (u v : String) (p : Project) (key : String) (x : Experiment)
    (variation : Variation) (attributes : Attributes) :
    let saved := w.perform engine responder (.call saver)
    let w' := saved.after engine responder later
    let call := engine.variationOf key u attributes
    engine.keepsProfiles = true → engine.defaults.contains .ignoreUserProfileService = false →
    ((engine.carryOut saver).transcript answer (fetch responder) w).Saves u x.id v →
    saved.Offers engine responder x.id v later →
    w'.services.project = some p → p.experimentByKey? key = some x → x.rule.isRunning = true →
    x.bandit = none → x.rule.variationById? v = some variation →
    x.setVariation? u (w'.services.forced.variationId? u x.id) = none →
    (∃ events, call.play responder w' = ((.ok (some variation.key), events), w')) ∧
      ∀ u' e' v', ¬ (call.transcript answer (fetch responder) w').Saves u' e' v' := by
  intro saved w' call hkeeps hdefaults hsaved hoffers hproject hkey hrunning hb hv hset
  have hassigned : w'.services.assigned? u x.id = some v :=
    assigned?_after engine (assigned?_of_saves hsaved) hoffers
  exact Engine.variationOf_of_saved hkeeps hdefaults hproject hkey hrunning hb hset hassigned hv attributes

namespace Sample

open Interleaving.Sample (datafile engine user)

def experiment : Experiment :=
  { (default : Experiment) with
    id := "e"
    key := "e"
    status := .running
    variations := [⟨"b", "b", none, []⟩, ⟨"a", "renamed", none, []⟩]
    traffic := [⟨"b", 10000⟩]
    audienceIds := ["nobody"] }

/-- The experiment has another audience and all of its traffic in the other variation. -/
def retargeted : Datafile :=
  { (default : Datafile) with experiments := [experiment], flags := [⟨"1", "f", "", ["e"], []⟩] }

theorem experimentByKey?_retargeted :
    (Project.ofDatafile retargeted).experimentByKey? "e" = some experiment := by
  have hall : retargeted.allExperiments = [experiment] := rfl
  simp [Project.experimentByKey?, Project.experiment?, Project.ofDatafile, hall, Index.getElem?_ofLast,
    Index.getElem?_lastBy, List.findRev?, experiment]

theorem experiment?_retargeted {id : String} {x : Experiment}
    (hx : (Project.ofDatafile retargeted).experiment? id = some x) : x = experiment := by
  have hmem := (Project.of_experiment? hx).1
  rcases List.mem_append.mp hmem with hmem | hmem
  · exact List.mem_singleton.mp hmem
  · cases hmem

def bandit (_ : Bandit.Call) (_ : Unit) : Bandit.Reply × Nat × Unit :=
  (.ok "v", 0, ())

/-- The datafile before is in force. -/
def world : World Unit :=
  ⟨(Services.initial default).change (.publish datafile), (), []⟩

def saver : Errand :=
  .decide (user "u") "f" .empty

def saved : World Unit :=
  world.perform engine bandit (.call saver)

/-- The datafile is published, and the user decided by another bucketing id. -/
def later : List Act :=
  [.call (.decide (user "w") "f" .empty), .change (.publish retargeted)]

theorem project_of_call {earlier : List Act} {errand : Errand} (h : .call errand :: earlier <:+ later) :
    (saved.after engine bandit earlier).services.project = some (.ofDatafile retargeted) := by
  rcases List.suffix_cons_iff.mp h with heq | h
  · cases heq
    rfl
  · rcases List.suffix_cons_iff.mp h with heq | h
    · cases heq
    · cases List.suffix_nil.mp h

theorem offers_later : saved.Offers engine bandit "e" "a" later := by
  intro errand earlier hsuffix p hp
  cases (project_of_call hsuffix).symm.trans hp
  intro id x hx _
  rw [experiment?_retargeted hx]
  exact ⟨_, List.mem_cons_of_mem _ List.mem_cons_self, rfl⟩

theorem project_later :
    (saved.after engine bandit later).services.project = some (.ofDatafile retargeted) := by
  have hcall := Plan.play_project bandit (engine.carryOut (.decide (user "w") "f" .empty))
    (saved.after engine bandit [.change (.publish retargeted)])
  exact hcall.trans (project_of_call List.suffix_rfl)

end Sample

open Interleaving.Sample (engine user)

/-- The user stays in the first variation, by the id of another user in the second one, and with an audience
that is nobody. -/
theorem sticky_bucketing_outlives_targeting_of_one :
    let w' := Sample.saved.after engine Sample.bandit Sample.later
    ∃ events, (engine.variationOf "e" "u" (user "w").attributes).play Sample.bandit w'
      = ((.ok (some "renamed"), events), w') := by
  intro w'
  have hsaved : ((engine.carryOut Sample.saver).transcript answer (fetch Sample.bandit) Sample.world).Saves
      "u" "e" "a" := by
    decide +kernel
  have hset : Sample.experiment.setVariation? "u"
      ((Sample.saved.after engine Sample.bandit Sample.later).services.forced.variationId? "u" "e") = none := by
    decide +kernel
  exact (sticky_bucketing_outlives_targeting Sample.bandit engine Sample.world Sample.saver Sample.later
    "u" "a" (.ofDatafile Sample.retargeted) "e" Sample.experiment ⟨"a", "renamed", none, []⟩
    (user "w").attributes rfl (by decide +kernel) hsaved Sample.offers_later Sample.project_later
    Sample.experimentByKey?_retargeted rfl rfl rfl hset).1

end World

end FlagEngine
