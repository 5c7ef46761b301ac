import FlagEngine.Proofs.Conduct
import FlagEngine.Proofs.Projects
import FlagEngine.Proofs.Stickiness

/-!
# Assignments

Calls of a client in any interleaving, and what becomes of the variation that the profile store has for a
user and an experiment. A call reads a profile once and saves at its end. So it can replace the variation
if it read the profile before the variation was there, and was waiting for a fetch ever since; no other
call can. The main statement is `Interleaving.assignment_lasts`.
-/

namespace FlagEngine

/-- The id of the variation that the store has for a user in an experiment. -/
def Services.assigned? (s : Services) (userId experimentId : String) : Option String :=
  (s.profiles.profile userId)[experimentId]?

/-- Every project that has been in use offers the variation. -/
def Offered {ι α : Type} (experimentId variationId : String) (log : List (Occurrence ι α)) : Prop :=
  ∀ id p, .asked id .project (some p) ∈ log → p.Offers experimentId variationId

theorem Offered.of_suffix {ι α : Type} {e v : String} {log log' : List (Occurrence ι α)}
    (h : Offered e v log') (hs : log <:+ log') : Offered e v log :=
  fun id p hp => h id p (hs.subset hp)

namespace Services

variable {u e v : String} {s : Services}

/-- An allowed question leaves the variation as it is, and is answered as expected. -/
theorem answer_sticking {q : Query} (hq : (sticking u e v).allowed q) (ha : s.assigned? u e = some v)
    (hp : q = .project → ∀ p, s.project = some p → p.Offers e v) :
    (answer q s).2.assigned? u e = some v ∧ (sticking u e v).told q (answer q s).1 := by
  cases q with
  | project => exact ⟨ha, hp rfl⟩
  | profile userId => exact ⟨ha, fun hu => hu ▸ ha⟩
  | saveVariation userId experimentId variationId =>
    refine ⟨?_, trivial⟩
    simp only [assigned?, answer, ProfileStore.profile_save]
    split
    · next hu =>
      rw [Std.TreeMap.getElem?_insert]
      split
      · next he => rw [hq hu (Std.LawfulEqCmp.compare_eq_iff_eq.mp he)]
      · rw [hu]
        exact ha
    · exact ha
  | forcedVariation | beginDecision | completeDecision | uuid => exact ⟨ha, trivial⟩

theorem assigned?_change (change : Change) : (s.change change).assigned? u e = s.assigned? u e := by
  cases change with
  | forceVariation experimentKey userId variationKey =>
    obtain ⟨forced, hforced⟩ := s.change_forceVariation experimentKey userId variationKey
    rw [hforced]
    rfl
  | publish | removeDecision | resetDecisions | elapse => rfl

end Services

namespace Interleaving

variable {ι α : Type} {u e v : String} {s : Interleaving ι α} {id : Nat} {x : Plan α}
  {stale : Nat → Prop}

theorem advance_sticking {services : Services} {log : List (Occurrence ι α)}
    (hx : x.Follows (sticking u e v) fun _ => True) (ha : services.assigned? u e = some v)
    (hp : Offered e v (x.advance (answer id) (services, log)).2.2)
    (hd : Heard (sticking u e v) id log) :
    (x.advance (answer id) (services, log)).2.1.assigned? u e = some v ∧
      Heard (sticking u e v) id (x.advance (answer id) (services, log)).2.2 := by
  induction x generalizing services log with
  | done a => exact ⟨ha, hd⟩
  | ask q next ih =>
    have hsuffix := suffix_advance id (next (Services.answer q services).1)
      (Services.answer q services).2 (.asked id q (Services.answer q services).1 :: log)
    have hanswer := Services.answer_sticking hx.1 ha fun hq p hproject => by
      subst hq
      refine hp id p (hsuffix.subset ?_)
      rw [← hproject]
      exact List.mem_cons_self
    refine ih _ (hx.2 _ hanswer.2) hanswer.1 hp fun q' a' hq' => ?_
    rcases List.mem_cons.mp hq' with hq' | hq'
    · cases hq'
      exact hanswer.2
    · exact hd q' a' hq'
  | fetch call next _ => exact ⟨ha, hd⟩

/-- The variation is there, and no call but a stale one has heard of anything else. -/
structure Lasts (u e v : String) (stale : Nat → Prop) (s : Interleaving ι α) : Prop where
  assigned : s.services.assigned? u e = some v
  heard : ∀ {id next}, s.waiting id = some next → ¬ stale id → Heard (sticking u e v) id s.log

theorem Lasts.proceed (h : Lasts u e v stale s) (hx : x.Follows (sticking u e v) fun _ => True)
    (hd : Heard (sticking u e v) id s.log) (hp : Offered e v (s.proceed id x).log) :
    Lasts u e v stale (s.proceed id x) := by
  obtain ⟨hassigned, hheard⟩ :=
    advance_sticking hx h.assigned (hp.of_suffix (advance_suffix_proceed s id x)) hd
  refine ⟨by rwa [services_proceed], fun {id' next} hw hs q a ha => ?_⟩
  have hadvance := asked_proceed ha
  by_cases he : id' = id
  · subst he
    exact hheard q a hadvance
  · rw [waiting_proceed_of_ne he] at hw
    rcases asked_advance hadvance with ha | ha
    · exact h.heard hw hs q a ha
    · exact (he ha).elim

private theorem heard_cons {D : Discipline} {log : List (Occurrence ι α)} {y : Occurrence ι α}
    (h : Heard D id log) (hy : ∀ id q a, y ≠ .asked id q a) : Heard D id (y :: log) := by
  intro q a ha
  rcases List.mem_cons.mp ha with ha | ha
  · exact (hy id q a ha.symm).elim
  · exact h q a ha

/-- An occurrence that is no answer and leaves the profiles alone. -/
private theorem Lasts.note (h : Lasts u e v stale s) {services : Services} {n : Nat}
    {y : Occurrence ι α} (ha : services.assigned? u e = s.services.assigned? u e)
    (hy : ∀ id q a, y ≠ .asked id q a) : Lasts u e v stale ⟨services, s.waiting, n, y :: s.log⟩ where
  assigned := ha.trans h.assigned
  heard hw hs := heard_cons (h.heard hw hs) hy

theorem Lasts.step (h : Lasts u e v stale s) (hs : Disciplined (sticking u e v) s)
    {plan : ι → Plan α} (hplan : ∀ call, (plan call).Follows (sticking u e v) fun _ => True)
    {y : Step ι} (hy : ∀ id reply, y = .reply id reply → ¬ stale id)
    (hp : Offered e v (s.step plan y).log) : Lasts u e v stale (s.step plan y) := by
  cases y with
  | begin call =>
    have hbegan : Lasts u e v stale { s with begun := s.begun + 1, log := .began s.begun call :: s.log } :=
      h.note rfl (by simp)
    refine hbegan.proceed (hplan call) (heard_cons (fun q a ha => ?_) (by simp)) hp
    exact (Nat.lt_irrefl _ (hs.asked_lt ha)).elim
  | reply id reply =>
    simp only [Interleaving.step] at hp ⊢
    split at hp
    · exact h
    · next next hw =>
      have hreplied : Lasts u e v stale { s with log := .replied id reply :: s.log } :=
        h.note rfl (by simp)
      have hheard := h.heard hw (hy id reply rfl)
      exact hreplied.proceed (hs.follows hw hheard reply) (heard_cons hheard (by simp)) hp
  | abandon id =>
    simp only [Interleaving.step]
    split
    · exact h
    · refine ⟨h.assigned, fun hw hstale => ?_⟩
      exact heard_cons (h.heard (of_update_none hw) hstale) (by simp)
  | change change => exact h.note (Services.assigned?_change change) (by simp)

/-- The call waits for a fetch, and has read that the user is not in the variation. -/
def Stale (s : Interleaving ι α) (userId experimentId variationId : String) (id : Nat) : Prop :=
  (∃ next, s.waiting id = some next) ∧
    ∃ profile : Option Profile, .asked id (.profile userId) profile ∈ s.log ∧
      (profile.getD ∅)[experimentId]? ≠ some variationId

theorem Lasts.of_assigned (ha : s.services.assigned? u e = some v) (hp : Offered e v s.log) :
    Lasts u e v (s.Stale u e v) s where
  assigned := ha
  heard := by
    intro id next hw hs q a hq
    cases q with
    | project =>
      rintro p rfl
      exact hp id p hq
    | profile userId =>
      rintro rfl
      refine Decidable.byContradiction fun hne => hs ⟨⟨next, hw⟩, a, hq, hne⟩
    | forcedVariation | saveVariation | beginDecision | completeDecision | uuid => trivial

/-! ## Two calls for one user -/

namespace Sample

/-- Two experiments, the second one with a bandit, and a flag for each of them. -/
def datafile : Datafile :=
  { (default : Datafile) with
    experiments := [
      { (default : Experiment) with
        id := "e"
        key := "e"
        status := .running
        variations := [⟨"a", "a", none, []⟩, ⟨"b", "b", none, []⟩]
        traffic := [⟨"a", 5000⟩, ⟨"b", 10000⟩] },
      { (default : Experiment) with
        id := "c"
        key := "c"
        status := .running
        bandit := some ⟨10000, []⟩ }]
    flags := [⟨"1", "f", "", ["e"], []⟩, ⟨"2", "g", "", ["c"], []⟩] }

def engine : Engine :=
  ⟨fun key => if key = "ue" then 0 else 9999, .banditTraffic, true, true, .empty⟩

/-- One and the same user by different bucketing ids. -/
def user (bucketingId : String) : User :=
  ⟨"u", (∅ : Attributes).insert Attributes.bucketingKey (.string bucketingId), ∅⟩

private theorem offers_datafile : (Project.ofDatafile datafile).Offers "e" "b" := by
  intro id x hx he
  have hmem := (Project.of_experiment? hx).1
  simp only [Datafile.allExperiments, datafile, List.mem_append, List.mem_cons] at hmem
  rcases hmem with (rfl | rfl | hnil) | hgroups
  · exact ⟨_, List.mem_cons_of_mem _ List.mem_cons_self, rfl⟩
  · simp at he
  · cases hnil
  · cases hgroups

theorem offered {steps : List (Step Errand)} (h : ∀ d, .change (.publish d) ∈ steps → d = datafile) :
    Offered "e" "b" (after engine.carryOut default steps).log := by
  refine (inUse_after ?_ fun d hd => ?_).asked
  · rintro p ⟨⟩
  · rw [h d hd]
    exact offers_datafile

end Sample

/-- **Assignments last.** Once the store has a variation for a user and an experiment, it keeps the
variation, in whatever order calls begin and are replied to from then on. This takes that every project
in use offers the variation wherever it has the experiment, and that no call is replied to that was
waiting all along and has read the profile of the user without the variation. -/
theorem assignment_lasts (engine : Engine) (services : Services) (earlier later : List (Step Errand))
    (u e v : String)
    (ha : (after engine.carryOut services earlier).services.assigned? u e = some v)
    (hp : Offered e v (after engine.carryOut services (later ++ earlier)).log)
    (hs : ∀ id reply, .reply id reply ∈ later →
      ¬ (after engine.carryOut services earlier).Stale u e v id) :
    (after engine.carryOut services (later ++ earlier)).services.assigned? u e = some v := by
  suffices h : Lasts u e v ((after engine.carryOut services earlier).Stale u e v)
      (after engine.carryOut services (later ++ earlier)) from h.assigned
  induction later with
  | nil => exact .of_assigned ha hp
  | cons y later ih =>
    have hlog := suffix_step engine.carryOut (after engine.carryOut services (later ++ earlier)) y
    refine (ih (hp.of_suffix hlog) fun id reply hm => hs id reply (List.mem_cons_of_mem _ hm)).step
      (disciplined_after engine.follows_carryOut services _) engine.follows_carryOut ?_ hp
    rintro id reply rfl
    exact hs id reply List.mem_cons_self

/-- A call has put the user into a variation before another one by a different bucketing id begins. That one waits
for a bandit, is replied to and saved, and the user stays where they are. -/
theorem assignment_lasts_of_two :
    let earlier : List (Step Errand) :=
      [.begin (.decide (Sample.user "w") "f" .empty), .change (.publish Sample.datafile)]
    let call : Step Errand := .begin (.decideEach (Sample.user "u") ["f", "g"] .empty)
    let later : List (Step Errand) := [.reply 1 (.ok "a"), call]
    let run := after Sample.engine.carryOut default
    (run earlier).services.assigned? "u" "e" = some "b" ∧ Offered "e" "b" (run (later ++ earlier)).log ∧
      ((run (call :: earlier)).waiting 1).isSome = true ∧ ((run (later ++ earlier)).waiting 1).isSome = false ∧
      (run (later ++ earlier)).services.assigned? "u" "e" = some "b" := by
  intro earlier call later run
  have ha : (run earlier).services.assigned? "u" "e" = some "b" := by decide +kernel
  have hp : Offered "e" "b" (run (later ++ earlier)).log :=
    Sample.offered (by simp [later, call, earlier])
  have hs : ∀ id reply, .reply id reply ∈ later → ¬ (run earlier).Stale "u" "e" "b" id := by
    intro id reply hreply
    obtain ⟨rfl, -⟩ : id = 1 ∧ reply = .ok "a" := by simpa [later, call] using hreply
    -- The call that is replied to has not begun yet.
    rintro ⟨⟨next, hnext⟩, -⟩
    have hnone : ((run earlier).waiting 1).isSome = false := by decide +kernel
    rw [hnext] at hnone
    cases hnone
  exact ⟨ha, hp, by decide +kernel, by decide +kernel,
    assignment_lasts Sample.engine default earlier later "u" "e" "b" ha hp hs⟩

/-- A call that has read the profile waits for a bandit, while another one by a different bucketing id is
decided and saved. Then the first one is saved. -/
theorem assignment_replaced :
    let earlier : List (Step Errand) :=
      [.begin (.decide (Sample.user "w") "f" .empty),
        .begin (.decideEach (Sample.user "u") ["f", "g"] .empty), .change (.publish Sample.datafile)]
    let later : List (Step Errand) := [.reply 0 (.ok "a")]
    let run := after Sample.engine.carryOut default
    (run earlier).services.assigned? "u" "e" = some "b" ∧ Offered "e" "b" (run (later ++ earlier)).log ∧
      (run (later ++ earlier)).services.assigned? "u" "e" = some "a" := by
  intro earlier later run
  refine ⟨by decide +kernel, ?_, by decide +kernel⟩
  exact Sample.offered (by simp [later, earlier])

end Interleaving

end FlagEngine
