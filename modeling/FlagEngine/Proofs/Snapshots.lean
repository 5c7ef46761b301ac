import FlagEngine.Proofs.Assignments

/-!
# Snapshots

A call keeps to the project that was in force when it began. What is published while calls wait for their
fetches makes no difference to them: all goes as if it were published in the end. The main statement is
`Interleaving.snapshot_isolation`.
-/

namespace FlagEngine

/-! ## Calls ask for one project -/

/-- The plan asks for the project first of all, and never again. -/
def Plan.AsksOnce {α : Type} (x : Plan α) : Prop :=
  ∃ next : Option Project → Plan α, x = .ask .project next ∧
    ∀ project, (next project).Follows projectFree fun _ => True

theorem Query.IsProfile.projectFree {q : Query} (hq : q.IsProfile) : projectFree.allowed q := by
  cases q with
  | profile | saveVariation => trivial
  | project | forcedVariation | beginDecision | completeDecision | uuid => exact hq.elim

theorem governs_projectFree (engine : Engine) : Governs projectFree (fun _ => True) engine where
  allowed _ _ hq := hq
  started _ _ := trivial
  saved tracker _ := (Tracker.only_saveIfAny tracker).follows fun _ hq => hq.projectFree

theorem Project.keeps_projectFree (engine : Engine) (p : Project) :
    p.Keeps projectFree (fun _ => True) engine := by
  intro id x _ userId attributes options
  exact (Deliberation.inherited_keeps (fun _ _ hq => hq) _).serve?
    ((Deliberation.only_saved? x.id).keeps fun _ hq => hq.projectFree)
    fun v => (Deliberation.only_record x.id v).keeps fun _ hq => hq.projectFree

theorem Engine.asksOnce_carryOut (engine : Engine) (errand : Errand) :
    (engine.carryOut errand).AsksOnce := by
  refine ⟨_, engine.carryOut_eq_ask errand, fun project => ?_⟩
  exact (governs_projectFree engine).follows_given (fun p _ => p.keeps_projectFree engine) errand

/-! ## Publications -/

/-- The services with another project in force. -/
def Services.withProject (s : Services) (project : Option Project) : Services :=
  { s with project }

theorem Services.answer_withProject {q : Query} (hq : projectFree.allowed q) (s : Services)
    (project : Option Project) :
    answer q (s.withProject project) = ((answer q s).1, (answer q s).2.withProject project) := by
  cases q with
  | project => exact hq.elim
  | forcedVariation | profile | saveVariation | beginDecision | completeDecision | uuid => rfl

/-- The datafile that a change publishes. -/
def Services.Change.published? : Services.Change → Option Datafile
  | .publish d => some d
  | _ => none

theorem Services.project_change (s : Services) (c : Change) :
    (s.change c).project = (c.published?.map .ofDatafile).or s.project := by
  cases c with
  | forceVariation experimentKey userId variationKey =>
    obtain ⟨forced, hforced⟩ := s.change_forceVariation experimentKey userId variationKey
    rw [hforced]
    rfl
  | publish | removeDecision | resetDecisions | elapse => rfl

def Occurrence.isPublication {ι α : Type} : Occurrence ι α → Bool
  | .changed c => c.published?.isSome
  | _ => false

namespace Interleaving

variable {ι α : Type} {plan : ι → Plan α} {s : Interleaving ι α} {services : Services} {id : Nat}
  {x : Plan α}

/-- The datafile that a step publishes. -/
def Step.published? : Step ι → Option Datafile
  | .change c => c.published?
  | _ => none

def Step.isPublication (y : Step ι) : Bool :=
  y.published?.isSome

/-- Whether a step is the same for every project in force. A call that begins asks for the project, and
a variation is forced by the keys that the project has. -/
def Step.ignoresProject : Step ι → Bool
  | .begin _ => false
  | .change (.forceVariation _ _ _) => false
  | _ => true

/-! ## Waiting calls have their project -/

/-- No call that waits is going to ask for the project. -/
def Settled (s : Interleaving ι α) : Prop :=
  ∀ id next, s.waiting id = some next → ∀ reply, (next reply).Follows projectFree fun _ => True

theorem Settled.proceed (h : s.Settled) (hx : x.Follows projectFree fun _ => True) :
    (s.proceed id x).Settled := by
  intro id' next hn
  by_cases he : id' = id
  · subst he
    exact follows_proceed hx (fun _ _ _ => trivial) hn
  · rw [waiting_proceed_of_ne he] at hn
    exact h id' next hn

theorem Settled.step (h : s.Settled) (hplan : ∀ call, (plan call).AsksOnce) (y : Step ι) :
    (s.step plan y).Settled := by
  cases y with
  | begin call =>
    obtain ⟨next, hnext, hfollows⟩ := hplan call
    simp only [Interleaving.step]
    rw [hnext]
    -- The question for the project is answered first.
    have hasked : Settled { s with
        begun := s.begun + 1
        log := .asked s.begun .project s.services.project :: .began s.begun call :: s.log } := h
    exact hasked.proceed (hfollows s.services.project)
  | reply id reply =>
    simp only [Interleaving.step]
    split
    · exact h
    · next next hw =>
      have hreplied : Settled { s with log := .replied id reply :: s.log } := h
      exact hreplied.proceed (h id next hw reply)
  | abandon id =>
    simp only [Interleaving.step]
    split
    · exact h
    · exact fun id' next hw => h id' next (of_update_none hw)
  | change change => exact h

theorem settled_after (hplan : ∀ call, (plan call).AsksOnce) (services : Services)
    (steps : List (Step ι)) : (after plan services steps).Settled := by
  induction steps with
  | nil =>
    intro id next hw
    cases hw
  | cons y earlier ih => exact ih.step hplan y

/-! ## Questions for the project -/

theorem asked_of_projectFree {id' : Nat} {q : Query} {a : q.Answer} {log : List (Occurrence ι α)}
    (hx : x.Follows projectFree fun _ => True) (hq : ¬ projectFree.allowed q)
    (h : .asked id' q a ∈ (x.advance (answer id) (services, log)).2.2) : .asked id' q a ∈ log := by
  induction x generalizing services log with
  | done b => exact h
  | ask q' next ih =>
    rcases List.mem_cons.mp (ih _ (hx.2 _ trivial) h) with h | h
    · cases h
      exact (hq hx.1).elim
    · exact h
  | fetch call next _ => exact h

theorem begun_le_step (plan : ι → Plan α) (s : Interleaving ι α) (y : Step ι) :
    s.begun ≤ (s.step plan y).begun := by
  cases y with
  | begin call =>
    simp only [step, begun_proceed]
    exact Nat.le_succ _
  | reply id reply =>
    simp only [step]
    split
    · exact Nat.le_refl _
    · simp only [begun_proceed, Nat.le_refl]
  | abandon id =>
    simp only [step]
    split <;> exact Nat.le_refl _
  | change change => exact Nat.le_refl _

theorem Settled.asked_of_step (h : s.Settled) {y : Step ι} {q : Query} {a : q.Answer}
    (hq : ¬ projectFree.allowed q) (hid : id < s.begun) (ha : .asked id q a ∈ (s.step plan y).log) :
    .asked id q a ∈ s.log := by
  cases y with
  | begin call =>
    rcases asked_advance (asked_proceed ha) with ha | rfl
    · exact (List.mem_cons.mp ha).resolve_left (by simp)
    · exact (Nat.lt_irrefl _ hid).elim
  | reply id' reply =>
    simp only [Interleaving.step] at ha
    split at ha
    · exact ha
    · next next hw =>
      have ha := asked_of_projectFree (h id' next hw reply) hq (asked_proceed ha)
      exact (List.mem_cons.mp ha).resolve_left (by simp)
  | abandon id' =>
    simp only [Interleaving.step] at ha
    split at ha
    · exact ha
    · exact (List.mem_cons.mp ha).resolve_left (by simp)
  | change change => exact (List.mem_cons.mp ha).resolve_left (by simp)

/-- A call that has begun does not ask for the project any more. -/
theorem asked_of_after (hplan : ∀ call, (plan call).AsksOnce) {earlier later : List (Step ι)}
    {q : Query} {a : q.Answer} (hq : ¬ projectFree.allowed q)
    (hid : id < (after plan services earlier).begun)
    (h : .asked id q a ∈ (after plan services (later ++ earlier)).log) :
    .asked id q a ∈ (after plan services earlier).log := by
  have hbegun (later : List (Step ι)) :
      (after plan services earlier).begun ≤ (after plan services (later ++ earlier)).begun := by
    induction later with
    | nil => exact Nat.le_refl _
    | cons y later ih => exact Nat.le_trans ih (begun_le_step ..)
  induction later with
  | nil => exact h
  | cons y later ih =>
    exact ih ((settled_after hplan services _).asked_of_step hq (Nat.lt_of_lt_of_le hid (hbegun later)) h)

/-! ## What is left without publications -/

/-- The interleaving apart from the project in force and from the publications in the log. -/
def unpublished (s : Interleaving ι α) : Interleaving ι α :=
  { s with
    services := s.services.withProject none
    log := s.log.filter (!·.isPublication) }

theorem advance_unpublished (hx : x.Follows projectFree fun _ => True) (services : Services)
    (log : List (Occurrence ι α)) :
    x.advance (answer id) (services.withProject none, log.filter (!·.isPublication))
      = ((x.advance (answer id) (services, log)).1,
          (x.advance (answer id) (services, log)).2.1.withProject none,
          (x.advance (answer id) (services, log)).2.2.filter (!·.isPublication)) := by
  induction x generalizing services log with
  | done a => rfl
  | ask q next ih =>
    simp only [Plan.advance, answer, Services.answer_withProject hx.1]
    exact ih _ (hx.2 _ trivial) _ (.asked id q _ :: log)
  | fetch call next _ => rfl

theorem unpublished_proceed (hx : x.Follows projectFree fun _ => True) (s : Interleaving ι α) (id : Nat) :
    (s.proceed id x).unpublished = s.unpublished.proceed id x := by
  have hadvance : x.advance (answer id) (s.services.withProject none, s.log.filter (!·.isPublication)) = _ :=
    advance_unpublished hx s.services s.log
  unfold proceed
  simp only [unpublished, hadvance]
  split
  · next ha =>
    simp only [ha]
    rfl
  · next ha =>
    simp only [ha]
    rfl

theorem Settled.unpublished_step (h : s.Settled) {y : Step ι} (hy : y.ignoresProject = true)
    (hp : y.isPublication = false) :
    (s.step plan y).unpublished = s.unpublished.step plan y := by
  cases y with
  | begin call => cases hy
  | reply id reply =>
    have hwaiting : s.unpublished.waiting id = s.waiting id := rfl
    simp only [Interleaving.step, hwaiting]
    split
    · rfl
    · next next hw =>
      exact unpublished_proceed (h id next hw reply) { s with log := .replied id reply :: s.log } id
  | abandon id =>
    have hwaiting : s.unpublished.waiting id = s.waiting id := rfl
    simp only [Interleaving.step, hwaiting]
    split <;> rfl
  | change change =>
    cases change with
    | publish d => cases hp
    | forceVariation => cases hy
    | removeDecision | resetDecisions | elapse => rfl

theorem unpublished_publication (s : Interleaving ι α) {y : Step ι} (hp : y.isPublication = true) :
    (s.step plan y).unpublished = s.unpublished := by
  cases y with
  | change change =>
    cases change with
    | publish d => rfl
    | forceVariation | removeDecision | resetDecisions | elapse => cases hp
  | begin | reply | abandon => cases hp

/-- Publications leave no trace but the project and themselves. -/
theorem unpublished_after (hplan : ∀ call, (plan call).AsksOnce) {earlier later : List (Step ι)}
    (h : ∀ y ∈ later, y.ignoresProject = true) :
    (after plan services (later ++ earlier)).unpublished
      = (after plan services (later.filter (!·.isPublication) ++ earlier)).unpublished := by
  induction later with
  | nil => rfl
  | cons y later ih =>
    have ih := ih fun y hy => h y (List.mem_cons_of_mem _ hy)
    cases hp : y.isPublication with
    | true =>
      rw [List.filter_cons_of_neg (by simp [hp])]
      exact (unpublished_publication _ hp).trans ih
    | false =>
      rw [List.filter_cons_of_pos (by simp [hp])]
      have hy := h y List.mem_cons_self
      exact ((settled_after hplan services _).unpublished_step hy hp).trans
        ((congrArg (·.step plan y) ih).trans ((settled_after hplan services _).unpublished_step hy hp).symm)

/-! ## The project in force -/

theorem project_step (plan : ι → Plan α) (s : Interleaving ι α) (y : Step ι) :
    (s.step plan y).services.project = (y.published?.map .ofDatafile).or s.services.project := by
  cases y with
  | begin call =>
    simp only [step, services_proceed, project_advance]
    rfl
  | reply id reply =>
    simp only [step]
    split
    · rfl
    · simp only [services_proceed, project_advance]
      rfl
  | abandon id =>
    simp only [step]
    split <;> rfl
  | change c => exact s.services.project_change c

/-- The project in force is the one that was published last. -/
theorem project_after (plan : ι → Plan α) (services : Services) (steps : List (Step ι)) :
    (after plan services steps).services.project
      = ((steps.filterMap (·.published?)).head?.map .ofDatafile).or services.project := by
  induction steps with
  | nil => rfl
  | cons y earlier ih =>
    rw [after, project_step, ih]
    cases hp : y.published? with
    | none => rw [List.filterMap_cons_none hp]; rfl
    | some d => rw [List.filterMap_cons_some hp]; rfl

theorem filterMap_published? (later : List (Step ι)) :
    (later.filter (·.isPublication)).filterMap (·.published?)
        ++ (later.filter (!·.isPublication)).filterMap (·.published?)
      = later.filterMap (·.published?) := by
  induction later with
  | nil => rfl
  | cons y later ih =>
    cases hp : y.published? with
    | none =>
      rw [List.filter_cons_of_neg (by simp [Step.isPublication, hp]),
        List.filter_cons_of_pos (by simp [Step.isPublication, hp]), List.filterMap_cons_none hp,
        List.filterMap_cons_none hp, ih]
    | some d =>
      rw [List.filter_cons_of_pos (by simp [Step.isPublication, hp]),
        List.filter_cons_of_neg (by simp [Step.isPublication, hp]), List.filterMap_cons_some hp,
        List.filterMap_cons_some hp, List.cons_append, ih]

theorem filter_publications_last (later : List (Step ι)) :
    (later.filter (·.isPublication) ++ later.filter (!·.isPublication)).filter (!·.isPublication)
      = later.filter (!·.isPublication) := by
  have hnil : (later.filter (·.isPublication)).filter (!·.isPublication) = [] :=
    List.filter_eq_nil_iff.mpr (by simp)
  rw [List.filter_append, hnil, List.nil_append, List.filter_filter]
  simp only [Bool.and_self]

/-- **Snapshot isolation.** Take any calls that have begun, and any steps from then on, in which
datafiles are published while the calls wait for their fetches.

* None of the calls asks for the project again, whatever the steps are.
* If the steps begin no other call and force no variation, all is as if the same datafiles were published
  after all the other steps: the services, how the calls that still wait go on, and what happens to the
  calls from step to step, which is the log but for the publications. -/
theorem snapshot_isolation (engine : Engine) (services : Services) (earlier later : List (Step Errand)) :
    let begun := after engine.carryOut services earlier
    let during := after engine.carryOut services (later ++ earlier)
    let afterwards := after engine.carryOut services
      (later.filter (·.isPublication) ++ later.filter (!·.isPublication) ++ earlier)
    (∀ id project, id < begun.begun →
      .asked id .project project ∈ during.log → .asked id .project project ∈ begun.log) ∧
    ((∀ y ∈ later, y.ignoresProject = true) →
      during.services = afterwards.services ∧ during.waiting = afterwards.waiting ∧
        during.log.filter (!·.isPublication) = afterwards.log.filter (!·.isPublication)) := by
  intro begun during afterwards
  refine ⟨fun id project hid h => ?_, fun h => ?_⟩
  · exact asked_of_after engine.asksOnce_carryOut (fun hq => hq) hid h
  · have hothers : ∀ y ∈ later.filter (·.isPublication) ++ later.filter (!·.isPublication),
        y.ignoresProject = true := by
      intro y hy
      rcases List.mem_append.mp hy with hy | hy <;> exact h y (List.mem_filter.mp hy).1
    have hunpublished : during.unpublished = afterwards.unpublished := by
      rw [unpublished_after engine.asksOnce_carryOut h,
        unpublished_after engine.asksOnce_carryOut hothers, filter_publications_last]
    have hproject : during.services.project = afterwards.services.project := by
      simp only [during, afterwards, project_after, List.filterMap_append, filterMap_published?]
    refine ⟨?_, congrArg (·.waiting) hunpublished, congrArg (·.log) hunpublished⟩
    have hservices := congrArg (·.services) hunpublished
    calc during.services
      _ = (during.services.withProject none).withProject during.services.project := rfl
      _ = (afterwards.services.withProject none).withProject afterwards.services.project := by
        rw [hproject]
        exact congrArg (fun s : Services => s.withProject _) hservices
      _ = afterwards.services := rfl

/-- An empty datafile is published while a call waits for the bandit of its first flag. Its second flag is
still decided by the datafile before, and the user put into a variation of its experiment. -/
theorem snapshot_isolation_of_two :
    let earlier : List (Step Errand) :=
      [.begin (.decideEach (Sample.user "u") ["g", "f"] .empty), .change (.publish Sample.datafile)]
    let run := after Sample.engine.carryOut default
    let during := run ([.reply 0 (.ok "v"), .change (.publish default)] ++ earlier)
    let afterwards := run ([.change (.publish default), .reply 0 (.ok "v")] ++ earlier)
    ((run earlier).waiting 0).isSome = true ∧ (during.waiting 0).isSome = false ∧
      during.services = afterwards.services ∧ during.services.assigned? "u" "e" = some "a" := by
  intro earlier run during afterwards
  obtain ⟨hservices, -, -⟩ := (snapshot_isolation Sample.engine default earlier
    [.reply 0 (.ok "v"), .change (.publish default)]).2 (by decide)
  exact ⟨by decide +kernel, by decide +kernel, hservices, by decide +kernel⟩

end Interleaving

end FlagEngine
