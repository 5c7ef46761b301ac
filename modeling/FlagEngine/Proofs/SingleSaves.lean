import FlagEngine.Proofs.Calls
import FlagEngine.Proofs.Transcripts
import Mathlib.Data.List.Nodup

/-!
# Single saves

A call saves nothing before its end, and then one variation at most for a user and an experiment:
`Engine.leads_carryOut`. A tracker has one change at most for each experiment, which `Unsaved` carries through
the call.
-/

namespace FlagEngine

open Deliberation

variable {α : Type} {past : Transcript} {engine : Engine} {p : Project} {options : Options}

/-- A variation has been saved for a user and an experiment, all by id. -/
def Transcript.Saves (past : Transcript) (userId experimentId variationId : String) : Prop :=
  .asked (.saveVariation userId experimentId variationId) () ∈ past

/-- What has been saved for a user and an experiment is one variation. -/
def Transcript.SavesSingly (past : Transcript) : Prop :=
  ∀ userId experimentId variationId variationId', past.Saves userId experimentId variationId →
    past.Saves userId experimentId variationId' → variationId = variationId'

/-- The exchange saves the variation for the user and the experiment. -/
def Exchange.saves (userId experimentId variationId : String) : Exchange → Bool
  | .asked (.saveVariation u e v) _ => u == userId && e == experimentId && v == variationId
  | _ => false

theorem Exchange.saves_iff {x : Exchange} {userId experimentId variationId : String} :
    x.saves userId experimentId variationId = true ↔
      x = .asked (.saveVariation userId experimentId variationId) () := by
  refine ⟨fun h => ?_, fun h => by simp [h, saves]⟩
  cases x with
  | asked q answer =>
    cases q with
    | saveVariation u e v =>
      simp only [saves, Bool.and_eq_true, beq_iff_eq] at h
      obtain ⟨⟨rfl, rfl⟩, rfl⟩ := h
      rfl
    | project | forcedVariation | profile | beginDecision | completeDecision | uuid => cases h
  | fetched => cases h

instance (past : Transcript) (userId experimentId variationId : String) :
    Decidable (past.Saves userId experimentId variationId) :=
  decidable_of_iff (past.any (Exchange.saves userId experimentId variationId) = true)
    (by simp [Transcript.Saves, Exchange.saves_iff])

theorem Transcript.saves_cons {x : Exchange} {userId experimentId variationId : String} :
    Transcript.Saves (x :: past) userId experimentId variationId ↔
      x = .asked (.saveVariation userId experimentId variationId) () ∨
        past.Saves userId experimentId variationId := by
  rw [Saves, List.mem_cons]
  exact or_congr_left eq_comm

/-- A change takes the place of an earlier one for the experiment. -/
theorem Tracker.nodup_change {t : Tracker} (h : (t.pending.map (·.1)).Nodup) (profile : Profile)
    (experimentId variationId : String) :
    ((t.change profile experimentId variationId).pending.map (·.1)).Nodup := by
  unfold Tracker.change
  split
  · exact h
  · have hfresh : experimentId ∉ (t.pending.filter (·.1 != experimentId)).map (·.1) := by
      intro hmem
      obtain ⟨change, hchange, heq⟩ := List.mem_map.mp hmem
      have hne := (List.mem_filter.mp hchange).2
      rw [heq] at hne
      simp at hne
    rw [List.map_append, List.map_singleton]
    refine List.Nodup.append (h.sublist ?_) (List.nodup_singleton _) ?_
    · exact (List.filter_sublist).map _
    · exact List.disjoint_singleton.mpr hfresh

/-- Nothing has been saved, and the tracker, if there is one, has one change at most for each experiment. -/
structure Unsaved (past : Transcript) (tracker : Option Tracker) : Prop where
  unsaved : ∀ userId experimentId variationId, ¬ past.Saves userId experimentId variationId
  distinct : ∀ t, tracker = some t → (t.pending.map (·.1)).Nodup

namespace Unsaved

theorem tracker? (engine : Engine) (userId : String) (options : Options) :
    Unsaved [] (engine.tracker? userId options) := by
  refine ⟨nofun, fun t ht => ?_⟩
  unfold Engine.tracker? at ht
  split at ht
  · cases ht
    exact List.nodup_nil
  · cases ht

theorem cons {tracker : Option Tracker} {x : Exchange} (h : Unsaved past tracker)
    (hx : ∀ userId experimentId variationId,
      x ≠ .asked (.saveVariation userId experimentId variationId) ()) : Unsaved (x :: past) tracker where
  unsaved userId experimentId variationId hsaves := by
    rcases Transcript.saves_cons.mp hsaves with heq | hsaves
    · exact hx _ _ _ heq
    · exact h.unsaved _ _ _ hsaves
  distinct := h.distinct

/-! ## The tracker -/

theorem inherited : Inherited fun _ x => x.Maintains Unsaved := by
  refine inherited_maintains fun past tracker x hx h => h.cons ?_
  rintro userId experimentId variationId rfl
  cases hx

theorem leads_load {t : Tracker} (h : Unsaved past (some t)) :
    t.load.Leads (fun past a => Unsaved past (some a.2)) past := by
  unfold Tracker.load
  split
  · exact h
  · intro answer
    have hasked := h.cons (x := .asked (.profile t.userId) answer) fun _ _ _ heq => by cases heq
    refine ⟨hasked.unsaved, ?_⟩
    rintro _ ⟨⟩
    exact h.distinct t rfl

theorem change {t : Tracker} (h : Unsaved past (some t)) (profile : Profile)
    (experimentId variationId : String) :
    Unsaved past (some (t.change profile experimentId variationId)) := by
  refine ⟨h.unsaved, ?_⟩
  rintro _ ⟨⟩
  exact Tracker.nodup_change (h.distinct t rfl) profile experimentId variationId

theorem maintains_saved? (id : String) : (saved? id).Maintains Unsaved := by
  intro past tracker h
  cases tracker with
  | none => exact h
  | some t =>
    refine Plan.Leads.bind (h.leads_load.bind ?_) fun _ _ ha => ha
    rintro past ⟨profile, t'⟩ ha
    exact ha

theorem maintains_record (id variationId : String) : (record id variationId).Maintains Unsaved := by
  intro past tracker h
  cases tracker with
  | none => exact h
  | some t =>
    refine Plan.Leads.bind (h.leads_load.bind ?_) fun _ _ ha => ha
    rintro past ⟨profile, t'⟩ ha
    exact ha.change profile id variationId

/-! ## Deliberations -/

theorem maintains_serve? (x : Experiment) (userId : String) (attributes : Attributes) :
    (x.serve? engine p userId attributes options).Maintains Unsaved :=
  inherited.serve? (maintains_saved? x.id) (maintains_record x.id)

theorem maintains_deliberate (flag : Flag) (user : User) :
    (flag.deliberate engine p user options).Maintains Unsaved :=
  inherited.deliberate fun _ x _ => maintains_serve? x user.id user.attributes

theorem leads_each {xs : List (Deliberation α)} (hxs : ∀ x ∈ xs, x.Maintains Unsaved)
    {tracker : Option Tracker} (h : Unsaved past tracker) :
    (each xs tracker).Leads (fun past a => Unsaved past a.2) past := by
  induction xs generalizing past tracker with
  | nil => exact h
  | cons x xs ih =>
    obtain ⟨hx, hxs⟩ := List.forall_mem_cons.mp hxs
    exact (hx past tracker h).bind fun past o ho => (ih hxs ho).bind fun _ _ ha => ha

/-! ## Saving at the end -/

theorem leads_saveAll {userId : String} {pending : List (String × String)}
    (hpending : (pending.map (·.1)).Nodup) (hpast : past.SavesSingly)
    (hfresh : ∀ change ∈ pending, ∀ variationId, ¬ past.Saves userId change.1 variationId) :
    (Tracker.saveAll userId pending).Leads (fun past _ => past.SavesSingly) past := by
  induction pending generalizing past with
  | nil => exact hpast
  | cons change pending ih =>
    obtain ⟨hchange, hpending⟩ := List.nodup_cons.mp hpending
    obtain ⟨hnew, hfresh⟩ := List.forall_mem_cons.mp hfresh
    intro answer
    refine ih hpending ?_ ?_
    · intro u e v v' hv hv'
      rcases Transcript.saves_cons.mp hv with heq | hold
      · cases heq
        rcases Transcript.saves_cons.mp hv' with heq | hold
        · cases heq
          rfl
        · exact (hnew _ hold).elim
      · rcases Transcript.saves_cons.mp hv' with heq | hold'
        · cases heq
          exact (hnew _ hold).elim
        · exact hpast u e v v' hold hold'
    · intro other hother v hsaves
      rcases Transcript.saves_cons.mp hsaves with heq | hold
      · injection heq with heq
        injection heq with _ hid
        exact hchange (List.mem_map.mpr ⟨other, hother, hid.symm⟩)
      · exact hfresh other hother v hold

theorem leads_saveIfAny {tracker : Option Tracker} (h : Unsaved past tracker) :
    (Tracker.saveIfAny tracker).Leads (fun past _ => past.SavesSingly) past := by
  have hpast : past.SavesSingly := fun u e v _ hv => (h.unsaved u e v hv).elim
  cases tracker with
  | none => exact hpast
  | some t => exact leads_saveAll (h.distinct t rfl) hpast fun _ _ v => h.unsaved t.userId _ v

theorem leads_settle {x : Deliberation α} (hx : x.Maintains Unsaved) {tracker : Option Tracker}
    (h : Unsaved past tracker) : (x.settle tracker).Leads (fun past _ => past.SavesSingly) past :=
  (hx past tracker h).bind fun _ _ ho => ho.leads_saveIfAny.bind fun _ _ ha => ha

theorem leads_settleAll {xs : List (Deliberation α)} (hxs : ∀ x ∈ xs, x.Maintains Unsaved)
    {tracker : Option Tracker} (h : Unsaved past tracker) :
    (settleAll xs tracker).Leads (fun past _ => past.SavesSingly) past :=
  (leads_each hxs h).bind fun _ _ ha => ha.leads_saveIfAny.bind fun _ _ hs => hs

end Unsaved

/-- A call saves one variation at most for a user and an experiment. -/
theorem Engine.leads_carryOut (engine : Engine) (errand : Errand) :
    (engine.carryOut errand).Leads (fun past _ => past.SavesSingly) [] := by
  rw [carryOut_eq_ask]
  intro project
  have hstart (userId : String) (options : Options) :
      Unsaved [.asked .project project] (engine.tracker? userId options) :=
    (Unsaved.tracker? engine userId options).cons fun _ _ _ heq => by cases heq
  have houtward : Plan.Outward fun _ x =>
      x.Leads (fun past _ => past.SavesSingly) [.asked .project project] := by
    refine ⟨fun _ u e v _ hv => ((hstart "" .empty).unsaved u e v hv).elim, fun hx hf => ?_⟩
    refine hx.bind fun past a ha => ?_
    obtain ⟨b, hb⟩ := hf a
    rw [hb]
    exact ha
  cases project with
  | none => exact houtward.given_none
  | some p =>
    refine houtward.given_some (fun flag => ?_) (fun flags => ?_) fun id x _ => ?_
    · exact Unsaved.leads_settle (Unsaved.maintains_deliberate flag _) (hstart ..)
    · refine Unsaved.leads_settleAll (fun x hx => ?_) (hstart ..)
      obtain ⟨flag, _, rfl⟩ := List.mem_map.mp hx
      exact Unsaved.maintains_deliberate flag _
    · exact Unsaved.leads_settle (Unsaved.maintains_serve? x _ _) (hstart ..)

end FlagEngine
