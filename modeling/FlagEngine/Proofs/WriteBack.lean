import FlagEngine.Decision.Flag
import FlagEngine.Proofs.World

/-!
# Writing back

A tracker reads as if its changes had been saved at once: `Tracker.flush` is the store that saving them
would leave, and `Tracker.play_saved?` and `Tracker.play_record` read and write there.
-/

namespace FlagEngine

namespace ProfileStore

/-- Stores with the same contents. -/
def Same (s s' : ProfileStore) : Prop :=
  ∀ userId : String, (userId ∈ s ↔ userId ∈ s') ∧
    ∀ experimentId : String, (s.profile userId)[experimentId]? = (s'.profile userId)[experimentId]?

variable {s s' s'' : ProfileStore} {userId experimentId variationId : String}

theorem Same.refl (s : ProfileStore) : s.Same s :=
  fun _ => ⟨.rfl, fun _ => rfl⟩

theorem Same.symm (h : s.Same s') : s'.Same s :=
  fun u => ⟨(h u).1.symm, fun e => ((h u).2 e).symm⟩

theorem Same.trans (h : s.Same s') (h' : s'.Same s'') : s.Same s'' :=
  fun u => ⟨(h u).1.trans (h' u).1, fun e => ((h u).2 e).trans ((h' u).2 e)⟩

theorem mem_save (s : ProfileStore) (u : String) :
    u ∈ s.save userId experimentId variationId ↔ userId = u ∨ u ∈ s := by
  rw [save, Std.TreeMap.mem_insert, Std.LawfulEqCmp.compare_eq_iff_eq]

theorem getElem?_profile_save (s : ProfileStore) (u e : String) :
    ((s.save userId experimentId variationId).profile u)[e]?
      = if userId = u ∧ experimentId = e then some variationId else (s.profile u)[e]? := by
  rw [profile_save]
  by_cases hu : userId = u
  · subst hu
    simp only [if_true, Std.TreeMap.getElem?_insert, Std.LawfulEqCmp.compare_eq_iff_eq, true_and]
  · simp [hu]

theorem mem_of_getElem?_profile (h : (s.profile userId)[experimentId]? = some variationId) :
    userId ∈ s := by
  refine Decidable.byContradiction fun hn => ?_
  rw [profile, Std.TreeMap.getD_eq_fallback hn, Std.TreeMap.getElem?_emptyc] at h
  cases h

/-- Stores with the same contents but for one variation. -/
def SameBut (userId experimentId : String) (s s' : ProfileStore) : Prop :=
  ∀ u : String, (u ≠ userId → (u ∈ s ↔ u ∈ s')) ∧
    ∀ e : String, ¬ (u = userId ∧ e = experimentId) → (s.profile u)[e]? = (s'.profile u)[e]?

theorem Same.sameBut (h : s.Same s') : SameBut userId experimentId s s' :=
  fun u => ⟨fun _ => (h u).1, fun e _ => (h u).2 e⟩

theorem SameBut.save (h : SameBut userId experimentId s s') (u e v : String) :
    SameBut userId experimentId (s.save u e v) (s'.save u e v) := by
  intro u'
  refine ⟨fun hu => ?_, fun e' he => ?_⟩
  · rw [mem_save, mem_save, (h u').1 hu]
  · rw [getElem?_profile_save, getElem?_profile_save, (h u').2 e' he]

theorem SameBut.save_right (h : SameBut userId experimentId s s') (v : String) :
    SameBut userId experimentId s (s'.save userId experimentId v) := by
  intro u
  refine ⟨fun hu => ?_, fun e he => ?_⟩
  · rw [(h u).1 hu, mem_save]
    exact (or_iff_right (Ne.symm hu)).symm
  · rw [(h u).2 e he, getElem?_profile_save, if_neg]
    exact fun hc => he ⟨hc.1.symm, hc.2.symm⟩

theorem SameBut.same_save (h : SameBut userId experimentId s s') (v : String) :
    (s.save userId experimentId v).Same (s'.save userId experimentId v) := by
  intro u
  refine ⟨?_, fun e => ?_⟩
  · rw [mem_save, mem_save]
    by_cases hu : userId = u
    · simp [hu]
    · rw [(h u).1 (Ne.symm hu)]
  · rw [getElem?_profile_save, getElem?_profile_save]
    split
    · rfl
    · next hc => exact (h u).2 e fun he => hc ⟨he.1.symm, he.2.symm⟩

theorem Same.save (h : s.Same s') (u e v : String) : (s.save u e v).Same (s'.save u e v) :=
  h.sameBut.same_save v

/-- To save what is there already changes nothing. -/
theorem same_save_self (h : (s.profile userId)[experimentId]? = some variationId) :
    s.Same (s.save userId experimentId variationId) := by
  intro u
  refine ⟨?_, fun e => ?_⟩
  · rw [mem_save]
    refine ⟨.inr, ?_⟩
    rintro (rfl | hm)
    · exact mem_of_getElem?_profile h
    · exact hm
  · rw [getElem?_profile_save]
    split
    · next he =>
      obtain ⟨rfl, rfl⟩ := he
      exact h
    · rfl

end ProfileStore

namespace Tracker

/-- The store that saving the changes leaves. -/
def flush (t : Tracker) (s : ProfileStore) : ProfileStore :=
  t.pending.foldl (fun s change => s.save t.userId change.1 change.2) s

/-- What has been read is what the store would have if the changes were saved. -/
structure Coherent (t : Tracker) (s : ProfileStore) : Prop where
  unread : t.loaded = none → t.pending = []
  read : ∀ profile, t.loaded = some profile →
    ∀ e : String, profile[e]? = ((t.flush s).profile t.userId)[e]?

variable {t : Tracker} {s : ProfileStore} {profile : Profile} {e v : String} {κ : Type}
  {w : World κ}

theorem coherent_ofUser (userId : String) (s : ProfileStore) : (ofUser userId).Coherent s where
  unread _ := rfl
  read := by
    rintro profile ⟨⟩

theorem play_load (responder : Responder κ) (ht : t.Coherent w.services.profiles) :
    ∃ profile, t.load.play responder w = ((profile, { t with loaded := some profile }), w) ∧
      ({ t with loaded := some profile } : Tracker).Coherent w.services.profiles := by
  cases hl : t.loaded with
  | some profile =>
    have hself : ({ t with loaded := some profile } : Tracker) = t := by rw [← hl]
    rw [load_of_loaded hl]
    refine ⟨profile, ?_, ?_⟩
    · rw [hself]
      rfl
    · rwa [hself]
  | none =>
    refine ⟨w.services.profiles.profile t.userId, ?_, ⟨?_, ?_⟩⟩
    · rw [load, hl]
      rfl
    · rintro ⟨⟩
    · rintro _ ⟨⟩ e
      simp only [flush, ht.unread hl, List.foldl_nil]

theorem play_saved? (responder : Responder κ) (ht : t.Coherent w.services.profiles) (e : String) :
    ∃ t' : Tracker, (t.saved? e).play responder w
        = ((((t.flush w.services.profiles).profile t.userId)[e]?, t'), w) ∧
      t'.userId = t.userId ∧ t'.flush w.services.profiles = t.flush w.services.profiles ∧
      t'.Coherent w.services.profiles := by
  obtain ⟨profile, hplay, hc⟩ := play_load responder ht
  refine ⟨{ t with loaded := some profile }, ?_, rfl, rfl, hc⟩
  rw [saved?, Plan.play_bind, hplay]
  exact congrArg (fun id => ((id, _), w)) (hc.read profile rfl e)

/-! ## Changes -/

private theorem sameBut_filter {userId : String} (pending : List (String × String))
    {s s' : ProfileStore} (h : ProfileStore.SameBut userId e s s') :
    ProfileStore.SameBut userId e
      ((pending.filter (·.1 != e)).foldl (fun s change => s.save userId change.1 change.2) s)
      (pending.foldl (fun s change => s.save userId change.1 change.2) s') := by
  induction pending generalizing s s' with
  | nil => exact h
  | cons change pending ih =>
    by_cases he : change.1 = e
    · subst he
      rw [List.filter_cons_of_neg (by simp)]
      exact ih (h.save_right change.2)
    · rw [List.filter_cons_of_pos (by simpa using he)]
      exact ih (h.save userId change.1 change.2)

theorem userId_change : (t.change profile e v).userId = t.userId := by
  unfold change
  split <;> rfl

theorem loaded_change : (t.change profile e v).loaded = some (profile.insert e v) := by
  unfold change
  split <;> rfl

theorem flush_change (ht : t.Coherent s) (hl : t.loaded = some profile) :
    ((t.change profile e v).flush s).Same ((t.flush s).save t.userId e v) := by
  unfold change
  split
  · next hv =>
    rw [ht.read profile hl] at hv
    exact ProfileStore.same_save_self hv
  · simp only [flush, List.foldl_append, List.foldl_cons, List.foldl_nil]
    exact (sameBut_filter t.pending (ProfileStore.Same.refl s).sameBut).same_save v

theorem coherent_change (ht : t.Coherent s) (hl : t.loaded = some profile) :
    (t.change profile e v).Coherent s := by
  refine ⟨fun hn => ?_, fun profile' hl' e' => ?_⟩
  · rw [loaded_change] at hn
    cases hn
  · rw [loaded_change] at hl'
    cases hl'
    rw [userId_change, (flush_change ht hl t.userId).2 e', ProfileStore.getElem?_profile_save,
      Std.TreeMap.getElem?_insert, ht.read profile hl e']
    simp only [Std.LawfulEqCmp.compare_eq_iff_eq, true_and]

theorem play_record (responder : Responder κ) (ht : t.Coherent w.services.profiles)
    (e v : String) :
    ∃ t' : Tracker, (t.record e v).play responder w = (t', w) ∧ t'.userId = t.userId ∧
      (t'.flush w.services.profiles).Same ((t.flush w.services.profiles).save t.userId e v) ∧
      t'.Coherent w.services.profiles := by
  obtain ⟨profile, hplay, hc⟩ := play_load responder ht
  refine ⟨({ t with loaded := some profile } : Tracker).change profile e v, ?_, ?_, ?_, ?_⟩
  · rw [record, Plan.play_bind, hplay]
    rfl
  · exact userId_change
  · exact flush_change hc rfl
  · exact coherent_change hc rfl

/-! ## Saving -/

theorem play_saveAll (responder : Responder κ) (userId : String) (pending : List (String × String))
    (w : World κ) :
    (saveAll userId pending).play responder w = ((), w.withProfiles
      (pending.foldl (fun s change => s.save userId change.1 change.2) w.services.profiles)) := by
  induction pending generalizing w with
  | nil => rfl
  | cons change pending ih => exact ih _

/-- The store that saving the changes of a tracker leaves, if there is a tracker. -/
def flushAny (tracker : Option Tracker) (s : ProfileStore) : ProfileStore :=
  tracker.elim s (·.flush s)

theorem play_saveIfAny (responder : Responder κ) (tracker : Option Tracker) (w : World κ) :
    (saveIfAny tracker).play responder w
      = ((), w.withProfiles (flushAny tracker w.services.profiles)) := by
  cases tracker with
  | none => rfl
  | some t => exact play_saveAll responder t.userId t.pending w

end Tracker

end FlagEngine
