import FlagEngine.Proofs.SingleSaves
import FlagEngine.Proofs.WriteBack

/-!
# Overlays

What a tracker is called for between its start and its saving, in any order. The calls lie over the profile that the
store has told of: `Tracker.viewed` is what can be seen through them, and `Tracker.Changed` tells the experiments for
which one of them has made a difference. `Tracker.Overlays` is what each call keeps of a tracker. From it
`Tracker.leads_session` tells all that any store is asked, and `Tracker.play_after` goes on to what saving leaves in a
store that nobody else uses.
-/

namespace FlagEngine

namespace Tracker

/-- What a tracker is called for before it is saved. -/
inductive Call where
  | look (experimentId : String)
  | record (experimentId variationId : String)

/-- Makes a call. Only a look is answered. -/
def perform (t : Tracker) : Call → Plan (List (Option String) × Tracker)
  | .look experimentId => do
    let (variationId, t) ← t.saved? experimentId
    return ([variationId], t)
  | .record experimentId variationId => do
    let t ← t.record experimentId variationId
    return ([], t)

/-- Makes some calls to a new tracker. The calls and their answers are listed with the latest first. -/
def after (userId : String) : List Call → Plan (List (Option String) × Tracker)
  | [] => return ([], ofUser userId)
  | c :: earlier => do
    let (answers, t) ← after userId earlier
    let (answer, t) ← t.perform c
    return (answer ++ answers, t)

/-- Makes some calls to a new tracker and then saves it. -/
def session (userId : String) (calls : List Call) : Plan (List (Option String)) := do
  let (answers, t) ← after userId calls
  t.save
  return answers

/-! ## Calls over a profile -/

/-- The variation that a call records for an experiment. -/
def Call.recorded? (experimentId : String) : Call → Option String
  | .look _ => none
  | .record id variationId => if id = experimentId then some variationId else none

/-- What there is for an experiment after some calls: what they have recorded last, or else what the profile has. -/
def viewed (profile : Profile) (calls : List Call) (experimentId : String) : Option String :=
  (calls.findSome? (Call.recorded? experimentId)).or profile[experimentId]?

/-- What there is at each look of some calls. -/
def looks (profile : Profile) : List Call → List (Option String)
  | [] => []
  | .look experimentId :: earlier => viewed profile earlier experimentId :: looks profile earlier
  | .record _ _ :: earlier => looks profile earlier

/-- One of some calls has recorded another variation for an experiment than there was. -/
def Changed (profile : Profile) (calls : List Call) (experimentId : String) : Prop :=
  ∃ later variationId earlier, calls = later ++ .record experimentId variationId :: earlier ∧
    viewed profile earlier experimentId ≠ some variationId

variable {userId e e' v : String} {profile : Profile} {calls : List Call} {c : Call} {t : Tracker}

theorem viewed_record :
    viewed profile (.record e v :: calls) e' = if e = e' then some v else viewed profile calls e' := by
  unfold viewed
  rw [List.findSome?_cons, Call.recorded?]
  by_cases he : e = e'
  · rw [if_pos he, if_pos he]
    rfl
  · rw [if_neg he, if_neg he]

theorem not_changed_nil : ¬ Changed profile [] e := by
  rintro ⟨later, v, earlier, heq, -⟩
  simp at heq

theorem changed_cons :
    Changed profile (c :: calls) e
      ↔ (∃ v, c = .record e v ∧ viewed profile calls e ≠ some v) ∨ Changed profile calls e := by
  constructor
  · rintro ⟨later, v, earlier, heq, hv⟩
    rcases List.cons_eq_append_iff.mp heq with ⟨-, hcons⟩ | ⟨later', -, hrest⟩
    · obtain ⟨rfl, rfl⟩ := List.cons.inj hcons
      exact .inl ⟨v, rfl, hv⟩
    · exact .inr ⟨later', v, earlier, hrest, hv⟩
  · rintro (⟨v, rfl, hv⟩ | ⟨later, v, earlier, rfl, hv⟩)
    · exact ⟨[], v, calls, rfl, hv⟩
    · exact ⟨c :: later, v, earlier, rfl, hv⟩

theorem changed_look : Changed profile (.look e :: calls) e' ↔ Changed profile calls e' := by
  rw [changed_cons]
  exact or_iff_right (by rintro ⟨v, ⟨⟩, _⟩)

theorem changed_record :
    Changed profile (.record e v :: calls) e'
      ↔ (e = e' ∧ viewed profile calls e ≠ some v) ∨ Changed profile calls e' := by
  rw [changed_cons]
  refine or_congr_left ⟨?_, ?_⟩
  · rintro ⟨_, ⟨⟩, hv⟩
    exact ⟨rfl, hv⟩
  · rintro ⟨rfl, hv⟩
    exact ⟨v, rfl, hv⟩

instance Changed.decidable (profile : Profile) : (calls : List Call) → (e : String) →
    Decidable (Changed profile calls e)
  | [], _ => isFalse not_changed_nil
  | .look _ :: calls, e =>
    have := Changed.decidable profile calls e
    decidable_of_iff _ changed_look.symm
  | .record _ _ :: calls, e =>
    have := Changed.decidable profile calls e
    decidable_of_iff _ changed_record.symm

/-! ## The tracker -/

/-- How a tracker stands to the profile that the store has told of and to the calls since. -/
structure Overlays (userId : String) (profile : Profile) (calls : List Call) (t : Tracker) : Prop where
  user : t.userId = userId
  loaded : ∃ current, t.loaded = some current ∧ ∀ e : String, current[e]? = viewed profile calls e
  distinct : (t.pending.map (·.1)).Nodup
  changed : ∀ e, e ∈ t.pending.map (·.1) ↔ Changed profile calls e
  latest : ∀ change ∈ t.pending, viewed profile calls change.1 = some change.2

/-- The tracker that has just been told the profile. -/
def told (userId : String) (profile : Profile) : Tracker :=
  ⟨userId, some profile, []⟩

theorem overlays_told (userId : String) (profile : Profile) : Overlays userId profile [] (told userId profile) where
  user := rfl
  loaded := ⟨profile, rfl, fun _ => rfl⟩
  distinct := List.nodup_nil
  changed _ := ⟨nofun, fun h => (not_changed_nil h).elim⟩
  latest := nofun

theorem mem_pending_change {current : Profile} (hv : current[e]? ≠ some v) :
    e' ∈ (t.change current e v).pending.map (·.1) ↔ e = e' ∨ e' ∈ t.pending.map (·.1) := by
  simp only [change, if_neg hv, List.map_append, List.mem_append, List.map_singleton, List.mem_singleton,
    List.mem_map, List.mem_filter, bne_iff_ne]
  constructor
  · rintro (⟨change, ⟨hmem, -⟩, rfl⟩ | rfl)
    · exact .inr ⟨change, hmem, rfl⟩
    · exact .inl rfl
  · rintro (rfl | ⟨change, hmem, rfl⟩)
    · exact .inr rfl
    · by_cases he : change.1 = e
      · exact .inr he
      · exact .inl ⟨change, ⟨hmem, he⟩, rfl⟩

theorem Overlays.change {current : Profile} (h : Overlays userId profile calls t)
    (hcurrent : ∀ e : String, current[e]? = viewed profile calls e) (e v : String) :
    Overlays userId profile (.record e v :: calls) (t.change current e v) where
  user := userId_change.trans h.user
  loaded := by
    refine ⟨current.insert e v, loaded_change, fun e' => ?_⟩
    rw [Std.TreeMap.getElem?_insert, hcurrent, viewed_record]
    simp only [Std.LawfulEqCmp.compare_eq_iff_eq]
  distinct := nodup_change h.distinct current e v
  changed e' := by
    rw [changed_record, ← h.changed, ← hcurrent]
    by_cases hv : current[e]? = some v
    · rw [Tracker.change, if_pos hv]
      exact (or_iff_right fun hne => hne.2 hv).symm
    · rw [mem_pending_change hv]
      exact or_congr_left (and_iff_left hv).symm
  latest change hmem := by
    rw [viewed_record]
    unfold Tracker.change at hmem
    split at hmem
    · next hv =>
      rw [hcurrent] at hv
      split
      · next he => rw [← hv, he, h.latest change hmem]
      · exact h.latest change hmem
    · rcases List.mem_append.mp hmem with hmem | hmem
      · obtain ⟨hmem, hne⟩ := List.mem_filter.mp hmem
        rw [if_neg (Ne.symm (bne_iff_ne.mp hne))]
        exact h.latest change hmem
      · cases List.mem_singleton.mp hmem
        exact if_pos rfl

theorem Overlays.leads_perform (h : Overlays userId profile calls t) (c : Call) (past : Transcript) :
    (t.perform c).Leads (fun past' a => past' = past ∧ a.1 ++ looks profile calls = looks profile (c :: calls) ∧
      Overlays userId profile (c :: calls) a.2) past := by
  obtain ⟨current, hloaded, hcurrent⟩ := h.loaded
  cases c with
  | look e =>
    rw [perform, saved?, load_of_loaded hloaded]
    refine ⟨rfl, congrArg (· :: _) (hcurrent e), ?_⟩
    exact ⟨h.user, h.loaded, h.distinct, fun e' => (h.changed e').trans changed_look.symm, h.latest⟩
  | record e v =>
    rw [perform, record, load_of_loaded hloaded]
    exact ⟨rfl, rfl, h.change hcurrent e v⟩

/-- The first call asks for the profile. A lookup that fails is as good as an empty profile. -/
theorem leads_perform_ofUser (userId : String) (c : Call) :
    ((ofUser userId).perform c).Leads (fun past a => ∃ lookup : Option Profile,
      past = [.asked (.profile userId) lookup] ∧ a.1 = looks (lookup.getD ∅) [c] ∧
        Overlays userId (lookup.getD ∅) [c] a.2) [] := by
  have htold (lookup : Option Profile) := (overlays_told userId (lookup.getD ∅)).leads_perform c []
  cases c with
  | look e => exact fun lookup => ⟨lookup, rfl, rfl, (htold lookup).2.2⟩
  | record e v => exact fun lookup => ⟨lookup, rfl, rfl, (htold lookup).2.2⟩

/-- How a tracker stands after some calls, their answers with it, to what has passed by then. -/
inductive Stands (userId : String) : List Call → Transcript → List (Option String) × Tracker → Prop where
  | unread : Stands userId [] [] ([], ofUser userId)
  | read {c : Call} {earlier : List Call} {lookup : Option Profile} {t : Tracker} :
      Overlays userId (lookup.getD ∅) (c :: earlier) t →
      Stands userId (c :: earlier) [.asked (.profile userId) lookup] (looks (lookup.getD ∅) (c :: earlier), t)

theorem Stands.user {past : Transcript} {a : List (Option String) × Tracker} (h : Stands userId calls past a) :
    a.2.userId = userId := by
  cases h with
  | unread => rfl
  | read h => exact h.user

theorem leads_after (userId : String) (calls : List Call) : (after userId calls).Leads (Stands userId calls) [] := by
  induction calls with
  | nil => exact .unread
  | cons c earlier ih =>
    refine ih.bind fun past a ha => ?_
    cases ha with
    | unread =>
      refine (leads_perform_ofUser userId c).bind ?_
      rintro _ ⟨answer, t⟩ ⟨lookup, rfl, rfl, h⟩
      have hread := Stands.read h
      rwa [← List.append_nil (looks _ _)] at hread
    | read h =>
      refine (h.leads_perform c _).bind ?_
      rintro _ ⟨answer, t⟩ ⟨rfl, hanswer, h⟩
      have hread := Stands.read h
      rwa [← hanswer] at hread

/-! ## Saving -/

/-- What passes when a change is saved. -/
def saving (userId : String) (change : String × String) : Exchange :=
  .asked (.saveVariation userId change.1 change.2) ()

theorem leads_saveAll (userId : String) (pending : List (String × String)) (past : Transcript) :
    (saveAll userId pending).Leads
      (fun past' _ => past' = (pending.map (saving userId)).reverse ++ past) past := by
  induction pending generalizing past with
  | nil => rfl
  | cons change pending ih =>
    intro answer
    refine (ih _).mono ?_
    rintro _ _ rfl
    rw [List.map_cons, List.reverse_cons, List.append_assoc]
    rfl

theorem leads_session (userId : String) (calls : List Call) :
    (session userId calls).Leads (fun past answers => ∃ past' t, Stands userId calls past' (answers, t) ∧
      past = (t.pending.map (saving userId)).reverse ++ past') [] := by
  refine (leads_after userId calls).bind ?_
  rintro past ⟨answers, t⟩ h
  have huser : t.userId = userId := h.user
  refine (leads_saveAll t.userId t.pending past).bind ?_
  rintro _ _ rfl
  exact ⟨past, t, h, by rw [huser]⟩

/-- The profile is asked for before all else. -/
theorem exists_after_eq (userId : String) (c : Call) (earlier : List Call) :
    ∃ next, after userId (c :: earlier) = .ask (.profile userId) next := by
  induction earlier generalizing c with
  | nil => cases c <;> exact ⟨_, rfl⟩
  | cons c' earlier ih =>
    obtain ⟨next, h⟩ := ih c'
    rw [after, h]
    exact ⟨_, rfl⟩

theorem exists_session_eq (userId : String) (c : Call) (earlier : List Call) :
    ∃ next, session userId (c :: earlier) = .ask (.profile userId) next := by
  obtain ⟨next, h⟩ := exists_after_eq userId c earlier
  rw [session, h]
  exact ⟨_, rfl⟩

/-- Saving makes no difference to other users. -/
theorem getElem?_flush_of_ne {u : String} (h : u ≠ t.userId) (s : ProfileStore) : (t.flush s)[u]? = s[u]? := by
  unfold flush
  induction t.pending generalizing s with
  | nil => rfl
  | cons change pending ih =>
    rw [List.foldl_cons, ih, ProfileStore.save, Std.TreeMap.getElem?_insert, if_neg]
    rw [Std.LawfulEqCmp.compare_eq_iff_eq]
    exact Ne.symm h

/-- If nothing else happens, saving leaves what can be seen through the calls. -/
theorem play_after {κ : Type} (responder : Responder κ) (userId : String) (calls : List Call) (w : World κ) :
    let profile := w.services.profiles.profile userId
    ∃ t : Tracker, (after userId calls).play responder w = ((looks profile calls, t), w) ∧
      t.userId = userId ∧ t.Coherent w.services.profiles ∧
      ∀ e : String, ((t.flush w.services.profiles).profile userId)[e]? = viewed profile calls e := by
  intro profile
  induction calls with
  | nil => exact ⟨ofUser userId, rfl, rfl, coherent_ofUser userId _, fun _ => rfl⟩
  | cons c earlier ih =>
    obtain ⟨t, hplay, rfl, hc, hviewed⟩ := ih
    rw [after, Plan.play_bind, hplay]
    cases c with
    | look e =>
      obtain ⟨t', hsaved, huser, hflush, hc'⟩ := play_saved? responder hc e
      refine ⟨t', ?_, huser, hc', fun e' => ?_⟩
      · simp only [perform, Plan.play_bind, hsaved, hviewed]
        rfl
      · rw [hflush]
        exact hviewed e'
    | record e v =>
      obtain ⟨t', hrecord, huser, hflush, hc'⟩ := play_record responder hc e v
      refine ⟨t', ?_, huser, hc', fun e' => ?_⟩
      · simp only [perform, Plan.play_bind, hrecord]
        rfl
      · rw [(hflush t.userId).2 e', ProfileStore.getElem?_profile_save, hviewed, viewed_record]
        simp only [true_and]

/-- **A tracker is an overlay on the store that is written back.** Take any calls to a new tracker, which is then saved.

Whatever the store has, does and answers, a failing lookup among it:

* it is asked for the profile once, before all else, and not at all if there are no calls. A lookup that fails is as
  good as an empty profile;
* a look shows what has been recorded last for its experiment, or else what the profile has;
* each experiment is saved at most once. It is saved exactly if one of the calls has recorded another variation for
  it than there was, and the variation that is saved is the one that there is in the end. Nothing else is asked.

In a store that nobody else uses the profile of the user is then what there is to be seen in the end, and the profiles
of the others are as before. -/
theorem writes_back_changes (userId : String) (calls : List Call) :
    (∀ {σ : Type} (handler : Plan.Handler σ) (reply : Bandit.Call → σ → Bandit.Reply × σ) (s : σ),
      let lookup : Option Profile := (handler (.profile userId) s).1
      let profile := lookup.getD ∅
      ∃ changes : List (String × String),
        (session userId calls).transcript handler reply s
          = (changes.map (saving userId)).reverse
            ++ (if calls.isEmpty then [] else [.asked (.profile userId) lookup]) ∧
        ((session userId calls).run handler reply s).1 = looks profile calls ∧
        (changes.map (·.1)).Nodup ∧
        (∀ e, e ∈ changes.map (·.1) ↔ Changed profile calls e) ∧
        ∀ change ∈ changes, viewed profile calls change.1 = some change.2) ∧
    ∀ {κ : Type} (responder : Responder κ) (w : World κ),
      let profile := w.services.profiles.profile userId
      ∃ profiles, (session userId calls).play responder w = (looks profile calls, w.withProfiles profiles) ∧
        (∀ e : String, (profiles.profile userId)[e]? = viewed profile calls e) ∧
        ∀ u, u ≠ userId → profiles[u]? = w.services.profiles[u]? := by
  refine ⟨fun handler reply s => ?_, fun responder w => ?_⟩
  · intro lookup profile
    obtain ⟨past, t, hstands, hpast⟩ := (leads_session userId calls).run handler reply s
    rw [List.append_nil] at hpast
    generalize ((session userId calls).run handler reply s).1 = answers at hstands ⊢
    cases hstands with
    | unread => exact ⟨[], hpast, rfl, List.nodup_nil, (overlays_told userId profile).changed, nofun⟩
    | @read c earlier lookup' _ h =>
      -- So far `lookup'` is only some answer of the store. As it is asked first of all, it answers as it is in `s`.
      obtain rfl : lookup' = lookup := by
        obtain ⟨next, hsession⟩ := exists_session_eq userId c earlier
        rw [hsession, Plan.transcript_ask] at hpast
        cases List.append_inj_right' hpast rfl
        rfl
      exact ⟨t.pending, hpast, rfl, h.distinct, h.changed, h.latest⟩
  · intro profile
    obtain ⟨t, hplay, rfl, -, hviewed⟩ := play_after responder userId calls w
    refine ⟨t.flush w.services.profiles, ?_, hviewed, fun u hu => getElem?_flush_of_ne hu _⟩
    simp only [session, Plan.play_bind, hplay, save, play_saveAll]
    rfl

namespace Sample

def responder : Responder Unit :=
  fun _ _ => (.error .noClient, 0, ())

/-- Two users with profiles. -/
def world : World Unit :=
  let profiles : ProfileStore := ((∅ : ProfileStore).save "u" "1" "a").save "u" "2" "b"
  ⟨{ (default : Services) with profiles := profiles.save "w" "1" "c" }, (), []⟩

/-- The first experiment is left and entered again. The second one is recorded as it is, the third one twice. -/
def history : List Call :=
  [.record "3" "d", .look "3", .record "3" "d", .record "2" "b", .record "1" "a", .look "1", .record "1" "z"]

end Sample

/-- A variation that the user has come back to is saved, and one that the user has kept is not. -/
theorem writes_back_changes_of_return :
    let profile := Sample.world.services.profiles.profile "u"
    (∃ changes : List (String × String),
      (session "u" Sample.history).transcript World.answer (World.fetch Sample.responder) Sample.world
        = (changes.map (saving "u")).reverse ++ [.asked (.profile "u") (some profile)] ∧
      ("1", "a") ∈ changes ∧ "2" ∉ changes.map (·.1)) ∧
    "w" ≠ "u" ∧ ∃ profiles,
      (session "u" Sample.history).play Sample.responder Sample.world
        = ([some "d", some "z"], Sample.world.withProfiles profiles) ∧
      (profiles.profile "u")["1"]? = some "a" ∧ (profiles.profile "u")["3"]? = some "d" ∧
      profiles["w"]? = Sample.world.services.profiles["w"]? := by
  intro profile
  obtain ⟨hany, hown⟩ := writes_back_changes "u" Sample.history
  have hother : "w" ≠ "u" := by decide
  refine ⟨?_, hother, ?_⟩
  · obtain ⟨changes, htranscript, -, -, hchanged, hlatest⟩ :=
      hany World.answer (World.fetch Sample.responder) Sample.world
    refine ⟨changes, htranscript, ?_, fun h => absurd ((hchanged "2").mp h) (by decide +kernel)⟩
    obtain ⟨⟨_, v⟩, hmem, rfl⟩ := List.mem_map.mp ((hchanged "1").mpr (by decide +kernel))
    obtain rfl : "a" = v := Option.some.inj (hlatest _ hmem)
    exact hmem
  · obtain ⟨profiles, hplay, hviewed, hothers⟩ := hown Sample.responder Sample.world
    have hlooks : looks profile Sample.history = [some "d", some "z"] := by decide +kernel
    refine ⟨profiles, ?_, ?_, ?_, hothers "w" hother⟩
    · rw [hplay, ← hlooks]
    · rw [hviewed]
      rfl
    · rw [hviewed]
      rfl

end Tracker

end FlagEngine
