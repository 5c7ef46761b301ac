import FlagEngine.Proofs.Datafile.Records
import FlagEngine.Proofs.Datafile.Trees

/-!
# Datafiles that are read again

A datafile that was read is read again from its own text: `Datafile.ofText?_text_toJson`. Two things are
asked of its audiences, whose trees may stand in strings: that none of them is a bare reference, and that the
trees have room where they are written inline. The numbers in conditions must read back.

What was read is `Decoded`: its trees come from values in range, with the levels that were left at their
place. From this it follows that what is written for it is regular at the same levels (`regular_toJson`) and
that reading restores it (`restores`).
-/

namespace FlagEngine

open Json (Document Regular Number Ascending)
open Decode

/-! ## Conditions of rules -/

/-- The tree was read where `levels` levels were left. -/
def Condition.Decoded (levels : Nat) (c : Condition) : Prop :=
  ∃ j : Json, j ≠ .null ∧ j.Regular Number.InRange levels ∧ c = ofJson j

namespace Condition

variable {l : Nat} {c : Condition}

theorem decoded_of_optional? {field : Option Document} {conditions : Option Condition}
    (h : optional? (decode? l) field = some conditions) : ∀ c, conditions = some c → c.Decoded l := by
  rintro c rfl
  unfold optional? at h
  split at h
  · cases h
  · cases h
  · next d hd =>
    obtain ⟨c, hc, ⟨⟩⟩ := Option.map_eq_some_iff.mp h
    obtain ⟨j, hj, rfl⟩ := Option.map_eq_some_iff.mp hc
    refine ⟨j, ?_, Document.regular_of_toJson? hj, rfl⟩
    rintro rfl
    exact Document.toJson?_ne_null hd hj

namespace Decoded

theorem regular_toJson (h : c.Decoded l) : c.toJson.Regular Number.InRange l := by
  obtain ⟨j, -, hj, rfl⟩ := h
  exact regular_toJson_ofJson hj

theorem toJson_ne_null (h : c.Decoded l) : c.toJson ≠ .null := by
  obtain ⟨j, hj, -, rfl⟩ := h
  exact toJson_ofJson_ne_null hj

theorem restores (h : c.Decoded l) : Restores decode? toJson c := by
  obtain ⟨j, -, -, rfl⟩ := h
  intro k hregular
  rw [decode?, Document.toJson?_document hregular, Option.map_some, ofJson_toJson_ofJson]

theorem optional {conditions : Option Condition} {k : Nat} (h : ∀ c, conditions = some c → c.Decoded k)
    (hregular : ∀ c, conditions = some c → c.toJson.Regular Number.ReadsBack l) :
    optional? (decode? l) (conditions.map (Json.document ∘ toJson)) = some conditions :=
  optional?_map fun c hc => ⟨(h c hc).toJson_ne_null, (h c hc).restores l (hregular c hc)⟩

end Decoded

end Condition

/-! ## Records with conditions -/

/-- The things of a list were read, each where its record left the levels that `Decoded` tells of. -/
def AllDecoded {α : Type} (Decoded : Nat → α → Prop) (levels : Nat) (xs : List α) : Prop :=
  ∀ x ∈ xs, ∃ l, levels = l + 2 ∧ Decoded l x

namespace AllDecoded

variable {α : Type} {Decoded : Nat → α → Prop} {decode? : Nat → Document → Option α} {toJson : α → Json}
  {l m : Nat} {xs : List α}

theorem of_list? {field : Option Document} (h : withDefault? [] (list? decode? l) field = some xs)
    (hdecoded : ∀ k d x, decode? k d = some x → ∃ m, k = m + 1 ∧ Decoded m x) :
    AllDecoded Decoded l xs := by
  intro x hx
  obtain ⟨k, d, rfl, hd⟩ := exists_of_mem h hx
  obtain ⟨m, rfl, hm⟩ := hdecoded k d x hd
  exact ⟨m, rfl, hm⟩

theorem regular_array (h : AllDecoded Decoded (l + 2) xs)
    (hregular : ∀ x, Decoded l x → (toJson x).Regular Number.InRange (l + 1)) :
    (Json.array (xs.map toJson)).Regular Number.InRange (l + 2) := by
  refine Decode.regular_array fun x hx => ?_
  obtain ⟨k, hk, hx⟩ := h x hx
  cases hk
  exact hregular x hx

theorem list?_array (h : AllDecoded Decoded m xs) (hrestores : ∀ k x, Decoded k x → Restores decode? toJson x)
    (hregular : (Json.array (xs.map toJson)).Regular Number.ReadsBack l) :
    list? decode? l (Json.array (xs.map toJson)).document = some xs := by
  refine Decode.list?_array hregular fun x hx => ?_
  obtain ⟨k, -, hx⟩ := h x hx
  exact hrestores k x hx

end AllDecoded

/-- The experiment was read where `levels` levels were left inside it. -/
structure Experiment.Decoded (levels : Nat) (e : Experiment) : Prop where
  conditions : ∀ c, e.conditions = some c → c.Decoded levels
  whitelist : Ascending e.whitelist

namespace Experiment

variable {l : Nat} {e : Experiment}

theorem exists_decoded {d : Document} (h : decode? l d = some e) : ∃ k, l = k + 1 ∧ e.Decoded k := by
  simp only [decode?, bind_eq_some, Option.pure_def, Option.some.injEq] at h
  obtain ⟨r, hr, id, -, key, -, status, -, layerId, -, variations, -, traffic, -, audienceIds, -,
    conditions, hconditions, whitelist, hwhitelist, bandit, -, rfl⟩ := h
  exact ⟨r.1, exists_of_record? hr, Condition.decoded_of_optional? hconditions,
    ascending_of_withDefault? hwhitelist⟩

theorem Decoded.restores (h : e.Decoded l) : Restores decode? toJson e := by
  have hstatus : Status.ofName e.status.name = e.status := by cases e.status <;> rfl
  refine restores_record rfl ?_ fun l d fields hrecord hfields hregular => ?_
  · cases e.conditions <;> cases e.bandit <;> simp [Encode.optional]
  · have hvariations := list?_array (hregular "variations" (.array (e.variations.map Variation.toJson))
      (by simp [Json.lookup_cons_eq])) fun v _ => v.restores
    have htraffic := list?_array (hregular "trafficAllocation" (.array (e.traffic.map TrafficRange.toJson))
      (by simp [Json.lookup_cons_eq])) fun r _ => r.restores
    have haudienceIds := texts?_texts (hregular "audienceIds" (Encode.texts e.audienceIds)
      (by simp [Json.lookup_cons_eq]))
    have hconditions := Condition.Decoded.optional h.conditions fun c hc =>
      hregular "audienceConditions" c.toJson (by simp [List.lookup_append, Json.lookup_cons_eq, hc])
    have hwhitelist := textMap?_ofFields h.whitelist
    have hbandit : optional? (Bandit.decode? l) (e.bandit.map (Json.document ∘ Bandit.toJson))
        = some e.bandit := by
      refine optional?_map fun b hb => ⟨Json.ofFields_ne_null _, b.restores l ?_⟩
      exact hregular "cmab" b.toJson (by simp [List.lookup_append, Json.lookup_cons_eq, hb])
    simp [-Option.bind_eq_bind, decode?, hrecord, hfields, some_bind, List.lookup_append, Json.lookup_cons_eq,
      hstatus, hvariations, htraffic, haudienceIds, hconditions, hwhitelist, hbandit]

-- A list of variations with a list of overrides each takes four levels, even where it was left out.
theorem Decoded.regular_toJson (h : e.Decoded (l + 4)) : e.toJson.Regular Number.InRange (l + 5) := by
  have hvariations : (Json.array (e.variations.map Variation.toJson)).Regular Number.InRange (l + 4) :=
    regular_array fun v _ => v.regular_toJson
  have htraffic : (Json.array (e.traffic.map TrafficRange.toJson)).Regular Number.InRange (l + 4) :=
    regular_array fun r _ => r.regular_toJson
  have hwhitelist : (Json.ofFields (e.whitelist.map fun f => (f.1, .string f.2))).Regular
      Number.InRange (l + 4) :=
    .ofFields (List.forall_mem_map.mpr fun f _ => .string f.2)
  refine .ofFields ?_
  simp only [List.forall_mem_append, forall_mem_optional]
  exact ⟨⟨⟨by simp [hvariations, htraffic], fun c hc => (h.conditions c hc).regular_toJson⟩,
    by simp [hwhitelist]⟩, fun b _ => b.regular_toJson⟩

end Experiment

/-- The holdout was read where `levels` levels were left inside it. -/
def Holdout.Decoded (levels : Nat) (h : Holdout) : Prop :=
  ∀ c, h.conditions = some c → c.Decoded levels

namespace Holdout

variable {l : Nat} {h : Holdout}

theorem exists_decoded {d : Document} (hd : decode? l d = some h) : ∃ k, l = k + 1 ∧ h.Decoded k := by
  simp only [decode?, bind_eq_some, Option.pure_def, Option.some.injEq] at hd
  obtain ⟨r, hr, id, -, key, -, status, -, variations, -, traffic, -, audienceIds, -, conditions, hconditions,
    included, -, excluded, -, rfl⟩ := hd
  exact ⟨r.1, exists_of_record? hr, Condition.decoded_of_optional? hconditions⟩

theorem Decoded.restores (hh : h.Decoded l) : Restores decode? toJson h := by
  have hstatus : Status.ofName h.status.name = h.status := by cases h.status <;> rfl
  refine restores_record rfl ?_ fun l d fields hrecord hfields hregular => ?_
  · cases h.conditions <;> simp [Encode.optional]
  · have hvariations := Decode.list?_array (hregular "variations" (.array (h.variations.map Variation.toJson))
      (by simp [Json.lookup_cons_eq])) fun v _ => v.restores
    have htraffic := Decode.list?_array (hregular "trafficAllocation" (.array (h.traffic.map TrafficRange.toJson))
      (by simp [Json.lookup_cons_eq])) fun r _ => r.restores
    have haudienceIds := texts?_texts (hregular "audienceIds" (Encode.texts h.audienceIds)
      (by simp [Json.lookup_cons_eq]))
    have hconditions := Condition.Decoded.optional hh fun c hc =>
      hregular "audienceConditions" c.toJson (by simp [List.lookup_append, Json.lookup_cons_eq, hc])
    have hincluded := texts?_texts (hregular "includedFlags" (Encode.texts h.included)
      (by simp [List.lookup_append, Json.lookup_cons_eq]))
    have hexcluded := texts?_texts (hregular "excludedFlags" (Encode.texts h.excluded)
      (by simp [List.lookup_append, Json.lookup_cons_eq]))
    simp [-Option.bind_eq_bind, decode?, hrecord, hfields, some_bind, List.lookup_append, Json.lookup_cons_eq,
      hstatus, hvariations, htraffic, haudienceIds, hconditions, hincluded, hexcluded]

theorem Decoded.regular_toJson (hh : h.Decoded (l + 4)) : h.toJson.Regular Number.InRange (l + 5) := by
  have hvariations : (Json.array (h.variations.map Variation.toJson)).Regular Number.InRange (l + 4) :=
    regular_array fun v _ => v.regular_toJson
  have htraffic : (Json.array (h.traffic.map TrafficRange.toJson)).Regular Number.InRange (l + 4) :=
    regular_array fun r _ => r.regular_toJson
  refine .ofFields ?_
  simp only [List.forall_mem_append, forall_mem_optional]
  exact ⟨⟨by simp [hvariations, htraffic], fun c hc => (hh c hc).regular_toJson⟩, by simp⟩

end Holdout

/-! ## Records with experiments -/

def Group.Decoded (levels : Nat) (g : Group) : Prop :=
  AllDecoded Experiment.Decoded levels g.experiments

namespace Group

variable {l : Nat} {g : Group}

theorem exists_decoded {d : Document} (h : decode? l d = some g) : ∃ k, l = k + 1 ∧ g.Decoded k := by
  simp only [decode?, bind_eq_some, Option.pure_def, Option.some.injEq] at h
  obtain ⟨r, hr, id, -, policy, -, traffic, -, experiments, hexperiments, rfl⟩ := h
  exact ⟨r.1, exists_of_record? hr, .of_list? hexperiments fun _ _ _ => Experiment.exists_decoded⟩

theorem Decoded.restores (h : g.Decoded l) : Restores decode? toJson g := by
  have hpolicy : Policy.ofName g.policy.name = g.policy := by cases g.policy <;> rfl
  refine restores_record rfl (by simp) fun l d fields hrecord hfields hregular => ?_
  have htraffic := Decode.list?_array (hregular "trafficAllocation" (.array (g.traffic.map TrafficRange.toJson))
    (by simp [Json.lookup_cons_eq])) fun r _ => r.restores
  have hexperiments := AllDecoded.list?_array h (fun _ _ he => he.restores)
    (hregular "experiments" (.array (g.experiments.map Experiment.toJson)) (by simp [Json.lookup_cons_eq]))
  simp [-Option.bind_eq_bind, decode?, hrecord, hfields, some_bind, Json.lookup_cons_eq, hpolicy, htraffic,
    hexperiments]

theorem Decoded.regular_toJson (h : g.Decoded (l + 6)) : g.toJson.Regular Number.InRange (l + 7) := by
  have htraffic : (Json.array (g.traffic.map TrafficRange.toJson)).Regular Number.InRange (l + 6) :=
    regular_array fun r _ => r.regular_toJson
  have hexperiments := AllDecoded.regular_array h fun _ he => he.regular_toJson
  exact .ofFields (by simp [htraffic, hexperiments])

end Group

def Rollout.Decoded (levels : Nat) (r : Rollout) : Prop :=
  AllDecoded Experiment.Decoded levels r.rules

namespace Rollout

variable {l : Nat} {r : Rollout}

theorem exists_decoded {d : Document} (h : decode? l d = some r) : ∃ k, l = k + 1 ∧ r.Decoded k := by
  simp only [decode?, bind_eq_some, Option.pure_def, Option.some.injEq] at h
  obtain ⟨f, hf, id, -, rules, hrules, rfl⟩ := h
  exact ⟨f.1, exists_of_record? hf, .of_list? hrules fun _ _ _ => Experiment.exists_decoded⟩

theorem Decoded.restores (h : r.Decoded l) : Restores decode? toJson r := by
  refine restores_record rfl (by simp) fun l d fields hrecord hfields hregular => ?_
  have hrules := AllDecoded.list?_array h (fun _ _ he => he.restores)
    (hregular "experiments" (.array (r.rules.map Experiment.toJson)) (by simp [Json.lookup_cons_eq]))
  simp [-Option.bind_eq_bind, decode?, hrecord, hfields, some_bind, Json.lookup_cons_eq, hrules]

theorem Decoded.regular_toJson (h : r.Decoded (l + 6)) : r.toJson.Regular Number.InRange (l + 7) := by
  have hrules := AllDecoded.regular_array h fun _ he => he.regular_toJson
  exact .ofFields (by simp [hrules])

end Rollout

/-! ## Audiences -/

/-- The tree of the audience was read, inline or inside a string. -/
def Audience.Decoded (a : Audience) : Prop :=
  ∃ (j : Json) (l : Nat), j.Regular Number.InRange l ∧ a.conditions = .ofEmbedded j

namespace Audience

variable {l : Nat} {a : Audience}

theorem decoded_of_decode? {d : Document} (h : decode? l d = some a) : a.Decoded := by
  simp only [decode?, bind_eq_some, Option.pure_def, Option.some.injEq] at h
  obtain ⟨r, -, id, -, name, -, j, ⟨d, -, hj⟩, rfl⟩ := h
  exact ⟨j, r.1, Document.regular_of_toJson? hj, rfl⟩

theorem Decoded.restores (h : a.Decoded) (hbare : a.conditions.isReference = false) :
    Restores decode? toJson a := by
  have hagain : Condition.ofEmbedded a.conditions.toJson = a.conditions := by
    obtain ⟨j, -, -, hj⟩ := h
    rw [hj] at hbare ⊢
    exact Condition.ofEmbedded_toJson_ofEmbedded hbare
  refine restores_record rfl (by simp) fun l d fields hrecord hfields hregular => ?_
  have hconditions := Document.toJson?_document (hregular "conditions" a.conditions.toJson
    (by simp [Json.lookup_cons_eq]))
  simp [-Option.bind_eq_bind, decode?, hrecord, hfields, some_bind, Json.lookup_cons_eq, hconditions, hagain]

theorem Decoded.regular_toJson (h : a.Decoded) (hlevels : a.conditions.toJson.levels ≤ l) :
    a.toJson.Regular Number.InRange (l + 1) := by
  have hconditions : a.conditions.toJson.Regular Number.InRange l := by
    obtain ⟨j, k, hj, ha⟩ := h
    obtain ⟨m, hm⟩ := Condition.exists_regular_toJson_ofEmbedded hj
    rw [← ha] at hm
    exact hm.of_levels_le hlevels
  exact .ofFields (by simp [hconditions])

end Audience

/-! ## Datafiles -/

/-- The datafile was read where `levels` levels were left inside it. -/
structure Datafile.Decoded (levels : Nat) (d : Datafile) : Prop where
  experiments : AllDecoded Experiment.Decoded levels d.experiments
  groups : AllDecoded Group.Decoded levels d.groups
  rollouts : AllDecoded Rollout.Decoded levels d.rollouts
  audiences : ∀ a ∈ d.audiences ++ d.typedAudiences, a.Decoded
  holdouts : AllDecoded Holdout.Decoded levels d.holdouts

namespace Datafile

variable {l : Nat} {d : Datafile}

theorem exists_decoded {doc : Document} (h : decode? l doc = some d) : ∃ k, l = k + 1 ∧ d.Decoded k := by
  simp only [decode?, bind_eq_some, Option.pure_def, Option.some.injEq] at h
  obtain ⟨r, hr, version, -, revision, -, experiments, hexperiments, groups, hgroups, flags, -, rollouts,
    hrollouts, attributes, -, audiences, haudiences, typed, htyped, holdouts, hholdouts, send, -, rfl⟩ := h
  refine ⟨r.1, exists_of_record? hr, ?_⟩
  have haudience {field : Option Document} {as : List Audience}
      (h : withDefault? [] (list? Audience.decode? r.1) field = some as) : ∀ a ∈ as, a.Decoded := by
    intro a ha
    obtain ⟨k, doc, -, hdoc⟩ := exists_of_mem h ha
    exact Audience.decoded_of_decode? hdoc
  exact {
    experiments := .of_list? hexperiments fun _ _ _ => Experiment.exists_decoded
    groups := .of_list? hgroups fun _ _ _ => Group.exists_decoded
    rollouts := .of_list? hrollouts fun _ _ _ => Rollout.exists_decoded
    audiences := List.forall_mem_append.mpr ⟨haudience haudiences, haudience htyped⟩
    holdouts := .of_list? hholdouts fun _ _ _ => Holdout.exists_decoded }

theorem Decoded.restores (h : d.Decoded l)
    (hbare : ∀ a ∈ d.audiences ++ d.typedAudiences, a.conditions.isReference = false) :
    Restores decode? toJson d := by
  have haudience : ∀ a ∈ d.audiences ++ d.typedAudiences, Restores Audience.decode? Audience.toJson a :=
    fun a ha => (h.audiences a ha).restores (hbare a ha)
  obtain ⟨haudiences, htyped⟩ := List.forall_mem_append.mp haudience
  refine restores_record rfl (by simp) fun l _ fields hrecord hfields hregular => ?_
  have hexperiments := h.experiments.list?_array (fun _ _ he => he.restores)
    (hregular "experiments" _ (by simp [Json.lookup_cons_eq]))
  have hgroups := h.groups.list?_array (fun _ _ hg => hg.restores)
    (hregular "groups" _ (by simp [Json.lookup_cons_eq]))
  have hflags := list?_array (hregular "featureFlags" (.array (d.flags.map Flag.toJson))
    (by simp [Json.lookup_cons_eq])) fun f _ => f.restores
  have hrollouts := h.rollouts.list?_array (fun _ _ hr => hr.restores)
    (hregular "rollouts" _ (by simp [Json.lookup_cons_eq]))
  have hattributes := list?_array (hregular "attributes" (.array (d.attributes.map AttributeKey.toJson))
    (by simp [Json.lookup_cons_eq])) fun a _ => a.restores
  have haudiences := list?_array (hregular "audiences" _ (by simp [Json.lookup_cons_eq])) haudiences
  have htyped := list?_array (hregular "typedAudiences" _ (by simp [Json.lookup_cons_eq])) htyped
  have hholdouts := h.holdouts.list?_array (fun _ _ hh => hh.restores)
    (hregular "holdouts" _ (by simp [Json.lookup_cons_eq]))
  simp [-Option.bind_eq_bind, decode?, hrecord, hfields, some_bind, Json.lookup_cons_eq, hexperiments, hgroups,
    hflags, hrollouts, hattributes, haudiences, htyped, hholdouts]

theorem Decoded.regular_toJson (h : d.Decoded (l + 8))
    (hlevels : ∀ a ∈ d.audiences ++ d.typedAudiences, a.conditions.toJson.levels ≤ l + 6) :
    d.toJson.Regular Number.InRange (l + 9) := by
  have hexperiments := h.experiments.regular_array fun _ he => he.regular_toJson
  have hgroups := h.groups.regular_array fun _ hg => hg.regular_toJson
  have hflags : (Json.array (d.flags.map Flag.toJson)).Regular Number.InRange (l + 8) :=
    regular_array fun f _ => f.regular_toJson
  have hrollouts := h.rollouts.regular_array fun _ hr => hr.regular_toJson
  have hattributes : (Json.array (d.attributes.map AttributeKey.toJson)).Regular Number.InRange (l + 8) :=
    regular_array fun a _ => a.regular_toJson
  have haudience : ∀ a ∈ d.audiences ++ d.typedAudiences, a.toJson.Regular Number.InRange (l + 7) :=
    fun a ha => (h.audiences a ha).regular_toJson (hlevels a ha)
  obtain ⟨haudiences, htyped⟩ := List.forall_mem_append.mp haudience
  have haudiences := regular_array haudiences
  have htyped := regular_array htyped
  have hholdouts := h.holdouts.regular_array fun _ hh => hh.regular_toJson
  exact .ofFields (by simp [hexperiments, hgroups, hflags, hrollouts, hattributes, haudiences, htyped, hholdouts])

/-- The text of a value is read as the datafile of its document. -/
theorem ofText?_text {j : Json} (h : ∀ n ∈ j.numbers, n.IsNumeral) : ofText? j.text = ofDocument? j.document := by
  rw [ofText?, Document.ofText?_text h, Option.bind_eq_bind, Option.bind_some]

/-- A datafile that was read is read again from its own text, unless an audience is no more than a reference
to another, its tree is too deep to be written inline, or a number in a condition is not read as it is
written. -/
theorem ofText?_text_toJson {text : String} (h : ofText? text = some d)
    (hbare : ∀ a ∈ d.audiences ++ d.typedAudiences, a.conditions.isReference = false)
    (hlevels : ∀ a ∈ d.audiences ++ d.typedAudiences, a.conditions.toJson.levels ≤ 124)
    (hfloats : ∀ x, .float x ∈ d.toJson.numbers → (Number.float x).ReadsBack) :
    ofText? d.toJson.text = some d := by
  obtain ⟨doc, -, hdoc⟩ := Option.bind_eq_some_iff.mp h
  obtain ⟨k, hk, hdecoded⟩ := exists_decoded hdoc
  -- From a list of groups down to the overrides of a variation it is eight levels, of 126 in the datafile.
  have hk : k = 118 + 8 := (Nat.succ.inj hk).symm
  subst hk
  have hregular : d.toJson.Regular Number.ReadsBack Document.maxLevels :=
    (hdecoded.regular_toJson hlevels).readsBack hfloats
  have hrestored := hdecoded.restores hbare Document.maxLevels hregular
  rw [ofText?_text fun n hn => (hregular.forall_numbers n hn).1, ofDocument?]
  exact hrestored

/-- An experiment of unknown status with an inline tree, and an audience with its tree inside a string. -/
def Sample.retired : Json :=
  .object [
    ("experiments", .array [.object [
      ("id", .string "e"), ("key", .string "e"), ("status", .string "Retired"),
      ("audienceConditions", .array [.string "a", .array []]),
      ("forcedVariations", .object [("v", .string "1"), ("u", .string "2")])]]),
    ("audiences", .array [.object [
      ("id", .string "a"), ("conditions", .string "[\"not\",\x7b\"value\":1.5\x7d]")]])]

theorem ofText?_text_toJson_retired :
    ∃ d, ofText? Sample.retired.text = some d ∧ ofText? d.toJson.text = some d := by
  have hread : ofText? Sample.retired.text = ofDocument? Sample.retired.document :=
    ofText?_text (by decide +kernel)
  have hpremises : (ofDocument? Sample.retired.document).any (fun d =>
      (∀ a ∈ d.audiences ++ d.typedAudiences, a.conditions.isReference = false) ∧
        (∀ a ∈ d.audiences ++ d.typedAudiences, a.conditions.toJson.levels ≤ 124) ∧
          ∀ n ∈ d.toJson.numbers, n.ReadsBack) = true := by
    decide +kernel
  cases hd : ofDocument? Sample.retired.document with
  | none =>
    rw [hd] at hpremises
    cases hpremises
  | some d =>
    rw [hd] at hread hpremises
    obtain ⟨hbare, hlevels, hnumbers⟩ := of_decide_eq_true hpremises
    exact ⟨d, hread, ofText?_text_toJson hread hbare hlevels fun x hx => hnumbers _ hx⟩

/-! ## Audiences that are not read again -/

/-- A datafile with one audience, its tree inside a string. -/
def Sample.embedded (tree : String) : Json :=
  .object [("audiences", .array [.object [("conditions", .string tree), ("id", .string "a")]])]

def Sample.ofTree (c : Condition) : Datafile :=
  { (default : Datafile) with audiences := [⟨"a", "", c⟩] }

theorem Sample.ofText?_embedded (tree : String) :
    ofText? (embedded tree).text = some (ofTree (.ofEmbedded (.string tree))) :=
  ofText?_text (j := embedded tree) (List.forall_mem_nil _)

/-- An array inside an array, and so on. -/
def Sample.nested : Nat → Json
  | 0 => .array []
  | n + 1 => .array [nested n]

theorem Sample.regular_nested {P : Number → Prop} (n : Nat) : (nested n).Regular P (n + 1) := by
  induction n with
  | zero => exact .array (List.forall_mem_nil _)
  | succ n ih => exact .array (List.forall_mem_singleton.mpr ih)

/-- Of three trees that may stand in a string the first is too deep, a number in the second is not read as
it is written, and the third is a mere reference. -/
theorem exists_ofText?_text_toJson_ne :
    (∃ d, ofText? (Sample.embedded (Sample.nested 124).text).text = some d ∧ ofText? d.toJson.text ≠ some d) ∧
    (∃ d, ofText? (Sample.embedded "[\"or\",\x7b\"value\":5.0e29\x7d]").text = some d ∧
      ofText? d.toJson.text ≠ some d) ∧
    ∃ d, ofText? (Sample.embedded "\"b\"").text = some d ∧ ofText? d.toJson.text ≠ some d := by
  refine ⟨⟨_, Sample.ofText?_embedded _, fun h => ?_⟩, ⟨_, Sample.ofText?_embedded _, fun h => ?_⟩,
    ⟨_, Sample.ofText?_embedded _, fun h => ?_⟩⟩
  · have hnested : (Sample.nested 124).Regular Number.ReadsBack Document.maxLevels :=
      (Sample.regular_nested 124).mono (by decide)
    have htree : Condition.ofEmbedded (.string (Sample.nested 124).text) = .ofJson (Sample.nested 124) := by
      rw [Condition.ofEmbedded, Json.ofText?_text hnested]
    rw [htree, ofText?_text (by decide +kernel)] at h
    have hnone : (ofDocument? (Sample.ofTree (.ofJson (Sample.nested 124))).toJson.document).isNone = true := by
      decide +kernel
    rw [h] at hnone
    cases hnone
  · rw [ofText?_text (by decide +kernel)] at h
    have hnumbers := congrArg (Option.map fun d : Datafile => d.toJson.numbers) h
    revert hnumbers
    decide +kernel
  · rw [ofText?_text (by decide +kernel)] at h
    have hreference := congrArg (Option.map fun d : Datafile => d.audiences.map (·.conditions.isReference)) h
    revert hreference
    decide +kernel

end Datafile

end FlagEngine
