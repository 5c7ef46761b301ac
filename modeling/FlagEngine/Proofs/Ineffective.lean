import FlagEngine.Proofs.Resemblance

/-!
# Ineffective forced decisions

A decision that a user forces has no effect on a flag if it is for another flag, or for a variation that the
project does not know of the flag. It may be forgotten before the flag is decided, and nothing changes but the
lines that tell of it: `Flag.ineffective_decisions_idle`.
-/

namespace FlagEngine

/-! ## Lines about ineffective decisions -/

namespace Reason

/-- The reason tells of a forced decision for a variation that is not known. -/
def isStaleForcedDecision : Reason → Bool
  | .staleForcedDecision _ _ => true
  | _ => false

/-- How a line begins that tells of a forced decision for a variation that is not known. -/
def staleForcedDecisionIntro : String :=
  "Invalid variation is mapped to "

def isStaleForcedDecisionLine (line : String) : Bool :=
  staleForcedDecisionIntro.toList.isPrefixOf line.toList

variable {r : Reason}

private theorem text_staleForcedDecision (point : DecisionPoint) (userId : String) :
    (staleForcedDecision point userId).text = staleForcedDecisionIntro ++ point.text ++ " and user "
      ++ ("(" ++ userId ++ ")") ++ " in the forced decision map." :=
  rfl

theorem isStaleForcedDecisionLine_text (h : r.isStaleForcedDecision = true) :
    isStaleForcedDecisionLine r.text = true := by
  cases r
  case staleForcedDecision point userId =>
    simp only [text_staleForcedDecision, String.append_assoc]
    rw [isStaleForcedDecisionLine, String.toList_append, List.isPrefixOf_iff_prefix]
    exact List.prefix_append ..
  all_goals cases h

theorem isError_of_isStaleForcedDecision (h : r.isStaleForcedDecision = true) : r.isError = false := by
  cases r
  case staleForcedDecision point userId => rfl
  all_goals cases h

end Reason

/-- All reasons count but those that tell of forced decisions for variations that are not known. -/
def exceptStaleForcedDecisions : Tolerance where
  alike call call' := call = call'
  essential r := !r.isStaleForcedDecision
  alike_refl _ := rfl

namespace Tolerance.Keeps

variable {rs rs' : List Reason}

private theorem filter_essential {P : Reason → Bool}
    (hP : ∀ r, P r = true → exceptStaleForcedDecisions.essential r = true)
    (h : exceptStaleForcedDecisions.Keeps rs rs') : rs.filter P = rs'.filter P := by
  have hfilter (rs : List Reason) :
      rs.filter P = (rs.filter exceptStaleForcedDecisions.essential).filter P := by
    rw [List.filter_filter]
    refine List.filter_congr fun r _ => ?_
    cases hr : P r with
    | false => rfl
    | true => exact (hP r hr).symm
  rw [hfilter rs, hfilter rs', h.essential]

private theorem errors_eq_map (rs : List Reason) :
    Remark.errors (rs.map Reason.remark) = (rs.filter (·.isError)).map Reason.text := by
  simp only [Remark.errors, List.filter_map, List.map_map]
  rfl

private theorem infos_eq_map (rs : List Reason) :
    Remark.infos (rs.map Reason.remark) = (rs.filter (!·.isError)).map Reason.text := by
  simp only [Remark.infos, List.filter_map, List.map_map]
  rfl

theorem errors_eq (h : exceptStaleForcedDecisions.Keeps rs rs') :
    Remark.errors (rs'.map Reason.remark) = Remark.errors (rs.map Reason.remark) := by
  rw [errors_eq_map, errors_eq_map, filter_essential _ h]
  intro r hr
  cases hs : r.isStaleForcedDecision with
  | false => simp [exceptStaleForcedDecisions, hs]
  | true => exact absurd (Reason.isError_of_isStaleForcedDecision hs) (by simp [hr])

theorem infos_sublist (h : exceptStaleForcedDecisions.Keeps rs rs') :
    List.Sublist (Remark.infos (rs'.map Reason.remark)) (Remark.infos (rs.map Reason.remark)) := by
  rw [infos_eq_map, infos_eq_map]
  exact (h.sublist.filter _).map _

/-- The lines that are missing begin as they should. -/
theorem infos_filter (h : exceptStaleForcedDecisions.Keeps rs rs') :
    (Remark.infos (rs'.map Reason.remark)).filter (!Reason.isStaleForcedDecisionLine ·)
      = (Remark.infos (rs.map Reason.remark)).filter (!Reason.isStaleForcedDecisionLine ·) := by
  rw [infos_eq_map, infos_eq_map, List.filter_map, List.filter_map, List.filter_filter,
    List.filter_filter, filter_essential _ h]
  intro r hr
  cases hs : r.isStaleForcedDecision with
  | false => simp [exceptStaleForcedDecisions, hs]
  | true => simp [Reason.isStaleForcedDecisionLine_text hs] at hr

end Tolerance.Keeps

/-! ## Flags -/

namespace User

/-- The user without the forced decisions that have no effect on the flag with the key. -/
def effective (user : User) (p : Project) (flagKey : String) : User :=
  { user with
    forced := user.forced.filter fun point key =>
      point.flagKey == flagKey && (p.flagVariation? flagKey key).isSome }

variable {p : Project} {user : User}

theorem getElem?_forced_effective (flagKey : String) (ruleKey : Option String) :
    (user.effective p flagKey).forced[(⟨flagKey, ruleKey⟩ : DecisionPoint)]?
      = user.forced[(⟨flagKey, ruleKey⟩ : DecisionPoint)]?.filter
          fun key => (p.flagVariation? flagKey key).isSome := by
  simp [effective]

/-- At every point of the flag the same decision is forced, if any. Only the reason may be missing. -/
theorem resembles_forcedDecision? (flagKey : String) (ruleKey : Option String) :
    (user.forcedDecision? p ⟨flagKey, ruleKey⟩).Resembles exceptStaleForcedDecisions
      ((user.effective p flagKey).forcedDecision? p ⟨flagKey, ruleKey⟩) := by
  unfold forcedDecision?
  rw [getElem?_forced_effective]
  cases user.forced[(⟨flagKey, ruleKey⟩ : DecisionPoint)]? with
  | none => exact .of_eq rfl
  | some key =>
    cases hv : p.flagVariation? flagKey key with
    | none =>
      simp only [Option.filter, hv]
      exact ⟨rfl, List.nil_sublist _, rfl⟩
    | some v =>
      simp only [Option.filter, hv, Option.isSome_some, if_true]
      exact .of_eq rfl

theorem alike_effective (user : User) (p : Project) (flag : Flag) :
    user.Alike exceptStaleForcedDecisions p flag (user.effective p flag.key) where
  id := rfl
  attributes := ⟨rfl, fun _ _ _ => rfl, fun _ _ => .refl (fun _ => rfl) (fun _ => rfl) _⟩
  forced := resembles_forcedDecision? flag.key

end User

namespace Flag

/-- **Ineffective forced decisions change nothing.** Let all forced decisions of a user be forgotten that are
for other flags, or for variations that the project does not know of the flag. To decide the flag then comes
to the same verdict or failure as before, with the same errors among its reasons, the same exchanges with the
services and the bandits, and the same state of the services in the end. Of the other lines of its reasons,
none is new, and only such are missing as tell of an invalid variation. -/
theorem ineffective_decisions_idle {σ : Type} (handler : Plan.Handler σ)
    (reply : Bandit.Call → σ → Bandit.Reply × σ) (s : σ) (engine : Engine) (p : Project) (flag : Flag)
    (user : User) (options : Options) :
    let call (u : User) := (flag.deliberate engine p u options).settle (engine.tracker? u.id options)
    let run (u : User) := (call u).run handler reply s
    let remarks (u : User) := (run u).1.reasons.map Reason.remark
    let user' := user.effective p flag.key
    (run user').1.result = (run user).1.result ∧ (run user').2 = (run user).2 ∧
      (call user').transcript handler reply s = (call user).transcript handler reply s ∧
      Remark.errors (remarks user') = Remark.errors (remarks user) ∧
      List.Sublist (Remark.infos (remarks user')) (Remark.infos (remarks user)) ∧
      (Remark.infos (remarks user')).filter (!Reason.isStaleForcedDecisionLine ·)
        = (Remark.infos (remarks user)).filter (!Reason.isStaleForcedDecisionLine ·) := by
  intro call run remarks user'
  have hcall : (call user).Resembles exceptStaleForcedDecisions.alike
      (Outcome.Resembles exceptStaleForcedDecisions) (call user') :=
    (resembles_deliberate (user.alike_effective p flag)).settle _
  obtain ⟨houtcome, hstate, htranscript⟩ :=
    hcall.run handler (fun _ _ h => congrArg reply h) s
  have hexchanges : (call user).transcript handler reply s = (call user').transcript handler reply s := by
    refine List.forall₂_eq_eq_eq ▸ htranscript.imp fun x y hxy => ?_
    cases hxy with
    | asked => rfl
    | fetched reply hc => rw [show _ = _ from hc]
  exact ⟨houtcome.result.symm, hstate.symm, hexchanges.symm, houtcome.reasons.errors_eq,
    houtcome.reasons.infos_sublist, houtcome.reasons.infos_filter⟩

end Flag

end FlagEngine
