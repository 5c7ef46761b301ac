import FlagEngine.Prediction.Endpoint
import FlagEngine.Proofs.Replacement
import FlagEngine.Proofs.Url.Paths

/-!
# URLs of rules

What an id holds, without tabs and line ends, can be read in the segment of its URL. The URLs of two rules are the same
if and only if their ids hold the same: `url?_identifies`. So ids that differ in tabs and line ends only have one URL, and
so have the ids of one and of two dots: `url?_of_tab`.
-/

namespace FlagEngine.Prediction

open Url (IsName IsStep)

variable {special : Bool} {s x y : List Char} {path : List (List Char)} {endpoint ruleId : String} {url : Url}

/-! ## Segments of ids -/

/-- The characters of an id that stand in its segment. -/
def held (ruleId : String) : List Char :=
  let cs := ruleId.toList.filter fun c => !(c == '\t' || c == '\n' || c == '\r')
  if cs = ['.'] ∨ cs = ['.', '.'] then [] else cs

theorem held_of_plain (hchars : ∀ c ∈ ruleId.toList, c ∉ ['\t', '\n', '\r']) (hdot : ruleId ≠ ".")
    (hdots : ruleId ≠ "..") : held ruleId = ruleId.toList := by
  have hfilter : ruleId.toList.filter (fun c => !(c == '\t' || c == '\n' || c == '\r')) = ruleId.toList := by
    apply List.filter_eq_self.mpr
    intro c hc
    simpa [and_assoc] using hchars c hc
  unfold held
  rw [hfilter]
  apply if_neg
  rintro (h | h)
  · exact hdot (String.toList_inj.mp h)
  · exact hdots (String.toList_inj.mp h)

theorem held_ne (ruleId : String) : ¬ (held ruleId = ['.'] ∨ held ruleId = ['.', '.']) := by
  unfold held
  dsimp only
  split
  · decide
  · next h => exact h

theorem isSegmentSafe_percent (special : Bool) : Url.isSegmentSafe special '%' = false := by
  cases special <;> rfl

theorem isSegmentSafe_dot (special : Bool) : Url.isSegmentSafe special '.' = true := by
  cases special <;> rfl

theorem isSegmentSafe_slash (special : Bool) : Url.isSegmentSafe special '/' = false := by
  cases special <;> rfl

theorem segment_eq_encode (special : Bool) (ruleId : String) :
    segment special ruleId = Url.encode (Url.isSegmentSafe special) (held ruleId) := by
  have hstep (cs : List Char) : IsStep (Url.encode (Url.isSegmentSafe special) cs) ↔ cs = ['.'] ∨ cs = ['.', '.'] :=
    Url.isStep_encode (isSegmentSafe_percent special) (isSegmentSafe_dot special)
  unfold segment held
  dsimp only
  split
  · next h => rw [if_pos ((hstep _).mp (Bool.or_eq_true_iff.mp h))]; rfl
  · next h => rw [if_neg fun hdots => h (Bool.or_eq_true_iff.mpr ((hstep _).mpr hdots))]

theorem isName_segment (special : Bool) (ruleId : String) : IsName (segment special ruleId) := by
  rw [segment_eq_encode]
  constructor
  · apply Url.slash_notMem_encode
    rintro c - hsafe rfl
    rw [isSegmentSafe_slash] at hsafe
    cases hsafe
  · rw [Url.isStep_encode (isSegmentSafe_percent special) (isSegmentSafe_dot special)]
    exact held_ne ruleId

/-! ## Placing segments -/

/-- An endpoint at which an id becomes a name, whatever the id is. -/
structure IsEndpoint (endpoint : String) (url : Url) (path : List (List Char)) : Prop where
  parsed : Url.parse endpoint = .ok url
  takesPath : url.takesPath = true
  location : url.location = .rooted path
  /-- The paths of files have drives, which are no segments. -/
  not_isFile : Url.isFile url.scheme = false
  /-- What stands beside a placeholder in its segment is no part of a step. -/
  clear : ∀ s ∈ path, Text.occurs placeholder s = true →
    s = placeholder ∨ ∃ c ∈ Text.replaceAll placeholder [] s, c ∉ Url.stepChars

theorem placeholder_ne_nil : placeholder ≠ [] := by
  decide

theorem mem_of_mem_trimEnd (h : s ∈ trimEnd path) : s ∈ path := by
  have hsuffix := List.dropWhile_suffix (l := path.reverse) (·.isEmpty)
  exact List.mem_reverse.mp (hsuffix.subset (List.mem_reverse.mp h))

theorem place_of_occurs (x : List Char) (h : path.any (Text.occurs placeholder) = true) :
    place path x = path.map (Text.replaceAll placeholder x) :=
  if_pos h

theorem place_of_not_occurs (x : List Char) (h : ¬ path.any (Text.occurs placeholder) = true) :
    place path x = trimEnd path ++ [x] :=
  if_neg h

theorem place_inj : place path x = place path y ↔ x = y := by
  constructor
  · intro h
    by_cases hany : path.any (Text.occurs placeholder) = true
    · obtain ⟨s, hs, hoccurs⟩ := List.any_eq_true.mp hany
      rw [place_of_occurs x hany, place_of_occurs y hany] at h
      exact (Text.replaceAll_inj placeholder_ne_nil hoccurs).mp (List.map_inj_left.mp h s hs)
    · rw [place_of_not_occurs x hany, place_of_not_occurs y hany] at h
      exact List.singleton_inj.mp (List.append_cancel_left h)
  · intro h
    rw [h]

/-- The segment stands in one segment of the path. -/
theorem exists_mem_place (path : List (List Char)) (x : List Char) :
    ∃ s ∈ place path x, ∃ before after, s = before ++ (x ++ after) := by
  by_cases hany : path.any (Text.occurs placeholder) = true
  · obtain ⟨s, hs, hoccurs⟩ := List.any_eq_true.mp hany
    obtain ⟨before, rest, hrest⟩ := Text.exists_replaceAll_eq placeholder_ne_nil hoccurs
    rw [place_of_occurs x hany]
    exact ⟨_, List.mem_map_of_mem hs, before, _, hrest x⟩
  · rw [place_of_not_occurs x hany]
    exact ⟨x, List.mem_append_right _ (List.mem_singleton_self x), [], [], (List.append_nil x).symm⟩

theorem mem_place (h : ∀ s ∈ path, Text.occurs placeholder s = true → s = placeholder) (x : List Char) :
    x ∈ place path x := by
  by_cases hany : path.any (Text.occurs placeholder) = true
  · obtain ⟨s, hs, hoccurs⟩ := List.any_eq_true.mp hany
    rw [place_of_occurs x hany]
    refine List.mem_map.mpr ⟨s, hs, ?_⟩
    rw [h s hs hoccurs, Text.replaceAll_self placeholder_ne_nil]
  · rw [place_of_not_occurs x hany]
    exact List.mem_append_right _ (List.mem_singleton_self x)

theorem IsEndpoint.isName_replaceAll (h : IsEndpoint endpoint url path) (hx : IsName x) (hs : s ∈ path) :
    IsName (Text.replaceAll placeholder x s) := by
  have hname := Url.isName_of_parse h.parsed h.location hs
  constructor
  · intro hslash
    rcases Text.mem_replaceFrom x hslash with hslash | hslash
    · exact hx.slash_notMem hslash
    · exact hname.slash_notMem hslash
  · by_cases hoccurs : Text.occurs placeholder s = true
    · rcases h.clear s hs hoccurs with rfl | ⟨c, hc, hclear⟩
      · rw [Text.replaceAll_self placeholder_ne_nil]
        exact hx.not_isStep
      · intro hstep
        exact hclear (hstep.mem_stepChars ((Text.sublist_replaceFrom 0 s).subset hc))
    · rw [Text.replaceAll_of_not_occurs x hoccurs]
      exact hname.not_isStep

theorem IsEndpoint.isName_place (h : IsEndpoint endpoint url path) (hx : IsName x) : ∀ s ∈ place path x, IsName s := by
  intro s hs
  by_cases hany : path.any (Text.occurs placeholder) = true
  · rw [place_of_occurs x hany] at hs
    obtain ⟨t, ht, rfl⟩ := List.mem_map.mp hs
    exact h.isName_replaceAll hx ht
  · rw [place_of_not_occurs x hany] at hs
    rcases List.mem_append.mp hs with hs | hs
    · exact Url.isName_of_parse h.parsed h.location (mem_of_mem_trimEnd hs)
    · rw [List.mem_singleton.mp hs]
      exact hx

/-- No step is resolved, so that every segment stays where it was placed. -/
theorem IsEndpoint.url?_eq (h : IsEndpoint endpoint url path) (ruleId : String) :
    url? endpoint ruleId
      = .ok { url with location := .rooted (place path (segment (Url.isSpecial url.scheme) ruleId)) } := by
  unfold url?
  rw [h.parsed]
  dsimp only
  rw [h.takesPath, h.location]
  dsimp only
  rw [Url.resolve_of_not_isStep fun s hs => (h.isName_place (isName_segment _ ruleId) s hs).not_isStep]
  rfl

/-! ## Texts of URLs -/

theorem needsMark_append_singleton (path : List (List Char)) (x y : List Char) :
    (Url.Location.rooted (path ++ [x])).needsMark = (Url.Location.rooted (path ++ [y])).needsMark := by
  match path with
  | [] => cases x <;> cases y <;> rfl
  | [a] => cases a <;> rfl
  | a :: b :: path => cases a <;> rfl

/-- Whether a path needs a mark does not depend on the segment that is placed in it. -/
theorem needsMark_place (h : (Url.Location.rooted path).needsMark = true) (x y : List Char) :
    (Url.Location.rooted (place path x)).needsMark = (Url.Location.rooted (place path y)).needsMark := by
  by_cases hany : path.any (Text.occurs placeholder) = true
  · rw [place_of_occurs x hany, place_of_occurs y hany]
    match path, h with
    | [] :: b :: path, _ => rfl
  · rw [place_of_not_occurs x hany, place_of_not_occurs y hany]
    exact needsMark_append_singleton _ x y

theorem IsEndpoint.authorityText_eq (h : IsEndpoint endpoint url path) (x y : List Char) :
    Url.authorityText { url with location := .rooted (place path x) }
      = Url.authorityText { url with location := .rooted (place path y) } := by
  have htakes := h.takesPath
  unfold Url.takesPath Url.authorityText at htakes
  unfold Url.authorityText
  dsimp only
  cases hhost : url.host with
  | some host => rfl
  | none =>
    rw [hhost, h.location] at htakes
    dsimp only at htakes ⊢
    split at htakes
    · next hmark => rw [needsMark_place hmark x y]
    · cases htakes

theorem IsEndpoint.text_eq_iff (h : IsEndpoint endpoint url path) (hx : IsName x) (hy : IsName y) :
    Url.text { url with location := .rooted (place path x) } = Url.text { url with location := .rooted (place path y) }
      ↔ x = y := by
  unfold Url.text
  dsimp only [Url.Location.text]
  rw [h.authorityText_eq x y, List.append_left_inj, List.append_left_inj, List.append_right_inj,
    Url.pathText_inj (fun s hs => (h.isName_place hx s hs).slash_notMem)
      (fun s hs => (h.isName_place hy s hs).slash_notMem), place_inj]

/-! ## What the URL of a rule identifies -/

/-- At every such endpoint every rule has a URL. Its path has the characters that the id holds, encoded, in one segment,
alone if every placeholder is alone, and they can be read there again. Two rules have the same URL if and only if their
ids hold the same, which is all of an id without tabs and line ends that is not one of the steps. -/
theorem url?_identifies (h : IsEndpoint endpoint url path) :
    let encoded (ruleId : String) := Url.encode (Url.isSegmentSafe (Url.isSpecial url.scheme)) (held ruleId)
    (∀ ruleId, ∃ u segments, url? endpoint ruleId = .ok u ∧ u.location = .rooted segments ∧
      (∃ s ∈ segments, '/' ∉ s ∧ ∃ before after, s = before ++ (encoded ruleId ++ after)) ∧
      ((∀ s ∈ path, Text.occurs placeholder s = true → s = placeholder) → encoded ruleId ∈ segments) ∧
      Url.decodeBytes (encoded ruleId) = (held ruleId).flatMap String.utf8EncodeChar) ∧
    (∀ ruleId ruleId' u u', url? endpoint ruleId = .ok u → url? endpoint ruleId' = .ok u' →
      (u.text = u'.text ↔ held ruleId = held ruleId')) ∧
    ∀ ruleId : String, (∀ c ∈ ruleId.toList, c ∉ ['\t', '\n', '\r']) → ruleId ≠ "." → ruleId ≠ ".." →
      held ruleId = ruleId.toList := by
  intro encoded
  have hpercent := isSegmentSafe_percent (Url.isSpecial url.scheme)
  refine ⟨fun ruleId => ?_, fun ruleId ruleId' u u' hu hu' => ?_, fun ruleId => held_of_plain⟩
  · refine ⟨_, _, h.url?_eq ruleId, rfl, ?_⟩
    rw [segment_eq_encode]
    have hname : IsName (encoded ruleId) := by
      have hsegment := isName_segment (Url.isSpecial url.scheme) ruleId
      rwa [segment_eq_encode] at hsegment
    obtain ⟨s, hs, hparts⟩ := exists_mem_place path (encoded ruleId)
    exact ⟨⟨s, hs, (h.isName_place hname s hs).slash_notMem, hparts⟩, fun halone => mem_place halone _,
      Url.decodeBytes_encode hpercent _⟩
  · rw [h.url?_eq] at hu hu'
    rw [← Except.ok.inj hu, ← Except.ok.inj hu', h.text_eq_iff (isName_segment _ _) (isName_segment _ _),
      segment_eq_encode, segment_eq_encode, Url.encode_inj hpercent]

theorem url?_identifies_at_rules :
    let url : Url := ⟨"http".toList, some (.domain ['h']), none, .rooted ["rules".toList, placeholder], none, none⟩
    IsEndpoint "http://h/rules/{rule_id}" url ["rules".toList, placeholder] ∧
      ∀ u u', url? "http://h/rules/{rule_id}" "a/b" = .ok u → url? "http://h/rules/{rule_id}" "a%2Fb" = .ok u' →
        u.text ≠ u'.text := by
  intro url
  have h : IsEndpoint "http://h/rules/{rule_id}" url ["rules".toList, placeholder] :=
    ⟨by decide +kernel, by decide, rfl, by decide, by decide⟩
  refine ⟨h, fun u u' hu hu' htext => ?_⟩
  have hheld := ((url?_identifies h).2.1 _ _ u u' hu hu').mp htext
  revert hheld
  decide

/-- Different ids have the same URL: a tab vanishes, and so do the ids that are steps, also with what stands beside the
placeholder. -/
theorem url?_of_tab :
    let url (s : String) : Url := ⟨"http".toList, some (.domain ['h']), none, .rooted [['p'], s.toList], none, none⟩
    "a\tb" ≠ "ab" ∧ url? "http://h/p" "a\tb" = .ok (url "ab") ∧ url? "http://h/p" "ab" = .ok (url "ab") ∧
      "." ≠ ".." ∧ url? "http://h/p" "." = .ok (url "") ∧ url? "http://h/p" ".." = .ok (url "") ∧
      "2e" ≠ "2E" ∧ url? "http://h/p/%{rule_id}" "2e" = .ok (url "") ∧
        url? "http://h/p/%{rule_id}" "2E" = .ok (url "") := by
  decide +kernel

end FlagEngine.Prediction
