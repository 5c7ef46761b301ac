import FlagEngine.Proofs.Url.Encoding
import FlagEngine.Url.Basic

/-!
# Segments of paths

The segments of a URL that has been read are names: they hold no slash and are no steps. A path of names is left as it
is when steps are resolved, and its text tells where its segments end.
-/

namespace FlagEngine.Url

variable {c : Char} {s cs text : List Char} {path path' ss : List (List Char)} {isSeparator : Char → Bool}
  {special : Bool} {url : Url}

/-- A segment that stands for nothing else. -/
structure IsName (s : List Char) : Prop where
  slash_notMem : '/' ∉ s
  not_isStep : ¬ IsStep s

theorem isName_nil : IsName [] :=
  ⟨List.not_mem_nil, by decide⟩

/-! ## Reading paths -/

theorem of_mem_splitOn (hs : s ∈ splitOn isSeparator cs) (hc : c ∈ s) : isSeparator c = false := by
  induction cs generalizing s with
  | nil =>
    rw [List.mem_singleton.mp hs] at hc
    cases hc
  | cons d cs ih =>
    unfold splitOn at hs
    split at hs
    · rcases List.mem_cons.mp hs with rfl | hs
      · cases hc
      · exact ih hs hc
    · next hd =>
      split at hs
      · next part parts hparts =>
        rw [hparts] at ih
        rcases List.mem_cons.mp hs with rfl | hs
        · rcases List.mem_cons.mp hc with rfl | hc
          · exact Bool.eq_false_iff.mpr hd
          · exact ih List.mem_cons_self hc
        · exact ih (List.mem_cons_of_mem _ hs) hc
      · rw [List.mem_singleton.mp hs] at hc
        rw [List.mem_singleton.mp hc]
        exact Bool.eq_false_iff.mpr hd

theorem resolve_cons_of_not_isStep (h : ¬ IsStep s) : resolve path (s :: ss) = resolve (path ++ [s]) ss := by
  obtain ⟨hsingle, hdouble⟩ := not_or.mp h
  simp only [resolve, hsingle, hdouble, Bool.or_self, Bool.false_and, Bool.false_eq_true, if_false]

theorem resolve_of_not_isStep (h : ∀ s ∈ ss, ¬ IsStep s) : resolve path ss = path ++ ss := by
  induction ss generalizing path with
  | nil => exact (List.append_nil path).symm
  | cons s ss ih =>
    obtain ⟨hs, hss⟩ := List.forall_mem_cons.mp h
    rw [resolve_cons_of_not_isStep hs, ih hss, List.append_assoc, List.singleton_append]

/-- A step takes at most a segment away, and leaves an empty one at the end. -/
theorem resolve_cons_of_isStep (h : IsStep s) :
    ∃ path', path'.Sublist path ∧ resolve path (s :: ss) = if ss = [] then path' ++ [[]] else resolve path' ss := by
  by_cases hdouble : isDoubleDot s = true
  · refine ⟨path.dropLast, List.dropLast_sublist path, ?_⟩
    simp [resolve, hdouble]
  · refine ⟨path, List.Sublist.refl path, ?_⟩
    simp [resolve, hdouble, h.resolve_right hdouble]

/-- What is left of segments when steps are resolved: names, and an empty one for a step at the end. -/
theorem of_mem_resolve (hs : s ∈ resolve path ss) : s ∈ path ∨ s = [] ∨ s ∈ ss ∧ ¬ IsStep s := by
  induction ss generalizing path with
  | nil => exact .inl hs
  | cons t ss ih =>
    by_cases ht : IsStep t
    · obtain ⟨path', hsub, hresolve⟩ : ∃ path' : List (List Char), _ ∧ resolve path (t :: ss) = _ :=
        resolve_cons_of_isStep ht
      rw [hresolve] at hs
      split at hs
      · rcases List.mem_append.mp hs with hs | hs
        · exact .inl (hsub.subset hs)
        · exact .inr (.inl (List.mem_singleton.mp hs))
      · rcases ih hs with hs | hs | ⟨hs, hname⟩
        · exact .inl (hsub.subset hs)
        · exact .inr (.inl hs)
        · exact .inr (.inr ⟨List.mem_cons_of_mem _ hs, hname⟩)
    · rw [resolve_cons_of_not_isStep ht] at hs
      rcases ih hs with hs | hs | ⟨hs, hname⟩
      · rcases List.mem_append.mp hs with hs | hs
        · exact .inl hs
        · rw [List.mem_singleton.mp hs]
          exact .inr (.inr ⟨List.mem_cons_self, ht⟩)
      · exact .inr (.inl hs)
      · exact .inr (.inr ⟨List.mem_cons_of_mem _ hs, hname⟩)

theorem isName_of_mem_segments (h : s ∈ segments special cs) : IsName s := by
  rcases of_mem_resolve h with hs | rfl | ⟨hs, hname⟩
  · cases hs
  · exact isName_nil
  · obtain ⟨part, hpart, rfl⟩ := List.mem_map.mp hs
    refine ⟨slash_notMem_encode fun c hc _ hslash => ?_, hname⟩
    have hseparator := of_mem_splitOn hpart hc
    rw [hslash] at hseparator
    cases special <;> cases hseparator

theorem isName_of_rooted (h : rooted special cs = .rooted path) (hs : s ∈ path) : IsName s := by
  unfold rooted at h
  split at h
  · rw [← Location.rooted.inj h] at hs
    split at hs
    · rw [List.mem_singleton.mp hs]
      exact isName_nil
    · cases hs
  · split at h <;>
    · rw [← Location.rooted.inj h] at hs
      exact isName_of_mem_segments hs

theorem exists_ok_of_bind {ε α β : Type} {x : Except ε α} {f : α → Except ε β} {r : β} (h : x >>= f = .ok r) :
    ∃ a, x = .ok a ∧ f a = .ok r := by
  cases x with
  | error e => cases h
  | ok a => exact ⟨a, rfl, h⟩

theorem ofAuthority_eq_ok (h : ofAuthority text cs = .ok url) :
    ∃ host port rest, url = ofRest text host port rest := by
  unfold ofAuthority at h
  dsimp only at h
  split at h
  · split at h
    · cases h
    · exact ⟨_, _, _, (Except.ok.inj h).symm⟩
  · split at h <;>
    · obtain ⟨host, -, h⟩ := exists_ok_of_bind h
      obtain ⟨⟨port, afterPort⟩, -, h⟩ := exists_ok_of_bind h
      exact ⟨_, _, _, (Except.ok.inj h).symm⟩

theorem ofFile_eq_ok (h : ofFile text cs = .ok url) : ∃ host port rest, url = ofRest text host port rest := by
  unfold ofFile at h
  split at h
  · dsimp only at h
    split at h
    · exact ⟨_, _, _, (Except.ok.inj h).symm⟩
    · obtain ⟨host, -, h⟩ := exists_ok_of_bind h
      exact ⟨_, _, _, (Except.ok.inj h).symm⟩
  · exact ⟨_, _, _, (Except.ok.inj h).symm⟩

theorem isName_of_parse {source : String} (h : parse source = .ok url) (hpath : url.location = .rooted path)
    (hs : s ∈ path) : IsName s := by
  suffices hrest : ∃ scheme host port rest, url = ofRest scheme host port rest by
    obtain ⟨scheme, host, port, rest, rfl⟩ := hrest
    exact isName_of_rooted hpath hs
  unfold parse at h
  dsimp only at h
  split at h
  · cases h
  · next scheme rest _ =>
    refine ⟨scheme, ?_⟩
    split at h
    · exact ofFile_eq_ok h
    · split at h
      · exact ofAuthority_eq_ok h
      · split at h
        · exact ofAuthority_eq_ok h
        · exact ⟨_, _, _, (Except.ok.inj h).symm⟩
        · rw [← Except.ok.inj h] at hpath
          cases hpath

/-! ## Writing paths -/

theorem takeWhile_pathText (path : List (List Char)) : (pathText path).takeWhile (· != '/') = [] := by
  cases path with
  | nil => rfl
  | cons s path => rfl

theorem takeWhile_append_pathText (hs : '/' ∉ s) (path : List (List Char)) :
    (s ++ pathText path).takeWhile (· != '/') = s := by
  rw [List.takeWhile_append_of_pos, takeWhile_pathText, List.append_nil]
  intro c hc
  exact bne_iff_ne.mpr fun h => hs (h ▸ hc)

theorem pathText_inj (h : ∀ s ∈ path, '/' ∉ s) (h' : ∀ s ∈ path', '/' ∉ s) :
    pathText path = pathText path' ↔ path = path' := by
  constructor
  · intro htext
    induction path generalizing path' with
    | nil =>
      cases path' with
      | nil => rfl
      | cons s' path' => cases htext
    | cons s path ih =>
      cases path' with
      | nil => cases htext
      | cons s' path' =>
        obtain ⟨hs, hpath⟩ := List.forall_mem_cons.mp h
        obtain ⟨hs', hpath'⟩ := List.forall_mem_cons.mp h'
        have htail : s ++ pathText path = s' ++ pathText path' := List.tail_eq_of_cons_eq htext
        have hsegment := congrArg (List.takeWhile (· != '/')) htail
        rw [takeWhile_append_pathText hs, takeWhile_append_pathText hs'] at hsegment
        rw [hsegment] at htail
        rw [hsegment, ih hpath hpath' (List.append_cancel_left htail)]
  · intro hpath
    rw [hpath]

end FlagEngine.Url
