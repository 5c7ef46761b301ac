import Std.Data.TreeMap

/-!
# Indices

Lists indexed by a text of each element, for repeated texts by the last or by the first element. Looking
up is the same as searching the list from that end.
-/

namespace FlagEngine

abbrev Index (α : Type) := Std.TreeMap String α

namespace Index

variable {α β : Type}

/-- The last value of each key. -/
def ofLast (entries : List (String × α)) : Index α :=
  entries.foldl (fun index e => index.insert e.1 e.2) ∅

/-- The first value of each key. -/
def ofFirst (entries : List (String × α)) : Index α :=
  entries.foldl (fun index e => index.insertIfNew e.1 e.2) ∅

/-- The last of the values with each key. -/
def lastBy (key : α → String) (values : List α) : Index α :=
  ofLast (values.map fun a => (key a, a))

/-- The first of the values with each key. -/
def firstBy (key : α → String) (values : List α) : Index α :=
  ofFirst (values.map fun a => (key a, a))

private theorem getElem?_foldl_insert (entries : List (String × α)) (index : Index α) (k : String) :
    (entries.foldl (fun index e => index.insert e.1 e.2) index)[k]?
      = ((entries.findRev? fun e => e.1 == k).map (·.2)).or index[k]? := by
  induction entries generalizing index with
  | nil => simp [List.findRev?]
  | cons e entries ih =>
    rw [List.foldl_cons, ih, List.findRev?]
    cases entries.findRev? fun e => e.1 == k with
    | some e' => simp
    | none =>
      simp only [Option.map_none, Option.none_or, Std.TreeMap.getElem?_insert,
        Std.LawfulEqCmp.compare_eq_iff_eq]
      by_cases h : e.1 = k <;> simp [h]

theorem getElem?_ofLast (entries : List (String × α)) (k : String) :
    (ofLast entries)[k]? = (entries.findRev? fun e => e.1 == k).map (·.2) := by
  simp [ofLast, getElem?_foldl_insert]

private theorem getElem?_foldl_insertIfNew (entries : List (String × α)) (index : Index α) (k : String) :
    (entries.foldl (fun index e => index.insertIfNew e.1 e.2) index)[k]?
      = index[k]?.or ((entries.find? fun e => e.1 == k).map (·.2)) := by
  induction entries generalizing index with
  | nil => simp
  | cons e entries ih =>
    rw [List.foldl_cons, ih, List.find?_cons, Std.TreeMap.getElem?_insertIfNew]
    by_cases h : e.1 = k
    · subst h
      cases hk : index[e.1]? with
      | none => simp [Std.TreeMap.mem_iff_isSome_getElem?, hk]
      | some a => simp [Std.TreeMap.mem_iff_isSome_getElem?, hk]
    · have h' : (e.1 == k) = false := by simpa using h
      simp [h, h']

theorem getElem?_ofFirst (entries : List (String × α)) (k : String) :
    (ofFirst entries)[k]? = (entries.find? fun e => e.1 == k).map (·.2) := by
  simp [ofFirst, getElem?_foldl_insertIfNew]

theorem getElem?_lastBy (key : α → String) (values : List α) (k : String) :
    (lastBy key values)[k]? = values.findRev? fun a => key a == k := by
  simp [lastBy, getElem?_ofLast, ← List.map_reverse, List.find?_map, Function.comp_def]

theorem getElem?_firstBy (key : α → String) (values : List α) (k : String) :
    (firstBy key values)[k]? = values.find? fun a => key a == k := by
  simp [firstBy, getElem?_ofFirst, List.find?_map, Function.comp_def]

end Index

end FlagEngine
