import Mathlib.Data.List.TakeWhile
import JavaStub.Stub.Banner

/-!
# The path in a banner

The program is named in a banner by the end of its path, from the first component that is the anchor
on. Components are what stands between slashes, empty texts included, so the cut is always at a
slash, and nothing in the part that is kept changes.

Main facts:

1. `pathComponents_eq_iff`: a path has one list of components, whose parts hold no slash.
2. `scriptName_of_not_mem` and `scriptName_of_split`: the path without the anchor and with it.
3. `scriptName_exact`: what is cut off, and that a second cut changes nothing.
-/

namespace JavaStub

/-- The components of a path: the texts between its slashes. -/
def pathComponents (path : String) : List String := (path.toList.splitOn '/').map String.ofList

variable {path anchor : String}

/-! ## Components -/

/-- No part of a list that is split holds the separator. -/
theorem not_mem_of_mem_splitOn {cs part : List Char} {x : Char} (h : part ∈ cs.splitOn x) :
    x ∉ part := by
  induction cs generalizing part with
  | nil =>
    rw [List.splitOn_nil, List.mem_singleton] at h
    simp [h]
  | cons c cs ih =>
    rw [List.splitOn_cons_eq_if_modifyHead] at h
    split at h
    · rcases List.mem_cons.mp h with rfl | h
      · exact List.not_mem_nil
      · exact ih h
    · next other =>
      cases split : cs.splitOn x with
      | nil => exact absurd split (List.splitOn_ne_nil x cs)
      | cons first more =>
        rw [split, List.modifyHead_cons] at h
        rcases List.mem_cons.mp h with rfl | h
        · have free : x ∉ first := ih (split ▸ List.mem_cons_self)
          have ne : c ≠ x := by simpa using other
          simp [free, ne.symm]
        · exact ih (split ▸ List.mem_cons_of_mem _ h)

theorem not_mem_of_mem_pathComponents {c : String} (h : c ∈ pathComponents path) :
    '/' ∉ c.toList := by
  obtain ⟨part, member, rfl⟩ := List.mem_map.mp h
  rw [String.toList_ofList]
  exact not_mem_of_mem_splitOn member

theorem pathComponents_ne_nil : pathComponents path ≠ [] := by
  simp [pathComponents, List.splitOn_ne_nil]

/-- Texts with slashes between them, from their characters. -/
theorem intercalate_ofList (parts : List (List Char)) :
    "/".intercalate (parts.map String.ofList) = String.ofList (['/'].intercalate parts) := by
  have same : String.toList ∘ String.ofList = id := funext fun _ => String.toList_ofList
  rw [← String.toList_inj, String.toList_ofList, String.toList_intercalate, List.map_map, same,
    List.map_id]
  rfl

/-- The components of a path with slashes between them are the path. -/
theorem intercalate_pathComponents (path : String) : "/".intercalate (pathComponents path) = path := by
  rw [pathComponents, intercalate_ofList, List.intercalate_splitOn, String.ofList_toList]

/-- A path has one list of components: texts without slashes that make the path. -/
theorem pathComponents_eq_iff {cs : List String} :
    pathComponents path = cs ↔
      "/".intercalate cs = path ∧ cs ≠ [] ∧ ∀ c ∈ cs, '/' ∉ c.toList := by
  constructor
  · rintro rfl
    exact ⟨intercalate_pathComponents path, pathComponents_ne_nil,
      fun _ => not_mem_of_mem_pathComponents⟩
  · rintro ⟨rfl, some, free⟩
    have split : (("/".intercalate cs).toList).splitOn '/' = cs.map String.toList := by
      rw [String.toList_intercalate]
      refine List.splitOn_intercalate '/' ?_ (by simpa using some)
      simpa using free
    rw [pathComponents, split, List.map_map]
    have same : String.ofList ∘ String.toList = id := funext fun _ => String.ofList_toList
    rw [same, List.map_id]

/-- The components of two paths with a slash between them are those of the one and of the other. -/
theorem pathComponents_append (front back : String) :
    pathComponents (front ++ "/" ++ back) = pathComponents front ++ pathComponents back := by
  have whole : (front ++ "/" ++ back).toList = front.toList ++ '/' :: back.toList := by simp
  rw [pathComponents, whole, List.splitOn_append_cons_self, List.map_append]
  rfl

/-! ## The cut -/

/-- The cut is made in the list of components. -/
theorem scriptName_eq (path anchor : String) :
    scriptName path anchor = "/".intercalate
      (match (pathComponents path).dropWhile (· != anchor) with
        | [] => pathComponents path
        | found => found) := by
  have test : (fun c : String => c != anchor) ∘ String.ofList = fun part => part != anchor.toList := by
    funext part
    by_cases h : part = anchor.toList
    · simp [h]
    · have h' : String.ofList part ≠ anchor := fun same => h (by rw [← same, String.toList_ofList])
      rw [Function.comp_apply, bne_iff_ne.mpr h, bne_iff_ne.mpr h']
  unfold scriptName
  rw [← intercalate_ofList, pathComponents, List.dropWhile_map, test]
  cases (path.toList.splitOn '/').dropWhile (· != anchor.toList) <;> rfl

/-- A path without the anchor among its components is not cut. -/
theorem scriptName_of_not_mem (h : anchor ∉ pathComponents path) : scriptName path anchor = path := by
  have none : (pathComponents path).dropWhile (· != anchor) = [] := by
    rw [List.dropWhile_eq_nil_iff]
    intro c hc
    rw [bne_iff_ne]
    rintro rfl
    exact h hc
  rw [scriptName_eq, none]
  exact intercalate_pathComponents path

/-- A path is cut in front of the first component that is the anchor. -/
theorem scriptName_of_split {front back : List String}
    (split : pathComponents path = front ++ anchor :: back) (first : anchor ∉ front) :
    scriptName path anchor = "/".intercalate (anchor :: back) := by
  have found : (pathComponents path).dropWhile (· != anchor) = anchor :: back := by
    have before : ∀ c ∈ front, (c != anchor) = true := by
      intro c hc
      rw [bne_iff_ne]
      rintro rfl
      exact first hc
    rw [split, List.dropWhile_append_of_pos before]
    simp
  rw [scriptName_eq, found]

theorem pathComponents_scriptName_of_split {front back : List String}
    (split : pathComponents path = front ++ anchor :: back) (first : anchor ∉ front) :
    pathComponents (scriptName path anchor) = anchor :: back := by
  rw [pathComponents_eq_iff, scriptName_of_split split first]
  refine ⟨rfl, List.cons_ne_nil _ _, fun c hc => ?_⟩
  exact not_mem_of_mem_pathComponents (split ▸ List.mem_append_right front hc)

/-- What is kept of a path has no component before the anchor, so it is not cut again. -/
theorem scriptName_of_head (h : (pathComponents path).head? = some anchor) :
    scriptName path anchor = path := by
  obtain ⟨back, split⟩ := List.head?_eq_some_iff.mp h
  have here : pathComponents path = [] ++ anchor :: back := split
  rw [scriptName_of_split here List.not_mem_nil, ← split, intercalate_pathComponents]

/-- The name of a program is a path that is not cut, because none of its components is the anchor or
the first one is; or it is what follows a slash, from the anchor on, and no component before this slash
is the anchor. So it has the last components of the path as they are, an anchor that is no whole
component or holds a slash never cuts, and what is kept is not cut again. -/
theorem scriptName_exact (path anchor : String) :
    (scriptName path anchor = path ∧
        (anchor ∉ pathComponents path ∨ (pathComponents path).head? = some anchor) ∨
      ∃ q, path = q ++ "/" ++ scriptName path anchor ∧
        (pathComponents (scriptName path anchor)).head? = some anchor ∧
        anchor ∉ pathComponents q) ∧
    pathComponents (scriptName path anchor) <:+ pathComponents path ∧
    (anchor ∉ pathComponents path → scriptName path anchor = path) ∧
    ('/' ∈ anchor.toList → scriptName path anchor = path) ∧
    scriptName (scriptName path anchor) anchor = scriptName path anchor := by
  have whole : '/' ∈ anchor.toList → scriptName path anchor = path := fun slash =>
    scriptName_of_not_mem fun member => not_mem_of_mem_pathComponents member slash
  by_cases member : anchor ∈ pathComponents path
  · obtain ⟨front, back, split, first⟩ := List.eq_append_cons_of_mem member
    have kept := pathComponents_scriptName_of_split split first
    have head : (pathComponents (scriptName path anchor)).head? = some anchor := by rw [kept]; rfl
    refine ⟨?_, ?_, fun h => absurd member h, whole, scriptName_of_head head⟩
    -- at the first component nothing stands in front of the anchor, and the whole path stays
    · cases front with
      | nil => exact .inl ⟨scriptName_of_head (by rw [split]; rfl), .inr (by rw [split]; rfl)⟩
      | cons c front =>
        have before : pathComponents ("/".intercalate (c :: front)) = c :: front := by
          refine pathComponents_eq_iff.mpr ⟨rfl, List.cons_ne_nil _ _, fun d hd => ?_⟩
          exact not_mem_of_mem_pathComponents (split ▸ List.mem_append_left _ hd)
        refine .inr ⟨"/".intercalate (c :: front), ?_, head, by rw [before]; exact first⟩
        have same : pathComponents path =
            pathComponents ("/".intercalate (c :: front) ++ "/" ++ scriptName path anchor) := by
          rw [pathComponents_append, before, kept, split]
        have joined := congrArg "/".intercalate same
        rwa [intercalate_pathComponents, intercalate_pathComponents] at joined
    · rw [kept, split]
      exact List.suffix_append _ _
  · have same := scriptName_of_not_mem member
    rw [same]
    exact ⟨.inl ⟨rfl, .inl member⟩, List.suffix_refl _, fun _ => rfl, fun _ => rfl, same⟩

/-- A component that only starts like the anchor is passed, and of two anchors the first one counts. -/
example : scriptName "/b/chromeos//chrome/src/chrome/" "chrome" = "chrome/src/chrome/" := by decide

end JavaStub
