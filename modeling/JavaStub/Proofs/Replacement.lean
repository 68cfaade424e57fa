import JavaStub.Files.Access
import JavaStub.Proofs.Pipeline

/-!
# Replacing a file

What the operations on a staged file do to a file tree. The staged file has a name of its own, so a
tree is what it was before once the staged file is gone, and the move of a staged file writes one
place and no other. The place is the one that the path leads to afterwards.

Main facts:

1. `erase_set_staged`: a staged file that is removed leaves no trace.
2. `enter_mono`: paths lead through directories, so they lead to the same directory in every tree
   that has these directories.
3. `replaced_of_commit`: moving a staged file writes the place that the path leads to.
-/

namespace JavaStub

namespace FileTree

variable {t t' : FileTree} {place other : Place} {bytes : ByteArray} {names : List String}
  {p : Path} {name : String}

/-! ## Staged files -/

/-- Every name in a tree is shorter than the fresh one. -/
theorem length_lt_freshName {entry : Place × Entry} (h : entry ∈ t.entries) (hn : name ∈ entry.1) :
    name.length < t.freshName.length := by
  have inside : name.toList.Sublist
      (t.entries.flatMap fun entry => entry.1.flatMap String.toList) := by
    refine .trans ?_ (List.sublist_flatten_of_mem (List.mem_map_of_mem h))
    exact List.sublist_flatten_of_mem (List.mem_map_of_mem hn)
  have short := inside.length_le
  simp only [freshName, ← String.length_toList, String.toList_ofList, List.length_append,
    List.length_map, List.length_cons, List.length_nil]
  omega

theorem freshName_not_mem {entry : Place × Entry} (h : entry ∈ t.entries) :
    t.freshName ∉ entry.1 := fun hn =>
  Nat.lt_irrefl _ (length_lt_freshName h hn)

/-- A staged file that is removed leaves no trace. -/
theorem erase_set_staged (t : FileTree) (place : Place) (entry : Entry) :
    (t.set (place ++ [t.freshName]) entry).erase (place ++ [t.freshName]) = t := by
  have away : ∀ e ∈ t.entries, e.1 ≠ place ++ [t.freshName] := by
    intro e he same
    exact freshName_not_mem he (by rw [same]; exact List.mem_append_right _ List.mem_cons_self)
  have kept : t.entries.filter (fun e => e.1 ≠ place ++ [t.freshName]) = t.entries :=
    List.filter_eq_self.mpr fun e he => decide_eq_true (away e he)
  obtain ⟨entries⟩ := t
  simp only [set, erase, List.filter_cons, List.filter_filter] at kept ⊢
  simpa using kept

/-- Of what a place is given only the last counts. -/
theorem set_set (t : FileTree) (place : Place) (entry entry' : Entry) :
    (t.set place entry).set place entry' = t.set place entry' := by
  simp [set, erase, List.filter_filter]

/-- Nothing stands where a file is staged. -/
theorem get?_staged (t : FileTree) (place : Place) : t.get? (place ++ [t.freshName]) = none := by
  have erased : ((t.set (place ++ [t.freshName]) .directory).erase (place ++ [t.freshName])).get?
      (place ++ [t.freshName]) = none := by
    rw [get?_erase (by simp), if_pos rfl]
  rwa [erase_set_staged] at erased

/-! ## Following paths -/

/-- Where a name can be followed there is a directory. -/
theorem directory_of_step (h : t.step place name = .ok other) : t.get? place = some .directory := by
  unfold step at h
  split at h
  · cases h
  · cases h
  · assumption

/-- The names from a directory on lead to the same directory in every tree that has the directories
of this one. -/
theorem steps_mono (directories : ∀ q, t.get? q = some .directory → t'.get? q = some .directory)
    (h : (names ++ ["."]).foldlM t.step place = .ok other) :
    (names ++ ["."]).foldlM t'.step place = .ok other := by
  induction names generalizing place with
  | nil =>
    have one : t.step place "." = .ok other := by simpa using h
    have here := directory_of_step one
    have same : t'.step place "." = t.step place "." := by
      unfold step
      rw [here, directories place here]
      simp
    simpa [same] using one
  | cons n names ih =>
    rw [List.cons_append, List.foldlM_cons] at h ⊢
    obtain ⟨next, first, rest⟩ := bind_eq_ok_iff.mp h
    have here := directory_of_step first
    -- what comes next is a directory, as at least the last name is followed from it
    have there : t.get? next = some .directory := by
      obtain ⟨m, ms, split⟩ := List.exists_cons_of_ne_nil (List.append_ne_nil_of_right_ne_nil names
        (List.cons_ne_nil "." []))
      rw [split, List.foldlM_cons] at rest
      obtain ⟨_, second, _⟩ := bind_eq_ok_iff.mp rest
      exact directory_of_step second
    have again : t'.step place n = .ok next := by
      unfold step at first ⊢
      rw [here] at first
      rw [directories place here]
      by_cases dot : n = "."
      · simpa [dot] using first
      by_cases dots : n = ".."
      · simpa [dots] using first
      by_cases found : (t.get? (place ++ [n])).isSome = true
      · obtain rfl : place ++ [n] = next := by simpa [dot, dots, found] using first
        simp [dot, dots, directories _ there]
      · simp [dot, dots, found] at first
    rw [again]
    exact ih rest

theorem enter_mono (directories : ∀ q, t.get? q = some .directory → t'.get? q = some .directory)
    (h : t.enter names = .ok place) : t'.enter names = .ok place := steps_mono directories h

/-- A directory that is entered is one, and it is where its names lead to. -/
theorem follow_of_enter (h : t.enter names = .ok place) :
    t.follow names = .ok place ∧ t.get? place = some .directory := by
  unfold enter follow at h
  rw [List.foldlM_append] at h
  obtain ⟨next, first, last⟩ := bind_eq_ok_iff.mp h
  have one : t.step next "." = .ok place := by simpa using last
  have here := directory_of_step one
  unfold step at one
  rw [here] at one
  obtain rfl := Except.ok.inj one
  exact ⟨first, here⟩

/-- The target of a path with a name of its own. -/
structure IsTarget (t : FileTree) (p : Path) (place : Place) (name : String) : Prop where
  nonempty : p.isEmpty = false
  enters : t.enter p.names.dropLast = .ok place
  last : p.names.getLast? = some name
  proper : name ≠ "." ∧ name ≠ ".."

theorem isTarget_of_target (h : t.target p = .ok (place, some name)) : t.IsTarget p place name := by
  unfold target at h
  split at h
  · cases h
  next nonempty =>
  cases entered : t.enter p.names.dropLast with
  | error e => rw [entered] at h; cases h
  | ok q =>
    rw [entered] at h
    have pair : (q, p.names.getLast?.filter fun name => name ≠ "." && name ≠ "..") =
      (place, some name) := Except.ok.inj h
    obtain ⟨rfl, found⟩ := Prod.mk.inj pair
    obtain ⟨last, proper⟩ := Option.filter_eq_some_iff.mp found
    exact ⟨by simpa using nonempty, entered, last, by simpa using proper⟩

theorem IsTarget.mono (h : t.IsTarget p place name)
    (directories : ∀ q, t.get? q = some .directory → t'.get? q = some .directory) :
    t'.IsTarget p place name :=
  { h with enters := enter_mono directories h.enters }

/-- A path leads to its target if something is there. -/
theorem IsTarget.resolve (h : t.IsTarget p place name) (bare : p.slash = false)
    (there : (t.get? (place ++ [name])).isSome = true) : t.resolve p = .ok (place ++ [name]) := by
  obtain ⟨leads, here⟩ := follow_of_enter h.enters
  have split : p.names = p.names.dropLast ++ [name] := (List.dropLast_append_getLast? name h.last).symm
  have last : t.step place name = .ok (place ++ [name]) := by
    unfold step
    rw [here]
    simp [h.proper, there]
  unfold FileTree.resolve
  rw [h.nonempty, bare, split]
  unfold follow at leads ⊢
  rw [List.foldlM_append, leads]
  simpa using last

/-! ## Replacing -/

/-- The tree `after` differs from this one in nothing but the place that the path leads to, where no
directory was and which holds a file with these bytes. -/
def Replaced (before : FileTree) (p : Path) (bytes : ByteArray) (after : FileTree) : Prop :=
  ∃ place, after.resolve p = .ok place ∧ before.get? place ≠ some .directory ∧
    after.get? place = some (.file bytes) ∧
    ∀ other, other ≠ place → after.get? other = before.get? other

/-- A file that is replaced can be read. -/
theorem Replaced.read {before after : FileTree} (h : before.Replaced p bytes after) :
    after.read p = .ok bytes := by
  obtain ⟨place, leads, _, holds, _⟩ := h
  unfold FileTree.read
  rw [leads, ok_bind, holds]

/-- A file with the bytes already there needs no replacement. -/
theorem replaced_self (h : t.read p = .ok bytes) : t.Replaced p bytes t := by
  unfold FileTree.read at h
  obtain ⟨place, leads, h⟩ := bind_eq_ok_iff.mp h
  split at h
  · next held =>
    obtain rfl := Except.ok.inj h
    exact ⟨place, leads, by simp [held], held, fun _ _ => rfl⟩
  · cases h
  · cases h

theorem get?_set_append (place : Place) (name : String) (entry : Entry) :
    (t.set (place ++ [name]) entry).get? (place ++ [name]) = some entry := by
  rw [get?_set (by simp), if_pos rfl]

theorem get?_set_of_ne {entry : Entry} (h : other ≠ place) :
    (t.set place entry).get? other = t.get? other := by
  cases other with
  | nil => rfl
  | cons n ns => rw [get?_set (List.cons_ne_nil n ns), if_neg h]

theorem create_eq_ok {directory : Path} {staged : Place}
    (h : t.create directory = .ok (staged, t')) :
    ∃ place, staged = place ++ [t.freshName] ∧ t' = t.set staged (.file .empty) := by
  unfold create at h
  obtain ⟨place, _, h⟩ := bind_eq_ok_iff.mp h
  obtain ⟨rfl, rfl⟩ := Prod.mk.inj (Except.ok.inj h)
  exact ⟨place, rfl, rfl⟩

/-- Bytes are added behind those that a file holds. -/
theorem append_set {held : ByteArray} (place : Place) (name : String) (bytes : ByteArray) :
    (t.set (place ++ [name]) (.file held)).append (place ++ [name]) bytes =
      .ok (t.set (place ++ [name]) (.file (held ++ bytes))) := by
  unfold append
  rw [get?_set_append]
  dsimp only
  rw [set_set]

/-- A staged file is moved to the target of a path, where no directory is. -/
theorem commit_eq_ok {staged : Place} {after : FileTree} (h : t.commit staged p = .ok after) :
    ∃ place name entry, t.IsTarget p place name ∧ p.slash = false ∧
      t.get? (place ++ [name]) ≠ some .directory ∧ t.get? staged = some entry ∧
      after = (t.erase staged).set (place ++ [name]) entry := by
  unfold commit at h
  obtain ⟨⟨place, name⟩, aimed, h⟩ := bind_eq_ok_iff.mp h
  cases name with
  | none => cases h
  | some name =>
    have target := isTarget_of_target aimed
    dsimp only at h
    split at h
    · cases h
    next bare =>
    split at h
    · cases h
    · next entry held free =>
      exact ⟨place, name, entry, target, by simpa using bare, free, held, (Except.ok.inj h).symm⟩
    · cases h

/-- A file that is moved to where no directory is leaves all directories. -/
theorem directory_of_moved {here : Place} {fresh : String}
    (free : (t.set (here ++ [fresh]) (.file bytes)).get? (place ++ [name]) ≠ some .directory)
    (q : Place) (h : (t.set (here ++ [fresh]) (.file bytes)).get? q = some .directory) :
    (t.set (place ++ [name]) (.file bytes)).get? q = some .directory := by
  have away : q ≠ here ++ [fresh] := by
    rintro rfl
    rw [get?_set_append] at h
    cases h
  have other : q ≠ place ++ [name] := fun same => free (same ▸ h)
  rw [get?_set_of_ne other, ← h, get?_set_of_ne away]

/-- Moving a staged file to a path replaces the file that the path leads to, and nothing else. -/
theorem replaced_of_commit {here : Place} {after : FileTree}
    (h : (t.set (here ++ [t.freshName]) (.file bytes)).commit (here ++ [t.freshName]) p = .ok after) :
    t.Replaced p bytes after := by
  obtain ⟨place, name, entry, target, bare, free, held, rfl⟩ := commit_eq_ok h
  rw [get?_set_append] at held
  obtain rfl := Option.some.inj held
  rw [erase_set_staged]
  have again := target.mono (directory_of_moved free)
  have leads := again.resolve bare (by rw [get?_set_append]; rfl)
  refine ⟨place ++ [name], leads, ?_, get?_set_append place name _, fun other => get?_set_of_ne⟩
  intro there
  by_cases same : place ++ [name] = here ++ [t.freshName]
  · rw [same, get?_staged] at there
    cases there
  · exact free ((get?_set_of_ne same).trans there)

/-! ## Steps on a file tree -/

section Steps

variable {α β : Type}

theorem after_bind (x : StateM FileTree α) (f : α → StateM FileTree β) :
    t.after (x >>= f) = (t.after x).2.after (f (t.after x).1) := rfl

@[simp] theorem after_pure (a : α) : t.after (pure a) = (a, t) := rfl

@[simp] theorem after_read (p : Path) : t.after (FileAccess.read p) = (t.read p, t) := rfl

theorem after_create (directory : Path) :
    t.after (FileAccess.create directory) =
      match t.create directory with
      | .ok pair => (.ok pair.1, pair.2)
      | .error e => (.error e, t) := by
  show act (fun t => t.create directory) t = _
  unfold act
  dsimp only
  cases t.create directory <;> rfl

theorem after_append {held : ByteArray} (place : Place) (name : String) (bytes : ByteArray) :
    (t.set (place ++ [name]) (.file held)).after (FileAccess.append (place ++ [name]) bytes) =
      (.ok (), t.set (place ++ [name]) (.file (held ++ bytes))) := by
  show act (fun t => (t.append (place ++ [name]) bytes).map fun after => ((), after)) _ = _
  unfold act
  dsimp only
  rw [append_set]
  rfl

@[simp] theorem after_flush (staged : Place) : t.after (FileAccess.flush staged) = (.ok (), t) := rfl

@[simp] theorem after_sync (staged : Place) : t.after (FileAccess.sync staged) = (.ok (), t) := rfl

theorem after_commit (staged : Place) (p : Path) :
    t.after (FileAccess.commit staged p) =
      match t.commit staged p with
      | .ok t' => (.ok (), t')
      | .error e => (.error e, t) := by
  show act (fun t => (t.commit staged p).map fun after => ((), after)) t = _
  unfold act
  dsimp only
  cases t.commit staged p <;> rfl

@[simp] theorem after_discard (staged : Place) :
    t.after (FileAccess.discard staged) = ((), t.erase staged) := rfl

end Steps

end FileTree

end JavaStub
