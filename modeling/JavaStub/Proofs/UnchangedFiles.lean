import JavaStub.Proofs.Faults

/-!
# Writing only what has changed

A file that can be read can be replaced: the path that leads to it has a name of its own at its end,
and the directory before that name is where a file is staged. So it makes no difference to a file
tree whether a file that holds a text already is written once more, and a write that looks first
succeeds and fails when one that does not look does.

Main facts:

1. `step_cases`: what a name on the way leads to.
2. `isTarget_of_read`: the path of a file that can be read ends with a name of its own.
3. `after_replace_of_read`: a file that can be read can be replaced.
4. `onlyIfChanged_unobservable`: looking first changes nothing but the value.
-/

namespace JavaStub

namespace FileTree

variable {t : FileTree} {place other : Place} {bytes old : ByteArray} {names : List String}
  {p : Path} {name : String} {text : String}

/-! ## The way to a file -/

/-- What a name leads to: the directory itself, the one above it, or what it has of this name. -/
theorem step_cases (h : t.step place name = .ok other) : t.get? place = some .directory ∧
    (name = "." ∧ other = place ∨ name = ".." ∧ other = place.dropLast ∨
      name ≠ "." ∧ name ≠ ".." ∧ other = place ++ [name]) := by
  have here := directory_of_step h
  refine ⟨here, ?_⟩
  unfold step at h
  rw [here] at h
  dsimp only at h
  split_ifs at h with dot dots there <;> cases h
  · exact .inl ⟨dot, rfl⟩
  · exact .inr (.inl ⟨dots, rfl⟩)
  · exact .inr (.inr ⟨dot, dots, rfl⟩)

/-- All places above this one are directories. -/
def Rooted (t : FileTree) (place : Place) : Prop :=
  ∀ above, above <+: place → above ≠ place → t.get? above = some .directory

theorem rooted_root : t.Rooted [] := fun _ start away => absurd (List.prefix_nil.mp start) away

theorem Rooted.step (h : t.Rooted place) (next : t.step place name = .ok other) :
    t.Rooted other := by
  obtain ⟨here, ⟨_, rfl⟩ | ⟨_, rfl⟩ | ⟨_, _, rfl⟩⟩ := step_cases next
  · exact h
  · intro above start _
    by_cases same : above = place
    · exact same ▸ here
    · exact h above (start.trans (List.dropLast_prefix place)) same
  · intro above start away
    rcases List.prefix_concat_iff.mp start with same | start
    · exact absurd same away
    · by_cases same : above = place
      · exact same ▸ here
      · exact h above start same

theorem Rooted.steps (h : t.Rooted place) (next : names.foldlM t.step place = .ok other) :
    t.Rooted other := by
  induction names generalizing place with
  | nil => exact Except.ok.inj next ▸ h
  | cons n names ih =>
    rw [List.foldlM_cons] at next
    obtain ⟨middle, first, rest⟩ := bind_eq_ok_iff.mp next
    exact ih (h.step first) rest

/-- Above a directory that names lead to there is a directory. -/
theorem directory_above (h : t.follow names = .ok place) (here : t.get? place = some .directory) :
    t.get? place.dropLast = some .directory := by
  by_cases same : place.dropLast = place
  · rw [same, here]
  · exact rooted_root.steps h _ (List.dropLast_prefix place) same

theorem enter_of_follow (h : t.follow names = .ok place) (here : t.get? place = some .directory) :
    t.enter names = .ok place := by
  unfold enter follow at *
  rw [List.foldlM_append, h]
  show t.step place "." >>= pure = _
  unfold step
  rw [here]
  rfl

/-- Names `.` make no difference on the way. -/
theorem steps_without_dots (h : names.foldlM t.step place = .ok other) :
    (names.filter fun name => name ≠ ".").foldlM t.step place = .ok other := by
  induction names generalizing place with
  | nil => exact h
  | cons n names ih =>
    rw [List.foldlM_cons] at h
    obtain ⟨next, first, rest⟩ := bind_eq_ok_iff.mp h
    -- a step along the dot stays where it is
    by_cases dot : n = "."
    · rw [List.filter_cons_of_neg (by simp [dot])]
      rcases step_cases first with ⟨_, ⟨_, rfl⟩ | ⟨dots, _⟩ | ⟨proper, _⟩⟩
      · exact ih rest
      · rw [dots] at dot
        exact absurd dot (by decide)
      · exact absurd dot proper
    · rw [List.filter_cons_of_pos (by simpa using dot), List.foldlM_cons, first]
      exact ih rest

/-- A path that can be read leads to a file. -/
theorem resolve_of_read (h : t.read p = .ok bytes) :
    ∃ there, t.resolve p = .ok there ∧ t.get? there = some (.file bytes) := by
  unfold FileTree.read at h
  obtain ⟨there, leads, h⟩ := bind_eq_ok_iff.mp h
  refine ⟨there, leads, ?_⟩
  split at h
  · next held =>
    cases h
    exact held
  · cases h
  · cases h

/-- The last of the names that lead to a file is a name of its own. -/
theorem follow_of_file {front : List String} {there : Place}
    (h : t.follow (front ++ [name]) = .ok there) (held : t.get? there = some (.file bytes)) :
    ∃ place, t.enter front = .ok place ∧ there = place ++ [name] ∧ name ≠ "." ∧ name ≠ ".." := by
  unfold follow at h
  rw [List.foldlM_append] at h
  obtain ⟨place, leads, step⟩ := bind_eq_ok_iff.mp h
  replace step : t.step place name = .ok there := by simpa using step
  obtain ⟨here, ⟨_, rfl⟩ | ⟨_, rfl⟩ | ⟨dot, dots, rfl⟩⟩ := step_cases step
  · rw [here] at held
    cases held
  · rw [directory_above leads here] at held
    cases held
  · exact ⟨place, enter_of_follow leads here, rfl, dot, dots⟩

/-- The path of a file that can be read ends with a name of its own. -/
theorem isTarget_of_read (h : t.read p = .ok bytes) : ∃ place name, t.IsTarget p place name ∧
    p.slash = false ∧ t.get? (place ++ [name]) = some (.file bytes) := by
  obtain ⟨there, leads, held⟩ := resolve_of_read h
  unfold resolve at leads
  split_ifs at leads with empty slash
  · -- a slash at the end asks for a directory
    rw [(follow_of_enter leads).2] at held
    cases held
  · cases last : p.names.getLast? with
    | none =>
      rw [List.getLast?_eq_none_iff.mp last] at leads
      cases leads
      cases held
    | some name =>
      rw [← List.dropLast_append_getLast? name last] at leads
      obtain ⟨place, enters, rfl, proper⟩ := follow_of_file leads held
      exact ⟨place, name, ⟨by simpa using empty, enters, last, proper⟩, by simpa using slash, held⟩

/-! ## Replacing a file that can be read -/

theorem IsTarget.target (h : t.IsTarget p place name) : t.target p = .ok (place, some name) := by
  have own : (some name).filter (fun name => name ≠ "." && name ≠ "..") = some name := by
    simp [h.proper]
  unfold FileTree.target
  rw [h.nonempty, h.enters, h.last, own]
  rfl

/-- A file is staged in the directory of its path. -/
theorem IsTarget.enter_directory (h : t.IsTarget p place name) :
    t.enter p.directory.names = .ok place := by
  obtain ⟨front, here⟩ := follow_of_enter h.enters
  have split := (List.dropLast_append_getLast? name h.last).symm
  have names : p.directory.names = p.names.dropLast.filter fun name => name ≠ "." := by
    show (p.names.filter _).dropLast = _
    conv => lhs; rw [split]
    rw [List.filter_append, List.filter_cons_of_pos (by simpa using h.proper.1), List.filter_nil,
      List.dropLast_concat]
  rw [names]
  exact enter_of_follow (steps_without_dots front) here

/-- Nothing has the place of a staged file. -/
theorem ne_staged {entry : Entry} (held : t.get? other = some entry) (place : Place) :
    other ≠ place ++ [t.freshName] := by
  rintro rfl
  rw [get?_staged] at held
  cases held

/-- After an operation that succeeds the rest is done. -/
theorem after_next {ε α β : Type} {t' : FileTree} {x : StateM FileTree (Except ε α)} {a : α}
    (h : t.after x = (.ok a, t')) (f : α → ExceptT ε (StateM FileTree) β) :
    t.after (ExceptT.mk x >>= f).run = t'.after (f a).run := by
  rw [ExceptT.run_bind, ExceptT.run_mk, after_bind, h]

/-- A staged file takes all bytes, so it is the move that decides. -/
theorem after_fill (t : FileTree) (here : Place) (p : Path) (bytes : ByteArray) :
    (t.set (here ++ [name]) (.file .empty)).after (fill (here ++ [name]) p bytes).run =
      (t.set (here ++ [name]) (.file bytes)).after (FileAccess.commit (here ++ [name]) p) := by
  have added : (t.set (here ++ [name]) (.file .empty)).after
      (FileAccess.append (here ++ [name]) bytes) =
        (.ok (), t.set (here ++ [name]) (.file bytes)) := by
    rw [after_append, ByteArray.empty_append]
  unfold fill
  rw [after_next added, after_next (after_flush _), after_next (after_sync _)]
  rfl

/-- A replacement fails and leaves the tree as it was, or the file is replaced. -/
theorem after_replace (t : FileTree) (p : Path) (bytes : ByteArray) :
    (∃ e, t.after (replace p bytes) = (.error e, t)) ∨
      ∃ t', t.after (replace p bytes) = (.ok (), t') ∧ t.Replaced p bytes t' := by
  have ends := (Disk.ends_replace t p bytes).alone (Disk.agrees_replace p bytes)
  generalize t.after (replace p bytes) = result at ends ⊢
  obtain ⟨outcome, t'⟩ := result
  cases outcome with
  | error e =>
    obtain rfl : t' = t := ends
    exact .inl ⟨e, rfl⟩
  | ok => exact .inr ⟨t', rfl, ends⟩

/-- A file that can be read can be replaced. -/
theorem after_replace_of_read (h : t.read p = .ok old) (bytes : ByteArray) :
    ∃ place, t.get? place = some (.file old) ∧
      t.after (replace p bytes) = (.ok (), t.set place (.file bytes)) := by
  obtain ⟨place, name, target, bare, held⟩ := isTarget_of_read h
  have created : t.create p.directory =
      .ok (place ++ [t.freshName], t.set (place ++ [t.freshName]) (.file .empty)) := by
    unfold create
    rw [target.enter_directory]
    rfl
  have directories : ∀ q, t.get? q = some .directory →
      (t.set (place ++ [t.freshName]) (.file bytes)).get? q = some .directory := by
    intro q hq
    rw [get?_set_of_ne (ne_staged hq place), hq]
  have again := target.mono directories
  have moved : (t.set (place ++ [t.freshName]) (.file bytes)).commit (place ++ [t.freshName]) p =
      .ok (t.set (place ++ [name]) (.file bytes)) := by
    unfold commit
    rw [again.target, ok_bind]
    dsimp only
    rw [bare, get?_set_of_ne (ne_staged held place), held, get?_set_append, erase_set_staged]
    rfl
  refine ⟨place ++ [name], held, ?_⟩
  unfold replace
  rw [after_bind, after_create, created]
  dsimp only
  rw [after_bind, after_fill, after_commit, moved]
  rfl

/-! ## Looking first -/

/-- A file that holds some bytes is found to hold them, and no other file is. -/
theorem after_holds (t : FileTree) (p : Path) (bytes : ByteArray) :
    ∃ found, t.after (holds p bytes) = (found, t) ∧ (found = true ↔ t.read p = .ok bytes) := by
  unfold holds
  rw [after_bind, after_read]
  cases read : t.read p with
  | error e => exact ⟨false, rfl, by simp⟩
  | ok existing =>
    refine ⟨existing.data == bytes.data, rfl, ?_⟩
    rw [beq_iff_eq, Except.ok.injEq, ByteArray.ext_iff]

theorem get?_set_self {entry : Entry} (held : t.get? place = some entry) (other : Place) :
    (t.set place entry).get? other = t.get? other := by
  by_cases same : other = place
  · subst same
    cases other with
    | nil => rfl
    | cons n ns => rw [get?_set (List.cons_ne_nil n ns), if_pos rfl, held]
  · exact get?_set_of_ne same

theorem after_write_of_read (h : t.read p = .ok text.toUTF8) :
    t.after (writeAtomically p text true) = (.ok false, t) := by
  obtain ⟨found, known, same⟩ := after_holds t p text.toUTF8
  rw [writeAtomically_eq, if_pos rfl, after_bind, known, same.mpr h]
  rfl

theorem after_write (t : FileTree) (p : Path) (text : String) :
    t.after (writeAtomically p text false) =
      ((t.after (replace p text.toUTF8)).1.map fun _ => true,
        (t.after (replace p text.toUTF8)).2) := by
  rw [writeAtomically_eq]
  rfl

theorem after_write_of_not_read (h : t.read p ≠ .ok text.toUTF8) :
    t.after (writeAtomically p text true) = t.after (writeAtomically p text false) := by
  obtain ⟨found, known, same⟩ := after_holds t p text.toUTF8
  obtain rfl : found = false := Bool.eq_false_iff.mpr (mt same.mp h)
  rw [writeAtomically_eq, writeAtomically_eq, if_pos rfl, after_bind, known]
  rfl

/-- A write that looks first and one that does not fail in the same way and leave the tree as it
was, or both succeed, and the file holds the text, every place holds the same after either, and no
place but that of the file holds anything new. Only the value tells them apart: it is false when
nothing had to be written. The next write that looks first has nothing to do. -/
theorem onlyIfChanged_unobservable (t : FileTree) (p : Path) (text : String) :
    ((∃ e, t.after (writeAtomically p text true) = (.error e, t) ∧
        t.after (writeAtomically p text false) = (.error e, t)) ∨
      ∃ written t₁ t₀, t.after (writeAtomically p text true) = (.ok written, t₁) ∧
        t.after (writeAtomically p text false) = (.ok true, t₀) ∧
        (∀ place, t₁.get? place = t₀.get? place) ∧
        t.Replaced p text.toUTF8 t₁ ∧ t.Replaced p text.toUTF8 t₀ ∧
        t₁.after (writeAtomically p text true) = (.ok false, t₁)) ∧
    ((t.after (writeAtomically p text true)).1 = .ok false ↔ t.read p = .ok text.toUTF8) := by
  by_cases same : t.read p = .ok text.toUTF8
  · have looked := after_write_of_read same
    obtain ⟨place, held, done⟩ := after_replace_of_read same text.toUTF8
    have plain := after_write t p text
    rw [done] at plain
    have entries := get?_set_self held
    refine ⟨.inr ⟨false, t, t.set place (.file text.toUTF8), looked, plain,
      fun other => (entries other).symm, replaced_self same, ?_, looked⟩, ?_⟩
    · rcases after_replace t p text.toUTF8 with ⟨e, failed⟩ | ⟨t', done', replaced⟩
      · rw [done] at failed
        cases failed
      · rw [done] at done'
        cases done'
        exact replaced
    · rw [looked]
      exact iff_of_true rfl same
  · have looked := after_write_of_not_read same
    have plain := after_write t p text
    rcases after_replace t p text.toUTF8 with ⟨e, failed⟩ | ⟨t', done, replaced⟩
    · rw [failed] at plain
      rw [plain] at looked
      refine ⟨.inl ⟨e, looked, plain⟩, ?_⟩
      rw [looked]
      exact iff_of_false (fun h => by cases h) same
    · rw [done] at plain
      rw [plain] at looked
      refine ⟨.inr ⟨true, t', t', looked, plain, fun _ => rfl, replaced, replaced,
        after_write_of_read replaced.read⟩, ?_⟩
      rw [looked]
      exact iff_of_false (fun h => by cases h) same

end FileTree

end JavaStub
