import JavaStub.Files.Disk
import JavaStub.Output
import JavaStub.Proofs.Replacement

/-!
# Writing on a disk

Any operation of a run can meet a fault, so what a run comes to is said for every list of faults
(`Ends`). A write makes a staged file, and until that is moved the tree of the disk is the one before
with one file more, whatever part of the bytes this file holds. So the tree is the one before when
the staged file is removed. On a disk where nothing goes wrong, a run does what it does on the file
tree alone (`Agrees`).

Main facts:

1. `Ends.bind` and `Ends.next`: steps in a row.
2. `ends_fill`: the steps on a staged file move it to its path, or leave it where it is.
3. `ends_writeAtomically`: a write fails and leaves the tree alone, or it replaces the file.
4. `agrees_writeAtomically`: the same write on a disk where nothing goes wrong.
-/

namespace JavaStub

namespace Disk

variable {α β ε : Type} {t t' : FileTree} {p : Path} {bytes : ByteArray} {here : Place}

/-! ## Steps that may go wrong -/

/-- Whatever the operations of a step meet, it ends with an outcome and a tree as `Q` says. -/
def Ends (t : FileTree) (x : StateM Disk α) (Q : α → FileTree → Prop) : Prop :=
  ∀ faults, Q (after ⟨t, faults⟩ x).1 (after ⟨t, faults⟩ x).2.tree

theorem ends_pure {Q : α → FileTree → Prop} {a : α} (h : Q a t) : Ends t (pure a) Q := fun _ => h

theorem Ends.bind {x : StateM Disk α} {f : α → StateM Disk β} {Q : α → FileTree → Prop}
    {R : β → FileTree → Prop} (hx : Ends t x Q) (hf : ∀ a t', Q a t' → Ends t' (f a) R) :
    Ends t (x >>= f) R :=
  fun faults => hf _ _ (hx faults) _

/-- Of steps in a row the first that fails is the last one. -/
theorem Ends.next {x : ExceptT ε (StateM Disk) α} {f : α → ExceptT ε (StateM Disk) β}
    {Q : Except ε α → FileTree → Prop} {R : Except ε β → FileTree → Prop} (hx : Ends t x.run Q)
    (failed : ∀ e t', Q (.error e) t' → R (.error e) t')
    (more : ∀ a t', Q (.ok a) t' → Ends t' (f a).run R) : Ends t (x >>= f).run R := by
  rw [ExceptT.run_bind]
  refine hx.bind fun outcome t' h => ?_
  cases outcome with
  | error e => exact ends_pure (failed e t' h)
  | ok a => exact more a t' h

/-! ## Operations -/

section Operations

variable {Q : Except FileError α → FileTree → Prop}

theorem ends_act {operation : StateM FileTree (Except FileError α)}
    {partly : Fault → StateM FileTree Unit} (done : Q (t.after operation).1 (t.after operation).2)
    (struck : ∀ fault, Q (.error fault.error) (t.after (partly fault)).2) :
    Ends t (act operation partly) Q := by
  intro faults
  match faults with
  | [] => exact done
  | none :: _ => exact done
  | some fault :: _ => exact struck fault

theorem ends_whole {operation : StateM FileTree (Except FileError α)}
    (done : Q (t.after operation).1 (t.after operation).2) (struck : ∀ e, Q (.error e) t) :
    Ends t (whole operation) Q :=
  ends_act done fun fault => struck fault.error

end Operations

theorem ends_read {Q : Except FileError ByteArray → FileTree → Prop} (failed : ∀ e, Q (.error e) t)
    (found : ∀ bytes, t.read p = .ok bytes → Q (.ok bytes) t) : Ends t (FileAccess.read p) Q := by
  refine ends_whole ?_ failed
  rw [FileTree.after_read]
  cases read : t.read p with
  | error e => exact failed e
  | ok bytes => exact found bytes read

theorem ends_create {Q : Except FileError Place → FileTree → Prop} {directory : Path}
    (failed : ∀ e, Q (.error e) t)
    (made : ∀ here, Q (.ok (here ++ [t.freshName])) (t.set (here ++ [t.freshName]) (.file .empty))) :
    Ends t (FileAccess.create directory) Q := by
  refine ends_whole ?_ failed
  rw [FileTree.after_create]
  cases created : t.create directory with
  | error e => exact failed e
  | ok pair =>
    obtain ⟨here, same, after⟩ := FileTree.create_eq_ok created
    dsimp only
    rw [after, same]
    exact made here

section Staged

variable {name : String} {held : ByteArray} {Q : Except FileError Unit → FileTree → Prop}

/-- A fault leaves some of the bytes in a staged file. -/
theorem ends_append
    (failed : ∀ e held', Q (.error e) (t.set (here ++ [name]) (.file held')))
    (added : Q (.ok ()) (t.set (here ++ [name]) (.file (held ++ bytes)))) :
    Ends (t.set (here ++ [name]) (.file held)) (FileAccess.append (here ++ [name]) bytes) Q := by
  refine ends_act ?_ fun fault => ?_
  · rw [FileTree.after_append]
    exact added
  · rw [FileTree.after_bind, FileTree.after_append]
    exact failed fault.error _

theorem ends_flush {staged : Place} (failed : ∀ e, Q (.error e) t) (done : Q (.ok ()) t) :
    Ends t (FileAccess.flush staged) Q :=
  ends_whole done failed

theorem ends_sync {staged : Place} (failed : ∀ e, Q (.error e) t) (done : Q (.ok ()) t) :
    Ends t (FileAccess.sync staged) Q :=
  ends_whole done failed

theorem ends_commit {staged : Place} (failed : ∀ e, Q (.error e) t)
    (moved : ∀ t', t.commit staged p = .ok t' → Q (.ok ()) t') :
    Ends t (FileAccess.commit staged p) Q := by
  refine ends_whole ?_ failed
  rw [FileTree.after_commit]
  cases committed : t.commit staged p with
  | error e => exact failed e
  | ok t' => exact moved t' committed

end Staged

theorem ends_discard {Q : Unit → FileTree → Prop} {staged : Place} (h : Q () (t.erase staged)) :
    Ends t (FileAccess.discard staged) Q := fun _ => h

/-! ## Writes -/

/-- After a failure the tree is what it was before, and after a success it is as `Done` says. -/
def AllOrNothing (t : FileTree) (Done : α → FileTree → Prop) : Except ε α → FileTree → Prop
  | .ok a, t' => Done a t'
  | .error _, t' => t' = t

/-- The steps on a staged file move it to its path, or the file is still there with some bytes. -/
theorem ends_fill (t : FileTree) (here : Place) (p : Path) (bytes : ByteArray) :
    Ends (t.set (here ++ [t.freshName]) (.file .empty)) (fill (here ++ [t.freshName]) p bytes).run
      fun outcome t' =>
        match outcome with
        | .ok () => t.Replaced p bytes t'
        | .error _ => ∃ held, t' = t.set (here ++ [t.freshName]) (.file held) := by
  unfold fill
  -- up to the move the tree is the one before with the staged file, which holds all bytes in the end
  let Staged (outcome : Except FileError Unit) (t' : FileTree) : Prop :=
    match outcome with
    | .ok () => t' = t.set (here ++ [t.freshName]) (.file bytes)
    | .error _ => ∃ held, t' = t.set (here ++ [t.freshName]) (.file held)
  have added : Ends (t.set (here ++ [t.freshName]) (.file .empty))
      (FileAccess.append (here ++ [t.freshName]) bytes) Staged := by
    refine ends_append (fun _ held => ⟨held, rfl⟩) ?_
    show _ = _
    rw [ByteArray.empty_append]
  refine Ends.next added (fun _ _ h => h) fun _ t₁ staged => ?_
  obtain rfl : t₁ = _ := staged
  have flushed : Ends _ (FileAccess.flush (here ++ [t.freshName])) Staged :=
    ends_flush (fun _ => ⟨bytes, rfl⟩) rfl
  refine Ends.next flushed (fun _ _ h => h) fun _ t₂ staged => ?_
  obtain rfl : t₂ = _ := staged
  have stored : Ends _ (FileAccess.sync (here ++ [t.freshName])) Staged :=
    ends_sync (fun _ => ⟨bytes, rfl⟩) rfl
  refine Ends.next stored (fun _ _ h => h) fun _ t₃ staged => ?_
  obtain rfl : t₃ = _ := staged
  exact ends_commit (fun _ => ⟨bytes, rfl⟩) fun _ => FileTree.replaced_of_commit

/-- A replacement fails and leaves the tree as it was, or the file is replaced. -/
theorem ends_replace (t : FileTree) (p : Path) (bytes : ByteArray) :
    Ends t (replace p bytes) (AllOrNothing t fun _ t' => t.Replaced p bytes t') := by
  let Created (outcome : Except FileError Place) (t' : FileTree) : Prop :=
    match outcome with
    | .ok staged => ∃ here, staged = here ++ [t.freshName] ∧ t' = t.set staged (.file .empty)
    | .error _ => t' = t
  have created : Ends t (FileAccess.create p.directory) Created :=
    ends_create (fun _ => rfl) fun here => ⟨here, rfl, rfl⟩
  refine created.bind fun outcome t₁ h => ?_
  cases outcome with
  | error e => exact ends_pure h
  | ok staged =>
    obtain ⟨here, rfl, rfl⟩ := h
    refine (ends_fill t here p bytes).bind fun outcome t₂ h => ?_
    cases outcome with
    | ok => exact ends_pure h
    | error e =>
      obtain ⟨held, rfl⟩ := h
      refine Ends.bind (ends_discard (Q := fun _ t' => t' = t) ?_) fun _ _ h => ends_pure h
      exact FileTree.erase_set_staged t here (.file held)

/-- Whether a file holds some bytes is found out without a change of the tree, and only what can be
read is found. -/
theorem ends_holds (t : FileTree) (p : Path) (bytes : ByteArray) :
    Ends t (holds p bytes) fun found t' => t' = t ∧ (found = true → t.read p = .ok bytes) := by
  refine Ends.bind (ends_read (Q := fun outcome t' => t' = t ∧
    ∀ existing, outcome = .ok existing → t.read p = .ok existing) ?_ ?_) fun outcome t' h => ?_
  · exact fun _ => ⟨rfl, fun _ h => nomatch h⟩
  · exact fun existing read => ⟨rfl, fun _ same => same ▸ read⟩
  · obtain ⟨rfl, read⟩ := h
    cases outcome with
    | error e => exact ends_pure ⟨rfl, fun h => absurd h Bool.false_ne_true⟩
    | ok existing =>
      refine ends_pure ⟨rfl, fun same => ?_⟩
      rw [read existing rfl, ByteArray.ext (beq_iff_eq.mp same)]

end Disk

section

variable {m : Type → Type} {σ : Type} [Monad m] [FileAccess m σ]

/-- A write first finds out whether the file has its bytes already, if that matters. -/
theorem writeAtomically_eq (p : Path) (text : String) (onlyIfChanged : Bool) :
    (writeAtomically p text onlyIfChanged : m (Except FileError Bool)) =
      (if onlyIfChanged then holds p text.toUTF8 else pure false) >>= fun unchanged =>
        if unchanged then pure (.ok false)
        else replace p text.toUTF8 >>= fun outcome => pure (outcome.map fun _ => true) := by
  cases onlyIfChanged <;> rfl

end

namespace Disk

variable {α β : Type}

/-- What a write can come to: it fails and leaves the tree as it was, or the file holds the text and
nothing else is changed. -/
theorem ends_writeAtomically (t : FileTree) (p : Path) (text : String) (onlyIfChanged : Bool) :
    Ends t (writeAtomically p text onlyIfChanged)
      (AllOrNothing t fun _ t' => t.Replaced p text.toUTF8 t') := by
  rw [writeAtomically_eq]
  have looked : Ends t (if onlyIfChanged then holds p text.toUTF8 else pure false) fun found t' =>
      t' = t ∧ (found = true → t.read p = .ok text.toUTF8) := by
    cases onlyIfChanged with
    | false => exact ends_pure ⟨rfl, fun h => absurd h Bool.false_ne_true⟩
    | true => exact ends_holds t p text.toUTF8
  refine looked.bind fun unchanged t' h => ?_
  obtain ⟨rfl, read⟩ := h
  cases unchanged with
  | true => exact ends_pure (FileTree.replaced_self (read rfl))
  | false =>
    refine (ends_replace t' p text.toUTF8).bind fun outcome t'' h => ?_
    cases outcome <;> exact ends_pure h

/-! ## Disks where nothing goes wrong -/

/-- A disk on which nothing goes wrong. -/
def calm (t : FileTree) : Disk := ⟨t, []⟩

/-- On a disk where nothing goes wrong, one step has the outcome of the other on the file tree, and
leaves the same tree. -/
def Agrees (x : StateM Disk α) (y : StateM FileTree α) : Prop :=
  ∀ t : FileTree, (calm t).after x = ((t.after y).1, calm (t.after y).2)

/-- What a step comes to on every disk, it comes to on the file tree alone. -/
theorem Ends.alone {x : StateM Disk α} {y : StateM FileTree α} {Q : α → FileTree → Prop} {t : FileTree}
    (h : Ends t x Q) (same : Agrees x y) : Q (t.after y).1 (t.after y).2 := by
  have here := h []
  rw [show after ⟨t, []⟩ x = _ from same t] at here
  exact here

theorem agrees_pure (a : α) : Agrees (pure a) (pure a) := fun _ => rfl

theorem Agrees.bind {x : StateM Disk α} {y : StateM FileTree α} {f : α → StateM Disk β}
    {g : α → StateM FileTree β} (hx : Agrees x y) (hf : ∀ a, Agrees (f a) (g a)) :
    Agrees (x >>= f) (y >>= g) := by
  intro t
  show after ((calm t).after x).2 (f ((calm t).after x).1) = _
  rw [hx t]
  exact hf _ _

theorem agrees_act (operation : StateM FileTree (Except FileError α))
    (partly : Fault → StateM FileTree Unit) : Agrees (act operation partly) operation :=
  fun _ => rfl

theorem Agrees.next {ε : Type} {x : ExceptT ε (StateM Disk) α} {y : ExceptT ε (StateM FileTree) α}
    {f : α → ExceptT ε (StateM Disk) β} {g : α → ExceptT ε (StateM FileTree) β}
    (hx : Agrees x.run y.run) (hf : ∀ a, Agrees (f a).run (g a).run) :
    Agrees (x >>= f).run (y >>= g).run := by
  rw [ExceptT.run_bind, ExceptT.run_bind]
  refine hx.bind fun outcome => ?_
  cases outcome with
  | error e => exact agrees_pure _
  | ok a => exact hf a

theorem agrees_fill (staged : Place) (p : Path) (bytes : ByteArray) :
    Agrees (fill staged p bytes).run (fill staged p bytes).run := by
  refine Agrees.next (agrees_act _ _) fun _ => ?_
  refine Agrees.next (agrees_act _ _) fun _ => ?_
  refine Agrees.next (agrees_act _ _) fun _ => ?_
  exact agrees_act _ _

theorem agrees_replace (p : Path) (bytes : ByteArray) :
    Agrees (replace p bytes) (replace p bytes) := by
  refine Agrees.bind (agrees_act _ _) fun outcome => ?_
  cases outcome with
  | error e => exact agrees_pure _
  | ok staged =>
    refine (agrees_fill staged p bytes).bind fun outcome => ?_
    cases outcome with
    | ok => exact agrees_pure _
    | error e => exact Agrees.bind (fun _ => rfl) fun _ => agrees_pure _

theorem agrees_holds (p : Path) (bytes : ByteArray) : Agrees (holds p bytes) (holds p bytes) := by
  refine Agrees.bind (agrees_act _ _) fun outcome => ?_
  cases outcome <;> exact agrees_pure _

theorem agrees_writeAtomically (p : Path) (text : String) (onlyIfChanged : Bool) :
    Agrees (writeAtomically p text onlyIfChanged) (writeAtomically p text onlyIfChanged) := by
  rw [writeAtomically_eq, writeAtomically_eq]
  have looked : Agrees (if onlyIfChanged then holds p text.toUTF8 else pure false)
      (if onlyIfChanged then holds p text.toUTF8 else pure false) := by
    cases onlyIfChanged with
    | false => exact agrees_pure _
    | true => exact agrees_holds p text.toUTF8
  refine looked.bind fun unchanged => ?_
  cases unchanged with
  | true => exact agrees_pure _
  | false => exact (agrees_replace p text.toUTF8).bind fun _ => agrees_pure _

end Disk

end JavaStub
