import JavaStub.CommandLine.Run
import JavaStub.Proofs.Faults

/-!
# All or nothing

Whether a stub file is made or not, the file tree holds nothing half done, whatever goes wrong on the
disk. A generation that fails, at whatever stage, leaves the tree as it was. One that succeeds leaves
the whole stub at the path of the output and every other place as it was, also when the output is the
input. A run of the command line that ends with another code than zero leaves the tree as it was.

Main facts:

1. `ends_generateFile`: what a generation can come to.
2. `ends_run`: what a run of the command line can come to.
3. `agrees_run`: where nothing goes wrong, it is the run on the file tree.
4. `allOrNothing`: the first two, for every disk.
-/

namespace JavaStub

/-- The stub of what the input held before is held by the output after, and nothing else is new. -/
def FileTree.Stubbed (before : FileTree) (input output : Path) (banner : Except FileError Banner)
    (after : FileTree) : Prop :=
  ∃ bytes source b text, before.read input = .ok bytes ∧ String.fromUTF8? bytes = some source ∧
    banner = .ok b ∧ generate source b = .ok text ∧ before.Replaced output text.toUTF8 after ∧
      after.read output = .ok text.toUTF8

/-- There is only a stub of bytes that are a source, under a banner. -/
theorem generate_of_generateFromBytes {bytes : ByteArray} {banner : Except FileError Banner}
    {text : String} (h : generateFromBytes bytes banner = .ok text) :
    ∃ source b, String.fromUTF8? bytes = some source ∧ banner = .ok b ∧
      generate source b = .ok text := by
  unfold generateFromBytes at h
  split at h
  · next source decoded =>
    refine ⟨source, ?_⟩
    cases banner with
    | ok b => exact ⟨b, decoded, rfl, h⟩
    | error e =>
      -- without a banner there is no stub, whether the source can be read or not
      unfold generateUnder at h
      obtain ⟨_, _, h⟩ := bind_eq_ok_iff.mp h
      cases h
  · cases h

namespace Disk

/-- A generation fails and leaves the tree as it was, or the stub is made and nothing else. -/
theorem ends_generateFile (t : FileTree) (input output : Path) (onlyIfChanged : Bool)
    (banner : Except FileError Banner) :
    Ends t (generateFile input output onlyIfChanged banner)
      (AllOrNothing t fun _ t' => t.Stubbed input output banner t') := by
  let Found (outcome : Except FileError ByteArray) (t' : FileTree) : Prop :=
    t' = t ∧ ∀ bytes, outcome = .ok bytes → t.read input = .ok bytes
  have found : Ends t (FileAccess.read input) Found :=
    ends_read (fun _ => ⟨rfl, fun _ h => nomatch h⟩) fun _ read => ⟨rfl, fun _ same => same ▸ read⟩
  refine found.bind fun outcome t₁ h => ?_
  obtain ⟨rfl, read⟩ := h
  cases outcome with
  | error e => exact ends_pure rfl
  | ok bytes =>
    dsimp only
    cases generated : generateFromBytes bytes banner with
    | error failure => exact ends_pure rfl
    | ok text =>
      obtain ⟨source, b, decoded, same, stub⟩ := generate_of_generateFromBytes generated
      refine (ends_writeAtomically t₁ output text onlyIfChanged).bind fun outcome t₂ h => ?_
      cases outcome with
      | error e => exact ends_pure h
      | ok written =>
        exact ends_pure ⟨bytes, source, b, text, read bytes rfl, decoded, same, stub, h, h.read⟩

/-- A run of the command line ends with zero or leaves the tree as it was. -/
theorem ends_run (t : FileTree) (s : CommandLine.Surroundings) (arguments : List String) :
    Ends t (CommandLine.run s arguments) fun outcome t' => outcome.code = 0 ∨ t' = t := by
  unfold CommandLine.run
  cases CommandLine.Request.ofArguments arguments with
  | help => exact ends_pure (.inr rfl)
  | version => exact ends_pure (.inr rfl)
  | refused => exact ends_pure (.inr rfl)
  | generate input output verbose =>
    dsimp only
    unfold CommandLine.makeStub
    cases Configuration.ofLookup s.lookup with
    | error e => exact ends_pure (.inr rfl)
    | ok c =>
      refine (ends_generateFile t (.ofText input) (.ofText output) c.onlyIfChanged
        (c.bannerOf s.executable s.year)).bind fun outcome t' h => ?_
      cases outcome with
      | error failure => exact ends_pure (.inr h)
      | ok => exact ends_pure (.inl rfl)

theorem agrees_generateFile (input output : Path) (onlyIfChanged : Bool)
    (banner : Except FileError Banner) :
    Agrees (generateFile input output onlyIfChanged banner)
      (generateFile input output onlyIfChanged banner) := by
  refine Agrees.bind (agrees_act _ _) fun outcome => ?_
  cases outcome with
  | error e => exact agrees_pure _
  | ok bytes =>
    dsimp only
    cases generateFromBytes bytes banner with
    | error failure => exact agrees_pure _
    | ok text =>
      refine (agrees_writeAtomically output text onlyIfChanged).bind fun outcome => ?_
      cases outcome <;> exact agrees_pure _

/-- Where nothing goes wrong, a run does on a disk what it does on the file tree alone. -/
theorem agrees_run (s : CommandLine.Surroundings) (arguments : List String) :
    Agrees (CommandLine.run s arguments) (CommandLine.run s arguments) := by
  unfold CommandLine.run
  cases CommandLine.Request.ofArguments arguments with
  | help => exact agrees_pure _
  | version => exact agrees_pure _
  | refused => exact agrees_pure _
  | generate input output verbose =>
    dsimp only
    unfold CommandLine.makeStub
    cases Configuration.ofLookup s.lookup with
    | error e => exact agrees_pure _
    | ok c =>
      refine (agrees_generateFile (.ofText input) (.ofText output) c.onlyIfChanged
        (c.bannerOf s.executable s.year)).bind fun outcome => ?_
      cases outcome <;> exact agrees_pure _

/-- Generation is all or nothing on every disk, and so is the program: where it fails, the tree is
the one before, and where it succeeds, the output holds the stub of the input and no other place has
changed. -/
theorem allOrNothing (d : Disk) :
    (∀ input output onlyIfChanged banner,
      match d.after (generateFile input output onlyIfChanged banner) with
      | (.error _, after) => after.tree = d.tree
      | (.ok (), after) => d.tree.Stubbed input output banner after.tree) ∧
    ∀ surroundings arguments,
      (d.after (CommandLine.run surroundings arguments)).1.code = 0 ∨
        (d.after (CommandLine.run surroundings arguments)).2.tree = d.tree := by
  refine ⟨fun input output onlyIfChanged banner => ?_, fun s arguments =>
    ends_run d.tree s arguments d.faults⟩
  have ends := ends_generateFile d.tree input output onlyIfChanged banner d.faults
  generalize d.after (generateFile input output onlyIfChanged banner) = result at ends ⊢
  obtain ⟨outcome, after⟩ := result
  cases outcome <;> exact ends

end Disk

end JavaStub
