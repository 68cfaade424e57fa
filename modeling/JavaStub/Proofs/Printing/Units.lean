import JavaStub.Proofs.Printing.Members
import JavaStub.Stub.Basic

/-!
# The words of stub files

The text of a stub file is spelled by words that have the form of a unit: its package, its imports,
and a class with the methods of the stubs. The comment at its head spells nothing, whatever year
and program it names, if the name of the program has no line feed.

Main facts:

1. `isComment_bannerLines`: the lines at the head are comments.
2. `writes_package`, `writes_import` and `writes_class`: the parts of a stub file.
3. `spells_code` and `spells_render`: the whole of a stub file.
-/

namespace JavaStub

open Token (Kind IsWord EndsWord EndsAngles)

open Grammar

variable {rest : List Char} {ws vs : List Word} {n : String} {Leading : JavaType → Prop}

/-! ## The banner -/

/-- Is the line a comment? -/
def IsComment (line : String) : Prop := ['/', '/'] <+: line.toList ∧ '\n' ∉ line.toList

instance (line : String) : Decidable (IsComment line) := inferInstanceAs (Decidable (_ ∧ _))

theorem IsComment.append {line text : String} (h : IsComment line) (h' : '\n' ∉ text.toList) :
    IsComment (line ++ text) := by
  unfold IsComment
  rw [String.toList_append, List.mem_append, not_or]
  exact ⟨h.1.trans (List.prefix_append _ _), h.2, h'⟩

theorem IsComment.exists_inside {line : String} (h : IsComment line) :
    ∃ cs, line.toList = '/' :: '/' :: cs ∧ '\n' ∉ cs := by
  obtain ⟨⟨cs, text⟩, single⟩ := h
  have text : line.toList = '/' :: '/' :: cs := text.symm
  exact ⟨cs, text, fun hc => single (by rw [text]; exact .tail _ (.tail _ hc))⟩

theorem spells_comments {lines : List String} (h : ∀ line ∈ lines, IsComment line)
    (more : Spells rest ws) :
    Spells ((lines.flatMap fun line => line.toList ++ ['\n']) ++ rest) ws := by
  induction lines with
  | nil => exact more
  | cons line lines ih =>
    obtain ⟨first, others⟩ := List.forall_mem_cons.mp h
    obtain ⟨cs, text, inside⟩ := first.exists_inside
    have comment := Spells.comment inside (ih others)
    simpa [text] using comment

theorem not_mem_toString_int (y : Int) : '\n' ∉ (toString y).toList := by
  have digits : ∀ m : Nat, '\n' ∉ m.repr.toList := by
    intro m h
    rw [Nat.repr, String.toList_ofList] at h
    exact absurd (Nat.isDigit_of_mem_toDigits (by decide) (by decide) h) (by decide)
  cases y with
  | ofNat m => exact digits m
  | negSucc m =>
    show '\n' ∉ ("-" ++ m.succ.repr).toList
    rw [String.toList_append, List.mem_append]
    rintro (h | h)
    · exact absurd h (by decide)
    · exact digits _ h

theorem isComment_bannerLines {banner : Banner} (h : '\n' ∉ banner.script.toList) :
    ∀ line ∈ StubFile.bannerLines banner, IsComment line := by
  have year : IsComment ("// Copyright " ++ toString banner.year ++
      " The Chromium Authors. All rights reserved.") :=
    (IsComment.append (by decide) (not_mem_toString_int banner.year)).append (by decide)
  have script : IsComment ("//     " ++ banner.script) := IsComment.append (by decide) h
  simp only [StubFile.bannerLines, List.forall_mem_cons]
  exact ⟨year, by decide, by decide, by decide, by decide, script, by decide,
    fun _ h => absurd h List.not_mem_nil⟩

/-! ## Names, the package and imports -/

theorem starts_intercalate (h : IsName n) (ns : List String) (rest : List Char) :
    ((".".intercalate (n :: ns)).toList ++ rest).head?.any Token.startsArgument = true := by
  have first : ∀ ds, (n.toList ++ ds).head?.any Token.startsArgument = true :=
    (Prints.ofWord h rfl rfl).starts_append
  cases ns with
  | nil =>
    rw [String.intercalate_singleton]
    exact first rest
  | cons m ns =>
    rw [String.intercalate_cons_cons, String.toList_append, String.toList_append, List.append_assoc,
      List.append_assoc]
    exact first _

/-- A qualified name in front of a character that is no part of it. -/
theorem spells_qualifiedName (h : IsQualifiedName n) (ends : EndsWord rest)
    (more : Spells rest ws) : ∃ us, Name n us ∧ Spells (n.toList ++ rest) (us ++ ws) := by
  obtain ⟨first, ns, rfl, name, names⟩ := h
  have tail : ∃ us, NameTail ns us ∧ Spells ((".".intercalate (first :: ns)).toList ++ rest)
      (⟨.identifier, first⟩ :: us ++ ws) := by
    induction ns generalizing first with
    | nil =>
      rw [String.intercalate_singleton]
      exact ⟨[], .nil, spells_name name ends more⟩
    | cons m ns ih =>
      obtain ⟨next, names⟩ := List.forall_mem_cons.mp names
      obtain ⟨us, form, spelled⟩ := ih m next names
      have start : ((".".intercalate (m :: ns)).toList ++ rest).head?.any
          Token.startsArgument = true := by
        exact starts_intercalate next ns rest
      have joined := spells_name name (endsWord_cons (by decide)) (spelled.dot start)
      have next : NameTail (m :: ns) (⟨.dot, "."⟩ :: ⟨.identifier, m⟩ :: us) :=
        .cons (w := ⟨.identifier, m⟩) rfl rfl form
      refine ⟨_, next, ?_⟩
      simpa [String.intercalate_cons_cons] using joined
  obtain ⟨us, form, spelled⟩ := tail
  exact ⟨_, .mk (w := ⟨.identifier, first⟩) rfl form, spelled⟩

/-- A clause of a keyword and a qualified name, with its semicolon. -/
theorem spells_clause {k : Kind} {keyword : String} (word : IsWord k keyword.toList)
    (kept : k.isTrivia = false) (h : IsQualifiedName n) (more : Spells rest ws) :
    ∃ us, Name n us ∧ Spells (keyword.toList ++ ' ' :: (n.toList ++ ';' :: rest))
      (⟨k, keyword⟩ :: (us ++ ⟨.semicolon, ";"⟩ :: ws)) := by
  obtain ⟨us, name, spelled⟩ := spells_qualifiedName h (endsWord_cons (by decide))
    (.mark (k := .semicolon) (c := ';') (by decide) more)
  exact ⟨us, name, spells_keyword word kept spelled⟩

theorem writes_package (h : IsQualifiedName n) :
    Writes (PackageClause (some ⟨n, noSpan⟩)) ("package " ++ n ++ ";") := by
  intro rest ws more
  have word : IsWord .kwPackage "package".toList := isWord_of_mem (by decide)
  obtain ⟨us, name, spelled⟩ := spells_clause word rfl h more
  have clause := PackageClause.some (p := ⟨.kwPackage, "package"⟩) .nil rfl name
    (s := ⟨.semicolon, ";"⟩) rfl
  exact ⟨_, clause, by simpa using spelled⟩

/-- The import of a single type by its name, of no particular place. -/
def Import.ofName (n : String) : Import := ⟨n, false, false, noSpan⟩

theorem writes_import (h : IsQualifiedName n) :
    Writes (ImportOrSemicolon (some (.ofName n))) (ImportIndex.line n) := by
  intro rest ws more
  have word : IsWord .kwImport "import".toList := isWord_of_mem (by decide)
  obtain ⟨us, name, spelled⟩ := spells_clause word rfl h more
  have form := ImportOrSemicolon.ofImport (i := ⟨.kwImport, "import"⟩) rfl .absent name .absent
    (s := ⟨.semicolon, ";"⟩) rfl
  exact ⟨_, form, by simpa [ImportIndex.line] using spelled⟩

/-! ## Stub files -/

/-- The class of a stub file, from the line that opens it to the brace that closes it. -/
theorem writes_class {f : StubFile} {ms : List Modifier} {found : List (Option Method)}
    (modifiers : f.modifiers = Modifier.listText ms) (name : IsName f.name)
    (stubs : List.Forall₂ (fun m stub => Writes (Member Leading m) stub) found f.stubs) :
    Writes (TopLevel Leading (.ofClass ⟨ms, f.name, [], found.filterMap id, noSpan⟩))
      (f.classLine ++ "\n" ++ "\n".intercalate (f.stubs.map (StubFile.indent ++ ·)) ++ "\n\x7d") := by
  intro rest ws more
  have word : IsWord .kwClass "class".toList := isWord_of_mem (by decide)
  have lines : List.Forall₂ (fun m line => Writes (Member Leading m) line)
      found (f.stubs.map (StubFile.indent ++ ·)) := by
    rw [List.forall₂_map_right_iff]
    exact stubs.imp fun m stub h => h.indent
  have closed := Spells.mark (k := .rbrace) (c := '\x7d') (by decide) more
  obtain ⟨bs, members, spelled⟩ := writes_lines lines closed
  have opened := Spells.mark (k := .lbrace) (c := '\x7b') (by decide)
    (.blank (c := '\n') (by decide) spelled)
  have named := spells_name name (endsWord_cons (by decide)) (.blank (c := ' ') (by decide) opened)
  obtain ⟨us, listed, spelled⟩ := spells_modifiers ms (spells_keyword word rfl named)
  have header : HeaderTail [] := Shielded.nil
  have form := TopLevel.ofClass listed (c := ⟨.kwClass, "class"⟩) rfl
    (w := ⟨.identifier, f.name⟩) rfl .none header (notAt_nil _) (l := ⟨.lbrace, "\x7b"⟩) rfl members
    (r := ⟨.rbrace, "\x7d"⟩) rfl
  refine ⟨_, form, ?_⟩
  simpa [StubFile.classLine, modifiers] using spelled

/-- The text of a stub file behind the comment at its head. -/
def StubFile.code (f : StubFile) : String :=
  "package " ++ f.package ++ ";\n\n" ++ "\n".intercalate f.imports ++ "\n\n" ++
    (f.classLine ++ "\n" ++ "\n".intercalate (f.stubs.map (StubFile.indent ++ ·)) ++ "\n\x7d") ++ "\n"

theorem toList_render (f : StubFile) : f.render.toList =
    ((StubFile.bannerLines f.banner).flatMap fun line => line.toList ++ ['\n']) ++
      '\n' :: f.code.toList := by
  simp [StubFile.render, StubFile.lines, StubFile.code, String.toList_join, List.flatMap_map]

/-- The code of a stub file has the form of a unit with its package, its imports and one class. -/
theorem spells_code {f : StubFile} {ms : List Modifier} {found : List (Option Method)}
    {names : List String} (package : IsQualifiedName f.package)
    (imports : f.imports = names.map ImportIndex.line)
    (imported : ∀ n ∈ names, IsQualifiedName n) (modifiers : f.modifiers = Modifier.listText ms)
    (name : IsName f.name)
    (stubs : List.Forall₂ (fun m stub => Writes (Member Leading m) stub) found f.stubs) :
    ∃ ws, IsUnit Leading ⟨some ⟨f.package, noSpan⟩, names.map .ofName,
        [.ofClass ⟨ms, f.name, [], found.filterMap id, noSpan⟩], noSpan⟩ ws ∧ Spells f.code.toList ws := by
  have ended : Spells ['\n'] [] := .blank (by decide) .nil
  obtain ⟨cs, declared, spelled⟩ := writes_class modifiers name stubs ended
  have lines : List.Forall₂ (fun i line => Writes (ImportOrSemicolon i) line)
      (names.map fun n => some (Import.ofName n)) (names.map ImportIndex.line) := by
    rw [List.forall₂_map_left_iff, List.forall₂_map_right_iff, List.forall₂_same]
    exact fun n hn => writes_import (imported n hn)
  obtain ⟨bs, listed, spelled⟩ := writes_lines lines (.blank (c := '\n') (by decide) spelled)
  obtain ⟨as, clause, spelled⟩ := writes_package package
    (.blank (c := '\n') (by decide) (.blank (c := '\n') (by decide) spelled))
  have form := IsUnit.mk clause listed (.cons (.ofType declared) .nil)
  have kept : (names.map fun n => some (Import.ofName n)).filterMap id = names.map .ofName := by
    simp
  rw [kept] at form
  refine ⟨_, form, ?_⟩
  rw [← imports] at spelled
  simpa [StubFile.code] using spelled

/-- What the code of a stub file spells is all that the file spells, if the name of the program has
no line feed. -/
theorem spells_render {f : StubFile} (script : '\n' ∉ f.banner.script.toList)
    (h : Spells f.code.toList ws) : Spells f.render.toList ws := by
  rw [toList_render]
  exact spells_comments (isComment_bannerLines script) (.blank (c := '\n') (by decide) h)

end JavaStub
