import JavaStub.Configuration
import JavaStub.Proofs.Fidelity

/-!
# The comment at the head of a stub

The year and the name of the program stand in the comment at the head of a stub. If the name has no
line feed, each line at the head is a comment up to its end, and what follows is cut into the same
lexemes as the code on its own. A line feed in the name ends the comment, and the rest of the name is
read as code.

Main facts:

1. `exists_scan_comments`: lines that are comments are cut off as they are, and what follows them is
   cut as it is on its own.
2. `strip_of_banner`: stubs of one unit for two banners have the same words.
3. `spells_lineFeed`: what a name with a line feed in it adds to these words.
-/

namespace JavaStub

open Token (Kind blanks cut)

open Source

variable {l : Location} {c : Char} {cs rest code : List Char} {lines : List String} {ws : List Word}
  {text source : String}

/-! ## Comments and blanks in a scan -/

/-- A piece without its place. -/
def Source.Piece.unplaced (p : Piece) : Option Kind × List Char := (p.kind, p.text)

/-- Where an input starts makes no difference to what its pieces are. -/
theorem unplaced_scan (l l' : Location) (cs : List Char) :
    (scan l cs).map Piece.unplaced = (scan l' cs).map Piece.unplaced := by
  fun_induction scan l cs generalizing l' with
  | case1 => rw [scan_nil]
  | case2 l c cs kind more next text ih =>
    rw [scan_cons, next, List.map_cons, List.map_cons, ih (l'.past text)]
    rfl

theorem scan_comment (l : Location) (h : '\n' ∉ cs) (rest : List Char) :
    scan l ('/' :: '/' :: (cs ++ '\n' :: rest)) =
      ⟨some .lineComment, '/' :: '/' :: cs, l⟩ :: scan (l.past ('/' :: '/' :: cs)) ('\n' :: rest) := by
  rw [scan_cons, Token.cut_line h, List.take_succ_cons, List.drop_succ_cons, List.take_left,
    List.drop_left]

/-- White space before a character that is none is one piece. -/
theorem scan_blanks (l : Location) (cs : List Char) (hc : c ∈ blanks) (all : ∀ d ∈ cs, d ∈ blanks)
    (ends : ∀ d ∈ rest.head?, d ∉ blanks) :
    scan l (c :: (cs ++ rest)) = ⟨some .whitespace, c :: cs, l⟩ :: scan (l.past (c :: cs)) rest := by
  have run : (cs ++ rest).takeWhile (CharClass.anyOf blanks).contains = cs := by
    rw [List.takeWhile_append_of_pos fun d hd => CharClass.contains_anyOf.mpr (all d hd)]
    cases rest with
    | nil => exact List.append_nil cs
    | cons d rest =>
      have stops : ¬(CharClass.anyOf blanks).contains d = true := fun h =>
        ends d rfl (CharClass.contains_anyOf.mp h)
      rw [List.takeWhile_cons_of_neg stops, List.append_nil]
  rw [scan_cons, Token.cut_blank hc, run, List.take_left, List.drop_left]

theorem scan_blank (l : Location) (hc : c ∈ blanks) (ends : ∀ d ∈ rest.head?, d ∉ blanks) :
    scan l (c :: rest) = ⟨some .whitespace, [c], l⟩ :: scan (l.past [c]) rest :=
  scan_blanks l [] hc (fun _ h => absurd h List.not_mem_nil) ends

/-- Pieces that are comments and white space, with a comment for each of these lines. -/
structure AreComments (lines : List String) (ps : List Piece) : Prop where
  kinds : ∀ p ∈ ps, p.kind = some .lineComment ∨ p.kind = some .whitespace
  texts : (ps.filter fun p => p.kind = some .lineComment).map (fun p => String.ofList p.text) = lines

namespace AreComments

variable {ps : List Piece}

theorem nil : AreComments [] [] := ⟨fun _ h => absurd h List.not_mem_nil, rfl⟩

theorem blank (h : AreComments lines ps) (cs : List Char) (l : Location) :
    AreComments lines (⟨some .whitespace, cs, l⟩ :: ps) := by
  refine ⟨List.forall_mem_cons.mpr ⟨.inr rfl, h.kinds⟩, ?_⟩
  rw [List.filter_cons_of_neg (by simp), h.texts]

theorem comment (h : AreComments lines ps) {line : String} (text : line.toList = cs) (l : Location) :
    AreComments (line :: lines) (⟨some .lineComment, cs, l⟩ :: ps) := by
  refine ⟨List.forall_mem_cons.mpr ⟨.inl rfl, h.kinds⟩, ?_⟩
  rw [List.filter_cons_of_pos (by simp), List.map_cons, h.texts, ← text, String.ofList_toList]

end AreComments

/-- Lines that are comments are cut off as they are, and what follows them is cut as it is on its
own. -/
theorem exists_scan_comments (h : ∀ line ∈ lines, IsComment line)
    (start : ∀ c ∈ code.head?, c ∉ blanks) (l : Location) :
    ∃ head l', scan l ((lines.flatMap fun line => line.toList ++ ['\n']) ++ '\n' :: code) =
      head ++ scan l' code ∧ AreComments lines head := by
  have feed : '\n' ∈ blanks := by decide
  induction lines generalizing l with
  | nil =>
    exact ⟨[_], _, scan_blank l feed start, AreComments.nil.blank _ _⟩
  | cons line lines ih =>
    obtain ⟨isComment, others⟩ := List.forall_mem_cons.mp h
    obtain ⟨cs, text, inside⟩ := isComment.exists_inside
    have first := scan_comment l inside
      ((lines.flatMap fun line => line.toList ++ ['\n']) ++ '\n' :: code)
    have split : ((line :: lines).flatMap fun line => line.toList ++ ['\n']) ++ '\n' :: code =
        '/' :: '/' :: (cs ++ '\n' ::
          ((lines.flatMap fun line => line.toList ++ ['\n']) ++ '\n' :: code)) := by
      simp [text]
    rw [split, first]
    cases lines with
    | nil =>
      -- the line feed of the last line and the empty line behind it are one piece
      have both := scan_blanks (l.past ('/' :: '/' :: cs)) ['\n'] feed
        (List.forall_mem_singleton.mpr feed) start
      exact ⟨[_, _], _, congrArg _ both, (AreComments.nil.blank _ _).comment text l⟩
    | cons line' lines =>
      obtain ⟨cs', text', _⟩ := (List.forall_mem_cons.mp others).1.exists_inside
      have slash : ∀ d ∈ (((line' :: lines).flatMap fun line => line.toList ++ ['\n']) ++
          '\n' :: code).head?, d ∉ blanks := by
        intro d hd
        rw [List.flatMap_cons, text'] at hd
        obtain rfl : '/' = d := Option.some.inj hd
        decide
      obtain ⟨head, l', more, comments⟩ := ih others ((l.past ('/' :: '/' :: cs)).past ['\n'])
      rw [scan_blank _ feed slash, more]
      exact ⟨_ :: _ :: head, l', rfl, (comments.blank _ _).comment text l⟩

/-! ## The words of stubs -/

/-- The tokens of the text, with their kinds and lexemes. -/
def HasWords (text : String) (ws : List Word) : Prop :=
  ∃ ts, Source.tokens text = .ok ts ∧ ts.map Token.word = ws

theorem HasWords.of_spells (h : Spells text.toList ws) : HasWords text ws := h.tokens

theorem HasWords.unique {vs : List Word} (h : HasWords text ws) (h' : HasWords text vs) : ws = vs := by
  obtain ⟨ts, cuts, rfl⟩ := h
  obtain ⟨us, cuts', rfl⟩ := h'
  rw [cuts] at cuts'
  cases cuts'
  rfl

/-- The text has a comment for each line of the banner, only white space between and behind them,
and then the lexemes of the code. -/
def IsHeaded (banner : Banner) (code text : String) : Prop :=
  ∃ head behind, scan .start text.toList = head ++ behind ∧
    AreComments (StubFile.bannerLines banner) head ∧
      behind.map Piece.unplaced = (scan .start code.toList).map Piece.unplaced

namespace StubFile

/-- The code of a stub file starts with the keyword of its package. -/
theorem head?_code (f : StubFile) : f.code.toList.head? = some 'p' := by
  simp [code]

theorem isHeaded_render {f : StubFile} (script : '\n' ∉ f.banner.script.toList) :
    IsHeaded f.banner f.code f.render := by
  have start : ∀ c ∈ f.code.toList.head?, c ∉ blanks := by
    intro c hc
    rw [head?_code] at hc
    obtain rfl : 'p' = c := Option.some.inj hc
    decide
  obtain ⟨head, l, cuts, comments⟩ :=
    exists_scan_comments (isComment_bannerLines script) start .start
  refine ⟨head, _, ?_, comments, unplaced_scan l .start f.code.toList⟩
  rw [toList_render, cuts]

/-- A name after a line feed is the first word of the file. -/
theorem spells_lineFeed {f : StubFile} {before n : String} (script : f.banner.script = before ++ "\n" ++ n)
    (single : '\n' ∉ before.toList) (name : IsName n) (h : Spells f.code.toList ws) :
    Spells f.render.toList (⟨.identifier, n⟩ :: ws) := by
  -- the lines through the name up to its line feed, and the line behind it
  have lines : bannerLines f.banner = (bannerLines f.banner).take 5 ++
      ("//     " ++ f.banner.script) :: (bannerLines f.banner).drop 6 := rfl
  have above : ∀ line ∈ (bannerLines f.banner).take 5 ++ ["//     " ++ before], IsComment line := by
    intro line hl
    have mem : line ∈ (bannerLines ⟨before, f.banner.year⟩).take 6 := hl
    exact isComment_bannerLines single line (List.mem_of_mem_take mem)
  have below : ∀ line ∈ (bannerLines f.banner).drop 6, IsComment line := by
    intro line hl
    obtain rfl := List.mem_singleton.mp hl
    decide
  have behind := spells_comments below (.blank (c := '\n') (by decide) h)
  have named := spells_name name (endsWord_cons (by decide)) (.blank (c := '\n') (by decide) behind)
  have all := spells_comments above named
  rw [toList_render, lines, script]
  simpa only [List.flatMap_append, List.flatMap_cons, List.flatMap_nil, String.toList_append,
    List.append_assoc, List.cons_append, List.nil_append, List.append_nil,
    show "\n".toList = ['\n'] from rfl] using all

end StubFile

namespace CompilationUnit

variable {u : CompilationUnit} {banner : Banner} {file : StubFile}

/-- The stub files of a unit differ in their banners only. -/
theorem stubFile_of_banner (made : u.stubFile banner = .ok file) (b : Banner) :
    u.stubFile b = .ok { file with banner := b } := by
  obtain ⟨c, package, index, needed, stubs, stages, rfl⟩ := exists_stages made
  exact stages.stubFile b

/-- The code of a stub that is made for the unit of a source is cut into words. -/
theorem exists_spells_code (read : ofSource source = .ok u) (made : u.stubFile banner = .ok file) :
    ∃ ws, Spells file.code.toList ws := by
  obtain ⟨c, parts⟩ := exists_isStubFile made
  obtain ⟨names, lines, known⟩ := parts.imports
  obtain ⟨ws, _, spelled⟩ := spells_code_of_stubFile read parts lines known
  exact ⟨ws, spelled⟩

/-- If a unit that is read from a source has a stub, it has one for every banner in which the name of
the program has no line feed. The words of all of these are those of the code, and the banner stays
in the comment at the head. -/
theorem strip_of_banner (read : ofSource source = .ok u) (stripped : u.strip banner = .ok text) :
    ∃ file ws, u.stubFile banner = .ok file ∧ HasWords file.code ws ∧
      ∀ b : Banner, '\n' ∉ b.script.toList → ∃ text, u.strip b = .ok text ∧ HasWords text ws ∧
        IsHeaded b file.code text := by
  cases made : u.stubFile banner with
  | error e => rw [strip, made] at stripped; cases stripped
  | ok file =>
    obtain ⟨ws, spelled⟩ := exists_spells_code read made
    refine ⟨file, ws, rfl, .of_spells spelled, fun b script => ?_⟩
    have same : ({ file with banner := b } : StubFile).code = file.code := rfl
    refine ⟨({ file with banner := b } : StubFile).render, ?_, ?_, ?_⟩
    · rw [strip, stubFile_of_banner made b]
      rfl
    · exact .of_spells (spells_render script (by rw [same]; exact spelled))
    · exact StubFile.isHeaded_render script

theorem strip_of_banner_genericResult :
    ∃ file ws, genericResultUnit.stubFile ⟨"jstub", 2019⟩ = .ok file ∧ HasWords file.code ws ∧
      ∀ b : Banner, '\n' ∉ b.script.toList → ∃ text, genericResultUnit.strip b = .ok text ∧
        HasWords text ws ∧ IsHeaded b file.code text :=
  strip_of_banner ofSource_genericResult strip_genericResult

/-- An environment that sets the name of the program and nothing else. -/
def scriptOnly (script key : String) : Option String :=
  if key = "JSTUB_SCRIPT_NAME" then some script else none

/-- With a line feed in the name of the program, stubs of one unit have different words. -/
theorem exists_scripts_apart :
    ¬∀ (source : String) (u : CompilationUnit) (lookup lookup' : String → Option String)
      (c c' : Configuration) (executable executable' : String) (year year' : Int)
      (text text' : String), ofSource source = .ok u → Configuration.ofLookup lookup = .ok c →
        Configuration.ofLookup lookup' = .ok c' → u.strip (c.banner executable year) = .ok text →
          u.strip (c'.banner executable' year') = .ok text' →
            ∃ ws, HasWords text ws ∧ HasWords text' ws := by
  intro all
  obtain ⟨ws, spelled⟩ := exists_spells_code ofSource_genericResult stubFile_genericResult
  have stripped : genericResultUnit.strip ⟨"jstub\nx", 2019⟩ =
      .ok ({ genericResultFile with banner := ⟨"jstub\nx", 2019⟩ } : StubFile).render := by
    rw [strip, stubFile_of_banner stubFile_genericResult]
    rfl
  obtain ⟨vs, first, second⟩ := all genericResult genericResultUnit (scriptOnly "jstub")
    (scriptOnly "jstub\nx") ⟨"chrome", some "jstub", none, true⟩
    ⟨"chrome", some "jstub\nx", none, true⟩ "" "" 2019 2019 _ _ ofSource_genericResult
    (by decide +kernel) (by decide +kernel) strip_genericResult stripped
  have plain : HasWords genericResultFile.render ws := .of_spells (spells_render (by decide) spelled)
  have name : IsName "x" := by
    unfold IsName
    decide +kernel
  have extra : HasWords _ (⟨.identifier, "x"⟩ :: ws) :=
    .of_spells (StubFile.spells_lineFeed (f := { genericResultFile with banner := ⟨"jstub\nx", 2019⟩ })
      (show _ = "jstub" ++ "\n" ++ "x" by decide) (by decide) name spelled)
  have same := (first.unique plain).symm.trans (second.unique extra)
  exact absurd (congrArg List.length same) (by simp)

end CompilationUnit

end JavaStub
