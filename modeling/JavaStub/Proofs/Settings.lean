import Mathlib.Data.List.Forall2
import Mathlib.Data.List.TakeWhile
import JavaStub.Configuration

/-!
# Settings

What the variables of the environment say, on their texts rather than by the reader: white space may
stand around a value, a year is an optional sign with one or more digits and fits into 32 bits, and
a switch is off for two words alone. A configuration is made exactly when the anchor is not empty and
the year is one, and each of its fields is what its own variable says.

Main facts:

1. `padded_trim` and `trim_of_padded`: what is left of a text without white space at its ends.
2. `integer?_eq_some_iff`: the texts of integers, with their values.
3. `isNo_iff`, `year?_eq_some_iff` and `writesYear_repr`: what a switch and a year say.
4. `ofLookup_exact`: when a configuration is made, and what it is.
-/

namespace JavaStub

open Unicode

/-! ## Padding -/

/-- A word with white space around it, of any length. -/
def Padded (text word : List Char) : Prop :=
  ∃ before after, text = before ++ word ++ after ∧
    (∀ c ∈ before, isWhiteSpace c = true) ∧ ∀ c ∈ after, isWhiteSpace c = true

/-- What is left of a text stands in it with white space around it. -/
theorem padded_trim (text : List Char) : Padded text (trim text) := by
  let rest := text.dropWhile isWhiteSpace
  refine ⟨text.takeWhile isWhiteSpace, (rest.reverse.takeWhile isWhiteSpace).reverse, ?_,
    fun c hc => ?_, fun c hc => ?_⟩
  · have back : trim text ++ (rest.reverse.takeWhile isWhiteSpace).reverse = rest := by
      rw [trim, ← List.reverse_append, List.takeWhile_append_dropWhile, List.reverse_reverse]
    rw [List.append_assoc, back, List.takeWhile_append_dropWhile]
  · exact List.mem_takeWhile_imp hc
  · exact List.mem_takeWhile_imp (List.mem_reverse.mp hc)

/-- White space around a word that has none goes away, and nothing else. -/
theorem trim_of_padded {text word : List Char} (padded : Padded text word)
    (solid : ∀ c ∈ word, isWhiteSpace c = false) : trim text = word := by
  obtain ⟨before, after, rfl, front, back⟩ := padded
  have keep : ∀ cs : List Char, (∀ c ∈ cs, isWhiteSpace c = false) →
      cs.dropWhile isWhiteSpace = cs := by
    intro cs h
    cases cs with
    | nil => rfl
    | cons c cs => rw [List.dropWhile_cons_of_neg (by rw [h c List.mem_cons_self]; decide)]
  rw [List.append_assoc, trim_append_left front]
  cases word with
  | nil =>
    have gone : after.dropWhile isWhiteSpace = [] := List.dropWhile_eq_nil_iff.mpr back
    simp [trim, gone]
  | cons c word =>
    have start : isWhiteSpace c = false := solid c List.mem_cons_self
    have front : (c :: word ++ after).dropWhile isWhiteSpace = c :: word ++ after :=
      List.dropWhile_cons_of_neg (by rw [start]; decide)
    have tail : ∀ d ∈ after.reverse, isWhiteSpace d = true := fun d hd =>
      back d (List.mem_reverse.mp hd)
    have body := keep (c :: word).reverse fun d hd => solid d (List.mem_reverse.mp hd)
    rw [trim, front, List.reverse_append, dropWhile_append_of_all tail, body, List.reverse_reverse]

/-! ## Integers -/

namespace Text

/-- One or more digits of ASCII. -/
def Digits (cs : List Char) : Prop := cs ≠ [] ∧ ∀ c ∈ cs, c.isDigit = true

/-- The texts of integers: digits with at most one sign in front, of any length. -/
inductive WritesInteger : List Char → Int → Prop
  | bare {ds : List Char} (digits : Digits ds) : WritesInteger ds (Nat.ofDigitChars 10 ds 0)
  | plus {ds : List Char} (digits : Digits ds) :
      WritesInteger ('+' :: ds) (Nat.ofDigitChars 10 ds 0)
  | minus {ds : List Char} (digits : Digits ds) :
      WritesInteger ('-' :: ds) (-(Nat.ofDigitChars 10 ds 0 : Int))

/-- Digits are read to their number, and a text with another character to none. -/
theorem digitsFrom_eq_some_iff {cs : List Char} {value n : Nat} :
    digitsFrom value cs = some n ↔
      (∀ c ∈ cs, c.isDigit = true) ∧ Nat.ofDigitChars 10 cs value = n := by
  induction cs generalizing value with
  | nil => simp [digitsFrom]
  | cons c cs ih =>
    by_cases digit : c.isDigit = true
    · have value : digit? c = some (c.toNat - '0'.toNat) := by rw [digit?, if_pos digit]
      simp only [digitsFrom, value, ih, Nat.ofDigitChars_cons, List.forall_mem_cons, digit, true_and]
    · have value : digit? c = none := by rw [digit?, if_neg digit]
      simp [digitsFrom, value, digit]

theorem natural?_eq_some_iff {cs : List Char} {n : Nat} :
    natural? cs = some n ↔ Digits cs ∧ Nat.ofDigitChars 10 cs 0 = n := by
  cases cs with
  | nil => simp [natural?, Digits]
  | cons c cs =>
    show digitsFrom 0 (c :: cs) = some n ↔ _
    simp [digitsFrom_eq_some_iff, Digits]

/-- A sign in front of what is read acts on the number of the digits. -/
theorem digits_of_signed {cs : List Char} {sign : Int → Int} {n : Int}
    (h : Option.map sign (do return ((← natural? cs : Nat) : Int)) = some n) :
    Digits cs ∧ n = sign (Nat.ofDigitChars 10 cs 0) := by
  cases read : natural? cs with
  | none => rw [read] at h; cases h
  | some value =>
    obtain ⟨digits, rfl⟩ := natural?_eq_some_iff.mp read
    rw [read] at h
    exact ⟨digits, (Option.some.inj h).symm⟩

/-- The texts that are read as integers are the texts of integers, with their values. -/
theorem integer?_eq_some_iff {cs : List Char} {n : Int} :
    integer? cs = some n ↔ WritesInteger cs n := by
  constructor
  · intro h
    unfold integer? at h
    split at h
    all_goals obtain ⟨digits, rfl⟩ := digits_of_signed h
    · exact .minus digits
    · exact .plus digits
    · exact .bare digits
  · intro h
    cases h with
    | minus digits => rw [integer?, natural?_eq_some_iff.mpr ⟨digits, rfl⟩]; rfl
    | plus digits => rw [integer?, natural?_eq_some_iff.mpr ⟨digits, rfl⟩]; rfl
    | bare digits =>
      unfold integer?
      split
      · exact absurd (digits.2 '-' List.mem_cons_self) (by decide)
      · exact absurd (digits.2 '+' List.mem_cons_self) (by decide)
      · rw [natural?_eq_some_iff.mpr ⟨digits, rfl⟩]
        rfl

/-- The decimal text of a number has digits alone. -/
theorem digits_repr (n : Nat) : Digits n.repr.toList := by
  rw [Nat.toList_repr]
  exact ⟨Nat.toDigits_ne_nil, fun c hc => Nat.isDigit_of_mem_toDigits (by decide) (by decide) hc⟩

/-- The decimal text of an integer is one of its texts. -/
theorem writesInteger_repr (n : Int) : WritesInteger n.repr.toList n := by
  have value (m : Nat) : Nat.ofDigitChars 10 m.repr.toList 0 = m := by
    rw [Nat.toList_repr, Nat.ofDigitChars_toDigits (by decide) (by decide)]
  cases n with
  | ofNat m =>
    have written := WritesInteger.bare (digits_repr m)
    rwa [value] at written
  | negSucc m =>
    have written := WritesInteger.minus (digits_repr (m + 1))
    rw [value] at written
    have text : (Int.negSucc m).repr.toList = '-' :: (m + 1).repr.toList := by
      show ("-" ++ (m + 1).repr).toList = _
      rw [String.toList_append]
      rfl
    rw [text]
    exact written

/-- No character of an integer is white space. -/
theorem WritesInteger.solid {cs : List Char} {n : Int} (h : WritesInteger cs n) :
    ∀ c ∈ cs, isWhiteSpace c = false := by
  have plain : ∀ {c : Char}, c.isDigit = true → isWhiteSpace c = false := by
    intro c digit
    obtain ⟨low, high⟩ := Char.isDigit_iff_toNat.mp digit
    have low' : 48 ≤ c.toNat := low
    have high' : c.toNat ≤ 57 := high
    rw [← Bool.not_eq_true, isWhiteSpace, inRanges_iff]
    simp only [whiteSpaceRanges, List.mem_cons, List.not_mem_nil, or_false]
    rintro ⟨range, member, least, most⟩
    rcases member with rfl | rfl | rfl | rfl | rfl | rfl | rfl | rfl | rfl | rfl <;>
      simp only at least most <;> omega
  intro c member
  cases h with
  | bare digits => exact plain (digits.2 c member)
  | plus digits | minus digits =>
    rcases List.mem_cons.mp member with rfl | member
    · decide
    · exact plain (digits.2 c member)

end Text

/-! ## Switches -/

namespace Configuration

/-- The letters of the word for no, in lower case and in upper case. -/
def noLetters : List (Char × Char) := [('f', 'F'), ('a', 'A'), ('l', 'L'), ('s', 'S'), ('e', 'E')]

/-- A letter of ASCII in its two cases. -/
def IsLetter (letter : Char × Char) : Prop :=
  97 ≤ letter.1.toNat ∧ letter.1.toNat ≤ 122 ∧ letter.2.toNat + 32 = letter.1.toNat

instance (letter : Char × Char) : Decidable (IsLetter letter) :=
  inferInstanceAs (Decidable (_ ∧ _ ∧ _))

/-- The word has these letters in a row, each in one of its cases. -/
def Spells (word : List Char) (letters : List (Char × Char)) : Prop :=
  List.Forall₂ (fun c letter => c = letter.1 ∨ c = letter.2) word letters

/-- The texts that mean no: a zero, or the letters of `false` in any case, with white space around. -/
def MeansNo (text : String) : Prop :=
  ∃ word, Padded text.toList word ∧ (word = ['0'] ∨ Spells word noLetters)

theorem toNat_toLower (c : Char) :
    c.toLower.toNat = if 65 ≤ c.toNat ∧ c.toNat ≤ 90 then c.toNat + 32 else c.toNat := by
  have test : c.val ≥ 'A'.val ∧ c.val ≤ 'Z'.val ↔ 65 ≤ c.toNat ∧ c.toNat ≤ 90 := by
    rw [ge_iff_le, UInt32.le_iff_toNat_le, UInt32.le_iff_toNat_le]
    rfl
  unfold Char.toLower
  by_cases upper : 65 ≤ c.toNat ∧ c.toNat ≤ 90
  · rw [dif_pos (test.mpr upper), if_pos upper]
    show (c.val.toNat + 32) % 2 ^ 32 = c.val.toNat + 32
    have bound : c.val.toNat ≤ 90 := upper.2
    omega
  · rw [dif_neg (mt test.mp upper), if_neg upper]

theorem toLower_eq_zero_iff {c : Char} : c.toLower = '0' ↔ c = '0' := by
  rw [← Char.toNat_inj, ← Char.toNat_inj, toNat_toLower]
  show _ = 48 ↔ _ = 48
  split <;> omega

theorem toLower_eq_letter_iff {c : Char} {letter : Char × Char} (h : IsLetter letter) :
    c.toLower = letter.1 ↔ c = letter.1 ∨ c = letter.2 := by
  obtain ⟨low, high, upper⟩ := h
  rw [← Char.toNat_inj, ← Char.toNat_inj, ← Char.toNat_inj, toNat_toLower]
  split <;> omega

/-- A word is in lower case the letters that it spells in any case. -/
theorem map_toLower_eq_iff {letters : List (Char × Char)} (h : ∀ letter ∈ letters, IsLetter letter)
    {word : List Char} : word.map Char.toLower = letters.map Prod.fst ↔ Spells word letters := by
  induction letters generalizing word with
  | nil => simp [Spells]
  | cons letter letters ih =>
    cases word with
    | nil => simp [Spells]
    | cons c word =>
      have tail : word.map Char.toLower = letters.map Prod.fst ↔ Spells word letters :=
        ih fun l hl => h l (List.mem_cons_of_mem _ hl)
      have head := toLower_eq_letter_iff (c := c) (h letter List.mem_cons_self)
      rw [List.map_cons, List.map_cons, List.cons_eq_cons, head, tail, Spells, Spells,
        List.forall₂_cons]

theorem exists_letter_of_spells {word : List Char} {letters : List (Char × Char)}
    (h : Spells word letters) : ∀ c ∈ word, ∃ letter ∈ letters, c = letter.1 ∨ c = letter.2 := by
  induction h with
  | nil => exact fun c hc => absurd hc List.not_mem_nil
  | cons here _ ih =>
    intro c hc
    rcases List.mem_cons.mp hc with rfl | hc
    · exact ⟨_, List.mem_cons_self, here⟩
    · obtain ⟨letter, member, found⟩ := ih c hc
      exact ⟨letter, List.mem_cons_of_mem _ member, found⟩

/-- No character of a word for no is white space. -/
theorem solid_of_no {word : List Char} (h : word = ['0'] ∨ Spells word noLetters) :
    ∀ c ∈ word, isWhiteSpace c = false := by
  rcases h with rfl | spells
  · exact List.forall_mem_singleton.mpr (by decide)
  · have letters : ∀ letter ∈ noLetters,
        isWhiteSpace letter.1 = false ∧ isWhiteSpace letter.2 = false := by decide
    intro c hc
    obtain ⟨letter, member, rfl | rfl⟩ := exists_letter_of_spells spells c hc
    · exact (letters letter member).1
    · exact (letters letter member).2

/-- A switch is off for the texts that mean no, and for no other text. -/
theorem isNo_iff {text : String} : isNo text = true ↔ MeansNo text := by
  have words (word : List Char) :
      (word.map Char.toLower = ['0'] ∨ word.map Char.toLower = ['f', 'a', 'l', 's', 'e']) ↔
        (word = ['0'] ∨ Spells word noLetters) := by
    have spelled : word.map Char.toLower = ['f', 'a', 'l', 's', 'e'] ↔ Spells word noLetters :=
      @map_toLower_eq_iff noLetters (by decide) word
    have zero : word.map Char.toLower = ['0'] ↔ word = ['0'] := by
      simp [List.map_eq_cons_iff, toLower_eq_zero_iff]
    rw [spelled, zero]
  have test : isNo text = true ↔ trimmed text = ['0'] ∨ Spells (trimmed text) noLetters := by
    rw [← words]
    simp [isNo]
  rw [test]
  constructor
  · exact fun h => ⟨_, padded_trim _, h⟩
  · rintro ⟨word, padded, h⟩
    rwa [trimmed, trim_of_padded padded (solid_of_no h)]

/-! ## Years -/

/-- The text writes the year: an integer with white space around it, of 32 bits with the sign. -/
def WritesYear (text : String) (n : Int) : Prop :=
  ∃ word, Padded text.toList word ∧ Text.WritesInteger word n ∧ -2147483648 ≤ n ∧ n ≤ 2147483647

/-- The year that is read is the one that is written, whatever the number of digits is. -/
theorem year?_eq_some_iff {text : String} {n : Int} : year? text = some n ↔ WritesYear text n := by
  have read (word : List Char) (trims : trimmed text = word) :
      year? text = some n ↔ Text.WritesInteger word n ∧ -2147483648 ≤ n ∧ n ≤ 2147483647 := by
    rw [← Text.integer?_eq_some_iff, year?, trims]
    cases Text.integer? word with
    | none => simp
    | some m =>
      simp only [Option.ite_none_right_eq_some, Option.some.injEq]
      constructor
      · rintro ⟨bounds, rfl⟩
        exact ⟨rfl, by omega, by omega⟩
      · rintro ⟨rfl, low, high⟩
        exact ⟨by omega, rfl⟩
  constructor
  · exact fun h => ⟨_, padded_trim _, (read _ rfl).mp h⟩
  · rintro ⟨word, padded, written⟩
    exact (read word (trim_of_padded padded written.1.solid)).mpr written

/-- The decimal text of a year writes it, with any white space around. -/
theorem writesYear_repr {n : Int} (low : -2147483648 ≤ n) (high : n ≤ 2147483647) {before after : List Char}
    (front : ∀ c ∈ before, isWhiteSpace c = true) (back : ∀ c ∈ after, isWhiteSpace c = true) :
    WritesYear (String.ofList (before ++ n.repr.toList ++ after)) n :=
  ⟨n.repr.toList, ⟨before, after, String.toList_ofList, front, back⟩,
    Text.writesInteger_repr n, low, high⟩

theorem WritesYear.unique {text : String} {n m : Int} (h : WritesYear text n)
    (h' : WritesYear text m) : n = m :=
  Option.some.inj ((year?_eq_some_iff.mpr h).symm.trans (year?_eq_some_iff.mpr h'))

/-! ## Fields -/

/-- The configuration is what the variables say, each field what its own variable does. -/
structure ReadFrom (lookup : String → Option String) (c : Configuration) : Prop where
  anchor : c.anchor = (lookup "JSTUB_ANCHOR_DIR").getD "chrome"
  script : ∀ name, c.script = some name ↔ lookup "JSTUB_SCRIPT_NAME" = some name ∧ name ≠ ""
  noYear : c.year = none ↔ lookup "JSTUB_YEAR" = none
  year : ∀ n, c.year = some n ↔ ∃ text, lookup "JSTUB_YEAR" = some text ∧ WritesYear text n
  onlyIfChanged : c.onlyIfChanged = false ↔
    ∃ text, lookup "JSTUB_ONLY_IF_CHANGED" = some text ∧ MeansNo text

/-- Two configurations agree in each field whose variable is the same in both lookups. -/
structure AgreeBy (lookup lookup' : String → Option String) (c c' : Configuration) : Prop where
  anchor : lookup "JSTUB_ANCHOR_DIR" = lookup' "JSTUB_ANCHOR_DIR" → c.anchor = c'.anchor
  script : lookup "JSTUB_SCRIPT_NAME" = lookup' "JSTUB_SCRIPT_NAME" → c.script = c'.script
  year : lookup "JSTUB_YEAR" = lookup' "JSTUB_YEAR" → c.year = c'.year
  onlyIfChanged : lookup "JSTUB_ONLY_IF_CHANGED" = lookup' "JSTUB_ONLY_IF_CHANGED" →
    c.onlyIfChanged = c'.onlyIfChanged

variable {lookup lookup' : String → Option String} {c c' : Configuration}

theorem ReadFrom.agreeBy (h : ReadFrom lookup c) (h' : ReadFrom lookup' c') :
    AgreeBy lookup lookup' c c' where
  anchor same := by rw [h.anchor, h'.anchor, same]
  script same := Option.ext fun name => by rw [h.script, h'.script, same]
  year same := Option.ext fun n => by rw [h.year, h'.year, same]
  onlyIfChanged same := by
    have off : c.onlyIfChanged = false ↔ c'.onlyIfChanged = false := by
      rw [h.onlyIfChanged, h'.onlyIfChanged, same]
    rwa [Bool.eq_iff_iff, ← not_iff_not, Bool.not_eq_true, Bool.not_eq_true]

/-- The variables say one configuration at most. -/
theorem ReadFrom.unique (h : ReadFrom lookup c) (h' : ReadFrom lookup c') : c = c' := by
  have agree := h.agreeBy h'
  cases c
  cases c'
  exact Configuration.mk.injEq .. |>.mpr
    ⟨agree.anchor rfl, agree.script rfl, agree.year rfl, agree.onlyIfChanged rfl⟩

/-! ## Configurations -/

/-- The text of the year is set and writes no year. -/
def BadYear (lookup : String → Option String) (text : String) : Prop :=
  lookup "JSTUB_YEAR" = some text ∧ ∀ n, ¬ WritesYear text n

theorem readAnchor_empty (h : lookup "JSTUB_ANCHOR_DIR" = some "") :
    readAnchor (lookup "JSTUB_ANCHOR_DIR") = .error .emptyAnchor := by
  rw [h]
  rfl

theorem readAnchor_of_ne (h : lookup "JSTUB_ANCHOR_DIR" ≠ some "") :
    readAnchor (lookup "JSTUB_ANCHOR_DIR") = .ok ((lookup "JSTUB_ANCHOR_DIR").getD "chrome") := by
  cases set : lookup "JSTUB_ANCHOR_DIR" with
  | none => rfl
  | some text =>
    have filled : text.isEmpty = false := by
      rw [← Bool.not_eq_true, String.isEmpty_iff]
      rintro rfl
      exact h set
    simp [readAnchor, filled]

theorem readYear_of_bad {text : String} (bad : BadYear lookup text) :
    readYear (lookup "JSTUB_YEAR") = .error (.notAYear text) := by
  have unread : year? text = none :=
    Option.eq_none_iff_forall_ne_some.mpr fun n read => bad.2 n (year?_eq_some_iff.mp read)
  rw [bad.1, readYear, unread]

theorem readYear_of_not_bad (good : ∀ text, ¬ BadYear lookup text) :
    ∃ year, readYear (lookup "JSTUB_YEAR") = .ok year ∧
      (year = none ↔ lookup "JSTUB_YEAR" = none) ∧
      ∀ n, year = some n ↔ ∃ text, lookup "JSTUB_YEAR" = some text ∧ WritesYear text n := by
  cases set : lookup "JSTUB_YEAR" with
  | none => exact ⟨none, rfl, by simp, by simp⟩
  | some text =>
    have written : ∃ n, WritesYear text n := by
      by_contra none
      exact good text ⟨set, fun n h => none ⟨n, h⟩⟩
    obtain ⟨n, written⟩ := written
    refine ⟨some n, by rw [readYear, year?_eq_some_iff.mpr written], by simp, fun m => ?_⟩
    constructor
    · rintro ⟨⟩
      exact ⟨text, rfl, written⟩
    · rintro ⟨_, ⟨⟩, other⟩
      rw [written.unique other]

theorem ofLookup_of_empty (empty : lookup "JSTUB_ANCHOR_DIR" = some "") :
    ofLookup lookup = .error .emptyAnchor := by
  rw [ofLookup, readAnchor_empty empty]
  rfl

theorem ofLookup_of_bad (anchor : lookup "JSTUB_ANCHOR_DIR" ≠ some "") {text : String}
    (bad : BadYear lookup text) : ofLookup lookup = .error (.notAYear text) := by
  rw [ofLookup, readAnchor_of_ne anchor, readYear_of_bad bad]
  rfl

/-- A lookup without a wrong variable makes the configuration that its variables say. -/
theorem exists_readFrom (anchor : lookup "JSTUB_ANCHOR_DIR" ≠ some "")
    (good : ∀ text, ¬ BadYear lookup text) : ∃ c, ofLookup lookup = .ok c ∧ ReadFrom lookup c := by
  obtain ⟨year, read, unset, written⟩ := readYear_of_not_bad good
  refine ⟨_, by rw [ofLookup, readAnchor_of_ne anchor, read]; rfl, rfl, fun name => ?_, unset,
    written, ?_⟩
  · simp [Option.filter_eq_some_iff]
  · show ((lookup "JSTUB_ONLY_IF_CHANGED").map fun text => !isNo text).getD true = false ↔ _
    cases lookup "JSTUB_ONLY_IF_CHANGED" with
    | none => simp
    | some text => simp [isNo_iff]

/-- What a lookup comes to: one of the two complaints, or what its variables say. -/
theorem ofLookup_cases (lookup : String → Option String) :
    (lookup "JSTUB_ANCHOR_DIR" = some "" ∧ ofLookup lookup = .error .emptyAnchor) ∨
    (lookup "JSTUB_ANCHOR_DIR" ≠ some "" ∧
      ((∃ text, BadYear lookup text ∧ ofLookup lookup = .error (.notAYear text)) ∨
        ∃ c, ofLookup lookup = .ok c ∧ ReadFrom lookup c)) := by
  by_cases anchor : lookup "JSTUB_ANCHOR_DIR" = some ""
  · exact .inl ⟨anchor, ofLookup_of_empty anchor⟩
  · refine .inr ⟨anchor, ?_⟩
    by_cases bad : ∃ text, BadYear lookup text
    · obtain ⟨text, bad⟩ := bad
      exact .inl ⟨text, bad, ofLookup_of_bad anchor bad⟩
    · exact .inr (exists_readFrom anchor fun text h => bad ⟨text, h⟩)

theorem ofLookup_eq_emptyAnchor_iff :
    ofLookup lookup = .error .emptyAnchor ↔ lookup "JSTUB_ANCHOR_DIR" = some "" := by
  refine ⟨fun refused => ?_, ofLookup_of_empty⟩
  obtain ⟨empty, _⟩ | ⟨_, ⟨text, _, found⟩ | ⟨c, found, _⟩⟩ := ofLookup_cases lookup
  · exact empty
  all_goals cases found.symm.trans refused

/-- The year is complained about when its text writes none, unless the anchor was. -/
theorem ofLookup_eq_notAYear_iff {text : String} :
    ofLookup lookup = .error (.notAYear text) ↔
      lookup "JSTUB_ANCHOR_DIR" ≠ some "" ∧ BadYear lookup text := by
  refine ⟨fun refused => ?_, fun h => ofLookup_of_bad h.1 h.2⟩
  obtain ⟨_, found⟩ | ⟨anchor, ⟨text', bad, found⟩ | ⟨c, found, _⟩⟩ := ofLookup_cases lookup
  all_goals cases found.symm.trans refused
  exact ⟨anchor, bad⟩

/-- A lookup that a configuration is read from has no wrong year. -/
theorem ReadFrom.not_bad (h : ReadFrom lookup c) (text : String) : ¬ BadYear lookup text := by
  rintro ⟨set, bad⟩
  cases year : c.year with
  | none => exact absurd (h.noYear.mp year) (by rw [set]; exact Option.some_ne_none _)
  | some n =>
    obtain ⟨text', set', written⟩ := (h.year n).mp year
    obtain rfl := Option.some.inj (set.symm.trans set')
    exact bad n written

/-- What the variables say is made, and nothing else. -/
theorem ofLookup_eq_ok_iff :
    ofLookup lookup = .ok c ↔ lookup "JSTUB_ANCHOR_DIR" ≠ some "" ∧ ReadFrom lookup c := by
  constructor
  · intro made
    obtain ⟨_, found⟩ | ⟨anchor, ⟨text, _, found⟩ | ⟨c', found, fields⟩⟩ := ofLookup_cases lookup
    all_goals cases found.symm.trans made
    exact ⟨anchor, fields⟩
  · rintro ⟨anchor, fields⟩
    obtain ⟨c', made, fields'⟩ := exists_readFrom anchor fields.not_bad
    rw [made, fields.unique fields']

/-- A configuration is made unless the variable of the anchor is set to the empty text or the one of the
year to a text that writes none, and the anchor is complained about first. The configuration is the one
that the variables say, each field by its own variable alone. The decimal text of every year of 32 bits
is read as that year, whatever white space stands around it. -/
theorem ofLookup_exact (lookup : String → Option String) :
    ((∃ e, ofLookup lookup = .error e) ↔
      lookup "JSTUB_ANCHOR_DIR" = some "" ∨ ∃ text, BadYear lookup text) ∧
    (ofLookup lookup = .error .emptyAnchor ↔ lookup "JSTUB_ANCHOR_DIR" = some "") ∧
    (∀ text, ofLookup lookup = .error (.notAYear text) ↔
      lookup "JSTUB_ANCHOR_DIR" ≠ some "" ∧ BadYear lookup text) ∧
    (∀ c, ofLookup lookup = .ok c ↔ lookup "JSTUB_ANCHOR_DIR" ≠ some "" ∧ ReadFrom lookup c) ∧
    (∀ lookup' c c', ofLookup lookup = .ok c → ofLookup lookup' = .ok c' →
      AgreeBy lookup lookup' c c') ∧
    ∀ (n : Int) (before after : List Char), -2147483648 ≤ n → n ≤ 2147483647 →
      (∀ c ∈ before, isWhiteSpace c = true) → (∀ c ∈ after, isWhiteSpace c = true) →
      lookup "JSTUB_ANCHOR_DIR" ≠ some "" →
      lookup "JSTUB_YEAR" = some (String.ofList (before ++ n.repr.toList ++ after)) →
      ∃ c, ofLookup lookup = .ok c ∧ c.year = some n := by
  refine ⟨?_, ofLookup_eq_emptyAnchor_iff, fun _ => ofLookup_eq_notAYear_iff,
    fun _ => ofLookup_eq_ok_iff, fun lookup' c c' made made' => ?_,
    fun n before after low high front back anchor set => ?_⟩
  · constructor
    · rintro ⟨e | text, refused⟩
      · exact .inl (ofLookup_eq_emptyAnchor_iff.mp refused)
      · exact .inr ⟨text, (ofLookup_eq_notAYear_iff.mp refused).2⟩
    · intro wrong
      by_cases empty : lookup "JSTUB_ANCHOR_DIR" = some ""
      · exact ⟨_, ofLookup_of_empty empty⟩
      · obtain ⟨text, bad⟩ := wrong.resolve_left empty
        exact ⟨_, ofLookup_of_bad empty bad⟩
  · exact (ofLookup_eq_ok_iff.mp made).2.agreeBy (ofLookup_eq_ok_iff.mp made').2
  · have written := writesYear_repr low high front back
    have good : ∀ text, ¬ BadYear lookup text := by
      rintro text ⟨set', bad⟩
      obtain rfl := Option.some.inj (set.symm.trans set')
      exact bad n written
    obtain ⟨c, made, fields⟩ := exists_readFrom anchor good
    exact ⟨c, made, (fields.year n).mpr ⟨_, set, written⟩⟩

/-- The least year of 32 bits is read, with an ideographic space before it and a line feed behind it. -/
theorem ofLookup_leastYear : ∃ c, ofLookup (fun name =>
    if name = "JSTUB_YEAR" then some "\u3000-2147483648\n" else none) = .ok c ∧
    c.year = some (-2147483648) :=
  (ofLookup_exact _).2.2.2.2.2 (-2147483648) ['\u3000'] ['\n'] (by decide) (by decide)
    (List.forall_mem_singleton.mpr (by decide)) (List.forall_mem_singleton.mpr (by decide))
    (by decide) (by decide +kernel)

/-- Behind the limits there is no year, and neither is there one where the digits would wrap around. -/
example : year? "2147483648" = none ∧ year? "-2147483649" = none ∧ year? "4294969321" = none := by
  decide +kernel

end Configuration

end JavaStub
