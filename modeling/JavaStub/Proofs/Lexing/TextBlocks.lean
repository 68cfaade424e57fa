import Mathlib.Data.List.Infix
import JavaStub.Proofs.ByteOrder
import JavaStub.Proofs.Lexing.LongestMatch
import JavaStub.Proofs.Lexing.Tiling

/-!
# Where text blocks end

The content of a text block is searched byte by byte, and a backslash takes along one byte that need
not be a whole character. The bytes of longer characters are neither quotes nor backslashes, so the
search finds what reading by units finds. A unit is a backslash with the character behind it, or a
single character, and a block ends with the first run of three or more units that are each a quote.

Main facts:

1. `searchQuotes_escape` and `searchQuotes_single`: the search goes over characters.
2. `finds_textBlockLengthFrom`: searching the bytes of a text comes to what reading its units does.
3. `textBlockLength_eq`: so the length of a text block is told by its units.
4. `closesAtRun_textBlockLengthFrom`: reading units goes through the first run of quotes.
5. `textBlock_exact`: where a text block ends, and that no more than it is taken.
-/

namespace JavaStub.Token

open String (utf8EncodeChar)

variable {c : Char} {cs r : List Char} {b : UInt8} {bytes : ByteArray} {bs rest : List UInt8}
  {i n run : Nat} {k : Kind}

/-! ## Bytes of characters -/

/-- Is the byte neither a quote nor a backslash? -/
def PlainByte (b : UInt8) : Prop := b ≠ '"'.toUInt8 ∧ b ≠ '\\'.toUInt8

theorem plainByte_of_toNat (h : b.toNat ≠ '"'.toNat ∧ b.toNat ≠ '\\'.toNat) : PlainByte b := by
  constructor
  · rintro rfl
    exact h.1 rfl
  · rintro rfl
    exact h.2 rfl

/-- A character has one byte, with its own number, or bytes that no such character has. -/
theorem byte_cases (h : b ∈ utf8EncodeChar c) :
    utf8EncodeChar c = [b] ∧ b.toNat = c.toNat ∨ 128 ≤ b.toNat := by
  have bound : c.val.toNat < 1114112 := by
    rcases c.valid with low | high
    · exact Nat.lt_trans low (by decide)
    · exact high.2
  unfold utf8EncodeChar at h ⊢
  unfold Char.toNat
  generalize c.val.toNat = v at h bound ⊢
  dsimp only at h ⊢
  split_ifs at h ⊢ <;> simp only [List.mem_cons, List.not_mem_nil, or_false] at h
  · subst h
    refine .inl ⟨rfl, ?_⟩
    rw [UInt8.toNat_ofNat', Nat.mod_eq_of_lt (by omega)]
  · right
    rcases h with rfl | rfl <;> rw [UInt8.toNat_ofNat'] <;> omega
  · right
    rcases h with rfl | rfl | rfl <;> rw [UInt8.toNat_ofNat'] <;> omega
  · right
    rcases h with rfl | rfl | rfl | rfl <;> rw [UInt8.toNat_ofNat'] <;> omega

theorem plainByte_of_high (h : 128 ≤ b.toNat) : PlainByte b :=
  plainByte_of_toNat
    ⟨(Nat.lt_of_lt_of_le (by decide) h).ne', (Nat.lt_of_lt_of_le (by decide) h).ne'⟩

/-- The bytes of another character than a quote or a backslash are no quotes and backslashes. -/
theorem plainByte_of_mem (hc : c ≠ '"' ∧ c ≠ '\\') (h : b ∈ utf8EncodeChar c) : PlainByte b := by
  rcases byte_cases h with ⟨_, same⟩ | high
  · refine plainByte_of_toNat ⟨fun quote => hc.1 ?_, fun backslash => hc.2 ?_⟩
    · exact Char.toNat_inj.mp (same ▸ quote)
    · exact Char.toNat_inj.mp (same ▸ backslash)
  · exact plainByte_of_high high

/-- The bytes of a character behind its first one are no quotes and backslashes. -/
theorem plainByte_of_mem_tail (h : b ∈ (utf8EncodeChar c).tail) : PlainByte b := by
  rcases byte_cases (List.mem_of_mem_tail h) with ⟨single, _⟩ | high
  · rw [single] at h
    cases h
  · exact plainByte_of_high high

theorem exists_encoding (c : Char) :
    ∃ b bs, utf8EncodeChar c = b :: bs ∧ bs.length + 1 = c.utf8Size := by
  have size := String.length_utf8EncodeChar c
  cases split : utf8EncodeChar c with
  | nil =>
    rw [split] at size
    exact absurd size (Nat.ne_of_lt c.utf8Size_pos)
  | cons b bs =>
    rw [split] at size
    exact ⟨b, bs, rfl, size⟩

/-! ## Steps of the search -/

/-- The bytes that are left at a place of the search. -/
def bytesFrom (bytes : ByteArray) (i : Nat) : List UInt8 := bytes.data.toList.drop i

theorem bytesFrom_cons (h : bytesFrom bytes i = b :: bs) :
    ∃ hi : i < bytes.size, bytes[i] = b ∧ bytesFrom bytes (i + 1) = bs := by
  have hi : i < bytes.data.toList.length := by
    by_contra beyond
    rw [bytesFrom, List.drop_eq_nil_of_le (Nat.le_of_not_lt beyond)] at h
    cases h
  rw [bytesFrom, List.drop_eq_getElem_cons hi] at h
  obtain ⟨first, behind⟩ := List.cons.inj h
  exact ⟨by simpa using hi, first, behind⟩

theorem bytesFrom_append (h : bytesFrom bytes i = bs ++ rest) :
    bytesFrom bytes (i + bs.length) = rest := by
  unfold bytesFrom at h ⊢
  rw [← List.drop_drop, h, List.drop_left]

theorem searchQuotes_end (h : bytesFrom bytes i = []) : searchQuotes bytes i run = (i, run) := by
  have beyond : ¬i < bytes.size := by
    have := List.drop_eq_nil_iff.mp h
    simpa using this
  rw [searchQuotes, dif_neg beyond]

theorem searchQuotes_quote (h : bytesFrom bytes i = '"'.toUInt8 :: bs) :
    searchQuotes bytes i run = searchQuotes bytes (i + 1) (run + 1) := by
  obtain ⟨hi, first, _⟩ := bytesFrom_cons h
  rw [searchQuotes, dif_pos hi, if_pos first]

/-- A run of three quotes ends where no quote follows it. -/
theorem searchQuotes_stop (h : bytesFrom bytes i = b :: bs) (other : b ≠ '"'.toUInt8)
    (long : 3 ≤ run) : searchQuotes bytes i run = (i, run) := by
  obtain ⟨hi, first, _⟩ := bytesFrom_cons h
  rw [searchQuotes, dif_pos hi, first, if_neg other, if_pos long]

/-- A backslash takes a byte along, and does so even at the end. -/
theorem searchQuotes_backslash (h : bytesFrom bytes i = '\\'.toUInt8 :: bs) (short : ¬3 ≤ run) :
    searchQuotes bytes i run = searchQuotes bytes (i + 2) 0 := by
  obtain ⟨hi, first, _⟩ := bytesFrom_cons h
  rw [searchQuotes, dif_pos hi, first, if_neg (by decide), if_neg short, if_pos rfl]

theorem searchQuotes_plain (h : bytesFrom bytes i = b :: bs) (plain : PlainByte b)
    (short : ¬3 ≤ run) : searchQuotes bytes i run = searchQuotes bytes (i + 1) 0 := by
  obtain ⟨hi, first, _⟩ := bytesFrom_cons h
  rw [searchQuotes, dif_pos hi, first, if_neg plain.1, if_neg short, if_neg plain.2]

/-- The search goes over bytes that are no quotes and backslashes. -/
theorem searchQuotes_passed (h : bytesFrom bytes i = bs ++ rest) (plain : ∀ b ∈ bs, PlainByte b) :
    searchQuotes bytes i 0 = searchQuotes bytes (i + bs.length) 0 := by
  induction bs generalizing i with
  | nil => rfl
  | cons b bs ih =>
    obtain ⟨_, _, behind⟩ := bytesFrom_cons h
    rw [searchQuotes_plain h (plain b List.mem_cons_self) (by decide),
      ih behind fun d hd => plain d (List.mem_cons_of_mem b hd), List.length_cons,
      Nat.add_right_comm]
    rfl

/-! ## Going over characters -/

/-- The search stops behind three quotes where the next character is no quote. -/
theorem searchQuotes_stopChar (h : bytesFrom bytes i = (c :: cs).flatMap utf8EncodeChar)
    (quote : c ≠ '"') (long : 3 ≤ run) : searchQuotes bytes i run = (i, run) := by
  obtain ⟨b, bs, split, _⟩ := exists_encoding c
  rw [List.flatMap_cons, split] at h
  refine searchQuotes_stop h (fun same => ?_) long
  rw [same] at split
  have mem : '"'.toUInt8 ∈ utf8EncodeChar c := split ▸ List.mem_cons_self
  rcases byte_cases mem with ⟨_, same⟩ | high
  · exact quote (Char.toNat_inj.mp same.symm)
  · exact absurd high (by decide)

/-- The search goes over a backslash and the character behind it: the backslash takes along the
first byte of the character, and its other bytes are plain. -/
theorem searchQuotes_escape (h : bytesFrom bytes i = ('\\' :: c :: cs).flatMap utf8EncodeChar)
    (short : ¬3 ≤ run) :
    bytesFrom bytes (i + byteCount ['\\', c]) = cs.flatMap utf8EncodeChar ∧
      searchQuotes bytes i run = searchQuotes bytes (i + byteCount ['\\', c]) 0 := by
  obtain ⟨b, bs, split, size⟩ := exists_encoding c
  have plain : ∀ e ∈ bs, PlainByte e := fun e he =>
    plainByte_of_mem_tail (c := c) (by rw [split]; exact he)
  have whole : bytesFrom bytes i = ['\\'.toUInt8, b] ++ (bs ++ cs.flatMap utf8EncodeChar) := by
    rw [h, List.flatMap_cons, List.flatMap_cons, split]
    rfl
  have behind : bytesFrom bytes (i + 2) = bs ++ cs.flatMap utf8EncodeChar := bytesFrom_append whole
  have place : i + byteCount ['\\', c] = i + 2 + bs.length := by
    rw [byteCount_cons, byteCount_cons, byteCount_nil, ← size]
    show i + (1 + _) = _
    omega
  rw [place]
  refine ⟨bytesFrom_append behind, ?_⟩
  rw [searchQuotes_backslash whole short, searchQuotes_passed behind plain]

/-- The search goes over a character that is no quote and no backslash. -/
theorem searchQuotes_single (h : bytesFrom bytes i = (c :: cs).flatMap utf8EncodeChar)
    (quote : c ≠ '"') (backslash : c ≠ '\\') (short : ¬3 ≤ run) :
    bytesFrom bytes (i + byteCount [c]) = cs.flatMap utf8EncodeChar ∧
      searchQuotes bytes i run = searchQuotes bytes (i + byteCount [c]) 0 := by
  have all : ∀ b ∈ utf8EncodeChar c, PlainByte b := fun b hb =>
    plainByte_of_mem ⟨quote, backslash⟩ hb
  obtain ⟨b, bs, split, size⟩ := exists_encoding c
  rw [split] at all
  have whole : bytesFrom bytes i = b :: (bs ++ cs.flatMap utf8EncodeChar) := by
    rw [h, List.flatMap_cons, split]
    rfl
  have behind := (bytesFrom_cons whole).2.2
  have place : i + byteCount [c] = i + 1 + bs.length := by
    rw [byteCount_cons, byteCount_nil, ← size]
    omega
  rw [place]
  refine ⟨bytesFrom_append behind, ?_⟩
  rw [searchQuotes_plain whole (all b List.mem_cons_self) short,
    searchQuotes_passed behind fun e he => all e (List.mem_cons_of_mem b he)]

/-! ## Reading unit by unit -/

/-- The number of characters up to the end of a block, when `run` plain quotes stand directly
before it; `none` if the block is not closed. -/
def textBlockLengthFrom (run : Nat) : List Char → Option Nat
  | [] => if 3 ≤ run then some 0 else none
  | '"' :: cs => (textBlockLengthFrom (run + 1) cs).map (· + 1)
  | c :: cs =>
    if 3 ≤ run then some 0
    else if c = '\\' then
      match cs with
      | [] => none
      | _ :: ds => (textBlockLengthFrom 0 ds).map (· + 2)
    else (textBlockLengthFrom 0 cs).map (· + 1)

/-- A run of three quotes ends where no quote follows it. -/
theorem textBlockLengthFrom_stop (long : 3 ≤ run) (next : cs.head? ≠ some '"') :
    textBlockLengthFrom run cs = some 0 := by
  unfold textBlockLengthFrom
  split
  · exact if_pos long
  · exact absurd rfl next
  · exact if_pos long

theorem textBlockLengthFrom_escape (short : ¬3 ≤ run) :
    textBlockLengthFrom run ('\\' :: c :: cs) = (textBlockLengthFrom 0 cs).map (· + 2) := by
  rw [textBlockLengthFrom, if_neg short, if_pos rfl]
  decide

theorem textBlockLengthFrom_single (quote : c ≠ '"') (backslash : c ≠ '\\') (short : ¬3 ≤ run) :
    textBlockLengthFrom run (c :: cs) = (textBlockLengthFrom 0 cs).map (· + 1) := by
  conv => lhs; unfold textBlockLengthFrom
  split
  · next same => cases same
  · next same =>
    cases same
    exact absurd rfl quote
  · next same =>
    cases same
    rw [if_neg short, if_neg backslash]

/-- The search from byte `i` on ends `n` characters further on in the text `cs`, behind a run of
three quotes or more; where `n` is `none` it comes to the end without such a run. -/
def Finds (bytes : ByteArray) (i run : Nat) (cs : List Char) : Option Nat → Prop
  | some n => ∃ long ≥ 3, searchQuotes bytes i run = (i + byteCount (cs.take n), long)
  | none => (searchQuotes bytes i run).2 < 3

/-- What the search finds behind some characters is found from before them. -/
theorem Finds.before {run' : Nat} {found : Option Nat} (us : List Char)
    (h : Finds bytes (i + byteCount us) run' cs found)
    (step : searchQuotes bytes i run = searchQuotes bytes (i + byteCount us) run') :
    Finds bytes i run (us ++ cs) (found.map (· + us.length)) := by
  cases found with
  | none =>
    show (searchQuotes bytes i run).2 < 3
    rw [step]
    exact h
  | some n =>
    obtain ⟨long, three, stop⟩ := h
    refine ⟨long, three, ?_⟩
    rw [step, stop, Nat.add_assoc, ← byteCount_append]
    show _ = (i + byteCount ((us ++ cs).take (n + us.length)), long)
    rw [Nat.add_comm n, List.take_length_add_append]

/-- Searching the bytes of a text comes to what reading its units does. -/
theorem finds_textBlockLengthFrom (h : bytesFrom bytes i = cs.flatMap utf8EncodeChar) :
    Finds bytes i run cs (textBlockLengthFrom run cs) := by
  fun_induction textBlockLengthFrom run cs generalizing i with
  | case1 run long => exact ⟨run, long, searchQuotes_end h⟩
  | case2 run short =>
    show (searchQuotes bytes i run).2 < 3
    rw [searchQuotes_end h]
    exact Nat.lt_of_not_le short
  | case3 run cs ih =>
    have behind := (bytesFrom_cons h).2.2
    exact (ih behind).before ['"'] (searchQuotes_quote h)
  | case4 run c cs quote long => exact ⟨run, long, searchQuotes_stopChar h quote long⟩
  | case5 run short =>
    -- the backslash takes along a byte that is not there
    have beyond : bytesFrom bytes (i + 2) = [] := by
      have last : bytes.data.toList.length ≤ i + 1 :=
        List.drop_eq_nil_iff.mp (bytesFrom_cons h).2.2
      exact List.drop_eq_nil_iff.mpr (Nat.le_succ_of_le last)
    show (searchQuotes bytes i run).2 < 3
    rw [searchQuotes_backslash h short, searchQuotes_end beyond]
    exact Nat.zero_lt_succ 2
  | case6 run short d ds quote ih =>
    obtain ⟨behind, step⟩ := searchQuotes_escape h short
    exact (ih behind).before ['\\', d] step
  | case7 run c cs quote short backslash ih =>
    obtain ⟨behind, step⟩ := searchQuotes_single h quote backslash short
    exact (ih behind).before [c] step

/-! ## The length of a text block -/

theorem charsWithin_take {n : Nat} (h : n ≤ cs.length) :
    charsWithin (byteCount (cs.take n)) cs = n := by
  induction cs generalizing n with
  | nil =>
    obtain rfl := Nat.le_zero.mp h
    rfl
  | cons c cs ih =>
    cases n with
    | zero => rfl
    | succ n =>
      obtain ⟨k, hk⟩ := Nat.exists_eq_add_of_le' c.utf8Size_pos
      have more : c.utf8Size + byteCount (cs.take n) = k + byteCount (cs.take n) + 1 := by omega
      have left : k + byteCount (cs.take n) + 1 - c.utf8Size = byteCount (cs.take n) := by omega
      rw [List.take_succ_cons, byteCount_cons, more, charsWithin, left,
        ih (Nat.le_of_succ_le_succ h)]

theorem textBlockLengthFrom_le (h : textBlockLengthFrom run cs = some n) : n ≤ cs.length := by
  fun_induction textBlockLengthFrom run cs generalizing n with
  | case1 run hrun => simp_all
  | case2 run hrun => simp at h
  | case3 run cs ih =>
    obtain ⟨m, hm, rfl⟩ := Option.map_eq_some_iff.mp h
    exact Nat.succ_le_succ (ih hm)
  | case4 run c cs hc hrun =>
    obtain rfl := Option.some.inj h
    exact Nat.zero_le _
  | case5 => simp at h
  | case6 run hrun d ds hq ih =>
    obtain ⟨m, hm, rfl⟩ := Option.map_eq_some_iff.mp h
    exact Nat.succ_le_succ (Nat.succ_le_succ (ih hm))
  | case7 run c cs hq hrun hc ih =>
    obtain ⟨m, hm, rfl⟩ := Option.map_eq_some_iff.mp h
    exact Nat.succ_le_succ (ih hm)

/-- What is taken of the bytes of a text, and when nothing is. -/
theorem textBlockBytes_ofList (cs : List Char) : textBlockBytes (String.ofList cs).toUTF8 =
    (textBlockLengthFrom 0 cs).map fun n => byteCount (cs.take n) := by
  have found : Finds (String.ofList cs).toUTF8 0 0 cs (textBlockLengthFrom 0 cs) :=
    finds_textBlockLengthFrom (utf8Bytes_ofList cs)
  unfold textBlockBytes
  cases read : textBlockLengthFrom 0 cs with
  | none =>
    rw [read] at found
    exact if_pos found
  | some n =>
    rw [read] at found
    obtain ⟨long, three, stop⟩ := found
    rw [stop]
    show (if long < 3 then none else _) = _
    rw [if_neg (Nat.not_lt.mpr three), Nat.zero_add]
    rfl

/-- The length of a text block is told by its units. -/
theorem textBlockLength_eq (cs : List Char) : textBlockLength cs = textBlockLengthFrom 0 cs := by
  unfold textBlockLength
  rw [textBlockBytes_ofList, Option.map_map]
  cases read : textBlockLengthFrom 0 cs with
  | none => rfl
  | some n => exact congrArg some (charsWithin_take (textBlockLengthFrom_le read))

/-- What starts with three quotes is cut off as a text block, up to its end. -/
theorem closed_of_cut (quotes : OpensTextBlock (c :: cs)) (h : cut c cs = (some k, n)) :
    k = .textBlock ∧
      ∃ ds m, c = '"' ∧ cs = '"' :: '"' :: ds ∧ n = m + 2 ∧ textBlockLength ds = some m := by
  obtain ⟨ds, same⟩ := quotes
  cases same
  change cut '"' ('"' :: '"' :: ds) = _ at h
  rw [cut_textBlock] at h
  split at h
  · next m closed =>
    cases h
    exact ⟨rfl, ds, m, rfl, rfl, rfl, closed⟩
  · cases h

/-- What is cut off as a text block starts with three quotes. -/
theorem closed_of_cut_textBlock (h : cut c cs = (some .textBlock, n)) :
    ∃ ds m, c = '"' ∧ cs = '"' :: '"' :: ds ∧ n = m + 2 ∧ textBlockLength ds = some m := by
  by_cases quotes : OpensTextBlock (c :: cs)
  · exact (closed_of_cut quotes h).2
  · by_cases comment : OpenComment (c :: cs)
    · rw [cut_openComment comment] at h
      cases h
    · cases found : Regex.munch (Regex.read c rules) cs with
      | none =>
        have unmatched := cut_unmatched quotes comment found
        rw [h] at unmatched
        cases unmatched
      | some p =>
        obtain ⟨k, m⟩ := p
        -- text blocks have no rule, so none of them is a longest match
        rw [cut_of_munch quotes comment found] at h
        cases h
        have accepted : IsLexeme .textBlock (c :: cs.take n) := Regex.accepted_of_munch found
        obtain ⟨r, hr, _⟩ := Regex.exists_of_accepted accepted
        have none : ∀ rule ∈ rules, rule.1 ≠ .textBlock := by decide +kernel
        exact absurd rfl (none _ hr)

/-! ## Units -/

/-- The units of a text: a backslash with the character behind it, or a single character. -/
def units : List Char → List (List Char)
  | [] => []
  | '\\' :: c :: cs => ['\\', c] :: units cs
  | c :: cs => [c] :: units cs

/-- The unit that is a quote. -/
def quoteUnit : List Char := ['"']

/-- Do some units hold three quotes in a row? -/
def HasRun (us : List (List Char)) : Prop := List.replicate 3 quoteUnit <:+: us

/-- Behind `before` stands a run of `length` quotes, three or more. It is the first such run of the
units `us`, and it is taken as long as possible. -/
structure IsFirstRun (us before : List (List Char)) (length : Nat) (after : List (List Char)) :
    Prop where
  split : us = before ++ (List.replicate length quoteUnit ++ after)
  long : 3 ≤ length
  left : before.getLast? ≠ some quoteUnit
  right : after.head? ≠ some quoteUnit
  first : ¬HasRun before

variable {u : List Char} {us before after : List (List Char)} {k m : Nat}

theorem units_quote (cs : List Char) : units ('"' :: cs) = quoteUnit :: units cs := by
  simp [units, quoteUnit]

theorem units_single (h : c ≠ '\\' ∨ cs = []) : units (c :: cs) = [c] :: units cs := by
  rw [units]
  rintro d ds rfl rfl
  exact h.elim (· rfl) (List.cons_ne_nil d ds)

theorem head?_units (h : c ≠ '"') : (units (c :: cs)).head? ≠ some quoteUnit := by
  unfold units
  split
  · next same => cases same
  · simp [quoteUnit]
  · next same =>
    obtain ⟨rfl, rfl⟩ := List.cons.inj same
    simpa [quoteUnit] using h

/-- A run is no longer than up to the first unit that is no quote. -/
theorem replicate_too_long (other : u ≠ quoteUnit) (short : k < n) :
    ¬List.replicate n quoteUnit <+: List.replicate k quoteUnit ++ u :: us := by
  intro start
  induction k generalizing n with
  | zero =>
    obtain ⟨n, rfl⟩ := Nat.exists_eq_add_of_le' short
    exact other (List.cons_prefix_cons.mp start).1.symm
  | succ k ih =>
    obtain ⟨n, rfl⟩ := Nat.exists_eq_add_of_le' (Nat.zero_lt_of_lt short)
    exact ih (Nat.lt_of_succ_lt_succ short) (List.cons_prefix_cons.mp start).2

/-- Before a unit that is no quote there is no run in fewer than three quotes. -/
theorem hasRun_of_other (other : u ≠ quoteUnit) (short : ¬3 ≤ k)
    (h : HasRun (List.replicate k quoteUnit ++ u :: us)) : HasRun us := by
  unfold HasRun at h ⊢
  have away : ¬List.replicate 3 quoteUnit <+: List.replicate k quoteUnit ++ u :: us :=
    replicate_too_long other (Nat.lt_of_not_le short)
  induction k with
  | zero => exact (List.infix_cons_iff.mp h).resolve_left away
  | succ k ih =>
    have short' : ¬3 ≤ k := fun long => short (Nat.le_succ_of_le long)
    have later : List.replicate 3 quoteUnit <:+: List.replicate k quoteUnit ++ u :: us :=
      (List.infix_cons_iff.mp h).resolve_left away
    exact ih short' later (replicate_too_long other (Nat.lt_of_not_le short'))

theorem IsFirstRun.hasRun (h : IsFirstRun us before m after) : HasRun us := by
  obtain ⟨k, rfl⟩ := Nat.exists_eq_add_of_le h.long
  refine ⟨before, List.replicate k quoteUnit ++ after, ?_⟩
  rw [h.split, List.replicate_add, List.append_assoc, List.append_assoc]

theorem IsFirstRun.behind (h : IsFirstRun us before m after) (other : u ≠ quoteUnit)
    (short : ¬3 ≤ k) : IsFirstRun (List.replicate k quoteUnit ++ u :: us)
      (List.replicate k quoteUnit ++ u :: before) m after where
  split := by rw [h.split, List.append_assoc, List.cons_append]
  long := h.long
  left := by
    rw [List.getLast?_append, List.getLast?_cons]
    cases last : before.getLast? with
    | none => simpa using other
    | some v =>
      have := h.left
      rw [last] at this
      simpa using this
  right := h.right
  first := fun run => h.first (hasRun_of_other other short run)

/-- The units up to the end of a block are those through the first run of three quotes or more; the
block is not closed if there is none. -/
def ClosesAtRun (run : Nat) (cs : List Char) : Option Nat → Prop
  | some n => ∃ before m after,
      IsFirstRun (List.replicate run quoteUnit ++ units cs) before m after ∧
        List.replicate run '"' ++ cs.take n = (before ++ List.replicate m quoteUnit).flatten
  | none => ¬HasRun (List.replicate run quoteUnit ++ units cs)

theorem not_hasRun_nil : ¬HasRun [] := by
  intro h
  cases List.infix_nil.mp h

/-- A run of three quotes or more ends where the next unit is no quote. -/
theorem closesAtRun_here (long : 3 ≤ run) (next : (units cs).head? ≠ some quoteUnit) :
    ClosesAtRun run cs (some 0) :=
  ⟨[], run, units cs, ⟨rfl, long, by simp, next, not_hasRun_nil⟩, by simp [quoteUnit]⟩

/-- A unit that is no quote ends a run that is too short. -/
theorem ClosesAtRun.behind {found : Option Nat} (h : ClosesAtRun 0 cs found) (other : u ≠ quoteUnit)
    (short : ¬3 ≤ run) (next : units (u ++ cs) = u :: units cs) :
    ClosesAtRun run (u ++ cs) (found.map (· + u.length)) := by
  unfold ClosesAtRun
  rw [next]
  cases found with
  | none => exact fun run => h (hasRun_of_other other short run)
  | some n =>
    obtain ⟨before, m, after, first, text⟩ := h
    refine ⟨_, m, after, first.behind other short, ?_⟩
    have taken : (u ++ cs).take (n + u.length) = u ++ cs.take n := by
      rw [Nat.add_comm, List.take_length_add_append]
    have quotes : (List.replicate run quoteUnit).flatten = List.replicate run '"' := by
      simp [quoteUnit]
    show List.replicate run '"' ++ (u ++ cs).take (n + u.length) = _
    rw [taken, List.append_assoc, List.flatten_append, quotes, List.cons_append, List.flatten_cons,
      ← text]
    rfl

/-- Reading units comes to the first run of three quotes or more. -/
theorem closesAtRun_textBlockLengthFrom (run : Nat) (cs : List Char) :
    ClosesAtRun run cs (textBlockLengthFrom run cs) := by
  fun_induction textBlockLengthFrom run cs with
  | case1 run long => exact closesAtRun_here long (by simp [units])
  | case2 run short =>
    intro h
    have size := h.length_le
    simp only [units, List.append_nil, List.length_replicate] at size
    exact short size
  | case3 run cs ih =>
    have more : List.replicate run quoteUnit ++ units ('"' :: cs) =
        List.replicate (run + 1) quoteUnit ++ units cs := by
      rw [units_quote, List.replicate_succ', List.append_assoc]
      rfl
    have text (n : Nat) : List.replicate run '"' ++ ('"' :: cs).take (n + 1) =
        List.replicate (run + 1) '"' ++ cs.take n := by
      rw [List.replicate_succ', List.append_assoc]
      rfl
    unfold ClosesAtRun at ih ⊢
    rw [more]
    cases read : textBlockLengthFrom (run + 1) cs with
    | none =>
      rw [read] at ih
      exact ih
    | some n =>
      rw [read] at ih
      obtain ⟨before, m, after, first, same⟩ := ih
      exact ⟨before, m, after, first, (text n).trans same⟩
  | case4 run c cs quote long =>
    exact closesAtRun_here long (head?_units quote)
  | case5 run short =>
    intro h
    have alone : units ['\\'] = [['\\']] := rfl
    rw [alone] at h
    exact not_hasRun_nil (hasRun_of_other (by decide) short h)
  | case6 run short d ds quote ih =>
    exact ih.behind (u := ['\\', d]) (by simp [quoteUnit]) short (by simp [units])
  | case7 run c cs quote short backslash ih =>
    exact ih.behind (u := [c]) (by simpa [quoteUnit] using quote) short
      (units_single (.inl backslash))

/-! ## Where a text block ends -/

/-- What is taken of the text `r` behind the quotes that open a text block: the text `w`, which goes
through the first run of three quotes or more, the run taken as long as possible. -/
structure IsBlockContent (r w : String) (n : Nat) : Prop where
  start : ∃ rest, r = w ++ rest
  size : w.utf8ByteSize = n
  within : n ≤ r.utf8ByteSize
  /-- The bytes that are taken are whole characters. -/
  boundary : String.Pos.Raw.IsValid r ⟨n⟩
  run : ∃ before length after, IsFirstRun (units r.toList) before length after ∧
    w.toList = (before ++ List.replicate length quoteUnit).flatten

theorem isBlockContent_take (h : textBlockLengthFrom 0 cs = some n) :
    IsBlockContent (String.ofList cs) (String.ofList (cs.take n)) (byteCount (cs.take n)) := by
  have split : String.ofList cs = String.ofList (cs.take n) ++ String.ofList (cs.drop n) := by
    rw [← String.ofList_append, List.take_append_drop]
  have size : (String.ofList (cs.take n)).utf8ByteSize = byteCount (cs.take n) :=
    utf8ByteSize_ofList _
  refine ⟨⟨_, split⟩, size, ?_, ?_, ?_⟩
  · rw [split, String.utf8ByteSize_append, size]
    exact Nat.le_add_right _ _
  · exact String.Pos.Raw.isValid_ofList.mpr ⟨n, size.symm⟩
  · have closes := closesAtRun_textBlockLengthFrom 0 cs
    rw [h] at closes
    obtain ⟨before, m, after, first, text⟩ := closes
    rw [String.toList_ofList, String.toList_ofList]
    exact ⟨before, m, after, first, text⟩

/-- Behind the quotes that open a text block, the search finds an end when three quotes stand in a
row as units of their own. It takes the text through the first such run, as long as it is, and the
text block ends there. Where it finds no end nothing is taken but the opening quotes. -/
theorem textBlock_exact (r : String) :
    ((∃ n, textBlockBytes r.toUTF8 = some n) ↔ HasRun (units r.toList)) ∧
    (∀ n, textBlockBytes r.toUTF8 = some n → ∃ w, IsBlockContent r w n ∧
      cut '"' ('"' :: '"' :: r.toList) = (some .textBlock, w.length + 2)) ∧
    (textBlockBytes r.toUTF8 = none → cut '"' ('"' :: '"' :: r.toList) = (none, 2)) := by
  obtain ⟨cs, rfl⟩ : ∃ cs, r = String.ofList cs := ⟨r.toList, String.ofList_toList.symm⟩
  have closes := closesAtRun_textBlockLengthFrom 0 cs
  rw [textBlockBytes_ofList, String.toList_ofList, cut_textBlock, textBlockLength_eq]
  cases read : textBlockLengthFrom 0 cs with
  | none =>
    rw [read] at closes
    refine ⟨iff_of_false ?_ closes, fun n h => ?_, fun _ => rfl⟩
    · rintro ⟨n, h⟩
      cases h
    · cases h
  | some n =>
    rw [read] at closes
    obtain ⟨before, m, after, first, _⟩ := closes
    refine ⟨iff_of_true ⟨_, rfl⟩ first.hasRun, fun k h => ?_, fun h => ?_⟩
    · obtain rfl : byteCount (cs.take n) = k := Option.some.inj h
      refine ⟨_, isBlockContent_take read, ?_⟩
      have size : (String.ofList (cs.take n)).length = n := by
        rw [String.length_ofList, List.length_take, Nat.min_eq_left (textBlockLengthFrom_le read)]
      rw [size]
    · cases h

end JavaStub.Token
