import Mathlib.Data.Bool.AllAny
import Refit.Expression.Token
import Refit.Proofs.Sheet.References
import Refit.Proofs.Signature.Reading

/-!
# Lexemes

What expressions are written with: marks, whole numbers, literals of characters and texts,
references to results, and names.  In a text the lexemes may stand apart as far as one
likes; only two of which neither is a mark need a blank between them.  Cutting the text
gives their tokens.
-/

namespace Refit.Expression

section Glyphs

/-- A hexadecimal digit, small or capital. -/
structure HexDigit where
  value : Fin 16
  capital : Bool

def HexDigit.char (d : HexDigit) : Char :=
  if d.capital then (Nat.digitChar d.value).toUpper else Nat.digitChar d.value

theorem HexDigit.hexDigit?_char (d : HexDigit) : hexDigit? d.char = some d.value.val := by
  have hall : ∀ (value : Fin 16) (capital : Bool),
      hexDigit? (HexDigit.char ⟨value, capital⟩) = some value.val := by decide +kernel
  exact hall d.value d.capital

/-- Four digits that are the code point of a character. -/
structure CodePoint where
  a : HexDigit
  b : HexDigit
  c : HexDigit
  d : HexDigit
  valid : (((a.value.val * 16 + b.value) * 16 + c.value) * 16 + d.value).isValidChar

namespace CodePoint

def number (p : CodePoint) : ℕ :=
  ((p.a.value.val * 16 + p.b.value) * 16 + p.c.value) * 16 + p.d.value

def chars (p : CodePoint) : List Char := [p.a.char, p.b.char, p.c.char, p.d.char]

theorem natOfHex?_chars (p : CodePoint) : natOfHex? p.chars = some p.number := by
  have hplus : p.a.char ≠ '+' := by
    intro hplus
    have hdigit := p.a.hexDigit?_char
    rw [hplus] at hdigit
    cases hdigit
  unfold natOfHex? chars
  split
  · next rest heq => exact absurd (List.cons.inj heq).1 hplus
  · simp [List.mapM_cons, HexDigit.hexDigit?_char, number]

theorem charOfNat?_number (p : CodePoint) : charOfNat? p.number = some (Char.ofNat p.number) := by
  have hvalid : p.number.isValidChar := p.valid
  unfold charOfNat?
  rw [if_pos]
  rcases hvalid with hlow | ⟨hhigh, hlimit⟩
  · simp [hlow]
  · have habove : 0xE000 ≤ p.number := hhigh
    simp [habove, hlimit]

end CodePoint

/-- The characters behind a backslash, and what they stand for. -/
def escapes : List (Char × Char) :=
  [('n', '\n'), ('t', '\t'), ('r', '\r'), ('0', '\x00'), ('\\', '\\'), ('\'', '\''), ('"', '"')]

/-- A character of a literal, as it is written. -/
inductive Glyph where
  | plain (c : Char) (hc : c ≠ '\\')
  | escape (e : Char × Char) (he : e ∈ escapes)
  | code (p : CodePoint)

namespace Glyph

def chars : Glyph → List Char
  | plain c _ => [c]
  | escape e _ => ['\\', e.1]
  | code p => '\\' :: 'u' :: p.chars

def char : Glyph → Char
  | plain c _ => c
  | escape e _ => e.2
  | code p => Char.ofNat p.number

def isQuote : Glyph → Bool
  | plain c _ => c = '"'
  | _ => false

theorem scanLetter_chars (g : Glyph) (rest : List Char) :
    scanLetter (g.chars ++ rest) = .ok (g.char, rest) := by
  cases g with
  | plain c hc =>
      change scanLetter (c :: rest) = .ok (c, rest)
      rw [scanLetter]
      · exact fun h => absurd h hc
      · exact fun c' rest' h => absurd h hc
  | escape e he =>
      have hall : ∀ e ∈ escapes, ∀ rest, scanLetter ('\\' :: e.1 :: rest) = .ok (e.2, rest) := by
        simp [escapes, scanLetter]
      exact hall e he rest
  | code p =>
      have htaken : (p.chars ++ rest).take 4 = p.chars := rfl
      have hdropped : (p.chars ++ rest).drop 4 = rest := rfl
      change scanLetter ('\\' :: 'u' :: (p.chars ++ rest)) = _
      simp only [scanLetter]
      rw [htaken, hdropped, p.natOfHex?_chars, Option.bind_some, p.charOfNat?_number]
      rfl

theorem exists_chars (g : Glyph) :
    ∃ c cs, g.chars = c :: cs ∧ (g.isQuote = false → c ≠ '"') := by
  cases g with
  | plain c hc =>
      refine ⟨c, [], rfl, ?_⟩
      simp [isQuote]
  | escape e he => exact ⟨'\\', [e.1], rfl, fun _ => by decide⟩
  | code p => exact ⟨'\\', 'u' :: p.chars, rfl, fun _ => by decide⟩

end Glyph

/-- A glyph that may stand in a text. -/
structure TextGlyph where
  glyph : Glyph
  unquoted : glyph.isQuote = false

theorem scanText_glyphs (gs : List TextGlyph) (done rest : List Char) {fuel : ℕ}
    (hfuel : gs.length < fuel) :
    scanText fuel done (gs.flatMap (·.glyph.chars) ++ '"' :: rest) =
      .ok (String.ofList (done.reverse ++ gs.map (·.glyph.char)), rest) := by
  induction gs generalizing done fuel with
  | nil =>
      cases fuel with
      | zero => exact absurd hfuel (Nat.not_lt_zero _)
      | succ fuel => simp [scanText]
  | cons g gs ih =>
      cases fuel with
      | zero => exact absurd hfuel (Nat.not_lt_zero _)
      | succ fuel =>
          have hletter := g.glyph.scanLetter_chars (gs.flatMap (·.glyph.chars) ++ '"' :: rest)
          have hmore := ih (g.glyph.char :: done) (Nat.lt_of_succ_lt_succ hfuel)
          rcases g.glyph.exists_chars with ⟨c, cs, hchars, hquote⟩
          have hne : c ≠ '"' := hquote g.unquoted
          rw [hchars, List.cons_append] at hletter
          rw [List.flatMap_cons, List.append_assoc, hchars, List.cons_append]
          rw [scanText, hletter]
          · simp only
            rw [hmore]
            simp
          · exact nofun
          · exact fun rest' hsame => hne (List.cons.inj hsame).1

end Glyphs

section Digits

theorem isDigit_of_mem_repr {n : ℕ} {c : Char} (hc : c ∈ (Nat.repr n).toList) :
    isDigit c = true := by
  have hdigit := CellText.digit_of_mem_repr hc
  simpa [isDigit] using hdigit

theorem natOfDigits_repr (n : ℕ) : natOfDigits (Nat.repr n).toList = n :=
  CellText.foldl_repr n

theorem exists_repr (n : ℕ) :
    ∃ c cs, (Nat.repr n).toList = c :: cs ∧ isDigit c = true := by
  cases hcs : (Nat.repr n).toList with
  | nil =>
      rw [Nat.toList_repr] at hcs
      exact absurd hcs Nat.toDigits_ne_nil
  | cons c cs => exact ⟨c, cs, rfl, isDigit_of_mem_repr (hcs ▸ List.mem_cons_self)⟩

variable {p : Char → Bool} {word rest : List Char}

theorem takeWhile_word (hword : ∀ c ∈ word, p c = true)
    (hrest : ∀ c ∈ rest.head?, p c = false) : (word ++ rest).takeWhile p = word := by
  rw [List.takeWhile_append_of_pos hword]
  cases rest with
  | nil => simp
  | cons c cs =>
      have hc : p c = false := hrest c rfl
      simp [hc]

theorem dropWhile_word (hword : ∀ c ∈ word, p c = true)
    (hrest : ∀ c ∈ rest.head?, p c = false) : (word ++ rest).dropWhile p = rest := by
  rw [List.dropWhile_append_of_pos hword]
  cases rest with
  | nil => simp
  | cons c cs =>
      have hc : p c = false := hrest c rfl
      simp [hc]

end Digits

section Boundaries

/-- A character with which a word cannot go on. -/
def breaks (c : Char) : Bool := Text.isBlank c || isMark c

/-- At the end, or before a blank or a mark. -/
def Broken (rest : List Char) : Prop := ∀ c ∈ rest.head?, breaks c = true

theorem blank_bounds {c : Char} (hc : Text.isBlank c = true) :
    c.toNat ≤ 0x20 ∨ 0x85 ≤ c.toNat := by
  rcases Text.Ranges.holds_iff.mp hc with ⟨r, hr, hlow, hhigh⟩
  have hall : ∀ r ∈ Text.blankRanges, r.2 ≤ 0x20 ∨ 0x85 ≤ r.1 := by decide
  have hbounds := hall r hr
  omega

theorem isDigit_iff {c : Char} : isDigit c = true ↔ 0x30 ≤ c.toNat ∧ c.toNat ≤ 0x39 := by
  simp [isDigit, Char.le_def, UInt32.le_iff_toNat_le]

theorem isAsciiLetter_iff {c : Char} :
    isAsciiLetter c = true ↔
      (0x61 ≤ c.toNat ∧ c.toNat ≤ 0x7a) ∨ (0x41 ≤ c.toNat ∧ c.toNat ≤ 0x5a) := by
  simp only [isAsciiLetter, Char.le_def, UInt32.le_iff_toNat_le, Bool.or_eq_true,
    Bool.and_eq_true, decide_eq_true_eq]
  rfl

theorem isLetter_of_isAsciiLetter {c : Char} (hc : isAsciiLetter c = true) :
    Text.isLetter c = true := by
  rcases isAsciiLetter_iff.mp hc with hsmall | hcapital
  · exact Text.Ranges.holds_iff.mpr
      ⟨(0x61, 0x7a), List.mem_cons_of_mem _ List.mem_cons_self, hsmall⟩
  · exact Text.Ranges.holds_iff.mpr ⟨(0x41, 0x5a), List.mem_cons_self, hcapital⟩

theorem isLetter_cases {c : Char} (hc : Text.isLetter c = true) :
    isAsciiLetter c = true ∨ 0x80 ≤ c.toNat := by
  rcases Text.Ranges.holds_iff.mp hc with ⟨r, hr, hlow, hhigh⟩
  have hall : ∀ r ∈ Text.letterRanges,
      (0x61 ≤ r.1 ∧ r.2 ≤ 0x7a) ∨ (0x41 ≤ r.1 ∧ r.2 ≤ 0x5a) ∨ 0x80 ≤ r.1 := by decide +kernel
  have hbounds := hall r hr
  rw [isAsciiLetter_iff]
  omega

theorem isNumeral_cases {c : Char} (hc : Text.isNumeral c = true) :
    isDigit c = true ∨ 0x80 ≤ c.toNat := by
  rcases Text.Ranges.holds_iff.mp hc with ⟨r, hr, hlow, hhigh⟩
  have hall : ∀ r ∈ Text.numeralRanges, (0x30 ≤ r.1 ∧ r.2 ≤ 0x39) ∨ 0x80 ≤ r.1 := by
    decide +kernel
  have hbounds := hall r hr
  rw [isDigit_iff]
  omega

theorem startsName_of_isAsciiLetter {c : Char} (hc : isAsciiLetter c = true) :
    startsName c = true := by
  rw [startsName, isLetter_of_isAsciiLetter hc, Bool.true_or]

theorem le_of_startsName {c : Char} (hc : startsName c = true) : 0x41 ≤ c.toNat := by
  simp only [startsName, Bool.or_eq_true, decide_eq_true_eq] at hc
  rcases hc with hletter | rfl
  · rcases isLetter_cases hletter with hascii | hhigh
    · have hbounds := isAsciiLetter_iff.mp hascii
      omega
    · omega
  · decide

theorem continuesName_of_startsName {c : Char} (hc : startsName c = true) :
    continuesName c = true := by
  unfold startsName at hc
  unfold continuesName Text.isLetterOrNumeral
  rw [Bool.or_eq_true] at hc
  rcases hc with hletter | hunderscore
  · rw [hletter]
    rfl
  · rw [hunderscore, Bool.or_true, Bool.true_or]

/-- What a word may go on with: a digit, a letter, a point, and what may stand in a name. -/
def continues (c : Char) : Bool := isDigit c || isAsciiLetter c || continuesName c

theorem continues_eq_false_iff {c : Char} :
    continues c = false ↔
      isDigit c = false ∧ isAsciiLetter c = false ∧ continuesName c = false := by
  simp only [continues, Bool.or_eq_false_iff, and_assoc]

theorem continues_of_startsName {c : Char} (hc : startsName c = true) : continues c = true := by
  rw [continues, continuesName_of_startsName hc, Bool.or_true]

theorem continues_of_isBlank {c : Char} (hc : Text.isBlank c = true) : continues c = false := by
  have hbounds := blank_bounds hc
  rw [Bool.eq_false_iff]
  intro hcontinues
  unfold continues continuesName at hcontinues
  simp only [Bool.or_eq_true, decide_eq_true_eq] at hcontinues
  rcases hcontinues with (hdigit | hletter) | (hname | rfl) | rfl
  · have hdigits := isDigit_iff.mp hdigit
    omega
  · have hletters := isAsciiLetter_iff.mp hletter
    omega
  · rw [Text.isBlank_of_isLetterOrNumeral hname] at hc
    cases hc
  · exact absurd hc (by decide)
  · exact absurd hc (by decide)

theorem continues_of_isMark {c : Char} (hc : isMark c = true) : continues c = false := by
  have hall : ∀ c ∈ ['+', '-', '*', '/', '%', '(', ')', '[', ']', '\x7b', '\x7d', ','],
      c.toNat < 0x80 ∧ isDigit c = false ∧ isAsciiLetter c = false ∧ c ≠ '_' ∧ c ≠ '.' :=
    List.all_iff_forall_prop.mp (by decide)
  -- Below 0x80 the tables have only digits and the letters of the alphabet.
  rcases hall c (List.contains_iff_mem.mp hc) with ⟨hlow, hdigit, hletter, hunderscore, hpoint⟩
  have hname : Text.isLetterOrNumeral c = false := by
    rw [Bool.eq_false_iff]
    intro hname
    rw [Text.isLetterOrNumeral, Bool.or_eq_true] at hname
    rcases hname with hname | hname
    · rcases isLetter_cases hname with hascii | hhigh
      · exact absurd hascii (Bool.eq_false_iff.mp hletter)
      · omega
    · rcases isNumeral_cases hname with hascii | hhigh
      · exact absurd hascii (Bool.eq_false_iff.mp hdigit)
      · omega
  unfold continues continuesName
  simp only [hdigit, hletter, hname, hunderscore, hpoint, decide_false, Bool.or_self]

theorem Broken.continues {rest : List Char} (hrest : Broken rest) :
    ∀ c ∈ rest.head?, continues c = false := by
  intro c hc
  rcases Bool.or_eq_true _ _ ▸ hrest c hc with hblank | hmark
  · exact continues_of_isBlank hblank
  · exact continues_of_isMark hmark

/-- No fraction or exponent, and no digit, stands in front. -/
def EndsNumeral (rest : List Char) : Prop :=
  ∀ c ∈ rest.head?, isDigit c = false ∧ c ≠ '.' ∧ c ≠ 'e' ∧ c ≠ 'E'

theorem Broken.endsNumeral {rest : List Char} (hrest : Broken rest) : EndsNumeral rest := by
  intro c hc
  rcases continues_eq_false_iff.mp (hrest.continues c hc) with ⟨hdigit, hletter, hname⟩
  simp only [continuesName, Bool.or_eq_false_iff, decide_eq_false_iff_not] at hname
  have hpoint := hname.2
  refine ⟨hdigit, hpoint, ?_, ?_⟩
  · rintro rfl
    exact absurd hletter (by decide)
  · rintro rfl
    exact absurd hletter (by decide)

end Boundaries

structure Identifier where
  first : Char
  rest : List Char
  starts : startsName first = true
  goesOn : ∀ c ∈ rest, continuesName c = true

def Identifier.chars (id : Identifier) : List Char := id.first :: id.rest

def Identifier.text (id : Identifier) : String := String.ofList id.chars

def Identifier.plain (first : Char) (rest : List Char)
    (h : (first :: rest).all isAsciiLetter = true) : Identifier where
  first := first
  rest := rest
  starts := startsName_of_isAsciiLetter (List.all_eq_true.mp h first List.mem_cons_self)
  goesOn c hc := continuesName_of_startsName
    (startsName_of_isAsciiLetter (List.all_eq_true.mp h c (List.mem_cons_of_mem _ hc)))

inductive Lexeme where
  | mark (c : Char) (hc : isMark c = true)
  | whole (n : ℕ) (long : Bool) (hn : n < 2 ^ 63)
  | letter (g : Glyph)
  | text (gs : List TextGlyph)
  | result (n : UInt64)
  | name (id : Identifier)

namespace Lexeme

def chars : Lexeme → List Char
  | mark c _ => [c]
  | whole n long _ => (Nat.repr n).toList ++ (if long then ['L'] else [])
  | letter g => '\'' :: (g.chars ++ ['\''])
  | text gs => '"' :: (gs.flatMap (·.glyph.chars) ++ ['"'])
  | result n => '$' :: (Nat.repr n.toNat).toList
  | name id => id.chars

def token : Lexeme → Token
  | mark c _ => .mark c
  | whole n long _ => .int n long
  | letter g => .letter g.char
  | text gs => .text (String.ofList (gs.map (·.glyph.char)))
  | result n => .result n.toNat
  | name id => .name id.text

def isMark : Lexeme → Bool
  | mark _ _ => true
  | _ => false

theorem token_ne_mark {l : Lexeme} (hl : l.isMark = false) (c : Char) : l.token ≠ .mark c := by
  intro hc
  cases l with
  | mark c' hc' => cases hl
  | _ => cases hc

/-- The lexeme is cut off a text as its token. -/
def Scans (l : Lexeme) (rest : List Char) : Prop :=
  ∃ c cs, l.chars = c :: cs ∧ Text.isBlank c = false ∧
    scanToken c (cs ++ rest) = .ok (l.token, rest)

theorem scans_mark {c : Char} (hc : Expression.isMark c = true) (rest : List Char) :
    (mark c hc).Scans rest := by
  have hall : ∀ c ∈ ['+', '-', '*', '/', '%', '(', ')', '[', ']', '\x7b', '\x7d', ','],
      Text.isBlank c = false ∧ c ≠ '\'' ∧ c ≠ '"' ∧ c ≠ '$' :=
    List.all_iff_forall_prop.mp (by decide)
  rcases hall c (List.contains_iff_mem.mp hc) with ⟨hblank, hapostrophe, hquote, hdollar⟩
  have hcontinues := continues_of_isMark hc
  have hname : startsName c = false := by
    by_contra hstarts
    rw [continues_of_startsName (Bool.eq_true_of_not_eq_false hstarts)] at hcontinues
    cases hcontinues
  have hdigit := (continues_eq_false_iff.mp hcontinues).1
  refine ⟨c, [], rfl, hblank, ?_⟩
  unfold scanToken
  simp only [hdigit, hapostrophe, hquote, hdollar, hname, hc, if_true, if_false,
    Bool.false_eq_true]
  rfl

theorem numeral_scan (n : ℕ) {rest : List Char} (hrest : EndsNumeral rest) :
    Numeral.scan ((Nat.repr n).toList ++ rest) = (⟨(Nat.repr n).toList, none, none⟩, rest) := by
  have hdigits : ∀ c ∈ (Nat.repr n).toList, isDigit c = true := fun _ hc => isDigit_of_mem_repr hc
  have hstop : ∀ c ∈ rest.head?, isDigit c = false := fun c hc => (hrest c hc).1
  unfold Numeral.scan
  rw [takeWhile_word hdigits hstop, dropWhile_word hdigits hstop]
  cases rest with
  | nil => rfl
  | cons c cs =>
      rcases hrest c rfl with ⟨-, hpoint, hsmall, hcapital⟩
      simp [hpoint, hsmall, hcapital]

theorem numeral_token {n : ℕ} (hn : n < 2 ^ 63) (long : Bool) :
    Numeral.token ⟨(Nat.repr n).toList, none, none⟩ (if long then some 'L' else none) =
      .ok (.int n long) := by
  have hgreatest : n ≤ greatestLong := Nat.le_sub_one_of_lt hn
  have hfloating : Numeral.isFloating ⟨(Nat.repr n).toList, none, none⟩ = false := rfl
  unfold Numeral.token
  cases long with
  | true =>
      simp only [if_true, hfloating, natOfDigits_repr, if_pos hgreatest]
      rfl
  | false => simp only [Bool.false_eq_true, if_false, hfloating, natOfDigits_repr, if_pos hgreatest]

theorem scanNumber_whole {n : ℕ} (hn : n < 2 ^ 63) (long : Bool) {rest : List Char}
    (hrest : Broken rest) :
    scanNumber ((whole n long hn).chars ++ rest) = .ok (.int n long, rest) := by
  have htoken := numeral_token hn long
  unfold scanNumber
  cases long with
  | true =>
      have hsuffix : EndsNumeral ('L' :: rest) := by
        simp [EndsNumeral, isDigit]
      have hscan := numeral_scan n hsuffix
      simp only [chars, if_true, List.append_assoc, List.cons_append, List.nil_append]
      rw [hscan]
      simp only [if_true] at htoken
      simp only [htoken]
      rfl
  | false =>
      have hscan := numeral_scan n hrest.endsNumeral
      simp only [chars, if_false, Bool.false_eq_true, List.append_nil] at htoken ⊢
      rw [hscan]
      cases rest with
      | nil =>
          simp only [htoken]
          rfl
      | cons c cs =>
          have hletter := (continues_eq_false_iff.mp (hrest.continues c rfl)).2.1
          simp only [hletter, htoken, Bool.false_eq_true, if_false]
          rfl

theorem scans_whole {n : ℕ} (hn : n < 2 ^ 63) (long : Bool) {rest : List Char}
    (hrest : Broken rest) : (whole n long hn).Scans rest := by
  have hscan := scanNumber_whole hn long hrest
  rcases exists_repr n with ⟨c, cs, hrepr, hdigit⟩
  have hchars : (whole n long hn).chars = c :: (cs ++ (if long then ['L'] else [])) := by
    change (Nat.repr n).toList ++ _ = _
    rw [hrepr, List.cons_append]
  refine ⟨c, _, hchars, ?_, ?_⟩
  · by_contra hblank
    have hbounds := blank_bounds (Bool.eq_true_of_not_eq_false hblank)
    have hdigits := isDigit_iff.mp hdigit
    omega
  · rw [hchars, List.cons_append] at hscan
    unfold scanToken
    rw [if_pos hdigit]
    exact hscan

theorem scans_letter (g : Glyph) (rest : List Char) : (letter g).Scans rest := by
  refine ⟨'\'', g.chars ++ ['\''], rfl, by decide, ?_⟩
  have hletter := g.scanLetter_chars ('\'' :: rest)
  unfold scanToken
  simp only [List.append_assoc, List.cons_append, List.nil_append, hletter]
  rfl

theorem scans_text (gs : List TextGlyph) (rest : List Char) : (text gs).Scans rest := by
  refine ⟨'"', gs.flatMap (·.glyph.chars) ++ ['"'], rfl, by decide, ?_⟩
  have hlength : gs.length < (gs.flatMap (·.glyph.chars) ++ '"' :: rest).length + 1 := by
    have hglyphs : gs.length ≤ (gs.flatMap (·.glyph.chars)).length := by
      have hsum := List.length_le_sum_of_one_le (gs.map fun g => g.glyph.chars.length) (by
        intro size hsize
        rcases List.mem_map.mp hsize with ⟨g, -, rfl⟩
        rcases g.glyph.exists_chars with ⟨c, cs, hchars, -⟩
        rw [hchars]
        exact Nat.succ_pos _)
      rwa [List.length_map, ← List.length_flatMap] at hsum
    rw [List.length_append]
    omega
  have htext := scanText_glyphs gs [] rest hlength
  unfold scanToken
  simp only [List.append_assoc, List.cons_append, List.nil_append, htext]
  rfl

theorem scans_result (n : UInt64) {rest : List Char} (hrest : Broken rest) :
    (result n).Scans rest := by
  refine ⟨'$', (Nat.repr n.toNat).toList, rfl, by decide, ?_⟩
  have hdigits : ∀ c ∈ (Nat.repr n.toNat).toList, isDigit c = true :=
    fun _ hc => isDigit_of_mem_repr hc
  have hstop : ∀ c ∈ rest.head?, isDigit c = false :=
    fun c hc => (continues_eq_false_iff.mp (hrest.continues c hc)).1
  have hsome : (Nat.repr n.toNat).toList.isEmpty = false := by
    rcases exists_repr n.toNat with ⟨c, cs, hrepr, -⟩
    rw [hrepr]
    rfl
  have hlimit : ¬ Nat.pow 2 64 ≤ n.toNat := Nat.not_le.mpr n.toNat_lt
  unfold scanToken
  simp only [takeWhile_word hdigits hstop, dropWhile_word hdigits hstop, natOfDigits_repr, hsome,
    hlimit]
  rfl

theorem scans_name (id : Identifier) {rest : List Char} (hrest : Broken rest) :
    (name id).Scans rest := by
  have hstop : ∀ c ∈ rest.head?, continuesName c = false :=
    fun c hc => (continues_eq_false_iff.mp (hrest.continues c hc)).2.2
  have hlow := le_of_startsName id.starts
  have hblank : Text.isBlank id.first = false := by
    by_contra hblank
    have hcontinues := continues_of_isBlank (Bool.eq_true_of_not_eq_false hblank)
    rw [continues_of_startsName id.starts] at hcontinues
    cases hcontinues
  have hdigit : isDigit id.first = false := by
    by_contra hdigit
    have hdigits := isDigit_iff.mp (Bool.eq_true_of_not_eq_false hdigit)
    omega
  have hother : ∀ c : Char, c.toNat < 0x41 → id.first ≠ c := by
    intro c hc hsame
    rw [hsame] at hlow
    omega
  refine ⟨id.first, id.rest, rfl, hblank, ?_⟩
  unfold scanToken
  simp only [hdigit, hother '\'' (by decide), hother '"' (by decide), hother '$' (by decide),
    id.starts, takeWhile_word id.goesOn hstop, dropWhile_word id.goesOn hstop,
    Bool.false_eq_true, if_true, if_false]
  rfl

theorem scans (l : Lexeme) {rest : List Char} (hrest : l.isMark = true ∨ Broken rest) :
    l.Scans rest := by
  cases l with
  | mark c hc => exact scans_mark hc rest
  | whole n long hn => exact scans_whole hn long (hrest.resolve_left (by simp [isMark]))
  | letter g => exact scans_letter g rest
  | text gs => exact scans_text gs rest
  | result n => exact scans_result n (hrest.resolve_left (by simp [isMark]))
  | name id => exact scans_name id (hrest.resolve_left (by simp [isMark]))

end Lexeme

section Layout

/-- The lexemes in a text, between blanks.  Behind a lexeme that is no mark there is a
blank or a mark, if anything. -/
inductive Laid : List Lexeme → List Char → Prop
  | nil {gap : List Char} (hgap : ∀ c ∈ gap, Text.isBlank c = true) : Laid [] gap
  | cons {gap : List Char} {l : Lexeme} {ls : List Lexeme} {rest : List Char}
      (hgap : ∀ c ∈ gap, Text.isBlank c = true) (hapart : l.isMark = true ∨ Broken rest)
      (hrest : Laid ls rest) : Laid (l :: ls) (gap ++ (l.chars ++ rest))

theorem scan_gap {gap : List Char} (hgap : ∀ c ∈ gap, Text.isBlank c = true) (cs : List Char)
    (fuel : ℕ) : scan (fuel + gap.length) (gap ++ cs) = scan fuel cs := by
  induction gap with
  | nil => rfl
  | cons c gap ih =>
      have hc : Text.isBlank c = true := hgap c List.mem_cons_self
      have hmore := ih fun c' hc' => hgap c' (List.mem_cons_of_mem _ hc')
      rw [List.length_cons, ← Nat.add_assoc, List.cons_append, scan, if_pos hc, hmore]

theorem Laid.scan_eq {ls : List Lexeme} {cs : List Char} (h : Laid ls cs) {fuel : ℕ}
    (hfuel : cs.length ≤ fuel) : scan fuel cs = .ok (ls.map Lexeme.token) := by
  induction h generalizing fuel with
  | @nil gap hgap =>
      have hscan := scan_gap hgap [] (fuel - gap.length)
      rw [Nat.sub_add_cancel hfuel, List.append_nil] at hscan
      rw [hscan]
      cases fuel - gap.length <;> rfl
  | @cons gap l ls rest hgap hapart hrest ih =>
      rcases l.scans hapart with ⟨c, cs, hchars, hblank, htoken⟩
      rw [List.length_append, List.length_append, hchars, List.length_cons] at hfuel
      have hscan := scan_gap hgap (l.chars ++ rest) (fuel - gap.length)
      rw [Nat.sub_add_cancel (by omega), hchars] at hscan
      obtain ⟨left, hleft⟩ :=
        Nat.exists_eq_add_of_le' (show 1 ≤ fuel - gap.length by omega)
      rw [hchars, hscan, hleft, List.cons_append, scan, if_neg (by rw [hblank]; decide), htoken]
      simp only
      rw [ih (by omega)]
      rfl

theorem Laid.tokens_eq {ls : List Lexeme} {text : String} (h : Laid ls text.toList) :
    tokens text = .ok (ls.map Lexeme.token) :=
  h.scan_eq (by rw [String.length_toList])

theorem Laid.blank {ls : List Lexeme} {cs : List Char} (h : Laid ls cs) {c : Char}
    (hc : Text.isBlank c = true) : Laid ls (c :: cs) := by
  cases h with
  | nil hgap => exact .nil (List.forall_mem_cons.mpr ⟨hc, hgap⟩)
  | @cons gap l ls rest hgap hapart hrest =>
      have hlaid := Laid.cons (List.forall_mem_cons.mpr ⟨hc, hgap⟩) hapart hrest
      exact hlaid

/-- A blank behind every lexeme is enough. -/
theorem laid_spaced (ls : List Lexeme) : Laid ls (ls.flatMap fun l => l.chars ++ [' ']) := by
  have hgap : ∀ c ∈ ([] : List Char), Text.isBlank c = true := nofun
  have hblank : Text.isBlank ' ' = true := by decide
  induction ls with
  | nil => exact .nil hgap
  | cons l ls ih =>
      have hbroken : Broken (' ' :: ls.flatMap fun l => l.chars ++ [' ']) := by
        intro c hc
        cases hc
        decide
      rw [List.flatMap_cons, List.append_assoc]
      exact .cons hgap (.inr hbroken) (ih.blank hblank)

end Layout

end Refit.Expression
