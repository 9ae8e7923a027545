import Daybook.Proofs.Decimal.Digits
import Daybook.Proofs.Decimal.Order
import Daybook.Proofs.Grammar.Reading

set_option relaxedAutoImplicit false
set_option autoImplicit false

/-!
# What tokens are read

Tokens are read from the texts that are written for them, and a token that has been read has the
form that its text needs.

## Main definitions

* `Grammar.IsLineText` — the form of notes and comments.

## Main results

* `Grammar.number_numberText` — a finite double is read from its text.
* `Grammar.marks_number`, `Grammar.marks_natural` — no mark is passed over by a number.
* `Grammar.identifier_eq_done`, `Grammar.delimitedBy_eq_done`, `Grammar.noteBody_eq_done` — what
  other tokens are read from.
-/

namespace Daybook.Grammar

open Grammar.Parser

/-! ## Numbers -/

/-- A digit is neither a minus sign nor a comma nor a point. -/
theorem ne_of_isDigit {c : Char} (h : Unicode.isDigit c = true) : c ≠ '-' ∧ c ≠ ',' ∧ c ≠ '.' := by
  refine ⟨?_, ?_, ?_⟩ <;> rintro rfl <;> exact absurd h (by decide)

/-- Digits of a whole number that is small enough are read as it. -/
theorem natural_append {digits rest : List Char} (hdigits : Decimal.IsDigits digits)
    (hle : Decimal.natOfDigits digits ≤ greatestNatural)
    (hrest : ∀ c, rest.head? = some c → Unicode.isDigit c = false) :
    natural (digits ++ rest) = .done (Decimal.natOfDigits digits) rest :=
  checked_eq_done.mpr ⟨digits, takeWhile1_append hdigits.1 hdigits.2 hrest, if_pos hle⟩

/-- A number that has been read is small enough. -/
theorem natural_le {s rest : List Char} {n : Nat} (h : natural s = .done n rest) :
    n ≤ greatestNatural := by
  obtain ⟨digits, -, h⟩ := checked_eq_done.mp h
  dsimp only at h
  split_ifs at h with hle
  obtain rfl := Option.some.inj h
  exact hle

/-- No number can be read where no digit stands. -/
theorem fails_natural {s : List Char} (h : ∀ c, s.head? = some c → Unicode.isDigit c = false) :
    Fails natural s :=
  (fails_takeWhile1 h).checked _

/-- Digits with an optional minus sign and fraction are read as a decimal. -/
theorem number_positional {negative : Bool} {whole fraction rest : List Char}
    (hwhole : Decimal.IsDigits whole) (hfraction : fraction ≠ [] → Decimal.IsDigits fraction)
    (hrest : ∀ c, rest.head? = some c → Unicode.isDigit c = false ∧ c ≠ ',' ∧ c ≠ '.') :
    number ((if negative then ['-'] else []) ++ Decimal.positional whole fraction ++ rest) =
      .done (if negative then -(Decimal.ofDigits whole fraction).toFloat
        else (Decimal.ofDigits whole fraction).toFloat) rest := by
  obtain ⟨d, ds, rfl⟩ := List.exists_cons_of_ne_nil hwhole.1
  have hd := hwhole.2 d List.mem_cons_self
  set point := if fraction = [] then [] else '.' :: fraction with hpoint
  have hminus : optional (char '-') ((if negative then ['-'] else []) ++
      Decimal.positional (d :: ds) fraction ++ rest) =
      .done (if negative then some '-' else none) (d :: ds ++ (point ++ rest)) := by
    rw [Decimal.positional, ← hpoint, List.append_assoc, List.append_assoc]
    cases negative with
    | false =>
      refine optional_of_fails (fails_char ?_)
      simpa using (ne_of_isDigit hd).1
    | true => exact optional_of_done (char_cons_self '-' _)
  have hbehind : ∀ c, (point ++ rest).head? = some c → Unicode.isDigit c = false ∧ c ≠ ',' := by
    intro c hc
    rw [hpoint] at hc
    split_ifs at hc with hnil
    · exact ⟨(hrest c hc).1, (hrest c hc).2.1⟩
    · obtain rfl : '.' = c := Option.some.inj hc
      decide
  have hfirst : takeWhile1 Unicode.isDigit (d :: ds ++ (point ++ rest)) =
      .done (d :: ds) (point ++ rest) :=
    takeWhile1_append hwhole.1 hwhole.2 fun c hc => (hbehind c hc).1
  have hothers : takeWhile (fun c => Unicode.isDigit c || c == ',') (point ++ rest) =
      .done [] (point ++ rest) :=
    takeWhile_eq_done.mpr ⟨rfl, by simp, fun c hc => by simp [hbehind c hc]⟩
  have hfraction' : optional (do let _ ← char '.'; takeWhile1 Unicode.isDigit) (point ++ rest) =
      .done (if fraction = [] then none else some fraction) rest := by
    rw [hpoint]
    split_ifs with hnil
    · refine optional_of_fails ((fails_char fun hc => ?_).bind _)
      exact (hrest _ hc).2.2 rfl
    · refine optional_of_done ?_
      rw [List.cons_append, bind_of_done (char_cons_self '.' _)]
      exact takeWhile1_append hnil (hfraction hnil).2 fun c hc => (hrest c hc).1
  have hfilter : (d :: ds ++ []).filter (· != ',') = d :: ds := by
    rw [List.append_nil, List.filter_eq_self]
    exact fun c hc => bne_iff_ne.mpr (ne_of_isDigit (hwhole.2 c hc)).2.1
  have hgetD : (if fraction = [] then none else some fraction).getD [] = fraction := by
    split_ifs with hnil
    · exact hnil.symm
    · rfl
  rw [number, bind_of_done hminus, bind_of_done hfirst, bind_of_done hothers,
    bind_of_done hfraction', pure_apply, hfilter, hgetD]
  cases negative <;> rfl

/-- A finite double is read from its text. -/
theorem number_numberText {x : Float} (hx : x.isFinite = true) {rest : List Char}
    (hrest : ∀ c, rest.head? = some c → Unicode.isDigit c = false ∧ c ≠ ',' ∧ c ≠ '.') :
    number ((numberText x).toList ++ rest) = .done x rest := by
  obtain ⟨negative, m, e, hparts⟩ := Binary64.isFinite_iff.mp hx
  obtain ⟨whole, fraction, htext, hwhole, hfraction, hvalue⟩ := numberText_eq hparts
  rw [htext, number_positional hwhole hfraction hrest, hvalue]

/-- No number can be read where neither a digit nor a minus sign stands. -/
theorem fails_number {s : List Char}
    (h : ∀ c, s.head? = some c → Unicode.isDigit c = false ∧ c ≠ '-') : Fails number s := by
  have hminus : optional (char '-') s = .done none s :=
    optional_of_fails (fails_char fun hc => (h _ hc).2 rfl)
  rw [number]
  exact fails_bind_of_done hminus ((fails_takeWhile1 fun c hc => (h c hc).1).bind _)

/-- No number can be read where a minus sign stands in front of something else than a digit. -/
theorem fails_number_minus {s : List Char}
    (h : ∀ c, s.head? = some c → Unicode.isDigit c = false) : Fails number ('-' :: s) := by
  rw [number]
  exact fails_bind_of_done (optional_of_done (char_cons_self '-' s))
    ((fails_takeWhile1 h).bind _)

/-- A number begins with every digit. -/
theorem number_of_isDigit {d : Char} (h : Unicode.isDigit d = true) (s : List Char) :
    ¬ Fails number (d :: s) := by
  have hminus : optional (char '-') (d :: s) = .done none (d :: s) :=
    optional_of_fails (fails_char (by simpa using (ne_of_isDigit h).1))
  have hfirst : takeWhile1 Unicode.isDigit (d :: s) =
      .done (d :: s.takeWhile Unicode.isDigit) (s.dropWhile Unicode.isDigit) := by
    rw [takeWhile1, bind_of_done (satisfy_of_true h s)]
    rfl
  have hothers : takeWhile (fun c => Unicode.isDigit c || c == ',')
      (s.dropWhile Unicode.isDigit) = .done _ _ := rfl
  obtain ⟨fraction, rest, hfraction⟩ := exists_optional_eq_done
    (do let _ ← char '.'; takeWhile1 Unicode.isDigit)
    ((s.dropWhile Unicode.isDigit).dropWhile fun c => Unicode.isDigit c || c == ',')
  rintro ⟨place, hstuck⟩
  rw [number, bind_of_done hminus, bind_of_done hfirst, bind_of_done hothers,
    bind_of_done hfraction] at hstuck
  cases hstuck

/-- Digits have no marks. -/
theorem marks_digits {s rest digits : List Char}
    (h : takeWhile1 Unicode.isDigit s = .done digits rest) : marks s = marks rest := by
  obtain ⟨rfl, -, hall, -⟩ := takeWhile1_eq_done.mp h
  rw [marks_append, marks_eq_zero fun c hc => isMark_of_isDigit (hall c hc), Nat.zero_add]

/-- A whole number has no marks. -/
theorem marks_natural {s rest : List Char} {n : Nat} (h : natural s = .done n rest) :
    marks s = marks rest := by
  obtain ⟨digits, hdigits, -⟩ := checked_eq_done.mp h
  exact marks_digits hdigits

/-- A number has no marks. -/
theorem marks_number {s rest : List Char} {x : Float} (h : number s = .done x rest) :
    marks s = marks rest := by
  obtain ⟨minus, r₁, hminus, h⟩ := bind_eq_done.mp h
  obtain ⟨first, r₂, hfirst, h⟩ := bind_eq_done.mp h
  obtain ⟨others, r₃, hothers, h⟩ := bind_eq_done.mp h
  obtain ⟨fraction, r₄, hfraction, h⟩ := bind_eq_done.mp h
  cases h
  have h₁ : marks s = marks r₁ := by
    obtain ⟨c, hc, -⟩ | ⟨-, -, rfl⟩ := optional_eq_done.mp hminus
    · obtain ⟨rfl, -⟩ := char_eq_done.mp hc
      exact marks_cons rfl _
    · rfl
  have h₂ : marks r₁ = marks r₂ := marks_digits hfirst
  have h₃ : marks r₂ = marks r₃ := by
    obtain ⟨rfl, hall, -⟩ := takeWhile_eq_done.mp hothers
    rw [marks_append, marks_eq_zero fun c hc => ?_, Nat.zero_add]
    obtain hc | hc := Bool.or_eq_true_iff.mp (hall c hc)
    · exact isMark_of_isDigit hc
    · rw [beq_iff_eq.mp hc]
      rfl
  have h₄ : marks r₃ = marks rest := by
    obtain ⟨digits, hdigits, -⟩ | ⟨-, -, rfl⟩ := optional_eq_done.mp hfraction
    · obtain ⟨c, r, hpoint, hdigits⟩ := bind_eq_done.mp hdigits
      obtain ⟨rfl, -⟩ := char_eq_done.mp hpoint
      rw [marks_cons rfl, marks_digits hdigits]
    · rfl
  rw [h₁, h₂, h₃, h₄]

/-! ## Words -/

/-- The code points of ASCII letters. -/
theorem toNat_of_isAlpha {c : Char} (h : c.isAlpha = true) :
    (65 ≤ c.toNat ∧ c.toNat ≤ 90) ∨ 97 ≤ c.toNat ∧ c.toNat ≤ 122 := by
  simp only [Char.isAlpha, Char.isUpper, Char.isLower, Bool.or_eq_true, Bool.and_eq_true,
    decide_eq_true_eq] at h
  exact h

/-- A digit may stand in an identifier. -/
theorem isIdentifierChar_of_isDigit {c : Char} (h : Unicode.isDigit c = true) :
    isIdentifierChar c = true := by
  have hascii : Unicode.isAscii c = true := by
    have := toNat_of_isDigit h
    rw [Unicode.isAscii, decide_eq_true_eq]
    omega
  rw [isIdentifierChar, Unicode.isAlphanumeric, Unicode.isNumeric, if_pos hascii, h]
  simp

/-- An ASCII letter may stand in an identifier. -/
theorem isIdentifierChar_of_isAlpha {c : Char} (h : c.isAlpha = true) :
    isIdentifierChar c = true := by
  have hrange := toNat_of_isAlpha h
  have hascii : Unicode.isAscii c = true := by
    rw [Unicode.isAscii, decide_eq_true_eq]
    omega
  have halphabetic : Unicode.isAlphabetic c = true := by
    rw [Unicode.isAlphabetic, if_pos hascii]
    simp only [Bool.or_eq_true, Bool.and_eq_true, decide_eq_true_eq]
    exact hrange.symm
  rw [isIdentifierChar, Unicode.isAlphanumeric, halphabetic]
  simp

/-- No blank stands in an identifier. -/
theorem isIdentifierChar_of_isSpace {c : Char} (h : isSpace c = true) :
    isIdentifierChar c = false := by
  simp only [isSpace, Bool.or_eq_true, beq_iff_eq] at h
  rcases h with rfl | rfl <;> decide +kernel

/-- A character of an identifier is no blank. -/
theorem isSpace_of_isIdentifierChar {c : Char} (h : isIdentifierChar c = true) :
    isSpace c = false := by
  by_contra hspace
  rw [isIdentifierChar_of_isSpace (Bool.not_eq_false _ ▸ hspace)] at h
  cases h

/-- What cannot stand in an identifier is no digit. -/
theorem isDigit_of_isIdentifierChar {c : Char} (h : isIdentifierChar c = false) :
    Unicode.isDigit c = false := by
  by_contra hdigit
  rw [isIdentifierChar_of_isDigit (Bool.not_eq_false _ ▸ hdigit)] at h
  cases h

/-- A digit is no ASCII letter. -/
theorem isAlpha_of_isDigit {c : Char} (h : Unicode.isDigit c = true) : c.isAlpha = false := by
  have hdigit := toNat_of_isDigit h
  by_contra hletter
  have hletter := toNat_of_isAlpha (Bool.not_eq_false _ ▸ hletter)
  omega

/-- Between the digit zero and the letter z there is no blank. -/
theorem isBlank_of_toNat {c : Char} (hge : 48 ≤ c.toNat) (hle : c.toNat ≤ 122) :
    Unicode.isBlank c = false := by
  have hrange : ∀ n < 123, 48 ≤ n → Unicode.isBlank (Char.ofNat n) = false := by decide +kernel
  rw [← Char.ofNat_toNat c]
  exact hrange c.toNat (by omega) hge

/-- A digit is no blank. -/
theorem isBlank_of_isDigit {c : Char} (h : Unicode.isDigit c = true) :
    Unicode.isBlank c = false := by
  have := toNat_of_isDigit h
  exact isBlank_of_toNat (by omega) (by omega)

/-- An ASCII letter is no blank. -/
theorem isBlank_of_isAlpha {c : Char} (h : c.isAlpha = true) : Unicode.isBlank c = false := by
  have := toNat_of_isAlpha h
  exact isBlank_of_toNat (by omega) (by omega)

/-- What cannot stand in an identifier is no ASCII letter. -/
theorem isAlpha_of_isIdentifierChar {c : Char} (h : isIdentifierChar c = false) :
    c.isAlpha = false := by
  by_contra hletter
  rw [isIdentifierChar_of_isAlpha (Bool.not_eq_false _ ▸ hletter)] at h
  cases h

/-- An identifier is read where no further character of one follows. -/
theorem identifier_append {name : String} {rest : List Char} (hne : name.toList ≠ [])
    (hall : ∀ c ∈ name.toList, isIdentifierChar c = true)
    (hrest : ∀ c, rest.head? = some c → isIdentifierChar c = false) :
    identifier (name.toList ++ rest) = .done name rest := by
  rw [identifier, bind_of_done (takeWhile1_append hne hall hrest), pure_apply, String.ofList_toList]

/-- What an identifier has been read from. -/
theorem identifier_eq_done {s rest : List Char} {name : String}
    (h : identifier s = .done name rest) :
    s = name.toList ++ rest ∧ name.toList ≠ [] ∧ (∀ c ∈ name.toList, isIdentifierChar c = true) ∧
      ∀ c, rest.head? = some c → isIdentifierChar c = false := by
  obtain ⟨cs, r, hcs, h⟩ := bind_eq_done.mp h
  cases h
  rw [String.toList_ofList]
  exact takeWhile1_eq_done.mp hcs

/-! ## Delimited texts -/

/-- A text between two delimiters is one without them. -/
theorem delimitedBy_eq_done {d : Char} {s rest : List Char} {text : String} :
    delimitedBy d s = .done text rest ↔
      s = d :: (text.toList ++ d :: rest) ∧ d ∉ text.toList := by
  constructor
  · intro h
    obtain ⟨c, r, hopen, h⟩ := bind_eq_done.mp h
    obtain ⟨cs, r', hcs, h⟩ := bind_eq_done.mp h
    obtain ⟨c', r'', hclose, h⟩ := bind_eq_done.mp h
    cases h
    obtain ⟨rfl, -⟩ := char_eq_done.mp hopen
    obtain ⟨rfl, hall, -⟩ := takeWhile_eq_done.mp hcs
    obtain ⟨rfl, -⟩ := char_eq_done.mp hclose
    rw [String.toList_ofList]
    exact ⟨rfl, fun hd => bne_iff_ne.mp (hall d hd) rfl⟩
  · rintro ⟨rfl, hnot⟩
    have hrun : takeWhile (· != d) (text.toList ++ d :: rest) = .done text.toList (d :: rest) := by
      refine takeWhile_append (fun c hc => ?_) fun c hc => ?_
      · exact bne_iff_ne.mpr fun h => hnot (h ▸ hc)
      · cases hc
        exact bne_self_eq_false d
    rw [delimitedBy, bind_of_done (char_cons_self d _), bind_of_done hrun,
      bind_of_done (char_cons_self d _), pure_apply, String.ofList_toList]

/-- No text between delimiters can be read where none stands. -/
theorem fails_delimitedBy {d : Char} {s : List Char} (h : s.head? ≠ some d) :
    Fails (delimitedBy d) s :=
  (fails_char h).bind _

/-! ## Notes -/

/-- A text within one line that does not begin with a blank. -/
structure IsLineText (cs : List Char) : Prop where
  noLineBreak : ∀ c ∈ cs, isLineBreak c = false
  noSpace : ∀ c, cs.head? = some c → isSpace c = false

/-- What has been read up to the end of a line. -/
theorem restOfLine_eq_done {s rest : List Char} {text : String} :
    restOfLine s = .done text rest ↔
      s = text.toList ++ rest ∧ (∀ c ∈ text.toList, isLineBreak c = false) ∧
        ∀ c, rest.head? = some c → isLineBreak c = true := by
  constructor
  · intro h
    obtain ⟨cs, r, hcs, h⟩ := bind_eq_done.mp h
    cases h
    obtain ⟨rfl, hall, hrest⟩ := takeWhile_eq_done.mp hcs
    rw [String.toList_ofList]
    exact ⟨rfl, fun c hc => by simpa using hall c hc, fun c hc => by simpa using hrest c hc⟩
  · rintro ⟨rfl, hall, hrest⟩
    have hrun : takeWhile (fun c => !isLineBreak c) (text.toList ++ rest) =
        .done text.toList rest :=
      takeWhile_append (fun c hc => by simp [hall c hc]) fun c hc => by simp [hrest c hc]
    rw [restOfLine, bind_of_done hrun, pure_apply, String.ofList_toList]

/-- A text within a line is read up to the line's end, behind blanks. -/
theorem restOfLine_trimmed {text : String} {s : List Char} (h : IsLineText text.toList) :
    restOfLine (trimmed (text.toList ++ '\n' :: s)) = .done text ('\n' :: s) := by
  have htrim : trimmed (text.toList ++ '\n' :: s) = text.toList ++ '\n' :: s := by
    refine trimmed_of_head fun c hc => ?_
    cases hcs : text.toList with
    | nil =>
      rw [hcs] at hc
      cases hc
      rfl
    | cons d cs =>
      rw [hcs] at hc
      exact h.noSpace c (hcs ▸ hc)
  rw [htrim]
  refine restOfLine_eq_done.mpr ⟨rfl, h.noLineBreak, fun c hc => ?_⟩
  cases hc
  rfl

/-- What has been read behind blanks up to the end of the line is a text within a line. -/
theorem isLineText_restOfLine {s rest : List Char} {text : String}
    (h : restOfLine (trimmed s) = .done text rest) :
    IsLineText text.toList ∧ marks s = marks text.toList + marks rest := by
  obtain ⟨hsplit, hall, -⟩ := restOfLine_eq_done.mp h
  refine ⟨⟨hall, fun c hc => ?_⟩, ?_⟩
  · refine isSpace_head?_trimmed (s := s) ?_
    rw [hsplit, List.head?_append, hc]
    rfl
  · rw [← marks_trimmed, hsplit, marks_append]

/-- A note is read from its text. -/
theorem noteBody_append {note : String} {s : List Char} (h : IsLineText note.toList) :
    noteBody (';' :: ' ' :: (note.toList ++ '\n' :: s)) = .done note ('\n' :: s) := by
  have hsign : lexeme (char ';') (';' :: ' ' :: (note.toList ++ '\n' :: s)) =
      .done ';' (trimmed (' ' :: (note.toList ++ '\n' :: s))) :=
    lexeme_of_done (char_cons_self ';' _)
  rw [noteBody, bind_of_done hsign, trimmed_space, restOfLine_trimmed h]

/-- What a note has been read from. -/
theorem noteBody_eq_done {s rest : List Char} {note : String} (h : noteBody s = .done note rest) :
    IsLineText note.toList ∧ marks s = marks note.toList + marks rest := by
  obtain ⟨c, r, hsign, h⟩ := bind_eq_done.mp h
  obtain ⟨r', hc, rfl⟩ := lexeme_eq_done.mp hsign
  obtain ⟨rfl, -⟩ := char_eq_done.mp hc
  rw [marks_cons rfl]
  exact isLineText_restOfLine h

/-- No note can be read where no semicolon stands. -/
theorem fails_noteBody {s : List Char} (h : s.head? ≠ some ';') : Fails noteBody s :=
  (lexeme_fails (fails_char h)).bind _

/-! ## Account names -/

/-- Both characters of a line end are blanks. -/
theorem isBlank_lineBreak : Unicode.isBlank '\r' = true ∧ Unicode.isBlank '\n' = true := by
  decide +kernel

/-- The end of a line ends an account name. -/
theorem endsAccount_newline (s : List Char) : endsAccount ('\n' :: s) = true := by
  cases s <;> simp [endsAccount, isBlank_lineBreak.2]

end Daybook.Grammar
