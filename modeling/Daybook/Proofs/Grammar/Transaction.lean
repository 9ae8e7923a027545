import Daybook.Proofs.Grammar.Header
import Daybook.Proofs.Grammar.Posting

set_option relaxedAutoImplicit false
set_option autoImplicit false

/-!
# What transactions are read

A transaction is read from its text, except for postings whose value is left out.

## Main definitions

* `Grammar.Line.reread` — what is read from the text of a line.
* `Transaction.InSource`, `Transaction.Writable`, `Transaction.weight` — as for postings.
* `Transaction.reread` — what is read from the text of a transaction.
* `Transaction.lines` — the lines after the first one.

## Main results

* `Grammar.line_text` — what is read from the text of a line.
* `Grammar.transaction_text` — what is read from the text of a transaction.
* `Grammar.transaction_eq_done` — what has been read as a transaction.
* `Transaction.writable_of_marks_le` — the text of any other transaction has too many marks.
-/

namespace Daybook

open Grammar Grammar.Parser

variable {lexicon : Lexicon}

namespace Grammar

/-! ## Further lines -/

namespace Line

/-- The lines that can be read. -/
def InSource (lexicon : Lexicon) : Line → Prop
  | note text => IsLineText text.toList
  | posting p => p.InSource lexicon

/-- Whether every literal of a line is read again from its text. -/
def Writable : Line → Prop
  | note _ => True
  | posting p => p.Writable

/-- How many marks reading a line passes over at most. -/
def weight : Line → Nat
  | note text => marks text.toList
  | posting p => p.weight

/-- A line as it is written, with the line feed that begins it. -/
def text (indent : List Char) : Line → List Char
  | note text => '\n' :: (indent ++ ';' :: ' ' :: text.toList)
  | posting p => '\n' :: (indent ++ p.line)

/-- What is read from a line. The notes of a posting are on lines of their own. -/
def reread : Line → Line
  | note text => note text
  | posting p => posting { p.reread with notes := [] }

end Line

/-- What is read from the text of a line in front of a further line. -/
theorem line_text [lexicon.Alphabetic] {indent : List Char} (hne : indent ≠ [])
    (hindent : ∀ c ∈ indent, isSpace c = true) {l : Line} (hsource : l.InSource lexicon)
    (hwritable : l.Writable) (s : List Char) :
    indented (line lexicon) (l.text indent ++ '\n' :: s) = .done l.reread ('\n' :: s) := by
  cases l with
  | note text =>
    have htext : (Line.note text).text indent ++ '\n' :: s =
        '\n' :: (indent ++ ';' :: ' ' :: (text.toList ++ '\n' :: s)) := by
      simp [Line.text]
    have hread := lexeme_of_done (noteBody_append (s := s) hsource)
    rw [trimmed_newline] at hread
    rw [htext, indented_line hne hindent fun c hc => by cases hc; rfl]
    exact orElse_of_done (map_of_done _ hread)
  | posting p =>
    have htext : (Line.posting p).text indent ++ '\n' :: s =
        '\n' :: (indent ++ (p.line ++ '\n' :: s)) := by
      simp [Line.text]
    obtain ⟨c, cs, hcs, hspace⟩ := exists_accountText_eq_cons hsource.account
    have hline : p.line ++ '\n' :: s = c :: (cs ++
        ((p.value.elim [] fun e => ' ' :: ' ' :: e.valueText.toList) ++ p.tail) ++ '\n' :: s) := by
      rw [Posting.line, hcs]
      simp
    have hnote : c ≠ ';' := by
      rintro rfl
      exact hsource.noNote (by rw [hcs]; rfl)
    have hread := lexeme_of_done (posting_line hsource hwritable s)
    rw [trimmed_newline] at hread
    rw [htext, indented_line hne hindent fun d hd => by rw [hline] at hd; cases hd; exact hspace]
    refine orElse_of_fails ((lexeme_fails (fails_noteBody ?_)).map _) (map_of_done _ hread)
    rw [hline]
    simpa using hnote

/-- A note can be read wherever a semicolon stands. -/
theorem noteBody_of_semicolon (s : List Char) : ¬ Fails noteBody (';' :: s) := by
  have hsign : lexeme (char ';') (';' :: s) = .done ';' (trimmed s) :=
    lexeme_of_done (char_cons_self ';' s)
  rintro ⟨place, hstuck⟩
  rw [noteBody, bind_of_done hsign] at hstuck
  cases hstuck

/-- Where no note can be read, no semicolon stands. -/
theorem head?_ne_of_fails_note {s : List Char} (h : Fails (Line.note <$> lexeme noteBody) s) :
    s.head? ≠ some ';' := by
  intro hhead
  obtain ⟨back, rfl⟩ := List.head?_eq_some_iff.mp hhead
  rw [fails_iff] at h
  refine noteBody_of_semicolon back (fails_iff.mpr fun text r hbody => ?_)
  exact h _ _ (map_of_done _ (lexeme_of_done hbody))

/-- What has been read as a line. -/
theorem yields_line [lexicon.Alphabetic] :
    Yields (line lexicon) (Line.InSource lexicon) Line.weight := by
  intro s l rest h
  obtain h | ⟨hnote, h⟩ := orElse_eq_done.mp h
  · obtain ⟨text, hread, rfl⟩ := map_eq_done.mp h
    obtain ⟨r, hbody, rfl⟩ := lexeme_eq_done.mp hread
    obtain ⟨hline, hmarks⟩ := noteBody_eq_done hbody
    refine ⟨hline, ?_⟩
    rw [hmarks, marks_trimmed, Line.weight]
  · obtain ⟨p, hread, rfl⟩ := map_eq_done.mp h
    obtain ⟨r, hposting, rfl⟩ := lexeme_eq_done.mp hread
    rw [marks_trimmed]
    exact posting_eq_done (head?_ne_of_fails_note hnote) hposting

end Grammar

/-! ## Transactions -/

namespace Transaction

/-- The first line of a transaction, whose notes are all on lines of their own. -/
def header (t : Transaction) : Header :=
  ⟨t.date, t.status, t.title, none⟩

/-- The lines after the first one. -/
def lines (t : Transaction) : List Line :=
  t.notes.map .note ++ t.postings.flatMap fun p => .posting p :: p.notes.map .note

/-- The transactions that can be read. -/
structure InSource (lexicon : Lexicon) (t : Transaction) : Prop where
  header : t.header.InSource
  notes : ∀ note ∈ t.notes, IsLineText note.toList
  postings : ∀ p ∈ t.postings, p.InSource lexicon
  hasLines : t.notes ≠ [] ∨ t.postings ≠ []

/-- Whether every literal is read again from its text. -/
def Writable (t : Transaction) : Prop :=
  ∀ p ∈ t.postings, p.Writable

instance : DecidablePred Writable := fun t =>
  inferInstanceAs (Decidable (∀ p ∈ t.postings, p.Writable))

/-- How many marks reading a transaction passes over at most. -/
def weight (t : Transaction) : Nat :=
  marks t.title.toList + (t.notes.map fun note => marks note.toList).sum +
    (t.postings.map Posting.weight).sum

/-- What is read from the text of a transaction. -/
def reread (t : Transaction) : Transaction :=
  { t with postings := t.postings.map Posting.reread }

end Transaction

namespace Grammar

/-- The text of a posting and its notes. -/
theorem toList_text_posting (indent : String) (p : Posting) :
    (p.text indent).toList = p.line ++ p.notes.flatMap fun note =>
      (Line.note note).text indent.toList := by
  have hvalue : (p.value.elim "" fun value => "  " ++ value.valueText).toList =
      p.value.elim [] fun e => ' ' :: ' ' :: e.valueText.toList := by
    cases p.value <;> simp
  have hcost : (p.cost.elim "" fun cost => " " ++ cost.text).toList =
      p.cost.elim [] fun c => ' ' :: c.text.toList := by
    cases p.cost <;> simp
  have hbalance : (p.balance.elim "" fun balance => " = " ++ balance.text).toList =
      p.balance.elim [] fun a => ' ' :: '=' :: ' ' :: a.text.toList := by
    cases p.balance <;> simp
  have hnotes : (String.join (p.notes.map (noteLine indent))).toList =
      p.notes.flatMap fun note => (Line.note note).text indent.toList := by
    simp [String.toList_join, List.flatMap_map, noteLine, indentedLine, Line.text]
  rw [Posting.text, String.toList_append, String.toList_append, String.toList_append,
    String.toList_append, hvalue, hcost, hbalance, hnotes, Posting.line, Posting.tail]
  simp

/-- The text of a transaction. -/
theorem toList_text_transaction (indent : String) (t : Transaction) :
    (t.text indent).toList = t.header.line ++ t.lines.flatMap (Line.text indent.toList) := by
  have hstatus : (t.status.elim "" fun status => " " ++ status.symbol).toList =
      t.status.elim [] fun found => ' ' :: found.symbol.toList := by
    cases t.status <;> simp
  have htitle : (if t.title.isEmpty then "" else " " ++ t.title).toList =
      titleText t.title.toList := by
    by_cases hnil : t.title = ""
    · simp [titleText, hnil]
    · simp [titleText, hnil]
  have hnotes : (String.join (t.notes.map (noteLine indent))).toList =
      (t.notes.map Line.note).flatMap (Line.text indent.toList) := by
    simp [String.toList_join, List.flatMap_map, noteLine, indentedLine, Line.text]
  have hpostings :
      (String.join (t.postings.map fun p => indentedLine indent (p.text indent))).toList =
      (t.postings.flatMap fun p => Line.posting p :: p.notes.map .note).flatMap
        (Line.text indent.toList) := by
    rw [String.toList_join, List.flatMap_map, List.flatMap_assoc]
    refine List.flatMap_congr fun p _ => ?_
    simp [indentedLine, toList_text_posting, List.flatMap_map, Line.text]
  rw [Transaction.text, String.toList_append, String.toList_append, String.toList_append,
    String.toList_append, hstatus, htitle, hnotes, hpostings, Transaction.lines,
    List.flatMap_append, Header.line]
  simp [Transaction.header]

/-- The lines of a transaction, in front of which notes may stand, are put together again. -/
theorem leadingNotes_append (notes : List String) (ps : List Posting) :
    leadingNotes (notes.map .note ++ ps.flatMap fun p =>
      .posting { p.reread with notes := [] } :: p.notes.map .note) = notes := by
  induction notes with
  | nil => cases ps <;> rfl
  | cons note notes ih => exact congrArg (note :: ·) ih

/-- Notes in front of lines do not count for their postings. -/
theorem postingsOf_append (notes : List String) (ls : List Line) :
    postingsOf (notes.map .note ++ ls) = postingsOf ls := by
  induction notes with
  | nil => rfl
  | cons note notes ih => exact ih

/-- Every posting takes its notes back. -/
theorem postingsOf_flatMap (ps : List Posting) :
    postingsOf (ps.flatMap fun p => .posting { p.reread with notes := [] } :: p.notes.map .note) =
      ps.map Posting.reread := by
  induction ps with
  | nil => rfl
  | cons p ps ih =>
    have hnotes : p.reread.notes = p.notes := by
      unfold Posting.reread
      split <;> rfl
    rw [List.flatMap_cons, List.cons_append, postingsOf, leadingNotes_append, postingsOf_append, ih,
      List.map_cons, List.nil_append, ← hnotes]

/-- The lines of a transaction make it up, as far as they are read again. -/
theorem transaction_lines (t : Transaction) :
    t.header.transaction (t.lines.map Line.reread) = t.reread := by
  have hlines : t.lines.map Line.reread = t.notes.map .note ++ t.postings.flatMap fun p =>
      .posting { p.reread with notes := [] } :: p.notes.map .note := by
    rw [Transaction.lines, List.map_append, List.map_flatMap, List.map_map]
    simp [Line.reread, Function.comp_def]
  rw [hlines, Header.transaction, leadingNotes_append, postingsOf_append, postingsOf_flatMap]
  rfl

/-- Every line of a transaction that can be read can be read. -/
theorem forall_mem_lines {t : Transaction} (hsource : t.InSource lexicon) (hwritable : t.Writable) :
    ∀ l ∈ t.lines, l.InSource lexicon ∧ l.Writable := by
  intro l hl
  rcases List.mem_append.mp hl with hl | hl
  · obtain ⟨note, hnote, rfl⟩ := List.mem_map.mp hl
    exact ⟨hsource.notes note hnote, trivial⟩
  · obtain ⟨p, hp, hl⟩ := List.mem_flatMap.mp hl
    rcases List.mem_cons.mp hl with rfl | hl
    · exact ⟨hsource.postings p hp, hwritable p hp⟩
    · obtain ⟨note, hnote, rfl⟩ := List.mem_map.mp hl
      exact ⟨(hsource.postings p hp).notes note hnote, trivial⟩

/-- What is read from the text of a transaction in front of an empty line. -/
theorem transaction_text [lexicon.Alphabetic] {indent : String} (hne : indent.toList ≠ [])
    (hindent : ∀ c ∈ indent.toList, isSpace c = true) {t : Transaction}
    (hsource : t.InSource lexicon) (hwritable : t.Writable) (s : List Char) :
    transaction lexicon ((t.text indent).toList ++ '\n' :: '\n' :: s) =
      .done t.reread ('\n' :: '\n' :: s) := by
  have hlines := forall_mem_lines hsource hwritable
  have hbegin (l : Line) : ∃ cs, l.text indent.toList = '\n' :: cs := by
    cases l <;> exact ⟨_, rfl⟩
  have hhas : t.lines ≠ [] := by
    rw [Ne, Transaction.lines, List.append_eq_nil_iff, List.map_eq_nil_iff,
      List.flatMap_eq_nil_iff]
    rintro ⟨hnotes, hpostings⟩
    rcases hsource.hasLines with h | h
    · exact h hnotes
    · obtain ⟨p, ps, hps⟩ := List.exists_cons_of_ne_nil h
      have := hpostings p (by rw [hps]; exact List.mem_cons_self)
      cases this
  have hread := indented_lines hhas (fun l _ => hbegin l)
    (fun l hl r => line_text hne hindent (hlines l hl).1 (hlines l hl).2 r) s
  obtain ⟨back, hback⟩ : ∃ back, t.lines.flatMap (Line.text indent.toList) ++ '\n' :: '\n' :: s =
      '\n' :: back := by
    obtain ⟨l, ls, hls⟩ := List.exists_cons_of_ne_nil hhas
    obtain ⟨cs, hcs⟩ := hbegin l
    rw [hls, List.flatMap_cons, hcs]
    exact ⟨_, rfl⟩
  have hheader := header_line hsource.header rfl back
  rw [← hback] at hheader
  rw [toList_text_transaction, List.append_assoc, transaction, bind_of_done hheader,
    bind_of_done hread, pure_apply, transaction_lines]

/-- Without a digit no transaction can be read. -/
theorem fails_transaction {s : List Char}
    (h : ∀ c, s.head? = some c → Unicode.isDigit c = false) :
    Fails (transaction lexicon) s :=
  ((lexeme_fails (fails_date h)).bind _).bind _

/-- The postings and the leading notes weigh what the lines do that they are made from. -/
theorem weight_postingsOf (ls : List Line) :
    ((leadingNotes ls).map fun note => marks note.toList).sum +
      ((postingsOf ls).map Posting.weight).sum = (ls.map Line.weight).sum := by
  induction ls with
  | nil => rfl
  | cons l ls ih =>
    cases l with
    | note text =>
      simp only [leadingNotes, postingsOf, List.map_cons, List.sum_cons, Line.weight]
      omega
    | posting p =>
      simp only [leadingNotes, postingsOf, List.map_cons, List.sum_cons, List.map_nil, List.sum_nil,
        Line.weight, Posting.weight, Posting.lineWeight, List.map_append, List.sum_append]
      omega

/-- The notes and the postings of lines that can be read can be read. -/
theorem inSource_postingsOf {ls : List Line} (h : ∀ l ∈ ls, l.InSource lexicon) :
    (∀ note ∈ leadingNotes ls, IsLineText note.toList) ∧
      ∀ p ∈ postingsOf ls, p.InSource lexicon := by
  induction ls with
  | nil => exact ⟨by simp [leadingNotes], by simp [postingsOf]⟩
  | cons l ls ih =>
    rw [List.forall_mem_cons] at h
    obtain ⟨hnotes, hpostings⟩ := ih h.2
    cases l with
    | note text => exact ⟨List.forall_mem_cons.mpr ⟨h.1, hnotes⟩, hpostings⟩
    | posting p =>
      have hp : p.InSource lexicon := h.1
      refine ⟨by simp [leadingNotes], List.forall_mem_cons.mpr ⟨?_, hpostings⟩⟩
      exact ⟨hp.account, hp.noNote, hp.value, hp.cost, hp.balance, fun note hnote =>
        (List.mem_append.mp hnote).elim (hp.notes note) (hnotes note)⟩

/-- What has been read as a transaction. -/
theorem transaction_eq_done [lexicon.Alphabetic] {s rest : List Char} {t : Transaction}
    (h : transaction lexicon s = .done t rest) :
    t.InSource lexicon ∧ marks s ≤ t.weight + marks rest := by
  obtain ⟨first, r, hheader, h⟩ := bind_eq_done.mp h
  obtain ⟨ls, r', hlines, hvalue⟩ := bind_eq_done.mp h
  cases hvalue
  obtain ⟨hsource, hmarks⟩ := header_eq_done hheader
  obtain ⟨l, r'', ls', hl, hls, rfl⟩ := many1_eq_done.mp hlines
  have hyields : Yields (indented (line lexicon)) (Line.InSource lexicon) Line.weight :=
    yields_line.indented
  obtain ⟨hl, hlmarks⟩ := hyields _ _ _ hl
  have hall : ∀ l' ∈ l :: ls', l'.InSource lexicon := by
    refine List.forall_mem_cons.mpr ⟨hl, ?_⟩
    have := forall_mem_repeated (fun s a rest h => (hyields s a rest h).1) r''
    rwa [hls] at this
  have hsum := le_sum_repeated (fun s a rest h => (hyields s a rest h).2) r''
  rw [hls] at hsum
  have hweight := weight_postingsOf (l :: ls')
  rw [List.map_cons, List.sum_cons] at hweight
  obtain ⟨hnotes, hpostings⟩ := inSource_postingsOf hall
  constructor
  · refine ⟨⟨hsource.date, hsource.title, hsource.noSpace, hsource.noStatus,
      by simp [Transaction.header]⟩, fun note hnote => ?_, hpostings, ?_⟩
    · rcases List.mem_append.mp hnote with hnote | hnote
      · exact hsource.note note (Option.mem_toList.mp hnote)
      · exact hnotes note hnote
    · cases l with
      | note text => exact .inl (by simp [Header.transaction, leadingNotes])
      | posting p => exact .inr (by simp [Header.transaction, postingsOf])
  · rw [hmarks, Transaction.weight, Header.transaction]
    dsimp only at hsum ⊢
    rw [List.map_append, List.sum_append]
    omega

end Grammar

/-! ## Marks of texts -/

/-- The marks of a line are those of its note or its posting. -/
theorem Grammar.marks_line_text {indent : List Char} (hindent : ∀ c ∈ indent, isSpace c = true)
    (l : Line) : marks (l.text indent) =
      match l with
      | .note text => marks text.toList
      | .posting p => marks p.line := by
  have hnone : marks indent = 0 := marks_blanks hindent
  cases l with
  | note text =>
    rw [Line.text, marks_cons rfl, marks_append, hnone, marks_cons rfl, marks_cons rfl,
      Nat.zero_add]
  | posting p => rw [Line.text, marks_cons rfl, marks_append, hnone, Nat.zero_add]

/-- Where no number of a list is greater than its counterpart and the sum is not less, neither is
any of the numbers. -/
theorem Grammar.le_of_sum_le {α : Type} {xs : List α} {f g : α → Nat} (h : ∀ x ∈ xs, f x ≤ g x)
    (hsum : (xs.map g).sum ≤ (xs.map f).sum) : ∀ x ∈ xs, g x ≤ f x := by
  intro x hx
  by_contra hlt
  exact Nat.not_lt.mpr hsum (List.sum_lt_sum f g h ⟨x, hx, Nat.not_le.mp hlt⟩)

namespace Posting

/-- How many marks the text of a posting and its notes has. -/
def textMarks (p : Posting) : Nat :=
  marks p.line + (p.notes.map fun note => marks note.toList).sum

/-- A posting weighs no more than its text has marks. -/
theorem weight_le (p : Posting) : p.weight ≤ p.textMarks := by
  have := p.lineWeight_le
  rw [textMarks, marks_line, weight, lineWeight]
  omega

end Posting

namespace Transaction

variable {indent : String}

/-- The marks of the text of a transaction. -/
theorem marks_text (hindent : ∀ c ∈ indent.toList, isSpace c = true) (t : Transaction) :
    marks (t.text indent).toList = marks t.header.line +
      (t.notes.map fun note => marks note.toList).sum + (t.postings.map Posting.textMarks).sum := by
  rw [toList_text_transaction, lines, List.flatMap_append, List.flatMap_assoc, marks_append,
    marks_append, List.flatMap_map, marks_flatMap, marks_flatMap]
  simp only [List.flatMap_cons, List.flatMap_map, marks_append, marks_flatMap,
    marks_line_text hindent]
  rw [Nat.add_assoc]
  rfl

/-- The title is a part of the first line. -/
theorem marks_title_le (t : Transaction) : marks t.title.toList ≤ marks t.header.line := by
  have htitle : marks t.title.toList ≤ marks (titleText t.title.toList) := by
    unfold titleText
    split_ifs with hnil
    · rw [hnil]
    · rw [marks_cons rfl]
  rw [header, Header.line, marks_append, marks_append]
  dsimp only
  omega

/-- A transaction weighs no more than its text has marks. -/
theorem weight_le (hindent : ∀ c ∈ indent.toList, isSpace c = true) (t : Transaction) :
    t.weight ≤ marks (t.text indent).toList := by
  have hpostings : (t.postings.map Posting.weight).sum ≤ (t.postings.map Posting.textMarks).sum :=
    List.sum_le_sum fun p _ => p.weight_le
  have htitle := t.marks_title_le
  rw [marks_text hindent, weight]
  omega

/-- A transaction whose text has no more marks than reading it passes over is writable. -/
theorem writable_of_marks_le (hindent : ∀ c ∈ indent.toList, isSpace c = true) {t : Transaction}
    (h : marks (t.text indent).toList ≤ t.weight) : t.Writable := by
  have htitle := t.marks_title_le
  rw [marks_text hindent, weight] at h
  intro p hp
  have hle := le_of_sum_le (fun p _ => p.weight_le)
    (show (t.postings.map Posting.textMarks).sum ≤ (t.postings.map Posting.weight).sum by omega)
    p hp
  rw [Posting.textMarks, Posting.weight] at hle
  exact Posting.writable_of_marks_le (by omega)

end Transaction

end Daybook
