import Mathlib
import Daybook.Lexicon

set_option relaxedAutoImplicit false
set_option autoImplicit false

/-!
# The order of the commodity symbols

A lexicon keeps its symbols by their length, and so of those that a text begins with the longest one
is found, whatever the order is in which they have been added. Where all of them but the dollar sign
are made of ASCII letters, a symbol is found wherever it is written in front of something else than
a letter.

## Main definitions

* `Lexicon.Arranged` — every symbol is there once, behind those that are longer.
* `Lexicon.Alphabetic` — the lexicons whose symbols are made of letters.

## Main results

* `Lexicon.perm_insertByLength`, `Lexicon.pairwise_insertByLength` — a further symbol takes its
  place among the others.
* `Lexicon.arranged_ofSymbols`, `Lexicon.mem_ofSymbols` — the standard symbols and any others.
* `Lexicon.leading?_eq_some_iff` — the symbol that is found is the longest one.
* `Lexicon.leading?_congr` — which one that is depends on the set of symbols alone.
* `Lexicon.alphabetic_ofSymbols` — the standard symbols and some more that are made of letters.
* `Lexicon.leading?_append`, `Lexicon.leading?_eq_none` — which symbol a text begins with.
-/

namespace Daybook.Lexicon

/-! ## One more symbol -/

/-- A further symbol stands among the others, which keep their order. -/
theorem perm_insertByLength (symbol : String) (symbols : List String) :
    (insertByLength symbol symbols).Perm (symbol :: symbols) := by
  induction symbols with
  | nil => exact .refl _
  | cons first rest ih =>
    unfold insertByLength
    split_ifs with hlt
    · exact .refl _
    · exact (ih.cons first).trans (.swap symbol first rest)

/-- The symbols among which a further one stands. -/
theorem mem_insertByLength {symbol s : String} {symbols : List String} :
    s ∈ insertByLength symbol symbols ↔ s = symbol ∨ s ∈ symbols :=
  (perm_insertByLength symbol symbols).mem_iff.trans List.mem_cons

/-- A further symbol does not stand in front of a longer one, nor behind a shorter one. -/
theorem pairwise_insertByLength {symbol : String} {symbols : List String}
    (h : symbols.Pairwise fun s t => t.utf8ByteSize ≤ s.utf8ByteSize) :
    (insertByLength symbol symbols).Pairwise fun s t => t.utf8ByteSize ≤ s.utf8ByteSize := by
  induction symbols with
  | nil => exact List.pairwise_singleton _ _
  | cons first rest ih =>
    obtain ⟨hfirst, hrest⟩ := List.pairwise_cons.mp h
    unfold insertByLength
    split_ifs with hlt
    · refine List.pairwise_cons.mpr ⟨fun s hs => ?_, h⟩
      rcases List.mem_cons.mp hs with rfl | hs
      · exact Nat.le_of_lt hlt
      · exact Nat.le_trans (hfirst s hs) (Nat.le_of_lt hlt)
    · refine List.pairwise_cons.mpr ⟨fun s hs => ?_, ih hrest⟩
      rcases mem_insertByLength.mp hs with rfl | hs
      · exact Nat.not_lt.mp hlt
      · exact hfirst s hs

/-- The symbols with a further one, which is not taken if it is empty. -/
theorem mem_add {lexicon : Lexicon} {symbol s : String} :
    s ∈ (lexicon.add symbol).symbols ↔ s ∈ lexicon.symbols ∨ s = symbol ∧ s ≠ "" := by
  unfold add
  split_ifs with hskip
  · rw [Bool.or_eq_true, String.isEmpty_iff, List.contains_iff_mem] at hskip
    refine ⟨.inl, fun h => h.elim id ?_⟩
    rintro ⟨rfl, hne⟩
    exact hskip.resolve_left hne
  · rw [Bool.or_eq_true, not_or, String.isEmpty_iff] at hskip
    rw [mem_insertByLength, or_comm]
    refine or_congr_right (iff_self_and.mpr ?_)
    rintro rfl
    exact hskip.1

/-- The standard symbols and some more, without the empty one. -/
theorem mem_ofSymbols {symbols : List String} {s : String} :
    s ∈ (ofSymbols symbols).symbols ↔ s ∈ standard.symbols ∨ s ∈ symbols ∧ s ≠ "" := by
  suffices hmore : ∀ lexicon : Lexicon, s ∈ (symbols.foldl add lexicon).symbols ↔
      s ∈ lexicon.symbols ∨ s ∈ symbols ∧ s ≠ "" from hmore standard
  induction symbols with
  | nil => simp
  | cons symbol symbols ih =>
    intro lexicon
    rw [List.foldl_cons, ih, mem_add, List.mem_cons, or_and_right, or_assoc]

/-! ## The arrangement by length -/

/-- No symbol is there twice or empty, and none stands in front of a longer one. -/
structure Arranged (lexicon : Lexicon) : Prop where
  nodup : lexicon.symbols.Nodup
  noEmpty : "" ∉ lexicon.symbols
  longestFirst : lexicon.symbols.Pairwise fun s t => t.utf8ByteSize ≤ s.utf8ByteSize

/-- The standard symbols are arranged. -/
theorem arranged_standard : standard.Arranged :=
  ⟨by decide, by decide, by decide⟩

/-- One more symbol leaves the symbols arranged. -/
theorem Arranged.add {lexicon : Lexicon} (h : lexicon.Arranged) (symbol : String) :
    (lexicon.add symbol).Arranged := by
  unfold Lexicon.add
  split_ifs with hskip
  · exact h
  · rw [Bool.or_eq_true, not_or, String.isEmpty_iff, List.contains_iff_mem] at hskip
    refine ⟨?_, fun hempty => ?_, pairwise_insertByLength h.longestFirst⟩
    · exact (perm_insertByLength symbol _).nodup_iff.mpr (List.nodup_cons.mpr ⟨hskip.2, h.nodup⟩)
    · rcases mem_insertByLength.mp hempty with hsymbol | hmem
      · exact hskip.1 hsymbol.symm
      · exact h.noEmpty hmem

/-- The standard symbols and any others are arranged, in whatever order they have been added. -/
theorem arranged_ofSymbols (symbols : List String) : (ofSymbols symbols).Arranged := by
  suffices hmore : ∀ lexicon : Lexicon, lexicon.Arranged →
      (symbols.foldl Lexicon.add lexicon).Arranged from hmore standard arranged_standard
  induction symbols with
  | nil => exact fun _ h => h
  | cons symbol symbols ih => exact fun lexicon h => ih _ (h.add symbol)

/-! ## Lexicons of letters -/

/-- No symbol stands in front of a longer one, and each of them is a dollar sign or a run of ASCII
letters. -/
class Alphabetic (lexicon : Lexicon) : Prop where
  longestFirst : lexicon.symbols.Pairwise fun s t => t.utf8ByteSize ≤ s.utf8ByteSize
  letters : ∀ symbol ∈ lexicon.symbols,
    symbol = "$" ∨ symbol ≠ "" ∧ ∀ c ∈ symbol.toList, c.isAlpha = true

instance : Alphabetic standard where
  longestFirst := arranged_standard.longestFirst
  letters symbol h := by
    simp only [standard, List.mem_cons, List.not_mem_nil, or_false] at h
    rcases h with rfl | rfl | rfl
    · exact .inr ⟨by decide, List.all_eq_true.mp (by decide)⟩
    · exact .inr ⟨by decide, List.all_eq_true.mp (by decide)⟩
    · exact .inl rfl

/-- One more symbol that is made of letters. -/
theorem Alphabetic.add {lexicon : Lexicon} (h : lexicon.Alphabetic) {symbol : String}
    (hsymbol : ∀ c ∈ symbol.toList, c.isAlpha = true) : (lexicon.add symbol).Alphabetic := by
  unfold Lexicon.add
  split_ifs with hskip
  · exact h
  · rw [Bool.or_eq_true, not_or, String.isEmpty_iff] at hskip
    refine ⟨pairwise_insertByLength h.longestFirst, fun s hs => ?_⟩
    rcases mem_insertByLength.mp hs with rfl | hs
    · exact .inr ⟨hskip.1, hsymbol⟩
    · exact h.letters s hs

/-- The standard symbols and some more that are made of letters. -/
theorem alphabetic_ofSymbols {symbols : List String}
    (h : ∀ symbol ∈ symbols, ∀ c ∈ symbol.toList, c.isAlpha = true) :
    (ofSymbols symbols).Alphabetic := by
  suffices hmore : ∀ lexicon : Lexicon, lexicon.Alphabetic →
      (symbols.foldl Lexicon.add lexicon).Alphabetic from hmore standard inferInstance
  induction symbols with
  | nil => exact fun _ hlexicon => hlexicon
  | cons symbol symbols ih =>
    rw [List.forall_mem_cons] at h
    exact fun lexicon hlexicon => ih h.2 _ (hlexicon.add h.1)

/-! ## The symbol in front of a text -/

variable {lexicon : Lexicon} {found : String} {s : List Char}

/-- A symbol that leads a text belongs to the lexicon. -/
theorem leading?_eq_some (h : lexicon.leading? s = some found) :
    found ∈ lexicon.symbols ∧ ∃ rest, s = found.toList ++ rest := by
  have hprefix := List.find?_some h
  obtain ⟨rest, rfl⟩ := List.isPrefixOf_iff_prefix.mp hprefix
  exact ⟨List.mem_of_find?_eq_some h, rest, rfl⟩

/-- A text that begins with another one, and is not longer, is the same. -/
theorem eq_of_beginning {a b : String} (h : a.toList <+: b.toList)
    (hle : b.utf8ByteSize ≤ a.utf8ByteSize) : a = b := by
  obtain ⟨more, hb⟩ := h
  have hsplit : a ++ String.ofList more = b := by
    rw [← String.toList_inj, String.toList_append, String.toList_ofList, hb]
  rw [← hsplit, String.utf8ByteSize_append] at hle
  have hnil : String.ofList more = "" := String.utf8ByteSize_eq_zero_iff.mp (by omega)
  rw [← hsplit, hnil, String.append_empty]

/-- No symbol that a text begins with is longer than the one that is found. -/
theorem utf8ByteSize_le_of_leading? {first : String}
    (hsorted : lexicon.symbols.Pairwise fun s t => t.utf8ByteSize ≤ s.utf8ByteSize)
    (h : found ∈ lexicon.symbols) (hbegins : found.toList <+: s)
    (hfirst : lexicon.leading? s = some first) : found.utf8ByteSize ≤ first.utf8ByteSize := by
  obtain ⟨-, before, after, hsymbols, hbefore⟩ := List.find?_eq_some_iff_append.mp hfirst
  rw [hsymbols] at h hsorted
  rcases List.mem_append.mp h with hfound | hfound
  · -- What stands before the symbol that leads the text does not lead it.
    have hnot := hbefore found hfound
    rw [Bool.not_eq_true', ← Bool.not_eq_true] at hnot
    exact absurd (List.isPrefixOf_iff_prefix.mpr hbegins) hnot
  · rcases List.mem_cons.mp hfound with rfl | hfound
    · exact Nat.le_refl _
    · exact (List.pairwise_cons.mp (List.pairwise_append.mp hsorted).2.1).1 found hfound

/-- Some symbol is found in front of a text that begins with one. -/
theorem exists_leading? (h : found ∈ lexicon.symbols) (hbegins : found.toList <+: s) :
    ∃ first, lexicon.leading? s = some first :=
  Option.isSome_iff_exists.mp
    (List.find?_isSome.mpr ⟨found, h, List.isPrefixOf_iff_prefix.mpr hbegins⟩)

/-- The symbol that is found is the longest one that the text begins with. There is only one of its
length, because the text has only one beginning of that length. -/
theorem leading?_eq_some_iff (harranged : lexicon.Arranged) :
    lexicon.leading? s = some found ↔ found ∈ lexicon.symbols ∧ found.toList <+: s ∧
      ∀ other ∈ lexicon.symbols, other.toList <+: s → other.utf8ByteSize ≤ found.utf8ByteSize := by
  constructor
  · intro h
    obtain ⟨hmem, rest, hrest⟩ := leading?_eq_some h
    exact ⟨hmem, ⟨rest, hrest.symm⟩, fun other hother hprefix =>
      utf8ByteSize_le_of_leading? harranged.longestFirst hother hprefix h⟩
  · rintro ⟨hmem, hprefix, hlongest⟩
    obtain ⟨first, hfirst⟩ := exists_leading? hmem hprefix
    obtain ⟨hfirstMem, rest, hrest⟩ := leading?_eq_some hfirst
    have hle := utf8ByteSize_le_of_leading? harranged.longestFirst hmem hprefix hfirst
    have hge := hlongest first hfirstMem ⟨rest, hrest.symm⟩
    suffices hsame : first = found by rw [hfirst, hsame]
    rcases List.prefix_or_prefix_of_prefix ⟨rest, hrest.symm⟩ hprefix with hle' | hge'
    · exact eq_of_beginning hle' hle
    · exact (eq_of_beginning hge' hge).symm

/-- Which symbol is found depends on the set of symbols alone. -/
theorem leading?_congr {lexicon lexicon' : Lexicon} (h : lexicon.Arranged) (h' : lexicon'.Arranged)
    (hmem : ∀ symbol, symbol ∈ lexicon.symbols ↔ symbol ∈ lexicon'.symbols) :
    lexicon.leading? = lexicon'.leading? := by
  funext s
  ext found
  rw [leading?_eq_some_iff h, leading?_eq_some_iff h', hmem]
  simp only [hmem]

/-! ## The symbol in front of a text, where symbols are made of letters -/

variable [lexicon.Alphabetic]

/-- The first character of a symbol is a dollar sign or a letter. -/
theorem exists_eq_cons (h : found ∈ lexicon.symbols) :
    ∃ c cs, found.toList = c :: cs ∧ (c = '$' ∨ c.isAlpha = true) := by
  rcases Alphabetic.letters found h with rfl | ⟨hne, hletters⟩
  · exact ⟨'$', [], rfl, .inl rfl⟩
  · obtain ⟨c, cs, hcs⟩ := List.exists_cons_of_ne_nil (mt String.toList_eq_nil_iff.mp hne)
    exact ⟨c, cs, hcs, .inr (hletters c (by rw [hcs]; exact List.mem_cons_self))⟩

/-- No symbol leads a text that begins with another character. -/
theorem leading?_eq_none (h : ∀ c, s.head? = some c → c.isAlpha = false ∧ c ≠ '$') :
    lexicon.leading? s = none := by
  by_contra hsome
  obtain ⟨found, hfound⟩ := Option.ne_none_iff_exists'.mp hsome
  obtain ⟨hmem, rest, rfl⟩ := leading?_eq_some hfound
  obtain ⟨c, cs, hcs, hc⟩ := exists_eq_cons hmem
  obtain ⟨hletter, hdollar⟩ := h c (by rw [hcs]; rfl)
  rcases hc with rfl | hc
  · exact hdollar rfl
  · rw [hletter] at hc
    cases hc

/-- A symbol leads a text that goes on behind it without a letter. Any longer symbol would have to
go on with a letter, too. -/
theorem leading?_append (h : found ∈ lexicon.symbols)
    (hs : ∀ c, s.head? = some c → c.isAlpha = false) :
    lexicon.leading? (found.toList ++ s) = some found := by
  have hprefix : found.toList <+: found.toList ++ s := List.prefix_append _ _
  obtain ⟨first, hfirst⟩ := exists_leading? h hprefix
  have hle := utf8ByteSize_le_of_leading? (@Alphabetic.longestFirst lexicon _) h hprefix hfirst
  obtain ⟨hmem, rest, hrest⟩ := leading?_eq_some hfirst
  suffices hsame : first = found by rw [hfirst, hsame]
  obtain ⟨more, hfound, -⟩ | ⟨more, hmore, hs'⟩ := List.append_eq_append_iff.mp hrest.symm
  · exact eq_of_beginning ⟨more, hfound.symm⟩ hle
  · cases more with
    | nil => exact String.toList_inj.mp (hmore.trans (List.append_nil _))
    | cons c more =>
      have hc := hs c (by rw [hs']; rfl)
      obtain ⟨d, ds, hd, -⟩ := exists_eq_cons h
      rcases Alphabetic.letters first hmem with rfl | ⟨-, hletters⟩
      · rw [hd] at hmore
        cases ds <;> cases hmore
      · rw [hletters c (by rw [hmore]; simp)] at hc
        cases hc

end Daybook.Lexicon
