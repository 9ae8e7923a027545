set_option relaxedAutoImplicit false
set_option autoImplicit false

/-!
# The commodity symbols that are read

Amounts are written with symbols from a list that the reader is given. Where one symbol is the
beginning of another, the longer one is meant, and so the list has the longer symbols first.

## Main definitions

* `Lexicon` — the symbols in the order in which they are tried.
* `Lexicon.standard` — the symbols that are always known.
* `Lexicon.add` — one more symbol.
* `Lexicon.leading?` — the symbol that a text begins with.
-/

namespace Daybook

/-- The commodity symbols that are read in amounts, in the order in which they are tried. -/
structure Lexicon where
  symbols : List String
  deriving Repr, DecidableEq

namespace Lexicon

/-- The symbols that are always known. -/
def standard : Lexicon :=
  ⟨["USD", "EUR", "$"]⟩

/-- Puts a symbol in front of the first one that is shorter, counted in bytes. -/
def insertByLength (symbol : String) : List String → List String
  | [] => [symbol]
  | s :: rest =>
    if s.utf8ByteSize < symbol.utf8ByteSize then symbol :: s :: rest
    else s :: insertByLength symbol rest

/-- One more symbol. The empty one is not taken, nor one that is there already. -/
def add (l : Lexicon) (symbol : String) : Lexicon :=
  if symbol.isEmpty || l.symbols.contains symbol then l
  else ⟨insertByLength symbol l.symbols⟩

/-- The standard symbols and some more. -/
def ofSymbols (symbols : List String) : Lexicon :=
  symbols.foldl add standard

/-- The first symbol that a text begins with. -/
def leading? (l : Lexicon) (cs : List Char) : Option String :=
  l.symbols.find? fun symbol => symbol.toList.isPrefixOf cs

end Lexicon

end Daybook
