set_option relaxedAutoImplicit false
set_option autoImplicit false

/-!
# Parsers

A parser reads a value from the beginning of a text, or says how far into the text it got.

## Main definitions

* `Outcome` — a value and the rest of the text, or the place of the failure.
* `Parser` — a function from a text to an outcome; parsers form a monad.
* `Parser.orElse` — ordered choice.
* `Parser.optional`, `Parser.many`, `Parser.many1` — repetition.
* `Parser.checked` — a condition on the value read.

## Design

A place in the text is what remains of it from there on. Choice keeps the failure that got
furthest, so that an error points at the text that could not be read rather than at the beginning
of what it belongs to. A failure after a repeated part has been read ends the repetition and is
forgotten.
-/

namespace Daybook.Grammar

/-- What becomes of a text: a value is read and a rest remains, or reading fails at a place, given
by the rest of the text from there on. -/
inductive Outcome (α : Type) where
  | done (value : α) (rest : List Char)
  | stuck (place : List Char)
  deriving Repr

/-- A reader of values of type `α`. -/
def Parser (α : Type) : Type :=
  List Char → Outcome α

namespace Parser

variable {α β : Type}

/-! ## Sequence -/

/-- Reads nothing. -/
protected def pure (a : α) : Parser α :=
  fun s => .done a s

/-- Reads with `p`, and then the rest with what `f` makes of its value. -/
protected def bind (p : Parser α) (f : α → Parser β) : Parser β := fun s =>
  match p s with
  | .done a rest => f a rest
  | .stuck place => .stuck place

instance : Monad Parser where
  pure := Parser.pure
  bind := Parser.bind

/-! ## Single characters and runs of them -/

/-- Reads one character that passes a test. -/
def satisfy (test : Char → Bool) : Parser Char
  | [] => .stuck []
  | c :: rest => if test c then .done c rest else .stuck (c :: rest)

/-- Reads one given character. -/
def char (c : Char) : Parser Char :=
  satisfy (· == c)

/-- Reads a given word. -/
def word (w : String) : Parser String := fun s =>
  if w.toList.isPrefixOf s then .done w (s.drop w.length) else .stuck s

/-- Splits a text in front of the first place where `stop` holds for what remains. -/
def splitWhere (stop : List Char → Bool) : List Char → List Char × List Char
  | [] => ([], [])
  | c :: rest =>
    if stop (c :: rest) then ([], c :: rest)
    else
      let (front, back) := splitWhere stop rest
      (c :: front, back)

/-- Reads up to the first place where `stop` holds for what remains. -/
def takeUntil (stop : List Char → Bool) : Parser (List Char) := fun s =>
  let (front, back) := splitWhere stop s
  .done front back

/-- Reads the longest run of characters that pass a test. -/
def takeWhile (test : Char → Bool) : Parser (List Char) := fun s =>
  .done (s.takeWhile test) (s.dropWhile test)

/-- Reads the longest run of characters that pass a test, which must not be empty. -/
def takeWhile1 (test : Char → Bool) : Parser (List Char) := do
  let c ← satisfy test
  let cs ← takeWhile test
  return c :: cs

/-- Reads the end of the text. -/
def endOfText : Parser Unit
  | [] => .done () []
  | s => .stuck s

/-! ## Choice -/

/-- The place that is further on in the text, the first if neither is. -/
def further (a b : List Char) : List Char :=
  if b.length < a.length then b else a

/-- Reads with `p`, or if that fails with `q`. Where both fail, the failure is the one that got
further. -/
protected def orElse (p : Parser α) (q : Unit → Parser α) : Parser α := fun s =>
  match p s with
  | .done a rest => .done a rest
  | .stuck first =>
    match q () s with
    | .done a rest => .done a rest
    | .stuck second => .stuck (further first second)

instance : OrElse (Parser α) :=
  ⟨Parser.orElse⟩

/-- Reads with `p`, or nothing if that fails. -/
def optional (p : Parser α) : Parser (Option α) := fun s =>
  match p s with
  | .done a rest => .done (some a) rest
  | .stuck _ => .done none s

/-- Reads nothing, where `p` would fail. -/
def notFollowedBy (p : Parser α) : Parser Unit := fun s =>
  match p s with
  | .done _ _ => .stuck s
  | .stuck _ => .done () s

/-- Reads with `p` and turns the value into another; fails in front of it if that is refused. -/
def checked (p : Parser α) (f : α → Option β) : Parser β := fun s =>
  match p s with
  | .stuck place => .stuck place
  | .done a rest =>
    match f a with
    | some b => .done b rest
    | none => .stuck s

/-! ## Repetition -/

/-- What `p` reads from a text as often as it succeeds and takes something, and the rest. -/
def repeated (p : Parser α) (s : List Char) : List α × List Char :=
  match p s with
  | .stuck _ => ([], s)
  | .done a rest =>
    if rest.length < s.length then
      let (items, back) := repeated p rest
      (a :: items, back)
    else ([], s)
termination_by s.length

/-- Reads with `p` as often as it succeeds and takes something. -/
def many (p : Parser α) : Parser (List α) := fun s =>
  let (items, back) := repeated p s
  .done items back

/-- Reads with `p` once, and then as often as it succeeds. -/
def many1 (p : Parser α) : Parser (List α) := do
  let item ← p
  let items ← many p
  return item :: items

end Parser

end Daybook.Grammar
