import Daybook.Unicode.Property

set_option relaxedAutoImplicit false
set_option autoImplicit false

/-!
# Flags of a pattern

Flags change what the parts of a pattern mean. They are set by letters between a parenthesis with a
question mark and a closing one, up to the end of the group, or for one group alone.

## Main definitions

* `Flags` — what the letters set.
* `Flags.read?` — the flags that letters set.
* `Flags.skip` — blanks and comments passed over, where the flags say so.
-/

namespace Daybook.Regex

/-- What the letters of flags set. -/
structure Flags where
  /-- `i`: letters stand for themselves in any case. -/
  ignoreCase : Bool
  /-- `m`: the ends of lines count as the ends of the text. -/
  multiLine : Bool
  /-- `s`: a dot stands for a line feed, too. -/
  dotAll : Bool
  /-- `R`: lines may end in a carriage return. -/
  crlf : Bool
  /-- `u`: classes go beyond ASCII. -/
  unicode : Bool
  /-- `x`: blanks and comments are passed over. -/
  verbose : Bool
  /-- `U`: repetitions prefer short matches. -/
  lazy : Bool
  deriving Repr, DecidableEq

namespace Flags

/-- The flags at the beginning of a pattern. -/
def initial : Flags :=
  ⟨false, false, false, false, true, false, false⟩

/-- The flags after one of them is set or cleared. -/
def set (f : Flags) (value : Bool) : Char → Flags
  | 'i' => { f with ignoreCase := value }
  | 'm' => { f with multiLine := value }
  | 's' => { f with dotAll := value }
  | 'R' => { f with crlf := value }
  | 'u' => { f with unicode := value }
  | 'x' => { f with verbose := value }
  | 'U' => { f with lazy := value }
  | _ => f

/-- The letters that can be set, and the sign behind which they are cleared. -/
def letters : List Char :=
  ['i', 'm', 's', 'U', 'u', 'R', 'x', '-']

/-- The flags after the given letters. No letter may occur twice, nor the minus sign, and there has
to be a letter behind it. -/
def read? (f : Flags) (signs : List Char) : Option Flags :=
  let valid := signs.all letters.contains && signs.eraseDups.length == signs.length &&
    signs.getLast? != some '-'
  if valid then
    let (on, off) := signs.span (· != '-')
    some (off.foldl (fun f c => f.set false c) (on.foldl (fun f c => f.set true c) f))
  else none

/-! ## Blanks and comments -/

/-- What remains behind blanks and comments, each of which begins with a number sign and takes the
rest of its line. -/
def skipBlanks (inComment : Bool) : List Char → List Char
  | [] => []
  | c :: rest =>
    if inComment then skipBlanks (c != '\n') rest
    else if Unicode.isBlank c then skipBlanks false rest
    else if c == '#' then skipBlanks true rest
    else c :: rest

/-- What remains behind blanks and comments, if they are to be passed over. -/
def skip (f : Flags) (s : List Char) : List Char :=
  if f.verbose then skipBlanks false s else s

theorem length_skipBlanks_le (inComment : Bool) (s : List Char) :
    (skipBlanks inComment s).length ≤ s.length := by
  induction s generalizing inComment with
  | nil => simp [skipBlanks]
  | cons c rest ih =>
    have inside := ih (c != '\n')
    have behind := ih false
    have opened := ih true
    rw [skipBlanks]
    repeat' split
    all_goals grind

theorem length_skip_le (f : Flags) (s : List Char) : (f.skip s).length ≤ s.length := by
  unfold skip
  split
  · exact length_skipBlanks_le false s
  · exact Nat.le_refl _

end Flags

end Daybook.Regex
