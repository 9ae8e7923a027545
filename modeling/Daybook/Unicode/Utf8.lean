import Daybook.Unicode.CodeSet

set_option relaxedAutoImplicit false
set_option autoImplicit false

/-!
# Encoded characters

The bytes of characters in UTF-8, and of whole intervals of characters.

## Main definitions

* `Utf8.encode` — the bytes of a code point.
* `Utf8.ByteRange` — the bytes from one to another.
* `Utf8.sequences` — the encodings of an interval, as sequences of ranges of bytes.

## Design

An interval is cut until its encodings are all the combinations of one range for each byte: at the
surrogates, where the number of bytes changes, and where the bytes behind the first do not take all
their values.
-/

namespace Daybook.Unicode.Utf8

/-- The bytes of a code point. -/
def encode (code : Nat) : List Nat :=
  if code < 0x80 then [code]
  else if code < 0x800 then [0xC0 + code / 64, 0x80 + code % 64]
  else if code < 0x10000 then [0xE0 + code / 4096, 0x80 + code / 64 % 64, 0x80 + code % 64]
  else
    [0xF0 + code / 262144, 0x80 + code / 4096 % 64, 0x80 + code / 64 % 64, 0x80 + code % 64]

/-- The bytes from `first` to `last`. -/
structure ByteRange where
  first : Nat
  last : Nat
  deriving Repr, DecidableEq

/-- The intervals of characters that an interval consists of, the surrogates left out. -/
def scalars (i : Interval) : List Interval :=
  if i.first < 0xE000 && 0xD7FF < i.last then [⟨i.first, 0xD7FF⟩, ⟨0xE000, i.last⟩] else [i]

/-- Where an interval is to be cut so that its code points share all but the last `block` values: in
front of the first full block, or else behind the last one. -/
def blockCut? (block : Nat) (i : Interval) : Option Nat :=
  if i.first / block = i.last / block then none
  else if i.first % block ≠ 0 then some ((i.first / block + 1) * block)
  else if i.last % block ≠ block - 1 then some (i.last / block * block)
  else none

/-- Where an interval is to be cut next. The second part begins there. -/
def cut? (i : Interval) : Option Nat :=
  let lengthCut := [0x80, 0x800, 0x10000].find? fun n => i.first < n && n ≤ i.last
  lengthCut.or
    (if i.last < 0x80 then none
    else (blockCut? 64 i).or ((blockCut? 4096 i).or (blockCut? 262144 i)))

/-- The encodings of an interval without surrogates, in ascending order. -/
def encodings (i : Interval) : List (List ByteRange) :=
  match cut? i with
  | none => [(encode i.first).zipWith ByteRange.mk (encode i.last)]
  | some n =>
    if i.first < n ∧ n ≤ i.last then
      encodings ⟨i.first, n - 1⟩ ++ encodings ⟨n, i.last⟩
    else []
termination_by i.last - i.first
decreasing_by
  all_goals omega

/-- The encodings of the characters of an interval, in ascending order. -/
def sequences (i : Interval) : List (List ByteRange) :=
  (scalars i).flatMap encodings

end Daybook.Unicode.Utf8
