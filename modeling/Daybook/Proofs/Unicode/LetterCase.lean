import Mathlib.Data.List.Infix
import Daybook.Unicode.LetterCase

set_option relaxedAutoImplicit false
set_option autoImplicit false

/-!
# Lower-casing a part of a text

Inside a longer text, a text is lower-cased as it is by itself, but for its capital sigmas. Whether
such a letter ends a word may depend on what stands around the text. The text alone decides this
unless all that separates the letter from one of its ends is passed over. So a text that leaves the
matter open is not always found in lower case where it is written, and every other text is.

## Main definitions

* `endsWord` — whether a capital sigma ends a word.
* `lowerCaseBetween` — lower-cases a part of a text.
* `LeavesOpen` — a text does not decide whether one of its capital sigmas ends a word.
* `IsSettled` — a text decides this for all of them.

## Main results

* `lowerCaseBetween_append` — a text is lower-cased part by part.
* `lowerCaseBetween_eq_iff` — in different surroundings, a text is lower-cased alike exactly if
  the same sigmas end words.
* `endsWord_append_of_not_leavesOpen` — what surrounds a text makes no difference to a sigma that
  the text decides about.
* `LeavesOpen.lowerCaseBetween_ne` — a single letter makes a difference to every other sigma.
* `infix_lowerCase_iff` — which texts are found in lower case wherever they are written.
-/

namespace Daybook.Unicode

/-! ## Lower-casing part by part -/

/-- Whether a capital sigma ends a word if it stands between the characters `before`, the nearest
first, and the characters `after`. -/
def endsWord (before after : List Char) : Bool :=
  meetsCased before && !meetsCased after

/-- The lower-case form of a character between others. -/
def lowerCaseAt (before after : List Char) (c : Char) : List Char :=
  if c = 'Σ' then
    if endsWord before after then ['ς'] else ['σ']
  else lowerCaseOf c

/-- Lower-cases a part of a text, which stands between the characters `before`, the nearest first,
and the characters `after`. -/
def lowerCaseBetween (before after : List Char) : List Char → List Char
  | [] => []
  | c :: rest =>
    lowerCaseAt before (rest ++ after) c ++ lowerCaseBetween (c :: before) after rest

/-- The last part of a text. -/
theorem lowerCaseAfter_eq_lowerCaseBetween (before cs : List Char) :
    lowerCaseAfter before cs = lowerCaseBetween before [] cs := by
  induction cs generalizing before with
  | nil => rfl
  | cons c rest ih =>
    rw [lowerCaseAfter, ih, lowerCaseBetween, lowerCaseAt, List.append_nil]
    rfl

/-- The whole of a text. -/
theorem toList_lowerCase (text : String) :
    (lowerCase text).toList = lowerCaseBetween [] [] text.toList := by
  rw [lowerCase, String.toList_ofList, lowerCaseAfter_eq_lowerCaseBetween]

/-- A text is lower-cased part by part, each between what surrounds it. -/
theorem lowerCaseBetween_append (before after xs ys : List Char) :
    lowerCaseBetween before after (xs ++ ys) =
      lowerCaseBetween before (ys ++ after) xs ++
        lowerCaseBetween (xs.reverse ++ before) after ys := by
  induction xs generalizing before with
  | nil => rfl
  | cons c xs ih =>
    rw [List.cons_append, lowerCaseBetween, lowerCaseBetween, ih, List.append_assoc,
      List.append_assoc, List.reverse_cons, List.append_assoc, List.singleton_append]

/-- The lower-case form of a part of a text occurs in that of the text. -/
theorem lowerCaseBetween_infix (front part back : List Char) :
    lowerCaseBetween front.reverse back part <:+: lowerCaseBetween [] [] (front ++ part ++ back) :=
  ⟨lowerCaseBetween [] (part ++ back) front,
    lowerCaseBetween (part.reverse ++ front.reverse) [] back, by
      rw [List.append_assoc front, lowerCaseBetween_append, lowerCaseBetween_append]
      simp⟩

/-- How long the lower-case form of a character is does not depend on what surrounds it. -/
theorem length_lowerCaseAt (before after before' after' : List Char) (c : Char) :
    (lowerCaseAt before after c).length = (lowerCaseAt before' after' c).length := by
  unfold lowerCaseAt
  split_ifs <;> rfl

/-- How long the lower-case form of a text is does not depend on what surrounds it. -/
theorem length_lowerCaseBetween (before after before' after' cs : List Char) :
    (lowerCaseBetween before after cs).length = (lowerCaseBetween before' after' cs).length := by
  induction cs generalizing before before' with
  | nil => rfl
  | cons c rest ih =>
    rw [lowerCaseBetween, lowerCaseBetween, List.length_append, List.length_append,
      length_lowerCaseAt _ _ before' (rest ++ after'), ih (c :: before) (c :: before')]

/-- A character is lower-cased alike in different surroundings unless it is a sigma that ends a word
in one of them only. -/
theorem lowerCaseAt_eq_iff {before after before' after' : List Char} {c : Char} :
    lowerCaseAt before after c = lowerCaseAt before' after' c ↔
      (c = 'Σ' → endsWord before after = endsWord before' after') := by
  unfold lowerCaseAt
  by_cases hc : c = 'Σ'
  · cases endsWord before after <;> cases endsWord before' after' <;> simp [hc]
  · simp [hc]

/-- A text is lower-cased alike in different surroundings exactly if each of its sigmas ends a word
in both or in neither. -/
theorem lowerCaseBetween_eq_iff {before after before' after' cs : List Char} :
    lowerCaseBetween before after cs = lowerCaseBetween before' after' cs ↔
      ∀ front back, cs = front ++ 'Σ' :: back →
        endsWord (front.reverse ++ before) (back ++ after) =
          endsWord (front.reverse ++ before') (back ++ after') := by
  induction cs generalizing before before' with
  | nil => simp [lowerCaseBetween]
  | cons c rest ih =>
    have hlength := length_lowerCaseAt before (rest ++ after) before' (rest ++ after') c
    rw [lowerCaseBetween, lowerCaseBetween, List.append_eq_append_iff_of_size_eq_left hlength,
      lowerCaseAt_eq_iff, ih]
    constructor
    · rintro ⟨hhead, htail⟩ front back hcs
      obtain ⟨rfl, hcons⟩ | ⟨front, rfl, hrest⟩ := List.cons_eq_append_iff.mp hcs
      · obtain ⟨rfl, rfl⟩ := List.cons.inj hcons
        exact hhead rfl
      · simpa using htail front back hrest
    · intro h
      refine ⟨?_, fun front back hrest => ?_⟩
      · rintro rfl
        exact h [] rest rfl
      · simpa using h (c :: front) back (by rw [hrest, List.cons_append])

/-- A capital sigma is written as one of the two small ones. -/
theorem sigma_mem_lowerCaseBetween {before after cs : List Char} (h : 'Σ' ∈ cs) :
    'σ' ∈ lowerCaseBetween before after cs ∨ 'ς' ∈ lowerCaseBetween before after cs := by
  obtain ⟨front, back, rfl⟩ := List.append_of_mem h
  rw [lowerCaseBetween_append, lowerCaseBetween, lowerCaseAt, if_pos rfl]
  split_ifs <;> simp

/-! ## Sigmas that a text decides about -/

/-- A text does not decide whether a capital sigma between its characters `front` and `back` ends a
word. Either it does as the text stands, and would not with a letter behind the text, or it does
not, and would with a letter in front of the text. -/
def LeavesOpen (front back : List Char) : Prop :=
  meetsCased front.reverse = true ∧ back.all isCaseIgnorable = true ∨
    front.all isCaseIgnorable = true ∧ meetsCased back = false

/-- A text decides about all of its capital sigmas. -/
def IsSettled (text : String) : Prop :=
  ∀ front back, text.toList = front ++ 'Σ' :: back → ¬ LeavesOpen front back

/-- A text without capital sigmas has nothing to decide. -/
theorem isSettled_of_notMem {text : String} (h : 'Σ' ∉ text.toList) : IsSettled text :=
  fun front back htext => absurd (by simp [htext]) h

/-- A character is passed over, or else it decides. -/
theorem meetsCased_cons (c : Char) (cs : List Char) :
    meetsCased (c :: cs) = if isCaseIgnorable c then meetsCased cs else isCased c := by
  unfold meetsCased
  rw [List.dropWhile_cons]
  split_ifs <;> rfl

/-- What is behind other characters counts only if all of them are passed over. -/
theorem meetsCased_append (xs ys : List Char) :
    meetsCased (xs ++ ys) =
      if xs.all isCaseIgnorable then meetsCased ys else meetsCased xs := by
  induction xs with
  | nil => rfl
  | cons c xs ih =>
    rw [List.cons_append, meetsCased_cons, meetsCased_cons, ih, List.all_cons]
    cases isCaseIgnorable c <;> rfl

/-- Where all is passed over, there is no cased character. -/
theorem meetsCased_of_all {xs : List Char} (h : xs.all isCaseIgnorable = true) :
    meetsCased xs = false := by
  have happend := meetsCased_append xs []
  rwa [List.append_nil, if_pos h] at happend

/-- What surrounds a text makes no difference to a sigma that the text decides about. -/
theorem endsWord_append_of_not_leavesOpen {front back : List Char} (h : ¬ LeavesOpen front back)
    (before after : List Char) :
    endsWord (front.reverse ++ before) (back ++ after) = endsWord front.reverse back := by
  rw [LeavesOpen, not_or, not_and, not_and, Bool.not_eq_false] at h
  obtain ⟨hending, hbeginning⟩ := h
  rw [endsWord, endsWord]
  by_cases hfront : front.all isCaseIgnorable = true
  · -- a cased character follows inside the text, so that the sigma ends no word
    have hback := hbeginning hfront
    have hall : ¬ back.all isCaseIgnorable = true := fun hall => by
      rw [meetsCased_of_all hall] at hback
      cases hback
    rw [meetsCased_append back, if_neg hall, hback, Bool.not_true, Bool.and_false, Bool.and_false]
  · rw [meetsCased_append, List.all_reverse, if_neg hfront]
    cases hbefore : meetsCased front.reverse with
    | false => rfl
    | true => rw [meetsCased_append, if_neg (hending hbefore)]

/-! ## Texts that are found in lower case -/

/-- A letter that counts as cased and is its own lower-case form. -/
structure IsPlainLetter (d : Char) : Prop where
  cased : meetsCased [d] = true
  noSigma : d ≠ 'Σ'
  lower : lowerCaseOf d = [d]

/-- There are more than two such letters. -/
theorem exists_isPlainLetter_ne (c? c'? : Option Char) :
    ∃ d, IsPlainLetter d ∧ c? ≠ some d ∧ c'? ≠ some d := by
  have hplain : ∀ d ∈ ['a', 'b', 'c'], IsPlainLetter d := by
    simp only [List.forall_mem_cons]
    refine ⟨?_, ?_, ?_, nofun⟩ <;> constructor <;> decide +kernel
  have hother : ∃ d ∈ ['a', 'b', 'c'], c? ≠ some d ∧ c'? ≠ some d := by
    by_contra hnone
    simp only [List.exists_mem_cons_iff] at hnone
    grind
  obtain ⟨d, hd, hne⟩ := hother
  exact ⟨d, hplain d hd, hne⟩

variable {d : Char}

/-- Such a letter stays as it is. -/
theorem IsPlainLetter.lowerCaseAt (hd : IsPlainLetter d) (before after : List Char) :
    lowerCaseAt before after d = [d] := by
  rw [Unicode.lowerCaseAt, if_neg hd.noSigma, hd.lower]

/-- Lower-casing a text with such a letter behind it. -/
theorem IsPlainLetter.lowerCaseBetween_concat (hd : IsPlainLetter d) (cs : List Char) :
    lowerCaseBetween [] [] (cs ++ [d]) = lowerCaseBetween [] [d] cs ++ [d] := by
  rw [lowerCaseBetween_append, lowerCaseBetween, hd.lowerCaseAt]
  rfl

/-- Lower-casing a text with such a letter in front of it. -/
theorem IsPlainLetter.lowerCaseBetween_cons (hd : IsPlainLetter d) (cs : List Char) :
    lowerCaseBetween [] [] (d :: cs) = d :: lowerCaseBetween [d] [] cs := by
  rw [lowerCaseBetween, hd.lowerCaseAt, List.singleton_append]

/-- Such a letter behind a text that leaves a sigma open, or in front of it, makes a difference. -/
theorem LeavesOpen.lowerCaseBetween_ne {front back : List Char} (h : LeavesOpen front back)
    (hd : IsPlainLetter d) :
    lowerCaseBetween [] [] (front ++ 'Σ' :: back) ≠
        lowerCaseBetween [] [d] (front ++ 'Σ' :: back) ∨
      lowerCaseBetween [] [] (front ++ 'Σ' :: back) ≠
        lowerCaseBetween [d] [] (front ++ 'Σ' :: back) := by
  obtain ⟨hfront, hback⟩ | ⟨hfront, hback⟩ := h
  · refine .inl fun heq => ?_
    have hends := lowerCaseBetween_eq_iff.mp heq front back rfl
    rw [endsWord, endsWord, meetsCased_append back [d], if_pos hback, hd.cased] at hends
    simp [hfront, meetsCased_of_all hback] at hends
  · refine .inr fun heq => ?_
    have hends := lowerCaseBetween_eq_iff.mp heq front back rfl
    rw [endsWord, endsWord, meetsCased_append front.reverse [d], List.all_reverse, if_pos hfront,
      hd.cased] at hends
    simp [hback, meetsCased_of_all (List.all_reverse.trans hfront)] at hends

/-- A list that occurs in one of the same length with an element behind it is that list, unless it
ends with the element. -/
theorem eq_of_infix_concat {α : Type} {xs ys : List α} {a : α} (h : xs <:+: ys ++ [a])
    (hlength : xs.length = ys.length) (hlast : xs.getLast? ≠ some a) : xs = ys := by
  obtain hsuffix | hinfix := List.infix_concat_iff.mp h
  · obtain rfl | ⟨zs, rfl, -⟩ := List.suffix_concat_iff.mp hsuffix
    · exact (List.eq_nil_of_length_eq_zero hlength.symm).symm
    · exact absurd List.getLast?_concat hlast
  · exact hinfix.eq_of_length hlength

/-- A list that occurs in one of the same length with an element in front of it is that list, unless
it begins with the element. -/
theorem eq_of_infix_cons {α : Type} {xs ys : List α} {a : α} (h : xs <:+: a :: ys)
    (hlength : xs.length = ys.length) (hhead : xs.head? ≠ some a) : xs = ys := by
  obtain hprefix | hinfix := List.infix_cons_iff.mp h
  · obtain rfl | ⟨zs, rfl, -⟩ := List.prefix_cons_iff.mp hprefix
    · exact (List.eq_nil_of_length_eq_zero hlength.symm).symm
    · exact absurd List.head?_cons hhead
  · exact hinfix.eq_of_length hlength

/-- The lower-case form of a text occurs in that of every text with it inside, exactly if the text
decides about all of its sigmas. -/
theorem infix_lowerCase_iff (part : String) :
    (∀ text : String, part.toList <:+: text.toList →
      (lowerCase part).toList <:+: (lowerCase text).toList) ↔ IsSettled part := by
  simp only [toList_lowerCase]
  constructor
  · intro h front back hpart hopen
    obtain ⟨d, hd, hhead, hlast⟩ := exists_isPlainLetter_ne
      (lowerCaseBetween [] [] part.toList).head? (lowerCaseBetween [] [] part.toList).getLast?
    have hbehind := h (String.ofList (part.toList ++ [d])) (by simp [List.infix_append_left])
    have hbefore := h (String.ofList (d :: part.toList)) (by simp [List.infix_cons])
    rw [String.toList_ofList, hd.lowerCaseBetween_concat] at hbehind
    rw [String.toList_ofList, hd.lowerCaseBetween_cons] at hbefore
    have hdiffers := hopen.lowerCaseBetween_ne hd
    rw [← hpart] at hdiffers
    obtain hdiffers | hdiffers := hdiffers
    · exact hdiffers (eq_of_infix_concat hbehind (length_lowerCaseBetween _ _ _ _ _) hlast)
    · exact hdiffers (eq_of_infix_cons hbefore (length_lowerCaseBetween _ _ _ _ _) hhead)
  · rintro h text ⟨front, back, htext⟩
    have heq : lowerCaseBetween [] [] part.toList =
        lowerCaseBetween front.reverse back part.toList :=
      lowerCaseBetween_eq_iff.mpr fun before after hpart => by
        rw [endsWord_append_of_not_leavesOpen (h before after hpart),
          endsWord_append_of_not_leavesOpen (h before after hpart)]
    rw [heq, ← htext]
    exact lowerCaseBetween_infix front part.toList back

end Daybook.Unicode
