import Mathlib
import Daybook.Grammar.Parser

set_option relaxedAutoImplicit false
set_option autoImplicit false

/-!
# What parsers read

The outcome of a composite parser in terms of the outcomes of its parts, in both directions: what
follows if the parts read something, and what the parts have read if the whole has.

## Main definitions

* `Parser.Fails` — a parser cannot read a text.

## Main results

* `Parser.bind_eq_done`, `Parser.orElse_eq_done`, `Parser.optional_eq_done` — the parts of what has
  been read.
* `Parser.splitWhere_eq_iff` — where a text is split.
* `Parser.repeated_induction`, `Parser.repeated_flatMap_append`, `Parser.le_sum_repeated` —
  repetition.
-/

namespace Daybook.Grammar.Parser

variable {α β : Type}

/-- A parser cannot read a text. -/
def Fails (p : Parser α) (s : List Char) : Prop :=
  ∃ place, p s = .stuck place

/-- A parser fails where it reads nothing, and only there. -/
theorem fails_iff {p : Parser α} {s : List Char} : Fails p s ↔ ∀ a rest, p s ≠ .done a rest := by
  unfold Fails
  cases h : p s <;> simp

/-! ## Sequence -/

/-- Reading nothing always succeeds. -/
@[simp] theorem pure_apply (a : α) (s : List Char) : (pure a : Parser α) s = .done a s := rfl

/-- Where the first of two parsers reads something, the second goes on. -/
theorem bind_of_done {p : Parser α} {f : α → Parser β} {s rest : List Char} {a : α}
    (h : p s = .done a rest) : (p >>= f) s = f a rest := by
  show Parser.bind p f s = _
  rw [Parser.bind, h]

/-- Where the first of two parsers fails, both fail in the same place. -/
theorem bind_of_stuck {p : Parser α} {f : α → Parser β} {s place : List Char}
    (h : p s = .stuck place) : (p >>= f) s = .stuck place := by
  show Parser.bind p f s = _
  rw [Parser.bind, h]

/-- Where the first of two parsers fails, both fail. -/
theorem Fails.bind {p : Parser α} {s : List Char} (h : Fails p s) (f : α → Parser β) :
    Fails (p >>= f) s := by
  obtain ⟨place, h⟩ := h
  exact ⟨place, bind_of_stuck h⟩

/-- Two parsers read something exactly if the first does and the second goes on. -/
theorem bind_eq_done {p : Parser α} {f : α → Parser β} {s rest : List Char} {b : β} :
    (p >>= f) s = .done b rest ↔ ∃ a r, p s = .done a r ∧ f a r = .done b rest := by
  cases h : p s with
  | done a r =>
    rw [bind_of_done h]
    constructor
    · intro hf
      exact ⟨a, r, rfl, hf⟩
    · rintro ⟨a', r', heq, hf⟩
      cases heq
      exact hf
  | stuck place =>
    obtain ⟨place', h'⟩ := Fails.bind ⟨place, h⟩ f
    rw [h']
    simp

/-- Two parsers fail if the second fails on what the first leaves. -/
theorem fails_bind_of_done {p : Parser α} {f : α → Parser β} {s rest : List Char} {a : α}
    (h : p s = .done a rest) (hf : Fails (f a) rest) : Fails (p >>= f) s := by
  obtain ⟨place, hf⟩ := hf
  exact ⟨place, by rw [bind_of_done h, hf]⟩

/-- The value of what has been read, mapped. -/
theorem map_of_done {p : Parser α} {s rest : List Char} {a : α} (f : α → β)
    (h : p s = .done a rest) : (f <$> p) s = .done (f a) rest :=
  bind_of_done h

/-- A mapped parser fails where the parser fails. -/
theorem Fails.map {p : Parser α} {s : List Char} (h : Fails p s) (f : α → β) : Fails (f <$> p) s :=
  h.bind _

/-- A mapped parser reads what the parser reads. -/
theorem map_eq_done {p : Parser α} {f : α → β} {s rest : List Char} {b : β} :
    (f <$> p) s = .done b rest ↔ ∃ a, p s = .done a rest ∧ f a = b := by
  refine bind_eq_done.trans ⟨?_, ?_⟩
  · rintro ⟨a, r, h, h'⟩
    cases h'
    exact ⟨a, h, rfl⟩
  · rintro ⟨a, h, rfl⟩
    exact ⟨a, rest, h, rfl⟩

/-! ## Choice -/

/-- The first of two alternatives is taken where it reads something. -/
theorem orElse_of_done {p q : Parser α} {s rest : List Char} {a : α} (h : p s = .done a rest) :
    (p <|> q) s = .done a rest := by
  show Parser.orElse p (fun _ => q) s = _
  rw [Parser.orElse, h]

/-- The second of two alternatives is taken where the first one fails and it reads something. -/
theorem orElse_of_fails {p q : Parser α} {s rest : List Char} {a : α} (hp : Fails p s)
    (hq : q s = .done a rest) : (p <|> q) s = .done a rest := by
  obtain ⟨place, hp⟩ := hp
  show Parser.orElse p (fun _ => q) s = _
  rw [Parser.orElse, hp]
  simp only [hq]

/-- Where both alternatives fail, their choice fails in the place that is further on. -/
theorem orElse_of_stuck {p q : Parser α} {s first second : List Char} (hp : p s = .stuck first)
    (hq : q s = .stuck second) : (p <|> q) s = .stuck (further first second) := by
  show Parser.orElse p (fun _ => q) s = _
  rw [Parser.orElse, hp]
  simp only [hq]

/-- Where both alternatives fail, their choice fails. -/
theorem Fails.orElse {p q : Parser α} {s : List Char} (hp : Fails p s) (hq : Fails q s) :
    Fails (p <|> q) s := by
  obtain ⟨place, hp⟩ := hp
  obtain ⟨place', hq⟩ := hq
  exact ⟨_, orElse_of_stuck hp hq⟩

/-- What a choice has read, one of its alternatives has read. -/
theorem orElse_eq_done {p q : Parser α} {s rest : List Char} {a : α} :
    (p <|> q) s = .done a rest ↔ p s = .done a rest ∨ Fails p s ∧ q s = .done a rest := by
  cases h : p s with
  | done a' r =>
    have hp : ¬ Fails p s := fun ⟨place, h'⟩ => by rw [h] at h'; cases h'
    rw [orElse_of_done h]
    simp [hp]
  | stuck place =>
    have hp : Fails p s := ⟨place, h⟩
    cases hq : q s with
    | done a' r => rw [orElse_of_fails hp hq]; simp [hp]
    | stuck place' =>
      obtain ⟨place'', h'⟩ := hp.orElse ⟨place', hq⟩
      rw [h']
      simp

/-- What can be read is read by an optional parser. -/
theorem optional_of_done {p : Parser α} {s rest : List Char} {a : α} (h : p s = .done a rest) :
    optional p s = .done (some a) rest := by
  rw [optional, h]

/-- An optional parser reads nothing where the parser fails. -/
theorem optional_of_fails {p : Parser α} {s : List Char} (h : Fails p s) :
    optional p s = .done none s := by
  obtain ⟨place, h⟩ := h
  rw [optional, h]

/-- An optional parser never fails. -/
theorem exists_optional_eq_done (p : Parser α) (s : List Char) :
    ∃ a? rest, optional p s = .done a? rest := by
  cases h : p s with
  | done a rest => exact ⟨some a, rest, optional_of_done h⟩
  | stuck place => exact ⟨none, s, optional_of_fails ⟨place, h⟩⟩

/-- What an optional parser has read. -/
theorem optional_eq_done {p : Parser α} {s rest : List Char} {a? : Option α} :
    optional p s = .done a? rest ↔
      (∃ a, p s = .done a rest ∧ a? = some a) ∨ Fails p s ∧ a? = none ∧ rest = s := by
  cases h : p s with
  | done a r =>
    have hp : ¬ Fails p s := fun ⟨place, h'⟩ => by rw [h] at h'; cases h'
    rw [optional_of_done h]
    simp only [Outcome.done.injEq, hp, false_and, or_false]
    constructor
    · rintro ⟨rfl, rfl⟩
      exact ⟨a, ⟨rfl, rfl⟩, rfl⟩
    · rintro ⟨a', ⟨rfl, rfl⟩, rfl⟩
      exact ⟨rfl, rfl⟩
  | stuck place =>
    have hp : Fails p s := ⟨place, h⟩
    rw [optional_of_fails hp]
    simp only [Outcome.done.injEq, hp, true_and, reduceCtorEq, false_and, exists_false, false_or]
    exact and_congr eq_comm eq_comm

/-- A parser with a condition reads what meets the condition. -/
theorem checked_eq_done {p : Parser α} {f : α → Option β} {s rest : List Char} {b : β} :
    checked p f s = .done b rest ↔ ∃ a, p s = .done a rest ∧ f a = some b := by
  unfold checked
  cases p s with
  | stuck place => simp
  | done a r =>
    dsimp only
    cases hf : f a with
    | none => simp [hf]
    | some b' =>
      simp only [Outcome.done.injEq]
      constructor
      · rintro ⟨rfl, rfl⟩
        exact ⟨a, ⟨rfl, rfl⟩, hf⟩
      · rintro ⟨a', ⟨rfl, rfl⟩, h⟩
        exact ⟨Option.some.inj (hf.symm.trans h), rfl⟩

/-- A parser with a condition fails where the parser fails. -/
theorem Fails.checked {p : Parser α} {s : List Char} (h : Fails p s) (f : α → Option β) :
    Fails (checked p f) s := by
  obtain ⟨place, h⟩ := h
  exact ⟨place, by rw [Parser.checked, h]⟩

/-! ## Runs of characters -/

/-- A character that passes the test is read. -/
theorem satisfy_of_true {test : Char → Bool} {c : Char} (h : test c = true) (s : List Char) :
    satisfy test (c :: s) = .done c s := by
  rw [satisfy, if_pos h]

/-- What has been read by a test for one character. -/
theorem satisfy_eq_done {test : Char → Bool} {s rest : List Char} {c : Char} :
    satisfy test s = .done c rest ↔ s = c :: rest ∧ test c = true := by
  cases s with
  | nil => simp [satisfy]
  | cons d s =>
    rw [satisfy]
    split_ifs with h
    · simp only [Outcome.done.injEq, List.cons.injEq]
      constructor
      · rintro ⟨rfl, rfl⟩
        exact ⟨⟨rfl, rfl⟩, h⟩
      · rintro ⟨⟨rfl, rfl⟩, -⟩
        exact ⟨rfl, rfl⟩
    · simp only [List.cons.injEq, false_iff]
      rintro ⟨⟨rfl, rfl⟩, h'⟩
      exact h h'

/-- A test for one character fails where no character passes it. -/
theorem fails_satisfy {test : Char → Bool} {s : List Char}
    (h : ∀ c, s.head? = some c → test c = false) : Fails (satisfy test) s := by
  cases s with
  | nil => exact ⟨[], rfl⟩
  | cons c s => exact ⟨c :: s, by rw [satisfy, if_neg (by simp [h c rfl])]⟩

/-- A given character is read where it stands. -/
@[simp] theorem char_cons_self (c : Char) (s : List Char) : char c (c :: s) = .done c s :=
  satisfy_of_true (by simp) s

/-- A given character has been read. -/
theorem char_eq_done {c d : Char} {s rest : List Char} :
    char c s = .done d rest ↔ s = c :: rest ∧ d = c := by
  rw [char, satisfy_eq_done, beq_iff_eq]
  constructor
  · rintro ⟨rfl, rfl⟩
    exact ⟨rfl, rfl⟩
  · rintro ⟨rfl, rfl⟩
    exact ⟨rfl, rfl⟩

/-- A given character cannot be read where another one stands, or none. -/
theorem fails_char {c : Char} {s : List Char} (h : s.head? ≠ some c) : Fails (char c) s :=
  fails_satisfy fun _ hd => beq_eq_false_iff_ne.mpr fun hdc => h (hdc ▸ hd)

/-- A word is read where it stands. -/
@[simp] theorem word_append (w : String) (s : List Char) :
    word w (w.toList ++ s) = .done w s := by
  rw [word, if_pos (List.isPrefixOf_iff_prefix.mpr ⟨s, rfl⟩), ← String.length_toList,
    List.drop_left]

/-- A word has been read. -/
theorem word_eq_done {w w' : String} {s rest : List Char} :
    word w s = .done w' rest ↔ s = w.toList ++ rest ∧ w' = w := by
  constructor
  · intro h
    unfold word at h
    split_ifs at h with hp
    obtain ⟨t, rfl⟩ := List.isPrefixOf_iff_prefix.mp hp
    rw [← String.length_toList, List.drop_left] at h
    cases h
    exact ⟨rfl, rfl⟩
  · rintro ⟨rfl, rfl⟩
    exact word_append w' rest

/-- A word cannot be read where the text does not begin with it. -/
theorem fails_word {w : String} {s : List Char} (h : w.toList.isPrefixOf s = false) :
    Fails (word w) s :=
  ⟨s, by rw [word, h]; rfl⟩

/-- A run of characters is read up to the first that does not pass the test. -/
theorem takeWhile_append {test : Char → Bool} {front back : List Char}
    (hfront : ∀ c ∈ front, test c = true) (hback : ∀ c, back.head? = some c → test c = false) :
    takeWhile test (front ++ back) = .done front back := by
  have hnil : back.takeWhile test = [] ∧ back.dropWhile test = back := by
    cases back with
    | nil => exact ⟨rfl, rfl⟩
    | cons c back => simp [hback c rfl]
  rw [takeWhile, List.takeWhile_append_of_pos hfront, List.dropWhile_append_of_pos hfront, hnil.1,
    hnil.2, List.append_nil]

/-- What has been read by a test for a run of characters. -/
theorem takeWhile_eq_done {test : Char → Bool} {s front back : List Char} :
    takeWhile test s = .done front back ↔
      s = front ++ back ∧ (∀ c ∈ front, test c = true) ∧
        ∀ c, back.head? = some c → test c = false := by
  constructor
  · intro h
    cases h
    refine ⟨List.takeWhile_append_dropWhile.symm, fun c => List.mem_takeWhile_imp, fun c hc => ?_⟩
    have h := List.head?_dropWhile_not test s
    rw [hc] at h
    exact h
  · rintro ⟨rfl, hfront, hback⟩
    exact takeWhile_append hfront hback

/-- A run of characters, at least one, is read up to the first that does not pass the test. -/
theorem takeWhile1_append {test : Char → Bool} {front back : List Char} (hne : front ≠ [])
    (hfront : ∀ c ∈ front, test c = true) (hback : ∀ c, back.head? = some c → test c = false) :
    takeWhile1 test (front ++ back) = .done front back := by
  cases front with
  | nil => exact absurd rfl hne
  | cons c front =>
    rw [List.forall_mem_cons] at hfront
    rw [takeWhile1, List.cons_append, bind_of_done (satisfy_of_true hfront.1 _),
      bind_of_done (takeWhile_append hfront.2 hback), pure_apply]

/-- What has been read by a test for a run of characters, at least one. -/
theorem takeWhile1_eq_done {test : Char → Bool} {s front back : List Char} :
    takeWhile1 test s = .done front back ↔
      s = front ++ back ∧ front ≠ [] ∧ (∀ c ∈ front, test c = true) ∧
        ∀ c, back.head? = some c → test c = false := by
  constructor
  · intro h
    obtain ⟨c, r, hc, h⟩ := bind_eq_done.mp h
    obtain ⟨cs, r', hcs, h⟩ := bind_eq_done.mp h
    cases h
    obtain ⟨rfl, htest⟩ := satisfy_eq_done.mp hc
    obtain ⟨rfl, hall, hback⟩ := takeWhile_eq_done.mp hcs
    exact ⟨rfl, by simp, List.forall_mem_cons.mpr ⟨htest, hall⟩, hback⟩
  · rintro ⟨rfl, hne, hfront, hback⟩
    exact takeWhile1_append hne hfront hback

/-- No run of characters can be read where no character passes the test. -/
theorem fails_takeWhile1 {test : Char → Bool} {s : List Char}
    (h : ∀ c, s.head? = some c → test c = false) : Fails (takeWhile1 test) s :=
  (fails_satisfy h).bind _

/-- A text is split in front of the first place where `stop` holds, or at its end. -/
theorem splitWhere_eq_iff {stop : List Char → Bool} {s front back : List Char} :
    splitWhere stop s = (front, back) ↔
      s = front ++ back ∧ (∀ b, b <:+ front → b ≠ [] → stop (b ++ back) = false) ∧
        (back = [] ∨ stop back = true) := by
  induction s generalizing front with
  | nil =>
    rw [splitWhere, Prod.mk.injEq]
    constructor
    · rintro ⟨rfl, rfl⟩
      exact ⟨rfl, fun b hb hne => absurd (List.suffix_nil.mp hb) hne, .inl rfl⟩
    · rintro ⟨h, -, -⟩
      obtain ⟨rfl, rfl⟩ := List.append_eq_nil_iff.mp h.symm
      exact ⟨rfl, rfl⟩
  | cons c s ih =>
    rw [splitWhere]
    split_ifs with hstop
    · rw [Prod.mk.injEq]
      constructor
      · rintro ⟨rfl, rfl⟩
        exact ⟨rfl, fun b hb hne => absurd (List.suffix_nil.mp hb) hne, .inr hstop⟩
      · rintro ⟨h, hfront, -⟩
        cases front with
        | nil => exact ⟨rfl, h⟩
        | cons d front =>
          rw [h, hfront _ (List.suffix_refl _) (by simp)] at hstop
          cases hstop
    · dsimp only
      cases front with
      | nil =>
        simp only [Prod.mk.injEq, reduceCtorEq, false_and, List.nil_append, false_iff]
        rintro ⟨rfl, -, h | h⟩
        · cases h
        · exact hstop h
      | cons d front =>
        have hsplit : (c :: (splitWhere stop s).1, (splitWhere stop s).2) = (d :: front, back) ↔
            c = d ∧ splitWhere stop s = (front, back) := by
          simp [Prod.ext_iff, and_assoc]
        rw [hsplit, ih, List.cons_append, List.cons.injEq]
        constructor
        · rintro ⟨rfl, rfl, hfront, hback⟩
          refine ⟨⟨rfl, rfl⟩, fun b hb hne => ?_, hback⟩
          obtain rfl | hb := List.suffix_cons_iff.mp hb
          · simpa using hstop
          · exact hfront b hb hne
        · rintro ⟨⟨rfl, rfl⟩, hfront, hback⟩
          exact ⟨rfl, rfl, fun b hb hne => hfront b (hb.trans (List.suffix_cons _ _)) hne, hback⟩

/-- What has been read up to the first place where `stop` holds. -/
theorem takeUntil_eq_done {stop : List Char → Bool} {s front back : List Char} :
    takeUntil stop s = .done front back ↔ splitWhere stop s = (front, back) := by
  unfold takeUntil
  rcases splitWhere stop s with ⟨f, b⟩
  simp

/-! ## Repetition -/

/-- A repetition ends where the parser fails. -/
theorem repeated_of_fails {p : Parser α} {s : List Char} (h : Fails p s) :
    repeated p s = ([], s) := by
  obtain ⟨place, h⟩ := h
  rw [repeated, h]

/-- A repetition goes on where the parser has read something. -/
theorem repeated_of_done {p : Parser α} {s rest : List Char} {a : α} (h : p s = .done a rest)
    (hlt : rest.length < s.length) :
    repeated p s = (a :: (repeated p rest).1, (repeated p rest).2) := by
  rw [repeated, h]
  simp only [hlt, if_true]

/-- Induction along a repetition. It ends at a text from which nothing is taken, and goes on behind
what has been read from any other. -/
@[elab_as_elim]
theorem repeated_induction (p : Parser α) {motive : List Char → Prop}
    (stop : ∀ s, (∀ a rest, p s = .done a rest → ¬ rest.length < s.length) →
      repeated p s = ([], s) → motive s)
    (step : ∀ s a rest, p s = .done a rest → rest.length < s.length → motive rest → motive s)
    (s : List Char) : motive s := by
  induction hn : s.length using Nat.strong_induction_on generalizing s with
  | _ n ih =>
    cases hp : p s with
    | stuck place => exact stop s (by simp [hp]) (repeated_of_fails ⟨place, hp⟩)
    | done a rest =>
      by_cases hlt : rest.length < s.length
      · exact step s a rest hp hlt (ih rest.length (hn ▸ hlt) rest rfl)
      · refine stop s (fun a' rest' h => ?_) ?_
        · rw [hp] at h
          cases h
          exact hlt
        · rw [repeated, hp]
          simp only [if_neg hlt]

/-- Every value of a repetition has been read from some text. -/
theorem forall_mem_repeated {p : Parser α} {P : α → Prop}
    (h : ∀ s a rest, p s = .done a rest → P a) (s : List Char) : ∀ a ∈ (repeated p s).1, P a := by
  induction s using repeated_induction p with
  | stop s _ hs =>
    rw [hs]
    exact List.forall_mem_nil _
  | step s a rest hp hlt ih =>
    rw [repeated_of_done hp hlt]
    exact List.forall_mem_cons.mpr ⟨h s a rest hp, ih⟩

/-- What a repetition takes from a text is bounded by what its single readings take. -/
theorem le_sum_repeated {p : Parser α} {size : List Char → Nat} {weight : α → Nat}
    (h : ∀ s a rest, p s = .done a rest → size s ≤ weight a + size rest) (s : List Char) :
    size s ≤ ((repeated p s).1.map weight).sum + size (repeated p s).2 := by
  induction s using repeated_induction p with
  | stop s _ hs => simp [hs]
  | step s a rest hp hlt ih =>
    have hsize := h s a rest hp
    rw [repeated_of_done hp hlt]
    simp only [List.map_cons, List.sum_cons]
    omega

/-- Texts that are read one after another, as long as what follows begins like one of them. -/
theorem repeated_flatMap_append {p : Parser β} {text : α → List Char} {value : α → β}
    {Start : List Char → Prop} {items : List α} {s : List Char} (hs : Start s)
    (hread : ∀ x ∈ items, ∀ r, Start r → p (text x ++ r) = .done (value x) r)
    (hstart : ∀ x ∈ items, ∀ r, Start (text x ++ r)) (hne : ∀ x ∈ items, text x ≠ []) :
    repeated p (items.flatMap text ++ s) =
      (items.map value ++ (repeated p s).1, (repeated p s).2) := by
  induction items with
  | nil => rfl
  | cons x items ih =>
    rw [List.forall_mem_cons] at hread hstart hne
    have hrest : Start (items.flatMap text ++ s) := by
      cases items with
      | nil => exact hs
      | cons y items =>
        rw [List.flatMap_cons, List.append_assoc]
        exact hstart.2 y List.mem_cons_self _
    have hlt : (items.flatMap text ++ s).length < (text x ++ (items.flatMap text ++ s)).length := by
      have := List.length_pos_iff.mpr hne.1
      simp only [List.length_append]
      omega
    rw [List.flatMap_cons, List.append_assoc, repeated_of_done (hread.1 _ hrest) hlt,
      ih hread.2 hstart.2 hne.2]
    rfl

/-- What several readings one after another have read. -/
theorem many_eq_done {p : Parser α} {s rest : List Char} {items : List α} :
    many p s = .done items rest ↔ repeated p s = (items, rest) := by
  unfold many
  rcases repeated p s with ⟨f, b⟩
  simp

/-- What several readings one after another, at least one, have read. -/
theorem many1_eq_done {p : Parser α} {s rest : List Char} {items : List α} :
    many1 p s = .done items rest ↔
      ∃ item r items', p s = .done item r ∧ repeated p r = (items', rest) ∧
        items = item :: items' := by
  unfold many1
  constructor
  · intro h
    obtain ⟨item, r, hitem, h⟩ := bind_eq_done.mp h
    obtain ⟨items', r', hitems, h⟩ := bind_eq_done.mp h
    cases h
    exact ⟨item, r, items', hitem, many_eq_done.mp hitems, rfl⟩
  · rintro ⟨item, r, items', hitem, hitems, rfl⟩
    rw [bind_of_done hitem, bind_of_done (many_eq_done.mpr hitems), pure_apply]

/-- A repetition that has read something is one of at least one reading. -/
theorem many1_of_repeated {p : Parser α} {s rest : List Char} {items : List α}
    (h : repeated p s = (items, rest)) (hne : items ≠ []) : many1 p s = .done items rest := by
  rw [repeated] at h
  cases hp : p s with
  | stuck place =>
    rw [hp] at h
    exact absurd (Prod.mk.inj h).1.symm hne
  | done a r =>
    rw [hp] at h
    dsimp only at h
    split_ifs at h with hlt
    · obtain ⟨hitems, hrest⟩ := Prod.mk.inj h
      refine many1_eq_done.mpr ⟨a, r, (repeated p r).1, hp, ?_, hitems.symm⟩
      rw [← hrest]
    · exact absurd (Prod.mk.inj h).1.symm hne

end Daybook.Grammar.Parser
