import Daybook.Proofs.Grammar.Progress
import Daybook.Proofs.Grammar.Token

set_option relaxedAutoImplicit false
set_option autoImplicit false

/-!
# Carriage returns

A line ends at a line feed, which may have a carriage return in front of it. A text in which every
line feed has one is longer, but it is read in the same way: a parser that reads something from the
one text reads the same from the other, stops at the same character, and fails at the same one.

## Main definitions

* `Grammar.crlf`, `Text.crlf` — a text with a carriage return in front of every line feed.
* `Parser.Transports` — a text is read in the same way with the carriage returns.

## Main results

* `Grammar.length_crlf_lt_iff` — which of two ends of a text is shorter does not change.
* `Parser.Transports.bind`, `Parser.Transports.orElse`, `Parser.Transports.many` — parsers made of
  others.
* `Grammar.transports_delimitedBy` — texts between delimiters, which keep the line ends in them.
* `Grammar.transports_number`, `Grammar.transports_date`, `Grammar.transports_account`,
  `Grammar.transports_amount` — the other tokens, whose values stay as they are.

## Design

Expressions are read within a depth that is bounded by the length of the text, which grows with the
carriage returns. The parsers of the two texts are therefore not the same, and they agree on texts
up to a length only; this is why the length is a parameter of what is proved about them.
-/

namespace Daybook

namespace Grammar

/-! ## Carriage returns -/

/-- A text with a carriage return in front of every line feed. -/
def crlf : List Char → List Char
  | [] => []
  | c :: s => if c = '\n' then '\r' :: '\n' :: crlf s else c :: crlf s

/-- The empty text stays. -/
@[simp] theorem crlf_nil : crlf [] = [] := rfl

/-- A line feed gets its carriage return. -/
@[simp] theorem crlf_lineFeed (s : List Char) : crlf ('\n' :: s) = '\r' :: '\n' :: crlf s := rfl

/-- Other characters stay. -/
theorem crlf_cons {c : Char} (h : c ≠ '\n') (s : List Char) : crlf (c :: s) = c :: crlf s :=
  if_neg h

/-- Two texts one after the other. -/
theorem crlf_append (s t : List Char) : crlf (s ++ t) = crlf s ++ crlf t := by
  induction s with
  | nil => rfl
  | cons c s ih =>
    rw [List.cons_append, crlf, crlf, ih]
    split_ifs <;> rfl

/-- A text without line feeds stays. -/
theorem crlf_of_not_mem {s : List Char} (h : '\n' ∉ s) : crlf s = s := by
  induction s with
  | nil => rfl
  | cons c s ih =>
    rw [List.mem_cons, not_or] at h
    rw [crlf_cons (Ne.symm h.1), ih h.2]

/-- What is not a carriage return has been there before. -/
theorem eq_cons_of_crlf {c : Char} (hc : c ≠ '\r') {s t : List Char} (h : crlf s = c :: t) :
    ∃ u, s = c :: u ∧ crlf u = t := by
  cases s with
  | nil => cases h
  | cons d s =>
    rw [crlf] at h
    split_ifs at h
    · exact absurd (List.cons_eq_cons.mp h).1.symm hc
    · obtain ⟨rfl, rfl⟩ := List.cons_eq_cons.mp h
      exact ⟨s, rfl, rfl⟩

/-- The carriage returns only add to a text. -/
theorem length_le_crlf (s : List Char) : s.length ≤ (crlf s).length := by
  induction s with
  | nil => exact Nat.le_refl 0
  | cons c s ih =>
    rw [crlf]
    split_ifs <;> simp only [List.length_cons] <;> omega

/-- Ends of a text stay ends of it. -/
theorem crlf_suffix {s t : List Char} (h : s <:+ t) : crlf s <:+ crlf t := by
  obtain ⟨front, rfl⟩ := h
  rw [crlf_append]
  exact List.suffix_append _ _

/-- The shorter one of two ends of a text stays the shorter one. -/
theorem length_crlf_lt_iff {a b s : List Char} (ha : a <:+ s) (hb : b <:+ s) :
    (crlf a).length < (crlf b).length ↔ a.length < b.length := by
  obtain h | h := List.suffix_or_suffix_of_suffix ha hb
  · obtain ⟨front, rfl⟩ := h
    have hle := length_le_crlf front
    cases front with
    | nil => simp
    | cons c front =>
      rw [List.length_cons] at hle
      simp only [crlf_append, List.length_append, List.length_cons]
      omega
  · have hle := h.length_le
    have hle' := (crlf_suffix h).length_le
    omega

/-- The place that is further on stays so. -/
theorem further_crlf {a b s : List Char} (ha : a <:+ s) (hb : b <:+ s) :
    Parser.further (crlf a) (crlf b) = crlf (Parser.further a b) := by
  unfold Parser.further
  rw [apply_ite crlf]
  exact if_congr (length_crlf_lt_iff hb ha) rfl rfl

/-- A word that has no line break in it stands at the beginning of both texts or of neither. -/
theorem isPrefixOf_crlf {w : List Char} (h : '\r' ∉ w ∧ '\n' ∉ w) (s : List Char) :
    w.isPrefixOf (crlf s) = w.isPrefixOf s := by
  induction w generalizing s with
  | nil => rfl
  | cons d w ih =>
    simp only [List.mem_cons, not_or] at h
    cases s with
    | nil => rfl
    | cons c s =>
      by_cases hc : c = '\n'
      · subst hc
        have hreturn : (d == '\r') = false := beq_eq_false_iff_ne.mpr (Ne.symm h.1.1)
        have hfeed : (d == '\n') = false := beq_eq_false_iff_ne.mpr (Ne.symm h.2.1)
        rw [crlf_lineFeed, List.isPrefixOf_cons_cons, List.isPrefixOf_cons_cons, hreturn, hfeed]
        rfl
      · rw [crlf_cons hc, List.isPrefixOf_cons_cons, List.isPrefixOf_cons_cons,
          ih ⟨h.1.2, h.2.2⟩]

/-- What stands behind such a word. -/
theorem drop_crlf {w : String} {s : List Char} (h : '\n' ∉ w.toList)
    (hw : w.toList.isPrefixOf s = true) :
    (crlf s).drop w.length = crlf (s.drop w.length) := by
  obtain ⟨t, rfl⟩ := List.isPrefixOf_iff_prefix.mp hw
  rw [crlf_append, crlf_of_not_mem h, ← String.length_toList, List.drop_left, List.drop_left]

section Test

variable {test : Char → Bool}

/-- A run of characters that pass a test, if both characters of a line end do or neither. -/
theorem takeWhile_crlf (h : test '\r' = test '\n') (s : List Char) :
    (crlf s).takeWhile test = crlf (s.takeWhile test) := by
  induction s with
  | nil => rfl
  | cons c s ih =>
    by_cases hc : c = '\n'
    · subst hc
      rw [crlf_lineFeed]
      cases htest : test '\n' <;> simp [htest, h.trans htest, ih]
    · rw [crlf_cons hc]
      cases htest : test c <;> simp [htest, ih, crlf_cons hc]

/-- What stands behind such a run. -/
theorem dropWhile_crlf (h : test '\r' = test '\n') (s : List Char) :
    (crlf s).dropWhile test = crlf (s.dropWhile test) := by
  have hsplit : (crlf s).takeWhile test ++ (crlf s).dropWhile test =
      crlf (s.takeWhile test) ++ crlf (s.dropWhile test) := by
    rw [← crlf_append, List.takeWhile_append_dropWhile, List.takeWhile_append_dropWhile]
  rw [takeWhile_crlf h] at hsplit
  exact List.append_cancel_left hsplit

/-- A test that both characters of a line end pass, or neither. -/
theorem all_crlf (h : test '\r' = test '\n') (s : List Char) :
    (crlf s).all test = s.all test := by
  induction s with
  | nil => rfl
  | cons c s ih =>
    by_cases hc : c = '\n'
    · subst hc
      rw [crlf_lineFeed, List.all_cons, List.all_cons, List.all_cons, ih, h, Bool.and_self_left]
    · rw [crlf_cons hc, List.all_cons, List.all_cons, ih]

end Test

end Grammar

open Grammar

/-- A text with a carriage return in front of every line feed. -/
def Text.crlf (text : String) : String :=
  String.ofList (Grammar.crlf text.toList)

namespace Grammar

/-! ## Parsers -/

/-- What becomes of a text with carriage returns, where values change by `f`. -/
def Outcome.crlf {α β : Type} (f : α → β) : Outcome α → Outcome β
  | done a rest => done (f a) (Grammar.crlf rest)
  | stuck place => stuck (Grammar.crlf place)

namespace Parser

variable {α β γ δ : Type} {m n : Nat}

/-- What `p` reads from a text without carriage returns that is shorter than `n`, `p'` reads from
the text with carriage returns, where values change by `f`. What remains is an end of the text. -/
def Transports (n : Nat) (f : α → β) (p : Parser α) (p' : Parser β) : Prop :=
  ∀ ⦃s : List Char⦄, '\r' ∉ s → s.length < n →
    p' (crlf s) = (p s).crlf f ∧ (p s).remaining <:+ s

/-- What is read from texts up to a length is read from those up to a smaller length. -/
theorem Transports.mono {f : α → β} {p : Parser α} {p' : Parser β} (hp : Transports n f p p')
    (hle : m ≤ n) : Transports m f p p' :=
  fun _ hs hm => hp hs (hm.trans_le hle)

/-! ### Sequence and choice -/

/-- Reading nothing. -/
theorem transports_pure (f : α → β) (a : α) : Transports n f (pure a) (pure (f a)) :=
  fun s _ _ => ⟨rfl, List.suffix_refl s⟩

/-- Two parsers one after the other, the second of which is given texts shorter than `m` only. -/
theorem Transports.bind_of_length {f : α → β} {g : γ → δ} {p : Parser α} {p' : Parser β}
    {q : α → Parser γ} {q' : β → Parser δ} (hp : Transports n f p p')
    (hlength : ∀ {s a rest}, p s = .done a rest → rest <:+ s → s.length < n → rest.length < m)
    (hq : ∀ a, Transports m g (q a) (q' (f a))) : Transports n g (p >>= q) (p' >>= q') := by
  intro s hs hn
  obtain ⟨hread, hsuffix⟩ := hp hs hn
  cases h : p s with
  | stuck place =>
    rw [h] at hread hsuffix
    rw [bind_of_stuck h, bind_of_stuck hread]
    exact ⟨rfl, hsuffix⟩
  | done a rest =>
    rw [h] at hread hsuffix
    obtain ⟨hread', hsuffix'⟩ :=
      hq a (fun hr => hs (hsuffix.subset hr)) (hlength h hsuffix hn)
    rw [bind_of_done h, bind_of_done hread]
    exact ⟨hread', hsuffix'.trans hsuffix⟩

/-- Two parsers one after the other. -/
theorem Transports.bind {f : α → β} {g : γ → δ} {p : Parser α} {p' : Parser β}
    {q : α → Parser γ} {q' : β → Parser δ} (hp : Transports n f p p')
    (hq : ∀ a, Transports n g (q a) (q' (f a))) : Transports n g (p >>= q) (p' >>= q') :=
  hp.bind_of_length (fun _ hsuffix hn => hsuffix.length_le.trans_lt hn) hq

/-- A mapped parser. -/
theorem Transports.map {f : α → β} {p : Parser α} {p' : Parser β} (hp : Transports n f p p')
    {g : α → γ} {g' : β → δ} {h : γ → δ} (heq : ∀ a, h (g a) = g' (f a)) :
    Transports n h (g <$> p) (g' <$> p') :=
  hp.bind fun a => by
    show Transports n h (pure (g a)) (pure (g' (f a)))
    rw [← heq]
    exact transports_pure h (g a)

/-- A choice. -/
theorem Transports.orElse {f : α → β} {p q : Parser α} {p' q' : Parser β}
    (hp : Transports n f p p') (hq : Transports n f q q') :
    Transports n f (p <|> q) (p' <|> q') := by
  intro s hs hn
  obtain ⟨hread, hsuffix⟩ := hp hs hn
  cases h : p s with
  | done a rest =>
    rw [h] at hread hsuffix
    rw [orElse_of_done h, orElse_of_done hread]
    exact ⟨rfl, hsuffix⟩
  | stuck first =>
    rw [h] at hread hsuffix
    obtain ⟨hread', hsuffix'⟩ := hq hs hn
    cases h' : q s with
    | done a rest =>
      rw [h'] at hread' hsuffix'
      rw [orElse_of_fails ⟨first, h⟩ h', orElse_of_fails ⟨_, hread⟩ hread']
      exact ⟨rfl, hsuffix'⟩
    | stuck second =>
      rw [h'] at hread' hsuffix'
      simp only [Outcome.remaining_stuck] at hsuffix hsuffix'
      rw [orElse_of_stuck h h', orElse_of_stuck hread hread', further_crlf hsuffix hsuffix']
      exact ⟨rfl, further_suffix hsuffix hsuffix'⟩

/-- What may be left out. -/
theorem Transports.optional {f : α → β} {p : Parser α} {p' : Parser β}
    (hp : Transports n f p p') : Transports n (Option.map f) (optional p) (optional p') := by
  intro s hs hn
  obtain ⟨hread, hsuffix⟩ := hp hs hn
  cases h : p s with
  | done a rest =>
    rw [h] at hread hsuffix
    rw [optional_of_done h, optional_of_done hread]
    exact ⟨rfl, hsuffix⟩
  | stuck place =>
    rw [h] at hread
    rw [optional_of_fails ⟨place, h⟩, optional_of_fails ⟨_, hread⟩]
    exact ⟨rfl, List.suffix_refl s⟩

/-- What may be left out, where values stay as they are. -/
theorem Transports.optional_id {p p' : Parser α} (hp : Transports n id p p') :
    Transports n id (Parser.optional p) (Parser.optional p') := by
  have h := hp.optional
  rwa [Option.map_id] at h

/-- What must not follow. -/
theorem Transports.notFollowedBy {f : α → β} {p : Parser α} {p' : Parser β}
    (hp : Transports n f p p') : Transports n id (notFollowedBy p) (notFollowedBy p') := by
  intro s hs hn
  obtain ⟨hread, -⟩ := hp hs hn
  unfold Parser.notFollowedBy
  rw [hread]
  cases p s <;> exact ⟨rfl, List.suffix_refl s⟩

/-- A condition on the value. -/
theorem Transports.checked {p p' : Parser α} (hp : Transports n id p p') {f : α → Option β}
    {f' : α → Option γ} {g : β → γ} (heq : ∀ a, f' a = (f a).map g) :
    Transports n g (checked p f) (checked p' f') := by
  intro s hs hn
  obtain ⟨hread, hsuffix⟩ := hp hs hn
  unfold Parser.checked
  rw [hread]
  cases h : p s with
  | stuck place =>
    rw [h] at hsuffix
    exact ⟨rfl, hsuffix⟩
  | done a rest =>
    rw [h] at hsuffix
    simp only [Outcome.crlf, id_eq, heq]
    cases f a with
    | none => exact ⟨rfl, List.suffix_refl s⟩
    | some b => exact ⟨rfl, hsuffix⟩

/-- A condition on the value, where values stay as they are. -/
theorem Transports.checked_id {p p' : Parser α} (hp : Transports n id p p') (f : α → Option β) :
    Transports n id (Parser.checked p f) (Parser.checked p' f) :=
  hp.checked fun _ => Option.map_id'.symm

/-! ### Single characters and runs of them -/

section Test

variable {test : Char → Bool}

/-- One character, which does not end a line. -/
theorem transports_satisfy (h : test '\r' = false ∧ test '\n' = false) :
    Transports n id (satisfy test) (satisfy test) := by
  refine fun s hs hn => ⟨?_, (advances_satisfy test).shortens s⟩
  cases s with
  | nil => rfl
  | cons c s =>
    by_cases hc : c = '\n'
    · subst hc
      rw [crlf_lineFeed, satisfy, satisfy, h.1, h.2]
      rfl
    · rw [crlf_cons hc, satisfy, satisfy]
      split_ifs
      · rfl
      · rw [Outcome.crlf, crlf_cons hc]

/-- A given character, which does not end a line. -/
theorem transports_char {c : Char} (h : c ≠ '\r' ∧ c ≠ '\n') :
    Transports n id (char c) (char c) :=
  transports_satisfy ⟨beq_eq_false_iff_ne.mpr h.1.symm, beq_eq_false_iff_ne.mpr h.2.symm⟩

/-- A run of characters that pass a test, if both characters of a line end do or neither. -/
theorem transports_takeWhile_crlf (h : test '\r' = test '\n') :
    Transports n crlf (takeWhile test) (takeWhile test) := fun s _ _ =>
  ⟨by rw [takeWhile, takeWhile, takeWhile_crlf h, dropWhile_crlf h]; rfl,
    shortens_takeWhile test s⟩

/-- A run of characters that do not end a line. -/
theorem transports_takeWhile (h : test '\r' = false ∧ test '\n' = false) :
    Transports n id (takeWhile test) (takeWhile test) := by
  intro s hs hn
  obtain ⟨hread, hsuffix⟩ := transports_takeWhile_crlf (h.1.trans h.2.symm) hs hn
  have hfeed : '\n' ∉ s.takeWhile test := fun hmem => by
    have := List.mem_takeWhile_imp hmem
    rw [h.2] at this
    cases this
  refine ⟨hread.trans ?_, hsuffix⟩
  rw [takeWhile, Outcome.crlf, crlf_of_not_mem hfeed]
  rfl

/-- A run of characters that do not end a line, at least one. -/
theorem transports_takeWhile1 (h : test '\r' = false ∧ test '\n' = false) :
    Transports n id (takeWhile1 test) (takeWhile1 test) :=
  (transports_satisfy h).bind fun _ => (transports_takeWhile h).bind fun _ => transports_pure id _

end Test

/-- The characters up to a place which is not behind the end of the line. -/
theorem transports_takeUntil {stop : List Char → Bool} (hstop : ∀ s, stop (crlf s) = stop s)
    (hend : ∀ s, stop ('\n' :: s) = true) :
    Transports n id (takeUntil stop) (takeUntil stop) := by
  have hsplit (s : List Char) :
      splitWhere stop (crlf s) = ((splitWhere stop s).1, crlf (splitWhere stop s).2) := by
    induction s with
    | nil => rfl
    | cons c s ih =>
      by_cases hc : c = '\n'
      · subst hc
        have hreturn : stop ('\r' :: '\n' :: crlf s) = true := (hstop ('\n' :: s)).trans (hend s)
        simp only [crlf_lineFeed, splitWhere, hreturn, hend, if_true]
      · have hsame : stop (c :: crlf s) = stop (c :: s) := by rw [← crlf_cons hc, hstop]
        rw [crlf_cons hc, splitWhere, splitWhere, hsame, ih]
        split_ifs
        · rw [crlf_cons hc]
        · rfl
  exact fun s _ _ => ⟨by rw [takeUntil, takeUntil, hsplit]; rfl, shortens_takeUntil stop s⟩

/-- The first of several words without line breaks that a text begins with. -/
theorem transports_of_find? {p : Parser α} {words : List α} {text : α → String}
    (hdone : ∀ s w, words.find? (fun w => (text w).toList.isPrefixOf s) = some w →
      p s = .done w (s.drop (text w).length))
    (hstuck : ∀ s, words.find? (fun w => (text w).toList.isPrefixOf s) = none → p s = .stuck s)
    (h : ∀ w ∈ words, '\r' ∉ (text w).toList ∧ '\n' ∉ (text w).toList) : Transports n id p p := by
  intro s hs hn
  have hfind : words.find? (fun w => (text w).toList.isPrefixOf (crlf s)) =
      words.find? fun w => (text w).toList.isPrefixOf s :=
    List.find?_congr fun w hw => isPrefixOf_crlf (h w hw) s
  cases hw : words.find? fun w => (text w).toList.isPrefixOf s with
  | none =>
    rw [hstuck s hw, hstuck (crlf s) (hfind.trans hw)]
    exact ⟨rfl, List.suffix_refl s⟩
  | some w =>
    have hprefix := List.find?_some hw
    rw [hdone s w hw, hdone (crlf s) w (hfind.trans hw),
      drop_crlf (h w (List.mem_of_find?_eq_some hw)).2 hprefix]
    exact ⟨rfl, List.drop_suffix _ _⟩

/-- A word without line breaks. -/
theorem transports_word {w : String} (h : '\r' ∉ w.toList ∧ '\n' ∉ w.toList) :
    Transports n id (word w) (word w) := by
  refine fun s hs hn => ⟨?_, shortens_word w s⟩
  rw [word, word, isPrefixOf_crlf h]
  split_ifs with hw
  · rw [drop_crlf h.2 hw]
    rfl
  · rfl

/-! ### Repetition -/

/-- A repetition. -/
theorem Transports.many {f : α → β} {p : Parser α} {p' : Parser β} (hp : Transports n f p p') :
    Transports n (List.map f) (many p) (many p') := by
  have hrepeated (s : List Char) (hs : '\r' ∉ s) (hn : s.length < n) :
      repeated p' (crlf s) = ((repeated p s).1.map f, crlf (repeated p s).2) ∧
        (repeated p s).2 <:+ s := by
    induction hlength : s.length using Nat.strong_induction_on generalizing s with
    | _ k ih =>
      obtain ⟨hread, hsuffix⟩ := hp hs hn
      cases h : p s with
      | stuck place =>
        rw [h] at hread
        rw [repeated_of_fails ⟨place, h⟩, repeated_of_fails ⟨_, hread⟩]
        exact ⟨rfl, List.suffix_refl s⟩
      | done a rest =>
        rw [h] at hread hsuffix
        simp only [Outcome.remaining_done] at hsuffix
        have hshorter := length_crlf_lt_iff hsuffix (List.suffix_refl s)
        by_cases hlt : rest.length < s.length
        · obtain ⟨hitems, hback⟩ := ih rest.length (hlength ▸ hlt) rest
            (fun hr => hs (hsuffix.subset hr)) (hlt.trans hn) rfl
          rw [repeated_of_done h hlt, repeated_of_done hread (hshorter.mpr hlt), hitems]
          exact ⟨rfl, hback.trans hsuffix⟩
        · have hlt' : ¬ (crlf rest).length < (crlf s).length := hshorter.not.mpr hlt
          rw [repeated, repeated, h, hread]
          simp only [Outcome.crlf, if_neg hlt, if_neg hlt']
          exact ⟨rfl, List.suffix_refl s⟩
  intro s hs hn
  obtain ⟨hitems, hback⟩ := hrepeated s hs hn
  refine ⟨?_, hback⟩
  rw [Parser.many, Parser.many, hitems]
  rfl

/-- A repetition, at least once. -/
theorem Transports.many1 {f : α → β} {p : Parser α} {p' : Parser β} (hp : Transports n f p p') :
    Transports n (List.map f) (many1 p) (many1 p') :=
  hp.bind fun a => hp.many.bind fun items => transports_pure (List.map f) (a :: items)

end Parser

open Grammar.Parser

variable {n : Nat}

/-! ## Tokens -/

/-- Blanks. -/
theorem transports_spaces : Transports n id spaces spaces :=
  (transports_takeWhile (by decide)).bind fun _ => transports_pure id ()

/-- Blanks, at least one. -/
theorem transports_spaces1 : Transports n id spaces1 spaces1 :=
  (transports_takeWhile1 (by decide)).bind fun _ => transports_pure id ()

/-- A token and the blanks after it. -/
theorem Parser.Transports.lexeme {α β : Type} {f : α → β} {p : Parser α} {p' : Parser β}
    (hp : Transports n f p p') : Transports n f (lexeme p) (lexeme p') :=
  hp.bind fun a => transports_spaces.bind fun _ => transports_pure f a

/-- The end of a line. -/
theorem transports_lineEnding : Transports n id lineEnding lineEnding := by
  refine fun s hs hn => ⟨?_, advances_lineEnding.shortens s⟩
  cases s with
  | nil => rfl
  | cons c s =>
    by_cases hc : c = '\n'
    · subst hc
      rfl
    · have hstuck (t : List Char) : lineEnding (c :: t) = .stuck (c :: t) := by
        have hreturn : c ≠ '\r' := fun h => hs (h ▸ List.mem_cons_self)
        unfold lineEnding
        split
        · rename_i h
          exact absurd (List.cons_eq_cons.mp h).1 hc
        · rename_i h
          exact absurd (List.cons_eq_cons.mp h).1 hreturn
        · rfl
      rw [crlf_cons hc, hstuck, hstuck, Outcome.crlf, crlf_cons hc]

/-- The end of a line or of the text. -/
theorem transports_lineEnd : Transports n id lineEnd lineEnd := by
  refine transports_lineEnding.orElse fun s hs hn => ?_
  cases s with
  | nil => exact ⟨rfl, List.suffix_refl _⟩
  | cons c s =>
    refine ⟨?_, List.suffix_refl _⟩
    by_cases hc : c = '\n'
    · subst hc
      rfl
    · rw [crlf_cons hc, endOfText, endOfText, Outcome.crlf, crlf_cons hc] <;> simp

/-- What separates two fields. -/
theorem transports_spacer : Transports n id spacer spacer := by
  refine fun s hs hn => ⟨?_, shortens_spacer s⟩
  cases s with
  | nil => rfl
  | cons c s =>
    by_cases hc : c = '\n'
    · subst hc
      rfl
    by_cases htab : c = '\t'
    · subst htab
      rfl
    by_cases hspace : c = ' '
    · subst hspace
      cases s with
      | nil => rfl
      | cons d s =>
        by_cases hd : d = '\n'
        · subst hd
          rfl
        · rw [crlf_cons hc, crlf_cons hd, spacer, spacer]
          split_ifs
          · rfl
          · rw [Outcome.crlf, crlf_cons hd]
    · rw [crlf_cons hc]
      have hstuck (t : List Char) : spacer (c :: t) = .stuck (c :: t) := by
        simp [spacer, htab, hspace]
      rw [hstuck, hstuck, Outcome.crlf, crlf_cons hc]

/-- The rest of a line. -/
theorem transports_restOfLine : Transports n id restOfLine restOfLine :=
  (transports_takeWhile (by decide)).bind fun _ => transports_pure id _

/-- What is on a further line. -/
theorem Parser.Transports.indented {α β : Type} {f : α → β} {p : Parser α} {p' : Parser β}
    (hp : Transports n f p p') : Transports n f (indented p) (indented p') :=
  transports_lineEnding.bind fun _ => transports_spaces1.bind fun _ => hp

/-- Identifiers. -/
theorem transports_identifier : Transports n id identifier identifier :=
  (transports_takeWhile1 (by decide +kernel)).bind fun _ => transports_pure id _

/-- Whole numbers. -/
theorem transports_natural : Transports n id natural natural :=
  (transports_takeWhile1 (by decide)).checked_id _

/-- Numbers. -/
theorem transports_number : Transports n id number number :=
  (transports_char (by decide)).optional_id.bind fun _ =>
    (transports_takeWhile1 (by decide)).bind fun _ => (transports_takeWhile (by decide)).bind
      fun _ => ((transports_char (by decide)).bind fun _ =>
        transports_takeWhile1 (by decide)).optional_id.bind fun _ => transports_pure id _

/-- Texts between delimiters, in which the line ends are. -/
theorem transports_delimitedBy (d : Char) (h : d ≠ '\r' ∧ d ≠ '\n') :
    Transports n Text.crlf (delimitedBy d) (delimitedBy d) := by
  have hrun : ('\r' != d) = ('\n' != d) :=
    (bne_iff_ne.mpr h.1.symm).trans (bne_iff_ne.mpr h.2.symm).symm
  refine (transports_char h).bind fun _ => (transports_takeWhile_crlf hrun).bind fun cs =>
    (transports_char h).bind fun _ => ?_
  have hvalue : Text.crlf (String.ofList cs) = String.ofList (crlf cs) := by
    rw [Text.crlf, String.toList_ofList]
  rw [← hvalue]
  exact transports_pure Text.crlf _

/-- Notes. -/
theorem transports_noteBody : Transports n id noteBody noteBody :=
  (transports_char (by decide)).lexeme.bind fun _ => transports_restOfLine

/-- Parts of dates. -/
theorem transports_datePart (c : Char) (h : c ≠ '\r' ∧ c ≠ '\n') :
    Transports n id (datePart c) (datePart c) :=
  (transports_char h).bind fun _ => transports_natural.bind fun _ =>
    ((transports_char h).bind fun _ => transports_natural).optional_id.bind fun _ =>
      transports_pure id _

/-- Dates. -/
theorem transports_date : Transports n id date date :=
  Transports.checked_id (transports_natural.bind fun _ =>
    ((transports_datePart '/' (by decide)).orElse (transports_datePart '-' (by decide))).bind
      fun part => by
        obtain ⟨second, third⟩ := part
        exact transports_pure id _) _

/-- Account names end at the same places. -/
theorem endsAccount_crlf (s : List Char) : endsAccount (crlf s) = endsAccount s := by
  rcases s with _ | ⟨c, s⟩
  · rfl
  by_cases hc : c = '\n'
  · subst hc
    rw [endsAccount_newline, crlf_lineFeed]
    simp [endsAccount, isBlank_lineBreak.1]
  rw [crlf_cons hc]
  rcases s with _ | ⟨d, s⟩
  · rfl
  by_cases hd : d = '\n'
  · subst hd
    simp only [crlf_lineFeed, endsAccount, isBlank_lineBreak.1, isBlank_lineBreak.2]
  · rw [crlf_cons hd]
    rfl

/-- Account names. -/
theorem transports_account : Transports n id account account := by
  intro s hs hn
  rcases s with _ | ⟨c, s⟩
  · exact ⟨rfl, List.suffix_refl _⟩
  have hrun := transports_takeUntil endsAccount_crlf endsAccount_newline hs hn
  by_cases hc : c = '\n'
  · subst hc
    rw [crlf_lineFeed, account, account, if_pos isBlank_lineBreak.1, if_pos isBlank_lineBreak.2]
    exact ⟨rfl, List.suffix_refl _⟩
  · rw [crlf_cons hc] at hrun ⊢
    rw [account, account]
    split_ifs
    · rw [Outcome.crlf, crlf_cons hc]
      exact ⟨rfl, List.suffix_refl _⟩
    · exact hrun

/-! ## Amounts -/

variable {lexicon : Lexicon}
  (hsymbols : ∀ symbol ∈ lexicon.symbols, '\r' ∉ symbol.toList ∧ '\n' ∉ symbol.toList)
include hsymbols

/-- Symbols without line breaks. -/
theorem transports_symbol : Transports n id (symbol lexicon) (symbol lexicon) :=
  @transports_of_find? _ _ _ lexicon.symbols id
    (fun s w (hw : lexicon.leading? s = some w) => by rw [symbol, hw]; rfl)
    (fun s (hw : lexicon.leading? s = none) => by rw [symbol, hw]) hsymbols

/-- Amounts. -/
theorem transports_amount : Transports n id (amount lexicon) (amount lexicon) :=
  Transports.orElse
    ((transports_char (by decide)).lexeme.optional_id.bind fun _ =>
      (transports_symbol hsymbols).lexeme.bind fun _ => transports_number.bind fun _ =>
        transports_pure id _)
    (transports_number.lexeme.bind fun _ => (transports_symbol hsymbols).optional_id.bind fun _ =>
      transports_pure id _)

end Grammar

end Daybook
