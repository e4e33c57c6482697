/-
Grammars as regular expressions, over characters or over tokens. A grammar over
tokens becomes one over characters when each token is replaced by the grammar of
the texts that spell it (`Grammar.substitute`); the texts of the one are then
the spellings of the token lists of the other (`Grammar.mem_substitute`).
-/
import LineScript.Proofs.Text.Identifiers
import Mathlib.Computability.RegularExpressions

namespace LineScript

namespace Grammar

open RegularExpression

variable {α β : Type} {g : RegularExpression α} {t : List α}

def optionally (g : RegularExpression α) : RegularExpression α :=
  1 + g

def oneOrMore (g : RegularExpression α) : RegularExpression α :=
  g * g.star

/-- One letter, any of those that are given. -/
def oneOf (letters : List α) : RegularExpression α :=
  letters.foldr (fun a g => char a + g) 0

/-- Puts a grammar for each letter. -/
def substitute (f : α → RegularExpression β) : RegularExpression α → RegularExpression β
  | .zero => 0
  | .epsilon => 1
  | .char a => f a
  | .plus g h => substitute f g + substitute f h
  | .comp g h => substitute f g * substitute f h
  | .star g => (substitute f g).star

theorem mem_char {a : α} : t ∈ (char a).matches' ↔ t = [a] :=
  Iff.rfl

theorem mem_optionally : t ∈ (optionally g).matches' ↔ t = [] ∨ t ∈ g.matches' :=
  Iff.rfl

theorem mem_oneOf {letters : List α} : t ∈ (oneOf letters).matches' ↔ ∃ a ∈ letters, t = [a] := by
  induction letters with
  | nil => simp [oneOf]
  | cons a letters ih =>
    have hcons : t ∈ (oneOf (a :: letters)).matches' ↔ t = [a] ∨ t ∈ (oneOf letters).matches' :=
      Iff.rfl
    rw [hcons, ih]
    simp

/-! ## Repetition -/

theorem mem_star_of_mem_append {t u : List α} (ht : t ∈ g.matches') (hu : u ∈ g.star.matches') :
    t ++ u ∈ g.star.matches' := by
  obtain ⟨parts, rfl, hparts⟩ := Language.mem_kstar.1 hu
  exact Language.mem_kstar.2 ⟨t :: parts, rfl, List.forall_mem_cons.2 ⟨ht, hparts⟩⟩

/-- Repetitions of a grammar whose texts are single letters. -/
theorem mem_star_iff {p : α → Prop} (h : ∀ t, t ∈ g.matches' ↔ ∃ a, p a ∧ t = [a]) :
    t ∈ g.star.matches' ↔ ∀ a ∈ t, p a := by
  constructor
  · intro ht a ha
    obtain ⟨parts, rfl, hparts⟩ := Language.mem_kstar.1 ht
    obtain ⟨part, hpart, ha⟩ := List.mem_flatten.1 ha
    obtain ⟨b, hb, rfl⟩ := (h part).1 (hparts part hpart)
    rwa [List.mem_singleton.1 ha]
  · intro ht
    induction t with
    | nil => exact Language.nil_mem_kstar _
    | cons a t ih =>
      obtain ⟨ha, ht⟩ := List.forall_mem_cons.1 ht
      exact mem_star_of_mem_append ((h [a]).2 ⟨a, ha, rfl⟩) (ih ht)

theorem mem_oneOrMore_iff {p : α → Prop} (h : ∀ t, t ∈ g.matches' ↔ ∃ a, p a ∧ t = [a]) :
    t ∈ (oneOrMore g).matches' ↔ t ≠ [] ∧ ∀ a ∈ t, p a := by
  rw [oneOrMore, matches'_mul, Language.mem_mul]
  constructor
  · rintro ⟨first, hfirst, rest, hrest, rfl⟩
    obtain ⟨a, ha, rfl⟩ := (h first).1 hfirst
    exact ⟨List.cons_ne_nil a rest, List.forall_mem_cons.2 ⟨ha, (mem_star_iff h).1 hrest⟩⟩
  · rintro ⟨hne, ht⟩
    obtain ⟨a, rest, rfl⟩ := List.exists_cons_of_ne_nil hne
    obtain ⟨ha, hrest⟩ := List.forall_mem_cons.1 ht
    exact ⟨[a], (h [a]).2 ⟨a, ha, rfl⟩, rest, (mem_star_iff h).2 hrest, rfl⟩

/-! ## Digits -/

/-- A decimal digit. -/
def digit : RegularExpression Char :=
  oneOf ['0', '1', '2', '3', '4', '5', '6', '7', '8', '9']

theorem mem_digit (t : Text) : t ∈ digit.matches' ↔ ∃ c, c.isDigit = true ∧ t = [c] := by
  have hdigit (c : Char) (hc : c.isDigit = true) :
      c ∈ ['0', '1', '2', '3', '4', '5', '6', '7', '8', '9'] :=
    forall_char_between '0' '9' (p := fun c => c ∈ _) (by decide) (between_of_isDigit hc).1
      (between_of_isDigit hc).2
  have hdigits : ∀ c ∈ ['0', '1', '2', '3', '4', '5', '6', '7', '8', '9'], c.isDigit = true :=
    List.all_eq_true.1 (by decide)
  rw [digit, mem_oneOf]
  exact ⟨fun ⟨c, hc, ht⟩ => ⟨c, hdigits c hc, ht⟩, fun ⟨c, hc, ht⟩ => ⟨c, hdigit c hc, ht⟩⟩

theorem mem_digits {t : Text} : t ∈ (oneOrMore digit).matches' ↔ t.isDigits = true := by
  rw [mem_oneOrMore_iff mem_digit, Text.isDigits]
  simp

theorem mem_point {g : RegularExpression Char} {t : Text} :
    t ∈ (char '.' * g).matches' ↔ ∃ u ∈ g.matches', t = '.' :: u := by
  rw [matches'_mul, Language.mem_mul]
  constructor
  · rintro ⟨_, rfl, u, hu, rfl⟩
    exact ⟨u, hu, rfl⟩
  · rintro ⟨u, hu, rfl⟩
    exact ⟨['.'], rfl, u, hu, rfl⟩

/-! ## Spellings -/

variable {f : α → RegularExpression β}

/-- The texts that spell some letters: one text for each, in order. -/
def spellings (f : α → RegularExpression β) (letters : List α) : Language β :=
  (letters.map fun a => (f a).matches').prod

theorem mem_spellings_nil {t : List β} : t ∈ spellings f [] ↔ t = [] :=
  Language.mem_one t

theorem spellings_cons (a : α) (letters : List α) :
    spellings f (a :: letters) = (f a).matches' * spellings f letters := by
  rw [spellings, List.map_cons, List.prod_cons, spellings]

theorem spellings_append (letters letters' : List α) :
    spellings f (letters ++ letters') = spellings f letters * spellings f letters' := by
  rw [spellings, List.map_append, List.prod_append, spellings, spellings]

/-- What spells some letters falls into one part for each. -/
theorem mem_spellings_iff {letters : List α} {t : List β} :
    t ∈ spellings f letters ↔
      ∃ parts, List.Forall₂ (fun part a => part ∈ (f a).matches') parts letters ∧
        t = parts.flatten := by
  induction letters generalizing t with
  | nil => simp [mem_spellings_nil]
  | cons a letters ih =>
    rw [spellings_cons, Language.mem_mul]
    constructor
    · rintro ⟨part, hpart, u, hu, rfl⟩
      obtain ⟨parts, hparts, rfl⟩ := ih.1 hu
      exact ⟨part :: parts, .cons hpart hparts, rfl⟩
    · rintro ⟨_, hall, rfl⟩
      obtain ⟨part, parts, hpart, hparts, rfl⟩ := List.forall₂_cons_right_iff.1 hall
      exact ⟨part, hpart, parts.flatten, ih.2 ⟨parts, hparts, rfl⟩, rfl⟩

/-- Texts that each spell letters of a grammar, one after the other. -/
theorem exists_spelled_flatten {parts : List (List β)}
    (h : ∀ part ∈ parts, ∃ letters ∈ g.matches', part ∈ spellings f letters) :
    ∃ letters ∈ g.star.matches', parts.flatten ∈ spellings f letters := by
  induction parts with
  | nil => exact ⟨[], Language.nil_mem_kstar _, mem_spellings_nil.2 rfl⟩
  | cons part parts ih =>
    obtain ⟨⟨first, hfirst, hpart⟩, hparts⟩ := List.forall_mem_cons.1 h
    obtain ⟨rest, hrest, hspelled⟩ := ih hparts
    refine ⟨first ++ rest, mem_star_of_mem_append hfirst hrest, ?_⟩
    rw [spellings_append, List.flatten_cons]
    exact Language.append_mem_mul hpart hspelled

theorem mem_star_of_spelled {h : RegularExpression β}
    (hsub : ∀ letters ∈ g.matches', ∀ part ∈ spellings f letters, part ∈ h.matches')
    {groups : List (List α)} (hgroups : ∀ letters ∈ groups, letters ∈ g.matches') {t : List β}
    (ht : t ∈ spellings f groups.flatten) : t ∈ h.star.matches' := by
  induction groups generalizing t with
  | nil =>
    rw [mem_spellings_nil.1 ht]
    exact Language.nil_mem_kstar _
  | cons letters groups ih =>
    rw [List.flatten_cons, spellings_append] at ht
    obtain ⟨part, hpart, rest, hrest, rfl⟩ := Language.mem_mul.1 ht
    obtain ⟨hletters, hgroups⟩ := List.forall_mem_cons.1 hgroups
    exact mem_star_of_mem_append (hsub letters hletters part hpart) (ih hgroups hrest)

/-- **The texts of a grammar with a grammar put for each letter are the
spellings of its texts.** -/
theorem mem_substitute (f : α → RegularExpression β) (g : RegularExpression α) (t : List β) :
    t ∈ (substitute f g).matches' ↔ ∃ letters ∈ g.matches', t ∈ spellings f letters := by
  induction g generalizing t with
  | zero => simp [substitute]
  | epsilon => simp [substitute, mem_spellings_nil]
  | char a =>
    have hspell : spellings f [a] = (f a).matches' := mul_one _
    constructor
    · intro ht
      exact ⟨[a], rfl, by rwa [hspell]⟩
    · rintro ⟨_, rfl, ht⟩
      rwa [hspell] at ht
  | plus g h ihg ihh =>
    simp only [substitute, plus_def, matches'_add, Language.mem_add, ihg, ihh, or_and_right,
      exists_or]
  | comp g h ihg ihh =>
    simp only [substitute, comp_def, matches'_mul, Language.mem_mul, ihg, ihh]
    constructor
    · rintro ⟨t, ⟨ts, hts, ht⟩, u, ⟨us, hus, hu⟩, rfl⟩
      refine ⟨ts ++ us, ⟨ts, hts, us, hus, rfl⟩, ?_⟩
      rw [spellings_append]
      exact Language.append_mem_mul ht hu
    · rintro ⟨_, ⟨ts, hts, us, hus, rfl⟩, hspelled⟩
      rw [spellings_append] at hspelled
      obtain ⟨t, ht, u, hu, heq⟩ := Language.mem_mul.1 hspelled
      exact ⟨t, ⟨ts, hts, ht⟩, u, ⟨us, hus, hu⟩, heq⟩
  | star g ih =>
    constructor
    · intro ht
      obtain ⟨parts, rfl, hparts⟩ := Language.mem_kstar.1 ht
      exact exists_spelled_flatten fun part hpart => (ih part).1 (hparts part hpart)
    · rintro ⟨_, ⟨groups, rfl, hgroups⟩, ht⟩
      exact mem_star_of_spelled
        (fun letters hletters part hpart => (ih part).2 ⟨letters, hletters, hpart⟩) hgroups ht

end Grammar

end LineScript
