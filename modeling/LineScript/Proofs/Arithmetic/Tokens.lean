/-
Reading tokens off a text. A text spells some tokens if it is a text for each of
them, one after the other. Several token lists may have the same spelling, for a
number may be cut anywhere between its digits; reading by longest match gives the
one list in which no number stands right behind another
(`Arithmetic.tokens?_of_spelled`, `Arithmetic.spelled_of_tokens?`).
-/
import LineScript.Arithmetic.Token
import LineScript.Proofs.Text.Grammar
import Mathlib.Data.List.Chain

namespace LineScript

namespace Arithmetic

open Grammar RegularExpression

/-- Digits, and a point and digits behind them or not. -/
def numberGrammar : RegularExpression Char :=
  oneOrMore digit * optionally (char '.' * oneOrMore digit)

/-- The texts of a token. -/
def Token.lexeme : Token → RegularExpression Char
  | number => numberGrammar
  | plus => char '+'
  | minus => char '-'
  | star => char '*'
  | slash => char '/'
  | openParen => char '('
  | closeParen => char ')'

/-- No number stands right behind another. -/
def NumbersApart (ts : List Token) : Prop :=
  ts.IsChain fun t u => ¬(t = .number ∧ u = .number)

variable {c : Char} {t u w f : Text} {token : Token} {ts : List Token}

theorem mem_numberGrammar :
    t ∈ numberGrammar.matches' ↔ t.isDigits = true ∨
      ∃ w f, Text.isDigits w = true ∧ Text.isDigits f = true ∧ t = w ++ '.' :: f := by
  rw [numberGrammar, matches'_mul, Language.mem_mul]
  constructor
  · rintro ⟨w, hw, u, hu, rfl⟩
    rcases mem_optionally.1 hu with rfl | hu
    · exact .inl (by simpa using mem_digits.1 hw)
    · obtain ⟨f, hf, rfl⟩ := mem_point.1 hu
      exact .inr ⟨w, f, mem_digits.1 hw, mem_digits.1 hf, rfl⟩
  · rintro (ht | ⟨w, f, hw, hf, rfl⟩)
    · exact ⟨t, mem_digits.2 ht, [], mem_optionally.2 (.inl rfl), List.append_nil t⟩
    · refine ⟨w, mem_digits.2 hw, '.' :: f, mem_optionally.2 (.inr ?_), rfl⟩
      exact mem_point.2 ⟨f, mem_digits.2 hf, rfl⟩

theorem exists_digit_of_mem (h : t ∈ numberGrammar.matches') :
    ∃ c rest, t = c :: rest ∧ c.isDigit = true := by
  have hstart {w : Text} (hw : Text.isDigits w = true) :
      ∃ c rest, w = c :: rest ∧ c.isDigit = true := by
    obtain ⟨hne, hdigits⟩ := Text.isDigits_iff.1 hw
    obtain ⟨c, rest, rfl⟩ := List.exists_cons_of_ne_nil hne
    exact ⟨c, rest, rfl, hdigits c (List.mem_cons_self ..)⟩
  rcases mem_numberGrammar.1 h with ht | ⟨w, f, hw, -, rfl⟩
  · exact hstart ht
  · obtain ⟨c, rest, rfl, hc⟩ := hstart hw
    exact ⟨c, rest ++ '.' :: f, rfl, hc⟩

/-- Every token but a number is one character. -/
theorem exists_char_of_ne_number (h : token ≠ .number) :
    ∃ c, token.lexeme = char c ∧ Token.ofChar? c = some token ∧ c.isDigit = false ∧ c ≠ '.' := by
  cases token with
  | number => exact absurd rfl h
  | plus => exact ⟨'+', rfl, by decide⟩
  | minus => exact ⟨'-', rfl, by decide⟩
  | star => exact ⟨'*', rfl, by decide⟩
  | slash => exact ⟨'/', rfl, by decide⟩
  | openParen => exact ⟨'(', rfl, by decide⟩
  | closeParen => exact ⟨')', rfl, by decide⟩

theorem mem_lexeme_of_ofChar? (h : Token.ofChar? c = some token) :
    token ≠ .number ∧ [c] ∈ token.lexeme.matches' := by
  unfold Token.ofChar? at h
  split at h
  case h_7 => cases h
  all_goals
    obtain rfl := Option.some.inj h
    exact ⟨by decide, rfl⟩

/-! ## Longest match -/

/-- The digits at the start of a text, and the rest. -/
theorem exists_digits (t : Text) :
    ∃ w u, t = w ++ u ∧ (∀ c ∈ w, c.isDigit = true) ∧ ∀ c ∈ u.head?, c.isDigit = false := by
  refine ⟨t.takeWhile Char.isDigit, t.dropWhile Char.isDigit, List.takeWhile_append_dropWhile.symm,
    List.all_eq_true.1 List.all_takeWhile, fun c hc => ?_⟩
  have hnot := List.head?_dropWhile_not Char.isDigit t
  rwa [Option.mem_def.1 hc] at hnot

theorem dropWhile_digits_append (hw : ∀ c ∈ w, c.isDigit = true)
    (ht : ∀ c ∈ t.head?, c.isDigit = false) : (w ++ t).dropWhile Char.isDigit = t := by
  rw [List.dropWhile_append_of_pos hw]
  cases t with
  | nil => rfl
  | cons c t => exact List.dropWhile_cons_of_neg (by simp [ht c rfl])

theorem afterNumber_whole (hw : ∀ c ∈ w, c.isDigit = true) (ht : ∀ c ∈ t.head?, c.isDigit = false)
    (hpoint : ∀ d tail, t = '.' :: d :: tail → d.isDigit = false) : afterNumber (w ++ t) = t := by
  rw [afterNumber, dropWhile_digits_append hw ht]
  split
  next d tail => rw [if_neg (by simp [hpoint d tail rfl])]
  next => rfl

theorem afterNumber_fraction (hw : ∀ c ∈ w, c.isDigit = true) (hf : Text.isDigits f = true)
    (ht : ∀ c ∈ t.head?, c.isDigit = false) : afterNumber (w ++ '.' :: (f ++ t)) = t := by
  obtain ⟨hne, hdigits⟩ := Text.isDigits_iff.1 hf
  obtain ⟨d, f, rfl⟩ := List.exists_cons_of_ne_nil hne
  obtain ⟨hd, hdigits⟩ := List.forall_mem_cons.1 hdigits
  have hpoint : ∀ c ∈ ('.' :: (d :: f ++ t)).head?, c.isDigit = false := by simp
  rw [afterNumber, dropWhile_digits_append hw hpoint, List.cons_append]
  simp only [hd, if_true]
  exact dropWhile_digits_append hdigits ht

/-- A number ends where neither a digit nor a point follows. -/
theorem afterNumber_of_mem (h : c :: u ∈ numberGrammar.matches')
    (ht : ∀ d ∈ t.head?, d.isDigit = false ∧ d ≠ '.') : afterNumber (u ++ t) = t := by
  have hstop : ∀ d ∈ t.head?, d.isDigit = false := fun d hd => (ht d hd).1
  rcases mem_numberGrammar.1 h with hdigits | ⟨w, f, hw, hf, heq⟩
  · refine afterNumber_whole (List.forall_mem_cons.1 (Text.isDigits_iff.1 hdigits).2).2 hstop ?_
    rintro d tail rfl
    exact absurd rfl (ht '.' rfl).2
  · obtain ⟨hne, hdigits⟩ := Text.isDigits_iff.1 hw
    obtain ⟨e, w, rfl⟩ := List.exists_cons_of_ne_nil hne
    obtain ⟨-, hu⟩ := List.cons.inj heq
    have hwhole := afterNumber_fraction (List.forall_mem_cons.1 hdigits).2 hf hstop
    rw [hu]
    simpa using hwhole

/-- What is taken off a text for a number is one, and no digit is left behind it. -/
theorem exists_number (hc : c.isDigit = true) (t : Text) :
    ∃ u ∈ numberGrammar.matches', c :: t = u ++ afterNumber t ∧
      ∀ d ∈ (afterNumber t).head?, d.isDigit = false := by
  obtain ⟨w, t, rfl, hw, ht⟩ := exists_digits t
  have hwhole : Text.isDigits (c :: w) = true :=
    Text.isDigits_iff.2 ⟨List.cons_ne_nil c w, List.forall_mem_cons.2 ⟨hc, hw⟩⟩
  by_cases hpoint : ∃ d tail, t = '.' :: d :: tail ∧ d.isDigit = true
  · obtain ⟨d, tail, rfl, hd⟩ := hpoint
    obtain ⟨f, t, rfl, hf, ht⟩ := exists_digits tail
    have hfraction : Text.isDigits (d :: f) = true :=
      Text.isDigits_iff.2 ⟨List.cons_ne_nil d f, List.forall_mem_cons.2 ⟨hd, hf⟩⟩
    have hafter := afterNumber_fraction hw hfraction ht
    rw [List.cons_append] at hafter
    rw [hafter]
    exact ⟨_, mem_numberGrammar.2 (.inr ⟨_, _, hwhole, hfraction, rfl⟩), by simp, ht⟩
  · have hafter : afterNumber (w ++ t) = t :=
      afterNumber_whole hw ht fun d tail heq => by
        cases hd : d.isDigit with
        | false => rfl
        | true => exact absurd ⟨d, tail, heq, hd⟩ hpoint
    rw [hafter]
    exact ⟨_, mem_numberGrammar.2 (.inl hwhole), rfl, ht⟩

/-! ## Spelled tokens -/

/-- The first token is known from the first character. -/
theorem exists_head_of_spelled (h : t ∈ spellings Token.lexeme (token :: ts)) :
    ∃ c, t.head? = some c ∧ c ≠ '.' ∧ (c.isDigit = true ↔ token = .number) := by
  rw [spellings_cons] at h
  obtain ⟨u, hu, v, -, rfl⟩ := Language.mem_mul.1 h
  by_cases htoken : token = .number
  · subst htoken
    obtain ⟨c, u, rfl, hc⟩ := exists_digit_of_mem hu
    have hpoint : c ≠ '.' := by
      rintro rfl
      simp at hc
    exact ⟨c, rfl, hpoint, by simp [hc]⟩
  · obtain ⟨c, hlexeme, -, hdigit, hpoint⟩ := exists_char_of_ne_number htoken
    rw [hlexeme] at hu
    obtain rfl := mem_char.1 hu
    exact ⟨c, rfl, hpoint, by simp [hdigit, htoken]⟩

theorem head_of_spelled (h : t ∈ spellings Token.lexeme ts)
    (hts : ∀ token ∈ ts.head?, token ≠ .number) : ∀ c ∈ t.head?, c.isDigit = false ∧ c ≠ '.' := by
  intro c hc
  cases ts with
  | nil => simp [mem_spellings_nil.1 h] at hc
  | cons token ts =>
    obtain ⟨d, hd, hpoint, hdigit⟩ := exists_head_of_spelled h
    obtain rfl : d = c := Option.some.inj (hd.symm.trans hc)
    exact ⟨by simpa [hts token rfl] using hdigit, hpoint⟩

theorem tokens?_of_spelled (ht : t ∈ spellings Token.lexeme ts) (hts : NumbersApart ts) :
    tokens? t = some ts := by
  induction ts generalizing t with
  | nil => rw [mem_spellings_nil.1 ht, tokens?]
  | cons token ts ih =>
    rw [spellings_cons] at ht
    obtain ⟨u, hu, v, hv, rfl⟩ := Language.mem_mul.1 ht
    obtain ⟨hapart, hts⟩ := List.isChain_cons.1 hts
    have hrest := ih hv hts
    by_cases htoken : token = .number
    · subst htoken
      obtain ⟨c, u, rfl, hc⟩ := exists_digit_of_mem hu
      -- The number is read to its end, for no other stands behind it.
      have hhead := head_of_spelled hv fun t ht heq => hapart t ht ⟨rfl, heq⟩
      have hafter := afterNumber_of_mem hu hhead
      rw [List.cons_append, tokens?, if_pos hc, hafter, hrest]
      rfl
    · obtain ⟨c, hlexeme, hchar, hdigit, -⟩ := exists_char_of_ne_number htoken
      rw [hlexeme] at hu
      obtain rfl := mem_char.1 hu
      simp only [List.singleton_append, tokens?, hdigit, hchar, hrest]
      rfl

theorem spelled_of_tokens? (h : tokens? t = some ts) :
    t ∈ spellings Token.lexeme ts ∧ NumbersApart ts := by
  fun_induction tokens? t generalizing ts with
  | case1 =>
    obtain rfl := Option.some.inj h
    exact ⟨mem_spellings_nil.2 rfl, .nil⟩
  | case2 c rest hc ih =>
    obtain ⟨ts, hts, rfl⟩ := Option.map_eq_some_iff.1 h
    obtain ⟨hspelled, hapart⟩ := ih hts
    obtain ⟨u, hu, heq, hhead⟩ := exists_number hc rest
    refine ⟨?_, List.isChain_cons.2 ⟨?_, hapart⟩⟩
    · rw [heq, spellings_cons]
      exact Language.append_mem_mul hu hspelled
    -- A number behind the number would start with a digit, which longest match
    -- has taken.
    · rintro token htoken ⟨-, rfl⟩
      obtain ⟨tail, rfl⟩ := List.head?_eq_some_iff.1 htoken
      obtain ⟨d, hd, -, hdigit⟩ := exists_head_of_spelled hspelled
      rw [hhead d hd] at hdigit
      simp at hdigit
  | case3 => cases h
  | case4 c rest hc token htoken ih =>
    obtain ⟨ts, hts, rfl⟩ := Option.map_eq_some_iff.1 h
    obtain ⟨hspelled, hapart⟩ := ih hts
    obtain ⟨hne, hlexeme⟩ := mem_lexeme_of_ofChar? htoken
    refine ⟨?_, List.isChain_cons.2 ⟨fun _ _ hnumber => hne hnumber.1, hapart⟩⟩
    rw [spellings_cons, ← List.singleton_append]
    exact Language.append_mem_mul hlexeme hspelled

end Arithmetic

end LineScript
