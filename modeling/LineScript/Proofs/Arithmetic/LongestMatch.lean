/-
What reading tokens gives, said without the reader, in two ways. As a scan by
longest match: it takes the longest start of the text that is a text of some token,
goes on behind it, and fails where no token starts (`Arithmetic.Scans`). And as a
cut of the whole text into texts of tokens, no number right behind another
(`Arithmetic.IsTokenization`).

A scan decides by what stands in front of it, a cut by the whole text. They come to
the same (`Arithmetic.tokens?_tokenization`): a number that is taken as far as it
goes leaves nothing that another way of cutting could use, neither a digit nor a
point, which begins no token.
-/
import LineScript.Proofs.Arithmetic.Tokens
import Mathlib.Data.Set.Subsingleton

namespace LineScript

namespace Arithmetic

open Grammar RegularExpression

/-- A text of the token stands at the start of `t`, and `rest` behind it. -/
def Starts (t : Text) (token : Token) (rest : Text) : Prop :=
  ∃ u ∈ token.lexeme.matches', t = u ++ rest

/-- The text of the token that stands at the start of `t` is the longest of all that
do, whatever their tokens. -/
structure Takes (t : Text) (token : Token) (rest : Text) : Prop where
  starts : Starts t token rest
  longest : ∀ other behind, Starts t other behind → rest.length ≤ behind.length

/-- A scan by longest match, with its result: the tokens that were taken, or none
if a place was reached where no token starts. -/
inductive Scans : Text → Option (List Token) → Prop
  | done : Scans [] (some [])
  | token {t rest : Text} {token : Token} {result : Option (List Token)} :
      Takes t token rest → Scans rest result → Scans t (result.map (token :: ·))
  | stuck {t : Text} : t ≠ [] → (∀ token rest, ¬Starts t token rest) → Scans t none

/-- A text cut into texts of tokens, one for each token and in order, where no
number stands right behind another. -/
structure IsTokenization (t : Text) (ts : List Token) : Prop where
  spelled : ∃ lexemes, List.Forall₂ (fun u token => u ∈ token.lexeme.matches') lexemes ts ∧
    t = lexemes.flatten
  apart : NumbersApart ts

variable {c : Char} {t u rest : Text} {token : Token} {ts : List Token}

/-! ## What a scan takes -/

/-- However a number is cut off a text, taking it as far as it goes leaves no more. -/
theorem length_afterNumber_append_le (h : c :: u ∈ numberGrammar.matches') (rest : Text) :
    (afterNumber (u ++ rest)).length ≤ rest.length := by
  rcases mem_numberGrammar.1 h with hdigits | ⟨w, f, hw, hf, heq⟩
  · have hu := (List.forall_mem_cons.1 (Text.isDigits_iff.1 hdigits).2).2
    rw [afterNumber, List.dropWhile_append_of_pos hu]
    exact length_afterNumber_le rest
  · obtain ⟨hne, hdigits⟩ := Text.isDigits_iff.1 hw
    obtain ⟨d, w, rfl⟩ := List.exists_cons_of_ne_nil hne
    have hu : u = w ++ '.' :: f := (List.cons.inj heq).2
    obtain ⟨hfne, hf⟩ := Text.isDigits_iff.1 hf
    obtain ⟨more, rest, rfl, hmore, hrest⟩ := exists_digits rest
    have hfraction : Text.isDigits (f ++ more) = true :=
      Text.isDigits_iff.2 ⟨by simp [hfne], List.forall_mem_append.2 ⟨hf, hmore⟩⟩
    have hafter := afterNumber_fraction (List.forall_mem_cons.1 hdigits).2 hfraction hrest
    have htext : u ++ (more ++ rest) = w ++ '.' :: (f ++ more ++ rest) := by simp [hu]
    rw [htext, hafter, List.length_append]
    exact Nat.le_add_left _ _

/-- What can stand at the start of a text: a number behind which is at least what
the reader leaves, or another token, which is one character. -/
theorem Starts.exists_cons (h : Starts t token rest) :
    ∃ c tail, t = c :: tail ∧
      ((c.isDigit = true ∧ token = .number ∧ (afterNumber tail).length ≤ rest.length) ∨
        (c.isDigit = false ∧ Token.ofChar? c = some token ∧ rest = tail)) := by
  obtain ⟨u, hu, rfl⟩ := h
  by_cases htoken : token = .number
  · subst htoken
    obtain ⟨c, u, rfl, hc⟩ := exists_digit_of_mem hu
    exact ⟨c, u ++ rest, rfl, .inl ⟨hc, rfl, length_afterNumber_append_le hu rest⟩⟩
  · obtain ⟨c, hlexeme, hchar, hdigit, -⟩ := exists_char_of_ne_number htoken
    rw [hlexeme] at hu
    obtain rfl := mem_char.1 hu
    exact ⟨c, rest, rfl, .inr ⟨hdigit, hchar, rfl⟩⟩

theorem Starts.of_digit (hc : c.isDigit = true) (h : Starts (c :: t) token rest) :
    token = .number ∧ (afterNumber t).length ≤ rest.length := by
  obtain ⟨d, tail, heq, hstart⟩ := h.exists_cons
  obtain ⟨rfl, rfl⟩ := List.cons.inj heq
  rcases hstart with ⟨-, hnumber⟩ | ⟨hdigit, -⟩
  · exact hnumber
  · simp [hc] at hdigit

theorem Starts.of_not_digit (hc : c.isDigit = false) (h : Starts (c :: t) token rest) :
    Token.ofChar? c = some token ∧ rest = t := by
  obtain ⟨d, tail, heq, hstart⟩ := h.exists_cons
  obtain ⟨rfl, rfl⟩ := List.cons.inj heq
  rcases hstart with ⟨hdigit, -⟩ | ⟨-, hchar⟩
  · simp [hc] at hdigit
  · exact hchar

theorem takes_number (hc : c.isDigit = true) (t : Text) :
    Takes (c :: t) .number (afterNumber t) where
  starts := by
    obtain ⟨u, hu, heq, -⟩ := exists_number hc t
    exact ⟨u, hu, heq⟩
  longest _ _ h := (h.of_digit hc).2

theorem takes_char (hc : c.isDigit = false) (h : Token.ofChar? c = some token) (t : Text) :
    Takes (c :: t) token t where
  starts := ⟨[c], (mem_lexeme_of_ofChar? h).2, rfl⟩
  longest _ _ h := by rw [(h.of_not_digit hc).2]

/-- Both are the end of one text, and neither is longer than the other. -/
theorem Takes.rest_unique {other : Token} {behind : Text} (h : Takes t token rest)
    (h' : Takes t other behind) : rest = behind := by
  have hlength := Nat.le_antisymm (h.longest _ _ h'.starts) (h'.longest _ _ h.starts)
  obtain ⟨u, -, hu⟩ := h.starts
  obtain ⟨u', -, hu'⟩ := h'.starts
  exact List.append_inj_right' (hu.symm.trans hu') hlength

/-! ## The reader is a scan -/

theorem tokens?_of_takes (h : Takes t token rest) :
    tokens? t = (tokens? rest).map (token :: ·) := by
  obtain ⟨c, tail, rfl, ⟨hc, rfl, -⟩ | ⟨hc, hchar, rfl⟩⟩ := h.starts.exists_cons
  · rw [h.rest_unique (takes_number hc tail), tokens?, if_pos hc]
  · rw [tokens?, if_neg (by simp [hc]), hchar]

theorem tokens?_of_stuck (hne : t ≠ []) (h : ∀ token rest, ¬Starts t token rest) :
    tokens? t = none := by
  obtain ⟨c, t, rfl⟩ := List.exists_cons_of_ne_nil hne
  cases hc : c.isDigit with
  | true => exact absurd (takes_number hc t).starts (h _ _)
  | false =>
    cases hchar : Token.ofChar? c with
    | some token => exact absurd (takes_char hc hchar t).starts (h _ _)
    | none => rw [tokens?, if_neg (by simp [hc]), hchar]

theorem scans_tokens? (t : Text) : Scans t (tokens? t) := by
  fun_induction tokens? t with
  | case1 => exact .done
  | case2 c rest hc ih => exact .token (takes_number hc rest) ih
  | case3 c rest hc hchar =>
    refine .stuck (List.cons_ne_nil c rest) fun token behind h => ?_
    rw [(h.of_not_digit (by simpa using hc)).1] at hchar
    cases hchar
  | case4 c rest hc token hchar ih => exact .token (takes_char (by simpa using hc) hchar rest) ih

/-- A text is scanned in one way only. -/
theorem scans_iff (t : Text) (result : Option (List Token)) :
    Scans t result ↔ tokens? t = result := by
  constructor
  · intro h
    induction h with
    | done => rw [tokens?]
    | token htakes _ ih => rw [tokens?_of_takes htakes, ih]
    | stuck hne hstuck => exact tokens?_of_stuck hne hstuck
  · rintro rfl
    exact scans_tokens? t

/-! ## The reader is a cut -/

theorem isTokenization_iff :
    IsTokenization t ts ↔ t ∈ spellings Token.lexeme ts ∧ NumbersApart ts := by
  rw [mem_spellings_iff]
  exact ⟨fun h => ⟨h.spelled, h.apart⟩, fun h => ⟨h.1, h.2⟩⟩

theorem tokens?_eq_some_iff : tokens? t = some ts ↔ IsTokenization t ts := by
  rw [isTokenization_iff]
  exact ⟨spelled_of_tokens?, fun h => tokens?_of_spelled h.1 h.2⟩

/-- **Reading by longest match gives the one tokenization of a text, and fails
exactly where the text has none.** Every scan by longest match comes to the result
of the reader. It is the tokens into whose texts the whole text can be cut with no
number right behind another; a text can be cut so in one way at most. -/
theorem tokens?_tokenization (t : Text) :
    (∀ result, Scans t result ↔ tokens? t = result) ∧
      (∀ ts, tokens? t = some ts ↔ IsTokenization t ts) ∧
      (tokens? t = none ↔ ∀ ts, ¬IsTokenization t ts) ∧
      {ts | IsTokenization t ts}.Subsingleton := by
  refine ⟨scans_iff t, fun ts => tokens?_eq_some_iff, ?_, fun ts hts us hus => ?_⟩
  · simp only [Option.eq_none_iff_forall_ne_some, ne_eq, tokens?_eq_some_iff]
  · have hread := (tokens?_eq_some_iff.2 hts).symm.trans (tokens?_eq_some_iff.2 hus)
    exact Option.some.inj hread

/-- A point that no digit follows is part of no number and begins no token. -/
example : tokens? ['(', '1', '.', '5', '+', '2', ')'] =
      some [.openParen, .number, .plus, .number, .closeParen] ∧
    tokens? ['1', '.', '5', '.'] = none := by
  decide +kernel

end Arithmetic

end LineScript
