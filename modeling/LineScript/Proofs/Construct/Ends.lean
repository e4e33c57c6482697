/-
What is read from a line is the same with other white space at its ends: the
construct, the argument, the body between the braces, what stands behind a
closing brace, and the two sides of a binding.

Each reader cuts the line somewhere and trims what it takes, so that a blank
behind the line is trimmed off; a blank in front of it stands before the cut.
-/
import LineScript.Construct.Let
import LineScript.Proofs.Text.Ends
import LineScript.Session.Exec

namespace LineScript

open Text

theorem Construct.ignoresEnds_ofLine? : IgnoresEnds Construct.ofLine? :=
  ignoresEnds_firstWord?.map fun word => word.bind Construct.ofWord?

theorem Construct.isWord_keyword (c : Construct) : c.keyword.IsWord := by
  rcases c with _ | _ | _ | kind | _ | _
  case block => cases kind <;> decide
  all_goals decide

theorem Construct.ignoresEnds_argument (c : Construct) : IgnoresEnds c.argument where
  front hb t := by
    rw [argument, argument, cut?_cons c.isWord_keyword hb]
    cases cut? c.keyword t <;> rfl
  back hb t := by
    rw [argument, argument, cut?_concat c.isWord_keyword hb]
    cases cut? c.keyword t with
    | none => rfl
    | some parts => exact ignoresEnds_trim.back hb parts.2

theorem Text.ignoresEnds_inlineBody? : IgnoresEnds inlineBody? where
  front hb t := by
    rw [inlineBody?, inlineBody?, cutHeader?_cons hb]
    cases cutHeader? false t <;> rfl
  back hb t := by
    rw [inlineBody?, inlineBody?, cutHeader?_concat hb]
    cases cutHeader? false t with
    | none => rfl
    | some parts =>
      show (dropLast? '}' (trimEnd (parts.2 ++ _))).bind _ = _
      rw [trimEnd_concat_blank hb]
      rfl

theorem Text.ignoresEnds_afterClose : IgnoresEnds afterClose where
  front hb t := by
    rw [afterClose, afterClose, cutAt?_cons (ne_of_isBlank hb (by decide))]
    cases cutAt? '}' t <;> rfl
  back hb t := by
    rw [afterClose, afterClose, cutAt?_concat (ne_of_isBlank hb (by decide))]
    cases cutAt? '}' t with
    | none => rfl
    | some parts => exact ignoresEnds_trim.back hb parts.2

/-- The word that holds the name is one of the words. -/
theorem LetStatement.mem_of_nameWord? {words : List Text} {word : Text} {mutable : Bool}
    (h : nameWord? words = some (word, mutable)) : word ∈ words := by
  cases words with
  | nil => cases h
  | cons first rest =>
    rw [nameWord?] at h
    split at h
    · obtain ⟨word', hhead, heq⟩ := Option.map_eq_some_iff.1 h
      obtain ⟨rfl, -⟩ := Prod.mk.inj heq
      exact List.mem_cons_of_mem _ (List.mem_of_mem_head? hhead)
    · obtain ⟨rfl, -⟩ := Prod.mk.inj (Option.some.inj h)
      exact List.mem_cons_self ..

theorem LetStatement.ignoresEnds_ofLine? : IgnoresEnds LetStatement.ofLine? where
  front := by
    intro b hb t
    rw [ofLine?, ofLine?, cutAt?_cons (ne_of_isBlank hb (by decide)), ignoresEnds_words.front hb]
    cases cutAt? '=' t with
    | none => rfl
    | some parts =>
      simp only [Option.bind_eq_bind, Option.map_some, Option.bind_some, Prod.map, id]
      cases hname : nameWord? ((words t).drop 1) with
      | none => rfl
      | some found =>
        obtain ⟨word, mutable⟩ := found
        have hword := isWord_of_mem_words (List.mem_of_mem_drop (mem_of_nameWord? hname))
        have hsolid : ∀ c ∈ word.takeWhile (· ≠ '='), isBlank c = false :=
          fun c hc => hword.solid c ((List.takeWhile_sublist _).subset hc)
        simp only [Option.bind_some]
        generalize word.takeWhile (· ≠ '=') = name at hsolid ⊢
        -- The empty name would be found anywhere, but it is refused before it is looked for.
        cases name with
        | nil => rfl
        | cons c rest => rw [contains_cons_blank ⟨List.cons_ne_nil c rest, hsolid⟩ hb]
  back := by
    intro b hb t
    rw [ofLine?, ofLine?, cutAt?_concat (ne_of_isBlank hb (by decide)), ignoresEnds_words.back hb]
    cases cutAt? '=' t with
    | none => rfl
    | some parts =>
      simp only [Option.bind_eq_bind, Option.map_some, Option.bind_some, Prod.map, id,
        ignoresEnds_trim.back hb]

theorem ignoresEnds_readBinding : IgnoresEnds readBinding where
  front hb t := by rw [readBinding, readBinding, LetStatement.ignoresEnds_ofLine?.front hb]
  back hb t := by rw [readBinding, readBinding, LetStatement.ignoresEnds_ofLine?.back hb]

end LineScript
