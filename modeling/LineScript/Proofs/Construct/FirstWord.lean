/-
What the first word of a line says about its construct, and in particular the
first word of a line that starts with a closing brace.

The brace does not end the word: what stands behind it up to the next white
space belongs to the same word (`Text.glued`), and every keyword in it is tried
before the closing brace is (`Construct.ofLine?_brace_cons`).
-/
import LineScript.Construct.Basic
import LineScript.Proofs.Text.First
import LineScript.Proofs.Text.Words
import Mathlib.Data.List.Find

namespace LineScript

namespace Construct

theorem ofLine?_of_word {w : Text} (h : w.IsWord) (t : Text) :
    ofLine? (w ++ ' ' :: t) = ofWord? w := by
  rw [ofLine?, h.firstWord?_append (by decide)]
  rfl

/-- The keyword of a line's construct occurs in the line. -/
theorem keyword_subset {t : Text} {c : Construct} (h : ofLine? t = some c) : c.keyword ⊆ t := by
  obtain ⟨w, hw, hc⟩ := Option.bind_eq_some_iff.1 h
  have hcontains : Text.contains c.keyword w = true := by simpa using List.find?_some hc
  have hkeyword : c.keyword ⊆ w := (Text.contains_iff_infix.1 hcontains).subset
  exact List.Subset.trans hkeyword (Text.subset_of_mem_words (List.mem_of_head? hw))

/-- The argument of a line that starts with its keyword. -/
theorem argument_keyword (c : Construct) (t : Text) : c.argument (c.keyword ++ t) = t.trim := by
  rw [argument, Text.cut?_append]

/-- The constructs that are tried before the closing brace. -/
def beforeBrace : List Construct :=
  byPriority.dropLast

theorem mem_beforeBrace_iff {c : Construct} : c ∈ beforeBrace ↔ c ≠ .closeBrace := by
  rcases c with _ | _ | _ | kind | _ | _
  case block => cases kind <;> decide
  all_goals decide

theorem ofWord?_eq (w : Text) :
    ofWord? w = (beforeBrace.find? fun c => Text.contains c.keyword w).or
      (if Text.contains closeBrace.keyword w then some .closeBrace else none) := by
  have hlist : byPriority = beforeBrace ++ [.closeBrace] := by decide
  rw [ofWord?, hlist, List.find?_append, List.find?_singleton]

/-- No other keyword than the closing brace starts with one. -/
theorem contains_brace_cons {c : Construct} (hc : c ≠ .closeBrace) (w : Text) :
    Text.contains c.keyword ('}' :: w) = Text.contains c.keyword w := by
  have hstart : c.keyword.isPrefixOf ('}' :: w) = false := by
    rcases c with _ | _ | _ | kind | _ | _
    case block => cases kind <;> rfl
    case closeBrace => exact absurd rfl hc
    all_goals rfl
  rw [Text.contains_cons, hstart, Bool.false_or]

theorem find?_brace_cons (w : Text) :
    (beforeBrace.find? fun c => Text.contains c.keyword ('}' :: w)) =
      beforeBrace.find? fun c => Text.contains c.keyword w := by
  refine List.find?_congr fun c hc => ?_
  exact contains_brace_cons (mem_beforeBrace_iff.1 hc) w

/-- A line that starts with a closing brace is what the text glued to the brace
says, and a closing brace only if that says nothing. -/
theorem ofLine?_brace_cons (t : Text) :
    ofLine? ('}' :: t) = some ((ofWord? t.glued).getD .closeBrace) := by
  have hbrace : Text.contains closeBrace.keyword ('}' :: t.glued) = true := by
    rw [Text.contains_cons]
    rfl
  have hword : Text.firstWord? ('}' :: t) = some ('}' :: t.glued) :=
    (Text.isWord_singleton (by decide)).firstWord?_glued t
  rw [ofLine?, hword]
  show ofWord? ('}' :: t.glued) = _
  rw [ofWord?_eq, ofWord?_eq t.glued, find?_brace_cons, if_pos hbrace]
  cases beforeBrace.find? fun c => Text.contains c.keyword t.glued with
  | some c => rfl
  | none => split <;> rfl

theorem ofLine?_brace_cons_iff (t : Text) :
    ofLine? ('}' :: t) = some .closeBrace ↔
      ∀ c : Construct, c ≠ .closeBrace → Text.contains c.keyword t.glued = false := by
  rw [ofLine?_brace_cons, ofWord?_eq]
  cases hfind : beforeBrace.find? fun c => Text.contains c.keyword t.glued with
  | some c =>
    have hc : c ≠ .closeBrace := mem_beforeBrace_iff.1 (List.mem_of_find?_eq_some hfind)
    have hcontains : Text.contains c.keyword t.glued = true := by
      simpa using List.find?_some hfind
    constructor
    · intro h
      exact absurd (Option.some.inj h) hc
    · intro h
      rw [h c hc] at hcontains
      cases hcontains
  | none =>
    have hnone := List.find?_eq_none.1 hfind
    refine ⟨fun _ c hc => ?_, fun _ => ?_⟩
    · simpa using hnone c (mem_beforeBrace_iff.2 hc)
    · split <;> rfl

end Construct

end LineScript
