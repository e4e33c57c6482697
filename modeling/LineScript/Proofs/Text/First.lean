/-
What comes first: the first element of a list that has a property, said by the
elements in front of it, and the first occurrence of a phrase in a text, where
`Text.cut?` cuts. Nothing behind an occurrence moves the cut, and every other
occurrence is behind it.
-/
import LineScript.Proofs.Text.Parts

namespace LineScript

/-- The first element that has a property has it, and none in front of it does. -/
theorem find?_eq_some_iff_takeWhile {α : Type} [DecidableEq α] {p : α → Bool} {l : List α} {a : α}
    (ha : a ∈ l) :
    l.find? p = some a ↔ p a = true ∧ ∀ b ∈ l.takeWhile (· ≠ a), p b = false := by
  induction l with
  | nil => cases ha
  | cons x l ih =>
    by_cases hx : x = a
    · subst hx
      cases hp : p x with
      | true => simp [hp]
      | false =>
        have hnone : l.find? p ≠ some x := fun h => by simp [List.find?_some h] at hp
        simp [hp, hnone]
    · have hmem : a ∈ l := (List.mem_cons.1 ha).resolve_left (Ne.symm hx)
      rw [List.takeWhile_cons_of_pos (by simpa using hx), List.forall_mem_cons, List.find?_cons]
      cases hp : p x with
      | true => simp [hx]
      | false => simpa using ih hmem

namespace Text

variable {phrase before after t : Text}

theorem contains_iff_infix : contains phrase t = true ↔ phrase <:+: t := by
  constructor
  · intro h
    obtain ⟨⟨before, after⟩, hcut⟩ := Option.isSome_iff_exists.1 h
    exact ⟨before, after, (eq_of_cut? hcut).symm⟩
  · rintro ⟨before, after, rfl⟩
    rw [List.append_assoc]
    exact contains_append before phrase after

/-- A longer text is cut at the same place. -/
theorem cut?_append_right (h : cut? phrase t = some (before, after)) (u : Text) :
    cut? phrase (t ++ u) = some (before, after ++ u) := by
  induction t generalizing before with
  | nil =>
    rw [cut?] at h
    split at h
    next hphrase =>
      obtain ⟨rfl, rfl⟩ := Prod.mk.inj (Option.some.inj h)
      rw [hphrase]
      exact cut?_append [] u
    next => cases h
  | cons x rest ih =>
    rw [cut?] at h
    rw [List.cons_append, cut?]
    split at h
    next hstart =>
      obtain ⟨rfl, rfl⟩ := Prod.mk.inj (Option.some.inj h)
      have hshort := List.isPrefixOf_iff_prefix.1 hstart
      have hlong : phrase.isPrefixOf (x :: (rest ++ u)) = true :=
        List.isPrefixOf_iff_prefix.2 (hshort.trans (List.prefix_append (x :: rest) u))
      rw [if_pos hlong, ← List.cons_append, List.drop_append_of_le_length hshort.length_le]
    next hstart =>
      obtain ⟨⟨front, back⟩, hcut, heq⟩ := Option.map_eq_some_iff.1 h
      obtain ⟨rfl, rfl⟩ := Prod.mk.inj heq
      -- The phrase fits into the rest of the text, so at the start it would end there too.
      have hfits : phrase.length ≤ (x :: rest).length := by
        simp only [eq_of_cut? hcut, List.length_cons, List.length_append]
        omega
      have hlong : ¬phrase.isPrefixOf (x :: (rest ++ u)) = true := by
        intro hlong
        refine hstart (List.isPrefixOf_iff_prefix.2 ?_)
        exact List.prefix_of_prefix_length_le (List.isPrefixOf_iff_prefix.1 hlong)
          (List.prefix_append (x :: rest) u) hfits
      rw [if_neg hlong, ih hcut]
      rfl

/-- No occurrence of the phrase stands in front of the one at the cut. -/
theorem length_le_of_cut? (h : cut? phrase t = some (before, after)) {u v : Text}
    (ht : t = u ++ phrase ++ v) : before.length ≤ u.length := by
  induction t generalizing before u with
  | nil =>
    have hlength := congrArg List.length (eq_of_cut? h)
    simp only [List.length_append, List.length_nil] at hlength
    omega
  | cons x rest ih =>
    rw [cut?] at h
    split at h
    next =>
      obtain ⟨rfl, -⟩ := Prod.mk.inj (Option.some.inj h)
      exact Nat.zero_le _
    next hstart =>
      obtain ⟨⟨front, back⟩, hcut, heq⟩ := Option.map_eq_some_iff.1 h
      obtain ⟨rfl, rfl⟩ := Prod.mk.inj heq
      cases u with
      | nil => exact absurd (List.isPrefixOf_iff_prefix.2 ⟨v, ht.symm⟩) hstart
      | cons y u => exact Nat.succ_le_succ (ih hcut (List.cons.inj ht).2)

/-- What stands behind the phrase does not move the cut. -/
theorem cut?_of_cut?_append (h : cut? phrase (before ++ phrase ++ after) = some (before, after))
    (u : Text) : cut? phrase (before ++ phrase ++ u) = some (before, u) := by
  have hcontains : contains phrase (before ++ phrase) = true :=
    contains_iff_infix.2 (List.suffix_append before phrase).isInfix
  obtain ⟨⟨front, back⟩, hcut⟩ := Option.isSome_iff_exists.1 hcontains
  have hlong := (cut?_append_right hcut after).symm.trans h
  obtain ⟨rfl, hback⟩ := Prod.mk.inj (Option.some.inj hlong)
  obtain rfl := List.append_left_eq_self.1 hback
  exact cut?_append_right hcut u

end Text

end LineScript
