/-
Compound lines written out. A block line with a body on it stands for its
header, the body's lines and a closing brace; a closing brace with text behind
it stands for the brace and the lines of that text (`expansion`).

Without traces, executing a line has the effect of executing the lines of its
expansion in order, up to the first failure (`execLine_expansion`), provided
that cutting a header off its line leaves its construct alone: the construct is
read from the first word, and in `x{if}` the cut goes through that word.

The body of a block line may fail, or close more blocks than it opens. Nothing
depends on that: both sides do the same actions in the same order.
-/
import LineScript.Proofs.Construct.Nested
import LineScript.Proofs.Session.Quiet

namespace LineScript

namespace Text

/-- A block line up to its opening brace, the brace included. -/
def headerPart (text : Text) : Text :=
  match cutHeader? false text with
  | none => []
  | some (header, _) => header

/-- A header has no body of its own. -/
theorem inlineBody?_headerPart {text body : Text} (h : inlineBody? text = some body) :
    inlineBody? (headerPart text) = none := by
  simp only [inlineBody?, Option.bind_eq_bind, Option.bind_eq_some_iff] at h
  obtain ⟨⟨header, rest⟩, hcut, -⟩ := h
  simp only [inlineBody?, headerPart, hcut, cutHeader?_header hcut]
  rfl

end Text

/-- A line of an expansion. -/
inductive ExpandedLine where
  /-- The header that was cut off a block line. -/
  | header (cutFrom : Text)
  /-- A closing brace by itself. -/
  | close
  /-- A line that stands for itself. -/
  | whole (text : Text)
  deriving DecidableEq

/-- The text of a line of an expansion. -/
def ExpandedLine.text : ExpandedLine → Text
  | header cutFrom => cutFrom.headerPart
  | close => ['}']
  | whole text => text

/-- The lines that a line stands for. -/
def expansion (text : Text) : List ExpandedLine :=
  match Construct.ofLine? text with
  | some (.block _) =>
    match h : Text.inlineBody? text with
    | none => [.whole text]
    | some [] => [.header text, .close]
    | some (c :: body) =>
      have := Text.length_inlineBody?_lt h
      .header text :: expansion (c :: body) ++ [.close]
  | some .closeBrace =>
    if h : Text.afterClose text = [] then [.whole text]
    else
      have := Text.length_afterClose_lt h
      .close :: expansion (Text.afterClose text)
  | _ => [.whole text]
termination_by text.length

section

variable {text : Text} {kind : BlockKind}

theorem expansion_emptyBlock (hc : Construct.ofLine? text = some (.block kind))
    (hb : text.inlineBody? = some []) : expansion text = [.header text, .close] := by
  rw [expansion]
  simp only [hc]
  split <;> simp_all

theorem expansion_inlineBlock {c : Char} {body : Text}
    (hc : Construct.ofLine? text = some (.block kind)) (hb : text.inlineBody? = some (c :: body)) :
    expansion text = .header text :: expansion (c :: body) ++ [.close] := by
  rw [expansion]
  simp only [hc]
  split <;> simp_all

theorem expansion_header (hc : Construct.ofLine? text = some (.block kind))
    (hb : text.inlineBody? = none) : expansion text = [.whole text] := by
  rw [expansion]
  simp only [hc]
  split <;> simp_all

theorem expansion_close (hc : Construct.ofLine? text = some .closeBrace)
    (ha : text.afterClose = []) : expansion text = [.whole text] := by
  rw [expansion]
  simp only [hc]
  exact dif_pos ha

theorem expansion_closeThen (hc : Construct.ofLine? text = some .closeBrace)
    (ha : text.afterClose ≠ []) :
    expansion text = .close :: expansion text.afterClose := by
  rw [expansion]
  simp only [hc]
  exact dif_neg ha

theorem expansion_other (hblock : ∀ kind, Construct.ofLine? text ≠ some (.block kind))
    (hclose : Construct.ofLine? text ≠ some .closeBrace) : expansion text = [.whole text] := by
  rw [expansion]
  split
  next kind hc => exact absurd hc (hblock kind)
  next hc => exact absurd hc hclose
  next => rfl

end

/-- Cutting headers off leaves their constructs alone. -/
def KeepsHeaders (text : Text) : Prop :=
  ∀ t, .header t ∈ expansion text → Construct.ofLine? t.headerPart = Construct.ofLine? t

/-- Executes the lines of an expansion under one number. -/
def Run.execExpansion {σ : Type} [Sink σ] (line : Nat) (ls : List ExpandedLine) : Run σ Unit :=
  Run.execLines (ls.map fun l => ⟨line, l.text⟩)

namespace Run

variable {σ : Type} [Sink σ]

theorem execExpansion_cons (line : Nat) (l : ExpandedLine) (ls : List ExpandedLine) :
    (execExpansion line (l :: ls) : Run σ Unit) =
      execLine line l.text >>= fun _ => execExpansion line ls :=
  rfl

theorem execExpansion_append (line : Nat) (ls ls' : List ExpandedLine) :
    (execExpansion line (ls ++ ls') : Run σ Unit) =
      execExpansion line ls >>= fun _ => execExpansion line ls' := by
  rw [execExpansion, List.map_append, execLines_append]
  rfl

theorem execExpansion_whole (line : Nat) (text : Text) :
    (execExpansion line [.whole text] : Run σ Unit) = execLine line text :=
  execLines_singleton _

theorem execExpansion_close (line : Nat) :
    SameEffect (execExpansion line [.close] : Run σ Unit) (closeInnermost line) := by
  have hsingle : (execExpansion line [.close] : Run σ Unit) = execLine line ['}'] :=
    execLines_singleton _
  rw [hsingle]
  exact execLine_brace_sameEffect line

theorem execLine_headerPart {text body : Text} {kind : BlockKind} (line : Nat)
    (hc : Construct.ofLine? text = some (.block kind)) (hb : text.inlineBody? = some body)
    (hkeep : Construct.ofLine? text.headerPart = Construct.ofLine? text) :
    SameEffect (execLine line text.headerPart : Run σ Unit) (openInnermost line kind) :=
  execLine_header_sameEffect line (hkeep.trans hc) (Text.inlineBody?_headerPart hb)

theorem execLine_sameEffect_expansion (line : Nat) (text : Text) (h : KeepsHeaders text) :
    SameEffect (execLine line text : Run σ Unit) (execExpansion line (expansion text)) := by
  induction text using expansion.induct with
  | case1 text kind hc hb =>
    rw [expansion_header hc hb, execExpansion_whole]
    exact .refl _
  | case2 text kind hc hb =>
    have hexp := expansion_emptyBlock hc hb
    have hheader := h text (by rw [hexp]; exact List.mem_cons_self ..)
    rw [hexp, execExpansion_cons]
    refine (execLine_emptyBlock_sameEffect line hc hb).trans (.symm ?_)
    exact .bind (keepsOptions.atoms.steps.execLine _ _) (execLine_headerPart line hc hb hheader)
      fun _ => execExpansion_close line
  | case3 text kind hc c body hb _ ih =>
    have hexp := expansion_inlineBlock hc hb
    have hheader := h text (by rw [hexp]; exact List.mem_cons_self ..)
    have hbody : KeepsHeaders (c :: body) := fun t ht => h t (by rw [hexp]; simp [ht])
    rw [hexp, List.cons_append, execExpansion_cons, execExpansion_append]
    refine (execLine_inlineBlock_sameEffect line hc hb).trans (.symm ?_)
    refine .bind (keepsOptions.atoms.steps.execLine _ _) (execLine_headerPart line hc hb hheader)
      fun _ => ?_
    exact .bind (keepsOptions.atoms.steps.execLines _) (ih hbody).symm
      fun _ => execExpansion_close line
  | case4 text hc ha =>
    rw [expansion_close hc ha, execExpansion_whole]
    exact .refl _
  | case5 text hc ha _ ih =>
    have hexp := expansion_closeThen hc ha
    have hrest : KeepsHeaders text.afterClose := fun t ht => h t (by rw [hexp]; simp [ht])
    rw [hexp, execExpansion_cons]
    refine (execLine_closeThen_sameEffect line hc ha).trans (.symm ?_)
    exact .bind (keepsOptions.atoms.steps.execLine _ _)
      (execLine_brace_sameEffect line) fun _ => (ih hrest).symm
  | case6 text hblock hclose =>
    rw [expansion_other hblock hclose, execExpansion_whole]
    exact .refl _

end Run

/-- **Splitting a compound line does not change its meaning.** Without traces,
a line and the lines of its expansion, run in order up to the first failure,
have the same result and leave the same session: the bindings, the frames with
their identities, the open blocks with their lines, the counts, and the sink
with all that was written to it. -/
theorem execLine_expansion {σ : Type} [Sink σ] (line : Nat) (text : Text) (s : Session σ)
    (htrace : s.options.trace = false)
    (hkeep : ∀ t, .header t ∈ expansion text →
      Construct.ofLine? t.headerPart = Construct.ofLine? t) :
    (Run.execLine line text s).result = (Run.execExpansion line (expansion text) s).result ∧
      (Run.execLine line text s).session =
        (Run.execExpansion line (expansion text) s).session :=
  Run.execLine_sameEffect_expansion line text hkeep s htrace

/-- An `if` line whose body closes the block itself and opens another one:
`if a {} else { puts 1 }`. -/
theorem execLine_expansion_if_else :
    let text := ['i', 'f', ' ', 'a', ' ', '{', '}', ' ', 'e', 'l', 's', 'e', ' ', '{', ' ',
      'p', 'u', 't', 's', ' ', '1', ' ', '}']
    let s := Session.start ⟨false, false⟩ Buffer.unlimited
    expansion text = [.header text, .close,
        .whole ['e', 'l', 's', 'e', ' ', '{', ' ', 'p', 'u', 't', 's', ' ', '1'], .close] ∧
      (Run.execLine 1 text s).session = (Run.execExpansion 1 (expansion text) s).session := by
  intro text s
  have hexp : expansion text = [.header text, .close,
      .whole ['e', 'l', 's', 'e', ' ', '{', ' ', 'p', 'u', 't', 's', ' ', '1'], .close] := by
    decide +kernel
  refine ⟨hexp, (execLine_expansion 1 text s rfl fun t ht => ?_).2⟩
  rw [hexp] at ht
  obtain rfl : t = text := by simpa using ht
  decide +kernel

end LineScript
