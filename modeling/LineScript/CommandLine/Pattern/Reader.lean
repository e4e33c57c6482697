/-
Which texts are patterns. A pattern is read part by part: characters and
classes of them, places, groups, alternatives and repetitions. The reader keeps
what decides whether the next part may stand where it does: the mode, whether
there is something to repeat, the groups and classes that are open and the
names of groups already taken. It also counts how deep the parts are nested.

Main statement: reading a part leaves less to read (`Reader.length_lt_of_step?`),
so that reading ends.
-/
import LineScript.CommandLine.Pattern.Atom
import LineScript.CommandLine.Pattern.Nesting
import LineScript.Text.Identifier

namespace LineScript

namespace Pattern

inductive ClassPosition where
  /-- Behind the opening of the class. -/
  | start
  /-- Behind the hyphens that the class starts with. -/
  | hyphens
  /-- Further inside. -/
  | members
  deriving DecidableEq

inductive Position where
  /-- At the start of an alternative or behind a change of mode, where there is
  nothing to repeat. -/
  | start
  /-- Behind something that may be repeated. -/
  | part
  /-- In a class, which may stand inside others, the innermost first. -/
  | inClass (position : ClassPosition) (inner : CharacterClass) (outer : List CharacterClass)
  deriving DecidableEq

structure Reader where
  position : Position
  /-- The innermost group that is open, or the whole pattern. -/
  group : Group
  /-- The groups around it, the innermost first. -/
  outer : List Group
  groupNames : List Text
  deriving DecidableEq

/-- What may follow in the name of a group. -/
def isGroupNamePart (c : Char) : Bool :=
  isAlphabetic c || isNumeric c || c ∈ ['_', '.', '[', ']']

def isGroupName : Text → Bool
  | [] => false
  | c :: rest => Text.isIdentifierStart c && rest.all isGroupNamePart

/-- Takes the mark of a repetition that is as short as can be off the start of
a text. -/
def dropShortest : Text → Text
  | '?' :: rest => rest
  | t => t

namespace Reader

def initial : Reader :=
  ⟨.start, .empty .initial, [], []⟩

/-- The mode of the part that comes next. -/
def mode (r : Reader) : Mode :=
  r.group.mode

/-- Whether a pattern may end here: in no class and in no group, and nested no
deeper than a pattern may be. -/
def isEnd (r : Reader) : Bool :=
  (r.position = .start || r.position = .part) && r.outer.isEmpty && r.group.depth ≤ maxDepth

/-- Moves on to a position in a group, with what is left to read. -/
def goTo (r : Reader) (position : Position) (group : Group) (rest : Text) :
    Option (Reader × Text) :=
  some ({ r with position, group }, rest)

def addPart (r : Reader) (depth : Nat) (rest : Text) : Option (Reader × Text) :=
  r.goTo .part (r.group.add depth) rest

/-- Adds a part that stands for itself, if a condition holds. -/
def addPartIf (r : Reader) (condition : Bool) (rest : Text) : Option (Reader × Text) :=
  if condition then r.addPart 0 rest else none

/-- Enters a group whose parts are read in a mode. -/
def enterGroup (r : Reader) (mode : Mode) (rest : Text) : Option (Reader × Text) :=
  { r with outer := r.group :: r.outer }.goTo .start (.empty mode) rest

/-- Reads the name of a group and enters the group. No two groups of a pattern
have one name. -/
def namedGroup? (r : Reader) (t : Text) : Option (Reader × Text) :=
  match Text.cutAt? '>' t with
  | none => none
  | some (name, rest) =>
    if isGroupName name && !r.groupNames.contains name then
      { r with groupNames := name :: r.groupNames }.enterGroup r.mode rest
    else none

/-- Reads flags. Behind a colon they hold for a new group, and without one for
the rest of the group that they stand in, as a part of it. -/
def flags? (r : Reader) (t : Text) : Option (Reader × Text) :=
  let flags := t.takeWhile fun c => c ≠ ':' && c ≠ ')'
  if isFlags flags then
    match t.dropWhile fun c => c ≠ ':' && c ≠ ')' with
    | ':' :: rest => r.enterGroup (r.mode.withFlags flags) rest
    | _ :: rest =>
      if flags.isEmpty then none
      else r.goTo .start { r.group.add 0 with mode := r.mode.withFlags flags } rest
    | [] => none
  else none

/-- Reads what stands behind an opening parenthesis. -/
def group? (r : Reader) (t : Text) : Option (Reader × Text) :=
  match t with
  | '?' :: 'P' :: '<' :: rest => r.namedGroup? rest
  | '?' :: '<' :: rest => r.namedGroup? rest
  | '?' :: rest => r.flags? rest
  | _ => r.enterGroup r.mode t

/-- Leaves the innermost group, which is a part of the group around it. The
mode is the one from in front of the group again. -/
def leaveGroup? (r : Reader) (rest : Text) : Option (Reader × Text) :=
  match r.outer with
  | [] => none
  | group :: outer => { r with group, outer }.addPart (r.group.depth + 1) rest

def repeat? (r : Reader) (rest : Text) : Option (Reader × Text) :=
  if r.position = .part then r.goTo .part r.group.repeatLast (dropShortest rest) else none

def goToMembers (r : Reader) (inner : CharacterClass) (outer : List CharacterClass) (rest : Text) :
    Option (Reader × Text) :=
  r.goTo (.inClass .members inner outer) r.group rest

/-- Enters a class that stands inside some others. The class of all other
characters is none of ASCII only. -/
def enterClass? (r : Reader) (outer : List CharacterClass) (t : Text) : Option (Reader × Text) :=
  let (negated, rest) := cutNegation (r.mode.skip t)
  if r.mode.unicode || !negated then r.goTo (.inClass .start .empty outer) r.group rest else none

/-- Leaves a class, which is a member of the class around it or a part of the
group. -/
def leaveClass (r : Reader) (inner : CharacterClass) (outer : List CharacterClass) (rest : Text) :
    Option (Reader × Text) :=
  match outer with
  | [] => r.addPart (inner.depth + 1) rest
  | parent :: outer => r.goToMembers (parent.add (inner.depth + 1)) outer rest

/-- Reads a member of a class: a character, or what stands for several of them.
Over bytes a character of a class is one of ASCII. -/
def member? (r : Reader) (c : Char) (rest : Text) : Option (Atom × Text) :=
  if c = '\\' then
    match escaped? r.mode rest with
    | some (.character d, rest) =>
      if r.mode.unicode ∨ d.toNat < 128 then some (.character d, rest) else none
    | some (.anyOf, rest) => some (.anyOf, rest)
    | _ => none
  else if r.mode.allowsCharacters ∧ (r.mode.unicode ∨ c.toNat < 128) then
    some (.character c, rest)
  else none

/-- Reads the end of a range of characters, behind its hyphen, and gives what
is left. The end is not below the start. -/
def rangeEnd? (r : Reader) (first : Atom) (t : Text) : Option Text :=
  match r.mode.skip t with
  | [] => none
  | c :: rest =>
    match first, r.member? c rest with
    | .character low, some (.character high, rest) => if low ≤ high then some rest else none
    | _, _ => none

/-- Reads a member or a range of a class and gives what is left. A hyphen in
front of another one or of the closing bracket makes no range. -/
def range? (r : Reader) (c : Char) (rest : Text) : Option Text :=
  match r.member? c rest with
  | none => none
  | some (first, rest) =>
    match r.mode.skip rest with
    | '-' :: behind =>
      if r.mode.peek? behind = some ']' ∨ r.mode.peek? behind = some '-' then some ('-' :: behind)
      else r.rangeEnd? first behind
    | rest => some rest

/-- Reads the next part of a class: its end, a class inside it, an operator
between classes, or a member. -/
def stepInClass? (r : Reader) (inner : CharacterClass) (outer : List CharacterClass) (c : Char)
    (rest : Text) : Option (Reader × Text) :=
  if c = ']' then r.leaveClass inner outer rest
  else if c = '[' then
    match named? rest with
    | some (negated, rest) =>
      if r.mode.allowsCharacters && (r.mode.unicode || !negated) then
        r.goToMembers (inner.add 0) outer rest
      else none
    | none => r.enterClass? (inner :: outer) rest
  else if c ∈ ['&', '-', '~'] ∧ rest.head? = some c then
    r.goToMembers inner.addOperator outer rest.tail
  else
    match r.range? c rest with
    | none => none
    | some rest => r.goToMembers (inner.add 0) outer rest

/-- Reads the next part of a class. At the start of a class hyphens stand for
themselves, and so does a closing bracket in front of all else. -/
def stepFrom? (r : Reader) (position : ClassPosition) (inner : CharacterClass)
    (outer : List CharacterClass) (c : Char) (rest : Text) : Option (Reader × Text) :=
  if c = '-' ∧ position ≠ .members then
    if r.mode.allowsCharacters then r.goTo (.inClass .hyphens (inner.add 0) outer) r.group rest
    else none
  else if c = ']' ∧ position = .start then
    if r.mode.allowsCharacters then r.goToMembers (inner.add 0) outer rest else none
  else r.stepInClass? inner outer c rest

/-- Reads the next part outside of all classes. -/
def stepInGroup? (r : Reader) (c : Char) (rest : Text) : Option (Reader × Text) :=
  match c with
  | '(' => r.group? (r.mode.skip rest)
  | ')' => r.leaveGroup? rest
  | '|' => r.goTo .start r.group.nextAlternative rest
  | '[' => r.enterClass? [] rest
  | '?' | '*' | '+' => r.repeat? rest
  | '{' => none
  | '.' => r.addPartIf r.mode.unicode rest
  | '^' | '$' => r.addPart 0 rest
  | '\\' =>
    match escaped? r.mode rest with
    | none => none
    | some (_, rest) => r.addPart 0 rest
  | _ => r.addPartIf r.mode.allowsCharacters rest

/-- Reads the part that starts with a character; `none` if none may stand
there. -/
def step? (r : Reader) (c : Char) (rest : Text) : Option (Reader × Text) :=
  match r.position with
  | .start | .part => r.stepInGroup? c rest
  | .inClass position inner outer => r.stepFrom? position inner outer c rest

/-! ### A part that was read is not left to read -/

theorem length_dropShortest_le (t : Text) : (dropShortest t).length ≤ t.length := by
  rw [dropShortest.eq_def]
  split
  · exact Nat.le_succ _
  · exact Nat.le_refl _

theorem length_le_of_namedGroup? {r r' : Reader} {t rest : Text}
    (h : r.namedGroup? t = some (r', rest)) : rest.length ≤ t.length := by
  rw [namedGroup?] at h
  split at h
  next => exact nomatch h
  next heq =>
    rw [Text.eq_of_cutAt? heq]
    grind [enterGroup, goTo]

theorem length_le_of_flags? {r r' : Reader} {t rest : Text}
    (h : r.flags? t = some (r', rest)) : rest.length ≤ t.length := by
  have hle : (t.dropWhile fun c => c ≠ ':' && c ≠ ')').length ≤ t.length :=
    (List.dropWhile_sublist _).length_le
  grind [flags?, enterGroup, goTo]

theorem length_le_of_group? {r r' : Reader} {t rest : Text}
    (h : r.group? t = some (r', rest)) : rest.length ≤ t.length := by
  rw [group?.eq_def] at h
  split at h <;> grind [enterGroup, goTo, → length_le_of_namedGroup?, → length_le_of_flags?]

theorem length_le_of_enterClass? {r r' : Reader} {outer : List CharacterClass} {t rest : Text}
    (h : r.enterClass? outer t = some (r', rest)) : rest.length ≤ t.length := by
  have hskip := r.mode.length_skip_le t
  have hcut := length_cutNegation_le (r.mode.skip t)
  grind [enterClass?, goTo]

theorem length_le_of_member? {r : Reader} {c : Char} {t rest : Text} {a : Atom}
    (h : r.member? c t = some (a, rest)) : rest.length ≤ t.length := by
  grind [member?, → length_le_of_escaped?]

theorem length_le_of_rangeEnd? {r : Reader} {first : Atom} {t rest : Text}
    (h : r.rangeEnd? first t = some rest) : rest.length ≤ t.length := by
  have hskip := r.mode.length_skip_le t
  grind [rangeEnd?, → length_le_of_member?]

theorem length_le_of_range? {r : Reader} {c : Char} {t rest : Text}
    (h : r.range? c t = some rest) : rest.length ≤ t.length := by
  rw [range?] at h
  split at h
  next => exact nomatch h
  next unread heq =>
    have hmember := length_le_of_member? heq
    have hskip := r.mode.length_skip_le unread
    grind [→ length_le_of_rangeEnd?]

theorem length_le_of_leaveClass {r r' : Reader} {inner : CharacterClass}
    {outer : List CharacterClass} {t rest : Text}
    (h : r.leaveClass inner outer t = some (r', rest)) : rest.length ≤ t.length := by
  cases outer <;> grind [leaveClass, goToMembers, addPart, goTo]

theorem length_le_of_stepInClass? {r r' : Reader} {inner : CharacterClass}
    {outer : List CharacterClass} {c : Char} {t rest : Text}
    (h : r.stepInClass? inner outer c t = some (r', rest)) : rest.length ≤ t.length := by
  grind [stepInClass?, goToMembers, goTo, → length_le_of_leaveClass, → length_le_of_named?,
    → length_le_of_enterClass?, → length_le_of_range?]

theorem length_le_of_stepFrom? {r r' : Reader} {position : ClassPosition} {inner : CharacterClass}
    {outer : List CharacterClass} {c : Char} {t rest : Text}
    (h : r.stepFrom? position inner outer c t = some (r', rest)) : rest.length ≤ t.length := by
  grind [stepFrom?, goToMembers, goTo, → length_le_of_stepInClass?]

theorem length_le_of_stepInGroup? {r r' : Reader} {c : Char} {t rest : Text}
    (h : r.stepInGroup? c t = some (r', rest)) : rest.length ≤ t.length := by
  have hskip := r.mode.length_skip_le t
  have hshortest := length_dropShortest_le t
  rw [stepInGroup?.eq_def] at h
  split at h <;>
    grind [addPartIf, addPart, goTo, repeat?, leaveGroup?, → length_le_of_group?,
      → length_le_of_enterClass?, → length_le_of_escaped?]

theorem length_le_of_step? {r r' : Reader} {c : Char} {t rest : Text}
    (h : r.step? c t = some (r', rest)) : rest.length ≤ t.length := by
  grind [step?, → length_le_of_stepInGroup?, → length_le_of_stepFrom?]

theorem length_lt_of_step? {r r' : Reader} {c : Char} {t unread rest : Text}
    (hskip : r.mode.skip t = c :: unread) (h : r.step? c unread = some (r', rest)) :
    rest.length < t.length := by
  have hle := r.mode.length_skip_le t
  rw [hskip, List.length_cons] at hle
  exact Nat.lt_of_le_of_lt (length_le_of_step? h) hle

def read? (r : Reader) (t : Text) : Option Reader :=
  match hskip : r.mode.skip t with
  | [] => some r
  | c :: unread =>
    match h : r.step? c unread with
    | none => none
    | some (next, rest) =>
      have := length_lt_of_step? hskip h
      next.read? rest
termination_by t.length

end Reader

def isPattern (t : Text) : Bool :=
  (Reader.initial.read? t).any Reader.isEnd

end Pattern

end LineScript
