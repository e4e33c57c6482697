/-
How deep a pattern is nested. What stands for itself, a character or a place,
has depth zero. A group, a class, a repetition and an operator between classes
are one deeper than what they hold. Two or more parts side by side, whether
they follow each other, are alternatives or are members of a class, are held
together by one level more; a part that stands alone needs none.

The depths are added up while a pattern is read: for a group and for a class
that are still open, from the parts that were read so far.
-/
import LineScript.CommandLine.Pattern.Mode

namespace LineScript

namespace Pattern

/-- A pattern is nested no deeper than this. -/
def maxDepth : Nat :=
  250

/-- The depth of some parts side by side, from the depth of each. -/
def depthOf : List Nat → Nat
  | [] => 0
  | [depth] => depth
  | depths => depths.foldl max 0 + 1

/-- A group that is open, or the whole pattern. -/
structure Group where
  /-- The mode of the part that comes next. -/
  mode : Mode
  /-- The depths of the alternatives that were read to their ends. -/
  alternatives : List Nat
  /-- The depths of the parts of the alternative that is open, the last part
  first. -/
  parts : List Nat
  deriving DecidableEq

namespace Group

def empty (mode : Mode) : Group :=
  ⟨mode, [], []⟩

def add (g : Group) (depth : Nat) : Group :=
  { g with parts := depth :: g.parts }

def repeatLast (g : Group) : Group :=
  match g.parts with
  | [] => g
  | depth :: parts => { g with parts := (depth + 1) :: parts }

/-- Ends an alternative and opens the next one. -/
def nextAlternative (g : Group) : Group :=
  { g with alternatives := depthOf g.parts :: g.alternatives, parts := [] }

def depth (g : Group) : Nat :=
  depthOf (depthOf g.parts :: g.alternatives)

end Group

/-- A class of characters that is open. -/
structure CharacterClass where
  /-- The depth of what stands in front of the last operator. -/
  left? : Option Nat
  /-- The depths of the members behind it. -/
  members : List Nat
  deriving DecidableEq

namespace CharacterClass

def empty : CharacterClass :=
  ⟨none, []⟩

def add (k : CharacterClass) (depth : Nat) : CharacterClass :=
  { k with members := depth :: k.members }

/-- The depth of what the class holds. Operators are taken from left to right. -/
def depth (k : CharacterClass) : Nat :=
  match k.left? with
  | none => depthOf k.members
  | some left => max left (depthOf k.members) + 1

/-- Puts what was read in front of an operator. -/
def addOperator (k : CharacterClass) : CharacterClass :=
  ⟨some k.depth, []⟩

end CharacterClass

end Pattern

end LineScript
