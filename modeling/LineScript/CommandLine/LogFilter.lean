/-
Which log lines are shown. A filter is a list of directives. The most specific
directive that fits a line decides about it, and a line that none fits is not
shown.
-/
import LineScript.CommandLine.LogDirective

namespace LineScript

namespace LogDirective

/-- Whether a directive is about the lines of a target that have some fields. -/
def fits (d : LogDirective) (target : Text) (fields : List Text) : Bool :=
  d.target.isPrefixOf target && d.field?.all fun field => fields.contains field

/-- Of two directives that fit a line the one that decides: the one with the
longer target, then the one that names a field, then the one whose field comes
later in the order of names, then the later one. -/
def moreSpecific (held next : LogDirective) : LogDirective :=
  if next.target.length < held.target.length then held
  else if held.target.length < next.target.length then next
  else
    match held.field?, next.field? with
    | none, _ => next
    | some _, none => held
    | some field, some field' => if field' < field then held else next

end LogDirective

/-- Which log lines are shown. -/
structure LogFilter where
  directives : List LogDirective
  deriving DecidableEq

namespace LogFilter

/-- The filter that shows the lines of a target up to a rank. -/
def upTo (target : Text) (rank : Nat) : LogFilter :=
  ⟨[⟨target, none, rank⟩]⟩

/-- Reads a filter, directives between commas. Without a directive it shows
errors; a directive that cannot be read leaves no filter. -/
def ofText? (t : Text) : Option LogFilter :=
  match (t.splitOn ',').filter fun d => !d.isEmpty with
  | [] => some (upTo [] LogLevel.error.rank)
  | texts => (texts.mapM LogDirective.ofText?).map fun directives => ⟨directives.flatten⟩

/-- The directive that decides about a line. -/
def directive? (f : LogFilter) (target : Text) (fields : List Text) : Option LogDirective :=
  match f.directives.filter fun d => d.fits target fields with
  | [] => none
  | d :: rest => some (rest.foldl LogDirective.moreSpecific d)

def shows (f : LogFilter) (target : Text) (fields : List Text) (level : LogLevel) : Bool :=
  match f.directive? target fields with
  | none => false
  | some d => level.rank ≤ d.rank

end LogFilter

end LineScript
