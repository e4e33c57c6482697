/-
Source files: the bytes of a file are the source in UTF-8, and a file may be
missing, be a directory, or hold bytes that are no text.
-/
import LineScript.Text.Basic

namespace LineScript

inductive ReadFailure where
  | missing
  | directory
  | notText
  deriving DecidableEq

namespace ReadFailure

def message : ReadFailure → String
  | missing => "No such file or directory (os error 2)"
  | directory => "Is a directory (os error 21)"
  | notText => "stream did not contain valid UTF-8"

end ReadFailure

/-- What stands at a path. -/
inductive SourceFile where
  | missing
  | directory
  | bytes (content : ByteArray)

namespace SourceFile

def read : SourceFile → Except ReadFailure Text
  | missing => .error .missing
  | directory => .error .directory
  | bytes content =>
    match String.fromUTF8? content with
    | none => .error .notText
    | some source => .ok source.toList

end SourceFile

end LineScript
