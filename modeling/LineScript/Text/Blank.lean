/-
White space: the characters that separate words and are cut off at the ends
of a text. The class is the Unicode property of that name; it is wider than
the blanks of ASCII (no-break and ideographic spaces belong to it) and leaves
out the zero-width marks and the four information separators.
-/

namespace LineScript

/-- White space: tab to carriage return, the space, and the spaces and line
separators beyond ASCII. -/
def isBlank (c : Char) : Bool :=
  c = ' ' || ('\t' ≤ c && c ≤ '\r') || c = '\u0085' || c = '\u00A0' || c = '\u1680' ||
    ('\u2000' ≤ c && c ≤ '\u200A') || c = '\u2028' || c = '\u2029' || c = '\u202F' ||
    c = '\u205F' || c = '\u3000'

/-- The information separators are no white space. -/
example : ['\u001C', '\u001D', '\u001E', '\u001F'].any isBlank = false := by decide

end LineScript
