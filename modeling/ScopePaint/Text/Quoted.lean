import ScopePaint.Unicode.Category
import ScopePaint.Unicode.Derived

/-!
Texts between quotes, as messages show them.

Quotes, backslashes and the common control characters are escaped by a backslash and a letter.
Characters that cannot be printed, or that would join the character before them, are written by
their number, as in `\u{301}`.
-/

set_option autoImplicit false

namespace ScopePaint.Text.Quoted

/-- The characters that extend the one before them. -/
def extenders : Unicode.Ranges :=
  .ofText ((Unicode.Derived.table? "graphemeextend").getD "")

/-- The categories whose characters cannot be printed. -/
def unprintable : List Unicode.Ranges :=
  [.control, .format, .surrogate, .privateUse, .unassigned, .lineSeparator, .paragraphSeparator,
    .spaceSeparator].map Unicode.Category.ranges

/-- Whether a character stands for itself. -/
def isPlain (c : Char) : Bool :=
  if c.toNat < 0x7F then ' ' ≤ c
  else !extenders.contains c.toNat && !unprintable.any fun table => table.contains c.toNat

/-- A character as it stands between quotes. -/
def escape (c : Char) : List Char :=
  match c with
  | '"' => ['\\', '"']
  | '\\' => ['\\', '\\']
  | '\n' => ['\\', 'n']
  | '\r' => ['\\', 'r']
  | '\t' => ['\\', 't']
  | '\x00' => ['\\', '0']
  | c =>
    if isPlain c then [c]
    else '\\' :: 'u' :: '\x7b' :: (Nat.toDigits 16 c.toNat ++ ['\x7d'])

end Quoted

/-- A text between quotes. -/
def quoted (s : String) : String :=
  String.ofList ('"' :: s.toList.flatMap Quoted.escape ++ ['"'])

end ScopePaint.Text
