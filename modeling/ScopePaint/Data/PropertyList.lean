import ScopePaint.Data.PropertyList.Binary
import ScopePaint.Data.PropertyList.Plain
import ScopePaint.Data.PropertyList.Xml

/-!
Property lists.

A property list is a data tree in a binary form, in XML or in plain text; `readPropertyList` tells
them apart by how they begin. XML begins with an angle bracket; what has something else in its place
is plain text.
-/

set_option autoImplicit false

namespace ScopePaint.Data

namespace PropertyList

/-- Whether a text begins as XML does, with white space before. -/
def isXml (cs : List Char) : Bool :=
  match cs.dropWhile fun c => Unicode.isWhiteSpace c || c == '\uFEFF' with
  | [] => true
  | c :: _ => c == '<'

end PropertyList

/-- Read a property list. -/
def readPropertyList (bytes : List UInt8) : Option Value :=
  if PropertyList.magic.isPrefixOf bytes then PropertyList.readBinary bytes.toArray
  else
    match PropertyList.textOfBytes bytes with
    | some s =>
      if PropertyList.isXml s.toList then PropertyList.readXml s.toList
      else PropertyList.readPlain bytes
    | none => PropertyList.readPlain bytes

end ScopePaint.Data
