import ScopePaint.Theme.Theme

/-!
The built-in theme.

It is dark, and used where nothing else is configured.
-/

set_option autoImplicit false

namespace ScopePaint.Theme

/-- A setting of a color and further attributes. -/
def colored (scope : String) (red green blue : UInt8) (more : List ThemeAttribute) :
    ThemeSetting :=
  { scope := ⟨scope⟩, attributes := .color ⟨red, green, blue, 255⟩ :: more }

/-- The settings of the built-in theme. -/
def builtinSettings : List ThemeSetting := [
  { colored rootScope 0xD4 0xD4 0xD4 [] with
    inSelection := [.backgroundColor ⟨0x26, 0x4F, 0x78, 255⟩ .none .text] },
  colored "text" 0xD4 0xD4 0xD4 [],
  colored "comment" 0x6A 0x99 0x55 [.italic],
  colored "string" 0xCE 0x91 0x78 [],
  colored "constant" 0xB5 0xCE 0xA8 [],
  colored "constant.character.escape" 0xD7 0xBA 0x7D [],
  colored "keyword" 0x56 0x9C 0xD6 [.bold],
  colored "storage" 0x56 0x9C 0xD6 [],
  colored "entity.name.function" 0xDC 0xDC 0xAA [],
  colored "entity.name.type" 0x4E 0xC9 0xB0 [],
  colored "variable" 0x9C 0xDC 0xFE [],
  { scope := ⟨"invalid"⟩,
    attributes := [.underline (some ⟨0xF4, 0x47, 0x47, 255⟩) .single] }]

/-- The built-in theme. -/
def builtin : Theme := ⟨"default", builtinSettings, by decide⟩

end ScopePaint.Theme
