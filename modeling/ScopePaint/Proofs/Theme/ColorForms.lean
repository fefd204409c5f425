import ScopePaint.Proofs.Theme.ColorTexts

/-!
# Colors that are written and read again

The text of a color stands for it alone: the color is read from it again, so colors with one text
are one color, in however many ways the color may be written otherwise.

A packed color is a number of three bytes, which is the sum of its channels, each times the place of
its byte (`Color.toNat_toPacked`). So unpacking is division by the places (`Color.toNat_ofPacked`),
and what is lost on the way from the integer to the color and back is the top byte, and in the other
direction the alpha.
-/

set_option autoImplicit false

namespace ScopePaint

namespace Color

/-- Colors are told by their texts. -/
theorem text_inj {c c' : Color} : c.text = c'.text ↔ c = c' := by
  constructor
  · intro htext
    have hread := ofText_text c
    rw [htext, ofText_text] at hread
    exact (Except.ok.inj hread).symm
  · intro hcolor
    rw [hcolor]

/-! ## Packed colors -/

/-- **A packed color is the sum of its channels**, each times the place of its byte. -/
theorem toNat_toPacked (c : Color) :
    c.toPacked.toNat = 65536 * c.red.toNat + (256 * c.green.toNat + c.blue.toNat) := by
  have hred := c.red.toNat_lt
  have hgreen := c.green.toNat_lt
  have hblue := c.blue.toNat_lt
  -- The bytes do not overlap, so that putting them together is adding them up.
  have hlow : c.green.toNat <<< 8 ||| c.blue.toNat = 256 * c.green.toNat + c.blue.toNat := by
    rw [← Nat.shiftLeft_add_eq_or_of_lt hblue, Nat.shiftLeft_eq]
    omega
  have hhigh : c.red.toNat <<< 16 ||| (256 * c.green.toNat + c.blue.toNat) =
      65536 * c.red.toNat + (256 * c.green.toNat + c.blue.toNat) := by
    rw [← Nat.shiftLeft_add_eq_or_of_lt (by omega), Nat.shiftLeft_eq]
    omega
  have hredFits : c.red.toNat <<< 16 < 4294967296 := by
    rw [Nat.shiftLeft_eq]
    omega
  have hgreenFits : c.green.toNat <<< 8 < 4294967296 := by
    rw [Nat.shiftLeft_eq]
    omega
  unfold toPacked
  rw [UInt32.or_assoc]
  simp only [UInt32.toNat_or, UInt32.toNat_shiftLeft, UInt8.toNat_toUInt32, UInt32.reduceToNat,
    Nat.reduceMod, Nat.reducePow]
  rw [Nat.mod_eq_of_lt hredFits, Nat.mod_eq_of_lt hgreenFits, hlow, hhigh]

/-- **The channels of a packed color** are the three lower bytes of the integer. -/
theorem toNat_ofPacked (value : UInt32) :
    (ofPacked value).red.toNat = value.toNat / 65536 % 256 ∧
      (ofPacked value).green.toNat = value.toNat / 256 % 256 ∧
      (ofPacked value).blue.toNat = value.toNat % 256 := by
  simp only [ofPacked, UInt32.toNat_toUInt8, UInt32.toNat_shiftRight, UInt32.reduceToNat,
    Nat.reduceMod, Nat.shiftRight_eq_div_pow, Nat.reducePow, and_self]

/-- An integer that is unpacked and packed again has lost its top byte. -/
theorem toPacked_ofPacked (value : UInt32) : (ofPacked value).toPacked = value &&& 0x00FFFFFF := by
  obtain ⟨hred, hgreen, hblue⟩ := toNat_ofPacked value
  have hmask : value.toNat &&& 0x00FFFFFF = value.toNat % 16777216 :=
    Nat.and_two_pow_sub_one_eq_mod value.toNat 24
  apply UInt32.toNat_inj.1
  rw [toNat_toPacked, hred, hgreen, hblue, UInt32.toNat_and]
  show _ = value.toNat &&& 0x00FFFFFF
  omega

/-- A color that is packed and unpacked again is opaque. -/
theorem ofPacked_toPacked (c : Color) : ofPacked c.toPacked = { c with alpha := 255 } := by
  have hredLt := c.red.toNat_lt
  have hgreenLt := c.green.toNat_lt
  have hblueLt := c.blue.toNat_lt
  obtain ⟨hred, hgreen, hblue⟩ := toNat_ofPacked c.toPacked
  rw [toNat_toPacked] at hred hgreen hblue
  rw [Color.mk.injEq]
  refine ⟨UInt8.toNat_inj.1 ?_, UInt8.toNat_inj.1 ?_, UInt8.toNat_inj.1 ?_, rfl⟩
  · exact hred.trans (by omega)
  · exact hgreen.trans (by omega)
  · exact hblue.trans (by omega)

/-- **Colors are read back from what is written.** The text of a color is read as the color. So is
the text that is written for a color that was read from some other text, and there is one such text
for all texts that are read as one color. An integer that is unpacked and packed again has its top
byte cleared, and a color that is packed and unpacked again is opaque. -/
theorem read_back :
    (∀ c : Color, ofText c.text = .ok c) ∧
    (∀ (s : String) (c : Color), ofText s = .ok c → ofText c.text = .ok c) ∧
    (∀ (s s' : String) (c c' : Color), ofText s = .ok c → ofText s' = .ok c' →
      (c.text = c'.text ↔ c = c')) ∧
    (∀ value : UInt32, (ofPacked value).toPacked = value &&& 0x00FFFFFF) ∧
    ∀ c : Color, ofPacked c.toPacked = { c with alpha := 255 } := by
  refine ⟨ofText_text, ?_, ?_, toPacked_ofPacked, ofPacked_toPacked⟩
  · intro s c _
    exact ofText_text c
  · intro s s' c c' _ _
    exact text_inj

/-- A color in mixed case with white space around, and the opaque one in lower case: the text of the
former is read as it, and they have different texts. -/
theorem read_back_spellings :
    ofText " #fF800040\n" = .ok ⟨255, 128, 0, 64⟩ ∧ ofText "#ff8000" = .ok ⟨255, 128, 0, 255⟩ ∧
      ofText (text ⟨255, 128, 0, 64⟩) = .ok ⟨255, 128, 0, 64⟩ ∧
      text ⟨255, 128, 0, 64⟩ ≠ text ⟨255, 128, 0, 255⟩ := by
  have hmixed : ofText " #fF800040\n" = .ok ⟨255, 128, 0, 64⟩ := by
    unfold ofText Text.trim Unicode.isWhiteSpace
    rw [Unicode.whiteSpaceRanges_items]
    decide +kernel
  have hlower : ofText "#ff8000" = .ok ⟨255, 128, 0, 255⟩ := by
    unfold ofText Text.trim Unicode.isWhiteSpace
    rw [Unicode.whiteSpaceRanges_items]
    decide +kernel
  refine ⟨hmixed, hlower, read_back.2.1 _ _ hmixed, ?_⟩
  rw [Ne, read_back.2.2.1 _ _ _ _ hmixed hlower]
  decide

end Color

end ScopePaint
