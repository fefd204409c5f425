import Mathlib.Data.List.DropRight
import ScopePaint.Color

/-!
# The texts of colors

A color is read from its text (`Color.ofText_text`): the two digits of a channel stand for it
(`Color.channel?_digits`), and since neither the hash mark nor a digit is white space, nothing of the
text is trimmed away.
-/

set_option autoImplicit false

namespace ScopePaint

/-! ## White space -/

/-- The white space, as it is read out of its table. -/
theorem Unicode.whiteSpaceRanges_items :
    whiteSpaceRanges = ⟨#[⟨0x9, 0xD⟩, ⟨0x20, 0x20⟩, ⟨0x85, 0x85⟩, ⟨0xA0, 0xA0⟩, ⟨0x1680, 0x1680⟩,
      ⟨0x2000, 0x200A⟩, ⟨0x2028, 0x2029⟩, ⟨0x202F, 0x202F⟩, ⟨0x205F, 0x205F⟩,
      ⟨0x3000, 0x3000⟩]⟩ := by
  unfold whiteSpaceRanges Ranges.ofText
  rw [String.foldl_eq_foldl_toList]
  decide +kernel

/-- Nothing is dropped if the first character stays. -/
theorem Text.dropWhile_eq_self {p : Char → Bool} {c : Char} {cs : List Char}
    (hhead : cs.head? = some c) (hc : p c = false) : cs.dropWhile p = cs := by
  cases cs with
  | nil => rfl
  | cons b cs =>
    obtain rfl : b = c := by simpa using hhead
    rw [List.dropWhile_cons_of_neg (by simp [hc])]

/-- A text that white space neither begins nor ends is left as it is. -/
theorem Text.trim_eq_self {first last : Char} {cs : List Char} (hhead : cs.head? = some first)
    (hlast : cs.getLast? = some last) (hfirst : Unicode.isWhiteSpace first = false)
    (hend : Unicode.isWhiteSpace last = false) : trim cs = cs := by
  have hreverse : cs.reverse.head? = some last := by rw [List.head?_reverse, hlast]
  unfold trim
  rw [dropWhile_eq_self hhead hfirst, dropWhile_eq_self hreverse hend, List.reverse_reverse]

/-! ## Colors -/

namespace Color

/-- The digits of a channel are digits, and no signs or blanks. -/
theorem digit?_digitChar : ∀ n < 16, digit? (digitChar n) = some n ∧ digitChar n ≠ '+' ∧
    Unicode.isWhiteSpace (digitChar n) = false := by
  unfold Unicode.isWhiteSpace
  rw [Unicode.whiteSpaceRanges_items]
  decide +kernel

/-- A channel is read from its two digits. -/
theorem channel?_digits (value : UInt8) :
    channel? (digitChar (value.toNat / 16)) (digitChar (value.toNat % 16)) = some value := by
  have hlt := value.toNat_lt
  obtain ⟨hhigh, hplus, -⟩ := digit?_digitChar (value.toNat / 16) (by omega)
  obtain ⟨hlow, -, -⟩ := digit?_digitChar (value.toNat % 16) (by omega)
  unfold channel?
  rw [if_neg hplus, hhigh, hlow]
  have hvalue : 16 * (value.toNat / 16) + value.toNat % 16 = value.toNat := by omega
  simp only [hvalue, UInt8.ofNat_toNat]

/-- It is read in front of all others. -/
theorem channels?_append (value : UInt8) (rest : List Char) :
    channels? (channelDigits value ++ rest) = (channels? rest).map (value :: ·) := by
  show channels? (_ :: _ :: rest) = _
  rw [channels?, channel?_digits]
  cases channels? rest <;> rfl

/-- An opaque color is its mark and the digits of its channels. -/
theorem toList_opaqueText (c : Color) : c.opaqueText.toList =
    '#' :: (channelDigits c.red ++ (channelDigits c.green ++ channelDigits c.blue)) := by
  unfold opaqueText
  rw [String.toList_ofList, List.cons_append, List.cons_append, List.append_assoc]

/-- The mark of a color is no white space. -/
theorem isWhiteSpace_hash : Unicode.isWhiteSpace '#' = false := by
  unfold Unicode.isWhiteSpace
  rw [Unicode.whiteSpaceRanges_items]
  decide +kernel

/-- The text of a color is a hash mark and the digits of three or four channels. -/
theorem toList_text (c : Color) : ∃ front last, c.text.toList = '#' :: (front ++ channelDigits last) ∧
    front ++ channelDigits last = channelDigits c.red ++ (channelDigits c.green ++
      (channelDigits c.blue ++ if c.alpha = 255 then [] else channelDigits c.alpha)) := by
  unfold text
  split
  · refine ⟨channelDigits c.red ++ channelDigits c.green, c.blue, ?_, ?_⟩
    · rw [toList_opaqueText, List.append_assoc]
    · rw [List.append_assoc, List.append_nil]
  · refine ⟨channelDigits c.red ++ (channelDigits c.green ++ channelDigits c.blue), c.alpha, ?_, ?_⟩
    · rw [String.toList_append, toList_opaqueText, String.toList_ofList, List.cons_append]
    · simp only [List.append_assoc]

/-- There is no white space around the text of a color. -/
theorem trim_text (c : Color) : Text.trim c.text.toList = c.text.toList := by
  obtain ⟨front, last, htext, -⟩ := toList_text c
  have hlast := (digit?_digitChar (last.toNat % 16) (by omega)).2.2
  have hhead : c.text.toList.head? = some '#' := by
    rw [htext]
    rfl
  have hend : c.text.toList.getLast? = some (digitChar (last.toNat % 16)) := by
    rw [htext]
    simp [channelDigits, List.getLast?_cons, List.getLast?_append]
  exact Text.trim_eq_self hhead hend isWhiteSpace_hash hlast

/-- The channels of a color are read from its digits. -/
theorem channels?_text (c : Color) :
    channels? (channelDigits c.red ++ (channelDigits c.green ++
      (channelDigits c.blue ++ if c.alpha = 255 then [] else channelDigits c.alpha))) =
      some (c.red :: c.green :: c.blue :: if c.alpha = 255 then [] else [c.alpha]) := by
  rw [channels?_append, channels?_append, channels?_append]
  split_ifs
  · rfl
  · have halpha := channels?_append c.alpha []
    rw [List.append_nil] at halpha
    rw [halpha]
    rfl

/-- A color is read from the digits behind its mark. -/
theorem ofText_of_trim {s : String} {digits : List Char} (h : Text.trim s.toList = '#' :: digits) :
    ofText s = match channels? digits with
      | some [red, green, blue] => .ok ⟨red, green, blue, 255⟩
      | some [red, green, blue, alpha] => .ok ⟨red, green, blue, alpha⟩
      | _ => .error ⟨s⟩ := by
  unfold ofText
  rw [h]
  rfl

/-- **A color is read from its text.** -/
theorem ofText_text (c : Color) : ofText c.text = .ok c := by
  obtain ⟨front, last, htext, hdigits⟩ := toList_text c
  have htrim := (trim_text c).trans htext
  rw [ofText_of_trim htrim, hdigits, channels?_text]
  obtain ⟨red, green, blue, alpha⟩ := c
  split_ifs with halpha
  · subst halpha
    rfl
  · rfl

end Color

end ScopePaint
