import ScopePaint.Proofs.Theme.ColorTexts

/-!
# Which texts are colors

The documented texts of a color are a hash mark and six or eight hexadecimal digits of either case,
two for each channel, with white space around (`Color.Documented`). All of them are read as what they
say, and nothing else is, except that a plus sign is taken for a zero where the first digit of a
channel should be (`Color.Signed`). On every other text reading fails and gives the text back
(`Color.ofText_documented_or_signed`).

White space is taken off the ends of a text and nothing else (`Text.exists_trim_around`), so what
stands between white space is read (`Text.trim_around`).
-/

set_option autoImplicit false

namespace ScopePaint

namespace Text

variable {cs front back : List Char}

/-- White space at the ends of a text is taken off, and nothing else. -/
theorem exists_trim_around (cs : List Char) : ∃ front back, cs = front ++ trim cs ++ back ∧
    (∀ c ∈ front, Unicode.isWhiteSpace c = true) ∧ ∀ c ∈ back, Unicode.isWhiteSpace c = true := by
  let rest := cs.dropWhile Unicode.isWhiteSpace
  have hcs : cs.takeWhile Unicode.isWhiteSpace ++ rest = cs := List.takeWhile_append_dropWhile
  have hrest : trim cs ++ rest.rtakeWhile Unicode.isWhiteSpace = rest := by
    rw [← List.reverse_inj, List.reverse_append, trim, List.reverse_reverse, List.rtakeWhile,
      List.reverse_reverse]
    exact List.takeWhile_append_dropWhile
  refine ⟨cs.takeWhile Unicode.isWhiteSpace, rest.rtakeWhile Unicode.isWhiteSpace, ?_, ?_, ?_⟩
  · rw [List.append_assoc, hrest, hcs]
  · intro c hc
    exact List.mem_takeWhile_imp hc
  · intro c hc
    exact List.mem_rtakeWhile_imp hc

/-- What white space does not begin or end is what is left when there is white space around. -/
theorem trim_around {first last : Char} (hfront : ∀ c ∈ front, Unicode.isWhiteSpace c = true)
    (hback : ∀ c ∈ back, Unicode.isWhiteSpace c = true) (hhead : cs.head? = some first)
    (hlast : cs.getLast? = some last) (hfirst : Unicode.isWhiteSpace first = false)
    (hend : Unicode.isWhiteSpace last = false) : trim (front ++ cs ++ back) = cs := by
  have hstart : (cs ++ back).head? = some first := by
    rw [List.head?_append, hhead, Option.some_or]
  have hreverse : cs.reverse.head? = some last := by
    rw [List.head?_reverse, hlast]
  unfold trim
  rw [List.append_assoc, List.dropWhile_append_of_pos hfront, dropWhile_eq_self hstart hfirst,
    List.reverse_append, List.dropWhile_append_of_pos (by simpa using hback),
    dropWhile_eq_self hreverse hend, List.reverse_reverse]

end Text

namespace Color

/-! ## Digits -/

/-- The value of a hexadecimal digit is its place among the sixteen, in lower or in upper case. -/
def HasValue (digit : Char) (value : Nat) : Prop :=
  ['0', '1', '2', '3', '4', '5', '6', '7', '8', '9', 'a', 'b', 'c', 'd', 'e', 'f'][value]? =
      some digit ∨
    ['0', '1', '2', '3', '4', '5', '6', '7', '8', '9', 'A', 'B', 'C', 'D', 'E', 'F'][value]? =
      some digit

instance (digit : Char) (value : Nat) : Decidable (HasValue digit value) :=
  inferInstanceAs (Decidable (_ ∨ _))

variable {c high low : Char} {n : Nat} {cs digits rest : List Char} {values : List UInt8}
  {s : String}

/-- The value of a digit is below 16. -/
theorem HasValue.lt (h : HasValue c n) : n < 16 := by
  rcases h with h | h
  · exact (List.getElem?_eq_some_iff.1 h).1
  · exact (List.getElem?_eq_some_iff.1 h).1

/-- Digits are characters of one byte. -/
theorem lt_of_isHex (h : Data.isHex c = true) : c.toNat < 128 := by
  simp only [Data.isHex, Char.isDigit, Bool.or_eq_true, Bool.and_eq_true, decide_eq_true_eq] at h
  rcases h with (⟨-, h⟩ | ⟨-, h⟩) | ⟨-, h⟩
  · exact Nat.lt_of_le_of_lt (UInt32.le_iff_toNat_le.1 h) (by decide)
  · exact Nat.lt_of_le_of_lt (UInt32.le_iff_toNat_le.1 h) (by decide)
  · exact Nat.lt_of_le_of_lt (UInt32.le_iff_toNat_le.1 h) (by decide)

/-- What is checked for the digits among the characters of one byte holds of all digits. -/
theorem forall_digit {p : Char → Nat → Prop}
    (hall : ∀ code < 128, ∀ n ∈ digit? (Char.ofNat code), p (Char.ofNat code) n)
    (h : digit? c = some n) : p c n := by
  have hhex : Data.isHex c = true := by
    by_contra hnot
    rw [digit?, if_neg hnot] at h
    exact absurd h (by simp)
  have hc := hall c.toNat (lt_of_isHex hhex)
  rw [Char.ofNat_toNat] at hc
  exact hc n h

/-- **Digits are read as their values.** -/
theorem digit?_eq_some_iff : digit? c = some n ↔ HasValue c n := by
  constructor
  · intro h
    exact forall_digit (by decide +kernel) h
  · intro h
    have hlower : ∀ m < 16, (['0', '1', '2', '3', '4', '5', '6', '7', '8', '9', 'a', 'b', 'c', 'd',
        'e', 'f'][m]?).bind digit? = some m := by decide +kernel
    have hupper : ∀ m < 16, (['0', '1', '2', '3', '4', '5', '6', '7', '8', '9', 'A', 'B', 'C', 'D',
        'E', 'F'][m]?).bind digit? = some m := by decide +kernel
    have hlt := h.lt
    rcases h with hc | hc
    · simpa [hc] using hlower n hlt
    · simpa [hc] using hupper n hlt

/-- A digit is neither white space nor a sign. -/
theorem HasValue.plain (h : HasValue c n) : Unicode.isWhiteSpace c = false ∧ c ≠ '+' := by
  have hall : ∀ code < 128, ∀ n ∈ digit? (Char.ofNat code),
      Unicode.isWhiteSpace (Char.ofNat code) = false ∧ Char.ofNat code ≠ '+' := by
    unfold Unicode.isWhiteSpace
    rw [Unicode.whiteSpaceRanges_items]
    decide +kernel
  exact forall_digit (p := fun d _ => Unicode.isWhiteSpace d = false ∧ d ≠ '+') hall
    (digit?_eq_some_iff.2 h)

/-! ## Pairs of digits -/

/-- Pairs of hexadecimal digits, one for each of some channels. -/
inductive ArePairs : List Char → List UInt8 → Prop
  | nil : ArePairs [] []
  | cons {high low : Char} {h l : Nat} {value : UInt8} {rest : List Char} {values : List UInt8}
      (hhigh : HasValue high h) (hlow : HasValue low l) (hvalue : value.toNat = 16 * h + l)
      (hrest : ArePairs rest values) : ArePairs (high :: low :: rest) (value :: values)

/-- The digits of a color: six of them if it is opaque, or else eight. -/
def IsWritten (digits : List Char) (c : Color) : Prop :=
  (digits.length = 6 ∧ ArePairs digits [c.red, c.green, c.blue] ∧ c.alpha = 255) ∨
    (digits.length = 8 ∧ ArePairs digits [c.red, c.green, c.blue, c.alpha])

/-- A zero in the place of each plus sign that begins a pair. -/
def withoutSigns : List Char → List Char
  | high :: low :: rest => (if high = '+' then '0' else high) :: low :: withoutSigns rest
  | cs => cs

/-- A text of a hash mark and these characters, with white space around. -/
def HasDigits (s : String) (digits : List Char) : Prop :=
  ∃ front back, s.toList = front ++ '#' :: digits ++ back ∧
    (∀ c ∈ front, Unicode.isWhiteSpace c = true) ∧ ∀ c ∈ back, Unicode.isWhiteSpace c = true

/-- A text that is documented to be a color. -/
def Documented (s : String) (c : Color) : Prop := ∃ digits, HasDigits s digits ∧ IsWritten digits c

/-- A text that would be documented to be a color if there were zeros in the places of the plus
signs that begin its pairs, of which there are some. -/
def Signed (s : String) (c : Color) : Prop :=
  ∃ digits, HasDigits s digits ∧ withoutSigns digits ≠ digits ∧ IsWritten (withoutSigns digits) c

/-- There are two digits for each value. -/
theorem ArePairs.length_eq (h : ArePairs digits values) : digits.length = 2 * values.length := by
  induction h with
  | nil => rfl
  | cons hhigh hlow hvalue hrest ih =>
    simp only [List.length_cons]
    omega

/-- Pairs of digits are without signs. -/
theorem ArePairs.withoutSigns_eq (h : ArePairs digits values) : withoutSigns digits = digits := by
  induction h with
  | nil => rfl
  | cons hhigh hlow hvalue hrest ih => rw [withoutSigns, if_neg hhigh.plain.2, ih]

/-- The digits of a color have no signs. -/
theorem IsWritten.withoutSigns_eq {c : Color} (h : IsWritten digits c) :
    withoutSigns digits = digits := by
  rcases h with ⟨-, h, -⟩ | ⟨-, h⟩
  · exact h.withoutSigns_eq
  · exact h.withoutSigns_eq

/-- A channel is read from two digits, the first of which may be a plus sign for a zero. -/
theorem channel?_eq_some_iff {value : UInt8} : channel? high low = some value ↔
    ∃ h l, HasValue (if high = '+' then '0' else high) h ∧ HasValue low l ∧
      value.toNat = 16 * h + l := by
  have hzero : digit? '0' = some 0 := by decide +kernel
  have hhigh : (if high = '+' then some 0 else digit? high) =
      digit? (if high = '+' then '0' else high) := by
    split
    · exact hzero.symm
    · rfl
  simp only [← digit?_eq_some_iff]
  rw [channel?, hhigh]
  cases hh : digit? (if high = '+' then '0' else high) with
  | none => simp
  | some h =>
    cases hl : digit? low with
    | none => simp
    | some l =>
      have hlt : 16 * h + l < 256 := by
        have hhlt := (digit?_eq_some_iff.1 hh).lt
        have hllt := (digit?_eq_some_iff.1 hl).lt
        omega
      simp only [Option.some.injEq, exists_and_left, ← UInt8.toNat_inj, UInt8.toNat_ofNat']
      constructor
      · intro heq
        exact ⟨h, rfl, l, rfl, by omega⟩
      · rintro ⟨_, rfl, _, rfl, heq⟩
        omega

/-- **Channels are read from pairs of digits**, signs being zeros. -/
theorem channels?_eq_some_iff :
    channels? digits = some values ↔ ArePairs (withoutSigns digits) values := by
  fun_induction withoutSigns digits generalizing values with
  | case1 high low rest ih =>
    rw [channels?]
    constructor
    · intro h
      obtain ⟨value, hvalue, h⟩ := Option.bind_eq_some_iff.1 h
      obtain ⟨others, hothers, h⟩ := Option.bind_eq_some_iff.1 h
      obtain rfl : value :: others = values := Option.some.inj h
      obtain ⟨h, l, hhigh, hlow, hsum⟩ := channel?_eq_some_iff.1 hvalue
      exact .cons hhigh hlow hsum (ih.1 hothers)
    · rintro (_ | ⟨hhigh, hlow, hsum, hrest⟩)
      rw [channel?_eq_some_iff.2 ⟨_, _, hhigh, hlow, hsum⟩, ih.2 hrest]
      rfl
  | case2 cs hcs =>
    obtain _ | ⟨c, _ | ⟨low, rest⟩⟩ := cs
    · rw [channels?, Option.some.injEq]
      constructor
      · rintro rfl
        exact .nil
      · rintro ⟨⟩
        rfl
    · rw [channels?]
      constructor
      · intro h
        exact absurd h (by simp)
      · rintro ⟨⟩
    · exact absurd rfl (hcs c low rest)

/-! ## Texts -/

/-- The last of some digits is not white space. -/
theorem getLast?_of_arePairs (h : ArePairs (withoutSigns digits) values) :
    ∀ c ∈ digits.getLast?, Unicode.isWhiteSpace c = false := by
  fun_induction withoutSigns digits generalizing values with
  | case1 high low rest ih =>
    obtain _ | ⟨hhigh, hlow, hsum, hrest⟩ := h
    intro c hc
    rw [List.getLast?_cons_cons] at hc
    cases rest with
    | nil =>
      obtain rfl : low = c := by simpa using hc
      exact hlow.plain.1
    | cons d rest =>
      rw [List.getLast?_cons_cons] at hc
      exact ih hrest c hc
  | case2 cs hcs =>
    obtain _ | ⟨c, _ | ⟨low, rest⟩⟩ := cs
    · simp
    · cases h
    · exact absurd rfl (hcs c low rest)

/-- What is left between white space is the mark and the digits. -/
theorem hasDigits_of_trim (h : Text.trim s.toList = '#' :: digits) : HasDigits s digits := by
  obtain ⟨front, back, hcs, hfront, hback⟩ := Text.exists_trim_around s.toList
  rw [h] at hcs
  exact ⟨front, back, hcs, hfront, hback⟩

/-- Digits that do not end with white space are all that is left behind the mark. -/
theorem HasDigits.trim_eq (h : HasDigits s digits)
    (hlast : ∀ c ∈ digits.getLast?, Unicode.isWhiteSpace c = false) :
    Text.trim s.toList = '#' :: digits := by
  obtain ⟨front, back, hcs, hfront, hback⟩ := h
  rw [hcs]
  cases hend : digits.getLast? with
  | none =>
    obtain rfl := List.getLast?_eq_none_iff.1 hend
    exact Text.trim_around hfront hback rfl rfl isWhiteSpace_hash isWhiteSpace_hash
  | some last =>
    have hgetLast : ('#' :: digits).getLast? = some last := by
      rw [List.getLast?_cons, hend, Option.getD_some]
    exact Text.trim_around hfront hback rfl hgetLast isWhiteSpace_hash (hlast last hend)

/-- **A text is read as a color** if and only if, without signs, its digits are those of the
color. -/
theorem ofText_eq_ok_iff {c : Color} :
    ofText s = .ok c ↔ ∃ digits, HasDigits s digits ∧ IsWritten (withoutSigns digits) c := by
  constructor
  · intro h
    unfold ofText at h
    split at h
    · rename_i digits htrim
      refine ⟨digits, hasDigits_of_trim htrim, ?_⟩
      split at h
      · rename_i red green blue hchannels
        obtain rfl := Except.ok.inj h
        have hpairs := channels?_eq_some_iff.1 hchannels
        exact Or.inl ⟨hpairs.length_eq, hpairs, rfl⟩
      · rename_i red green blue alpha hchannels
        obtain rfl := Except.ok.inj h
        have hpairs := channels?_eq_some_iff.1 hchannels
        exact Or.inr ⟨hpairs.length_eq, hpairs⟩
      · exact absurd h (by simp)
    · exact absurd h (by simp)
  · rintro ⟨digits, hdigits, ⟨-, hpairs, halpha⟩ | ⟨-, hpairs⟩⟩
    · rw [ofText_of_trim (hdigits.trim_eq (getLast?_of_arePairs hpairs)),
        channels?_eq_some_iff.2 hpairs]
      exact congrArg (fun alpha => Except.ok (⟨c.red, c.green, c.blue, alpha⟩ : Color)) halpha.symm
    · rw [ofText_of_trim (hdigits.trim_eq (getLast?_of_arePairs hpairs)),
        channels?_eq_some_iff.2 hpairs]

/-- A color is read if it is written in the documented way or with signs. -/
theorem ofText_eq_ok_iff_documented_or_signed {c : Color} :
    ofText s = .ok c ↔ Documented s c ∨ Signed s c := by
  rw [ofText_eq_ok_iff]
  constructor
  · rintro ⟨digits, hdigits, hwritten⟩
    by_cases hsigns : withoutSigns digits = digits
    · rw [hsigns] at hwritten
      exact Or.inl ⟨digits, hdigits, hwritten⟩
    · exact Or.inr ⟨digits, hdigits, hsigns, hwritten⟩
  · rintro (⟨digits, hdigits, hwritten⟩ | ⟨digits, hdigits, -, hwritten⟩)
    · exact ⟨digits, hdigits, by rwa [hwritten.withoutSigns_eq]⟩
    · exact ⟨digits, hdigits, hwritten⟩

/-- A text that is read as no color is given back. -/
theorem ofText_error {e : InvalidColor} (h : ofText s = .error e) : e = ⟨s⟩ := by
  unfold ofText at h
  split at h
  · split at h
    · exact absurd h (by simp)
    · exact absurd h (by simp)
    · exact (Except.error.inj h).symm
  · exact (Except.error.inj h).symm

/-- The digits of a text are known, if white space does not end them. -/
theorem HasDigits.unique {digits' : List Char} (h : HasDigits s digits) (h' : HasDigits s digits')
    (hlast : ∀ c ∈ digits.getLast?, Unicode.isWhiteSpace c = false)
    (hlast' : ∀ c ∈ digits'.getLast?, Unicode.isWhiteSpace c = false) : digits = digits' :=
  (List.cons.inj ((h.trim_eq hlast).symm.trans (h'.trim_eq hlast'))).2

/-- The digits of a color do not end with white space. -/
theorem IsWritten.getLast? {c : Color} (h : IsWritten (withoutSigns digits) c) :
    ∀ d ∈ digits.getLast?, Unicode.isWhiteSpace d = false := by
  rcases h with ⟨-, h, -⟩ | ⟨-, h⟩
  · exact getLast?_of_arePairs h
  · exact getLast?_of_arePairs h

/-- No text is documented and signed. -/
theorem Documented.not_signed {c c' : Color} (h : Documented s c) : ¬ Signed s c' := by
  rintro ⟨digits', hdigits', hsigns, hwritten'⟩
  obtain ⟨digits, hdigits, hwritten⟩ := h
  have hplain := hwritten.withoutSigns_eq
  have hlast : IsWritten (withoutSigns digits) c := by rwa [hplain]
  obtain rfl := hdigits.unique hdigits' hlast.getLast? hwritten'.getLast?
  exact hsigns hplain

/-- **The texts of colors.** A text is read as a color if and only if, between white space, it is a
hash mark and six or eight hexadecimal digits, of which each two are the value of a channel, or would
be if each plus sign that begins a pair were a zero. No text is both. Every other text is given
back. -/
theorem ofText_documented_or_signed (s : String) :
    (∀ c, ofText s = .ok c ↔ Documented s c ∨ Signed s c) ∧
    (∀ c c', Documented s c → ¬ Signed s c') ∧
    ∀ e, ofText s = .error e ↔ e = ⟨s⟩ ∧ ∀ c, ¬ Documented s c ∧ ¬ Signed s c := by
  refine ⟨fun c => ofText_eq_ok_iff_documented_or_signed, fun c c' h => h.not_signed,
    fun e => ⟨fun h => ⟨ofText_error h, fun c => ?_⟩, ?_⟩⟩
  · rw [← not_or, ← ofText_eq_ok_iff_documented_or_signed, h]
    simp
  · rintro ⟨rfl, hnone⟩
    cases hs : ofText s with
    | ok c => exact absurd (ofText_eq_ok_iff_documented_or_signed.1 hs) (not_or.2 (hnone c))
    | error e => rw [ofText_error hs]

/-- **A sign is read**: three plus signs with a digit each are a color, though not a documented
one. -/
theorem ofText_plus_signs :
    ofText "#+1+2+3" = .ok ⟨1, 2, 3, 255⟩ ∧ ∀ c, ¬ Documented "#+1+2+3" c := by
  have hsigned : Signed "#+1+2+3" ⟨1, 2, 3, 255⟩ := by
    refine ⟨"+1+2+3".toList, ⟨[], [], by decide +kernel, by simp, by simp⟩, by decide +kernel,
      Or.inl ⟨by decide +kernel, ?_, rfl⟩⟩
    exact .cons (h := 0) (l := 1) (by decide) (by decide) rfl
      (.cons (h := 0) (l := 2) (by decide) (by decide) rfl
        (.cons (h := 0) (l := 3) (by decide) (by decide) rfl .nil))
  exact ⟨ofText_eq_ok_iff_documented_or_signed.2 (Or.inr hsigned), fun c h => h.not_signed hsigned⟩

end Color

end ScopePaint
