import ScopePaint.Data.Json

/-!
# Quoted texts and numbers in JSON

A text that is written between quotes is read back (`readText_quote`), because each of its
characters is read from what stands for it (`readUnits_escapeChar`). A number is read in the same
way whatever comes behind it, as long as that cannot go on with it (`readNumber_append`); the digits
of a natural number are read as the number (`readNumber_toDigits`). Neither a quoted text nor a
number has a line break in it (`newline_notMem_escapeChar`, `newline_notMem_of_readNumber`).
-/

set_option autoImplicit false

namespace ScopePaint.Data

/-! ## Texts -/

/-- A digit that is written for a number below 16 has that value. -/
theorem hexDigit_hexChar : ∀ n < 16, isHex (Json.hexChar n) = true ∧ hexDigit (Json.hexChar n) = n := by
  decide

/-- The four digits that stand for a number below 256 are read as that number. -/
theorem readHex4_escape {n : Nat} (h : n < 256) (rest : List Char) :
    readHex4 ('0' :: '0' :: Json.hexChar (n / 16) :: Json.hexChar (n % 16) :: rest) =
      some (n, rest) := by
  obtain ⟨hhigh, hhighValue⟩ := hexDigit_hexChar (n / 16) (by omega)
  obtain ⟨hlow, hlowValue⟩ := hexDigit_hexChar (n % 16) (by omega)
  have hzero : isHex '0' = true ∧ hexDigit '0' = 0 := by decide
  rw [readHex4, if_pos ⟨hzero.1, hzero.1, hhigh, hlow⟩, hzero.2, hhighValue, hlowValue]
  congr 2
  omega

/-- Most characters stand for themselves. -/
theorem readUnits_plain {c : Char} (hquote : c ≠ '"') (hbackslash : c ≠ '\\')
    (hplain : ¬ c.toNat < 0x20) (fuel : Nat) (rest : List Char) :
    readUnits (fuel + 1) (c :: rest) =
      (readUnits fuel rest).map fun result => (.char c :: result.1, result.2) := by
  rw [readUnits, if_neg hplain]
  · exact hquote
  · exact fun _ _ h _ => hbackslash h

/-- **Each character is read from what stands for it.** -/
theorem readUnits_escapeChar (c : Char) (fuel : Nat) (rest : List Char) :
    readUnits (fuel + 1) (Json.escapeChar c ++ rest) =
      (readUnits fuel rest).map fun result => (.char c :: result.1, result.2) := by
  unfold Json.escapeChar
  split
  · rename_i h; subst h; rfl
  split
  · rename_i h; subst h; rfl
  split
  · rename_i h; subst h; rfl
  split
  · rename_i h; subst h; rfl
  split
  · rename_i h; subst h; rfl
  split
  · rename_i h; subst h; rfl
  split
  · rename_i h; subst h; rfl
  split
  · rename_i hcontrol
    have hhex := readHex4_escape (n := c.toNat) (by omega) rest
    simp only [List.cons_append, List.nil_append, readUnits, hhex]
    rw [if_neg (by omega), Char.ofNat_toNat]
  · rename_i hquote hbackslash _ _ _ _ _ hplain
    exact readUnits_plain hquote hbackslash hplain fuel rest

/-- Escaping makes no text shorter. -/
theorem length_le_flatMap_escapeChar (cs : List Char) :
    cs.length ≤ (cs.flatMap Json.escapeChar).length := by
  induction cs with
  | nil => exact Nat.le_refl _
  | cons c cs ih =>
    have hone : 1 ≤ (Json.escapeChar c).length := by
      unfold Json.escapeChar
      repeat' split
      all_goals simp
    rw [List.flatMap_cons, List.length_append, List.length_cons]
    omega

/-- The units between the quotes are the characters of the text. -/
theorem readUnits_quote (cs : List Char) {fuel : Nat} (h : cs.length < fuel) (rest : List Char) :
    readUnits fuel (cs.flatMap Json.escapeChar ++ '"' :: rest) = some (cs.map .char, rest) := by
  induction cs generalizing fuel with
  | nil =>
    obtain ⟨fuel, rfl⟩ : ∃ n, fuel = n + 1 := ⟨fuel - 1, by omega⟩
    rfl
  | cons c cs ih =>
    rw [List.length_cons] at h
    obtain ⟨fuel, rfl⟩ : ∃ n, fuel = n + 1 := ⟨fuel - 1, by omega⟩
    rw [List.flatMap_cons, List.append_assoc, readUnits_escapeChar, ih (by omega)]
    rfl

/-- Units that are whole characters are joined as they are. -/
theorem joinUnits_map_char (cs : List Char) : joinUnits (cs.map .char) = some cs := by
  induction cs with
  | nil => rfl
  | cons c cs ih => rw [List.map_cons, joinUnits, ih]; rfl

/-- **A text between quotes is read back.** -/
theorem readText_quote (s : String) (rest : List Char) :
    readText (s.toList.flatMap Json.escapeChar ++ '"' :: rest) = some (some s, rest) := by
  have hlength := length_le_flatMap_escapeChar s.toList
  unfold readText
  rw [readUnits_quote s.toList (by rw [List.length_append]; omega), Option.map_some,
    joinUnits_map_char, Option.map_some, String.ofList_toList]

/-- There is no line break in what stands for a character between quotes. -/
theorem newline_notMem_escapeChar (c : Char) : '\n' ∉ Json.escapeChar c := by
  have hhex : ∀ n < 16, Json.hexChar n ≠ '\n' := by decide
  unfold Json.escapeChar
  split
  · decide
  split
  · decide
  split
  · decide
  split
  · decide
  split
  · decide
  split
  · decide
  split
  · decide
  rename_i hnewline _ _
  split
  · rename_i hcontrol
    have hhigh := (hhex (c.toNat / 16) (by omega)).symm
    have hlow := (hhex (c.toNat % 16) (by omega)).symm
    simp [hhigh, hlow]
  · exact fun hmem => hnewline (List.mem_singleton.1 hmem).symm

/-! ## Numbers -/

/-- What cannot go on with a number. -/
def EndsNumber (rest : List Char) : Prop :=
  ∀ c ∈ rest.head?, c.isDigit = false ∧ c ≠ '.' ∧ c ≠ 'e' ∧ c ≠ 'E'

/-- The sign of a number. -/
def readSign (cs : List Char) : Bool × List Char :=
  match cs with
  | '-' :: rest => (true, rest)
  | _ => (false, cs)

/-- The digits of a number before its fraction. -/
def readWhole (cs : List Char) : Option (List Char × List Char) :=
  match cs with
  | '0' :: rest => if rest.head?.any Char.isDigit then none else some (['0'], rest)
  | _ => readDigits cs

/-- The fraction of a number, and whether there is one. -/
def readFraction (cs : List Char) : Option (List Char × Bool × List Char) :=
  match cs with
  | '.' :: rest => (readDigits rest).map fun result => (result.1, true, result.2)
  | _ => some ([], false, cs)

/-- The sign of an exponent. -/
def readExponentSign (cs : List Char) : Bool × List Char :=
  match cs with
  | '+' :: rest => (false, rest)
  | '-' :: rest => (true, rest)
  | _ => (false, cs)

/-- The sign and the digits of an exponent, and whether there is one. -/
def readExponent (cs : List Char) : Option (Bool × List Char × Bool × List Char) :=
  match cs with
  | c :: rest =>
    if c = 'e' ∨ c = 'E' then
      (readDigits (readExponentSign rest).2).map fun result =>
        ((readExponentSign rest).1, result.1, true, result.2)
    else some (false, [], false, cs)
  | [] => some (false, [], false, cs)

/-- Going on behind the whole part of a number is going on in each of its cases. -/
theorem bind_readWhole {β : Type} (cs : List Char) (k : List Char × List Char → Option β) :
    (readWhole cs).bind k = match cs with
      | '0' :: rest => if rest.head?.any Char.isDigit then none.bind k else (some (['0'], rest)).bind k
      | _ => (readDigits cs).bind k := by
  unfold readWhole
  split
  · split <;> rfl
  · rfl

/-- Going on behind the fraction of a number is going on in each of its cases. -/
theorem bind_readFraction {β : Type} (cs : List Char) (k : List Char × Bool × List Char → Option β) :
    (readFraction cs).bind k = match cs with
      | '.' :: rest => ((readDigits rest).map fun result => (result.1, true, result.2)).bind k
      | _ => (some ([], false, cs)).bind k := by
  unfold readFraction
  split <;> rfl

/-- Going on behind the exponent of a number is going on in each of its cases. -/
theorem bind_readExponent {β : Type} (cs : List Char)
    (k : Bool × List Char × Bool × List Char → Option β) :
    (readExponent cs).bind k = match cs with
      | c :: rest =>
        if c = 'e' ∨ c = 'E' then
          ((readDigits (readExponentSign rest).2).map fun result =>
            ((readExponentSign rest).1, result.1, true, result.2)).bind k
        else (some (false, [], false, cs)).bind k
      | [] => (some (false, [], false, cs)).bind k := by
  unfold readExponent
  split
  · split <;> rfl
  · rfl

/-- A number is its sign, its whole part, its fraction and its exponent, one after the other. -/
theorem readNumber_eq (cs : List Char) : readNumber cs =
    (readWhole (readSign cs).2).bind fun whole =>
      (readFraction whole.2).bind fun fraction =>
        (readExponent fraction.2.2).bind fun exponent =>
          some (numberValue ⟨(readSign cs).1, whole.1, fraction.1, exponent.1, exponent.2.1⟩
            (!fraction.2.1 && !exponent.2.2.1), exponent.2.2.2) := by
  unfold readNumber
  simp only [Option.bind_eq_bind]
  refine (bind_readWhole (readSign cs).2 _).symm.trans ?_
  refine congrArg _ (funext fun whole => ?_)
  refine (bind_readFraction whole.2 _).symm.trans ?_
  refine congrArg _ (funext fun fraction => ?_)
  exact (bind_readExponent fraction.2.2 _).symm

/-! ### Natural numbers -/

/-- The digits of a positive number do not begin with a zero. -/
theorem head_toDigits {n : Nat} (h : 0 < n) : ∀ c ∈ (Nat.toDigits 10 n).head?, c ≠ '0' := by
  induction n using Nat.strongRecOn with
  | ind n ih =>
    rcases Nat.lt_or_ge n 10 with hlt | hge
    · have hdigit : ∀ m < 10, 0 < m → Nat.digitChar m ≠ '0' := by decide
      rw [Nat.toDigits_of_lt_base hlt]
      rintro c hc rfl
      exact hdigit n hlt h (by simpa using hc)
    · rw [Nat.toDigits_of_base_le (by omega) hge, List.head?_append,
        Option.or_of_isSome (by simp)]
      exact ih (n / 10) (by omega) (by omega)

/-- Digits are read up to the end of a text that has nothing else. -/
theorem readDigits_all {cs : List Char} (hne : cs ≠ []) (hdigits : ∀ c ∈ cs, c.isDigit = true) :
    readDigits cs = some (cs, []) := by
  have hall : cs.takeWhile Char.isDigit = cs := by
    rw [← List.append_nil cs, List.takeWhile_append_of_pos hdigits]
    rfl
  unfold readDigits
  rw [hall]
  split
  · exact absurd ‹_› hne
  · rw [List.drop_length]

/-- The digits of a natural number are read as a whole part. -/
theorem readWhole_toDigits (n : Nat) :
    readWhole (Nat.toDigits 10 n) = some (Nat.toDigits 10 n, []) := by
  rcases Nat.eq_zero_or_pos n with rfl | hpos
  · rfl
  · unfold readWhole
    split
    · rename_i rest heq
      exact absurd rfl (head_toDigits hpos '0' (by rw [heq]; rfl))
    · exact readDigits_all Nat.toDigits_ne_nil fun c hc =>
        Nat.isDigit_of_mem_toDigits (by omega) (by omega) hc

/-- The value of the digits of a natural number is that number. -/
theorem digitsValue_toDigits (n : Nat) : Number.digitsValue (Nat.toDigits 10 n) = n := by
  have hvalue : Nat.ofDigitChars 10 (Nat.toDigits 10 n) 0 = n :=
    Nat.ofDigitChars_toDigits (by omega) (by omega)
  unfold Nat.ofDigitChars at hvalue
  unfold Number.digitsValue
  simpa only [Nat.mul_comm] using hvalue

/-- The digits of a natural number are a number without a fraction or an exponent. -/
theorem readNumber_toDigits_eq (n : Nat) :
    readNumber (Nat.toDigits 10 n) =
      some (numberValue ⟨false, Nat.toDigits 10 n, [], false, []⟩ true, []) := by
  have hsign : readSign (Nat.toDigits 10 n) = (false, Nat.toDigits 10 n) := by
    unfold readSign
    split
    · rename_i rest heq
      have hdigit := Nat.isDigit_of_mem_toDigits (b := 10) (n := n) (c := '-') (by omega) (by omega)
        (by rw [heq]; exact List.mem_cons_self)
      exact absurd hdigit (by decide)
    · rfl
  rw [readNumber_eq, hsign, readWhole_toDigits]
  rfl

/-- **A natural number of 64 bits is read from its digits.** -/
theorem readNumber_toDigits {n : Nat} (h : n < Nat.pow 2 64) :
    readNumber (Nat.toDigits 10 n) = some (.integer n, []) := by
  have hvalue : numberValue ⟨false, Nat.toDigits 10 n, [], false, []⟩ true = .integer n := by
    unfold numberValue
    rw [if_pos rfl, if_neg Bool.false_ne_true]
    dsimp only
    rw [digitsValue_toDigits, if_pos h]
  rw [readNumber_toDigits_eq, hvalue]

/-! ### What comes behind a number -/

section Behind

variable {cs rest : List Char}

/-- No digits are taken from what ends a number. -/
theorem EndsNumber.takeWhile_append (h : EndsNumber rest) (cs : List Char) :
    (cs ++ rest).takeWhile Char.isDigit = cs.takeWhile Char.isDigit := by
  have hrest : rest.takeWhile Char.isDigit = [] := by
    cases rest with
    | nil => rfl
    | cons c rest => simp [(h c rfl).1]
  rw [List.takeWhile_append, hrest, List.append_nil]
  split
  · rename_i hall
    exact ((List.takeWhile_prefix _).eq_of_length hall).symm
  · rfl

/-- Digits are read in the same way in front of what ends a number. -/
theorem EndsNumber.readDigits (h : EndsNumber rest) {digits behind : List Char}
    (hread : Data.readDigits cs = some (digits, behind)) :
    Data.readDigits (cs ++ rest) = some (digits, behind ++ rest) := by
  have hle : (cs.takeWhile Char.isDigit).length ≤ cs.length := (List.takeWhile_prefix _).length_le
  unfold Data.readDigits at hread ⊢
  rw [h.takeWhile_append]
  split at hread
  · exact absurd hread (by simp)
  · obtain ⟨rfl, rfl⟩ := Prod.mk.inj (Option.some.inj hread)
    rw [List.drop_append_of_le_length hle]

/-- So is a whole part. -/
theorem EndsNumber.readWhole (h : EndsNumber rest) {digits behind : List Char}
    (hread : Data.readWhole cs = some (digits, behind)) :
    Data.readWhole (cs ++ rest) = some (digits, behind ++ rest) := by
  unfold Data.readWhole at hread
  split at hread
  · rename_i others
    split at hread
    · exact absurd hread (by simp)
    · rename_i hnone
      obtain ⟨rfl, rfl⟩ := Prod.mk.inj (Option.some.inj hread)
      have hhead : ¬ (others ++ rest).head?.any Char.isDigit = true := by
        cases others with
        | nil =>
          cases rest with
          | nil => simp
          | cons c rest => simp [(h c rfl).1]
        | cons c others => simpa using hnone
      rw [List.cons_append, Data.readWhole, if_neg hhead]
  · rename_i hzero
    have hdigits := h.readDigits hread
    unfold Data.readWhole
    split
    · rename_i others heq
      cases cs with
      | nil => exact absurd hread (by simp [Data.readDigits])
      | cons c cs =>
        obtain ⟨rfl, -⟩ := List.cons.inj heq
        exact (hzero cs rfl).elim
    · exact hdigits

/-- So is a fraction. -/
theorem EndsNumber.readFraction (h : EndsNumber rest) {digits behind : List Char} {found : Bool}
    (hread : Data.readFraction cs = some (digits, found, behind)) :
    Data.readFraction (cs ++ rest) = some (digits, found, behind ++ rest) := by
  unfold Data.readFraction at hread
  split at hread
  · rename_i others
    obtain ⟨⟨_, _⟩, hdigits, hresult⟩ := Option.map_eq_some_iff.1 hread
    simp only [Prod.mk.injEq] at hresult
    obtain ⟨rfl, rfl, rfl⟩ := hresult
    rw [List.cons_append, Data.readFraction, h.readDigits hdigits]
    rfl
  · rename_i hpoint
    obtain ⟨rfl, hresult⟩ := Prod.mk.inj (Option.some.inj hread)
    obtain ⟨rfl, rfl⟩ := Prod.mk.inj hresult
    unfold Data.readFraction
    split
    · rename_i others heq
      cases cs with
      | nil =>
        rw [List.nil_append] at heq
        subst heq
        exact absurd rfl (h '.' rfl).2.1
      | cons c cs =>
        obtain ⟨rfl, -⟩ := List.cons.inj heq
        exact (hpoint cs rfl).elim
    · rfl

/-- The sign of an exponent does not depend on what comes behind its first character. -/
theorem readExponentSign_append (c : Char) (cs rest : List Char) :
    readExponentSign (c :: cs ++ rest) =
      ((readExponentSign (c :: cs)).1, (readExponentSign (c :: cs)).2 ++ rest) := by
  unfold readExponentSign
  rw [List.cons_append]
  split
  · rename_i heq
    obtain ⟨rfl, rfl⟩ := List.cons.inj heq
    rfl
  · rename_i heq
    obtain ⟨rfl, rfl⟩ := List.cons.inj heq
    rfl
  · rename_i hplus hminus
    split
    · rename_i heq
      obtain ⟨rfl, rfl⟩ := List.cons.inj heq
      exact (hplus _ rfl).elim
    · rename_i heq
      obtain ⟨rfl, rfl⟩ := List.cons.inj heq
      exact (hminus _ rfl).elim
    · rfl

/-- An exponent is read in the same way in front of what ends a number. -/
theorem EndsNumber.readExponent (h : EndsNumber rest) {negative found : Bool}
    {digits behind : List Char}
    (hread : Data.readExponent cs = some (negative, digits, found, behind)) :
    Data.readExponent (cs ++ rest) = some (negative, digits, found, behind ++ rest) := by
  cases cs with
  | nil =>
    obtain ⟨rfl, rfl, rfl, rfl⟩ : false = negative ∧ [] = digits ∧ false = found ∧ [] = behind := by
      simpa [Data.readExponent] using hread
    cases rest with
    | nil => rfl
    | cons c rest =>
      obtain ⟨-, -, he, hE⟩ := h c rfl
      rw [List.nil_append, Data.readExponent, if_neg (by simp [he, hE])]
  | cons c cs =>
    rw [Data.readExponent] at hread
    rw [List.cons_append, Data.readExponent]
    split
    · rename_i he
      rw [if_pos he] at hread
      obtain ⟨⟨_, _⟩, hdigits, hresult⟩ := Option.map_eq_some_iff.1 hread
      cases cs with
      | nil => exact absurd hdigits (by simp [readExponentSign, Data.readDigits])
      | cons c' cs =>
        rw [readExponentSign_append, h.readDigits hdigits, Option.map_some]
        simp only [Prod.mk.injEq] at hresult
        obtain ⟨rfl, rfl, rfl, rfl⟩ := hresult
        rfl
    · rename_i he
      rw [if_neg he] at hread
      obtain ⟨rfl, rfl, rfl, rfl⟩ :
          false = negative ∧ [] = digits ∧ false = found ∧ c :: cs = behind := by
        simpa using hread
      rfl

/-- The sign of a number does not depend on what comes behind its first character. -/
theorem readSign_append (c : Char) (cs rest : List Char) :
    readSign (c :: cs ++ rest) = ((readSign (c :: cs)).1, (readSign (c :: cs)).2 ++ rest) := by
  unfold readSign
  rw [List.cons_append]
  split
  · rename_i heq
    obtain ⟨rfl, rfl⟩ := List.cons.inj heq
    rfl
  · rename_i hminus
    split
    · rename_i heq
      obtain ⟨rfl, rfl⟩ := List.cons.inj heq
      exact (hminus _ rfl).elim
    · rfl

/-- **A number is read in the same way whatever comes behind it.** -/
theorem readNumber_append {v : Value} (hread : readNumber cs = some (v, []))
    (h : EndsNumber rest) : readNumber (cs ++ rest) = some (v, rest) := by
  rw [readNumber_eq] at hread ⊢
  obtain ⟨whole, hwhole, hread⟩ := Option.bind_eq_some_iff.1 hread
  obtain ⟨fraction, hfraction, hread⟩ := Option.bind_eq_some_iff.1 hread
  obtain ⟨exponent, hexponent, hresult⟩ := Option.bind_eq_some_iff.1 hread
  obtain ⟨rfl, hbehind⟩ := Prod.mk.inj (Option.some.inj hresult)
  cases cs with
  | nil => exact absurd hwhole (by simp [readSign, readWhole, readDigits])
  | cons c cs =>
    have hwhole' := h.readWhole hwhole
    have hfraction' := h.readFraction hfraction
    have hexponent' := h.readExponent hexponent
    rw [hbehind, List.nil_append] at hexponent'
    rw [readSign_append]
    dsimp only
    rw [hwhole', Option.bind_some]
    dsimp only
    rw [hfraction', Option.bind_some]
    dsimp only
    rw [hexponent', Option.bind_some]

/-- A number begins with a minus sign or a digit. -/
theorem head_of_readNumber {result : Value × List Char} (hread : readNumber cs = some result) :
    ∃ c rest, cs = c :: rest ∧ (c = '-' ∨ c.isDigit = true) := by
  rw [readNumber_eq] at hread
  obtain ⟨whole, hwhole, -⟩ := Option.bind_eq_some_iff.1 hread
  unfold readSign at hwhole
  split at hwhole
  · rename_i rest
    exact ⟨'-', rest, rfl, Or.inl rfl⟩
  · unfold readWhole at hwhole
    split at hwhole
    · rename_i rest hcs
      exact ⟨'0', rest, hcs, Or.inr (by decide)⟩
    · cases cs with
      | nil => exact absurd hwhole (by simp [readDigits])
      | cons c rest =>
        refine ⟨c, rest, rfl, Or.inr ?_⟩
        cases hdigit : c.isDigit with
        | true => rfl
        | false => exact absurd hwhole (by simp [readDigits, hdigit])

end Behind

/-! ### Line breaks -/

section LineBreaks

variable {cs rest digits : List Char}

/-- Digits end before a line break. -/
theorem newline_mem_of_readDigits (hread : readDigits cs = some (digits, rest))
    (hmem : '\n' ∈ cs) : '\n' ∈ rest := by
  obtain ⟨behind, hcs⟩ := List.takeWhile_prefix Char.isDigit (l := cs)
  have hbehind : cs.drop (cs.takeWhile Char.isDigit).length = behind := by
    have hdrop := congrArg (List.drop (cs.takeWhile Char.isDigit).length) hcs
    rw [List.drop_append_length] at hdrop
    exact hdrop.symm
  unfold readDigits at hread
  split at hread
  · exact absurd hread (by simp)
  · obtain ⟨-, rfl⟩ := Prod.mk.inj (Option.some.inj hread)
    rw [hbehind]
    rw [← hcs] at hmem
    rcases List.mem_append.1 hmem with hdigit | hmem
    · exact absurd (List.all_eq_true.1 List.all_takeWhile _ hdigit) (by decide)
    · exact hmem

/-- A sign ends before a line break. -/
theorem newline_mem_of_readSign (hmem : '\n' ∈ cs) : '\n' ∈ (readSign cs).2 := by
  unfold readSign
  split
  · simpa using hmem
  · exact hmem

/-- So does what is in front of a fraction. -/
theorem newline_mem_of_readWhole (hread : readWhole cs = some (digits, rest))
    (hmem : '\n' ∈ cs) : '\n' ∈ rest := by
  unfold readWhole at hread
  split at hread
  · split at hread
    · exact absurd hread (by simp)
    · obtain ⟨-, rfl⟩ := Prod.mk.inj (Option.some.inj hread)
      simpa using hmem
  · exact newline_mem_of_readDigits hread hmem

/-- So does a fraction. -/
theorem newline_mem_of_readFraction {found : Bool}
    (hread : readFraction cs = some (digits, found, rest)) (hmem : '\n' ∈ cs) : '\n' ∈ rest := by
  unfold readFraction at hread
  split at hread
  · obtain ⟨⟨_, _⟩, hdigits, hresult⟩ := Option.map_eq_some_iff.1 hread
    simp only [Prod.mk.injEq] at hresult
    obtain ⟨-, -, rfl⟩ := hresult
    exact newline_mem_of_readDigits hdigits (by simpa using hmem)
  · simp only [Option.some.injEq, Prod.mk.injEq] at hread
    obtain ⟨-, -, rfl⟩ := hread
    exact hmem

/-- So does an exponent. -/
theorem newline_mem_of_readExponent {negative found : Bool}
    (hread : readExponent cs = some (negative, digits, found, rest)) (hmem : '\n' ∈ cs) :
    '\n' ∈ rest := by
  have hsign : ∀ {others : List Char}, '\n' ∈ others → '\n' ∈ (readExponentSign others).2 := by
    intro others hothers
    unfold readExponentSign
    split
    · simpa using hothers
    · simpa using hothers
    · exact hothers
  unfold readExponent at hread
  split at hread
  · rename_i c others
    split at hread
    · rename_i he
      obtain ⟨⟨_, _⟩, hdigits, hresult⟩ := Option.map_eq_some_iff.1 hread
      simp only [Prod.mk.injEq] at hresult
      obtain ⟨-, -, -, rfl⟩ := hresult
      refine newline_mem_of_readDigits hdigits (hsign ?_)
      rcases List.mem_cons.1 hmem with rfl | hmem
      · exact absurd he (by decide)
      · exact hmem
    · simp only [Option.some.injEq, Prod.mk.injEq] at hread
      obtain ⟨-, -, -, rfl⟩ := hread
      exact hmem
  · exact absurd hmem List.not_mem_nil

/-- **There is no line break in a number.** -/
theorem newline_notMem_of_readNumber {v : Value} (hread : readNumber cs = some (v, [])) :
    '\n' ∉ cs := by
  intro hmem
  rw [readNumber_eq] at hread
  obtain ⟨whole, hwhole, hread⟩ := Option.bind_eq_some_iff.1 hread
  obtain ⟨fraction, hfraction, hread⟩ := Option.bind_eq_some_iff.1 hread
  obtain ⟨exponent, hexponent, hresult⟩ := Option.bind_eq_some_iff.1 hread
  obtain ⟨-, hend⟩ := Prod.mk.inj (Option.some.inj hresult)
  have hwhole := newline_mem_of_readWhole hwhole (newline_mem_of_readSign hmem)
  have hfraction := newline_mem_of_readFraction hfraction hwhole
  have hexponent := newline_mem_of_readExponent hexponent hfraction
  rw [hend] at hexponent
  exact List.not_mem_nil hexponent

end LineBreaks

end ScopePaint.Data
