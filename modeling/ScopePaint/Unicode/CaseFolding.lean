import ScopePaint.Unicode.Ranges

/-!
Full case folding.

`fold` maps a character to the characters that stand for it when case is ignored: usually one, but
`ß` folds to two letters `s`. `variants` goes back: all characters with the same folding. Two
characters are variants of each other exactly if their foldings agree.

Most entries of the table come in runs, such as the 26 letters from `A` on, or in alternating
runs, where every second character folds to the one after it.
-/

set_option autoImplicit false

namespace ScopePaint.Unicode.CaseFolding

/-- Pairs of ranges of equal length; a member of the first folds to its counterpart in the
second. -/
def runs : String :=
  "41-5A 61-7A C0-D6 E0-F6 D8-DE F8-FE 189-18A 256-257 1B1-1B2 28A-28B 388-38A 3AD-3AF 38E-38F
  3CD-3CE 391-3A1 3B1-3C1 3A3-3AB 3C3-3CB 3FD-3FF 37B-37D 400-40F 450-45F 410-42F 430-44F
  531-556 561-586 10A0-10C5 2D00-2D25 13F8-13FD 13F0-13F5 1C83-1C84 441-442 1C90-1CBA 10D0-10FA
  1CBD-1CBF 10FD-10FF 1F08-1F0F 1F00-1F07 1F18-1F1D 1F10-1F15 1F28-1F2F 1F20-1F27 1F38-1F3F
  1F30-1F37 1F48-1F4D 1F40-1F45 1F68-1F6F 1F60-1F67 1FB8-1FB9 1FB0-1FB1 1FBA-1FBB 1F70-1F71
  1FC8-1FCB 1F72-1F75 1FD8-1FD9 1FD0-1FD1 1FDA-1FDB 1F76-1F77 1FE8-1FE9 1FE0-1FE1 1FEA-1FEB
  1F7A-1F7B 1FF8-1FF9 1F78-1F79 1FFA-1FFB 1F7C-1F7D 2160-216F 2170-217F 24B6-24CF 24D0-24E9
  2C00-2C2F 2C30-2C5F 2C7E-2C7F 23F-240 AB70-ABBF 13A0-13EF FF21-FF3A FF41-FF5A 10400-10427
  10428-1044F 104B0-104D3 104D8-104FB 10570-1057A 10597-105A1 1057C-1058A 105A3-105B1
  1058C-10592 105B3-105B9 10594-10595 105BB-105BC 10C80-10CB2 10CC0-10CF2 10D50-10D65
  10D70-10D85 118A0-118BF 118C0-118DF 16E40-16E5F 16E60-16E7F 1E900-1E921 1E922-1E943"

/-- Pairs of ranges as in `runs`, where only every second code point folds. -/
def alternatingRuns : String :=
  "100-12E 101-12F 132-136 133-137 139-147 13A-148 14A-176 14B-177 179-17D 17A-17E 182-184
  183-185 1A0-1A4 1A1-1A5 1B3-1B5 1B4-1B6 1CB-1DB 1CC-1DC 1DE-1EE 1DF-1EF 1F2-1F4 1F3-1F5
  1F8-21E 1F9-21F 222-232 223-233 246-24E 247-24F 370-372 371-373 3D8-3EE 3D9-3EF 460-480
  461-481 48A-4BE 48B-4BF 4C1-4CD 4C2-4CE 4D0-52E 4D1-52F 1E00-1E94 1E01-1E95 1EA0-1EFE
  1EA1-1EFF 1F59-1F5F 1F51-1F57 2C67-2C6B 2C68-2C6C 2C80-2CE2 2C81-2CE3 2CEB-2CED 2CEC-2CEE
  A640-A66C A641-A66D A680-A69A A681-A69B A722-A72E A723-A72F A732-A76E A733-A76F A779-A77B
  A77A-A77C A77E-A786 A77F-A787 A790-A792 A791-A793 A796-A7A8 A797-A7A9 A7B4-A7C2 A7B5-A7C3
  A7C7-A7C9 A7C8-A7CA A7D6-A7DA A7D7-A7DB"

/-- Single code points and their foldings, each pair written as a range. -/
def pairs : String :=
  "B5-3BC 178-FF 17F-73 181-253 186-254 187-188 18B-18C 18E-1DD 18F-259 190-25B 191-192 193-260
  194-263 196-269 197-268 198-199 19C-26F 19D-272 19F-275 1A6-280 1A7-1A8 1A9-283 1AC-1AD
  1AE-288 1AF-1B0 1B7-292 1B8-1B9 1BC-1BD 1C4-1C6 1C5-1C6 1C7-1C9 1C8-1C9 1CA-1CC 1F1-1F3
  1F6-195 1F7-1BF 220-19E 23A-2C65 23B-23C 23D-19A 23E-2C66 241-242 243-180 244-289 245-28C
  345-3B9 376-377 37F-3F3 386-3AC 38C-3CC 3C2-3C3 3CF-3D7 3D0-3B2 3D1-3B8 3D5-3C6 3D6-3C0
  3F0-3BA 3F1-3C1 3F4-3B8 3F5-3B5 3F7-3F8 3F9-3F2 3FA-3FB 4C0-4CF 10C7-2D27 10CD-2D2D 1C80-432
  1C81-434 1C82-43E 1C85-442 1C86-44A 1C87-463 1C88-A64B 1C89-1C8A 1E9B-1E61 1FBE-3B9 1FEC-1FE5
  2126-3C9 212A-6B 212B-E5 2132-214E 2183-2184 2C60-2C61 2C62-26B 2C63-1D7D 2C64-27D 2C6D-251
  2C6E-271 2C6F-250 2C70-252 2C72-2C73 2C75-2C76 2CF2-2CF3 A77D-1D79 A78B-A78C A78D-265 A7AA-266
  A7AB-25C A7AC-261 A7AD-26C A7AE-26A A7B0-29E A7B1-287 A7B2-29D A7B3-AB53 A7C4-A794 A7C5-282
  A7C6-1D8E A7CB-264 A7CC-A7CD A7D0-A7D1 A7DC-19B A7F5-A7F6"

/-- Code points that fold to two or three characters, written as such a folding behind its code
point. -/
def expansions : List (Nat × List Nat) := [
  (0xDF, [0x73, 0x73]), (0x130, [0x69, 0x307]), (0x149, [0x2BC, 0x6E]),
  (0x1F0, [0x6A, 0x30C]), (0x390, [0x3B9, 0x308, 0x301]), (0x3B0, [0x3C5, 0x308, 0x301]),
  (0x587, [0x565, 0x582]), (0x1E96, [0x68, 0x331]), (0x1E97, [0x74, 0x308]),
  (0x1E98, [0x77, 0x30A]), (0x1E99, [0x79, 0x30A]), (0x1E9A, [0x61, 0x2BE]),
  (0x1E9E, [0x73, 0x73]), (0x1F50, [0x3C5, 0x313]), (0x1F52, [0x3C5, 0x313, 0x300]),
  (0x1F54, [0x3C5, 0x313, 0x301]), (0x1F56, [0x3C5, 0x313, 0x342]), (0x1F80, [0x1F00, 0x3B9]),
  (0x1F81, [0x1F01, 0x3B9]), (0x1F82, [0x1F02, 0x3B9]), (0x1F83, [0x1F03, 0x3B9]),
  (0x1F84, [0x1F04, 0x3B9]), (0x1F85, [0x1F05, 0x3B9]), (0x1F86, [0x1F06, 0x3B9]),
  (0x1F87, [0x1F07, 0x3B9]), (0x1F88, [0x1F00, 0x3B9]), (0x1F89, [0x1F01, 0x3B9]),
  (0x1F8A, [0x1F02, 0x3B9]), (0x1F8B, [0x1F03, 0x3B9]), (0x1F8C, [0x1F04, 0x3B9]),
  (0x1F8D, [0x1F05, 0x3B9]), (0x1F8E, [0x1F06, 0x3B9]), (0x1F8F, [0x1F07, 0x3B9]),
  (0x1F90, [0x1F20, 0x3B9]), (0x1F91, [0x1F21, 0x3B9]), (0x1F92, [0x1F22, 0x3B9]),
  (0x1F93, [0x1F23, 0x3B9]), (0x1F94, [0x1F24, 0x3B9]), (0x1F95, [0x1F25, 0x3B9]),
  (0x1F96, [0x1F26, 0x3B9]), (0x1F97, [0x1F27, 0x3B9]), (0x1F98, [0x1F20, 0x3B9]),
  (0x1F99, [0x1F21, 0x3B9]), (0x1F9A, [0x1F22, 0x3B9]), (0x1F9B, [0x1F23, 0x3B9]),
  (0x1F9C, [0x1F24, 0x3B9]), (0x1F9D, [0x1F25, 0x3B9]), (0x1F9E, [0x1F26, 0x3B9]),
  (0x1F9F, [0x1F27, 0x3B9]), (0x1FA0, [0x1F60, 0x3B9]), (0x1FA1, [0x1F61, 0x3B9]),
  (0x1FA2, [0x1F62, 0x3B9]), (0x1FA3, [0x1F63, 0x3B9]), (0x1FA4, [0x1F64, 0x3B9]),
  (0x1FA5, [0x1F65, 0x3B9]), (0x1FA6, [0x1F66, 0x3B9]), (0x1FA7, [0x1F67, 0x3B9]),
  (0x1FA8, [0x1F60, 0x3B9]), (0x1FA9, [0x1F61, 0x3B9]), (0x1FAA, [0x1F62, 0x3B9]),
  (0x1FAB, [0x1F63, 0x3B9]), (0x1FAC, [0x1F64, 0x3B9]), (0x1FAD, [0x1F65, 0x3B9]),
  (0x1FAE, [0x1F66, 0x3B9]), (0x1FAF, [0x1F67, 0x3B9]), (0x1FB2, [0x1F70, 0x3B9]),
  (0x1FB3, [0x3B1, 0x3B9]), (0x1FB4, [0x3AC, 0x3B9]), (0x1FB6, [0x3B1, 0x342]),
  (0x1FB7, [0x3B1, 0x342, 0x3B9]), (0x1FBC, [0x3B1, 0x3B9]), (0x1FC2, [0x1F74, 0x3B9]),
  (0x1FC3, [0x3B7, 0x3B9]), (0x1FC4, [0x3AE, 0x3B9]), (0x1FC6, [0x3B7, 0x342]),
  (0x1FC7, [0x3B7, 0x342, 0x3B9]), (0x1FCC, [0x3B7, 0x3B9]), (0x1FD2, [0x3B9, 0x308, 0x300]),
  (0x1FD3, [0x3B9, 0x308, 0x301]), (0x1FD6, [0x3B9, 0x342]), (0x1FD7, [0x3B9, 0x308, 0x342]),
  (0x1FE2, [0x3C5, 0x308, 0x300]), (0x1FE3, [0x3C5, 0x308, 0x301]), (0x1FE4, [0x3C1, 0x313]),
  (0x1FE6, [0x3C5, 0x342]), (0x1FE7, [0x3C5, 0x308, 0x342]), (0x1FF2, [0x1F7C, 0x3B9]),
  (0x1FF3, [0x3C9, 0x3B9]), (0x1FF4, [0x3CE, 0x3B9]), (0x1FF6, [0x3C9, 0x342]),
  (0x1FF7, [0x3C9, 0x342, 0x3B9]), (0x1FFC, [0x3C9, 0x3B9]), (0xFB00, [0x66, 0x66]),
  (0xFB01, [0x66, 0x69]), (0xFB02, [0x66, 0x6C]), (0xFB03, [0x66, 0x66, 0x69]),
  (0xFB04, [0x66, 0x66, 0x6C]), (0xFB05, [0x73, 0x74]), (0xFB06, [0x73, 0x74]),
  (0xFB13, [0x574, 0x576]), (0xFB14, [0x574, 0x565]), (0xFB15, [0x574, 0x56B]),
  (0xFB16, [0x57E, 0x576]), (0xFB17, [0x574, 0x56D])]

/-- The entries of a run whose members lie `step` apart. -/
def expandRun (step : Nat) (source target : CodeRange) : List (Char × List Char) :=
  (List.range ((source.last - source.first) / step + 1)).map fun i =>
    (Char.ofNat (source.first + i * step), [Char.ofNat (target.first + i * step)])

/-- The entries of a table of runs. -/
def expandRuns (step : Nat) : List CodeRange → List (Char × List Char)
  | source :: target :: rest => expandRun step source target ++ expandRuns step rest
  | _ => []

/-- All characters that do not fold to themselves, with their foldings. -/
def table : List (Char × List Char) :=
  expandRuns 1 (Ranges.ofText runs).items.toList
    ++ expandRuns 2 (Ranges.ofText alternatingRuns).items.toList
    ++ (Ranges.ofText pairs).items.toList.map
      (fun pair => (Char.ofNat pair.first, [Char.ofNat pair.last]))
    ++ expansions.map (fun entry => (Char.ofNat entry.1, entry.2.map Char.ofNat))

/-- The characters that stand for `c` when case is ignored. -/
def fold (c : Char) : List Char :=
  match table.find? (fun entry => entry.1 = c) with
  | some entry => entry.2
  | none => [c]

/-- The characters whose folding is `folded`, the one that folds to itself first. -/
def unfold (folded : List Char) : List Char :=
  (match folded with
    | [c] => if (table.any fun entry => entry.1 = c) then [] else [c]
    | _ => [])
    ++ (table.filter (fun entry => entry.2 = folded)).map (·.1)

/-- The characters that `c` stands for when case is ignored, `c` among them. -/
def variants (c : Char) : List Char :=
  unfold (fold c)

end ScopePaint.Unicode.CaseFolding
