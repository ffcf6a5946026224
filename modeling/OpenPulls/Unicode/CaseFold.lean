import OpenPulls.Unicode.CharSet

/-!
# Matching without regard to case

Two characters are the same but for case when simple case folding sends them to one character.
The table lists, for every class of such characters, each member but the last with the last.

**Closure** (`CharSet.foldCase`). The least set that holds the given one and, with a character,
all characters that differ from it in case only.
-/

namespace OpenPulls.Unicode

/-- The classes of characters that differ in case only, as maps to one member. -/
def caseFoldText : String := "
41-4A>61 4B>212A 4C-5A/2>6C 4D-59/4>6D 4F>6F 53>17F 57>77 6B>212A 73>17F B5>3BC C0-DE/2>E0
C1-C3/2>E1 C5>212B C7-D5/2>E7 D9-DD/2>F9 DF>1E9E E5>212B FF>178 100-12E/2>101 132-136/2>133
139-147/2>13A 14A-176/2>14B 179-17D/2>17A 180>243 181>253 182-184/2>183 186>254 187-18B/4>188
189-18A>256 18E>1DD 18F>259 190>25B 191>192 193>260 194>263 195>1F6 196>269 197>268 198>199
19A>23D 19B>A7DC 19C>26F 19D>272 19E>220 19F>275 1A0-1A4/2>1A1 1A6>280 1A7>1A8 1A9>283 1AC>1AD
1AE>288 1AF-1B3/4>1B0 1B1-1B2>28A 1B5>1B6 1B7>292 1B8-1BC/4>1B9 1BF>1F7 1C4>1C6 1C5>1C6 1C7>1C9
1C8>1C9 1CA>1CC 1CB-1DB/2>1CC 1DE-1EE/2>1DF 1F1>1F3 1F2-1F4/2>1F3 1F8-21E/2>1F9 222-232/2>223
23A>2C65 23B>23C 23E>2C66 23F-240>2C7E 241>242 244>289 245>28C 246-24E/2>247 250>2C6F 251>2C6D
252>2C70 25C>A7AB 261>A7AC 264>A7CB 265>A78D 266-26A/4>A7AA 26B>2C62 26C>A7AD 271>2C6E 27D>2C64
282>A7C5 287>A7B1 29D>A7B2 29E>A7B0 345>1FBE 370-372/2>371 376>377 37B-37D>3FD 37F>3F3 386>3AC
388-38A>3AD 38C>3CC 38E-38F>3CD 390>1FD3 391-393/2>3B1 392>3D0 394-396/2>3B4 395>3F5
397-3AB/4>3B7 398>3F4 399>1FBE 39A>3F0 39C-39E>3BC 3A0>3D6 3A1>3F1 3A4-3A5>3C4 3A6>3D5
3A8-3AA/2>3C8 3A9>2126 3B0>1FE3 3B2>3D0 3B5>3F5 3B8>3F4 3B9>1FBE 3BA>3F0 3C0>3D6 3C1>3F1 3C2>3C3
3C6>3D5 3C9>2126 3CF>3D7 3D1>3F4 3D8-3EE/2>3D9 3F2>3F9 3F7>3F8 3FA>3FB 400-40F>450 410-411>430
412>1C80 413-42F/4>433 414>1C81 415-41D/4>435 416-41C/2>436 41E>1C82 420-42C/4>440 421>1C83
422>1C85 425-42D/4>445 426>446 42A>1C86 42E>44E 432>1C80 434>1C81 43E>1C82 441>1C83 442>1C85
44A>1C86 460-480/4>461 462>1C87 463>1C87 466-47E/4>467 48A-4BE/2>48B 4C0>4CF 4C1-4CD/2>4C2
4D0-52E/2>4D1 531-556>561 10A0-10C5>2D00 10C7>2D27 10CD>2D2D 10D0-10FA>1C90 10FD-10FF>1CBD
13A0-13EF>AB70 13F0-13F5>13F8 1C84>1C85 1C88>A64B 1C89>1C8A 1D79>A77D 1D7D>2C63 1D8E>A7C6
1E00-1E5E/2>1E01 1E60>1E9B 1E61>1E9B 1E62-1E94/2>1E63 1EA0-1EFE/2>1EA1 1F00-1F07>1F08
1F10-1F15>1F18 1F20-1F27>1F28 1F30-1F37>1F38 1F40-1F45>1F48 1F51-1F57/2>1F59 1F60-1F67>1F68
1F70-1F71>1FBA 1F72-1F75>1FC8 1F76-1F77>1FDA 1F78-1F79>1FF8 1F7A-1F7B>1FEA 1F7C-1F7D>1FFA
1F80-1F87>1F88 1F90-1F97>1F98 1FA0-1FA7>1FA8 1FB0-1FB1>1FB8 1FB3>1FBC 1FC3>1FCC 1FD0-1FD1>1FD8
1FE0-1FE1>1FE8 1FE5>1FEC 1FF3>1FFC 2132>214E 2160-216F>2170 2183>2184 24B6-24CF>24D0
2C00-2C2F>2C30 2C60>2C61 2C67-2C6B/2>2C68 2C72>2C73 2C75>2C76 2C80-2CE2/2>2C81 2CEB-2CED/2>2CEC
2CF2>2CF3 A640-A66C/2>A641 A680-A69A/2>A681 A722-A76E/4>A723 A724-A72C/4>A725 A734-A76C/4>A735
A779-A77B/2>A77A A77E-A786/2>A77F A78B>A78C A790-A792/2>A791 A794>A7C4 A796-A7A8/2>A797
A7B3>AB53 A7B4-A7C2/2>A7B5 A7C7-A7C9/2>A7C8 A7CC-A7DA/2>A7CD A7F5>A7F6 FB05>FB06 FF21-FF3A>FF41
10400-10427>10428 104B0-104D3>104D8 10570-10594/2>10597 10571-10595/4>10598 10573-10577/4>1059A
1057F-10587/4>105A6 1058F>105B6 10C80-10CB2>10CC0 10D50-10D65>10D70 118A0-118BF>118C0
16E40-16E5F>16E60 16EA0-16EB8>16EBB 1E900-1E921>1E922
"

/-- Each character with a class of its own case, beside the member that stands for the class. -/
def caseFoldPairs : List (Nat × Nat) :=
  (Table.runs caseFoldText).flatMap fun r =>
    r.sources.map fun c => (c, ((r.target? c).getD []).headD c)

/-- The member that stands for the class of `c`; a character without case stands for itself. -/
def foldCase (c : Char) : Char :=
  match caseFoldPairs.find? (·.1 = c.toNat) with
  | some (_, t) => Char.ofNat t
  | none => c

namespace CharSet

/-- The characters that differ from a member of the set in case only. -/
def foldCase (s : CharSet) : CharSet :=
  let holds (n : Nat) : Bool := s.ranges.any fun r => r.1 ≤ n && n ≤ r.2
  let targets := caseFoldPairs.filterMap fun (c, t) =>
    if holds c || holds t then some t else none
  let members := caseFoldPairs.filterMap fun (c, t) =>
    if targets.contains t then some (c, c) else none
  s.union (ofRanges (targets.map (fun t => (t, t)) ++ members))

/-- Some character of the class of `c` is not `c`. -/
def hasCase (c : Char) : Bool :=
  caseFoldPairs.any fun (a, b) => a = c.toNat || b = c.toNat

end CharSet

end OpenPulls.Unicode
