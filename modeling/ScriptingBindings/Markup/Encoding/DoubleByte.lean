/-
  ScriptingBindings.Markup.Encoding.DoubleByte
  ──────────────────────────────────
  **ENCODINGS OF TWO BYTES.**

  The encodings of East Asia write a character of their own in two bytes, of
  which the first is never ASCII.  Each has a table of cells, and some differ
  from the table in a few codes.
-/
import ScriptingBindings.Markup.Encoding.Big5
import ScriptingBindings.Markup.Encoding.Gbk
import ScriptingBindings.Markup.Encoding.Jis
import ScriptingBindings.Markup.Encoding.Korean

namespace ScriptingBindings.Markup

/-! ## §1. Encodings. -/

/-- An encoding of one or two bytes a character. -/
structure DoubleByte where
  /-- Its names in capital letters. -/
  names : List String
  /-- The code point of a byte that is a character alone. -/
  single : Nat → Option Nat
  /-- The characters of the cells, U+FFFD for none; line feeds between them do not count. -/
  cells : String
  /-- The cell of two bytes. -/
  cell : Nat → Nat → Option Nat
  /-- The code points of two bytes that are not those of their cells; zero stands for none. -/
  changes : List (Nat × Nat) := []
  /-- The code points of two bytes that are in no cell. -/
  further : Nat → Nat → Option Nat := fun _ _ => none
  /-- The byte before two bytes of a supplement. -/
  supplementMark : Option Nat := none
  /-- The characters of the cells of the supplement. -/
  supplement : String := ""

namespace DoubleByte

/-- The characters of a table. -/
def charsOf (cells : String) : Array Char :=
  (cells.toList.filter (· != '\n')).toArray

/-- The code point in a cell of a table. -/
def inCell (chars : Array Char) (cell : Option Nat) : Option Nat :=
  ((cell.bind (chars[·]?)).map Char.toNat).filter (· != 0xFFFD)

/-- The code point of two bytes. -/
def codePoint? (d : DoubleByte) (chars : Array Char) (first second : Nat) : Option Nat :=
  match d.changes.lookup (first * 0x100 + second) with
  | some 0 => none
  | some n => some n
  | none =>
    match inCell chars (d.cell first second) with
    | some n => some n
    | none => d.further first second

/-- The characters of bytes, after characters that are done, the last one first. -/
def decodeAfter (d : DoubleByte) (chars supplement : Array Char) (done : List Char) :
    List Nat → Option (List Char)
  | [] => some done.reverse
  | a :: rest =>
    match d.single a with
    | some n => decodeAfter d chars supplement (Char.ofNat n :: done) rest
    | none =>
      match rest with
      | [] => none
      | b :: rest =>
        if d.supplementMark = some a then
          match rest with
          | [] => none
          | c :: rest =>
            match inCell supplement (d.cell b c) with
            | some n => decodeAfter d chars supplement (Char.ofNat n :: done) rest
            | none => none
        else
          match d.codePoint? chars a b with
          | some n => decodeAfter d chars supplement (Char.ofNat n :: done) rest
          | none => none

/-- The characters of bytes. -/
def decode? (d : DoubleByte) (bytes : List Nat) : Option (List Char) :=
  d.decodeAfter (charsOf d.cells) (charsOf d.supplement) [] bytes

/-! ## §2. Cells. -/

/-- The place of a number in a list of ranges that stand one behind the other. -/
def placeIn (n : Nat) : List (Nat × Nat) → Option Nat
  | [] => none
  | (lo, hi) :: rest =>
    if lo ≤ n && n ≤ hi then some (n - lo)
    else (placeIn n rest).map (· + (hi + 1 - lo))

/-- The cell of two bytes whose values come from ranges. -/
def cellIn (firsts : Nat × Nat) (seconds : List (Nat × Nat)) (a b : Nat) : Option Nat :=
  let width := (seconds.map (fun r => r.2 + 1 - r.1)).foldl Nat.add 0
  if firsts.1 ≤ a && a ≤ firsts.2 then
    (placeIn b seconds).map (fun place => (a - firsts.1) * width + place)
  else none

/-- The cell of two bytes from 0xA1 to 0xFE each. -/
def squareCell : Nat → Nat → Option Nat :=
  cellIn (0xA1, 0xFE) [(0xA1, 0xFE)]

/-- The second bytes of the tables of China. -/
def chineseSeconds : List (Nat × Nat) :=
  [(0x40, 0x7E), (0x80, 0xFE)]

/-- The cell of two bytes in the table of China. -/
def chineseCell : Nat → Nat → Option Nat :=
  cellIn (0x81, 0xFE) chineseSeconds

/-- The cell of two bytes in the table of Taiwan. -/
def taiwaneseCell : Nat → Nat → Option Nat :=
  cellIn (0xA1, 0xF9) [(0x40, 0x7E), (0xA1, 0xFE)]

/-- The cell of two bytes in the table of Korea. -/
def koreanCell : Nat → Nat → Option Nat :=
  cellIn (0x81, 0xFE) [(0x41, 0x5A), (0x61, 0x7A), (0x81, 0xFE)]

/-- The second bytes where two rows of the table of Japan share a first byte. -/
def shiftedSeconds : List (Nat × Nat) :=
  [(0x40, 0x7E), (0x80, 0xFC)]

/-- The cell of two bytes in the table of Japan, two rows of which share a first byte. -/
def shiftedCell (a b : Nat) : Option Nat :=
  (cellIn (0x81, 0x9F) shiftedSeconds a b).or
    ((cellIn (0xE0, 0xEF) shiftedSeconds a b).map (· + 0x1F * 188))

/-- A cell for two bytes that are at least 0xA1. -/
def ofSquare (cell : Nat → Nat → Option Nat) (a b : Nat) : Option Nat :=
  if 0xA1 ≤ a && 0xA1 ≤ b then cell a b else none

/-- Code points for private use in the order of cells. -/
def privateUse (start : Nat) (cell : Option Nat) : Option Nat :=
  cell.map (start + ·)

/-- The code points for private use in China. -/
def chinesePrivate (a b : Nat) : Option Nat :=
  (privateUse 0xE000 (cellIn (0xAA, 0xAF) [(0xA1, 0xFE)] a b)).or
    ((privateUse 0xE234 (cellIn (0xF8, 0xFE) [(0xA1, 0xFE)] a b)).or
      (privateUse 0xE4C6 (cellIn (0xA1, 0xA7) [(0x40, 0x7E), (0x80, 0xA0)] a b)))

/-- The code points for private use in Japan. -/
def japanesePrivate (a b : Nat) : Option Nat :=
  privateUse 0xE000 (cellIn (0xF0, 0xF9) shiftedSeconds a b)

/-- The code points of the rows that one vendor added, the table of which is given. -/
def vendorCell (chars : Array Char) (a b : Nat) : Option Nat :=
  inCell chars ((cellIn (0x87, 0x87) shiftedSeconds a b).or
    (((cellIn (0xED, 0xEE) shiftedSeconds a b).map (· + 188)).or
      ((cellIn (0xFA, 0xFC) shiftedSeconds a b).map (· + 3 * 188))))

/-! ## §3. Single bytes. -/

/-- ASCII. -/
def ascii (a : Nat) : Option Nat :=
  if a < 0x80 then some a else none

/-- Half width letters of Japan. -/
def halfWidth (a : Nat) : Option Nat :=
  if 0xA1 ≤ a && a ≤ 0xDF then some (a - 0xA1 + 0xFF61) else none

/-- The letters of Japan with a yen sign and an overline in two places of ASCII. -/
def japaneseSingle (a : Nat) : Option Nat :=
  if a = 0x5C then some 0xA5 else if a = 0x7E then some 0x203E else (ascii a).or (halfWidth a)

/-! ## §4. The encodings. -/

/-- What the oldest encoding of China has otherwise. -/
def oldChineseChanges : List (Nat × Nat) :=
  [(0xA1A4, 0x30FB), (0xA1AA, 0x2015), (0xA2A1, 0x0), (0xA2A2, 0x0), (0xA2A3, 0x0), (0xA2A4, 0x0),
   (0xA2A5, 0x0), (0xA2A6, 0x0), (0xA2A7, 0x0), (0xA2A8, 0x0), (0xA2A9, 0x0), (0xA2AA, 0x0),
   (0xA6E0, 0x0), (0xA6E1, 0x0), (0xA6E2, 0x0), (0xA6E3, 0x0), (0xA6E4, 0x0), (0xA6E5, 0x0),
   (0xA6E6, 0x0), (0xA6E7, 0x0), (0xA6E8, 0x0), (0xA6E9, 0x0), (0xA6EA, 0x0), (0xA6EB, 0x0),
   (0xA6EE, 0x0), (0xA6EF, 0x0), (0xA6F0, 0x0), (0xA6F1, 0x0), (0xA6F2, 0x0), (0xA6F4, 0x0),
   (0xA6F5, 0x0), (0xA8BB, 0x0), (0xA8BD, 0x0), (0xA8BE, 0x0), (0xA8C0, 0x0)]

/-- What the latest encoding of China has otherwise. -/
def newChineseChanges : List (Nat × Nat) :=
  [(0xA2AB, 0xE766), (0xA2AC, 0xE767), (0xA2AD, 0xE768), (0xA2AE, 0xE769), (0xA2AF, 0xE76A),
   (0xA2B0, 0xE76B), (0xA2E3, 0x20AC), (0xA2E4, 0xE76D), (0xA2EF, 0xE76E), (0xA2F0, 0xE76F),
   (0xA2FD, 0xE770), (0xA2FE, 0xE771), (0xA4F4, 0xE772), (0xA4F5, 0xE773), (0xA4F6, 0xE774),
   (0xA4F7, 0xE775), (0xA4F8, 0xE776), (0xA4F9, 0xE777), (0xA4FA, 0xE778), (0xA4FB, 0xE779),
   (0xA4FC, 0xE77A), (0xA4FD, 0xE77B), (0xA4FE, 0xE77C), (0xA5F7, 0xE77D), (0xA5F8, 0xE77E),
   (0xA5F9, 0xE77F), (0xA5FA, 0xE780), (0xA5FB, 0xE781), (0xA5FC, 0xE782), (0xA5FD, 0xE783),
   (0xA5FE, 0xE784), (0xA6B9, 0xE785), (0xA6BA, 0xE786), (0xA6BB, 0xE787), (0xA6BC, 0xE788),
   (0xA6BD, 0xE789), (0xA6BE, 0xE78A), (0xA6BF, 0xE78B), (0xA6C0, 0xE78C), (0xA6D9, 0xE78D),
   (0xA6DA, 0xE78E), (0xA6DB, 0xE78F), (0xA6DC, 0xE790), (0xA6DD, 0xE791), (0xA6DE, 0xE792),
   (0xA6DF, 0xE793), (0xA6EC, 0xE794), (0xA6ED, 0xE795), (0xA6F3, 0xE796), (0xA6F6, 0xE797),
   (0xA6F7, 0xE798), (0xA6F8, 0xE799), (0xA6F9, 0xE79A), (0xA6FA, 0xE79B), (0xA6FB, 0xE79C),
   (0xA6FC, 0xE79D), (0xA6FD, 0xE79E), (0xA6FE, 0xE79F), (0xA7C2, 0xE7A0), (0xA7C3, 0xE7A1),
   (0xA7C4, 0xE7A2), (0xA7C5, 0xE7A3), (0xA7C6, 0xE7A4), (0xA7C7, 0xE7A5), (0xA7C8, 0xE7A6),
   (0xA7C9, 0xE7A7), (0xA7CA, 0xE7A8), (0xA7CB, 0xE7A9), (0xA7CC, 0xE7AA), (0xA7CD, 0xE7AB),
   (0xA7CE, 0xE7AC), (0xA7CF, 0xE7AD), (0xA7D0, 0xE7AE), (0xA7F2, 0xE7AF), (0xA7F3, 0xE7B0),
   (0xA7F4, 0xE7B1), (0xA7F5, 0xE7B2), (0xA7F6, 0xE7B3), (0xA7F7, 0xE7B4), (0xA7F8, 0xE7B5),
   (0xA7F9, 0xE7B6), (0xA7FA, 0xE7B7), (0xA7FB, 0xE7B8), (0xA7FC, 0xE7B9), (0xA7FD, 0xE7BA),
   (0xA7FE, 0xE7BB), (0xA896, 0xE7BC), (0xA897, 0xE7BD), (0xA898, 0xE7BE), (0xA899, 0xE7BF),
   (0xA89A, 0xE7C0), (0xA89B, 0xE7C1), (0xA89C, 0xE7C2), (0xA89D, 0xE7C3), (0xA89E, 0xE7C4),
   (0xA89F, 0xE7C5), (0xA8A0, 0xE7C6), (0xA8BC, 0xE7C7), (0xA8BF, 0x1F9), (0xA8C1, 0xE7C9),
   (0xA8C2, 0xE7CA), (0xA8C3, 0xE7CB), (0xA8C4, 0xE7CC), (0xA8EA, 0xE7CD), (0xA8EB, 0xE7CE),
   (0xA8EC, 0xE7CF), (0xA8ED, 0xE7D0), (0xA8EE, 0xE7D1), (0xA8EF, 0xE7D2), (0xA8F0, 0xE7D3),
   (0xA8F1, 0xE7D4), (0xA8F2, 0xE7D5), (0xA8F3, 0xE7D6), (0xA8F4, 0xE7D7), (0xA8F5, 0xE7D8),
   (0xA8F6, 0xE7D9), (0xA8F7, 0xE7DA), (0xA8F8, 0xE7DB), (0xA8F9, 0xE7DC), (0xA8FA, 0xE7DD),
   (0xA8FB, 0xE7DE), (0xA8FC, 0xE7DF), (0xA8FD, 0xE7E0), (0xA8FE, 0xE7E1), (0xA958, 0xE7E2),
   (0xA95B, 0xE7E3), (0xA95D, 0xE7E4), (0xA95E, 0xE7E5), (0xA95F, 0xE7E6), (0xA989, 0x303E),
   (0xA98A, 0x2FF0), (0xA98B, 0x2FF1), (0xA98C, 0x2FF2), (0xA98D, 0x2FF3), (0xA98E, 0x2FF4),
   (0xA98F, 0x2FF5), (0xA990, 0x2FF6), (0xA991, 0x2FF7), (0xA992, 0x2FF8), (0xA993, 0x2FF9),
   (0xA994, 0x2FFA), (0xA995, 0x2FFB), (0xA997, 0xE7F4), (0xA998, 0xE7F5), (0xA999, 0xE7F6),
   (0xA99A, 0xE7F7), (0xA99B, 0xE7F8), (0xA99C, 0xE7F9), (0xA99D, 0xE7FA), (0xA99E, 0xE7FB),
   (0xA99F, 0xE7FC), (0xA9A0, 0xE7FD), (0xA9A1, 0xE7FE), (0xA9A2, 0xE7FF), (0xA9A3, 0xE800),
   (0xA9F0, 0xE801), (0xA9F1, 0xE802), (0xA9F2, 0xE803), (0xA9F3, 0xE804), (0xA9F4, 0xE805),
   (0xA9F5, 0xE806), (0xA9F6, 0xE807), (0xA9F7, 0xE808), (0xA9F8, 0xE809), (0xA9F9, 0xE80A),
   (0xA9FA, 0xE80B), (0xA9FB, 0xE80C), (0xA9FC, 0xE80D), (0xA9FD, 0xE80E), (0xA9FE, 0xE80F),
   (0xD7FA, 0xE810), (0xD7FB, 0xE811), (0xD7FC, 0xE812), (0xD7FD, 0xE813), (0xD7FE, 0xE814),
   (0xFE50, 0x2E81), (0xFE51, 0xE816), (0xFE52, 0xE817), (0xFE53, 0xE818), (0xFE54, 0x2E84),
   (0xFE55, 0x3473), (0xFE56, 0x3447), (0xFE57, 0x2E88), (0xFE58, 0x2E8B), (0xFE59, 0xE81E),
   (0xFE5A, 0x359E), (0xFE5B, 0x361A), (0xFE5C, 0x360E), (0xFE5D, 0x2E8C), (0xFE5E, 0x2E97),
   (0xFE5F, 0x396E), (0xFE60, 0x3918), (0xFE61, 0xE826), (0xFE62, 0x39CF), (0xFE63, 0x39DF),
   (0xFE64, 0x3A73), (0xFE65, 0x39D0), (0xFE66, 0xE82B), (0xFE67, 0xE82C), (0xFE68, 0x3B4E),
   (0xFE69, 0x3C6E), (0xFE6A, 0x3CE0), (0xFE6B, 0x2EA7), (0xFE6C, 0xE831), (0xFE6D, 0xE832),
   (0xFE6E, 0x2EAA), (0xFE6F, 0x4056), (0xFE70, 0x415F), (0xFE71, 0x2EAE), (0xFE72, 0x4337),
   (0xFE73, 0x2EB3), (0xFE74, 0x2EB6), (0xFE75, 0x2EB7), (0xFE76, 0xE83B), (0xFE77, 0x43B1),
   (0xFE78, 0x43AC), (0xFE79, 0x2EBB), (0xFE7A, 0x43DD), (0xFE7B, 0x44D6), (0xFE7C, 0x4661),
   (0xFE7D, 0x464C), (0xFE7E, 0xE843), (0xFE80, 0x4723), (0xFE81, 0x4729), (0xFE82, 0x477C),
   (0xFE83, 0x478D), (0xFE84, 0x2ECA), (0xFE85, 0x4947), (0xFE86, 0x497A), (0xFE87, 0x497D),
   (0xFE88, 0x4982), (0xFE89, 0x4983), (0xFE8A, 0x4985), (0xFE8B, 0x4986), (0xFE8C, 0x499F),
   (0xFE8D, 0x499B), (0xFE8E, 0x49B7), (0xFE8F, 0x49B6), (0xFE90, 0xE854), (0xFE91, 0xE855),
   (0xFE92, 0x4CA3), (0xFE93, 0x4C9F), (0xFE94, 0x4CA0), (0xFE95, 0x4CA1), (0xFE96, 0x4C77),
   (0xFE97, 0x4CA2), (0xFE98, 0x4D13), (0xFE99, 0x4D14), (0xFE9A, 0x4D15), (0xFE9B, 0x4D16),
   (0xFE9C, 0x4D17), (0xFE9D, 0x4D18), (0xFE9E, 0x4D19), (0xFE9F, 0x4DAE), (0xFEA0, 0xE864)]

/-- What a code page for Taiwan has otherwise. -/
def taiwaneseChanges : List (Nat × Nat) :=
  [(0xA145, 0x2027), (0xA14E, 0xFE51), (0xA1C2, 0xAF), (0xA1E3, 0xFF5E), (0xA1F2, 0x2295),
   (0xA1F3, 0x2299), (0xA241, 0x2215), (0xA242, 0xFE68), (0xA244, 0xFFE5), (0xA246, 0xFFE0),
   (0xA247, 0xFFE1), (0xA3E1, 0x20AC), (0xF9D6, 0x7881), (0xF9D7, 0x92B9), (0xF9D8, 0x88CF),
   (0xF9D9, 0x58BB), (0xF9DA, 0x6052), (0xF9DB, 0x7CA7), (0xF9DC, 0x5AFA), (0xF9DD, 0x2554),
   (0xF9DE, 0x2566), (0xF9DF, 0x2557), (0xF9E0, 0x2560), (0xF9E1, 0x256C), (0xF9E2, 0x2563),
   (0xF9E3, 0x255A), (0xF9E4, 0x2569), (0xF9E5, 0x255D), (0xF9E6, 0x2552), (0xF9E7, 0x2564),
   (0xF9E8, 0x2555), (0xF9E9, 0x255E), (0xF9EA, 0x256A), (0xF9EB, 0x2561), (0xF9EC, 0x2558),
   (0xF9ED, 0x2567), (0xF9EE, 0x255B), (0xF9EF, 0x2553), (0xF9F0, 0x2565), (0xF9F1, 0x2556),
   (0xF9F2, 0x255F), (0xF9F3, 0x256B), (0xF9F4, 0x2562), (0xF9F5, 0x2559), (0xF9F6, 0x2568),
   (0xF9F7, 0x255C), (0xF9F8, 0x2551), (0xF9F9, 0x2550), (0xF9FA, 0x256D), (0xF9FB, 0x256E),
   (0xF9FC, 0x2570), (0xF9FD, 0x256F), (0xF9FE, 0x2593)]

/-- What a code page for Japan has otherwise. -/
def japaneseChanges : List (Nat × Nat) :=
  [(0x8160, 0xFF5E), (0x8161, 0x2225), (0x817C, 0xFF0D), (0x8191, 0xFFE0), (0x8192, 0xFFE1),
   (0x81CA, 0xFFE2)]

/-- The encodings. -/
def all : List DoubleByte :=
  [ { names := ["GBK"], single := ascii, cells := gbkCells, cell := chineseCell },
    { names := ["CP936", "MS936", "WINDOWS-936"],
      single := fun a => if a = 0x80 then some 0x20AC else ascii a,
      cells := gbkCells, cell := chineseCell, further := chinesePrivate },
    { names := ["GB2312", "EUC-CN", "EUCCN", "CN-GB", "CSGB2312"], single := ascii,
      cells := gbkCells, cell := ofSquare chineseCell, changes := oldChineseChanges },
    { names := ["GB18030"], single := ascii, cells := gbkCells, cell := chineseCell,
      changes := newChineseChanges, further := chinesePrivate },
    { names := ["BIG5", "BIG-5", "BIG-FIVE", "BIGFIVE", "CN-BIG5", "CSBIG5", "BIG5-HKSCS",
                "BIG5HKSCS"],
      single := ascii, cells := big5Cells, cell := taiwaneseCell },
    { names := ["CP950"], single := ascii, cells := big5Cells, cell := taiwaneseCell,
      changes := taiwaneseChanges },
    { names := ["SHIFT_JIS", "SHIFT-JIS", "SJIS", "MS_KANJI", "CSSHIFTJIS"],
      single := japaneseSingle, cells := jisCells, cell := shiftedCell,
      further := japanesePrivate },
    { names := ["CP932"], single := fun a => (ascii a).or (halfWidth a), cells := jisCells,
      cell := shiftedCell, changes := japaneseChanges,
      further := fun a b => (vendorCell (charsOf jisVendorCells) a b).or (japanesePrivate a b) },
    { names := ["EUC-JP", "EUCJP", "EXTENDED_UNIX_CODE_PACKED_FORMAT_FOR_JAPANESE",
                "CSEUCPKDFMTJAPANESE"],
      single := ascii, cells := jisCells, cell := squareCell,
      further := fun a b => if a = 0x8E then halfWidth b else none,
      supplementMark := some 0x8F, supplement := jisSupplement },
    { names := ["EUC-KR", "EUCKR", "CSEUCKR"], single := ascii, cells := koreanCells,
      cell := ofSquare koreanCell, changes := [(0xA4D4, 0x3164)] },
    { names := ["CP949", "UHC"], single := ascii, cells := koreanCells, cell := koreanCell } ]

end DoubleByte

end ScriptingBindings.Markup
