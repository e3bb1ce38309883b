import GlyphBook.Text.Width

/-!
# How many cells a text takes

A text takes the cells of its characters, but some characters are drawn together with those behind
them and then take fewer or more. A selector asks for the form of a sign as text or as a picture;
pictures joined to each other make one picture, and so do flags of two letters; a few scripts draw
two letters as one. The text is therefore measured from its end: what stands behind a character is
remembered as far as it can change the width of the character.
-/

namespace GlyphBook

namespace Measure

/-! ## Kinds of characters -/

/-- Signs that are pictures unless they are asked to be text. -/
def pictures : CodeRanges := #[
  (0x231A, 0x231B), (0x23E9, 0x23EC), (0x23F0, 0x23F0), (0x23F3, 0x23F3), (0x25FD, 0x25FE),
  (0x2614, 0x2615), (0x2648, 0x2653), (0x267F, 0x267F), (0x2693, 0x2693), (0x26A1, 0x26A1),
  (0x26AA, 0x26AB), (0x26BD, 0x26BE), (0x26C4, 0x26C5), (0x26CE, 0x26CE), (0x26D4, 0x26D4),
  (0x26EA, 0x26EA), (0x26F2, 0x26F3), (0x26F5, 0x26F5), (0x26FA, 0x26FA), (0x26FD, 0x26FD),
  (0x2705, 0x2705), (0x270A, 0x270B), (0x2728, 0x2728), (0x274C, 0x274C), (0x274E, 0x274E),
  (0x2753, 0x2755), (0x2757, 0x2757), (0x2795, 0x2797), (0x27B0, 0x27B0), (0x27BF, 0x27BF),
  (0x2B1B, 0x2B1C), (0x2B50, 0x2B50), (0x2B55, 0x2B55), (0x1F004, 0x1F004), (0x1F0CF, 0x1F0CF),
  (0x1F18E, 0x1F18E), (0x1F191, 0x1F19A), (0x1F201, 0x1F201), (0x1F21A, 0x1F21A),
  (0x1F22F, 0x1F22F), (0x1F232, 0x1F236), (0x1F238, 0x1F23A), (0x1F250, 0x1F251),
  (0x1F300, 0x1F320), (0x1F32D, 0x1F335), (0x1F337, 0x1F37C), (0x1F37E, 0x1F393),
  (0x1F3A0, 0x1F3CA), (0x1F3CF, 0x1F3D3), (0x1F3E0, 0x1F3F0), (0x1F3F4, 0x1F3F4),
  (0x1F3F8, 0x1F3FA), (0x1F400, 0x1F43E), (0x1F440, 0x1F440), (0x1F442, 0x1F4FC),
  (0x1F4FF, 0x1F53D), (0x1F54B, 0x1F54E), (0x1F550, 0x1F567), (0x1F57A, 0x1F57A),
  (0x1F595, 0x1F596), (0x1F5A4, 0x1F5A4), (0x1F5FB, 0x1F64F), (0x1F680, 0x1F6C5),
  (0x1F6CC, 0x1F6CC), (0x1F6D0, 0x1F6D2), (0x1F6D5, 0x1F6D7), (0x1F6DC, 0x1F6DF),
  (0x1F6EB, 0x1F6EC), (0x1F6F4, 0x1F6FC), (0x1F7E0, 0x1F7EB), (0x1F7F0, 0x1F7F0),
  (0x1F90C, 0x1F93A), (0x1F93C, 0x1F945), (0x1F947, 0x1F9FF), (0x1FA70, 0x1FA7C),
  (0x1FA80, 0x1FA88), (0x1FA90, 0x1FABD), (0x1FABF, 0x1FAC5), (0x1FACE, 0x1FADB),
  (0x1FAE0, 0x1FAE8), (0x1FAF0, 0x1FAF8)]

/-- Signs that are text unless they are asked to be pictures. -/
def plainSigns : CodeRanges := #[
  (0x23, 0x23), (0x2A, 0x2A), (0x30, 0x39), (0xA9, 0xA9), (0xAE, 0xAE), (0x203C, 0x203C),
  (0x2049, 0x2049), (0x2122, 0x2122), (0x2139, 0x2139), (0x2194, 0x2199), (0x21A9, 0x21AA),
  (0x2328, 0x2328), (0x23CF, 0x23CF), (0x23ED, 0x23EF), (0x23F1, 0x23F2), (0x23F8, 0x23FA),
  (0x24C2, 0x24C2), (0x25AA, 0x25AB), (0x25B6, 0x25B6), (0x25C0, 0x25C0), (0x25FB, 0x25FC),
  (0x2600, 0x2604), (0x260E, 0x260E), (0x2611, 0x2611), (0x2618, 0x2618), (0x261D, 0x261D),
  (0x2620, 0x2620), (0x2622, 0x2623), (0x2626, 0x2626), (0x262A, 0x262A), (0x262E, 0x262F),
  (0x2638, 0x263A), (0x2640, 0x2640), (0x2642, 0x2642), (0x265F, 0x2660), (0x2663, 0x2663),
  (0x2665, 0x2666), (0x2668, 0x2668), (0x267B, 0x267B), (0x267E, 0x267E), (0x2692, 0x2692),
  (0x2694, 0x2697), (0x2699, 0x2699), (0x269B, 0x269C), (0x26A0, 0x26A0), (0x26A7, 0x26A7),
  (0x26B0, 0x26B1), (0x26C8, 0x26C8), (0x26CF, 0x26CF), (0x26D1, 0x26D1), (0x26D3, 0x26D3),
  (0x26E9, 0x26E9), (0x26F0, 0x26F1), (0x26F4, 0x26F4), (0x26F7, 0x26F9), (0x2702, 0x2702),
  (0x2708, 0x2709), (0x270C, 0x270D), (0x270F, 0x270F), (0x2712, 0x2712), (0x2714, 0x2714),
  (0x2716, 0x2716), (0x271D, 0x271D), (0x2721, 0x2721), (0x2733, 0x2734), (0x2744, 0x2744),
  (0x2747, 0x2747), (0x2763, 0x2764), (0x27A1, 0x27A1), (0x2934, 0x2935), (0x2B05, 0x2B07),
  (0x3030, 0x3030), (0x303D, 0x303D), (0x3297, 0x3297), (0x3299, 0x3299), (0x1F170, 0x1F171),
  (0x1F17E, 0x1F17F), (0x1F202, 0x1F202), (0x1F237, 0x1F237), (0x1F321, 0x1F321),
  (0x1F324, 0x1F32C), (0x1F336, 0x1F336), (0x1F37D, 0x1F37D), (0x1F396, 0x1F397),
  (0x1F399, 0x1F39B), (0x1F39E, 0x1F39F), (0x1F3CB, 0x1F3CE), (0x1F3D4, 0x1F3DF),
  (0x1F3F3, 0x1F3F3), (0x1F3F5, 0x1F3F5), (0x1F3F7, 0x1F3F7), (0x1F43F, 0x1F43F),
  (0x1F441, 0x1F441), (0x1F4FD, 0x1F4FD), (0x1F549, 0x1F54A), (0x1F56F, 0x1F570),
  (0x1F573, 0x1F579), (0x1F587, 0x1F587), (0x1F58A, 0x1F58D), (0x1F590, 0x1F590),
  (0x1F5A5, 0x1F5A5), (0x1F5A8, 0x1F5A8), (0x1F5B1, 0x1F5B2), (0x1F5BC, 0x1F5BC),
  (0x1F5C2, 0x1F5C4), (0x1F5D1, 0x1F5D3), (0x1F5DC, 0x1F5DE), (0x1F5E1, 0x1F5E1),
  (0x1F5E3, 0x1F5E3), (0x1F5E8, 0x1F5E8), (0x1F5EF, 0x1F5EF), (0x1F5F3, 0x1F5F3),
  (0x1F5FA, 0x1F5FA), (0x1F6CB, 0x1F6CB), (0x1F6CD, 0x1F6CF), (0x1F6E0, 0x1F6E5),
  (0x1F6E9, 0x1F6E9), (0x1F6F0, 0x1F6F0), (0x1F6F3, 0x1F6F3)]

/-- Pictures that have a form as text. -/
def plainPictures : CodeRanges := #[
  (0x231A, 0x231B), (0x23E9, 0x23EC), (0x23F0, 0x23F0), (0x23F3, 0x23F3), (0x25FD, 0x25FE),
  (0x2614, 0x2615), (0x2648, 0x2653), (0x267F, 0x267F), (0x2693, 0x2693), (0x26A1, 0x26A1),
  (0x26AA, 0x26AB), (0x26BD, 0x26BE), (0x26C4, 0x26C5), (0x26CE, 0x26CE), (0x26D4, 0x26D4),
  (0x26EA, 0x26EA), (0x26F2, 0x26F3), (0x26F5, 0x26F5), (0x26FA, 0x26FA), (0x26FD, 0x26FD),
  (0x2705, 0x2705), (0x270A, 0x270B), (0x2728, 0x2728), (0x274C, 0x274C), (0x274E, 0x274E),
  (0x2753, 0x2755), (0x2757, 0x2757), (0x2795, 0x2797), (0x27B0, 0x27B0), (0x27BF, 0x27BF),
  (0x2B1B, 0x2B1C), (0x2B50, 0x2B50), (0x2B55, 0x2B55), (0x1F004, 0x1F004), (0x1F30D, 0x1F30F),
  (0x1F315, 0x1F315), (0x1F31C, 0x1F31C), (0x1F378, 0x1F378), (0x1F393, 0x1F393),
  (0x1F3A7, 0x1F3A7), (0x1F3AC, 0x1F3AE), (0x1F3C2, 0x1F3C2), (0x1F3C4, 0x1F3C4),
  (0x1F3C6, 0x1F3C6), (0x1F3CA, 0x1F3CA), (0x1F3E0, 0x1F3E0), (0x1F3ED, 0x1F3ED),
  (0x1F408, 0x1F408), (0x1F415, 0x1F415), (0x1F41F, 0x1F41F), (0x1F426, 0x1F426),
  (0x1F442, 0x1F442), (0x1F446, 0x1F449), (0x1F44D, 0x1F44E), (0x1F453, 0x1F453),
  (0x1F46A, 0x1F46A), (0x1F47D, 0x1F47D), (0x1F4A3, 0x1F4A3), (0x1F4B0, 0x1F4B0),
  (0x1F4B3, 0x1F4B3), (0x1F4BB, 0x1F4BB), (0x1F4BF, 0x1F4BF), (0x1F4CB, 0x1F4CB),
  (0x1F4DA, 0x1F4DA), (0x1F4DF, 0x1F4DF), (0x1F4E4, 0x1F4E6), (0x1F4EA, 0x1F4ED),
  (0x1F4F7, 0x1F4F7), (0x1F4F9, 0x1F4FB), (0x1F508, 0x1F508), (0x1F50D, 0x1F50D),
  (0x1F512, 0x1F513), (0x1F550, 0x1F567), (0x1F610, 0x1F610), (0x1F687, 0x1F687),
  (0x1F68D, 0x1F68D), (0x1F691, 0x1F691), (0x1F694, 0x1F694), (0x1F698, 0x1F698),
  (0x1F6AD, 0x1F6AD), (0x1F6B2, 0x1F6B2), (0x1F6B9, 0x1F6BA), (0x1F6BC, 0x1F6BC)]

/-- Whether a sign can be asked to be a picture. -/
def hasPictureForm (c : Char) : Bool :=
  plainSigns.has c || plainPictures.has c || c = Char.ofNat 0x1F21A || c = Char.ofNat 0x1F22F

/-- Pictures of people and hands, which take a skin tone. -/
def people : CodeRanges := #[
  (0x261D, 0x261D), (0x26F9, 0x26F9), (0x270A, 0x270D), (0x1F385, 0x1F385), (0x1F3C2, 0x1F3C4),
  (0x1F3C7, 0x1F3C7), (0x1F3CA, 0x1F3CC), (0x1F442, 0x1F443), (0x1F446, 0x1F450),
  (0x1F466, 0x1F478), (0x1F47C, 0x1F47C), (0x1F481, 0x1F483), (0x1F485, 0x1F487),
  (0x1F48F, 0x1F48F), (0x1F491, 0x1F491), (0x1F4AA, 0x1F4AA), (0x1F574, 0x1F575),
  (0x1F57A, 0x1F57A), (0x1F590, 0x1F590), (0x1F595, 0x1F596), (0x1F645, 0x1F647),
  (0x1F64B, 0x1F64F), (0x1F6A3, 0x1F6A3), (0x1F6B4, 0x1F6B6), (0x1F6C0, 0x1F6C0),
  (0x1F6CC, 0x1F6CC), (0x1F90C, 0x1F90C), (0x1F90F, 0x1F90F), (0x1F918, 0x1F91F),
  (0x1F926, 0x1F926), (0x1F930, 0x1F939), (0x1F93C, 0x1F93E), (0x1F977, 0x1F977),
  (0x1F9B5, 0x1F9B6), (0x1F9B8, 0x1F9B9), (0x1F9BB, 0x1F9BB), (0x1F9CD, 0x1F9CF),
  (0x1F9D1, 0x1F9DD), (0x1FAC3, 0x1FAC5), (0x1FAF0, 0x1FAF8)]

def isSkinTone (c : Char) : Bool := 0x1F3FB ≤ c.toNat && c.toNat ≤ 0x1F3FF

/-- The letters that make flags in pairs. -/
def isIndicator (c : Char) : Bool := 0x1F1E6 ≤ c.toNat && c.toNat ≤ 0x1F1FF

def isTagLetter (c : Char) : Bool := 0xE0061 ≤ c.toNat && c.toNat ≤ 0xE007A

def isTagDigit (c : Char) : Bool := 0xE0030 ≤ c.toNat && c.toNat ≤ 0xE0039

/-- The end of the tags that a flag may carry. -/
def tagEnd : Char := Char.ofNat 0xE007F

def blackFlag : Char := Char.ofNat 0x1F3F4

/-- The character that joins the ones on either side. -/
def joiner : Char := '\u200d'

/-- The mark of a key around a digit. -/
def keycap : Char := '\u20e3'

/-- Combining marks that are not shown; a ligature is drawn as if they were not there. -/
def hiddenMarks : CodeRanges := #[
  (0x34F, 0x34F), (0x17B4, 0x17B5), (0x180B, 0x180D), (0x180F, 0x180F), (0xFE00, 0xFE0F),
  (0xE0100, 0xE01EF)]

/-- Characters without a cell of their own over which letters of a cursive script do not join. -/
def dividers : CodeRanges := #[
  (0x605, 0x605), (0x890, 0x891), (0x8E2, 0x8E2), (0x9BE, 0x9BE), (0x9D7, 0x9D7), (0xB3E, 0xB3E),
  (0xB57, 0xB57), (0xBBE, 0xBBE), (0xBD7, 0xBD7), (0xCC0, 0xCC0), (0xCC2, 0xCC2), (0xCC7, 0xCC8),
  (0xCCA, 0xCCB), (0xCD5, 0xCD6), (0xD3E, 0xD3E), (0xD4E, 0xD4E), (0xD57, 0xD57), (0xDCF, 0xDCF),
  (0xDDF, 0xDDF), (0x1160, 0x11FF), (0x180E, 0x180E), (0x1B35, 0x1B35), (0x1B3B, 0x1B3B),
  (0x1B3D, 0x1B3D), (0x1B43, 0x1B43), (0x200C, 0x200D), (0x2065, 0x2069), (0x302E, 0x302F),
  (0x3164, 0x3164), (0xA8FA, 0xA8FA), (0xD7B0, 0xD7C6), (0xD7CB, 0xD7FB), (0xFF9E, 0xFFA0),
  (0xFFF0, 0xFFF8), (0x111C2, 0x111C3), (0x1133E, 0x1133E), (0x11357, 0x11357), (0x114B0, 0x114B0),
  (0x114BD, 0x114BD), (0x115AF, 0x115AF), (0x11930, 0x11930), (0x1193F, 0x1193F),
  (0x11941, 0x11941), (0x11A3A, 0x11A3A), (0x11A84, 0x11A89), (0x11D46, 0x11D46),
  (0x11F02, 0x11F02), (0x1D165, 0x1D165), (0x1D16E, 0x1D172), (0xE0000, 0xE0000),
  (0xE0002, 0xE001F), (0xE0080, 0xE00FF), (0xE01F0, 0xE0FFF)]

/-- Whether letters of a cursive script join over a mark. -/
def joinsOver (c : Char) : Bool := Width.cells c == 0 && !dividers.has c

/-- The Arabic letters of the shape of alef. -/
def alefs : CodeRanges := #[
  (0x622, 0x623), (0x625, 0x625), (0x627, 0x627), (0x671, 0x673), (0x675, 0x675), (0x773, 0x774),
  (0x870, 0x882)]

/-- The Arabic letters of the shape of lam. -/
def lams : CodeRanges := #[
  (0x644, 0x644), (0x6B5, 0x6B8), (0x76A, 0x76A), (0x8A6, 0x8A6), (0x8C7, 0x8C7)]

/-- The Khmer letters that have a form below the line. -/
def stackedLetters : CodeRanges := #[
  (0x1780, 0x1782), (0x1784, 0x1787), (0x1789, 0x178C), (0x178E, 0x1793), (0x1795, 0x1798),
  (0x179B, 0x179D), (0x17A0, 0x17A0), (0x17A2, 0x17A2), (0x17A7, 0x17A7), (0x17AB, 0x17AC),
  (0x17AF, 0x17AF)]

/-- The Tifinagh consonants. -/
def isTifinagh (c : Char) : Bool := ('\u2d31' ≤ c && c ≤ '\u2d65') || c = '\u2d6f'

def tifinaghJoiner : Char := '\u2d7f'

/-! ## What stands behind -/

/-- The form in which a sign is asked for. -/
inductive Form where
  | text
  | picture
  deriving Repr, DecidableEq

/-- The end of a ligature that may have begun before. `joined` tells that a joiner stands in front
of it. -/
inductive Ligature where
  | alef
  | lamed (joined : Bool)
  | buginese (joined : Bool)
  /-- A joined Buginese ya with its vowel. -/
  | bugineseVowel
  | tifinagh (joined : Bool)
  /-- A Tifinagh consonant with its own joiner. -/
  | tifinaghJoined
  | lisuTone
  | orkhon (joined : Bool)
  | khmer
  deriving Repr, DecidableEq

namespace Ligature

/-- The ligature with a joiner in front. -/
def join : Ligature → Ligature
  | lamed _ => lamed true
  | buginese _ => buginese true
  | tifinagh _ => tifinagh true
  | orkhon _ => orkhon true
  | other => other

end Ligature

/-- What stands behind a character, as far as it can change its width. -/
inductive Behind where
  | nothing
  | lineFeed
  | selector (form : Form)
  | picture
  | skinTone
  | indicator
  /-- Two or more letters of flags. -/
  | indicators
  /-- A joiner with a picture behind it; the character is perhaps asked to be a picture too. -/
  | joinedPicture (asked : Bool)
  /-- A key mark that is joined to a picture. -/
  | joinedKeycap (asked : Bool)
  /-- One letter of a flag that is joined to a picture. -/
  | joinedIndicator
  /-- Two or more letters of flags that are joined to a picture. -/
  | joinedIndicators (even : Bool)
  /-- The last letters or digits of a flag's tags. -/
  | joinedTag (letters digits : Nat)
  | ligature (part : Ligature) (form? : Option Form)
  deriving Repr, DecidableEq

namespace Behind

/-- The form in which the character in front is asked for. -/
def asks? : Behind → Option Form
  | selector form => some form
  | joinedPicture true => some .picture
  | joinedKeycap true => some .picture
  | ligature _ form? => form?
  | _ => none

/-- Whether what stands behind goes into the cells of what it is joined to. -/
def isJoinedPicture : Behind → Bool
  | joinedPicture _ => true
  | joinedKeycap _ => true
  | _ => false

/-- What is left when the character in front does not have the form that is asked for. -/
def unasked : Behind → Behind
  | ligature part _ => ligature part none
  | _ => nothing

/-- What stands behind together with a selector in front of it. -/
def ask (form : Form) : Behind → Behind
  | ligature part _ => ligature part (some form)
  | joinedPicture _ => if form = .picture then joinedPicture true else selector form
  | joinedKeycap _ => if form = .picture then joinedKeycap true else selector form
  | _ => selector form

end Behind

/-! ## One character in front -/

/-- The cells of a character where nothing behind it matters, and what it is for those in front of
it. -/
def alone (c : Char) : Int × Behind :=
  let behind : Behind :=
    if alefs.has c then .ligature .alef none
    else if c = '\u05dc' then .ligature (.lamed false) none
    else if stackedLetters.has c then .ligature .khmer none
    else if c = '\u1a10' then .ligature (.buginese false) none
    else if isTifinagh c then .ligature (.tifinagh false) none
    else if c = '\ua4fc' ∨ c = '\ua4fd' then .ligature .lisuTone none
    else if c = Char.ofNat 0x10C03 then .ligature (.orkhon false) none
    else if c = '\ufe0e' then .selector .text
    else if c = '\ufe0f' then .selector .picture
    else if isIndicator c then .indicator
    else if isSkinTone c then .skinTone
    else if pictures.has c then .picture
    else .nothing
  (Width.cells c, behind)

/-- A character in front of the end of a ligature. -/
def beforeLigature? (part : Ligature) (c : Char) : Option (Int × Behind) :=
  if part ≠ .alef ∧ c = joiner then some (0, .ligature part.join none)
  else if part ≠ .alef ∧ hiddenMarks.has c = true then some (0, .ligature part none)
  else
    match part with
    | .alef =>
      if lams.has c then some (0, .nothing)
      else if joinsOver c then some (0, .ligature .alef none)
      else none
    | .lamed true => if c = '\u05d0' then some (0, .nothing) else none
    | .khmer => if c = '\u17d2' then some (-1, .nothing) else none
    | .buginese true => if c = '\u1a17' then some (0, .ligature .bugineseVowel none) else none
    | .bugineseVowel => if c = '\u1a15' then some (0, .nothing) else none
    | .tifinagh joined =>
      if c = tifinaghJoiner then some (1, .ligature .tifinaghJoined none)
      else if joined && isTifinagh c then some (0, .nothing)
      else none
    | .tifinaghJoined => if isTifinagh c then some (-1, .nothing) else none
    | .lisuTone => if '\ua4f8' ≤ c ∧ c ≤ '\ua4fb' then some (0, .nothing) else none
    | .orkhon true => if c = Char.ofNat 0x10C32 then some (0, .nothing) else none
    | _ => none

/-- A character in front of a picture or a part of one. Only what makes one picture with it is
told; anything else stands alone. -/
def beforePicture? (behind : Behind) (c : Char) : Option (Int × Behind) :=
  match behind with
  | .picture => if c = joiner then some (0, .joinedPicture false) else none
  | .skinTone =>
    if people.has c then some (0, .picture)
    else if c = joiner then some (0, .joinedPicture false)
    else none
  | .indicator => if isIndicator c then some (1, .indicators) else none
  | .indicators =>
    if isIndicator c then some (1, .indicators)
    else if c = joiner then some (0, .joinedPicture false)
    else none
  | .joinedPicture _ =>
    if c = keycap then some (0, .joinedKeycap false)
    else if isIndicator c then some (1, .joinedIndicator)
    else if isSkinTone c then some (0, .skinTone)
    else if c = tagEnd then some (0, .joinedTag 0 0)
    else if pictures.has c then some (0, .picture)
    else none
  | .joinedIndicator => if isIndicator c then some (-1, .joinedIndicators true) else none
  | .joinedIndicators even =>
    if c = joiner then some (0, .joinedPicture false)
    else if isIndicator c then some (if even then 3 else -1, .joinedIndicators !even)
    else none
  | .joinedTag letters digits =>
    if digits = 0 ∧ letters < 6 ∧ isTagLetter c = true then some (0, .joinedTag (letters + 1) 0)
    else if digits < 3 ∧ letters < 5 ∧ isTagDigit c = true then some (0, .joinedTag 0 (digits + 1))
    else if c = blackFlag ∧ (3 ≤ letters ∨ digits = 3) then some (0, .picture)
    else none
  | _ => none

/-- A character behind which something stands that may be drawn together with it. -/
def beside (behind : Behind) (c : Char) : Int × Behind :=
  let joined? :=
    match behind with
    | .ligature part _ => beforeLigature? part c
    | _ => beforePicture? behind c
  joined?.getD (alone c)

/-- How many cells a character adds, given what stands behind it, and what then stands behind the
character in front of it. -/
def step (c : Char) (behind : Behind) : Int × Behind :=
  if behind.asks? = some .picture ∧ hasPictureForm c = true then
    (if behind.isJoinedPicture then 0 else 2, .picture)
  else
    let behind := if behind.asks? = some .picture then behind.unasked else behind
    if c = '\n' then (1, .lineFeed)
    else if c = '\r' ∧ behind = .lineFeed then (0, .nothing)
    else if c ≤ '\u00a0' then (1, .nothing)
    else if c = '\ufe0f' then (0, behind.ask .picture)
    else if c = '\ufe0e' then (0, behind.ask .text)
    else if behind.asks? = some .text then
      if plainPictures.has c then (1, .nothing) else beside behind.unasked c
    else beside behind c

/-! ## A whole text -/

/-- The cells of a text, and what stands behind a character in front of it. -/
def measure (text : List Char) : Int × Behind :=
  text.foldr (fun c (sum, behind) =>
    let (cells, behind) := step c behind
    (sum + cells, behind)) (0, .nothing)

/-- The cells of a text. -/
def cells (text : List Char) : Nat := (measure text).1.toNat

end Measure

end GlyphBook
