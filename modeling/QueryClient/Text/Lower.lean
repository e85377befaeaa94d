import QueryClient.Text.CharSet
import QueryClient.Text.Upper

/-!
# Lower case

The **lower case** of a text replaces every character by its small form.
Two characters need more than the table of runs. The dotted capital `İ`
becomes `i` with a combining dot. The capital sigma becomes the final form
`ς` at the end of a word and `σ` elsewhere: it ends a word when a letter
with case stands before it and none after, marks in between not counting.
-/

namespace QueryClient.Text

/-- The runs of letters with a one-character small form. -/
def lowerRuns : List CaseRun :=
  [
    ⟨0x41, 0x5A, 1, 32⟩, ⟨0xC0, 0xD6, 1, 32⟩, ⟨0xD8, 0xDE, 1, 32⟩,
    ⟨0x100, 0x12E, 2, 1⟩, ⟨0x132, 0x136, 2, 1⟩, ⟨0x139, 0x147, 2, 1⟩,
    ⟨0x14A, 0x176, 2, 1⟩, ⟨0x178, 0x178, 1, -121⟩, ⟨0x179, 0x17D, 2, 1⟩,
    ⟨0x181, 0x181, 1, 210⟩, ⟨0x182, 0x184, 2, 1⟩, ⟨0x186, 0x186, 1, 206⟩,
    ⟨0x187, 0x187, 1, 1⟩, ⟨0x189, 0x18A, 1, 205⟩, ⟨0x18B, 0x18B, 1, 1⟩,
    ⟨0x18E, 0x18E, 1, 79⟩, ⟨0x18F, 0x18F, 1, 202⟩, ⟨0x190, 0x190, 1, 203⟩,
    ⟨0x191, 0x191, 1, 1⟩, ⟨0x193, 0x193, 1, 205⟩, ⟨0x194, 0x194, 1, 207⟩,
    ⟨0x196, 0x196, 1, 211⟩, ⟨0x197, 0x197, 1, 209⟩, ⟨0x198, 0x198, 1, 1⟩,
    ⟨0x19C, 0x19C, 1, 211⟩, ⟨0x19D, 0x19D, 1, 213⟩, ⟨0x19F, 0x19F, 1, 214⟩,
    ⟨0x1A0, 0x1A4, 2, 1⟩, ⟨0x1A6, 0x1A6, 1, 218⟩, ⟨0x1A7, 0x1A7, 1, 1⟩,
    ⟨0x1A9, 0x1A9, 1, 218⟩, ⟨0x1AC, 0x1AC, 1, 1⟩, ⟨0x1AE, 0x1AE, 1, 218⟩,
    ⟨0x1AF, 0x1AF, 1, 1⟩, ⟨0x1B1, 0x1B2, 1, 217⟩, ⟨0x1B3, 0x1B5, 2, 1⟩,
    ⟨0x1B7, 0x1B7, 1, 219⟩, ⟨0x1B8, 0x1B8, 1, 1⟩, ⟨0x1BC, 0x1BC, 1, 1⟩,
    ⟨0x1C4, 0x1C4, 1, 2⟩, ⟨0x1C5, 0x1C5, 1, 1⟩, ⟨0x1C7, 0x1C7, 1, 2⟩,
    ⟨0x1C8, 0x1C8, 1, 1⟩, ⟨0x1CA, 0x1CA, 1, 2⟩, ⟨0x1CB, 0x1DB, 2, 1⟩,
    ⟨0x1DE, 0x1EE, 2, 1⟩, ⟨0x1F1, 0x1F1, 1, 2⟩, ⟨0x1F2, 0x1F4, 2, 1⟩,
    ⟨0x1F6, 0x1F6, 1, -97⟩, ⟨0x1F7, 0x1F7, 1, -56⟩, ⟨0x1F8, 0x21E, 2, 1⟩,
    ⟨0x220, 0x220, 1, -130⟩, ⟨0x222, 0x232, 2, 1⟩,
    ⟨0x23A, 0x23A, 1, 10795⟩, ⟨0x23B, 0x23B, 1, 1⟩,
    ⟨0x23D, 0x23D, 1, -163⟩, ⟨0x23E, 0x23E, 1, 10792⟩,
    ⟨0x241, 0x241, 1, 1⟩, ⟨0x243, 0x243, 1, -195⟩, ⟨0x244, 0x244, 1, 69⟩,
    ⟨0x245, 0x245, 1, 71⟩, ⟨0x246, 0x24E, 2, 1⟩, ⟨0x370, 0x372, 2, 1⟩,
    ⟨0x376, 0x376, 1, 1⟩, ⟨0x37F, 0x37F, 1, 116⟩, ⟨0x386, 0x386, 1, 38⟩,
    ⟨0x388, 0x38A, 1, 37⟩, ⟨0x38C, 0x38C, 1, 64⟩, ⟨0x38E, 0x38F, 1, 63⟩,
    ⟨0x391, 0x3A1, 1, 32⟩, ⟨0x3A3, 0x3AB, 1, 32⟩, ⟨0x3CF, 0x3CF, 1, 8⟩,
    ⟨0x3D8, 0x3EE, 2, 1⟩, ⟨0x3F4, 0x3F4, 1, -60⟩, ⟨0x3F7, 0x3F7, 1, 1⟩,
    ⟨0x3F9, 0x3F9, 1, -7⟩, ⟨0x3FA, 0x3FA, 1, 1⟩, ⟨0x3FD, 0x3FF, 1, -130⟩,
    ⟨0x400, 0x40F, 1, 80⟩, ⟨0x410, 0x42F, 1, 32⟩, ⟨0x460, 0x480, 2, 1⟩,
    ⟨0x48A, 0x4BE, 2, 1⟩, ⟨0x4C0, 0x4C0, 1, 15⟩, ⟨0x4C1, 0x4CD, 2, 1⟩,
    ⟨0x4D0, 0x52E, 2, 1⟩, ⟨0x531, 0x556, 1, 48⟩, ⟨0x10A0, 0x10C5, 1, 7264⟩,
    ⟨0x10C7, 0x10C7, 1, 7264⟩, ⟨0x10CD, 0x10CD, 1, 7264⟩,
    ⟨0x13A0, 0x13EF, 1, 38864⟩, ⟨0x13F0, 0x13F5, 1, 8⟩,
    ⟨0x1C90, 0x1CBA, 1, -3008⟩, ⟨0x1CBD, 0x1CBF, 1, -3008⟩,
    ⟨0x1E00, 0x1E94, 2, 1⟩, ⟨0x1E9E, 0x1E9E, 1, -7615⟩,
    ⟨0x1EA0, 0x1EFE, 2, 1⟩, ⟨0x1F08, 0x1F0F, 1, -8⟩,
    ⟨0x1F18, 0x1F1D, 1, -8⟩, ⟨0x1F28, 0x1F2F, 1, -8⟩,
    ⟨0x1F38, 0x1F3F, 1, -8⟩, ⟨0x1F48, 0x1F4D, 1, -8⟩,
    ⟨0x1F59, 0x1F5F, 2, -8⟩, ⟨0x1F68, 0x1F6F, 1, -8⟩,
    ⟨0x1F88, 0x1F8F, 1, -8⟩, ⟨0x1F98, 0x1F9F, 1, -8⟩,
    ⟨0x1FA8, 0x1FAF, 1, -8⟩, ⟨0x1FB8, 0x1FB9, 1, -8⟩,
    ⟨0x1FBA, 0x1FBB, 1, -74⟩, ⟨0x1FBC, 0x1FBC, 1, -9⟩,
    ⟨0x1FC8, 0x1FCB, 1, -86⟩, ⟨0x1FCC, 0x1FCC, 1, -9⟩,
    ⟨0x1FD8, 0x1FD9, 1, -8⟩, ⟨0x1FDA, 0x1FDB, 1, -100⟩,
    ⟨0x1FE8, 0x1FE9, 1, -8⟩, ⟨0x1FEA, 0x1FEB, 1, -112⟩,
    ⟨0x1FEC, 0x1FEC, 1, -7⟩, ⟨0x1FF8, 0x1FF9, 1, -128⟩,
    ⟨0x1FFA, 0x1FFB, 1, -126⟩, ⟨0x1FFC, 0x1FFC, 1, -9⟩,
    ⟨0x2126, 0x2126, 1, -7517⟩, ⟨0x212A, 0x212A, 1, -8383⟩,
    ⟨0x212B, 0x212B, 1, -8262⟩, ⟨0x2132, 0x2132, 1, 28⟩,
    ⟨0x2160, 0x216F, 1, 16⟩, ⟨0x2183, 0x2183, 1, 1⟩,
    ⟨0x24B6, 0x24CF, 1, 26⟩, ⟨0x2C00, 0x2C2F, 1, 48⟩,
    ⟨0x2C60, 0x2C60, 1, 1⟩, ⟨0x2C62, 0x2C62, 1, -10743⟩,
    ⟨0x2C63, 0x2C63, 1, -3814⟩, ⟨0x2C64, 0x2C64, 1, -10727⟩,
    ⟨0x2C67, 0x2C6B, 2, 1⟩, ⟨0x2C6D, 0x2C6D, 1, -10780⟩,
    ⟨0x2C6E, 0x2C6E, 1, -10749⟩, ⟨0x2C6F, 0x2C6F, 1, -10783⟩,
    ⟨0x2C70, 0x2C70, 1, -10782⟩, ⟨0x2C72, 0x2C72, 1, 1⟩,
    ⟨0x2C75, 0x2C75, 1, 1⟩, ⟨0x2C7E, 0x2C7F, 1, -10815⟩,
    ⟨0x2C80, 0x2CE2, 2, 1⟩, ⟨0x2CEB, 0x2CED, 2, 1⟩, ⟨0x2CF2, 0x2CF2, 1, 1⟩,
    ⟨0xA640, 0xA66C, 2, 1⟩, ⟨0xA680, 0xA69A, 2, 1⟩, ⟨0xA722, 0xA72E, 2, 1⟩,
    ⟨0xA732, 0xA76E, 2, 1⟩, ⟨0xA779, 0xA77B, 2, 1⟩,
    ⟨0xA77D, 0xA77D, 1, -35332⟩, ⟨0xA77E, 0xA786, 2, 1⟩,
    ⟨0xA78B, 0xA78B, 1, 1⟩, ⟨0xA78D, 0xA78D, 1, -42280⟩,
    ⟨0xA790, 0xA792, 2, 1⟩, ⟨0xA796, 0xA7A8, 2, 1⟩,
    ⟨0xA7AA, 0xA7AA, 1, -42308⟩, ⟨0xA7AB, 0xA7AB, 1, -42319⟩,
    ⟨0xA7AC, 0xA7AC, 1, -42315⟩, ⟨0xA7AD, 0xA7AD, 1, -42305⟩,
    ⟨0xA7AE, 0xA7AE, 1, -42308⟩, ⟨0xA7B0, 0xA7B0, 1, -42258⟩,
    ⟨0xA7B1, 0xA7B1, 1, -42282⟩, ⟨0xA7B2, 0xA7B2, 1, -42261⟩,
    ⟨0xA7B3, 0xA7B3, 1, 928⟩, ⟨0xA7B4, 0xA7C2, 2, 1⟩,
    ⟨0xA7C4, 0xA7C4, 1, -48⟩, ⟨0xA7C5, 0xA7C5, 1, -42307⟩,
    ⟨0xA7C6, 0xA7C6, 1, -35384⟩, ⟨0xA7C7, 0xA7C9, 2, 1⟩,
    ⟨0xA7D0, 0xA7D0, 1, 1⟩, ⟨0xA7D6, 0xA7D8, 2, 1⟩, ⟨0xA7F5, 0xA7F5, 1, 1⟩,
    ⟨0xFF21, 0xFF3A, 1, 32⟩, ⟨0x10400, 0x10427, 1, 40⟩,
    ⟨0x104B0, 0x104D3, 1, 40⟩, ⟨0x10570, 0x1057A, 1, 39⟩,
    ⟨0x1057C, 0x1058A, 1, 39⟩, ⟨0x1058C, 0x10592, 1, 39⟩,
    ⟨0x10594, 0x10595, 1, 39⟩, ⟨0x10C80, 0x10CB2, 1, 64⟩,
    ⟨0x118A0, 0x118BF, 1, 32⟩, ⟨0x16E40, 0x16E5F, 1, 32⟩,
    ⟨0x1E900, 0x1E921, 1, 34⟩]

/-- The combining marks, among the characters a host label may hold. -/
def marks : CharSet :=
  ⟨[
    0x300, 0x371, 0x483, 0x48B, 0x591, 0x5D0, 0x610, 0x620, 0x64B, 0x66E,
    0x670, 0x671, 0x6D6, 0x6E5, 0x6E7, 0x6EE, 0x711, 0x712, 0x730, 0x74D,
    0x7A6, 0x7B1, 0x7EB, 0x7F4, 0x7FD, 0x800, 0x816, 0x81A, 0x81B, 0x824,
    0x825, 0x828, 0x829, 0x840, 0x859, 0x860, 0x898, 0x8A0, 0x8CA, 0x904,
    0x93A, 0x93D, 0x93E, 0x950, 0x951, 0x960, 0x962, 0x966, 0x981, 0x985,
    0x9BC, 0x9BD, 0x9BE, 0x9CE, 0x9D7, 0x9E0, 0x9E2, 0x9E6, 0x9FE, 0xA05,
    0xA3C, 0xA5C, 0xA70, 0xA72, 0xA75, 0xA85, 0xABC, 0xABD, 0xABE, 0xAD0,
    0xAE2, 0xAE6, 0xAFA, 0xB05, 0xB3C, 0xB3D, 0xB3E, 0xB5F, 0xB62, 0xB66,
    0xB82, 0xB83, 0xBBE, 0xBD0, 0xBD7, 0xBE6, 0xC00, 0xC05, 0xC3C, 0xC3D,
    0xC3E, 0xC58, 0xC62, 0xC66, 0xC81, 0xC85, 0xCBC, 0xCBD, 0xCBE, 0xCDD,
    0xCE2, 0xCE6, 0xD00, 0xD04, 0xD3B, 0xD3D, 0xD3E, 0xD4E, 0xD57, 0xD5F,
    0xD62, 0xD66, 0xD81, 0xD85, 0xDCA, 0xDE6, 0xDF2, 0xE01, 0xE31, 0xE32,
    0xE34, 0xE40, 0xE47, 0xE50, 0xEB1, 0xEB2, 0xEB4, 0xEBD, 0xEC8, 0xED0,
    0xF18, 0xF20, 0xF35, 0xF40, 0xF71, 0xF88, 0xF8D, 0x1000, 0x102B,
    0x103F, 0x1056, 0x105A, 0x105E, 0x1061, 0x1062, 0x1065, 0x1067, 0x106E,
    0x1071, 0x1075, 0x1082, 0x108E, 0x108F, 0x1090, 0x109A, 0x10D0, 0x135D,
    0x1380, 0x1712, 0x171F, 0x1732, 0x1740, 0x1752, 0x1760, 0x1772, 0x1780,
    0x17B6, 0x17D7, 0x17DD, 0x17E0, 0x1885, 0x1887, 0x18A9, 0x18AA, 0x1920,
    0x1946, 0x1A17, 0x1A20, 0x1A55, 0x1A80, 0x1AB0, 0x1B05, 0x1B34, 0x1B45,
    0x1B6B, 0x1B83, 0x1BA1, 0x1BAE, 0x1BE6, 0x1C00, 0x1C24, 0x1C40, 0x1CD0,
    0x1CE9, 0x1CED, 0x1CEE, 0x1CF4, 0x1CF5, 0x1CF7, 0x1CFA, 0x1DC0, 0x1E01,
    0x2CEF, 0x2CF3, 0x2D7F, 0x2D80, 0x2DE0, 0x2E2F, 0x302A, 0x303C, 0x3099,
    0x309D, 0xA66F, 0xA67F, 0xA69E, 0xA6A0, 0xA6F0, 0xA717, 0xA802, 0xA803,
    0xA806, 0xA807, 0xA80B, 0xA80C, 0xA823, 0xA840, 0xA880, 0xA882, 0xA8B4,
    0xA8D0, 0xA8E0, 0xA8F2, 0xA8FF, 0xA900, 0xA926, 0xA930, 0xA947, 0xA984,
    0xA9B3, 0xA9CF, 0xA9E5, 0xA9E6, 0xAA29, 0xAA40, 0xAA43, 0xAA44, 0xAA4C,
    0xAA50, 0xAA7B, 0xAA7E, 0xAAB0, 0xAAB1, 0xAAB2, 0xAAB5, 0xAAB7, 0xAAB9,
    0xAABE, 0xAAC0, 0xAAC1, 0xAAC2, 0xAAEB, 0xAAF2, 0xAAF5, 0xAB01, 0xABE3,
    0xABF0, 0xFB1E, 0xFE73, 0x101FD, 0x10280, 0x102E0, 0x10300, 0x10376,
    0x10380, 0x10A01, 0x10A10, 0x10A38, 0x10A60, 0x10AE5, 0x10B00, 0x10D24,
    0x10D30, 0x10EAB, 0x10EB0, 0x10F46, 0x10F70, 0x10F82, 0x10FB0, 0x11000,
    0x11003, 0x11038, 0x11066, 0x11070, 0x11071, 0x11073, 0x11075, 0x1107F,
    0x11083, 0x110B0, 0x110D0, 0x11100, 0x11103, 0x11127, 0x11136, 0x11145,
    0x11147, 0x11173, 0x11176, 0x11180, 0x11183, 0x111B3, 0x111C1, 0x111C9,
    0x111D0, 0x1122C, 0x11280, 0x112DF, 0x112F0, 0x11300, 0x11305, 0x1133B,
    0x1133D, 0x1133E, 0x11350, 0x11357, 0x1135D, 0x11362, 0x11400, 0x11435,
    0x11447, 0x1145E, 0x1145F, 0x114B0, 0x114C4, 0x115AF, 0x115D8, 0x115DC,
    0x11600, 0x11630, 0x11644, 0x116AB, 0x116B8, 0x1171D, 0x11730, 0x1182C,
    0x118C0, 0x11930, 0x1193F, 0x11940, 0x11941, 0x11942, 0x11950, 0x119D1,
    0x119E1, 0x119E4, 0x11A00, 0x11A01, 0x11A0B, 0x11A33, 0x11A3A, 0x11A3B,
    0x11A50, 0x11A51, 0x11A5C, 0x11A8A, 0x11A9D, 0x11C2F, 0x11C40, 0x11C92,
    0x11D00, 0x11D31, 0x11D46, 0x11D47, 0x11D50, 0x11D8A, 0x11D98, 0x11EF3,
    0x11FB0, 0x16AF0, 0x16B00, 0x16B30, 0x16B40, 0x16F4F, 0x16F50, 0x16F51,
    0x16F93, 0x16FE4, 0x17000, 0x1BC9D, 0x1DF00, 0x1E000, 0x1E100, 0x1E130,
    0x1E137, 0x1E2AE, 0x1E2C0, 0x1E2EC, 0x1E2F0, 0x1E8D0, 0x1E922, 0x1E944,
    0x1E94B]⟩

/-- The small form of one character, the capital sigma aside. -/
def lowerOf (c : Char) : Text :=
  if c.toNat < 128 then [c.toLower]
  else if c.toNat = 0x130 then ['i', Char.ofNat 0x307]
  else [CaseRun.apply lowerRuns c]

/-- Whether the character has a small or a capital form of its own. -/
def isCased (c : Char) : Bool :=
  lowerOf c != [c] || upperOf c != [c]

/-- Whether the nearest character that is no combining mark is cased. -/
def meetsCased (t : Text) : Bool :=
  match t.dropWhile marks.contains with
  | [] => false
  | c :: _ => isCased c

/-- Lower case with the characters read so far at hand, nearest first. -/
def lowerAfter (before : Text) : Text → Text
  | [] => []
  | c :: rest =>
    (if c.toNat = 0x3A3 then
      [if meetsCased before && !meetsCased rest then 'ς' else 'σ']
    else lowerOf c) ++ lowerAfter (c :: before) rest

/-- The **lower case** of a text. -/
def lower (t : Text) : Text :=
  lowerAfter [] t

end QueryClient.Text
