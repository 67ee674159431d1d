/-! Properties that the general category leaves open, as the edges of their ranges. -/
namespace Lexicon.Unicode

set_option maxRecDepth 4000 in
/-- The edges of the alphabetic characters that are neither letters nor letter numbers. -/
def otherAlphabeticEdges : Array Nat := #[
  0x00345, 0x00346, 0x00363, 0x00370, 0x005B0, 0x005BE, 0x005BF, 0x005C0, 0x005C1, 0x005C3, 0x005C4, 0x005C6,
  0x005C7, 0x005C8, 0x00610, 0x0061B, 0x0064B, 0x00658, 0x00659, 0x00660, 0x00670, 0x00671, 0x006D6, 0x006DD,
  0x006E1, 0x006E5, 0x006E7, 0x006E9, 0x006ED, 0x006EE, 0x00711, 0x00712, 0x00730, 0x00740, 0x007A6, 0x007B1,
  0x00816, 0x00818, 0x0081B, 0x00824, 0x00825, 0x00828, 0x00829, 0x0082D, 0x00897, 0x00898, 0x008D4, 0x008E0,
  0x008E3, 0x008EA, 0x008F0, 0x00904, 0x0093A, 0x0093C, 0x0093E, 0x0094D, 0x0094E, 0x00950, 0x00955, 0x00958,
  0x00962, 0x00964, 0x00981, 0x00984, 0x009BE, 0x009C5, 0x009C7, 0x009C9, 0x009CB, 0x009CD, 0x009D7, 0x009D8,
  0x009E2, 0x009E4, 0x00A01, 0x00A04, 0x00A3E, 0x00A43, 0x00A47, 0x00A49, 0x00A4B, 0x00A4D, 0x00A51, 0x00A52,
  0x00A70, 0x00A72, 0x00A75, 0x00A76, 0x00A81, 0x00A84, 0x00ABE, 0x00AC6, 0x00AC7, 0x00ACA, 0x00ACB, 0x00ACD,
  0x00AE2, 0x00AE4, 0x00AFA, 0x00AFD, 0x00B01, 0x00B04, 0x00B3E, 0x00B45, 0x00B47, 0x00B49, 0x00B4B, 0x00B4D,
  0x00B56, 0x00B58, 0x00B62, 0x00B64, 0x00B82, 0x00B83, 0x00BBE, 0x00BC3, 0x00BC6, 0x00BC9, 0x00BCA, 0x00BCD,
  0x00BD7, 0x00BD8, 0x00C00, 0x00C05, 0x00C3E, 0x00C45, 0x00C46, 0x00C49, 0x00C4A, 0x00C4D, 0x00C55, 0x00C57,
  0x00C62, 0x00C64, 0x00C81, 0x00C84, 0x00CBE, 0x00CC5, 0x00CC6, 0x00CC9, 0x00CCA, 0x00CCD, 0x00CD5, 0x00CD7,
  0x00CE2, 0x00CE4, 0x00CF3, 0x00CF4, 0x00D00, 0x00D04, 0x00D3E, 0x00D45, 0x00D46, 0x00D49, 0x00D4A, 0x00D4D,
  0x00D57, 0x00D58, 0x00D62, 0x00D64, 0x00D81, 0x00D84, 0x00DCF, 0x00DD5, 0x00DD6, 0x00DD7, 0x00DD8, 0x00DE0,
  0x00DF2, 0x00DF4, 0x00E31, 0x00E32, 0x00E34, 0x00E3B, 0x00E4D, 0x00E4E, 0x00EB1, 0x00EB2, 0x00EB4, 0x00EBA,
  0x00EBB, 0x00EBD, 0x00ECD, 0x00ECE, 0x00F71, 0x00F84, 0x00F8D, 0x00F98, 0x00F99, 0x00FBD, 0x0102B, 0x01037,
  0x01038, 0x01039, 0x0103B, 0x0103F, 0x01056, 0x0105A, 0x0105E, 0x01061, 0x01062, 0x01065, 0x01067, 0x0106E,
  0x01071, 0x01075, 0x01082, 0x0108E, 0x0108F, 0x01090, 0x0109A, 0x0109E, 0x01712, 0x01714, 0x01732, 0x01734,
  0x01752, 0x01754, 0x01772, 0x01774, 0x017B6, 0x017C9, 0x01885, 0x01887, 0x018A9, 0x018AA, 0x01920, 0x0192C,
  0x01930, 0x01939, 0x01A17, 0x01A1C, 0x01A55, 0x01A5F, 0x01A61, 0x01A75, 0x01ABF, 0x01AC1, 0x01ACC, 0x01ACF,
  0x01B00, 0x01B05, 0x01B35, 0x01B44, 0x01B80, 0x01B83, 0x01BA1, 0x01BAA, 0x01BAC, 0x01BAE, 0x01BE7, 0x01BF2,
  0x01C24, 0x01C37, 0x01DD3, 0x01DF5, 0x024B6, 0x024EA, 0x02DE0, 0x02E00, 0x0A674, 0x0A67C, 0x0A69E, 0x0A6A0,
  0x0A802, 0x0A803, 0x0A80B, 0x0A80C, 0x0A823, 0x0A828, 0x0A880, 0x0A882, 0x0A8B4, 0x0A8C4, 0x0A8C5, 0x0A8C6,
  0x0A8FF, 0x0A900, 0x0A926, 0x0A92B, 0x0A947, 0x0A953, 0x0A980, 0x0A984, 0x0A9B4, 0x0A9C0, 0x0A9E5, 0x0A9E6,
  0x0AA29, 0x0AA37, 0x0AA43, 0x0AA44, 0x0AA4C, 0x0AA4E, 0x0AA7B, 0x0AA7E, 0x0AAB0, 0x0AAB1, 0x0AAB2, 0x0AAB5,
  0x0AAB7, 0x0AAB9, 0x0AABE, 0x0AABF, 0x0AAEB, 0x0AAF0, 0x0AAF5, 0x0AAF6, 0x0ABE3, 0x0ABEB, 0x0FB1E, 0x0FB1F,
  0x10376, 0x1037B, 0x10A01, 0x10A04, 0x10A05, 0x10A07, 0x10A0C, 0x10A10, 0x10D24, 0x10D28, 0x10D69, 0x10D6A,
  0x10EAB, 0x10EAD, 0x10EFA, 0x10EFD, 0x11000, 0x11003, 0x11038, 0x11046, 0x11073, 0x11075, 0x11080, 0x11083,
  0x110B0, 0x110B9, 0x110C2, 0x110C3, 0x11100, 0x11103, 0x11127, 0x11133, 0x11145, 0x11147, 0x11180, 0x11183,
  0x111B3, 0x111C0, 0x111CE, 0x111D0, 0x1122C, 0x11235, 0x11237, 0x11238, 0x1123E, 0x1123F, 0x11241, 0x11242,
  0x112DF, 0x112E9, 0x11300, 0x11304, 0x1133E, 0x11345, 0x11347, 0x11349, 0x1134B, 0x1134D, 0x11357, 0x11358,
  0x11362, 0x11364, 0x113B8, 0x113C1, 0x113C2, 0x113C3, 0x113C5, 0x113C6, 0x113C7, 0x113CB, 0x113CC, 0x113CE,
  0x11435, 0x11442, 0x11443, 0x11446, 0x114B0, 0x114C2, 0x115AF, 0x115B6, 0x115B8, 0x115BF, 0x115DC, 0x115DE,
  0x11630, 0x1163F, 0x11640, 0x11641, 0x116AB, 0x116B6, 0x1171D, 0x1172B, 0x1182C, 0x11839, 0x11930, 0x11936,
  0x11937, 0x11939, 0x1193B, 0x1193D, 0x11940, 0x11941, 0x11942, 0x11943, 0x119D1, 0x119D8, 0x119DA, 0x119E0,
  0x119E4, 0x119E5, 0x11A01, 0x11A0B, 0x11A35, 0x11A3A, 0x11A3B, 0x11A3F, 0x11A51, 0x11A5C, 0x11A8A, 0x11A98,
  0x11B60, 0x11B68, 0x11C2F, 0x11C37, 0x11C38, 0x11C3F, 0x11C92, 0x11CA8, 0x11CA9, 0x11CB7, 0x11D31, 0x11D37,
  0x11D3A, 0x11D3B, 0x11D3C, 0x11D3E, 0x11D3F, 0x11D42, 0x11D43, 0x11D44, 0x11D47, 0x11D48, 0x11D8A, 0x11D8F,
  0x11D90, 0x11D92, 0x11D93, 0x11D97, 0x11EF3, 0x11EF7, 0x11F00, 0x11F02, 0x11F03, 0x11F04, 0x11F34, 0x11F3B,
  0x11F3E, 0x11F41, 0x1611E, 0x1612F, 0x16F4F, 0x16F50, 0x16F51, 0x16F88, 0x16F8F, 0x16F93, 0x16FF0, 0x16FF2,
  0x1BC9E, 0x1BC9F, 0x1E000, 0x1E007, 0x1E008, 0x1E019, 0x1E01B, 0x1E022, 0x1E023, 0x1E025, 0x1E026, 0x1E02B,
  0x1E08F, 0x1E090, 0x1E6E3, 0x1E6E4, 0x1E6E6, 0x1E6E7, 0x1E6EE, 0x1E6F0, 0x1E6F5, 0x1E6F6, 0x1E947, 0x1E948,
  0x1F130, 0x1F14A, 0x1F150, 0x1F16A, 0x1F170, 0x1F18A]

/-- The edges of the grapheme extenders that are neither nonspacing nor enclosing marks. -/
def otherGraphemeExtendEdges : Array Nat := #[
  0x009BE, 0x009BF, 0x009D7, 0x009D8, 0x00B3E, 0x00B3F, 0x00B57, 0x00B58, 0x00BBE, 0x00BBF, 0x00BD7, 0x00BD8,
  0x00CC0, 0x00CC1, 0x00CC2, 0x00CC3, 0x00CC7, 0x00CC9, 0x00CCA, 0x00CCC, 0x00CD5, 0x00CD7, 0x00D3E, 0x00D3F,
  0x00D57, 0x00D58, 0x00DCF, 0x00DD0, 0x00DDF, 0x00DE0, 0x01715, 0x01716, 0x01734, 0x01735, 0x01B35, 0x01B36,
  0x01B3B, 0x01B3C, 0x01B3D, 0x01B3E, 0x01B43, 0x01B45, 0x01BAA, 0x01BAB, 0x01BF2, 0x01BF4, 0x0200C, 0x0200D,
  0x0302E, 0x03030, 0x0A953, 0x0A954, 0x0A9C0, 0x0A9C1, 0x0FF9E, 0x0FFA0, 0x111C0, 0x111C1, 0x11235, 0x11236,
  0x1133E, 0x1133F, 0x1134D, 0x1134E, 0x11357, 0x11358, 0x113B8, 0x113B9, 0x113C2, 0x113C3, 0x113C5, 0x113C6,
  0x113C7, 0x113CA, 0x113CF, 0x113D0, 0x114B0, 0x114B1, 0x114BD, 0x114BE, 0x115AF, 0x115B0, 0x116B6, 0x116B7,
  0x11930, 0x11931, 0x1193D, 0x1193E, 0x11F41, 0x11F42, 0x16FF0, 0x16FF2, 0x1D165, 0x1D167, 0x1D16D, 0x1D173,
  0xE0020, 0xE0080]

/-- The edges of the lowercase characters that are no lowercase letters. -/
def otherLowercaseEdges : Array Nat := #[
  0x000AA, 0x000AB, 0x000BA, 0x000BB, 0x002B0, 0x002B9, 0x002C0, 0x002C2, 0x002E0, 0x002E5, 0x00345, 0x00346,
  0x0037A, 0x0037B, 0x010FC, 0x010FD, 0x01D2C, 0x01D6B, 0x01D78, 0x01D79, 0x01D9B, 0x01DC0, 0x02071, 0x02072,
  0x0207F, 0x02080, 0x02090, 0x0209D, 0x02170, 0x02180, 0x024D0, 0x024EA, 0x02C7C, 0x02C7E, 0x0A69C, 0x0A69E,
  0x0A770, 0x0A771, 0x0A7F1, 0x0A7F5, 0x0A7F8, 0x0A7FA, 0x0AB5C, 0x0AB60, 0x0AB69, 0x0AB6A, 0x10780, 0x10781,
  0x10783, 0x10786, 0x10787, 0x107B1, 0x107B2, 0x107BB, 0x1E030, 0x1E06E]

/-- The edges of the uppercase characters that are no uppercase letters. -/
def otherUppercaseEdges : Array Nat := #[
  0x02160, 0x02170, 0x024B6, 0x024D0, 0x1F130, 0x1F14A, 0x1F150, 0x1F16A, 0x1F170, 0x1F18A]

end Lexicon.Unicode
