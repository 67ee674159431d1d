/-! The scripts of all code points, as runs. An entry is the first code point of a run followed by
two hexadecimal digits, the rank of the run's script in `scriptNames`; `FF` is no script. -/
namespace Lexicon.Unicode

set_option maxRecDepth 4000 in
/-- The normalized long and short name of each script. -/
def scriptNames : Array (String × String) := #[
  ("adlam", "adlm"), ("ahom", "ahom"), ("anatolianhieroglyphs", "hluw"), ("arabic", "arab"),
  ("armenian", "armn"), ("avestan", "avst"), ("balinese", "bali"), ("bamum", "bamu"),
  ("bassavah", "bass"), ("batak", "batk"), ("bengali", "beng"), ("beriaerfe", "berf"),
  ("bhaiksuki", "bhks"), ("bopomofo", "bopo"), ("brahmi", "brah"), ("braille", "brai"),
  ("buginese", "bugi"), ("buhid", "buhd"), ("canadianaboriginal", "cans"), ("carian", "cari"),
  ("caucasianalbanian", "aghb"), ("chakma", "cakm"), ("cham", "cham"), ("cherokee", "cher"),
  ("chorasmian", "chrs"), ("common", "zyyy"), ("coptic", "copt"), ("cuneiform", "xsux"),
  ("cypriot", "cprt"), ("cyprominoan", "cpmn"), ("cyrillic", "cyrl"), ("deseret", "dsrt"),
  ("devanagari", "deva"), ("divesakuru", "diak"), ("dogra", "dogr"), ("duployan", "dupl"),
  ("egyptianhieroglyphs", "egyp"), ("elbasan", "elba"), ("elymaic", "elym"), ("ethiopic", "ethi"),
  ("garay", "gara"), ("georgian", "geor"), ("glagolitic", "glag"), ("gothic", "goth"),
  ("grantha", "gran"), ("greek", "grek"), ("gujarati", "gujr"), ("gunjalagondi", "gong"),
  ("gurmukhi", "guru"), ("gurungkhema", "gukh"), ("han", "hani"), ("hangul", "hang"),
  ("hanifirohingya", "rohg"), ("hanunoo", "hano"), ("hatran", "hatr"), ("hebrew", "hebr"),
  ("hiragana", "hira"), ("imperialaramaic", "armi"), ("inherited", "zinh"), ("inscriptionalpahlavi", "phli"),
  ("inscriptionalparthian", "prti"), ("javanese", "java"), ("kaithi", "kthi"), ("kannada", "knda"),
  ("katakana", "kana"), ("kawi", "kawi"), ("kayahli", "kali"), ("kharoshthi", "khar"),
  ("khitansmallscript", "kits"), ("khmer", "khmr"), ("khojki", "khoj"), ("khudawadi", "sind"),
  ("kiratrai", "krai"), ("lao", "laoo"), ("latin", "latn"), ("lepcha", "lepc"),
  ("limbu", "limb"), ("lineara", "lina"), ("linearb", "linb"), ("lisu", "lisu"),
  ("lycian", "lyci"), ("lydian", "lydi"), ("mahajani", "mahj"), ("makasar", "maka"),
  ("malayalam", "mlym"), ("mandaic", "mand"), ("manichaean", "mani"), ("marchen", "marc"),
  ("masaramgondi", "gonm"), ("medefaidrin", "medf"), ("meeteimayek", "mtei"), ("mendekikakui", "mend"),
  ("meroiticcursive", "merc"), ("meroitichieroglyphs", "mero"), ("miao", "plrd"), ("modi", "modi"),
  ("mongolian", "mong"), ("mro", "mroo"), ("multani", "mult"), ("myanmar", "mymr"),
  ("nabataean", "nbat"), ("nagmundari", "nagm"), ("nandinagari", "nand"), ("newtailue", "talu"),
  ("newa", "newa"), ("nko", "nkoo"), ("nushu", "nshu"), ("nyiakengpuachuehmong", "hmnp"),
  ("ogham", "ogam"), ("olchiki", "olck"), ("olonal", "onao"), ("oldhungarian", "hung"),
  ("olditalic", "ital"), ("oldnortharabian", "narb"), ("oldpermic", "perm"), ("oldpersian", "xpeo"),
  ("oldsogdian", "sogo"), ("oldsoutharabian", "sarb"), ("oldturkic", "orkh"), ("olduyghur", "ougr"),
  ("oriya", "orya"), ("osage", "osge"), ("osmanya", "osma"), ("pahawhhmong", "hmng"),
  ("palmyrene", "palm"), ("paucinhau", "pauc"), ("phagspa", "phag"), ("phoenician", "phnx"),
  ("psalterpahlavi", "phlp"), ("rejang", "rjng"), ("runic", "runr"), ("samaritan", "samr"),
  ("saurashtra", "saur"), ("sharada", "shrd"), ("shavian", "shaw"), ("siddham", "sidd"),
  ("sidetic", "sidt"), ("signwriting", "sgnw"), ("sinhala", "sinh"), ("sogdian", "sogd"),
  ("sorasompeng", "sora"), ("soyombo", "soyo"), ("sundanese", "sund"), ("sunuwar", "sunu"),
  ("sylotinagri", "sylo"), ("syriac", "syrc"), ("tagalog", "tglg"), ("tagbanwa", "tagb"),
  ("taile", "tale"), ("taitham", "lana"), ("taiviet", "tavt"), ("taiyo", "tayo"),
  ("takri", "takr"), ("tamil", "taml"), ("tangsa", "tnsa"), ("tangut", "tang"),
  ("telugu", "telu"), ("thaana", "thaa"), ("thai", "thai"), ("tibetan", "tibt"),
  ("tifinagh", "tfng"), ("tirhuta", "tirh"), ("todhri", "todr"), ("tolongsiki", "tols"),
  ("toto", "toto"), ("tulutigalari", "tutg"), ("ugaritic", "ugar"), ("vai", "vaii"),
  ("vithkuqi", "vith"), ("wancho", "wcho"), ("warangciti", "wara"), ("yezidi", "yezi"),
  ("yi", "yiii"), ("zanabazarsquare", "zanb")]

set_option maxRecDepth 20000 in
/-- The runs of equal script, in increasing order. -/
def scriptRuns : Array Nat := #[
  0x000019, 0x00414A, 0x005B19, 0x00614A, 0x007B19, 0x00AA4A, 0x00AB19, 0x00BA4A, 0x00BB19, 0x00C04A, 0x00D719,
  0x00D84A, 0x00F719, 0x00F84A, 0x02B919, 0x02E04A, 0x02E519, 0x02EA0D, 0x02EC19, 0x03003A, 0x03702D, 0x037419,
  0x03752D, 0x0378FF, 0x037A2D, 0x037E19, 0x037F2D, 0x0380FF, 0x03842D, 0x038519, 0x03862D, 0x038719, 0x03882D,
  0x038BFF, 0x038C2D, 0x038DFF, 0x038E2D, 0x03A2FF, 0x03A32D, 0x03E21A, 0x03F02D, 0x04001E, 0x04853A, 0x04871E,
  0x0530FF, 0x053104, 0x0557FF, 0x055904, 0x058BFF, 0x058D04, 0x0590FF, 0x059137, 0x05C8FF, 0x05D037, 0x05EBFF,
  0x05EF37, 0x05F5FF, 0x060003, 0x060519, 0x060603, 0x060C19, 0x060D03, 0x061B19, 0x061C03, 0x061F19, 0x062003,
  0x064019, 0x064103, 0x064B3A, 0x065603, 0x06703A, 0x067103, 0x06DD19, 0x06DE03, 0x070091, 0x070EFF, 0x070F91,
  0x074BFF, 0x074D91, 0x075003, 0x07809D, 0x07B2FF, 0x07C069, 0x07FBFF, 0x07FD69, 0x080083, 0x082EFF, 0x083083,
  0x083FFF, 0x084055, 0x085CFF, 0x085E55, 0x085FFF, 0x086091, 0x086BFF, 0x087003, 0x0892FF, 0x089703, 0x08E219,
  0x08E303, 0x090020, 0x09513A, 0x095520, 0x096419, 0x096620, 0x09800A, 0x0984FF, 0x09850A, 0x098DFF, 0x098F0A,
  0x0991FF, 0x09930A, 0x09A9FF, 0x09AA0A, 0x09B1FF, 0x09B20A, 0x09B3FF, 0x09B60A, 0x09BAFF, 0x09BC0A, 0x09C5FF,
  0x09C70A, 0x09C9FF, 0x09CB0A, 0x09CFFF, 0x09D70A, 0x09D8FF, 0x09DC0A, 0x09DEFF, 0x09DF0A, 0x09E4FF, 0x09E60A,
  0x09FFFF, 0x0A0130, 0x0A04FF, 0x0A0530, 0x0A0BFF, 0x0A0F30, 0x0A11FF, 0x0A1330, 0x0A29FF, 0x0A2A30, 0x0A31FF,
  0x0A3230, 0x0A34FF, 0x0A3530, 0x0A37FF, 0x0A3830, 0x0A3AFF, 0x0A3C30, 0x0A3DFF, 0x0A3E30, 0x0A43FF, 0x0A4730,
  0x0A49FF, 0x0A4B30, 0x0A4EFF, 0x0A5130, 0x0A52FF, 0x0A5930, 0x0A5DFF, 0x0A5E30, 0x0A5FFF, 0x0A6630, 0x0A77FF,
  0x0A812E, 0x0A84FF, 0x0A852E, 0x0A8EFF, 0x0A8F2E, 0x0A92FF, 0x0A932E, 0x0AA9FF, 0x0AAA2E, 0x0AB1FF, 0x0AB22E,
  0x0AB4FF, 0x0AB52E, 0x0ABAFF, 0x0ABC2E, 0x0AC6FF, 0x0AC72E, 0x0ACAFF, 0x0ACB2E, 0x0ACEFF, 0x0AD02E, 0x0AD1FF,
  0x0AE02E, 0x0AE4FF, 0x0AE62E, 0x0AF2FF, 0x0AF92E, 0x0B00FF, 0x0B0178, 0x0B04FF, 0x0B0578, 0x0B0DFF, 0x0B0F78,
  0x0B11FF, 0x0B1378, 0x0B29FF, 0x0B2A78, 0x0B31FF, 0x0B3278, 0x0B34FF, 0x0B3578, 0x0B3AFF, 0x0B3C78, 0x0B45FF,
  0x0B4778, 0x0B49FF, 0x0B4B78, 0x0B4EFF, 0x0B5578, 0x0B58FF, 0x0B5C78, 0x0B5EFF, 0x0B5F78, 0x0B64FF, 0x0B6678,
  0x0B78FF, 0x0B8299, 0x0B84FF, 0x0B8599, 0x0B8BFF, 0x0B8E99, 0x0B91FF, 0x0B9299, 0x0B96FF, 0x0B9999, 0x0B9BFF,
  0x0B9C99, 0x0B9DFF, 0x0B9E99, 0x0BA0FF, 0x0BA399, 0x0BA5FF, 0x0BA899, 0x0BABFF, 0x0BAE99, 0x0BBAFF, 0x0BBE99,
  0x0BC3FF, 0x0BC699, 0x0BC9FF, 0x0BCA99, 0x0BCEFF, 0x0BD099, 0x0BD1FF, 0x0BD799, 0x0BD8FF, 0x0BE699, 0x0BFBFF,
  0x0C009C, 0x0C0DFF, 0x0C0E9C, 0x0C11FF, 0x0C129C, 0x0C29FF, 0x0C2A9C, 0x0C3AFF, 0x0C3C9C, 0x0C45FF, 0x0C469C,
  0x0C49FF, 0x0C4A9C, 0x0C4EFF, 0x0C559C, 0x0C57FF, 0x0C589C, 0x0C5BFF, 0x0C5C9C, 0x0C5EFF, 0x0C609C, 0x0C64FF,
  0x0C669C, 0x0C70FF, 0x0C779C, 0x0C803F, 0x0C8DFF, 0x0C8E3F, 0x0C91FF, 0x0C923F, 0x0CA9FF, 0x0CAA3F, 0x0CB4FF,
  0x0CB53F, 0x0CBAFF, 0x0CBC3F, 0x0CC5FF, 0x0CC63F, 0x0CC9FF, 0x0CCA3F, 0x0CCEFF, 0x0CD53F, 0x0CD7FF, 0x0CDC3F,
  0x0CDFFF, 0x0CE03F, 0x0CE4FF, 0x0CE63F, 0x0CF0FF, 0x0CF13F, 0x0CF4FF, 0x0D0054, 0x0D0DFF, 0x0D0E54, 0x0D11FF,
  0x0D1254, 0x0D45FF, 0x0D4654, 0x0D49FF, 0x0D4A54, 0x0D50FF, 0x0D5454, 0x0D64FF, 0x0D6654, 0x0D80FF, 0x0D818A,
  0x0D84FF, 0x0D858A, 0x0D97FF, 0x0D9A8A, 0x0DB2FF, 0x0DB38A, 0x0DBCFF, 0x0DBD8A, 0x0DBEFF, 0x0DC08A, 0x0DC7FF,
  0x0DCA8A, 0x0DCBFF, 0x0DCF8A, 0x0DD5FF, 0x0DD68A, 0x0DD7FF, 0x0DD88A, 0x0DE0FF, 0x0DE68A, 0x0DF0FF, 0x0DF28A,
  0x0DF5FF, 0x0E019E, 0x0E3BFF, 0x0E3F19, 0x0E409E, 0x0E5CFF, 0x0E8149, 0x0E83FF, 0x0E8449, 0x0E85FF, 0x0E8649,
  0x0E8BFF, 0x0E8C49, 0x0EA4FF, 0x0EA549, 0x0EA6FF, 0x0EA749, 0x0EBEFF, 0x0EC049, 0x0EC5FF, 0x0EC649, 0x0EC7FF,
  0x0EC849, 0x0ECFFF, 0x0ED049, 0x0EDAFF, 0x0EDC49, 0x0EE0FF, 0x0F009F, 0x0F48FF, 0x0F499F, 0x0F6DFF, 0x0F719F,
  0x0F98FF, 0x0F999F, 0x0FBDFF, 0x0FBE9F, 0x0FCDFF, 0x0FCE9F, 0x0FD519, 0x0FD99F, 0x0FDBFF, 0x100063, 0x10A029,
  0x10C6FF, 0x10C729, 0x10C8FF, 0x10CD29, 0x10CEFF, 0x10D029, 0x10FB19, 0x10FC29, 0x110033, 0x120027, 0x1249FF,
  0x124A27, 0x124EFF, 0x125027, 0x1257FF, 0x125827, 0x1259FF, 0x125A27, 0x125EFF, 0x126027, 0x1289FF, 0x128A27,
  0x128EFF, 0x129027, 0x12B1FF, 0x12B227, 0x12B6FF, 0x12B827, 0x12BFFF, 0x12C027, 0x12C1FF, 0x12C227, 0x12C6FF,
  0x12C827, 0x12D7FF, 0x12D827, 0x1311FF, 0x131227, 0x1316FF, 0x131827, 0x135BFF, 0x135D27, 0x137DFF, 0x138027,
  0x139AFF, 0x13A017, 0x13F6FF, 0x13F817, 0x13FEFF, 0x140012, 0x16806C, 0x169DFF, 0x16A082, 0x16EB19, 0x16EE82,
  0x16F9FF, 0x170092, 0x1716FF, 0x171F92, 0x172035, 0x173519, 0x1737FF, 0x174011, 0x1754FF, 0x176093, 0x176DFF,
  0x176E93, 0x1771FF, 0x177293, 0x1774FF, 0x178045, 0x17DEFF, 0x17E045, 0x17EAFF, 0x17F045, 0x17FAFF, 0x180060,
  0x180219, 0x180460, 0x180519, 0x180660, 0x181AFF, 0x182060, 0x1879FF, 0x188060, 0x18ABFF, 0x18B012, 0x18F6FF,
  0x19004C, 0x191FFF, 0x19204C, 0x192CFF, 0x19304C, 0x193CFF, 0x19404C, 0x1941FF, 0x19444C, 0x195094, 0x196EFF,
  0x197094, 0x1975FF, 0x198067, 0x19ACFF, 0x19B067, 0x19CAFF, 0x19D067, 0x19DBFF, 0x19DE67, 0x19E045, 0x1A0010,
  0x1A1CFF, 0x1A1E10, 0x1A2095, 0x1A5FFF, 0x1A6095, 0x1A7DFF, 0x1A7F95, 0x1A8AFF, 0x1A9095, 0x1A9AFF, 0x1AA095,
  0x1AAEFF, 0x1AB03A, 0x1ADEFF, 0x1AE03A, 0x1AECFF, 0x1B0006, 0x1B4DFF, 0x1B4E06, 0x1B808E, 0x1BC009, 0x1BF4FF,
  0x1BFC09, 0x1C004B, 0x1C38FF, 0x1C3B4B, 0x1C4AFF, 0x1C4D4B, 0x1C506D, 0x1C801E, 0x1C8BFF, 0x1C9029, 0x1CBBFF,
  0x1CBD29, 0x1CC08E, 0x1CC8FF, 0x1CD03A, 0x1CD319, 0x1CD43A, 0x1CE119, 0x1CE23A, 0x1CE919, 0x1CED3A, 0x1CEE19,
  0x1CF43A, 0x1CF519, 0x1CF83A, 0x1CFA19, 0x1CFBFF, 0x1D004A, 0x1D262D, 0x1D2B1E, 0x1D2C4A, 0x1D5D2D, 0x1D624A,
  0x1D662D, 0x1D6B4A, 0x1D781E, 0x1D794A, 0x1DBF2D, 0x1DC03A, 0x1E004A, 0x1F002D, 0x1F16FF, 0x1F182D, 0x1F1EFF,
  0x1F202D, 0x1F46FF, 0x1F482D, 0x1F4EFF, 0x1F502D, 0x1F58FF, 0x1F592D, 0x1F5AFF, 0x1F5B2D, 0x1F5CFF, 0x1F5D2D,
  0x1F5EFF, 0x1F5F2D, 0x1F7EFF, 0x1F802D, 0x1FB5FF, 0x1FB62D, 0x1FC5FF, 0x1FC62D, 0x1FD4FF, 0x1FD62D, 0x1FDCFF,
  0x1FDD2D, 0x1FF0FF, 0x1FF22D, 0x1FF5FF, 0x1FF62D, 0x1FFFFF, 0x200019, 0x200C3A, 0x200E19, 0x2065FF, 0x206619,
  0x20714A, 0x2072FF, 0x207419, 0x207F4A, 0x208019, 0x208FFF, 0x20904A, 0x209DFF, 0x20A019, 0x20C2FF, 0x20D03A,
  0x20F1FF, 0x210019, 0x21262D, 0x212719, 0x212A4A, 0x212C19, 0x21324A, 0x213319, 0x214E4A, 0x214F19, 0x21604A,
  0x218919, 0x218CFF, 0x219019, 0x242AFF, 0x244019, 0x244BFF, 0x246019, 0x28000F, 0x290019, 0x2B74FF, 0x2B7619,
  0x2C002A, 0x2C604A, 0x2C801A, 0x2CF4FF, 0x2CF91A, 0x2D0029, 0x2D26FF, 0x2D2729, 0x2D28FF, 0x2D2D29, 0x2D2EFF,
  0x2D30A0, 0x2D68FF, 0x2D6FA0, 0x2D71FF, 0x2D7FA0, 0x2D8027, 0x2D97FF, 0x2DA027, 0x2DA7FF, 0x2DA827, 0x2DAFFF,
  0x2DB027, 0x2DB7FF, 0x2DB827, 0x2DBFFF, 0x2DC027, 0x2DC7FF, 0x2DC827, 0x2DCFFF, 0x2DD027, 0x2DD7FF, 0x2DD827,
  0x2DDFFF, 0x2DE01E, 0x2E0019, 0x2E5EFF, 0x2E8032, 0x2E9AFF, 0x2E9B32, 0x2EF4FF, 0x2F0032, 0x2FD6FF, 0x2FF019,
  0x300532, 0x300619, 0x300732, 0x300819, 0x302132, 0x302A3A, 0x302E33, 0x303019, 0x303832, 0x303C19, 0x3040FF,
  0x304138, 0x3097FF, 0x30993A, 0x309B19, 0x309D38, 0x30A019, 0x30A140, 0x30FB19, 0x30FD40, 0x3100FF, 0x31050D,
  0x3130FF, 0x313133, 0x318FFF, 0x319019, 0x31A00D, 0x31C019, 0x31E6FF, 0x31EF19, 0x31F040, 0x320033, 0x321FFF,
  0x322019, 0x326033, 0x327F19, 0x32D040, 0x32FF19, 0x330040, 0x335819, 0x340032, 0x4DC019, 0x4E0032, 0xA000AC,
  0xA48DFF, 0xA490AC, 0xA4C7FF, 0xA4D04F, 0xA500A7, 0xA62CFF, 0xA6401E, 0xA6A007, 0xA6F8FF, 0xA70019, 0xA7224A,
  0xA78819, 0xA78B4A, 0xA7DDFF, 0xA7F14A, 0xA80090, 0xA82DFF, 0xA83019, 0xA83AFF, 0xA8407E, 0xA878FF, 0xA88084,
  0xA8C6FF, 0xA8CE84, 0xA8DAFF, 0xA8E020, 0xA90042, 0xA92E19, 0xA92F42, 0xA93081, 0xA954FF, 0xA95F81, 0xA96033,
  0xA97DFF, 0xA9803D, 0xA9CEFF, 0xA9CF19, 0xA9D03D, 0xA9DAFF, 0xA9DE3D, 0xA9E063, 0xA9FFFF, 0xAA0016, 0xAA37FF,
  0xAA4016, 0xAA4EFF, 0xAA5016, 0xAA5AFF, 0xAA5C16, 0xAA6063, 0xAA8096, 0xAAC3FF, 0xAADB96, 0xAAE05A, 0xAAF7FF,
  0xAB0127, 0xAB07FF, 0xAB0927, 0xAB0FFF, 0xAB1127, 0xAB17FF, 0xAB2027, 0xAB27FF, 0xAB2827, 0xAB2FFF, 0xAB304A,
  0xAB5B19, 0xAB5C4A, 0xAB652D, 0xAB664A, 0xAB6A19, 0xAB6CFF, 0xAB7017, 0xABC05A, 0xABEEFF, 0xABF05A, 0xABFAFF,
  0xAC0033, 0xD7A4FF, 0xD7B033, 0xD7C7FF, 0xD7CB33, 0xD7FCFF, 0xF90032, 0xFA6EFF, 0xFA7032, 0xFADAFF, 0xFB004A,
  0xFB07FF, 0xFB1304, 0xFB18FF, 0xFB1D37, 0xFB37FF, 0xFB3837, 0xFB3DFF, 0xFB3E37, 0xFB3FFF, 0xFB4037, 0xFB42FF,
  0xFB4337, 0xFB45FF, 0xFB4637, 0xFB5003, 0xFD3E19, 0xFD4003, 0xFDD0FF, 0xFDF003, 0xFE003A, 0xFE1019, 0xFE1AFF,
  0xFE203A, 0xFE2E1E, 0xFE3019, 0xFE53FF, 0xFE5419, 0xFE67FF, 0xFE6819, 0xFE6CFF, 0xFE7003, 0xFE75FF, 0xFE7603,
  0xFEFDFF, 0xFEFF19, 0xFF00FF, 0xFF0119, 0xFF214A, 0xFF3B19, 0xFF414A, 0xFF5B19, 0xFF6640, 0xFF7019, 0xFF7140,
  0xFF9E19, 0xFFA033, 0xFFBFFF, 0xFFC233, 0xFFC8FF, 0xFFCA33, 0xFFD0FF, 0xFFD233, 0xFFD8FF, 0xFFDA33, 0xFFDDFF,
  0xFFE019, 0xFFE7FF, 0xFFE819, 0xFFEFFF, 0xFFF919, 0xFFFEFF, 0x100004E, 0x1000CFF, 0x1000D4E, 0x10027FF, 0x100284E,
  0x1003BFF, 0x1003C4E, 0x1003EFF, 0x1003F4E, 0x1004EFF, 0x100504E, 0x1005EFF, 0x100804E, 0x100FBFF, 0x1010019, 0x10103FF,
  0x1010719, 0x10134FF, 0x1013719, 0x101402D, 0x1018FFF, 0x1019019, 0x1019DFF, 0x101A02D, 0x101A1FF, 0x101D019, 0x101FD3A,
  0x101FEFF, 0x1028050, 0x1029DFF, 0x102A013, 0x102D1FF, 0x102E03A, 0x102E119, 0x102FCFF, 0x1030070, 0x10324FF, 0x1032D70,
  0x103302B, 0x1034BFF, 0x1035072, 0x1037BFF, 0x10380A6, 0x1039EFF, 0x1039FA6, 0x103A073, 0x103C4FF, 0x103C873, 0x103D6FF,
  0x104001F, 0x1045086, 0x104807A, 0x1049EFF, 0x104A07A, 0x104AAFF, 0x104B079, 0x104D4FF, 0x104D879, 0x104FCFF, 0x1050025,
  0x10528FF, 0x1053014, 0x10564FF, 0x1056F14, 0x10570A8, 0x1057BFF, 0x1057CA8, 0x1058BFF, 0x1058CA8, 0x10593FF, 0x10594A8,
  0x10596FF, 0x10597A8, 0x105A2FF, 0x105A3A8, 0x105B2FF, 0x105B3A8, 0x105BAFF, 0x105BBA8, 0x105BDFF, 0x105C0A2, 0x105F4FF,
  0x106004D, 0x10737FF, 0x107404D, 0x10756FF, 0x107604D, 0x10768FF, 0x107804A, 0x10786FF, 0x107874A, 0x107B1FF, 0x107B24A,
  0x107BBFF, 0x108001C, 0x10806FF, 0x108081C, 0x10809FF, 0x1080A1C, 0x10836FF, 0x108371C, 0x10839FF, 0x1083C1C, 0x1083DFF,
  0x1083F1C, 0x1084039, 0x10856FF, 0x1085739, 0x108607C, 0x1088064, 0x1089FFF, 0x108A764, 0x108B0FF, 0x108E036, 0x108F3FF,
  0x108F436, 0x108F6FF, 0x108FB36, 0x109007F, 0x1091CFF, 0x1091F7F, 0x1092051, 0x1093AFF, 0x1093F51, 0x1094088, 0x1095AFF,
  0x109805D, 0x109A05C, 0x109B8FF, 0x109BC5C, 0x109D0FF, 0x109D25C, 0x10A0043, 0x10A04FF, 0x10A0543, 0x10A07FF, 0x10A0C43,
  0x10A14FF, 0x10A1543, 0x10A18FF, 0x10A1943, 0x10A36FF, 0x10A3843, 0x10A3BFF, 0x10A3F43, 0x10A49FF, 0x10A5043, 0x10A59FF,
  0x10A6075, 0x10A8071, 0x10AA0FF, 0x10AC056, 0x10AE7FF, 0x10AEB56, 0x10AF7FF, 0x10B0005, 0x10B36FF, 0x10B3905, 0x10B403C,
  0x10B56FF, 0x10B583C, 0x10B603B, 0x10B73FF, 0x10B783B, 0x10B8080, 0x10B92FF, 0x10B9980, 0x10B9DFF, 0x10BA980, 0x10BB0FF,
  0x10C0076, 0x10C49FF, 0x10C806F, 0x10CB3FF, 0x10CC06F, 0x10CF3FF, 0x10CFA6F, 0x10D0034, 0x10D28FF, 0x10D3034, 0x10D3AFF,
  0x10D4028, 0x10D66FF, 0x10D6928, 0x10D86FF, 0x10D8E28, 0x10D90FF, 0x10E6003, 0x10E7FFF, 0x10E80AB, 0x10EAAFF, 0x10EABAB,
  0x10EAEFF, 0x10EB0AB, 0x10EB2FF, 0x10EC203, 0x10EC8FF, 0x10ED003, 0x10ED9FF, 0x10EFA03, 0x10F0074, 0x10F28FF, 0x10F308B,
  0x10F5AFF, 0x10F7077, 0x10F8AFF, 0x10FB018, 0x10FCCFF, 0x10FE026, 0x10FF7FF, 0x110000E, 0x1104EFF, 0x110520E, 0x11076FF,
  0x1107F0E, 0x110803E, 0x110C3FF, 0x110CD3E, 0x110CEFF, 0x110D08C, 0x110E9FF, 0x110F08C, 0x110FAFF, 0x1110015, 0x11135FF,
  0x1113615, 0x11148FF, 0x1115052, 0x11177FF, 0x1118085, 0x111E0FF, 0x111E18A, 0x111F5FF, 0x1120046, 0x11212FF, 0x1121346,
  0x11242FF, 0x1128062, 0x11287FF, 0x1128862, 0x11289FF, 0x1128A62, 0x1128EFF, 0x1128F62, 0x1129EFF, 0x1129F62, 0x112AAFF,
  0x112B047, 0x112EBFF, 0x112F047, 0x112FAFF, 0x113002C, 0x11304FF, 0x113052C, 0x1130DFF, 0x1130F2C, 0x11311FF, 0x113132C,
  0x11329FF, 0x1132A2C, 0x11331FF, 0x113322C, 0x11334FF, 0x113352C, 0x1133AFF, 0x1133B3A, 0x1133C2C, 0x11345FF, 0x113472C,
  0x11349FF, 0x1134B2C, 0x1134EFF, 0x113502C, 0x11351FF, 0x113572C, 0x11358FF, 0x1135D2C, 0x11364FF, 0x113662C, 0x1136DFF,
  0x113702C, 0x11375FF, 0x11380A5, 0x1138AFF, 0x1138BA5, 0x1138CFF, 0x1138EA5, 0x1138FFF, 0x11390A5, 0x113B6FF, 0x113B7A5,
  0x113C1FF, 0x113C2A5, 0x113C3FF, 0x113C5A5, 0x113C6FF, 0x113C7A5, 0x113CBFF, 0x113CCA5, 0x113D6FF, 0x113D7A5, 0x113D9FF,
  0x113E1A5, 0x113E3FF, 0x1140068, 0x1145CFF, 0x1145D68, 0x11462FF, 0x11480A1, 0x114C8FF, 0x114D0A1, 0x114DAFF, 0x1158087,
  0x115B6FF, 0x115B887, 0x115DEFF, 0x116005F, 0x11645FF, 0x116505F, 0x1165AFF, 0x1166060, 0x1166DFF, 0x1168098, 0x116BAFF,
  0x116C098, 0x116CAFF, 0x116D063, 0x116E4FF, 0x1170001, 0x1171BFF, 0x1171D01, 0x1172CFF, 0x1173001, 0x11747FF, 0x1180022,
  0x1183CFF, 0x118A0AA, 0x118F3FF, 0x118FFAA, 0x1190021, 0x11907FF, 0x1190921, 0x1190AFF, 0x1190C21, 0x11914FF, 0x1191521,
  0x11917FF, 0x1191821, 0x11936FF, 0x1193721, 0x11939FF, 0x1193B21, 0x11947FF, 0x1195021, 0x1195AFF, 0x119A066, 0x119A8FF,
  0x119AA66, 0x119D8FF, 0x119DA66, 0x119E5FF, 0x11A00AD, 0x11A48FF, 0x11A508D, 0x11AA3FF, 0x11AB012, 0x11AC07D, 0x11AF9FF,
  0x11B0020, 0x11B0AFF, 0x11B6085, 0x11B68FF, 0x11BC08F, 0x11BE2FF, 0x11BF08F, 0x11BFAFF, 0x11C000C, 0x11C09FF, 0x11C0A0C,
  0x11C37FF, 0x11C380C, 0x11C46FF, 0x11C500C, 0x11C6DFF, 0x11C7057, 0x11C90FF, 0x11C9257, 0x11CA8FF, 0x11CA957, 0x11CB7FF,
  0x11D0058, 0x11D07FF, 0x11D0858, 0x11D0AFF, 0x11D0B58, 0x11D37FF, 0x11D3A58, 0x11D3BFF, 0x11D3C58, 0x11D3EFF, 0x11D3F58,
  0x11D48FF, 0x11D5058, 0x11D5AFF, 0x11D602F, 0x11D66FF, 0x11D672F, 0x11D69FF, 0x11D6A2F, 0x11D8FFF, 0x11D902F, 0x11D92FF,
  0x11D932F, 0x11D99FF, 0x11DA02F, 0x11DAAFF, 0x11DB0A3, 0x11DDCFF, 0x11DE0A3, 0x11DEAFF, 0x11EE053, 0x11EF9FF, 0x11F0041,
  0x11F11FF, 0x11F1241, 0x11F3BFF, 0x11F3E41, 0x11F5BFF, 0x11FB04F, 0x11FB1FF, 0x11FC099, 0x11FF2FF, 0x11FFF99, 0x120001B,
  0x1239AFF, 0x124001B, 0x1246FFF, 0x124701B, 0x12475FF, 0x124801B, 0x12544FF, 0x12F901D, 0x12FF3FF, 0x1300024, 0x13456FF,
  0x1346024, 0x143FBFF, 0x1440002, 0x14647FF, 0x1610031, 0x1613AFF, 0x1680007, 0x16A39FF, 0x16A4061, 0x16A5FFF, 0x16A6061,
  0x16A6AFF, 0x16A6E61, 0x16A709A, 0x16ABFFF, 0x16AC09A, 0x16ACAFF, 0x16AD008, 0x16AEEFF, 0x16AF008, 0x16AF6FF, 0x16B007B,
  0x16B46FF, 0x16B507B, 0x16B5AFF, 0x16B5B7B, 0x16B62FF, 0x16B637B, 0x16B78FF, 0x16B7D7B, 0x16B90FF, 0x16D4048, 0x16D7AFF,
  0x16E4059, 0x16E9BFF, 0x16EA00B, 0x16EB9FF, 0x16EBB0B, 0x16ED4FF, 0x16F005E, 0x16F4BFF, 0x16F4F5E, 0x16F88FF, 0x16F8F5E,
  0x16FA0FF, 0x16FE09B, 0x16FE16A, 0x16FE232, 0x16FE444, 0x16FE5FF, 0x16FF032, 0x16FF7FF, 0x170009B, 0x18B0044, 0x18CD6FF,
  0x18CFF44, 0x18D009B, 0x18D1FFF, 0x18D809B, 0x18DF3FF, 0x1AFF040, 0x1AFF4FF, 0x1AFF540, 0x1AFFCFF, 0x1AFFD40, 0x1AFFFFF,
  0x1B00040, 0x1B00138, 0x1B12040, 0x1B123FF, 0x1B13238, 0x1B133FF, 0x1B15038, 0x1B153FF, 0x1B15540, 0x1B156FF, 0x1B16440,
  0x1B168FF, 0x1B1706A, 0x1B2FCFF, 0x1BC0023, 0x1BC6BFF, 0x1BC7023, 0x1BC7DFF, 0x1BC8023, 0x1BC89FF, 0x1BC9023, 0x1BC9AFF,
  0x1BC9C23, 0x1BCA019, 0x1BCA4FF, 0x1CC0019, 0x1CCFDFF, 0x1CD0019, 0x1CEB4FF, 0x1CEBA19, 0x1CED1FF, 0x1CEE019, 0x1CEF1FF,
  0x1CF003A, 0x1CF2EFF, 0x1CF303A, 0x1CF47FF, 0x1CF5019, 0x1CFC4FF, 0x1D00019, 0x1D0F6FF, 0x1D10019, 0x1D127FF, 0x1D12919,
  0x1D1673A, 0x1D16A19, 0x1D17B3A, 0x1D18319, 0x1D1853A, 0x1D18C19, 0x1D1AA3A, 0x1D1AE19, 0x1D1EBFF, 0x1D2002D, 0x1D246FF,
  0x1D2C019, 0x1D2D4FF, 0x1D2E019, 0x1D2F4FF, 0x1D30019, 0x1D357FF, 0x1D36019, 0x1D379FF, 0x1D40019, 0x1D455FF, 0x1D45619,
  0x1D49DFF, 0x1D49E19, 0x1D4A0FF, 0x1D4A219, 0x1D4A3FF, 0x1D4A519, 0x1D4A7FF, 0x1D4A919, 0x1D4ADFF, 0x1D4AE19, 0x1D4BAFF,
  0x1D4BB19, 0x1D4BCFF, 0x1D4BD19, 0x1D4C4FF, 0x1D4C519, 0x1D506FF, 0x1D50719, 0x1D50BFF, 0x1D50D19, 0x1D515FF, 0x1D51619,
  0x1D51DFF, 0x1D51E19, 0x1D53AFF, 0x1D53B19, 0x1D53FFF, 0x1D54019, 0x1D545FF, 0x1D54619, 0x1D547FF, 0x1D54A19, 0x1D551FF,
  0x1D55219, 0x1D6A6FF, 0x1D6A819, 0x1D7CCFF, 0x1D7CE19, 0x1D80089, 0x1DA8CFF, 0x1DA9B89, 0x1DAA0FF, 0x1DAA189, 0x1DAB0FF,
  0x1DF004A, 0x1DF1FFF, 0x1DF254A, 0x1DF2BFF, 0x1E0002A, 0x1E007FF, 0x1E0082A, 0x1E019FF, 0x1E01B2A, 0x1E022FF, 0x1E0232A,
  0x1E025FF, 0x1E0262A, 0x1E02BFF, 0x1E0301E, 0x1E06EFF, 0x1E08F1E, 0x1E090FF, 0x1E1006B, 0x1E12DFF, 0x1E1306B, 0x1E13EFF,
  0x1E1406B, 0x1E14AFF, 0x1E14E6B, 0x1E150FF, 0x1E290A4, 0x1E2AFFF, 0x1E2C0A9, 0x1E2FAFF, 0x1E2FFA9, 0x1E300FF, 0x1E4D065,
  0x1E4FAFF, 0x1E5D06E, 0x1E5FBFF, 0x1E5FF6E, 0x1E600FF, 0x1E6C097, 0x1E6DFFF, 0x1E6E097, 0x1E6F6FF, 0x1E6FE97, 0x1E700FF,
  0x1E7E027, 0x1E7E7FF, 0x1E7E827, 0x1E7ECFF, 0x1E7ED27, 0x1E7EFFF, 0x1E7F027, 0x1E7FFFF, 0x1E8005B, 0x1E8C5FF, 0x1E8C75B,
  0x1E8D7FF, 0x1E90000, 0x1E94CFF, 0x1E95000, 0x1E95AFF, 0x1E95E00, 0x1E960FF, 0x1EC7119, 0x1ECB5FF, 0x1ED0119, 0x1ED3EFF,
  0x1EE0003, 0x1EE04FF, 0x1EE0503, 0x1EE20FF, 0x1EE2103, 0x1EE23FF, 0x1EE2403, 0x1EE25FF, 0x1EE2703, 0x1EE28FF, 0x1EE2903,
  0x1EE33FF, 0x1EE3403, 0x1EE38FF, 0x1EE3903, 0x1EE3AFF, 0x1EE3B03, 0x1EE3CFF, 0x1EE4203, 0x1EE43FF, 0x1EE4703, 0x1EE48FF,
  0x1EE4903, 0x1EE4AFF, 0x1EE4B03, 0x1EE4CFF, 0x1EE4D03, 0x1EE50FF, 0x1EE5103, 0x1EE53FF, 0x1EE5403, 0x1EE55FF, 0x1EE5703,
  0x1EE58FF, 0x1EE5903, 0x1EE5AFF, 0x1EE5B03, 0x1EE5CFF, 0x1EE5D03, 0x1EE5EFF, 0x1EE5F03, 0x1EE60FF, 0x1EE6103, 0x1EE63FF,
  0x1EE6403, 0x1EE65FF, 0x1EE6703, 0x1EE6BFF, 0x1EE6C03, 0x1EE73FF, 0x1EE7403, 0x1EE78FF, 0x1EE7903, 0x1EE7DFF, 0x1EE7E03,
  0x1EE7FFF, 0x1EE8003, 0x1EE8AFF, 0x1EE8B03, 0x1EE9CFF, 0x1EEA103, 0x1EEA4FF, 0x1EEA503, 0x1EEAAFF, 0x1EEAB03, 0x1EEBCFF,
  0x1EEF003, 0x1EEF2FF, 0x1F00019, 0x1F02CFF, 0x1F03019, 0x1F094FF, 0x1F0A019, 0x1F0AFFF, 0x1F0B119, 0x1F0C0FF, 0x1F0C119,
  0x1F0D0FF, 0x1F0D119, 0x1F0F6FF, 0x1F10019, 0x1F1AEFF, 0x1F1E619, 0x1F20038, 0x1F20119, 0x1F203FF, 0x1F21019, 0x1F23CFF,
  0x1F24019, 0x1F249FF, 0x1F25019, 0x1F252FF, 0x1F26019, 0x1F266FF, 0x1F30019, 0x1F6D9FF, 0x1F6DC19, 0x1F6EDFF, 0x1F6F019,
  0x1F6FDFF, 0x1F70019, 0x1F7DAFF, 0x1F7E019, 0x1F7ECFF, 0x1F7F019, 0x1F7F1FF, 0x1F80019, 0x1F80CFF, 0x1F81019, 0x1F848FF,
  0x1F85019, 0x1F85AFF, 0x1F86019, 0x1F888FF, 0x1F89019, 0x1F8AEFF, 0x1F8B019, 0x1F8BCFF, 0x1F8C019, 0x1F8C2FF, 0x1F8D019,
  0x1F8D9FF, 0x1F90019, 0x1FA58FF, 0x1FA6019, 0x1FA6EFF, 0x1FA7019, 0x1FA7DFF, 0x1FA8019, 0x1FA8BFF, 0x1FA8E19, 0x1FAC7FF,
  0x1FAC819, 0x1FAC9FF, 0x1FACD19, 0x1FADDFF, 0x1FADF19, 0x1FAEBFF, 0x1FAEF19, 0x1FAF9FF, 0x1FB0019, 0x1FB93FF, 0x1FB9419,
  0x1FBFBFF, 0x2000032, 0x2A6E0FF, 0x2A70032, 0x2B81EFF, 0x2B82032, 0x2CEAEFF, 0x2CEB032, 0x2EBE1FF, 0x2EBF032, 0x2EE5EFF,
  0x2F80032, 0x2FA1EFF, 0x3000032, 0x3134BFF, 0x3135032, 0x3347AFF, 0xE000119, 0xE0002FF, 0xE002019, 0xE0080FF, 0xE01003A,
  0xE01F0FF]

end Lexicon.Unicode
