/-! The general categories of all code points, as runs. An entry is the first code point of a
run followed by two hexadecimal digits, the rank of the run's category in `Category.all`. -/
namespace Lexicon.Unicode

set_option maxRecDepth 20000 in
/-- The runs of equal general category, in increasing order. -/
def categoryRuns : Array Nat := #[
  0x000019, 0x002016, 0x002111, 0x002413, 0x002511, 0x00280D, 0x00290E, 0x002A11, 0x002B12, 0x002C11, 0x002D0C,
  0x002E11, 0x003008, 0x003A11, 0x003C12, 0x003F11, 0x004100, 0x005B0D, 0x005C11, 0x005D0E, 0x005E14, 0x005F0B,
  0x006014, 0x006101, 0x007B0D, 0x007C12, 0x007D0E, 0x007E12, 0x007F19, 0x00A016, 0x00A111, 0x00A213, 0x00A615,
  0x00A711, 0x00A814, 0x00A915, 0x00AA04, 0x00AB0F, 0x00AC12, 0x00AD1A, 0x00AE15, 0x00AF14, 0x00B015, 0x00B112,
  0x00B20A, 0x00B414, 0x00B501, 0x00B611, 0x00B814, 0x00B90A, 0x00BA04, 0x00BB10, 0x00BC0A, 0x00BF11, 0x00C000,
  0x00D712, 0x00D800, 0x00DF01, 0x00F712, 0x00F801, 0x010000, 0x010101, 0x010200, 0x010301, 0x010400, 0x010501,
  0x010600, 0x010701, 0x010800, 0x010901, 0x010A00, 0x010B01, 0x010C00, 0x010D01, 0x010E00, 0x010F01, 0x011000,
  0x011101, 0x011200, 0x011301, 0x011400, 0x011501, 0x011600, 0x011701, 0x011800, 0x011901, 0x011A00, 0x011B01,
  0x011C00, 0x011D01, 0x011E00, 0x011F01, 0x012000, 0x012101, 0x012200, 0x012301, 0x012400, 0x012501, 0x012600,
  0x012701, 0x012800, 0x012901, 0x012A00, 0x012B01, 0x012C00, 0x012D01, 0x012E00, 0x012F01, 0x013000, 0x013101,
  0x013200, 0x013301, 0x013400, 0x013501, 0x013600, 0x013701, 0x013900, 0x013A01, 0x013B00, 0x013C01, 0x013D00,
  0x013E01, 0x013F00, 0x014001, 0x014100, 0x014201, 0x014300, 0x014401, 0x014500, 0x014601, 0x014700, 0x014801,
  0x014A00, 0x014B01, 0x014C00, 0x014D01, 0x014E00, 0x014F01, 0x015000, 0x015101, 0x015200, 0x015301, 0x015400,
  0x015501, 0x015600, 0x015701, 0x015800, 0x015901, 0x015A00, 0x015B01, 0x015C00, 0x015D01, 0x015E00, 0x015F01,
  0x016000, 0x016101, 0x016200, 0x016301, 0x016400, 0x016501, 0x016600, 0x016701, 0x016800, 0x016901, 0x016A00,
  0x016B01, 0x016C00, 0x016D01, 0x016E00, 0x016F01, 0x017000, 0x017101, 0x017200, 0x017301, 0x017400, 0x017501,
  0x017600, 0x017701, 0x017800, 0x017A01, 0x017B00, 0x017C01, 0x017D00, 0x017E01, 0x018100, 0x018301, 0x018400,
  0x018501, 0x018600, 0x018801, 0x018900, 0x018C01, 0x018E00, 0x019201, 0x019300, 0x019501, 0x019600, 0x019901,
  0x019C00, 0x019E01, 0x019F00, 0x01A101, 0x01A200, 0x01A301, 0x01A400, 0x01A501, 0x01A600, 0x01A801, 0x01A900,
  0x01AA01, 0x01AC00, 0x01AD01, 0x01AE00, 0x01B001, 0x01B100, 0x01B401, 0x01B500, 0x01B601, 0x01B700, 0x01B901,
  0x01BB04, 0x01BC00, 0x01BD01, 0x01C004, 0x01C400, 0x01C502, 0x01C601, 0x01C700, 0x01C802, 0x01C901, 0x01CA00,
  0x01CB02, 0x01CC01, 0x01CD00, 0x01CE01, 0x01CF00, 0x01D001, 0x01D100, 0x01D201, 0x01D300, 0x01D401, 0x01D500,
  0x01D601, 0x01D700, 0x01D801, 0x01D900, 0x01DA01, 0x01DB00, 0x01DC01, 0x01DE00, 0x01DF01, 0x01E000, 0x01E101,
  0x01E200, 0x01E301, 0x01E400, 0x01E501, 0x01E600, 0x01E701, 0x01E800, 0x01E901, 0x01EA00, 0x01EB01, 0x01EC00,
  0x01ED01, 0x01EE00, 0x01EF01, 0x01F100, 0x01F202, 0x01F301, 0x01F400, 0x01F501, 0x01F600, 0x01F901, 0x01FA00,
  0x01FB01, 0x01FC00, 0x01FD01, 0x01FE00, 0x01FF01, 0x020000, 0x020101, 0x020200, 0x020301, 0x020400, 0x020501,
  0x020600, 0x020701, 0x020800, 0x020901, 0x020A00, 0x020B01, 0x020C00, 0x020D01, 0x020E00, 0x020F01, 0x021000,
  0x021101, 0x021200, 0x021301, 0x021400, 0x021501, 0x021600, 0x021701, 0x021800, 0x021901, 0x021A00, 0x021B01,
  0x021C00, 0x021D01, 0x021E00, 0x021F01, 0x022000, 0x022101, 0x022200, 0x022301, 0x022400, 0x022501, 0x022600,
  0x022701, 0x022800, 0x022901, 0x022A00, 0x022B01, 0x022C00, 0x022D01, 0x022E00, 0x022F01, 0x023000, 0x023101,
  0x023200, 0x023301, 0x023A00, 0x023C01, 0x023D00, 0x023F01, 0x024100, 0x024201, 0x024300, 0x024701, 0x024800,
  0x024901, 0x024A00, 0x024B01, 0x024C00, 0x024D01, 0x024E00, 0x024F01, 0x029404, 0x029601, 0x02B003, 0x02C214,
  0x02C603, 0x02D214, 0x02E003, 0x02E514, 0x02EC03, 0x02ED14, 0x02EE03, 0x02EF14, 0x030005, 0x037000, 0x037101,
  0x037200, 0x037301, 0x037403, 0x037514, 0x037600, 0x037701, 0x03781D, 0x037A03, 0x037B01, 0x037E11, 0x037F00,
  0x03801D, 0x038414, 0x038600, 0x038711, 0x038800, 0x038B1D, 0x038C00, 0x038D1D, 0x038E00, 0x039001, 0x039100,
  0x03A21D, 0x03A300, 0x03AC01, 0x03CF00, 0x03D001, 0x03D200, 0x03D501, 0x03D800, 0x03D901, 0x03DA00, 0x03DB01,
  0x03DC00, 0x03DD01, 0x03DE00, 0x03DF01, 0x03E000, 0x03E101, 0x03E200, 0x03E301, 0x03E400, 0x03E501, 0x03E600,
  0x03E701, 0x03E800, 0x03E901, 0x03EA00, 0x03EB01, 0x03EC00, 0x03ED01, 0x03EE00, 0x03EF01, 0x03F400, 0x03F501,
  0x03F612, 0x03F700, 0x03F801, 0x03F900, 0x03FB01, 0x03FD00, 0x043001, 0x046000, 0x046101, 0x046200, 0x046301,
  0x046400, 0x046501, 0x046600, 0x046701, 0x046800, 0x046901, 0x046A00, 0x046B01, 0x046C00, 0x046D01, 0x046E00,
  0x046F01, 0x047000, 0x047101, 0x047200, 0x047301, 0x047400, 0x047501, 0x047600, 0x047701, 0x047800, 0x047901,
  0x047A00, 0x047B01, 0x047C00, 0x047D01, 0x047E00, 0x047F01, 0x048000, 0x048101, 0x048215, 0x048305, 0x048807,
  0x048A00, 0x048B01, 0x048C00, 0x048D01, 0x048E00, 0x048F01, 0x049000, 0x049101, 0x049200, 0x049301, 0x049400,
  0x049501, 0x049600, 0x049701, 0x049800, 0x049901, 0x049A00, 0x049B01, 0x049C00, 0x049D01, 0x049E00, 0x049F01,
  0x04A000, 0x04A101, 0x04A200, 0x04A301, 0x04A400, 0x04A501, 0x04A600, 0x04A701, 0x04A800, 0x04A901, 0x04AA00,
  0x04AB01, 0x04AC00, 0x04AD01, 0x04AE00, 0x04AF01, 0x04B000, 0x04B101, 0x04B200, 0x04B301, 0x04B400, 0x04B501,
  0x04B600, 0x04B701, 0x04B800, 0x04B901, 0x04BA00, 0x04BB01, 0x04BC00, 0x04BD01, 0x04BE00, 0x04BF01, 0x04C000,
  0x04C201, 0x04C300, 0x04C401, 0x04C500, 0x04C601, 0x04C700, 0x04C801, 0x04C900, 0x04CA01, 0x04CB00, 0x04CC01,
  0x04CD00, 0x04CE01, 0x04D000, 0x04D101, 0x04D200, 0x04D301, 0x04D400, 0x04D501, 0x04D600, 0x04D701, 0x04D800,
  0x04D901, 0x04DA00, 0x04DB01, 0x04DC00, 0x04DD01, 0x04DE00, 0x04DF01, 0x04E000, 0x04E101, 0x04E200, 0x04E301,
  0x04E400, 0x04E501, 0x04E600, 0x04E701, 0x04E800, 0x04E901, 0x04EA00, 0x04EB01, 0x04EC00, 0x04ED01, 0x04EE00,
  0x04EF01, 0x04F000, 0x04F101, 0x04F200, 0x04F301, 0x04F400, 0x04F501, 0x04F600, 0x04F701, 0x04F800, 0x04F901,
  0x04FA00, 0x04FB01, 0x04FC00, 0x04FD01, 0x04FE00, 0x04FF01, 0x050000, 0x050101, 0x050200, 0x050301, 0x050400,
  0x050501, 0x050600, 0x050701, 0x050800, 0x050901, 0x050A00, 0x050B01, 0x050C00, 0x050D01, 0x050E00, 0x050F01,
  0x051000, 0x051101, 0x051200, 0x051301, 0x051400, 0x051501, 0x051600, 0x051701, 0x051800, 0x051901, 0x051A00,
  0x051B01, 0x051C00, 0x051D01, 0x051E00, 0x051F01, 0x052000, 0x052101, 0x052200, 0x052301, 0x052400, 0x052501,
  0x052600, 0x052701, 0x052800, 0x052901, 0x052A00, 0x052B01, 0x052C00, 0x052D01, 0x052E00, 0x052F01, 0x05301D,
  0x053100, 0x05571D, 0x055903, 0x055A11, 0x056001, 0x058911, 0x058A0C, 0x058B1D, 0x058D15, 0x058F13, 0x05901D,
  0x059105, 0x05BE0C, 0x05BF05, 0x05C011, 0x05C105, 0x05C311, 0x05C405, 0x05C611, 0x05C705, 0x05C81D, 0x05D004,
  0x05EB1D, 0x05EF04, 0x05F311, 0x05F51D, 0x06001A, 0x060612, 0x060911, 0x060B13, 0x060C11, 0x060E15, 0x061005,
  0x061B11, 0x061C1A, 0x061D11, 0x062004, 0x064003, 0x064104, 0x064B05, 0x066008, 0x066A11, 0x066E04, 0x067005,
  0x067104, 0x06D411, 0x06D504, 0x06D605, 0x06DD1A, 0x06DE15, 0x06DF05, 0x06E503, 0x06E705, 0x06E915, 0x06EA05,
  0x06EE04, 0x06F008, 0x06FA04, 0x06FD15, 0x06FF04, 0x070011, 0x070E1D, 0x070F1A, 0x071004, 0x071105, 0x071204,
  0x073005, 0x074B1D, 0x074D04, 0x07A605, 0x07B104, 0x07B21D, 0x07C008, 0x07CA04, 0x07EB05, 0x07F403, 0x07F615,
  0x07F711, 0x07FA03, 0x07FB1D, 0x07FD05, 0x07FE13, 0x080004, 0x081605, 0x081A03, 0x081B05, 0x082403, 0x082505,
  0x082803, 0x082905, 0x082E1D, 0x083011, 0x083F1D, 0x084004, 0x085905, 0x085C1D, 0x085E11, 0x085F1D, 0x086004,
  0x086B1D, 0x087004, 0x088814, 0x088904, 0x08901A, 0x08921D, 0x089705, 0x08A004, 0x08C903, 0x08CA05, 0x08E21A,
  0x08E305, 0x090306, 0x090404, 0x093A05, 0x093B06, 0x093C05, 0x093D04, 0x093E06, 0x094105, 0x094906, 0x094D05,
  0x094E06, 0x095004, 0x095105, 0x095804, 0x096205, 0x096411, 0x096608, 0x097011, 0x097103, 0x097204, 0x098105,
  0x098206, 0x09841D, 0x098504, 0x098D1D, 0x098F04, 0x09911D, 0x099304, 0x09A91D, 0x09AA04, 0x09B11D, 0x09B204,
  0x09B31D, 0x09B604, 0x09BA1D, 0x09BC05, 0x09BD04, 0x09BE06, 0x09C105, 0x09C51D, 0x09C706, 0x09C91D, 0x09CB06,
  0x09CD05, 0x09CE04, 0x09CF1D, 0x09D706, 0x09D81D, 0x09DC04, 0x09DE1D, 0x09DF04, 0x09E205, 0x09E41D, 0x09E608,
  0x09F004, 0x09F213, 0x09F40A, 0x09FA15, 0x09FB13, 0x09FC04, 0x09FD11, 0x09FE05, 0x09FF1D, 0x0A0105, 0x0A0306,
  0x0A041D, 0x0A0504, 0x0A0B1D, 0x0A0F04, 0x0A111D, 0x0A1304, 0x0A291D, 0x0A2A04, 0x0A311D, 0x0A3204, 0x0A341D,
  0x0A3504, 0x0A371D, 0x0A3804, 0x0A3A1D, 0x0A3C05, 0x0A3D1D, 0x0A3E06, 0x0A4105, 0x0A431D, 0x0A4705, 0x0A491D,
  0x0A4B05, 0x0A4E1D, 0x0A5105, 0x0A521D, 0x0A5904, 0x0A5D1D, 0x0A5E04, 0x0A5F1D, 0x0A6608, 0x0A7005, 0x0A7204,
  0x0A7505, 0x0A7611, 0x0A771D, 0x0A8105, 0x0A8306, 0x0A841D, 0x0A8504, 0x0A8E1D, 0x0A8F04, 0x0A921D, 0x0A9304,
  0x0AA91D, 0x0AAA04, 0x0AB11D, 0x0AB204, 0x0AB41D, 0x0AB504, 0x0ABA1D, 0x0ABC05, 0x0ABD04, 0x0ABE06, 0x0AC105,
  0x0AC61D, 0x0AC705, 0x0AC906, 0x0ACA1D, 0x0ACB06, 0x0ACD05, 0x0ACE1D, 0x0AD004, 0x0AD11D, 0x0AE004, 0x0AE205,
  0x0AE41D, 0x0AE608, 0x0AF011, 0x0AF113, 0x0AF21D, 0x0AF904, 0x0AFA05, 0x0B001D, 0x0B0105, 0x0B0206, 0x0B041D,
  0x0B0504, 0x0B0D1D, 0x0B0F04, 0x0B111D, 0x0B1304, 0x0B291D, 0x0B2A04, 0x0B311D, 0x0B3204, 0x0B341D, 0x0B3504,
  0x0B3A1D, 0x0B3C05, 0x0B3D04, 0x0B3E06, 0x0B3F05, 0x0B4006, 0x0B4105, 0x0B451D, 0x0B4706, 0x0B491D, 0x0B4B06,
  0x0B4D05, 0x0B4E1D, 0x0B5505, 0x0B5706, 0x0B581D, 0x0B5C04, 0x0B5E1D, 0x0B5F04, 0x0B6205, 0x0B641D, 0x0B6608,
  0x0B7015, 0x0B7104, 0x0B720A, 0x0B781D, 0x0B8205, 0x0B8304, 0x0B841D, 0x0B8504, 0x0B8B1D, 0x0B8E04, 0x0B911D,
  0x0B9204, 0x0B961D, 0x0B9904, 0x0B9B1D, 0x0B9C04, 0x0B9D1D, 0x0B9E04, 0x0BA01D, 0x0BA304, 0x0BA51D, 0x0BA804,
  0x0BAB1D, 0x0BAE04, 0x0BBA1D, 0x0BBE06, 0x0BC005, 0x0BC106, 0x0BC31D, 0x0BC606, 0x0BC91D, 0x0BCA06, 0x0BCD05,
  0x0BCE1D, 0x0BD004, 0x0BD11D, 0x0BD706, 0x0BD81D, 0x0BE608, 0x0BF00A, 0x0BF315, 0x0BF913, 0x0BFA15, 0x0BFB1D,
  0x0C0005, 0x0C0106, 0x0C0405, 0x0C0504, 0x0C0D1D, 0x0C0E04, 0x0C111D, 0x0C1204, 0x0C291D, 0x0C2A04, 0x0C3A1D,
  0x0C3C05, 0x0C3D04, 0x0C3E05, 0x0C4106, 0x0C451D, 0x0C4605, 0x0C491D, 0x0C4A05, 0x0C4E1D, 0x0C5505, 0x0C571D,
  0x0C5804, 0x0C5B1D, 0x0C5C04, 0x0C5E1D, 0x0C6004, 0x0C6205, 0x0C641D, 0x0C6608, 0x0C701D, 0x0C7711, 0x0C780A,
  0x0C7F15, 0x0C8004, 0x0C8105, 0x0C8206, 0x0C8411, 0x0C8504, 0x0C8D1D, 0x0C8E04, 0x0C911D, 0x0C9204, 0x0CA91D,
  0x0CAA04, 0x0CB41D, 0x0CB504, 0x0CBA1D, 0x0CBC05, 0x0CBD04, 0x0CBE06, 0x0CBF05, 0x0CC006, 0x0CC51D, 0x0CC605,
  0x0CC706, 0x0CC91D, 0x0CCA06, 0x0CCC05, 0x0CCE1D, 0x0CD506, 0x0CD71D, 0x0CDC04, 0x0CDF1D, 0x0CE004, 0x0CE205,
  0x0CE41D, 0x0CE608, 0x0CF01D, 0x0CF104, 0x0CF306, 0x0CF41D, 0x0D0005, 0x0D0206, 0x0D0404, 0x0D0D1D, 0x0D0E04,
  0x0D111D, 0x0D1204, 0x0D3B05, 0x0D3D04, 0x0D3E06, 0x0D4105, 0x0D451D, 0x0D4606, 0x0D491D, 0x0D4A06, 0x0D4D05,
  0x0D4E04, 0x0D4F15, 0x0D501D, 0x0D5404, 0x0D5706, 0x0D580A, 0x0D5F04, 0x0D6205, 0x0D641D, 0x0D6608, 0x0D700A,
  0x0D7915, 0x0D7A04, 0x0D801D, 0x0D8105, 0x0D8206, 0x0D841D, 0x0D8504, 0x0D971D, 0x0D9A04, 0x0DB21D, 0x0DB304,
  0x0DBC1D, 0x0DBD04, 0x0DBE1D, 0x0DC004, 0x0DC71D, 0x0DCA05, 0x0DCB1D, 0x0DCF06, 0x0DD205, 0x0DD51D, 0x0DD605,
  0x0DD71D, 0x0DD806, 0x0DE01D, 0x0DE608, 0x0DF01D, 0x0DF206, 0x0DF411, 0x0DF51D, 0x0E0104, 0x0E3105, 0x0E3204,
  0x0E3405, 0x0E3B1D, 0x0E3F13, 0x0E4004, 0x0E4603, 0x0E4705, 0x0E4F11, 0x0E5008, 0x0E5A11, 0x0E5C1D, 0x0E8104,
  0x0E831D, 0x0E8404, 0x0E851D, 0x0E8604, 0x0E8B1D, 0x0E8C04, 0x0EA41D, 0x0EA504, 0x0EA61D, 0x0EA704, 0x0EB105,
  0x0EB204, 0x0EB405, 0x0EBD04, 0x0EBE1D, 0x0EC004, 0x0EC51D, 0x0EC603, 0x0EC71D, 0x0EC805, 0x0ECF1D, 0x0ED008,
  0x0EDA1D, 0x0EDC04, 0x0EE01D, 0x0F0004, 0x0F0115, 0x0F0411, 0x0F1315, 0x0F1411, 0x0F1515, 0x0F1805, 0x0F1A15,
  0x0F2008, 0x0F2A0A, 0x0F3415, 0x0F3505, 0x0F3615, 0x0F3705, 0x0F3815, 0x0F3905, 0x0F3A0D, 0x0F3B0E, 0x0F3C0D,
  0x0F3D0E, 0x0F3E06, 0x0F4004, 0x0F481D, 0x0F4904, 0x0F6D1D, 0x0F7105, 0x0F7F06, 0x0F8005, 0x0F8511, 0x0F8605,
  0x0F8804, 0x0F8D05, 0x0F981D, 0x0F9905, 0x0FBD1D, 0x0FBE15, 0x0FC605, 0x0FC715, 0x0FCD1D, 0x0FCE15, 0x0FD011,
  0x0FD515, 0x0FD911, 0x0FDB1D, 0x100004, 0x102B06, 0x102D05, 0x103106, 0x103205, 0x103806, 0x103905, 0x103B06,
  0x103D05, 0x103F04, 0x104008, 0x104A11, 0x105004, 0x105606, 0x105805, 0x105A04, 0x105E05, 0x106104, 0x106206,
  0x106504, 0x106706, 0x106E04, 0x107105, 0x107504, 0x108205, 0x108306, 0x108505, 0x108706, 0x108D05, 0x108E04,
  0x108F06, 0x109008, 0x109A06, 0x109D05, 0x109E15, 0x10A000, 0x10C61D, 0x10C700, 0x10C81D, 0x10CD00, 0x10CE1D,
  0x10D001, 0x10FB11, 0x10FC03, 0x10FD01, 0x110004, 0x12491D, 0x124A04, 0x124E1D, 0x125004, 0x12571D, 0x125804,
  0x12591D, 0x125A04, 0x125E1D, 0x126004, 0x12891D, 0x128A04, 0x128E1D, 0x129004, 0x12B11D, 0x12B204, 0x12B61D,
  0x12B804, 0x12BF1D, 0x12C004, 0x12C11D, 0x12C204, 0x12C61D, 0x12C804, 0x12D71D, 0x12D804, 0x13111D, 0x131204,
  0x13161D, 0x131804, 0x135B1D, 0x135D05, 0x136011, 0x13690A, 0x137D1D, 0x138004, 0x139015, 0x139A1D, 0x13A000,
  0x13F61D, 0x13F801, 0x13FE1D, 0x14000C, 0x140104, 0x166D15, 0x166E11, 0x166F04, 0x168016, 0x168104, 0x169B0D,
  0x169C0E, 0x169D1D, 0x16A004, 0x16EB11, 0x16EE09, 0x16F104, 0x16F91D, 0x170004, 0x171205, 0x171506, 0x17161D,
  0x171F04, 0x173205, 0x173406, 0x173511, 0x17371D, 0x174004, 0x175205, 0x17541D, 0x176004, 0x176D1D, 0x176E04,
  0x17711D, 0x177205, 0x17741D, 0x178004, 0x17B405, 0x17B606, 0x17B705, 0x17BE06, 0x17C605, 0x17C706, 0x17C905,
  0x17D411, 0x17D703, 0x17D811, 0x17DB13, 0x17DC04, 0x17DD05, 0x17DE1D, 0x17E008, 0x17EA1D, 0x17F00A, 0x17FA1D,
  0x180011, 0x18060C, 0x180711, 0x180B05, 0x180E1A, 0x180F05, 0x181008, 0x181A1D, 0x182004, 0x184303, 0x184404,
  0x18791D, 0x188004, 0x188505, 0x188704, 0x18A905, 0x18AA04, 0x18AB1D, 0x18B004, 0x18F61D, 0x190004, 0x191F1D,
  0x192005, 0x192306, 0x192705, 0x192906, 0x192C1D, 0x193006, 0x193205, 0x193306, 0x193905, 0x193C1D, 0x194015,
  0x19411D, 0x194411, 0x194608, 0x195004, 0x196E1D, 0x197004, 0x19751D, 0x198004, 0x19AC1D, 0x19B004, 0x19CA1D,
  0x19D008, 0x19DA0A, 0x19DB1D, 0x19DE15, 0x1A0004, 0x1A1705, 0x1A1906, 0x1A1B05, 0x1A1C1D, 0x1A1E11, 0x1A2004,
  0x1A5506, 0x1A5605, 0x1A5706, 0x1A5805, 0x1A5F1D, 0x1A6005, 0x1A6106, 0x1A6205, 0x1A6306, 0x1A6505, 0x1A6D06,
  0x1A7305, 0x1A7D1D, 0x1A7F05, 0x1A8008, 0x1A8A1D, 0x1A9008, 0x1A9A1D, 0x1AA011, 0x1AA703, 0x1AA811, 0x1AAE1D,
  0x1AB005, 0x1ABE07, 0x1ABF05, 0x1ADE1D, 0x1AE005, 0x1AEC1D, 0x1B0005, 0x1B0406, 0x1B0504, 0x1B3405, 0x1B3506,
  0x1B3605, 0x1B3B06, 0x1B3C05, 0x1B3D06, 0x1B4205, 0x1B4306, 0x1B4504, 0x1B4D1D, 0x1B4E11, 0x1B5008, 0x1B5A11,
  0x1B6115, 0x1B6B05, 0x1B7415, 0x1B7D11, 0x1B8005, 0x1B8206, 0x1B8304, 0x1BA106, 0x1BA205, 0x1BA606, 0x1BA805,
  0x1BAA06, 0x1BAB05, 0x1BAE04, 0x1BB008, 0x1BBA04, 0x1BE605, 0x1BE706, 0x1BE805, 0x1BEA06, 0x1BED05, 0x1BEE06,
  0x1BEF05, 0x1BF206, 0x1BF41D, 0x1BFC11, 0x1C0004, 0x1C2406, 0x1C2C05, 0x1C3406, 0x1C3605, 0x1C381D, 0x1C3B11,
  0x1C4008, 0x1C4A1D, 0x1C4D04, 0x1C5008, 0x1C5A04, 0x1C7803, 0x1C7E11, 0x1C8001, 0x1C8900, 0x1C8A01, 0x1C8B1D,
  0x1C9000, 0x1CBB1D, 0x1CBD00, 0x1CC011, 0x1CC81D, 0x1CD005, 0x1CD311, 0x1CD405, 0x1CE106, 0x1CE205, 0x1CE904,
  0x1CED05, 0x1CEE04, 0x1CF405, 0x1CF504, 0x1CF706, 0x1CF805, 0x1CFA04, 0x1CFB1D, 0x1D0001, 0x1D2C03, 0x1D6B01,
  0x1D7803, 0x1D7901, 0x1D9B03, 0x1DC005, 0x1E0000, 0x1E0101, 0x1E0200, 0x1E0301, 0x1E0400, 0x1E0501, 0x1E0600,
  0x1E0701, 0x1E0800, 0x1E0901, 0x1E0A00, 0x1E0B01, 0x1E0C00, 0x1E0D01, 0x1E0E00, 0x1E0F01, 0x1E1000, 0x1E1101,
  0x1E1200, 0x1E1301, 0x1E1400, 0x1E1501, 0x1E1600, 0x1E1701, 0x1E1800, 0x1E1901, 0x1E1A00, 0x1E1B01, 0x1E1C00,
  0x1E1D01, 0x1E1E00, 0x1E1F01, 0x1E2000, 0x1E2101, 0x1E2200, 0x1E2301, 0x1E2400, 0x1E2501, 0x1E2600, 0x1E2701,
  0x1E2800, 0x1E2901, 0x1E2A00, 0x1E2B01, 0x1E2C00, 0x1E2D01, 0x1E2E00, 0x1E2F01, 0x1E3000, 0x1E3101, 0x1E3200,
  0x1E3301, 0x1E3400, 0x1E3501, 0x1E3600, 0x1E3701, 0x1E3800, 0x1E3901, 0x1E3A00, 0x1E3B01, 0x1E3C00, 0x1E3D01,
  0x1E3E00, 0x1E3F01, 0x1E4000, 0x1E4101, 0x1E4200, 0x1E4301, 0x1E4400, 0x1E4501, 0x1E4600, 0x1E4701, 0x1E4800,
  0x1E4901, 0x1E4A00, 0x1E4B01, 0x1E4C00, 0x1E4D01, 0x1E4E00, 0x1E4F01, 0x1E5000, 0x1E5101, 0x1E5200, 0x1E5301,
  0x1E5400, 0x1E5501, 0x1E5600, 0x1E5701, 0x1E5800, 0x1E5901, 0x1E5A00, 0x1E5B01, 0x1E5C00, 0x1E5D01, 0x1E5E00,
  0x1E5F01, 0x1E6000, 0x1E6101, 0x1E6200, 0x1E6301, 0x1E6400, 0x1E6501, 0x1E6600, 0x1E6701, 0x1E6800, 0x1E6901,
  0x1E6A00, 0x1E6B01, 0x1E6C00, 0x1E6D01, 0x1E6E00, 0x1E6F01, 0x1E7000, 0x1E7101, 0x1E7200, 0x1E7301, 0x1E7400,
  0x1E7501, 0x1E7600, 0x1E7701, 0x1E7800, 0x1E7901, 0x1E7A00, 0x1E7B01, 0x1E7C00, 0x1E7D01, 0x1E7E00, 0x1E7F01,
  0x1E8000, 0x1E8101, 0x1E8200, 0x1E8301, 0x1E8400, 0x1E8501, 0x1E8600, 0x1E8701, 0x1E8800, 0x1E8901, 0x1E8A00,
  0x1E8B01, 0x1E8C00, 0x1E8D01, 0x1E8E00, 0x1E8F01, 0x1E9000, 0x1E9101, 0x1E9200, 0x1E9301, 0x1E9400, 0x1E9501,
  0x1E9E00, 0x1E9F01, 0x1EA000, 0x1EA101, 0x1EA200, 0x1EA301, 0x1EA400, 0x1EA501, 0x1EA600, 0x1EA701, 0x1EA800,
  0x1EA901, 0x1EAA00, 0x1EAB01, 0x1EAC00, 0x1EAD01, 0x1EAE00, 0x1EAF01, 0x1EB000, 0x1EB101, 0x1EB200, 0x1EB301,
  0x1EB400, 0x1EB501, 0x1EB600, 0x1EB701, 0x1EB800, 0x1EB901, 0x1EBA00, 0x1EBB01, 0x1EBC00, 0x1EBD01, 0x1EBE00,
  0x1EBF01, 0x1EC000, 0x1EC101, 0x1EC200, 0x1EC301, 0x1EC400, 0x1EC501, 0x1EC600, 0x1EC701, 0x1EC800, 0x1EC901,
  0x1ECA00, 0x1ECB01, 0x1ECC00, 0x1ECD01, 0x1ECE00, 0x1ECF01, 0x1ED000, 0x1ED101, 0x1ED200, 0x1ED301, 0x1ED400,
  0x1ED501, 0x1ED600, 0x1ED701, 0x1ED800, 0x1ED901, 0x1EDA00, 0x1EDB01, 0x1EDC00, 0x1EDD01, 0x1EDE00, 0x1EDF01,
  0x1EE000, 0x1EE101, 0x1EE200, 0x1EE301, 0x1EE400, 0x1EE501, 0x1EE600, 0x1EE701, 0x1EE800, 0x1EE901, 0x1EEA00,
  0x1EEB01, 0x1EEC00, 0x1EED01, 0x1EEE00, 0x1EEF01, 0x1EF000, 0x1EF101, 0x1EF200, 0x1EF301, 0x1EF400, 0x1EF501,
  0x1EF600, 0x1EF701, 0x1EF800, 0x1EF901, 0x1EFA00, 0x1EFB01, 0x1EFC00, 0x1EFD01, 0x1EFE00, 0x1EFF01, 0x1F0800,
  0x1F1001, 0x1F161D, 0x1F1800, 0x1F1E1D, 0x1F2001, 0x1F2800, 0x1F3001, 0x1F3800, 0x1F4001, 0x1F461D, 0x1F4800,
  0x1F4E1D, 0x1F5001, 0x1F581D, 0x1F5900, 0x1F5A1D, 0x1F5B00, 0x1F5C1D, 0x1F5D00, 0x1F5E1D, 0x1F5F00, 0x1F6001,
  0x1F6800, 0x1F7001, 0x1F7E1D, 0x1F8001, 0x1F8802, 0x1F9001, 0x1F9802, 0x1FA001, 0x1FA802, 0x1FB001, 0x1FB51D,
  0x1FB601, 0x1FB800, 0x1FBC02, 0x1FBD14, 0x1FBE01, 0x1FBF14, 0x1FC201, 0x1FC51D, 0x1FC601, 0x1FC800, 0x1FCC02,
  0x1FCD14, 0x1FD001, 0x1FD41D, 0x1FD601, 0x1FD800, 0x1FDC1D, 0x1FDD14, 0x1FE001, 0x1FE800, 0x1FED14, 0x1FF01D,
  0x1FF201, 0x1FF51D, 0x1FF601, 0x1FF800, 0x1FFC02, 0x1FFD14, 0x1FFF1D, 0x200016, 0x200B1A, 0x20100C, 0x201611,
  0x20180F, 0x201910, 0x201A0D, 0x201B0F, 0x201D10, 0x201E0D, 0x201F0F, 0x202011, 0x202817, 0x202918, 0x202A1A,
  0x202F16, 0x203011, 0x20390F, 0x203A10, 0x203B11, 0x203F0B, 0x204111, 0x204412, 0x20450D, 0x20460E, 0x204711,
  0x205212, 0x205311, 0x20540B, 0x205511, 0x205F16, 0x20601A, 0x20651D, 0x20661A, 0x20700A, 0x207103, 0x20721D,
  0x20740A, 0x207A12, 0x207D0D, 0x207E0E, 0x207F03, 0x20800A, 0x208A12, 0x208D0D, 0x208E0E, 0x208F1D, 0x209003,
  0x209D1D, 0x20A013, 0x20C21D, 0x20D005, 0x20DD07, 0x20E105, 0x20E207, 0x20E505, 0x20F11D, 0x210015, 0x210200,
  0x210315, 0x210700, 0x210815, 0x210A01, 0x210B00, 0x210E01, 0x211000, 0x211301, 0x211415, 0x211500, 0x211615,
  0x211812, 0x211900, 0x211E15, 0x212400, 0x212515, 0x212600, 0x212715, 0x212800, 0x212915, 0x212A00, 0x212E15,
  0x212F01, 0x213000, 0x213401, 0x213504, 0x213901, 0x213A15, 0x213C01, 0x213E00, 0x214012, 0x214500, 0x214601,
  0x214A15, 0x214B12, 0x214C15, 0x214E01, 0x214F15, 0x21500A, 0x216009, 0x218300, 0x218401, 0x218509, 0x21890A,
  0x218A15, 0x218C1D, 0x219012, 0x219515, 0x219A12, 0x219C15, 0x21A012, 0x21A115, 0x21A312, 0x21A415, 0x21A612,
  0x21A715, 0x21AE12, 0x21AF15, 0x21CE12, 0x21D015, 0x21D212, 0x21D315, 0x21D412, 0x21D515, 0x21F412, 0x230015,
  0x23080D, 0x23090E, 0x230A0D, 0x230B0E, 0x230C15, 0x232012, 0x232215, 0x23290D, 0x232A0E, 0x232B15, 0x237C12,
  0x237D15, 0x239B12, 0x23B415, 0x23DC12, 0x23E215, 0x242A1D, 0x244015, 0x244B1D, 0x24600A, 0x249C15, 0x24EA0A,
  0x250015, 0x25B712, 0x25B815, 0x25C112, 0x25C215, 0x25F812, 0x260015, 0x266F12, 0x267015, 0x27680D, 0x27690E,
  0x276A0D, 0x276B0E, 0x276C0D, 0x276D0E, 0x276E0D, 0x276F0E, 0x27700D, 0x27710E, 0x27720D, 0x27730E, 0x27740D,
  0x27750E, 0x27760A, 0x279415, 0x27C012, 0x27C50D, 0x27C60E, 0x27C712, 0x27E60D, 0x27E70E, 0x27E80D, 0x27E90E,
  0x27EA0D, 0x27EB0E, 0x27EC0D, 0x27ED0E, 0x27EE0D, 0x27EF0E, 0x27F012, 0x280015, 0x290012, 0x29830D, 0x29840E,
  0x29850D, 0x29860E, 0x29870D, 0x29880E, 0x29890D, 0x298A0E, 0x298B0D, 0x298C0E, 0x298D0D, 0x298E0E, 0x298F0D,
  0x29900E, 0x29910D, 0x29920E, 0x29930D, 0x29940E, 0x29950D, 0x29960E, 0x29970D, 0x29980E, 0x299912, 0x29D80D,
  0x29D90E, 0x29DA0D, 0x29DB0E, 0x29DC12, 0x29FC0D, 0x29FD0E, 0x29FE12, 0x2B0015, 0x2B3012, 0x2B4515, 0x2B4712,
  0x2B4D15, 0x2B741D, 0x2B7615, 0x2C0000, 0x2C3001, 0x2C6000, 0x2C6101, 0x2C6200, 0x2C6501, 0x2C6700, 0x2C6801,
  0x2C6900, 0x2C6A01, 0x2C6B00, 0x2C6C01, 0x2C6D00, 0x2C7101, 0x2C7200, 0x2C7301, 0x2C7500, 0x2C7601, 0x2C7C03,
  0x2C7E00, 0x2C8101, 0x2C8200, 0x2C8301, 0x2C8400, 0x2C8501, 0x2C8600, 0x2C8701, 0x2C8800, 0x2C8901, 0x2C8A00,
  0x2C8B01, 0x2C8C00, 0x2C8D01, 0x2C8E00, 0x2C8F01, 0x2C9000, 0x2C9101, 0x2C9200, 0x2C9301, 0x2C9400, 0x2C9501,
  0x2C9600, 0x2C9701, 0x2C9800, 0x2C9901, 0x2C9A00, 0x2C9B01, 0x2C9C00, 0x2C9D01, 0x2C9E00, 0x2C9F01, 0x2CA000,
  0x2CA101, 0x2CA200, 0x2CA301, 0x2CA400, 0x2CA501, 0x2CA600, 0x2CA701, 0x2CA800, 0x2CA901, 0x2CAA00, 0x2CAB01,
  0x2CAC00, 0x2CAD01, 0x2CAE00, 0x2CAF01, 0x2CB000, 0x2CB101, 0x2CB200, 0x2CB301, 0x2CB400, 0x2CB501, 0x2CB600,
  0x2CB701, 0x2CB800, 0x2CB901, 0x2CBA00, 0x2CBB01, 0x2CBC00, 0x2CBD01, 0x2CBE00, 0x2CBF01, 0x2CC000, 0x2CC101,
  0x2CC200, 0x2CC301, 0x2CC400, 0x2CC501, 0x2CC600, 0x2CC701, 0x2CC800, 0x2CC901, 0x2CCA00, 0x2CCB01, 0x2CCC00,
  0x2CCD01, 0x2CCE00, 0x2CCF01, 0x2CD000, 0x2CD101, 0x2CD200, 0x2CD301, 0x2CD400, 0x2CD501, 0x2CD600, 0x2CD701,
  0x2CD800, 0x2CD901, 0x2CDA00, 0x2CDB01, 0x2CDC00, 0x2CDD01, 0x2CDE00, 0x2CDF01, 0x2CE000, 0x2CE101, 0x2CE200,
  0x2CE301, 0x2CE515, 0x2CEB00, 0x2CEC01, 0x2CED00, 0x2CEE01, 0x2CEF05, 0x2CF200, 0x2CF301, 0x2CF41D, 0x2CF911,
  0x2CFD0A, 0x2CFE11, 0x2D0001, 0x2D261D, 0x2D2701, 0x2D281D, 0x2D2D01, 0x2D2E1D, 0x2D3004, 0x2D681D, 0x2D6F03,
  0x2D7011, 0x2D711D, 0x2D7F05, 0x2D8004, 0x2D971D, 0x2DA004, 0x2DA71D, 0x2DA804, 0x2DAF1D, 0x2DB004, 0x2DB71D,
  0x2DB804, 0x2DBF1D, 0x2DC004, 0x2DC71D, 0x2DC804, 0x2DCF1D, 0x2DD004, 0x2DD71D, 0x2DD804, 0x2DDF1D, 0x2DE005,
  0x2E0011, 0x2E020F, 0x2E0310, 0x2E040F, 0x2E0510, 0x2E0611, 0x2E090F, 0x2E0A10, 0x2E0B11, 0x2E0C0F, 0x2E0D10,
  0x2E0E11, 0x2E170C, 0x2E1811, 0x2E1A0C, 0x2E1B11, 0x2E1C0F, 0x2E1D10, 0x2E1E11, 0x2E200F, 0x2E2110, 0x2E220D,
  0x2E230E, 0x2E240D, 0x2E250E, 0x2E260D, 0x2E270E, 0x2E280D, 0x2E290E, 0x2E2A11, 0x2E2F03, 0x2E3011, 0x2E3A0C,
  0x2E3C11, 0x2E400C, 0x2E4111, 0x2E420D, 0x2E4311, 0x2E5015, 0x2E5211, 0x2E550D, 0x2E560E, 0x2E570D, 0x2E580E,
  0x2E590D, 0x2E5A0E, 0x2E5B0D, 0x2E5C0E, 0x2E5D0C, 0x2E5E1D, 0x2E8015, 0x2E9A1D, 0x2E9B15, 0x2EF41D, 0x2F0015,
  0x2FD61D, 0x2FF015, 0x300016, 0x300111, 0x300415, 0x300503, 0x300604, 0x300709, 0x30080D, 0x30090E, 0x300A0D,
  0x300B0E, 0x300C0D, 0x300D0E, 0x300E0D, 0x300F0E, 0x30100D, 0x30110E, 0x301215, 0x30140D, 0x30150E, 0x30160D,
  0x30170E, 0x30180D, 0x30190E, 0x301A0D, 0x301B0E, 0x301C0C, 0x301D0D, 0x301E0E, 0x302015, 0x302109, 0x302A05,
  0x302E06, 0x30300C, 0x303103, 0x303615, 0x303809, 0x303B03, 0x303C04, 0x303D11, 0x303E15, 0x30401D, 0x304104,
  0x30971D, 0x309905, 0x309B14, 0x309D03, 0x309F04, 0x30A00C, 0x30A104, 0x30FB11, 0x30FC03, 0x30FF04, 0x31001D,
  0x310504, 0x31301D, 0x313104, 0x318F1D, 0x319015, 0x31920A, 0x319615, 0x31A004, 0x31C015, 0x31E61D, 0x31EF15,
  0x31F004, 0x320015, 0x321F1D, 0x32200A, 0x322A15, 0x32480A, 0x325015, 0x32510A, 0x326015, 0x32800A, 0x328A15,
  0x32B10A, 0x32C015, 0x340004, 0x4DC015, 0x4E0004, 0xA01503, 0xA01604, 0xA48D1D, 0xA49015, 0xA4C71D, 0xA4D004,
  0xA4F803, 0xA4FE11, 0xA50004, 0xA60C03, 0xA60D11, 0xA61004, 0xA62008, 0xA62A04, 0xA62C1D, 0xA64000, 0xA64101,
  0xA64200, 0xA64301, 0xA64400, 0xA64501, 0xA64600, 0xA64701, 0xA64800, 0xA64901, 0xA64A00, 0xA64B01, 0xA64C00,
  0xA64D01, 0xA64E00, 0xA64F01, 0xA65000, 0xA65101, 0xA65200, 0xA65301, 0xA65400, 0xA65501, 0xA65600, 0xA65701,
  0xA65800, 0xA65901, 0xA65A00, 0xA65B01, 0xA65C00, 0xA65D01, 0xA65E00, 0xA65F01, 0xA66000, 0xA66101, 0xA66200,
  0xA66301, 0xA66400, 0xA66501, 0xA66600, 0xA66701, 0xA66800, 0xA66901, 0xA66A00, 0xA66B01, 0xA66C00, 0xA66D01,
  0xA66E04, 0xA66F05, 0xA67007, 0xA67311, 0xA67405, 0xA67E11, 0xA67F03, 0xA68000, 0xA68101, 0xA68200, 0xA68301,
  0xA68400, 0xA68501, 0xA68600, 0xA68701, 0xA68800, 0xA68901, 0xA68A00, 0xA68B01, 0xA68C00, 0xA68D01, 0xA68E00,
  0xA68F01, 0xA69000, 0xA69101, 0xA69200, 0xA69301, 0xA69400, 0xA69501, 0xA69600, 0xA69701, 0xA69800, 0xA69901,
  0xA69A00, 0xA69B01, 0xA69C03, 0xA69E05, 0xA6A004, 0xA6E609, 0xA6F005, 0xA6F211, 0xA6F81D, 0xA70014, 0xA71703,
  0xA72014, 0xA72200, 0xA72301, 0xA72400, 0xA72501, 0xA72600, 0xA72701, 0xA72800, 0xA72901, 0xA72A00, 0xA72B01,
  0xA72C00, 0xA72D01, 0xA72E00, 0xA72F01, 0xA73200, 0xA73301, 0xA73400, 0xA73501, 0xA73600, 0xA73701, 0xA73800,
  0xA73901, 0xA73A00, 0xA73B01, 0xA73C00, 0xA73D01, 0xA73E00, 0xA73F01, 0xA74000, 0xA74101, 0xA74200, 0xA74301,
  0xA74400, 0xA74501, 0xA74600, 0xA74701, 0xA74800, 0xA74901, 0xA74A00, 0xA74B01, 0xA74C00, 0xA74D01, 0xA74E00,
  0xA74F01, 0xA75000, 0xA75101, 0xA75200, 0xA75301, 0xA75400, 0xA75501, 0xA75600, 0xA75701, 0xA75800, 0xA75901,
  0xA75A00, 0xA75B01, 0xA75C00, 0xA75D01, 0xA75E00, 0xA75F01, 0xA76000, 0xA76101, 0xA76200, 0xA76301, 0xA76400,
  0xA76501, 0xA76600, 0xA76701, 0xA76800, 0xA76901, 0xA76A00, 0xA76B01, 0xA76C00, 0xA76D01, 0xA76E00, 0xA76F01,
  0xA77003, 0xA77101, 0xA77900, 0xA77A01, 0xA77B00, 0xA77C01, 0xA77D00, 0xA77F01, 0xA78000, 0xA78101, 0xA78200,
  0xA78301, 0xA78400, 0xA78501, 0xA78600, 0xA78701, 0xA78803, 0xA78914, 0xA78B00, 0xA78C01, 0xA78D00, 0xA78E01,
  0xA78F04, 0xA79000, 0xA79101, 0xA79200, 0xA79301, 0xA79600, 0xA79701, 0xA79800, 0xA79901, 0xA79A00, 0xA79B01,
  0xA79C00, 0xA79D01, 0xA79E00, 0xA79F01, 0xA7A000, 0xA7A101, 0xA7A200, 0xA7A301, 0xA7A400, 0xA7A501, 0xA7A600,
  0xA7A701, 0xA7A800, 0xA7A901, 0xA7AA00, 0xA7AF01, 0xA7B000, 0xA7B501, 0xA7B600, 0xA7B701, 0xA7B800, 0xA7B901,
  0xA7BA00, 0xA7BB01, 0xA7BC00, 0xA7BD01, 0xA7BE00, 0xA7BF01, 0xA7C000, 0xA7C101, 0xA7C200, 0xA7C301, 0xA7C400,
  0xA7C801, 0xA7C900, 0xA7CA01, 0xA7CB00, 0xA7CD01, 0xA7CE00, 0xA7CF01, 0xA7D000, 0xA7D101, 0xA7D200, 0xA7D301,
  0xA7D400, 0xA7D501, 0xA7D600, 0xA7D701, 0xA7D800, 0xA7D901, 0xA7DA00, 0xA7DB01, 0xA7DC00, 0xA7DD1D, 0xA7F103,
  0xA7F500, 0xA7F601, 0xA7F704, 0xA7F803, 0xA7FA01, 0xA7FB04, 0xA80205, 0xA80304, 0xA80605, 0xA80704, 0xA80B05,
  0xA80C04, 0xA82306, 0xA82505, 0xA82706, 0xA82815, 0xA82C05, 0xA82D1D, 0xA8300A, 0xA83615, 0xA83813, 0xA83915,
  0xA83A1D, 0xA84004, 0xA87411, 0xA8781D, 0xA88006, 0xA88204, 0xA8B406, 0xA8C405, 0xA8C61D, 0xA8CE11, 0xA8D008,
  0xA8DA1D, 0xA8E005, 0xA8F204, 0xA8F811, 0xA8FB04, 0xA8FC11, 0xA8FD04, 0xA8FF05, 0xA90008, 0xA90A04, 0xA92605,
  0xA92E11, 0xA93004, 0xA94705, 0xA95206, 0xA9541D, 0xA95F11, 0xA96004, 0xA97D1D, 0xA98005, 0xA98306, 0xA98404,
  0xA9B305, 0xA9B406, 0xA9B605, 0xA9BA06, 0xA9BC05, 0xA9BE06, 0xA9C111, 0xA9CE1D, 0xA9CF03, 0xA9D008, 0xA9DA1D,
  0xA9DE11, 0xA9E004, 0xA9E505, 0xA9E603, 0xA9E704, 0xA9F008, 0xA9FA04, 0xA9FF1D, 0xAA0004, 0xAA2905, 0xAA2F06,
  0xAA3105, 0xAA3306, 0xAA3505, 0xAA371D, 0xAA4004, 0xAA4305, 0xAA4404, 0xAA4C05, 0xAA4D06, 0xAA4E1D, 0xAA5008,
  0xAA5A1D, 0xAA5C11, 0xAA6004, 0xAA7003, 0xAA7104, 0xAA7715, 0xAA7A04, 0xAA7B06, 0xAA7C05, 0xAA7D06, 0xAA7E04,
  0xAAB005, 0xAAB104, 0xAAB205, 0xAAB504, 0xAAB705, 0xAAB904, 0xAABE05, 0xAAC004, 0xAAC105, 0xAAC204, 0xAAC31D,
  0xAADB04, 0xAADD03, 0xAADE11, 0xAAE004, 0xAAEB06, 0xAAEC05, 0xAAEE06, 0xAAF011, 0xAAF204, 0xAAF303, 0xAAF506,
  0xAAF605, 0xAAF71D, 0xAB0104, 0xAB071D, 0xAB0904, 0xAB0F1D, 0xAB1104, 0xAB171D, 0xAB2004, 0xAB271D, 0xAB2804,
  0xAB2F1D, 0xAB3001, 0xAB5B14, 0xAB5C03, 0xAB6001, 0xAB6903, 0xAB6A14, 0xAB6C1D, 0xAB7001, 0xABC004, 0xABE306,
  0xABE505, 0xABE606, 0xABE805, 0xABE906, 0xABEB11, 0xABEC06, 0xABED05, 0xABEE1D, 0xABF008, 0xABFA1D, 0xAC0004,
  0xD7A41D, 0xD7B004, 0xD7C71D, 0xD7CB04, 0xD7FC1D, 0xD8001B, 0xE0001C, 0xF90004, 0xFA6E1D, 0xFA7004, 0xFADA1D,
  0xFB0001, 0xFB071D, 0xFB1301, 0xFB181D, 0xFB1D04, 0xFB1E05, 0xFB1F04, 0xFB2912, 0xFB2A04, 0xFB371D, 0xFB3804,
  0xFB3D1D, 0xFB3E04, 0xFB3F1D, 0xFB4004, 0xFB421D, 0xFB4304, 0xFB451D, 0xFB4604, 0xFBB214, 0xFBC315, 0xFBD304,
  0xFD3E0E, 0xFD3F0D, 0xFD4015, 0xFD5004, 0xFD9015, 0xFD9204, 0xFDC815, 0xFDD01D, 0xFDF004, 0xFDFC13, 0xFDFD15,
  0xFE0005, 0xFE1011, 0xFE170D, 0xFE180E, 0xFE1911, 0xFE1A1D, 0xFE2005, 0xFE3011, 0xFE310C, 0xFE330B, 0xFE350D,
  0xFE360E, 0xFE370D, 0xFE380E, 0xFE390D, 0xFE3A0E, 0xFE3B0D, 0xFE3C0E, 0xFE3D0D, 0xFE3E0E, 0xFE3F0D, 0xFE400E,
  0xFE410D, 0xFE420E, 0xFE430D, 0xFE440E, 0xFE4511, 0xFE470D, 0xFE480E, 0xFE4911, 0xFE4D0B, 0xFE5011, 0xFE531D,
  0xFE5411, 0xFE580C, 0xFE590D, 0xFE5A0E, 0xFE5B0D, 0xFE5C0E, 0xFE5D0D, 0xFE5E0E, 0xFE5F11, 0xFE6212, 0xFE630C,
  0xFE6412, 0xFE671D, 0xFE6811, 0xFE6913, 0xFE6A11, 0xFE6C1D, 0xFE7004, 0xFE751D, 0xFE7604, 0xFEFD1D, 0xFEFF1A,
  0xFF001D, 0xFF0111, 0xFF0413, 0xFF0511, 0xFF080D, 0xFF090E, 0xFF0A11, 0xFF0B12, 0xFF0C11, 0xFF0D0C, 0xFF0E11,
  0xFF1008, 0xFF1A11, 0xFF1C12, 0xFF1F11, 0xFF2100, 0xFF3B0D, 0xFF3C11, 0xFF3D0E, 0xFF3E14, 0xFF3F0B, 0xFF4014,
  0xFF4101, 0xFF5B0D, 0xFF5C12, 0xFF5D0E, 0xFF5E12, 0xFF5F0D, 0xFF600E, 0xFF6111, 0xFF620D, 0xFF630E, 0xFF6411,
  0xFF6604, 0xFF7003, 0xFF7104, 0xFF9E03, 0xFFA004, 0xFFBF1D, 0xFFC204, 0xFFC81D, 0xFFCA04, 0xFFD01D, 0xFFD204,
  0xFFD81D, 0xFFDA04, 0xFFDD1D, 0xFFE013, 0xFFE212, 0xFFE314, 0xFFE415, 0xFFE513, 0xFFE71D, 0xFFE815, 0xFFE912,
  0xFFED15, 0xFFEF1D, 0xFFF91A, 0xFFFC15, 0xFFFE1D, 0x1000004, 0x1000C1D, 0x1000D04, 0x100271D, 0x1002804, 0x1003B1D,
  0x1003C04, 0x1003E1D, 0x1003F04, 0x1004E1D, 0x1005004, 0x1005E1D, 0x1008004, 0x100FB1D, 0x1010011, 0x101031D, 0x101070A,
  0x101341D, 0x1013715, 0x1014009, 0x101750A, 0x1017915, 0x1018A0A, 0x1018C15, 0x1018F1D, 0x1019015, 0x1019D1D, 0x101A015,
  0x101A11D, 0x101D015, 0x101FD05, 0x101FE1D, 0x1028004, 0x1029D1D, 0x102A004, 0x102D11D, 0x102E005, 0x102E10A, 0x102FC1D,
  0x1030004, 0x103200A, 0x103241D, 0x1032D04, 0x1034109, 0x1034204, 0x1034A09, 0x1034B1D, 0x1035004, 0x1037605, 0x1037B1D,
  0x1038004, 0x1039E1D, 0x1039F11, 0x103A004, 0x103C41D, 0x103C804, 0x103D011, 0x103D109, 0x103D61D, 0x1040000, 0x1042801,
  0x1045004, 0x1049E1D, 0x104A008, 0x104AA1D, 0x104B000, 0x104D41D, 0x104D801, 0x104FC1D, 0x1050004, 0x105281D, 0x1053004,
  0x105641D, 0x1056F11, 0x1057000, 0x1057B1D, 0x1057C00, 0x1058B1D, 0x1058C00, 0x105931D, 0x1059400, 0x105961D, 0x1059701,
  0x105A21D, 0x105A301, 0x105B21D, 0x105B301, 0x105BA1D, 0x105BB01, 0x105BD1D, 0x105C004, 0x105F41D, 0x1060004, 0x107371D,
  0x1074004, 0x107561D, 0x1076004, 0x107681D, 0x1078003, 0x107861D, 0x1078703, 0x107B11D, 0x107B203, 0x107BB1D, 0x1080004,
  0x108061D, 0x1080804, 0x108091D, 0x1080A04, 0x108361D, 0x1083704, 0x108391D, 0x1083C04, 0x1083D1D, 0x1083F04, 0x108561D,
  0x1085711, 0x108580A, 0x1086004, 0x1087715, 0x108790A, 0x1088004, 0x1089F1D, 0x108A70A, 0x108B01D, 0x108E004, 0x108F31D,
  0x108F404, 0x108F61D, 0x108FB0A, 0x1090004, 0x109160A, 0x1091C1D, 0x1091F11, 0x1092004, 0x1093A1D, 0x1093F11, 0x1094004,
  0x1095A1D, 0x1098004, 0x109B81D, 0x109BC0A, 0x109BE04, 0x109C00A, 0x109D01D, 0x109D20A, 0x10A0004, 0x10A0105, 0x10A041D,
  0x10A0505, 0x10A071D, 0x10A0C05, 0x10A1004, 0x10A141D, 0x10A1504, 0x10A181D, 0x10A1904, 0x10A361D, 0x10A3805, 0x10A3B1D,
  0x10A3F05, 0x10A400A, 0x10A491D, 0x10A5011, 0x10A591D, 0x10A6004, 0x10A7D0A, 0x10A7F11, 0x10A8004, 0x10A9D0A, 0x10AA01D,
  0x10AC004, 0x10AC815, 0x10AC904, 0x10AE505, 0x10AE71D, 0x10AEB0A, 0x10AF011, 0x10AF71D, 0x10B0004, 0x10B361D, 0x10B3911,
  0x10B4004, 0x10B561D, 0x10B580A, 0x10B6004, 0x10B731D, 0x10B780A, 0x10B8004, 0x10B921D, 0x10B9911, 0x10B9D1D, 0x10BA90A,
  0x10BB01D, 0x10C0004, 0x10C491D, 0x10C8000, 0x10CB31D, 0x10CC001, 0x10CF31D, 0x10CFA0A, 0x10D0004, 0x10D2405, 0x10D281D,
  0x10D3008, 0x10D3A1D, 0x10D4008, 0x10D4A04, 0x10D4E03, 0x10D4F04, 0x10D5000, 0x10D661D, 0x10D6905, 0x10D6E0C, 0x10D6F03,
  0x10D7001, 0x10D861D, 0x10D8E12, 0x10D901D, 0x10E600A, 0x10E7F1D, 0x10E8004, 0x10EAA1D, 0x10EAB05, 0x10EAD0C, 0x10EAE1D,
  0x10EB004, 0x10EB21D, 0x10EC204, 0x10EC503, 0x10EC604, 0x10EC81D, 0x10ED011, 0x10ED115, 0x10ED91D, 0x10EFA05, 0x10F0004,
  0x10F1D0A, 0x10F2704, 0x10F281D, 0x10F3004, 0x10F4605, 0x10F510A, 0x10F5511, 0x10F5A1D, 0x10F7004, 0x10F8205, 0x10F8611,
  0x10F8A1D, 0x10FB004, 0x10FC50A, 0x10FCC1D, 0x10FE004, 0x10FF71D, 0x1100006, 0x1100105, 0x1100206, 0x1100304, 0x1103805,
  0x1104711, 0x1104E1D, 0x110520A, 0x1106608, 0x1107005, 0x1107104, 0x1107305, 0x1107504, 0x110761D, 0x1107F05, 0x1108206,
  0x1108304, 0x110B006, 0x110B305, 0x110B706, 0x110B905, 0x110BB11, 0x110BD1A, 0x110BE11, 0x110C205, 0x110C31D, 0x110CD1A,
  0x110CE1D, 0x110D004, 0x110E91D, 0x110F008, 0x110FA1D, 0x1110005, 0x1110304, 0x1112705, 0x1112C06, 0x1112D05, 0x111351D,
  0x1113608, 0x1114011, 0x1114404, 0x1114506, 0x1114704, 0x111481D, 0x1115004, 0x1117305, 0x1117411, 0x1117604, 0x111771D,
  0x1118005, 0x1118206, 0x1118304, 0x111B306, 0x111B605, 0x111BF06, 0x111C104, 0x111C511, 0x111C905, 0x111CD11, 0x111CE06,
  0x111CF05, 0x111D008, 0x111DA04, 0x111DB11, 0x111DC04, 0x111DD11, 0x111E01D, 0x111E10A, 0x111F51D, 0x1120004, 0x112121D,
  0x1121304, 0x1122C06, 0x1122F05, 0x1123206, 0x1123405, 0x1123506, 0x1123605, 0x1123811, 0x1123E05, 0x1123F04, 0x1124105,
  0x112421D, 0x1128004, 0x112871D, 0x1128804, 0x112891D, 0x1128A04, 0x1128E1D, 0x1128F04, 0x1129E1D, 0x1129F04, 0x112A911,
  0x112AA1D, 0x112B004, 0x112DF05, 0x112E006, 0x112E305, 0x112EB1D, 0x112F008, 0x112FA1D, 0x1130005, 0x1130206, 0x113041D,
  0x1130504, 0x1130D1D, 0x1130F04, 0x113111D, 0x1131304, 0x113291D, 0x1132A04, 0x113311D, 0x1133204, 0x113341D, 0x1133504,
  0x1133A1D, 0x1133B05, 0x1133D04, 0x1133E06, 0x1134005, 0x1134106, 0x113451D, 0x1134706, 0x113491D, 0x1134B06, 0x1134E1D,
  0x1135004, 0x113511D, 0x1135706, 0x113581D, 0x1135D04, 0x1136206, 0x113641D, 0x1136605, 0x1136D1D, 0x1137005, 0x113751D,
  0x1138004, 0x1138A1D, 0x1138B04, 0x1138C1D, 0x1138E04, 0x1138F1D, 0x1139004, 0x113B61D, 0x113B704, 0x113B806, 0x113BB05,
  0x113C11D, 0x113C206, 0x113C31D, 0x113C506, 0x113C61D, 0x113C706, 0x113CB1D, 0x113CC06, 0x113CE05, 0x113CF06, 0x113D005,
  0x113D104, 0x113D205, 0x113D304, 0x113D411, 0x113D61D, 0x113D711, 0x113D91D, 0x113E105, 0x113E31D, 0x1140004, 0x1143506,
  0x1143805, 0x1144006, 0x1144205, 0x1144506, 0x1144605, 0x1144704, 0x1144B11, 0x1145008, 0x1145A11, 0x1145C1D, 0x1145D11,
  0x1145E05, 0x1145F04, 0x114621D, 0x1148004, 0x114B006, 0x114B305, 0x114B906, 0x114BA05, 0x114BB06, 0x114BF05, 0x114C106,
  0x114C205, 0x114C404, 0x114C611, 0x114C704, 0x114C81D, 0x114D008, 0x114DA1D, 0x1158004, 0x115AF06, 0x115B205, 0x115B61D,
  0x115B806, 0x115BC05, 0x115BE06, 0x115BF05, 0x115C111, 0x115D804, 0x115DC05, 0x115DE1D, 0x1160004, 0x1163006, 0x1163305,
  0x1163B06, 0x1163D05, 0x1163E06, 0x1163F05, 0x1164111, 0x1164404, 0x116451D, 0x1165008, 0x1165A1D, 0x1166011, 0x1166D1D,
  0x1168004, 0x116AB05, 0x116AC06, 0x116AD05, 0x116AE06, 0x116B005, 0x116B606, 0x116B705, 0x116B804, 0x116B911, 0x116BA1D,
  0x116C008, 0x116CA1D, 0x116D008, 0x116E41D, 0x1170004, 0x1171B1D, 0x1171D05, 0x1171E06, 0x1171F05, 0x1172006, 0x1172205,
  0x1172606, 0x1172705, 0x1172C1D, 0x1173008, 0x1173A0A, 0x1173C11, 0x1173F15, 0x1174004, 0x117471D, 0x1180004, 0x1182C06,
  0x1182F05, 0x1183806, 0x1183905, 0x1183B11, 0x1183C1D, 0x118A000, 0x118C001, 0x118E008, 0x118EA0A, 0x118F31D, 0x118FF04,
  0x119071D, 0x1190904, 0x1190A1D, 0x1190C04, 0x119141D, 0x1191504, 0x119171D, 0x1191804, 0x1193006, 0x119361D, 0x1193706,
  0x119391D, 0x1193B05, 0x1193D06, 0x1193E05, 0x1193F04, 0x1194006, 0x1194104, 0x1194206, 0x1194305, 0x1194411, 0x119471D,
  0x1195008, 0x1195A1D, 0x119A004, 0x119A81D, 0x119AA04, 0x119D106, 0x119D405, 0x119D81D, 0x119DA05, 0x119DC06, 0x119E005,
  0x119E104, 0x119E211, 0x119E304, 0x119E406, 0x119E51D, 0x11A0004, 0x11A0105, 0x11A0B04, 0x11A3305, 0x11A3906, 0x11A3A04,
  0x11A3B05, 0x11A3F11, 0x11A4705, 0x11A481D, 0x11A5004, 0x11A5105, 0x11A5706, 0x11A5905, 0x11A5C04, 0x11A8A05, 0x11A9706,
  0x11A9805, 0x11A9A11, 0x11A9D04, 0x11A9E11, 0x11AA31D, 0x11AB004, 0x11AF91D, 0x11B0011, 0x11B0A1D, 0x11B6005, 0x11B6106,
  0x11B6205, 0x11B6506, 0x11B6605, 0x11B6706, 0x11B681D, 0x11BC004, 0x11BE111, 0x11BE21D, 0x11BF008, 0x11BFA1D, 0x11C0004,
  0x11C091D, 0x11C0A04, 0x11C2F06, 0x11C3005, 0x11C371D, 0x11C3805, 0x11C3E06, 0x11C3F05, 0x11C4004, 0x11C4111, 0x11C461D,
  0x11C5008, 0x11C5A0A, 0x11C6D1D, 0x11C7011, 0x11C7204, 0x11C901D, 0x11C9205, 0x11CA81D, 0x11CA906, 0x11CAA05, 0x11CB106,
  0x11CB205, 0x11CB406, 0x11CB505, 0x11CB71D, 0x11D0004, 0x11D071D, 0x11D0804, 0x11D0A1D, 0x11D0B04, 0x11D3105, 0x11D371D,
  0x11D3A05, 0x11D3B1D, 0x11D3C05, 0x11D3E1D, 0x11D3F05, 0x11D4604, 0x11D4705, 0x11D481D, 0x11D5008, 0x11D5A1D, 0x11D6004,
  0x11D661D, 0x11D6704, 0x11D691D, 0x11D6A04, 0x11D8A06, 0x11D8F1D, 0x11D9005, 0x11D921D, 0x11D9306, 0x11D9505, 0x11D9606,
  0x11D9705, 0x11D9804, 0x11D991D, 0x11DA008, 0x11DAA1D, 0x11DB004, 0x11DD903, 0x11DDA04, 0x11DDC1D, 0x11DE008, 0x11DEA1D,
  0x11EE004, 0x11EF305, 0x11EF506, 0x11EF711, 0x11EF91D, 0x11F0005, 0x11F0204, 0x11F0306, 0x11F0404, 0x11F111D, 0x11F1204,
  0x11F3406, 0x11F3605, 0x11F3B1D, 0x11F3E06, 0x11F4005, 0x11F4106, 0x11F4205, 0x11F4311, 0x11F5008, 0x11F5A05, 0x11F5B1D,
  0x11FB004, 0x11FB11D, 0x11FC00A, 0x11FD515, 0x11FDD13, 0x11FE115, 0x11FF21D, 0x11FFF11, 0x1200004, 0x1239A1D, 0x1240009,
  0x1246F1D, 0x1247011, 0x124751D, 0x1248004, 0x125441D, 0x12F9004, 0x12FF111, 0x12FF31D, 0x1300004, 0x134301A, 0x1344005,
  0x1344104, 0x1344705, 0x134561D, 0x1346004, 0x143FB1D, 0x1440004, 0x146471D, 0x1610004, 0x1611E05, 0x1612A06, 0x1612D05,
  0x1613008, 0x1613A1D, 0x1680004, 0x16A391D, 0x16A4004, 0x16A5F1D, 0x16A6008, 0x16A6A1D, 0x16A6E11, 0x16A7004, 0x16ABF1D,
  0x16AC008, 0x16ACA1D, 0x16AD004, 0x16AEE1D, 0x16AF005, 0x16AF511, 0x16AF61D, 0x16B0004, 0x16B3005, 0x16B3711, 0x16B3C15,
  0x16B4003, 0x16B4411, 0x16B4515, 0x16B461D, 0x16B5008, 0x16B5A1D, 0x16B5B0A, 0x16B621D, 0x16B6304, 0x16B781D, 0x16B7D04,
  0x16B901D, 0x16D4003, 0x16D4304, 0x16D6B03, 0x16D6D11, 0x16D7008, 0x16D7A1D, 0x16E4000, 0x16E6001, 0x16E800A, 0x16E9711,
  0x16E9B1D, 0x16EA000, 0x16EB91D, 0x16EBB01, 0x16ED41D, 0x16F0004, 0x16F4B1D, 0x16F4F05, 0x16F5004, 0x16F5106, 0x16F881D,
  0x16F8F05, 0x16F9303, 0x16FA01D, 0x16FE003, 0x16FE211, 0x16FE303, 0x16FE405, 0x16FE51D, 0x16FF006, 0x16FF203, 0x16FF409,
  0x16FF71D, 0x1700004, 0x18CD61D, 0x18CFF04, 0x18D1F1D, 0x18D8004, 0x18DF31D, 0x1AFF003, 0x1AFF41D, 0x1AFF503, 0x1AFFC1D,
  0x1AFFD03, 0x1AFFF1D, 0x1B00004, 0x1B1231D, 0x1B13204, 0x1B1331D, 0x1B15004, 0x1B1531D, 0x1B15504, 0x1B1561D, 0x1B16404,
  0x1B1681D, 0x1B17004, 0x1B2FC1D, 0x1BC0004, 0x1BC6B1D, 0x1BC7004, 0x1BC7D1D, 0x1BC8004, 0x1BC891D, 0x1BC9004, 0x1BC9A1D,
  0x1BC9C15, 0x1BC9D05, 0x1BC9F11, 0x1BCA01A, 0x1BCA41D, 0x1CC0015, 0x1CCF008, 0x1CCFA15, 0x1CCFD1D, 0x1CD0015, 0x1CEB41D,
  0x1CEBA15, 0x1CED11D, 0x1CEE015, 0x1CEF012, 0x1CEF11D, 0x1CF0005, 0x1CF2E1D, 0x1CF3005, 0x1CF471D, 0x1CF5015, 0x1CFC41D,
  0x1D00015, 0x1D0F61D, 0x1D10015, 0x1D1271D, 0x1D12915, 0x1D16506, 0x1D16705, 0x1D16A15, 0x1D16D06, 0x1D1731A, 0x1D17B05,
  0x1D18315, 0x1D18505, 0x1D18C15, 0x1D1AA05, 0x1D1AE15, 0x1D1EB1D, 0x1D20015, 0x1D24205, 0x1D24515, 0x1D2461D, 0x1D2C00A,
  0x1D2D41D, 0x1D2E00A, 0x1D2F41D, 0x1D30015, 0x1D3571D, 0x1D3600A, 0x1D3791D, 0x1D40000, 0x1D41A01, 0x1D43400, 0x1D44E01,
  0x1D4551D, 0x1D45601, 0x1D46800, 0x1D48201, 0x1D49C00, 0x1D49D1D, 0x1D49E00, 0x1D4A01D, 0x1D4A200, 0x1D4A31D, 0x1D4A500,
  0x1D4A71D, 0x1D4A900, 0x1D4AD1D, 0x1D4AE00, 0x1D4B601, 0x1D4BA1D, 0x1D4BB01, 0x1D4BC1D, 0x1D4BD01, 0x1D4C41D, 0x1D4C501,
  0x1D4D000, 0x1D4EA01, 0x1D50400, 0x1D5061D, 0x1D50700, 0x1D50B1D, 0x1D50D00, 0x1D5151D, 0x1D51600, 0x1D51D1D, 0x1D51E01,
  0x1D53800, 0x1D53A1D, 0x1D53B00, 0x1D53F1D, 0x1D54000, 0x1D5451D, 0x1D54600, 0x1D5471D, 0x1D54A00, 0x1D5511D, 0x1D55201,
  0x1D56C00, 0x1D58601, 0x1D5A000, 0x1D5BA01, 0x1D5D400, 0x1D5EE01, 0x1D60800, 0x1D62201, 0x1D63C00, 0x1D65601, 0x1D67000,
  0x1D68A01, 0x1D6A61D, 0x1D6A800, 0x1D6C112, 0x1D6C201, 0x1D6DB12, 0x1D6DC01, 0x1D6E200, 0x1D6FB12, 0x1D6FC01, 0x1D71512,
  0x1D71601, 0x1D71C00, 0x1D73512, 0x1D73601, 0x1D74F12, 0x1D75001, 0x1D75600, 0x1D76F12, 0x1D77001, 0x1D78912, 0x1D78A01,
  0x1D79000, 0x1D7A912, 0x1D7AA01, 0x1D7C312, 0x1D7C401, 0x1D7CA00, 0x1D7CB01, 0x1D7CC1D, 0x1D7CE08, 0x1D80015, 0x1DA0005,
  0x1DA3715, 0x1DA3B05, 0x1DA6D15, 0x1DA7505, 0x1DA7615, 0x1DA8405, 0x1DA8515, 0x1DA8711, 0x1DA8C1D, 0x1DA9B05, 0x1DAA01D,
  0x1DAA105, 0x1DAB01D, 0x1DF0001, 0x1DF0A04, 0x1DF0B01, 0x1DF1F1D, 0x1DF2501, 0x1DF2B1D, 0x1E00005, 0x1E0071D, 0x1E00805,
  0x1E0191D, 0x1E01B05, 0x1E0221D, 0x1E02305, 0x1E0251D, 0x1E02605, 0x1E02B1D, 0x1E03003, 0x1E06E1D, 0x1E08F05, 0x1E0901D,
  0x1E10004, 0x1E12D1D, 0x1E13005, 0x1E13703, 0x1E13E1D, 0x1E14008, 0x1E14A1D, 0x1E14E04, 0x1E14F15, 0x1E1501D, 0x1E29004,
  0x1E2AE05, 0x1E2AF1D, 0x1E2C004, 0x1E2EC05, 0x1E2F008, 0x1E2FA1D, 0x1E2FF13, 0x1E3001D, 0x1E4D004, 0x1E4EB03, 0x1E4EC05,
  0x1E4F008, 0x1E4FA1D, 0x1E5D004, 0x1E5EE05, 0x1E5F004, 0x1E5F108, 0x1E5FB1D, 0x1E5FF11, 0x1E6001D, 0x1E6C004, 0x1E6DF1D,
  0x1E6E004, 0x1E6E305, 0x1E6E404, 0x1E6E605, 0x1E6E704, 0x1E6EE05, 0x1E6F004, 0x1E6F505, 0x1E6F61D, 0x1E6FE04, 0x1E6FF03,
  0x1E7001D, 0x1E7E004, 0x1E7E71D, 0x1E7E804, 0x1E7EC1D, 0x1E7ED04, 0x1E7EF1D, 0x1E7F004, 0x1E7FF1D, 0x1E80004, 0x1E8C51D,
  0x1E8C70A, 0x1E8D005, 0x1E8D71D, 0x1E90000, 0x1E92201, 0x1E94405, 0x1E94B03, 0x1E94C1D, 0x1E95008, 0x1E95A1D, 0x1E95E11,
  0x1E9601D, 0x1EC710A, 0x1ECAC15, 0x1ECAD0A, 0x1ECB013, 0x1ECB10A, 0x1ECB51D, 0x1ED010A, 0x1ED2E15, 0x1ED2F0A, 0x1ED3E1D,
  0x1EE0004, 0x1EE041D, 0x1EE0504, 0x1EE201D, 0x1EE2104, 0x1EE231D, 0x1EE2404, 0x1EE251D, 0x1EE2704, 0x1EE281D, 0x1EE2904,
  0x1EE331D, 0x1EE3404, 0x1EE381D, 0x1EE3904, 0x1EE3A1D, 0x1EE3B04, 0x1EE3C1D, 0x1EE4204, 0x1EE431D, 0x1EE4704, 0x1EE481D,
  0x1EE4904, 0x1EE4A1D, 0x1EE4B04, 0x1EE4C1D, 0x1EE4D04, 0x1EE501D, 0x1EE5104, 0x1EE531D, 0x1EE5404, 0x1EE551D, 0x1EE5704,
  0x1EE581D, 0x1EE5904, 0x1EE5A1D, 0x1EE5B04, 0x1EE5C1D, 0x1EE5D04, 0x1EE5E1D, 0x1EE5F04, 0x1EE601D, 0x1EE6104, 0x1EE631D,
  0x1EE6404, 0x1EE651D, 0x1EE6704, 0x1EE6B1D, 0x1EE6C04, 0x1EE731D, 0x1EE7404, 0x1EE781D, 0x1EE7904, 0x1EE7D1D, 0x1EE7E04,
  0x1EE7F1D, 0x1EE8004, 0x1EE8A1D, 0x1EE8B04, 0x1EE9C1D, 0x1EEA104, 0x1EEA41D, 0x1EEA504, 0x1EEAA1D, 0x1EEAB04, 0x1EEBC1D,
  0x1EEF012, 0x1EEF21D, 0x1F00015, 0x1F02C1D, 0x1F03015, 0x1F0941D, 0x1F0A015, 0x1F0AF1D, 0x1F0B115, 0x1F0C01D, 0x1F0C115,
  0x1F0D01D, 0x1F0D115, 0x1F0F61D, 0x1F1000A, 0x1F10D15, 0x1F1AE1D, 0x1F1E615, 0x1F2031D, 0x1F21015, 0x1F23C1D, 0x1F24015,
  0x1F2491D, 0x1F25015, 0x1F2521D, 0x1F26015, 0x1F2661D, 0x1F30015, 0x1F3FB14, 0x1F40015, 0x1F6D91D, 0x1F6DC15, 0x1F6ED1D,
  0x1F6F015, 0x1F6FD1D, 0x1F70015, 0x1F7DA1D, 0x1F7E015, 0x1F7EC1D, 0x1F7F015, 0x1F7F11D, 0x1F80015, 0x1F80C1D, 0x1F81015,
  0x1F8481D, 0x1F85015, 0x1F85A1D, 0x1F86015, 0x1F8881D, 0x1F89015, 0x1F8AE1D, 0x1F8B015, 0x1F8BC1D, 0x1F8C015, 0x1F8C21D,
  0x1F8D012, 0x1F8D91D, 0x1F90015, 0x1FA581D, 0x1FA6015, 0x1FA6E1D, 0x1FA7015, 0x1FA7D1D, 0x1FA8015, 0x1FA8B1D, 0x1FA8E15,
  0x1FAC71D, 0x1FAC815, 0x1FAC91D, 0x1FACD15, 0x1FADD1D, 0x1FADF15, 0x1FAEB1D, 0x1FAEF15, 0x1FAF91D, 0x1FB0015, 0x1FB931D,
  0x1FB9415, 0x1FBF008, 0x1FBFA15, 0x1FBFB1D, 0x2000004, 0x2A6E01D, 0x2A70004, 0x2B81E1D, 0x2B82004, 0x2CEAE1D, 0x2CEB004,
  0x2EBE11D, 0x2EBF004, 0x2EE5E1D, 0x2F80004, 0x2FA1E1D, 0x3000004, 0x3134B1D, 0x3135004, 0x3347A1D, 0xE00011A, 0xE00021D,
  0xE00201A, 0xE00801D, 0xE010005, 0xE01F01D, 0xF00001C, 0xFFFFE1D, 0x1000001C, 0x10FFFE1D]

end Lexicon.Unicode
