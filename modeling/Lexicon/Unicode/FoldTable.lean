/-! Letters that differ only in case, as cycles. An entry is a code point followed by six
hexadecimal digits, the next code point of its cycle. -/
namespace Lexicon.Unicode

set_option maxRecDepth 20000 in
/-- The successor of each letter that has another case, in increasing order. -/
def foldSuccessors : Array Nat := #[
  0x000041000061, 0x000042000062, 0x000043000063, 0x000044000064, 0x000045000065, 0x000046000066,
  0x000047000067, 0x000048000068, 0x000049000069, 0x00004A00006A, 0x00004B00006B, 0x00004C00006C,
  0x00004D00006D, 0x00004E00006E, 0x00004F00006F, 0x000050000070, 0x000051000071, 0x000052000072,
  0x000053000073, 0x000054000074, 0x000055000075, 0x000056000076, 0x000057000077, 0x000058000078,
  0x000059000079, 0x00005A00007A, 0x000061000041, 0x000062000042, 0x000063000043, 0x000064000044,
  0x000065000045, 0x000066000046, 0x000067000047, 0x000068000048, 0x000069000049, 0x00006A00004A,
  0x00006B00212A, 0x00006C00004C, 0x00006D00004D, 0x00006E00004E, 0x00006F00004F, 0x000070000050,
  0x000071000051, 0x000072000052, 0x00007300017F, 0x000074000054, 0x000075000055, 0x000076000056,
  0x000077000057, 0x000078000058, 0x000079000059, 0x00007A00005A, 0x0000B500039C, 0x0000C00000E0,
  0x0000C10000E1, 0x0000C20000E2, 0x0000C30000E3, 0x0000C40000E4, 0x0000C50000E5, 0x0000C60000E6,
  0x0000C70000E7, 0x0000C80000E8, 0x0000C90000E9, 0x0000CA0000EA, 0x0000CB0000EB, 0x0000CC0000EC,
  0x0000CD0000ED, 0x0000CE0000EE, 0x0000CF0000EF, 0x0000D00000F0, 0x0000D10000F1, 0x0000D20000F2,
  0x0000D30000F3, 0x0000D40000F4, 0x0000D50000F5, 0x0000D60000F6, 0x0000D80000F8, 0x0000D90000F9,
  0x0000DA0000FA, 0x0000DB0000FB, 0x0000DC0000FC, 0x0000DD0000FD, 0x0000DE0000FE, 0x0000DF001E9E,
  0x0000E00000C0, 0x0000E10000C1, 0x0000E20000C2, 0x0000E30000C3, 0x0000E40000C4, 0x0000E500212B,
  0x0000E60000C6, 0x0000E70000C7, 0x0000E80000C8, 0x0000E90000C9, 0x0000EA0000CA, 0x0000EB0000CB,
  0x0000EC0000CC, 0x0000ED0000CD, 0x0000EE0000CE, 0x0000EF0000CF, 0x0000F00000D0, 0x0000F10000D1,
  0x0000F20000D2, 0x0000F30000D3, 0x0000F40000D4, 0x0000F50000D5, 0x0000F60000D6, 0x0000F80000D8,
  0x0000F90000D9, 0x0000FA0000DA, 0x0000FB0000DB, 0x0000FC0000DC, 0x0000FD0000DD, 0x0000FE0000DE,
  0x0000FF000178, 0x000100000101, 0x000101000100, 0x000102000103, 0x000103000102, 0x000104000105,
  0x000105000104, 0x000106000107, 0x000107000106, 0x000108000109, 0x000109000108, 0x00010A00010B,
  0x00010B00010A, 0x00010C00010D, 0x00010D00010C, 0x00010E00010F, 0x00010F00010E, 0x000110000111,
  0x000111000110, 0x000112000113, 0x000113000112, 0x000114000115, 0x000115000114, 0x000116000117,
  0x000117000116, 0x000118000119, 0x000119000118, 0x00011A00011B, 0x00011B00011A, 0x00011C00011D,
  0x00011D00011C, 0x00011E00011F, 0x00011F00011E, 0x000120000121, 0x000121000120, 0x000122000123,
  0x000123000122, 0x000124000125, 0x000125000124, 0x000126000127, 0x000127000126, 0x000128000129,
  0x000129000128, 0x00012A00012B, 0x00012B00012A, 0x00012C00012D, 0x00012D00012C, 0x00012E00012F,
  0x00012F00012E, 0x000132000133, 0x000133000132, 0x000134000135, 0x000135000134, 0x000136000137,
  0x000137000136, 0x00013900013A, 0x00013A000139, 0x00013B00013C, 0x00013C00013B, 0x00013D00013E,
  0x00013E00013D, 0x00013F000140, 0x00014000013F, 0x000141000142, 0x000142000141, 0x000143000144,
  0x000144000143, 0x000145000146, 0x000146000145, 0x000147000148, 0x000148000147, 0x00014A00014B,
  0x00014B00014A, 0x00014C00014D, 0x00014D00014C, 0x00014E00014F, 0x00014F00014E, 0x000150000151,
  0x000151000150, 0x000152000153, 0x000153000152, 0x000154000155, 0x000155000154, 0x000156000157,
  0x000157000156, 0x000158000159, 0x000159000158, 0x00015A00015B, 0x00015B00015A, 0x00015C00015D,
  0x00015D00015C, 0x00015E00015F, 0x00015F00015E, 0x000160000161, 0x000161000160, 0x000162000163,
  0x000163000162, 0x000164000165, 0x000165000164, 0x000166000167, 0x000167000166, 0x000168000169,
  0x000169000168, 0x00016A00016B, 0x00016B00016A, 0x00016C00016D, 0x00016D00016C, 0x00016E00016F,
  0x00016F00016E, 0x000170000171, 0x000171000170, 0x000172000173, 0x000173000172, 0x000174000175,
  0x000175000174, 0x000176000177, 0x000177000176, 0x0001780000FF, 0x00017900017A, 0x00017A000179,
  0x00017B00017C, 0x00017C00017B, 0x00017D00017E, 0x00017E00017D, 0x00017F000053, 0x000180000243,
  0x000181000253, 0x000182000183, 0x000183000182, 0x000184000185, 0x000185000184, 0x000186000254,
  0x000187000188, 0x000188000187, 0x000189000256, 0x00018A000257, 0x00018B00018C, 0x00018C00018B,
  0x00018E0001DD, 0x00018F000259, 0x00019000025B, 0x000191000192, 0x000192000191, 0x000193000260,
  0x000194000263, 0x0001950001F6, 0x000196000269, 0x000197000268, 0x000198000199, 0x000199000198,
  0x00019A00023D, 0x00019B00A7DC, 0x00019C00026F, 0x00019D000272, 0x00019E000220, 0x00019F000275,
  0x0001A00001A1, 0x0001A10001A0, 0x0001A20001A3, 0x0001A30001A2, 0x0001A40001A5, 0x0001A50001A4,
  0x0001A6000280, 0x0001A70001A8, 0x0001A80001A7, 0x0001A9000283, 0x0001AC0001AD, 0x0001AD0001AC,
  0x0001AE000288, 0x0001AF0001B0, 0x0001B00001AF, 0x0001B100028A, 0x0001B200028B, 0x0001B30001B4,
  0x0001B40001B3, 0x0001B50001B6, 0x0001B60001B5, 0x0001B7000292, 0x0001B80001B9, 0x0001B90001B8,
  0x0001BC0001BD, 0x0001BD0001BC, 0x0001BF0001F7, 0x0001C40001C5, 0x0001C50001C6, 0x0001C60001C4,
  0x0001C70001C8, 0x0001C80001C9, 0x0001C90001C7, 0x0001CA0001CB, 0x0001CB0001CC, 0x0001CC0001CA,
  0x0001CD0001CE, 0x0001CE0001CD, 0x0001CF0001D0, 0x0001D00001CF, 0x0001D10001D2, 0x0001D20001D1,
  0x0001D30001D4, 0x0001D40001D3, 0x0001D50001D6, 0x0001D60001D5, 0x0001D70001D8, 0x0001D80001D7,
  0x0001D90001DA, 0x0001DA0001D9, 0x0001DB0001DC, 0x0001DC0001DB, 0x0001DD00018E, 0x0001DE0001DF,
  0x0001DF0001DE, 0x0001E00001E1, 0x0001E10001E0, 0x0001E20001E3, 0x0001E30001E2, 0x0001E40001E5,
  0x0001E50001E4, 0x0001E60001E7, 0x0001E70001E6, 0x0001E80001E9, 0x0001E90001E8, 0x0001EA0001EB,
  0x0001EB0001EA, 0x0001EC0001ED, 0x0001ED0001EC, 0x0001EE0001EF, 0x0001EF0001EE, 0x0001F10001F2,
  0x0001F20001F3, 0x0001F30001F1, 0x0001F40001F5, 0x0001F50001F4, 0x0001F6000195, 0x0001F70001BF,
  0x0001F80001F9, 0x0001F90001F8, 0x0001FA0001FB, 0x0001FB0001FA, 0x0001FC0001FD, 0x0001FD0001FC,
  0x0001FE0001FF, 0x0001FF0001FE, 0x000200000201, 0x000201000200, 0x000202000203, 0x000203000202,
  0x000204000205, 0x000205000204, 0x000206000207, 0x000207000206, 0x000208000209, 0x000209000208,
  0x00020A00020B, 0x00020B00020A, 0x00020C00020D, 0x00020D00020C, 0x00020E00020F, 0x00020F00020E,
  0x000210000211, 0x000211000210, 0x000212000213, 0x000213000212, 0x000214000215, 0x000215000214,
  0x000216000217, 0x000217000216, 0x000218000219, 0x000219000218, 0x00021A00021B, 0x00021B00021A,
  0x00021C00021D, 0x00021D00021C, 0x00021E00021F, 0x00021F00021E, 0x00022000019E, 0x000222000223,
  0x000223000222, 0x000224000225, 0x000225000224, 0x000226000227, 0x000227000226, 0x000228000229,
  0x000229000228, 0x00022A00022B, 0x00022B00022A, 0x00022C00022D, 0x00022D00022C, 0x00022E00022F,
  0x00022F00022E, 0x000230000231, 0x000231000230, 0x000232000233, 0x000233000232, 0x00023A002C65,
  0x00023B00023C, 0x00023C00023B, 0x00023D00019A, 0x00023E002C66, 0x00023F002C7E, 0x000240002C7F,
  0x000241000242, 0x000242000241, 0x000243000180, 0x000244000289, 0x00024500028C, 0x000246000247,
  0x000247000246, 0x000248000249, 0x000249000248, 0x00024A00024B, 0x00024B00024A, 0x00024C00024D,
  0x00024D00024C, 0x00024E00024F, 0x00024F00024E, 0x000250002C6F, 0x000251002C6D, 0x000252002C70,
  0x000253000181, 0x000254000186, 0x000256000189, 0x00025700018A, 0x00025900018F, 0x00025B000190,
  0x00025C00A7AB, 0x000260000193, 0x00026100A7AC, 0x000263000194, 0x00026400A7CB, 0x00026500A78D,
  0x00026600A7AA, 0x000268000197, 0x000269000196, 0x00026A00A7AE, 0x00026B002C62, 0x00026C00A7AD,
  0x00026F00019C, 0x000271002C6E, 0x00027200019D, 0x00027500019F, 0x00027D002C64, 0x0002800001A6,
  0x00028200A7C5, 0x0002830001A9, 0x00028700A7B1, 0x0002880001AE, 0x000289000244, 0x00028A0001B1,
  0x00028B0001B2, 0x00028C000245, 0x0002920001B7, 0x00029D00A7B2, 0x00029E00A7B0, 0x000345000399,
  0x000370000371, 0x000371000370, 0x000372000373, 0x000373000372, 0x000376000377, 0x000377000376,
  0x00037B0003FD, 0x00037C0003FE, 0x00037D0003FF, 0x00037F0003F3, 0x0003860003AC, 0x0003880003AD,
  0x0003890003AE, 0x00038A0003AF, 0x00038C0003CC, 0x00038E0003CD, 0x00038F0003CE, 0x000390001FD3,
  0x0003910003B1, 0x0003920003B2, 0x0003930003B3, 0x0003940003B4, 0x0003950003B5, 0x0003960003B6,
  0x0003970003B7, 0x0003980003B8, 0x0003990003B9, 0x00039A0003BA, 0x00039B0003BB, 0x00039C0003BC,
  0x00039D0003BD, 0x00039E0003BE, 0x00039F0003BF, 0x0003A00003C0, 0x0003A10003C1, 0x0003A30003C2,
  0x0003A40003C4, 0x0003A50003C5, 0x0003A60003C6, 0x0003A70003C7, 0x0003A80003C8, 0x0003A90003C9,
  0x0003AA0003CA, 0x0003AB0003CB, 0x0003AC000386, 0x0003AD000388, 0x0003AE000389, 0x0003AF00038A,
  0x0003B0001FE3, 0x0003B1000391, 0x0003B20003D0, 0x0003B3000393, 0x0003B4000394, 0x0003B50003F5,
  0x0003B6000396, 0x0003B7000397, 0x0003B80003D1, 0x0003B9001FBE, 0x0003BA0003F0, 0x0003BB00039B,
  0x0003BC0000B5, 0x0003BD00039D, 0x0003BE00039E, 0x0003BF00039F, 0x0003C00003D6, 0x0003C10003F1,
  0x0003C20003C3, 0x0003C30003A3, 0x0003C40003A4, 0x0003C50003A5, 0x0003C60003D5, 0x0003C70003A7,
  0x0003C80003A8, 0x0003C9002126, 0x0003CA0003AA, 0x0003CB0003AB, 0x0003CC00038C, 0x0003CD00038E,
  0x0003CE00038F, 0x0003CF0003D7, 0x0003D0000392, 0x0003D10003F4, 0x0003D50003A6, 0x0003D60003A0,
  0x0003D70003CF, 0x0003D80003D9, 0x0003D90003D8, 0x0003DA0003DB, 0x0003DB0003DA, 0x0003DC0003DD,
  0x0003DD0003DC, 0x0003DE0003DF, 0x0003DF0003DE, 0x0003E00003E1, 0x0003E10003E0, 0x0003E20003E3,
  0x0003E30003E2, 0x0003E40003E5, 0x0003E50003E4, 0x0003E60003E7, 0x0003E70003E6, 0x0003E80003E9,
  0x0003E90003E8, 0x0003EA0003EB, 0x0003EB0003EA, 0x0003EC0003ED, 0x0003ED0003EC, 0x0003EE0003EF,
  0x0003EF0003EE, 0x0003F000039A, 0x0003F10003A1, 0x0003F20003F9, 0x0003F300037F, 0x0003F4000398,
  0x0003F5000395, 0x0003F70003F8, 0x0003F80003F7, 0x0003F90003F2, 0x0003FA0003FB, 0x0003FB0003FA,
  0x0003FD00037B, 0x0003FE00037C, 0x0003FF00037D, 0x000400000450, 0x000401000451, 0x000402000452,
  0x000403000453, 0x000404000454, 0x000405000455, 0x000406000456, 0x000407000457, 0x000408000458,
  0x000409000459, 0x00040A00045A, 0x00040B00045B, 0x00040C00045C, 0x00040D00045D, 0x00040E00045E,
  0x00040F00045F, 0x000410000430, 0x000411000431, 0x000412000432, 0x000413000433, 0x000414000434,
  0x000415000435, 0x000416000436, 0x000417000437, 0x000418000438, 0x000419000439, 0x00041A00043A,
  0x00041B00043B, 0x00041C00043C, 0x00041D00043D, 0x00041E00043E, 0x00041F00043F, 0x000420000440,
  0x000421000441, 0x000422000442, 0x000423000443, 0x000424000444, 0x000425000445, 0x000426000446,
  0x000427000447, 0x000428000448, 0x000429000449, 0x00042A00044A, 0x00042B00044B, 0x00042C00044C,
  0x00042D00044D, 0x00042E00044E, 0x00042F00044F, 0x000430000410, 0x000431000411, 0x000432001C80,
  0x000433000413, 0x000434001C81, 0x000435000415, 0x000436000416, 0x000437000417, 0x000438000418,
  0x000439000419, 0x00043A00041A, 0x00043B00041B, 0x00043C00041C, 0x00043D00041D, 0x00043E001C82,
  0x00043F00041F, 0x000440000420, 0x000441001C83, 0x000442001C84, 0x000443000423, 0x000444000424,
  0x000445000425, 0x000446000426, 0x000447000427, 0x000448000428, 0x000449000429, 0x00044A001C86,
  0x00044B00042B, 0x00044C00042C, 0x00044D00042D, 0x00044E00042E, 0x00044F00042F, 0x000450000400,
  0x000451000401, 0x000452000402, 0x000453000403, 0x000454000404, 0x000455000405, 0x000456000406,
  0x000457000407, 0x000458000408, 0x000459000409, 0x00045A00040A, 0x00045B00040B, 0x00045C00040C,
  0x00045D00040D, 0x00045E00040E, 0x00045F00040F, 0x000460000461, 0x000461000460, 0x000462000463,
  0x000463001C87, 0x000464000465, 0x000465000464, 0x000466000467, 0x000467000466, 0x000468000469,
  0x000469000468, 0x00046A00046B, 0x00046B00046A, 0x00046C00046D, 0x00046D00046C, 0x00046E00046F,
  0x00046F00046E, 0x000470000471, 0x000471000470, 0x000472000473, 0x000473000472, 0x000474000475,
  0x000475000474, 0x000476000477, 0x000477000476, 0x000478000479, 0x000479000478, 0x00047A00047B,
  0x00047B00047A, 0x00047C00047D, 0x00047D00047C, 0x00047E00047F, 0x00047F00047E, 0x000480000481,
  0x000481000480, 0x00048A00048B, 0x00048B00048A, 0x00048C00048D, 0x00048D00048C, 0x00048E00048F,
  0x00048F00048E, 0x000490000491, 0x000491000490, 0x000492000493, 0x000493000492, 0x000494000495,
  0x000495000494, 0x000496000497, 0x000497000496, 0x000498000499, 0x000499000498, 0x00049A00049B,
  0x00049B00049A, 0x00049C00049D, 0x00049D00049C, 0x00049E00049F, 0x00049F00049E, 0x0004A00004A1,
  0x0004A10004A0, 0x0004A20004A3, 0x0004A30004A2, 0x0004A40004A5, 0x0004A50004A4, 0x0004A60004A7,
  0x0004A70004A6, 0x0004A80004A9, 0x0004A90004A8, 0x0004AA0004AB, 0x0004AB0004AA, 0x0004AC0004AD,
  0x0004AD0004AC, 0x0004AE0004AF, 0x0004AF0004AE, 0x0004B00004B1, 0x0004B10004B0, 0x0004B20004B3,
  0x0004B30004B2, 0x0004B40004B5, 0x0004B50004B4, 0x0004B60004B7, 0x0004B70004B6, 0x0004B80004B9,
  0x0004B90004B8, 0x0004BA0004BB, 0x0004BB0004BA, 0x0004BC0004BD, 0x0004BD0004BC, 0x0004BE0004BF,
  0x0004BF0004BE, 0x0004C00004CF, 0x0004C10004C2, 0x0004C20004C1, 0x0004C30004C4, 0x0004C40004C3,
  0x0004C50004C6, 0x0004C60004C5, 0x0004C70004C8, 0x0004C80004C7, 0x0004C90004CA, 0x0004CA0004C9,
  0x0004CB0004CC, 0x0004CC0004CB, 0x0004CD0004CE, 0x0004CE0004CD, 0x0004CF0004C0, 0x0004D00004D1,
  0x0004D10004D0, 0x0004D20004D3, 0x0004D30004D2, 0x0004D40004D5, 0x0004D50004D4, 0x0004D60004D7,
  0x0004D70004D6, 0x0004D80004D9, 0x0004D90004D8, 0x0004DA0004DB, 0x0004DB0004DA, 0x0004DC0004DD,
  0x0004DD0004DC, 0x0004DE0004DF, 0x0004DF0004DE, 0x0004E00004E1, 0x0004E10004E0, 0x0004E20004E3,
  0x0004E30004E2, 0x0004E40004E5, 0x0004E50004E4, 0x0004E60004E7, 0x0004E70004E6, 0x0004E80004E9,
  0x0004E90004E8, 0x0004EA0004EB, 0x0004EB0004EA, 0x0004EC0004ED, 0x0004ED0004EC, 0x0004EE0004EF,
  0x0004EF0004EE, 0x0004F00004F1, 0x0004F10004F0, 0x0004F20004F3, 0x0004F30004F2, 0x0004F40004F5,
  0x0004F50004F4, 0x0004F60004F7, 0x0004F70004F6, 0x0004F80004F9, 0x0004F90004F8, 0x0004FA0004FB,
  0x0004FB0004FA, 0x0004FC0004FD, 0x0004FD0004FC, 0x0004FE0004FF, 0x0004FF0004FE, 0x000500000501,
  0x000501000500, 0x000502000503, 0x000503000502, 0x000504000505, 0x000505000504, 0x000506000507,
  0x000507000506, 0x000508000509, 0x000509000508, 0x00050A00050B, 0x00050B00050A, 0x00050C00050D,
  0x00050D00050C, 0x00050E00050F, 0x00050F00050E, 0x000510000511, 0x000511000510, 0x000512000513,
  0x000513000512, 0x000514000515, 0x000515000514, 0x000516000517, 0x000517000516, 0x000518000519,
  0x000519000518, 0x00051A00051B, 0x00051B00051A, 0x00051C00051D, 0x00051D00051C, 0x00051E00051F,
  0x00051F00051E, 0x000520000521, 0x000521000520, 0x000522000523, 0x000523000522, 0x000524000525,
  0x000525000524, 0x000526000527, 0x000527000526, 0x000528000529, 0x000529000528, 0x00052A00052B,
  0x00052B00052A, 0x00052C00052D, 0x00052D00052C, 0x00052E00052F, 0x00052F00052E, 0x000531000561,
  0x000532000562, 0x000533000563, 0x000534000564, 0x000535000565, 0x000536000566, 0x000537000567,
  0x000538000568, 0x000539000569, 0x00053A00056A, 0x00053B00056B, 0x00053C00056C, 0x00053D00056D,
  0x00053E00056E, 0x00053F00056F, 0x000540000570, 0x000541000571, 0x000542000572, 0x000543000573,
  0x000544000574, 0x000545000575, 0x000546000576, 0x000547000577, 0x000548000578, 0x000549000579,
  0x00054A00057A, 0x00054B00057B, 0x00054C00057C, 0x00054D00057D, 0x00054E00057E, 0x00054F00057F,
  0x000550000580, 0x000551000581, 0x000552000582, 0x000553000583, 0x000554000584, 0x000555000585,
  0x000556000586, 0x000561000531, 0x000562000532, 0x000563000533, 0x000564000534, 0x000565000535,
  0x000566000536, 0x000567000537, 0x000568000538, 0x000569000539, 0x00056A00053A, 0x00056B00053B,
  0x00056C00053C, 0x00056D00053D, 0x00056E00053E, 0x00056F00053F, 0x000570000540, 0x000571000541,
  0x000572000542, 0x000573000543, 0x000574000544, 0x000575000545, 0x000576000546, 0x000577000547,
  0x000578000548, 0x000579000549, 0x00057A00054A, 0x00057B00054B, 0x00057C00054C, 0x00057D00054D,
  0x00057E00054E, 0x00057F00054F, 0x000580000550, 0x000581000551, 0x000582000552, 0x000583000553,
  0x000584000554, 0x000585000555, 0x000586000556, 0x0010A0002D00, 0x0010A1002D01, 0x0010A2002D02,
  0x0010A3002D03, 0x0010A4002D04, 0x0010A5002D05, 0x0010A6002D06, 0x0010A7002D07, 0x0010A8002D08,
  0x0010A9002D09, 0x0010AA002D0A, 0x0010AB002D0B, 0x0010AC002D0C, 0x0010AD002D0D, 0x0010AE002D0E,
  0x0010AF002D0F, 0x0010B0002D10, 0x0010B1002D11, 0x0010B2002D12, 0x0010B3002D13, 0x0010B4002D14,
  0x0010B5002D15, 0x0010B6002D16, 0x0010B7002D17, 0x0010B8002D18, 0x0010B9002D19, 0x0010BA002D1A,
  0x0010BB002D1B, 0x0010BC002D1C, 0x0010BD002D1D, 0x0010BE002D1E, 0x0010BF002D1F, 0x0010C0002D20,
  0x0010C1002D21, 0x0010C2002D22, 0x0010C3002D23, 0x0010C4002D24, 0x0010C5002D25, 0x0010C7002D27,
  0x0010CD002D2D, 0x0010D0001C90, 0x0010D1001C91, 0x0010D2001C92, 0x0010D3001C93, 0x0010D4001C94,
  0x0010D5001C95, 0x0010D6001C96, 0x0010D7001C97, 0x0010D8001C98, 0x0010D9001C99, 0x0010DA001C9A,
  0x0010DB001C9B, 0x0010DC001C9C, 0x0010DD001C9D, 0x0010DE001C9E, 0x0010DF001C9F, 0x0010E0001CA0,
  0x0010E1001CA1, 0x0010E2001CA2, 0x0010E3001CA3, 0x0010E4001CA4, 0x0010E5001CA5, 0x0010E6001CA6,
  0x0010E7001CA7, 0x0010E8001CA8, 0x0010E9001CA9, 0x0010EA001CAA, 0x0010EB001CAB, 0x0010EC001CAC,
  0x0010ED001CAD, 0x0010EE001CAE, 0x0010EF001CAF, 0x0010F0001CB0, 0x0010F1001CB1, 0x0010F2001CB2,
  0x0010F3001CB3, 0x0010F4001CB4, 0x0010F5001CB5, 0x0010F6001CB6, 0x0010F7001CB7, 0x0010F8001CB8,
  0x0010F9001CB9, 0x0010FA001CBA, 0x0010FD001CBD, 0x0010FE001CBE, 0x0010FF001CBF, 0x0013A000AB70,
  0x0013A100AB71, 0x0013A200AB72, 0x0013A300AB73, 0x0013A400AB74, 0x0013A500AB75, 0x0013A600AB76,
  0x0013A700AB77, 0x0013A800AB78, 0x0013A900AB79, 0x0013AA00AB7A, 0x0013AB00AB7B, 0x0013AC00AB7C,
  0x0013AD00AB7D, 0x0013AE00AB7E, 0x0013AF00AB7F, 0x0013B000AB80, 0x0013B100AB81, 0x0013B200AB82,
  0x0013B300AB83, 0x0013B400AB84, 0x0013B500AB85, 0x0013B600AB86, 0x0013B700AB87, 0x0013B800AB88,
  0x0013B900AB89, 0x0013BA00AB8A, 0x0013BB00AB8B, 0x0013BC00AB8C, 0x0013BD00AB8D, 0x0013BE00AB8E,
  0x0013BF00AB8F, 0x0013C000AB90, 0x0013C100AB91, 0x0013C200AB92, 0x0013C300AB93, 0x0013C400AB94,
  0x0013C500AB95, 0x0013C600AB96, 0x0013C700AB97, 0x0013C800AB98, 0x0013C900AB99, 0x0013CA00AB9A,
  0x0013CB00AB9B, 0x0013CC00AB9C, 0x0013CD00AB9D, 0x0013CE00AB9E, 0x0013CF00AB9F, 0x0013D000ABA0,
  0x0013D100ABA1, 0x0013D200ABA2, 0x0013D300ABA3, 0x0013D400ABA4, 0x0013D500ABA5, 0x0013D600ABA6,
  0x0013D700ABA7, 0x0013D800ABA8, 0x0013D900ABA9, 0x0013DA00ABAA, 0x0013DB00ABAB, 0x0013DC00ABAC,
  0x0013DD00ABAD, 0x0013DE00ABAE, 0x0013DF00ABAF, 0x0013E000ABB0, 0x0013E100ABB1, 0x0013E200ABB2,
  0x0013E300ABB3, 0x0013E400ABB4, 0x0013E500ABB5, 0x0013E600ABB6, 0x0013E700ABB7, 0x0013E800ABB8,
  0x0013E900ABB9, 0x0013EA00ABBA, 0x0013EB00ABBB, 0x0013EC00ABBC, 0x0013ED00ABBD, 0x0013EE00ABBE,
  0x0013EF00ABBF, 0x0013F00013F8, 0x0013F10013F9, 0x0013F20013FA, 0x0013F30013FB, 0x0013F40013FC,
  0x0013F50013FD, 0x0013F80013F0, 0x0013F90013F1, 0x0013FA0013F2, 0x0013FB0013F3, 0x0013FC0013F4,
  0x0013FD0013F5, 0x001C80000412, 0x001C81000414, 0x001C8200041E, 0x001C83000421, 0x001C84001C85,
  0x001C85000422, 0x001C8600042A, 0x001C87000462, 0x001C8800A64A, 0x001C89001C8A, 0x001C8A001C89,
  0x001C900010D0, 0x001C910010D1, 0x001C920010D2, 0x001C930010D3, 0x001C940010D4, 0x001C950010D5,
  0x001C960010D6, 0x001C970010D7, 0x001C980010D8, 0x001C990010D9, 0x001C9A0010DA, 0x001C9B0010DB,
  0x001C9C0010DC, 0x001C9D0010DD, 0x001C9E0010DE, 0x001C9F0010DF, 0x001CA00010E0, 0x001CA10010E1,
  0x001CA20010E2, 0x001CA30010E3, 0x001CA40010E4, 0x001CA50010E5, 0x001CA60010E6, 0x001CA70010E7,
  0x001CA80010E8, 0x001CA90010E9, 0x001CAA0010EA, 0x001CAB0010EB, 0x001CAC0010EC, 0x001CAD0010ED,
  0x001CAE0010EE, 0x001CAF0010EF, 0x001CB00010F0, 0x001CB10010F1, 0x001CB20010F2, 0x001CB30010F3,
  0x001CB40010F4, 0x001CB50010F5, 0x001CB60010F6, 0x001CB70010F7, 0x001CB80010F8, 0x001CB90010F9,
  0x001CBA0010FA, 0x001CBD0010FD, 0x001CBE0010FE, 0x001CBF0010FF, 0x001D7900A77D, 0x001D7D002C63,
  0x001D8E00A7C6, 0x001E00001E01, 0x001E01001E00, 0x001E02001E03, 0x001E03001E02, 0x001E04001E05,
  0x001E05001E04, 0x001E06001E07, 0x001E07001E06, 0x001E08001E09, 0x001E09001E08, 0x001E0A001E0B,
  0x001E0B001E0A, 0x001E0C001E0D, 0x001E0D001E0C, 0x001E0E001E0F, 0x001E0F001E0E, 0x001E10001E11,
  0x001E11001E10, 0x001E12001E13, 0x001E13001E12, 0x001E14001E15, 0x001E15001E14, 0x001E16001E17,
  0x001E17001E16, 0x001E18001E19, 0x001E19001E18, 0x001E1A001E1B, 0x001E1B001E1A, 0x001E1C001E1D,
  0x001E1D001E1C, 0x001E1E001E1F, 0x001E1F001E1E, 0x001E20001E21, 0x001E21001E20, 0x001E22001E23,
  0x001E23001E22, 0x001E24001E25, 0x001E25001E24, 0x001E26001E27, 0x001E27001E26, 0x001E28001E29,
  0x001E29001E28, 0x001E2A001E2B, 0x001E2B001E2A, 0x001E2C001E2D, 0x001E2D001E2C, 0x001E2E001E2F,
  0x001E2F001E2E, 0x001E30001E31, 0x001E31001E30, 0x001E32001E33, 0x001E33001E32, 0x001E34001E35,
  0x001E35001E34, 0x001E36001E37, 0x001E37001E36, 0x001E38001E39, 0x001E39001E38, 0x001E3A001E3B,
  0x001E3B001E3A, 0x001E3C001E3D, 0x001E3D001E3C, 0x001E3E001E3F, 0x001E3F001E3E, 0x001E40001E41,
  0x001E41001E40, 0x001E42001E43, 0x001E43001E42, 0x001E44001E45, 0x001E45001E44, 0x001E46001E47,
  0x001E47001E46, 0x001E48001E49, 0x001E49001E48, 0x001E4A001E4B, 0x001E4B001E4A, 0x001E4C001E4D,
  0x001E4D001E4C, 0x001E4E001E4F, 0x001E4F001E4E, 0x001E50001E51, 0x001E51001E50, 0x001E52001E53,
  0x001E53001E52, 0x001E54001E55, 0x001E55001E54, 0x001E56001E57, 0x001E57001E56, 0x001E58001E59,
  0x001E59001E58, 0x001E5A001E5B, 0x001E5B001E5A, 0x001E5C001E5D, 0x001E5D001E5C, 0x001E5E001E5F,
  0x001E5F001E5E, 0x001E60001E61, 0x001E61001E9B, 0x001E62001E63, 0x001E63001E62, 0x001E64001E65,
  0x001E65001E64, 0x001E66001E67, 0x001E67001E66, 0x001E68001E69, 0x001E69001E68, 0x001E6A001E6B,
  0x001E6B001E6A, 0x001E6C001E6D, 0x001E6D001E6C, 0x001E6E001E6F, 0x001E6F001E6E, 0x001E70001E71,
  0x001E71001E70, 0x001E72001E73, 0x001E73001E72, 0x001E74001E75, 0x001E75001E74, 0x001E76001E77,
  0x001E77001E76, 0x001E78001E79, 0x001E79001E78, 0x001E7A001E7B, 0x001E7B001E7A, 0x001E7C001E7D,
  0x001E7D001E7C, 0x001E7E001E7F, 0x001E7F001E7E, 0x001E80001E81, 0x001E81001E80, 0x001E82001E83,
  0x001E83001E82, 0x001E84001E85, 0x001E85001E84, 0x001E86001E87, 0x001E87001E86, 0x001E88001E89,
  0x001E89001E88, 0x001E8A001E8B, 0x001E8B001E8A, 0x001E8C001E8D, 0x001E8D001E8C, 0x001E8E001E8F,
  0x001E8F001E8E, 0x001E90001E91, 0x001E91001E90, 0x001E92001E93, 0x001E93001E92, 0x001E94001E95,
  0x001E95001E94, 0x001E9B001E60, 0x001E9E0000DF, 0x001EA0001EA1, 0x001EA1001EA0, 0x001EA2001EA3,
  0x001EA3001EA2, 0x001EA4001EA5, 0x001EA5001EA4, 0x001EA6001EA7, 0x001EA7001EA6, 0x001EA8001EA9,
  0x001EA9001EA8, 0x001EAA001EAB, 0x001EAB001EAA, 0x001EAC001EAD, 0x001EAD001EAC, 0x001EAE001EAF,
  0x001EAF001EAE, 0x001EB0001EB1, 0x001EB1001EB0, 0x001EB2001EB3, 0x001EB3001EB2, 0x001EB4001EB5,
  0x001EB5001EB4, 0x001EB6001EB7, 0x001EB7001EB6, 0x001EB8001EB9, 0x001EB9001EB8, 0x001EBA001EBB,
  0x001EBB001EBA, 0x001EBC001EBD, 0x001EBD001EBC, 0x001EBE001EBF, 0x001EBF001EBE, 0x001EC0001EC1,
  0x001EC1001EC0, 0x001EC2001EC3, 0x001EC3001EC2, 0x001EC4001EC5, 0x001EC5001EC4, 0x001EC6001EC7,
  0x001EC7001EC6, 0x001EC8001EC9, 0x001EC9001EC8, 0x001ECA001ECB, 0x001ECB001ECA, 0x001ECC001ECD,
  0x001ECD001ECC, 0x001ECE001ECF, 0x001ECF001ECE, 0x001ED0001ED1, 0x001ED1001ED0, 0x001ED2001ED3,
  0x001ED3001ED2, 0x001ED4001ED5, 0x001ED5001ED4, 0x001ED6001ED7, 0x001ED7001ED6, 0x001ED8001ED9,
  0x001ED9001ED8, 0x001EDA001EDB, 0x001EDB001EDA, 0x001EDC001EDD, 0x001EDD001EDC, 0x001EDE001EDF,
  0x001EDF001EDE, 0x001EE0001EE1, 0x001EE1001EE0, 0x001EE2001EE3, 0x001EE3001EE2, 0x001EE4001EE5,
  0x001EE5001EE4, 0x001EE6001EE7, 0x001EE7001EE6, 0x001EE8001EE9, 0x001EE9001EE8, 0x001EEA001EEB,
  0x001EEB001EEA, 0x001EEC001EED, 0x001EED001EEC, 0x001EEE001EEF, 0x001EEF001EEE, 0x001EF0001EF1,
  0x001EF1001EF0, 0x001EF2001EF3, 0x001EF3001EF2, 0x001EF4001EF5, 0x001EF5001EF4, 0x001EF6001EF7,
  0x001EF7001EF6, 0x001EF8001EF9, 0x001EF9001EF8, 0x001EFA001EFB, 0x001EFB001EFA, 0x001EFC001EFD,
  0x001EFD001EFC, 0x001EFE001EFF, 0x001EFF001EFE, 0x001F00001F08, 0x001F01001F09, 0x001F02001F0A,
  0x001F03001F0B, 0x001F04001F0C, 0x001F05001F0D, 0x001F06001F0E, 0x001F07001F0F, 0x001F08001F00,
  0x001F09001F01, 0x001F0A001F02, 0x001F0B001F03, 0x001F0C001F04, 0x001F0D001F05, 0x001F0E001F06,
  0x001F0F001F07, 0x001F10001F18, 0x001F11001F19, 0x001F12001F1A, 0x001F13001F1B, 0x001F14001F1C,
  0x001F15001F1D, 0x001F18001F10, 0x001F19001F11, 0x001F1A001F12, 0x001F1B001F13, 0x001F1C001F14,
  0x001F1D001F15, 0x001F20001F28, 0x001F21001F29, 0x001F22001F2A, 0x001F23001F2B, 0x001F24001F2C,
  0x001F25001F2D, 0x001F26001F2E, 0x001F27001F2F, 0x001F28001F20, 0x001F29001F21, 0x001F2A001F22,
  0x001F2B001F23, 0x001F2C001F24, 0x001F2D001F25, 0x001F2E001F26, 0x001F2F001F27, 0x001F30001F38,
  0x001F31001F39, 0x001F32001F3A, 0x001F33001F3B, 0x001F34001F3C, 0x001F35001F3D, 0x001F36001F3E,
  0x001F37001F3F, 0x001F38001F30, 0x001F39001F31, 0x001F3A001F32, 0x001F3B001F33, 0x001F3C001F34,
  0x001F3D001F35, 0x001F3E001F36, 0x001F3F001F37, 0x001F40001F48, 0x001F41001F49, 0x001F42001F4A,
  0x001F43001F4B, 0x001F44001F4C, 0x001F45001F4D, 0x001F48001F40, 0x001F49001F41, 0x001F4A001F42,
  0x001F4B001F43, 0x001F4C001F44, 0x001F4D001F45, 0x001F51001F59, 0x001F53001F5B, 0x001F55001F5D,
  0x001F57001F5F, 0x001F59001F51, 0x001F5B001F53, 0x001F5D001F55, 0x001F5F001F57, 0x001F60001F68,
  0x001F61001F69, 0x001F62001F6A, 0x001F63001F6B, 0x001F64001F6C, 0x001F65001F6D, 0x001F66001F6E,
  0x001F67001F6F, 0x001F68001F60, 0x001F69001F61, 0x001F6A001F62, 0x001F6B001F63, 0x001F6C001F64,
  0x001F6D001F65, 0x001F6E001F66, 0x001F6F001F67, 0x001F70001FBA, 0x001F71001FBB, 0x001F72001FC8,
  0x001F73001FC9, 0x001F74001FCA, 0x001F75001FCB, 0x001F76001FDA, 0x001F77001FDB, 0x001F78001FF8,
  0x001F79001FF9, 0x001F7A001FEA, 0x001F7B001FEB, 0x001F7C001FFA, 0x001F7D001FFB, 0x001F80001F88,
  0x001F81001F89, 0x001F82001F8A, 0x001F83001F8B, 0x001F84001F8C, 0x001F85001F8D, 0x001F86001F8E,
  0x001F87001F8F, 0x001F88001F80, 0x001F89001F81, 0x001F8A001F82, 0x001F8B001F83, 0x001F8C001F84,
  0x001F8D001F85, 0x001F8E001F86, 0x001F8F001F87, 0x001F90001F98, 0x001F91001F99, 0x001F92001F9A,
  0x001F93001F9B, 0x001F94001F9C, 0x001F95001F9D, 0x001F96001F9E, 0x001F97001F9F, 0x001F98001F90,
  0x001F99001F91, 0x001F9A001F92, 0x001F9B001F93, 0x001F9C001F94, 0x001F9D001F95, 0x001F9E001F96,
  0x001F9F001F97, 0x001FA0001FA8, 0x001FA1001FA9, 0x001FA2001FAA, 0x001FA3001FAB, 0x001FA4001FAC,
  0x001FA5001FAD, 0x001FA6001FAE, 0x001FA7001FAF, 0x001FA8001FA0, 0x001FA9001FA1, 0x001FAA001FA2,
  0x001FAB001FA3, 0x001FAC001FA4, 0x001FAD001FA5, 0x001FAE001FA6, 0x001FAF001FA7, 0x001FB0001FB8,
  0x001FB1001FB9, 0x001FB3001FBC, 0x001FB8001FB0, 0x001FB9001FB1, 0x001FBA001F70, 0x001FBB001F71,
  0x001FBC001FB3, 0x001FBE000345, 0x001FC3001FCC, 0x001FC8001F72, 0x001FC9001F73, 0x001FCA001F74,
  0x001FCB001F75, 0x001FCC001FC3, 0x001FD0001FD8, 0x001FD1001FD9, 0x001FD3000390, 0x001FD8001FD0,
  0x001FD9001FD1, 0x001FDA001F76, 0x001FDB001F77, 0x001FE0001FE8, 0x001FE1001FE9, 0x001FE30003B0,
  0x001FE5001FEC, 0x001FE8001FE0, 0x001FE9001FE1, 0x001FEA001F7A, 0x001FEB001F7B, 0x001FEC001FE5,
  0x001FF3001FFC, 0x001FF8001F78, 0x001FF9001F79, 0x001FFA001F7C, 0x001FFB001F7D, 0x001FFC001FF3,
  0x0021260003A9, 0x00212A00004B, 0x00212B0000C5, 0x00213200214E, 0x00214E002132, 0x002160002170,
  0x002161002171, 0x002162002172, 0x002163002173, 0x002164002174, 0x002165002175, 0x002166002176,
  0x002167002177, 0x002168002178, 0x002169002179, 0x00216A00217A, 0x00216B00217B, 0x00216C00217C,
  0x00216D00217D, 0x00216E00217E, 0x00216F00217F, 0x002170002160, 0x002171002161, 0x002172002162,
  0x002173002163, 0x002174002164, 0x002175002165, 0x002176002166, 0x002177002167, 0x002178002168,
  0x002179002169, 0x00217A00216A, 0x00217B00216B, 0x00217C00216C, 0x00217D00216D, 0x00217E00216E,
  0x00217F00216F, 0x002183002184, 0x002184002183, 0x0024B60024D0, 0x0024B70024D1, 0x0024B80024D2,
  0x0024B90024D3, 0x0024BA0024D4, 0x0024BB0024D5, 0x0024BC0024D6, 0x0024BD0024D7, 0x0024BE0024D8,
  0x0024BF0024D9, 0x0024C00024DA, 0x0024C10024DB, 0x0024C20024DC, 0x0024C30024DD, 0x0024C40024DE,
  0x0024C50024DF, 0x0024C60024E0, 0x0024C70024E1, 0x0024C80024E2, 0x0024C90024E3, 0x0024CA0024E4,
  0x0024CB0024E5, 0x0024CC0024E6, 0x0024CD0024E7, 0x0024CE0024E8, 0x0024CF0024E9, 0x0024D00024B6,
  0x0024D10024B7, 0x0024D20024B8, 0x0024D30024B9, 0x0024D40024BA, 0x0024D50024BB, 0x0024D60024BC,
  0x0024D70024BD, 0x0024D80024BE, 0x0024D90024BF, 0x0024DA0024C0, 0x0024DB0024C1, 0x0024DC0024C2,
  0x0024DD0024C3, 0x0024DE0024C4, 0x0024DF0024C5, 0x0024E00024C6, 0x0024E10024C7, 0x0024E20024C8,
  0x0024E30024C9, 0x0024E40024CA, 0x0024E50024CB, 0x0024E60024CC, 0x0024E70024CD, 0x0024E80024CE,
  0x0024E90024CF, 0x002C00002C30, 0x002C01002C31, 0x002C02002C32, 0x002C03002C33, 0x002C04002C34,
  0x002C05002C35, 0x002C06002C36, 0x002C07002C37, 0x002C08002C38, 0x002C09002C39, 0x002C0A002C3A,
  0x002C0B002C3B, 0x002C0C002C3C, 0x002C0D002C3D, 0x002C0E002C3E, 0x002C0F002C3F, 0x002C10002C40,
  0x002C11002C41, 0x002C12002C42, 0x002C13002C43, 0x002C14002C44, 0x002C15002C45, 0x002C16002C46,
  0x002C17002C47, 0x002C18002C48, 0x002C19002C49, 0x002C1A002C4A, 0x002C1B002C4B, 0x002C1C002C4C,
  0x002C1D002C4D, 0x002C1E002C4E, 0x002C1F002C4F, 0x002C20002C50, 0x002C21002C51, 0x002C22002C52,
  0x002C23002C53, 0x002C24002C54, 0x002C25002C55, 0x002C26002C56, 0x002C27002C57, 0x002C28002C58,
  0x002C29002C59, 0x002C2A002C5A, 0x002C2B002C5B, 0x002C2C002C5C, 0x002C2D002C5D, 0x002C2E002C5E,
  0x002C2F002C5F, 0x002C30002C00, 0x002C31002C01, 0x002C32002C02, 0x002C33002C03, 0x002C34002C04,
  0x002C35002C05, 0x002C36002C06, 0x002C37002C07, 0x002C38002C08, 0x002C39002C09, 0x002C3A002C0A,
  0x002C3B002C0B, 0x002C3C002C0C, 0x002C3D002C0D, 0x002C3E002C0E, 0x002C3F002C0F, 0x002C40002C10,
  0x002C41002C11, 0x002C42002C12, 0x002C43002C13, 0x002C44002C14, 0x002C45002C15, 0x002C46002C16,
  0x002C47002C17, 0x002C48002C18, 0x002C49002C19, 0x002C4A002C1A, 0x002C4B002C1B, 0x002C4C002C1C,
  0x002C4D002C1D, 0x002C4E002C1E, 0x002C4F002C1F, 0x002C50002C20, 0x002C51002C21, 0x002C52002C22,
  0x002C53002C23, 0x002C54002C24, 0x002C55002C25, 0x002C56002C26, 0x002C57002C27, 0x002C58002C28,
  0x002C59002C29, 0x002C5A002C2A, 0x002C5B002C2B, 0x002C5C002C2C, 0x002C5D002C2D, 0x002C5E002C2E,
  0x002C5F002C2F, 0x002C60002C61, 0x002C61002C60, 0x002C6200026B, 0x002C63001D7D, 0x002C6400027D,
  0x002C6500023A, 0x002C6600023E, 0x002C67002C68, 0x002C68002C67, 0x002C69002C6A, 0x002C6A002C69,
  0x002C6B002C6C, 0x002C6C002C6B, 0x002C6D000251, 0x002C6E000271, 0x002C6F000250, 0x002C70000252,
  0x002C72002C73, 0x002C73002C72, 0x002C75002C76, 0x002C76002C75, 0x002C7E00023F, 0x002C7F000240,
  0x002C80002C81, 0x002C81002C80, 0x002C82002C83, 0x002C83002C82, 0x002C84002C85, 0x002C85002C84,
  0x002C86002C87, 0x002C87002C86, 0x002C88002C89, 0x002C89002C88, 0x002C8A002C8B, 0x002C8B002C8A,
  0x002C8C002C8D, 0x002C8D002C8C, 0x002C8E002C8F, 0x002C8F002C8E, 0x002C90002C91, 0x002C91002C90,
  0x002C92002C93, 0x002C93002C92, 0x002C94002C95, 0x002C95002C94, 0x002C96002C97, 0x002C97002C96,
  0x002C98002C99, 0x002C99002C98, 0x002C9A002C9B, 0x002C9B002C9A, 0x002C9C002C9D, 0x002C9D002C9C,
  0x002C9E002C9F, 0x002C9F002C9E, 0x002CA0002CA1, 0x002CA1002CA0, 0x002CA2002CA3, 0x002CA3002CA2,
  0x002CA4002CA5, 0x002CA5002CA4, 0x002CA6002CA7, 0x002CA7002CA6, 0x002CA8002CA9, 0x002CA9002CA8,
  0x002CAA002CAB, 0x002CAB002CAA, 0x002CAC002CAD, 0x002CAD002CAC, 0x002CAE002CAF, 0x002CAF002CAE,
  0x002CB0002CB1, 0x002CB1002CB0, 0x002CB2002CB3, 0x002CB3002CB2, 0x002CB4002CB5, 0x002CB5002CB4,
  0x002CB6002CB7, 0x002CB7002CB6, 0x002CB8002CB9, 0x002CB9002CB8, 0x002CBA002CBB, 0x002CBB002CBA,
  0x002CBC002CBD, 0x002CBD002CBC, 0x002CBE002CBF, 0x002CBF002CBE, 0x002CC0002CC1, 0x002CC1002CC0,
  0x002CC2002CC3, 0x002CC3002CC2, 0x002CC4002CC5, 0x002CC5002CC4, 0x002CC6002CC7, 0x002CC7002CC6,
  0x002CC8002CC9, 0x002CC9002CC8, 0x002CCA002CCB, 0x002CCB002CCA, 0x002CCC002CCD, 0x002CCD002CCC,
  0x002CCE002CCF, 0x002CCF002CCE, 0x002CD0002CD1, 0x002CD1002CD0, 0x002CD2002CD3, 0x002CD3002CD2,
  0x002CD4002CD5, 0x002CD5002CD4, 0x002CD6002CD7, 0x002CD7002CD6, 0x002CD8002CD9, 0x002CD9002CD8,
  0x002CDA002CDB, 0x002CDB002CDA, 0x002CDC002CDD, 0x002CDD002CDC, 0x002CDE002CDF, 0x002CDF002CDE,
  0x002CE0002CE1, 0x002CE1002CE0, 0x002CE2002CE3, 0x002CE3002CE2, 0x002CEB002CEC, 0x002CEC002CEB,
  0x002CED002CEE, 0x002CEE002CED, 0x002CF2002CF3, 0x002CF3002CF2, 0x002D000010A0, 0x002D010010A1,
  0x002D020010A2, 0x002D030010A3, 0x002D040010A4, 0x002D050010A5, 0x002D060010A6, 0x002D070010A7,
  0x002D080010A8, 0x002D090010A9, 0x002D0A0010AA, 0x002D0B0010AB, 0x002D0C0010AC, 0x002D0D0010AD,
  0x002D0E0010AE, 0x002D0F0010AF, 0x002D100010B0, 0x002D110010B1, 0x002D120010B2, 0x002D130010B3,
  0x002D140010B4, 0x002D150010B5, 0x002D160010B6, 0x002D170010B7, 0x002D180010B8, 0x002D190010B9,
  0x002D1A0010BA, 0x002D1B0010BB, 0x002D1C0010BC, 0x002D1D0010BD, 0x002D1E0010BE, 0x002D1F0010BF,
  0x002D200010C0, 0x002D210010C1, 0x002D220010C2, 0x002D230010C3, 0x002D240010C4, 0x002D250010C5,
  0x002D270010C7, 0x002D2D0010CD, 0x00A64000A641, 0x00A64100A640, 0x00A64200A643, 0x00A64300A642,
  0x00A64400A645, 0x00A64500A644, 0x00A64600A647, 0x00A64700A646, 0x00A64800A649, 0x00A64900A648,
  0x00A64A00A64B, 0x00A64B001C88, 0x00A64C00A64D, 0x00A64D00A64C, 0x00A64E00A64F, 0x00A64F00A64E,
  0x00A65000A651, 0x00A65100A650, 0x00A65200A653, 0x00A65300A652, 0x00A65400A655, 0x00A65500A654,
  0x00A65600A657, 0x00A65700A656, 0x00A65800A659, 0x00A65900A658, 0x00A65A00A65B, 0x00A65B00A65A,
  0x00A65C00A65D, 0x00A65D00A65C, 0x00A65E00A65F, 0x00A65F00A65E, 0x00A66000A661, 0x00A66100A660,
  0x00A66200A663, 0x00A66300A662, 0x00A66400A665, 0x00A66500A664, 0x00A66600A667, 0x00A66700A666,
  0x00A66800A669, 0x00A66900A668, 0x00A66A00A66B, 0x00A66B00A66A, 0x00A66C00A66D, 0x00A66D00A66C,
  0x00A68000A681, 0x00A68100A680, 0x00A68200A683, 0x00A68300A682, 0x00A68400A685, 0x00A68500A684,
  0x00A68600A687, 0x00A68700A686, 0x00A68800A689, 0x00A68900A688, 0x00A68A00A68B, 0x00A68B00A68A,
  0x00A68C00A68D, 0x00A68D00A68C, 0x00A68E00A68F, 0x00A68F00A68E, 0x00A69000A691, 0x00A69100A690,
  0x00A69200A693, 0x00A69300A692, 0x00A69400A695, 0x00A69500A694, 0x00A69600A697, 0x00A69700A696,
  0x00A69800A699, 0x00A69900A698, 0x00A69A00A69B, 0x00A69B00A69A, 0x00A72200A723, 0x00A72300A722,
  0x00A72400A725, 0x00A72500A724, 0x00A72600A727, 0x00A72700A726, 0x00A72800A729, 0x00A72900A728,
  0x00A72A00A72B, 0x00A72B00A72A, 0x00A72C00A72D, 0x00A72D00A72C, 0x00A72E00A72F, 0x00A72F00A72E,
  0x00A73200A733, 0x00A73300A732, 0x00A73400A735, 0x00A73500A734, 0x00A73600A737, 0x00A73700A736,
  0x00A73800A739, 0x00A73900A738, 0x00A73A00A73B, 0x00A73B00A73A, 0x00A73C00A73D, 0x00A73D00A73C,
  0x00A73E00A73F, 0x00A73F00A73E, 0x00A74000A741, 0x00A74100A740, 0x00A74200A743, 0x00A74300A742,
  0x00A74400A745, 0x00A74500A744, 0x00A74600A747, 0x00A74700A746, 0x00A74800A749, 0x00A74900A748,
  0x00A74A00A74B, 0x00A74B00A74A, 0x00A74C00A74D, 0x00A74D00A74C, 0x00A74E00A74F, 0x00A74F00A74E,
  0x00A75000A751, 0x00A75100A750, 0x00A75200A753, 0x00A75300A752, 0x00A75400A755, 0x00A75500A754,
  0x00A75600A757, 0x00A75700A756, 0x00A75800A759, 0x00A75900A758, 0x00A75A00A75B, 0x00A75B00A75A,
  0x00A75C00A75D, 0x00A75D00A75C, 0x00A75E00A75F, 0x00A75F00A75E, 0x00A76000A761, 0x00A76100A760,
  0x00A76200A763, 0x00A76300A762, 0x00A76400A765, 0x00A76500A764, 0x00A76600A767, 0x00A76700A766,
  0x00A76800A769, 0x00A76900A768, 0x00A76A00A76B, 0x00A76B00A76A, 0x00A76C00A76D, 0x00A76D00A76C,
  0x00A76E00A76F, 0x00A76F00A76E, 0x00A77900A77A, 0x00A77A00A779, 0x00A77B00A77C, 0x00A77C00A77B,
  0x00A77D001D79, 0x00A77E00A77F, 0x00A77F00A77E, 0x00A78000A781, 0x00A78100A780, 0x00A78200A783,
  0x00A78300A782, 0x00A78400A785, 0x00A78500A784, 0x00A78600A787, 0x00A78700A786, 0x00A78B00A78C,
  0x00A78C00A78B, 0x00A78D000265, 0x00A79000A791, 0x00A79100A790, 0x00A79200A793, 0x00A79300A792,
  0x00A79400A7C4, 0x00A79600A797, 0x00A79700A796, 0x00A79800A799, 0x00A79900A798, 0x00A79A00A79B,
  0x00A79B00A79A, 0x00A79C00A79D, 0x00A79D00A79C, 0x00A79E00A79F, 0x00A79F00A79E, 0x00A7A000A7A1,
  0x00A7A100A7A0, 0x00A7A200A7A3, 0x00A7A300A7A2, 0x00A7A400A7A5, 0x00A7A500A7A4, 0x00A7A600A7A7,
  0x00A7A700A7A6, 0x00A7A800A7A9, 0x00A7A900A7A8, 0x00A7AA000266, 0x00A7AB00025C, 0x00A7AC000261,
  0x00A7AD00026C, 0x00A7AE00026A, 0x00A7B000029E, 0x00A7B1000287, 0x00A7B200029D, 0x00A7B300AB53,
  0x00A7B400A7B5, 0x00A7B500A7B4, 0x00A7B600A7B7, 0x00A7B700A7B6, 0x00A7B800A7B9, 0x00A7B900A7B8,
  0x00A7BA00A7BB, 0x00A7BB00A7BA, 0x00A7BC00A7BD, 0x00A7BD00A7BC, 0x00A7BE00A7BF, 0x00A7BF00A7BE,
  0x00A7C000A7C1, 0x00A7C100A7C0, 0x00A7C200A7C3, 0x00A7C300A7C2, 0x00A7C400A794, 0x00A7C5000282,
  0x00A7C6001D8E, 0x00A7C700A7C8, 0x00A7C800A7C7, 0x00A7C900A7CA, 0x00A7CA00A7C9, 0x00A7CB000264,
  0x00A7CC00A7CD, 0x00A7CD00A7CC, 0x00A7CE00A7CF, 0x00A7CF00A7CE, 0x00A7D000A7D1, 0x00A7D100A7D0,
  0x00A7D200A7D3, 0x00A7D300A7D2, 0x00A7D400A7D5, 0x00A7D500A7D4, 0x00A7D600A7D7, 0x00A7D700A7D6,
  0x00A7D800A7D9, 0x00A7D900A7D8, 0x00A7DA00A7DB, 0x00A7DB00A7DA, 0x00A7DC00019B, 0x00A7F500A7F6,
  0x00A7F600A7F5, 0x00AB5300A7B3, 0x00AB700013A0, 0x00AB710013A1, 0x00AB720013A2, 0x00AB730013A3,
  0x00AB740013A4, 0x00AB750013A5, 0x00AB760013A6, 0x00AB770013A7, 0x00AB780013A8, 0x00AB790013A9,
  0x00AB7A0013AA, 0x00AB7B0013AB, 0x00AB7C0013AC, 0x00AB7D0013AD, 0x00AB7E0013AE, 0x00AB7F0013AF,
  0x00AB800013B0, 0x00AB810013B1, 0x00AB820013B2, 0x00AB830013B3, 0x00AB840013B4, 0x00AB850013B5,
  0x00AB860013B6, 0x00AB870013B7, 0x00AB880013B8, 0x00AB890013B9, 0x00AB8A0013BA, 0x00AB8B0013BB,
  0x00AB8C0013BC, 0x00AB8D0013BD, 0x00AB8E0013BE, 0x00AB8F0013BF, 0x00AB900013C0, 0x00AB910013C1,
  0x00AB920013C2, 0x00AB930013C3, 0x00AB940013C4, 0x00AB950013C5, 0x00AB960013C6, 0x00AB970013C7,
  0x00AB980013C8, 0x00AB990013C9, 0x00AB9A0013CA, 0x00AB9B0013CB, 0x00AB9C0013CC, 0x00AB9D0013CD,
  0x00AB9E0013CE, 0x00AB9F0013CF, 0x00ABA00013D0, 0x00ABA10013D1, 0x00ABA20013D2, 0x00ABA30013D3,
  0x00ABA40013D4, 0x00ABA50013D5, 0x00ABA60013D6, 0x00ABA70013D7, 0x00ABA80013D8, 0x00ABA90013D9,
  0x00ABAA0013DA, 0x00ABAB0013DB, 0x00ABAC0013DC, 0x00ABAD0013DD, 0x00ABAE0013DE, 0x00ABAF0013DF,
  0x00ABB00013E0, 0x00ABB10013E1, 0x00ABB20013E2, 0x00ABB30013E3, 0x00ABB40013E4, 0x00ABB50013E5,
  0x00ABB60013E6, 0x00ABB70013E7, 0x00ABB80013E8, 0x00ABB90013E9, 0x00ABBA0013EA, 0x00ABBB0013EB,
  0x00ABBC0013EC, 0x00ABBD0013ED, 0x00ABBE0013EE, 0x00ABBF0013EF, 0x00FB0500FB06, 0x00FB0600FB05,
  0x00FF2100FF41, 0x00FF2200FF42, 0x00FF2300FF43, 0x00FF2400FF44, 0x00FF2500FF45, 0x00FF2600FF46,
  0x00FF2700FF47, 0x00FF2800FF48, 0x00FF2900FF49, 0x00FF2A00FF4A, 0x00FF2B00FF4B, 0x00FF2C00FF4C,
  0x00FF2D00FF4D, 0x00FF2E00FF4E, 0x00FF2F00FF4F, 0x00FF3000FF50, 0x00FF3100FF51, 0x00FF3200FF52,
  0x00FF3300FF53, 0x00FF3400FF54, 0x00FF3500FF55, 0x00FF3600FF56, 0x00FF3700FF57, 0x00FF3800FF58,
  0x00FF3900FF59, 0x00FF3A00FF5A, 0x00FF4100FF21, 0x00FF4200FF22, 0x00FF4300FF23, 0x00FF4400FF24,
  0x00FF4500FF25, 0x00FF4600FF26, 0x00FF4700FF27, 0x00FF4800FF28, 0x00FF4900FF29, 0x00FF4A00FF2A,
  0x00FF4B00FF2B, 0x00FF4C00FF2C, 0x00FF4D00FF2D, 0x00FF4E00FF2E, 0x00FF4F00FF2F, 0x00FF5000FF30,
  0x00FF5100FF31, 0x00FF5200FF32, 0x00FF5300FF33, 0x00FF5400FF34, 0x00FF5500FF35, 0x00FF5600FF36,
  0x00FF5700FF37, 0x00FF5800FF38, 0x00FF5900FF39, 0x00FF5A00FF3A, 0x010400010428, 0x010401010429,
  0x01040201042A, 0x01040301042B, 0x01040401042C, 0x01040501042D, 0x01040601042E, 0x01040701042F,
  0x010408010430, 0x010409010431, 0x01040A010432, 0x01040B010433, 0x01040C010434, 0x01040D010435,
  0x01040E010436, 0x01040F010437, 0x010410010438, 0x010411010439, 0x01041201043A, 0x01041301043B,
  0x01041401043C, 0x01041501043D, 0x01041601043E, 0x01041701043F, 0x010418010440, 0x010419010441,
  0x01041A010442, 0x01041B010443, 0x01041C010444, 0x01041D010445, 0x01041E010446, 0x01041F010447,
  0x010420010448, 0x010421010449, 0x01042201044A, 0x01042301044B, 0x01042401044C, 0x01042501044D,
  0x01042601044E, 0x01042701044F, 0x010428010400, 0x010429010401, 0x01042A010402, 0x01042B010403,
  0x01042C010404, 0x01042D010405, 0x01042E010406, 0x01042F010407, 0x010430010408, 0x010431010409,
  0x01043201040A, 0x01043301040B, 0x01043401040C, 0x01043501040D, 0x01043601040E, 0x01043701040F,
  0x010438010410, 0x010439010411, 0x01043A010412, 0x01043B010413, 0x01043C010414, 0x01043D010415,
  0x01043E010416, 0x01043F010417, 0x010440010418, 0x010441010419, 0x01044201041A, 0x01044301041B,
  0x01044401041C, 0x01044501041D, 0x01044601041E, 0x01044701041F, 0x010448010420, 0x010449010421,
  0x01044A010422, 0x01044B010423, 0x01044C010424, 0x01044D010425, 0x01044E010426, 0x01044F010427,
  0x0104B00104D8, 0x0104B10104D9, 0x0104B20104DA, 0x0104B30104DB, 0x0104B40104DC, 0x0104B50104DD,
  0x0104B60104DE, 0x0104B70104DF, 0x0104B80104E0, 0x0104B90104E1, 0x0104BA0104E2, 0x0104BB0104E3,
  0x0104BC0104E4, 0x0104BD0104E5, 0x0104BE0104E6, 0x0104BF0104E7, 0x0104C00104E8, 0x0104C10104E9,
  0x0104C20104EA, 0x0104C30104EB, 0x0104C40104EC, 0x0104C50104ED, 0x0104C60104EE, 0x0104C70104EF,
  0x0104C80104F0, 0x0104C90104F1, 0x0104CA0104F2, 0x0104CB0104F3, 0x0104CC0104F4, 0x0104CD0104F5,
  0x0104CE0104F6, 0x0104CF0104F7, 0x0104D00104F8, 0x0104D10104F9, 0x0104D20104FA, 0x0104D30104FB,
  0x0104D80104B0, 0x0104D90104B1, 0x0104DA0104B2, 0x0104DB0104B3, 0x0104DC0104B4, 0x0104DD0104B5,
  0x0104DE0104B6, 0x0104DF0104B7, 0x0104E00104B8, 0x0104E10104B9, 0x0104E20104BA, 0x0104E30104BB,
  0x0104E40104BC, 0x0104E50104BD, 0x0104E60104BE, 0x0104E70104BF, 0x0104E80104C0, 0x0104E90104C1,
  0x0104EA0104C2, 0x0104EB0104C3, 0x0104EC0104C4, 0x0104ED0104C5, 0x0104EE0104C6, 0x0104EF0104C7,
  0x0104F00104C8, 0x0104F10104C9, 0x0104F20104CA, 0x0104F30104CB, 0x0104F40104CC, 0x0104F50104CD,
  0x0104F60104CE, 0x0104F70104CF, 0x0104F80104D0, 0x0104F90104D1, 0x0104FA0104D2, 0x0104FB0104D3,
  0x010570010597, 0x010571010598, 0x010572010599, 0x01057301059A, 0x01057401059B, 0x01057501059C,
  0x01057601059D, 0x01057701059E, 0x01057801059F, 0x0105790105A0, 0x01057A0105A1, 0x01057C0105A3,
  0x01057D0105A4, 0x01057E0105A5, 0x01057F0105A6, 0x0105800105A7, 0x0105810105A8, 0x0105820105A9,
  0x0105830105AA, 0x0105840105AB, 0x0105850105AC, 0x0105860105AD, 0x0105870105AE, 0x0105880105AF,
  0x0105890105B0, 0x01058A0105B1, 0x01058C0105B3, 0x01058D0105B4, 0x01058E0105B5, 0x01058F0105B6,
  0x0105900105B7, 0x0105910105B8, 0x0105920105B9, 0x0105940105BB, 0x0105950105BC, 0x010597010570,
  0x010598010571, 0x010599010572, 0x01059A010573, 0x01059B010574, 0x01059C010575, 0x01059D010576,
  0x01059E010577, 0x01059F010578, 0x0105A0010579, 0x0105A101057A, 0x0105A301057C, 0x0105A401057D,
  0x0105A501057E, 0x0105A601057F, 0x0105A7010580, 0x0105A8010581, 0x0105A9010582, 0x0105AA010583,
  0x0105AB010584, 0x0105AC010585, 0x0105AD010586, 0x0105AE010587, 0x0105AF010588, 0x0105B0010589,
  0x0105B101058A, 0x0105B301058C, 0x0105B401058D, 0x0105B501058E, 0x0105B601058F, 0x0105B7010590,
  0x0105B8010591, 0x0105B9010592, 0x0105BB010594, 0x0105BC010595, 0x010C80010CC0, 0x010C81010CC1,
  0x010C82010CC2, 0x010C83010CC3, 0x010C84010CC4, 0x010C85010CC5, 0x010C86010CC6, 0x010C87010CC7,
  0x010C88010CC8, 0x010C89010CC9, 0x010C8A010CCA, 0x010C8B010CCB, 0x010C8C010CCC, 0x010C8D010CCD,
  0x010C8E010CCE, 0x010C8F010CCF, 0x010C90010CD0, 0x010C91010CD1, 0x010C92010CD2, 0x010C93010CD3,
  0x010C94010CD4, 0x010C95010CD5, 0x010C96010CD6, 0x010C97010CD7, 0x010C98010CD8, 0x010C99010CD9,
  0x010C9A010CDA, 0x010C9B010CDB, 0x010C9C010CDC, 0x010C9D010CDD, 0x010C9E010CDE, 0x010C9F010CDF,
  0x010CA0010CE0, 0x010CA1010CE1, 0x010CA2010CE2, 0x010CA3010CE3, 0x010CA4010CE4, 0x010CA5010CE5,
  0x010CA6010CE6, 0x010CA7010CE7, 0x010CA8010CE8, 0x010CA9010CE9, 0x010CAA010CEA, 0x010CAB010CEB,
  0x010CAC010CEC, 0x010CAD010CED, 0x010CAE010CEE, 0x010CAF010CEF, 0x010CB0010CF0, 0x010CB1010CF1,
  0x010CB2010CF2, 0x010CC0010C80, 0x010CC1010C81, 0x010CC2010C82, 0x010CC3010C83, 0x010CC4010C84,
  0x010CC5010C85, 0x010CC6010C86, 0x010CC7010C87, 0x010CC8010C88, 0x010CC9010C89, 0x010CCA010C8A,
  0x010CCB010C8B, 0x010CCC010C8C, 0x010CCD010C8D, 0x010CCE010C8E, 0x010CCF010C8F, 0x010CD0010C90,
  0x010CD1010C91, 0x010CD2010C92, 0x010CD3010C93, 0x010CD4010C94, 0x010CD5010C95, 0x010CD6010C96,
  0x010CD7010C97, 0x010CD8010C98, 0x010CD9010C99, 0x010CDA010C9A, 0x010CDB010C9B, 0x010CDC010C9C,
  0x010CDD010C9D, 0x010CDE010C9E, 0x010CDF010C9F, 0x010CE0010CA0, 0x010CE1010CA1, 0x010CE2010CA2,
  0x010CE3010CA3, 0x010CE4010CA4, 0x010CE5010CA5, 0x010CE6010CA6, 0x010CE7010CA7, 0x010CE8010CA8,
  0x010CE9010CA9, 0x010CEA010CAA, 0x010CEB010CAB, 0x010CEC010CAC, 0x010CED010CAD, 0x010CEE010CAE,
  0x010CEF010CAF, 0x010CF0010CB0, 0x010CF1010CB1, 0x010CF2010CB2, 0x010D50010D70, 0x010D51010D71,
  0x010D52010D72, 0x010D53010D73, 0x010D54010D74, 0x010D55010D75, 0x010D56010D76, 0x010D57010D77,
  0x010D58010D78, 0x010D59010D79, 0x010D5A010D7A, 0x010D5B010D7B, 0x010D5C010D7C, 0x010D5D010D7D,
  0x010D5E010D7E, 0x010D5F010D7F, 0x010D60010D80, 0x010D61010D81, 0x010D62010D82, 0x010D63010D83,
  0x010D64010D84, 0x010D65010D85, 0x010D70010D50, 0x010D71010D51, 0x010D72010D52, 0x010D73010D53,
  0x010D74010D54, 0x010D75010D55, 0x010D76010D56, 0x010D77010D57, 0x010D78010D58, 0x010D79010D59,
  0x010D7A010D5A, 0x010D7B010D5B, 0x010D7C010D5C, 0x010D7D010D5D, 0x010D7E010D5E, 0x010D7F010D5F,
  0x010D80010D60, 0x010D81010D61, 0x010D82010D62, 0x010D83010D63, 0x010D84010D64, 0x010D85010D65,
  0x0118A00118C0, 0x0118A10118C1, 0x0118A20118C2, 0x0118A30118C3, 0x0118A40118C4, 0x0118A50118C5,
  0x0118A60118C6, 0x0118A70118C7, 0x0118A80118C8, 0x0118A90118C9, 0x0118AA0118CA, 0x0118AB0118CB,
  0x0118AC0118CC, 0x0118AD0118CD, 0x0118AE0118CE, 0x0118AF0118CF, 0x0118B00118D0, 0x0118B10118D1,
  0x0118B20118D2, 0x0118B30118D3, 0x0118B40118D4, 0x0118B50118D5, 0x0118B60118D6, 0x0118B70118D7,
  0x0118B80118D8, 0x0118B90118D9, 0x0118BA0118DA, 0x0118BB0118DB, 0x0118BC0118DC, 0x0118BD0118DD,
  0x0118BE0118DE, 0x0118BF0118DF, 0x0118C00118A0, 0x0118C10118A1, 0x0118C20118A2, 0x0118C30118A3,
  0x0118C40118A4, 0x0118C50118A5, 0x0118C60118A6, 0x0118C70118A7, 0x0118C80118A8, 0x0118C90118A9,
  0x0118CA0118AA, 0x0118CB0118AB, 0x0118CC0118AC, 0x0118CD0118AD, 0x0118CE0118AE, 0x0118CF0118AF,
  0x0118D00118B0, 0x0118D10118B1, 0x0118D20118B2, 0x0118D30118B3, 0x0118D40118B4, 0x0118D50118B5,
  0x0118D60118B6, 0x0118D70118B7, 0x0118D80118B8, 0x0118D90118B9, 0x0118DA0118BA, 0x0118DB0118BB,
  0x0118DC0118BC, 0x0118DD0118BD, 0x0118DE0118BE, 0x0118DF0118BF, 0x016E40016E60, 0x016E41016E61,
  0x016E42016E62, 0x016E43016E63, 0x016E44016E64, 0x016E45016E65, 0x016E46016E66, 0x016E47016E67,
  0x016E48016E68, 0x016E49016E69, 0x016E4A016E6A, 0x016E4B016E6B, 0x016E4C016E6C, 0x016E4D016E6D,
  0x016E4E016E6E, 0x016E4F016E6F, 0x016E50016E70, 0x016E51016E71, 0x016E52016E72, 0x016E53016E73,
  0x016E54016E74, 0x016E55016E75, 0x016E56016E76, 0x016E57016E77, 0x016E58016E78, 0x016E59016E79,
  0x016E5A016E7A, 0x016E5B016E7B, 0x016E5C016E7C, 0x016E5D016E7D, 0x016E5E016E7E, 0x016E5F016E7F,
  0x016E60016E40, 0x016E61016E41, 0x016E62016E42, 0x016E63016E43, 0x016E64016E44, 0x016E65016E45,
  0x016E66016E46, 0x016E67016E47, 0x016E68016E48, 0x016E69016E49, 0x016E6A016E4A, 0x016E6B016E4B,
  0x016E6C016E4C, 0x016E6D016E4D, 0x016E6E016E4E, 0x016E6F016E4F, 0x016E70016E50, 0x016E71016E51,
  0x016E72016E52, 0x016E73016E53, 0x016E74016E54, 0x016E75016E55, 0x016E76016E56, 0x016E77016E57,
  0x016E78016E58, 0x016E79016E59, 0x016E7A016E5A, 0x016E7B016E5B, 0x016E7C016E5C, 0x016E7D016E5D,
  0x016E7E016E5E, 0x016E7F016E5F, 0x016EA0016EBB, 0x016EA1016EBC, 0x016EA2016EBD, 0x016EA3016EBE,
  0x016EA4016EBF, 0x016EA5016EC0, 0x016EA6016EC1, 0x016EA7016EC2, 0x016EA8016EC3, 0x016EA9016EC4,
  0x016EAA016EC5, 0x016EAB016EC6, 0x016EAC016EC7, 0x016EAD016EC8, 0x016EAE016EC9, 0x016EAF016ECA,
  0x016EB0016ECB, 0x016EB1016ECC, 0x016EB2016ECD, 0x016EB3016ECE, 0x016EB4016ECF, 0x016EB5016ED0,
  0x016EB6016ED1, 0x016EB7016ED2, 0x016EB8016ED3, 0x016EBB016EA0, 0x016EBC016EA1, 0x016EBD016EA2,
  0x016EBE016EA3, 0x016EBF016EA4, 0x016EC0016EA5, 0x016EC1016EA6, 0x016EC2016EA7, 0x016EC3016EA8,
  0x016EC4016EA9, 0x016EC5016EAA, 0x016EC6016EAB, 0x016EC7016EAC, 0x016EC8016EAD, 0x016EC9016EAE,
  0x016ECA016EAF, 0x016ECB016EB0, 0x016ECC016EB1, 0x016ECD016EB2, 0x016ECE016EB3, 0x016ECF016EB4,
  0x016ED0016EB5, 0x016ED1016EB6, 0x016ED2016EB7, 0x016ED3016EB8, 0x01E90001E922, 0x01E90101E923,
  0x01E90201E924, 0x01E90301E925, 0x01E90401E926, 0x01E90501E927, 0x01E90601E928, 0x01E90701E929,
  0x01E90801E92A, 0x01E90901E92B, 0x01E90A01E92C, 0x01E90B01E92D, 0x01E90C01E92E, 0x01E90D01E92F,
  0x01E90E01E930, 0x01E90F01E931, 0x01E91001E932, 0x01E91101E933, 0x01E91201E934, 0x01E91301E935,
  0x01E91401E936, 0x01E91501E937, 0x01E91601E938, 0x01E91701E939, 0x01E91801E93A, 0x01E91901E93B,
  0x01E91A01E93C, 0x01E91B01E93D, 0x01E91C01E93E, 0x01E91D01E93F, 0x01E91E01E940, 0x01E91F01E941,
  0x01E92001E942, 0x01E92101E943, 0x01E92201E900, 0x01E92301E901, 0x01E92401E902, 0x01E92501E903,
  0x01E92601E904, 0x01E92701E905, 0x01E92801E906, 0x01E92901E907, 0x01E92A01E908, 0x01E92B01E909,
  0x01E92C01E90A, 0x01E92D01E90B, 0x01E92E01E90C, 0x01E92F01E90D, 0x01E93001E90E, 0x01E93101E90F,
  0x01E93201E910, 0x01E93301E911, 0x01E93401E912, 0x01E93501E913, 0x01E93601E914, 0x01E93701E915,
  0x01E93801E916, 0x01E93901E917, 0x01E93A01E918, 0x01E93B01E919, 0x01E93C01E91A, 0x01E93D01E91B,
  0x01E93E01E91C, 0x01E93F01E91D, 0x01E94001E91E, 0x01E94101E91F, 0x01E94201E920, 0x01E94301E921]

end Lexicon.Unicode
