import SchemaVisibility.Text.Plane.Gb2312

/-! # The sets beyond GB 2312

GBK puts the ideographs that GB 2312 leaves out on the codes that it leaves free, in the order of
Unicode, and GB 18030 adds private and rare characters to it.
-/

namespace SchemaVisibility.Text.Plane

/-- The signs that GBK adds, and those that it reads in another way. -/
def gbkSigns : Plane :=
  .ofRows [
    (0xA1A4, "·�����—"), (0xA2A1, "ⅰⅱⅲⅳⅴⅵⅶⅷⅸⅹ"), (0xA6E0, "︵︶︹︺︿﹀︽︾﹁﹂﹃﹄��︻︼︷︸︱�︳︴"),
    (0xA840, "ˊˋ˙–―‥‵℅℉↖↗↘↙∕∟∣≒≦≧⊿═║╒╓╔╕╖╗╘╙╚╛╜╝╞╟╠╡╢╣╤╥╦╧╨╩╪╫"),
    (0xA870, "╬╭╮╯╰╱╲╳▁▂▃▄▅▆▇�█▉▊▋▌▍▎▏▓▔▕▼▽◢◣◤◥☉⊕〒〝〞"), (0xA8BB, "ɑ�ńň�ɡ"),
    (0xA940, "〡〢〣〤〥〦〧〨〩㊣㎎㎏㎜㎝㎞㎡㏄㏎㏑㏒㏕︰￢￤�℡㈱�‐���ー゛゜ヽヾ〆ゝゞ﹉﹊﹋﹌﹍﹎﹏﹐﹑﹒﹔﹕﹖﹗﹙﹚﹛﹜﹝﹞﹟﹠﹡�﹢﹣﹤﹥﹦﹨﹩﹪﹫"),
    (0xA996, "〇"), (0xFD9C, "\uf92c\uf979\uf995\uf9e7\uf9f1"),
    (0xFE40, "\ufa0c\ufa0d﨎﨏﨑﨓﨔\ufa18﨟\ufa20﨡﨣﨤﨧﨨﨩")]

/-- The ideographs that GBK adds. -/
def gbkIdeographs : Plane :=
  let rows (leads : List Nat) (columns : List (Nat × Nat)) : List (Nat × Nat) :=
    leads.flatMap fun lead => columns.map fun (first, size) => (0x100 * lead + first, size)
  .fill (rows (List.range' 0x81 0x20) [(0x40, 0x3F), (0x80, 0x7F)] ++
    rows (List.range' 0xAA 0x55) [(0x40, 0x3F), (0x80, 0x21)]) (gb2312.absent 0x4E00 0x51A6)

/-- The rare characters that GB 18030 adds. -/
def gb18030Signs : Plane :=
  .ofRows [
    (0xA2E3, "€"), (0xA8BF, "ǹ"), (0xA989, "〾⿰⿱⿲⿳⿴⿵⿶⿷⿸⿹⿺⿻"),
    (0xFE50, "⺁���⺄㑳㑇⺈⺋�㖞㘚㘎⺌⺗㥮㤘�㧏㧟㩳㧐��㭎㱮㳠⺧��⺪䁖䅟⺮䌷⺳⺶⺷�䎱䎬⺻䏝䓖䙡䙌��䜣䜩䝼䞍⻊䥇䥺䥽䦂䦃䦅䦆䦟䦛䦷䦶��䲣䲟䲠䲡䱷䲢䴓䴔䴕䴖䴗䴘䴙䶮")]

/-- The private characters that GB 18030 adds. -/
def gb18030Private : Plane :=
  .ofRanges [
    (0xA140, 0x003F, 0xE4C6), (0xA180, 0x0021, 0xE505), (0xA240, 0x003F, 0xE526),
    (0xA280, 0x0021, 0xE565), (0xA2AB, 0x0006, 0xE766), (0xA2E4, 0x0001, 0xE76D),
    (0xA2EF, 0x0002, 0xE76E), (0xA2FD, 0x0002, 0xE770), (0xA340, 0x003F, 0xE586),
    (0xA380, 0x0021, 0xE5C5), (0xA440, 0x003F, 0xE5E6), (0xA480, 0x0021, 0xE625),
    (0xA4F4, 0x000B, 0xE772), (0xA540, 0x003F, 0xE646), (0xA580, 0x0021, 0xE685),
    (0xA5F7, 0x0008, 0xE77D), (0xA640, 0x003F, 0xE6A6), (0xA680, 0x0021, 0xE6E5),
    (0xA6B9, 0x0008, 0xE785), (0xA6D9, 0x0007, 0xE78D), (0xA6EC, 0x0002, 0xE794),
    (0xA6F3, 0x0001, 0xE796), (0xA6F6, 0x0009, 0xE797), (0xA740, 0x003F, 0xE706),
    (0xA780, 0x0021, 0xE745), (0xA7C2, 0x000F, 0xE7A0), (0xA7F2, 0x000D, 0xE7AF),
    (0xA896, 0x000B, 0xE7BC), (0xA8BC, 0x0001, 0xE7C7), (0xA8C1, 0x0004, 0xE7C9),
    (0xA8EA, 0x0015, 0xE7CD), (0xA958, 0x0001, 0xE7E2), (0xA95B, 0x0001, 0xE7E3),
    (0xA95D, 0x0003, 0xE7E4), (0xA997, 0x000D, 0xE7F4), (0xA9F0, 0x000F, 0xE801),
    (0xAAA1, 0x005E, 0xE000), (0xABA1, 0x005E, 0xE05E), (0xACA1, 0x005E, 0xE0BC),
    (0xADA1, 0x005E, 0xE11A), (0xAEA1, 0x005E, 0xE178), (0xAFA1, 0x005E, 0xE1D6),
    (0xD7FA, 0x0005, 0xE810), (0xF8A1, 0x005E, 0xE234), (0xF9A1, 0x005E, 0xE292),
    (0xFAA1, 0x005E, 0xE2F0), (0xFBA1, 0x005E, 0xE34E), (0xFCA1, 0x005E, 0xE3AC),
    (0xFDA1, 0x005E, 0xE40A), (0xFE51, 0x0003, 0xE816), (0xFE59, 0x0001, 0xE81E),
    (0xFE61, 0x0001, 0xE826), (0xFE66, 0x0002, 0xE82B), (0xFE6C, 0x0002, 0xE831),
    (0xFE76, 0x0001, 0xE83B), (0xFE7E, 0x0001, 0xE843), (0xFE90, 0x0002, 0xE854),
    (0xFEA0, 0x0001, 0xE864), (0xFEA1, 0x005E, 0xE468)]

/-- Where runs of characters with codes of four bytes start: the place among all such codes, and the
number of the character. -/
def gb18030Starts : List (Nat × Nat) :=
  [
    (0x0000, 0x0080), (0x0024, 0x00A5), (0x0026, 0x00A9), (0x002D, 0x00B2), (0x0032, 0x00B8),
    (0x0051, 0x00D8), (0x0059, 0x00E2), (0x005F, 0x00EB), (0x0060, 0x00EE), (0x0064, 0x00F4),
    (0x0067, 0x00F8), (0x0068, 0x00FB), (0x0069, 0x00FD), (0x006D, 0x0102), (0x007E, 0x0114),
    (0x0085, 0x011C), (0x0094, 0x012C), (0x00AC, 0x0145), (0x00AF, 0x0149), (0x00B3, 0x014E),
    (0x00D0, 0x016C), (0x0132, 0x01CF), (0x0133, 0x01D1), (0x0134, 0x01D3), (0x0135, 0x01D5),
    (0x0136, 0x01D7), (0x0137, 0x01D9), (0x0138, 0x01DB), (0x0139, 0x01DD), (0x0155, 0x01FA),
    (0x01AC, 0x0252), (0x01BB, 0x0262), (0x0220, 0x02C8), (0x0221, 0x02CC), (0x022E, 0x02DA),
    (0x02E5, 0x03A2), (0x02E6, 0x03AA), (0x02ED, 0x03C2), (0x02EE, 0x03CA), (0x0325, 0x0402),
    (0x0333, 0x0450), (0x0334, 0x0452), (0x1EF2, 0x2011), (0x1EF4, 0x2017), (0x1EF5, 0x201A),
    (0x1EF7, 0x201E), (0x1EFE, 0x2027), (0x1F07, 0x2031), (0x1F08, 0x2034), (0x1F09, 0x2036),
    (0x1F0E, 0x203C), (0x1F7E, 0x20AD), (0x1FD4, 0x2104), (0x1FD5, 0x2106), (0x1FD8, 0x210A),
    (0x1FE4, 0x2117), (0x1FEE, 0x2122), (0x202C, 0x216C), (0x2030, 0x217A), (0x2046, 0x2194),
    (0x2048, 0x219A), (0x20B6, 0x2209), (0x20BC, 0x2210), (0x20BD, 0x2212), (0x20C0, 0x2216),
    (0x20C4, 0x221B), (0x20C6, 0x2221), (0x20C8, 0x2224), (0x20C9, 0x2226), (0x20CA, 0x222C),
    (0x20CC, 0x222F), (0x20D1, 0x2238), (0x20D6, 0x223E), (0x20E0, 0x2249), (0x20E3, 0x224D),
    (0x20E8, 0x2253), (0x20F5, 0x2262), (0x20F7, 0x2268), (0x20FD, 0x2270), (0x2122, 0x2296),
    (0x2125, 0x229A), (0x2130, 0x22A6), (0x2149, 0x22C0), (0x219B, 0x2313), (0x22E8, 0x246A),
    (0x22F2, 0x249C), (0x2356, 0x254C), (0x235A, 0x2574), (0x2367, 0x2590), (0x236A, 0x2596),
    (0x2374, 0x25A2), (0x2384, 0x25B4), (0x238C, 0x25BE), (0x2394, 0x25C8), (0x2397, 0x25CC),
    (0x2399, 0x25D0), (0x23AB, 0x25E6), (0x23CA, 0x2607), (0x23CC, 0x260A), (0x2402, 0x2641),
    (0x2403, 0x2643), (0x2C41, 0x2E82), (0x2C43, 0x2E85), (0x2C46, 0x2E89), (0x2C48, 0x2E8D),
    (0x2C52, 0x2E98), (0x2C61, 0x2EA8), (0x2C63, 0x2EAB), (0x2C66, 0x2EAF), (0x2C6A, 0x2EB4),
    (0x2C6C, 0x2EB8), (0x2C6F, 0x2EBC), (0x2C7D, 0x2ECB), (0x2DA2, 0x2FFC), (0x2DA6, 0x3004),
    (0x2DA7, 0x3018), (0x2DAC, 0x301F), (0x2DAE, 0x302A), (0x2DC2, 0x303F), (0x2DC4, 0x3094),
    (0x2DCB, 0x309F), (0x2DCD, 0x30F7), (0x2DD2, 0x30FF), (0x2DD8, 0x312A), (0x2ECE, 0x322A),
    (0x2ED5, 0x3232), (0x2F46, 0x32A4), (0x3030, 0x3390), (0x303C, 0x339F), (0x303E, 0x33A2),
    (0x3060, 0x33C5), (0x3069, 0x33CF), (0x306B, 0x33D3), (0x306D, 0x33D6), (0x30DE, 0x3448),
    (0x3109, 0x3474), (0x3233, 0x359F), (0x32A2, 0x360F), (0x32AD, 0x361B), (0x35AA, 0x3919),
    (0x35FF, 0x396F), (0x365F, 0x39D1), (0x366D, 0x39E0), (0x3700, 0x3A74), (0x37DA, 0x3B4F),
    (0x38F9, 0x3C6F), (0x396A, 0x3CE1), (0x3CDF, 0x4057), (0x3DE7, 0x4160), (0x3FBE, 0x4338),
    (0x4032, 0x43AD), (0x4036, 0x43B2), (0x4061, 0x43DE), (0x4159, 0x44D7), (0x42CE, 0x464D),
    (0x42E2, 0x4662), (0x43A3, 0x4724), (0x43A8, 0x472A), (0x43FA, 0x477D), (0x440A, 0x478E),
    (0x45C3, 0x4948), (0x45F5, 0x497B), (0x45F7, 0x497E), (0x45FB, 0x4984), (0x45FC, 0x4987),
    (0x4610, 0x499C), (0x4613, 0x49A0), (0x4629, 0x49B8), (0x48E8, 0x4C78), (0x490F, 0x4CA4),
    (0x497E, 0x4D1A), (0x4A12, 0x4DAF), (0x4A63, 0x9FA6), (0x82BD, 0xE76C), (0x82BE, 0xE7C8),
    (0x82BF, 0xE7E7), (0x82CC, 0xE815), (0x82CD, 0xE819), (0x82D2, 0xE81F), (0x82D9, 0xE827),
    (0x82DD, 0xE82D), (0x82E1, 0xE833), (0x82E9, 0xE83C), (0x82F0, 0xE844), (0x8300, 0xE856),
    (0x830E, 0xE865), (0x93D5, 0xF92D), (0x9421, 0xF97A), (0x943C, 0xF996), (0x948D, 0xF9E8),
    (0x9496, 0xF9F2), (0x94B0, 0xFA10), (0x94B1, 0xFA12), (0x94B2, 0xFA15), (0x94B5, 0xFA19),
    (0x94BB, 0xFA22), (0x94BC, 0xFA25), (0x94BE, 0xFA2A), (0x98C4, 0xFE32), (0x98C5, 0xFE45),
    (0x98C9, 0xFE53), (0x98CA, 0xFE58), (0x98CB, 0xFE67), (0x98CC, 0xFE6C), (0x9961, 0xFF5F),
    (0x99E2, 0xFFE6)]

end SchemaVisibility.Text.Plane
