import LineSieve.Unicode.Table

/-!
# Scripts

The script of a character, and where they differ the wider set of characters that are
also used with a script. Names are in their folded spelling, the short code first;
ranges are in the compact notation of `Table.decode`.
-/

namespace LineSieve.Unicode

def scriptTable : List (List String × String) := [
  (["adlm", "adlam"],
    "Zwe0YB4941"),
  (["ahom"],
    "Ybu0Q2E4M"),
  (["hluw", "anatolianhieroglyphs"],
    "YnW0o6"),
  (["arab", "arabic"],
    "Xm04151D121V19BP1ZB1X1YGXFdGU115YA1SXyoGZIGhA2YF2XL70X0FZG41a6Zx3UY32XN3Xtu031Q11102019131" ++
    "01060401010121110201010101011102316131310191G52141GXK1"),
  (["armn", "armenian"],
    "XfHX52XH22Xzi34"),
  (["avst", "avestan"],
    "YYu0XL36"),
  (["bali", "balinese"],
    "cu0YC1XH"),
  (["bamu", "bamum"],
    "Xfr0YNXme8nO"),
  (["bass", "bassavah"],
    "YwsGT25"),
  (["batk", "batak"],
    "c+0XJ83"),
  (["beng", "bengali"],
    "Yi0317212L1610332821238041142O"),
  (["bhks", "bhaiksuki"],
    "YdW081XC1DAS"),
  (["bopo", "bopomofo"],
    "tA1hmPXAZGV"),
  (["brah", "brahmi"],
    "YaW0YD4X390"),
  (["brai", "braille"],
    "gW0dV"),
  (["bugi", "buginese"],
    "cm0R21"),
  (["buhd", "buhid"],
    "bw0J"),
  (["cans", "canadianaboriginal"],
    "bW0pVnGY5YWjQF"),
  (["cari", "carian"],
    "YWr0XG"),
  (["aghb", "caucasianalbanian"],
    "YXfGXJB0"),
  (["cakm", "chakma"],
    "Yae0XK1H"),
  (["cham"],
    "Xgm0XM9D2923"),
  (["cher", "cherokee"],
    "az0YL25XbxIYF"),
  (["chrs", "chorasmian"],
    "YZzGR"),
  (["zyyy", "common"],
    "0Y0Q5QXE1E14N0V0k1X6542JZK0906010pT060E030X00aS0m40a11XcP0iL3f20XlF2Y71cB110XcD0D073151220" ++
    "u5B2YM1A3A1EHX0XVX512251Q1GX924qPMALyVe0pJ2V1Z8m0YTiIK101OF743YR130YQ1aJFX0X590XGXVVYGXF0Y" ++
    "Ob7ck0XVse0X1Z62b59dK0b00iB0E1qkI1cG9MX21I13aJ01VQ5QAA0XD1Y0616A4e224XC38YGCXJXCd4QXkj43Zw" ++
    "SdP6jJaSZJXSdLAX62XT3G817T4XScLJCJCYM9Oa7YK1Y6112021231B10161Y01327161R131410361gJ2f32XHbZ" ++
    "HY3YCXSs2XB4Z3CE2E1E1X4AbDXOP11DXB4871E5aQ+N4G3C3ZM4YU6B40FB4XN896X78T2B41XUgJCD2C395XN7E2" ++
    "A687aI1Z5uXW70UYV"),
  (["copt", "coptic", "qaac"],
    "=2DgaGZJ56"),
  (["xsux", "cuneiform"],
    "YeW0yPZ6ZE14Bc3"),
  (["cprt", "cypriot"],
    "YYW05201XB113020"),
  (["cpmn", "cyprominoan"],
    "YhyGZ2"),
  (["cyrl", "cyrillic"],
    "XW0a42b8bwGAb00YC0aZ7V+Y0YVryE1Xum0XTX10"),
  (["dsrt", "deseret"],
    "YXW0YF"),
  (["deva", "devanagari"],
    "Ye0YG4E2PXdx0Vym09"),
  (["diak", "divesakuru"],
    "Yce062027111T112B99"),
  (["dogr", "dogra"],
    "YcW0XR"),
  (["dupl", "duployan"],
    "ZlW0ZA5C387923"),
  (["egyp", "egyptianhieroglyphs"],
    "YiW0XYLAZyQ"),
  (["elba", "elbasan"],
    "YXe0X7"),
  (["elym", "elymaic"],
    "YZ=0M"),
  (["ethi", "ethiopic"],
    "am0Y8132610132X8132X0132610132E1XO132Y22V3Pcl6M9616161616161616=f2525259616YlbH613111E"),
  (["gara", "garay"],
    "YZg0X53S81"),
  (["geor", "georgian"],
    "ab0X510502XA13YyGXA22aY0X51050"),
  (["glag", "glagolitic"],
    "hW0YVZiz061G261114"),
  (["goth", "gothic"],
    "YWvGQ"),
  (["gran", "grantha"],
    "Yau0317212L1611142821222060562634"),
  (["grek", "greek"],
    "xG3122310401012101J1XUEFcf64XI444YK0g0L252X525271010101U2XK1E1D251I2218f70XYnU0rkQYEH0XqYV" ++
    "Y5"),
  (["gujr", "gujarati"],
    "Yq1218121L16111429121220F32B76"),
  (["gong", "gunjalagondi"],
    "Ydh05111X4111579"),
  (["guru", "gurmukhi"],
    "Ym1215412L16111111201441223073107G"),
  (["gukh", "gurungkhema"],
    "Yue0XP"),
  (["hani", "han"],
    "hq0P1YOCcLXF010P8E3+4cjVY0qlVse0hD2Z9ze81C1XaWEXfsVX0aXP6cT2bq1EdfGFpDYj2mTXl2awA5aYV"),
  (["hang", "hangul"],
    "ae0dVdnE1e1YTZHUY1Uzt1Sq3gz3CM4XGfz4U35252522"),
  (["rohg", "hanifirohingya"],
    "YZe0X789"),
  (["hano", "hanunoo"],
    "bv0K"),
  (["hatr", "hatran"],
    "YYd0I1154"),
  (["hebr", "hebrew"],
    "XiHXM8Q45Xzf8P1410111119"),
  (["hira", "hiragana"],
    "iY1YL62Y=x1eUI0T2mbD0"),
  (["armi", "imperialaramaic"],
    "YYY0L18"),
  (["zinh", "inherited", "qaai"],
    "u0ZFeL1k4AQ0t03agRUm121C16406031c6XVmC1c2X0ZvP3ZB1Xph5FGD+F0d20aYQ0Xk+4XD2Mn02H726U3uhwIdF"),
  (["phli", "inscriptionalpahlavi"],
    "YYx0I57"),
  (["prti", "inscriptionalparthian"],
    "YYw0L27"),
  (["java", "javanese"],
    "Xgi0YD2941"),
  (["kthi", "kaithi"],
    "Yaa0Y2A0"),
  (["knda", "kannada"],
    "Za0C121M19142812137161132912"),
  (["kana", "katakana"],
    "ib1YP22dGFcGXE1YNXpWE91XCXiYI3161110eV2XI0E3"),
  (["kawi"],
    "Ydu0G1X83S"),
  (["kali", "kayahli"],
    "Xge0XD10"),
  (["khar", "kharoshthi"],
    "YYm031157121S224978"),
  (["kits", "khitansmallscript"],
    "Yx=40cuRkLX90"),
  (["khmr", "khmer"],
    "by0YT2969l6V"),
  (["khoj", "khojki"],
    "Yam0H1XE"),
  (["sind", "khudawadi"],
    "YarGXQ59"),
  (["krai", "kiratrai"],
    "Yxg0XP"),
  (["laoo", "lao"],
    "Zq1110141N101M2410161923"),
  (["latn", "latin"],
    "Y1P6PXF0F05M1U1k0X74cmRX56XG535C1Y5Y1dVhH0D0GCaD160R0HX8YsNV+r2Z53Y2211017LDvGXA1813pyM6XW" ++
    "QP6PYX551X918Xrw5U65"),
  (["lepc", "lepcha"],
    "dW0XN3E32"),
  (["limb", "limbu"],
    "ce0U1B4B403B"),
  (["lina", "lineara"],
    "YXm0fM9LA7"),
  (["linb", "linearb"],
    "YWW0B1P1I111E2DX2ZQ"),
  (["lisu"],
    "XfcGXF+rG0"),
  (["lyci", "lycian"],
    "YWq0S"),
  (["lydi", "lydian"],
    "YYf0P50"),
  (["mahj", "mahajani"],
    "YagGX6"),
  (["maka", "makasar"],
    "Ydt0O"),
  (["mlym", "malayalam"],
    "Ze0C121XI12154F2P"),
  (["mand", "mandaic"],
    "YY0R20"),
  (["mani", "manichaean"],
    "YYs0X64B"),
  (["marc", "marchen"],
    "YdZGV2L1D"),
  (["gonm", "masaramgondi"],
    "Yde06111XB30111889"),
  (["medf", "medefaidrin"],
    "Yxo0YQ"),
  (["mtei", "meeteimayek"],
    "Xgt0Mc9XD29"),
  (["mend", "mendekikakui"],
    "ZwW0c42F"),
  (["merc", "meroiticcursive"],
    "YYj0N4J2XD"),
  (["mero", "meroitichieroglyphs"],
    "YYi0V"),
  (["plrd", "miao"],
    "Yxu0YA4XO7G"),
  (["modi"],
    "Ybm0Y4B9"),
  (["mong", "mongolian"],
    "cW01201J6YO7XAX=jLC"),
  (["mroo", "mro"],
    "Ywo0U1941"),
  (["mult", "multani"],
    "Yaq0610131E1A"),
  (["mymr", "myanmar"],
    "aW0aVXcg0UZ1VxYGJ"),
  (["nbat", "nabataean"],
    "YYa0U88"),
  (["nagm", "nagmundari"],
    "ZvcGX9"),
  (["nand", "nandinagari"],
    "Ycj072XD2A"),
  (["talu", "newtailue"],
    "ci0XB4P6A31"),
  (["newa"],
    "YbW0YR14"),
  (["nkoo", "nko"],
    "X+0XQ22"),
  (["nshu", "nushu"],
    "Yx=10miEiB"),
  (["hmnp", "nyiakengpuachuehmong"],
    "Zue0XC3D2941"),
  (["ogam", "ogham"],
    "bq0S"),
  (["olck", "olchiki"],
    "dYGXF"),
  (["onao", "olonal"],
    "ZvkGXA40"),
  (["hung", "oldhungarian"],
    "YZa0XIDXI75"),
  (["ital", "olditalic"],
    "YWu0X392"),
  (["narb", "oldnortharabian"],
    "YYq0V"),
  (["perm", "oldpermic"],
    "YWwGXA"),
  (["xpeo", "oldpersian"],
    "YWz0X34D"),
  (["sogo", "oldsogdian"],
    "YZu0X7"),
  (["sarb", "oldsoutharabian"],
    "YYp0V"),
  (["orkh", "oldturkic"],
    "YZW0Y8"),
  (["ougr", "olduyghur"],
    "YZxGP"),
  (["orya", "oriya"],
    "Yu1217212L1611142821227241142H"),
  (["osge", "osage"],
    "YXbGX34X3"),
  (["osma", "osmanya"],
    "YXa0T29"),
  (["hmng", "pahawhhmong"],
    "Ywu0Y5A9161K5I"),
  (["palm", "palmyrene"],
    "YYZ0V"),
  (["pauc", "paucinhau"],
    "Ycs0XO"),
  (["phag", "phagspa"],
    "XgY0XN"),
  (["phnx", "phoenician"],
    "YYe0R30"),
  (["phlp", "psalterpahlavi"],
    "YYy0H73C6"),
  (["rjng", "rejang"],
    "XgfGX3B0"),
  (["runr", "runic"],
    "br0YA3A"),
  (["samr", "samaritan"],
    "YW0XD2E"),
  (["saur", "saurashtra"],
    "Xga0Y58B"),
  (["shrd", "sharada"],
    "Yai0YV"),
  (["shaw", "shavian"],
    "YXYGXF"),
  (["sidd", "siddham"],
    "Ybi0XL2X5"),
  (["sgnw", "signwriting"],
    "ZsW0qBF41E"),
  (["sinh", "sinhala"],
    "Zi121H3N181026304510176922YW=CJ"),
  (["sogd", "sogdian"],
    "YZvGX9"),
  (["sora", "sorasompeng"],
    "YacGO79"),
  (["soyo", "soyombo"],
    "YcoGYI"),
  (["sund", "sundanese"],
    "cy0XVe07"),
  (["sunu", "sunuwar"],
    "Yc+0X1E9"),
  (["sylo", "sylotinagri"],
    "XgW0XC"),
  (["syrc", "syriac"],
    "Xu0D1XR22eGA"),
  (["tglg", "tagalog"],
    "bu0L90"),
  (["tagb", "tagbanwa"],
    "bx0C1211"),
  (["tale", "taile"],
    "cgGT24"),
  (["lana", "taitham"],
    "cn0XU1S2A696D"),
  (["tavt", "taiviet"],
    "Xgq0Y2O4"),
  (["takr", "takri"],
    "Ybq0XP69"),
  (["taml", "tamil"],
    "Yy2115321331101131323B4432132060EKYa+5XHD0"),
  (["tnsa", "tangsa"],
    "YwpGYE19"),
  (["tang", "tangut"],
    "Yx=00Vb=N8tVm08"),
  (["telu", "telugu"],
    "ZW0C121M1F281213711220232978"),
  (["thaa", "thaana"],
    "Xy0XH"),
  (["thai"],
    "Zm1XP5R"),
  (["tibt", "tibetan"],
    "Zu0Y71X34X61X31E1641"),
  (["tfng", "tifinagh"],
    "hfGXN71E0"),
  (["tirh", "tirhuta"],
    "Yba0Y789"),
  (["todr", "todhri"],
    "YXk0XJ"),
  (["toto"],
    "ZuqGU"),
  (["tutg", "tulutigalari"],
    "Yay0910201X519102013191181"),
  (["ugar", "ugaritic"],
    "YWy0T10"),
  (["vaii", "vai"],
    "Xfe0fB"),
  (["vith", "vithkuqi"],
    "YXhGA1E16111A1E1611"),
  (["wcho", "wancho"],
    "Zus0XP50"),
  (["wara", "warangciti"],
    "Ycb0YIC0"),
  (["yezi", "yezidi"],
    "YZq0X91221"),
  (["yiii", "yi"],
    "XeW0XaC3XM"),
  (["zanb", "zanabazarsquare"],
    "Ycm0Y7")]

/-- The characters used with a script, by its short code, where these are not just the
characters of the script. -/
def scriptExtensionTable : List (List String × String) := [
  (["adlm"],
    "XmV0X00cmE0ZlH0ZkrUYB4941"),
  (["arab"],
    "Xm041cM1X1YGXFdGU115YA1SbwF0ZlH0XpeEZIGjS2XL70X0FZG41a6=3RYx4UY32XN3Xtu031Q111020191310106" ++
    "0401010121110201010101011102316131310191G52141GXK1"),
  (["armn"],
    "u80n8X52XH22Xzi34"),
  (["avst"],
    "bN0hhO1XtcEXL36"),
  (["beng"],
    "rS0XqK1H1Q317212L1610332821238041142OasH01021108080204022XY=P0"),
  (["bopo"],
    "s7012D0G1heL2491CA32060c309XAZGVXpa51eQ4"),
  (["bugi"],
    "cm0R21XZzF0"),
  (["buhd"],
    "bvL19J"),
  (["cari"],
    "bN0dz2020ZkJ0XrZEXG"),
  (["aghb"],
    "u40XC0XC0YWkHXJB0"),
  (["cakm"],
    "Yl69XoG9YWbMXK1H"),
  (["cher"],
    "u021061M1B1aZEYL25XbxIYF"),
  (["zyyy"],
    "0Y0Q5QXE1B1114N0V0k12191030181015542JZU06010pT0cN0m40XgS0iL3aX7B2X01U1911161A3A1EHX0XVX512" ++
    "251Q1GX924qPMALyVe0pJ2V1Z8m0M1N2913101Pj2030D0D0L0mHNV0XHEC3b195YVV0ck0XVse8PZ62+G0E1qr49M" ++
    "K2B1I13aJ01VQ5Q5ZV616A4iICXJXCXom3dP6jJaSZJXSdLAX62XT3G817T4XScLJCJCYMR6a7YK1Y6112021231B1" ++
    "0161Y01327161R131410361gJ2f32XHbZHY3YCXSs2XB4Z3CE2E1E1X4AbDXOP11DXB48N5aQ+N4G3C3ZM4YU6B40F" ++
    "B4XN896X78T2B41XUgJCD2C395XN7E2A687aI1Z5uXW70UYV"),
  (["copt"],
    "bN0o803110ZC1ZCDgaGZJ56eN0Xrc8R"),
  (["cprt"],
    "YWe024XC38Xs05201XB113020"),
  (["cpmn"],
    "YWe01hqEZ2"),
  (["cyrl"],
    "rS0Y321010102050dEfFbwGAb00YC0ZV0Z=7VY30z=SYVryE1Xum0XTX10"),
  (["deva"],
    "rS0Xo3YI2XAawGX611=M0XXvV9b6Vym09"),
  (["dogr"],
    "Yh4BXds09x+6XR"),
  (["dupl"],
    "bN0oF110O1guN0ZZk3ZA5C387927"),
  (["elba"],
    "bN0oD0YWlQX7"),
  (["ethi"],
    "uE0ZtHY8132610132X8132X0132610132E1XO132Y22V3Pcl6M9616161616161616=f2525259616YlbH613111E"),
  (["gara"],
    "XmC0E030YXv0X53S81"),
  (["geor"],
    "bN0XcH0YuMX510502XFYyGXA22yQ0Zb5X51050e30"),
  (["glag"],
    "bN0oB010hU020e10YxH0ZwU0Yz5YVl30+XB0YkiG61G261114"),
  (["goth"],
    "bN0oC120X80X==UQ"),
  (["gran"],
    "YgH1H1q0DacS011U231=M0XymF317212L1611141921222060562634ZYR110"),
  (["grek"],
    "bN0o81201010A0XE020XA72310401012101J1XUEFcf64XI444YK2fUL252X525271010101U2XK1E1D251I2218YU" ++
    "0c80XYnU0rkQYEH0XqYVY5"),
  (["gujr"],
    "YgH1H1eR218121L16111429121220F32B76XdfG9"),
  (["gong"],
    "bN0YbC1Ya=Q5111X4111579"),
  (["guru"],
    "YgH1H1aR215412L16111111201441223073107GXdjP9"),
  (["gukh"],
    "Yh50YryQXP"),
  (["hani"],
    "bN0hk8P1YOCcLQF121C1C1C2068bR0aKFX0X590XGX7XOXGFBXJ0YOOA4Z0U1cjVY0qlVXu07qlOhD2Z9xB1eQ4yZS" ++
    "1C1uxEHdsU1ZjEXfsVX0aXP6cT2bq1EdfGFpDYj2mTXl2awA5aYV"),
  (["hang"],
    "ae0dVdm12491CE260c30XLYTZHUY1Uzt1Sq3gz3CM4XGfo91eQ4XQU35252522"),
  (["rohg"],
    "XmC0E030X00aJ0YXnBX789"),
  (["hano"],
    "bv0M"),
  (["hebr"],
    "u71q8XM8Q45Xzf8P1410111119"),
  (["hira"],
    "iW12491CG510413YL27YQ1Xpg81eQ4A0XD1XiZ1eUI0T2mbD0"),
  (["zinh"],
    "uF0201B1136202F111H1413XlG1agRUtJXL1014mC1c2VXteGFGD+F0Xpe2XD2Mn02H726U3uhwIdF"),
  (["java"],
    "Xgi0YD1A41"),
  (["kthi"],
    "Yh69fc10+lU9wY6Y2A0"),
  (["knda"],
    "YgH1H1uQC121M19142812137161132912Z+S01160N010XYvR5"),
  (["kana"],
    "u50T0hcT2491CG51041YR33YVdGFcGXE1YNXotD1eQXUXiYG3161110eV2XI0E3"),
  (["kali"],
    "Xge0XF"),
  (["khoj"],
    "Yt69Xdg09wk6H1XE"),
  (["sind"],
    "Yh41XdsA9wpMXQ59"),
  (["latn"],
    "Y1P6PXF0C0205M1U1k030A01210901064RE1110C0227111X60504CeL1XcA1Xz80ZW4X56XG535C1Y5XP07dVfF0Y" ++
    "10D0GCYJ0XP160R0HX8YsNViN0+d87QZ53Y2211017LDfE0m1XA1813pyM6XWQP6PYX551X918Xrw5U65"),
  (["limb"],
    "Yh50ZyQU1B4B403B"),
  (["lina"],
    "YWe7XCXcCfM9LA7"),
  (["linb"],
    "YWW0B1P1I111E2DX2ZQ524XC38"),
  (["lisu"],
    "rS0G0hfS1zc4XF+rG0"),
  (["lyci"],
    "eYQ0Xun5S"),
  (["lydi"],
    "bN0hhP0XstEP50"),
  (["mahj"],
    "bN0YbCBXds09weMX6"),
  (["mlym"],
    "YgH1H1yQC121XI12154F2PZwQ0N0XYvT2"),
  (["mand"],
    "Xo00lVR20"),
  (["mani"],
    "Xo00YXZVX64B"),
  (["gonm"],
    "Yh41YayQ6111XB30111889"),
  (["mero"],
    "eYT0Xwf2V"),
  (["modi"],
    "XgXG9xk6Y4B9"),
  (["mong"],
    "cW0P6YO7XAXy40Z+H153XvoKC"),
  (["mult"],
    "Yp69YYWG610131E1A"),
  (["mymr"],
    "aW0aVXcaE0bHUZ1VxYGJ"),
  (["nand"],
    "Yh41y09Z=P08070XYvL5yhA72XD2A"),
  (["nkoo"],
    "XmC0E030j0XQ22XzfU1"),
  (["onao"],
    "Yh41ZtZAXA40"),
  (["hung"],
    "eYQ020ZkJ0F0XtnUXIDXI75"),
  (["perm"],
    "bN0o8052A0hF0X=sCXA"),
  (["orkh"],
    "eYQ0ZkL0XtkFY8"),
  (["ougr"],
    "Xo00YXbH0XZTP"),
  (["orya"],
    "YgH1H1iR217212L1611142821227241142Hah20N0"),
  (["osge"],
    "u102060YC0YWgNX34X3"),
  (["phag"],
    "cW2110YX90Z+I0+XTXN"),
  (["phlp"],
    "Xo00YXfVH73C6"),
  (["runr"],
    "br0YO"),
  (["samr"],
    "YW0XD2EflI0"),
  (["shrd"],
    "YgH0ay50102120XYwF520wg7YV"),
  (["shaw"],
    "bN0YWyOXF"),
  (["sinh"],
    "Yh41XWR21H3N181026304510176922ZtT0XzdEJ"),
  (["sogd"],
    "Xo00YYdFX9"),
  (["sunu"],
    "u01109020S030YcaEX1E9"),
  (["sylo"],
    "Yh41a09XdmGXC"),
  (["syrc"],
    "u312110L0227110sR0E120X00AAQ0aFD1XR22eGAbiD010"),
  (["tglg"],
    "bu0L90L1"),
  (["tagb"],
    "bvL1X9C1211"),
  (["tale"],
    "u015130ZfJ9Ye6T24"),
  (["takr"],
    "Yh41XdsA9xo6XP69"),
  (["taml"],
    "YgH1H1mS115321331101131323B4432132060EKacV0XZWO0wmD010XN1Za3XHD0"),
  (["tang"],
    "h=GFlF0YllG0Vb=N8tVm08"),
  (["telu"],
    "YgH1H1qQC121M1F281213711220232978aYQ0N0"),
  (["thaa"],
    "XmC0E120Y09eMXHXzo00A0"),
  (["thai"],
    "rS0Q0XB0XD0YsFXP5R"),
  (["tibt"],
    "Zu0Y71X34X61X31E1641eXD3"),
  (["tfng"],
    "u20102010gn6XN71E0"),
  (["tirh"],
    "YgH1H1ayC0XYvT9xY6Y789"),
  (["todr"],
    "u1020209010YA0YWp1XJ"),
  (["toto"],
    "rS0Zt+JU"),
  (["tutg"],
    "Zd69aW2010XYvR5bR0wqE910201X519102013191181"),
  (["yezi"],
    "XmC0E030Y09YYWMX91221"),
  (["yiii"],
    "iW115927cV0xu4XaC3XMsqQ4")]

end LineSieve.Unicode
