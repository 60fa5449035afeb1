import LineSieve.Unicode.Table

/-!
# Classes for text boundaries

The boundaries between user-perceived characters, words and sentences go by classes of
characters. The tables give the classes of each kind of boundary; a character that is in
none of them is in the class `Other`, which has no set of its own. Names are in their
folded spelling, the ranges in the compact notation of `Table.decode`.
-/

namespace LineSieve.Unicode

/-- The classes for boundaries between user-perceived characters. -/
def graphemeBreakTable : List (List String × String) := [
  (["cr"],
    "D0"),
  (["cn", "control"],
    "09111HYVX0D0XhE0alH0X=S021O6XHFXtqF0dGBjXKFXYZ03bcF7uhq5VZ0ZVdGZmF"),
  (["ex", "extend"],
    "u0ZFeJ6e7XC10111110Y8AXGKG0Z56252113X30UQYRAXQ890O3181214XB2XR8XAN1VXN010474036A1T0XQ01023" ++
    "8090A1Q021XP041412230U130B1XP0441140K1M510XQ011138072A1U0XR010C090X8030XN012521371B1T0XQ02" ++
    "110321371B1S1XP110238090A1T0Y8040221080YH026C7Z2028B6Y91R01010XND14115A1X390Z63151121P142G" ++
    "3D02160F0rV2zI3S2T1U1Y0116802A90XD210ZL1X20ZM2419062cR120XQ0161010276920XGUXH3XG942X68C1X0" ++
    "325XO0113014XO721aO21C16406031c6XVmC0c3X0Y=U2aD0Z0VnA5Z91zkK319X01YG1eG03040P150aN1QHD0X67" ++
    "PA10XC2XG0232120X40Y352121C080XF0XJ012215110XA180dE02040pvG0t1FGFhE1oT0d20aL4Xq621153X8240" ++
    "b51nT3Y14fT1YF3Y6AXH3ZR0XMEX9021A2XH32170XT2X4417XU0C1XK8108320YV2236020aT037L1XP11010C090" ++
    "E634Y30251020124210E1YL72210N0YH02510201111dB0236111R1YL72011ZA01027Z50102314e3811dL0A340a" ++
    "G32140X09X8523809522XEC11iM61510YIL261111ZQ530111610Y813010gR1B1XK452N0bd506Ehc8B32Yk04XR6" ++
    "XWO0XV3YH0B1pbB1ap1XD2MmU4358726U3aK2XzRXM4XH80E0M41EXgG61G261114Z40b06hN0XT3lS3dU1t06ZD6Y" ++
    "rG4uZX0YVa0dF"),
  (["l"],
    "ae0YVXcW0S"),
  (["lf"],
    "A0"),
  (["lv"],
    "XhW00R0R0R0R0R0R0R0R0R0R0R0R0R0R0R0R0R0R0R0R0R0R0R0R0R0R0R0R0R0R0R0R0R0R0R0R0R0R0R0R0R0R0R" ++
    "0R0R0R0R0R0R0R0R0R0R0R0R0R0R0R0R0R0R0R0R0R0R0R0R0R0R0R0R0R0R0R0R0R0R0R0R0R0R0R0R0R0R0R0R0R" ++
    "0R0R0R0R0R0R0R0R0R0R0R0R0R0R0R0R0R0R0R0R0R0R0R0R0R0R0R0R0R0R0R0R0R0R0R0R0R0R0R0R0R0R0R0R0R" ++
    "0R0R0R0R0R0R0R0R0R0R0R0R0R0R0R0R0R0R0R0R0R0R0R0R0R0R0R0R0R0R0R0R0R0R0R0R0R0R0R0R0R0R0R0R0R" ++
    "0R0R0R0R0R0R0R0R0R0R0R0R0R0R0R0R0R0R0R0R0R0R0R0R0R0R0R0R0R0R0R0R0R0R0R0R0R0R0R0R0R0R0R0R0R" ++
    "0R0R0R0R0R0R0R0R0R0R0R0R0R0R0R0R0R0R0R0R0R0R0R0R0R0R0R0R0R0R0R0R0R0R0R0R0R0R0R0R0R0R0R0R0R" ++
    "0R0R0R0R0R0R0R0R0R0R0R0R0R0R0R0R0R0R0R0R0R0R0R0R0R0R0R0R0R0R0R0R0R0R0R0R0R0R0R0R0R0R0R0R0R" ++
    "0R0R0R0R0R0R0R0R0R0R0R0R0R0R0R0R0R0R0R0R0R0R0R0R0R0R0R0R0R0R0R0R0R0R0R0R0R0R0R0R0R0R0R0R0R" ++
    "0R0R0R0R0R0R0R0R0R0R0R0R0R0R0R0R0R0R0R0R0R0R0R0R0R0R0R0R0R0R0R0R0R0R0R0R0R0R0R0R0"),
  (["lvt"],
    "XhW1Q1Q1Q1Q1Q1Q1Q1Q1Q1Q1Q1Q1Q1Q1Q1Q1Q1Q1Q1Q1Q1Q1Q1Q1Q1Q1Q1Q1Q1Q1Q1Q1Q1Q1Q1Q1Q1Q1Q1Q1Q1Q1Q1" ++
    "Q1Q1Q1Q1Q1Q1Q1Q1Q1Q1Q1Q1Q1Q1Q1Q1Q1Q1Q1Q1Q1Q1Q1Q1Q1Q1Q1Q1Q1Q1Q1Q1Q1Q1Q1Q1Q1Q1Q1Q1Q1Q1Q1Q1Q1" ++
    "Q1Q1Q1Q1Q1Q1Q1Q1Q1Q1Q1Q1Q1Q1Q1Q1Q1Q1Q1Q1Q1Q1Q1Q1Q1Q1Q1Q1Q1Q1Q1Q1Q1Q1Q1Q1Q1Q1Q1Q1Q1Q1Q1Q1Q1" ++
    "Q1Q1Q1Q1Q1Q1Q1Q1Q1Q1Q1Q1Q1Q1Q1Q1Q1Q1Q1Q1Q1Q1Q1Q1Q1Q1Q1Q1Q1Q1Q1Q1Q1Q1Q1Q1Q1Q1Q1Q1Q1Q1Q1Q1Q1" ++
    "Q1Q1Q1Q1Q1Q1Q1Q1Q1Q1Q1Q1Q1Q1Q1Q1Q1Q1Q1Q1Q1Q1Q1Q1Q1Q1Q1Q1Q1Q1Q1Q1Q1Q1Q1Q1Q1Q1Q1Q1Q1Q1Q1Q1Q1" ++
    "Q1Q1Q1Q1Q1Q1Q1Q1Q1Q1Q1Q1Q1Q1Q1Q1Q1Q1Q1Q1Q1Q1Q1Q1Q1Q1Q1Q1Q1Q1Q1Q1Q1Q1Q1Q1Q1Q1Q1Q1Q1Q1Q1Q1Q1" ++
    "Q1Q1Q1Q1Q1Q1Q1Q1Q1Q1Q1Q1Q1Q1Q1Q1Q1Q1Q1Q1Q1Q1Q1Q1Q1Q1Q1Q1Q1Q1Q1Q1Q1Q1Q1Q1Q1Q1Q1Q1Q1Q1Q1Q1Q1" ++
    "Q1Q1Q1Q1Q1Q1Q1Q1Q1Q1Q1Q1Q1Q1Q1Q1Q1Q1Q1Q1Q1Q1Q1Q1Q1Q1Q1Q1Q1Q1Q1Q1Q1Q1Q1Q1Q1Q1Q1Q1Q1Q1Q1Q1Q1" ++
    "Q1Q1Q1Q1Q1Q1Q1Q1Q1Q1Q1Q1Q1Q1Q1Q1Q1Q1Q1Q1Q1Q1Q1Q1Q1Q1Q1Q1Q1Q1Q1Q1Q1Q1Q1Q1Q1Q1Q1Q1Q"),
  (["pp", "prepend"],
    "Xm05cN0XH0i01YG0XZB0YWxE0F0dK1mD0XhD010dO0Y95rS0jR0"),
  (["ri", "regionalindicator"],
    "Zyl6P"),
  (["sm", "spacingmark"],
    "Ye30XN0228311XI1XR16121XM0XQ2Y20XQ28011XL1XS06121ZI0113212XK2XT3XT1XQ02011XE0E1XR15212XL1Y" ++
    "C166J1XV0ZV0aA1XV0bH091P1XC0XvH07711gQ3224115d01XQ010L5aH0XP3Y00U041XV02210XL781bB0L0XYvB1" ++
    "20YO1XIFaE0XG0XG14121ZF121O0aT02150dD1111110vWJ010ZV0XD241ZJ0O1XR0XG290E0YT231bC2V1XR01321" ++
    "21L1YL1F011Z728130ZB160111020dE16320ZH28110ZD011ZE070e5290dO4117010aE28340YK0T1XU0iN0E0ZA0" ++
    "7020cL44110gU1C0XG181mlA2Zn4XM"),
  (["t"],
    "aj8YNXnkBXG"),
  (["v"],
    "ah0Y7Xnm8MXbiS033"),
  (["zwj"],
    "eWD0")]

def wordBreakTable : List (List String × String) := [
  (["le", "aletter"],
    "Y1P6PXF0A0405M1U1kV6X1ZG41123106012101J1YI1aA8b51X523101X810Z80XCXAX311Z210F171A220F11TTYO" ++
    "B0OX091405L409030NO7A5N15HX9XQXL30I079FF47212L16103330G0D112E1A085412L16111111V310J2G8121L" ++
    "16111430I0F1N0B7212L16111430U112F0H015321331101131323BM0XK7121M1F30Q22021U047121M191430V11" ++
    "1F1H8121X820G05282O55H3N181026fP0XV71X3R4eJX510502XA1gC132610132X8132X0132610132E1XO132Y2X" ++
    "5FGYL253pB2G1P5YA3A7HDIEHEC12bFYO742X1105Y5AUd1MdEXEH7XMTD1AXBQX3X92AX32A5XA22X931511305bV" ++
    "Y0eL252X525271010101U2XK1610321633254C5216ZK0D0GCZ5040291034601010131A235440HX8vDXJXuMd463" ++
    "31CX510502XN70GM9616161616161616YG0kL0XL1c8XA1YTHVxo0XaCY3XD2eC3FA1KXEGU2YFOc5211017LF1213" ++
    "1MTXJEXHXU53011BRAMPS7XES0XGX8N217aKA72C5252596161XP6ZITgz3CM4XGeu46C4XOZ1X1hAIXV2XLX8BZK4" ++
    "1a6X4P6PY5U35252522X3B1P1I111E2DX2ZQY5XKeBS3XGXFVDT5X5AT2X34714XAaTIX34X34X78XJCA1E16111A1" ++
    "E16113XJCfM9LA7O51X918Y55201XB11302MAM9UY1I11ALAPY6XN61Y00F3121SXAS3SX371RRXLALAIDHZEY8XNX" ++
    "IDXIDX3X6R9MdQX961G2XRSA08LXAHXEKRMCXKXP120DXCX0OQX3T0208X230CXFE3L010X3H1OJ1XV610131E197X" ++
    "EX67212L16111430I0C4U910201X510P010XCXKI3K2UXFK110bOXEX93X4XFK0XRXAD0g7XBZKXVV72027111NF01" ++
    "0YU72X6G010S0AX770L0BXDJ0IY8c7X0V81X4H0XHTZG6111X5L0P5111VE0g7IF01C1X1ZS0YFyPZ6ZEHc3YoCZ0F" ++
    "XXFH5PZyQ5o6crPTXt2nO7UHYEHTIXFG3VK5IjGXCcJXVa0YA50Y2CY0110pWSZA5C3879bx6YK1Y6112021231B10" ++
    "161Y01327161R131410361gJ2O1O1U1O1U1O1U1O1U1O17XvKU65e5XTaIXCA6G0g1TIXBl4Rd4T20lF613111E1c4" ++
    "XRY370XbK31Q1110201913101060401010121110201010101011102316131310191G52141GpKP6P6P"),
  (["cr"],
    "D0"),
  (["dq", "doublequote"],
    "X20"),
  (["extend"],
    "u0ZFeJ6e7XC10111110Y8AXGKG0Z56252113X30UQYRAXQ890O3181214XB2XR8XAN1X0XM21H16A1T2XO01621229" ++
    "0A1Q022XO014412230U130B2XO0171212K1M512XO016212272A1U0XR4321390X84XN016121371B1T2XO0161213" ++
    "71B1F0C3XN116121390A1T2Y60451017I1XT026C7Z2028B6Y91R0101041XHJ115A1X390Z4JN342122633DB10A3" ++
    "rV2zI3S2T1U1Y0V90XD210ZL1X20ZMB4BcR4XP91S20XGUXH4XFGX68C2UCXODXGJaO21K406022c6XVmC0c3X0Y=U" ++
    "2aD0Z0VnA5Z91zkK319X01YG1eG03040N440YJ1XIHQHD0X67PCXC3XFDX40Y3DC081XD2XI012215110X9451dC71" ++
    "1pvG0t1FGFhE1oT0d20aL4Xq621153X8240b51nT3Y14fT1YF3Y6AXH3ZQ2XLEX9021A3XDA70XT2X4DG1XC0C2XGD" ++
    "8311YSB6020aTBL3XN116212290A12634Y381020131410E1YIHN0YHJdB628R1YIGZACZ5Ee0EdL511231011aD62" ++
    "630S9X8613809AXEFiL717YIL1DZQ530111610Y241114gR39110XG634N0bd506Ehc8HYk04XR6XWO01XM73YH0B1" ++
    "pbB1ap1XD2MmU4358726U3aK2XzRXM4XH80E0M41EXgG61G261114Z40b06hN0XT3lS3dU1t06ZD6YrG4uZX0YVa0d" ++
    "F"),
  (["ex", "extendnumlet"],
    "YV0d+F0F1J0XtkU1O2dF0"),
  (["fo", "format"],
    "bD0XhE0alH0X=V1Q4XH419XtqF0dP2jXKFXYZ03bcF7uhq60"),
  (["hl", "hebrewletter"],
    "XkGQ43XzfA0191C1410111119"),
  (["ka", "katakana"],
    "iXH4Z513YQ13dGFcGXE1YNXpWEXNXiYI3161110eV2XI0E3"),
  (["lf"],
    "A0"),
  (["ml", "midletter"],
    "XQ0ZS0sF0kN0aK0cnI0XtlB0Y10c40"),
  (["mn", "midnum"],
    "XC0E0w20mA0a21YU0iB0cYB0XtmB030bN0E0"),
  (["mb", "midnumlet"],
    "XE0d=91A0XtnD0bK060"),
  (["nl", "newline"],
    "B1ZO0dz21"),
  (["nu", "numeric"],
    "XG9Xk65YQ910ZH0I9c69c61YG0a39ZM9ZM9ZM9ZM9ZM9ZM9ZM9ZM9ZM9Z09ZM9Y69eM9Y69Xw69X69fC9a0Ab5969b" ++
    "M9YM9a6969XYk69r69X69c69M9YM9iM9quM9Xi69Ya6969uS9YD0F0X29XS9aG9eM9gM9ZM9hM9Z696JYC9j69Z69q" ++
    "M9YM9dM9Y69j69mkM9Yf69YM9a69mM9txM9YsKXHYg09j69lM9dN9wL9aqM9"),
  (["ri", "regionalindicator"],
    "Zyl6P"),
  (["sq", "singlequote"],
    "X70"),
  (["wsegspace"],
    "X00boV0YhV612YK0Zz00"),
  (["zwj"],
    "eWD0")]

/-- The classes for boundaries between sentences. -/
def sentenceBreakTable : List (List String × String) := [
  (["at", "aterm"],
    "XE0d=L0XtnD0bR0"),
  (["cr"],
    "D0"),
  (["cl", "close"],
    "X2042XH010T010XD0F0ZpU3XwT1YhR7P1A1XM1E1pP3T1XXG57DYF1V9iJLXV3X01XW2DE129O0I7jB92712XpeU1c" ++
    "N1SF21G5b91XH010T0101111XzuI2"),
  (["ex", "extend"],
    "u0ZFeJ6e7XC10111110Y8AXGKG0Z56252113X30UQYRAXQ890O3181214XB2XR8XAN1X0XM21H16A1T2XO01621229" ++
    "0A1Q022XO014412230U130B2XO0171212K1M512XO016212272A1U0XR4321390X84XN016121371B1T2XO0161213" ++
    "71B1F0C3XN116121390A1T2Y60451017I1XT026C7Z2028B6Y91R0101041XHJ115A1X390Z4JN342122633DB10A3" ++
    "rV2zI3S2T1U1Y0V90XD210ZL1X20ZMB4BcR4XP91S20XGUXH4XFGX68C2UCXODXGJaO21K406022c6XVmC1c2X0Y=U" ++
    "2aD0Z0VnA5Z91zkK319X01YG1eG03040N440YJ1XIHQHD0X67PCXC3XFDX40Y3DC081XD2XI012215110X9451dC71" ++
    "1pvG0t1FGFhE1oT0d20aL4Xq621153X8240b51nT3Y14fT1YF3Y6AXH3ZQ2XLEX9021A3XDA70XT2X4DG1XC0C2XGD" ++
    "8311YSB6020aTBL3XN116212290A12634Y381020131410E1YIHN0YHJdB628R1YIGZACZ5Ee0EdL511231011aD62" ++
    "630S9X8613809AXEFiL717YIL1DZQ530111610Y241114gR39110XG634N0bd506Ehc8HYk04XR6XWO01XM73YH0B1" ++
    "pbB1ap1XD2MmU4358726U3aK2XzRXM4XH80E0M41EXgG61G261114Z40b06hN0XT3lS3dU1t06ZD6ubsLYVa0dF"),
  (["fo", "format"],
    "bD0XhE0dI0adU0X=S021Q4XH419XtqF0dP2jXKFXYZ03bcF7uhq60"),
  (["lf"],
    "A0"),
  (["lo", "lower"],
    "Z1PXF0A040X4N17101010101010101010101010101010101010101010101010101010111010101010101011101" ++
    "010101010101010101010101010101010101010101020101220102031402032202010102011102030102122602" ++
    "020101010101010101110101010101010101120103010101010101010101010101010101010101010101010101" ++
    "01010101016202110401010101Y41X371U4aC0103023I0RX21132101010101010101010101014102021XJXF101" ++
    "010101010101010101010101010101090101010101010101010101010101010101010101010101010101020101" ++
    "010101011101010101010101010101010101010101010101010101010101010101010101010101010101010101" ++
    "010101010101010XGX8YxJ0tR5Ya2810ZLbVY10101010101010101010101010101010101010101010101010101" ++
    "010101010101010101010101010101010101010101010101010101010101010101010101010101010101010101" ++
    "010101810101010101010101010101010101010101010101010101010101010101010101010101010101010101" ++
    "01010101010101885A78785A7878D2787878411603211832187A211ZP0D0GCZD03130R04040218340X1F40wBPX" ++
    "w6XF10311010104011173010101010101010101010101010101010101010101010101010101010101010101010" ++
    "101010101010101010101010101011701040CX51050+eJ01010101010101010101010101010101010101010101" ++
    "0J010101010101010101010101012a501010101010121010101010101010101010101010101010101010101010" ++
    "101010101010101910102010101010401020121010101010101010101050501010101010101040102030101010" ++
    "1010M21012vLXA1D6YFpw06C4XX9PXcDX7a8X3aRA1E1611k30221X918Xe5XIZTLYvQVri0VviQPQ61HQPQ310161" ++
    "AQPQPQPQPQPQPQPQPQRSO15QO15QO15QO15QO1510XvK91J65e5XTYbKX1"),
  (["nu", "numeric"],
    "XG9Xk65YQ911ZG0I9c69c61YG0a39ZM9ZM9ZM9ZM9ZM9ZM9ZM9ZM9ZM9Z09ZM9Y69eM9Y69Xw69X69fC9a0Ab5969b" ++
    "M9YM9a6969XYk69r69X69c69M9YM9iM9quM9Xi69Ya6969uS9YD0F0X29XS9aG9eM9gM9ZM9hM9Z696JYC9j69Z69q" ++
    "M9YM9dM9Y69j69mkM9Yf69YM9a69mM9txM9YsKXHYg09j69lM9dN9wL9aqM9"),
  (["le", "oletter"],
    "jR043cG0X466BQ010a50l40ZMQ44XCXAX311Z210F171A220G01TTYOB0OX091405L409030NO7A5N15HX9XQXL30I" ++
    "079FF47212L16103330G0D112E1A085412L16111111V310J2G8121L16111430I0F1N0B7212L16111430U112F0H" ++
    "015321331101131323BM0XK7121M1F30Q22021U047121M191430V111F1H8121X820G05282O55H3N181026XQXF1" ++
    "1C6XQ110141N101911902410L3X00XV71X3R4ZJXAK0G5433031724CC0Y1XA2gB132610132X8132X0132610132E" ++
    "1XO132Y2X5FZHpB2G1P5YA3A7HDIEHEC12FXJX3040Y3YO742X1105Y5AUXHT24BXB4PXMM9XKYI0YTXEH7XMTD1AX" ++
    "BQX3X92AX3IXA22X93151130XXQ3Y7223Yz7XN70GM9616161616161616YG0kL2P874244YL621YP135XA1YTHVXG" ++
    "Fm0cjVY0rqCY3XD2eC3FA1Y20G0X0YFX78Z8060Z703612131MTXJEXHXU53011BRAMPS7XES0G419A41X8N217KM3" ++
    "03XH1031242010O22A72C525259616aHX2Tgz3CM4XGee4hD2Z9Y30191C141011111ZBX1hAIXV2XLX8BZK41a6Z9" ++
    "XN2U35252522X3B1P1I111E2DX2ZQY5XKeBS3XGXFVDT5X5AT2X34714ZQYDZ2X78XJYSXJCfM9LA7P1ZT5201XB11" ++
    "302MAM9UY1I11ALAPY6XN61Y00F3121SXAS3SX371RRXLALAIDHZEY8bNX3X65V0eGX961G2XRSA08LXAHXEKRMCXK" ++
    "XP120DXCX0OQX3T0208X230CXFE3L010X3H1OJ1XV610131E197XEX67212L16111430I0C4U910201X510P010XCX" ++
    "KI3K2UXFK110bOXEX93X4XFK0XRXAD0Y7QX56bPXBcJ72027111NF010YU72X6G010S0AX770L0BXDJ0IY8c7X0V81" ++
    "X4H0XHTZG6111X5L0P5111VE0g7IF01C1X1ZS0YFyPZ6ZEHc3YoCZ0FXXFH5PZyQ5o6crPTXt2nO7UHYEHTIXFG3VK" ++
    "5IjGXCiJYA50Y2CY0110Sb=N8XcLX99et7316111f2F0T220E38iBYe4ZA5C3879epG0lLXCA6G0g1TIXBl4Rd4T20" ++
    "lF613111E1c4a60XbK31Q1110201913101060401010121110201010101011102316131310191G52141Gag4XfsV" ++
    "X0aXP6cT2bq1EdfGFpDYj2mTXl2awA5aYV"),
  (["sc", "scontinue"],
    "XC1C1w20kU0bE1lA0aW9050YWA1Z=C0XpmE111S1T12120A0b81C1Y80"),
  (["st", "sterm"],
    "X10T0Xg90aJ2bK0XB2dM0XT01031f51Xt41uM041u50c61aT1XD050fQ1h23b21A121T2bR1Y11zS192ZbF2fI0D0M" ++
    "1jD0zdS0eE1d3030hU1YM1YV0aO1aJ2aG1dP0qn6021XV1b90T0Y10YtK1XdT4XC3bT1ZL3ZV2a1160G1YO111ZC0f" ++
    "A1ZL1hL15EZ91dP2m5010dR1YN1j41rK1YA1ov91a50Y11B0n91f80pm60dl80"),
  (["se", "sep"],
    "a50dz21"),
  (["sp"],
    "9011J0ZV0bkV0YhVAX40XF0Zz00"),
  (["up", "upper"],
    "Y1PZ5M16X101010101010101010101010101010101010101010101010101010102010101010101010201010101" ++
    "010101010101010101010101010101010101011101031101112231112311110101110201112101130711111101" ++
    "010101010101020101010101010101021101210101010101010101010101010101010101010101010101010101" ++
    "010107111201310101010f10103080601210111G18X30223010101010101010101010105020112XIXG01010101" ++
    "010101010101010101010101090101010101010101010101010101010101010101010101010101011101010101" ++
    "010201010101010101010101010101010101010101010101010101010101010101010101010101010101010101" ++
    "0101010102X5Yw9X51050sIYLYaJ0hM01010101010101010101010101010101010101010101010101010101010" ++
    "101010101010101010101010101010101010101010101010101010101010101010101010101010101010101010" ++
    "901010101010101010101010101010101010101010101010101010101010101010101010101010101010101010" ++
    "101010109785A78785B010101087O7878784B4B3C4B4e5040322220346010101323A150QFJ0vIPXvGXFXG01220" ++
    "101013102082101010101010101010101010101010101010101010101010101010101010101010101010101010" ++
    "10101010101010101010801040+gD010101010101010101010101010101010101010101010J010101010101010" ++
    "101010101010a7010101010101030101010101010101010101010101010101010101010101010101010101010A" ++
    "010111010101040102010301010101010101010101414101010101010101310113050101010O0rvBPXc5X7a8X3" ++
    "aSA1E1611XtAXIaTLYvQVri0Vvj0PQPQPQ01120212317QPQ1132716R113141036RPQPQPQPQPQPUOX1OX1OX1OX1" ++
    "OX10afLX1YWEP6P6P")]

/-- The characters of a class for grapheme boundaries. -/
def graphemeBreak? (name : String) : Option CharSet := Table.find? graphemeBreakTable name

/-- The characters of a class for word boundaries. -/
def wordBreak? (name : String) : Option CharSet := Table.find? wordBreakTable name

/-- The characters of a class for sentence boundaries. -/
def sentenceBreak? (name : String) : Option CharSet := Table.find? sentenceBreakTable name

end LineSieve.Unicode
