import LineSieve.Unicode.Table

/-!
# Letters that differ in case only

Characters with the same simple case folding form an orbit: `k`, `K` and the Kelvin
sign are one. `nextInOrbit` leads round an orbit in ascending order and back to its
first member, and `closeUnderCase` adds to a set the orbits of its members.
-/

namespace LineSieve.Unicode

/-- Characters `first`, `first + stride`, ... (`count` of them), each of which is followed in
its orbit by the character that lies `ahead - back` places further on. -/
structure OrbitRun where
  first : Nat
  stride : Nat
  count : Nat
  ahead : Nat
  back : Nat
deriving Repr

/-- Reads runs of the compact notation: the distance from the first character of the run
before, twice the count less one plus the stride less one, and the step, which is doubled
and for a step back also lessened by one. -/
def orbitRuns (base : Nat) : List Nat → List OrbitRun
  | gap :: shape :: move :: rest =>
    let first := base + gap
    { first := first
      stride := shape % 2 + 1
      count := shape / 2 + 1
      ahead := if move % 2 = 0 then move / 2 else 0
      back := if move % 2 = 0 then 0 else (move + 1) / 2 } :: orbitRuns first rest
  | _ => []

/-- All runs, in ascending order of their first characters. -/
def caseOrbits : List OrbitRun := orbitRuns 0 (Table.numbers
  ("Y1XIY0X0IXVA0mhU1FXV15XV60mO25XVY00XkEBXCY0OCY070kxU1VXV13XV40maC2FXVI5XV60dI1XF21XF1XH521" ++
   "516F21F1GXD21XD1XD0dH15215150oN10i610j413213130iS10210112iQ20210120aU10iK10iM10210110iQ10i" ++
   "U10c210j610j210210110g610Ypa210j610jA10e410jC15215150jK10210110jK30210110jK10210112jI23213" ++
   "130jM10210130210120ZG5222031222031222031F21F1F0aT1H21H1I2220310210110c110ZF1X721X71X70e32H" ++
   "21H1N0rYM10210110g510rYG12rZU20210110i510aA10aE19219190rXU10rXO10rXS10j310iR22iP30iJ20iL10" ++
   "YoqU40iP10YoqM20iT10YosE10YooG10Yoq820j110j510Yoq810q=E10Yoq230j520q=Q10j930jB80q+E30jJ20Y" ++
   "oq610jJ40YooK10jJ10a912jH20aD60jLB0YonA10Yon4b70b8XB3213150210144e440d870YC24YA40a022ZU20k" ++
   "a61X0Y0I0XU1EY080YB14Y930kZ613XV10XS23XV10a020XV10XI10kWA10ZC15XV10XmD20XV20XC10Z010214XV3" ++
   "0U12XV20krQ12XV20ZV12ZT20G10ZR10Y640YT10ZB10F1N21N1N0bB10aV10E10d710bN10bV20210110D1021012" ++
   "4e33Ub0GXUY0X02XV20iaS1DXV10iaQ27XV80ia820XV12ia42CXV70iZO18XV5UaVGX1210120iY82T1X5XL21XL1" ++
   "XL0U1D21D1D0T1YV21YV1Z0YAZ0XGYAYVYvVYAkc0X70kc060kc03YKby0XD4by0r3aUYhz0YGAG8AFYa80icR10ic" ++
   "P10ic710ic310210ic510ibN10iY910Yay41021016YKbxVXD4bxVbS0YbW840dkCH0YbZGZIaL21YV1Z00ZK2XJ1X" ++
   "O0ZL30kxT2YV21YV1YVEG8EF8AG8AF8EG8EF8EG8EF8AG8AF97G87F7EG8EF82aK26bC42c822e022d022dS4EG8EF" ++
   "8EG8EF8EG8EF82G30I52F22aJ20H20kdH50I56bB40H42G30ka552F22c762G30kZ520E32F22cV20D70I52dV22dR" ++
   "20HfA0ktP40mjT10mcB70XOS0XNIUX0GUVJ02101vIXIXKQXIXJXvGYUZ0XGYUYVXG0210110q=D10dkB10q+D10rY" ++
   "L10rYF15215150rXN10q=P10rXT10rXR20210120210182rZT2Z321Z31ZA32131602101DYAkbVX70kbV60kbV+eJ" ++
   "XD2191A0Yay52X11XJR21R1b1D21D1FXT21XT1Y63213130YbW7192191C0210110YooF33213130Z02J21J1J0Yoq" ++
   "710YoqT10YoqL10Yoq110Yoq720Yon310YooJ10Yon910Xw01F21F1F0YV10Yoq510YbZF13213130YosD10210130" ++
   "210155215150Ypa1P02101wT0XvVTaUYhyVpyL02101XWRXIY0X0XIXVXbVYEYGX8YEYFa8Y6YGX8Y6YFaOX5YE19Y" ++
   "ECDYEG5YE80YE2X5YD19YDCDYDG5YD80YDXs4Z4a0Y0Z4ZVaGXAY0X0XAXVYvGXUY0X0XUXVri0XUY0X0XUXV+r0Y2" ++
   "Y4X2Y2Y3"))

/-- The members of a run within a range of code points, moved to their successors. -/
def OrbitRun.image (run : OrbitRun) (range : CodeRange) : List CodeRange :=
  let last := run.first + run.stride * (run.count - 1)
  let low := max run.first range.low
  let high := min last range.high
  if high < low then []
  else if run.stride = 1 then
    [⟨low + run.ahead - run.back, high + run.ahead - run.back⟩]
  else
    (List.range run.count).filterMap fun i =>
      let code := run.first + run.stride * i
      if low ≤ code ∧ code ≤ high then
        some ⟨code + run.ahead - run.back, code + run.ahead - run.back⟩
      else none

/-- The successors of the members of a set in their orbits. -/
def nextInOrbit (set : CharSet) : CharSet :=
  CharSet.ofRanges (set.ranges.flatMap fun range =>
    caseOrbits.flatMap fun run => run.image range)

/-- A set with all characters that differ from a member in case only. No orbit has more
than four members, so three steps lead round it. -/
def closeUnderCase (set : CharSet) : CharSet :=
  let one := nextInOrbit set
  let two := nextInOrbit one
  let three := nextInOrbit two
  ((set.union one).union two).union three

end LineSieve.Unicode
