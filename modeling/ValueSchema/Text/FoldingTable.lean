import ValueSchema.Text.Runs

/-!
Characters that differ in case only.
-/

namespace ValueSchema.Text

/-- from each character to the one that stands for all its cases -/
def foldingTable : String :=
  "1t q 1 1s 5c n 1 1s 60 7 1 1s 74 o 2 2 8i 3 2 2 8p 8 2 2 96 n 2 2 ag 1 1 6p ah 3 2 2 an 1 1 ev ap 1 1 bo
  aq 2 2 2 au 1 1 bg av 1 1 2 ax 2 1 be az 1 1 2 b2 1 1 4e b3 1 1 b8 b4 1 1 ba b5 1 1 2 b7 1 1 be b8 1 1
  bi ba 1 1 bq bb 1 1 bm bc 1 1 2 bg 1 1 bq bh 1 1 bu bj 1 1 bw bk 3 2 2 bq 1 1 c4 br 1 1 2 bt 1 1 c4 bw 1
  1 2 by 1 1 c4 bz 1 1 2 c1 2 1 c2 c3 2 2 2 c7 1 1 c6 c8 1 1 2 cc 1 1 2 ck 1 1 4 cl 1 1 2 cn 1 1 4 co 1 1
  2 cq 1 1 4 cr 9 2 2 da 9 2 2 dt 1 1 4 du 2 2 2 dy 1 1 5d dz 1 1 33 e0 k 2 2 f4 1 1 77 f6 9 2 2 fu 1 1
  gnq fv 1 1 2 fx 1 1 91 fy 1 1 gnk g1 1 1 2 g3 1 1 at g4 1 1 3u g5 1 1 3y g6 5 2 2 og 2 2 2 om 1 1 2 ov 1
  1 6g p2 1 1 24 p4 3 1 22 p8 1 1 3k pa 2 1 3i pd 8 1 1s pl 1 1 4n pm 2 1 1s po 1 1 159 pp 5 1 1s pv 9 1
  1s qh 1 1 6f qk 1 1 171 qq 1 1 2 r3 1 1 g r4 1 1 1n r5 1 1 1d r9 1 1 t ra 1 1 17 rc c 2 2 s0 1 1 2z s1 1
  1 2n s4 1 1 3b s5 1 1 3j s7 1 1 2 s9 1 1 d sa 1 1 2 sd 3 1 77 sg g 1 4g sw w 1 1s v4 h 2 2 wa r 2 2 xs 1
  1 u xt 7 2 2 y8 1c 2 2 10x 12 1 2o 3a8 12 1 b7k 3bb 1 1 b7k 3bh 1 1 b7k 3vk 28 1 1nz4 3xs 6 1 g 5mo 1 1
  9ln 5mp 1 1 9ll 5mq 1 1 9l3 5mr 2 1 9kz 5mt 1 1 9l1 5mu 1 1 9kn 5mv 1 1 9jb 5mx 1 1 2 5n4 17 1 4n3 5od 3
  1 4n3 5xc 23 2 2 61n 1 1 37 61q 1 1 br1 61s 1c 2 2 64o 8 1 f 654 6 1 f 65k 8 1 f 660 8 1 f 66g 6 1 f 66x
  4 2 f 67c 8 1 f 688 8 1 f 68o 8 1 f 694 8 1 f 69k 2 1 f 69m 2 1 43 69o 1 1 h 69q 1 1 b8x 6a0 4 1 4r 6a4
  1 1 h 6ab 1 1 b5x 6ag 2 1 f 6ai 2 1 5j 6ar 1 1 b51 6aw 2 1 f 6ay 2 1 67 6b0 1 1 d 6bc 2 1 73 6be 2 1 6z
  6bg 1 1 h 6jq 1 1 bll 6ju 1 1 cxp 6jv 1 1 cqz 6k2 1 1 1k 6lc g 1 w 6mb 1 1 2 792 q 1 1g 8ow 1c 1 2o 8rk
  1 1 2 8rm 1 1 gkt 8rn 1 1 5vv 8ro 1 1 gjx 8rr 3 2 2 8rx 1 1 gmv 8ry 1 1 gl5 8rz 1 1 gn1 8s0 1 1 gmz 8s2
  1 1 2 8s5 1 1 2 8se 2 1 got 8sg 1e 2 2 8vf 2 2 2 8vm 1 1 2 wu8 5 2 2 wui 1 1 1if7 wuj 1 1 1if9 wuk h 2 2
  ww0 e 2 2 x0i 7 2 2 x0y v 2 2 x2x 2 2 2 x31 1 1 1iiv x32 5 2 2 x3f 1 1 2 x3h 1 1 1t8v x3k 2 2 2 x3q a 2
  2 x4a 1 1 1taf x4b 1 1 1tb1 x4c 1 1 1tat x4d 1 1 1ta9 x4e 1 1 1taf x4g 1 1 1t7n x4h 1 1 1t8z x4i 1 1
  1t7t x4j 1 1 1fk x4k 8 2 2 x50 1 1 2n x51 1 1 1tad x52 1 1 1ilr x53 2 2 2 x57 1 1 1tcd x58 8 2 2 x5o 1 1
  1toh x6d 1 1 2 1dl2 1 1 1 1ee9 q 1 1s 1fcw 14 1 28 1fhs 10 1 28 1fn4 b 1 26 1fng f 1 26 1fnw 7 1 26 1fo4
  2 1 26 1h1c 1f 1 3k 1h74 m 1 1s 1jfk w 1 1s 20cg w 1 1s 20f4 p 1 1i 2olc y 1 1w"

def foldingShifts : Array Shift := Shift.ofTable foldingTable

/-- a character in all its cases -/
def allCases (c : Char) : List Char :=
  let r := Shift.apply foldingShifts c
  r :: Shift.sources foldingShifts r

end ValueSchema.Text
