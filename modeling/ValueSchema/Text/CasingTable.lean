import ValueSchema.Text.Runs

/-!
Upper and lower case of characters in all scripts, and the classes of characters that decide where a word ends.
-/

namespace ValueSchema.Text

/-- characters whose lower case is one other character -/
def lowerTable : String :=
  "1t q 1 1s 5c n 1 1s 60 7 1 1s 74 o 2 2 8i 3 2 2 8p 8 2 2 96 n 2 2 ag 1 1 6p ah 3 2 2 ap 1 1 bo aq 2 2 2
  au 1 1 bg av 1 1 2 ax 2 1 be az 1 1 2 b2 1 1 4e b3 1 1 b8 b4 1 1 ba b5 1 1 2 b7 1 1 be b8 1 1 bi ba 1 1
  bq bb 1 1 bm bc 1 1 2 bg 1 1 bq bh 1 1 bu bj 1 1 bw bk 3 2 2 bq 1 1 c4 br 1 1 2 bt 1 1 c4 bw 1 1 2 by 1
  1 c4 bz 1 1 2 c1 2 1 c2 c3 2 2 2 c7 1 1 c6 c8 1 1 2 cc 1 1 2 ck 1 1 4 cl 1 1 2 cn 1 1 4 co 1 1 2 cq 1 1
  4 cr 9 2 2 da 9 2 2 dt 1 1 4 du 2 2 2 dy 1 1 5d dz 1 1 33 e0 k 2 2 f4 1 1 77 f6 9 2 2 fu 1 1 gnq fv 1 1
  2 fx 1 1 91 fy 1 1 gnk g1 1 1 2 g3 1 1 at g4 1 1 3u g5 1 1 3y g6 5 2 2 og 2 2 2 om 1 1 2 ov 1 1 6g p2 1
  1 24 p4 3 1 22 p8 1 1 3k pa 2 1 3i pd h 1 1s pv 9 1 1s r3 1 1 g rc c 2 2 s4 1 1 3b s7 1 1 2 s9 1 1 d sa
  1 1 2 sd 3 1 77 sg g 1 4g sw w 1 1s v4 h 2 2 wa r 2 2 xs 1 1 u xt 7 2 2 y8 1c 2 2 10x 12 1 2o 3a8 12 1
  b7k 3bb 1 1 b7k 3bh 1 1 b7k 3vk 28 1 1nz4 3xs 6 1 g 5mx 1 1 2 5n4 17 1 4n3 5od 3 1 4n3 5xc 23 2 2 61q 1
  1 br1 61s 1c 2 2 64o 8 1 f 654 6 1 f 65k 8 1 f 660 8 1 f 66g 6 1 f 66x 4 2 f 67c 8 1 f 688 8 1 f 68o 8 1
  f 694 8 1 f 69k 2 1 f 69m 2 1 43 69o 1 1 h 6a0 4 1 4r 6a4 1 1 h 6ag 2 1 f 6ai 2 1 5j 6aw 2 1 f 6ay 2 1
  67 6b0 1 1 d 6bc 2 1 73 6be 2 1 6z 6bg 1 1 h 6jq 1 1 bll 6ju 1 1 cxp 6jv 1 1 cqz 6k2 1 1 1k 6lc g 1 w
  6mb 1 1 2 792 q 1 1g 8ow 1c 1 2o 8rk 1 1 2 8rm 1 1 gkt 8rn 1 1 5vv 8ro 1 1 gjx 8rr 3 2 2 8rx 1 1 gmv 8ry
  1 1 gl5 8rz 1 1 gn1 8s0 1 1 gmz 8s2 1 1 2 8s5 1 1 2 8se 2 1 got 8sg 1e 2 2 8vf 2 2 2 8vm 1 1 2 wu8 n 2 2
  ww0 e 2 2 x0i 7 2 2 x0y v 2 2 x2x 2 2 2 x31 1 1 1iiv x32 5 2 2 x3f 1 1 2 x3h 1 1 1t8v x3k 2 2 2 x3q a 2
  2 x4a 1 1 1taf x4b 1 1 1tb1 x4c 1 1 1tat x4d 1 1 1ta9 x4e 1 1 1taf x4g 1 1 1t7n x4h 1 1 1t8z x4i 1 1
  1t7t x4j 1 1 1fk x4k 8 2 2 x50 1 1 2n x51 1 1 1tad x52 1 1 1ilr x53 2 2 2 x57 1 1 1tcd x58 8 2 2 x5o 1 1
  1toh x6d 1 1 2 1ee9 q 1 1s 1fcw 14 1 28 1fhs 10 1 28 1fn4 b 1 26 1fng f 1 26 1fnw 7 1 26 1fo4 2 1 26
  1h1c 1f 1 3k 1h74 m 1 1s 1jfk w 1 1s 20cg w 1 1s 20f4 p 1 1i 2olc y 1 1w"

/-- characters whose upper case is one other character -/
def upperTable : String :=
  "2p q 1 1r 51 1 1 15a 68 n 1 1r 6w 7 1 1r 73 1 1 6q 75 o 2 1 8h 1 1 cv 8j 3 2 1 8q 8 2 1 97 n 2 1 ai 3 2
  1 an 1 1 gn ao 1 1 au ar 2 2 1 aw 1 1 1 b0 1 1 1 b6 1 1 1 b9 1 1 5e bd 1 1 1 be 1 1 92 bf 1 1 1toi bi 1
  1 78 bl 3 2 1 bs 1 1 1 bx 1 1 1 c0 1 1 1 c4 2 2 1 c9 1 1 1 cd 1 1 1 cf 1 1 34 cl 1 1 1 cm 1 1 3 co 1 1 1
  cp 1 1 3 cr 1 1 1 cs 1 1 3 cu 8 2 1 d9 1 1 4d db 9 2 1 du 1 1 1 dv 1 1 3 dx 1 1 1 e1 k 2 1 f7 9 2 1 fw 1
  1 1 fz 2 1 gou g2 1 1 1 g7 5 2 1 gg 1 1 gn2 gh 1 1 gmw gi 1 1 gn0 gj 1 1 bn gk 1 1 bf gm 2 1 bd gp 1 1
  b7 gr 1 1 b9 gs 1 1 1tb2 gw 1 1 bd gx 1 1 1tau gz 1 1 bh h0 1 1 1tce h1 1 1 1t8w h2 1 1 1tag h4 1 1 bl
  h5 1 1 bp h6 1 1 1tag h7 1 1 gku h8 1 1 1taa hb 1 1 bp hd 1 1 gl6 he 1 1 bt hh 1 1 bv hp 1 1 gjy hs 1 1
  c3 hu 1 1 1tae hv 1 1 c3 hz 1 1 1t90 i0 1 1 c3 i1 1 1 3t i2 2 1 c1 i4 1 1 3x ia 1 1 c5 il 1 1 1t7u im 1
  1 1t7o n9 1 1 4o oh 2 2 1 on 1 1 1 or 3 1 78 q4 1 1 23 q5 3 1 21 q9 h 1 1r qq 1 1 1p qr 9 1 1r r0 1 1 3j
  r1 2 1 3h r4 1 1 3f r5 1 1 35 r9 1 1 2l ra 1 1 2z rb 1 1 f rd c 2 1 s0 1 1 4r s1 1 1 4f s2 1 1 e s3 1 1
  6f s5 1 1 5b s8 1 1 1 sb 1 1 1 ts w 1 1r uo g 1 4f v5 h 2 1 wb r 2 1 xu 7 2 1 y7 1 1 t y9 1c 2 1 129 12
  1 2n 3bk 17 1 4n4 3ct 3 1 4n4 3y0 6 1 f 5mo 1 1 9nf 5mp 1 1 9nd 5mq 1 1 9mv 5mr 2 1 9mr 5mt 1 1 9mt 5mu
  1 1 9mf 5mv 1 1 9jd 5mw 1 1 1if8 5my 1 1 1 5tl 1 1 1iiw 5tp 1 1 5vw 5u6 1 1 1ils 5xd 23 2 1 61n 1 1 39
  61t 1c 2 1 64g 8 1 g 64w 6 1 g 65c 8 1 g 65s 8 1 g 668 6 1 g 66p 4 2 g 674 8 1 g 67k 2 1 44 67m 4 1 4s
  67q 2 1 5k 67s 2 1 74 67u 2 1 68 67w 2 1 70 69c 2 1 g 69q 1 1 b49 6a8 2 1 g 6ao 2 1 g 6at 1 1 e 6ku 1 1
  1j 6ls g 1 v 6mc 1 1 1 79s q 1 1f 8q8 1c 1 2n 8rl 1 1 1 8rp 1 1 gnp 8rq 1 1 gnj 8rs 3 2 1 8s3 1 1 1 8s6
  1 1 1 8sh 1e 2 1 8vg 2 2 1 8vn 1 1 1 8w0 12 1 b7j 8x3 1 1 b7j 8x9 1 1 b7j wu9 n 2 1 ww1 e 2 1 x0j 7 2 1
  x0z v 2 1 x2y 2 2 1 x33 5 2 1 x3g 1 1 1 x3l 2 2 1 x3o 1 1 2o x3r a 2 1 x4l 8 2 1 x54 2 2 1 x59 8 2 1 x6e
  1 1 1 xub 1 1 1fj xv4 28 1 1nz3 1ef5 q 1 1r 1fe0 14 1 27 1fiw 10 1 27 1fo7 b 1 25 1foj f 1 25 1foz 7 1
  25 1fp7 2 1 25 1h34 1f 1 3j 1h80 m 1 1r 1jgg w 1 1r 20dc w 1 1r 20fv p 1 1h 2oma y 1 1v"

/-- characters whose upper case is several characters: each with three, zeros filling up -/
def upperSequenceTable : String :=
  "67 2b 2b 0 95 jg 26 0 ds 22 lo 0 pc pl lk ld q8 px lk ld 13b 111 11u 0 61i 20 mp 0 61j 2c lk 0 61k 2f lm
  0 61l 2h lm 0 61m 1t ji 0 66o px lv 0 66q px lv lc 66s px lv ld 66u px lv n6 680 64o pl 0 681 64p pl 0
  682 64q pl 0 683 64r pl 0 684 64s pl 0 685 64t pl 0 686 64u pl 0 687 64v pl 0 688 64o pl 0 689 64p pl 0
  68a 64q pl 0 68b 64r pl 0 68c 64s pl 0 68d 64t pl 0 68e 64u pl 0 68f 64v pl 0 68g 65k pl 0 68h 65l pl 0
  68i 65m pl 0 68j 65n pl 0 68k 65o pl 0 68l 65p pl 0 68m 65q pl 0 68n 65r pl 0 68o 65k pl 0 68p 65l pl 0
  68q 65m pl 0 68r 65n pl 0 68s 65o pl 0 68t 65p pl 0 68u 65q pl 0 68v 65r pl 0 68w 67c pl 0 68x 67d pl 0
  68y 67e pl 0 68z 67f pl 0 690 67g pl 0 691 67h pl 0 692 67i pl 0 693 67j pl 0 694 67c pl 0 695 67d pl 0
  696 67e pl 0 697 67f pl 0 698 67g pl 0 699 67h pl 0 69a 67i pl 0 69b 67j pl 0 69e 69m pl 0 69f pd pl 0
  69g p2 pl 0 69i pd n6 0 69j pd n6 pl 69o pd pl 0 69u 6a2 pl 0 69v pj pl 0 69w p5 pl 0 69y pj n6 0 69z pj
  n6 pl 6a4 pj pl 0 6aa pl lk lc 6ab pl lk ld 6ae pl n6 0 6af pl lk n6 6aq px lk lc 6ar px lk ld 6as pt lv
  0 6au px n6 0 6av px lk n6 6b6 6be pl 0 6b7 q1 pl 0 6b8 pb pl 0 6ba q1 n6 0 6bb q1 n6 pl 6bg q1 pl 0
  1dkw 1y 1y 0 1dkx 1y 21 0 1dky 1y 24 0 1dkz 1y 1y 21 1dl0 1y 1y 24 1dl1 2b 2c 0 1dl2 2b 2c 0 1dlf 11g
  11i 0 1dlg 11g 111 0 1dlh 11g 117 0 1dli 11q 11i 0 1dlj 11g 119 0"

/-- characters with case -/
def casedTable : String :=
  "1t q 6 q 1b 1 a 1 4 1 5 n 1 v 1 5f 1 4 4 5s 2 z 7 2 u 5 2o 1 16 4 2 2 2 4 1 1 6 1 1 3 1 1 1 k 1 2b 1 3v
  8 4m 1 12 9 15 26v 12 1 1 5 1 2 17 1 4 io 2e 2 6 1oi b 5 17 2 3 1s 5c 1s 7q 2 6 2 12 2 6 2 8 1 1 1 1 1 1
  1 v 2 1h 1 7 1 1 3 3 1 7 3 4 2 6 4 d 5 3 1 7 38 1 d 1 g d 2t 1 4 1 2 a 1 1 3 5 6 1 1 1 1 1 1 4 1 6 4 1 2
  4 5 5 4 1 h w 3 2 mp 1g 1ee 6d 6 4 3 2 c 12 1 1 5 1 nwy 1a i u 3o 2u 3 4 1 25 k 6 1 3 mt 17 1 e 6 28 fnk
  7 c 5 sp q 6 q x1 28 2o 10 4 10 38 b 1 f 1 7 1 2 1 b 1 f 1 7 1 2 cj 1 2 3 1 16 1 9 xx 1f d 1f 2l m a m
  26y 1s gv4 1s w p 2 p jzg 2d 1 1z 1 2 2 1 2 2 2 4 1 c 1 1 1 7 1 1t 1 4 2 8 1 7 1 s 1 4 1 5 1 1 3 7 1 9g
  2 p 1 p 1 v 1 p 1 v 1 p 1 v 1 p 1 v 1 p 1 8 1f8 a 1 k 6 6 79 1q 1oy 1w 1kc q 6 q 6 q"

/-- characters that are passed over when looking for a cased neighbour -/
def caseIgnorableTable : String :=
  "13 1 6 1 b 1 z 1 1 1 1z 1 4 1 1 1 4 1 2 2 dz 5c 4 2 4 1 9 2 1 1 6z 7 5r 1 5 1 1d 19 1 1 1 2 1 2 1 1 18 1
  b 6 a b 1 1 z 1 a l g 1 2t 8 1 a 1 4 x 1 1 1 u r 2j b 1m b 4 1 2 1 o o 17 3 18 1 7 2 5 9 15 1m 1j 1 1 1
  4 8 4 1 3 7 a 2 d 1 f 1 1m 1 4 4 8 1 k 2 q 1 2 2 1l 1 4 2 4 2 2 3 3 1 u 2 3 1 b 2 1l 1 4 5 1 2 4 1 k 2 m
  6 1 1 1m 1 2 1 1 4 8 1 7 2 b 2 u 1 1p 1 c 1 1e 1 3 1 1j 1 1 3 5 3 1 4 7 2 b 2 t 1 1m 1 2 1 6 1 5 2 k 2 s
  2 1l 2 4 4 8 1 k 2 t 1 20 1 7 3 1 1 2i 1 2 7 b 9 2q 1 2 9 9 1 1 7 21 2 r 1 1 1 1 1 1j e 1 5 1 2 5 b 1 10
  9 1 2u 4 1 6 1 2 2 2 p 2 4 3 g 4 d 1 2 2 6 1 f 1 2m 1 gw 3 qa 3 t 2 u 2 u 2 1s 2 1 7 8 1 2 b 3 1 5 1 19
  5 1f 1 1t 2 y 1 3a 3 4 2 9 1 6 3 63 2 2 1 1m 1 1 7 1 1 1 1 2 8 6 a 2 1 13 1 8 1a 2 c k 4 1c 1 1 5 1 1 5
  1 14 9 c 2 w 4 2 2 1 3 1k 1 1 2 3 1 1 3 1m 8 2 2 1s 6 2a 3 1 d 1 7 4 1 6 1 3 2 1e 1r d 1 y 2t cd 1 1 3 b
  3 d 3 d 3 d 2 c 5 8 2 a 1 2 1 2 5 1d 5 1 a 1 1 d 1 g d 1f x 2a3 2 35 3 3h 1 f 1 2o w 1b 1 d1 1 10 4 3 5
  5 1 2l 6 2l 3 lxy 1 yq 6 7i 1 2q 4 1 a 1 1 s 4 28 2 e y 26 1 n 3 2u 4 3 2 8 1 3 1 4 1 p 2 5 1 47 2 q i d
  1 12 8 p b 1a 3 1c 1 2 4 2 2 h 1 l 2 1u 6 2 2 2 2 c 1 8 1 z 1 b 1 1f 1 1 3 2 2 5 2 1 1 r 1 e 2 5 2 1 1
  2s 5 9 3 3d 1 2 1 4 1 fn4 1 43 h fx g 3 1 c g y 1 2 1 4p 1 7 1 6 1 b 1 z 1 1 1 1b 1 19 2 1v 1 l 3 e9 1
  6a 1 45 5 sl 6 1 16 1 9 g6 3 1 2 5 4 14 3 4 1 4l 2 fx 4 12 1 q 5 1 1 8r 2 o 1 1g 6 1y b 1d 4 3f 1 1i f
  15 1 2 2 a 3 1d 4 2 2 2 1 4 1 a 1 1e 3 10 5 1 8 1q 1 c 2 1g 9 a 4 2 1 2n 3 2 1 1 2 6 1 2 1 4d 1 3 8 l 2
  1l 2 3 1 11 7 3 5 1y 6 d 1 1 1 1 1 e 2 2d 8 2 3 1 1 n 1 2c 6 1 1 4 2 1 2 6m 4 6 2 1 2 r 2 2d 8 2 1 1 2
  2y 1 1 1 2 6 1 1 2t 1 1 1 2 4 1 5 77 9 1 2 74 2 1 1 4 1 40 4 2 2 4 1 w a 14 6 2 4 8 1 9 6 2 3 1a d 1 2
  5i 1 1 3 1 1 5l 7 1 6 1 1 2a m 2 7 1 2 1 2 3e 6 3 1 1 2 1 7 1 1 20 2 3 1 1 1 1t 1 7t 2 b 2 1g 5 5 1 1 1
  n 1 445 h 6 f 8ug c 3 3 1xc 5 1n 7 9 4 e4 3 14 2 de 1 1r h 1s 2 1 2 d 2 cn0 4 1 7 1 2 2hq 2 1 4 3mk 1a 2
  n f4 3 9 g 2 7 u 4 44 3 1iz 1j 4 1e 8 1 e 1 m 5 1 f 11s 7 1 h 2 7 1 2 1 5 5 1q x 1 4g e a8 1 1p 4 e3 5
  72 2 6r 1 2 1 7 2 5 1 9 1 cw 7 31 8 23z 5 gx6p 1 u 2o 3k 6o"

def lowerShifts : Array Shift := Shift.ofTable lowerTable

def upperShifts : Array Shift := Shift.ofTable upperTable

def cased : Ranges := Ranges.ofTable casedTable

def caseIgnorable : Ranges := Ranges.ofTable caseIgnorableTable

/-- a character and the characters it becomes -/
def readSequences : List Nat → List (Char × List Char)
  | c :: x :: y :: z :: rest =>
    (Char.ofNat c, ([x, y, z].filter (· ≠ 0)).map Char.ofNat) :: readSequences rest
  | _ => []

def upperSequences : List (Char × List Char) := readSequences (readNumbers upperSequenceTable)

end ValueSchema.Text
