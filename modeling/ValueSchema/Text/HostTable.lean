import ValueSchema.Text.Runs

/-!
Characters beyond ASCII in names of hosts: those refused, those passed over, and those that stand for an ASCII character.
-/

namespace ValueSchema.Text

/-- characters that no name of a host may hold -/
def unhostableTable : String :=
  "3k x 7 1 6 1 4 1 3 1 f3 6 4a 3 5 6 5 1 1 1 k 1 7x 1 33 1 12 2 1e 2 3 1 1j 8 r 4 6 h m 1 5c 1 1c 2 1n 2
  2t e 1n 2 1d 2 f 1 s 2 1 1 b 5 v 9 22 1 4h 1 8 2 2 2 m 1 7 1 1 3 4 2 9 2 2 2 4 8 1 4 2 1 5 2 p 2 3 1 6 4
  2 2 m 1 7 1 2 1 2 1 2 2 1 1 5 4 2 2 3 3 1 7 4 1 1 7 h a 3 1 9 1 3 1 m 1 7 1 2 1 5 2 a 1 3 1 3 2 1 f 4 2
  c 7 7 1 3 1 8 2 2 2 m 1 7 1 2 1 5 2 9 2 2 2 3 7 3 4 2 1 5 2 i a 2 1 6 3 3 1 4 3 2 1 1 1 2 3 2 3 3 3 c 4
  5 3 3 1 4 2 1 6 1 e l 5 d 1 3 1 n 1 g 2 9 1 3 1 4 7 2 1 3 2 1 2 4 2 a 7 m 1 3 1 n 1 a 1 5 2 9 1 3 1 4 7
  2 6 2 1 4 2 a 1 3 c d 1 3 1 1f 1 3 1 6 4 g 2 q 1 3 1 i 3 o 1 9 1 1 2 7 3 1 4 6 1 1 1 8 6 a 2 3 c 1m 4 t
  11 2 1 1 1 5 1 o 1 1 1 n 2 5 1 1 1 7 1 a 2 4 w 20 1 10 4 13 1 10 1 f 1 d 11 4g 13 1 5 1 2 3z 2 6g 1 4 2
  7 1 1 1 4 2 15 1 4 2 x 1 4 2 7 1 1 1 4 2 f 1 1l 1 4 2 1v 2 w 3 q 6 2e 2 6 2 hs 1 s 3 2h 7 m 9 o 9 k c d
  1 3 1 2 c 1g 2 14 2 a 6 a 6 6 1 7 1 b 6 2h 7 17 5 1y a v 1 c 4 c 4 1 3 16 2 5 b 18 4 q 6 b 3 1q 2 1t 1 t
  2 b 6 a 6 e 2 v 1d 25 3 1b 1 38 8 1o 3 f 3 1o 7 17 2 b 8 17 5 eu 2 6 2 12 2 6 2 8 1 1 1 1 1 1 1 v 2 1h 1
  7 1 1 3 3 1 7 3 4 2 6 4 d 2 1 2 3 1 7 e 1 4 7 1 c 3 1 8 e 1 8 3 l 1 1 3 1 b 2 2 r 1 d 3 x f x h 3 2 17 1
  28 1 8 4 if p b l 14 k 15k 1 73 2 w 1 9p 5 19 1 1 5 1 2 1k 7 2 e o 9 7 1 7 1 7 1 7 1 7 1 7 1 7 1 7 1 3i
  y q 1 2h c 5y 17 1r 1 2e 2 2 2 2r 5 17 1 1f 1 16 1 2c c 1b 1 bm 1 4 1 g 1 m9g 3 1j 9 9o k 54 8 5n 5 2 1
  1 1 5 o 1n 3 a 6 1k 8 1y 8 c 6 38 b u 3 26 1 b 4 x 1 1j 9 e 2 a 2 2v o s a 6 2 6 2 6 9 7 1 7 1 1o 4 3i 2
  a 6 8mc c n 4 1d 4 1kw 4xs a6 2 2y 12 7 c 5 5 q 1 5 1 1 1 2 1 2 1 3h g 3v 6 8c 2 1i 7 1 w a 2 m 2 2 1 2
  7 g 1 m 6 5 2 1 2 8 1 4 2 1 2 1 7 1 1 1 3 1 1 1 1 1 1 1 1 3i 2 1 1 2 1 1 1 9 1 a 1 1 1 1 3 q 4 t 1 1v 1
  u 3 6 2 6 2 6 2 3 3 3 1 3 1 7 h c 1 q 1 j 1 2 1 f 2 e y 3f 5 3 4 19 3 2g 1 d 3 1 1b 1a 3m t 3 1d f s 4
  10 9 u 5 17 5 u 1 11 4 e 16 4e 2 a 6 10 4 10 4 14 8 1g b c 1 f 1 7 1 2 1 b 1 f 1 7 1 2 1v 8n 9 m a 8 o 6
  1 16 1 9 1x 6 2 1 1 18 1 2 3 1 2 n 1 20 8 9 1c j 1 2 5 x 3 r 5 1 1s 1k 4 k 2 1e 1 2 5 8 1 3 1 t 2 3 4 a
  7 9 7 1s w 13 4 c 9 1i 3 t 2 r 5 q 7 4 c 7 28 21 1j 1f d 1f 7 1a 8 a 86 v 1 16 1 3 2 2 23 17 8 16 m q 12
  s k n 9 26 4 10 9 1q 1 5 d p 7 a 6 1h 1 i 8 13 9 2o 1 k b i 1 1b 1q 7 1 1 1 4 1 f 1 b 6 1n 5 a 6 4 1 8 2
  2 2 m 1 7 1 2 1 5 1 a 2 2 2 3 2 1 6 1 5 7 2 7 3 5 3v 2k 1 5 u 20 8 a 4m 1i 2 12 y 1x b a 6 d j 1m 6 a 1i
  r 2 f 4 n 55 1o 2s 2b c 8 2 1 2 8 1 2 1 u 1 2 2 c 9 a 1y 8 2 1a 2 b r 20 8 2b d 21 7 a 6u 9 1 19 1 e a t
  3 w 2 m 1 e 21 7 1 2 1 18 3 1 1 2 1 9 8 a 6 6 1 2 1 11 1 2 1 6 7 a 8m p 7 h 1 15 3 s 2e 1 f 1e d pn 2u
  33 1 5 b 5g 218 2r d ts g m 33e g7 6nt ft 7 v 1 a 4 29 1 a 6 u 2 6 a 1y a a 1 7 1 l 5 j j4 2j 2t 23 4 1l
  7 h 1s 5 b 2 e 4qg 8 ye 16 9 6w7 4 1 7 1 2 1 83 f 1 t 3 2 1 e 4 8 b0 1s4 2z 5 d 3 9 7 a 2 8 3mk 1a 2 n 9
  38 1o 6u a 13 2 22 8 34 l 1y 3e k c k c 2f 9 p 3r 2d 1 1z 1 2 2 1 2 2 2 4 1 c 1 1 1 7 1 1t 1 4 2 8 1 7 1
  s 1 4 1 5 1 1 3 7 1 9g 2 84 2 ji f 5 1 f uo v 6 6 5x 7 1 h 2 7 1 2 1 5 5 1q x 1 34 19 3 e 2 a 4 2 8w v h
  1m 5 1 cw 16 km 7 1 4 1 2 1 f 1 5h 2 g 15 24 4 a 4 2 lt 1w 24 1p 5e 4 1 r 1 2 1 1 2 1 1 a 1 4 1 1 1 1 6
  1 4 1 1 1 1 1 1 3 1 2 1 1 2 1 1 1 1 1 1 1 1 1 1 2 1 1 2 4 1 7 1 4 1 4 1 1 1 a 1 h 5 3 1 5 1 h 1g 2 7i 18
  4 2s c f 2 f 1 f 1 11 b 4t 1k t d 18 4 9 7 2 e 6 4a rc 4 h 3 d 3 3b 4 2n 6 c 4 1 f c 4 1k 8 a 6 14 8 u 2
  2 26 9g c e 2 d 3 9 7 1a 1 7 8 e 4 9 7 9 7 43 1 1j 11 a sm wyo w 37e 6 66 2 4g2 e 5rl 2e7 2w 1 b 1 4q 1
  1r 1 2n 1 2m 15u 3t7 5 38g f9e8 6o 47bk"

def unhostable : Ranges := Ranges.ofTable unhostableTable

/-- characters that do not count in names of hosts -/
def unheardTable : String :=
  "4t 1 ip 1 43f 3 1 1 1kr 1 2c 1 3 1 17rv g 6n 1 11gg 4 h8bg 6o"

def unheard : Ranges := Ranges.ofTable unheardTable

/-- from wide, circled and styled letters, digits and signs to the plain ones -/
def plainTable : String :=
  "4q 1 1 41 4y 2 1 73 55 1 1 7j 56 1 1 45 an 1 1 ev j4 2 2 wf j7 1 1 w1 jb 1 1 vz jc 1 1 vx kh 1 1 yx ki 1
  1 yl kj 1 1 yd ou 1 1 1ad 5rg 1 1 bdh 5ri 2 2 bdj 5rl 2 2 bdj 5ro 7 1 bdj 5rw 1 1 bdl 5ry 1 1 bdn 5rz 1
  1 bdl 5s0 2 1 bdj 5s2 1 1 bdh 5s3 1 1 ber 5s7 1 1 bex 5s8 2 1 bev 5sd 1 1 bez 5sf 1 1 bev 5sg 2 2 bet
  5sm 1 1 bez 5sn 2 1 bet 5sr 1 1 bex 5sy 1 1 bg1 5sz 1 1 bfl 5t0 2 1 bfh 5uk 1 1 bjl 5uo 1 1 bjn 5vf 1 1
  bk1 6b3 1 1 cgt 6eo 1 1 cqn 6ep 1 1 cnj 6es 6 1 cqn 6ey 1 1 crh 6f0 1 1 cql 6f1 2 1 crt 6f3 1 1 co1 6f4
  a 1 crj 6fe 1 1 csd 6fg 1 1 crh 6fh 2 1 csp 6fk 1 1 cpp 6fl 1 1 cpj 6fm 1 1 cp1 6fn 1 1 col 6fp 1 1 cpl
  6fq 4 1 cph 6fu 1 1 cpf 6fv 2 1 cpb 6iq 1 1 cvx 6iy 2 1 cw5 6j0 1 1 cw7 6j1 1 1 cw9 6j2 1 1 cwb 6j4 1 1
  cwd 6j5 1 1 cwf 6j6 1 1 cwb 6j7 2 2 cwd 6jd 3 1 cwh 6jg 1 1 cwj 6jh 1 1 cwl 6jo 1 1 cwj 6js 1 1 cwr 6ju
  1 1 cxp 6jw 2 1 cyb 6jz 1 1 cyb 6k0 2 1 cyd 6k3 1 1 cy3 6k4 1 1 cy1 6k9 1 1 cyn 6kl 1 1 czl 6km 2 1 czn
  6ko 2 1 czh 6lc 1 1 d0t 6lg 1 1 d0b 6ll 1 1 d0h 6lo 1 1 d1b 6lp 2 1 d1v 6lr 1 1 d1f 6ls 1 1 d1p 6lw 1 1
  d17 6m1 1 1 d1d 6m4 1 1 d27 6m5 2 1 d2r 6m7 1 1 d2b 76o 9 1 eal 792 q 1 ecp 79s q 1 ee5 7ai 1 1 eib 8sc
  1 1 her 8sd 1 1 he5 9he 1 1 iw7 x6a 1 1 1u71 x6b 1 1 1u6x x6c 1 1 1u6d 1dm1 1 1 2r5n 1e6o 1 1 2sav 1e6s
  1 1 2sa9 1e6t 1 1 2sbr 1e7n 1 1 2s9z 1e7o 1 1 2sa1 1e7p 2 1 2sd5 1e7r 1 1 2s8n 1e7s 1 1 2s8l 1e8d 1 1
  2sbf 1e8e 1 1 2sbh 1e8f 1 1 2sbj 1e8g 1 1 2sef 1e8k 1 1 2sdt 1e8n 1 1 2sff 1e8p 2 1 2sf5 1e8r 1 1 2san
  1e8s 1 1 2sal 1e8w 1 1 2sfn 1e8x 2 1 2sfh 1e8z 1 1 2sff 1e92 1 1 2sep 1e95 1 1 2sg9 1edd 2 1 2sov 1edg 2
  2 2sov 1edj 8 1 2sov 1eds a 1 2sov 1ee3 2 2 2sov 1ee9 q 1 2sn3 1ef3 t 1 2sov 1efx 2 1 2sov 1eg1 1 1 2sth
  1g2t 1 1 2vzb 2kg0 q 1 54ql 2kgq q 1 54s1 2khg q 1 54th 2ki6 7 1 54ux 2kie i 1 54ux 2kiw q 1 54wd 2kjm q
  1 54xt 2kkc 2 2 54z9 2kkf 1 1 54z9 2kki 1 1 54z9 2kkl 2 1 54z9 2kkp 4 1 54z9 2kku 8 1 54z9 2kl2 4 1 550p
  2kl7 2 2 550p 2kla 6 1 550p 2klh b 1 550p 2kls q 1 5525 2kmi q 1 553l 2kn8 2 1 5551 2knb 4 1 5551 2knh 8
  1 5551 2knq 7 1 5551 2kny q 1 556h 2koo 2 1 557x 2kor 4 1 557x 2kow 5 1 557x 2kp2 1 1 557x 2kp6 7 1 557x
  2kpe q 1 559d 2kq4 q 1 55at 2kqu q 1 55c9 2krk q 1 55dp 2ksa q 1 55f5 2kt0 q 1 55gl 2ktq q 1 55i1 2kug q
  1 55jh 2kv6 q 1 55kx 2kvw q 1 55md 2kwm q 1 55nt 2kxc q 1 55p9 2ky2 q 1 55qp 2l72 a 1 56bf 2l7c a 1 56bz
  2l7m a 1 56cj 2l7w a 1 56d3 2l86 a 1 56dn 2q7f 1 1 5g9b 2q7g 1 1 5g8j 2q7k q 1 5g9p 2sc0 a 1 5klb"

def plainShifts : Array Shift := Shift.ofTable plainTable

end ValueSchema.Text
