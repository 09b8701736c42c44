/-!
Characters that are spelled with several others in names: the code, then those of the others.
-/
namespace StatusBoard.Unicode.NameMapping

/-- Characters that are spelled with several others. -/
def spellingTable : List String := [
  "4o w lk,7 w lg,5 w ld,4 w mf,4 1d 6dg 1g,1 1d 6dg 1e,1 1f 6dg 1g,36 2x lj,2 2x 2y,1 2x 2y",
  "c 30 53,1 30 53,9 jg 32,3f 2s am,1 2s am,1 2s am,1 30 2y,1 30 2y,1 30 2y,1 32 2y,1 32 2y",
  "1 32 2y,11 2s 3e,1 2s 3e,1 2s 3e,6d w li,1 w lj,1 w lm,1 w mg,1 w lf,1 w ln,2v lk ld,1i w qh",
  "a w ld,1 w lk ld,ea 12d 136,6m 17r 19w,1 18o 19w,1 1c7 19w,1 18q 19w,kg 1sl 1to,1 1sm 1to",
  "1 1sn 1to,1 1ss 1to,1 1sx 1to,1 1sy 1to,1 1t7 1to,1 1tb 1to,3h 1wh 1x8,1 1wi 1x8,2 1wv 1x8",
  "2c 20i 20s,3 20o 20s,z 1zq 20s,1 1zr 20s,1 1zw 20s,3 20b 20s,72 275 27w,1 276 27w,k6 2tp 2sy",
  "3k 2x9 2wi,15 2wb 2vt,1 2wb 2w1,2u 30i 33r,a 30s 33r,5 30x 33r,5 312 33r,5 317 33r,d 30g 33p",
  "a 31t 31u,2 31t 31w,1 33m 328,1 33m 31t 328,1 33n 328,1 33n 31t 328,8 31t 328,i 32q 33r",
  "a 330 33r,5 335 33r,5 33a 33r,5 33f 33r,d 32o 33p,2xt 2p ji,6e 64g qh,1 64h qh,1 64i qh",
  "1 64j qh,1 64k qh,1 64l qh,1 64m qh,1 64n qh,1 64g qh,1 64h qh,1 64i qh,1 64j qh,1 64k qh",
  "1 64l qh,1 64m qh,1 64n qh,1 65c qh,1 65d qh,1 65e qh,1 65f qh,1 65g qh,1 65h qh,1 65i qh",
  "1 65j qh,1 65c qh,1 65d qh,1 65e qh,1 65f qh,1 65g qh,1 65h qh,1 65i qh,1 65j qh,1 674 qh",
  "1 675 qh,1 676 qh,1 677 qh,1 678 qh,1 679 qh,1 67a qh,1 67b qh,1 674 qh,1 675 qh,1 676 qh",
  "1 677 qh,1 678 qh,1 679 qh,1 67a qh,1 67b qh,3 67k qh,1 q9 qh,1 q4 qh,3 69i qh,5 q9 qh,1 w lv",
  "2 w lv,1 w n6,1 w lk n6,1 67o qh,1 qf qh,1 q6 qh,3 69y qh,5 qf qh,1 w lv lc,1 w lv ld",
  "1 w lv n6,e w lw lc,1 w lw ld,1 w lw n6,e w lk lc,1 w lk ld,4 67w qh,1 qx qh,1 r2 qh,3 6ba qh",
  "5 qx qh,1 w ld,1 w lw,p w mr,s 6cy 6cy,1 6cy 6cy 6cy,2 6d1 6d1,1 6d1 6d1 6d1,5 x x,2 w lh",
  "9 1r 1r,1 1r x,1 x 1r,e 6cy 6cy 6cy 6cy,29 36 37,2g 2p 1b 2r,1 2p 1b 37,2 4w 2r,2 2r 1b 33",
  "1 2r 1b 39,3 4w 2u,d 32 33,a 37 31,1 38 2t 30,1 38 31,p 2u 2p 3c,l 1d 6dg 1j,1 1d 6dg 1l",
  "1 1d 6dg 1d 1c,1 1d 6dg 1f,1 1e 6dg 1f,1 1d 6dg 1h,1 1e 6dg 1h,1 1f 6dg 1h,1 1g 6dg 1h",
  "1 1d 6dg 1i,1 1h 6dg 1i,1 1d 6dg 1k,1 1f 6dg 1k,1 1h 6dg 1k,1 1j 6dg 1k,1 1d 6dg,2 2x 2x",
  "1 2x 2x 2x,1 2x 3a,2 3a 2x,1 3a 2x 2x,1 3a 2x 2x 2x,1 2x 3c,2 3c 2x,1 3c 2x 2x,6 2x 2x",
  "1 2x 2x 2x,1 2x 3a,2 3a 2x,1 3a 2x 2x,1 3a 2x 2x 2x,1 2x 3c,2 3c 2x,1 3c 2x 2x,e 1c 6dg 1f",
  "4j 6qz 6qz,1 6qz 6qz 6qz,2 6r2 6r2,1 6r2 6r2 6r2,ft 1d 1c,1 1d 1d,1 1d 1e,1 1d 1f,1 1d 1g",
  "1 1d 1h,1 1d 1i,1 1d 1j,1 1d 1k,1 1d 1l,1 1e 1c,1 14 1d 15,1 14 1e 15,1 14 1f 15,1 14 1g 15",
  "1 14 1h 15,1 14 1i 15,1 14 1j 15,1 14 1k 15,1 14 1l 15,1 14 1d 1c 15,1 14 1d 1d 15",
  "1 14 1d 1e 15,1 14 1d 1f 15,1 14 1d 1g 15,1 14 1d 1h 15,1 14 1d 1i 15,1 14 1d 1j 15",
  "1 14 1d 1k 15,1 14 1d 1l 15,1 14 1e 1c 15,l 14 2p 15,1 14 2q 15,1 14 2r 15,1 14 2s 15",
  "1 14 2t 15,1 14 2u 15,1 14 2v 15,1 14 2w 15,1 14 2x 15,1 14 2y 15,1 14 2z 15,1 14 30 15",
  "1 14 31 15,1 14 32 15,1 14 33 15,1 14 34 15,1 14 35 15,1 14 36 15,1 14 37 15,1 14 38 15",
  "1 14 39 15,1 14 3a 15,1 14 3b 15,1 14 3c 15,1 14 3d 15,1 14 3e 15,11z 6qz 6qz 6qz 6qz",
  "2w 1m 1m 1p,1 1p 1p,1 1p 1p 1p,2u 8gt mw,14v w 9ll,1 w 9lm,3 9l4 9l6,2o 9mb 9mw,75 14 3cw 15",
  "1 14 3cy 15,1 14 3cz 15,1 14 3d1 15,1 14 3d2 15,1 14 3d3 15,1 14 3d5 15,1 14 3d7 15",
  "1 14 3d8 15,1 14 3da 15,1 14 3db 15,1 14 3dc 15,1 14 3dd 15,1 14 3de 15,1 14 xz4 15",
  "1 14 yvs 15,1 14 zc4 15,1 14 108s 15,1 14 10p4 15,1 14 115g 15,1 14 1224 15,1 14 12ys 15",
  "1 14 13f4 15,1 14 14bs 15,1 14 14s4 15,1 14 158g 15,1 14 15os 15,1 14 1654 15,1 14 13p8 15",
  "1 14 1350 13ic 15,1 14 1350 16f8 15,2 14 feo 15,1 14 fik 15,1 14 fex 15,1 14 h5n 15",
  "1 14 fis 15,1 14 g31 15,1 14 fer 15,1 14 g2z 15,1 14 fh9 15,1 14 gg1 15,1 14 kco 15",
  "1 14 m7f 15,1 14 ldg 15,1 14 kdk 15,1 14 ssx 15,1 14 h7j 15,1 14 k4l 15,1 14 kkq 15",
  "1 14 kcp 15,1 14 ny6 15,1 14 glp 15,1 14 mm1 15,1 14 rs1 15,1 14 nz1 15,1 14 gc4 15",
  "1 14 fkz 15,1 14 gos 15,1 14 i1y 15,1 14 nhf 15,1 14 flt 15,1 14 rt3 15,1 14 ggk 15",
  "1 14 nzh 15,1 14 fm9 15,1 14 pnu 15,1 14 po3 15,d 34 38 2t,1 1e 1d,1 1e 1e,1 1e 1f,1 1e 1g",
  "1 1e 1h,1 1e 1i,1 1e 1j,1 1e 1k,1 1e 1l,1 1f 1c,1 1f 1d,1 1f 1e,1 1f 1f,1 1f 1g,1 1f 1h",
  "t 14c8 y5c,1 13p8 13dk,1g 1f 1i,1 1f 1j,1 1f 1k,1 1f 1l,1 1g 1c,1 1g 1d,1 1g 1e,1 1g 1f",
  "1 1g 1g,1 1g 1h,1 1g 1i,1 1g 1j,1 1g 1k,1 1g 1l,1 1h 1c,1 1d kco,1 1e kco,1 1f kco,1 1g kco",
  "1 1h kco,1 1i kco,1 1j kco,1 1k kco,1 1l kco,1 1d 1c kco,1 1d 1d kco,1 1d 1e kco,1 2w 2v",
  "1 2t 36 2v,1 2t 3a,1 30 38 2s,1c fl0 gp8,1 9lu 9n5 9oc 9mw,1 9lu 9nv 9n9 9lt,1 9lu 9o3 9ne 9lu",
  "1 9lu 9oc 9nv,1 9lw 9mz 9o3 9m8,1 9lw 9o3 9mp,1 9ly 9m1 9o3,1 9m0 9mh 9m7 9oc 9mx",
  "1 9m0 9oc 9m3 9oc,1 9m2 9o3 9mh,1 9m2 9oc 9nk,1 9m3 9lw 9nu,1 9m3 9nt 9mr 9mw",
  "1 9m3 9nx 9nu 9oc,1 9m4 9nx 9o3,1 9m4 9o3 9ni,1 9m6 9m4,1 9m6 9mz 9oc,1 9m5 9np 9nu 9oc",
  "1 9m6 9nv 9mo 9oc,1 9m5 9nx,1 9m5 9nx 9m8 9nt 9nk,1 9m5 9nx 9nl 9oc 9mw 9nv",
  "1 9m5 9nx 9nz 9mr 9mw,1 9m8 9nt 9nk,1 9m8 9nt 9nk 9mw 9o3,1 9m7 9nv 9mk 9lw 9nx",
  "1 9m7 9nx 9oc 9n1,1 9m9 9oc 9mh,1 9mb 9nv 9my,1 9mb 9oc 9nh,1 9md 9lw 9m7 9nv",
  "1 9md 9o3 9mp 9oc 9nk,1 9mf 9nu 9o3 9m8,1 9mj 9o3 9mp,1 9mj 9o3 9mw,1 9mo 9oc 9mh,1 9mv 9mf",
  "1 9mx 9nv,1 9mw 9o3,1 9my 9n2,1 9n2 9mr 9mw,1 9n3 9lw 9ms,1 9n5 9oc 9mj 9o3 9mw,1 9n5 9oc 9ms",
  "1 9n4 9oc 9nw 9nv,1 9n8 9lu 9mh 9mw 9nv,1 9n8 9m7 9nv,1 9n8 9mb,1 9n7 9nv",
  "1 9n9 9lt 9nt 9mr 9mx,1 9n9 9lv 9oc 9mw,1 9na 9mr 9mf 9lz 9nv,1 9n9 9nt 9o3",
  "1 9nc 9m7 9mn 9oc 9nv,1 9ne 9ml,1 9ne 9mz 9n6,1 9nc 9nv 9ms,1 9ne 9o3 9mh,1 9ne 9oc 9mg",
  "1 9nd 9oc 9mn,1 9nh 9lw 9o3 9mw,1 9ng 9nv 9mw,1 9nf 9o3,1 9nh 9o3 9mx,1 9nf 9oc 9nv",
  "1 9nf 9oc 9o3,1 9ni 9lw 9m7 9nx,1 9ni 9lw 9nv,1 9ni 9mr 9n3,1 9ni 9nv 9m7",
  "1 9ni 9o3 9mf 9nr 9o3,1 9nj 9m7 9nx 9o3,1 9nj 9nu,1 9nj 9nu 9n4 9oc 9nv,1 9nl 9m4",
  "1 9nl 9m4 9mw 9o3,1 9nl 9oc 9mw 9nv,1 9no 9oc 9mx,1 9no 9oc 9nv,1 9nq 9lu 9o3",
  "1 9nu 9mr 9mw 9nv,1 9nu 9nt,1 9nv 9n8 9oc,1 9nv 9oc 9na 9nv,1 9nw 9nk,1 9nw 9o3 9mw 9ma 9o3",
  "1 9nz 9mr 9mw,1 1c m9l,1 1d m9l,1 1e m9l,1 1f m9l,1 1g m9l,1 1h m9l,1 1i m9l,1 1j m9l,1 1k m9l",
  "1 1l m9l,1 1d 1c m9l,1 1d 1d m9l,1 1d 1e m9l,1 1d 1f m9l,1 1d 1g m9l,1 1d 1h m9l,1 1d 1i m9l",
  "1 1d 1j m9l,1 1d 1k m9l,1 1d 1l m9l,1 1e 1c m9l,1 1e 1d m9l,1 1e 1e m9l,1 1e 1f m9l",
  "1 1e 1g m9l,1 2w 34 2p,1 2s 2p,1 2p 39,1 2q 2p 36,1 33 3a,1 34 2r,1 2s 31,1 2s 31 1e",
  "1 2s 31 1f,1 2x 39,1 inn jdc,1 k6l gp8,1 hlz l7n,1 k5q lh7,1 kkq irz fmi ny6,1 34 2p,1 32 2p",
  "1 qk 2p,1 31 2p,1 2z 2p,1 2z 2q,1 31 2q,1 2v 2q,1 2r 2p 30,1 2z 2r 2p 30,1 34 2u,1 32 2u",
  "1 qk 2u,1 qk 2v,1 31 2v,1 2z 2v,1 2w 3e,1 2z 2w 3e,1 31 2w 3e,1 2v 2w 3e,1 38 2w 3e,1 qk 30",
  "1 31 30,1 2s 30,1 2z 30,1 2u 31,1 32 31,1 qk 31,1 31 31,1 2r 31,1 2z 31,1 31 31 1e,1 2r 31 1e",
  "1 31 1e,1 2z 31 1e,1 31 31 1f,1 2r 31 1f,1 31 1f,1 2z 31 1f,1 31 6qd 37,1 31 6qd 37 1e,1 34 2p",
  "1 2z 34 2p,1 31 34 2p,1 2v 34 2p,1 36 2p 2s,1 36 2p 2s 6qd 37,1 36 2p 2s 6qd 37 1e,1 34 37",
  "1 32 37,1 qk 37,1 31 37,1 34 3a,1 32 3a,1 qk 3a,1 31 3a,1 2z 3a,1 31 3a,1 34 3b,1 32 3b",
  "1 qk 3b,1 31 3b,1 2z 3b,1 31 3b,1 2z qx,1 31 qx,2 2q 35,1 2r 2r,1 2r 2s,1 2r 6qd 2z 2v,2 2s 2q",
  "1 2v 3d,1 2w 2p,1 2w 34,1 2x 32,1 2z 2z,1 2z 31,1 2z 38,1 30 31,1 30 32,1 30 33 2v,1 30 3c",
  "1 31 2q,1 31 2x 30,1 31 33 30,1 34 2w,2 34 34 31,1 34 36,1 37 36,1 37 3a,1 3b 2q,1 3a 6qd 31",
  "1 2p 6qd 31,1 1d k4l,1 1e k4l,1 1f k4l,1 1g k4l,1 1h k4l,1 1i k4l,1 1j k4l,1 1k k4l,1 1l k4l",
  "1 1d 1c k4l,1 1d 1d k4l,1 1d 1e k4l,1 1d 1f k4l,1 1d 1g k4l,1 1d 1h k4l,1 1d 1i k4l",
  "1 1d 1j k4l,1 1d 1k k4l,1 1d 1l k4l,1 1e 1c k4l,1 1e 1d k4l,1 1e 1e k4l,1 1e 1f k4l",
  "1 1e 1g k4l,1 1e 1h k4l,1 1e 1i k4l,1 1e 1j k4l,1 1e 1k k4l,1 1e 1l k4l,1 1f 1c k4l",
  "1 1f 1d k4l,1 2v 2p 30,13b5 2u 2u,1 2u 2x,1 2u 30,1 2u 2u 2x,1 2u 2u 30,1 37 38,1 37 38",
  "d 12s 12u,1 12s 12d,1 12s 12j,1 132 12u,1 12s 12l,6 15l 14k,2 16a 14n,b 161 14x,1 161 14y",
  "1 161 14s 14x,1 161 14s 14y,1 15c 14n,1 15c 14o,1 15c 14s,1 15d 14s,1 15e 14s,1 15f 14s",
  "1 15g 14s,1 15h 14s,1 15i 14s,2 15k 14s,1 15l 14s,1 15m 14s,1 15n 14s,1 15o 14s,2 15q 14s",
  "2 15s 14s,1 15t 14s,2 15v 14s,1 15w 14s,2 15y 14s,1 15z 14s,1 160 14s,1 161 14s,1 162 14s",
  "1 15h 14p,1 15d 14v,1 15n 14v,1 15w 14v,1 15c 15o,3y 1c7 19w,d 17q 17r,1 17q 17r,1 17q 1cl",
  "1 17q 1cl,1 17q 18o,1 17q 18o,1 17q 1c7,1 17q 1c7,1 17q 1c6,1 17q 1c6,1 17q 1c8,1 17q 1c8",
  "1 17q 1cg,1 17q 1cg,1 17q 1cg,1 17q 18p,1 17q 18p,1 17q 18p,5 17q 17w,1 17q 17x,1 17q 18l",
  "1 17q 18p,1 17q 18q,1 17s 17w,1 17s 17x,1 17s 17y,1 17s 18l,1 17s 18p,1 17s 18q,1 17u 17w",
  "1 17u 17x,1 17u 17y,1 17u 18l,1 17u 18p,1 17u 18q,1 17v 17w,1 17v 18l,1 17v 18p,1 17v 18q",
  "1 17w 17x,1 17w 18l,1 17x 17w,1 17x 18l,1 17y 17w,1 17y 17x,1 17y 18l,1 183 17w,1 183 17x",
  "1 183 17y,1 183 18l,1 185 17x,1 185 18l,1 186 17w,1 186 17x,1 186 17y,1 186 18l,1 187 17x",
  "1 187 18l,1 188 18l,1 189 17w,1 189 18l,1 18a 17w,1 18a 18l,1 18h 17w,1 18h 17x,1 18h 17y",
  "1 18h 18l,1 18h 18p,1 18h 18q,1 18i 17x,1 18i 18l,1 18i 18p,1 18i 18q,1 18j 17r,1 18j 17w",
  "1 18j 17x,1 18j 17y,1 18j 18k,1 18j 18l,1 18j 18p,1 18j 18q,1 18k 17w,1 18k 17x,1 18k 17y",
  "1 18k 18l,1 18k 18p,1 18k 18q,1 18l 17w,1 18l 17x,1 18l 17y,1 18l 18l,1 18l 18p,1 18l 18q",
  "1 18m 17w,1 18m 17x,1 18m 17y,1 18m 18l,1 18m 18p,1 18m 18q,1 18n 17w,1 18n 18l,1 18n 18p",
  "1 18n 18q,1 18q 17w,1 18q 17x,1 18q 17y,1 18q 18l,1 18q 18p,1 18q 18q,1 180 19s,1 181 19s",
  "1 18p 19s,1 w 18s 18x,1 w 18t 18x,1 w 18u 18x,1 w 18v 18x,1 w 18w 18x,1 w 18x 19s,1 17q 181",
  "1 17q 182,1 17q 18l,1 17q 18m,1 17q 18p,1 17q 18q,1 17s 181,1 17s 182,1 17s 18l,1 17s 18m",
  "1 17s 18p,1 17s 18q,1 17u 181,1 17u 182,1 17u 18l,1 17u 18m,1 17u 18p,1 17u 18q,1 17v 181",
  "1 17v 182,1 17v 18l,1 17v 18m,1 17v 18p,1 17v 18q,1 18h 18p,1 18h 18q,1 18i 18p,1 18i 18q",
  "1 18j 17r,1 18j 18k,1 18j 18l,1 18j 18p,1 18j 18q,1 18k 18l,1 18k 18p,1 18k 18q,1 18l 17r",
  "1 18l 18l,1 18m 181,1 18m 182,1 18m 18l,1 18m 18m,1 18m 18p,1 18m 18q,1 18p 19s,1 18q 181",
  "1 18q 182,1 18q 18l,1 18q 18m,1 18q 18p,1 18q 18q,1 17q 17w,1 17q 17x,1 17q 17y,1 17q 18l",
  "1 17q 18n,1 17s 17w,1 17s 17x,1 17s 17y,1 17s 18l,1 17s 18n,1 17u 17w,1 17u 17x,1 17u 17y",
  "1 17u 18l,1 17u 18n,1 17v 18l,1 17w 17x,1 17w 18l,1 17x 17w,1 17x 18l,1 17y 17w,1 17y 18l",
  "1 183 17w,1 183 17x,1 183 17y,1 183 18l,1 185 17x,1 185 17y,1 185 18l,1 186 17w,1 186 17x",
  "1 186 17y,1 186 18l,1 187 17x,1 188 18l,1 189 17w,1 189 18l,1 18a 17w,1 18a 18l,1 18h 17w",
  "1 18h 17x,1 18h 17y,1 18h 18l,1 18i 17x,1 18i 18l,1 18j 17w,1 18j 17x,1 18j 17y,1 18j 18k",
  "1 18j 18l,1 18k 17w,1 18k 17x,1 18k 17y,1 18k 18l,1 18k 18n,1 18l 17w,1 18l 17x,1 18l 17y",
  "1 18l 18l,1 18m 17w,1 18m 17x,1 18m 17y,1 18m 18l,1 18m 18n,1 18n 17w,1 18n 18l,1 18n 19s",
  "1 18q 17w,1 18q 17x,1 18q 17y,1 18q 18l,1 18q 18n,1 17q 18l,1 17q 18n,1 17s 18l,1 17s 18n",
  "1 17u 18l,1 17u 18n,1 17v 18l,1 17v 18n,1 183 18l,1 183 18n,1 184 18l,1 184 18n,1 18j 18k",
  "1 18j 18l,1 18k 18l,1 18m 18l,1 18m 18n,1 18q 18l,1 18q 18n,1 18g 18u 18x,1 18g 18v 18x",
  "1 18g 18w 18x,1 187 18p,1 187 18q,1 189 18p,1 189 18q,1 18a 18p,1 18a 18q,1 183 18p,1 183 18q",
  "1 184 18p,1 184 18q,1 17x 18p,1 17x 18q,1 17w 18p,1 17w 18q,1 17y 18p,1 17y 18q,1 185 18p",
  "1 185 18q,1 186 18p,1 186 18q,1 184 17w,1 184 17x,1 184 17y,1 184 18l,1 184 181,1 183 181",
  "1 185 181,1 186 181,1 187 18p,1 187 18q,1 189 18p,1 189 18q,1 18a 18p,1 18a 18q,1 183 18p",
  "1 183 18q,1 184 18p,1 184 18q,1 17x 18p,1 17x 18q,1 17w 18p,1 17w 18q,1 17y 18p,1 17y 18q",
  "1 185 18p,1 185 18q,1 186 18p,1 186 18q,1 184 17w,1 184 17x,1 184 17y,1 184 18l,1 184 181",
  "1 183 181,1 185 181,1 186 181,1 184 17w,1 184 17x,1 184 17y,1 184 18l,1 183 18n,1 184 18n",
  "1 187 18l,1 183 17w,1 183 17x,1 183 17y,1 184 17w,1 184 17x,1 184 17y,1 187 18l,1 188 18l",
  "1 17r 18r,1 17r 18r,j 17u 17w 18l,1 17u 17x 17w,1 17u 17x 17w,1 17u 17x 18l,1 17u 17y 18l",
  "1 17u 18l 17w,1 17u 18l 17x,1 17u 18l 17y,1 17w 18l 17x,1 17w 18l 17x,1 17x 18l 18q",
  "1 17x 18l 18p,1 183 17x 17w,1 183 17w 17x,1 183 17w 18p,1 183 18l 17x,1 183 18l 17x",
  "1 183 18l 17w,1 183 18l 18l,1 183 18l 18l,1 185 17x 17x,1 185 17x 17x,1 185 18l 18l",
  "1 184 17x 18l,1 184 17x 18l,1 184 17w 18q,1 184 18l 17y,1 184 18l 17y,1 184 18l 18l",
  "1 184 18l 18l,1 186 17x 18p,1 186 17y 18l,1 186 17y 18l,1 187 18l 17x,1 187 18l 17x",
  "1 187 18l 18l,1 187 18l 18q,1 189 17w 18l,1 189 18l 18l,1 189 18l 18l,1 189 18l 18p",
  "1 18a 18l 18l,1 18a 18l 18q,1 18a 18l 18p,1 18h 17y 18l,1 18h 17y 18l,1 18i 18l 17x",
  "1 18i 18l 18l,1 18k 17x 18l,1 18k 17x 18q,1 18k 17x 18p,1 18k 17w 17w,1 18k 17w 17w",
  "1 18k 17y 18l,1 18k 17y 18l,1 18k 18l 17x,1 18k 18l 17x,1 18l 17x 17w,1 18l 17x 18l",
  "1 18l 17x 18q,1 18l 17w 17x,1 18l 17w 18l,1 18l 17y 17w,1 18l 17y 18l,3 18l 17w 17y",
  "1 18n 18l 17w,1 18n 18l 18l,1 18m 17x 18l,1 18m 17x 18p,1 18m 17w 18l,1 18m 17w 18l",
  "1 18m 17w 18p,1 18m 18l 18q,1 18m 18l 18p,1 18q 18l 18l,1 18q 18l 18l,1 17s 17y 18q",
  "1 17u 17w 18q,1 17u 17w 18p,1 17u 17y 18q,1 17u 17y 18p,1 17u 18l 18q,1 17u 18l 18p",
  "1 17w 18l 18q,1 17w 17x 18p,1 17w 18l 18p,1 183 17y 18p,1 185 17x 18q,1 184 17x 18q",
  "1 186 17x 18q,1 18k 17w 18q,1 18k 18l 18q,1 18q 17x 18q,1 18q 17w 18q,1 18q 18l 18q",
  "1 18l 18l 18q,1 18i 18l 18q,1 18m 17x 18q,1 18i 18l 17x,1 18k 17x 18l,1 189 18l 18q",
  "1 18j 18l 18q,1 18m 17w 17x,1 18l 17y 18q,1 18k 17w 18l,1 18j 18l 18l,1 18k 17w 18l",
  "1 18m 17w 17x,1 17w 17x 18q,1 17x 17w 18q,1 18l 17w 18q,1 18h 18l 18q,1 17s 17x 18q",
  "1 18j 18l 18l,1 189 17w 18l,1 185 18l 18l,1 183 17y 18q,1 18m 17w 18q,15 185 18k 1ci",
  "1 18i 18k 1ci,1 17r 18k 18k 18n,1 17r 18j 17s 181,1 18l 17x 18l 17z,1 185 18k 189 18l",
  "1 181 183 18o 18k,1 189 18k 18q 18n,1 18o 183 18k 18l,1 185 18k 18p",
  "1 185 18k 18p w 17r 18k 18k 18n w 189 18k 18q 18n w 18o 183 18k 18l",
  "1 17w 18k w 17w 18k 17r 18k 18n,1 181 1cc 17r 18k,25 w lh,1 w lh,1 w lh,1 w lh,10 w 18r",
  "1 18g 18r,1 w 18s,2 w 18t,2 w 18u,1 18g 18u,1 w 18v,1 18g 18v,1 w 18w,1 18g 18w,1 w 18x",
  "1 18g 18x,1 w 18y,1 18g 18y,3a 18k 17m,1 18k 17m,1 18k 17n,1 18k 17n,1 18k 17p,1 18k 17p",
  "1 18k 17r,1 18k 17r,6f w lg,15dn 2jx3 2jxh,1 2jx4 2jxh,1 2jx4 2jxh 2jxq,1 2jx4 2jxh 2jxr",
  "1 2jx4 2jxh 2jxs,1 2jx4 2jxh 2jxt,1 2jx4 2jxh 2jxu,2f 2jzt 2jxh,1 2jzu 2jxh,1 2jzt 2jxh 2jxq",
  "1 2jzu 2jxh 2jxq,1 2jzt 2jxh 2jxr,1 2jzu 2jxh 2jxr,669 1c 18,1 1d 18,1 1e 18,1 1f 18,1 1g 18",
  "1 1h 18,1 1i 18,1 1j 18,1 1k 18,1 1l 18,6 14 2p 15,1 14 2q 15,1 14 2r 15,1 14 2s 15,1 14 2t 15",
  "1 14 2u 15,1 14 2v 15,1 14 2w 15,1 14 2x 15,1 14 2y 15,1 14 2z 15,1 14 30 15,1 14 31 15",
  "1 14 32 15,1 14 33 15,1 14 34 15,1 14 35 15,1 14 36 15,1 14 37 15,1 14 38 15,1 14 39 15",
  "1 14 3a 15,1 14 3b 15,1 14 3c 15,1 14 3d 15,1 14 3e 15,1 9hw 37 9hx,3 2r 2s,1 3b 3e,s 2w 3a",
  "1 31 3a,1 37 2s,1 37 37,1 34 34 3a,1 3b 2r,r 31 2r,1 31 2s,1 31 36,10 2s 2y,34 9kr 9jf",
  "1 9mb 9mb,1r 9hw kdo 9hx,1 9hw fex 9hx,1 9hw fik 9hx,1 9hw i2x 9hx,1 9hw m9l 9hx,1 9hw jf7 9hx",
  "1 9hw nh3 9hx,1 9hw gd9 9hx,1 9hw k0n 9hx"]

end StatusBoard.Unicode.NameMapping
