/-!
Characters that stand for one other character in names, in runs: the first code and the code that it
stands for, then, if there are more, how many there are and their distance. Within a run the distance
to the other code stays the same.
-/
namespace StatusBoard.Unicode.NameMapping

/-- Runs of characters that stand for one other. -/
def shiftTable : List String := [
  "1t 2p q 1,2n w,a 2p,8 1e 2 1,3 qk,4 1d,1 33,6 68 n 1,o 6w 7 1,14 75 o 2,1g 8l 2 2,5 8q 3 2",
  "8 8y 4 2,9 97 n 2,1a 73,1 ai 3 2,6 37,2 gj,1 ar 2 2,4 gk,1 aw,2 gm 2 1,2 b0,3 d9,1 gp,1 gr",
  "1 b6,2 gw,1 gz,2 h5,1 h4,1 bd,4 hb,1 he,2 hh,1 bl 3 2,6 hs,1 bs,2 hv,3 bx,2 i0,1 c0,2 i2 2 1",
  "2 c4 2 2,4 ia,1 c9,4 cd,h cu 8 2,h db 9 2,m dx,2 b9,1 cf,1 e1 k 2,14 bi,2 f7 9 2,o 8rp,1 fw",
  "2 be,1 8rq,3 g2,2 ao,1 i1,1 i4,1 g7 5 2,2y 2w 2 2,1 h2,2 36,1 hl,1 hn,1 ht,1 3b,1 3d,14 gz",
  "1 30,1 37,1 3c,1 id,2k lc 2 1,3 lv,2 qh,17 oh 2 2,4 jd,2 on,8 1n,1 s3,7 q4,1 53,1 q5 3 1,4 r0",
  "2 r1 2 1,3 q9 h 1,i qr 9 1,18 rb,1 qa,1 qg,1 qt,1 r1,1 qz,1 qu,1 qo,2 rd c 2,o qi,1 qp,1 qr",
  "2 qg,1 qd,2 s8,2 qr,1 sb,3 or 3 1,3 uo g 1,g ts w 1,28 v5 h 2,16 wb r 2,1i y7,1 xu 7 2",
  "f y9 1c 2,2p 129 12 1,1y3 2yz,b8 8w0 12 1,13 8x3,6 8x9,1b 3bw,l8 3xs 6 1,1oo tu,1 tw,1 u6",
  "1 u9 2 1,2 ua,1 ui,1 v7,1 wuj,1 5my,7 3bk 17 1,19 3ct 3 1,33 2p,1 6e,1 2q 2 2,3 2t 5 2,1 d9",
  "2 2w 4 2,8 33,1 f7,1 34,1 36,1 38 2 1,2 3b,1 2p,1 gg 2 1,2 5qa,1 2q,1 2s 2 1,2 gp,1 gr 2 1",
  "2 2v,2 2z,1 31 2 2,1 97,2 gk,1 5qu 2 1,2 34,1 38 2 1,2 5r1,1 hb,1 3a,1 5r9,1 qa 3 1,3 qu 2 1",
  "2 2x,1 36,1 39 2 1,2 qa 2 1,2 qp,1 qu 2 1,f u5,z gi,1 2r,1 gl,1 6o,1 gs,1 2u,1 gv,1 gx,1 h1",
  "1 h4 3 1,3 5tn,1 il,1 h9,1 5tx,1 in,1 hd,1 hc,1 he 4 1,4 hk,1 hu 2 1,2 bv,1 i1 2 1,2 5r0",
  "1 i3 2 1,2 3e,1 i8 3 1,3 qg,1t 5xd 23 2,4b 601,3 67,2 61t 1c 2,2w 64g 8 1,g 64w 6 1,g 65c 8 1",
  "g 65s 8 1,g 668 6 1,h 66p 4 2,f 674 8 1,9 q4,2 q5,2 q6,2 q7,2 r0,2 r1,2 r2,1n 69c 2 1,2 67k",
  "1 q4,3 qh,a 67m 2 2,1 q5,2 q6,8 pc,5 6a8 2 1,2 67q,1 q7,8 q8,5 6ao 2 1,2 67u,1 r1,1 6at,3 2o",
  "9 67s,1 r0 2 2,1 67w,6 w,1 w,1 w,1 w,1 w,1 w,1 w,1 w,1 w,1 w,1 w,7 6c0,u w,1c w,h 1c,1 2x",
  "3 1g 6 1,6 17,1 6qa,1 1p,1 14 2 1,2 32,1 1c a 1,a 17,1 6qa,1 1p,1 14 2 1,3 2p,1 2t,1 33,1 3c",
  "1 gp,1 2w,1 2z 4 1,4 34,1 37 2 1,2v 2r,5 gr,3 2v 2 1,2 2w,1 2w,1 2w,1 87,1 2x,1 2x,1 30",
  "1 30 2 2,6 34 3 1,3 36,1 36,7 3e,2 qx,2 3e,2 2z,1 6d,1 2q 2 1,3 2t,1 2t 2 1,2 6ku,1 31,1 33",
  "1 15c 4 1,4 2x,3 qo,1 qb,1 qb,1 qo,1 6q9,5 2s,1 2s 2 1,2 2x 2 1,o 2x,4 3a,5 3c,3 30,1 2r 2 1",
  "2 31,1 2x,4 3a,5 3c,3 30,1 2r 2 1,2 31,4 6mc,bq 9hk 2 1,8n 1d 9 1,2e 2p q 1,q 2p q 1,q 1c",
  "1ee 8q8 1c 1,2o 8rl,2 h7,1 5tp,1 hp,3 8rs 3 2,6 gh,1 hd,1 gg,1 gi,2 8s3,3 8s6,7 2y,1 3a",
  "1 fz 2 1,2 8sh 1e 2,2z 8vg 2 2,7 8vn,3h 8yp,8g lal,2c vj3,d feo,1 ffs,1 fg6,1 fgf,1 fh5,1 fid",
  "1 fik,1 fj4,1 fju,1 g1r,1 g2t,1 g2z,1 g3m,1 g46,1 g4r,1 g68,1 g6t,1 g74,1 gbf,1 ge1,1 get",
  "1 gey,1 gfs,1 gg1,1 ggs,1 gh5,1 ghu,1 gja,1 gjs,1 gkj,1 h5j,1 h7j,1 hkb,1 hky,1 hl6,1 hlh",
  "1 hlz,1 ho3,1 i1c,1 i2o,1 i60,1 i6n,1 i76,1 i7s,1 i9a,1 i9d,1 ijf,1 ijp,1 ik1,1 ike,1 inm",
  "1 inu,1 inz,1 ir8,1 iri,1 irv,1 is3,1 its,1 iu9,1 iur,1 iwz,1 jd4,1 jee,1 jez,1 jzj,1 jzo",
  "1 k1z,1 k2f,1 k2s,1 k3d,1 k4g,1 k4l,1 kc0,1 kco,1 kdk,1 l5s,1 l7m,1 l89,1 l9v,1 laj,1 las",
  "1 laz,1 lcf,1 lck,1 ldg,1 m7f,1 mju,1 mk6,1 mkb,1 mkf,1 mkn,1 ml5,1 ml7,1 mng,1 mtg,1 mtl",
  "1 n30,1 n3a,1 n4o,1 n4v,1 n54,1 n5c,1 n7v,1 n82,1 nee,1 nel,1 nfy,1 ngf,1 nhq,1 nob,1 noi",
  "1 noz,1 ny2,1 o1k,1 o1q,1 o6s,1 o97,1 oah,1 okz,1 ooo,1 p4m,1 p5d,1 p6y,1 p8d,1 pa9,1 pak",
  "1 paq,1 pbn,1 pdr,1 pe1,1 pnn,1 pnu,1 po3,1 poc,1 pos,1 pp7,1 ppb,1 pri,1 prm,1 prs,1 qj1",
  "1 qjv,1 qww,1 qx8,1 qxv,1 r5q,1 r63,1 r82,1 r9c,1 rp3,1 rpi,1 rpx,1 rqw,1 rrx,1 rxg,1 rxs",
  "1 rzn,1 s6j,1 s7e,1 sd7,1 sds,1 sdx,1 sk1,1 sp5,1 ssm,1 sss,1 ssx,1 tiv,1 tj4,1 tng,1 trq",
  "1 trt,1 tt4,1 tw1,1 twe,1 twi,1 twp,1 tzf,1 u0d,1 u0j,1 u0x,1 u5k,1 u6z,1 u73,1 uc6,1 uc9",
  "1 ucs,1 ujs,1 ul4,1 ulb,1 un9,1 unj,1 unm,1 unw,1 uoq,1 uzp,1 vat,1 vb3,1 vc5,1 vcr,1 vcz",
  "1 vd9,1 vdd,1 veh,1 vel,1 vf2,1 vf7,1 vfk,1 vgb,1 vgq,1 vgy,1 vil,1 vj0,1 vj4,17 w,2 1a,1g 9hu",
  "2 gg1,1 gg4 2 1,6w 3cw 2 1,2 3hm 2 2,1 3cy,2 3hp,1 3cz 3 1,3 3hs 6 1,6 3dm,1 3d2 3 1,3 3dt",
  "1 3d5 a 1,a 3fl l 1,m 3dg 2 1,2 3if 2 1,2 3ik,1 3im,1 3ir,1 3iv,1 3ix,1 3do,1 3j1,1 3j3",
  "1 3dp 2 1,2 3ds,1 3du 2 1,2 3dz,1 3e1,1 3e3 5 1,5 3ea,1 3ee,1 3eo,1 3ev,1 3f0,1 3jl 2 1",
  "2 3fb 3 1,3 3gk 2 1,2 3go,1 3gx 2 1,2 3h0,1 3ha,1 3hd,4 feo,1 fik,1 fex,1 h5n,1 fey,1 ffx",
  "1 fez,1 n5e,1 fh5,1 ffd,1 fep,1 hm1,1 h80,1 fju,4l gun,1 inw,1 k1z,1 oen,p 3cw,1 3cy 2 1",
  "2 3d1 3 1,3 3d5,1 3d7 2 1,2 3da 5 1,5 xz4,1 yvs,1 zc4,1 108s,1 10p4,1 115g,1 1224,1 12ys",
  "1 13f4,1 14bs,1 14s4,1 158g,1 15os,1 1654,3 138w,2 feo,1 fik,1 fex,1 h5n,1 fis,1 g31,1 fer",
  "1 g2z,1 fh9,1 gg1,1 kco,1 m7f,1 ldg,1 kdk,1 ssx,1 h7j,1 k4l,1 kkq,1 kcp,1 ny6,1 glp,1 mm1",
  "1 rs1,1 nz1,1 gc4,1 o2g,1 n5j,1 ho3,1 six,1 g16,1 ghc,1 lig,1 u11,1 fm9,1 g49,1 l7n,1 fey",
  "1 ffx,1 fez,1 ijq,1 gkz,1 gfv,1 i3b,1 i1y,1 nhf,1 flt,1 rt3,1 ggk,1 hlo,w 9lu,1 9lw,1 9ly",
  "1 9m0,1 9m2 2 1,2 9m5,1 9m7,1 9m9,1 9mb,1 9md,1 9mf,1 9mh,1 9mj,1 9ml,1 9mn,1 9mp,1 9ms,1 9mu",
  "1 9mw,1 9my 6 1,6 9n6,1 9n9,1 9nc,1 9nf,1 9ni 5 1,5 9no,1 9nq,1 9ns 6 1,6 9nz 4 1,mrp wu9 n 2",
  "1s ww1 e 2,s ui,1 uk,3p x0j 7 2,g x0z v 2,1q x2n,9 x2y 2 2,4 5tl,1 x33 5 2,d x3g,2 h1",
  "3 x3l 2 2,6 x3r a 2,k h2,1 gs,1 gx,1 h8,1 h6,2 im,1 hz,1 il,1 xub,1 x4l 8 2,g x3o,1 hu,1 5u6",
  "1 x54 2 2,4 h0,1 x59 8 2,g bf,l 37,1 2r,1 2u,1 35,1 x6e,3 87,1 9f,o3 x0n,1 xtj,1 h7,1 xua,a i5",
  "7 3vk 28 1,fbk rpk,1 kc4,1 s7e,1 rt4,1 lw1,1 fg2,1 gkl,1 vj0,1 vj0,1 hn5,1 ssx,1 gw7,1 hmw",
  "1 jcm,1 ne1,1 p6t,1 qin,1 qt6,1 r20,1 sjz,1 kxu,1 ljv,1 mah,1 mvy,1 q4d,1 sq2,1 uep,1 fia",
  "1 ghh,1 l50,1 mjf,1 qi5,1 v8e,1 ifk,1 m3v,1 qfh,1 r50,1 jih,1 pnc,1 qvz,1 iq2,1 kd3,1 lm2",
  "1 mpo,1 slq,1 fpi,1 g53,1 gda,1 jwk,1 l3n,1 mj4,1 nhj,1 pa9,1 qh2,1 qjg,1 s1b,1 tv6,1 upb",
  "1 v7e,1 nt8,1 nzz,1 otc,1 q15,1 t1g,1 vb3,1 rfa,1 hjz,1 iro,1 okg,1 pdq,1 mle,1 nuy,1 rsy",
  "1 ttj,1 hjs,1 i8y,1 kyb,1 lp6,1 lxr,1 oq7,1 oxj,1 tor,1 gcy,1 pe3,1 g64,1 g5o,1 o4c,1 ou6",
  "1 q29,1 tpx,1 rk0,1 jin,1 kxu,1 rge,1 fg9,1 i5j,1 iz6,1 mtj,1 n74,1 gev,1 nwb,1 fr3,1 iw9",
  "1 ff1,1 lho,1 k1k,1 opu,1 gjn,1 hge,1 ni9,1 q4p,1 re2,1 la2,1 sds,1 lfs,1 jjy,1 put,1 jog",
  "1 n6t,1 fji,1 g2x,1 g5l,1 kn5,1 oo7,1 prj,1 rf6,1 ssv,1 gdx,1 gn6,1 ho3,1 ir0,1 k3p,1 m4e",
  "1 nxm,1 tkd,1 ui2,1 vbr,1 vda,1 gbf,1 kau,1 l87,1 sbm,1 ino,1 j9s,1 jcw,1 jve,1 lyb,1 mdl",
  "1 n0p,1 o22,1 ovo,1 pdb,1 s9y,1 q9a,1 sgz,1 t3e,1 g7r,1 gbn,1 gql,1 ma0,1 r0i,1 re2,1 iq1",
  "1 iyd,1 jnf,1 l9q,1 oji,1 mt1,1 fl0,1 h6h,1 i5j,1 iii,1 izg,1 muq,1 mzt,1 p7e,1 pc6,1 svo",
  "1 tti,1 tvs,1 u1k,1 fpn,1 o1a,1 ss4,1 trs,1 j4x,1 fie,1 fyy,1 i5q,1 i7z,1 k2h,1 kxu,1 mha",
  "1 ncy,1 q9o,1 sjg,1 vil,1 k94,1 tny,1 gax,1 kfv,1 kj7,1 lkx,1 luk,1 mx5,1 n6h,1 nsb,1 opc",
  "1 u3i,1 g31,1 je6,1 tq0,1 fu3,1 ie1,1 lpm,1 sa2,1 ivf,1 j7o,1 kk7,1 mtj,1 tqe,1 g89,1 glr",
  "1 i91,1 k5v,1 kem,1 ko8,1 lid,1 mx2,1 naa,1 p6h,1 r0v,1 r1d,1 sss,1 tsy,1 gfz,1 lve,1 gm5",
  "1 mhc,1 n14,1 qgq,1 tr7,1 uvr,1 vbz,1 kgn,1 lor,1 pns,1 o97,1 obk,1 olu,1 mo0,1 m8p,1 riw",
  "1 fk0,1 px2,1 g8q,1 g7b,1 ip2,1 jir,1 onq,1 i2t,1 ljy,1 kac,1 saj,1 qx8,1 tot,1 r63,1 iqb",
  "1 g1s,1 gxs,3 hga,2 k8k,3 g66,1 mqy,1 ngq,1 ny4,1 nz2,1 nz9,1 o0f,1 tw6,1 on2,1 p8d,2 qhe",
  "2 rg8,3 shk,1 sn1,4 u7j,1 u7w,1 u94,1 v5g,1 sm6,1 trr,1 fqm,1 fzb,1 g25,1 gcp,1 gdg,1 ggh",
  "1 gwt,1 gzq,1 h2g,1 hfk,1 hig,1 i90,1 i9a,1 j2s,1 j8o,1 j9q,1 jci,1 k0f,1 k4i,1 k9d,1 kn9",
  "1 lmf,1 lqy,1 lya,1 mem,1 mjv,1 mxu,1 ntd,1 ny6,1 nyh,1 nyg,1 nyo,1 nyu,1 nz1,1 o0d 2 1,2 o5c",
  "1 o75,1 og0,1 ovo,1 ow9,1 oxt,1 p6a,1 pad,1 pnx,1 prt,1 prt,1 q53,1 r2o,1 r6e,1 rgh,1 ri1",
  "1 rtf,1 ruw,1 sdy,1 shk,1 tsz,1 u0v,1 u2j,1 j1x,1 36cu,1 pp4,3 ffq,1 g51,1 g2w,1 fpc,1 g1x",
  "1 g3k,1 gcn,1 ge2,1 gwt,1 gut,1 gwp,1 gyq,1 hga,1 hir,1 hms,1 hn8,1 huq,1 i08,1 iqa,1 iqh",
  "1 iuh,1 iwd,1 j4o,1 j7y,1 j60,1 j9q,1 j8g,1 jci,1 jec,1 jpg,1 jrw,1 jte,1 k0m,1 k8k,1 kd3",
  "1 kd7,1 keu,1 l89,1 la2,1 lkx,1 lwb,1 lvv,1 lya,1 m5a,1 mem,1 nmv,1 mk5,1 mnj,1 mqy,1 n01",
  "1 n46,1 n5n,1 nbx,1 nbz,1 ngq,1 nh7,1 nhw,1 nka,1 nk0,1 nv0,1 o8h,1 og0,1 ol7,1 orf,1 ovo",
  "1 p4u,1 pad,1 pxu,1 q27,1 qrd,1 r41,1 r5y,1 r6e,1 ren,1 rg8,1 rez,1 rgh,1 rge,1 rfx,1 ri1",
  "1 rka,1 ruw,1 sag,1 sj6,1 srd,1 sxi,1 tq4,1 tsz,1 tw6,1 tzv,1 u0v,1 u17,1 u2j,1 umq,1 vj0",
  "1 313e,1 3138,1 33dh,1 brx,1 cns,1 cop,1 39e1,1 3bgw,1 3i6r,1 vgj,1 vim,1z 15u,1 15c,1 15f 2 1",
  "2 15n 3 1,3 160,1 162,1 17,13 19t,1 19t,1 1a3,1 1a3,1 1a3,1 1a3,1 1a6,1 1a6,1 1a6 2 2",
  "1 1a6 2 2,3 1a8,1 1a8,1 1a2,1 1a2,1 1a2,1 1a2,1 1a7,1 1a7,1 1a7,1 1a7,1 1a1,1 1a1,1 1a1,1 1a1",
  "1 1b8,1 1b8,1 1b8 2 2,1 1b8 2 2,3 1ba,1 1ba,1 1ac,1 1ac,1 1ac,1 1ac,1 1ab,1 1ab,1 1ab,1 1ab",
  "1 1ae,1 1ae,1 1ae,1 1ae 2 1,2 1af,1 1af,1 1af,1 1al,1 1al,1 1ak 2 2,1 1ak 2 2,3 1ag,1 1ag",
  "1 1aw,1 1aw,1 1ap,1 1ap,1 1bd,1 1bd,1 1bd,1 1bd,1 1bj,1 1bj,1 1bj,1 1bj,1 1bn,1 1bn,1 1bn",
  "1 1bn,1 1bl,1 1bl,1 1bl,1 1bl,1 1bu,1 1bu 2 1,2 1bv,1 1bv,1 1bv,1 1c0,1 1c0 2 1,2 1c1,1 1c1",
  "1 1c1,1 1by,1 1by,1 1by,1 1by,1 1ci,1 1ci 2 1,2 1cj,y 1bh,1 1bh,1 1bh,1 1bh,1 1c7,1 1c7",
  "1 1c6 2 2,1 1c6 2 2,4 1cb,1 1cb,1 1c5,1 1c5,1 1c9,1 1c9,1 1cg,1 1cg,1 1cg,1 1cg,1 18p,1 18p",
  "j 1cc,1 1cc,1 1cc,1 1cc,ep 18,1 9hd,2 1m 2 1,2 x,1 1r,1 9hy 2 1,q 6c4,1 6c3,1 2n,1 2n,1 14 2 1",
  "2 3f,1 3h,1 9hw 2 1,2 9hs 2 1,2 9hm 2 1,2 9hk 2 1,2 9ho 4 1,6 2j,1 2l,5 2n,1 2n,1 2n,1 18",
  "1 9hd,3 1n,1 1m,1 1r,1 x,1 6c4,1 14 2 1,2 3f,1 3h,1 9hw 2 1,2 z,1 12,1 16 2 1,2 19,1 1o,1 1q",
  "1 1p,2 2k,1 10 2 1,2 1s,l 17l 2 1,2 17m 2 1,2 17n 2 1,2 17o 2 1,2 17p 2 1,2 17q,1 17q",
  "1 17q 2 1,2 17r 2 1,2 17s,1 17s,1 17s 2 1,2 17t 2 1,2 17u,1 17u,1 17u 2 1,2 17v,1 17v",
  "1 17v 2 1,2 17w,1 17w,1 17w 2 1,2 17x,1 17x,1 17x 2 1,2 17y,1 17y,1 17y 2 1,2 17z 2 1",
  "2 180 2 1,2 181 2 1,2 182 2 1,2 183,1 183,1 183 2 1,2 184,1 184,1 184 2 1,2 185,1 185",
  "1 185 2 1,2 186,1 186,1 186 2 1,2 187,1 187,1 187 2 1,2 188,1 188,1 188 2 1,2 189,1 189",
  "1 189 2 1,2 18a,1 18a,1 18a,1 18h,1 18h,1 18h,1 18h 2 1,2 18i,1 18i,1 18i 2 1,2 18j,1 18j",
  "1 18j 2 1,2 18k,1 18k,1 18k 2 1,2 18l,1 18l,1 18l 2 1,2 18m,1 18m,1 18m 2 1,2 18n,1 18n",
  "1 18n 2 1,2 18o 2 1,2 18p 2 1,2 18q,1 18q,1 18q,d x w 1,w 2p q 1,q 2j 10 1,10 879 2 1,2 1a",
  "1 9ho 2 1,2 9hd,1 9ob,1 9o2,1 9lt,1 9lv,1 9lx,1 9lz,1 9m1,1 9nn,1 9np,1 9nr,1 9mr,1 9oc,1 9lu",
  "1 9lw,1 9ly,1 9m0,1 9m2 2 1,2 9m5,1 9m7,1 9m9,1 9mb,1 9md,1 9mf,1 9mh,1 9mj,1 9ml,1 9mn,1 9mp",
  "1 9ms,1 9mu,1 9mw,1 9my 6 1,6 9n6,1 9n9,1 9nc,1 9nf,1 9ni 5 1,5 9no,1 9nq,1 9ns 6 1,6 9nz",
  "1 9o3,1 9ll 2 1,3 3cw 2 1,2 3hm 2 2,1 3cy,2 3hp,1 3cz 3 1,3 3hs 6 1,6 3dm,1 3d2 3 1,3 3dt",
  "1 3d5 a 1,d 3fl 6 1,8 3fr 6 1,8 3fx 6 1,8 3g3 3 1,6 4i 2 1,2 4s,2 4m,1 4l,1 6g9,2 7b6",
  "1 6mo 4 1,4 7fk,1 7gr,sy 1fe0 14 1,4w 1fiw 10 1,5c 1fo7 j 2,1 1fo8 5 2,c 1fok 7 2,g 1fp0 3 2",
  "8 1fp8,do k0 2 1,2 6e,1 ih,1 gj,2 ir 2 2,1 xuu,2 is,1 gm 2 1,2 5u9,1 go,1 gu,1 ix,1 h0,1 gy",
  "1 gw,1 ij,1 87,1 ik,1 h3,1 hw,1 iy 2 1,2 h8,1 2mmc,1 x3i,1 ha,1 2mmd,1 i6,1 2mme,1 6w,1 hi 2 1",
  "2 35,1 hm,1 2mmg,1 hp 2 1,2 hs,1 iw,1 iu,1 xuv,1 iv,1 i0,1 8s1,2 i7,1 ip 2 1,2 ig,1 cg 3 1",
  "3 2mmi,1 2mn2,xy 1h34 1f 1,5s 1h80 m 1,28g 1jgg w 1,gww 20dc w 1,2o 20fv p 1,ily 2p q 1",
  "q 1c a 1,1e8 2p q 1,q 2p q 1,q 2p q 1,q 2p d 2,1 2q 3 2,8 2y 9 2,h 2p q 1,q 2p q 1,q 2p 2 2",
  "3 2s,3 2v,3 2y 2 1,4 32 4 1,5 37 8 1,8 2p 4 1,5 2u b 2,3 2x 3 2,8 35 5 2,a 2p q 1,q 2p q 1",
  "q 2p 2 1,3 2s 4 1,6 2y 8 1,9 37 7 1,8 2p q 1,q 2p 2 1,3 2s 4 1,5 2x 5 1,6 33,4 37 7 1,8 2p q 1",
  "q 2p q 1,q 2p q 1,q 2p q 1,q 2p q 1,q 2p q 1,q 2p q 1,q 2p q 1,q 2p q 1,q 2p q 1,q 2p q 1",
  "q 2p q 1,q 2p q 1,q 8h,1 fr,3 q9 h 1,h qg,1 qr 7 1,7 6pz,1 q9 h 1,h qr,1 qr 7 1,7 6pu,1 qd",
  "1 qg,1 qi,1 qu,1 qp,1 qo,1 q9 h 1,h qg,1 qr 7 1,7 6pz,1 q9 h 1,h qr,1 qr 7 1,7 6pu,1 qd,1 qg",
  "1 qi,1 qu,1 qp,1 qo,1 q9 h 1,h qg,1 qr 7 1,7 6pz,1 q9 h 1,h qr,1 qr 7 1,7 6pu,1 qd,1 qg,1 qi",
  "1 qu,1 qp,1 qo,1 q9 h 1,h qg,1 qr 7 1,7 6pz,1 q9 h 1,h qr,1 qr 7 1,7 6pu,1 qd,1 qg,1 qi,1 qu",
  "1 qp,1 qo,1 q9 h 1,h qg,1 qr 7 1,7 6pz,1 q9 h 1,h qr,1 qr 7 1,7 6pu,1 qd,1 qg,1 qi,1 qu,1 qp",
  "1 qo,1 rh,1 rh,3 1c a 1,a 1c a 1,a 1c a 1,a 1c a 1,a 1c a 1,1mi ts 9 1,9 u2 3 1,3 u6 b 1,b uj",
  "1 ul 2 1,2 ww9,1 yh,1 uu,1 uw,1 yx,1 xb,1 y7,1 ts 9 1,9 u2 2 1,2 u6 2 1,2 u9,1 ub 6 1,6 ui 2 1",
  "2 wh,1 uu,1 ut,1 v3,1 x7,1 wup,1 xd,1oz 2oma y 1,zk 17r 2 1,2 17w,1 17z,2 18o,1 182,1 17x",
  "1 187,1 18q,1 18j 4 1,4 183,1 189,1 18h,1 185,1 18i,1 181,1 184,1 17u 2 1,2 17y,1 180,1 186",
  "1 188,1 18a,1 19q,1 1bu,1 1b5,1 19r,2 17s,1 17w,2 18n,3 17x,2 18q,1 18j 4 1,4 183,1 189,1 18h",
  "1 185,1 18i,2 184,1 17u 2 1,2 17y,2 186,2 18a,7 17w,5 17x,2 18q,2 18k 2 2,3 183,1 189,2 185",
  "1 18i,2 184,3 17y,2 186,2 18a,2 1bu,2 19r,2 17s,1 17w,2 18n,3 17x,1 187,1 18q,1 18j 2 2,3 18m",
  "1 183,1 189,1 18h,1 185,1 18i,2 184,1 17u 2 1,2 17y,2 186,1 188,1 18a,1 19q,2 1b5,2 17r 2 1",
  "2 17w,1 17z,1 18n 2 1,2 182,1 17x,1 187,1 18q,2 18k 3 1,3 183,1 189,1 18h,1 185,1 18i,1 181",
  "1 184,1 17u 2 1,2 17y,1 180,1 186,1 188,1 18a,6 17s,1 17w,1 17z,2 18o,1 182,1 17x,1 187,1 18q",
  "2 18k 3 1,3 183,1 189,1 18h,1 185,1 18i,1 181,1 184,1 17u 2 1,2 17y,1 180,1 186,1 188,1 18a",
  "hc 2r,1 36,4 2p q 1,5u 9md,e jez,1 i1j,1 gjw,1 9mv,1 fik,1 hlm,1 r8j,1 hm1,1 fj8,1 k68,1 mch",
  "1 k2h,1 g99,1 ivg,1 g3x,1 k34,1 g7x,1 oqq,1 n4v,1 rs9,1 hkg,1 gmx,1 lxw,1 jh1,1 jmd,1 feo",
  "1 fex,1 si2,1 ijq,1 ffx,1 gkz,1 jk7,1 rxs,1 jf7,1 o01,1 o6y,1 glk,1 lts,1 kcp,1 kco,1 n5f",
  "1 gaa,1 gxi,1 sp9,l ivr,1 gkv,1wf 1c a 1,1dsg fgd,1 fg8,1 fgh,1 2tcy,1 fog,1 fqm,1 fqz,1 fsy",
  "1 fwa,1 fx5,1 fzb,1 fyn,1 ae6,1 2ud6,1 g25,1 g2c,1 g2s,1 g3b,1 2u58,1 aex,1 g2v,1 g3x,1 2u6j",
  "1 g47,1 g4k,1 fkc,1 g4s,1 g51,1 3ly7,1 g6t,1 g77,1 afz,1 g8r,1 g92,1 gaa,1 gaf,1 ahh,1 gcn",
  "1 gcp,1 gdg,1 ge2,1 ged 2 1,2 gev,1 gg9,1 ggh,1 ggq,1 ghf,1 ghp 2 2,1 ghr,2 ghr,1 2v58,1 m7k",
  "1 gju,1 gkf,1 2vdv,1 gkr,1 gkx,1 gli,1 gpq,1 gmw,1 gnc,1 go8,1 gpu,1 gs6,1 gsw,1 gur,1 gv7",
  "1 gw4,1 gw4,1 gwp,1 gx7,1 gxf,1 gxu,1 h7a,1 gzq,1 h7b,1 h1t,1 h2s,1 g7b,1 hke,1 hce,1 hdg",
  "1 he5,1 haj,1 hf6,1 hf5,1 hik,1 2x9g,1 hki,1 hkn,1 hl2,1 hlm,1 hlu,1 hnm,1 2xm0,1 2xnu,1 hrg",
  "1 hsr,1 ht3,1 hqw,1 huu,1 aum,1 av0,1 hzc,1 i0u,1 i0u,1 2y88,1 i4j,1 i54,1 i5j,1 i5v,1 2yhk",
  "1 i67,1 i6e,1 itv,1 i76,1 ayp,1 i8w,1 i9a,1 ibk,1 ia5,1 2z1g 2 2,1 if7,2 ige,1 igb,1 igs",
  "1 ijl 2 1,2 b3j,1 ikd,1 ilk,1 im5,1 ind,1 b4y,1 2zr7,1 b5o,1 ipc,1 ipf,1 ipi,1 iq2,1 3pg2",
  "1 iri,1 3035,1 3035,1 poh,1 isi,1 isi,1 b7r,1 335k,1 3cgq,1 iua,1 iuj,1 b8j,1 ivu,1 ix9,1 ixj",
  "1 iyh,1 j29,1 bay,1 ba4,1 j2s,1 30t0,1 j47,1 j7s,1 j7w,1 j7y,1 j7w,1 j96,1 j9q,1 jaq,1 jac",
  "1 jan,1 jby,1 jci,1 jcm,1 jdc,1 jdn,1 jfh,1 jht,1 jis,1 jm8,1 31n0,1 jlp,1 jjw,1 jmw,1 jnn",
  "1 jqc,1 31td,1 js2,1 jph,1 jop,1 bhq,1 ju1,1 jum,1 jvh,1 juf,1 bjg,1 k0f,1 k18,1 32mi,1 k4j",
  "1 kc8,1 k7d,1 bo9,1 k9d,1 bns,1 bms,1 g42,1 g45,1 kcg,1 k9o,1 pf1,1 deh,1 kd3,1 kd7,1 kdd",
  "1 kf2,1 ker,1 33cz,1 bpl,1 kje,1 kg5,1 klu,1 kn9,1 33hp,1 kni,1 kkf,1 kr8,1 brx,1 ksi,1 kv7",
  "1 kx6,1 l2g,1 33xf,1 l3v,1 bvc,1 l5t,1 34br,1 l78,1 bwu,1 l82,1 l9b,1 la2 2 1,2 34p9,1 2yvf",
  "1 34sa,1 le6,1 354s,1 lhb,1 lhp,1 lev,1 ljq,1 lku,1 lmf,1 lkx,1 lm1,1 lmg,1 lmt,1 357i,1 lkk",
  "1 lrj,1 lta,1 c37,1 lvv,1 lvr,1 35jl,1 lq1,1 m0e,1 35ni,1 35ou,1 m2u,1 m61,1 m5a,1 m57,1 c5y",
  "1 m6i,1 m7x,1 m7r,1 m99,1 2u5h,1 mdh,1 368z,1 mfw,1 36i3,1 mjs,1 mk5,1 mkw,1 36yw,1 mm8,1 mmt",
  "1 3779,1 37dg,1 mt6,1 mtn,1 cdo,1 mud,1 ce0,1 ce0,1 myv,1 mzg,1 n01,1 n0l,1 n2i,1 cgr,1 n50",
  "1 386u,1 n5q,1 389e,1 n74,1 2zrz,1 nbk,1 38v5,1 38vs,1 38zo,1 cn0,1 cnc,1 nhw,1 394j,1 394i",
  "1 395l,1 396b,1 nj2 2 1,2 nj3,1 nka,1 cop,1 nm3,1 cp2,1 cra,1 39r1,1 nri,1 nt8,1 nv0,1 ctf",
  "1 3a5i,1 nyu,1 3a8q,1 3a9x,1 o0f,1 o2z,1 cvj,1 o5c,1 o5m,1 o5r,1 3at8,1 3b1j,1 3b1j,1 oa6",
  "1 d1e,1 3b8r,1 og6,1 og9,1 d2f,1 3beo,1 onm,1 d5s,1 oo8,1 oo3,1 oow,1 3c06,1 orn,1 d8h,1 ouf",
  "1 ow2,1 oxx,1 d9w,1 3ciw,1 3cjr,1 dax,1 3cnt,1 p6i,1 3cqm,1 p79,1 pa2,1 pad,1 3d22,1 3d43",
  "1 pcw,1 3d7s,1 pdc,1 33a7,1 ded,1 pf6,1 phf,1 dfv,1 pj2,1 hx1,1 3dlz,1 3dmd,1 33bn,1 33bw",
  "1 poh,1 pok,1 sda,1 dij,1 psh,1 psb,1 pst,1 gc3,1 ptd,1 ptf,1 ptp,1 puu,1 3ebg,1 put,1 pwd",
  "1 pyb,1 q0d,1 pwj,1 q0t,1 q1z,1 q53,1 pxv,1 q16,1 q18,1 q1o,1 3eie,1 3eqz,1 3emt,1 dnv,1 q9d",
  "1 q9f,1 qae,1 3g0a,1 qck,1 3f3g,1 dp9,1 dpd,1 3f75,1 3ff6,1 dpn,1 qj4,1 qjg,1 qjr,1 qjt,1 qll",
  "1 qko,1 qoe,1 qn6,1 qrd,1 qp4,1 qqz,1 qrq,1 dsn,1 qu9,1 qv5,1 dtl,1 qxs,1 qxv,1 3giv,1 r13",
  "1 r1a,1 dv9,1 r22,1 aez,1 3gz2,1 3h46,1 dz2,1 dzb,1 rds,1 rfx,1 rka,1 rpx,1 3hrc,1 rsb,1 rsx",
  "1 rvf,1 rxz,1 3i9b,1 2upw,1 s0b,1 rzw,1 s1c,1 2uvy,1 s7o,1 sag,1 3jki,1 3jl9,1 sk4,1 smp,1 snl",
  "1 3ju6,1 snv,1 svs,1 t07 2 1,2 sxo,1 t89,1 t91,1 3ksa,1 tjf,1 ej9,1 tkn,1 3l2v,1 eli,1 ts3",
  "1 iia,1 tur,1 3ltx,1 3lzu,1 epa,1 epi,1 u00,1 3mdm,1 er6,1 3mhi,1 u17,1 u17,1 u21,1 3mpi,1 u76",
  "1 eur,1 u95,1 ucn,1 ude,1 uf2,1 ez2,1 3nsg,1 umq,1 uv4,1 v0d,1 f66,1 f71,1 v3b,1 3owe,1 f7c",
  "1 3oxx,1 3p5a,1 3p8x,1 vcr,1 f9y,1 veh,1 vem,1 vet,1 vf3,1 vfa,1 vgb,1 3pxc"]

end StatusBoard.Unicode.NameMapping
