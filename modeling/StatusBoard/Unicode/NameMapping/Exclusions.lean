/-!
Characters that names cannot hold and characters that names pass over, in ranges of a first code and
a size.
-/
namespace StatusBoard.Unicode.NameMapping

/-- Characters that no name holds. -/
def refusedTable : List String := [
  "3k w,l4 2,8 4,b,2,l,b2,13 2,1g 2,5,1k 8,z 4,a h,13,5d,1d 2,1p 2,2v e,21 2,1f 2,h,t 2,3,c 5",
  "11 7,2a,4i,9 2,4 2,o,8,2 3,7 2,b 2,4 2,6 8,9 4,6,6 2,r 2,5,7 4,6 2,o,8,3,3,3 2,3,6 4,6 2,5 3",
  "4 7,b,2 7,o a,d,a,4,n,8,3,6 2,c,4,4 2,3 f,j 2,e 7,e,4,9 2,4 2,o,8,3,6 2,b 2,4 2,5 7,a 4,6,6 2",
  "k a,c,7 3,6,5 3,5,2,3 3,5 3,6 3,f 4,9 3,6,5 2,3 6,7 e,z 5,i,4,o,h 2,b,4,5 7,9,4,3 2,6 2,c 7,t",
  "4,o,b,6 2,b,4,5 7,9 5,8,5 2,c,4 c,p,4,1g,4,7 4,k 2,s,4,j 3,r,a,2 2,9 3,4 4,a,2,9 6,g 2,5 c",
  "1y 4,x 11,13,2,6,p,2,o 2,7,2,8,b 2,6 w,2w,11 4,17,11,g,e 11,6j,2 5,6 2,aj,5 2,9,2,5 2,17,5 2,z",
  "5 2,9,2,5 2,h,1m,5 2,1x 2,y 3,t 6,2k 2,8 2,hu,t 3,2k 7,t 9,x 9,t c,p,4,3 c,2y 2,c 6,g 6,w 6",
  "2n 7,1e 5,23 a,15,d 4,g 4,5 3,19 2,7 b,1j 4,u 6,h 3,1t 2,1v,u 2,d 6,g 6,k 2,1c 2,e k,2p,4n 8",
  "1w 3,i 3,1t 5,1c 2,d 8,1f 5,ez 2,8 2,14 2,8 2,a,2,2,2,w 2,1j,g,f 2,8,k 2,5,a,f 2,m 3,4 7,1p 5",
  "d 2,t,e 3,11 e,1b f,4b 4,im m,x l,1p k,1d8 2,ao 5,1e,2 5,6 2,1m 7,9 e,12 9,g,8,8,8,8,8,8,8",
  "3j y,1o,2i c,6a 16,2y,2f 2,2x 5,1c,2n,2f a,1l,bn,5,h,m9h 3,1m 9,9x k,5o 8,6d k,28 3,d 6,1q 8",
  "26 8,k 6,3e b,15 3,29,c 4,11,1k 9,n 2,c 2,2x o,1g a,g 2,8 2,8 9,g,8,1p 4,3m 2,c 6,8mi c,z 4",
  "1h 6is,6sy 2,30 12,19 c,h 5,v,6,2,3,3,i3 w,1u,7 7,n,y 2,l,5 4,9,3s 2,3,5b 3,9 2,8 2,8 2,5 3,a",
  "8 h,t,r,k,3,g 2,g y,4d 5,8 4,1d 3,2j,e 3,4 1b,2l 3m,4f 3,1g f,17 4,14 9,13 5,1c 5,z,12 4,i 16",
  "5k 2,c 6,16 4,14 4,18 8,1o b,n,g,8,3,c,g,8,3 3,1j c,8z 9,v a,i o,u,17,a 1x,23 2,3,19,3 3,4 2,p",
  "21 8,h 1c,1v,3 5,12 3,u 5,w 12,2m 4,o 2,1g,3 5,d,4,u 2,5 4,e 7,g 7,1z w,1z 4,g 9,1r 3,w 2,t 5",
  "v 7,b c,j 28,49 1j,2y d,1s 7,1h 8,i 6,18 3,w 8,a 5s,6n,17,4 2,4 g,m 8,h x,27 8,1e m,1c 12,1u k",
  "17 9,2f 4,14 9,1z,6 d,12 7,h 6,1n,j 8,1b 9,2x,l b,t,1c 1q,1x,2,5,g,c 6,1t 5,f 6,a,9 2,4 2,o,8",
  "3,6,b 2,4 2,5 2,3 6,7 5,c 2,9 3,8 b,l,2 2,3,13,b,2 2,3,5,b,3 8,a t,3d,6 u,2u 8,i 4m,64 2,14 y",
  "2v b,l 6,j j,25 6,g 6,q s,1j 2,h 4,r 55,6t 2s,53 c,k 2,3 2,a,3,v,3 2,e 9,j 1y,26 2,1c 2,d r",
  "2r 8,2j d,2e 7,h 2e,2m 2g,3e e,o 6,f,1a,f a,13 3,z 2,o,f 21,28,3,19 3,4,3,a 8,i 6,c,3,12,3,7 7",
  "h 6,1e 4,e 6u,7j 7,o,16 3,w 2d,2e f,1t d,q0 2u,5x,6 b,5r 218,23z d,u5 g,12 a,339 5,gc 5a1",
  "5bn 1c6,1rz 7,12,b 4,2d,b 6,10 2,8 a,28 a,k,8,m 5,o c0,dm 5i,81 5,u 2,r 18,3b 4,1p 7,o 1s,1x b",
  "i 9,5pb 15,21 2p,5w 6pp,6pt,8,3,84 f,g t,w 2,3 e,i 8,b8 1s4,1v3 5,i 3,c 7,h 2,a 318,389 3,c7 6",
  "t f,w f,1p 2,p 9,3h 1o,8i a,1d 2,5g l,2j 3e,3y c,w c,2r 9,y 3r,64,20,3 2,3 2,4 2,6,d,2,8,1u",
  "5 2,a,8,t,5,6,2 3,a,9h 2,86 2,jk f,k,g uo,vj 6,c 5x,64,i 2,9,3,6 5,1v x,y 34,4d 3,h 2,c 4,6 8w",
  "9r h,23 5,6 cw,e2 5y,75 4,5 5c,67,n 8,a 68,6f,5,3,g,5i 2,i 15,39 4,e 4,6 lt,np 24,3t 5e,5i,s,3",
  "2 2,3,b,5,2,2 6,7 4,5,2,2,4,3,2 2,3,2,2,2,2,3,2 2,6,8,5,5,2,b,i 5,8,6,i 1g,1i 7i,8q 4,2w c,r 2",
  "h,g,12 b,54 1k,2d d,1l 4,d 7,9 e,k 4a,vn 3,k 3,g 3,65 6,i 4,5 f,r 4,1o 8,i 6,1a 8,12 2,e 4,6 e",
  "n 13,an 8,m 2,f 3,e 3,1o,2 4,k 2,e 4,e 7,4a,2w sl,xr9 w,3em 2,4gg 2,5rn f,hp 1wi,2bk 15u,4z1 5",
  "6jz f62u,f69i 47bk"]

/-- Characters that count for nothing. -/
def ignoredTable : List String := [
  "4t,iq,2s0 2,191 2,2f 5,1kw,2d 5,a 6,3cq,14f0 g,73,4h,11c0 4,443 8,h47h 6o"]

end StatusBoard.Unicode.NameMapping
