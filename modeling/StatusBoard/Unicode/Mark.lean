import StatusBoard.Unicode.Packed

/-!
Combining marks, which belong to the character before them.
-/
namespace StatusBoard.Unicode.Mark

/-- Combining marks, in ranges. -/
def markTable : List String := [
  "lc 34,ar 7,7i 19,1a,2 2,3 2,3,21 b,1n l,11,2u 7,9 6,8 2,3 4,13,v r,3a b,1x 9,i,p 4,5 9,a 3,4 5",
  "1c 3,1r 8,1e 1m,34 3,4 i,j 7,h 2,v 3,1n,2 g,p,b 2,s 6,1q m,1g 2,5,c 3,1n,2 g,10 2,o a,1u,2 q",
  "10 2,w,1o g,p,15 5,1o,2 p,10 2,v 3,1n,2 p,10 2,h h,20 2,3 g,p,b 2,v 3,21 m,14 2,1r,3 7,j 8,2y",
  "3 9,k 7,28 2,t,2,2,5 2,1f k,l 2,7 1c,1l,2t k,17 4,8 3,4 3,5 7,a 4,h c,d,b 4,jn 3,qd 4,w 3,w 2",
  "w 2,1w u,13,4o 2,10,3b s,6v 5,1q 17,2j v,28 5,1g h,1j 9,l 3,x d,1x e,1q k,4s 3,4 l,p,7,3 3",
  "5l 1s,ls x,2e7 3,40,2p w,ga 6,33 2,n9y 4,5 a,16 2,2a 2,7m,4,5,o 5,9,2c 2,1g i,18 i,v,13 8,x d",
  "1l 4,1f e,1e,1w e,q,9 2,1b 3,1h,2 3,5 2,7 2,3,16 5,a 2,6m 8,9 2,fn6,le g,rh,6b,46 5,1aj f,1j 8",
  "4t 2,fz 4,av 2,2a 3,21 b,1o 4,3i 3,1k f,1k,3 2,c 4,1d b,i,1q 3,13 e,u 2,1a,d 3,1f e,m 4,5 2",
  "2m c,i,3,4e c,x 4,1n 2,3 g,p,b j,5v i,15,2a k,73 i,19 2,2c h,3f d,36 f,7j f,78 f,g,2 2,3z g,j",
  "t a,1e 7,8 4,c,a b,1l g,bp h,2r 11,4f l,m,1v e,a1 4,d 2,3,1d f,45o,7 f,asp 5,1s 7,tb,2 1u,43 e",
  "f5l 2,3mr 1z,h1 5,8 m,o 7,11 4,48 3,1j2 1j,1n 1e,1m,f,n l,12d 40,8g 7,am,1q 4,e8 4,ro 7,38 7"]

def marks : List Packed.Range := Packed.ranges markTable

def isMark (c : Char) : Bool := Packed.holds marks c.toNat

end StatusBoard.Unicode.Mark
