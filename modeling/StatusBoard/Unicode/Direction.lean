import StatusBoard.Unicode.Packed

/-!
Directions of writing. A label in a name that has right-to-left characters anywhere must be of one
direction throughout, so that it reads the same in every surrounding.
-/
namespace StatusBoard.Unicode.Direction

inductive Kind where
  | left
  | right
  | arabicLetter
  | arabicNumber
  | number
  | numberSeparator
  | numberTerminator
  | commonSeparator
  | mark
  | boundary
  | neutral
  | other
deriving DecidableEq, Repr

/-- Ranges of characters with a direction class other than left-to-right. -/
def directionTable : List String := [
  "0 9 9,9 5 b,5 e 9,e 5 b,5 2 a,2 3 6,3 5 a,5 1 5,1 1 7,1 1 5,1 2 7,2 a 4,a 1 7,1 12 a,1s 4 a",
  "4 1 9,y 1 a,1 4 6,4 9 a,a 2 6,6 y a,1t 1 a,ci 2 a,9 e a,g s a,t h a,h 34 8,39 1 a,3l 1 a",
  "3x 7 8,7b 5 a,5 1 6,2 19 8,19 1 1,1 1 8,1 1 1,1 2 8,2 1 1,1 2 8,2 1 1,1 1 8,9 11 1,1i 2 a",
  "2 1 2,1 2 6,2 1 2,1 1 7,1 1 2,1 2 a,2 b 8,b 1c 2,1c l 8,l a 3,a 1 6,1 2 3,2 3 2,3 1 8,1 2t 2",
  "2t 7 8,8 1 a,1 6 8,6 2 2,2 2 8,2 1 a,1 4 8,4 2 2,2 a 4,a n 2,n 1 8,1 u 2,u r 8,t 2h 2,2h b 8",
  "b 1 2,f 17 1,17 9 8,9 2 1,2 4 a,4 1 1,3 1 8,1 o 1,o 4 8,4 1 1,1 9 8,9 1 1,1 3 8,3 1 1,1 5 8",
  "7 15 1,15 3 8,5 1 1,2 1k 2,1k 8 8,8 16 2,16 1l 8,34 1 8,2 1 8,5 8 8,c 1 8,4 7 8,h 2 8,v 1 8",
  "1n 1 8,5 4 8,c 1 8,l 2 8,g 2 6,9 1 6,3 5 8,1q 1 8,5 h 8,1b 2 8,5 1 8,c 2 8,1n 1 8,5 8 8,c 1 8",
  "l 2 8,f 1 6,9 8 8,1u 1 8,3 1 8,2 4 8,c a 8,l 2 8,w 1 8,1q 1 8,d 1 8,12 6 a,6 1 6,1 1 a,6 1 8",
  "4 1 8,1k 1 8,2 3 8,8 h 8,s 2 8,m 7 a,9 1 8,1n 1 8,g 2 8,m 2 8,u 2 8,1n 2 8,6 4 8,c 1 8,l 2 8",
  "v 1 8,21 1 8,8 5 8,2n 1 8,3 7 8,b 1 6,8 8 8,2y 1 8,3 9 8,k 7 8,28 2 8,t 1 8,2 1 8,2 1 8,1 4 a",
  "1j e 8,f 5 8,6 2 8,7 1c 8,1l 1 8,2v 4 8,5 6 8,7 2 8,4 2 8,r 2 8,6 3 8,j 4 8,h 1 8,3 2 8,8 1 8",
  "g 1 8,jk 3 8,1f a a,34 1 a,ij 2 a,3b 3 8,w 2 8,w 2 8,w 2 8,1x 7 8,f 1 8,3 b 8,i 1 6,2 1 8",
  "j r a,45 2 8,10 1 8,3b 3 8,7 2 8,b 1 8,7 3 8,7 6 a,4e y a,1l 2 8,4 1 8,1n 1 8,2 9 8,a 1 8",
  "3 8 8,e d 8,1p v 8,28 4 8,1g 1 8,2 5 8,6 1 8,6 1 8,15 9 8,l 2 8,y 4 8,6 2 8,3 3 8,1n 1 8,2 2 8",
  "5 1 8,2 3 8,1p 8 8,a 2 8,4a 3 8,4 d 8,e 7 8,b 1 8,7 1 8,4 2 8,5k 1s 8,gc 2 9,4 o a,w 3 6,5 f a",
  "f 1 7,1 q a,2j y 6,1c x 8,1g 12 a,16 1 6,c k a,28 3s a,3s 1 5,1 1 6,1 82 a,9z q a,r 41 a",
  "4q h8 a,h9 9f a,gj ie a,if 2x a,9a 6 a,a 3 8,a 7 a,3q 1 8,2p w 8,w ed a,eg p a,y 4 8,6 1 a",
  "7 1 a,6 3 a,2k 2 8,7 1 a,2j 1 a,5h 10 a,5j4 1s a,h5c 1j a,al 3 a,2q 4 8,4 1 a,1 a 8,a 2 a",
  "w 2 8,2a 2 8,g y a,3s 1 a,3e 1 8,4 1 8,5 1 8,q 2 8,3 4 a,4 1 8,c 2 6,1o 4 a,28 2 8,s i 8,v 1 8",
  "13 8 8,x b 8,1l 3 8,1f 1 8,3 4 8,6 2 8,15 1 8,1w 6 8,8 2 8,4 2 8,e 1 8,9 1 8,1c 1 8,1g 1 8",
  "2 3 8,5 2 8,7 2 8,3 1 8,17 2 8,a 1 8,38 2 a,3f 1 8,3 1 8,5 1 8,fn5 1 8,44 x 2,b0 i a,2a 1r 2",
  "1r 1d a,29 g 8,11 2 a,1a 1 2,i6 1 a,1r 25 a,28 h a,31 1 8,6b 1 8,1 r 4,45 5 8,wa 7w 1,7z 1 a",
  "1 69 1,69 f 8,f 12 1,14 8 8,8 4l 1,4l 2 8,6 23 1,26 7 a,7 cg 1,cg 10 2,10 4 8,c a 3,g 28 1",
  "80 v 3,w 16 1,17 2 8,2 5 1,l 1n 2,1n 3 8,3 14 1,1c m 2,m b 8,b 9 2,v i 1,i 4 8,4 35 1,3f 1 8",
  "1j f 8,q k a,u 1 8,3 2 8,c 3 8,1g 4 8,6 2 8,9 1 8,1q 3 8,13 5 8,6 8 8,1y 1 8,d 2 8,1i 9 8",
  "j 4 8,6 1 8,2o 3 8,5 1 8,2 2 8,8 1 8,3 1 8,4e 1 8,4 8 8,t 2 8,1n 2 8,5 1 8,12 f 8,5u 8 8,a 3 8",
  "4 1 8,o 1 8,2d 6 8,7 1 8,5 2 8,3 2 8,6o 4 8,a 2 8,3 2 8,t 2 8,2f 8 8,a 1 8,2 2 8,x d a,23 1 8",
  "2 1 8,3 6 8,7 1 8,2u 3 8,5 4 8,5 5 8,7c 9 8,a 2 8,76 2 8,3 1 8,5 1 8,41 8 8,c 1 8,x 6 8,8 2 8",
  "16 6 8,8 4 8,c 1 8,a 6 8,8 3 8,1d d 8,e 2 8,bc e 8,2q m 8,o 7 8,8 2 8,3 2 8,3g l 8,m 1 8",
  "21 2 8,5 1 8,2 1 8,9o 2 8,d 2 8,1i 5 8,a 1 8,2 1 8,43 8 a,8 4 6,4 h a,40v 1 8,7 f 8,asp 5 8",
  "1s 7 8,tb 1 8,1s 4 8,2b 1 a,2 1 8,f5l 2 8,3mr 1z 8,h3 3 8,k 8 8,a 7 8,11 4 8,1r 2h a,2h 3 8",
  "3 1 a,57 2f a,1ds 1j 8,1n 1e 8,1m 1 8,f 1 8,n l 8,12d 40 8,8g 7 8,am 1 8,1q 4 8,j 1 6,dp 4 8",
  "lw 5s 1,5s 7 8,2a y 1,y 7 8,7 l 1,me 5p 2,hr g0 a,hp 3 a,1s 1 a,4z vs a,vw 4b a,4f 8n a",
  "at 9g a,9s 15 a,1c 1a a,1b 7 a,f e a,i 9 a,g 63 a"]

def directions : List Packed.Range := Packed.ranges directionTable

def kind (c : Char) : Kind :=
  match Packed.value? directions c.toNat with
  | none => .left
  | some 1 => .right
  | some 2 => .arabicLetter
  | some 3 => .arabicNumber
  | some 4 => .number
  | some 5 => .numberSeparator
  | some 6 => .numberTerminator
  | some 7 => .commonSeparator
  | some 8 => .mark
  | some 9 => .boundary
  | some 10 => .neutral
  | some _ => .other

/-- Whether a character makes a name one that is written right to left. -/
def isRightward (k : Kind) : Bool :=
  k matches .right | .arabicLetter | .arabicNumber

/-- Kinds that labels of both directions may hold. -/
def isShared (k : Kind) : Bool :=
  k matches .number | .numberSeparator | .commonSeparator | .numberTerminator | .neutral
    | .boundary | .mark

/-- The last kind that is not a mark. -/
def lastKind (ks : List Kind) : Option Kind :=
  (ks.reverse.dropWhile (· == .mark)).head?

/-- Whether a label that begins in a direction keeps to it. -/
def isUniform (ks : List Kind) : Bool :=
  match ks with
  | [] => true
  | .left :: _ =>
    ks.all (fun k => k == .left || isShared k) &&
      (lastKind ks).any (fun k => k matches .left | .number)
  | first :: _ =>
    (first matches .right | .arabicLetter) &&
      ks.all (fun k => isRightward k || isShared k) &&
      (lastKind ks).any (fun k => k matches .right | .arabicLetter | .number | .arabicNumber) &&
      !(ks.contains .number && ks.contains .arabicNumber)

/-- Whether the labels of a name keep to one direction each, if some character asks for it. -/
def areUniform (labels : List (List Char)) : Bool :=
  let kinds := labels.map fun label => label.map kind
  !(kinds.any fun ks => ks.any isRightward) || kinds.all isUniform

end StatusBoard.Unicode.Direction
