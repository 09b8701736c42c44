import StatusBoard.Unicode.CombiningClass
import StatusBoard.Unicode.Packed

/-!
Joining. Letters of some scripts are joined to the letter before, to the one after or to both; marks
between them do not matter. The two joiners, which are invisible, may stand after a mark that
silences a vowel, and the one that keeps letters apart also between letters that would be joined.
-/
namespace StatusBoard.Unicode.Joining

inductive Behaviour where
  | both
  | toNext
  | toPrevious
  | transparent
deriving DecidableEq, Repr

/-- Ranges of characters that join. -/
def joiningTable : List String := [
  "4t 1 4,gj 34 4,ar 7 4,7i 19 4,1a 1 4,2 2 4,3 2 4,3 1 4,21 b 4,c 1 4,4 1 1,2 4 3,4 1 1,1 1 3",
  "1 1 1,1 1 3,1 5 1,5 4 3,4 d 1,e 7 1,7 1 3,1 2 1,2 l 4,z 2 1,2 1 4,1 3 3,4 3 3,3 g 1,g i 3",
  "i 12 1,12 1 3,1 2 1,2 9 3,9 1 1,1 1 3,1 1 1,1 1 3,1 2 1,2 2 3,3 1 3,1 7 4,9 6 4,8 2 4,3 4 4",
  "4 2 3,c 3 1,5 1 1,g 1 4,1 1 3,1 1 4,1 3 1,3 5 3,5 4 1,4 1 3,1 9 1,9 1 3,1 1 1,1 1 3,1 1 1",
  "1 1 3,1 2 1,2 1 3,1 r 4,t 1 3,1 b 1,b 3 3,3 f 1,f 2 3,2 4 1,4 1 3,1 1 1,1 2 3,2 3 1,3 2 3",
  "2 6 1,18 b 4,10 x 1,x 9 4,i 1 4,p 4 4,5 9 4,a 3 4,4 5 4,n 1 3,1 5 1,5 2 3,2 1 1,1 1 3,1 a 1",
  "a 1 3,1 1 1,1 3 3,3 3 4,7 1 1,2 4 1,5 1 3,1 1 1,1 2 3,7 j 3,m 1 1,3 5 1,5 1 3,1 1 1,8 9 4",
  "9 a 1,a 3 3,4 1 3,1 2 1,2 2 3,2 6 1,6 1 3,1 f 1,g o 4,p w 4,2f 1 4,2 1 4,5 8 4,c 1 4,4 7 4",
  "h 2 4,v 1 4,1n 1 4,5 4 4,c 1 4,l 2 4,s 1 4,3 2 4,1n 1 4,5 2 4,6 2 4,4 3 4,6 1 4,v 2 4,5 1 4",
  "c 2 4,1n 1 4,5 5 4,6 2 4,6 1 4,l 2 4,o 6 4,7 1 4,1n 1 4,3 1 4,2 4 4,c 1 4,8 2 4,d 2 4,w 1 4",
  "1q 1 4,d 1 4,1f 1 4,4 1 4,1k 1 4,2 3 4,8 3 4,4 4 4,b 2 4,d 2 4,v 1 4,1n 1 4,3 1 4,7 1 4,6 2 4",
  "m 2 4,u 2 4,1n 2 4,6 4 4,c 1 4,l 2 4,v 1 4,21 1 4,8 3 4,4 1 4,2j 1 4,3 7 4,j 8 4,2y 1 4,3 9 4",
  "k 7 4,28 2 4,t 1 4,2 1 4,2 1 4,1k e 4,f 5 4,6 2 4,7 b 4,c 10 4,19 1 4,2v 4 4,5 6 4,7 2 4,4 2 4",
  "r 2 4,6 3 4,j 4 4,h 1 4,3 2 4,8 1 4,g 1 4,jk 3 4,qd 3 4,w 2 4,w 2 4,w 2 4,1u 2 4,3 7 4,f 1 4",
  "3 b 4,k 1 4,16 1 1,4 3 4,4 1 4,h 2h 1,2t 2 4,2 y 1,y 1 4,1 1 1,3a 3 4,7 2 4,b 1 4,7 3 4,66 2 4",
  "4 1 4,1n 1 4,2 7 4,8 1 4,2 1 4,3 8 4,e a 4,c 1 4,1d 1a 4,1c c 4,w 4 4,1g 1 4,2 5 4,6 1 4,6 1 4",
  "15 9 4,l 2 4,y 4 4,6 2 4,3 3 4,1n 1 4,2 2 4,5 1 4,2 3 4,1p 8 4,a 2 4,4a 3 4,4 d 4,e 7 4,b 1 4",
  "7 1 4,4 2 4,5k 1s 4,gb 1 4,3 2 4,s 5 4,1i 5 4,a 6 4,2u x 4,2e7 3 4,40 1 4,2p w 4,ga 4 4,33 2 4",
  "n9y 4 4,5 a 4,16 2 4,2a 2 4,7m 1 4,4 1 4,5 1 4,q 2 4,7 1 4,k 1e 1,1e 1 2,2a 2 4,s i 4,v 1 4",
  "13 8 4,x b 4,1l 3 4,1f 1 4,3 4 4,6 2 4,15 1 4,1w 6 4,8 2 4,4 2 4,e 1 4,9 1 4,1c 1 4,1g 1 4",
  "2 3 4,5 2 4,7 2 4,3 1 4,17 2 4,a 1 4,6n 1 4,3 1 4,5 1 4,fn5 1 4,ki g 4,w g 4,67 1 4,6y 3 4",
  "ec 1 4,6b 1 4,46 5 4,1aj 3 4,4 2 4,7 4 4,18 3 4,7 1 4,3l 5 1,5 1 3,2 1 3,2 2 3,4 1 2,1 5 3",
  "5 4 1,4 1 2,1 5 1,5 1 3,1 3 1,3 1 3,3 1 3,1 2 4,6 4 1,4 1 3,41 1 1,1 1 3,1 1 1,1 3 3,3 3 1",
  "3 1 3,1 2 1,2 1 3,1 1 1,1 2 3,2 1 1,1 1 3,o 4 3,4 2 1,9f 1 2,1 x 1,x 1 3,1 1 1,1 4 4,1x 5 4",
  "8y 2 4,n 1 3,1 2 1,3 2 1,1g 6 4,1i 3 1,3 1 3,1 h 1,i b 4,b 3 1,3 1 3,s 4 1,4 2 3,2 c 1,c 4 4",
  "1a 1 1,2 2 1,2 3 3,4 1 1,1 2 3,2 2 1,2 1 3,1 2 1,3 1 1,1 2 3,2 1 1,5 1 3,1 1 1,1 1 2,1i 1 4",
  "1j f 4,1k 1 4,3 2 4,c 3 4,1g 4 4,6 2 4,9 1 4,1q 3 4,13 5 4,6 8 4,1y 1 4,d 2 4,1i 9 4,j 4 4",
  "6 1 4,2o 3 4,5 1 4,2 2 4,8 1 4,3 1 4,4e 1 4,4 8 4,t 2 4,1n 2 4,5 1 4,12 7 4,a 5 4,23 6 4,j 1 4",
  "2 1 4,2 1 4,f 2 4,2f 8 4,a 3 4,4 1 4,o 1 4,2d 6 4,7 1 4,5 2 4,3 2 4,6o 4 4,a 2 4,3 2 4,t 2 4",
  "2f 8 4,a 1 4,2 2 4,30 1 4,2 1 4,3 6 4,7 1 4,2u 1 4,2 1 4,3 4 4,5 5 4,7c 9 4,a 2 4,76 2 4,3 1 4",
  "5 1 4,41 4 4,6 2 4,6 1 4,x a 4,1e 6 4,8 4 4,c 1 4,a 6 4,8 3 4,1d d 4,e 2 4,5k 1 4,2 3 4,4 1 4",
  "5m 7 4,8 6 4,7 1 4,2b m 4,o 7 4,8 2 4,3 2 4,3g 6 4,9 1 4,2 2 4,3 7 4,8 1 4,21 2 4,5 1 4,2 1 4",
  "9o 2 4,d 2 4,1i 5 4,a 1 4,2 1 4,o 1 4,446 h 4,n f 4,8uv c 4,f 3 4,1xf 5 4,1s 7 4,tb 1 4,1s 4 4",
  "2d 1 4,f5l 2 4,3 4 4,3mo 1a 4,1c n 4,fr 3 4,c g 4,i 7 4,11 4 4,48 3 4,1j2 1j 4,1n 1e 4,1m 1 4",
  "f 1 4,n 5 4,6 f 4,127 7 4,8 h 4,j 7 4,8 2 4,3 5 4,2x 1 4,4h 7 4,am 1 4,1q 4 4,e8 4 4,76 2 4",
  "6t 1 4,3 1 4,8 2 4,7 1 4,d7 7 4,1c 1w 1,1w 8 4,gzb1 1 4,v 2o 4,68 6o 4"]

def joining : List Packed.Range := Packed.ranges joiningTable

def behaviour? (c : Char) : Option Behaviour :=
  match Packed.value? joining c.toNat with
  | some 1 => some .both
  | some 2 => some .toNext
  | some 3 => some .toPrevious
  | some 4 => some .transparent
  | _ => none

def separator : Char := '\u200c'
def connector : Char := '\u200d'

/-- The next character that is not transparent. -/
def nearest (cs : List Char) : Option Behaviour :=
  (cs.dropWhile fun c => behaviour? c == some .transparent).head?.bind behaviour?

/-- Whether a joiner may stand between what comes before, in reverse, and what comes after. -/
def isAllowed (c : Char) (before after : List Char) : Bool :=
  before.head?.any (fun d => CombiningClass.classOf d == CombiningClass.silencer) ||
    (c == separator && (nearest before matches some .both | some .toNext) &&
      (nearest after matches some .both | some .toPrevious))

/-- Whether every joiner in a text may stand there, after what comes before in reverse. -/
def areAllowed (before : List Char) : List Char → Bool
  | [] => true
  | c :: after =>
    (if c == separator || c == connector then isAllowed c before after else true) &&
      areAllowed (c :: before) after

end StatusBoard.Unicode.Joining
