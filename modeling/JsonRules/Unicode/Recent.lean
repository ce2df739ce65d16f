/-
# JsonRules.Unicode.Recent -- the characters of version 17

The other tables hold version 16 of the Unicode character database, by which patterns go.
Messages and the names of groups go by version 17, which leaves the characters of version
16 as they were in what is asked of them there, and adds the characters here.
-/
import JsonRules.Unicode.Runs

namespace JsonRules.Unicode.Recent

set_option autoImplicit false

/-- The characters that version 17 added. -/
def characters : Runs := .ofLines
  ["1ov 1 r0 1 3j 1 2r6 f 2 c 15h 1 250 1 ojb 2 2 1 1 1 s 1 gk1 g cd 2 1i 7 29d q 12j 3 8 9 x 2",
   "2g4 8 g8 18 4 a fxy p 2 p 7y 5 4qp 8 zt m 2p 37 cg7 3 cd n f h 4pb v 1 m 8 2 34o 1 4e 4 9h 9",
   "aj 4 1e 1 3 1 1l 1 4 1 s 1 4 1 7e 1 10zj 6 4ma c gsi 3be"]

/-- Those that extend the character before them. -/
def extenders : Runs := .ofLines
  ["5an f 2 c 1c7i 2 2g4 1 1 3 1 1 1470 1 2 1 7 2 5 1"]

/-- Those that are alphabetic. -/
def letters : Runs := .ofLines
  ["1ov 1 r0 1 3j 1 ult 2 2 1 1 1 s 1 j7y q 12j 3 1e 2 2g4 8 g8 18 fyc p 2 p 7y 5 4qp 8 zt m 2p",
   "37 hjh v 1 m 8 2 154q 6 4ma c gsi 3be"]

/-- Those that are numbers. -/
def numbers : Runs := .ofLines
  ["1kgw a g7e 3"]

end JsonRules.Unicode.Recent
