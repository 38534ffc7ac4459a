/-
What the startup code of the image finds of the trap handler: one entry that takes the cause code
and the argument registers, and a table of the services in cause order for those who index it
themselves. The stubs of the user side are exported as they are.
-/
import Sallyport.Hart.Trap

namespace Sallyport.Hart

/-- Entry for an environment call with its cause code and argument registers. -/
def trapEntry (code a0 a1 a2 a3 : UInt32) : Attempt Hart UInt32 := dispatch code #v[a0, a1, a2, a3]

/-- The service at a position of the trap vector, if there is one. -/
def serviceAt? (position : Nat) : Option (Attempt Hart UInt32) := Cause.vector[position]?.map service

end Sallyport.Hart
