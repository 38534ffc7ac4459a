/-
Files of constants, as they are generated: a note, and one line for each constant.
-/
import Sallyport.Text.Hex

namespace Sallyport.Platform

/-- A constant with its type and its value as written. -/
structure Constant where
  name : String
  type : String
  value : String
  deriving DecidableEq, Repr

namespace Constant

/-- A number of words, written in decimal. -/
def size (name : String) (n : Nat) : Constant := ⟨name, "usize", toString n⟩

/-- A word written in decimal. -/
def number (name : String) (n : UInt32) : Constant := ⟨name, "u32", toString n.toNat⟩

/-- An address, written with all its digits. -/
def address (name : String) (n : UInt32) : Constant := ⟨name, "u32", Text.hexWord n⟩

/-- A distance between addresses, written as short as possible. -/
def stride (name : String) (n : UInt32) : Constant := ⟨name, "u32", Text.hex n⟩

def line (c : Constant) : String :=
  "pub const " ++ c.name ++ ": " ++ c.type ++ " = " ++ c.value ++ ";\n"

end Constant

/-- A whole file. -/
def file (constants : List Constant) : String :=
  "// See build.rs for details\n" ++ String.join (constants.map Constant.line)

end Sallyport.Platform
