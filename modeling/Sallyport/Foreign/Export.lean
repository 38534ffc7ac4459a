/-
Exported wrappers. Code that was not built against the services calls a kernel function by its
exported name; the wrapper raises the privilege, calls the function with the same values, and
resets.
-/
import Sallyport.Foreign.Answer
import Sallyport.Trampoline

namespace Sallyport.Foreign

/-- Calls the wrapper of a function and gives the result, if the function has one. -/
def exported {κ : Type} [KernelFunctions κ] (i : Invocation) (w : World κ) :
    Option Value × World κ :=
  let ((answer, kernel), gate) := w.gate.withPrivilege fun gate =>
    (KernelFunctions.invoke gate.isPrivileged i w.kernel, gate)
  (i.function.signature.result.map answer.result, ⟨gate, kernel⟩)

end Sallyport.Foreign
