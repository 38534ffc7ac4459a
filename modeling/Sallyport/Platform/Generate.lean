/-
Generation of the constant files from the configuration of a platform. Each file takes its own
section and ignores the others. Without a configuration everything has its default; one that is
there is repeated in the log before it is read. Where a file goes is asked for late, and whether
that place exists later still; only the control block sizes are checked after that. What text is a
document, and which, is up to the reader that generation is given.
-/
import Sallyport.Platform.Channels
import Sallyport.Platform.ControlBlocks
import Sallyport.Platform.Kernel

namespace Sallyport.Platform

/-- The files that can be generated. -/
inductive Target where
  | controlBlocks
  | kernel
  | channels
  deriving DecidableEq, Repr

/-- Where a file would go. -/
inductive Output where
  | usable
  | unset
  | missing
  deriving DecidableEq, Repr

/-- What generation gives: what it says, and the text of the file. -/
structure Generated where
  log : String
  file : Except ConfigError String

/-- What is said before the configuration is read. -/
def log (config : Option String) : String :=
  "cargo:rerun-if-env-changed=GAP_APP_CONFIG\n" ++
    match config with
    | none => "--- $GAP_APP_CONFIG not present, using defaults ---\n"
    | some text => "--- toml for $GAP_APP_CONFIG ---\n" ++ text ++ "\n"

/-- A reader of documents: the document a text is, if it is one. -/
abbrev Reader : Type := String → Option Toml.Node

/-- A section of the configuration, or its default if there is no configuration. -/
def sectionOr {α : Type} (default : α) (ofDocument? : Toml.Node → Option α)
    (config : Option String) (read : Reader := Toml.document?) : Except ConfigError α :=
  match config with
  | none => .ok default
  | some text =>
    match (read text).bind ofDocument? with
    | some found => .ok found
    | none => .error .malformed

/-- Finds the place to write to. -/
def Output.check : Output → Except ConfigError Unit
  | .usable => .ok ()
  | .unset => .error .noOutputDirectory
  | .missing => .error .outputDirectoryMissing

/-- The constants of a target. -/
def constants (config : Option String) (output : Output) (read : Reader) :
    Target → Except ConfigError (List Constant)
  | .controlBlocks => do
    let sizes ← sectionOr ControlBlock.Sizes.default sizes? config read
    output.check
    let sizes ← acceptSizes sizes
    return sizeConstants sizes
  | .kernel => do
    let kernel ← sectionOr KernelConfig.default KernelConfig.ofDocument? config read
    let kernel ← kernel.accept
    output.check
    return kernel.constants
  | .channels => do
    let channels ← sectionOr ChannelConfig.default ChannelConfig.ofDocument? config read
    let layout ← channels.accept
    output.check
    return ChannelConfig.constants layout

/-- Generates the file of a target. -/
def generate (target : Target) (config : Option String) (output : Output)
    (read : Reader := Toml.document?) : Generated :=
  ⟨log config, (constants config output read target).map file⟩

end Sallyport.Platform
