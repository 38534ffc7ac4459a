/-
Why constants cannot be generated from a configuration.
-/

namespace Sallyport.Platform

inductive ConfigError where
  /-- The configuration is no document, or a field has the wrong kind. -/
  | malformed
  /-- A control block would have no words. -/
  | noWords (field : String)
  | noQuantum
  | noLinearChannels
  | tooManyTwoD (count : UInt32)
  | tooManyFifo (count : UInt32)
  /-- Some channel number would not be a signed number. -/
  | channelIdTooLarge
  /-- Nobody said where to write. -/
  | noOutputDirectory
  /-- The place to write to does not exist. -/
  | outputDirectoryMissing
  deriving DecidableEq, Repr

/-- The most channels one word can hold. -/
def wordBits : UInt32 := 32

def ConfigError.message : ConfigError → String
  | .malformed => "parsing $GAP_APP_CONFIG"
  | .noWords field => "kernel." ++ field ++ " must be nonzero"
  | .noQuantum => "kernel.preemption_quantum must be at least 1"
  | .noLinearChannels => "udma.lin_channels must be at least 1"
  | .tooManyTwoD count =>
    "udma.chan_2d is " ++ toString count.toNat ++ ", at most " ++ toString wordBits.toNat ++ " supported"
  | .tooManyFifo count =>
    "udma.fifo_channels is " ++ toString count.toNat ++ ", at most " ++ toString wordBits.toNat ++
      " supported"
  | .channelIdTooLarge => "udma channel ids must fit in an i32"
  | .noOutputDirectory => "OUT_DIR not set; is this running from a build script?"
  | .outputDirectoryMissing => "No such file or directory (os error 2)"

end Sallyport.Platform
