/-
How many transfer channels there are and how they are numbered. The kinds that are kept in one word
have at most as many channels as a word has bits. A kind whose first number is not given starts
behind the kind before it. Ends are sums that stop at the largest word, and have to be signed
numbers, because drivers name channels by those.
-/
import Sallyport.Dma.Channels
import Sallyport.Platform.Constants
import Sallyport.Platform.Error
import Sallyport.Platform.Fields

namespace Sallyport.Platform

/-- The channels a platform asks for. -/
structure ChannelConfig where
  linear : UInt32
  twoD : UInt32
  fifo : UInt32
  twoDBase : Option UInt32
  fifoBase : Option UInt32
  linearAddresses : Dma.AddressGenerator
  twoDAddresses : Dma.AddressGenerator
  fifoAddresses : Dma.AddressGenerator
  deriving DecidableEq, Repr

/-- The sum, or the largest word if that is less. -/
def saturatingAdd (a b : UInt32) : UInt32 := UInt32.ofNat (min (a.toNat + b.toNat) 0xffffffff)

namespace ChannelConfig

/-- The channels of the default platform. -/
def default : ChannelConfig where
  linear := Dma.Layout.default.linear
  twoD := Dma.Layout.default.twoD
  fifo := Dma.Layout.default.fifo
  twoDBase := none
  fifoBase := none
  linearAddresses := Dma.Layout.default.linearAddresses
  twoDAddresses := Dma.Layout.default.twoDAddresses
  fifoAddresses := Dma.Layout.default.fifoAddresses

/-- The fields, in order. -/
def fieldNames : List String :=
  ["lin_channels", "chan_2d", "fifo_channels", "chan_2d_base", "fifo_base", "lin_addrgen_base",
    "lin_addrgen_stride", "chan_2d_addrgen_base", "chan_2d_addrgen_stride", "fifo_addrgen_base",
    "fifo_addrgen_stride"]

/-- The address generator whose fields begin with a name. -/
def addresses? (default : Dma.AddressGenerator) (fields : Fields) (name : String) :
    Option Dma.AddressGenerator := do
  let base ← fieldOr default.base word? fields (name ++ "_addrgen_base")
  let stride ← fieldOr default.stride word? fields (name ++ "_addrgen_stride")
  return ⟨base, stride⟩

/-- The channels a document asks for. -/
def ofDocument? (document : Toml.Node) : Option ChannelConfig := do
  let fields ← section? document "udma" fieldNames
  let linear ← fieldOr default.linear word? fields "lin_channels"
  let twoD ← fieldOr default.twoD word? fields "chan_2d"
  let fifo ← fieldOr default.fifo word? fields "fifo_channels"
  let twoDBase ← fieldOr none (fun n => (word? n).map some) fields "chan_2d_base"
  let fifoBase ← fieldOr none (fun n => (word? n).map some) fields "fifo_base"
  let linearAddresses ← addresses? default.linearAddresses fields "lin"
  let twoDAddresses ← addresses? default.twoDAddresses fields "chan_2d"
  let fifoAddresses ← addresses? default.fifoAddresses fields "fifo"
  return ⟨linear, twoD, fifo, twoDBase, fifoBase, linearAddresses, twoDAddresses, fifoAddresses⟩

/-- The numbering that the configuration describes. -/
def layout (c : ChannelConfig) : Dma.Layout :=
  let twoDBase := c.twoDBase.getD c.linear
  {
    linear := c.linear
    twoD := c.twoD
    twoDBase
    fifo := c.fifo
    fifoBase := c.fifoBase.getD (saturatingAdd twoDBase c.twoD)
    linearAddresses := c.linearAddresses
    twoDAddresses := c.twoDAddresses
    fifoAddresses := c.fifoAddresses }

/-- The largest number drivers can name. -/
def largestId : UInt32 := 0x7fffffff

/-- The end of the numbers of each kind. -/
def ends (l : Dma.Layout) : List UInt32 :=
  [l.linear, saturatingAdd l.twoDBase l.twoD, saturatingAdd l.fifoBase l.fifo]

/-- The layout of the configuration, unless drivers could not use it. -/
def accept (c : ChannelConfig) : Except ConfigError Dma.Layout :=
  if c.linear = 0 then .error .noLinearChannels
  else if wordBits < c.twoD then .error (.tooManyTwoD c.twoD)
  else if wordBits < c.fifo then .error (.tooManyFifo c.fifo)
  else if (ends c.layout).any (largestId < ·) then .error .channelIdTooLarge
  else .ok c.layout

/-- The constants of an address generator. -/
def addressConstants (name : String) (g : Dma.AddressGenerator) : List Constant :=
  [.address (name ++ "_ADDRGEN_BASE") g.base, .stride (name ++ "_ADDRGEN_STRIDE") g.stride]

def constants (l : Dma.Layout) : List Constant :=
  [.number "LIN_CHANNELS" l.linear, .size "LIN_WORDS" l.linearWords, .number "CHAN_2D" l.twoD,
    .number "CHAN_2D_BASE" l.twoDBase, .number "FIFO_CHANNELS" l.fifo,
    .number "FIFO_BASE" l.fifoBase] ++
    addressConstants "LIN" l.linearAddresses ++ addressConstants "CHAN_2D" l.twoDAddresses ++
    addressConstants "FIFO" l.fifoAddresses

end ChannelConfig

end Sallyport.Platform
