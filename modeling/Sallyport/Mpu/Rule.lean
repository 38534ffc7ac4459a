/-
The word the memory protection unit takes for one region. Bits 0 and 1 are the area, bits 2 to 15
the offset within the area and bits 16 to 31 the size, both in granules of 64 bytes. Encoding
masks each field to its width and checks nothing: the offset field reaches one mebibyte into an
area and wraps there.
-/

namespace Sallyport.Mpu

/-- A granule has `2 ^ granuleShift` bytes. -/
def granuleShift : UInt32 := 6

/-- The memory areas a rule can be about. -/
inductive Area where
  /-- Data memory of the fabric controller. -/
  | fcTcdm
  /-- Shared second-level memory. -/
  | l2
  /-- Peripheral space. -/
  | apb
  deriving DecidableEq, Repr

namespace Area

def tag : Area → UInt32
  | .fcTcdm => 0
  | .l2 => 1
  | .apb => 2

/-- The area of a tag, or the tag itself if it names none. -/
def ofTag (n : UInt32) : Except UInt32 Area :=
  if n = 0 then .ok .fcTcdm
  else if n = 1 then .ok .l2
  else if n = 2 then .ok .apb
  else .error n

def name : Area → String
  | .fcTcdm => "FcTcdm"
  | .l2 => "L2"
  | .apb => "Apb"

theorem ofTag_tag (a : Area) : ofTag a.tag = .ok a := by cases a <;> rfl

end Area

/-- A rule word. -/
structure Rule where
  word : UInt32
  deriving DecidableEq, Repr

namespace Rule

/-- Packs a rule from an area, a byte offset within it and a size in granules. -/
def encode (area : Area) (base sizeCode : UInt32) : Rule :=
  let baseField : UInt32 := ((base >>> granuleShift) &&& 0x3fff) <<< 2
  let sizeField : UInt32 := (sizeCode &&& 0xffff) <<< 16
  ⟨(area.tag &&& 3) ||| baseField ||| sizeField⟩

/-- The area, or the raw tag if it names none. -/
def area (r : Rule) : Except UInt32 Area := Area.ofTag (r.word &&& 3)

/-- Byte offset from the start of the area. -/
def base (r : Rule) : UInt32 := ((r.word >>> 2) &&& 0x3fff) <<< granuleShift

/-- Size in granules. -/
def sizeCode (r : Rule) : UInt32 := (r.word >>> 16) &&& 0xffff

def sizeInBytes (r : Rule) : UInt32 := r.sizeCode <<< granuleShift

end Rule

end Sallyport.Mpu
