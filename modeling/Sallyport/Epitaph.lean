/-
The last words of the image. A fatal failure claims the epitaph, writes its reason into a buffer of
fixed size as far as it fits, prints the whole reason on the console, and exits with a code. The
epitaph stays claimed all that while: a failure met on the way finds it claimed and stops the hart
instead of starting over.
-/
import Sallyport.Cell
import Sallyport.Data.Bytes

namespace Sallyport

/-! ## A buffer that is filled from the front -/

/-- A buffer cut where the next piece goes. Its length never changes. -/
structure Scribe where
  written : List UInt8
  room : List UInt8
  deriving DecidableEq, Repr

namespace Scribe

/-- A buffer nothing has been written into yet. -/
def onto (buffer : List UInt8) : Scribe := ⟨[], buffer⟩

/-- Writes as much of a piece as there is room for. -/
def write (s : Scribe) (piece : List UInt8) : Scribe :=
  ⟨s.written ++ piece.take s.room.length, s.room.drop piece.length⟩

/-- The whole buffer. -/
def buffer (s : Scribe) : List UInt8 := s.written ++ s.room

end Scribe

/-! ## The record -/

/-- What a debugger finds: whether the image has failed, and the beginning of the reason. -/
structure Epitaph where
  failed : Bool
  scribe : Scribe
  deriving DecidableEq, Repr

namespace Epitaph

/-- Bytes kept of a reason. -/
def capacity : Nat := 128

def blank : Epitaph := ⟨false, Scribe.onto (List.replicate capacity 0)⟩

/-- The kept bytes, padded with null bytes. -/
def text (e : Epitaph) : List UInt8 := e.scribe.buffer

end Epitaph

/-- What the fatal path works on: the record, and what has been printed so far. -/
structure Desk where
  epitaph : Cell Epitaph
  console : String
  deriving DecidableEq

/-- A reason, as the pieces it writes when it is formatted. -/
inductive Message where
  | done
  | text (piece : String) (next : Message)
  /-- Asks whether the image has failed and writes the answer. -/
  | probe (next : Message)
  /-- Fails in the middle of being formatted; what would come next is never reached. -/
  | fail (code : Int32) (reason next : Message)
  deriving DecidableEq, Repr

/-- Where a reason is written to. -/
inductive Sink where
  | record
  | console
  deriving DecidableEq, Repr

namespace Desk

def boot : Desk := ⟨Cell.new Epitaph.blank, ""⟩

/-- Whether the image has failed. While somebody writes the epitaph, it has. -/
def hasFailed (d : Desk) : Bool :=
  match d.epitaph.tryBorrow with
  | some held => held.contents.failed
  | none => true

/-- Appends a piece to a sink. -/
def emit (d : Desk) (sink : Sink) (piece : String) : Desk :=
  match sink with
  | .record =>
    let e := d.epitaph.contents
    { d with epitaph := d.epitaph.set { e with scribe := e.scribe.write (Bytes.ofText piece) } }
  | .console => { d with console := d.console ++ piece }

def release (d : Desk) : Desk := { d with epitaph := d.epitaph.release }

/-- Fails with a code and a reason that `write` formats into a sink. -/
def failWith (code : Int32) (write : Sink → Attempt Desk Unit) (d : Desk) : Fault × Desk :=
  match d.epitaph.tryBorrow with
  | none => (.halted, d)
  | some held =>
    let d := { d with epitaph := held.set { Epitaph.blank with failed := true } }
    match write .record d with
    | (.error f, d) => (f, d.release)
    | (.ok _, d) =>
      match write .console d with
      | (.error f, d) => (f, d.release)
      | (.ok _, d) => (.exit code, (d.emit .console "\n").release)

end Desk

/-- Formats a reason into a sink, piece by piece. -/
def Message.write : Message → Sink → Attempt Desk Unit
  | .done, _, d => (.ok (), d)
  | .text piece next, sink, d => next.write sink (d.emit sink piece)
  | .probe next, sink, d => next.write sink (d.emit sink (if d.hasFailed then "true" else "false"))
  | .fail code reason _, _, d =>
    let (fault, d) := Desk.failWith code reason.write d
    (.error fault, d)

namespace Desk

/-- Records a reason, prints it and ends the image with a code. It never comes back: what it leaves
is the fault the image ended with. -/
def die (code : Int32) (reason : Message) (d : Desk) : Fault × Desk := failWith code reason.write d

end Desk

end Sallyport
