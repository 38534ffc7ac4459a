/-
The fatal path from a desk at rest. The epitaph is left with the beginning of what the reason wrote, in
whatever pieces, padded with null bytes; a reason that fails while it is being recorded finds the epitaph
claimed and halts. All of it is read off two closed forms, `Scribe.after` and `Desk.failing`.
-/
import Mathlib.Data.List.DropRight
import Sallyport.Epitaph
import Sallyport.Proofs.Data.Bytes

namespace Sallyport

/-! ## A buffer after a text -/

namespace Scribe

/-- A buffer into which a text has been written, as much of it as there is room for. -/
def after (buffer text : List UInt8) : Scribe := ⟨text.take buffer.length, buffer.drop text.length⟩

theorem onto_eq (buffer : List UInt8) : onto buffer = after buffer [] := by simp [onto, after]

theorem write_after (buffer text piece : List UInt8) :
    (after buffer text).write piece = after buffer (text ++ piece) := by
  simp only [write, after, List.take_append, List.length_drop, List.drop_drop, List.length_append]

theorem buffer_after (buffer text : List UInt8) :
    (after buffer text).buffer = text.take buffer.length ++ buffer.drop text.length := rfl

end Scribe

/-! ## What a reason comes to -/

namespace Message

/-- Whether a reason fails itself. -/
def nests : Message → Bool
  | .done => false
  | .text _ next => next.nests
  | .probe next => next.nests
  | .fail _ _ _ => true

/-- What a reason writes while the image is failing: everything up to the first failure of its own. -/
def spoken : Message → String
  | .done => ""
  | .text piece next => piece ++ next.spoken
  | .probe next => "true" ++ next.spoken
  | .fail _ _ _ => ""

/-- How often a reason asks whether the image has failed, up to the first failure of its own. -/
def probes : Message → Nat
  | .done => 0
  | .text _ next => next.probes
  | .probe next => next.probes + 1
  | .fail _ _ _ => 0

/-- What a reason is told when it asks whether the image has failed, each time it does. -/
def told : Message → Sink → Desk → List Bool
  | .done, _, _ => []
  | .text piece next, sink, d => next.told sink (d.emit sink piece)
  | .probe next, sink, d => d.hasFailed :: next.told sink (d.emit sink (if d.hasFailed then "true" else "false"))
  | .fail _ _ _, _, _ => []

end Message

namespace Desk

/-- What a reason is told in a failure, while it is recorded and then while it is printed. -/
def told (reason : Message) (d : Desk) : List Bool :=
  match d.epitaph.tryBorrow with
  | none => []
  | some held =>
    let d := { d with epitaph := held.set { Epitaph.blank with failed := true } }
    reason.told .record d ++
      match reason.write .record d with
      | (.error _, _) => []
      | (.ok _, d) => reason.told .console d

/-! ## Somebody is failing -/

/-- The desk of somebody who is failing, has recorded a text and has printed to a console. -/
def failing (text : List UInt8) (console : String) : Desk :=
  ⟨⟨true, ⟨true, Scribe.after (List.replicate Epitaph.capacity 0) text⟩⟩, console⟩

@[simp] theorem hasFailed_failing (text : List UInt8) (console : String) : (failing text console).hasFailed = true := rfl

theorem emit_record_failing (text : List UInt8) (console piece : String) :
    (failing text console).emit .record piece = failing (text ++ Bytes.ofText piece) console := by
  show (⟨⟨true, ⟨true, (Scribe.after _ text).write (Bytes.ofText piece)⟩⟩, console⟩ : Desk) = _
  rw [Scribe.write_after]
  rfl

theorem emit_console_failing (text : List UInt8) (console piece : String) :
    (failing text console).emit .console piece = failing text (console ++ piece) := rfl

theorem failWith_failing (code : Int32) (write : Sink → Attempt Desk Unit) (text : List UInt8) (console : String) :
    failWith code write (failing text console) = (.halted, failing text console) := rfl

end Desk

namespace Message

open Desk

/-- The outcome of formatting while the image is failing. -/
def outcome (reason : Message) : Except Fault Unit := if reason.nests then .error .halted else .ok ()

theorem write_record (reason : Message) : ∀ (text : List UInt8) (console : String),
    reason.write .record (failing text console) =
      (reason.outcome, failing (text ++ Bytes.ofText reason.spoken) console) := by
  induction reason with
  | done =>
    intro text console
    simp [write, outcome, nests, spoken]
  | text piece next ih =>
    intro text console
    rw [write, emit_record_failing, ih, List.append_assoc, ← Bytes.ofText_append]
    rfl
  | probe next ih =>
    intro text console
    rw [write, hasFailed_failing, if_pos rfl, emit_record_failing, ih, List.append_assoc, ← Bytes.ofText_append]
    rfl
  | fail code reason next _ _ =>
    intro text console
    rw [write, failWith_failing]
    simp [outcome, nests, spoken]

theorem write_console (reason : Message) : ∀ (text : List UInt8) (console : String),
    reason.write .console (failing text console) = (reason.outcome, failing text (console ++ reason.spoken)) := by
  induction reason with
  | done =>
    intro text console
    simp [write, outcome, nests, spoken]
  | text piece next ih =>
    intro text console
    rw [write, emit_console_failing, ih, String.append_assoc]
    rfl
  | probe next ih =>
    intro text console
    rw [write, hasFailed_failing, if_pos rfl, emit_console_failing, ih, String.append_assoc]
    rfl
  | fail code reason next _ _ =>
    intro text console
    rw [write, failWith_failing]
    simp [outcome, nests, spoken]

theorem told_failing (reason : Message) : ∀ (sink : Sink) (text : List UInt8) (console : String),
    reason.told sink (failing text console) = List.replicate reason.probes true := by
  -- Whichever sink a piece goes to, it leaves somebody who is failing.
  have emits (sink : Sink) (text : List UInt8) (console piece : String) :
      ∃ text' console', (failing text console).emit sink piece = failing text' console' := by
    cases sink with
    | record => exact ⟨_, _, emit_record_failing ..⟩
    | console => exact ⟨_, _, emit_console_failing ..⟩
  induction reason with
  | done => intro sink text console; rfl
  | text piece next ih =>
    intro sink text console
    obtain ⟨text', console', he⟩ := emits sink text console piece
    rw [told, he]
    exact ih sink text' console'
  | probe next ih =>
    intro sink text console
    obtain ⟨text', console', he⟩ := emits sink text console "true"
    rw [told, hasFailed_failing, if_pos rfl, he, ih sink text' console', probes, List.replicate_succ]
  | fail code reason next _ _ => intro sink text console; rfl

end Message

/-! ## What a record says -/

namespace Epitaph

/-- The recorded text, without the null bytes at its end. -/
def trimmed (e : Epitaph) : List UInt8 := e.text.rdropWhile (· = 0)

theorem rdropWhile_append_zeros {bytes : List UInt8} (h : 0 ∉ bytes) (n : Nat) :
    (bytes ++ List.replicate n 0).rdropWhile (· = 0) = bytes := by
  induction n with
  | zero =>
    rw [List.replicate_zero, List.append_nil, List.rdropWhile_eq_self_iff]
    intro hne hlast
    have hzero : bytes.getLast hne = 0 := of_decide_eq_true hlast
    exact h (hzero ▸ List.getLast_mem hne)
  | succ n ih => rw [List.replicate_succ', ← List.append_assoc, List.rdropWhile_concat, if_pos (by decide), ih]

end Epitaph

/-! ## A failure from a desk at rest -/

namespace Desk

/-- Whether nobody holds the epitaph. -/
def AtRest (d : Desk) : Prop := d.epitaph.claimed = false

/-- The claim of a failure from a desk at rest: nothing of an earlier epitaph is left. -/
theorem claimed_eq (console : String) :
    (⟨⟨true, { Epitaph.blank with failed := true }⟩, console⟩ : Desk) = failing [] console := by
  rw [failing, ← Scribe.onto_eq]
  rfl

/-- A failure from a desk at rest ends by halting, with nothing printed, or with its exit code. -/
theorem AtRest.die_eq {d : Desk} (h : d.AtRest) (code : Int32) (reason : Message) :
    d.die code reason = if reason.nests then (.halted, (failing (Bytes.ofText reason.spoken) d.console).release)
      else (.exit code, (failing (Bytes.ofText reason.spoken) (d.console ++ (reason.spoken ++ "\n"))).release) := by
  obtain ⟨⟨claimed, e⟩, console⟩ := d
  obtain rfl : claimed = false := h
  -- The reason is gone through twice, and printed only if the first time came to an end.
  have hrecord := reason.write_record [] console
  have hconsole := reason.write_console (Bytes.ofText reason.spoken) console
  rw [List.nil_append] at hrecord
  unfold Message.outcome at hrecord hconsole
  simp only [die, failWith, Cell.tryBorrow, Cell.set, Bool.false_eq_true, if_false, claimed_eq, hrecord]
  cases hn : reason.nests with
  | true => rfl
  | false =>
    simp only [hn, Bool.false_eq_true, if_false] at hconsole ⊢
    rw [hconsole, ← String.append_assoc]
    rfl

/-- The epitaph is left with the beginning of what the reason wrote, and null bytes behind it. -/
theorem AtRest.text_die {d : Desk} (h : d.AtRest) (code : Int32) (reason : Message) :
    (d.die code reason).2.epitaph.contents.text =
      (Bytes.ofText reason.spoken).take 128 ++ List.replicate (128 - (Bytes.ofText reason.spoken).length) 0 := by
  have htext (text : List UInt8) (console : String) : (failing text console).release.epitaph.contents.text =
      text.take 128 ++ List.replicate (128 - text.length) 0 := by
    show (Scribe.after (List.replicate Epitaph.capacity 0) text).buffer = _
    rw [Scribe.buffer_after, List.length_replicate, List.drop_replicate]
    rfl
  rw [h.die_eq]
  cases reason.nests <;> exact htext ..

theorem AtRest.trimmed_die {d : Desk} (h : d.AtRest) (code : Int32) {reason : Message}
    (hnull : 0 ∉ Bytes.ofText reason.spoken) :
    (d.die code reason).2.epitaph.contents.trimmed = (Bytes.ofText reason.spoken).take 128 := by
  rw [Epitaph.trimmed, h.text_die]
  exact Epitaph.rdropWhile_append_zeros (fun hzero => hnull (List.mem_of_mem_take hzero)) _

/-- Every question in a failure from a desk at rest is answered with yes. -/
theorem AtRest.told_eq {d : Desk} (h : d.AtRest) (reason : Message) :
    d.told reason = List.replicate (if reason.nests then reason.probes else reason.probes + reason.probes) true := by
  obtain ⟨⟨claimed, e⟩, console⟩ := d
  obtain rfl : claimed = false := h
  have hrecord := reason.write_record [] console
  unfold Message.outcome at hrecord
  simp only [Desk.told, Cell.tryBorrow, Cell.set, Bool.false_eq_true, if_false, claimed_eq, hrecord,
    Message.told_failing]
  cases hn : reason.nests with
  | true => exact List.append_nil _
  | false =>
    simp only [Bool.false_eq_true, if_false, Message.told_failing]
    exact List.replicate_append_replicate

theorem AtRest.die {d : Desk} (h : d.AtRest) (code : Int32) (reason : Message) :
    (d.die code reason).2.AtRest ∧ (d.die code reason).2.epitaph.contents.failed = true := by
  rw [h.die_eq]
  cases reason.nests <;> exact ⟨rfl, rfl⟩

end Desk

end Sallyport
