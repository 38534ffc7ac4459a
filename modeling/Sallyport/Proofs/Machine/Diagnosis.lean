/-
Reading an epitaph back. The two handlers of faults that nobody survives give reasons that fit the record
and end in the address of the fault, so the handler and the address can both be told from what is left.
-/
import Sallyport.Proofs.Machine.Entries
import Sallyport.Proofs.Text.Hex

namespace Sallyport

/-! ## What a record says -/

namespace Epitaph

/-- The address that was recorded last: the number behind the last `0x`. -/
def address? (e : Epitaph) : Option Nat := (Bytes.toText? e.trimmed).bind Text.lastHex?

end Epitaph

/-! ## Handlers of faults -/

/-- Who ends the image over a fault. -/
inductive FaultHandler where
  | defaultIsr
  | illegalInstruction

namespace FaultHandler

def exitCode : FaultHandler → Int32
  | .defaultIsr => -197
  | .illegalInstruction => -199

def headline : FaultHandler → String
  | .defaultIsr => "default_isr: Error : default ISR called at "
  | .illegalInstruction => "illegal_instruction: Error : illegal instruction at "

def line (f : FaultHandler) (mepc : UInt32) : String := f.headline ++ Text.hex mepc

/-- The diagnostic in the pieces it is written in. -/
def reason (f : FaultHandler) (mepc : UInt32) : Message := .text f.headline (.text (Text.hex mepc) .done)

variable (f : FaultHandler) (mepc : UInt32)

theorem spoken_reason : (f.reason mepc).spoken = f.line mepc := by
  simp [reason, line, Message.spoken]

theorem ascii_line : ∀ c ∈ (f.line mepc).toList, 0 < c.toNat ∧ c.toNat < 128 := by
  have hheadline : (f.headline.toList.all fun c => 0 < c.toNat && c.toNat < 128) = true := by cases f <;> rfl
  intro c hc
  rw [line, String.toList_append, List.mem_append, Text.toList_hex, List.mem_cons, List.mem_cons] at hc
  rcases hc with hc | rfl | rfl | hc
  · simpa using List.all_eq_true.1 hheadline c hc
  · decide
  · decide
  · obtain ⟨d, hd, rfl⟩ := Text.mem_toDigits c hc
    interval_cases d <;> decide

theorem ofText_line : Bytes.ofText (f.line mepc) = (f.line mepc).toList.map Char.toUInt8 :=
  Bytes.ofText_of_ascii fun c hc => (ascii_line f mepc c hc).2

theorem length_line_le : (Bytes.ofText (f.line mepc)).length ≤ 128 := by
  have hheadline : f.headline.toList.length ≤ 52 := by cases f <;> decide
  have hdigits : (Nat.toDigits 16 mepc.toNat).length ≤ 8 := Text.length_toDigits_le mepc
  rw [ofText_line, List.length_map, line, String.toList_append, List.length_append, Text.toList_hex,
    List.length_cons, List.length_cons]
  omega

theorem zero_not_mem_line : 0 ∉ Bytes.ofText (f.line mepc) := by
  refine Bytes.zero_notMem_ofText fun hzero => ?_
  have hpos := (ascii_line f mepc _ hzero).1
  exact absurd hpos (by decide)

/-- The handler is told from the first letter of the diagnostic, the address from its end. -/
theorem line_injective {f f' : FaultHandler} {mepc mepc' : UInt32} (h : f.line mepc = f'.line mepc') :
    f = f' ∧ mepc = mepc' := by
  have hfirst (f : FaultHandler) (mepc : UInt32) : (f.line mepc).toList.head? = f.headline.toList.head? := by
    rw [line, String.toList_append]
    cases f <;> rfl
  have hlast (f : FaultHandler) (mepc : UInt32) : Text.lastHex? (f.line mepc) = some mepc.toNat :=
    Text.lastHex?_append_hex _ _
  have hhead : f.headline.toList.head? = f'.headline.toList.head? := by rw [← hfirst f mepc, h, hfirst]
  have haddress : some mepc.toNat = some mepc'.toNat := by rw [← hlast f mepc, h, hlast]
  refine ⟨?_, UInt32.toNat.inj (Option.some.inj haddress)⟩
  cases f <;> cases f'
  · rfl
  · exact absurd hhead (by decide)
  · exact absurd hhead (by decide)
  · rfl

end FaultHandler

namespace Hart

variable {α : Type}

/-- What a fault leaves: the exit code of its handler, and a record from which its address can be read. -/
structure Diagnosed (f : FaultHandler) (mepc : UInt32) (out : Except Fault α × Hart) : Prop where
  exits : out.1 = .error (.exit f.exitCode)
  trimmed_eq : out.2.desk.epitaph.contents.trimmed = Bytes.ofText (f.line mepc)
  address?_eq : out.2.desk.epitaph.contents.address? = some mepc.toNat

theorem diagnosed_die (f : FaultHandler) (mepc : UInt32) {h : Hart} (hrest : h.desk.AtRest) :
    Diagnosed f mepc (@die α f.exitCode (f.reason mepc) h) := by
  have hspoken : (f.reason mepc).spoken = f.line mepc := f.spoken_reason mepc
  have hnull : 0 ∉ Bytes.ofText (f.line mepc) := f.zero_not_mem_line mepc
  have htrimmed : (h.desk.die f.exitCode (f.reason mepc)).2.epitaph.contents.trimmed = Bytes.ofText (f.line mepc) := by
    rw [← hspoken] at hnull
    rw [hrest.trimmed_die f.exitCode hnull, hspoken, List.take_of_length_le (f.length_line_le mepc)]
  have hclaimed : h.desk.epitaph.claimed = false := hrest
  rw [die_eq f.exitCode rfl, hclaimed]
  refine ⟨rfl, htrimmed, ?_⟩
  rw [Epitaph.address?, htrimmed, Bytes.toText?_ofText]
  exact Text.lastHex?_append_hex _ _

theorem Diagnosed.eq_of_text_eq {f f' : FaultHandler} {mepc mepc' : UInt32} {out out' : Except Fault α × Hart}
    (h : Diagnosed f mepc out) (h' : Diagnosed f' mepc' out')
    (htext : out.2.desk.epitaph.contents.text = out'.2.desk.epitaph.contents.text) : f = f' ∧ mepc = mepc' := by
  have hbytes : Bytes.ofText (f.line mepc) = Bytes.ofText (f'.line mepc') := by
    rw [← h.trimmed_eq, ← h'.trimmed_eq, Epitaph.trimmed, Epitaph.trimmed, htext]
  exact FaultHandler.line_injective (Bytes.ofText_injective hbytes)

/-- The address of a fault can always be recovered: whatever was recorded before, the handlers leave their
whole diagnostic and end with their own exit codes, and no two handlers or addresses leave the same text. -/
theorem fault_address_recovered (h : Hart) (hrest : h.desk.AtRest) :
    Diagnosed .defaultIsr h.mepc (@defaultIsr α h) ∧
      (∀ (code : UInt32) arguments, code.toNat = 0 ∨ 5 ≤ code.toNat →
        Diagnosed .defaultIsr h.mepc (h.dispatch code arguments)) ∧
      (∀ mepc, Diagnosed .illegalInstruction mepc (@illegalInstruction α mepc h)) ∧
      ∀ f f' mepc mepc' (out out' : Except Fault α × Hart), Diagnosed f mepc out → Diagnosed f' mepc' out' →
        out.2.desk.epitaph.contents.text = out'.2.desk.epitaph.contents.text → f = f' ∧ mepc = mepc' := by
  refine ⟨diagnosed_die .defaultIsr h.mepc hrest, fun code arguments hcode => ?_, fun mepc => ?_, ?_⟩
  · rw [dispatch_of_fatal hcode]
    have hrest' : (h.record (fatalEvent code)).desk.AtRest := hrest
    exact diagnosed_die .defaultIsr h.mepc hrest'
  · exact diagnosed_die .illegalInstruction mepc hrest
  · intro f f' mepc mepc' out out' hout hout' htext
    exact hout.eq_of_text_eq hout' htext

/-- A hart that has failed before, over a reason too long for the record. -/
def failedAtLength : Hart :=
  { Hart.boot with
    mepc := 0x1c008000
    desk := (Desk.boot.die 5 (.text (String.ofList (List.replicate 200 'x')) .done)).2 }

theorem fault_address_recovered_failedAtLength :
    failedAtLength.desk.AtRest ∧ failedAtLength.desk.epitaph.contents.text = List.replicate 128 120 ∧
      (failedAtLength.dispatch 17 noArguments).1 = .error (.exit (-197)) ∧
      (failedAtLength.dispatch 17 noArguments).2.desk.epitaph.contents.address? = some 0x1c008000 ∧
      (@illegalInstruction UInt32 0x10 failedAtLength).2.desk.epitaph.contents.trimmed =
        Bytes.ofText "illegal_instruction: Error : illegal instruction at 0x10" ∧
      (failedAtLength.dispatch 17 noArguments).2.desk.epitaph.contents.text ≠
        (@illegalInstruction UInt32 0x10 failedAtLength).2.desk.epitaph.contents.text := by
  have hboot : Desk.boot.AtRest := rfl
  have hrest : failedAtLength.desk.AtRest := (hboot.die _ _).1
  obtain ⟨-, hdispatch, hillegal, hdistinct⟩ := @fault_address_recovered UInt32 failedAtLength hrest
  have hunknown := hdispatch 17 noArguments (Or.inr (by decide))
  have hlong : Bytes.ofText (String.ofList (List.replicate 200 'x')) = List.replicate 200 120 := by
    rw [Bytes.ofText_of_ascii, String.toList_ofList, List.map_replicate]
    · rfl
    · intro c hc
      rw [String.toList_ofList] at hc
      rw [List.eq_of_mem_replicate hc]
      decide
  refine ⟨hrest, ?_, hunknown.exits, hunknown.address?_eq, ?_, ?_⟩
  · rw [failedAtLength, hboot.text_die, Message.spoken, Message.spoken, String.append_empty, hlong,
      List.take_replicate, List.length_replicate]
    rfl
  · rw [(hillegal 0x10).trimmed_eq]
    rfl
  · intro htext
    cases (hdistinct _ _ _ _ _ _ hunknown (hillegal 0x10) htext).1

end Hart

end Sallyport
