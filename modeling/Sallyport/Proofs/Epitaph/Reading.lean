/-
What a debugger reads of a failure: the kept bytes of the reason without the null bytes behind them. It
is a text, and then the beginning of the reason, just if no character was broken off.
-/
import Sallyport.Proofs.Epitaph.Record

namespace Sallyport

namespace Desk

/-- What is read after a failure is the first 128 bytes of the reason: whole characters, and behind them maybe
fewer bytes of the next one than it has. It is a text, and then the beginning of the reason, iff no such bytes
are there. -/
theorem reading_is_text_unless_broken_off {d : Desk} (h : d.AtRest) (code : Int32) (reason : Message)
    (hnull : '\x00' ∉ reason.spoken.toList) :
    let message := reason.spoken
    let reading := (d.die code reason).2.epitaph.contents.trimmed
    reading = (Bytes.ofText message).take 128 ∧
    (∀ t, Bytes.toText? reading = some t ↔
      (∃ rest, message = t ++ rest) ∧ (Bytes.ofText t).length = min 128 (Bytes.ofText message).length) ∧
    ∃ front rest fragment, message = front ++ rest ∧ reading = Bytes.ofText front ++ fragment ∧
      Bytes.BrokenOff rest.toList fragment ∧
      Bytes.toText? reading = if fragment = [] then some front else none := by
  intro message reading
  have hreading : reading = (Bytes.ofText message).take 128 := h.trimmed_die code (Bytes.zero_notMem_ofText hnull)
  obtain ⟨front, rest, fragment, hmessage, htake, hbroken⟩ := Bytes.exists_take_ofText message 128
  refine ⟨hreading, fun t => ?_, front, rest, fragment, hmessage, hreading.trans htake, hbroken, ?_⟩
  · rw [hreading]
    exact Bytes.toText?_take_iff
  · rw [hreading, htake]
    exact Bytes.toText?_append_brokenOff hbroken front

/-- A reason of which the first 128 bytes end with the answer to its question. -/
def wholeReason : Message :=
  .text "éééééééééééééééééééééééééééééééééééééééééééééééééééééééééééééé" (.probe (.text "é" .done))

theorem wholeReason_is_read_as_text :
    boot.AtRest ∧ '\x00' ∉ wholeReason.spoken.toList ∧
      Bytes.toText? (boot.die (-5) wholeReason).2.epitaph.contents.trimmed =
        some "éééééééééééééééééééééééééééééééééééééééééééééééééééééééééééééétrue" := by
  have hrest : boot.AtRest := rfl
  have hnull : '\x00' ∉ wholeReason.spoken.toList := by decide +kernel
  obtain ⟨-, hread, -⟩ := reading_is_text_unless_broken_off hrest (-5) wholeReason hnull
  exact ⟨hrest, hnull, (hread _).2 ⟨⟨"é", by decide +kernel⟩, by decide +kernel⟩⟩

/-- A reason of 129 bytes, of which the last two are one character. -/
def splitReason : Message :=
  .text "x" (.text "éééééééééééééééééééééééééééééééééééééééééééééééééééééééééééééééé" .done)

/-- The first byte of that character is kept and the second is not: what is left is no text. -/
theorem splitReason_is_no_text :
    '\x00' ∉ splitReason.spoken.toList ∧
      Bytes.toText? (boot.die (-1) splitReason).2.epitaph.contents.trimmed = none := by
  decide +kernel

end Desk

end Sallyport
