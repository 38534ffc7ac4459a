/-
A text written in pieces. Wherever it is cut, a buffer is left with as much of the text as there is room
for, and no write in memory goes past its end. The pen in memory does what the scribe does
(`Pen.write?_following`), and the scribe has a closed form (`Scribe.write_after`).
-/
import Sallyport.Epitaph.Pen
import Sallyport.Proofs.Epitaph.Record

namespace Sallyport

/-! ## Texts in pieces -/

namespace Bytes

theorem ofText_foldl_append (pieces : List String) (s : String) :
    ofText (pieces.foldl (· ++ ·) s) = ofText s ++ pieces.flatMap ofText := by
  induction pieces generalizing s with
  | nil => simp
  | cons piece pieces ih => rw [List.foldl_cons, ih, ofText_append, List.flatMap_cons, List.append_assoc]

theorem ofText_join (pieces : List String) : ofText (String.join pieces) = pieces.flatMap ofText := by
  rw [String.join, ofText_foldl_append, ofText_empty, List.nil_append]

end Bytes

namespace Scribe

theorem write_eq (s : Scribe) (piece : List UInt8) :
    s.write piece = ⟨s.written ++ piece.take (min piece.length s.room.length),
      s.room.drop (min piece.length s.room.length)⟩ := by
  rw [write, List.take_eq_take_min, Nat.min_comm, List.drop_eq_drop_min]

/-- Writes pieces of text one after another. -/
def writeAll (s : Scribe) (pieces : List String) : Scribe :=
  pieces.foldl (fun s piece => s.write (Bytes.ofText piece)) s

theorem writeAll_after (buffer text : List UInt8) (pieces : List String) :
    (after buffer text).writeAll pieces = after buffer (text ++ Bytes.ofText (String.join pieces)) := by
  rw [Bytes.ofText_join]
  induction pieces generalizing text with
  | nil => rw [List.flatMap_nil, List.append_nil]; rfl
  | cons piece pieces ih =>
    rw [List.flatMap_cons, ← List.append_assoc, ← ih, ← write_after]
    rfl

theorem writeAll_onto (buffer : List UInt8) (pieces : List String) :
    (onto buffer).writeAll pieces = after buffer (Bytes.ofText (String.join pieces)) := by
  rw [onto_eq, writeAll_after, List.nil_append]

theorem buffer_after_eq (buffer text : List UInt8) : (after buffer text).buffer =
    text.take (min buffer.length text.length) ++ buffer.drop (min buffer.length text.length) := by
  rw [buffer_after, List.take_eq_take_min, List.drop_eq_drop_min, Nat.min_comm text.length]

end Scribe

/-! ## Writing in memory -/

/-- A copy over a stretch changes the memory there and nowhere else. -/
theorem Stretch.copy?_eq {old bytes : List UInt8} (h : bytes.length = old.length) (front back : List UInt8) :
    (⟨front.length, old.length⟩ : Stretch).copy? bytes (front ++ old ++ back) = some (front ++ bytes ++ back) := by
  have hfits : front.length + old.length ≤ (front ++ old ++ back).length := by
    simp only [List.length_append]
    omega
  have hfront : (front ++ old ++ back).take front.length = front := by
    rw [List.append_assoc, List.take_left]
  have hback : (front ++ old ++ back).drop (front.length + old.length) = back := by
    rw [← List.length_append, List.drop_left]
  unfold copy?
  rw [if_pos ⟨h, hfits⟩, hfront, hback]

namespace Pen

/-- A pen that follows a scribe: on its buffer, at the place where the next piece goes. -/
def following (before : List UInt8) (s : Scribe) (behind : List UInt8) : Pen :=
  ⟨before ++ s.buffer ++ behind, ⟨before.length + s.written.length, s.room.length⟩⟩

/-- Every write comes back, and does in memory what the scribe does. -/
theorem write?_following (before : List UInt8) (s : Scribe) (behind piece : List UInt8) :
    (following before s behind).write? piece = some (following before (s.write piece) behind) := by
  rw [Scribe.write_eq]
  obtain ⟨written, room⟩ := s
  dsimp only
  generalize hcount : min piece.length room.length = count
  have hpiece : count ≤ piece.length := hcount ▸ Nat.min_le_left ..
  have hroom : count ≤ room.length := hcount ▸ Nat.min_le_right ..
  -- The stretch that is copied over is the beginning of the room, as long as that of the piece.
  have hlength : (piece.take count).length = (room.take count).length := by
    rw [List.length_take_of_le hpiece, List.length_take_of_le hroom]
  have hcopy : (⟨before.length + written.length, count⟩ : Stretch).copy? (piece.take count)
      (before ++ (written ++ room) ++ behind) =
        some (before ++ (written ++ piece.take count ++ room.drop count) ++ behind) := by
    have hover := Stretch.copy?_eq hlength (before ++ written) (room.drop count ++ behind)
    rw [List.length_append, List.length_take_of_le hroom] at hover
    have hmemory : before ++ (written ++ room) ++ behind =
        before ++ written ++ room.take count ++ (room.drop count ++ behind) := by
      simp only [List.append_assoc, ← List.append_assoc (room.take count), List.take_append_drop]
    rw [hmemory, hover]
    simp only [List.append_assoc]
  simp only [write?, following, Scribe.buffer, hcount, Stretch.cut?, beginning?, if_pos hpiece, if_pos hroom,
    Option.bind_eq_bind, Option.bind_some, hcopy, List.length_append, List.length_take_of_le hpiece, List.length_drop,
    Nat.add_assoc]
  rfl

theorem writeAll?_following (before : List UInt8) (s : Scribe) (behind : List UInt8) (pieces : List String) :
    (following before s behind).writeAll? pieces = some (following before (s.writeAll pieces) behind) := by
  induction pieces generalizing s with
  | nil => rfl
  | cons piece pieces ih =>
    show (((following before s behind).write? (Bytes.ofText piece)).bind fun p => p.writeAll? pieces) = _
    rw [write?_following, Option.bind_some, ih]
    rfl

theorem following_after (before buffer behind text : List UInt8) :
    following before (Scribe.after buffer text) behind =
      ⟨before ++ (Scribe.after buffer text).buffer ++ behind,
        ⟨before.length + min buffer.length text.length, buffer.length - min buffer.length text.length⟩⟩ := by
  have hwritten : (text.take buffer.length).length = min buffer.length text.length := List.length_take
  have hroom : (buffer.drop text.length).length = buffer.length - min buffer.length text.length := by
    rw [List.drop_eq_drop_min, List.length_drop, Nat.min_comm]
  rw [following, Scribe.after]
  dsimp only
  rw [hwritten, hroom]

theorem writeAll?_onto (before buffer behind : List UInt8) (pieces : List String) :
    (onto before buffer behind).writeAll? pieces =
      some (following before (Scribe.after buffer (Bytes.ofText (String.join pieces))) behind) := by
  show (following before (Scribe.onto buffer) behind).writeAll? pieces = _
  rw [writeAll?_following, Scribe.writeAll_onto]

/-- However a text is cut into pieces, a buffer is left with as much of it as there is room for, and behind
that it is as it was, like the memory around it. Other pieces of the same text leave the same. -/
theorem pieces_leave_beginning_of_text (before buffer behind : List UInt8) (pieces : List String) :
    let text := Bytes.ofText (String.join pieces)
    let kept := min buffer.length text.length
    let left := ((Scribe.onto buffer).writeAll pieces).buffer
    left.length = buffer.length ∧ left.take kept = text.take kept ∧ left.drop kept = buffer.drop kept ∧
      (onto before buffer behind).writeAll? pieces =
        some ⟨before ++ left ++ behind, ⟨before.length + kept, buffer.length - kept⟩⟩ ∧
      ∀ pieces', String.join pieces' = String.join pieces →
        (Scribe.onto buffer).writeAll pieces' = (Scribe.onto buffer).writeAll pieces ∧
          (onto before buffer behind).writeAll? pieces' = (onto before buffer behind).writeAll? pieces := by
  intro text kept left
  have hleft : left = text.take kept ++ buffer.drop kept := by
    show ((Scribe.onto buffer).writeAll pieces).buffer = _
    rw [Scribe.writeAll_onto, Scribe.buffer_after_eq]
  have hkept : (text.take kept).length = kept := List.length_take_of_le (Nat.min_le_right ..)
  refine ⟨?_, ?_, ?_, ?_, fun pieces' h => ⟨?_, ?_⟩⟩
  · rw [hleft, List.length_append, hkept, List.length_drop]
    exact Nat.add_sub_cancel' (Nat.min_le_left ..)
  · rw [hleft, List.take_left' hkept]
  · rw [hleft, List.drop_left' hkept]
  · rw [writeAll?_onto, following_after, ← Scribe.writeAll_onto]
  · rw [Scribe.writeAll_onto, Scribe.writeAll_onto, h]
  · rw [writeAll?_onto, writeAll?_onto, h]

/-- The second of three pieces is empty, and the last does not fit. -/
example : (onto [9] [0, 0, 0, 0] [9]).writeAll? ["abc", "", "def"] = some ⟨[9, 97, 98, 99, 100, 9], ⟨5, 0⟩⟩ := by cbv

end Pen

end Sallyport
