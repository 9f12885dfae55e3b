import GuestWatch.Proofs.LineReader.Reading
import GuestWatch.Proofs.Text.Stripped

/-! # Lines are unbroken

No line that a reader gives has a line feed in it, whatever its source does: what it keeps of a
line that is not finished never has one.
-/
namespace GuestWatch

variable {piece : List UInt8}

theorem newline_not_mem_pieceText (h : lineFeed ∉ piece) : '\n' ∉ (pieceText piece).toList := by
  rw [pieceText, String.toList_ofList]
  exact fun hm => Text.Utf8.newline_not_mem_decodeChars h (Text.mem_of_mem_strip hm)

theorem newline_not_mem_lineText (h : lineFeed ∉ piece) : '\n' ∉ (lineText piece).toList :=
  lineText_of_not_mem h ▸ newline_not_mem_pieceText h

namespace LineReader

variable {took wait : Nat} {r r' : LineReader} {answer : Reading}

/-- What a read gives if it keeps lines unbroken: no line feed is in the line or in what is kept of
the next. -/
structure Unbroken (answer : Reading) (r : LineReader) : Prop where
  line : ∀ line, answer = .ok (some line) → '\n' ∉ line.toList
  pending : lineFeed ∉ r.pending

theorem nextLine_unbroken (h : lineFeed ∉ r.pending)
    (hr : r.nextLine wait = (answer, took, r')) : Unbroken answer r' := by
  cases opened : r.closed with
  | true =>
    rw [nextLine_closed opened] at hr
    cases hr
    exact ⟨by simp, h⟩
  | false =>
    obtain ⟨before, s, -, passed, ended⟩ := nextLine_ended opened wait
    have whole : lineFeed ∉ r.pending ++ before.octets := by simp [h, passed.unfinished]
    rw [hr] at ended
    cases ended with
    | line hf =>
      have line := List.not_mem_append whole hf
      rw [lineText_append_lineFeed line]
      exact ⟨by simpa using newline_not_mem_pieceText line, List.not_mem_nil⟩
    | finished => exact ⟨by simpa using newline_not_mem_lineText whole, List.not_mem_nil⟩
    | last => exact ⟨by simpa using newline_not_mem_lineText h, List.not_mem_nil⟩
    | failed | late | hung => exact ⟨by simp, whole⟩
    | closed => exact ⟨by simp, List.not_mem_nil⟩

end LineReader

end GuestWatch
