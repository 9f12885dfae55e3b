import GuestWatch.LineReader
import GuestWatch.Proofs.Text.LineFeeds

/-! # The lines of an octet sequence

Octets are cut at their line feeds, and each piece is read on its own. Cutting can stop anywhere
and go on later, as long as the octets of the unfinished piece are kept.
-/
namespace GuestWatch

/-- The octets between line feeds. What follows the last line feed is a piece if it is anything. -/
def pieces : List UInt8 → List (List UInt8)
  | [] => []
  | b :: bytes =>
    if b = lineFeed then [] :: pieces bytes
    else
      match pieces bytes with
      | [] => [[b]]
      | piece :: rest => (b :: piece) :: rest

/-- The text of a piece, without carriage returns at its ends. -/
def pieceText (piece : List UInt8) : String :=
  String.ofList (Text.strip (· == '\r') (Text.Utf8.decodeChars piece))

/-- The lines of an octet sequence. -/
def linesOf (bytes : List UInt8) : List String := (pieces bytes).map pieceText

variable {front back pending piece data : List UInt8}

theorem pieces_append_lineFeed (h : lineFeed ∉ front) (back : List UInt8) :
    pieces (front ++ lineFeed :: back) = front :: pieces back := by
  induction front with
  | nil => simp [pieces]
  | cons b front ih =>
    have hb : b ≠ lineFeed := (List.ne_of_not_mem_cons h).symm
    simp only [List.cons_append, pieces, if_neg hb, ih (List.not_mem_of_not_mem_cons h)]

theorem pieces_of_not_mem (h : lineFeed ∉ piece) (hp : piece ≠ []) : pieces piece = [piece] := by
  induction piece with
  | nil => contradiction
  | cons b piece ih =>
    have hb : b ≠ lineFeed := (List.ne_of_not_mem_cons h).symm
    rcases piece with _ | ⟨b', rest⟩
    · simp [pieces, hb]
    · rw [pieces, if_neg hb, ih (List.not_mem_of_not_mem_cons h) (by simp)]

/-- What octets finish when they come after those of an unfinished piece: the finished pieces, and
the piece that is then unfinished. -/
def finish (pending : List UInt8) : List UInt8 → List (List UInt8) × List UInt8
  | [] => ([], pending)
  | b :: bytes =>
    if b = lineFeed then (pending :: (finish [] bytes).1, (finish [] bytes).2)
    else finish (pending ++ [b]) bytes

theorem finish_of_not_mem (h : lineFeed ∉ data) : finish pending data = ([], pending ++ data) := by
  induction data generalizing pending with
  | nil => simp [finish]
  | cons b data ih =>
    have hb : b ≠ lineFeed := (List.ne_of_not_mem_cons h).symm
    rw [finish, if_neg hb, ih (List.not_mem_of_not_mem_cons h), List.append_assoc,
      List.singleton_append]

theorem finish_append_lineFeed (h : lineFeed ∉ front) (back : List UInt8) :
    finish pending (front ++ lineFeed :: back) =
      ((pending ++ front) :: (finish [] back).1, (finish [] back).2) := by
  induction front generalizing pending with
  | nil => simp [finish]
  | cons b front ih =>
    have hb : b ≠ lineFeed := (List.ne_of_not_mem_cons h).symm
    rw [List.cons_append, finish, if_neg hb, ih (List.not_mem_of_not_mem_cons h),
      List.append_assoc, List.singleton_append]

theorem lineFeed_not_mem_append (hp : lineFeed ∉ pending) {b : UInt8} (hb : b ≠ lineFeed) :
    lineFeed ∉ pending ++ [b] := by simp [hp, hb.symm]

theorem finish_rest (h : lineFeed ∉ pending) : lineFeed ∉ (finish pending data).2 := by
  induction data generalizing pending with
  | nil => exact h
  | cons b data ih =>
    by_cases hb : b = lineFeed
    · simpa [finish, hb] using ih List.not_mem_nil
    · simpa [finish, hb] using ih (lineFeed_not_mem_append h hb)

/-- The pieces of a sequence are those that its beginning finishes, then those of the rest. -/
theorem pieces_finish (h : lineFeed ∉ pending) (rest : List UInt8) :
    pieces (pending ++ (data ++ rest)) =
      (finish pending data).1 ++ pieces ((finish pending data).2 ++ rest) := by
  induction data generalizing pending with
  | nil => simp [finish]
  | cons b data ih =>
    by_cases hb : b = lineFeed
    · subst hb
      have := ih List.not_mem_nil
      simp only [List.nil_append] at this
      simp only [List.cons_append, pieces_append_lineFeed h, finish, if_true, this]
    · have := ih (lineFeed_not_mem_append h hb)
      simpa only [finish, if_neg hb, List.append_assoc, List.cons_append,
        List.nil_append] using this

theorem finish_append (pending data more : List UInt8) :
    finish pending (data ++ more) =
      ((finish pending data).1 ++ (finish (finish pending data).2 more).1,
        (finish (finish pending data).2 more).2) := by
  induction data generalizing pending with
  | nil => simp [finish]
  | cons b data ih => by_cases hb : b = lineFeed <;> simp [finish, hb, ih]

/-- Octets that end with a line feed leave no piece unfinished. -/
theorem finish_lineFeed (pending data : List UInt8) :
    (finish pending (data ++ [lineFeed])).2 = [] := by
  rw [finish_append]
  simp [finish]

theorem linesOf_append_lineFeed (h : lineFeed ∉ front) (back : List UInt8) :
    linesOf (front ++ lineFeed :: back) = pieceText front :: linesOf back := by
  rw [linesOf, pieces_append_lineFeed h]
  rfl

theorem linesOf_finish (h : lineFeed ∉ pending) (data : List UInt8) :
    linesOf (pending ++ data) =
      (finish pending data).1.map pieceText ++ linesOf (finish pending data).2 := by
  have cut : pieces (pending ++ (data ++ [])) =
      (finish pending data).1 ++ pieces ((finish pending data).2 ++ []) := pieces_finish h []
  rw [List.append_nil, List.append_nil] at cut
  rw [linesOf, cut, List.map_append, linesOf]

namespace LineReader

theorem cut?_of_not_mem (h : lineFeed ∉ data) : cut? data = none := by
  induction data with
  | nil => rfl
  | cons b data ih =>
    have hb : b ≠ lineFeed := (List.ne_of_not_mem_cons h).symm
    simp [cut?, hb, ih (List.not_mem_of_not_mem_cons h)]

theorem cut?_append_lineFeed (h : lineFeed ∉ front) (back : List UInt8) :
    cut? (front ++ lineFeed :: back) = some (front ++ [lineFeed], back) := by
  induction front with
  | nil => simp [cut?]
  | cons b front ih =>
    have hb : b ≠ lineFeed := (List.ne_of_not_mem_cons h).symm
    simp [cut?, hb, ih (List.not_mem_of_not_mem_cons h)]

end LineReader

theorem newline_not_mem (h : lineFeed ∉ piece) :
    ∀ c ∈ Text.Utf8.decodeChars piece, (c == '\n' || c == '\r') = (c == '\r') := by
  intro c hc
  have hn : c ≠ '\n' := fun hn => Text.Utf8.newline_not_mem_decodeChars h (hn ▸ hc)
  simp [hn]

theorem lineText_of_not_mem (h : lineFeed ∉ piece) : lineText piece = pieceText piece := by
  simp only [lineText, pieceText, Text.dropTail_congr (newline_not_mem h),
    Text.dropWhile_dropTail]

theorem lineText_append_lineFeed (h : lineFeed ∉ piece) :
    lineText (piece ++ [lineFeed]) = pieceText piece := by
  have hd : Text.Utf8.decodeChars (piece ++ [lineFeed]) =
      Text.Utf8.decodeChars piece ++ ['\n'] := Text.Utf8.decodeChars_append_lineFeed piece []
  have hc : Text.dropTail (fun c => c == '\n' || c == '\r')
      (Text.Utf8.decodeChars piece ++ ['\n']) =
        Text.dropTail (fun c => c == '\n' || c == '\r') (Text.Utf8.decodeChars piece) :=
    Text.dropTail_append_singleton rfl _
  rw [← lineText_of_not_mem h]
  simp only [lineText, hd, hc]

end GuestWatch
