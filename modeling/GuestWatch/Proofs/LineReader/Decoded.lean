import GuestWatch.Proofs.LineReader.Conservation
import GuestWatch.Proofs.LineReader.Unbroken
import GuestWatch.Proofs.Text.IllFormed

/-! # Decoding lines

Octets may be cut at their line feeds and decoded piece by piece, or decoded at once and cut as
text. Whatever is ill formed before a line feed, the line ends there, and the next line is read as
if nothing had come before it.
-/
namespace GuestWatch

variable {α β : Type}

/-- Parts without the last one, if that is empty. -/
def withoutEmptyEnd (parts : List (List α)) : List (List α) :=
  match parts.getLast? with
  | some [] => parts.dropLast
  | _ => parts

/-- The lines of a text: what stands between its line feeds, without carriage returns at the ends.
What follows the last line feed is a line if it is anything. -/
def textLines (text : String) : List String :=
  (withoutEmptyEnd (text.toList.splitOn '\n')).map fun part =>
    String.ofList (Text.strip (· == '\r') part)

theorem withoutEmptyEnd_cons {part : List α} {parts : List (List α)} (h : parts ≠ []) :
    withoutEmptyEnd (part :: parts) = part :: withoutEmptyEnd parts := by
  obtain ⟨first, rest, rfl⟩ := List.exists_cons_of_ne_nil h
  simp only [withoutEmptyEnd, List.getLast?_cons_cons]
  split <;> simp

theorem withoutEmptyEnd_map {f : List α → List β} (hf : ∀ part, f part = [] ↔ part = [])
    (parts : List (List α)) : withoutEmptyEnd (parts.map f) = (withoutEmptyEnd parts).map f := by
  unfold withoutEmptyEnd
  rw [List.getLast?_map]
  rcases parts.getLast? with _ | _ | ⟨a, part⟩
  · rfl
  · simp [(hf []).mpr rfl]
  · have more : f (a :: part) ≠ [] := by simp [hf]
    simp [more]

/-! ## Pieces -/

variable {bytes : List UInt8}

/-- Octets have no line feed, or one after which they go on in the same way. -/
@[elab_as_elim]
theorem lineInduction {motive : List UInt8 → Prop}
    (last : ∀ piece, lineFeed ∉ piece → motive piece)
    (line : ∀ front back, lineFeed ∉ front → motive back → motive (front ++ lineFeed :: back))
    (bytes : List UInt8) : motive bytes := by
  induction h : bytes.length using Nat.strongRecOn generalizing bytes with
  | ind n ih =>
    by_cases hf : lineFeed ∈ bytes
    · obtain ⟨front, back, rfl, first⟩ := List.eq_append_cons_of_mem hf
      apply line front back first
      apply ih back.length _ back rfl
      simp only [List.length_append, List.length_cons] at h
      omega
    · exact last bytes hf

/-- The pieces of an octet sequence are what stands between its line feeds. -/
theorem pieces_eq (bytes : List UInt8) :
    pieces bytes = withoutEmptyEnd (bytes.splitOn lineFeed) := by
  induction bytes using lineInduction with
  | last piece h =>
    rw [List.splitOn_eq_singleton h]
    by_cases hp : piece = []
    · subst hp
      rfl
    · rw [pieces_of_not_mem h hp]
      simp [withoutEmptyEnd, hp]
  | line front back h ih =>
    rw [pieces_append_lineFeed h, List.splitOn_append_cons_self_of_not_mem h, ih,
      withoutEmptyEnd_cons (List.splitOn_ne_nil _ _)]

/-- It makes no difference whether octets are cut first or decoded first. -/
theorem splitOn_decodeChars (bytes : List UInt8) :
    (Text.Utf8.decodeChars bytes).splitOn '\n' =
      (bytes.splitOn lineFeed).map Text.Utf8.decodeChars := by
  induction bytes using lineInduction with
  | last piece h =>
    rw [List.splitOn_eq_singleton h,
      List.splitOn_eq_singleton (Text.Utf8.newline_not_mem_decodeChars h)]
    rfl
  | line front back h ih =>
    have cut : Text.Utf8.decodeChars (front ++ lineFeed :: back) =
        Text.Utf8.decodeChars front ++ '\n' :: Text.Utf8.decodeChars back :=
      Text.Utf8.decodeChars_append_lineFeed front back
    rw [cut, List.splitOn_append_cons_self_of_not_mem h,
      List.splitOn_append_cons_self_of_not_mem (Text.Utf8.newline_not_mem_decodeChars h), ih]
    rfl

/-- The lines of octets are those of the text that they are decoded to. -/
theorem linesOf_eq (bytes : List UInt8) : linesOf bytes = textLines (Text.Utf8.decode bytes) := by
  have cut : withoutEmptyEnd ((Text.Utf8.decodeChars bytes).splitOn '\n') =
      (pieces bytes).map Text.Utf8.decodeChars := by
    rw [splitOn_decodeChars, pieces_eq]
    exact withoutEmptyEnd_map (fun part => Text.Utf8.decodeChars_eq_nil) _
  rw [textLines, Text.Utf8.decode, String.toList_ofList, cut, List.map_map]
  rfl

namespace LineReader

variable {r r' : LineReader} {answers : List Reading} {waits : List Nat} {line : String}

/-- Whatever a source does, no line that reads give has a line feed. -/
theorem reads_unbroken (h : lineFeed ∉ r.pending) (hr : r.reads waits = (answers, r'))
    (hl : .ok (some line) ∈ answers) : '\n' ∉ line.toList := by
  induction waits generalizing r answers with
  | nil =>
    cases hr
    simp at hl
  | cons wait waits ih =>
    obtain ⟨answer, took, next, later, hn, hw, rfl⟩ := reads_cons hr
    have unbroken := nextLine_unbroken h hn
    rcases List.mem_cons.mp hl with first | hl
    · exact unbroken.line line first.symm
    · exact ih unbroken.pending hw hl

/-- Octets are decoded with one replacement character for each maximal ill-formed piece, and
decoding them goes with cutting them into lines: it does not matter which comes first, and a line
feed ends a line whatever stands before it. What reads of these octets give are the lines of the
text, from the first on and all of them when the end is reached, however the octets arrive. Octets
that encode a text are that text. No line has a line feed. -/
theorem reads_decode (bytes : List UInt8) :
    (∀ cs, Text.Utf8.Reads bytes cs ↔ Text.Utf8.decodeChars bytes = cs) ∧
    (bytes.splitOn lineFeed).map Text.Utf8.decode =
      ((Text.Utf8.decode bytes).toList.splitOn '\n').map String.ofList ∧
    (∀ front back, bytes = front ++ lineFeed :: back → Text.Utf8.decode bytes =
      Text.Utf8.decode front ++ "\n" ++ Text.Utf8.decode back) ∧
    (∀ s : Stream, s.octets = bytes → Event.ending ∉ s → ∀ waits, ∃ answers r,
      (ofStream s).reads waits = (answers, r) ∧
      Reading.lines answers <+: textLines (Text.Utf8.decode bytes) ∧
      ∀ i, answers[i]? = some (.error .streamClosed) →
        Reading.lines (answers.take i) = textLines (Text.Utf8.decode bytes)) ∧
    (∀ text, bytes = Text.Utf8.encode text → Text.Utf8.decode bytes = text) ∧
    ∀ (s : Stream) waits line, .ok (some line) ∈ ((ofStream s).reads waits).1 →
      '\n' ∉ line.toList := by
  refine ⟨fun cs => Text.Utf8.reads_iff, ?_, ?_, ?_, ?_, ?_⟩
  · rw [Text.Utf8.decode, String.toList_ofList, splitOn_decodeChars, List.map_map]
    rfl
  · rintro front back rfl
    apply String.toList_injective
    simp [Text.Utf8.decode, lineFeed, Text.Utf8.decodeChars_append_lineFeed]
  · rintro s rfl endless waits
    obtain ⟨answers, r, hr, lines, -, -, closed, -⟩ := reads_conserve endless waits
    refine ⟨answers, r, hr, ?_, ?_⟩
    · rw [← linesOf_eq, lines]
      exact List.prefix_append _ _
    · intro i hi
      rw [← linesOf_eq]
      exact (closed i hi).1
  · rintro text rfl
    exact Text.Utf8.decode_encode text
  · intro s waits line hl
    exact reads_unbroken (r := ofStream s) List.not_mem_nil rfl hl

/-- Two octets of a character that is never finished, a line feed, and an octet that fits nowhere:
one replacement character each. -/
theorem reads_decode_truncated :
    ∃ r, (ofStream [.bytes [0x61, 0xE2, 0x82], .delay 5, .bytes [0x0A, 0x80, 0x62]]).reads
        [3, 2, 0, 0] =
          ([.ok none, .ok (some "a\uFFFD"), .ok (some "\uFFFDb"), .error .streamClosed], r) ∧
      textLines (Text.Utf8.decode [0x61, 0xE2, 0x82, 0x0A, 0x80, 0x62]) =
        ["a\uFFFD", "\uFFFDb"] ∧ '\n' ∉ "a\uFFFD".toList := by
  obtain ⟨-, -, -, reads, -, unbroken⟩ := reads_decode [0x61, 0xE2, 0x82, 0x0A, 0x80, 0x62]
  obtain ⟨answers, r, h, -, closed⟩ :=
    reads [.bytes [0x61, 0xE2, 0x82], .delay 5, .bytes [0x0A, 0x80, 0x62]] rfl (by simp)
      [3, 2, 0, 0]
  obtain rfl : answers = [.ok none, .ok (some "a\uFFFD"), .ok (some "\uFFFDb"),
      .error .streamClosed] := (congrArg Prod.fst h).symm
  refine ⟨r, h, (closed 3 rfl).symm, ?_⟩
  exact unbroken [.bytes [0x61, 0xE2, 0x82], .delay 5, .bytes [0x0A, 0x80, 0x62]] [3, 2, 0, 0] _
    (by rw [h]; simp)

end LineReader

end GuestWatch
