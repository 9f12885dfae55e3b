import GuestWatch.Proofs.Json.Printed
import GuestWatch.Proofs.Json.Unambiguous
import GuestWatch.Proofs.Text.Numerals
import GuestWatch.Session

/-! # What reports say

The written form of a report is a document, and it says all that the report has but the stages: no
two reports with different contents are written alike. It has a line for each of its members, and
one for each line of the output.
-/
namespace GuestWatch

open Json (Datum IsDocument Value quoteChars)

namespace Status

theorem key_inj {s t : Status} : s.key = t.key ↔ s = t := by
  cases s <;> cases t <;> decide

theorem exitCode_inj {s t : Status} : s.exitCode = t.exitCode ↔ s = t := by
  cases s <;> cases t <;> decide

end Status

namespace Json.Datum

theorem natural_inj {m n : Nat} : natural m = natural n ↔ m = n := by
  rw [natural, natural, number.injEq]
  exact ⟨Text.Decimal.eq_of_digits_eq, congrArg Text.Decimal.digits⟩

theorem ofText?_inj {s t : Option String} : ofText? s = ofText? t ↔ s = t := by
  cases s <;> cases t <;> simp [ofText?]

theorem texts_inj {ls ms : List String} : texts ls = texts ms ↔ ls = ms := by
  rw [texts, texts, list.injEq]
  exact List.map_inj_right fun _ _ => text.inj

end Json.Datum

namespace Report

/-- What the written form of a report says. -/
def datum (r : Report) : Datum :=
  .object [("guest", .text r.guest), ("status", .text r.status.key),
    ("exit_code", .natural r.exitCode), ("message", .ofText? r.message),
    ("output", .texts r.output), ("elapsed_ms", .ofUInt64 r.elapsedMs)]

theorem means (r : Report) : r.toValue.Means r.datum :=
  .object (.cons .text (.cons .text (.cons .natural (.cons (Json.Value.means_ofText? r.message)
    (.cons (Json.Value.means_texts r.output) (.cons .natural .nil))))))

/-- The written form says this and nothing else, with or without a line feed after it. -/
theorem isDocument_text_append {r : Report} {ending : String} (h : ending ∈ ["", "\n"])
    {d : Datum} : IsDocument (r.text ++ ending).toList d ↔ d = r.datum := by
  have blanks : ∀ ending ∈ ["", "\n"], Json.Grammar.Blanks ending.toList [] := by
    simp only [List.forall_mem_cons]
    exact ⟨.done, .blank (by decide) .done, by simp⟩
  have document : IsDocument (r.text ++ ending).toList r.datum := by
    rw [String.toList_append, text, Json.Value.pretty, String.toList_ofList]
    exact r.means.isDocument_append _ (blanks _ h)
  constructor
  · intro h
    exact h.unique document
  · rintro rfl
    exact document

theorem isDocument_text {r : Report} {d : Datum} : IsDocument r.text.toList d ↔ d = r.datum := by
  rw [← String.append_empty (s := r.text)]
  exact isDocument_text_append (by simp)

/-! ## The lines of the written form -/

/-- A text as it is written, with its quotation marks. -/
def quoted (s : String) : String := String.ofList (quoteChars s)

/-- The lines of a list of texts, with a comma after each but the last. -/
def itemLines : List String → List String
  | [] => []
  | [line] => ["    " ++ quoted line]
  | line :: rest => ("    " ++ quoted line ++ ",") :: itemLines rest

/-- The lines that say the output. -/
def outputLines : List String → List String
  | [] => ["  \"output\": [],"]
  | output => "  \"output\": [" :: itemLines output ++ ["  ],"]

/-- The lines of a report, with two blanks before its members and four before its output. -/
def lines (r : Report) : List String :=
  ["\x7b",
    "  \"guest\": " ++ quoted r.guest ++ ",",
    "  \"status\": " ++ quoted r.status.key ++ ",",
    "  \"exit_code\": " ++ Text.Decimal.text r.exitCode ++ ",",
    "  \"message\": " ++ (r.message.map quoted).getD "null" ++ ","] ++
  outputLines r.output ++
  ["  \"elapsed_ms\": " ++ Text.Decimal.text r.elapsedMs.toNat,
    "\x7d"]

theorem itemLines_ne_nil (line : String) (rest : List String) : itemLines (line :: rest) ≠ [] := by
  cases rest <;> simp [itemLines]

theorem intercalate_itemLines (line : String) (rest : List String) :
    "\n".intercalate (itemLines (line :: rest)) =
      "    " ++ quoted line ++ String.join (rest.map fun next => ",\n    " ++ quoted next) := by
  induction rest generalizing line with
  | nil => simp [itemLines]
  | cons next rest ih =>
    have first : itemLines (line :: next :: rest) =
        ("    " ++ quoted line ++ ",") :: itemLines (next :: rest) := rfl
    rw [first, String.intercalate_cons_of_ne_nil (itemLines_ne_nil next rest), ih]
    simp [← String.toList_inj]

theorem moreItems_texts (rest : List String) : Value.moreItems (.pretty 1) (rest.map .text) =
    (String.join (rest.map fun next => ",\n    " ++ quoted next) ++ "\n  ]").toList := by
  induction rest with
  | nil => rfl
  | cons next rest ih =>
    rw [List.map_cons, Value.moreItems, ih]
    simp [Value.chars, Value.Layout.inner, Value.Layout.lineStart, quoted]

theorem intercalate_outputLines (output : List String) : "\n".intercalate (outputLines output) =
    "  \"output\": " ++ String.ofList ((Value.texts output).chars (.pretty 1)) ++ "," := by
  cases output with
  | nil => rfl
  | cons line rest =>
    have parts : outputLines (line :: rest) =
        "  \"output\": [" :: (itemLines (line :: rest) ++ ["  ],"]) := rfl
    rw [parts, String.intercalate_cons_of_ne_nil (by simp),
      String.intercalate_append_of_ne_nil (itemLines_ne_nil line rest) (by simp),
      intercalate_itemLines, Value.texts, List.map_cons, Value.chars, moreItems_texts]
    simp [← String.toList_inj, Value.Layout.inner, Value.Layout.lineStart, Value.chars, quoted]

/-- The written form is these lines, without a line feed after the last. -/
theorem text_eq_lines (r : Report) : r.text = "\n".intercalate r.lines := by
  have message : String.ofList ((Value.ofText? r.message).chars (.pretty 1)) =
      (r.message.map quoted).getD "null" := by cases r.message <;> rfl
  have output : outputLines r.output ≠ [] := by cases r.output <;> simp [outputLines]
  rw [lines, String.intercalate_append_of_ne_nil (by simp) (by simp),
    String.intercalate_append_of_ne_nil (by simp) output, intercalate_outputLines, ← message]
  simp [← String.toList_inj, text, toValue, Value.pretty, Value.chars, Value.moreMembers,
    Value.Layout.inner, Value.Layout.lineStart, Value.Layout.colon, Value.natural,
    Json.Number.text, quoted, quoteChars, Json.escape, Json.controlLetter?]

/-! ## What the written form tells -/

theorem eq_of_datum_eq {r r' : Report} (h : r'.datum = r.datum) : r'.withStages r.stages = r := by
  simp only [datum, Datum.object.injEq, List.cons.injEq, Prod.mk.injEq, Datum.text.injEq, true_and,
    and_true, Status.key_inj, Datum.ofText?_inj, Datum.texts_inj, Datum.ofUInt64,
    Datum.natural_inj] at h
  obtain ⟨guest, status, -, message, output, elapsedMs⟩ := h
  rw [withStages, guest, status, message, output, UInt64.toNat_inj.mp elapsedMs]

theorem eq_of_text_eq {r r' : Report} (h : r'.text = r.text) : r'.withStages r.stages = r := by
  have document : IsDocument r'.text.toList r'.datum := isDocument_text.mpr rfl
  rw [h] at document
  exact eq_of_datum_eq (isDocument_text.mp document)

/-- What is printed of a report and what is written of it to a file are documents that say the
guest, the outcome with its exit code, the message if there is one, the lines and the time, in this
order, and nothing else. Reports that are written alike have all of this in common. -/
theorem reported_lossless (r : Report) (s : Settings) :
    (s.json = true → ∀ d, IsDocument (Session.reported s r).output.toList d ↔ d = r.datum) ∧
    (∀ path, s.report = some path → ∃ text, (Session.reported s r).file = some (path, text) ∧
      ∀ d, IsDocument text.toList d ↔ d = r.datum) ∧
    (Datum.ofText? r.message = .null ↔ r.message = none) ∧
    (∀ t : Status, (t.key = r.status.key ↔ t = r.status) ∧
      (t.exitCode = r.exitCode ↔ t = r.status)) ∧
    ∀ r' : Report, r'.text = r.text → r'.withStages r.stages = r := by
  refine ⟨fun json d => ?_, fun path file => ⟨r.text, ?_, fun d => isDocument_text⟩, ?_,
    fun t => ⟨Status.key_inj, Status.exitCode_inj⟩, fun r' => eq_of_text_eq⟩
  · have printed : (Session.reported s r).output = r.text ++ "\n" := if_pos json
    rw [printed]
    exact isDocument_text_append (by simp)
  · simp only [Session.reported, file, Option.map_some]
  · exact Datum.ofText?_inj (t := none)

end Report

end GuestWatch
