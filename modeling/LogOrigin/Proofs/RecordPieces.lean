import LogOrigin.Proofs.JsonTokens
import LogOrigin.Sink.JsonLines

/-!
# Texts of records in pieces

The pieces of a record make up its text, though its time comes in the parts in which it is written
(`LogRecord.flatten_pieces`). Which pieces these are is up to those who write texts and times down.
A chopping is any way to hand a text on that begins with its opening brace
(`LogRecord.Chopping`).
-/

namespace LogOrigin

/-! ## Parts of a text -/

namespace Text

theorem bytesOf_eq (s : String) : bytesOf s = s.toList.flatMap String.utf8EncodeChar := by
  rw [← bytesOf_ofList, String.ofList_toList]

theorem flatMap_characters (cs : List Char) :
    (characters cs).flatMap bytesOf = cs.flatMap String.utf8EncodeChar := by
  have hone : ∀ c, bytesOf (String.singleton c) = String.utf8EncodeChar c := by
    intro c
    rw [bytesOf_eq, String.toList_singleton, List.flatMap_singleton]
  rw [characters, List.flatMap_map]
  simp only [hone]

/-- A mark, zeros and digits are all of a number behind a mark. -/
theorem flatMap_markedParts (cs : List Char) :
    (markedParts cs).flatMap bytesOf = cs.flatMap String.utf8EncodeChar := by
  cases cs with
  | nil => rfl
  | cons mark cs =>
    rw [markedParts, List.flatMap_append, flatMap_characters, List.flatMap_singleton,
      bytesOf_ofList, ← List.flatMap_append, List.cons_append, List.takeWhile_append_dropWhile]

end Text

/-- The parts of an instant make up its text. -/
theorem Instant.flatMap_parts (t : Instant) : t.parts.flatMap bytesOf = bytesOf t.text := by
  have hyear : ∀ year, (yearParts year).flatMap bytesOf = bytesOf (yearText year) := by
    intro year
    rw [yearParts, Text.bytesOf_eq]
    split
    · exact Text.flatMap_characters _
    · exact Text.flatMap_markedParts _
  rw [parts, text, List.flatMap_append, List.flatMap_append, List.flatMap_append, hyear,
    Text.flatMap_characters, Text.flatMap_markedParts, List.flatMap_singleton, bytesOf_append,
    bytesOf_append, bytesOf_append, Text.bytesOf_eq t.middleText, Text.bytesOf_eq (fractionText _)]

/-! ## Pieces of a record -/

namespace LogRecord

open Json (flatten_partPieces flatten_textPieces)

theorem flatten_pieces (r : LogRecord) : r.pieces.flatten = r.toJson.render := by
  have htime : (Json.partPieces r.timestamp.parts).flatten =
      (Json.textPieces r.timestamp.text).flatten := by
    rw [flatten_partPieces, flatten_textPieces, r.timestamp.flatMap_parts]
  rw [toJson, Json.Value.render, Json.Value.pieces, Json.Value.memberPieces, Json.Value.pieces]
  simp only [pieces, if_true, List.nil_append, List.flatten_append, List.flatten_cons, htime,
    List.append_assoc]

/-- A way to hand the text of a record on: its opening brace, and the rest of it in any pieces. -/
structure Chopping (r : LogRecord) where
  pieces : List (List UInt8)
  flatten_pieces : pieces.flatten = r.toJson.render
  head?_pieces : pieces.head? = some [Json.Byte.openBrace]

/-- The pieces of a record are a chopping of its text. -/
def chopping (r : LogRecord) : r.Chopping := ⟨r.pieces, r.flatten_pieces, rfl⟩

theorem Chopping.flatten_line {r : LogRecord} (c : r.Chopping) :
    (c.pieces ++ [[Json.Byte.lineFeed]]).flatten = r.line := by
  rw [List.flatten_append, c.flatten_pieces, List.flatten_singleton, line]

end LogRecord

end LogOrigin
