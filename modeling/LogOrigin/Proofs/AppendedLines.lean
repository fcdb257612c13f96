import LogOrigin.Proofs.RecordText
import LogOrigin.Proofs.SinkHandles
import LogOrigin.Proofs.SourceLines

/-!
# Lines behind what a file holds

What a file holds after any number of runs that append to it, each with a sink of its own. A run
adds the lines of the records that it stores (`HeldSink.bytes_fileAfter`), and none looks at how the
file ends. So the first record goes on with the line in which the file breaks off, and all lines are
kept apart if and only if there is no such line (`HeldSink.splitOn_fileAfter`).
-/

namespace LogOrigin

open Json.Byte (lineFeed)

/-! ## Whole lines and the beginning of one -/

namespace Line

theorem segmentsFrom_lineFeed {current : List UInt8} (h : lineFeed ∉ current)
    (body : List UInt8) :
    segmentsFrom current (body ++ [lineFeed]) = (current.reverse ++ body).splitOn lineFeed := by
  induction body generalizing current with
  | nil =>
    have hplain : lineFeed ∉ current.reverse ++ [] := by simpa using h
    rw [List.nil_append, segmentsFrom, if_pos rfl, List.splitOn_eq_singleton hplain,
      List.append_nil]
    rfl
  | cons b body ih =>
    rw [List.cons_append, segmentsFrom]
    split
    · next hb =>
      have hplain : lineFeed ∉ current.reverse := by simpa using h
      rw [hb, List.splitOn_append_cons_self_of_not_mem hplain, ih List.not_mem_nil]
      rfl
    · next hb =>
      have hplain : lineFeed ∉ b :: current := by
        rw [List.mem_cons, not_or]
        exact ⟨Ne.symm hb, h⟩
      rw [ih hplain, List.reverse_cons, List.append_assoc, List.singleton_append]

/-- Behind a part that ends where a line does, a split goes on with what follows. -/
theorem splitOn_append {front : List UInt8} (h : EndsLine front) (back : List UInt8) :
    (front ++ back).splitOn lineFeed = segments front ++ back.splitOn lineFeed := by
  obtain rfl | ⟨body, rfl⟩ := h.cases
  · rfl
  · rw [List.append_assoc, List.singleton_append, List.splitOn_append_cons_self, segments,
      segmentsFrom_lineFeed List.not_mem_nil]
    rfl

theorem segmentsFrom_concat (current front back : List UInt8) :
    segmentsFrom current (front ++ lineFeed :: back) =
      segmentsFrom current (front ++ [lineFeed]) ++ segments back := by
  induction front generalizing current with
  | nil => rfl
  | cons b front ih =>
    simp only [List.cons_append, segmentsFrom]
    split
    · rw [ih, List.cons_append]
    · exact ih _

/-- The beginning of a line is one more stretch, if there is any of it. -/
theorem segments_append {front rest : List UInt8} (h : EndsLine front) (hrest : lineFeed ∉ rest) :
    segments (front ++ rest) = segments front ++ if rest.isEmpty then [] else [rest] := by
  have hend : segments rest = if rest.isEmpty then [] else [rest] := by
    have hplain := segmentsFrom_plain hrest [] []
    rw [List.append_nil, List.append_nil] at hplain
    rw [segments, hplain, segmentsFrom, List.isEmpty_reverse, List.reverse_reverse]
  rw [← hend]
  obtain rfl | ⟨body, rfl⟩ := h.cases
  · rfl
  · rw [List.append_assoc]
    exact segmentsFrom_concat [] body rest

theorem endsLine_append_iff {front rest : List UInt8} (h : EndsLine front)
    (hrest : lineFeed ∉ rest) : EndsLine (front ++ rest) ↔ rest = [] := by
  constructor
  · intro hends
    by_contra hne
    rw [EndsLine, List.getLast?_append_of_ne_nil _ hne] at hends
    rcases hends with hempty | hlast
    · exact hne (List.append_eq_nil_iff.mp hempty).2
    · exact hrest (List.mem_of_getLast? hlast)
  · rintro rfl
    rwa [List.append_nil]

/-- Any bytes are whole lines, with the beginning of one more behind them or nothing. -/
theorem exists_endsLine_append (input : List UInt8) :
    ∃ front rest, input = front ++ rest ∧ EndsLine front ∧ lineFeed ∉ rest := by
  by_cases h : lineFeed ∈ input.reverse
  · obtain ⟨rest, front, hinput, hrest⟩ := List.eq_append_cons_of_mem h
    refine ⟨front.reverse ++ [lineFeed], rest.reverse, ?_, .inr List.getLast?_concat, ?_⟩
    · rw [← List.reverse_reverse input, hinput]
      simp
    · simpa using hrest
  · exact ⟨[], input, rfl, .inl rfl, by simpa using h⟩

/-- Of lines behind the beginning of another one, the first goes on with that. The end is empty. -/
theorem splitOn_lines {rest : List UInt8} (hrest : lineFeed ∉ rest) (r : LogRecord)
    (records : List LogRecord) :
    (rest ++ (r :: records).flatMap LogRecord.line).splitOn lineFeed =
      (rest ++ r.toJson.render) :: records.map (·.toJson.render) ++ [[]] := by
  have hplain : lineFeed ∉ rest ++ r.toJson.render := by
    rw [List.mem_append, not_or]
    exact ⟨hrest, r.lineFeed_not_mem_render⟩
  have hsplit : (rest ++ (r :: records).flatMap LogRecord.line).splitOn lineFeed =
      (rest ++ r.toJson.render) :: (records.flatMap LogRecord.line).splitOn lineFeed := by
    rw [List.flatMap_cons, LogRecord.line, List.append_assoc, List.singleton_append,
      ← List.append_assoc, List.splitOn_append_cons_self_of_not_mem hplain]
  rw [hsplit, List.cons_append]
  congr 1
  cases records with
  | nil => exact List.splitOn_nil lineFeed
  | cons next records => exact splitOn_lines List.not_mem_nil next records

/-- A beginning and the text that goes on with it are not both among the lines, unless the beginning
is empty. -/
theorem sublist_goesOn_iff {whole others : List (List UInt8)} {rest first : List UInt8}
    (hfirst : first ≠ []) :
    (whole ++ (if rest.isEmpty then [] else [rest]) ++ first :: others).Sublist
      (whole ++ ((rest ++ first) :: others ++ [[]])) ↔ rest = [] := by
  rw [List.append_assoc, List.append_sublist_append_left]
  constructor
  · intro hsub
    by_contra hne
    rw [if_neg (by simpa using hne)] at hsub
    -- there are as many texts as lines, so they would be the same
    have heq := hsub.eq_of_length (by simp)
    obtain ⟨hhead, -⟩ := List.cons.inj heq
    exact hfirst (List.append_right_eq_self.mp hhead.symm)
  · rintro rfl
    exact List.sublist_append_left _ _

end Line

/-! ## Runs -/

namespace HeldSink

open SinkRequest (stored)

/-- A file after runs over it, each of requests to a new sink. -/
def fileAfter (path : String) (file : OutputFile) (runs : List (List SinkRequest)) : OutputFile :=
  runs.foldl
    (fun file requests => (askAll ⟨JsonLinesSink.ofFile path file, []⟩ requests).sink.finalFile)
    file

/-- A file that opens and takes everything. -/
structure Healthy (file : OutputFile) : Prop where
  opens : file.refusal = none
  takes : file.Takes

/-- A sink leaves a file as healthy as it found it. -/
theorem healthy_finalFile {s : JsonLinesSink} (hsound : s.Sound) (hopens : s.file.refusal = none) :
    Healthy s.finalFile := by
  cases hs : s.state with
  | closed file =>
    simp only [JsonLinesSink.Sound, JsonLinesSink.file, hs] at hsound hopens
    rw [JsonLinesSink.finalFile, hs]
    exact ⟨hopens, hsound⟩
  | opened writer =>
    simp only [JsonLinesSink.Sound, JsonLinesSink.file, hs] at hsound hopens
    have hflush := (BufferedFile.adds_flush hsound).1
    rw [JsonLinesSink.finalFile, hs]
    exact ⟨hflush.refusal.trans hopens, hflush.sound.takes⟩

/-- Each run adds the lines of the records that it stores, whatever the file holds. -/
theorem bytes_fileAfter (path : String) {file : OutputFile} (h : Healthy file)
    (runs : List (List SinkRequest)) :
    (fileAfter path file runs).bytes.toList =
      file.bytes.toList ++ (runs.flatMap stored).flatMap LogRecord.line := by
  induction runs generalizing file with
  | nil => exact (List.append_nil _).symm
  | cons requests runs ih =>
    have hserves := (serves_ofFile path h.opens h.takes).askAll requests
    rw [List.nil_append] at hserves
    have hbytes := JsonLinesSink.bytes_finalFile hserves.sound
    rw [hserves.given] at hbytes
    rw [fileAfter, List.foldl_cons, ← fileAfter,
      ih (healthy_finalFile hserves.sound hserves.opens), hbytes, List.flatMap_cons,
      List.flatMap_append, List.append_assoc]

/-- What runs append to a file, and its lines then. A file holds whole lines and perhaps the
beginning of one more, `rest`. That is left as it is, and the text of the first record follows on
the same line; all other records have lines of their own. So the lines that the file had and the
texts of all records are lines afterwards if and only if nothing was appended or the file ended
where a line does. -/
theorem splitOn_fileAfter (path : String) {file : OutputFile} (h : Healthy file)
    (runs : List (List SinkRequest)) :
    let before := file.bytes.toList
    let after := (fileAfter path file runs).bytes.toList
    let texts := (runs.flatMap stored).map (·.toJson.render)
    after = before ++ (runs.flatMap stored).flatMap LogRecord.line ∧
    (∃ front rest, before = front ++ rest ∧ Line.EndsLine front ∧ lineFeed ∉ rest ∧
      Line.segments before = Line.segments front ++ (if rest.isEmpty then [] else [rest]) ∧
      (texts = [] → after.splitOn lineFeed = Line.segments front ++ [rest]) ∧
      ∀ first others, texts = first :: others →
        after.splitOn lineFeed = Line.segments front ++ ((rest ++ first) :: others ++ [[]])) ∧
    ((Line.segments before ++ texts).Sublist (after.splitOn lineFeed) ↔
      texts = [] ∨ Line.EndsLine before) := by
  intro before after texts
  have hafter : after = before ++ (runs.flatMap stored).flatMap LogRecord.line :=
    bytes_fileAfter path h runs
  obtain ⟨front, rest, hbefore, hfront, hrest⟩ := Line.exists_endsLine_append before
  have hsegments := Line.segments_append hfront hrest
  rw [← hbefore] at hsegments
  have hends : Line.EndsLine before ↔ rest = [] := by
    rw [hbefore]
    exact Line.endsLine_append_iff hfront hrest
  have hnone : texts = [] → after.splitOn lineFeed = Line.segments front ++ [rest] := by
    intro htexts
    have hrecords : runs.flatMap stored = [] := List.map_eq_nil_iff.mp htexts
    rw [hafter, hrecords, List.flatMap_nil, List.append_nil, hbefore, Line.splitOn_append hfront,
      List.splitOn_eq_singleton hrest]
  have hsome : ∀ first others, texts = first :: others → after.splitOn lineFeed =
      Line.segments front ++ ((rest ++ first) :: others ++ [[]]) := by
    intro first others htexts
    obtain ⟨r, records, hrecords, rfl, rfl⟩ := List.map_eq_cons_iff.mp htexts
    rw [hafter, hrecords, hbefore, List.append_assoc, Line.splitOn_append hfront,
      Line.splitOn_lines hrest]
  refine ⟨hafter, ⟨front, rest, hbefore, hfront, hrest, hsegments, hnone, hsome⟩, ?_⟩
  rw [hends, hsegments]
  cases htexts : texts with
  | nil =>
    rw [hnone htexts, List.append_nil]
    refine iff_of_true (List.append_sublist_append_left _ |>.mpr ?_) (.inl rfl)
    split
    · exact List.nil_sublist _
    · exact List.Sublist.refl _
  | cons first others =>
    have hfirst : first ≠ [] := by
      have hmem : first ∈ texts := htexts ▸ List.mem_cons_self ..
      obtain ⟨r, -, rfl⟩ := List.mem_map.mp hmem
      exact List.cons_ne_nil _ _
    rw [hsome first others htexts, Line.sublist_goesOn_iff hfirst]
    simp only [reduceCtorEq, false_or]

/-- A file that breaks off behind the opening brace of a record. -/
def brokenOff : OutputFile := { content := some #[Json.Byte.openBrace] }

theorem healthy_brokenOff : Healthy brokenOff := ⟨rfl, fun _ => rfl⟩

/-- One record, from the start to the end of a registration. -/
def oneRecord : List SinkRequest := [.start "A", .write ⟨1⟩ plainRecord, .shutdown ⟨1⟩]

/-- Of two runs over a file that breaks off, only the second has its record on a line of its own. -/
theorem splitOn_fileAfter_brokenOff :
    (fileAfter "events.jsonl" brokenOff [oneRecord, oneRecord]).bytes.toList.splitOn lineFeed =
      [Json.Byte.openBrace :: plainRecord.toJson.render, plainRecord.toJson.render, []] := by
  obtain ⟨-, ⟨front, rest, hbefore, hfront, -, -, -, hsome⟩, -⟩ :=
    splitOn_fileAfter "events.jsonl" healthy_brokenOff [oneRecord, oneRecord]
  obtain ⟨rfl, rfl⟩ : front = [] ∧ rest = [Json.Byte.openBrace] := by
    rcases List.append_eq_singleton_iff.mp hbefore.symm with ⟨hempty, hrest⟩ | ⟨hbrace, -⟩
    · exact ⟨hempty, hrest⟩
    · rw [hbrace] at hfront
      exact absurd hfront (by unfold Line.EndsLine; decide)
  have hstored : [oneRecord, oneRecord].flatMap stored = [plainRecord, plainRecord] := rfl
  rw [hstored] at hsome
  exact hsome _ _ (List.map_cons ..)

/-- The text of a record is no line of the file that it is appended to, and the line in which the
file broke off is none any more. -/
theorem fileAfter_brokenOff :
    let after := (fileAfter "events.jsonl" brokenOff [oneRecord]).bytes.toList
    Healthy brokenOff ∧ stored oneRecord = [plainRecord] ∧
      Line.segments brokenOff.bytes.toList = [[Json.Byte.openBrace]] ∧
      plainRecord.toJson.render ∉ after.splitOn lineFeed ∧
      [Json.Byte.openBrace] ∉ after.splitOn lineFeed := by
  intro after
  have hstored : [oneRecord].flatMap stored = [plainRecord] := rfl
  have hbytes : after = [Json.Byte.openBrace] ++ [plainRecord].flatMap LogRecord.line := by
    rw [← hstored]
    exact bytes_fileAfter "events.jsonl" healthy_brokenOff [oneRecord]
  have hlines : after.splitOn lineFeed =
      [Json.Byte.openBrace :: plainRecord.toJson.render, []] := by
    rw [hbytes, Line.splitOn_lines (by decide)]
    rfl
  have hne : plainRecord.toJson.render ≠ [] := List.cons_ne_nil _ _
  refine ⟨healthy_brokenOff, rfl, rfl, ?_, ?_⟩
  · simp [hlines, hne, List.ne_cons_self]
  · simp [hlines, Ne.symm hne]

end HeldSink

end LogOrigin
