import Reshape.Output.Format
import Reshape.Proofs.Json.Characters
import Reshape.Proofs.Outcome
import Reshape.Proofs.Text
import Reshape.Records

namespace Reshape.Records

def isVisible (line : List Char) : Bool := !(Text.trim line).isEmpty

theorem isVisible_eq_false {line : List Char} :
    isVisible line = false ↔ ∀ c ∈ line, Text.isBlank c = true := by
  rw [← Text.trim_eq_nil_iff]
  simp [isVisible]

theorem isVisible_of_mem {line : List Char} {c : Char} (h : c ∈ line)
    (hc : Text.isBlank c = false) : isVisible line = true := by
  rw [← Bool.not_eq_false, isVisible_eq_false]
  exact fun hall => absurd (hall c h) (by simp [hc])

/-- The values of lines are those of the lines that are not blank. -/
theorem valuesFrom_eq_ok {number : ℕ} {lines : List (List Char)} {values : List Json} :
    valuesFrom number lines = .ok values ↔
      List.Forall₂ (fun line value => Json.read? (String.ofList line) = some value)
        (lines.filter isVisible) values := by
  induction lines generalizing number values with
  | nil => cases values <;> simp [valuesFrom]
  | cons line lines ih =>
    unfold valuesFrom
    by_cases hblank : (Text.trim line).isEmpty = true
    · have hhidden : isVisible line = false := by simp [isVisible, hblank]
      rw [if_pos hblank, ih, List.filter_cons_of_neg (by simp [hhidden])]
    · have hvisible : isVisible line = true := by simpa [isVisible] using hblank
      rw [if_neg hblank, List.filter_cons_of_pos hvisible]
      cases hread : Json.read? (String.ofList line) with
      | none => cases values <;> simp [hread]
      | some value =>
        simp only [Outcome.map_eq_ok, ih]
        constructor
        · rintro ⟨rest, hrest, rfl⟩
          exact .cons hread hrest
        · intro h
          obtain _ | ⟨hvalue, hrest⟩ := h
          obtain rfl := Option.some.inj (hread.symm.trans hvalue)
          exact ⟨_, hrest, rfl⟩

structure BlankLine (s : List Char) : Prop where
  blank : ∀ c ∈ s, Text.isBlank c = true
  noBreak : '\n' ∉ s

def lineEnds : List (List Char) := [['\n'], ['\r', '\n']]

/-- The texts that have these lines, in their order, and any number of blank lines before, between
and behind them. The last line of a text needs no end. -/
inductive Layout : List (List Char) → List Char → Prop
  | blank {s : List Char} (h : BlankLine s) : Layout [] s
  | last (line : List Char) : Layout [line] line
  | skip {s mark text : List Char} {lines : List (List Char)} (hs : BlankLine s)
    (hm : mark ∈ lineEnds) (h : Layout lines text) : Layout lines (s ++ mark ++ text)
  | line {mark text : List Char} {lines : List (List Char)} (line : List Char)
    (hm : mark ∈ lineEnds) (h : Layout lines text) : Layout (line :: lines) (line ++ mark ++ text)

/-- Lines that are not changed when the text they are in is divided. -/
structure PlainLine (line : List Char) : Prop where
  noBreak : '\n' ∉ line
  noReturn : '\r' ∉ line
  visible : ∃ c ∈ line, Text.isBlank c = false

theorem plainLine_chars (v : Json) : PlainLine v.chars where
  noBreak h := absurd (Json.toNat_of_mem_chars v h) (by decide)
  noReturn h := absurd (Json.toNat_of_mem_chars v h) (by decide)
  visible := v.exists_visible

theorem lines_append_mark {s mark : List Char} (hm : mark ∈ lineEnds) (hs : '\n' ∉ s)
    (text : List Char) : ∃ line, (line = s ∨ line = Text.dropReturn s) ∧
      Text.lines (s ++ mark ++ text) = line :: Text.lines text := by
  simp only [lineEnds, List.mem_cons, List.not_mem_nil, or_false] at hm
  rcases hm with rfl | rfl
  · have hlines := Text.lines_append_cons hs text
    exact ⟨_, .inr rfl, by simpa using hlines⟩
  · have hreturn : '\n' ∉ s ++ ['\r'] := by simpa using hs
    have hlines := Text.lines_append_cons hreturn text
    rw [Text.dropReturn_append_return] at hlines
    exact ⟨_, .inl rfl, by simpa using hlines⟩

/-- The lines of a layout that are not blank are those it was made of. -/
theorem Layout.filter_lines {lines : List (List Char)} {text : List Char} (h : Layout lines text)
    (hplain : ∀ line ∈ lines, PlainLine line) :
    (Text.lines text).filter isVisible = lines := by
  induction h with
  | @blank s hs =>
    rw [Text.lines_of_not_mem hs.noBreak]
    split
    · rfl
    · simp [isVisible_eq_false.2 hs.blank]
  | last line =>
    obtain ⟨hbreak, -, c, hmem, hc⟩ := hplain line List.mem_cons_self
    have hne : line ≠ [] := List.ne_nil_of_mem hmem
    rw [Text.lines_of_not_mem hbreak, if_neg hne]
    simp [isVisible_of_mem hmem hc]
  | @skip s mark text lines hs hm h ih =>
    obtain ⟨line, hline, hlines⟩ := lines_append_mark hm hs.noBreak text
    -- the line may have lost a carriage return, which is a blank like the rest
    have hhidden : isVisible line = false := by
      rw [isVisible_eq_false]
      rcases hline with rfl | rfl
      · exact hs.blank
      · exact fun c hc => hs.blank c (Text.mem_of_mem_dropReturn hc)
    rw [hlines, List.filter_cons_of_neg (by simp [hhidden]), ih hplain]
  | @line mark text lines first hm h ih =>
    obtain ⟨hbreak, hreturn, c, hmem, hc⟩ := hplain first List.mem_cons_self
    obtain ⟨line, hline, hlines⟩ := lines_append_mark hm hbreak text
    -- a record's line has no carriage return to lose
    have hfirst : line = first := by
      rcases hline with rfl | rfl
      · rfl
      · exact Text.dropReturn_of_not_mem hreturn
    subst hfirst
    rw [hlines, List.filter_cons_of_pos (isVisible_of_mem hmem hc),
      ih fun other ho => hplain other (List.mem_cons_of_mem _ ho)]

/-- What stands before the first line of a layout, and what behind it. -/
theorem Layout.exists_first {first : List Char} {lines : List (List Char)} {text : List Char}
    (h : Layout (first :: lines) text) : ∃ blanks behind, text = blanks ++ (first ++ behind) ∧
      (∀ c ∈ blanks, Text.isBlank c = true) ∧
      (lines = [] ∧ behind = [] ∨
        ∃ mark rest, mark ∈ lineEnds ∧ behind = mark ++ rest ∧ Layout lines rest) := by
  -- the list of lines is an index of the layout, so its shape is kept in an equation
  generalize hall : first :: lines = all at h
  induction h with
  | blank hs => exact absurd hall (by simp)
  | last line =>
    obtain ⟨rfl, rfl⟩ := List.cons.inj hall
    exact ⟨[], [], by simp, by simp, .inl ⟨rfl, rfl⟩⟩
  | @skip s mark text lines hs hm h ih =>
    obtain ⟨blanks, behind, rfl, hblanks, hbehind⟩ := ih hall
    refine ⟨s ++ mark ++ blanks, behind, by simp, ?_, hbehind⟩
    have hmark : ∀ mark ∈ lineEnds, ∀ c ∈ mark, Text.isBlank c = true := by
      simp [lineEnds, Text.isBlank]
    intro c hc
    rcases List.mem_append.1 hc with hc | hc
    · rcases List.mem_append.1 hc with hc | hc
      · exact hs.blank c hc
      · exact hmark mark hm c hc
    · exact hblanks c hc
  | @line mark text lines line hm h ih =>
    obtain ⟨rfl, rfl⟩ := List.cons.inj hall
    exact ⟨[], mark ++ text, by simp, by simp, .inr ⟨mark, text, hm, rfl, h⟩⟩

/-- Values one a line, as they are written, are a layout of them without blank lines. -/
theorem layout_lines (records : List Json) :
    Layout (records.map Json.chars) (OutputFormat.lines (.array records)) := by
  unfold OutputFormat.lines
  induction records with
  | nil => exact .blank ⟨by simp [Text.joinWith], by simp [Text.joinWith]⟩
  | cons record records ih =>
    cases records with
    | nil => exact .last _
    | cons next records => exact .line _ (by decide) ih

theorem readLines_of_layout {records : List Json} {text : String}
    (h : ∀ record ∈ records, record.Storable Json.maxDepth)
    (hlayout : Layout (records.map Json.chars) text.toList) :
    readLines text = .ok ⟨.lines, records⟩ := by
  have hplain : ∀ line ∈ records.map Json.chars, PlainLine line := by
    intro line hline
    obtain ⟨record, -, rfl⟩ := List.mem_map.1 hline
    exact plainLine_chars record
  have hread : List.Forall₂ (fun line value => Json.read? (String.ofList line) = some value)
      (records.map Json.chars) records := by
    rw [List.forall₂_map_left_iff, List.forall₂_same]
    exact fun record hrecord => Json.read?_write (h record hrecord)
  unfold readLines
  rw [valuesFrom_eq_ok.2 (hlayout.filter_lines hplain ▸ hread)]
  rfl

theorem isSpace_of_isBlank {c : Char} (h : Text.isBlank c = false) : Json.isSpace c = false := by
  have hne : ∀ d : Char, Text.isBlank d = true → c ≠ d := by
    rintro d hd rfl
    exact absurd (h.symm.trans hd) (by decide)
  simp [Json.isSpace, hne ' ' (by decide), hne '\t' (by decide), hne '\n' (by decide),
    hne '\r' (by decide)]

theorem skipSpace_ne_nil {s : List Char} {c : Char} (h : c ∈ s) (hc : Text.isBlank c = false) :
    Json.skipSpace s ≠ [] := by
  unfold Json.skipSpace
  rw [ne_eq, List.dropWhile_eq_nil_iff]
  exact fun hall => absurd (hall c h) (by simp [isSpace_of_isBlank hc])

/-- No document is read where a value is followed by more than white space, and none behind blanks
that JSON does not know. -/
theorem read?_eq_none {blanks behind : List Char} {v : Json} (h : v.Storable Json.maxDepth)
    (hblanks : ∀ c ∈ blanks, Text.isBlank c = true) (hends : Json.EndsLiteral behind)
    (hbehind : ∃ c ∈ behind, Text.isBlank c = false) {text : String}
    (htext : text.toList = blanks ++ (v.chars ++ behind)) : Json.read? text = none := by
  have hskip : Json.skipSpace text.toList = if (Json.skipSpace blanks).isEmpty then
      Json.skipSpace (v.chars ++ behind) else Json.skipSpace blanks ++ (v.chars ++ behind) := by
    unfold Json.skipSpace
    rw [htext, List.dropWhile_append]
  rw [Json.read?, Json.readTree?_eq, hskip]
  cases hrest : Json.skipSpace blanks with
  | nil =>
    obtain ⟨c, hmem, hc⟩ := hbehind
    rw [List.isEmpty_nil, if_pos rfl, (h.opens.append behind).skipSpace_eq, h.found behind hends]
    simp [skipSpace_ne_nil hmem hc]
  | cons c rest =>
    have hmem : c ∈ Json.skipSpace blanks := hrest ▸ List.mem_cons_self
    have hc := hblanks c ((List.dropWhile_sublist _).subset hmem)
    rw [List.isEmpty_cons, if_neg (by simp), List.cons_append, Json.value?_of_isBlank hc]
    rfl

theorem hasLines_of_between {before between behind : List Char} {c d : Char} {text : String}
    (hc : Text.isBlank c = false) (hd : Text.isBlank d = false) (hbreak : '\n' ∈ between)
    (htext : text.toList = before ++ c :: (between ++ d :: behind)) : hasLines text = true := by
  have htrim := Text.trim_append_cons hc hd before between behind
  unfold hasLines
  rw [decide_eq_true_eq, htext]
  apply Text.one_lt_length_lines
  · rw [htrim]
    simp [hbreak]
  · intro hlast
    exact absurd (Text.endsVisible_trim _ _ hlast) (by decide)

theorem endsLiteral_append_mark {mark : List Char} (hm : mark ∈ lineEnds) (rest : List Char) :
    Json.EndsLiteral (mark ++ rest) := by
  simp only [lineEnds, List.mem_cons, List.not_mem_nil, or_false] at hm
  rcases hm with rfl | rfl
  · exact .cons (by decide) _
  · exact .cons (by decide) _

/-- Two records on lines are no document, whatever the blank lines around them are. -/
theorem readJson_of_layout {first second : Json} {records : List Json} {text : String}
    (h : first.Storable Json.maxDepth)
    (hlayout : Layout ((first :: second :: records).map Json.chars) text.toList) :
    readJson text = (true, readLines text) := by
  obtain ⟨blanks, behind, htext, hblanks, hbehind⟩ := hlayout.exists_first
  obtain ⟨hnil, -⟩ | ⟨mark, rest, hmark, rfl, hrest⟩ := hbehind
  · exact absurd hnil (by simp)
  obtain ⟨blanks', behind', rfl, -, -⟩ := hrest.exists_first
  obtain ⟨c, hc, hcBlank⟩ := first.exists_visible
  obtain ⟨d, hd, hdBlank⟩ := second.exists_visible
  have hnone : Json.read? text = none :=
    read?_eq_none h hblanks (endsLiteral_append_mark hmark _) ⟨d, by simp [hd], hdBlank⟩ htext
  -- the line end stands between a visible character of the first record and one of the second
  obtain ⟨p, q, hfirst⟩ := List.append_of_mem hc
  obtain ⟨p', q', hsecond⟩ := List.append_of_mem hd
  have hbreak : ∀ mark ∈ lineEnds, '\n' ∈ mark := by decide
  have hbetween : '\n' ∈ q ++ (mark ++ (blanks' ++ p')) := by simp [hbreak mark hmark]
  have hapart : text.toList = (blanks ++ p) ++
      c :: ((q ++ (mark ++ (blanks' ++ p'))) ++ d :: (q' ++ behind')) := by
    rw [htext, hfirst, hsecond]
    simp
  have hlines : hasLines text = true := hasLines_of_between hcBlank hdBlank hbetween hapart
  unfold readJson
  rw [hnone, hlines]
  rfl

theorem exists_item_of_single {form : Notation} {text : String} {records : Records}
    (h : read form text = .ok records) (hshape : records.shape = .single) :
    ∃ record, records.items = [record] := by
  -- records on lines are never single, so a document was read
  have hlines : readLines text ≠ .ok records := by
    intro hfound
    obtain ⟨values, -, rfl⟩ := Outcome.map_eq_ok.1 hfound
    exact absurd hshape (by simp)
  have hdocument : ∀ document, ofDocument document = records →
      ∃ record, records.items = [record] := by
    rintro document rfl
    cases document with
    | array items => exact absurd hshape (by simp [ofDocument])
    | _ => exact ⟨_, rfl⟩
  cases form with
  | ndjson => exact absurd h hlines
  | json =>
    change (readJson text).2 = _ at h
    unfold readJson at h
    split at h
    · exact hdocument _ (Except.ok.inj h)
    · split at h
      · exact absurd h hlines
      · exact absurd h (by simp)
  | yaml =>
    cases hyaml : Yaml.readJson? text with
    | none => exact absurd h (by simp [read, hyaml])
    | some document =>
      simp only [read, hyaml] at h
      exact hdocument document (Except.ok.inj h)

/-- The text of records one a line is read back as these records, under either line end and with
blank lines anywhere among them; where a document is expected it is known for lines as soon as there
are two records. -/
theorem lines_read_back {records : List Json}
    (h : ∀ record ∈ records, record.Storable Json.maxDepth) :
    Layout (records.map Json.chars) (OutputFormat.ndjson.render (.array records)).toList ∧
    ∀ text : String, Layout (records.map Json.chars) text.toList →
      read .ndjson text = .ok ⟨.lines, records⟩ ∧
      (2 ≤ records.length → read .json text = .ok ⟨.lines, records⟩) := by
  refine ⟨?_, fun text hlayout => ⟨readLines_of_layout h hlayout, fun htwo => ?_⟩⟩
  · unfold OutputFormat.render
    rw [String.toList_ofList]
    exact layout_lines records
  · match records, htwo with
    | first :: second :: rest, _ =>
      have hjson := readJson_of_layout (h first List.mem_cons_self) hlayout
      show (readJson text).2 = _
      rw [hjson]
      exact readLines_of_layout h hlayout

/-- A record that is an array with a line break in one of its strings, and another one. -/
def noteRecords : List Json := [.array [.ofInt 1, .string "a\nb"], .null]

/-- The records on lines that end in both ways, with blank lines before and between them. -/
def noteText : String := "\u00a0\r\n[1,\"a\\nb\"]\r\n\t\nnull"

theorem lines_read_back_note :
    read .ndjson noteText = .ok ⟨.lines, noteRecords⟩ ∧
    read .json noteText = .ok ⟨.lines, noteRecords⟩ := by
  have hone : (Json.Number.whole 1).ReadsBack := Json.Number.readsBack_whole (by decide) (by decide)
  have hstorable : ∀ record ∈ noteRecords, record.Storable Json.maxDepth := by
    simpa [noteRecords, Json.maxDepth, Json.ofInt] using hone
  have hblank : BlankLine ['\u00a0'] ∧ BlankLine ['\t'] :=
    ⟨⟨List.forall_mem_singleton.2 rfl, by decide⟩, ⟨List.forall_mem_singleton.2 rfl, by decide⟩⟩
  have hends : ['\n'] ∈ lineEnds ∧ ['\r', '\n'] ∈ lineEnds := by decide
  have hlaid := Layout.skip hblank.1 hends.2 <|
    .line (Json.chars (.array [.ofInt 1, .string "a\nb"])) hends.2 <|
    .skip hblank.2 hends.1 <| .last (Json.chars .null)
  have hlayout : Layout (noteRecords.map Json.chars) noteText.toList := hlaid
  obtain ⟨-, hread⟩ := lines_read_back hstorable
  obtain ⟨hndjson, hjson⟩ := hread noteText hlayout
  exact ⟨hndjson, hjson (by decide)⟩

end Reshape.Records
