import Mathlib.Data.List.Forall2
import PlaylistCurator.Catalog.Playlist
import PlaylistCurator.Listing

/-!
# The listing as a table

A listing is meant to be a table: a heading and then a line for each record, with names, sizes,
owners and descriptions in columns that begin and end at the same places in all lines. Names and
owners are cut to their columns, but sizes are not, and a line feed in a text breaks the line.

* `IsTable`: a text is the table of some records;
* `isTable_format_iff`: a listing is the table of its records exactly if every size fits its column
  and no text that is shown holds a line feed.
-/

namespace PlaylistCurator.Listing

/-! ## Tables -/

/-- The texts of a line of a table. -/
structure Cells where
  /-- The name of a playlist. -/
  name : List Char
  /-- How many tracks it has. -/
  size : List Char
  /-- Its owner. -/
  owner : List Char
  /-- Its description. -/
  description : List Char

namespace Cells

/-- What stands above the columns. -/
def headings : Cells :=
  ⟨"PLAYLIST NAME".toList, "SIZE".toList, "OWNER".toList, "DESCRIPTION".toList⟩

/-- The texts of a record. -/
def ofRecord (record : Record) : Cells :=
  ⟨(record.text .name).toList, (record.text .size).toList, (record.text .owner).toList,
    (record.text .description).toList⟩

/-- The texts stand in the columns of a line of the given characters. Positions are counted from 0,
and a part of the line ends before the second of its two positions. -/
structure StandIn (cells : Cells) (characters : List Char) : Prop where
  /-- The first 40 characters of the name begin the line, filled up with blanks. -/
  name : characters.extract 0 40 =
    cells.name.take 40 ++ List.replicate (40 - cells.name.length) ' '
  /-- The size, with blanks before it, ends at position 46. -/
  size : characters.extract 41 47 = List.replicate (6 - cells.size.length) ' ' ++ cells.size
  /-- The first 20 characters of the owner begin at position 48, filled up with blanks. -/
  owner : characters.extract 48 68 =
    cells.owner.take 20 ++ List.replicate (20 - cells.owner.length) ' '
  /-- The description makes the line from position 69 on. -/
  description : characters.drop 69 = cells.description
  /-- The columns are a blank apart. -/
  gaps : ∀ position ∈ [40, 47, 68], characters[position]? = some ' '

/-- The texts fit a line: the size is no wider than its column, and nothing that is shown breaks the
line. -/
structure Fit (cells : Cells) : Prop where
  /-- The size has at most six characters. -/
  size_le : cells.size.length ≤ 6
  /-- There is no line feed in what is shown of the name. -/
  name : '\n' ∉ cells.name.take 40
  /-- There is none in the size. -/
  size : '\n' ∉ cells.size
  /-- There is none in what is shown of the owner. -/
  owner : '\n' ∉ cells.owner.take 20
  /-- There is none in the description. -/
  description : '\n' ∉ cells.description

end Cells

/-- A text is the table of some records: it consists of lines, each with a line feed at its end and
none before, of which the first one has the headings in its columns and the others have the texts of
the records, in order. -/
def IsTable (records : List Record) (text : String) : Prop :=
  ∃ lines : List (List Char), text.toList = lines.flatMap (· ++ ['\n']) ∧
    (∀ line ∈ lines, '\n' ∉ line) ∧
    List.Forall₂ Cells.StandIn (.headings :: records.map .ofRecord) lines

/-! ## Lines -/

/-- The line of some texts, without its end. -/
def Cells.row (cells : Cells) : List Char :=
  column .left 40 (cells.name.take 40) ++ ' ' :: (column .right 6 cells.size ++
    ' ' :: (column .left 20 (cells.owner.take 20) ++ ' ' :: cells.description))

theorem header_eq : header = Cells.headings.row ++ ['\n'] := by
  decide

theorem recordLine_eq (record : Record) :
    recordLine record = (Cells.ofRecord record).row ++ ['\n'] := by
  simp [recordLine, line, Cells.row, Cells.ofRecord, nameWidth, sizeWidth, ownerWidth]

/-- A listing is made of the lines of the headings and of the records. -/
theorem toList_format (records : List Record) :
    (format records).toList =
      ((Cells.headings :: records.map .ofRecord).map Cells.row).flatMap (· ++ ['\n']) := by
  have hlines : recordLine = fun record => (Cells.ofRecord record).row ++ ['\n'] :=
    funext recordLine_eq
  rw [format, String.toList_ofList, header_eq, hlines]
  simp [List.flatMap_map]

/-- The lines of a text are its parts between line feeds, except for an empty one at the end. -/
theorem splitOn_flatMap {lines : List (List Char)} (h : ∀ line ∈ lines, '\n' ∉ line) :
    (lines.flatMap (· ++ ['\n'])).splitOn '\n' = lines ++ [[]] := by
  induction lines with
  | nil => rfl
  | cons line lines ih =>
    rw [List.forall_mem_cons] at h
    rw [List.flatMap_cons, List.append_assoc, List.singleton_append,
      List.splitOn_append_cons_self_of_not_mem h.1, ih h.2, List.cons_append]

/-- A text of lines has as many line feeds as lines exactly if there is none in a line. -/
theorem count_flatMap_eq_length_iff (lines : List (List Char)) :
    (lines.flatMap (· ++ ['\n'])).count '\n' = lines.length ↔ ∀ line ∈ lines, '\n' ∉ line := by
  have hcount : (lines.flatMap (· ++ ['\n'])).count '\n' =
      lines.length + (lines.map (·.count '\n')).sum := by
    induction lines with
    | nil => rfl
    | cons line lines ih =>
      rw [List.flatMap_cons, List.count_append, List.count_append, ih, List.map_cons, List.sum_cons,
        List.length_cons, List.count_singleton_self]
      omega
  rw [hcount, Nat.add_eq_left, List.sum_eq_zero_iff_forall_eq_nat, List.forall_mem_map]
  simp only [List.count_eq_zero]

/-- Where the parts of a line stand if its columns are filled exactly. -/
theorem positions {name size owner : List Char} (description : List Char) (hname : name.length = 40)
    (hsize : size.length = 6) (howner : owner.length = 20) {characters : List Char}
    (hline : characters = name ++ ' ' :: (size ++ ' ' :: (owner ++ ' ' :: description))) :
    characters.extract 0 40 = name ∧ characters.extract 41 47 = size ∧
      characters.extract 48 68 = owner ∧ characters.drop 69 = description ∧
        ∀ position ∈ [40, 47, 68], characters[position]? = some ' ' := by
  have hend : ∀ {part : List Char} {width : Nat}, part.length ≤ width → part.drop width = [] :=
    List.drop_eq_nil_of_le
  subst hline
  refine ⟨?_, ?_, ?_, ?_, ?_⟩
  · simp [List.extract_eq_take_drop, hname]
  · simp [List.extract_eq_take_drop, List.drop_append, hend, hname, hsize]
  · simp [List.extract_eq_take_drop, List.drop_append, hend, hname, hsize, howner]
  · simp [List.drop_append, hend, hname, hsize, howner]
  · simp [List.getElem?_append, hname, hsize, howner]

namespace Cells

variable {cells : Cells}

/-- The texts stand in the columns of their line exactly if the size fits its column. -/
theorem standIn_row_iff : cells.StandIn cells.row ↔ cells.size.length ≤ 6 := by
  constructor
  · intro h
    have hlength := congrArg List.length h.size
    have htake := List.length_take_le (47 - 41) (cells.row.drop 41)
    rw [List.extract_eq_take_drop, List.length_append, List.length_replicate] at hlength
    omega
  · intro hsize
    have hname := length_column .left (List.length_take_le 40 cells.name)
    have hsizeColumn := length_column .right hsize
    have howner := length_column .left (List.length_take_le 20 cells.owner)
    obtain ⟨hnameAt, hsizeAt, hownerAt, hdescription, hgaps⟩ :=
      positions cells.description hname hsizeColumn howner rfl
    refine ⟨hnameAt.trans ?_, hsizeAt, hownerAt.trans ?_, hdescription, hgaps⟩
    · rw [column, List.rightpad, List.length_take]
      congr 2
      omega
    · rw [column, List.rightpad, List.length_take]
      congr 2
      omega

/-- A line holds no line feed exactly if none of the texts shown in it does. -/
theorem not_mem_row_iff :
    '\n' ∉ cells.row ↔ '\n' ∉ cells.name.take 40 ∧ '\n' ∉ cells.size ∧
      '\n' ∉ cells.owner.take 20 ∧ '\n' ∉ cells.description := by
  simp [row, column, List.leftpad, List.rightpad]

/-- Texts fit a line exactly if they stand in the columns of their own and do not break it. -/
theorem fit_iff : cells.Fit ↔ cells.StandIn cells.row ∧ '\n' ∉ cells.row := by
  rw [standIn_row_iff, not_mem_row_iff]
  exact ⟨fun h => ⟨h.size_le, h.name, h.size, h.owner, h.description⟩,
    fun ⟨hsize_le, hname, hsize, howner, hdescription⟩ =>
      ⟨hsize_le, hname, hsize, howner, hdescription⟩⟩

theorem fit_headings : headings.Fit :=
  ⟨by decide, by decide, by decide, by decide, by decide⟩

end Cells

/-! ## Listings -/

/-- The records of a listing that is their table fit their lines. -/
theorem fit_of_isTable {records : List Record} (h : IsTable records (format records)) :
    ∀ record ∈ records, (Cells.ofRecord record).Fit := by
  obtain ⟨lines, htext, hlines, hstand⟩ := h
  rw [toList_format] at htext
  have hlength := hstand.length_eq
  -- With as many line feeds as lines, none is left over for the texts.
  have hrows := (count_flatMap_eq_length_iff
    ((Cells.headings :: records.map .ofRecord).map Cells.row)).1 (by
      rw [htext, (count_flatMap_eq_length_iff lines).2 hlines, List.length_map, hlength])
  have hsplit := congrArg (List.splitOn '\n') htext
  rw [splitOn_flatMap hrows, splitOn_flatMap hlines, List.append_cancel_right_eq] at hsplit
  rw [← hsplit, List.forall₂_map_right_iff, List.forall₂_same] at hstand
  intro record hrecord
  have hmem : Cells.ofRecord record ∈ Cells.headings :: records.map .ofRecord :=
    List.mem_cons_of_mem _ (List.mem_map_of_mem hrecord)
  exact Cells.fit_iff.2 ⟨hstand _ hmem, hrows _ (List.mem_map_of_mem hmem)⟩

/-- The listing of some records is their table exactly if each of them fits its line. -/
theorem isTable_format_iff (records : List Record) :
    IsTable records (format records) ↔ ∀ record ∈ records, (Cells.ofRecord record).Fit := by
  refine ⟨fit_of_isTable, fun h => ?_⟩
  have hfit : ∀ cells ∈ Cells.headings :: records.map .ofRecord, cells.Fit := by
    rw [List.forall_mem_cons, List.forall_mem_map]
    exact ⟨Cells.fit_headings, h⟩
  refine ⟨_, toList_format records, ?_, ?_⟩
  · rw [List.forall_mem_map]
    exact fun cells hcells => (Cells.fit_iff.1 (hfit cells hcells)).2
  · rw [List.forall₂_map_right_iff, List.forall₂_same]
    exact fun cells hcells => (Cells.fit_iff.1 (hfit cells hcells)).1

/-- A record whose description has two lines. -/
def wrappedRecord : Record :=
  { id := "p", name := some (.text "Mix"), size := some (.number 1), owner := some (.text "o"),
    description := some (.text "first\nsecond") }

/-- A record of more than a million tracks. -/
def largeRecord : Record :=
  { id := "p", name := some (.text "Mix"), size := some (.number 1234567),
    owner := some (.text "o") }

/-- A description of two lines and a size of seven digits each keep a listing from being a table. -/
theorem not_isTable_wrapped_and_large :
    ¬IsTable [wrappedRecord] (format [wrappedRecord]) ∧
      ¬IsTable [largeRecord] (format [largeRecord]) := by
  constructor
  · intro h
    have hfit := fit_of_isTable h wrappedRecord List.mem_cons_self
    exact absurd hfit.description (by decide)
  · intro h
    have hfit := fit_of_isTable h largeRecord List.mem_cons_self
    exact absurd hfit.size_le (by decide)

/-- The record of a listed playlist fits its line exactly if it has less than a million tracks and
there is no line feed in what is shown of its name, its owner's id and its description. -/
theorem fit_toRecord_iff (playlist : Playlist) :
    (Cells.ofRecord playlist.toRecord).Fit ↔
      playlist.tracks.total.toNat < 1000000 ∧ '\n' ∉ (playlist.name.getD "").toList.take 40 ∧
        '\n' ∉ playlist.owner.id.toList.take 20 ∧
        '\n' ∉ (playlist.description.getD "").toList := by
  have hname : playlist.toRecord.text .name = playlist.name.getD "" := by
    cases hname : playlist.name <;> simp [Playlist.toRecord, Record.text, Record.get, hname,
      Value.display]
  have hdescription : playlist.toRecord.text .description = playlist.description.getD "" := by
    cases hdescription : playlist.description <;> simp [Playlist.toRecord, Record.text, Record.get,
      hdescription, Value.display]
  -- Digits are no line feeds, and six of them are enough up to a million.
  have hsize : '\n' ∉ Nat.toDigits 10 playlist.tracks.total.toNat := by
    intro hmem
    have hdigit := Nat.isDigit_of_mem_toDigits (by decide) (by decide) hmem
    revert hdigit
    decide
  have hlength : (Nat.toDigits 10 playlist.tracks.total.toNat).length ≤ 6 ↔
      playlist.tracks.total.toNat < 1000000 :=
    Nat.length_toDigits_le_iff (by decide) (by decide)
  have howner : playlist.toRecord.text .owner = playlist.owner.id := rfl
  rw [Cells.fit_iff, Cells.standIn_row_iff, Cells.not_mem_row_iff]
  simp only [Cells.ofRecord, hname, hdescription, howner, toList_text_size_toRecord, hlength, hsize,
    not_false_eq_true, true_and]

end PlaylistCurator.Listing
