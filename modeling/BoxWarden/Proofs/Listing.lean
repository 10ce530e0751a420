import BoxWarden.Proofs.Command.Tool
import BoxWarden.Proofs.Text.Trim

/-!
The table of containers, written and read back. A row is written with white space around its cells
and between lines that show nothing, and lines are broken in any way that Unicode knows: what is
read are the cells of the rows, in order, and nothing else.
-/

namespace BoxWarden

namespace Text

/-- A line ends where its break stands. -/
theorem splitLines_append {l : List Char} (hl : ∀ c ∈ l, isBoundary c = false) {s : List Char}
    {ls : List (List Char)} (h : splitLines s = [] :: ls) : splitLines (l ++ s) = l :: ls := by
  induction l with
  | nil => exact h
  | cons c l ih =>
    obtain ⟨hc, hl⟩ := List.forall_mem_cons.mp hl
    rw [List.cons_append, splitLines_cons, if_neg (by simp [hc]), ih hl]
    rfl

end Text

namespace Listing

/-- A cell as it is written: a text with white space on either side. The text does not start or end
with white space, and neither bars nor line boundaries stand anywhere in the cell. -/
structure Cell where
  before : List Char
  text : List Char
  after : List Char
  padding : ∀ c ∈ before ++ after, Text.isBlank c = true ∧ Text.isBoundary c = false
  plain : ∀ c ∈ text, c ≠ '|' ∧ Text.isBoundary c = false
  head : ∀ c ∈ text.head?, Text.isBlank c = false
  last : ∀ c ∈ text.getLast?, Text.isBlank c = false

namespace Cell

def written (x : Cell) : List Char := x.before ++ x.text ++ x.after

/-- What the cell says. -/
def content (x : Cell) : String := String.ofList x.text

theorem trim_written (x : Cell) : Text.trim (String.ofList x.written) = x.content :=
  Text.trim_padded (fun c hc => (x.padding c hc).1) x.head x.last

theorem of_mem_written (x : Cell) : ∀ c ∈ x.written, c ≠ '|' ∧ Text.isBoundary c = false := by
  intro c hc
  have hpad (hc : c ∈ x.before ++ x.after) : c ≠ '|' ∧ Text.isBoundary c = false := by
    refine ⟨?_, (x.padding c hc).2⟩
    rintro rfl
    exact absurd (x.padding _ hc).1 (by decide)
  rw [written, List.mem_append, List.mem_append] at hc
  obtain (hbefore | htext) | hafter := hc
  · exact hpad (List.mem_append_left _ hbefore)
  · exact x.plain c htext
  · exact hpad (List.mem_append_right _ hafter)

theorem bar_not_mem (x : Cell) : '|' ∉ x.written := fun h => (x.of_mem_written _ h).1 rfl

end Cell

/-- A row: four cells and perhaps more. The first is not the one of the heading. -/
structure Row where
  id : Cell
  name : Cell
  status : Cell
  image : Cell
  more : List Cell
  notHeading : Text.upper id.content ≠ "ID"

namespace Row

def cells (r : Row) : List Cell := r.id :: r.name :: r.status :: r.image :: r.more

/-- The cells with bars between them. -/
def written (r : Row) : List Char := ['|'].intercalate (r.cells.map Cell.written)

/-- The container that the row shows. -/
def shown (r : Row) : ListedContainer :=
  ⟨r.id.content, r.name.content, r.status.content, r.image.content⟩

theorem cells_written (r : Row) : Listing.cells r.written = r.cells.map Cell.content := by
  have hpieces : Text.pieces '|' r.written = r.cells.map Cell.written :=
    Text.pieces_intercalate (by simp [cells]) (List.forall_mem_map.mpr fun x _ => x.bar_not_mem)
  rw [Listing.cells, hpieces, List.map_map]
  exact List.map_congr_left fun x _ => x.trim_written

/-- A row is read as the container that it shows. -/
theorem row?_written (r : Row) : row? r.written = some r.shown := by
  have hbar : '|' ∈ r.written := by
    rw [written, cells, List.map_cons, List.map_cons, List.intercalate_cons_cons]
    simp
  rw [row?, if_neg (not_not_intro hbar), r.cells_written]
  exact if_neg r.notHeading

theorem isBoundary_written (r : Row) : ∀ c ∈ r.written, Text.isBoundary c = false := by
  have key (xs : List Cell) :
      ∀ c ∈ ['|'].intercalate (xs.map Cell.written), Text.isBoundary c = false := by
    induction xs with
    | nil => simp
    | cons x xs ih =>
      cases xs with
      | nil =>
        rw [List.map_singleton, List.intercalate_singleton]
        exact fun c hc => (x.of_mem_written c hc).2
      | cons y ys =>
        rw [List.map_cons, List.map_cons, List.intercalate_cons_cons]
        refine List.forall_mem_append.mpr ⟨List.forall_mem_append.mpr ⟨fun c hc => ?_, ?_⟩, ih⟩
        · exact (x.of_mem_written c hc).2
        · exact List.forall_mem_singleton.mpr (by decide)
  exact key r.cells

end Row

/-- A line that shows no container: it has no bar, or fewer than four cells, or it is the
heading. -/
structure Noise where
  text : List Char
  oneLine : ∀ c ∈ text, Text.isBoundary c = false
  silent : '|' ∉ text ∨ (cells text).length < 4 ∨
    ∃ first ∈ (cells text).head?, Text.upper first = "ID"

theorem Noise.row?_text (n : Noise) : row? n.text = none := by
  have hsilent := n.silent
  rw [row?]
  split
  · rfl
  · next hbar =>
    split
    · next hcells =>
      rw [hcells] at hsilent
      obtain hnone | hfew | ⟨first, hfirst, hid⟩ := hsilent
      · exact absurd hnone hbar
      · simp only [List.length_cons] at hfew
        omega
      · obtain rfl := Option.some.inj hfirst
        exact if_pos hid
    · rfl

/-- A line of a table. -/
inductive Line
  | row (r : Row)
  | noise (n : Noise)

namespace Line

def written : Line → List Char
  | row r => r.written
  | noise n => n.text

/-- The container that a line shows. -/
def shown? : Line → Option ListedContainer
  | row r => some r.shown
  | noise _ => none

theorem row?_written (l : Line) : row? l.written = l.shown? := by
  cases l with
  | row r => exact r.row?_written
  | noise n => exact n.row?_text

theorem isBoundary_written (l : Line) : ∀ c ∈ l.written, Text.isBoundary c = false := by
  cases l with
  | row r => exact r.isBoundary_written
  | noise n => exact n.oneLine

end Line

/-- What parts two lines: a boundary, or the two characters that make one. -/
inductive Break
  | single (c : Char) (boundary : Text.isBoundary c = true)
  | crlf

def Break.written : Break → List Char
  | .single c _ => [c]
  | .crlf => ['\r', '\n']

/-- Lines with a break between any two. -/
def written (first : Line) (rest : List (Break × Line)) : List Char :=
  first.written ++ rest.flatMap fun x => x.1.written ++ x.2.written

/-- A break parts what a line shows from what the lines behind it show. -/
theorem rows_append {l : List Char} (hl : ∀ c ∈ l, Text.isBoundary c = false) (b : Break)
    (s : List Char) :
    (Text.splitLines (l ++ (b.written ++ s))).filterMap row? =
      (row? l).toList ++ (Text.splitLines s).filterMap row? := by
  have hrows {s' : List Char} {ls : List (List Char)} (h : Text.splitLines s' = [] :: ls) :
      (Text.splitLines (l ++ s')).filterMap row? = (row? l).toList ++ ls.filterMap row? := by
    rw [Text.splitLines_append hl h]
    cases hrow : row? l <;> simp [hrow]
  cases b with
  | crlf => exact hrows (Text.splitLines_cons '\r' ('\n' :: s))
  | single c hc =>
    have hbreak := Text.splitLines_cons c s
    rw [if_pos hc] at hbreak
    refine (hrows hbreak).trans ?_
    split
    · next hcrlf =>
      -- a newline follows, so the two breaks are one; the empty line between them shows nothing
      obtain ⟨r, rfl⟩ := List.head?_eq_some_iff.mp hcrlf.2
      have hnewline : Text.splitLines ('\n' :: r) = [] :: Text.splitLines r :=
        Text.splitLines_cons '\n' r
      rw [hnewline]
      rfl
    · rfl

/-- The last line needs no break. -/
theorem rows_of_line {l : List Char} (hl : ∀ c ∈ l, Text.isBoundary c = false) :
    (Text.splitLines l).filterMap row? = (row? l).toList := by
  by_cases hne : l = []
  · subst hne
    rfl
  · rw [Text.splitLines_of_none hne hl]
    cases h : row? l <;> simp [h]

/-- The rows of a table are found, in order, and nothing else. The induction is on the lines behind
the first one. -/
theorem parse_written (first : Line) (rest : List (Break × Line)) :
    parse (String.ofList (written first rest)) =
      (first :: rest.map Prod.snd).filterMap Line.shown? := by
  rw [parse, String.toList_ofList]
  induction rest generalizing first with
  | nil =>
    rw [written, List.flatMap_nil, List.append_nil, rows_of_line first.isBoundary_written,
      first.row?_written]
    cases first <;> rfl
  | cons x rest ih =>
    have htext : written first (x :: rest) =
        first.written ++ (x.1.written ++ written x.2 rest) := by
      simp [written]
    rw [htext, rows_append first.isBoundary_written, first.row?_written, ih x.2]
    cases first <;> rfl

/-- Of the rows of a table, the first one of a name is found. -/
theorem find?_rows {rows : List ListedContainer} {table : String} (h : parse table = rows)
    (name err : String) (later : List Reply) (w : World) :
    ((Tool.find? name).run { w with replies := .ended 0 table err :: later }).1 =
      .ok (rows.find? (·.name = name)) := by
  obtain ⟨w', hrun, -, -⟩ := Tool.does_find? name { w with replies := .ended 0 table err :: later }
  rw [hrun, ← h]
  rfl

/-- A table gives back what was written into it. Its containers are the first four cells of its rows,
in order, without the white space around them: no row is lost, two never become one, no cell is
taken for another, and a line that is no row shows nothing, however the lines are broken. The
container of a name that is looked for is the first row whose name is just this, and there is none
exactly if no row has the name. -/
theorem table_reads_back (first : Line) (rest : List (Break × Line)) :
    let table := String.ofList (written first rest)
    let rows := (first :: rest.map Prod.snd).filterMap Line.shown?
    parse table = rows ∧
      ∀ (name err : String) (later : List Reply) (w : World), ∃ found,
        ((Tool.find? name).run { w with replies := .ended 0 table err :: later }).1 = .ok found ∧
        (∀ c, found = some c ↔ ∃ before after, rows = before ++ c :: after ∧ c.name = name ∧
          ∀ d ∈ before, d.name ≠ name) ∧
        (found = none ↔ ∀ c ∈ rows, c.name ≠ name) := by
  intro table rows
  have hparse : parse table = rows := parse_written first rest
  refine ⟨hparse, fun name err later w =>
    ⟨_, find?_rows hparse name err later w, fun c => ?_, ?_⟩⟩
  · rw [List.find?_eq_some_iff_append]
    constructor
    · rintro ⟨hname, before, after, hrows, hbefore⟩
      exact ⟨before, after, hrows, by simpa using hname, fun d hd => by simpa using hbefore d hd⟩
    · rintro ⟨before, after, hrows, hname, hbefore⟩
      exact ⟨by simpa using hname, before, after, hrows, fun d hd => by simpa using hbefore d hd⟩
  · rw [List.find?_eq_none]
    simp only [decide_eq_true_eq, ne_eq]

/-- That a line holds no boundary can be computed. -/
theorem isBoundary_eq_false_of_all {l : List Char}
    (h : (l.all fun c => !Text.isBoundary c) = true) : ∀ c ∈ l, Text.isBoundary c = false := by
  simpa using h

/-- Whether three texts make a cell: white space, what the cell says, and white space. -/
def Cell.fits (before text after : String) : Bool :=
  (before.toList ++ after.toList).all (fun c => Text.isBlank c && !Text.isBoundary c) &&
    text.toList.all (fun c => c != '|' && !Text.isBoundary c) &&
      (text.toList.head?.toList ++ text.toList.getLast?.toList).all (!Text.isBlank ·)

/-- The cell of three texts. -/
def Cell.ofTexts (before text after : String) (h : fits before text after = true) : Cell :=
  have hfits : ((∀ c ∈ before.toList ++ after.toList, Text.isBlank c = true ∧
      Text.isBoundary c = false) ∧ ∀ c ∈ text.toList, c ≠ '|' ∧ Text.isBoundary c = false) ∧
      ∀ c ∈ text.toList.head?.toList ++ text.toList.getLast?.toList, Text.isBlank c = false := by
    simpa only [fits, Bool.and_eq_true, List.all_eq_true, Bool.not_eq_true', bne_iff_ne] using h
  { before := before.toList
    text := text.toList
    after := after.toList
    padding := hfits.1.1
    plain := hfits.1.2
    head := fun c hc => hfits.2 c (List.mem_append_left _ (Option.mem_toList.mpr hc))
    last := fun c hc => hfits.2 c (List.mem_append_right _ (Option.mem_toList.mpr hc)) }

/-- A heading. -/
def heading : Noise where
  text := "ID | NAME | STATUS | IMAGE".toList
  oneLine := isBoundary_eq_false_of_all (by decide)
  silent := .inr (.inr ⟨"ID", by decide, by decide⟩)

/-- A row of five cells, with white space of several kinds around them. -/
def boxRow : Row where
  id := .ofTexts " " "1" " " (by decide)
  name := .ofTexts " " "dev" "\t" (by decide)
  status := .ofTexts "" "Up 2 hours" "\u3000" (by decide)
  image := .ofTexts "" "img:1" "" (by decide)
  more := [.ofTexts " " "x" "" (by decide)]
  notHeading := by decide

/-- A line that ends too early. -/
def brokenOff : Noise where
  text := "2 | dev |".toList
  oneLine := isBoundary_eq_false_of_all (by decide)
  silent := .inr (.inl (by decide))

/-- The lines behind the heading. -/
def boxLines : List (Break × Line) :=
  [(.crlf, .row boxRow), (.single '\u2028' (by decide), .noise brokenOff)]

theorem table_reads_back_boxes :
    let table := "ID | NAME | STATUS | IMAGE\r\n 1 | dev\t|Up 2 hours\u3000|img:1| x\u20282 | dev |"
    parse table = [⟨"1", "dev", "Up 2 hours", "img:1"⟩] ∧
      ∀ w : World, ((Tool.find? "dev").run { w with replies := [.ended 0 table ""] }).1 =
        .ok (some ⟨"1", "dev", "Up 2 hours", "img:1"⟩) := by
  intro table
  have htable : String.ofList (written (.noise heading) boxLines) = table := by decide
  have hrows : (Line.noise heading :: boxLines.map Prod.snd).filterMap Line.shown? =
      [⟨"1", "dev", "Up 2 hours", "img:1"⟩] := by
    decide
  obtain ⟨hparse, hfind⟩ := table_reads_back (.noise heading) boxLines
  rw [htable, hrows] at hparse hfind
  refine ⟨hparse, fun w => ?_⟩
  obtain ⟨found, hrun, hsome, -⟩ := hfind "dev" "" [] w
  obtain rfl := (hsome _).mpr ⟨[], [], rfl, rfl, List.forall_mem_nil _⟩
  exact hrun

end Listing

end BoxWarden
