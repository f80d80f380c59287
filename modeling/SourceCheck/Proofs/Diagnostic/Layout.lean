import Mathlib.Data.List.Forall2
import Mathlib.Data.Nat.Log
import SourceCheck.Proofs.Diagnostic.Lines
import SourceCheck.Proofs.Diagnostic.Marked
import SourceCheck.Proofs.Text.Columns

/-! # The layout of a drawn snippet

A snippet is drawn as a block: its location, the lines above the one where its span starts, that
line, and the underline. Numbers stand at the right end of a field that is as wide as the last of
them, so that every row of the block has its gutter in the same column.
-/

namespace SourceCheck

open Text

section Numbers

theorem length_repr (n : Nat) : n.repr.length = Nat.log 10 n + 1 := by
  have hle (k : Nat) (hk : 0 < k) : n.repr.length ≤ k ↔ Nat.log 10 n + 1 ≤ k := by
    rw [← String.length_toList, Nat.toList_repr, Nat.length_toDigits_le_iff (by decide) hk,
      Nat.succ_le_iff]
    exact ⟨Nat.log_lt_of_lt_pow' (Nat.ne_of_gt hk), Nat.lt_pow_of_log_lt (by decide)⟩
  have hpos : 0 < n.repr.length := by
    rw [← String.length_toList, Nat.toList_repr]
    exact Nat.length_toDigits_pos
  exact Nat.le_antisymm ((hle _ (Nat.succ_pos _)).mpr (Nat.le_refl _))
    ((hle _ hpos).mp (Nat.le_refl _))

theorem length_repr_mono {m n : Nat} (h : m ≤ n) : m.repr.length ≤ n.repr.length := by
  rw [length_repr, length_repr]
  exact Nat.succ_le_succ (Nat.log_mono_right h)

structure IsRightAligned (width number : Nat) (field : String) : Prop where
  length : field.length = width
  toList : ∃ blanks, field.toList = List.replicate blanks ' ' ++ number.repr.toList

theorem isRightAligned_padLeft {width number : Nat} (h : number.repr.length ≤ width) :
    IsRightAligned width number (padLeft width ' ' number.repr) where
  length := by
    simp [padLeft]
    omega
  toList := ⟨width - number.repr.length, by simp [padLeft]⟩

end Numbers

section Rows

/-- A row with a number: the number in its field, the gutter, and a text as it is shown. -/
def Config.IsRow (config : Config) (width number : Nat) (text : List Char) (row : String) : Prop :=
  ∃ field, IsRightAligned width number field ∧
    row = field ++ " " ++ config.gutter ++ " " ++ String.ofList (expandTabs text)

def Config.underlineRow (config : Config) (width blanks glyphs : Nat) (label : String) : String :=
  String.ofList (List.replicate width ' ') ++ " " ++ config.gutter ++ " " ++
    String.ofList (List.replicate blanks ' ') ++
    String.join (List.replicate glyphs config.underline) ++ config.underlineAfter ++ label

theorem Config.exists_isRow (config : Config) {width number : Nat}
    (h : number.repr.length ≤ width) (text : List Char) :
    ∃ row, config.IsRow width number text row ∧
      Palette.plain.write (config.drawLine width number text) = row ++ "\n" := by
  refine ⟨_, ⟨_, isRightAligned_padLeft h, rfl⟩, ?_⟩
  simp [drawLine, drawGutter, Mark.plain, String.append_assoc]

theorem Config.write_drawUnderline (config : Config) (width : Nat) (label : String)
    (marked : Marked) :
    Palette.plain.write (config.drawUnderline width label marked) =
      config.underlineRow width (underlineColumns marked.before)
        (max 1 (underlineColumns marked.inside)) label ++ "\n" := by
  simp [drawUnderline, drawGutter, underlineRow, Mark.plain, padLeft, String.append_assoc]

theorem Config.write_drawLocation (name : String) (position : Position) :
    Palette.plain.write (drawLocation name position) = position.lineIn name ++ "\n" := by
  simp [drawLocation, Mark.plain, Position.lineIn]

end Rows

section LinesUpTo

variable {s : Source} {n : Nat}

/-- The lines of an excerpt are those of the source, with the numbers of their rows. -/
theorem Source.linesUpTo_eq (h : n ≤ s.chars.count '\n') (count : Nat) :
    s.linesUpTo n count = (List.range' (n - min n count) (min n count + 1)).map fun i =>
      (i + 1, (s.line? i).getD []) := by
  have hlines : s.lines.length = s.chars.count '\n' + 1 := by
    rw [lines, List.length_map, length_pieces]
  have hcut : n - count = n - min n count := by omega
  apply List.ext_getElem
  · simp only [linesUpTo, List.length_range', List.length_map, List.length_drop, List.length_take,
      List.length_zipIdx, hlines]
    omega
  · intro k hk hk'
    rw [List.length_map, List.length_range'] at hk'
    have hlt : n - min n count + k < s.lines.length := by omega
    simp only [List.getElem_range', linesUpTo, List.getElem_map, List.getElem_drop,
      List.getElem_take, List.getElem_zipIdx, Nat.one_mul, hcut, line?,
      List.getElem?_eq_getElem hlt, Option.getD_some, Nat.add_comm 1]

theorem Source.forall₂_linesUpTo (h : n ≤ s.chars.count '\n') (count : Nat) :
    List.Forall₂ (fun i l => l.1 = i + 1 ∧ ∃ above line after,
        IsLine s.chars i above line after ∧ l.2 = visible line)
      (List.range' (n - min n count) (min n count + 1)) (s.linesUpTo n count) := by
  rw [linesUpTo_eq h, List.forall₂_map_right_iff, List.forall₂_same]
  intro i hi
  rw [List.mem_range'_1] at hi
  obtain ⟨above, line, after, hline⟩ := exists_isLine (show i ≤ s.chars.count '\n' by omega)
  exact ⟨rfl, above, line, after, hline, by rw [line?_of_isLine hline, Option.getD_some]⟩

end LinesUpTo

/-- What a drawn block shows of a source for a snippet. -/
structure Block (config : Config) (s : Source) (snippet : Snippet) where
  /-- The number of the line where the span starts, counted from zero. -/
  index : Nat
  column : Nat
  above : List Char
  line : List Char
  before : List Char
  inside : List Char
  rows : List String
  position_eq : s.position? (s.startOf snippet.span) = some ⟨index + 1, column⟩
  marksLine : s.MarksLine snippet.span index above line before inside
  /-- The rows are those of the lines directly above and of the line itself. -/
  isRow : List.Forall₂
    (fun i row => ∃ above line after, IsLine s.chars i above line after ∧
      config.IsRow (index + 1).repr.length (i + 1) (visible line) row)
    (List.range' (index - min index config.contextSize) (min index config.contextSize + 1)) rows

namespace Block

variable {config : Config} {s : Source} {snippet : Snippet}

def underlined (b : Block config s snippet) : String :=
  config.underlineRow (b.index + 1).repr.length (underlineColumns b.before)
    (max 1 (underlineColumns b.inside)) snippet.label

def text (b : Block config s snippet) : String :=
  String.join <| ((Position.mk (b.index + 1) b.column).lineIn s.name ::
    (b.rows ++ [b.underlined])).map (· ++ "\n")

end Block

section Drawing

variable {config : Config} {s : Source} {snippet : Snippet}

theorem Config.exists_rows (config : Config) {width : Nat} {indices : List Nat}
    {lines : List (Nat × List Char)}
    (h : List.Forall₂ (fun i l => l.1 = i + 1 ∧ ∃ above line after,
      IsLine s.chars i above line after ∧ l.2 = visible line) indices lines)
    (hwidth : ∀ i ∈ indices, (i + 1).repr.length ≤ width) :
    ∃ rows : List String,
      List.Forall₂ (fun i row => ∃ above line after, IsLine s.chars i above line after ∧
        config.IsRow width (i + 1) (visible line) row) indices rows ∧
      Palette.plain.write (lines.flatMap fun l => config.drawLine width l.1 l.2) =
        String.join (rows.map (· ++ "\n")) := by
  induction h with
  | nil => exact ⟨[], .nil, rfl⟩
  | @cons i l indices lines hl _ ih =>
    obtain ⟨hnumber, above, line, after, hline, htext⟩ := hl
    obtain ⟨rows, hrows, hwrite⟩ := ih fun j hj => hwidth j (List.mem_cons_of_mem _ hj)
    obtain ⟨row, hrow, hline'⟩ :=
      config.exists_isRow (hwidth i (List.mem_cons_self ..)) (visible line)
    refine ⟨row :: rows, .cons ⟨above, line, after, hline, hrow⟩ hrows, ?_⟩
    rw [List.flatMap_cons, write_append, hwrite, hnumber, htext, hline']
    simp

theorem Config.drawSnippet_of_isLine {sources : Sources} {n : Nat}
    {above line after part : List Char} (config : Config)
    (hs : sources[snippet.source]? = some s) (h : IsLine s.chars n above line after)
    (hp : part <+: line) (hstart : s.startOf snippet.span = byteLength above + byteLength part) :
    config.drawSnippet sources snippet = config.drawExcerpt s.name snippet.label
      ⟨⟨n + 1, part.length + 1⟩, s.linesUpTo n config.contextSize,
        markLine (visible line) (byteLength part) (snippet.span.stop - byteLength above)⟩ := by
  simp only [drawSnippet, hs, Source.excerpt?_of_isLine h hp hstart]

/-- A snippet that starts between characters and does not end inside a visible one is drawn as a
block. -/
theorem Config.exists_block (config : Config) {sources : Sources}
    (hs : sources[snippet.source]? = some s) (hb : IsBoundary s.chars (s.startOf snippet.span))
    (he : ¬ s.EndsInside snippet.span) :
    (config.drawSnippet sources snippet).whole = true ∧ ∃ b : Block config s snippet,
      Palette.plain.write (config.drawSnippet sources snippet).marks = b.text := by
  obtain ⟨n, above, line, after, part, hline, hp, hstart⟩ := Source.exists_isLine_of_isBoundary hb
  obtain ⟨⟨before, inside⟩, hmarked⟩ := Option.isSome_iff_exists.mp
    ((Source.isSome_markLine_iff_not_endsInside hline hp hstart).mpr he)
  have hwidth : ∀ i ∈ List.range' (n - min n config.contextSize) (min n config.contextSize + 1),
      (i + 1).repr.length ≤ (n + 1).repr.length := by
    intro i hi
    rw [List.mem_range'_1] at hi
    exact length_repr_mono (by omega)
  obtain ⟨rows, hrows, hwrite⟩ :=
    config.exists_rows (Source.forall₂_linesUpTo hline.le_count config.contextSize) hwidth
  let b : Block config s snippet :=
    { index := n
      column := part.length + 1
      above, line, before, inside, rows
      position_eq := Source.position?_startOf hline hp hstart
      marksLine := Source.marksLine_of_markLine hline hp hstart hmarked
      isRow := hrows }
  rw [config.drawSnippet_of_isLine hs hline hp hstart, hmarked]
  refine ⟨rfl, b, ?_⟩
  simp only [Config.drawExcerpt, write_append, Config.write_drawLocation, hwrite,
    Config.write_drawUnderline]
  simp [b, Block.text, Block.underlined, String.append_assoc]

theorem drawSnippet_eq_nothing {sources : Sources}
    (h : ∀ s, sources[snippet.source]? = some s →
      ¬ IsBoundary s.chars (s.startOf snippet.span)) :
    config.drawSnippet sources snippet = ⟨[], true⟩ := by
  unfold Config.drawSnippet
  split
  next => rfl
  next s hs => rw [Source.excerpt?_eq_none (h s hs)]

/-- A snippet is not drawn to its end if and only if its span ends inside a visible character. -/
theorem Config.whole_drawSnippet_eq_false_iff (config : Config) {sources : Sources} :
    (config.drawSnippet sources snippet).whole = false ↔
      ∃ s, sources[snippet.source]? = some s ∧ s.EndsInside snippet.span := by
  constructor
  · intro hwhole
    by_contra hnone
    have hdrawn : ∀ s, sources[snippet.source]? = some s →
        ¬ IsBoundary s.chars (s.startOf snippet.span) := by
      intro s hs hb
      have hw := (config.exists_block hs hb fun he => hnone ⟨s, hs, he⟩).1
      rw [hwhole] at hw
      cases hw
    rw [drawSnippet_eq_nothing hdrawn] at hwhole
    cases hwhole
  · rintro ⟨s, hs, he⟩
    obtain ⟨n, above, line, after, part, hline, hp, hstart⟩ :=
      Source.exists_isLine_of_isBoundary he.1
    have hmarked := mt (Source.isSome_markLine_iff_not_endsInside hline hp hstart).mp
      (not_not_intro he)
    rw [Option.not_isSome_iff_eq_none] at hmarked
    rw [config.drawSnippet_of_isLine hs hline hp hstart, hmarked]
    rfl

theorem exists_source_of_drawn {sources : Sources}
    (h : (config.drawSnippet sources snippet).marks ≠ []) :
    ∃ s, sources[snippet.source]? = some s ∧
      IsBoundary s.chars (s.startOf snippet.span) := by
  by_contra hnone
  refine h (congrArg Rendering.marks (drawSnippet_eq_nothing ?_))
  intro s hs hb
  exact hnone ⟨s, hs, hb⟩

theorem exists_block_of_drawn {sources : Sources}
    (hdrawn : (config.drawSnippet sources snippet).marks ≠ [])
    (hwhole : (config.drawSnippet sources snippet).whole = true) :
    ∃ s, sources[snippet.source]? = some s ∧ ∃ b : Block config s snippet,
      Palette.plain.write (config.drawSnippet sources snippet).marks = b.text := by
  obtain ⟨s, hs, hb⟩ := exists_source_of_drawn hdrawn
  have he : ¬ s.EndsInside snippet.span := by
    intro he
    rw [config.whole_drawSnippet_eq_false_iff.mpr ⟨s, hs, he⟩] at hwhole
    cases hwhole
  exact ⟨s, hs, (config.exists_block hs hb he).2⟩

end Drawing

/-- The layout of a snippet that is drawn to its end. Its last row underlines what the line shows
of the span: nothing, drawn as one glyph behind the visible text, if the span starts where the
line ends; nothing at the start if it ends there or before; and all up to the end of the visible
text if the span goes on. -/
theorem drawSnippet_layout {sources : Sources} {config : Config} {snippet : Snippet}
    (hdrawn : (config.drawSnippet sources snippet).marks ≠ [])
    (hwhole : (config.drawSnippet sources snippet).whole = true) :
    ∃ s, sources[snippet.source]? = some s ∧ ∃ b : Block config s snippet,
      Palette.plain.write (config.drawSnippet sources snippet).marks = b.text ∧
      (s.StartsAtLineEnd snippet.span → b.before = visible b.line ∧ b.inside = []) ∧
      (snippet.span.stop ≤ s.startOf snippet.span → b.inside = []) ∧
      (byteLength b.above + byteLength (visible b.line) ≤ snippet.span.stop →
        b.before ++ b.inside = visible b.line) ∧
      (b.inside = [] → b.underlined = config.underlineRow (b.index + 1).repr.length
        (underlineColumns b.before) 1 snippet.label) := by
  obtain ⟨s, hs, b, hwrite⟩ := exists_block_of_drawn hdrawn hwhole
  refine ⟨s, hs, b, hwrite, b.marksLine.of_startsAtLineEnd, b.marksLine.inside_eq_nil,
    b.marksLine.append_eq, ?_⟩
  intro hnil
  simp [Block.underlined, hnil, underlineColumns, displayWidth_isColumnCount.nil]

theorem drawSnippet_layout_continued :
    let source : Source := ⟨"main", "one\r\n two\r\nthree"⟩
    let snippet : Snippet := ⟨"here", 0, ⟨6, 13⟩⟩
    ∃ s, [source][snippet.source]? = some s ∧ ∃ b : Block {} s snippet,
      Palette.plain.write (Config.drawSnippet {} [source] snippet).marks = b.text ∧
      (s.StartsAtLineEnd snippet.span → b.before = visible b.line ∧ b.inside = []) ∧
      (snippet.span.stop ≤ s.startOf snippet.span → b.inside = []) ∧
      (byteLength b.above + byteLength (visible b.line) ≤ snippet.span.stop →
        b.before ++ b.inside = visible b.line) ∧
      (b.inside = [] → b.underlined = Config.underlineRow {} (b.index + 1).repr.length
        (underlineColumns b.before) 1 snippet.label) :=
  drawSnippet_layout (by decide +kernel) (by decide +kernel)

/-- The line above is shown with the line of the start, and the underline is cut to it. -/
example : Palette.plain.write (Config.drawSnippet {} [⟨"main", "one\r\n two\r\nthree"⟩]
    ⟨"here", 0, ⟨6, 13⟩⟩).marks = "In main:2:2\n1 │ one\n2 │  two\n  │  ^^^ here\n" := by
  decide +kernel

end SourceCheck
