import SourceCheck.Diagnostic.Receiver
import SourceCheck.Proofs.Diagnostic.Excerpt
import SourceCheck.Proofs.Diagnostic.Lines

/-! # Colour is decoration

A terminal keeps every character with the attributes that were on when it was written. A coloured
drawing shows there the same parts as the plain one, each with the look of its role, and leaves
no attribute on, also if it stops inside a character.
-/

namespace SourceCheck

section Terminal

structure Attributes where
  bold : Bool := false
  dimmed : Bool := false
  red : Bool := false
  deriving DecidableEq, Repr

inductive Signal
  | char (c : Char)
  | reset
  | bold
  | dimmed
  | red
  deriving DecidableEq, Repr

/-- Reads an output. Other escape sequences than those of the attributes are characters. -/
def Signal.read : List Char → List Signal
  | '\x1b' :: '[' :: '0' :: 'm' :: rest => reset :: read rest
  | '\x1b' :: '[' :: '1' :: 'm' :: rest => bold :: read rest
  | '\x1b' :: '[' :: '2' :: 'm' :: rest => dimmed :: read rest
  | '\x1b' :: '[' :: '3' :: '1' :: 'm' :: rest => red :: read rest
  | c :: rest => char c :: read rest
  | [] => []

def Signal.char? : Signal → Option Char
  | char c => some c
  | _ => none

def withoutSequences (output : String) : String :=
  String.ofList ((Signal.read output.toList).filterMap Signal.char?)

/-- A terminal: the characters with the attributes they were written with, and those that are
on. -/
structure Terminal where
  screen : List (Char × Attributes) := []
  active : Attributes := {}
  deriving DecidableEq, Repr

namespace Terminal

def next (t : Terminal) : Signal → Terminal
  | .char c => { t with screen := t.screen ++ [(c, t.active)] }
  | .reset => { t with active := {} }
  | .bold => { t with active := { t.active with bold := true } }
  | .dimmed => { t with active := { t.active with dimmed := true } }
  | .red => { t with active := { t.active with red := true } }

def obey (t : Terminal) (signals : List Signal) : Terminal := signals.foldl next t

def given (output : String) : Terminal := obey {} (Signal.read output.toList)

end Terminal

end Terminal

abbrev EscapeFree (s : String) : Prop := Avoids '\x1b' s

section Read

theorem Signal.read_cons {c : Char} (h : c ≠ '\x1b') (cs : List Char) :
    read (c :: cs) = char c :: read cs := by
  rw [read]
  all_goals simp [h]

theorem Signal.read_append {cs : List Char} (h : '\x1b' ∉ cs) (rest : List Char) :
    read (cs ++ rest) = cs.map char ++ read rest := by
  induction cs with
  | nil => rfl
  | cons c cs ih =>
    rw [List.mem_cons, not_or] at h
    rw [List.cons_append, read_cons (Ne.symm h.1), ih h.2]
    rfl

def Mark.signals : Mark → List Signal
  | text s => s.toList.map .char
  | style .error => [.reset, .bold, .red]
  | style .subtle => [.reset, .dimmed]
  | reset => [.reset]

theorem Mark.read_ansi {mark : Mark} (h : EscapeFree mark.plain) (rest : List Char) :
    Signal.read (mark.ansi.toList ++ rest) = mark.signals ++ Signal.read rest := by
  cases mark with
  | text s => exact Signal.read_append h rest
  | style s =>
    cases s with
    | error => rfl
    | subtle => rfl
  | reset => rfl

theorem Mark.filterMap_signals (mark : Mark) :
    mark.signals.filterMap Signal.char? = mark.plain.toList := by
  cases mark with
  | text s => simp [signals, plain, List.filterMap_map, Function.comp_def, Signal.char?]
  | style s => cases s <;> rfl
  | reset => rfl

theorem ansi_write_cons (mark : Mark) (marks : List Mark) :
    Palette.ansi.write (mark :: marks) = mark.ansi ++ Palette.ansi.write marks := by
  simp [Palette.write]

theorem read_write {marks : List Mark} (h : EscapeFree (Palette.plain.write marks)) :
    Signal.read (Palette.ansi.write marks).toList = marks.flatMap Mark.signals := by
  induction marks with
  | nil => rfl
  | cons mark marks ih =>
    rw [write_cons] at h
    obtain ⟨hmark, hmarks⟩ := avoids_append.mp h
    rw [ansi_write_cons, String.toList_append, Mark.read_ansi hmark, ih hmarks, List.flatMap_cons]

/-- Without its escape sequences, a coloured output is the plain one. -/
theorem withoutSequences_write {marks : List Mark} (h : EscapeFree (Palette.plain.write marks)) :
    withoutSequences (Palette.ansi.write marks) = Palette.plain.write marks := by
  have hchars : (marks.flatMap Mark.signals).filterMap Signal.char? =
      (Palette.plain.write marks).toList := by
    induction marks with
    | nil => rfl
    | cons mark marks ih =>
      rw [write_cons] at h ⊢
      rw [List.flatMap_cons, List.filterMap_append, Mark.filterMap_signals,
        ih (avoids_append.mp h).2, String.toList_append]
  rw [withoutSequences, read_write h, hchars, String.ofList_toList]

end Read

section Parts

inductive Role
  | heading
  | message
  | location
  | gutter
  | sourceLine
  | underline
  | closing
  deriving DecidableEq, Repr

def Style.look : Style → Attributes
  | error => { bold := true, red := true }
  | subtle => { dimmed := true }

def Role.look : Role → Attributes
  | heading | underline => Style.error.look
  | location | gutter => Style.subtle.look
  | message | sourceLine | closing => {}

structure Part where
  role : Role
  text : String
  deriving DecidableEq, Repr

def Part.cells (p : Part) : List (Char × Attributes) := p.text.toList.map (·, p.role.look)

namespace Config

def lineParts (config : Config) (width number : Nat) (line : List Char) : List Part :=
  [⟨.gutter, Palette.plain.write (config.drawGutter width (some number))⟩,
    ⟨.sourceLine, String.ofList (expandTabs line) ++ "\n"⟩]

def underlineParts (config : Config) (width : Nat) (label : String) (marked : Marked) :
    List Part :=
  let padding := String.ofList (List.replicate (underlineColumns marked.before) ' ')
  let glyphs := List.replicate (max 1 (underlineColumns marked.inside)) config.underline
  [⟨.gutter, Palette.plain.write (config.drawGutter width none)⟩,
    ⟨.underline, padding ++ String.join glyphs ++ config.underlineAfter ++ label ++ "\n"⟩]

def excerptParts (config : Config) (name label : String) (excerpt : Excerpt) : List Part :=
  let width := excerpt.position.row.repr.length
  [⟨.location, excerpt.position.lineIn name ++ "\n"⟩] ++
    excerpt.lines.flatMap (fun l => config.lineParts width l.1 l.2) ++
      (excerpt.marked.map (config.underlineParts width label)).getD []

def snippetParts (config : Config) (sources : Sources) (snippet : Snippet) : List Part :=
  match sources[snippet.source]? with
  | none => []
  | some source =>
    match source.excerpt? config.contextSize snippet.span with
    | none => []
    | some excerpt => config.excerptParts source.name snippet.label excerpt

def snippetsParts (config : Config) (sources : Sources) : List Snippet → List Part
  | [] => [⟨.closing, "\n"⟩]
  | snippet :: rest => config.snippetParts sources snippet ++
    if (config.drawSnippet sources snippet).whole then config.snippetsParts sources rest else []

end Config

namespace Diagnostic

def headerParts (d : Diagnostic) : List Part :=
  let code := (d.code.map fun n => "[E" ++ padLeft 4 '0' n.repr ++ "] ").getD ""
  let message := (d.message.map fun s => " " ++ s).getD ""
  [⟨.heading, code ++ "error:"⟩, ⟨.message, message ++ "\n"⟩]

def parts (d : Diagnostic) (sources : Sources) (config : Config) : List Part :=
  d.headerParts ++ config.snippetsParts sources d.snippets

end Diagnostic

end Parts

/-- Marks that write parts: without colour their texts, and on a terminal with no attribute on
their cells, after which none is on again. -/
structure Paints (marks : List Mark) (parts : List Part) : Prop where
  plain : Palette.plain.write marks = String.join (parts.map Part.text)
  ansi (screen : List (Char × Attributes)) :
    Terminal.obey { screen } (marks.flatMap Mark.signals) =
      { screen := screen ++ parts.flatMap Part.cells }

namespace Terminal

theorem obey_append (t : Terminal) (signals signals' : List Signal) :
    t.obey (signals ++ signals') = (t.obey signals).obey signals' :=
  List.foldl_append

theorem obey_chars (t : Terminal) (cs : List Char) :
    t.obey (cs.map .char) = { t with screen := t.screen ++ cs.map (·, t.active) } := by
  induction cs generalizing t with
  | nil => simp [obey]
  | cons c cs ih =>
    change (t.next (.char c)).obey (cs.map .char) = _
    rw [ih]
    simp [next]

end Terminal

namespace Paints

variable {marks marks' : List Mark} {parts parts' : List Part}

theorem nil : Paints [] [] := ⟨rfl, fun screen => by simp [Terminal.obey]⟩

theorem append (h : Paints marks parts) (h' : Paints marks' parts') :
    Paints (marks ++ marks') (parts ++ parts') where
  plain := by rw [write_append, h.plain, h'.plain, List.map_append, String.join_append]
  ansi screen := by
    rw [List.flatMap_append, Terminal.obey_append, h.ansi, h'.ansi, List.flatMap_append,
      List.append_assoc]

theorem flatMap {α : Type} {f : α → List Mark} {g : α → List Part} (h : ∀ a, Paints (f a) (g a))
    (l : List α) : Paints (l.flatMap f) (l.flatMap g) := by
  induction l with
  | nil => exact nil
  | cons a l ih =>
    rw [List.flatMap_cons, List.flatMap_cons]
    exact (h a).append ih

theorem text {role : Role} (h : role.look = {}) (s : String) :
    Paints [.text s] [⟨role, s⟩] where
  plain := by simp [Mark.plain]
  ansi screen := by
    simp [Mark.signals, Terminal.obey_chars, Part.cells, h]

theorem styled {role : Role} {style : Style} {s : String} (h : role.look = style.look)
    (texts : List String) (hs : String.join texts = s) :
    Paints (.style style :: (texts.map .text ++ [.reset])) [⟨role, s⟩] where
  plain := by
    have htexts : (texts.map Mark.text).map Mark.plain = texts := by
      simp [Function.comp_def, Mark.plain]
    rw [write_cons, write_append, Palette.write, htexts, hs]
    simp [Mark.plain]
  ansi screen := by
    have hon : Terminal.obey { screen } (Mark.style style).signals =
        { screen, active := style.look } := by
      cases style <;> rfl
    have htexts : (texts.map Mark.text).flatMap Mark.signals =
        s.toList.map .char := by
      simp [← hs, List.flatMap_map, Mark.signals, String.toList_join, List.map_flatMap]
    rw [List.flatMap_cons, List.flatMap_append, htexts, Terminal.obey_append, hon,
      Terminal.obey_append, Terminal.obey_chars]
    simp [Mark.signals, Terminal.obey, Terminal.next, Part.cells, h]

end Paints

namespace Config

variable (config : Config)

theorem paints_drawGutter (width : Nat) (number : Option Nat) :
    Paints (config.drawGutter width number)
      [⟨.gutter, Palette.plain.write (config.drawGutter width number)⟩] :=
  .styled rfl [_, _] (by simp [drawGutter, Mark.plain])

theorem paints_drawLine (width number : Nat) (line : List Char) :
    Paints (config.drawLine width number line) (config.lineParts width number line) :=
  (config.paints_drawGutter width (some number)).append (.text rfl _)

theorem paints_drawUnderline (width : Nat) (label : String) (marked : Marked) :
    Paints (config.drawUnderline width label marked)
      (config.underlineParts width label marked) :=
  (config.paints_drawGutter width none).append
    (.styled rfl [_, _, _] (by simp [String.append_assoc]))

theorem paints_drawLocation (name : String) (position : Position) :
    Paints (drawLocation name position) [⟨.location, position.lineIn name ++ "\n"⟩] :=
  .styled rfl [_] (by simp [Position.lineIn])

theorem paints_drawExcerpt (name label : String) (excerpt : Excerpt) :
    Paints (config.drawExcerpt name label excerpt).marks
      (config.excerptParts name label excerpt) := by
  let width := excerpt.position.row.repr.length
  have hline (l : Nat × List Char) :
      Paints (config.drawLine width l.1 l.2) (config.lineParts width l.1 l.2) :=
    config.paints_drawLine width l.1 l.2
  have hshown := (paints_drawLocation name excerpt.position).append
    (.flatMap hline excerpt.lines)
  simp only [drawExcerpt, excerptParts]
  cases excerpt.marked with
  | none =>
    rw [Option.map_none, Option.getD_none, List.append_nil]
    exact hshown
  | some marked =>
    rw [Option.map_some, Option.getD_some]
    exact hshown.append (config.paints_drawUnderline width label marked)

theorem paints_drawSnippet (sources : Sources) (snippet : Snippet) :
    Paints (config.drawSnippet sources snippet).marks (config.snippetParts sources snippet) := by
  unfold drawSnippet snippetParts
  cases sources[snippet.source]? with
  | none => exact .nil
  | some source =>
    dsimp only
    cases source.excerpt? config.contextSize snippet.span with
    | none => exact .nil
    | some excerpt => exact config.paints_drawExcerpt source.name snippet.label excerpt

theorem paints_snippets (sources : Sources) (snippets : List Snippet) :
    Paints (snippets.foldr (fun snippet rest => (config.drawSnippet sources snippet).andThen rest)
      ⟨[.text "\n"], true⟩).marks (config.snippetsParts sources snippets) := by
  induction snippets with
  | nil => exact .text rfl "\n"
  | cons snippet rest ih =>
    have hsnippet := config.paints_drawSnippet sources snippet
    rw [List.foldr_cons, Rendering.andThen, snippetsParts]
    split
    · exact hsnippet.append ih
    · simpa using hsnippet

end Config

theorem Diagnostic.paints_drawHeader (d : Diagnostic) : Paints d.drawHeader d.headerParts := by
  have hmessage (s : String) : Paints [.text s] [⟨.message, s⟩] := .text rfl s
  unfold drawHeader headerParts
  cases d.code with
  | none =>
    have hheading : Paints [.style .error, .text "error:", .reset] [⟨.heading, "" ++ "error:"⟩] :=
      .styled rfl ["error:"] (by simp)
    cases d.message with
    | none => exact hheading.append (hmessage _)
    | some s => exact hheading.append (hmessage _)
  | some n =>
    have hheading (code : String) : Paints [.style .error, .text code, .text "error:", .reset]
        [⟨.heading, code ++ "error:"⟩] := .styled rfl [code, "error:"] (by simp)
    cases d.message with
    | none => exact (hheading _).append (hmessage _)
    | some s => exact (hheading _).append (hmessage _)

theorem Diagnostic.paints_render (d : Diagnostic) (sources : Sources) (config : Config) :
    Paints (d.render sources config).marks (d.parts sources config) :=
  d.paints_drawHeader.append (config.paints_snippets sources d.snippets)

section EscapeFree

structure Config.IsEscapeFree (config : Config) : Prop where
  gutter : EscapeFree config.gutter
  underline : EscapeFree config.underline
  underlineAfter : EscapeFree config.underlineAfter

structure Source.IsEscapeFree (s : Source) : Prop where
  name : EscapeFree s.name
  text : EscapeFree s.text

structure Diagnostic.IsEscapeFree (d : Diagnostic) : Prop where
  message : ∀ message ∈ d.message, EscapeFree message
  label : ∀ snippet ∈ d.snippets, EscapeFree snippet.label

theorem escapeFree_newline : EscapeFree "\n" := by decide +kernel

namespace Config

variable {config : Config}

theorem escapeFree_gutter (h : config.IsEscapeFree) (width : Nat) (number : Option Nat) :
    EscapeFree (Palette.plain.write (config.drawGutter width number)) :=
  avoids_drawGutter (by simp) (by decide) h.gutter width number

theorem escapeFree_lineParts (h : config.IsEscapeFree) (width number : Nat) {line : List Char}
    (hl : '\x1b' ∉ line) : ∀ p ∈ config.lineParts width number line, EscapeFree p.text := by
  have htext : EscapeFree (String.ofList (expandTabs line)) :=
    avoids_ofList.mpr (notMem_expandTabs (by decide) hl)
  simp only [lineParts, List.forall_mem_cons]
  exact ⟨escapeFree_gutter h width number, htext.append escapeFree_newline, by simp⟩

theorem escapeFree_underlineParts (h : config.IsEscapeFree) (width : Nat) {label : String}
    (hl : EscapeFree label) (marked : Marked) :
    ∀ p ∈ config.underlineParts width label marked, EscapeFree p.text := by
  have hpadding : EscapeFree
      (String.ofList (List.replicate (underlineColumns marked.before) ' ')) := by simp
  have hglyphs : EscapeFree (String.join
      (List.replicate (max 1 (underlineColumns marked.inside)) config.underline)) :=
    avoids_join fun s hs => List.eq_of_mem_replicate hs ▸ h.underline
  simp only [underlineParts, List.forall_mem_cons]
  exact ⟨escapeFree_gutter h width none, (((hpadding.append hglyphs).append
    h.underlineAfter).append hl).append escapeFree_newline, by simp⟩

theorem escapeFree_excerptParts (h : config.IsEscapeFree) {name label : String}
    (hname : EscapeFree name) (hlabel : EscapeFree label) {excerpt : Excerpt}
    (hlines : ∀ l ∈ excerpt.lines, '\x1b' ∉ l.2) :
    ∀ p ∈ config.excerptParts name label excerpt, EscapeFree p.text := by
  intro p hp
  rw [excerptParts, List.mem_append, List.mem_append] at hp
  rcases hp with (hp | hp) | hp
  · rw [List.mem_singleton.mp hp]
    have hlocation : EscapeFree (excerpt.position.lineIn name) :=
      excerpt.position.avoids_lineIn (by simp) (by decide +kernel) (by decide +kernel) hname
    exact hlocation.append escapeFree_newline
  · obtain ⟨l, hl, hp⟩ := List.mem_flatMap.mp hp
    exact escapeFree_lineParts h _ _ (hlines l hl) p hp
  · cases hmarked : excerpt.marked with
    | none => simp [hmarked] at hp
    | some marked =>
      rw [hmarked] at hp
      exact escapeFree_underlineParts h _ hlabel marked p hp

theorem escapeFree_snippetParts (h : config.IsEscapeFree) {sources : Sources}
    (hs : ∀ s ∈ sources, s.IsEscapeFree) {snippet : Snippet} (hl : EscapeFree snippet.label) :
    ∀ p ∈ config.snippetParts sources snippet, EscapeFree p.text := by
  unfold snippetParts
  split
  next => simp
  next source hsource =>
    have hfree := hs source (List.mem_of_getElem? hsource)
    split
    next => simp
    next excerpt hexcerpt =>
      refine escapeFree_excerptParts h hfree.name hl fun l hmem hescape => ?_
      exact hfree.text
        (Source.mem_chars_of_mem_lines (Source.mem_lines_of_mem_excerpt hexcerpt hmem) hescape)

theorem escapeFree_snippetsParts (h : config.IsEscapeFree) {sources : Sources}
    (hs : ∀ s ∈ sources, s.IsEscapeFree) {snippets : List Snippet}
    (hl : ∀ snippet ∈ snippets, EscapeFree snippet.label) :
    ∀ p ∈ config.snippetsParts sources snippets, EscapeFree p.text := by
  induction snippets with
  | nil => simpa [snippetsParts] using escapeFree_newline
  | cons snippet rest ih =>
    rw [List.forall_mem_cons] at hl
    intro p hp
    rw [snippetsParts, List.mem_append] at hp
    rcases hp with hp | hp
    · exact escapeFree_snippetParts h hs hl.1 p hp
    · split at hp
      next => exact ih hl.2 p hp
      next => simp at hp

end Config

theorem Diagnostic.escapeFree_headerParts {d : Diagnostic} (h : d.IsEscapeFree) :
    ∀ p ∈ d.headerParts, EscapeFree p.text := by
  have hcode : EscapeFree ((d.code.map fun n => "[E" ++ padLeft 4 '0' n.repr ++ "] ").getD "") := by
    cases d.code with
    | none => exact (by decide +kernel : EscapeFree "")
    | some n =>
      have hnumber : EscapeFree (padLeft 4 '0' n.repr) :=
        avoids_padLeft (by decide) (avoids_repr (by simp) n)
      exact .append (.append (by decide +kernel) hnumber) (by decide +kernel)
  have hmessage : EscapeFree ((d.message.map fun s => " " ++ s).getD "") := by
    cases hm : d.message with
    | none => exact (by decide +kernel : EscapeFree "")
    | some s => exact .append (by decide +kernel) (h.message s hm)
  simp only [headerParts, List.forall_mem_cons]
  exact ⟨hcode.append (by decide +kernel), hmessage.append escapeFree_newline, by simp⟩

theorem Diagnostic.escapeFree_parts {d : Diagnostic} (h : d.IsEscapeFree) {sources : Sources}
    (hs : ∀ s ∈ sources, s.IsEscapeFree) {config : Config} (hc : config.IsEscapeFree) :
    ∀ p ∈ d.parts sources config, EscapeFree p.text := by
  intro p hp
  rcases List.mem_append.mp hp with hp | hp
  · exact escapeFree_headerParts h p hp
  · exact Config.escapeFree_snippetsParts hc hs h.label p hp

end EscapeFree

/-- Colour is decoration. A coloured printer stops if and only if a plain one does, and without its
escape sequences it writes the same. A terminal shows the parts of the drawing with the looks of
their roles, and has no attribute on after them, wherever the drawing stops. -/
theorem Diagnostic.colour_decorates {d : Diagnostic} {sources : Sources} {config : Config}
    (hd : d.IsEscapeFree) (hs : ∀ s ∈ sources, s.IsEscapeFree) (hc : config.IsEscapeFree) :
    let coloured := ({ palette := .ansi, config } : Printer).emit sources d
    let bare := ({ palette := .plain, config } : Printer).emit sources d
    coloured.2 = bare.2 ∧ withoutSequences coloured.1.written = bare.1.written ∧
      bare.1.written = String.join ((d.parts sources config).map Part.text) ∧
      Terminal.given coloured.1.written =
        { screen := (d.parts sources config).flatMap Part.cells } := by
  intro coloured bare
  have hpaints := d.paints_render sources config
  have hcoloured : coloured.1.written = Palette.ansi.write (d.render sources config).marks :=
    String.empty_append
  have hbare : bare.1.written = Palette.plain.write (d.render sources config).marks :=
    String.empty_append
  have hfree : EscapeFree (Palette.plain.write (d.render sources config).marks) := by
    rw [hpaints.plain]
    apply avoids_join
    intro s hmem
    obtain ⟨p, hp, rfl⟩ := List.mem_map.mp hmem
    exact escapeFree_parts hd hs hc p hp
  rw [hcoloured, hbare]
  refine ⟨rfl, withoutSequences_write hfree, hpaints.plain, ?_⟩
  rw [Terminal.given, read_write hfree]
  exact hpaints.ansi []

theorem Diagnostic.colour_decorates_stopped :
    let sources : Sources := [⟨"main", "a\n\té"⟩]
    let d : Diagnostic := ⟨some "odd", some 3, [⟨"here", 0, ⟨3, 4⟩⟩]⟩
    let coloured := ({ palette := .ansi } : Printer).emit sources d
    let bare := ({ palette := .plain } : Printer).emit sources d
    coloured.2 = false ∧ coloured.2 = bare.2 ∧
      withoutSequences coloured.1.written = bare.1.written ∧
      bare.1.written = String.join ((d.parts sources {}).map Part.text) ∧
      Terminal.given coloured.1.written =
        { screen := (d.parts sources {}).flatMap Part.cells } := by
  intro sources d
  have hd : d.IsEscapeFree := ⟨by decide +kernel, by decide +kernel⟩
  have hs : ∀ s ∈ sources, s.IsEscapeFree := by
    intro s hmem
    rw [List.mem_singleton.mp hmem]
    exact ⟨by decide +kernel, by decide +kernel⟩
  have hc : Config.IsEscapeFree {} := ⟨by decide +kernel, by decide +kernel, by decide +kernel⟩
  exact ⟨by decide +kernel, colour_decorates hd hs hc⟩

end SourceCheck
