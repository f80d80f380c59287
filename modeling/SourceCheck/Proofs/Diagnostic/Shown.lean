import Mathlib.Data.List.Forall2
import SourceCheck.Check
import SourceCheck.Proofs.Diagnostic.Excerpt
import SourceCheck.Proofs.Diagnostic.Lines
import SourceCheck.Proofs.Parse.Order

/-! # Every problem is shown at its place

What checking a source finds wrong can be drawn, and the drawing names the row and column that
the error carries. Lexing places its tokens and errors between characters, parsing blames tokens
only, and a span between characters has an excerpt.
-/

namespace SourceCheck

/-- A diagnostic is drawn to its end, in as many lines as its row and the settings ask for. The
second line says where it is. -/
structure Shown (sources : Sources) (config : Config) (name : String) (position : Position)
    (d : Diagnostic) : Prop where
  whole : (d.render sources config).whole = true
  lines : ∃ lines, Writes (d.render sources config).marks lines ∧
    lines.length = 5 + min (position.row - 1) config.contextSize ∧
    lines[1]? = some (position.lineIn name)

section Drawing

variable {sources : Sources} {config : Config} {source : Source} {span : Span}
  {position : Position}

theorem exists_writes_drawSnippet (snippet : Snippet)
    (hs : sources[snippet.source]? = some source) (hp : source.Places snippet.span position)
    (hconfig : config.IsOneLine) (hname : OneLine source.name) (hlabel : OneLine snippet.label) :
    (config.drawSnippet sources snippet).whole = true ∧
      ∃ lines, Writes (config.drawSnippet sources snippet).marks
          (position.lineIn source.name :: lines) ∧
        lines.length = 2 + min (position.row - 1) config.contextSize := by
  obtain ⟨before, inside, after, hcuts, rfl⟩ := hp
  obtain ⟨e, he, hposition, hlength, hlines, hmarked⟩ :=
    source.exists_excerpt hcuts config.contextSize
  obtain ⟨hwhole, lines, hwrites, hcount⟩ :=
    Config.exists_writes_drawExcerpt hconfig hname hlabel hlines hmarked
  simp only [Config.drawSnippet, hs, he]
  rw [← hposition]
  exact ⟨hwhole, lines, hwrites, by omega⟩

theorem shown_of_places {id code : Nat} {message label : String}
    (hs : sources[id]? = some source) (hp : source.Places span position)
    (hconfig : config.IsOneLine) (hname : OneLine source.name) (hmessage : OneLine message)
    (hlabel : OneLine label) :
    Shown sources config source.name position
      (((Diagnostic.blank.withCode code).withMessage message).withSnippet ⟨label, id, span⟩) := by
  let snippet : Snippet := ⟨label, id, span⟩
  let d := ((Diagnostic.blank.withCode code).withMessage message).withSnippet snippet
  have hd : d.snippets = [snippet] := rfl
  obtain ⟨header, hheader⟩ : ∃ line, Writes d.drawHeader [line] :=
    Diagnostic.exists_writes_drawHeader rfl rfl hmessage
  obtain ⟨hwhole, lines, hlines, hlength⟩ :=
    exists_writes_drawSnippet snippet hs hp hconfig hname hlabel
  have hclose : Writes [.text "\n"] [""] := Writes.line (by decide +kernel) (by decide +kernel)
  have hrender : d.render sources config =
      ⟨d.drawHeader ++ ((config.drawSnippet sources snippet).marks ++ [.text "\n"]), true⟩ := by
    simp [Diagnostic.render, hd, hwhole, Rendering.andThen]
  constructor
  · exact congrArg Rendering.whole hrender
  · refine ⟨header :: position.lineIn source.name :: (lines ++ [""]), ?_, ?_, rfl⟩
    · change Writes (d.render sources config).marks _
      rw [hrender]
      exact hheader.append (hlines.append hclose)
    · simp only [List.length_cons, List.length_append, List.length_nil, hlength]
      omega

end Drawing

/-- Every problem that checking a source finds is shown, at the position that its error carries. -/
theorem check_shown {sources : Sources} {id : Nat} {source : Source} {config : Config}
    (hsource : sources[id]? = some source) (hconfig : config.IsOneLine)
    (hname : OneLine source.name) :
    ∃ report, check sources id = some report ∧
      List.Forall₂ (Shown sources config source.name)
        ((lex source.text).errors.map (·.position) ++
          (parse (lex source.text).stream).errors.map (·.position))
        report.diagnostics := by
  have hcheck : check sources id = some
      { program := (parse (lex source.text).stream).program
        diagnostics := (lex source.text).errors.map (·.diagnostic id) ++
          (parse (lex source.text).stream).errors.map (·.diagnostic id) } := by
    simp [check, hsource]
  refine ⟨_, hcheck, List.rel_append ?_ ?_⟩
  · rw [List.forall₂_map_left_iff, List.forall₂_map_right_iff, List.forall₂_same]
    intro e he
    exact shown_of_places hsource (places_of_mem_errors he) hconfig hname e.kind.oneLine_message
      (by decide +kernel)
  · rw [List.forall₂_map_left_iff, List.forall₂_map_right_iff, List.forall₂_same]
    intro e he
    obtain ⟨t, ht, ⟨hspan, hposition⟩, htext⟩ := exists_isOf_of_mem_errors he
    have hplaces := places_of_mem_tokens ht
    rw [← hspan, ← hposition] at hplaces
    apply shown_of_places hsource hplaces hconfig hname _ e.kind.oneLine_label
    apply ParseErrorKind.oneLine_message
    intro k text hk
    rw [htext k text hk]
    exact newline_notMem_text ht

theorem check_shown_lexical_and_syntactic :
    let source : Source := ⟨"main", "fn main(): void \x7b int x = 1 $ ; return; \x7d"⟩
    ∃ report, check [source] 0 = some report ∧
      List.Forall₂ (Shown [source] {} "main") [⟨1, 29⟩, ⟨1, 39⟩] report.diagnostics := by
  intro source
  have hconfig : Config.IsOneLine {} := by
    constructor <;> decide +kernel
  have hname : OneLine source.name := by decide +kernel
  have hpositions : (lex source.text).errors.map (·.position) ++
      (parse (lex source.text).stream).errors.map (·.position) = [⟨1, 29⟩, ⟨1, 39⟩] := by
    decide +kernel
  rw [← hpositions]
  exact check_shown rfl hconfig hname

end SourceCheck
