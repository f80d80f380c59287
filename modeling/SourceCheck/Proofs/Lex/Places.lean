import SourceCheck.Proofs.Lex.Partition
import SourceCheck.Proofs.Source.Position

/-! # Places of tokens and errors

Every token and every error that lexing finds in a source stands between characters of it, at the
row and column that the text before it gives. These are the row and column that the line breaks
of the source give for its offset. The text of a token is of one line.
-/

namespace SourceCheck

/-- A span of a source between characters, and the row and column where it starts. -/
def Source.Places (s : Source) (span : Span) (position : Position) : Prop :=
  ∃ before inside after, span.Cuts s.chars before inside after ∧
    position = (Place.start.advance before).position

theorem mem_of_mem_textOf {kind : TokenKind} {lexeme : List Char} {c : Char}
    (h : c ∈ kind.textOf lexeme) : c ∈ lexeme := by
  unfold TokenKind.textOf at h
  split at h
  · exact List.mem_of_mem_tail (List.dropLast_subset _ h)
  · exact List.mem_of_mem_tail (List.dropLast_subset _ h)
  · exact h

variable {source : Source}

theorem places_of_mem_errors {e : LexError} (h : e ∈ (lex source.text).errors) :
    source.Places e.span e.position := by
  obtain ⟨fs, -, he, hc⟩ := lexFrom_cut .start source.chars
  replace he : fs.filterMap Finding.error? = (lex source.text).errors :=
    he.trans (errors_lex source.text).symm
  rw [← he] at h
  obtain ⟨f, hf, hfe⟩ := List.mem_filterMap.mp h
  obtain rfl := Finding.eq_error hfe
  obtain ⟨before, lexeme, after, hcuts, -, hposition⟩ := hc.cuts [] rfl _ hf
  exact ⟨before, lexeme, after, hcuts, hposition⟩

theorem exists_cuts_of_mem_tokens {t : Token} (h : t ∈ (lex source.text).stream.tokens) :
    ∃ before lexeme after, t.span.Cuts source.chars before lexeme after ∧
      (Finding.token t).Fits lexeme after ∧
      t.position = (Place.start.advance before).position := by
  obtain ⟨fs, ht, -, hc⟩ := lexFrom_cut .start source.chars
  replace ht : fs.filterMap Finding.token? = (lex source.text).stream.tokens :=
    ht.trans (tokens_lex source.text).symm
  rw [← ht] at h
  obtain ⟨f, hf, hft⟩ := List.mem_filterMap.mp h
  obtain rfl := Finding.eq_token hft
  exact hc.cuts [] rfl _ hf

theorem places_of_mem_tokens {t : Token} (h : t ∈ (lex source.text).stream.toList) :
    source.Places t.span t.position := by
  rcases List.mem_append.mp h with h | h
  · obtain ⟨before, lexeme, after, hcuts, -, hposition⟩ := exists_cuts_of_mem_tokens h
    exact ⟨before, lexeme, after, hcuts, hposition⟩
  · rw [List.mem_singleton.mp h, eof_lex]
    exact ⟨source.chars, [], [], ⟨by simp [Source.chars], rfl, rfl⟩, rfl⟩

theorem newline_notMem_text {t : Token} (h : t ∈ (lex source.text).stream.toList) :
    '\n' ∉ t.text.toList := by
  rcases List.mem_append.mp h with h | h
  · obtain ⟨_, lexeme, _, -, ⟨⟨hlexeme, -⟩, htext⟩, -⟩ := exists_cuts_of_mem_tokens h
    rw [htext]
    exact fun hn => hlexeme.newline_notMem (mem_of_mem_textOf hn)
  · rw [List.mem_singleton.mp h, eof_lex]
    simp

theorem Source.Places.position?_start {span : Span} {position : Position}
    (h : source.Places span position) : source.position? span.start = some position := by
  obtain ⟨before, inside, after, ⟨hchars, hstart, -⟩, rfl⟩ := h
  rw [hstart]
  exact position?_of_append hchars

/-- Lexing counts rows and columns as it reads; for every token, that of the end of the file
included, and for every error it arrives at what the line breaks give. -/
theorem lex_positions (source : Source) :
    (∀ t ∈ (lex source.text).stream.toList, source.position? t.span.start = some t.position) ∧
      ∀ e ∈ (lex source.text).errors, source.position? e.span.start = some e.position := by
  constructor
  · intro t ht
    exact (places_of_mem_tokens ht).position?_start
  · intro e he
    exact (places_of_mem_errors he).position?_start

theorem lex_positions_after_multibyte_comment :
    let source : Source := ⟨"main", "\"é\" // ü\n$ x"⟩
    let x : Token := ⟨.identifier, "x", ⟨13, 14⟩, ⟨2, 3⟩⟩
    let fault : LexError := ⟨.unexpectedChar '$', ⟨11, 12⟩, ⟨2, 1⟩⟩
    (x ∈ (lex source.text).stream.toList ∧ source.position? 13 = some ⟨2, 3⟩) ∧
      fault ∈ (lex source.text).errors ∧ source.position? 11 = some ⟨2, 1⟩ := by
  intro source x fault
  have hx : x ∈ (lex source.text).stream.toList := by decide +kernel
  have hfault : fault ∈ (lex source.text).errors := by decide +kernel
  exact ⟨⟨hx, (lex_positions source).1 x hx⟩, hfault, (lex_positions source).2 fault hfault⟩

end SourceCheck
