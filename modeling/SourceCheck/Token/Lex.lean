import SourceCheck.Token.Lexer

/-! # Lexing

A source is cut into pieces from left to right; its tokens and faults are kept with the places
where they stand. Lexing never fails: a fault is reported, and the text after it is read on.
The lexer finds what following the places of the pieces finds (`Lexer.run_eq`), and none of its
cuts is inside a character.
-/

namespace SourceCheck

/-- The token whose lexeme reaches from one place to another. -/
def Token.between (p q : Place) (kind : TokenKind) (lexeme : List Char) : Token :=
  ⟨kind, String.ofList (kind.textOf lexeme), ⟨p.offset, q.offset⟩, p.position⟩

/-- What lexing finds in a text, and the place where the text ends. -/
structure Lexed where
  tokens : List Token
  errors : List LexError
  stop : Place
  deriving DecidableEq, Repr

def Lexed.add (p q : Place) (lexeme : List Char) (rest : Lexed) : Piece → Lexed
  | .gap => rest
  | .token kind => ⟨Token.between p q kind lexeme :: rest.tokens, rest.errors, rest.stop⟩
  | .fault kind =>
    ⟨rest.tokens, ⟨kind, ⟨p.offset, q.offset⟩, p.position⟩ :: rest.errors, rest.stop⟩

def lexFrom (p : Place) : List Char → Lexed
  | [] => ⟨[], [], p⟩
  | c :: cs =>
    let head := scan c cs
    let lexeme := c :: cs.take head.2
    let q := p.advance lexeme
    Lexed.add p q lexeme (lexFrom q (cs.drop head.2)) head.1
termination_by cs => cs.length
decreasing_by simp only [List.length_drop, List.length_cons]; omega

theorem kind_ne_eof_of_mem_lexFrom (p : Place) (cs : List Char) :
    ∀ t ∈ (lexFrom p cs).tokens, t.kind ≠ .eof := by
  fun_induction lexFrom p cs with
  | case1 => simp
  | case2 p c cs head lexeme q ih =>
    have hne := scan_ne_eof c cs
    cases h : head.1 with
    | gap => simpa [Lexed.add] using ih
    | fault kind => simpa [Lexed.add] using ih
    | token kind =>
      intro t ht
      rcases List.mem_cons.mp ht with rfl | ht
      · rintro (rfl : kind = .eof)
        exact hne h
      · exact ih t ht

theorem stop_lexFrom (p : Place) (cs : List Char) : (lexFrom p cs).stop = p.advance cs := by
  fun_induction lexFrom p cs with
  | case1 p => rfl
  | case2 p c cs head lexeme q ih =>
    have hcs : c :: cs = lexeme ++ cs.drop head.2 := by
      rw [List.cons_append, List.take_append_drop]
    rw [hcs, Place.advance_append]
    cases head.1 <;> exact ih

namespace Lexer

variable {l : Lexer} {before cs : List Char} {c : Char}

/-- The columns of a token are counted from the last line start, or from the token before it. -/
theorem exists_startToken (h : l.At before) : ∃ l', l.startToken = some l' ∧ l'.At before ∧
    l'.tokenStart = Text.byteLength before ∧
    l'.tokenPosition = (Place.start.advance before).position ∧ l'.errors = l.errors := by
  have hpos := h.bytePos_eq
  obtain ⟨hsource, above, since, rfl, hsince, hcolPos, hplace⟩ := h
  have hslice : Text.slice? l.source l.colPos l.bytePos = some since := by
    rw [hpos, hcolPos, hsource, List.append_assoc, Text.byteLength_append]
    exact Text.slice?_append above since _
  have hposition : (Place.start.advance (above ++ since)).position =
      ⟨l.row, l.col + since.length⟩ := by
    rw [Place.advance_append, Place.advance_of_notMem hsince]
    simp only [Place.position, Position.mk.injEq] at hplace ⊢
    omega
  have hstart : l.startToken = some { l with
      tokenStart := l.bytePos, col := l.col + since.length, colPos := l.bytePos,
      tokenPosition := ⟨l.row, l.col + since.length⟩ } := by
    simp only [startToken, hslice]
    rfl
  exact ⟨_, hstart, ⟨hsource, above ++ since, [], by simp, by simp, hpos, hposition⟩, hpos,
    hposition.symm, rfl⟩

theorem lexToken_nil (h : l.At before) (hrest : l.chars.rest = []) :
    ∃ l', l.lexToken = some (none, l') ∧ l'.At before ∧ l'.errors = l.errors := by
  obtain ⟨started, hstart, hat, -, -, herrors⟩ := exists_startToken h
  have hbump : started.bump = (none, started) := by
    apply bump_nil
    rw [rest_startToken hstart, hrest]
  exact ⟨started, lexToken_of_bump_none hstart hbump, hat, herrors⟩

theorem finishToken_eq {lexeme : List Char} (h : l.At (before ++ lexeme))
    (hstart : l.tokenStart = Text.byteLength before)
    (hposition : l.tokenPosition = (Place.start.advance before).position) (kind : TokenKind) :
    let p := Place.start.advance before
    l.span = ⟨p.offset, (p.advance lexeme).offset⟩ ∧
      l.finishToken kind = some (.between p (p.advance lexeme) kind lexeme) := by
  have hspan : l.span = ⟨(Place.start.advance before).offset,
      ((Place.start.advance before).advance lexeme).offset⟩ := by
    rw [span, h.bytePos_eq, hstart, ← Place.advance_append]
    simp [Place.start]
  have hlexeme : l.lexeme? = some lexeme := by
    rw [lexeme?, h.bytePos_eq, h.source_eq, hstart, List.append_assoc, Text.byteLength_append]
    exact Text.slice?_append before lexeme _
  refine ⟨hspan, ?_⟩
  rw [finishToken, hlexeme, hspan, hposition]
  rfl

theorem lexToken_cons (h : l.At before) (hrest : l.chars.rest = c :: cs) :
    let head := scan c cs
    let lexeme := c :: cs.take head.2
    let p := Place.start.advance before
    ∃ l' : Lexer, l'.At (before ++ lexeme) ∧ l'.chars.rest = cs.drop head.2 ∧ l'.errors = l.errors ∧
      (∀ kind, (l'.report kind).errors =
        l.errors ++ [⟨kind, ⟨p.offset, (p.advance lexeme).offset⟩, p.position⟩]) ∧
      (∀ kind, l'.finishToken kind = some (Token.between p (p.advance lexeme) kind lexeme)) ∧
      l.lexToken = l'.behind head.1 := by
  obtain ⟨started, hstart, hat, htoken, hposition, herrors⟩ := exists_startToken h
  have hstarted : started.chars.rest = c :: cs := by rw [rest_startToken hstart, hrest]
  obtain ⟨hc, hfirst⟩ := moves_bump hstarted
  have hcs : started.bump.2.chars.rest = cs := by
    simpa [hstarted] using hfirst.rest_eq.symm
  have hbefore := hfirst.at_append before hat
  obtain ⟨l', hpiece⟩ := exists_lexPiece hbefore (hfirst.tokenStart_eq.trans htoken)
  have hpieceMoves := moves_lexPiece hpiece
  rw [hcs] at hpiece hpieceMoves
  have hmoves : Moves started l' (c :: cs.take (scan c cs).2) := hfirst.trans hpieceMoves
  have hat' := hmoves.at_append before hat
  have hposition' := hmoves.tokenPosition_eq.trans hposition
  have herrors' := hmoves.errors_eq.trans herrors
  have hfinish := finishToken_eq hat' (hmoves.tokenStart_eq.trans htoken) hposition'
  refine ⟨l', hat', ?_, herrors', fun kind => ?_, fun kind => (hfinish kind).2,
    lexToken_of_lexPiece hstart (Prod.ext hc rfl) hpiece⟩
  · have hsplit : cs = cs.take (scan c cs).2 ++ l'.chars.rest := by
      simpa [hstarted] using hmoves.rest_eq
    exact (List.append_cancel_left ((List.take_append_drop ..).trans hsplit)).symm
  · rw [report, herrors', (hfinish .eof).1, hposition']

theorem At.report (h : l.At before) (kind : LexErrorKind) : (l.report kind).At before :=
  ⟨h.source_eq, h.counted⟩

/-- The lexer finds what follows from the places of the pieces. -/
theorem exists_lexTokens (h : l.At before) :
    let found := lexFrom (Place.start.advance before) l.chars.rest
    ∃ l', l.lexTokens = some (found.tokens, l') ∧ l'.At (before ++ l.chars.rest) ∧
      l'.errors = l.errors ++ found.errors := by
  induction hn : l.chars.rest.length using Nat.strongRecOn generalizing l before with
  | ind n ih =>
    cases hrest : l.chars.rest with
    | nil =>
      obtain ⟨l', hlex, hat, herrors⟩ := lexToken_nil h hrest
      rw [lexFrom]
      exact ⟨l', lexTokens_of_none hlex, by simpa using hat, by simpa using herrors⟩
    | cons c cs =>
      obtain ⟨l₁, hat, hdrop, herrors, hreport, hfinish, hlex⟩ := lexToken_cons h hrest
      have hlength : l₁.chars.rest.length < n := by
        rw [← hn, hrest, hdrop, List.length_drop, List.length_cons]
        omega
      have hsplit : before ++ c :: cs.take (scan c cs).2 ++ l₁.chars.rest = before ++ c :: cs := by
        rw [hdrop, List.append_assoc, List.cons_append, List.take_append_drop]
      have hplace : Place.start.advance (before ++ c :: cs.take (scan c cs).2) =
          (Place.start.advance before).advance (c :: cs.take (scan c cs).2) :=
        Place.advance_append ..
      rw [lexFrom]
      cases hpiece : (scan c cs).1 with
      | gap =>
        rw [hpiece] at hlex
        obtain ⟨l', hrun, hat', herrors'⟩ := ih _ hlength hat rfl
        rw [hplace, hdrop] at hrun herrors'
        rw [hsplit] at hat'
        exact ⟨l', (lexTokens_congr hlex).trans hrun, hat', by rw [herrors', herrors]; rfl⟩
      | fault kind =>
        rw [hpiece] at hlex
        obtain ⟨l', hrun, hat', herrors'⟩ :=
          ih (l := l₁.report kind) _ hlength (hat.report kind) rfl
        rw [hplace, report, hdrop] at hrun
        rw [hplace, hreport, report, hdrop, List.append_assoc] at herrors'
        rw [report, hsplit] at hat'
        exact ⟨l', (lexTokens_congr hlex).trans hrun, hat', herrors'⟩
      | token kind =>
        rw [hpiece, behind, hfinish, Option.map_some] at hlex
        obtain ⟨l', hrun, hat', herrors'⟩ := ih _ hlength hat rfl
        rw [hplace, hdrop] at hrun herrors'
        rw [hsplit] at hat'
        refine ⟨l', ?_, hat', by rw [herrors', herrors]; rfl⟩
        rw [lexTokens_of_some hlex, hrun]
        rfl

/-- No cut of the lexer is inside a character, and it finds what follows from places. -/
theorem run_eq (cs : List Char) :
    let found := lexFrom .start cs
    let stop := (Place.start.advance cs).position
    run cs = some ⟨found.tokens, ⟨.eof, "", .empty (Text.byteLength cs), stop⟩,
      found.errors⟩ := by
  obtain ⟨l, hlex, hat, herrors⟩ := exists_lexTokens (at_ofSource cs)
  obtain ⟨l', hstart, -, htoken, hposition, herrors'⟩ := exists_startToken hat
  have hrun : run cs = some ⟨(lexFrom .start cs).tokens,
      ⟨.eof, "", .empty l'.tokenStart, l'.tokenPosition⟩, l'.errors⟩ := by
    rw [run, hlex]
    exact congrArg (Option.bind · _) hstart
  rw [hrun, htoken, hposition, herrors', herrors]
  rfl

end Lexer

structure LexResult where
  stream : TokenStream
  errors : List LexError

/-- Every source has a token stream; what is wrong with it is reported beside the stream. -/
def lex (source : String) : LexResult :=
  have h := Lexer.run_eq source.toList
  let output := (Lexer.run source.toList).get (by simp [h])
  { stream := {
      tokens := output.tokens
      eof := output.eof
      eof_kind := by simp [output, h]
      tokens_kind := by
        simpa [output, h] using kind_ne_eof_of_mem_lexFrom .start source.toList }
    errors := output.errors }

variable (source : String)

theorem tokens_lex : (lex source).stream.tokens = (lexFrom .start source.toList).tokens := by
  simp [lex, Lexer.run_eq]

theorem errors_lex : (lex source).errors = (lexFrom .start source.toList).errors := by
  simp [lex, Lexer.run_eq]

theorem eof_lex : (lex source).stream.eof = ⟨.eof, "",
    .empty (Text.byteLength source.toList), (Place.start.advance source.toList).position⟩ := by
  simp [lex, Lexer.run_eq]

theorem eof_lex_eq_stop :
    let stop := (lexFrom .start source.toList).stop
    (lex source).stream.eof = ⟨.eof, "", .empty stop.offset, stop.position⟩ := by
  simp [eof_lex, stop_lexFrom, Place.start]

end SourceCheck
