import SourceCheck.Text.Cursor
import SourceCheck.Token.Place
import SourceCheck.Token.Scan
import SourceCheck.Token.Stream

/-! # The lexer

A lexer goes over a source once. It counts rows where it meets a newline, and columns only where a
token starts, from the offset that it has counted to before. A lexeme is cut out of the source at
byte offsets; a cut inside a character would stop the lexer.
-/

namespace SourceCheck

structure LexError where
  kind : LexErrorKind
  span : Span
  position : Position
  deriving DecidableEq, Repr

/-- The text of a token: its lexeme, without the quotes of a literal. -/
def TokenKind.textOf (kind : TokenKind) (lexeme : List Char) : List Char :=
  match kind with
  | .string | .char => lexeme.tail.dropLast
  | _ => lexeme

structure Lexer where
  source : List Char
  chars : Text.Cursor
  tokenStart : Nat
  tokenPosition : Position
  row : Nat
  /-- The column of `colPos`. -/
  col : Nat
  colPos : Nat
  errors : List LexError

namespace Lexer

def ofSource (source : List Char) : Lexer where
  source := source
  chars := ⟨source⟩
  tokenStart := 0
  tokenPosition := ⟨1, 1⟩
  row := 1
  col := 1
  colPos := 0
  errors := []

def bytePos (l : Lexer) : Nat := Text.byteLength l.source - Text.byteLength l.chars.rest

def bump (l : Lexer) : Option Char × Lexer :=
  match l.chars.next with
  | (none, _) => (none, l)
  | (some c, chars) =>
    let l := { l with chars }
    if c = '\n' then (some c, { l with row := l.row + 1, col := 1, colPos := l.bytePos })
    else (some c, l)

def eat (l : Lexer) (c : Char) : Bool × Lexer :=
  ((l.chars.eat c).1, { l with chars := (l.chars.eat c).2 })

def eatWhile (l : Lexer) (p : Char → Bool) : Lexer :=
  { l with chars := (l.chars.eatWhile p).2 }

/-- Only the text behind the last counted offset is counted. -/
def startToken (l : Lexer) : Option Lexer := do
  let since ← Text.slice? l.source l.colPos l.bytePos
  let col := l.col + since.length
  return { l with
    tokenStart := l.bytePos, col, colPos := l.bytePos, tokenPosition := ⟨l.row, col⟩ }

def lexeme? (l : Lexer) : Option (List Char) := Text.slice? l.source l.tokenStart l.bytePos

def span (l : Lexer) : Span := ⟨l.tokenStart, l.bytePos⟩

def finishToken (l : Lexer) (kind : TokenKind) : Option Token := do
  let lexeme ← l.lexeme?
  return ⟨kind, String.ofList (kind.textOf lexeme), l.span, l.tokenPosition⟩

def report (l : Lexer) (kind : LexErrorKind) : Lexer :=
  { l with errors := l.errors ++ [⟨kind, l.span, l.tokenPosition⟩] }

section Moves

/-- The lexer has read some text, and counted rows and columns up to the last line of it. -/
structure At (l : Lexer) (before : List Char) : Prop where
  source_eq : l.source = before ++ l.chars.rest
  counted : ∃ above since, before = above ++ since ∧ '\n' ∉ since ∧
    l.colPos = Text.byteLength above ∧ (Place.start.advance above).position = ⟨l.row, l.col⟩

/-- Some characters are read, and nothing is started or reported. -/
structure Moves (l l' : Lexer) (read : List Char) : Prop where
  rest_eq : l.chars.rest = read ++ l'.chars.rest
  tokenStart_eq : l'.tokenStart = l.tokenStart
  tokenPosition_eq : l'.tokenPosition = l.tokenPosition
  errors_eq : l'.errors = l.errors
  at_append : ∀ before, l.At before → l'.At (before ++ read)

variable {l l' l'' : Lexer} {c : Char} {cs read read' before : List Char} {p : Char → Bool}

theorem at_ofSource (cs : List Char) : (ofSource cs).At [] := ⟨rfl, [], [], rfl, by simp, rfl, rfl⟩

theorem At.bytePos_eq (h : l.At before) : l.bytePos = Text.byteLength before := by
  rw [bytePos, h.source_eq, Text.byteLength_append, Nat.add_sub_cancel]

theorem Moves.refl (l : Lexer) : Moves l l [] :=
  ⟨rfl, rfl, rfl, rfl, fun _ h => by rwa [List.append_nil]⟩

theorem Moves.trans (h : Moves l l' read) (h' : Moves l' l'' read') :
    Moves l l'' (read ++ read') where
  rest_eq := by rw [h.rest_eq, h'.rest_eq, List.append_assoc]
  tokenStart_eq := h'.tokenStart_eq.trans h.tokenStart_eq
  tokenPosition_eq := h'.tokenPosition_eq.trans h.tokenPosition_eq
  errors_eq := h'.errors_eq.trans h.errors_eq
  at_append before hat := by
    rw [← List.append_assoc]
    exact h'.at_append _ (h.at_append _ hat)

theorem Moves.length_le (h : Moves l l' read) : l'.chars.rest.length ≤ l.chars.rest.length := by
  rw [h.rest_eq, List.length_append]
  exact Nat.le_add_left ..

theorem Moves.take {n : Nat} (h : Moves l l' read) (hn : read.length = n) :
    Moves l l' (l.chars.rest.take n) := by
  rwa [h.rest_eq, ← hn, List.take_left]

theorem moves_of_notMem (hrest : l.chars.rest = read ++ cs) (hread : '\n' ∉ read) :
    Moves l { l with chars := ⟨cs⟩ } read where
  rest_eq := hrest
  tokenStart_eq := rfl
  tokenPosition_eq := rfl
  errors_eq := rfl
  at_append := by
    rintro before ⟨hsource, above, since, rfl, hsince, hpos, hplace⟩
    refine ⟨by simp [hsource, hrest], above, since ++ read, by simp, ?_, hpos, hplace⟩
    simp [hsince, hread]

theorem moves_bump (h : l.chars.rest = c :: cs) : l.bump.1 = some c ∧ Moves l l.bump.2 [c] := by
  have hnext : l.chars.next = (some c, ⟨cs⟩) := by
    obtain ⟨_, ⟨_⟩, _, _, _, _, _, _⟩ := l
    cases h
    rfl
  by_cases hc : c = '\n'
  · subst hc
    have hbump : l.bump = (some '\n', { l with
        chars := ⟨cs⟩, row := l.row + 1, col := 1,
        colPos := { l with chars := ⟨cs⟩ }.bytePos }) := by
      simp only [bump, hnext, if_true]
    rw [hbump]
    refine ⟨rfl, h, rfl, rfl, rfl, fun before hat => ?_⟩
    have hsource : l.source = (before ++ ['\n']) ++ cs := by simp [hat.source_eq, h]
    refine ⟨hsource, before ++ ['\n'], [], by simp, by simp, ?_, ?_⟩
    · rw [bytePos, hsource, Text.byteLength_append, Nat.add_sub_cancel]
    · obtain ⟨-, above, since, rfl, hsince, -, hplace⟩ := hat
      have hrow : (Place.start.advance above).row = l.row := congrArg Position.row hplace
      rw [Place.advance_append, Place.advance_append, Place.advance_of_notMem hsince, hrow]
      rfl
  · have hbump : l.bump = (some c, { l with chars := ⟨cs⟩ }) := by
      simp only [bump, hnext, if_neg hc]
    rw [hbump]
    exact ⟨rfl, moves_of_notMem h (by simpa using Ne.symm hc)⟩

theorem bump_nil (h : l.chars.rest = []) : l.bump = (none, l) := by
  obtain ⟨_, ⟨_⟩, _, _, _, _, _, _⟩ := l
  cases h
  rfl

theorem peek_eq (l : Lexer) : l.chars.peek = l.chars.rest.head? := List.head?_eq_getElem?.symm

theorem moves_bump_of_peek (h : l.chars.peek = some c) : Moves l l.bump.2 [c] := by
  rw [peek_eq] at h
  obtain ⟨cs, hrest⟩ := List.head?_eq_some_iff.mp h
  exact (moves_bump hrest).2

theorem rest_of_bump (h : l.bump = (some c, l')) : l.chars.rest = c :: l'.chars.rest := by
  cases hrest : l.chars.rest with
  | nil =>
    rw [bump_nil hrest] at h
    cases h
  | cons d ds =>
    obtain ⟨hd, hmoves⟩ := moves_bump hrest
    rw [h] at hd hmoves
    cases hd
    rw [← hrest]
    exact hmoves.rest_eq

theorem length_bump_le (l : Lexer) : l.bump.2.chars.rest.length ≤ l.chars.rest.length := by
  cases hrest : l.chars.rest with
  | nil => simp [bump_nil hrest, hrest]
  | cons c cs =>
    rw [← hrest]
    exact (moves_bump hrest).2.length_le

theorem length_bump_lt (h : l.chars.peek = some c) :
    l.bump.2.chars.rest.length < l.chars.rest.length := by
  rw [(moves_bump_of_peek h).rest_eq]
  exact Nat.lt_succ_self _

theorem eat_eq_true_iff : (l.eat c).1 = true ↔ l.chars.rest.head? = some c := by
  rw [← peek_eq, eat, Text.Cursor.eat]
  split <;> simp [*]

theorem moves_eat (h : (l.eat c).1 = true) (hc : c ≠ '\n') : Moves l (l.eat c).2 [c] := by
  rw [eat_eq_true_iff] at h
  obtain ⟨cs, hrest⟩ := List.head?_eq_some_iff.mp h
  have heat : l.chars.eat c = (true, ⟨cs⟩) := by
    obtain ⟨_, ⟨_⟩, _, _, _, _, _, _⟩ := l
    cases hrest
    simp [Text.Cursor.eat, Text.Cursor.peek, Text.Cursor.peekNth, Text.Cursor.next]
  rw [eat, heat]
  exact moves_of_notMem hrest (by simpa using Ne.symm hc)

theorem moves_eatWhile (hp : p '\n' = false) :
    Moves l (l.eatWhile p) (l.chars.rest.takeWhile p) := by
  apply moves_of_notMem
  · exact (List.takeWhile_append_dropWhile ..).symm
  · intro hmem
    rw [List.all_eq_true.mp List.all_takeWhile _ hmem] at hp
    cases hp

end Moves

def skipLine (l : Lexer) : Lexer :=
  match _h : l.bump with
  | (none, l') => l'
  | (some c, l') => if c = '\n' then l' else l'.skipLine
termination_by l.chars.rest.length
decreasing_by rw [rest_of_bump _h]; exact Nat.lt_succ_self _

/-- Reads up to and including the closing quote. If the line or the source ends first, there is
none. -/
def lexQuoted (quote : Char) (l : Lexer) : Bool × Lexer :=
  match _h : l.chars.peek with
  | none => (false, l)
  | some c =>
    if c = '\n' then (false, l)
    else if c = '\\' then
      match l.bump.2.chars.peek with
      | none => l.bump.2.lexQuoted quote
      | some d =>
        if d = '\n' then l.bump.2.lexQuoted quote else l.bump.2.bump.2.lexQuoted quote
    else if c = quote then (true, l.bump.2)
    else l.bump.2.lexQuoted quote
termination_by l.chars.rest.length
decreasing_by
  · exact length_bump_lt _h
  · exact length_bump_lt _h
  · exact Nat.lt_of_le_of_lt (length_bump_le _) (length_bump_lt _h)
  · exact length_bump_lt _h

def lexNumber (l : Lexer) : TokenKind × Lexer :=
  let l := l.eatWhile Char.isDigit
  if l.chars.peek = some '.' ∧ (l.chars.peekNth 1).any Char.isDigit = true then
    (.float, l.bump.2.eatWhile Char.isDigit)
  else (.integer, l)

def lexWord (l : Lexer) : Option (TokenKind × Lexer) := do
  let l := l.eatWhile isWordPart
  return (wordKind (String.ofList (← l.lexeme?)), l)

def lexLiteral (quote : Char) (kind : TokenKind) (open_ : LexErrorKind) (l : Lexer) :
    Piece × Lexer :=
  let (closed, l) := l.lexQuoted quote
  (if closed then .token kind else .fault open_, l)

def lexPiece (l : Lexer) (c : Char) : Option (Piece × Lexer) :=
  if c = '/' ∧ (l.eat '/').1 = true then some (.gap, (l.eat '/').2.skipLine)
  else if Text.isBlank c then some (.gap, l)
  else if c = ':' ∧ (l.eat ':').1 = true then some (.token .doubleColon, (l.eat ':').2)
  else match punctuation? c with
    | some kind => some (.token kind, l)
    | none =>
      if c = '"' then some (l.lexLiteral '"' .string .unterminatedString)
      else if c = '\x27' then some (l.lexLiteral '\x27' .char .unterminatedChar)
      else if c.isDigit then some (l.lexNumber.map .token id)
      else if isWordStart c then l.lexWord.map (Prod.map .token id)
      else some (.fault (.unexpectedChar c), l)

section Pieces

variable {l l' : Lexer} {c : Char} {cs before : List Char} {piece : Piece}

theorem moves_skipLine (l : Lexer) :
    Moves l l.skipLine (l.chars.rest.take (lineLength l.chars.rest)) := by
  fun_induction skipLine l with
  | case1 l l' h =>
    cases hrest : l.chars.rest with
    | nil =>
      rw [bump_nil hrest] at h
      cases h
      exact .refl l
    | cons d ds =>
      have hd := (moves_bump hrest).1
      rw [h] at hd
      cases hd
  | case2 l l' h =>
    have hrest := rest_of_bump h
    have hmoves := (moves_bump hrest).2
    rw [h] at hmoves
    rw [hrest]
    exact hmoves
  | case3 l c l' h hc ih =>
    have hrest := rest_of_bump h
    have hmoves := (moves_bump hrest).2
    rw [h] at hmoves
    rw [hrest, lineLength, if_neg hc, List.take_succ_cons]
    exact hmoves.trans ih

theorem moves_lexQuoted (quote : Char) (l : Lexer) :
    (l.lexQuoted quote).1 = (quoted quote l.chars.rest).1 ∧
      Moves l (l.lexQuoted quote).2 (l.chars.rest.take (quoted quote l.chars.rest).2) := by
  fun_induction lexQuoted quote l with
  | case1 l h =>
    rw [peek_eq, List.head?_eq_none_iff] at h
    rw [h]
    exact ⟨rfl, .refl l⟩
  | case2 l h =>
    rw [(moves_bump_of_peek h).rest_eq, List.singleton_append, quoted_newline]
    exact ⟨rfl, .refl l⟩
  | case3 l hd h _ ih =>
    have hmoves := moves_bump_of_peek h
    rw [peek_eq, List.head?_eq_none_iff] at hd
    rw [hd] at ih
    rw [hmoves.rest_eq, hd]
    exact ⟨ih.1, hmoves.trans ih.2⟩
  | case4 l h _ hd ih =>
    have hmoves := moves_bump_of_peek h
    rw [(moves_bump_of_peek hd).rest_eq, List.singleton_append, quoted_newline] at ih
    rw [hmoves.rest_eq, (moves_bump_of_peek hd).rest_eq]
    exact ⟨ih.1, hmoves.trans ih.2⟩
  | case5 l d hd hn h _ ih =>
    have hmoves := moves_bump_of_peek h
    have hmoves' := moves_bump_of_peek hd
    rw [hmoves.rest_eq, hmoves'.rest_eq, List.singleton_append, List.singleton_append,
      quoted_escape hn]
    exact ⟨ih.1, hmoves.trans (hmoves'.trans ih.2)⟩
  | case6 l h hn hb =>
    have hmoves := moves_bump_of_peek h
    rw [hmoves.rest_eq, List.singleton_append, quoted_cons hn hb, if_pos rfl]
    exact ⟨rfl, hmoves⟩
  | case7 l c h hn hb hq ih =>
    have hmoves := moves_bump_of_peek h
    rw [hmoves.rest_eq, List.singleton_append, quoted_cons hn hb, if_neg hq]
    exact ⟨ih.1, hmoves.trans ih.2⟩

theorem moves_lexNumber (l : Lexer) : l.lexNumber.1 = (number l.chars.rest).1 ∧
    Moves l l.lexNumber.2 (l.chars.rest.take (number l.chars.rest).2) := by
  have hwhole : Moves l (l.eatWhile Char.isDigit) (l.chars.rest.takeWhile Char.isDigit) :=
    moves_eatWhile rfl
  have hrest : (l.eatWhile Char.isDigit).chars.rest = l.chars.rest.dropWhile Char.isDigit := rfl
  unfold number
  rw [← hrest]
  split
  next d ds hds =>
    have hpoint : (l.eatWhile Char.isDigit).chars.peek = some '.' := by
      rw [peek_eq, hds, List.head?_cons]
    have hdigit : (l.eatWhile Char.isDigit).chars.peekNth 1 = some d := by
      rw [Text.Cursor.peekNth, hds]
      rfl
    by_cases hd : d.isDigit = true
    · have hbump := moves_bump_of_peek hpoint
      have hfraction : Moves (l.eatWhile Char.isDigit).bump.2
          ((l.eatWhile Char.isDigit).bump.2.eatWhile Char.isDigit) _ := moves_eatWhile rfl
      have hafter : (l.eatWhile Char.isDigit).bump.2.chars.rest = d :: ds := by
        simpa [hds] using hbump.rest_eq.symm
      rw [hafter] at hfraction
      simp only [lexNumber, hpoint, hdigit, Option.any_some, hd, and_self, if_true, true_and]
      refine (hwhole.trans (hbump.trans hfraction)).take ?_
      simp only [List.length_append, List.takeWhile_cons_of_pos hd, List.length_cons,
        List.length_nil]
      omega
    · simp only [lexNumber, hpoint, hdigit, Option.any_some, hd]
      exact ⟨rfl, hwhole.take rfl⟩
  next h =>
    have hn : ¬ ((l.eatWhile Char.isDigit).chars.peek = some '.' ∧
        ((l.eatWhile Char.isDigit).chars.peekNth 1).any Char.isDigit = true) := by
      rintro ⟨hpoint, hdigit⟩
      rw [peek_eq] at hpoint
      obtain ⟨cs, hcs⟩ := List.head?_eq_some_iff.mp hpoint
      cases cs with
      | nil => simp [Text.Cursor.peekNth, hcs] at hdigit
      | cons d ds => exact h d ds hcs
    simp only [lexNumber, if_neg hn, true_and]
    exact hwhole.take rfl

theorem moves_lexWord {kind : TokenKind} (c : Char) (h : l.lexWord = some (kind, l')) :
    Moves l l' (l.chars.rest.take (word c l.chars.rest).2) := by
  obtain ⟨lexeme, -, h⟩ := Option.bind_eq_some_iff.mp h
  cases h
  exact (moves_eatWhile rfl).take rfl

theorem exists_lexWord (hat : l.At (before ++ [c]))
    (hstart : l.tokenStart = Text.byteLength before) :
    ∃ l', l.lexWord = some ((word c l.chars.rest).1, l') := by
  have hmoves : Moves l (l.eatWhile isWordPart) (l.chars.rest.takeWhile isWordPart) :=
    moves_eatWhile rfl
  have hat' := hmoves.at_append _ hat
  have hlexeme : (l.eatWhile isWordPart).lexeme? =
      some (c :: l.chars.rest.takeWhile isWordPart) := by
    rw [lexeme?, hat'.bytePos_eq, hat'.source_eq, hmoves.tokenStart_eq, hstart,
      List.append_assoc, List.append_assoc, List.append_assoc, Text.byteLength_append]
    exact Text.slice?_append before ([c] ++ _) _
  refine ⟨l.eatWhile isWordPart, ?_⟩
  simp only [lexWord, hlexeme]
  rfl

theorem moves_lexLiteral (quote : Char) (kind : TokenKind) (open_ : LexErrorKind) (l : Lexer) :
    (l.lexLiteral quote kind open_).1 = (quotedPiece quote kind open_ l.chars.rest).1 ∧
      Moves l (l.lexLiteral quote kind open_).2
        (l.chars.rest.take (quotedPiece quote kind open_ l.chars.rest).2) := by
  obtain ⟨hclosed, hmoves⟩ := moves_lexQuoted quote l
  simp only [lexLiteral, quotedPiece, hclosed, true_and]
  exact hmoves

/-- What a lexer reads is the piece that is read off the text at once. Only a word asks for its
lexeme. -/
theorem lexPiece_cases (l : Lexer) (c : Char) :
    (∃ l', l.lexPiece c = some ((scan c l.chars.rest).1, l') ∧
      Moves l l' (l.chars.rest.take (scan c l.chars.rest).2)) ∨
    l.lexPiece c = l.lexWord.map (Prod.map .token id) ∧
      scan c l.chars.rest = (word c l.chars.rest).map .token id := by
  simp only [lexPiece, scan, eat_eq_true_iff]
  by_cases hcomment : c = '/' ∧ l.chars.rest.head? = some '/'
  · obtain ⟨cs, hcs⟩ := List.head?_eq_some_iff.mp hcomment.2
    have heat := moves_eat (eat_eq_true_iff.mpr hcomment.2) (by decide)
    have hrest : (l.eat '/').2.chars.rest = cs := by simpa [hcs] using heat.rest_eq.symm
    have hline := heat.trans (moves_skipLine (l.eat '/').2)
    rw [hrest] at hline
    rw [if_pos hcomment, if_pos hcomment, hcs]
    exact .inl ⟨_, rfl, hline⟩
  rw [if_neg hcomment, if_neg hcomment]
  split
  next => exact .inl ⟨l, rfl, .refl l⟩
  by_cases hcolons : c = ':' ∧ l.chars.rest.head? = some ':'
  · have heat := moves_eat (eat_eq_true_iff.mpr hcolons.2) (by decide)
    rw [if_pos hcolons, if_pos hcolons]
    exact .inl ⟨_, rfl, heat.take rfl⟩
  rw [if_neg hcolons, if_neg hcolons]
  cases punctuation? c with
  | some kind => exact .inl ⟨l, rfl, .refl l⟩
  | none =>
    dsimp only
    split
    next =>
      obtain ⟨hpiece, hmoves⟩ := moves_lexLiteral '"' .string .unterminatedString l
      exact .inl ⟨_, by rw [← hpiece], hmoves⟩
    split
    next =>
      obtain ⟨hpiece, hmoves⟩ := moves_lexLiteral '\x27' .char .unterminatedChar l
      exact .inl ⟨_, by rw [← hpiece], hmoves⟩
    split
    next =>
      obtain ⟨hkind, hmoves⟩ := moves_lexNumber l
      exact .inl ⟨_, by rw [Prod.map_fst, ← hkind]; rfl, hmoves⟩
    split
    next => exact .inr ⟨rfl, rfl⟩
    next => exact .inl ⟨l, rfl, .refl l⟩

theorem moves_lexPiece (h : l.lexPiece c = some (piece, l')) :
    Moves l l' (l.chars.rest.take (scan c l.chars.rest).2) := by
  rcases lexPiece_cases l c with ⟨l'', hpiece, hmoves⟩ | ⟨hpiece, hscan⟩
  · rw [h] at hpiece
    cases hpiece
    exact hmoves
  · rw [h] at hpiece
    obtain ⟨⟨kind, l''⟩, hword, heq⟩ := Option.map_eq_some_iff.mp hpiece.symm
    cases heq
    rw [hscan]
    exact moves_lexWord c hword

theorem exists_lexPiece (hat : l.At (before ++ [c]))
    (hstart : l.tokenStart = Text.byteLength before) :
    ∃ l', l.lexPiece c = some ((scan c l.chars.rest).1, l') := by
  rcases lexPiece_cases l c with ⟨l', hpiece, -⟩ | ⟨hpiece, hscan⟩
  · exact ⟨l', hpiece⟩
  · obtain ⟨l', hword⟩ := exists_lexWord hat hstart
    refine ⟨l', ?_⟩
    rw [hpiece, hword, hscan]
    rfl

theorem rest_startToken (h : l.startToken = some l') : l'.chars = l.chars := by
  obtain ⟨since, -, h⟩ := Option.bind_eq_some_iff.mp h
  cases h
  rfl

theorem length_lexPiece_lt {started first : Lexer} (hstart : l.startToken = some started)
    (hbump : started.bump = (some c, first)) (hpiece : first.lexPiece c = some (piece, l')) :
    l'.chars.rest.length < l.chars.rest.length := by
  rw [← rest_startToken hstart, rest_of_bump hbump]
  exact Nat.lt_succ_of_le (moves_lexPiece hpiece).length_le

end Pieces

/-- Reads up to the end of the next token. At the end of the source there is none. -/
def lexToken (l : Lexer) : Option (Option Token × Lexer) :=
  match _hstart : l.startToken with
  | none => none
  | some started =>
    match _hbump : started.bump with
    | (none, l') => some (none, l')
    | (some c, first) =>
      match _hpiece : first.lexPiece c with
      | none => none
      | some (.gap, l') => l'.lexToken
      | some (.fault kind, l') => (l'.report kind).lexToken
      | some (.token kind, l') => (l'.finishToken kind).map fun t => (some t, l')
termination_by l.chars.rest.length
decreasing_by all_goals exact (length_lexPiece_lt _hstart _hbump _hpiece :)

def behind (l : Lexer) : Piece → Option (Option Token × Lexer)
  | .gap => l.lexToken
  | .fault kind => (l.report kind).lexToken
  | .token kind => (l.finishToken kind).map fun t => (some t, l)

section Rounds

variable {l l' started first : Lexer} {c : Char} {piece : Piece}

theorem lexToken_of_bump_none (hstart : l.startToken = some started)
    (hbump : started.bump = (none, l')) : l.lexToken = some (none, l') := by
  rw [lexToken]
  grind

theorem lexToken_of_lexPiece (hstart : l.startToken = some started)
    (hbump : started.bump = (some c, first)) (hpiece : first.lexPiece c = some (piece, l')) :
    l.lexToken = l'.behind piece := by
  rw [lexToken]
  cases piece <;> simp only [behind] <;> grind

end Rounds

theorem length_lexToken_lt {l l' : Lexer} {t : Token} (h : l.lexToken = some (some t, l')) :
    l'.chars.rest.length < l.chars.rest.length := by
  fun_induction lexToken l with
  | case1 | case2 | case3 => cases h
  | case4 l started hstart c first hbump l'' hpiece ih
  | case5 l started hstart c first hbump kind l'' hpiece ih =>
    exact Nat.lt_trans (ih h) (length_lexPiece_lt hstart hbump hpiece :)
  | case6 l started hstart c first hbump kind l'' hpiece =>
    obtain ⟨_, -, heq⟩ := Option.map_eq_some_iff.mp h
    cases heq
    exact length_lexPiece_lt hstart hbump hpiece

def lexTokens (l : Lexer) : Option (List Token × Lexer) :=
  match _h : l.lexToken with
  | none => none
  | some (none, l') => some ([], l')
  | some (some t, l') => l'.lexTokens.map fun (ts, last) => (t :: ts, last)
termination_by l.chars.rest.length
decreasing_by exact length_lexToken_lt _h

section Rounds

variable {l l' : Lexer} {t : Token}

theorem lexTokens_congr (h : l.lexToken = l'.lexToken) : l.lexTokens = l'.lexTokens := by
  rw [lexTokens, lexTokens]
  grind

theorem lexTokens_of_none (h : l.lexToken = some (none, l')) : l.lexTokens = some ([], l') := by
  rw [lexTokens]
  grind

theorem lexTokens_of_some (h : l.lexToken = some (some t, l')) :
    l.lexTokens = l'.lexTokens.map fun (ts, last) => (t :: ts, last) := by
  rw [lexTokens]
  grind

end Rounds

structure Output where
  tokens : List Token
  eof : Token
  errors : List LexError

def run (source : List Char) : Option Output := do
  let (tokens, l) ← (ofSource source).lexTokens
  let l ← l.startToken
  return ⟨tokens, ⟨.eof, "", .empty l.tokenStart, l.tokenPosition⟩, l.errors⟩

end Lexer

end SourceCheck
