import SourceCheck.Proofs.Lex.Layout
import SourceCheck.Proofs.Source.Position

/-! # Newlines and lexing

Whatever a text ends in, a newline after it is where lexing starts afresh: the text is lexed as if
it stood alone, and so is what follows the newline, only further down. A scan sees the newline as
it sees the end of the source, but for a comment that takes it; and lexing from a lower place
finds the same things, that much lower.
-/

namespace SourceCheck

/-- How far a text is moved in a source: by how many bytes, and by how many whole lines. -/
structure Shift where
  bytes : Nat
  rows : Nat
  deriving DecidableEq, Repr

section Shift

def Place.shift (d : Shift) (p : Place) : Place := ⟨p.offset + d.bytes, p.row + d.rows, p.col⟩

def Span.shift (d : Shift) (s : Span) : Span := ⟨s.start + d.bytes, s.stop + d.bytes⟩

def Position.shift (d : Shift) (p : Position) : Position := ⟨p.row + d.rows, p.col⟩

def Token.shift (d : Shift) (t : Token) : Token :=
  { t with span := t.span.shift d, position := t.position.shift d }

def LexError.shift (d : Shift) (e : LexError) : LexError :=
  { e with span := e.span.shift d, position := e.position.shift d }

def Lexed.shift (d : Shift) (l : Lexed) : Lexed :=
  ⟨l.tokens.map (·.shift d), l.errors.map (·.shift d), l.stop.shift d⟩

variable (d : Shift)

theorem Place.next_shift (p : Place) (c : Char) : (p.shift d).next c = (p.next c).shift d := by
  unfold next
  split <;> simp [shift, Nat.add_right_comm]

theorem Place.advance_shift (p : Place) (cs : List Char) :
    (p.shift d).advance cs = (p.advance cs).shift d := by
  induction cs generalizing p with
  | nil => rfl
  | cons c cs ih => rw [advance_cons, next_shift, ih, advance_cons]

theorem Lexed.add_shift (p q : Place) (lexeme : List Char) (rest : Lexed) (piece : Piece) :
    Lexed.add (p.shift d) (q.shift d) lexeme (rest.shift d) piece =
      (Lexed.add p q lexeme rest piece).shift d := by
  cases piece <;> rfl

theorem lexFrom_shift (p : Place) (cs : List Char) :
    lexFrom (p.shift d) cs = (lexFrom p cs).shift d := by
  fun_induction lexFrom p cs with
  | case1 => rw [lexFrom]; rfl
  | case2 p c cs head lexeme q ih =>
    rw [lexFrom, Place.advance_shift, ih, Lexed.add_shift]

end Shift

def Lexed.andThen (first second : Lexed) : Lexed :=
  ⟨first.tokens ++ second.tokens, first.errors ++ second.errors, second.stop⟩

theorem Lexed.add_andThen (p q : Place) (lexeme : List Char) (first second : Lexed)
    (piece : Piece) :
    Lexed.add p q lexeme (first.andThen second) piece =
      (Lexed.add p q lexeme first piece).andThen second := by
  cases piece <;> rfl

section Length

variable (cs : List Char)

theorem lineLength_le : lineLength cs ≤ cs.length := by
  fun_induction lineLength cs with
  | case1 => exact Nat.le_refl 0
  | case2 cs => simp
  | case3 c cs hc ih => simpa using ih

theorem quoted_le (quote : Char) : (quoted quote cs).2 ≤ cs.length := by
  fun_induction quoted quote cs with
  | case1 | case2 | case3 | case4 | case6 => simp
  | case5 d ds hd more _ ih => simpa using ih
  | case7 c cs hn hb hq more ih => simpa using ih

theorem number_le : (number cs).2 ≤ cs.length := by
  have hwhole : (cs.takeWhile Char.isDigit).length + (cs.dropWhile Char.isDigit).length =
      cs.length := by
    rw [← List.length_append, List.takeWhile_append_dropWhile]
  fun_cases number cs with
  | case1 whole d ds hdrop hd =>
    have hfraction := (List.takeWhile_prefix Char.isDigit (l := ds)).length_le
    simp only [hdrop, List.length_cons] at hwhole
    omega
  | case2 | case3 => omega

theorem word_le (c : Char) : (word c cs).2 ≤ cs.length :=
  (List.takeWhile_prefix isWordPart).length_le

theorem scan_le (c : Char) : (scan c cs).2 ≤ cs.length := by
  fun_cases scan c cs with
  | case1 h =>
    obtain ⟨ds, rfl⟩ := List.head?_eq_some_iff.mp h.2
    simpa using lineLength_le ds
  | case2 | case4 | case9 => exact Nat.zero_le _
  | case3 _ _ h =>
    obtain ⟨ds, rfl⟩ := List.head?_eq_some_iff.mp h.2
    simp
  | case5 | case6 => exact quoted_le cs _
  | case7 => exact number_le cs
  | case8 => exact word_le cs c

end Length

section Scan

variable {c d : Char} (cs rest : List Char)

theorem head?_append_newline (h : d ≠ '\n') :
    (cs ++ '\n' :: rest).head? = some d ↔ cs.head? = some d := by
  cases cs with
  | nil => simpa using h.symm
  | cons => rfl

theorem lineLength_append_newline :
    lineLength (cs ++ '\n' :: rest) = lineLength cs ∨
      lineLength cs = cs.length ∧ lineLength (cs ++ '\n' :: rest) = cs.length + 1 := by
  fun_induction lineLength cs with
  | case1 => exact .inr ⟨rfl, by simp [lineLength]⟩
  | case2 cs => exact .inl (by simp [lineLength])
  | case3 c cs hc ih => simpa [lineLength, hc] using ih

/-- A literal stays open at a newline as it does at the end. -/
theorem quoted_append_newline (quote : Char) :
    quoted quote (cs ++ '\n' :: rest) = quoted quote cs := by
  have hnewline : ∀ ds, quoted quote ('\n' :: ds) = (false, 0) := by
    intro ds
    rw [quoted.eq_def]
    simp
  fun_induction quoted quote cs with
  | case1 => exact hnewline rest
  | case2 cs => exact hnewline _
  | case3 => simp [quoted]
  | case4 => simp [quoted]
  | case5 d ds hd more _ ih => simp [quoted, hd, ih, more]
  | case6 cs hn hb =>
    rw [List.cons_append, quoted.eq_def]
    simp [hn, hb]
  | case7 c cs hn hb hq more ih =>
    rw [List.cons_append, quoted.eq_def]
    simp [hn, hb, hq, ih, more]

theorem takeWhile_append_newline {p : Char → Bool} (hp : p '\n' = false) :
    (cs ++ '\n' :: rest).takeWhile p = cs.takeWhile p := by
  induction cs with
  | nil => simp [hp]
  | cons c cs ih => simp [List.takeWhile_cons, ih]

theorem dropWhile_append_newline {p : Char → Bool} (hp : p '\n' = false) :
    (cs ++ '\n' :: rest).dropWhile p = cs.dropWhile p ++ '\n' :: rest := by
  induction cs with
  | nil => simp [hp]
  | cons c cs ih =>
    rw [List.cons_append, List.dropWhile_cons, List.dropWhile_cons, ih]
    split <;> rfl

theorem number_append_newline : number (cs ++ '\n' :: rest) = number cs := by
  have hn : Char.isDigit '\n' = false := rfl
  unfold number
  rw [takeWhile_append_newline cs rest hn, dropWhile_append_newline cs rest hn]
  cases cs.dropWhile Char.isDigit with
  | nil => rfl
  | cons c ds =>
    by_cases hc : c = '.'
    · subst hc
      cases ds with
      | nil => rfl
      | cons d ds => simp only [List.cons_append, takeWhile_append_newline ds rest hn]
    · simp [hc]

theorem word_append_newline (c : Char) : word c (cs ++ '\n' :: rest) = word c cs := by
  have hn : isWordPart '\n' = false := rfl
  simp only [word, takeWhile_append_newline cs rest hn]

theorem quotedPiece_append_newline (quote : Char) (kind : TokenKind) (fault : LexErrorKind) :
    quotedPiece quote kind fault (cs ++ '\n' :: rest) = quotedPiece quote kind fault cs := by
  simp only [quotedPiece, quoted_append_newline]

/-- A scan sees a newline as it sees the end of the source, but for a comment that goes up to
there: it takes the newline as well. -/
theorem scan_append_newline (c : Char) :
    scan c (cs ++ '\n' :: rest) = scan c cs ∨
      scan c cs = (.gap, cs.length) ∧ scan c (cs ++ '\n' :: rest) = (.gap, cs.length + 1) := by
  have hslash := head?_append_newline (d := '/') cs rest (by decide)
  have hcolon := head?_append_newline (d := ':') cs rest (by decide)
  unfold scan
  simp only [hslash, hcolon, number_append_newline, word_append_newline,
    quotedPiece_append_newline]
  split
  next h =>
    obtain ⟨ds, rfl⟩ := List.head?_eq_some_iff.mp h.2
    rcases lineLength_append_newline ds rest with heq | ⟨hall, hmore⟩
    · exact .inl (by simp [heq])
    · exact .inr (by simp [hall, hmore])
  next => exact .inl rfl

end Scan

theorem lexFrom_append_newline (p : Place) (a b : List Char) :
    lexFrom p (a ++ '\n' :: b) = (lexFrom p a).andThen (lexFrom (p.advance (a ++ ['\n'])) b) := by
  fun_induction lexFrom p a with
  | case1 p =>
    have hscan : scan '\n' ([] ++ b) = (.gap, 0) := scan_of_isBlank Text.isBlank_newline b
    exact lexFrom_of_scan hscan p
  | case2 p c cs head lexeme q ih =>
    rcases scan_append_newline cs b c with heq | ⟨hall, hmore⟩
    · have hcs : cs ++ '\n' :: b = cs.take head.2 ++ (cs.drop head.2 ++ '\n' :: b) := by
        rw [← List.append_assoc, List.take_append_drop]
      have hscan : scan c (cs.take head.2 ++ (cs.drop head.2 ++ '\n' :: b)) =
          (head.1, (cs.take head.2).length) := by
        rw [← hcs, heq, List.length_take_of_le (scan_le cs c)]
      have hplace : q.advance (cs.drop head.2 ++ ['\n']) = p.advance (c :: cs ++ ['\n']) := by
        rw [← Place.advance_append, ← List.append_assoc, List.cons_append, List.take_append_drop]
      have hstep := lexFrom_of_scan hscan p
      rw [List.cons_append, ← hcs] at hstep
      rw [List.cons_append, hstep, ih, Lexed.add_andThen, hplace]
    · have hhead : head = (.gap, cs.length) := hall
      have hscan : scan c ((cs ++ ['\n']) ++ b) = (.gap, (cs ++ ['\n']).length) := by
        simp [hmore]
      have hstep := lexFrom_of_scan hscan p
      simpa [hhead, lexFrom, Lexed.add, Lexed.andThen] using hstep

theorem Place.advance_newline (cs : List Char) :
    start.advance (cs ++ ['\n']) =
      start.shift ⟨Text.byteLength cs + 1, 1 + cs.count '\n'⟩ := by
  have hrow := row_advance start cs
  have hoffset := offset_advance start cs
  rw [advance_append, advance_cons, advance_nil, next, if_pos rfl, hrow, hoffset]
  simp only [shift, start, Place.mk.injEq, and_true]
  exact ⟨Nat.add_assoc .., by omega⟩

/-- A newline is where lexing starts afresh, whatever the text before it ends in: its tokens and
errors come first, and then those of the text after it, moved down by what stands before. -/
theorem lex_append_newline (a b : String) :
    let d : Shift := ⟨Text.byteLength a.toList + 1, 1 + a.toList.count '\n'⟩
    (lex (a ++ "\n" ++ b)).stream.toList =
        (lex a).stream.tokens ++ (lex b).stream.toList.map (·.shift d) ∧
      (lex (a ++ "\n" ++ b)).errors = (lex a).errors ++ (lex b).errors.map (·.shift d) := by
  intro d
  have hchars : (a ++ "\n" ++ b).toList = a.toList ++ '\n' :: b.toList := by simp
  have hlexed : lexFrom .start (a ++ "\n" ++ b).toList =
      (lexFrom .start a.toList).andThen ((lexFrom .start b.toList).shift d) := by
    rw [hchars, lexFrom_append_newline, Place.advance_newline, lexFrom_shift]
  have htokens : (lex (a ++ "\n" ++ b)).stream.tokens =
      (lex a).stream.tokens ++ (lex b).stream.tokens.map (·.shift d) := by
    simp only [tokens_lex, hlexed, Lexed.andThen, Lexed.shift]
  have heof : (lex (a ++ "\n" ++ b)).stream.eof = (lex b).stream.eof.shift d := by
    simp only [eof_lex_eq_stop, hlexed]
    rfl
  constructor
  · rw [TokenStream.toList, htokens, heof, TokenStream.toList, List.map_append, List.append_assoc]
    rfl
  · simp only [errors_lex, hlexed, Lexed.andThen, Lexed.shift]

end SourceCheck
