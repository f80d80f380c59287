import SourceCheck.Parse.Error

/-! # Parsing steps

A parse reads from a list of tokens, with the end-of-file token standing in for every token past
the end. It always gives a value; what is wrong is reported beside it. A step says how many
tokens it used, so what is left is a suffix by construction. The loops only look at a token; a
repetition ends because its element uses one.
-/

namespace SourceCheck

/-- The outcome of a parse: a value, the errors reported, and the number of tokens used. -/
structure Step (α : Type) where
  value : α
  errors : List ParseError
  used : Nat

/-- A parse, run on the end-of-file token and the tokens before it. -/
structure Parse (α : Type) where
  run : Token → List Token → Step α

theorem length_drop_lt_length_cons {α : Type} (a : α) (as : List α) (n : Nat) :
    (as.drop n).length < (a :: as).length := by
  simp only [List.length_drop, List.length_cons]; omega

namespace Parse

variable {α : Type}

instance : Monad Parse where
  pure a := ⟨fun _ _ => ⟨a, [], 0⟩⟩
  bind m f := ⟨fun eof ts =>
    let first := m.run eof ts
    let second := (f first.value).run eof (ts.drop first.used)
    ⟨second.value, first.errors ++ second.errors, first.used + second.used⟩⟩

@[simp] theorem run_pure (a : α) (eof : Token) (ts : List Token) :
    (pure a : Parse α).run eof ts = ⟨a, [], 0⟩ := rfl

@[simp] theorem run_bind {β : Type} (m : Parse α) (f : α → Parse β) (eof : Token)
    (ts : List Token) :
    (m >>= f).run eof ts =
      let first := m.run eof ts
      let second := (f first.value).run eof (ts.drop first.used)
      ⟨second.value, first.errors ++ second.errors, first.used + second.used⟩ := rfl

@[ext] theorem ext {m n : Parse α} (h : ∀ eof ts, m.run eof ts = n.run eof ts) : m = n := by
  obtain ⟨m⟩ := m
  obtain ⟨n⟩ := n
  exact congrArg mk (funext fun eof => funext fun ts => h eof ts)

instance : LawfulMonad Parse :=
  .mk' Parse (fun _ => by ext; simp [Functor.map]) (fun _ _ => by ext; simp)
    (fun _ _ _ => by ext; simp [List.drop_drop, Nat.add_assoc])

@[simp] theorem run_map {β : Type} (f : α → β) (m : Parse α) (eof : Token) (ts : List Token) :
    (f <$> m).run eof ts =
      ⟨f (m.run eof ts).value, (m.run eof ts).errors, (m.run eof ts).used⟩ := by
  rw [map_eq_pure_bind, run_bind]
  simp only [run_pure, List.append_nil, Nat.add_zero]

def peekNth (n : Nat) : Parse Token := ⟨fun eof ts => ⟨ts[n]?.getD eof, [], 0⟩⟩

def peek : Parse Token := peekNth 0

def kindAt (n : Nat) : Parse TokenKind := do
  return (← peekNth n).kind

/-- Takes the next token, whatever it is. At the end there is none to take. -/
def advance : Parse Token := ⟨fun eof ts =>
  match ts with
  | [] => ⟨eof, [], 0⟩
  | t :: _ => ⟨t, [], 1⟩⟩

def report (e : ParseError) : Parse Unit := ⟨fun _ _ => ⟨(), [e], 0⟩⟩

def skipUnexpected (context : StmtContext) : Parse Unit := do
  report (.unexpectedStart context (← advance))

/-- Takes a token that is asked for. Any other token is reported and left in place, and the
end-of-file token stands in for the missing one. -/
def expect (wanted : Expectation) : Parse Token := ⟨fun eof ts =>
  match ts with
  | [] => ⟨eof, [.mismatch wanted eof], 0⟩
  | t :: _ => if wanted.accepts t.kind then ⟨t, [], 1⟩ else ⟨eof, [.mismatch wanted t], 0⟩⟩

def skip (kind : TokenKind) : Parse Unit := do
  let _ ← expect (.kind kind)

def text (kind : TokenKind) : Parse String := do
  return (← expect (.kind kind)).text

def typeName : Parse String := do
  return (← expect .typeName).text

def accept (kind : TokenKind) : Parse Bool := ⟨fun _ ts =>
  match ts with
  | [] => ⟨false, [], 0⟩
  | t :: _ => if t.kind = kind then ⟨true, [], 1⟩ else ⟨false, [], 0⟩⟩

section Run

variable {β : Type} {eof t : Token} {ts : List Token}

@[simp] theorem run_kindAt (n : Nat) :
    (kindAt n).run eof ts = ⟨(ts[n]?.getD eof).kind, [], 0⟩ := by
  simp [kindAt, peekNth]

theorem run_kindAt_bind (n : Nat) (f : TokenKind → Parse β) :
    (kindAt n >>= f).run eof ts = (f (ts[n]?.getD eof).kind).run eof ts := by
  simp

theorem run_kindAt_zero_bind (f : TokenKind → Parse β) :
    (kindAt 0 >>= f).run eof (t :: ts) = (f t.kind).run eof (t :: ts) :=
  run_kindAt_bind 0 f

theorem run_skipUnexpected (context : StmtContext) :
    (skipUnexpected context).run eof (t :: ts) = ⟨(), [.unexpectedStart context t], 1⟩ := rfl

theorem run_expect {wanted : Expectation} (h : wanted.accepts t.kind = true) :
    (expect wanted).run eof (t :: ts) = ⟨t, [], 1⟩ := if_pos h

theorem run_skip {kind : TokenKind} (h : t.kind = kind) :
    (skip kind).run eof (t :: ts) = ⟨(), [], 1⟩ := by
  have he : (expect (.kind kind)).run eof (t :: ts) = ⟨t, [], 1⟩ :=
    run_expect (by simp [Expectation.accepts, h])
  simp [skip, he]

theorem run_text {kind : TokenKind} (h : t.kind = kind) :
    (text kind).run eof (t :: ts) = ⟨t.text, [], 1⟩ := by
  have he : (expect (.kind kind)).run eof (t :: ts) = ⟨t, [], 1⟩ :=
    run_expect (by simp [Expectation.accepts, h])
  simp [text, he]

theorem run_typeName (h : t.kind.isTypeName = true) :
    typeName.run eof (t :: ts) = ⟨t.text, [], 1⟩ := by
  have he : (expect .typeName).run eof (t :: ts) = ⟨t, [], 1⟩ := run_expect h
  simp [typeName, he]

end Run

/-- A parse that uses a token wherever there is one. -/
def Advances (m : Parse α) : Prop := ∀ eof t ts, 0 < (m.run eof (t :: ts)).used

theorem used_bind_pos {β : Type} {m : Parse α} {f : α → Parse β} {eof : Token} {ts : List Token}
    (h : 0 < (m.run eof ts).used) : 0 < ((m >>= f).run eof ts).used :=
  Nat.add_pos_left h _

def manyFrom (stops : TokenKind → Bool) (element : Parse α) (h : element.Advances) (eof : Token) :
    List Token → Step (List α)
  | [] => ⟨[], [], 0⟩
  | t :: ts =>
    if stops t.kind then ⟨[], [], 0⟩
    else
      let first := element.run eof (t :: ts)
      let more := manyFrom stops element h eof ((t :: ts).drop first.used)
      ⟨first.value :: more.value, first.errors ++ more.errors, first.used + more.used⟩
termination_by ts => ts.length
decreasing_by
  have := h eof t ts
  simp only [List.length_drop, List.length_cons]
  omega

def many (stops : TokenKind → Bool) (element : Parse α) (h : element.Advances) :
    Parse (List α) :=
  ⟨manyFrom stops element h⟩

def commaListFrom (close : TokenKind) (element : Parse α) (eof : Token) :
    List Token → Step (List α)
  | [] => ⟨[], [], 0⟩
  | t :: ts =>
    if t.kind = close then ⟨[], [], 0⟩
    else
      let first := element.run eof (t :: ts)
      match h : (t :: ts).drop first.used with
      | [] => ⟨[first.value], first.errors, first.used⟩
      | c :: rest =>
        if c.kind = .comma then
          let more := commaListFrom close element eof rest
          ⟨first.value :: more.value, first.errors ++ more.errors, first.used + 1 + more.used⟩
        else ⟨[first.value], first.errors, first.used⟩
termination_by ts => ts.length
decreasing_by
  have := congrArg List.length h
  simp only [List.length_drop, List.length_cons] at this ⊢
  omega

/-- Reads elements with commas between them up to a closing token or to the end. A comma may
follow the last element; without a comma the list ends. -/
def commaList (close : TokenKind) (element : Parse α) : Parse (List α) :=
  ⟨commaListFrom close element⟩

section Loops

variable {stops : TokenKind → Bool} {close : TokenKind} {element : Parse α} {h : element.Advances}
  {eof t c : Token} {ts us rest : List Token} {a : α} {es : List ParseError}

theorem run_many : (many stops element h).run eof ts = manyFrom stops element h eof ts := rfl

theorem run_commaList :
    (commaList close element).run eof ts = commaListFrom close element eof ts := rfl

theorem manyFrom_of_stops (hstops : ∀ t ∈ ts.head?, stops t.kind = true) :
    manyFrom stops element h eof ts = ⟨[], [], 0⟩ := by
  cases ts with
  | nil => rw [manyFrom]
  | cons t ts => rw [manyFrom, if_pos (hstops t rfl)]

theorem manyFrom_cons (ht : stops t.kind = false) :
    manyFrom stops element h eof (t :: ts) =
      let first := element.run eof (t :: ts)
      let more := manyFrom stops element h eof ((t :: ts).drop first.used)
      ⟨first.value :: more.value, first.errors ++ more.errors, first.used + more.used⟩ := by
  rw [manyFrom, ht]
  rfl

theorem manyFrom_append (hhead : (us ++ rest).head? = some t) (ht : stops t.kind = false)
    (hr : element.run eof (us ++ rest) = ⟨a, es, us.length⟩) :
    manyFrom stops element h eof (us ++ rest) =
      let more := manyFrom stops element h eof rest
      ⟨a :: more.value, es ++ more.errors, us.length + more.used⟩ := by
  obtain ⟨ts, hts⟩ := List.head?_eq_some_iff.mp hhead
  rw [hts] at hr ⊢
  rw [manyFrom_cons ht, hr, ← hts]
  simp

theorem commaListFrom_of_close (hclose : ∀ t ∈ ts.head?, t.kind = close) :
    commaListFrom close element eof ts = ⟨[], [], 0⟩ := by
  cases ts with
  | nil => rw [commaListFrom]
  | cons t ts => rw [commaListFrom, if_pos (hclose t rfl)]

theorem commaListFrom_cons (ht : t.kind ≠ close) :
    commaListFrom close element eof (t :: ts) =
      let first := element.run eof (t :: ts)
      match (t :: ts).drop first.used with
      | [] => ⟨[first.value], first.errors, first.used⟩
      | c :: rest =>
        if c.kind = .comma then
          let more := commaListFrom close element eof rest
          ⟨first.value :: more.value, first.errors ++ more.errors, first.used + 1 + more.used⟩
        else ⟨[first.value], first.errors, first.used⟩ := by
  rw [commaListFrom, if_neg ht]
  dsimp only
  split <;> rename_i h <;> simp only [h]

theorem commaListFrom_of_last (hhead : (us ++ rest).head? = some t) (ht : t.kind ≠ close)
    (hr : element.run eof (us ++ rest) = ⟨a, es, us.length⟩)
    (hc : ∀ c ∈ rest.head?, c.kind ≠ .comma) :
    commaListFrom close element eof (us ++ rest) = ⟨[a], es, us.length⟩ := by
  obtain ⟨ts, hts⟩ := List.head?_eq_some_iff.mp hhead
  rw [hts] at hr ⊢
  rw [commaListFrom_cons ht, hr, ← hts]
  cases rest with
  | nil => simp
  | cons c rest => simp [hc c rfl]

theorem commaListFrom_of_comma (hhead : (us ++ c :: rest).head? = some t) (ht : t.kind ≠ close)
    (hr : element.run eof (us ++ c :: rest) = ⟨a, es, us.length⟩) (hc : c.kind = .comma) :
    commaListFrom close element eof (us ++ c :: rest) =
      let more := commaListFrom close element eof rest
      ⟨a :: more.value, es ++ more.errors, us.length + 1 + more.used⟩ := by
  obtain ⟨ts, hts⟩ := List.head?_eq_some_iff.mp hhead
  rw [hts] at hr ⊢
  rw [commaListFrom_cons ht, hr, ← hts]
  simp [hc]

end Loops

end Parse

end SourceCheck
