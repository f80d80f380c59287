import Mathlib.Data.Nat.Digits.Defs
import SourceCheck.Proofs.Lex.Layout
import SourceCheck.Proofs.Lex.Places
import SourceCheck.Proofs.Parse.Fields
import SourceCheck.Proofs.Parse.Order

/-! # Literals are read as they are written

What lexing takes for a literal is of a shape that converts, but for whole numbers that are too
large and for characters that are not written as themselves. A sign is never part of a number, so
no number of a program is negative; and every number with a point has a value, if only infinity.
-/

namespace SourceCheck

open Grammar

namespace Literal

section Digits

variable {cs : List Char}

theorem digitsValue_eq_ofDigits (cs : List Char) :
    digitsValue cs = Nat.ofDigits 10 (cs.map digitValue).reverse := by
  induction cs using List.reverseRecOn with
  | nil => rfl
  | append_singleton cs c ih =>
    rw [digitsValue_concat, ih, List.map_append, List.reverse_append]
    exact Nat.add_comm _ _

theorem takeSign_of_isDigits (h : IsDigits cs) (rest : List Char) :
    takeSign (cs ++ rest) = (false, cs ++ rest) := by
  obtain ⟨hne, hd⟩ := h
  obtain ⟨c, us, rfl⟩ := List.exists_cons_of_ne_nil hne
  have hc := hd c (List.mem_cons_self ..)
  unfold takeSign
  split
  next heq => cases heq; cases hc
  next heq => cases heq; cases hc
  next => rfl

/-- Digits are an integer up to the largest one, whatever zeros they start with. -/
theorem integer?_of_isDigits {text : String} (h : IsDigits text.toList) :
    integer? text = if digitsValue text.toList ≤ 2147483647 then
      some (Int32.ofInt (digitsValue text.toList)) else none := by
  have hsign := takeSign_of_isDigits h []
  obtain ⟨hne, hd⟩ := h
  rw [List.append_nil] at hsign
  have hvalue : integerValue? text.toList = some (digitsValue text.toList : Int) := by
    simp [integerValue?, hsign, hne, List.all_eq_true.mpr hd]
  simp only [integer?, hvalue]
  have hrange : -2147483648 ≤ (digitsValue text.toList : Int) ∧
      (digitsValue text.toList : Int) ≤ 2147483647 ↔ digitsValue text.toList ≤ 2147483647 := by
    omega
  simp only [hrange]

end Digits

section Single

theorem Single.ofMagnitude_of_le {n : Nat} (h : n ≤ infinityMagnitude) :
    (ofMagnitude false n).isNaN = false ∧ (ofMagnitude false n).isNegative = false := by
  unfold infinityMagnitude at h
  have hbits : (ofMagnitude false n).bits.toNat = n := by
    apply UInt32.toNat_ofNat_of_lt'
    exact Nat.lt_of_le_of_lt h (by decide)
  have hmod : n % 0x80000000 = n := Nat.mod_eq_of_lt (by omega)
  constructor
  · simpa [isNaN, magnitude, infinityMagnitude, hbits, hmod] using h
  · simp only [isNegative, hbits, decide_eq_false_iff_not]
    omega

theorem Decimal.magnitude_le (d : Decimal) : d.magnitude ≤ Single.infinityMagnitude := by
  unfold magnitude
  split
  · exact Nat.zero_le _
  · dsimp only
    split
    · exact Nat.le_refl _
    · split
      · exact Nat.zero_le _
      · exact Nat.min_le_right ..

variable {whole fraction : List Char}

theorem decimal?_of_isDigits (hw : IsDigits whole) (hf : IsDigits fraction) :
    decimal? (whole ++ '.' :: fraction) =
      some ⟨digitsValue (whole ++ fraction), -fraction.length⟩ := by
  have hdot : ∀ c ∈ ('.' :: fraction).head?, c.isDigit = false := by
    intro c hc
    cases hc
    rfl
  have hend : ∀ c ∈ ([] : List Char).head?, c.isDigit = false := by simp
  have htake := takeWhile_append_of_head hf.2 hend
  have hdrop := dropWhile_append_of_head hf.2 hend
  rw [List.append_nil] at htake hdrop
  simp [decimal?, takeWhile_append_of_head hw.2 hdot, dropWhile_append_of_head hw.2 hdot, htake,
    hdrop, hw.1, exponent?]

theorem magnitude?_of_isDigits (h : IsDigits whole) (rest : List Char) :
    magnitude? (whole ++ rest) = (decimal? (whole ++ rest)).map Decimal.magnitude := by
  obtain ⟨hne, hd⟩ := h
  obtain ⟨c, us, rfl⟩ := List.exists_cons_of_ne_nil hne
  have hc := hd c (List.mem_cons_self ..)
  have hlower : c.toLower = c := by
    apply dif_neg
    rintro ⟨hupper, -⟩
    have hdigit := toNat_of_isDigit hc
    have hletter : 65 ≤ c.toNat := hupper
    omega
  have hi : c ≠ 'i' := by rintro rfl; cases hc
  have hn : c ≠ 'n' := by rintro rfl; cases hc
  simp [magnitude?, hlower, hi, hn]

theorem single?_of_isDigits {text : String} (hw : IsDigits whole) (hf : IsDigits fraction)
    (h : text.toList = whole ++ '.' :: fraction) :
    ∃ x, single? text = some x ∧ x.isNaN = false ∧ x.isNegative = false := by
  refine ⟨_, ?_, Single.ofMagnitude_of_le (Decimal.magnitude_le
    ⟨digitsValue (whole ++ fraction), -fraction.length⟩)⟩
  simp only [single?, h, takeSign_of_isDigits hw, magnitude?_of_isDigits hw,
    decimal?_of_isDigits hw hf, Option.map_some]

end Single

end Literal

section Tokens

variable {source : String} {t : Token}

theorem exists_lexeme_of_mem_tokens (h : t ∈ (lex source).stream.tokens) :
    ∃ lexeme, Lexeme t.kind lexeme ∧ t.text.toList = t.kind.textOf lexeme := by
  have hplace := @exists_cuts_of_mem_tokens ⟨"", source⟩ t h
  obtain ⟨_, lexeme, _, -, ⟨⟨hlexeme, -⟩, htext⟩, -⟩ := hplace
  exact ⟨lexeme, hlexeme, htext⟩

def decimalValue (text : String) : Nat :=
  Nat.ofDigits 10 (text.toList.map Literal.digitValue).reverse

/-- A token that is a number or a character stands for what it writes. An integer has the value of
its digits if that is not too large, and every other number has a value; neither has a sign. A
character stands for itself, and only a single one does. -/
def Token.MeansItsText (t : Token) : Prop :=
  match t.kind with
  | .integer =>
    if decimalValue t.text ≤ 2147483647 then
      ∃ n : Int32, t.operand = .value (.int n) ∧ n.toInt = decimalValue t.text
    else t.operand = .malformed .int
  | .float => ∃ x, t.operand = .value (.float x) ∧ x.isNaN = false ∧ x.isNegative = false
  | .char =>
    (∃ c, t.text.toList = [c] ∧ t.operand = .value (.char c) ∧
      c ≠ '\x27' ∧ c ≠ '\\' ∧ c ≠ '\n') ∨
    t.text.toList.length ≠ 1 ∧ t.operand = .malformed .char
  | _ => True

theorem Token.MeansItsText.of_integer (hk : t.kind = .integer) (h : IsDigits t.text.toList) :
    t.MeansItsText := by
  have hvalue : Literal.digitsValue t.text.toList = decimalValue t.text :=
    Literal.digitsValue_eq_ofDigits _
  have hinteger := Literal.integer?_of_isDigits h
  rw [hvalue] at hinteger
  simp only [MeansItsText, hk]
  split
  next hle =>
    rw [if_pos hle] at hinteger
    refine ⟨_, operand_eq_value_iff.mpr (.int hk hinteger), ?_⟩
    apply Int32.toInt_ofInt_of_le <;> omega
  next hlt =>
    rw [if_neg hlt] at hinteger
    exact operand_eq_malformed_iff.mpr (.int hk hinteger)

theorem Token.MeansItsText.of_float {whole fraction : List Char} (hk : t.kind = .float)
    (hw : IsDigits whole) (hf : IsDigits fraction)
    (ht : t.text.toList = whole ++ '.' :: fraction) : t.MeansItsText := by
  obtain ⟨x, hx, hnan, hsign⟩ := Literal.single?_of_isDigits hw hf ht
  simp only [MeansItsText, hk]
  exact ⟨x, operand_eq_value_iff.mpr (.float hk hx), hnan, hsign⟩

theorem Token.MeansItsText.of_char (hk : t.kind = .char)
    (h : QuotedText '\x27' t.text.toList) : t.MeansItsText := by
  simp only [MeansItsText, hk]
  by_cases hlength : t.text.toList.length = 1
  · obtain ⟨c, hc⟩ := List.length_eq_one_iff.mp hlength
    rw [hc] at h
    cases h with
    | plain hquote hbackslash hnewline =>
      exact .inl ⟨c, hc, operand_eq_value_iff.mpr (.char hk hc), hquote, hbackslash, hnewline⟩
  · exact .inr ⟨hlength, operand_eq_malformed_iff.mpr (.char hk hlength)⟩

theorem meansItsText_of_mem_tokens (h : t ∈ (lex source).stream.tokens) : t.MeansItsText := by
  obtain ⟨lexeme, hlexeme, htext⟩ := exists_lexeme_of_mem_tokens h
  generalize hk : t.kind = kind at hlexeme htext
  cases hlexeme with
  | integer hd => exact .of_integer hk (htext ▸ hd)
  | float hw hf => exact .of_float hk hw hf htext
  | char hc =>
    have hinner : t.text.toList = _ := htext.trans List.dropLast_concat
    exact .of_char hk (hinner ▸ hc)
  | punctuation hp => cases hp <;> simp [Token.MeansItsText, hk]
  | _ => simp [Token.MeansItsText, hk]

end Tokens

/-- Not a number below zero, nor the float that is no number. -/
def Expr.IsUnsigned : Expr → Prop
  | int n => 0 ≤ n.toInt
  | float x => x.isNaN = false ∧ x.isNegative = false
  | _ => True

section Programs

variable {t : Token}

theorem Grammar.IsLiteral.isUnsigned {e : Expr} (h : IsLiteral t e) (ht : t.MeansItsText) :
    e.IsUnsigned := by
  have hoperand := operand_eq_value_iff.mpr h
  cases h with
  | int hk =>
    simp only [Token.MeansItsText, hk, hoperand] at ht
    split at ht
    · obtain ⟨n, hn, hvalue⟩ := ht
      cases hn
      simp only [Expr.IsUnsigned, hvalue]
      exact Int.natCast_nonneg _
    · cases ht
  | float hk =>
    simp only [Token.MeansItsText, hk, hoperand] at ht
    obtain ⟨x, hx, hnan, hsign⟩ := ht
    cases hx
    exact ⟨hnan, hsign⟩
  | _ => trivial

theorem Token.MeansItsText.not_malformed_float (h : t.MeansItsText) : ¬ IsMalformed t .float := by
  intro hmalformed
  have hoperand := operand_eq_malformed_iff.mpr hmalformed
  cases hmalformed with
  | float hk =>
    simp only [MeansItsText, hk, hoperand] at h
    obtain ⟨x, hx, -⟩ := h
    cases hx

end Programs

theorem meansItsText_of_mem_toList {source : String} {t : Token}
    (h : t ∈ (lex source).stream.toList) : t.MeansItsText := by
  rcases List.mem_append.mp h with h | h
  · exact meansItsText_of_mem_tokens h
  · rw [List.mem_singleton.mp h, eof_lex]
    trivial

theorem isUnsigned_of_mem_fields {source : String} {e : Expr}
    (h : .symbol (.literal e) ∈ (parse (lex source).stream).program.fields) : e.IsUnsigned := by
  obtain ⟨os, hfields, hos⟩ := exists_drawn (lex source).stream
  rw [← hfields] at h
  obtain ⟨o, ho, hfield⟩ := List.mem_map.mp h
  have hin := hos.isIn o ho
  obtain ⟨field, index⟩ := o
  cases hfield
  cases index with
  | none => exact hin.elim
  | some i =>
    obtain ⟨t, ht, hread⟩ := hin
    exact Grammar.IsLiteral.isUnsigned hread (meansItsText_of_mem_tokens (List.mem_of_getElem? ht))

theorem kind_ne_invalidLiteral_float {source : String} {e : ParseError}
    (h : e ∈ (parse (lex source).stream).errors) (text : String) :
    e.kind ≠ .invalidLiteral .float text := by
  obtain ⟨as, has⟩ := exists_sighted (lex source).stream
  rw [← has.errors_eq] at h
  obtain ⟨a, ha, rfl⟩ := List.mem_map.mp h
  obtain ⟨t, ht, -, htrue⟩ := has.exists_isTrueOf ha
  intro hk
  rw [hk] at htrue
  exact (meansItsText_of_mem_toList (List.mem_of_getElem? ht)).not_malformed_float htrue.2

theorem lex_quoted_char {c : Char} (hquote : c ≠ '\x27') (hbackslash : c ≠ '\\')
    (hnewline : c ≠ '\n') :
    let found := lex (String.ofList ['\x27', c, '\x27'])
    ∃ t, found.stream.tokens = [t] ∧ found.errors = [] ∧ t.operand = .value (.char c) := by
  have hlexeme : Lexeme .char ('\x27' :: ([c] ++ ['\x27'])) :=
    .char (.plain hquote hbackslash hnewline .nil)
  have hend (p : Place) : lexFrom p [] = ⟨[], [], p⟩ := by rw [lexFrom]
  have hlex : lexFrom .start ('\x27' :: ([c] ++ ['\x27']) ++ []) = _ :=
    lexFrom_lexeme hlexeme (by simp [TokenKind.EndsBefore]) .start
  rw [hend] at hlex
  simp only [tokens_lex, errors_lex, String.toList_ofList]
  refine ⟨_, congrArg Lexed.tokens hlex, congrArg Lexed.errors hlex, ?_⟩
  exact operand_eq_value_iff.mpr (.char rfl String.toList_ofList)

/-- In every source each number and each character is read as it is written. So its program has no
number below zero and none that is not a number, and no number with a point is reported. And each
character can be written, but for those that would need an escape. -/
theorem lex_literals :
    (∀ source : String, (∀ t ∈ (lex source).stream.toList, t.MeansItsText) ∧
      (∀ e, .symbol (.literal e) ∈ (parse (lex source).stream).program.fields → e.IsUnsigned) ∧
      ∀ e ∈ (parse (lex source).stream).errors, ∀ text, e.kind ≠ .invalidLiteral .float text) ∧
    ∀ c : Char, c ≠ '\x27' → c ≠ '\\' → c ≠ '\n' →
      let found := lex (String.ofList ['\x27', c, '\x27'])
      ∃ t, found.stream.tokens = [t] ∧ found.errors = [] ∧ t.operand = .value (.char c) := by
  constructor
  · intro source
    refine ⟨fun t => meansItsText_of_mem_toList, fun e => isUnsigned_of_mem_fields, ?_⟩
    exact fun e => kind_ne_invalidLiteral_float
  · intro c hquote hbackslash hnewline
    exact lex_quoted_char hquote hbackslash hnewline

theorem lex_literals_largest :
    let source := "00002147483647 0.1 '\\n'"
    let n : Token := ⟨.integer, "00002147483647", ⟨0, 14⟩, ⟨1, 1⟩⟩
    (n ∈ (lex source).stream.toList ∧ n.MeansItsText ∧ decimalValue n.text = 2147483647) ∧
      ('é' ≠ '\x27' ∧ 'é' ≠ '\\' ∧ 'é' ≠ '\n') ∧
      let found := lex (String.ofList ['\x27', 'é', '\x27'])
      ∃ t, found.stream.tokens = [t] ∧ found.errors = [] ∧ t.operand = .value (.char 'é') := by
  intro source n
  have hn : n ∈ (lex source).stream.toList := by decide +kernel
  have hvalue : decimalValue n.text = 2147483647 := by decide +kernel
  have hchar : 'é' ≠ '\x27' ∧ 'é' ≠ '\\' ∧ 'é' ≠ '\n' := by decide
  exact ⟨⟨hn, (lex_literals.1 source).1 n hn, hvalue⟩, hchar,
    lex_literals.2 'é' hchar.1 hchar.2.1 hchar.2.2⟩

end SourceCheck
