import SourceCheck.Token.Scan

/-! # The lexical grammar

Which texts are lexemes of a kind, and which texts may stand between lexemes.
-/

namespace SourceCheck.Grammar

/-- What may stand between the quotes of a literal: no quote, no newline, and a backslash only in
front of the character it escapes. -/
inductive QuotedText (quote : Char) : List Char → Prop
  | nil : QuotedText quote []
  | plain {c : Char} {cs : List Char} : c ≠ quote → c ≠ '\\' → c ≠ '\n' →
      QuotedText quote cs → QuotedText quote (c :: cs)
  | escaped {c : Char} {cs : List Char} : c ≠ '\n' →
      QuotedText quote cs → QuotedText quote ('\\' :: c :: cs)

def IsDigits (cs : List Char) : Prop := cs ≠ [] ∧ ∀ c ∈ cs, c.isDigit = true

def IsWord (cs : List Char) : Prop :=
  ∃ first rest, cs = first :: rest ∧ isWordStart first = true ∧ ∀ c ∈ rest, isWordPart c = true

inductive Punctuation : TokenKind → Char → Prop
  | leftParen : Punctuation .leftParen '('
  | rightParen : Punctuation .rightParen ')'
  | leftBrace : Punctuation .leftBrace '\x7b'
  | rightBrace : Punctuation .rightBrace '\x7d'
  | colon : Punctuation .colon ':'
  | semicolon : Punctuation .semicolon ';'
  | comma : Punctuation .comma ','
  | assign : Punctuation .assign '='
  | add : Punctuation (.operator .add) '+'
  | sub : Punctuation (.operator .sub) '-'
  | mul : Punctuation (.operator .mul) '*'
  | div : Punctuation (.operator .div) '/'
  | mod : Punctuation (.operator .mod) '%'

/-- A lexeme of a kind. An identifier is a word that is not reserved. -/
inductive Lexeme : TokenKind → List Char → Prop
  | keyword (word : Keyword) : Lexeme (.keyword word) word.spelling.toList
  | primitive (type : PrimitiveType) : Lexeme (.primitive type) type.spelling.toList
  | identifier {cs : List Char} : IsWord cs → (∀ word : Keyword, word.spelling.toList ≠ cs) →
      (∀ type : PrimitiveType, type.spelling.toList ≠ cs) → Lexeme .identifier cs
  | integer {cs : List Char} : IsDigits cs → Lexeme .integer cs
  | float {whole fraction : List Char} : IsDigits whole → IsDigits fraction →
      Lexeme .float (whole ++ '.' :: fraction)
  | string {cs : List Char} : QuotedText '"' cs → Lexeme .string ('"' :: (cs ++ ['"']))
  | char {cs : List Char} : QuotedText '\x27' cs → Lexeme .char ('\x27' :: (cs ++ ['\x27']))
  | doubleColon : Lexeme .doubleColon [':', ':']
  | punctuation {c : Char} {kind : TokenKind} : Punctuation kind c → Lexeme kind [c]

/-- What may stand between lexemes, with what follows it: blanks and comments. A comment ends with
its line, and only the last of the source may lack the newline. -/
inductive Gap (rest : List Char) : List Char → Prop
  | nil : Gap rest []
  | blank {c : Char} {cs : List Char} : Text.isBlank c = true → Gap rest cs → Gap rest (c :: cs)
  | comment {text cs : List Char} : '\n' ∉ text → Gap rest cs →
      Gap rest ('/' :: '/' :: (text ++ '\n' :: cs))
  | lastComment {text : List Char} : rest = [] → '\n' ∉ text → Gap rest ('/' :: '/' :: text)

end SourceCheck.Grammar
