import SourceCheck.Proofs.Diagnostic.Underline
import SourceCheck.Proofs.Machine.Source

/-! # Rendering in machine words

The drawing of a diagnostic, with every step on words and strings that it takes.
-/

namespace SourceCheck

open Text

namespace Machine

/-- A drawing that may stop with a fault. What was drawn before stays. -/
abbrev Draw := ExceptT Fault (StateM (List Mark))

def emit (marks : List Mark) : Draw Unit := modify (· ++ marks)

def expand (line : List Char) : Except Fault (List Char) :=
  if byteLength (expandTabs line) < Word.stringBound then .ok (expandTabs line)
  else .error .tooLong

def copies (n : Nat) (glyph : String) : Except Fault String :=
  if glyph.utf8ByteSize * n < Word.stringBound then .ok (String.join (List.replicate n glyph))
  else .error .tooLong

def columns (cs : List Char) : Except Fault Nat := do
  let tabs ← Word.mul (cs.count '\t') tabText.length
  Word.add (displayWidth cs) tabs

/-- How many blanks stand before the underline, and how many glyphs it has, for a part of a line
between two byte offsets. -/
def underline (line : List Char) (start stop : Nat) : Except Fault (Nat × Nat) := do
  let start := min start (byteLength line)
  let stop ← Word.clamp stop start (byteLength line)
  let blanks ← columns (← Word.slice line 0 start)
  let glyphs ← columns (← Word.slice line start stop)
  return (blanks, max 1 glyphs)

def drawLine (config : Config) (width number : Nat) (line : List Char) : Draw Unit := do
  emit (config.drawGutter width (some number))
  emit [.text (String.ofList (← expand line) ++ "\n")]

def drawUnderline (config : Config) (width blanks glyphs : Nat) (label : String) : Draw Unit := do
  emit (config.drawGutter width none)
  emit [.style .error, .text (String.ofList (List.replicate blanks ' '))]
  emit [.text (← copies glyphs config.underline)]
  emit [.text (config.underlineAfter ++ label ++ "\n"), .reset]

def numberWidth (line : Nat) : Except Fault Nat := do
  Word.add 1 (← Word.log10 (← Word.add line 1))

def drawAbove (config : Config) (s : Source) (width line : Nat) : Draw Unit :=
  let first := line - config.contextSize
  (List.range' first (line - first)).forM fun context => do
    let text := (← line? s context).getD []
    drawLine config width (← Word.add context 1) text

def drawSnippet (config : Config) (s : Source) (snippet : Snippet) : Draw Unit := do
  let start := min snippet.span.start s.length
  let some position ← position? s start | return
  let line ← Word.sub position.row 1
  let some lineStart ← lineStart? s line | return
  let text := (← line? s line).getD []
  emit (Config.drawLocation s.name position)
  let width ← numberWidth line
  drawAbove config s width line
  drawLine config width position.row text
  let (blanks, glyphs) ← underline text (← Word.sub start lineStart) (snippet.span.stop - lineStart)
  drawUnderline config width blanks glyphs snippet.label

def drawKnown (config : Config) (sources : Sources) (snippet : Snippet) : Draw Unit := do
  let some s := sources[snippet.source]? | return
  drawSnippet config s snippet

def render (d : Diagnostic) (sources : Sources) (config : Config) : Draw Unit := do
  emit d.drawHeader
  d.snippets.forM (drawKnown config sources)
  emit [.text "\n"]

def Draw.after {α : Type} (x : Draw α) (marks : List Mark) : Except Fault α × List Mark :=
  (ExceptT.run x).run marks

end Machine

/-- The strings that are made to draw a source can be made. -/
def Config.Fits (config : Config) (s : Source) : Prop :=
  ∀ line ∈ s.lines, byteLength (expandTabs line) < Word.stringBound ∧ ∀ part, part <:+: line →
    config.underline.utf8ByteSize * max 1 (underlineColumns part) < Word.stringBound

namespace Machine

/-- A drawing draws some marks and has a result. Only if strings do not fit it may stop on the
way, with a part of the marks. -/
def Runs {α : Type} (fits : Prop) (x : Draw α) (result : Except Fault α) (marks : List Mark) :
    Prop :=
  ∀ drawn, x.after drawn = (result, drawn ++ marks) ∨
    ¬ fits ∧ ∃ part, part <+: marks ∧ x.after drawn = (.error .tooLong, drawn ++ part)

section Runs

variable {α β : Type} {fits : Prop} {x : Draw α} {f : α → Draw β} {a : α} {fault : Fault}
  {result : Except Fault β} {marks marks' : List Mark}

theorem liftM_ok_bind (a : α) (f : α → Draw β) :
    ((liftM (Except.ok a : Except Fault α) : Draw α) >>= f) = f a := rfl

theorem after_bind (x : Draw α) (f : α → Draw β) (drawn : List Mark) :
    (x >>= f).after drawn = match x.after drawn with
      | (.ok a, shown) => (f a).after shown
      | (.error fault, shown) => (.error fault, shown) := by
  change (ExceptT.bindCont f (x.after drawn).1).run (x.after drawn).2 = _
  rcases x.after drawn with ⟨_ | _, shown⟩ <;> rfl

namespace Runs

theorem pure (a : α) : Runs fits (Pure.pure a : Draw α) (.ok a) [] := by
  intro drawn
  left
  rw [List.append_nil]
  rfl

theorem emit (marks : List Mark) : Runs fits (Machine.emit marks) (.ok ()) marks :=
  fun _ => .inl rfl

theorem bind (hx : Runs fits x (.ok a) marks) (hf : Runs fits (f a) result marks') :
    Runs fits (x >>= f) result (marks ++ marks') := by
  intro drawn
  rw [after_bind]
  rcases hx drawn with h | ⟨hfits, part, hpart, h⟩
  · rw [h, ← List.append_assoc]
    rcases hf (drawn ++ marks) with h' | ⟨hfits, part, hpart, h'⟩
    · exact .inl h'
    · refine .inr ⟨hfits, marks ++ part, (List.prefix_append_right_inj marks).mpr hpart, ?_⟩
      rw [← List.append_assoc]
      exact h'
  · rw [h]
    exact .inr ⟨hfits, part, hpart.trans (List.prefix_append ..), rfl⟩

theorem bind_error (hx : Runs fits x (.error fault) marks) :
    Runs fits (x >>= f) (.error fault) marks := by
  intro drawn
  rw [after_bind]
  rcases hx drawn with h | ⟨hfits, part, hpart, h⟩
  · rw [h]
    exact .inl rfl
  · rw [h]
    exact .inr ⟨hfits, part, hpart, rfl⟩

theorem error_bind (fault : Fault) (f : α → Draw β) :
    Runs fits ((liftM (Except.error fault : Except Fault α) : Draw α) >>= f) (.error fault) [] := by
  intro drawn
  left
  rw [List.append_nil]
  rfl

theorem ite_bind {c : Prop} [Decidable c] (hc : fits → c) (hf : c → Runs fits (f a) result marks) :
    Runs fits ((liftM (if c then .ok a else .error .tooLong : Except Fault α) : Draw α) >>= f)
      result marks := by
  by_cases h : c
  · rw [if_pos h]
    exact hf h
  · rw [if_neg h]
    intro drawn
    refine .inr ⟨mt hc h, [], List.nil_prefix, ?_⟩
    rw [List.append_nil]
    rfl

theorem forM {l : List α} {f : α → Draw Unit} {g : α → List Mark}
    (h : ∀ a ∈ l, Runs fits (f a) (.ok ()) (g a)) :
    Runs fits (l.forM f) (.ok ()) (l.flatMap g) := by
  induction l with
  | nil => exact pure ()
  | cons a l ih =>
    rw [List.flatMap_cons]
    exact bind (h a (List.mem_cons_self ..)) (ih fun b hb => h b (List.mem_cons_of_mem a hb))

end Runs

end Runs

section Underline

variable {line part before inside : List Char} {start stop : Nat}

theorem columns_eq_ok (hp : part <:+: line)
    (h : byteLength (expandTabs line) < Word.stringBound) :
    columns part = .ok (underlineColumns part) := by
  obtain ⟨l, r, rfl⟩ := hp
  have htab : tabText.length = 4 := rfl
  have hcolumns := underlineColumns_le_shown part
  have hcount := count_le_byteLength '\t' part
  rw [underlineColumns, htab, byteLength_expandTabs] at hcolumns
  rw [byteLength_expandTabs, byteLength_append, byteLength_append, List.count_append,
    List.count_append] at h
  simp only [Word.stringBound] at h
  have hmul : Word.mul (part.count '\t') tabText.length = .ok (part.count '\t' * 4) :=
    Word.mul_eq_ok (by rw [htab, Word.bound]; omega)
  rw [columns, hmul, Word.ok_bind, underlineColumns, htab]
  exact Word.add_eq_ok (by rw [Word.bound]; omega)

theorem underline_eq (h : byteLength (expandTabs line) < Word.stringBound)
    (hb : IsBoundary line (min start (byteLength line))) :
    underline line start stop = match markLine line start stop with
      | some marked => .ok (underlineColumns marked.before, max 1 (underlineColumns marked.inside))
      | none => .error .insideCharacter := by
  have hclamp := Word.clamp_eq_ok (a := stop) (Nat.min_le_right start (byteLength line))
  simp only [underline, hclamp, Word.ok_bind]
  cases hm : markLine line start stop with
  | some marked =>
    obtain ⟨before, inside⟩ := marked
    obtain ⟨⟨after, hline⟩, hbefore, hinside⟩ := markLine_eq_some_iff.mp hm
    rw [List.append_assoc] at hline
    rw [Word.slice_zero ⟨_, hline⟩ hbefore, Word.ok_bind,
      columns_eq_ok ⟨[], inside ++ after, hline⟩ h, Word.ok_bind,
      Word.slice_eq_ok hline.symm hbefore hinside, Word.ok_bind,
      columns_eq_ok ⟨before, after, by rw [← hline, List.append_assoc]⟩ h]
    rfl
  | none =>
    obtain ⟨before, rest, hline, hbefore⟩ := hb
    have hnone : slice? line (min start (byteLength line))
        (max (min start (byteLength line)) (min stop (byteLength line))) = none := by
      rw [Option.eq_none_iff_forall_ne_some]
      intro inside hinside
      obtain ⟨before', after, hline', hb', hi'⟩ := slice?_eq_some_iff.mp hinside
      have hmark : markLine line start stop = some ⟨before', inside⟩ :=
        markLine_eq_some_iff.mpr ⟨⟨after, by rw [hline', List.append_assoc]⟩, hb', hi'⟩
      rw [hm] at hmark
      cases hmark
    rw [Word.slice_zero ⟨rest, hline.symm⟩ hbefore, Word.ok_bind,
      columns_eq_ok ⟨[], rest, hline.symm⟩ h, Word.ok_bind,
      Word.slice_eq_error (Nat.le_max_left ..) (by omega) hnone]
    rfl

end Underline

section Drawing

variable {β : Type} {fits : Prop} {config : Config} {s : Source} {line : List Char}
  {n width number : Nat} {label : String}

theorem runs_drawLine (h : fits → byteLength (expandTabs line) < Word.stringBound) :
    Runs fits (drawLine config width number line) (.ok ()) (config.drawLine width number line) :=
  .bind (.emit _) (.ite_bind h fun _ => .emit _)

theorem Runs.drawLine_bind {f : Unit → Draw β} {result : Except Fault β} {marks : List Mark}
    (h : fits → byteLength (expandTabs line) < Word.stringBound)
    (hf : byteLength (expandTabs line) < Word.stringBound → Runs fits (f ()) result marks) :
    Runs fits (drawLine config width number line >>= f) result
      (config.drawLine width number line ++ marks) := by
  simp only [drawLine, bind_assoc, Config.drawLine, List.append_assoc]
  exact .bind (.emit _) (.ite_bind h fun hline => .bind (.emit _) (hf hline))

theorem runs_drawUnderline {before inside : List Char}
    (h : fits → config.underline.utf8ByteSize * max 1 (underlineColumns inside) <
      Word.stringBound) :
    Runs fits (drawUnderline config width (underlineColumns before)
        (max 1 (underlineColumns inside)) label)
      (.ok ()) (config.drawUnderline width label ⟨before, inside⟩) := by
  have hmarks : config.drawUnderline width label ⟨before, inside⟩ =
      config.drawGutter width none ++
        ([.style .error, .text (String.ofList (List.replicate (underlineColumns before) ' '))] ++
          ([.text (String.join (List.replicate (max 1 (underlineColumns inside))
            config.underline))] ++
            [.text (config.underlineAfter ++ label ++ "\n"), .reset])) := rfl
  rw [hmarks]
  exact .bind (.emit _) (.bind (.emit _) (.ite_bind h fun _ => .bind (.emit _) (.emit _)))

theorem numberWidth_eq (hs : s.IsString) (hn : n ≤ s.chars.count '\n') :
    numberWidth n = .ok (n + 1).repr.length := by
  have hlog := Nat.log_le_self 10 (n + 1)
  have hle := count_le_byteLength '\n' s.chars
  have hlt : 1 + Nat.log 10 (n + 1) < Word.bound := by
    simp only [Source.IsString, Source.length, Word.stringBound] at hs
    rw [Word.bound]
    omega
  rw [numberWidth, hs.add_one_of_le_count hn, Word.ok_bind, Word.log10_eq_ok (Nat.succ_ne_zero n),
    Word.ok_bind, Word.add_eq_ok hlt, length_repr, Nat.add_comm]

theorem runs_drawAbove (hs : s.IsString) (hfits : fits → config.Fits s)
    (hn : n ≤ s.chars.count '\n') :
    Runs fits (drawAbove config s width n) (.ok ())
      ((List.range' (n - config.contextSize) (n - (n - config.contextSize))).flatMap fun i =>
        config.drawLine width (i + 1) ((s.line? i).getD [])) := by
  refine .forM fun i hi => ?_
  rw [List.mem_range'_1] at hi
  have hcount : i ≤ s.chars.count '\n' := by omega
  obtain ⟨above, line, after, hline⟩ := exists_isLine hcount
  have hget := Source.line?_of_isLine hline
  rw [hs.line? hline, liftM_ok_bind, hs.add_one_of_le_count hcount, liftM_ok_bind, hget]
  exact runs_drawLine fun h => (hfits h _ (List.mem_of_getElem? hget)).1

end Drawing

end Machine

/-- What a rendering ends with: it stops only inside a character. -/
def Rendering.ending (r : Rendering) : Except Fault Unit :=
  if r.whole then .ok () else .error .insideCharacter

namespace Machine

section Snippets

variable {fits : Prop} {config : Config} {s : Source} {snippet : Snippet} {sources : Sources}

theorem flatMap_linesUpTo {n : Nat} {above line after : List Char}
    (h : IsLine s.chars n above line after) (width count : Nat) :
    ((s.linesUpTo n count).flatMap fun l => config.drawLine width l.1 l.2) =
      ((List.range' (n - count) (n - (n - count))).flatMap fun i =>
        config.drawLine width (i + 1) ((s.line? i).getD [])) ++
      config.drawLine width (n + 1) (visible line) := by
  have hfirst : n - min n count = n - count := by omega
  have hcount : min n count = n - (n - count) := by omega
  have hlast : n - count + (n - (n - count)) = n := by omega
  rw [Source.linesUpTo_eq h.le_count, hfirst, hcount, List.range'_1_concat, hlast]
  simp [List.flatMap_map, Source.line?_of_isLine h]

theorem runs_drawSnippet_of_isLine {n : Nat} {above line after part : List Char}
    (hs : s.IsString) (hfits : fits → config.Fits s)
    (hsource : sources[snippet.source]? = some s) (hline : IsLine s.chars n above line after)
    (hp : part <+: line) (hstart : s.startOf snippet.span = byteLength above + byteLength part) :
    Runs fits (drawSnippet config s snippet) (config.drawSnippet sources snippet).ending
      (config.drawSnippet sources snippet).marks := by
  have hposition := Source.position?_startOf hline hp hstart
  have hrow : Word.sub (n + 1) 1 = .ok n := Word.sub_eq_ok (Nat.succ_pos n)
  have hfrom : Word.sub (s.startOf snippet.span) (byteLength above) = .ok (byteLength part) := by
    rw [Word.sub_eq_ok (by omega), hstart, Nat.add_sub_cancel_left]
  rw [Source.startOf] at hposition hfrom
  rw [config.drawSnippet_of_isLine hsource hline hp hstart]
  simp only [drawSnippet, hs.position?, hposition, liftM_ok_bind, hrow, hs.lineStart?,
    Source.lineStart?_of_isLine hline, hs.line? hline, Source.line?_of_isLine hline,
    numberWidth_eq hs hline.le_count, hfrom, Option.getD_some]
  have hfit := fun h => hfits h _ (List.mem_of_getElem? (Source.line?_of_isLine hline))
  have hcut := Source.isBoundary_visible hp
  cases hm : markLine (visible line) (byteLength part) (snippet.span.stop - byteLength above) with
  | some marked =>
    obtain ⟨⟨after, hshown⟩, -⟩ := markLine_eq_some_iff.mp hm
    simp only [Config.drawExcerpt, flatMap_linesUpTo hline, List.append_assoc]
    refine .bind (.emit _) (.bind (runs_drawAbove hs hfits hline.le_count)
      (.drawLine_bind (fun h => (hfit h).1) fun hline => ?_))
    rw [underline_eq hline hcut, hm, liftM_ok_bind]
    exact runs_drawUnderline fun h => (hfit h).2 _ ⟨marked.before, after, hshown⟩
  | none =>
    simp only [Config.drawExcerpt, flatMap_linesUpTo hline]
    rw [← List.append_nil (config.drawLine (n + 1).repr.length (n + 1) (visible line))]
    refine .bind (.emit _) (.bind (runs_drawAbove hs hfits hline.le_count)
      (.drawLine_bind (fun h => (hfit h).1) fun hline => ?_))
    rw [underline_eq hline hcut, hm]
    exact .error_bind _ _

theorem runs_drawSnippet (hs : s.IsString) (hfits : fits → config.Fits s)
    (hsource : sources[snippet.source]? = some s) :
    Runs fits (drawSnippet config s snippet) (config.drawSnippet sources snippet).ending
      (config.drawSnippet sources snippet).marks := by
  by_cases hb : IsBoundary s.chars (s.startOf snippet.span)
  · obtain ⟨n, above, line, after, part, hline, hp, hstart⟩ :=
      Source.exists_isLine_of_isBoundary hb
    exact runs_drawSnippet_of_isLine hs hfits hsource hline hp hstart
  · have hnothing : ∀ s', sources[snippet.source]? = some s' →
        ¬ IsBoundary s'.chars (s'.startOf snippet.span) := by
      intro s' hs'
      obtain rfl := Option.some.inj (hsource.symm.trans hs')
      exact hb
    have hposition := Source.position?_startOf_eq_none hb
    rw [Source.startOf] at hposition
    rw [drawSnippet_eq_nothing hnothing]
    simp only [drawSnippet, hs.position?, hposition, liftM_ok_bind]
    exact .pure ()

theorem runs_drawKnown (hs : ∀ s ∈ sources, s.IsString)
    (hfits : fits → ∀ s ∈ sources, config.Fits s) (snippet : Snippet) :
    Runs fits (drawKnown config sources snippet) (config.drawSnippet sources snippet).ending
      (config.drawSnippet sources snippet).marks := by
  cases hsource : sources[snippet.source]? with
  | none =>
    have hnothing : config.drawSnippet sources snippet = ⟨[], true⟩ :=
      drawSnippet_eq_nothing (by simp [hsource])
    simp only [drawKnown, hsource, hnothing]
    exact .pure ()
  | some s =>
    have hmem := List.mem_of_getElem? hsource
    simp only [drawKnown, hsource]
    exact runs_drawSnippet (hs s hmem) (fun h => hfits h s hmem) hsource

theorem runs_forM_drawKnown (hs : ∀ s ∈ sources, s.IsString)
    (hfits : fits → ∀ s ∈ sources, config.Fits s) (snippets : List Snippet) (close : List Mark) :
    let drawing := snippets.foldr
      (fun snippet rest => (config.drawSnippet sources snippet).andThen rest) ⟨close, true⟩
    Runs fits (do snippets.forM (drawKnown config sources); emit close) drawing.ending
      drawing.marks := by
  induction snippets with
  | nil => exact .emit close
  | cons snippet snippets ih =>
    have hfirst := runs_drawKnown hs hfits snippet
    change Runs fits ((drawKnown config sources snippet >>= fun _ =>
      snippets.forM (drawKnown config sources)) >>= fun _ => emit close) _ _
    rw [bind_assoc, List.foldr_cons, Rendering.andThen]
    split
    next hwhole =>
      rw [Rendering.ending, if_pos hwhole] at hfirst
      exact .bind hfirst ih
    next hwhole =>
      rw [Rendering.ending, if_neg hwhole] at hfirst ⊢
      exact .bind_error hfirst

end Snippets

/-- Rendering in words and strings is rendering, unless a string is too long. -/
theorem runs_render {sources : Sources} (hs : ∀ s ∈ sources, s.IsString) (d : Diagnostic)
    (config : Config) :
    Runs (∀ s ∈ sources, config.Fits s) (render d sources config)
      (d.render sources config).ending (d.render sources config).marks :=
  .bind (.emit _) (runs_forM_drawKnown hs id d.snippets [.text "\n"])

end Machine

end SourceCheck
