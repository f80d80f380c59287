import SourceCheck.Proofs.Machine.Render

/-! # The faults of rendering

Rendering in words and strings has one fault of its own: a snippet that ends inside a character
that is seen of its line. No count overflows, no difference is negative, and every range is one of
its text, whatever the spans are. Besides, a string to be made can be too long.
-/

namespace SourceCheck

open Text

section Fits

variable {s : Source} {config : Config}

theorem byteLength_le_of_mem_lines {line : List Char} (h : line ∈ s.lines) :
    byteLength line ≤ s.length := by
  obtain ⟨n, hn⟩ := List.getElem?_of_mem h
  have hcount : n ≤ s.chars.count '\n' := by
    have hlt := (List.getElem?_eq_some_iff.mp hn).1
    rw [Source.lines, List.length_map, Source.length_pieces] at hlt
    omega
  obtain ⟨above, whole, after, hline⟩ := exists_isLine hcount
  obtain rfl : visible whole = line := by
    rw [← Option.some.injEq, ← Source.line?_of_isLine hline, ← hn, Source.line?]
  have hvisible := byteLength_mono (prefix_visible whole)
  rw [Source.length, hline.chars_eq, byteLength_append, byteLength_append]
  omega

theorem byteLength_expandTabs_le (cs : List Char) :
    byteLength (expandTabs cs) ≤ 4 * byteLength cs := by
  have hcount := count_le_byteLength '\t' cs
  rw [byteLength_expandTabs]
  omega

theorem underlineColumns_le (cs : List Char) : underlineColumns cs ≤ 5 * byteLength cs := by
  have hshown := underlineColumns_le_shown cs
  have hcount := count_le_byteLength '\t' cs
  rw [byteLength_expandTabs] at hshown
  omega

/-- Every string fits if a source is short, as sources that are kept in a memory are. -/
theorem Config.fits_of_length (h : (config.underline.utf8ByteSize + 1) * (5 * s.length + 1) <
    Word.stringBound) : config.Fits s := by
  intro line hline
  have hle := byteLength_le_of_mem_lines hline
  have hgrow : 5 * s.length + 1 ≤ (config.underline.utf8ByteSize + 1) * (5 * s.length + 1) :=
    Nat.le_mul_of_pos_left _ (Nat.succ_pos _)
  constructor
  · have := byteLength_expandTabs_le line
    omega
  · rintro part ⟨l, r, rfl⟩
    rw [byteLength_append, byteLength_append] at hle
    have hcolumns := underlineColumns_le part
    refine Nat.lt_of_le_of_lt (Nat.mul_le_mul (Nat.le_succ _) ?_) h
    omega

end Fits

/-- Whether a snippet of a diagnostic ends inside a character that is seen of its line. -/
def Diagnostic.EndsInside (d : Diagnostic) (sources : Sources) : Prop :=
  ∃ snippet ∈ d.snippets, ∃ s, sources[snippet.source]? = some s ∧ s.EndsInside snippet.span

section Rendering

variable {sources : Sources} {config : Config}

theorem Rendering.ending_eq_error_iff {r : Rendering} {fault : Fault} :
    r.ending = .error fault ↔ fault = .insideCharacter ∧ r.whole = false := by
  cases h : r.whole <;> simp [ending, h, eq_comm]

theorem Rendering.ending_eq_ok_iff {r : Rendering} : r.ending = .ok () ↔ ¬ r.whole = false := by
  cases h : r.whole <;> simp [ending, h]

theorem Diagnostic.whole_render_eq_false_iff {d : Diagnostic} :
    (d.render sources config).whole = false ↔ d.EndsInside sources := by
  have hsnippets (snippets : List Snippet) : (snippets.foldr
      (fun snippet rest => (config.drawSnippet sources snippet).andThen rest)
      ⟨[.text "\n"], true⟩).whole = false ↔
      ∃ snippet ∈ snippets, (config.drawSnippet sources snippet).whole = false := by
    induction snippets with
    | nil => simp
    | cons snippet snippets ih =>
      rw [List.foldr_cons, Rendering.andThen]
      split
      next hwhole => simp [ih, hwhole]
      next hwhole => simp [hwhole]
  rw [EndsInside]
  simp only [← config.whole_drawSnippet_eq_false_iff]
  exact hsnippets d.snippets

theorem Palette.write_ne_empty {palette : Palette} {marks : List Mark} {t : String}
    (h : .text t ∈ marks) (ht : t ≠ "") : palette.write marks ≠ "" := by
  intro hempty
  have hjoin (shown : Mark → String) (hshown : shown (.text t) = t) :
      String.join (marks.map shown) ≠ "" := by
    intro hnil
    have hlist := congrArg String.toList hnil
    rw [String.toList_join] at hlist
    have hmem : t ∈ marks.map shown := List.mem_map.mpr ⟨_, h, hshown⟩
    have htext := List.flatten_eq_nil_iff.mp hlist _ (List.mem_map_of_mem hmem)
    exact ht (String.toList_eq_nil_iff.mp htext)
  cases palette with
  | plain => exact hjoin Mark.plain rfl hempty
  | ansi => exact hjoin Mark.ansi rfl hempty

theorem write_drawSnippet_eq_empty_iff {snippet : Snippet} {palette : Palette} :
    palette.write (config.drawSnippet sources snippet).marks = "" ↔
      ∀ s, sources[snippet.source]? = some s → ¬ IsBoundary s.chars (s.startOf snippet.span) := by
  constructor
  · intro hwrite s hs hb
    obtain ⟨n, above, line, after, part, hline, hp, hstart⟩ := Source.exists_isLine_of_isBoundary hb
    obtain ⟨t, hne, ht⟩ : ∃ t, t ≠ "" ∧
        Mark.text t ∈ Config.drawLocation s.name ⟨n + 1, part.length + 1⟩ := by
      refine ⟨_, ?_, List.mem_cons_of_mem _ (List.mem_cons_self ..)⟩
      simp
    refine Palette.write_ne_empty ?_ hne hwrite
    rw [config.drawSnippet_of_isLine hs hline hp hstart, Config.drawExcerpt]
    split <;> simp [ht]
  · intro h
    rw [drawSnippet_eq_nothing h]
    cases palette <;> rfl

end Rendering

/-- Rendering in words and strings stops only inside a character, or at a string that is too long.
If all strings fit it draws what rendering draws, and stops exactly if some snippet ends inside a
character that is seen of the line where it starts. A snippet of an unknown source, or one that
starts inside a character, writes nothing, and no other one does. -/
theorem render_faults {sources : Sources} (hs : ∀ s ∈ sources, s.IsString) (d : Diagnostic)
    (config : Config) :
    let run := (Machine.render d sources config).after []
    (∀ fault, run.1 = .error fault →
      fault = .tooLong ∨ fault = .insideCharacter ∧ d.EndsInside sources) ∧
    ((∀ s ∈ sources, config.Fits s) →
      run.2 = (d.render sources config).marks ∧
      (run.1 = .error .insideCharacter ↔ d.EndsInside sources) ∧
      (run.1 = .ok () ↔ ¬ d.EndsInside sources)) ∧
    ∀ snippet ∈ d.snippets, ∀ palette : Palette,
      palette.write (config.drawSnippet sources snippet).marks = "" ↔
        ∀ s, sources[snippet.source]? = some s →
          ¬ IsBoundary s.chars (s.startOf snippet.span) := by
  intro run
  have hwhole : (d.render sources config).whole = false ↔ d.EndsInside sources :=
    Diagnostic.whole_render_eq_false_iff
  refine ⟨?_, ?_, fun snippet _ palette => write_drawSnippet_eq_empty_iff⟩
  · intro fault hfault
    rcases Machine.runs_render hs d config [] with h | ⟨-, part, -, h⟩
    · right
      rw [← hwhole, ← Rendering.ending_eq_error_iff, ← hfault]
      exact (congrArg Prod.fst h).symm
    · left
      have hlong : run.1 = .error .tooLong := congrArg Prod.fst h
      rw [hlong] at hfault
      cases hfault
      rfl
  · intro hfits
    obtain h := (Machine.runs_render hs d config []).resolve_right fun h => h.1 hfits
    have hresult : run.1 = (d.render sources config).ending := congrArg Prod.fst h
    refine ⟨congrArg Prod.snd h, ?_, ?_⟩
    · rw [hresult, Rendering.ending_eq_error_iff, hwhole]
      simp
    · rw [hresult, Rendering.ending_eq_ok_iff, hwhole]

theorem render_faults_inside_character :
    let sources : Sources := [⟨"main", "é\n"⟩]
    let d := Diagnostic.blank.withSnippet ⟨"here", 0, ⟨0, 1⟩⟩
    (∀ s ∈ sources, s.IsString) ∧
      ((Machine.render d sources {}).after []).1 = .error .insideCharacter := by
  intro sources d
  have hs : ∀ s ∈ sources, s.IsString := by
    simp only [sources, List.forall_mem_singleton, Source.IsString]
    decide +kernel
  have hfits : ∀ s ∈ sources, Config.Fits {} s := by
    rw [List.forall_mem_singleton]
    exact Config.fits_of_length (by decide +kernel)
  have hends : d.EndsInside sources := by
    have hline : IsLine ['é', '\n'] 0 [] ['é'] ['\n'] := ⟨rfl, .nil, by decide, by simp⟩
    have hinside : IsInside (visible ['é']) 1 := ⟨[], 'é', [], rfl, by decide, by decide⟩
    exact ⟨_, List.mem_singleton_self _, _, rfl, by decide +kernel, by decide +kernel, 0, [],
      ['é'], ['\n'], hline, by decide +kernel, by decide +kernel, 1, rfl, hinside⟩
  exact ⟨hs, (((render_faults hs d {}).2.1 hfits).2.1).mpr hends⟩

end SourceCheck
