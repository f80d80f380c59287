import SourceCheck.Proofs.Diagnostic.Layout

/-! # The underline and the text above it

A tab takes a column of its own, and is shown as four blanks. The underline counts both: behind
tabs, it stands as many columns to the right of the text it marks as there are tabs.
-/

namespace SourceCheck

open Text

section Columns

theorem expandTabs_cons_tab (cs : List Char) :
    expandTabs ('\t' :: cs) = ' ' :: ' ' :: ' ' :: ' ' :: expandTabs cs := rfl

theorem expandTabs_cons_of_ne {c : Char} (h : c ≠ '\t') (cs : List Char) :
    expandTabs (c :: cs) = c :: expandTabs cs := by
  simp [expandTabs, h]

theorem byteLength_expandTabs (cs : List Char) :
    byteLength (expandTabs cs) = byteLength cs + 3 * cs.count '\t' := by
  have hblank : ' '.utf8Size = 1 := rfl
  have htab : '\t'.utf8Size = 1 := rfl
  induction cs with
  | nil => rfl
  | cons c cs ih =>
    by_cases hc : c = '\t'
    · subst hc
      simp only [expandTabs_cons_tab, byteLength_cons, ih, List.count_cons_self, hblank, htab]
      omega
    · simp only [expandTabs_cons_of_ne hc, byteLength_cons, ih, List.count_cons_of_ne hc]
      omega

namespace Text.IsColumnCount

variable {width : List Char → Nat} (h : IsColumnCount width)
include h

theorem append_expandTabs (before cs : List Char) :
    width (before ++ expandTabs cs) = width (before ++ cs) + 3 * cs.count '\t' := by
  induction cs generalizing before with
  | nil => rfl
  | cons c cs ih =>
    by_cases hc : c = '\t'
    · subst hc
      have hblank (after : List Char) : width (' ' :: after) = 1 + width after := by
        have hcount := h.blank [] after
        rwa [h.nil, Nat.zero_add] at hcount
      have htail := ih []
      rw [List.nil_append, List.nil_append] at htail
      rw [expandTabs_cons_tab, h.blank, hblank, hblank, hblank, htail, h.tab,
        List.count_cons_self]
      omega
    · have htail := ih (before ++ [c])
      rw [List.append_assoc, List.append_assoc] at htail
      rw [expandTabs_cons_of_ne hc, List.count_cons_of_ne hc]
      exact htail

/-- Counting four columns for a tab on top of its own is one too many. -/
theorem add_tabs (cs : List Char) :
    width cs + cs.count '\t' * tabText.length = width (expandTabs cs) + cs.count '\t' := by
  have hshown := h.append_expandTabs [] cs
  have htab : tabText.length = 4 := rfl
  rw [List.nil_append, List.nil_append] at hshown
  rw [hshown, htab]
  omega

theorem add_tabs_le (cs : List Char) :
    width cs + cs.count '\t' * tabText.length ≤ byteLength (expandTabs cs) + cs.count '\t' := by
  rw [h.add_tabs]
  exact Nat.add_le_add_right (h.le_byteLength _) _

end Text.IsColumnCount

theorem underlineColumns_eq (cs : List Char) :
    underlineColumns cs = displayWidth (expandTabs cs) + cs.count '\t' :=
  displayWidth_isColumnCount.add_tabs cs

theorem underlineColumns_le_shown (cs : List Char) :
    underlineColumns cs ≤ byteLength (expandTabs cs) + cs.count '\t' :=
  displayWidth_isColumnCount.add_tabs_le cs

end Columns

/-- Where the underline of a snippet is drawn and how long it is: as far to the right, and as
long, as the text that is shown before it and above it, and a column more for every tab there. -/
theorem underline_of_drawn {sources : Sources} {config : Config} {snippet : Snippet}
    (hdrawn : (config.drawSnippet sources snippet).marks ≠ [])
    (hwhole : (config.drawSnippet sources snippet).whole = true) :
    ∃ s, sources[snippet.source]? = some s ∧ ∃ b : Block config s snippet,
      Palette.plain.write (config.drawSnippet sources snippet).marks = b.text ∧
      b.underlined = config.underlineRow (b.index + 1).repr.length
        (displayWidth (expandTabs b.before) + b.before.count '\t')
        (max 1 (displayWidth (expandTabs b.inside) + b.inside.count '\t')) snippet.label := by
  obtain ⟨s, hs, b, hwrite⟩ := exists_block_of_drawn hdrawn hwhole
  refine ⟨s, hs, b, hwrite, ?_⟩
  rw [Block.underlined, underlineColumns_eq, underlineColumns_eq]

theorem underline_of_drawn_wide :
    let source : Source := ⟨"main", "\t日本 = 1"⟩
    let snippet : Snippet := ⟨"here", 0, ⟨1, 7⟩⟩
    ∃ s, [source][snippet.source]? = some s ∧ ∃ b : Block {} s snippet,
      Palette.plain.write (Config.drawSnippet {} [source] snippet).marks = b.text ∧
      b.underlined = Config.underlineRow {} (b.index + 1).repr.length
        (displayWidth (expandTabs b.before) + b.before.count '\t')
        (max 1 (displayWidth (expandTabs b.inside) + b.inside.count '\t')) snippet.label :=
  underline_of_drawn (by decide +kernel) (by decide +kernel)

/-- Behind a tab the underline is not under the text: the tab is shown in four columns, and the
underline starts in the sixth. -/
theorem underline_right_of_tab :
    let source : Source := ⟨"main", "\tx"⟩
    let snippet : Snippet := ⟨"here", 0, ⟨1, 2⟩⟩
    Palette.plain.write (Config.drawSnippet {} [source] snippet).marks =
        "In main:1:2\n1 │     x\n  │      ^ here\n" ∧
      displayWidth (expandTabs ['\t']) = 4 := by
  decide +kernel

end SourceCheck
