import BackupLocator.Proofs.Terminal.Markup
import BackupLocator.Proofs.Terminal.Styled
import BackupLocator.Terminal

/-!
# Texts that are printed

A text with markup is printed as what its pieces show, with blanks for tabs. So what is printed is
a given plain text or less than it, and holds no tabs.
-/

namespace BackupLocator.Terminal

/-! ## Lines that are shown -/

theorem shown_eq_ok {lines : List Styled} {texts : List (List Char)}
    (h : shown lines = .ok texts) : texts = lines.map (·.text) := by
  obtain ⟨-, -, h⟩ := Failure.bind_eq_ok_iff.mp h
  exact (Except.ok.inj h).symm

/-- Whether a style can be put to use. -/
def IsUsable (style : List Char) : Prop := StyleName.use style = .ok ()

theorem shown_of_usable {lines : List Styled} (h : ∀ t ∈ lines, t.HasStyles IsUsable) :
    shown lines = .ok (lines.map (·.text)) := by
  have huse : (lines.forM fun t => t.stretches.forM fun s => StyleName.use s.style) = .ok ⟨⟩ :=
    Failure.forM_eq_ok fun t ht => Failure.forM_eq_ok (h t ht)
  rw [shown, huse]
  rfl

/-! ## Texts that are printed -/

theorem map_expandTabs_lines {t : Styled} (h : '\t' ∉ t.text) :
    t.lines.map Styled.expandTabs = t.lines := by
  refine (List.map_congr_left fun line hline => ?_).trans (List.map_id' _)
  refine Styled.expandTabs_of_plain fun htab => h ?_
  have hpiece : line.text ∈ Text.pieces '\n' t.text := by
    rw [← t.map_text_lines]
    exact List.mem_map_of_mem hline
  exact Text.mem_of_mem_pieces hpiece htab

/-- What is printed holds no tabs. Where the text that was read holds none it is that text. -/
theorem text_of_printed {s text : String} (h : printed s = .ok text) :
    ∃ t, Markup.read s.toList = .ok t ∧ '\t' ∉ text.toList ∧
      ('\t' ∉ t.text → text.toList = t.text) := by
  obtain ⟨t, hread, h⟩ := Failure.bind_eq_ok_iff.mp h
  obtain ⟨texts, hshown, h⟩ := Failure.bind_eq_ok_iff.mp h
  obtain rfl := Except.ok.inj h
  have htexts := shown_eq_ok hshown
  rw [String.toList_ofList, htexts]
  refine ⟨t, hread, Text.not_mem_joinWith (by decide) fun p hp => ?_, fun htab => ?_⟩
  · obtain ⟨line, hline, rfl⟩ := List.mem_map.mp hp
    obtain ⟨line, -, rfl⟩ := List.mem_map.mp hline
    exact line.tab_not_mem_expandTabs
  · rw [map_expandTabs_lines htab, t.map_text_lines, Text.joinWith_pieces]

/-- A text without tabs, in styles that can be put to use, is printed as it was read. -/
theorem printed_of_read {s : String} {t : Styled} (hread : Markup.read s.toList = .ok t)
    (htab : '\t' ∉ t.text) (hstyles : t.HasStyles IsUsable) :
    printed s = .ok (String.ofList t.text) := by
  have hshown := shown_of_usable hstyles.lines
  rw [printed, hread, Failure.ok_bind, map_expandTabs_lines htab, hshown, Failure.ok_bind,
    t.map_text_lines, Text.joinWith_pieces]
  rfl

/-! ## Texts with a plain part -/

/-- Some output is a text `s` where `p` holds. Where it does not, there is none, or a text that is
less, or one that has lost tabs. -/
structure PrintsIff (p : Prop) (out : Except Failure String) (s : String) : Prop where
  plain : p → out = .ok s
  keeps : ∀ text, out = .ok text → '\t' ∉ text.toList ∧
    ('\t' ∉ s.toList → KeepsIff p text.toList s.toList)

namespace PrintsIff

variable {p q : Prop} {out : Except Failure String} {s : String}

theorem eq_iff (h : PrintsIff p out s) : out = .ok s ↔ p := by
  refine ⟨fun hout => ?_, h.plain⟩
  obtain ⟨htab, hkeeps⟩ := h.keeps s hout
  exact (hkeeps htab).eq_iff.mp rfl

theorem congr (h : PrintsIff p out s) (hpq : p ↔ q) : PrintsIff q out s :=
  ⟨fun hq => h.plain (hpq.mpr hq), fun text htext =>
    (h.keeps text htext).imp_right fun hkeeps htab => (hkeeps htab).congr hpq⟩

end PrintsIff

/-- A text that is read as a front without tabs and the pieces of another text is printed as both
if and only if the latter is plain. -/
theorem printsIff_of_read (front s : List Char) {fuel : Nat} {line : String}
    (hlength : s.length ≤ fuel) (hfront : '\t' ∉ front)
    (htext : ∀ t, Markup.read line.toList = .ok t →
      t.text = front ++ Markup.shownTexts (Markup.piecesFrom fuel [] s))
    (hplain : Markup.IsPlain s → ∃ t, Markup.read line.toList = .ok t ∧ t.HasStyles IsUsable) :
    PrintsIff (Markup.IsPlain s) (printed line) (String.ofList (front ++ s)) := by
  have hkeeps := (Markup.piecesFrom_keepsIff hlength []).append_left front
  rw [List.reverse_nil, List.nil_append] at hkeeps
  constructor
  · intro hp
    obtain ⟨t, hread, hstyles⟩ := hplain hp
    have hwhole : t.text = front ++ s :=
      (htext t hread).trans (hkeeps.kept ⟨hp.tag, hp.toShowsItself⟩)
    have htab : '\t' ∉ t.text := by simp [hwhole, hfront, hp.tab]
    rw [printed_of_read hread htab hstyles, hwhole]
  · intro text hprinted
    obtain ⟨t, hread, htab, hsame⟩ := text_of_printed hprinted
    refine ⟨htab, fun hnone => ?_⟩
    rw [String.toList_ofList] at hnone ⊢
    have hshown := htext t hread
    rw [hsame (hshown ▸ mt hkeeps.tab hnone), hshown]
    refine hkeeps.congr ⟨fun hp => ⟨hp.2, hp.1, ?_⟩, fun hp => ⟨hp.tag, hp.toShowsItself⟩⟩
    exact fun htab => hnone (List.mem_append_right _ htab)

/-- A text is printed as it is if and only if it is plain. -/
theorem printed_printsIff (line : String) :
    PrintsIff (Markup.IsPlain line.toList) (printed line) line := by
  have hline := printsIff_of_read [] line.toList (Nat.le_refl _) List.not_mem_nil
    (fun t hread => Markup.text_of_readPieces hread) fun hp => ?_
  · simpa using hline
  · have hpiece := Markup.piecesFrom_of_not_holdsTag (Nat.le_refl _) hp.tag []
    have hread : Markup.read line.toList = .ok ⟨Markup.shownText line.toList, []⟩ := by
      rw [Markup.read, Markup.pieces, hpiece, Markup.readPieces_textPiece]
      rfl
    exact ⟨_, hread, fun _ => nofun⟩

/-! ## Lines behind a mark -/

theorem isColor_of_contains {word : List Char}
    (h : (wordsOf colorWords.toList).contains word = true) :
    StyleName.isColor word = .ok true := by
  unfold StyleName.isColor
  exact if_pos (by rw [h, Bool.or_true])

/-- The name of the style of good news. -/
def green : List Char := ['g', 'r', 'e', 'e', 'n']

set_option maxRecDepth 20000 in
theorem green_mem_colorWords : (wordsOf colorWords.toList).contains green = true := by
  unfold colorWords
  apply holds_toList_ofList fun l => (wordsOf l).contains green = true
  decide +kernel

theorem read_green :
    StyleName.read ⟨[], [], [], []⟩ (blankWords green) = .ok (some ⟨[], green, [], []⟩) := by
  have hwords : blankWords green = [green] := by decide +kernel
  have hlower : Text.lower green = green := by decide +kernel
  have hattribute : StyleName.attribute? green = none := by decide +kernel
  have hcolor := isColor_of_contains green_mem_colorWords
  rw [hwords, StyleName.read, hlower]
  simp only [hattribute, hcolor]
  rfl

theorem normal_green : StyleName.normal green = .ok green := by
  have hnone : Text.trim Text.isBlank green ≠ "none".toList := by decide +kernel
  rw [StyleName.normal, if_neg hnone, read_green]
  exact congrArg Except.ok (by decide +kernel)

theorem green_isUsable : IsUsable green := by
  rw [IsUsable, StyleName.use, read_green]
  rfl

end BackupLocator.Terminal
