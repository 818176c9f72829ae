import BackupLocator.Proofs.Text.Cut
import BackupLocator.Terminal.Styled

/-!
# Lines of styled texts

The lines of a styled text are the pieces of its text between line ends, in styles of the whole
text. A line without tabs stays as it is where tabs are filled up, and no tabs are left in any.
-/

namespace BackupLocator.Terminal.Styled

variable {t u : Styled} {sep : Char}

/-! ## Texts of pieces -/

/-- The texts with `sep` behind each but the last. -/
def endedBy (sep : Char) : List (List Char) → List (List Char)
  | [] => []
  | [p] => [p]
  | p :: q :: ps => (p ++ [sep]) :: endedBy sep (q :: ps)

theorem text_slice {front seen s : List Char} (ht : t.text = front ++ seen ++ s) :
    (t.slice front.length (front ++ seen).length).text = seen := by
  rw [slice, ht, List.take_left, List.drop_left]

/-- The induction is on what is left of the text; `front` has been cut off, and `seen` is what of
the next piece has been read. -/
theorem map_text_slicesFrom (front seen : List Char) {s : List Char}
    (ht : t.text = front ++ seen ++ s) (hseen : sep ∉ seen) :
    (t.slicesFrom front.length (positionsBehind sep (front ++ seen).length s)).map (·.text) =
      endedBy sep (Text.pieces sep (seen ++ s)) := by
  induction s generalizing front seen with
  | nil =>
    have hlast := text_slice ht
    rw [List.append_nil] at ht
    rw [List.append_nil, Text.pieces_of_not_mem hseen]
    simpa [positionsBehind, slicesFrom, endedBy, ht] using hlast
  | cons c s ih =>
    rw [positionsBehind]
    by_cases hc : c = sep
    · subst hc
      have hfront : t.text = (front ++ (seen ++ [c])) ++ [] ++ s := by simp [ht]
      have hpiece : (t.slice front.length (front ++ (seen ++ [c])).length).text = seen ++ [c] :=
        text_slice (by simpa using hfront)
      have hrest := ih _ [] hfront List.not_mem_nil
      obtain ⟨q, qs, hpieces⟩ := List.exists_cons_of_ne_nil (Text.pieces_ne_nil c s)
      rw [Text.pieces_append_cons hseen, hpieces, endedBy, if_pos rfl]
      simpa [slicesFrom, hpieces, Nat.add_assoc] using And.intro hpiece hrest
    · have hseen' : sep ∉ seen ++ [c] := by simp [hseen, Ne.symm hc]
      have hrest := ih front (seen ++ [c]) (by simp [ht]) hseen'
      rw [if_neg hc]
      simpa [Nat.add_assoc] using hrest

/-- The pieces of a styled text are the pieces of its text. -/
theorem map_text_cutAt (t : Styled) (sep : Char) :
    (t.cutAt (positionsBehind sep 0 t.text)).map (·.text) =
      endedBy sep (Text.pieces sep t.text) := by
  have hslices : (t.slicesFrom 0 (positionsBehind sep 0 t.text)).map (·.text) =
      endedBy sep (Text.pieces sep t.text) :=
    map_text_slicesFrom [] [] rfl List.not_mem_nil
  unfold cutAt
  split
  · rename_i hnone
    rw [List.isEmpty_iff] at hnone
    simpa [hnone, slicesFrom, slice] using hslices
  · exact hslices

/-! ## Lines -/

theorem text_withoutLineEnd_of_ended {p : List Char} (h : t.text = p ++ ['\n']) :
    t.withoutLineEnd.text = p := by
  simp [withoutLineEnd, slice, h]

theorem withoutLineEnd_of_plain (h : '\n' ∉ t.text) : t.withoutLineEnd = t :=
  if_neg fun hlast => h (List.mem_of_getLast? hlast)

theorem map_text_withoutLineEnd {ts : List Styled} {ps : List (List Char)}
    (hts : ts.map (·.text) = endedBy '\n' ps) (hps : ∀ p ∈ ps, '\n' ∉ p) :
    (ts.map withoutLineEnd).map (·.text) = ps := by
  induction ps generalizing ts with
  | nil =>
    obtain rfl := List.map_eq_nil_iff.mp hts
    rfl
  | cons p ps ih =>
    rw [List.forall_mem_cons] at hps
    cases ps with
    | nil =>
      obtain ⟨t, rfl, rfl⟩ := List.map_eq_singleton_iff.mp hts
      simp [withoutLineEnd_of_plain hps.1]
    | cons q ps =>
      obtain ⟨t, ts, rfl, ht, hrest⟩ := List.map_eq_cons_iff.mp hts
      simp [text_withoutLineEnd_of_ended ht, ← ih hrest hps.2]

/-- The lines of a styled text are the pieces of its text between line ends. -/
theorem map_text_lines (t : Styled) : t.lines.map (·.text) = Text.pieces '\n' t.text :=
  map_text_withoutLineEnd (map_text_cutAt t '\n') fun _ hp => Text.not_mem_of_mem_pieces hp

/-! ## Tabs -/

theorem expandTabs_of_plain (h : '\t' ∉ t.text) : t.expandTabs = t := by
  rw [expandTabs, if_neg (by simpa using h)]

theorem tab_not_mem_filled {p : List Char} (h : t.text = p ++ ['\t']) (hp : '\t' ∉ p)
    (column : Nat) : '\t' ∉ (t.filled column).text := by
  simp [filled, h, hp]

theorem tab_not_mem_joinTabbed {ts : List Styled} {ps : List (List Char)}
    (hts : ts.map (·.text) = endedBy '\t' ps) (hps : ∀ p ∈ ps, '\t' ∉ p) (column : Nat) :
    '\t' ∉ (joinTabbed column ts).text := by
  induction ps generalizing ts column with
  | nil =>
    obtain rfl := List.map_eq_nil_iff.mp hts
    exact List.not_mem_nil
  | cons p ps ih =>
    rw [List.forall_mem_cons] at hps
    cases ps with
    | nil =>
      obtain ⟨t, rfl, rfl⟩ := List.map_eq_singleton_iff.mp hts
      exact hps.1
    | cons q ps =>
      obtain ⟨t, ts, rfl, ht, hrest⟩ := List.map_eq_cons_iff.mp hts
      have hfirst := tab_not_mem_filled ht hps.1 column
      cases ts with
      | nil => cases ps <;> cases hrest
      | cons u ts => exact List.not_mem_append hfirst (ih hrest hps.2 _)

/-- No tab is left in a line. -/
theorem tab_not_mem_expandTabs (t : Styled) : '\t' ∉ t.expandTabs.text := by
  unfold expandTabs
  split
  · exact tab_not_mem_joinTabbed (map_text_cutAt t '\t')
      (fun _ hp => Text.not_mem_of_mem_pieces hp) 0
  · rename_i h
    simpa using h

/-! ## Styles of lines -/

/-- The stretches of a text have styles that fulfil `p`. -/
def HasStyles (p : List Char → Prop) (t : Styled) : Prop := ∀ s ∈ t.stretches, p s.style

variable {p : List Char → Prop}

theorem HasStyles.slice (h : t.HasStyles p) (a b : Nat) : (t.slice a b).HasStyles p := by
  intro s hs
  obtain ⟨whole, hwhole, hwithin⟩ := List.mem_filterMap.mp hs
  have hstyle : s.style = whole.style := by
    dsimp only [Stretch.within?] at hwithin
    split at hwithin
    · exact (congrArg Stretch.style (Option.some.inj hwithin)).symm
    · contradiction
  exact hstyle ▸ h whole hwhole

theorem HasStyles.slicesFrom (h : t.HasStyles p) (start : Nat) (ns : List Nat) :
    ∀ u ∈ t.slicesFrom start ns, u.HasStyles p := by
  induction ns generalizing start with
  | nil => simpa [Styled.slicesFrom] using h.slice start _
  | cons n ns ih =>
    rw [Styled.slicesFrom, List.forall_mem_cons]
    exact ⟨h.slice start n, ih n⟩

/-- The lines of a text have no styles but those of the text. -/
theorem HasStyles.lines (h : t.HasStyles p) : ∀ u ∈ t.lines, u.HasStyles p := by
  intro u hu
  obtain ⟨v, hv, rfl⟩ := List.mem_map.mp hu
  have hpiece : v.HasStyles p := by
    unfold cutAt at hv
    split at hv
    · exact List.mem_singleton.mp hv ▸ h
    · exact h.slicesFrom 0 _ v hv
  unfold withoutLineEnd
  split
  · exact hpiece.slice _ _
  · exact hpiece

end BackupLocator.Terminal.Styled
