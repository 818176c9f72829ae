import BackupLocator.Proofs.Text.Cut
import BackupLocator.Terminal.Markup

/-!
# Emoji in texts

A text that asks for emoji by their names has them put in place of the names. An emoji can be
longer than its name, but it brings no colons with it. So a text has either been kept as it is, or
it has become less: it has lost colons.
-/

namespace BackupLocator.Terminal

variable {p q : Prop} {s t s' t' : List Char}

/-! ## Texts that become less -/

/-- Whether a text has fewer colons than another one, or as many and fewer characters. -/
def IsLess (t s : List Char) : Prop :=
  t.count ':' < s.count ':' ∨ t.count ':' = s.count ':' ∧ t.length < s.length

/-- A text `s` is kept as `t` where `p` holds, and becomes less where it does not. Either way no
tabs come in. -/
structure KeepsIff (p : Prop) (t s : List Char) : Prop where
  kept : p → t = s
  less : ¬p → IsLess t s
  tab : '\t' ∈ t → '\t' ∈ s

theorem not_isLess_self (s : List Char) : ¬IsLess s s := by
  simp [IsLess]

theorem IsLess.trans {u : List Char} (h : IsLess u t) (h' : IsLess t s) : IsLess u s := by
  simp only [IsLess] at *
  omega

theorem IsLess.append_right (h : IsLess t s) (u : List Char) : IsLess (t ++ u) (s ++ u) := by
  simp only [IsLess, List.count_append, List.length_append] at *
  omega

theorem IsLess.append_left (h : IsLess t s) (u : List Char) : IsLess (u ++ t) (u ++ s) := by
  simp only [IsLess, List.count_append, List.length_append] at *
  omega

theorem isLess_of_sublist (h : t.Sublist s) (hlength : t.length < s.length) : IsLess t s := by
  have hcount := h.count_le ':'
  simp only [IsLess]
  omega

namespace KeepsIff

theorem eq_or_isLess (h : KeepsIff p t s) : t = s ∨ IsLess t s :=
  (Classical.em p).imp h.kept h.less

theorem eq_iff (h : KeepsIff p t s) : t = s ↔ p := by
  refine ⟨fun heq => Classical.byContradiction fun hp => ?_, h.kept⟩
  exact not_isLess_self s (heq ▸ h.less hp)

theorem congr (h : KeepsIff p t s) (hpq : p ↔ q) : KeepsIff q t s :=
  ⟨fun hq => h.kept (hpq.mpr hq), fun hq => h.less (mt hpq.mp hq), h.tab⟩

theorem of_kept (hp : p) (s : List Char) : KeepsIff p s s :=
  ⟨fun _ => rfl, fun h => absurd hp h, id⟩

/-- With one character more in front a text is more than what is left of it. -/
theorem isLess_cons (h : KeepsIff p t s) (c : Char) : IsLess t (c :: s) := by
  have hself : IsLess s (c :: s) := isLess_of_sublist (List.sublist_cons_self c s) (by simp)
  rcases h.eq_or_isLess with rfl | hless
  · exact hself
  · exact hless.trans hself

/-- Where characters are left out, a text becomes less. -/
theorem of_sublist (h : t.Sublist s) (hlength : t.length < s.length) : KeepsIff False t s :=
  ⟨nofun, fun _ => isLess_of_sublist h hlength, fun htab => h.subset htab⟩

theorem append (h : KeepsIff p t s) (h' : KeepsIff q t' s') :
    KeepsIff (p ∧ q) (t ++ t') (s ++ s') := by
  refine ⟨fun hpq => by rw [h.kept hpq.1, h'.kept hpq.2], fun hnot => ?_, ?_⟩
  -- Neither part becomes more, so what one has lost the other cannot make up for.
  · rcases h.eq_or_isLess with rfl | hless
    · have hq : ¬q := fun hq => hnot ⟨h.eq_iff.mp rfl, hq⟩
      exact (h'.less hq).append_left t
    · rcases h'.eq_or_isLess with rfl | hless'
      · exact hless.append_right t'
      · exact (hless.append_right t').trans (hless'.append_left s)
  · simp only [List.mem_append]
    exact Or.imp h.tab h'.tab

theorem append_left (u : List Char) (h : KeepsIff p t s) : KeepsIff p (u ++ t) (u ++ s) :=
  ((of_kept trivial u).append h).congr (by simp)

/-- A text goes through two steps. What the second one asks for may be asked of the text that has
come to it, for where that is another one the text has become less before. -/
theorem trans {q : List Char → Prop} {u : List Char} (h : KeepsIff p t s)
    (h' : KeepsIff (q t) u t) : KeepsIff (p ∧ q s) u s := by
  rcases h.eq_or_isLess with rfl | hless
  · exact h'.congr (by simp [h.eq_iff.mp rfl])
  · have hp : ¬p := fun hp => not_isLess_self s (h.kept hp ▸ hless)
    refine ⟨fun hpq => absurd hpq.1 hp, fun _ => ?_, fun htab => h.tab (h'.tab htab)⟩
    rcases h'.eq_or_isLess with rfl | hless'
    · exact hless
    · exact hless'.trans hless

end KeepsIff

/-! ## The table of emoji -/

/-- Whether a character is a tab or a colon. -/
def isTabOrColon (c : Char) : Bool := [9, 58].contains c.toNat

/-- A text that is given by its characters need not be read to know them. -/
theorem holds_toList_ofList (p : List Char → Prop) {l : List Char} (h : p l) :
    p (String.ofList l).toList := by
  rwa [String.toList_ofList]

set_option maxRecDepth 10000 in
/-- No text of the table holds a tab or a colon. -/
theorem any_isTabOrColon_of_mem_emojiTexts :
    ∀ text ∈ emojiTexts, text.toList.any isTabOrColon = false := by
  simp only [emojiTexts, List.forall_mem_cons, List.not_mem_nil, false_implies, implies_true,
    and_true]
  repeat' apply And.intro
  all_goals
    apply holds_toList_ofList fun l => l.any isTabOrColon = false
    decide +kernel

/-- The characters of a word are characters of the text that it comes from. -/
theorem mem_of_mem_wordsOf {w : List Char} {c : Char} (hw : w ∈ wordsOf s) (hc : c ∈ w) :
    c ∈ s := by
  simp only [wordsOf, List.mem_filter, List.mem_flatMap] at hw
  obtain ⟨⟨line, hline, hword⟩, -⟩ := hw
  exact Text.mem_of_mem_pieces hline (Text.mem_of_mem_pieces hword hc)

theorem mem_of_mem_pairsOf {ws : List (List Char)} {w : List Char × List Char}
    (h : w ∈ pairsOf ws) : w.2 ∈ ws := by
  induction ws using pairsOf.induct with
  | case1 name emoji rest ih =>
    rcases List.mem_cons.mp h with rfl | h
    · simp
    · exact List.mem_cons_of_mem _ (List.mem_cons_of_mem _ (ih h))
  | case2 ws hshort => simp [pairsOf] at h

theorem mem_of_lookup {name emoji : List Char} {pairs : List (List Char × List Char)}
    (h : pairs.lookup name = some emoji) : (name, emoji) ∈ pairs := by
  obtain ⟨front, rest, rfl, -⟩ := List.lookup_eq_some_iff.mp h
  simp

/-- An emoji holds neither a tab nor a colon. -/
theorem isTabOrColon_of_mem_emoji {name emoji : List Char} {c : Char}
    (h : emoji? name = some emoji) (hc : c ∈ emoji) : isTabOrColon c = false := by
  have hpair : (name, emoji) ∈ emojiNames := mem_of_lookup h
  obtain ⟨text, htext, hword⟩ := List.mem_flatMap.mp (mem_of_mem_pairsOf hpair)
  have hnone := any_isTabOrColon_of_mem_emojiTexts text htext
  simpa using List.any_eq_false.mp hnone c (mem_of_mem_wordsOf hword hc)

namespace Markup

/-- Nor does one that has a form of its own. -/
theorem isTabOrColon_of_mem_emojiOf {name emoji : List Char} {c : Char}
    (h : emojiOf? name = some emoji) (hc : c ∈ emoji) : isTabOrColon c = false := by
  unfold emojiOf? at h
  split at h
  · rename_i ending mark hform
    obtain ⟨plain, hplain, rfl⟩ := Option.map_eq_some_iff.mp h
    rcases List.mem_append.mp hc with hc | hc
    · exact isTabOrColon_of_mem_emoji hplain hc
    · obtain rfl := List.mem_singleton.mp hc
      have hforms : ∀ v ∈ variants, isTabOrColon v.2 = false := by decide
      exact hforms _ (List.mem_of_find?_eq_some hform)
  · exact isTabOrColon_of_mem_emoji h hc

/-! ## Names that are asked for -/

/-- The names that a text asks for between colons, from left to right, where `seen` is what of a
name has been read, backwards. A colon that ends a name does not begin another one. -/
def askedFrom : Option (List Char) → List Char → List (List Char)
  | _, [] => []
  | none, c :: s => askedFrom (if c = ':' then some [] else none) s
  | some seen, c :: s =>
    if c = ':' then seen.reverse :: askedFrom none s
    else askedFrom (if Text.isBlank c then none else some (c :: seen)) s

/-- The names that a text asks for. -/
def askedNames (s : List Char) : List (List Char) := askedFrom none s

/-- Whether a character can stand in a name. -/
def isInName (c : Char) : Bool := c ≠ ':' && !Text.isBlank c

theorem askedFrom_of_colon {seen rest : List Char} (h : s.dropWhile isInName = ':' :: rest) :
    askedFrom (some seen) s =
      (seen.reverse ++ s.takeWhile isInName) :: askedFrom none rest := by
  induction s generalizing seen with
  | nil => simp at h
  | cons c s ih =>
    rw [List.dropWhile_cons] at h
    split at h
    · rename_i hc
      obtain ⟨hcolon, hblank⟩ : c ≠ ':' ∧ Text.isBlank c = false := by simpa [isInName] using hc
      simp [askedFrom, hcolon, hblank, ih h, hc]
    · rename_i hc
      obtain ⟨rfl, rfl⟩ := List.cons.inj h
      simp [askedFrom, hc]

theorem askedFrom_of_not_colon {seen : List Char}
    (h : ∀ rest, s.dropWhile isInName ≠ ':' :: rest) :
    askedFrom (some seen) s = askedFrom none s := by
  induction s generalizing seen with
  | nil => rfl
  | cons c s ih =>
    by_cases hc : isInName c = true
    · obtain ⟨hcolon, hblank⟩ : c ≠ ':' ∧ Text.isBlank c = false := by simpa [isInName] using hc
      rw [List.dropWhile_cons_of_pos hc] at h
      simp [askedFrom, hcolon, hblank, ih h]
    · rw [List.dropWhile_cons_of_neg hc] at h
      have hcolon : c ≠ ':' := fun heq => h s (heq ▸ rfl)
      have hblank : Text.isBlank c = true := by simpa [isInName, hcolon] using hc
      simp [askedFrom, hcolon, hblank]

/-! ## Names that are replaced -/

/-- A name with both its colons is kept where it stands for nothing. -/
theorem emojiOf?_keepsIff (name : List Char) :
    KeepsIff (emojiOf? name = none) ((emojiOf? name).getD (':' :: name ++ [':']))
      (':' :: name ++ [':']) := by
  cases hemoji : emojiOf? name with
  | none => exact .of_kept rfl _
  | some emoji =>
    have hcolon : emoji.count ':' = 0 := by
      refine List.count_eq_zero.mpr fun hc => ?_
      have hplain := isTabOrColon_of_mem_emojiOf hemoji hc
      contradiction
    refine ⟨nofun, fun _ => .inl (by simp [hcolon]), fun htab => ?_⟩
    have hplain := isTabOrColon_of_mem_emojiOf hemoji htab
    contradiction

/-- One step takes a name with both its colons, or a character that begins none. -/
theorem replaceEmoji_cons (fuel : Nat) (c : Char) (s : List Char) :
    (∃ name rest, rest.length ≤ s.length ∧ c :: s = (':' :: name ++ [':']) ++ rest ∧
      askedNames (c :: s) = name :: askedNames rest ∧
      replaceEmoji (fuel + 1) (c :: s) =
        (emojiOf? name).getD (':' :: name ++ [':']) ++ replaceEmoji fuel rest) ∨
    (askedNames (c :: s) = askedNames s ∧
      replaceEmoji (fuel + 1) (c :: s) = c :: replaceEmoji fuel s) := by
  rw [replaceEmoji]
  split
  · rename_i hc
    subst hc
    split
    · rename_i rest hrest
      have hcut : s.takeWhile isInName ++ ':' :: rest = s := by
        rw [← hrest]
        exact List.takeWhile_append_dropWhile
      refine .inl ⟨s.takeWhile isInName, rest, ?_, ?_, askedFrom_of_colon hrest, rfl⟩
      · have hlengths := congrArg List.length hcut
        simp only [List.length_append, List.length_cons] at hlengths
        omega
      · simpa using hcut.symm
    · rename_i hnone
      exact .inr ⟨askedFrom_of_not_colon hnone, rfl⟩
  · rename_i hc
    refine .inr ⟨?_, rfl⟩
    rw [askedNames, askedFrom, if_neg hc, askedNames]

/-- A text is kept where no name is known that it asks for. -/
theorem replaceEmoji_keepsIff {fuel : Nat} (h : s.length ≤ fuel) :
    KeepsIff (∀ name ∈ askedNames s, emojiOf? name = none) (replaceEmoji fuel s) s := by
  induction fuel generalizing s with
  | zero =>
    obtain rfl := List.length_eq_zero_iff.mp (Nat.le_zero.mp h)
    exact .of_kept nofun []
  | succ fuel ih =>
    cases s with
    | nil => exact .of_kept nofun []
    | cons c s =>
      have hlength : s.length ≤ fuel := Nat.le_of_succ_le_succ h
      rcases replaceEmoji_cons fuel c s with
        ⟨name, rest, hshort, hwhole, hasked, hstep⟩ | ⟨hasked, hstep⟩
      · have hparts := (emojiOf?_keepsIff name).append (ih (Nat.le_trans hshort hlength))
        rw [hstep, hasked, hwhole]
        exact hparts.congr (by rw [List.forall_mem_cons])
      · rw [hstep, hasked]
        exact (ih hlength).append_left [c]

end Markup

end BackupLocator.Terminal
