import BackupLocator.Proofs.Failure
import BackupLocator.Proofs.Terminal.Emoji

/-!
# Texts without markup

A text is plain if nothing in it is markup: no tag stands in it, no backslash in front of a
bracket, no name of an emoji and no character that is left out. A text shows itself if and only if
it is plain, and what another one shows is less than it.
-/

namespace BackupLocator.Terminal.Markup

variable {s t : List Char}

/-! ## What a piece of text shows -/

theorem unescape_keepsIff (s : List Char) :
    KeepsIff (¬['\\', '['] <:+: s) (unescape s) s := by
  induction s using unescape.induct with
  | case1 s ih =>
    have hescape : ['\\', '['] <:+: '\\' :: '[' :: s := ⟨[], s, rfl⟩
    refine ⟨fun h => absurd hescape h, fun _ => ?_, fun htab => ?_⟩
    · exact (ih.append_left ['[']).isLess_cons '\\'
    · simpa using ih.tab (by simpa [unescape] using htab)
  | case2 c s hnone ih =>
    have hbehind : ['\\', '['] <:+: c :: s ↔ ['\\', '['] <:+: s := by
      rw [List.infix_cons_iff, or_iff_right]
      rintro ⟨rest, hrest⟩
      obtain ⟨rfl, rfl⟩ := List.cons.inj hrest
      exact hnone rest rfl rfl
    rw [hbehind, unescape]
    · exact ih.append_left [c]
    · exact hnone
  | case3 => exact .of_kept (by simp) []

theorem filter_keepsIff (f : Char → Bool) (s : List Char) :
    KeepsIff (∀ c ∈ s, f c = true) (s.filter f) s := by
  induction s with
  | nil => exact .of_kept nofun []
  | cons c s ih =>
    rw [List.forall_mem_cons]
    by_cases hc : f c = true
    · rw [List.filter_cons_of_pos hc]
      exact (ih.append_left [c]).congr (by simp [hc])
    · rw [List.filter_cons_of_neg hc]
      refine ⟨fun h => absurd h.1 hc, fun _ => ih.isLess_cons c, fun htab => ?_⟩
      exact List.mem_cons_of_mem c (ih.tab htab)

/-- Whether a piece of text shows itself. -/
structure ShowsItself (s : List Char) : Prop where
  /-- No backslash stands in front of a bracket. -/
  escape : ¬['\\', '['] <:+: s
  /-- No name that is asked for stands for an emoji. -/
  emoji : ∀ name ∈ askedNames s, emojiOf? name = none
  kept : ∀ c ∈ s, isDropped c = false

theorem shownText_keepsIff (s : List Char) : KeepsIff (ShowsItself s) (shownText s) s := by
  have hemoji := (unescape_keepsIff s).trans
    (q := fun s => ∀ name ∈ askedNames s, emojiOf? name = none)
    (replaceEmoji_keepsIff (Nat.le_refl _))
  have hkept := hemoji.trans (q := fun s => ∀ c ∈ s, (!isDropped c) = true) (filter_keepsIff _ _)
  refine hkept.congr ⟨fun h => ⟨h.1.1, h.1.2, by simpa using h.2⟩, fun h => ?_⟩
  exact ⟨⟨h.escape, h.emoji⟩, by simpa using h.kept⟩

/-! ## Tags -/

/-- Whether a text can stand between the brackets of a tag. -/
structure IsInside (inside : List Char) : Prop where
  begins : ∃ c rest, inside = c :: rest ∧ beginsTag c = true
  plain : ∀ c ∈ inside, c ≠ '[' ∧ c ≠ ']'

/-- Whether a tag stands in a text. -/
def HoldsTag (s : List Char) : Prop :=
  ∃ inside, IsInside inside ∧ '[' :: inside ++ [']'] <:+: s

theorem readTag?_eq_some_iff {inside rest : List Char} :
    readTag? s = some (inside, rest) ↔ IsInside inside ∧ s = inside ++ ']' :: rest := by
  have hcut : (s.takeWhile fun c => c ≠ '[' && c ≠ ']') ++
      (s.dropWhile fun c => c ≠ '[' && c ≠ ']') = s := List.takeWhile_append_dropWhile
  constructor
  · intro h
    dsimp only [readTag?] at h
    split at h
    · rename_i c front rest' hinside hrest
      split at h
      · rename_i hbegins
        obtain ⟨rfl, rfl⟩ := Prod.mk.inj (Option.some.inj h)
        rw [hrest] at hcut
        refine ⟨⟨⟨c, front, hinside, hbegins⟩, fun d hd => ?_⟩, hcut.symm⟩
        simpa using List.all_eq_true.mp List.all_takeWhile d hd
      · contradiction
    · contradiction
  · rintro ⟨⟨⟨c, front, rfl, hbegins⟩, hplain⟩, rfl⟩
    have hall : ∀ d ∈ c :: front, (d ≠ '[' && d ≠ ']') = true := by simpa using hplain
    unfold readTag?
    rw [List.takeWhile_append_of_pos hall, List.dropWhile_append_of_pos hall]
    simp [hbegins]

/-- No tag begins in front of a text without its first bracket. -/
theorem holdsTag_append_iff {front : List Char} (h : '[' ∉ front) :
    HoldsTag (front ++ s) ↔ HoldsTag s :=
  exists_congr fun _ => and_congr_right fun _ => Text.cons_infix_append_iff h

theorem holdsTag_bracket_iff :
    HoldsTag ('[' :: s) ↔ (∃ tag, readTag? s = some tag) ∨ HoldsTag s := by
  constructor
  · rintro ⟨inside, hinside, htag⟩
    rcases List.infix_cons_iff.mp htag with ⟨rest, hrest⟩ | htag
    · refine .inl ⟨(inside, rest), readTag?_eq_some_iff.mpr ⟨hinside, ?_⟩⟩
      simpa using (List.cons.inj hrest).2.symm
    · exact .inr ⟨inside, hinside, htag⟩
  · rintro (⟨⟨inside, rest⟩, htag⟩ | ⟨inside, hinside, htag⟩)
    · obtain ⟨hinside, rfl⟩ := readTag?_eq_some_iff.mp htag
      exact ⟨inside, hinside, [], rest, by simp⟩
    · exact ⟨inside, hinside, List.infix_cons htag⟩

/-! ## Pieces -/

/-- One step takes backslashes and a tag, or characters that no tag begins at. -/
theorem piecesFrom_cons (fuel : Nat) (seen : List Char) (c : Char) (s : List Char) :
    (∃ slashes inside rest, IsInside inside ∧ rest.length ≤ s.length ∧
      c :: s = List.replicate slashes '\\' ++ ('[' :: inside ++ [']']) ++ rest ∧
      piecesFrom (fuel + 1) seen (c :: s) =
        textPiece seen.reverse ++ escapedTag slashes inside ++ piecesFrom fuel [] rest) ∨
    (∃ front rest, rest.length ≤ s.length ∧ c :: s = front ++ rest ∧
      (HoldsTag (c :: s) ↔ HoldsTag rest) ∧
      piecesFrom (fuel + 1) seen (c :: s) = piecesFrom fuel (front.reverse ++ seen) rest) := by
  have hcut : (c :: s).takeWhile (· = '\\') ++ (c :: s).dropWhile (· = '\\') = c :: s :=
    List.takeWhile_append_dropWhile
  have hall : ∀ d ∈ (c :: s).takeWhile (· = '\\'), d = '\\' := fun d hd => by
    simpa using List.all_eq_true.mp List.all_takeWhile d hd
  -- The backslashes are put in front of what has been seen in their own order, which is no matter.
  have hslashes := List.eq_replicate_of_mem hall
  have hbracket : '[' ∉ (c :: s).takeWhile (· = '\\') := fun h => absurd (hall _ h) (by decide)
  have hreverse : ((c :: s).takeWhile (· = '\\')).reverse = (c :: s).takeWhile (· = '\\') := by
    rw [hslashes, List.reverse_replicate]
  have hlengths := congrArg List.length hcut
  rw [piecesFrom]
  split
  · rename_i behind hbehind
    rw [hbehind] at hcut hlengths
    split
    · rename_i inside rest htag
      obtain ⟨hinside, rfl⟩ := readTag?_eq_some_iff.mp htag
      refine .inl ⟨_, inside, rest, hinside, ?_, ?_, rfl⟩
      · simp only [List.length_append, List.length_cons] at hlengths
        omega
      · rw [← hslashes]
        simpa using hcut.symm
    · rename_i hnone
      refine .inr ⟨(c :: s).takeWhile (· = '\\') ++ ['['], behind, ?_, ?_, ?_, ?_⟩
      · simp only [List.length_append, List.length_cons] at hlengths
        omega
      · simpa using hcut.symm
      · rw [← hcut, holdsTag_append_iff hbracket, holdsTag_bracket_iff]
        simp [hnone]
      · simp [hreverse]
  · rename_i hnone
    split
    · rename_i hempty
      have hrest : (c :: s).dropWhile (· = '\\') = c :: s := by
        rwa [List.isEmpty_iff.mp hempty] at hcut
      have hc : '[' ∉ [c] := by
        rw [List.mem_singleton]
        rintro rfl
        exact hnone s hrest
      exact .inr ⟨[c], s, Nat.le_refl _, rfl, holdsTag_append_iff hc, rfl⟩
    · rename_i hempty
      have hpos := List.length_pos_iff.mpr (mt List.isEmpty_iff.mpr hempty)
      refine .inr ⟨_, _, ?_, hcut.symm, ?_, by rw [hreverse]⟩
      · simp only [List.length_append, List.length_cons] at hlengths
        omega
      · rw [← hcut, holdsTag_append_iff hbracket, hcut]

/-- What a piece shows. -/
def Piece.shown : Piece → List Char
  | .text s => shownText s
  | .tag _ _ => []

/-- What pieces show. -/
def shownTexts (ps : List Piece) : List Char := ps.flatMap Piece.shown

theorem shownTexts_append (ps qs : List Piece) :
    shownTexts (ps ++ qs) = shownTexts ps ++ shownTexts qs := List.flatMap_append

theorem shownTexts_textPiece (s : List Char) : shownTexts (textPiece s) = shownText s := by
  cases s with
  | nil => rfl
  | cons c s => simp [textPiece, shownTexts, Piece.shown]

/-- Of a tag with its backslashes something is lost: the tag itself, or the backslash in front of
it. -/
theorem escapedTag_keepsIff (slashes : Nat) (inside : List Char) :
    KeepsIff False (shownTexts (escapedTag slashes inside))
      (List.replicate slashes '\\' ++ ('[' :: inside ++ [']'])) := by
  have hhalf : (List.replicate (slashes / 2) '\\').Sublist (List.replicate slashes '\\') :=
    List.replicate_sublist_iff.mpr (by simpa using Nat.div_le_self slashes 2)
  have hslashes := shownText_keepsIff (List.replicate (slashes / 2) '\\')
  rw [escapedTag, shownTexts_append, shownTexts_textPiece]
  split
  · rename_i hodd
    have hless := KeepsIff.of_sublist (hhalf.append_right ('[' :: inside ++ [']'])) (by
      simp only [List.length_append, List.length_replicate]
      omega)
    have htext := hslashes.append (shownText_keepsIff ('[' :: inside ++ [']']))
    simpa [shownTexts, Piece.shown] using hless.trans (q := fun _ => _) htext
  · have hless := KeepsIff.of_sublist
      (hhalf.trans (List.sublist_append_left _ ('[' :: inside ++ [']']))) (by
      simp only [List.length_append, List.length_replicate, List.length_cons]
      omega)
    simpa [shownTexts, Piece.shown, tagOf] using hless.trans (q := fun _ => _) hslashes

/-- A text with a tag in it shows less than itself. -/
theorem piecesFrom_keepsIff {fuel : Nat} (h : s.length ≤ fuel) (seen : List Char) :
    KeepsIff (¬HoldsTag s ∧ ShowsItself (seen.reverse ++ s)) (shownTexts (piecesFrom fuel seen s))
      (seen.reverse ++ s) := by
  have hnil (fuel : Nat) (seen : List Char) :
      KeepsIff (¬HoldsTag [] ∧ ShowsItself (seen.reverse ++ []))
        (shownTexts (piecesFrom fuel seen [])) (seen.reverse ++ []) := by
    have hpieces : piecesFrom fuel seen [] = textPiece seen.reverse := by cases fuel <;> rfl
    have hnone : ¬HoldsTag [] := by simp [HoldsTag]
    rw [hpieces, shownTexts_textPiece, List.append_nil]
    exact (shownText_keepsIff _).congr (by simp [hnone])
  induction fuel generalizing s seen with
  | zero =>
    obtain rfl := List.length_eq_zero_iff.mp (Nat.le_zero.mp h)
    exact hnil 0 seen
  | succ fuel ih =>
    cases s with
    | nil => exact hnil (fuel + 1) seen
    | cons c s =>
      have hlength : s.length ≤ fuel := Nat.le_of_succ_le_succ h
      rcases piecesFrom_cons fuel seen c s with
        ⟨slashes, inside, rest, hinside, hshort, hwhole, hstep⟩ |
        ⟨front, rest, hshort, hwhole, htag, hstep⟩
      · have hholds : HoldsTag (c :: s) :=
          ⟨inside, hinside, List.replicate slashes '\\', rest, hwhole.symm⟩
        have hparts := ((shownText_keepsIff seen.reverse).append
          (escapedTag_keepsIff slashes inside)).append (ih (Nat.le_trans hshort hlength) [])
        rw [hstep, shownTexts_append, shownTexts_append, shownTexts_textPiece]
        refine KeepsIff.congr (p := False) ?_ (by simp [hholds])
        simpa [hwhole] using hparts
      · rw [htag, hstep, hwhole]
        simpa using ih (Nat.le_trans hshort hlength) (front.reverse ++ seen)

/-- A text without tags is one piece. -/
theorem piecesFrom_of_not_holdsTag {fuel : Nat} (h : s.length ≤ fuel) (hnone : ¬HoldsTag s)
    (seen : List Char) : piecesFrom fuel seen s = textPiece (seen.reverse ++ s) := by
  induction fuel generalizing s seen with
  | zero =>
    obtain rfl := List.length_eq_zero_iff.mp (Nat.le_zero.mp h)
    simp [piecesFrom]
  | succ fuel ih =>
    cases s with
    | nil => simp [piecesFrom]
    | cons c s =>
      have hlength : s.length ≤ fuel := Nat.le_of_succ_le_succ h
      rcases piecesFrom_cons fuel seen c s with
        ⟨slashes, inside, rest, hinside, -, hwhole, -⟩ | ⟨front, rest, hshort, hwhole, htag, hstep⟩
      · exact absurd ⟨inside, hinside, List.replicate slashes '\\', rest, hwhole.symm⟩ hnone
      · rw [hstep, ih (Nat.le_trans hshort hlength) (mt htag.mpr hnone), hwhole]
        simp

/-! ## Readings -/

/-- What is read has the text that the pieces show. -/
theorem text_of_readPieces {n : Nat} {styles : List OpenStyle} {ps : List Piece} {t : Styled}
    (h : readPieces n styles ps = .ok t) : t.text = shownTexts ps := by
  induction ps generalizing n styles t with
  | nil =>
    obtain rfl := Except.ok.inj h
    rfl
  | cons p ps ih =>
    unfold readPieces at h
    split at h
    · contradiction
    · rename_i s ps' heq
      obtain ⟨rfl, rfl⟩ := List.cons.inj heq
      obtain ⟨styled, hstyled, h⟩ := Failure.bind_eq_ok_iff.mp h
      obtain rfl := Except.ok.inj h
      exact congrArg (shownText s ++ ·) (ih hstyled)
    · rename_i name parameters ps' heq
      obtain ⟨rfl, rfl⟩ := List.cons.inj heq
      obtain ⟨⟨style, others⟩, -, h⟩ := Failure.bind_eq_ok_iff.mp h
      obtain ⟨stretches, -, h⟩ := Failure.bind_eq_ok_iff.mp h
      obtain ⟨styled, hstyled, h⟩ := Failure.bind_eq_ok_iff.mp h
      obtain rfl := Except.ok.inj h
      have htext : styled.text = shownTexts ps := ih hstyled
      exact htext
    · rename_i name parameters ps' hname heq
      obtain ⟨rfl, rfl⟩ := List.cons.inj heq
      obtain ⟨normal, -, h⟩ := Failure.bind_eq_ok_iff.mp h
      exact ih h

theorem readPieces_textPiece (n : Nat) (styles : List OpenStyle) (s : List Char) :
    readPieces n styles (textPiece s) =
      .ok ⟨shownText s, styles.map (·.upTo (n + (shownText s).length))⟩ := by
  cases s with
  | nil => rfl
  | cons c s => simp [textPiece, readPieces, Functor.map, Except.map]

/-- A tag and its closing tag put a style on the text between them. -/
theorem readPieces_styled {name style : List Char} (hnormal : StyleName.normal name = .ok style)
    (htrim : Text.trim Text.isBlank name = name) (hempty : name ≠ [])
    (hslash : ∀ rest, name ≠ '/' :: rest) (hhandler : style.head? ≠ some '@') (n : Nat)
    (styles : List OpenStyle) (s : List Char) (ps : List Piece) :
    readPieces n styles (.tag name none :: .text s :: .tag ('/' :: name) none :: ps) =
      (readPieces (n + (shownText s).length) styles ps).map fun t =>
        ⟨shownText s ++ t.text, ⟨n, n + (shownText s).length, style⟩ :: t.stretches⟩ := by
  have hclosed : closed (⟨style, none, n⟩ :: styles) name = .ok (⟨style, none, n⟩, styles) := by
    rw [closed, if_neg (by simpa using hempty), hnormal, Failure.ok_bind]
    simp [pure, Except.pure]
  have hclose : (⟨style, none, n⟩ : OpenStyle).close (n + (shownText s).length) =
      .ok [⟨n, n + (shownText s).length, style⟩] := by
    simp [OpenStyle.close, OpenStyle.isForHandler, hhandler, OpenStyle.upTo]
  rw [readPieces, hnormal, Failure.ok_bind, readPieces, readPieces, htrim, hclosed,
    Failure.ok_bind]
  · dsimp only
    rw [hclose, Failure.ok_bind]
    cases readPieces (n + (shownText s).length) styles ps <;> rfl
  · exact hslash

/-! ## Plain texts -/

/-- Whether nothing in a text is markup, and it holds no tabs. -/
structure IsPlain (s : List Char) : Prop extends ShowsItself s where
  tag : ¬HoldsTag s
  tab : '\t' ∉ s

/-- Whether a text asks for no names, and holds no brackets, no backslashes and no characters that
are not shown as they are. -/
def isOrdinary (s : List Char) : Bool :=
  (askedNames s).isEmpty && s.all fun c => c ≠ '[' && c ≠ '\\' && c ≠ '\t' && !isDropped c

theorem isOrdinary_iff :
    isOrdinary s = true ↔ askedNames s = [] ∧
      ∀ c ∈ s, c ≠ '[' ∧ c ≠ '\\' ∧ c ≠ '\t' ∧ isDropped c = false := by
  simp [isOrdinary, and_assoc]

theorem isPlain_of_isOrdinary (h : isOrdinary s = true) : IsPlain s := by
  obtain ⟨hasked, hplain⟩ := isOrdinary_iff.mp h
  have hbracket : '[' ∉ s := fun hmem => (hplain _ hmem).1 rfl
  refine ⟨⟨fun hescape => ?_, by simp [hasked], fun c hc => (hplain c hc).2.2.2⟩, ?_, ?_⟩
  · exact hbracket (hescape.subset (by simp))
  · rintro ⟨inside, -, htag⟩
    exact hbracket (htag.subset (by simp))
  · exact fun hmem => (hplain _ hmem).2.2.1 rfl

/-- A blank ends the name that is being read. -/
theorem askedFrom_append_blank (seen : Option (List Char)) (front s : List Char) :
    askedFrom seen (front ++ ' ' :: s) = askedFrom seen front ++ askedNames s := by
  induction front generalizing seen with
  | nil => cases seen <;> rfl
  | cons c front ih =>
    cases seen with
    | none => exact ih _
    | some seen =>
      rw [List.cons_append, askedFrom, askedFrom]
      split
      · rw [ih, List.cons_append]
      · exact ih _

/-- Whether an ordinary text ends with a blank. -/
def isFront (s : List Char) : Bool := isOrdinary s && s.getLast? = some ' '

/-- What stands behind such a text is plain by itself. -/
theorem isPlain_append_iff {front : List Char} (h : isFront front = true) :
    IsPlain (front ++ s) ↔ IsPlain s := by
  obtain ⟨hordinary, hlast⟩ : isOrdinary front = true ∧ front.getLast? = some ' ' := by
    simpa [isFront] using h
  obtain ⟨hnone, hplain⟩ := isOrdinary_iff.mp hordinary
  have hbracket : '[' ∉ front := fun hmem => (hplain _ hmem).1 rfl
  have hslash : '\\' ∉ front := fun hmem => (hplain _ hmem).2.1 rfl
  have hfront : '\t' ∉ front := fun hmem => (hplain _ hmem).2.2.1 rfl
  have hasked : askedNames (front ++ s) = askedNames s := by
    obtain ⟨before, rfl⟩ := List.getLast?_eq_some_iff.mp hlast
    have hbefore : askedNames (before ++ [' ']) = askedNames before ++ [] :=
      askedFrom_append_blank none before []
    have hwhole : askedNames (before ++ ' ' :: s) = askedNames before ++ askedNames s :=
      askedFrom_append_blank none before s
    rw [hnone, List.append_nil] at hbefore
    rw [List.append_assoc, List.singleton_append, hwhole, ← hbefore, List.nil_append]
  constructor
  · rintro ⟨⟨hescape, hemoji, hkept⟩, htag, htab⟩
    refine ⟨⟨mt (Text.cons_infix_append_iff hslash).mpr hescape, hasked ▸ hemoji,
      fun c hc => hkept c (List.mem_append_right _ hc)⟩, mt (holdsTag_append_iff hbracket).mpr htag,
      fun hmem => htab (List.mem_append_right _ hmem)⟩
  · rintro ⟨⟨hescape, hemoji, hkept⟩, htag, htab⟩
    refine ⟨⟨mt (Text.cons_infix_append_iff hslash).mp hescape, hasked ▸ hemoji, fun c hc => ?_⟩,
      mt (holdsTag_append_iff hbracket).mp htag, List.not_mem_append hfront htab⟩
    rcases List.mem_append.mp hc with hc | hc
    · exact (hplain c hc).2.2.2
    · exact hkept c hc

end BackupLocator.Terminal.Markup
