import BackupLocator.Json.Limits
import BackupLocator.Proofs.Json.Number
import BackupLocator.Proofs.Json.Text

/-!
# A written value reads back

Reading gives back what has been written, in every style that escapes control characters, for values
without floating-point numbers in which the names of an object differ. The reader follows the
recursion of the writer: it spends a unit of fuel at most on each character, and a level on each
array or object around a value.
-/

namespace BackupLocator.Json

mutual

/-- Whether a value is without floating-point numbers, and the names in each of its objects differ.
-/
def isPlain : Json → Bool
  | .float _ => false
  | .arr items => arePlain items
  | .obj fields => decide (fields.map Prod.fst).Nodup && havePlainValues fields
  | _ => true

/-- Whether all of some items are plain. -/
def arePlain : List Json → Bool
  | [] => true
  | v :: vs => isPlain v && arePlain vs

/-- Whether the values of some fields are plain. -/
def havePlainValues : List (String × Json) → Bool
  | [] => true
  | (_, v) :: fs => isPlain v && havePlainValues fs

end

theorem arePlain_iff {vs : List Json} : arePlain vs = true ↔ ∀ v ∈ vs, v.isPlain = true := by
  induction vs with
  | nil => simp [arePlain]
  | cons v vs ih => simp [arePlain, ih]

theorem havePlainValues_iff {fs : List (String × Json)} :
    havePlainValues fs = true ↔ ∀ f ∈ fs, f.2.isPlain = true := by
  induction fs with
  | nil => simp [havePlainValues]
  | cons f fs ih => simp [havePlainValues, ih]

theorem insert_of_nodup {k : String} {v : Json} {known fs : List (String × Json)}
    (h : ((known ++ (k, v) :: fs).map Prod.fst).Nodup) : insert k v known = known ++ [(k, v)] := by
  refine insert_of_not_mem (fun hmem => ?_) v
  rw [List.map_append, List.nodup_append] at h
  exact h.2.2 k hmem k (by simp) rfl

/-! ## Blanks -/

theorem skipBlanks_cons {c : Char} (h : c ≠ ' ' ∧ c ≠ '\t' ∧ c ≠ '\n' ∧ c ≠ '\r') (s : List Char) :
    skipBlanks (c :: s) = c :: s := by
  simp [skipBlanks, h]

theorem skipBlanks_blank (s : List Char) : skipBlanks (' ' :: s) = skipBlanks s := rfl

theorem skipBlanks_lineBreak (style : Style) (d : Nat) (s : List Char) :
    skipBlanks (lineBreak style d ++ s) = skipBlanks s := by
  unfold lineBreak
  split
  · rfl
  · rename_i n _
    change skipBlanks (List.replicate (n * d) ' ' ++ s) = skipBlanks s
    refine List.dropWhile_append_of_pos fun c hc => ?_
    rw [List.eq_of_mem_replicate hc]
    rfl

/-- The separator in front of an item is a comma, and blanks behind it. -/
theorem exists_comma (style : Style) (d : Nat) (s : List Char) :
    ∃ t, comma style ++ (lineBreak style d ++ s) = ',' :: t ∧ skipBlanks t = skipBlanks s := by
  have hbreak := skipBlanks_lineBreak style d s
  unfold comma
  split
  · exact ⟨' ' :: (lineBreak style d ++ s), by simp, hbreak⟩
  · exact ⟨lineBreak style d ++ s, by simp, hbreak⟩

theorem length_comma_pos (style : Style) : 0 < (comma style).length := by
  unfold comma
  split <;> simp

/-! ## What stands behind a value -/

theorem endsNumber_cons {c : Char} (h : c.isDigit = false ∧ c ≠ '.' ∧ c ≠ 'e' ∧ c ≠ 'E')
    (s : List Char) : EndsNumber (c :: s) := by
  intro c' hc'
  obtain rfl : c = c' := by simpa using hc'
  exact h

theorem endsNumber_lineBreak {style : Style} {d : Nat} {s : List Char} (h : EndsNumber s) :
    EndsNumber (lineBreak style d ++ s) := by
  unfold lineBreak
  split
  · exact h
  · exact endsNumber_cons (by decide) _

theorem endsNumber_comma {style : Style} (s : List Char) : EndsNumber (comma style ++ s) := by
  unfold comma
  split <;> exact endsNumber_cons (by decide) _

/-- What stands behind an item: more items and the closing bracket. -/
theorem endsNumber_writeItems (style : Style) (d e : Nat) (vs : List Json) (rest : List Char) :
    EndsNumber (writeItems style d vs ++ (lineBreak style e ++ ']' :: rest)) := by
  cases vs with
  | nil => exact endsNumber_lineBreak (endsNumber_cons (by decide) rest)
  | cons v vs =>
    simp only [writeItems, List.append_assoc]
    exact endsNumber_comma _

/-- What stands behind a field: more fields and the closing brace. -/
theorem endsNumber_writeFields (style : Style) (d e : Nat) (fs : List (String × Json))
    (rest : List Char) :
    EndsNumber (writeFields style d fs ++ (lineBreak style e ++ '\x7d' :: rest)) := by
  cases fs with
  | nil => exact endsNumber_lineBreak (endsNumber_cons (by decide) rest)
  | cons f fs =>
    simp only [writeFields, List.append_assoc]
    exact endsNumber_comma _

/-! ## What a value begins with -/

/-- A written value begins with neither a blank nor a closing bracket. -/
theorem exists_write {v : Json} (h : v.isPlain = true) (style : Style) (d : Nat) :
    ∃ c s, write style d v = c :: s ∧ (c ≠ ' ' ∧ c ≠ '\t' ∧ c ≠ '\n' ∧ c ≠ '\r') ∧ c ≠ ']' := by
  cases v with
  | null => exact ⟨_, _, rfl, by decide⟩
  | bool b => cases b <;> exact ⟨_, _, rfl, by decide⟩
  | int n =>
    obtain ⟨c, t, ht, hne⟩ := exists_writeInt n
    exact ⟨c, t, ht, by refine ⟨⟨?_, ?_, ?_, ?_⟩, ?_⟩ <;> exact hne _ rfl (by decide)⟩
  | float x => simp [isPlain] at h
  | str s => exact ⟨_, _, rfl, by decide⟩
  | arr items => cases items <;> exact ⟨_, _, rfl, by decide⟩
  | obj fields => cases fields <;> exact ⟨_, _, rfl, by decide⟩

theorem skipBlanks_write {v : Json} (h : v.isPlain = true) (style : Style) (d : Nat)
    (s : List Char) : skipBlanks (write style d v ++ s) = write style d v ++ s := by
  obtain ⟨c, t, ht, hblank, -⟩ := exists_write h style d
  rw [ht, List.cons_append, skipBlanks_cons hblank]

/-! ## Steps of the reader -/

section Steps

variable {fuel levels : Nat} {s t u rest : List Char} {v : Json} {vs : List Json}

theorem value_of_word {c : Char} (h : c ≠ '"' ∧ c ≠ '[' ∧ c ≠ '\x7b') (s : List Char) :
    value (fuel + 1) levels (c :: s) = word (c :: s) := by
  rw [value]
  · simp [h.1]
  · simp [h.2.1]
  · simp [h.2.1]
  · simp [h.2.2]
  · simp [h.2.2]

theorem value_of_array (h : skipBlanks s = t) (hopen : t.head? ≠ some ']') :
    value (fuel + 1) (levels + 1) ('[' :: s) =
      (items fuel levels t).map fun (vs, rest) => (.arr vs, rest) := by
  rw [value, h]
  split
  · simp at hopen
  · rfl

theorem value_of_object (h : skipBlanks s = t) (hopen : t.head? ≠ some '\x7d') :
    value (fuel + 1) (levels + 1) ('\x7b' :: s) =
      (fields fuel levels [] t).map fun (fs, rest) => (.obj fs, rest) := by
  rw [value, h]
  split
  · simp at hopen
  · rfl

/-- The last item of an array is followed by its closing bracket. -/
theorem items_last (hv : value fuel levels s = .ok (v, t)) (ht : skipBlanks t = ']' :: rest) :
    items (fuel + 1) levels s = .ok ([v], rest) := by
  simp only [items, hv, ht]

/-- Every other item of an array is followed by a comma and more items. -/
theorem items_more (hv : value fuel levels s = .ok (v, ',' :: t))
    (hvs : items fuel levels (skipBlanks t) = .ok (vs, rest)) :
    items (fuel + 1) levels s = .ok (v :: vs, rest) := by
  have hcomma : skipBlanks (',' :: t) = ',' :: t := skipBlanks_cons (by decide) t
  simp only [items, hv, hcomma, hvs]
  rfl

variable {k : String} {known fs : List (String × Json)} (hk : text s = .ok (k, ':' :: ' ' :: t))
  (ht : skipBlanks t = t)
include hk ht

/-- The last field of an object is followed by its closing brace. -/
theorem fields_last (hv : value fuel levels t = .ok (v, u)) (hu : skipBlanks u = '\x7d' :: rest) :
    fields (fuel + 1) levels known ('"' :: s) = .ok (insert k v known, rest) := by
  have hcolon : skipBlanks (':' :: ' ' :: t) = ':' :: ' ' :: t := skipBlanks_cons (by decide) _
  simp only [fields, hk, hcolon, skipBlanks_blank, ht, hv, hu]

/-- Every other field of an object is followed by a comma and more fields. -/
theorem fields_more (hv : value fuel levels t = .ok (v, ',' :: u))
    (hfs : fields fuel levels (insert k v known) (skipBlanks u) = .ok (fs, rest)) :
    fields (fuel + 1) levels known ('"' :: s) = .ok (fs, rest) := by
  have hcolon : skipBlanks (':' :: ' ' :: t) = ':' :: ' ' :: t := skipBlanks_cons (by decide) _
  have hcomma : skipBlanks (',' :: u) = ',' :: u := skipBlanks_cons (by decide) u
  simp only [fields, hk, hcolon, skipBlanks_blank, ht, hv, hcomma, hfs]

end Steps

/-! ## Values, items and fields that read back -/

/-- No control character stands for itself. -/
def Style.EscapesControls (style : Style) : Prop :=
  ∀ c, style.shown c = true → 0x20 ≤ c.toNat

theorem Style.file_escapesControls : Style.file.EscapesControls := by
  intro c hc
  simp only [Style.file, Bool.and_eq_true, decide_eq_true_eq] at hc
  exact hc.1

theorem Style.report_escapesControls : Style.report.EscapesControls :=
  fun _ hc => of_decide_eq_true hc

section

variable (style : Style)

/-- A written value reads back, whatever follows that does not go on with a number. -/
def ReadsBack (v : Json) : Prop :=
  ∀ ⦃fuel levels d : Nat⦄ ⦃rest : List Char⦄, v.depth ≤ levels → (write style d v).length ≤ fuel →
    EndsNumber rest → value fuel levels (write style d v ++ rest) = .ok (v, rest)

/-- Written items read back, behind a first one that does. -/
def ItemsReadBack (vs : List Json) : Prop :=
  ∀ ⦃fuel levels d e : Nat⦄ ⦃s rest : List Char⦄ ⦃v : Json⦄, depthOfItems vs ≤ levels →
    (writeItems style d vs).length ≤ fuel →
    value fuel levels s = .ok (v, writeItems style d vs ++ (lineBreak style e ++ ']' :: rest)) →
    items (fuel + 1) levels s = .ok (v :: vs, rest)

/-- Written fields read back, behind a first one that does and others that are known, where all the
names differ. -/
def FieldsReadBack (fs : List (String × Json)) : Prop :=
  ∀ ⦃fuel levels d e : Nat⦄ ⦃known : List (String × Json)⦄ ⦃k : String⦄ ⦃s t rest : List Char⦄
    ⦃v : Json⦄, depthOfFields fs ≤ levels → (writeFields style d fs).length ≤ fuel →
    ((known ++ (k, v) :: fs).map Prod.fst).Nodup →
    text s = .ok (k, ':' :: ' ' :: t) → skipBlanks t = t →
    value fuel levels t =
      .ok (v, writeFields style d fs ++ (lineBreak style e ++ '\x7d' :: rest)) →
    fields (fuel + 1) levels known ('"' :: s) = .ok (known ++ (k, v) :: fs, rest)

end

variable {style : Style}

/-- Without fuel nothing is read, but then nothing has been written either. -/
theorem ReadsBack.of_succ {v : Json} (hplain : v.isPlain = true)
    (h : ∀ ⦃fuel levels d rest⦄, v.depth ≤ levels → (write style d v).length ≤ fuel + 1 →
      EndsNumber rest → value (fuel + 1) levels (write style d v ++ rest) = .ok (v, rest)) :
    ReadsBack style v := by
  rintro (_ | fuel) levels d rest hlevels hfuel hends
  · obtain ⟨c, s, hs, -⟩ := exists_write hplain style d
    simp [hs] at hfuel
  · exact h hlevels hfuel hends

theorem readsBack_null : ReadsBack style .null :=
  .of_succ rfl fun _ _ _ _ _ _ _ => value_of_word (by decide) _

theorem readsBack_bool (b : Bool) : ReadsBack style (.bool b) := by
  refine .of_succ rfl fun _ _ _ _ _ _ _ => ?_
  cases b <;> exact value_of_word (by decide) _

theorem readsBack_int {n : Int} (h : isLong n = false) : ReadsBack style (.int n) := by
  refine .of_succ rfl fun fuel levels d rest _ _ hends => ?_
  obtain ⟨c, s, hs, hne⟩ := exists_writeInt n
  have hword : word (writeInt n ++ rest) = .ok (.int n, rest) := word_writeInt h hends
  have hstart : c ≠ '"' ∧ c ≠ '[' ∧ c ≠ '\x7b' := by
    refine ⟨?_, ?_, ?_⟩ <;> exact hne _ rfl (by decide)
  rw [write, ← hword, hs]
  exact value_of_word hstart _

section

variable (hstyle : style.EscapesControls)
include hstyle

theorem text_write (s : String) (rest : List Char) :
    ∃ t, writeText style.shown s ++ rest = '"' :: t ∧ text t = .ok (s, rest) :=
  ⟨_, by simp [writeText], text_writeText hstyle s rest⟩

theorem readsBack_str (s : String) : ReadsBack style (.str s) := by
  refine .of_succ rfl fun fuel levels d rest _ _ _ => ?_
  obtain ⟨t, ht, htext⟩ := text_write hstyle s rest
  rw [write, ht, value, htext]
  rfl

end

/-! ### Items -/

theorem length_lt_writeItems (style : Style) (d : Nat) (v : Json) (vs : List Json) :
    (write style d v).length + (writeItems style d vs).length <
      (writeItems style d (v :: vs)).length := by
  have hcomma := length_comma_pos style
  simp only [writeItems, List.length_append]
  omega

theorem itemsReadBack_nil : ItemsReadBack style [] := by
  intro fuel levels d e s rest v _ _ hv
  refine items_last hv ?_
  rw [writeItems, List.nil_append, skipBlanks_lineBreak]
  exact skipBlanks_cons (by decide) rest

theorem ItemsReadBack.cons {v : Json} {vs : List Json} (hvs : ItemsReadBack style vs)
    (hplain : v.isPlain = true) (hv : ReadsBack style v) : ItemsReadBack style (v :: vs) := by
  intro fuel levels d e s rest first hlevels hfuel hfirst
  have hlength := length_lt_writeItems style d v vs
  obtain ⟨less, rfl⟩ : ∃ less, fuel = less + 1 := Nat.exists_eq_add_one.mpr (by omega)
  rw [depthOfItems, Nat.max_le] at hlevels
  obtain ⟨t, ht, hskip⟩ := exists_comma style d
    (write style d v ++ (writeItems style d vs ++ (lineBreak style e ++ ']' :: rest)))
  simp only [writeItems, List.append_assoc] at hfirst
  rw [ht] at hfirst
  refine items_more hfirst ?_
  rw [hskip, skipBlanks_write hplain]
  exact hvs hlevels.2 (by omega)
    (hv hlevels.1 (by omega) (endsNumber_writeItems style d e vs rest))

theorem readsBack_arr_nil : ReadsBack style (.arr []) := by
  refine .of_succ rfl fun fuel levels d rest hlevels _ _ => ?_
  obtain ⟨less, rfl⟩ := Nat.exists_eq_add_one.mpr hlevels
  rfl

theorem ItemsReadBack.arr {v : Json} {vs : List Json} (hvs : ItemsReadBack style vs)
    (hplain : (arr (v :: vs)).isPlain = true) (hv : ReadsBack style v) :
    ReadsBack style (.arr (v :: vs)) := by
  refine .of_succ hplain fun fuel levels d rest hlevels hfuel _ => ?_
  obtain ⟨hfirst, -⟩ : v.isPlain = true ∧ arePlain vs = true := by
    simpa [isPlain, arePlain] using hplain
  rw [depth, depthOfItems] at hlevels
  obtain ⟨less, rfl⟩ : ∃ less, levels = less + 1 := Nat.exists_eq_add_one.mpr (by omega)
  simp only [write, List.length_cons, List.length_append] at hfuel
  obtain ⟨fewer, rfl⟩ : ∃ fewer, fuel = fewer + 1 := Nat.exists_eq_add_one.mpr (by omega)
  -- The bracket takes a level and a unit of fuel; the closing one has left a second unit.
  have hitems : items (fewer + 1) less (write style (d + 1) v ++
      (writeItems style (d + 1) vs ++ (lineBreak style d ++ ']' :: rest))) =
        .ok (v :: vs, rest) :=
    hvs (by omega) (by omega)
      (hv (by omega) (by omega) (endsNumber_writeItems style (d + 1) d vs rest))
  simp only [write, List.append_assoc, List.cons_append, List.nil_append]
  rw [value_of_array, hitems]
  · rfl
  · rw [skipBlanks_lineBreak, skipBlanks_write hfirst]
  · obtain ⟨c, t, ht, -, hc⟩ := exists_write hfirst style (d + 1)
    simpa [ht] using hc

/-! ### Fields -/

theorem length_lt_writeFields (style : Style) (d : Nat) (k : String) (v : Json)
    (fs : List (String × Json)) :
    (write style d v).length + (writeFields style d fs).length <
      (writeFields style d ((k, v) :: fs)).length := by
  have hcomma := length_comma_pos style
  simp only [writeFields, List.length_append]
  omega

theorem fieldsReadBack_nil : FieldsReadBack style [] := by
  intro fuel levels d e known k s t rest v _ _ hnames hk ht hv
  rw [← insert_of_nodup hnames]
  refine fields_last hk ht hv ?_
  rw [writeFields, List.nil_append, skipBlanks_lineBreak]
  exact skipBlanks_cons (by decide) rest

theorem readsBack_obj_nil : ReadsBack style (.obj []) := by
  refine .of_succ rfl fun fuel levels d rest hlevels _ _ => ?_
  obtain ⟨less, rfl⟩ := Nat.exists_eq_add_one.mpr hlevels
  rfl

section

variable (hstyle : style.EscapesControls)
include hstyle

theorem FieldsReadBack.cons {k : String} {v : Json} {fs : List (String × Json)}
    (hfs : FieldsReadBack style fs) (hplain : v.isPlain = true) (hv : ReadsBack style v) :
    FieldsReadBack style ((k, v) :: fs) := by
  intro fuel levels d e known first s t rest firstValue hlevels hfuel hnames hk ht hfirst
  have hlength := length_lt_writeFields style d k v fs
  obtain ⟨less, rfl⟩ : ∃ less, fuel = less + 1 := Nat.exists_eq_add_one.mpr (by omega)
  rw [depthOfFields, Nat.max_le] at hlevels
  obtain ⟨named, hnamed, htext⟩ := text_write hstyle k (':' :: ' ' ::
    (write style d v ++ (writeFields style d fs ++ (lineBreak style e ++ '\x7d' :: rest))))
  obtain ⟨u, hu, hskip⟩ := exists_comma style d ('"' :: named)
  simp only [writeFields, List.append_assoc, List.cons_append, List.nil_append, hnamed] at hfirst
  rw [hu] at hfirst
  refine fields_more hk ht hfirst ?_
  rw [hskip, skipBlanks_cons (by decide), insert_of_nodup hnames]
  -- The first of the fields is known from here on.
  have hall : known ++ (first, firstValue) :: (k, v) :: fs =
      known ++ [(first, firstValue)] ++ (k, v) :: fs := by simp
  rw [hall] at hnames ⊢
  exact hfs hlevels.2 (by omega) hnames htext (skipBlanks_write hplain style d _)
    (hv hlevels.1 (by omega) (endsNumber_writeFields style d e fs rest))

theorem FieldsReadBack.obj {k : String} {v : Json} {fs : List (String × Json)}
    (hfs : FieldsReadBack style fs) (hplain : (obj ((k, v) :: fs)).isPlain = true)
    (hv : ReadsBack style v) : ReadsBack style (.obj ((k, v) :: fs)) := by
  refine .of_succ hplain fun fuel levels d rest hlevels hfuel _ => ?_
  obtain ⟨hnames, hfirst, -⟩ : (((k, v) :: fs).map Prod.fst).Nodup ∧ v.isPlain = true ∧
      havePlainValues fs = true := by
    simpa only [isPlain, havePlainValues, Bool.and_eq_true, decide_eq_true_eq] using hplain
  rw [depth, depthOfFields] at hlevels
  obtain ⟨less, rfl⟩ : ∃ less, levels = less + 1 := Nat.exists_eq_add_one.mpr (by omega)
  simp only [write, List.length_cons, List.length_append] at hfuel
  obtain ⟨fewer, rfl⟩ : ∃ fewer, fuel = fewer + 1 := Nat.exists_eq_add_one.mpr (by omega)
  obtain ⟨named, hnamed, htext⟩ := text_write hstyle k (':' :: ' ' ::
    (write style (d + 1) v ++ (writeFields style (d + 1) fs ++
      (lineBreak style d ++ '\x7d' :: rest))))
  have hfields : fields (fewer + 1) less [] ('"' :: named) = .ok ((k, v) :: fs, rest) :=
    hfs (by omega) (by omega) hnames htext (skipBlanks_write hfirst style (d + 1) _)
      (hv (by omega) (by omega) (endsNumber_writeFields style (d + 1) d fs rest))
  simp only [write, List.append_assoc, List.cons_append, List.nil_append, hnamed]
  rw [value_of_object, hfields]
  · rfl
  · rw [skipBlanks_lineBreak, skipBlanks_cons (by decide)]
  · simp

end

/-! ### All values -/

mutual

/-- Every plain value without long whole numbers reads back. -/
theorem readsBack (hstyle : style.EscapesControls) :
    ∀ v : Json, v.isPlain = true → v.shortened = v → ReadsBack style v
  | .null, _, _ => readsBack_null
  | .bool b, _, _ => readsBack_bool b
  | .int n, _, hw => readsBack_int (by simpa [shortened] using hw)
  | .float _, hp, _ => by simp [isPlain] at hp
  | .str s, _, _ => readsBack_str hstyle s
  | .arr [], _, _ => readsBack_arr_nil
  | .arr (v :: vs), hp, hw => by
    have hvs : arePlain (v :: vs) = true := hp
    have hws : shortenedItems (v :: vs) = v :: vs := Json.arr.inj hw
    rw [arePlain, Bool.and_eq_true] at hvs
    rw [shortenedItems, List.cons.injEq] at hws
    exact (itemsReadBack hstyle vs hvs.2 hws.2).arr hp (readsBack hstyle v hvs.1 hws.1)
  | .obj [], _, _ => readsBack_obj_nil
  | .obj ((k, v) :: fs), hp, hw => by
    have hvs : havePlainValues ((k, v) :: fs) = true := (Bool.and_eq_true_iff.mp hp).2
    have hws : shortenedFields ((k, v) :: fs) = (k, v) :: fs := Json.obj.inj hw
    rw [havePlainValues, Bool.and_eq_true] at hvs
    rw [shortenedFields, List.cons.injEq, Prod.mk.injEq] at hws
    exact (fieldsReadBack hstyle fs hvs.2 hws.2).obj hstyle hp (readsBack hstyle v hvs.1 hws.1.2)

theorem itemsReadBack (hstyle : style.EscapesControls) :
    ∀ vs : List Json, arePlain vs = true → shortenedItems vs = vs → ItemsReadBack style vs
  | [], _, _ => itemsReadBack_nil
  | v :: vs, hp, hw => by
    rw [arePlain, Bool.and_eq_true] at hp
    rw [shortenedItems, List.cons.injEq] at hw
    exact (itemsReadBack hstyle vs hp.2 hw.2).cons hp.1 (readsBack hstyle v hp.1 hw.1)

theorem fieldsReadBack (hstyle : style.EscapesControls) :
    ∀ fs : List (String × Json), havePlainValues fs = true → shortenedFields fs = fs →
      FieldsReadBack style fs
  | [], _, _ => fieldsReadBack_nil
  | (k, v) :: fs, hp, hw => by
    rw [havePlainValues, Bool.and_eq_true] at hp
    rw [shortenedFields, List.cons.injEq, Prod.mk.injEq] at hw
    exact (fieldsReadBack hstyle fs hp.2 hw.2).cons hstyle hp.1 (readsBack hstyle v hp.1 hw.1.2)

end

/-- Reading gives back what has been written, with nothing but blanks behind it. -/
theorem parse_write_append (hstyle : style.EscapesControls) {v : Json} (hplain : v.isPlain = true)
    (hwritable : v.isWritable = true) (hdepth : v.depth ≤ nestingLimit) {rest : List Char}
    (hends : EndsNumber rest) (hblank : skipBlanks rest = []) :
    parse (write style 0 v ++ rest) = .ok v := by
  have hshort : v.shortened = v := of_decide_eq_true hwritable
  have hlength : (write style 0 v).length ≤ (write style 0 v ++ rest).length := by simp
  have hvalue : value (2 * (write style 0 v ++ rest).length + 2) nestingLimit
      (write style 0 v ++ rest) = .ok (v, rest) :=
    readsBack hstyle v hplain hshort hdepth (by omega) hends
  simp only [parse, skipBlanks_write hplain style 0 rest, hvalue, bind, Except.bind, hblank]
  rfl

/-- Reading gives back what has been written. -/
theorem parse_write (hstyle : style.EscapesControls) {v : Json} (hplain : v.isPlain = true)
    (hwritable : v.isWritable = true) (hdepth : v.depth ≤ nestingLimit) :
    parse (write style 0 v) = .ok v := by
  have hends : EndsNumber [] := by
    intro c hc
    simp at hc
  have hread := parse_write_append hstyle hplain hwritable hdepth hends rfl
  rwa [List.append_nil] at hread

end BackupLocator.Json
