import BackupLocator.Label
import BackupLocator.Proofs.Platform.Handle
import BackupLocator.Proofs.Text.Percent

/-!
# Addresses stand for the document ids that they carry

A content address carries an escaped document id. In front of it stand an authority and other
segments, behind it slashes, a query or a fragment. Whatever surrounds it and however it has been
escaped, the id reads back in one round. So an address names the same volume as the id that it
carries, unless that is an address itself, has the same label and leads to the same directory. Where
it leads to none, it fails alike.
-/

namespace BackupLocator

namespace Handle

open Text.Percent (Escapes isUnreserved)

/-! ## What surrounds an id -/

/-- Whether a character may stand in the authority of an address, or in a segment in front of the
document id. -/
def isPlain (c : Char) : Bool := c.isAlphanum || c = '.' || c = '-'

/-- What surrounds the document id in a content address. -/
structure Address where
  authority : List Char
  /-- The segments in front of the document id. -/
  segments : List (List Char)
  /-- How many slashes stand behind the document id. -/
  slashes : Nat
  /-- The query and the fragment, with the marks in front of them. -/
  tail : List Char
  plain_authority : ∀ c ∈ authority, isPlain c = true
  plain_segments : ∀ s ∈ segments, ∀ c ∈ s, isPlain c = true
  marked_tail : tail = [] ∨ ∃ t, tail = '?' :: t ∨ tail = '#' :: t

namespace Address

variable (a : Address) (escaped : List Char)

/-- The segments in front of the document id, each behind a slash. -/
def front : List Char := a.segments.flatMap ('/' :: ·)

/-- The path of an address that carries an escaped document id. -/
def path : List Char := a.front ++ '/' :: (escaped ++ List.replicate a.slashes '/')

/-- The address that carries an escaped document id. -/
def carrying : String :=
  scheme ++ "//" ++ String.ofList (a.authority ++ (a.path escaped ++ a.tail))

end Address

/-! ## Characters that divide nothing -/

/-- A character divides no address, wherever it stands: it is a percent sign or unreserved. -/
def IsInert (c : Char) : Prop := c = '%' ∨ isUnreserved c = true

instance (c : Char) : Decidable (IsInert c) :=
  inferInstanceAs (Decidable (c = '%' ∨ isUnreserved c = true))

theorem IsInert.ne {c d : Char} (h : IsInert c) (hd : ¬IsInert d) : c ≠ d := by
  rintro rfl
  exact hd h

theorem IsInert.not_isIgnored {c : Char} (h : IsInert c) : isIgnored c = false := by
  simp [isIgnored, h.ne (d := '\t') (by decide), h.ne (d := '\n') (by decide),
    h.ne (d := '\r') (by decide)]

theorem isInert_of_isPlain {c : Char} (h : isPlain c = true) : IsInert c := by
  simp only [isPlain, Bool.or_eq_true, decide_eq_true_eq] at h
  rcases h with (h | rfl) | rfl
  · exact .inr (by simp [isUnreserved, h])
  · decide
  · decide

theorem not_endsAuthority {c : Char} (h : IsInert c) : endsAuthority c = false := by
  simp [endsAuthority, h.ne (d := '/') (by decide), h.ne (d := '?') (by decide),
    h.ne (d := '#') (by decide)]

/-- Such a character is no bracket and no other form of a delimiter. -/
theorem IsInert.not_isSuspect {c : Char} (h : IsInert c) : ¬IsSuspect c := by
  have hforms : ∀ n ∈ delimiterForms, ¬IsInert (Char.ofNat n) := by decide
  rintro (rfl | rfl | hform)
  · exact absurd h (by decide)
  · exact absurd h (by decide)
  · have hinert := hforms c.toNat hform
    rw [Char.ofNat_toNat] at hinert
    exact hinert h

theorem isAuthority_of_isInert {authority : List Char} (h : ∀ c ∈ authority, IsInert c) :
    isAuthority authority = true :=
  isAuthority_of_not_isSuspect fun c hc => (h c hc).not_isSuspect

/-! ## Reading an address -/

/-- The last segment of a path is found behind a slash and in front of others. -/
theorem lastSegment_append {t : List Char} (hne : t ≠ []) (hslash : '/' ∉ t) (s : List Char)
    (n : Nat) : lastSegment (s ++ '/' :: (t ++ List.replicate n '/')) = t := by
  have hbehind : (t :: List.replicate n []).filter (· ≠ []) = [t] := by
    rw [List.filter_cons_of_pos (by simpa using hne), List.filter_eq_nil_iff.mpr]
    intro p hp
    simp [List.eq_of_mem_replicate hp]
  rw [lastSegment, Text.pieces_append, Text.pieces_append_replicate hslash, List.filter_append,
    hbehind]
  simp

namespace Address

variable (a : Address) {s escaped : List Char}

theorem isInert_authority : ∀ c ∈ a.authority, IsInert c :=
  fun c hc => isInert_of_isPlain (a.plain_authority c hc)

theorem mem_path (h : Escapes s escaped) {c : Char} (hc : c ∈ a.path escaped) :
    c = '/' ∨ IsInert c := by
  simp only [path, front, List.mem_append, List.mem_flatMap, List.mem_cons] at hc
  rcases hc with ⟨p, hp, rfl | hc⟩ | rfl | hc | hc
  · exact .inl rfl
  · exact .inr (isInert_of_isPlain (a.plain_segments p hp c hc))
  · exact .inl rfl
  · exact .inr (h.mem hc)
  · exact .inl (List.eq_of_mem_replicate hc)

theorem exists_path (escaped : List Char) : ∃ p, a.path escaped = '/' :: p := by
  unfold path front
  cases a.segments with
  | nil => exact ⟨_, rfl⟩
  | cons p ps => exact ⟨_, rfl⟩

/-- Leaving out characters keeps the mark in front of a tail. -/
theorem exists_tail : ∃ t, a.tail.filter (!isIgnored ·) = t ∧
    (t = [] ∨ (∃ u, t = '?' :: u) ∨ ∃ u, t = '#' :: u) := by
  rcases a.marked_tail with htail | ⟨t, htail | htail⟩ <;> rw [htail]
  · exact ⟨_, rfl, .inl rfl⟩
  · exact ⟨_, rfl, .inr (.inl ⟨t.filter (!isIgnored ·), rfl⟩)⟩
  · exact ⟨_, rfl, .inr (.inr ⟨t.filter (!isIgnored ·), rfl⟩)⟩

theorem toList_carrying : (a.carrying escaped).toList =
    (scheme ++ "//").toList ++ (a.authority ++ (a.path escaped ++ a.tail)) := by
  simp [carrying]

theorem isAddress_carrying (escaped : List Char) : isAddress (a.carrying escaped) = true := by
  rw [isAddress, toList_carrying, List.isPrefixOf_iff_prefix]
  exact List.prefix_append _ _

/-- What is left of an address in front of a query and a fragment. -/
theorem beforeFirst_path (h : Escapes s escaped) (t : List Char)
    (ht : t = [] ∨ (∃ u, t = '?' :: u) ∨ ∃ u, t = '#' :: u) :
    Text.beforeFirst '?' (Text.beforeFirst '#' (a.path escaped ++ t)) = a.path escaped := by
  have hnumber : '#' ∉ a.path escaped := fun hmem => absurd (a.mem_path h hmem) (by decide)
  have hquestion : '?' ∉ a.path escaped := fun hmem => absurd (a.mem_path h hmem) (by decide)
  rw [Text.beforeFirst_append hnumber, Text.beforeFirst_append hquestion]
  rcases ht with rfl | ⟨u, rfl⟩ | ⟨u, rfl⟩ <;> simp [Text.beforeFirst]

theorem pathOfAddress?_carrying (h : Escapes s escaped) :
    pathOfAddress? (a.carrying escaped).toList = some (a.path escaped) := by
  obtain ⟨t, htail, ht⟩ := a.exists_tail
  obtain ⟨p, hp⟩ := a.exists_path escaped
  have hauthority : a.authority.filter (!isIgnored ·) = a.authority :=
    List.filter_eq_self.mpr fun c hc => by simp [(a.isInert_authority c hc).not_isIgnored]
  have hpath : (a.path escaped).filter (!isIgnored ·) = a.path escaped := by
    refine List.filter_eq_self.mpr fun c hc => ?_
    rcases a.mem_path h hc with rfl | hinert
    · rfl
    · simp [hinert.not_isIgnored]
  have hrest : ((a.carrying escaped).toList.filter (!isIgnored ·)).drop (scheme.length + 2) =
      a.authority ++ (a.path escaped ++ t) := by
    rw [toList_carrying, List.filter_append, List.filter_append, List.filter_append, hauthority,
      hpath, htail]
    rfl
  have hends : ∀ c ∈ a.authority, (!endsAuthority c) = true := fun c hc => by
    simp [not_endsAuthority (a.isInert_authority c hc)]
  have hbefore : (a.authority ++ (a.path escaped ++ t)).takeWhile (!endsAuthority ·) =
      a.authority := by
    rw [List.takeWhile_append_of_pos hends, hp]
    simp [endsAuthority]
  have hbehind : (a.authority ++ (a.path escaped ++ t)).dropWhile (!endsAuthority ·) =
      a.path escaped ++ t := by
    rw [List.dropWhile_append_of_pos hends, hp]
    simp [endsAuthority]
  simp only [pathOfAddress?, hrest, hbefore, hbehind, isAuthority_of_isInert a.isInert_authority,
    if_true, a.beforeFirst_path h t ht]

/-- The document id of an address is the one that has been escaped. -/
theorem documentId_carrying {id : String} (hne : id ≠ "") (h : Escapes id.toList escaped) :
    documentId (a.carrying escaped) = .ok id := by
  have hescaped : escaped ≠ [] := h.ne_nil (by simpa using hne)
  have hslash : '/' ∉ escaped := fun hmem => absurd (h.mem hmem) (by decide)
  have hlast : lastSegment (a.path escaped) = escaped := lastSegment_append hescaped hslash _ _
  rw [documentId, if_pos (a.isAddress_carrying escaped), a.pathOfAddress?_carrying h]
  simp only [hlast, Text.Percent.decode_escapes h, String.ofList_toList]

end Address

end Handle

/-! ## Failures that name handles -/

/-- The same fault of another handle. -/
def HandleFault.withHandle (handle : String) : HandleFault → HandleFault
  | .missing => .missing
  | .unknownVolume volume _ => .unknownVolume volume handle
  | .escapes volume _ => .escapes volume handle
  | .inaccessible _ path => .inaccessible handle path
  | .reported message => .reported message

namespace Failure

/-- The same failure, with another handle named in it where it names one. -/
def withHandle (handle : String) : Failure → Failure
  | .badHandle fault => .badHandle (fault.withHandle handle)
  | e => e

/-- Where a computation fails, its failure names no handle. -/
abbrev NamesNone {α : Type} (x : Except Failure α) : Prop :=
  Only (fun e => ∀ handle, e.withHandle handle = e) x

/-- A step that names no handle leaves the one of the failure to what comes after it. -/
theorem NamesNone.bind_congr {α β : Type} {x : Except Failure α} {f f' : α → Except Failure β}
    {handle : String} (hx : NamesNone x)
    (hf : ∀ a, f' a = (f a).mapError (·.withHandle handle)) :
    x.bind f' = (x.bind f).mapError (·.withHandle handle) := by
  cases x with
  | ok a => exact hf a
  | error e => exact congrArg Except.error (hx e rfl handle).symm

end Failure

namespace Platform

namespace Local

open Failure (NamesNone)

theorem fieldsOf_namesNone (entry : Json) : NamesNone (fieldsOf entry) := by
  cases entry with
  | obj fields => exact .ok fields
  | null | bool | int | float | str | arr => exact .error fun _ => rfl

theorem findVolume_namesNone (tag : String) (entries : List Json) :
    NamesNone (findVolume tag entries) := by
  induction entries with
  | nil => exact .ok none
  | cons entry entries ih =>
    refine .bind (fieldsOf_namesNone entry) fun fields => ?_
    split
    · exact .ok (some fields)
    · exact ih

theorem mountOf_namesNone (c : Config) (tag : String) : NamesNone (mountOf c tag) := by
  unfold mountOf
  split
  · exact .ok c.storagePlace
  · refine .bind ?_ fun entries => .bind (findVolume_namesNone tag entries) fun found => ?_
    · unfold Config.volumeEntries
      split
      · exact .ok _
      · exact .ok _
      · exact .ok _
      · exact .error fun _ => rfl
    · cases found with
      | none => exact .ok _
      | some fields => exact .ok _

theorem path?_namesNone (place : Place) : NamesNone place.path? := by
  unfold Place.path?
  split
  · exact .ok none
  · exact .ok _
  · exact .ok _
  · exact .error fun _ => rfl

theorem isDirectory_namesNone (fs : FileSystem) (path : Path) :
    NamesNone (fs.isDirectory path) := by
  intro e h
  obtain ⟨cause, rfl⟩ := FileSystem.isDirectory_error h
  exact fun _ => rfl

/-- Handles that carry one document id lead to the same directory, or fail alike. -/
theorem handlePath_congr {c : Config} {fs : FileSystem} {handle handle' : String}
    (hne : handle ≠ "") (hne' : handle' ≠ "")
    (h : Handle.documentId handle' = Handle.documentId handle) :
    handlePath c fs handle' = (handlePath c fs handle).mapError (·.withHandle handle') := by
  rw [handlePath, handlePath, if_neg hne, if_neg hne', h]
  cases hid : Handle.documentId handle with
  | error e =>
    obtain ⟨-, rfl⟩ := Handle.documentId_eq_error_iff.mp hid
    rfl
  | ok id =>
    refine (mountOf_namesNone c (Handle.volumeTag id)).bind_congr fun mount => ?_
    dsimp only
    split
    · rfl
    split
    · rfl
    refine (path?_namesNone mount).bind_congr fun base? => ?_
    cases base? with
    | none => rfl
    | some base =>
      refine (isDirectory_namesNone fs _).bind_congr fun found => ?_
      cases found <;> rfl

end Local

end Platform

/-! ## Addresses and ids -/

namespace Handle

/-- The document id of an address is the one that it carries, however that has been escaped and
whatever surrounds it. Unless the id is an address itself, both name the same volume and leaf, have
the same label, and lead to the same directory or fail alike. -/
theorem address_stands_for_id (a : Address) {id : String} {escaped : List Char} (hne : id ≠ "")
    (h : Text.Percent.Escapes id.toList escaped) :
    documentId (a.carrying escaped) = .ok id ∧
      (isAddress id = false →
        volume (a.carrying escaped) = volume id ∧
        volumeAndLeaf (a.carrying escaped) = volumeAndLeaf id ∧
        (∀ describe template, Label.ofHandle describe template (a.carrying escaped) =
          Label.ofHandle describe template id) ∧
        ∀ c fs, (Platform.ofConfig c).handlePath fs (a.carrying escaped) =
          ((Platform.ofConfig c).handlePath fs id).mapError
            (·.withHandle (a.carrying escaped))) := by
  have haddress := a.documentId_carrying hne h
  refine ⟨haddress, fun hbare => ?_⟩
  have hid : documentId id = .ok id := by
    rw [documentId, hbare]
    rfl
  have hsame : documentId (a.carrying escaped) = documentId id := haddress.trans hid.symm
  have hleaf : volumeAndLeaf (a.carrying escaped) = volumeAndLeaf id := by
    rw [volumeAndLeaf, volumeAndLeaf, hsame]
  have hsomething : a.carrying escaped ≠ "" := by
    intro hempty
    have hprefix := a.isAddress_carrying escaped
    rw [hempty] at hprefix
    exact absurd hprefix (by decide)
  refine ⟨?_, hleaf, ?_, ?_⟩
  · rw [volume, volume, hsame]
  · intro describe template
    rw [Label.ofHandle, Label.ofHandle, hleaf]
  · intro c fs
    exact Platform.Local.handlePath_congr hne hsomething hsame

/-- An id that holds a percent sign of its own, behind two segments and in front of slashes, a query
and a fragment. Its volume is not known, and the failure names the address. -/
theorem address_stands_for_id_with_percent :
    let a : Address := ⟨"documents.example".toList, ["tree".toList, "document".toList], 2,
      "?[#/".toList, by simp [isPlain], by simp [isPlain], .inr ⟨_, .inl rfl⟩⟩
    let address := "content://documents.example/tree/document/card%3A%C3%a9%252F//?[#/"
    a.carrying "card%3A%C3%a9%252F".toList = address ∧
      documentId address = .ok "card:é%2F" ∧ volume address = .ok "card" ∧
      (Platform.ofConfig .default).handlePath .empty address =
        .error (.badHandle (.unknownVolume "card" address)) := by
  intro a address
  have hcolon : Text.Percent.EscapesBytes (Text.Utf8.encodeChar ':') "%3A".toList :=
    .cons (.inl rfl) (.inr rfl) .nil
  have haccent : Text.Percent.EscapesBytes (Text.Utf8.encodeChar 'é') "%C3%a9".toList :=
    .cons (.inr rfl) (.inl rfl) (.cons (.inl rfl) (.inl rfl) .nil)
  have hpercent : Text.Percent.EscapesBytes (Text.Utf8.encodeChar '%') "%25".toList :=
    .cons (.inl rfl) (.inl rfl) .nil
  have hescaped : Text.Percent.Escapes "card:é%2F".toList "card%3A%C3%a9%252F".toList :=
    .raw rfl (.raw rfl (.raw rfl (.raw rfl (.escaped hcolon (.escaped haccent
      (.escaped hpercent (.raw rfl (.raw rfl .nil))))))))
  have hne : "card:é%2F" ≠ "" := by decide
  have haddress : a.carrying "card%3A%C3%a9%252F".toList = address := by decide
  obtain ⟨hid, hsame⟩ := address_stands_for_id a hne hescaped
  rw [haddress] at hid hsame
  obtain ⟨hvolume, -, -, hpath⟩ := hsame (by decide)
  exact ⟨haddress, hid, hvolume.trans rfl, (hpath .default .empty).trans rfl⟩

end Handle

end BackupLocator
