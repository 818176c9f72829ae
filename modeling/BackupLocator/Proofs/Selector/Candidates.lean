import Mathlib.Data.List.Lex
import BackupLocator.Proofs.Resolver.Fallback
import BackupLocator.Proofs.Selector.Marker

/-!
# Candidates

The removable roots that can be chosen are the entries of the platform's list with a path that is not
marked as internal, as often as they are listed and in the same order. To try them in the order of
their paths is to sort them by code points, and stably: none is lost, and those of one path stay in
their order. Then the one that is chosen has the least path of all, so it is the same in whatever
order the platform lists its roots.
-/

namespace BackupLocator

/-! ## What is a candidate -/

/-- An entry of a platform's list is a root with a known path, and the mark of internal storage does
not occur in the text of the path. -/
def IsCandidate (entry : Option StorageRoot) : Prop :=
  ∃ root path, entry = some root ∧ root.path = some path ∧
    ¬emulatedMarker.toList <:+: path.text.toList

/-- The site of an entry that is a candidate. -/
def candidate? (entry : Option StorageRoot) : Option Site :=
  (entry.bind StorageRoot.site?).filter fun site => !site.path.isEmulated

theorem candidate?_eq_some_iff {entry : Option StorageRoot} {site : Site} :
    candidate? entry = some site ↔
      entry = some site.root ∧ ¬emulatedMarker.toList <:+: site.path.text.toList := by
  have hmark : site.path.isEmulated = false ↔
      ¬emulatedMarker.toList <:+: site.path.text.toList := by
    rw [Path.isEmulated, marksEmulated, Bool.eq_false_iff, ne_eq, Text.occursIn_iff]
  have hsite : entry.bind StorageRoot.site? = some site ↔ entry = some site.root := by
    cases site
    rcases entry with _ | ⟨_ | path, handle, description⟩ <;>
      simp [StorageRoot.site?, Site.root]
  rw [candidate?, Option.filter_eq_some_iff, hsite, Bool.not_eq_true', hmark]

theorem isCandidate_iff {entry : Option StorageRoot} :
    IsCandidate entry ↔ (candidate? entry).isSome = true := by
  rw [Option.isSome_iff_exists]
  constructor
  · rintro ⟨⟨_, handle, description⟩, path, rfl, rfl, hmark⟩
    exact ⟨⟨path, handle, description⟩, candidate?_eq_some_iff.mpr ⟨rfl, hmark⟩⟩
  · rintro ⟨site, hsite⟩
    obtain ⟨rfl, hmark⟩ := candidate?_eq_some_iff.mp hsite
    exact ⟨site.root, site.path, rfl, rfl, hmark⟩

instance : DecidablePred IsCandidate := fun _ => decidable_of_iff _ isCandidate_iff.symm

theorem removableSites_cons (entry : Option StorageRoot) (roots : List (Option StorageRoot)) :
    removableSites (entry :: roots) = (candidate? entry).toList ++ removableSites roots := by
  rw [removableSites, removableSites, candidate?]
  cases h : entry.bind StorageRoot.site? with
  | none => simp [h]
  | some site => by_cases hmark : site.path.isEmulated = true <;> simp [h, hmark, Option.filter]

/-- The removable sites are those of the candidates, in the order of the list. -/
theorem map_removableSites (roots : List (Option StorageRoot)) :
    (removableSites roots).map (fun site => some site.root) = roots.filter IsCandidate := by
  induction roots with
  | nil => rfl
  | cons entry roots ih =>
    rw [removableSites_cons, List.map_append, ih]
    cases h : candidate? entry with
    | none =>
      have hno : ¬IsCandidate entry := by simp [isCandidate_iff, h]
      simp [hno]
    | some site =>
      have hyes : IsCandidate entry := by simp [isCandidate_iff, h]
      rw [List.filter_cons_of_pos (by simpa using hyes), (candidate?_eq_some_iff.mp h).1]
      rfl

theorem mem_removableSites_iff {roots : List (Option StorageRoot)} {site : Site} :
    site ∈ removableSites roots ↔
      some site.root ∈ roots ∧ ¬emulatedMarker.toList <:+: site.path.text.toList := by
  induction roots with
  | nil => simp [removableSites]
  | cons entry roots ih =>
    rw [removableSites_cons, List.mem_append, ih, Option.mem_toList, candidate?_eq_some_iff,
      List.mem_cons, eq_comm (a := entry)]
    exact or_and_right.symm

/-! ## The order of paths -/

namespace Path

/-- The code points of the text of a path. -/
def codePoints (p : Path) : List Nat := p.text.toList.map Char.toNat

theorem codePoints_inj {p q : Path} (h : p.codePoints = q.codePoints) : p = q := by
  have hchars : p.text.toList = q.text.toList := by
    apply (List.map_inj_right _).mp h
    intro a b hab
    exact Char.toNat_inj.mp hab
  rw [← ofText_text p, ← ofText_text q, String.toList_inj.mp hchars]

/-- Texts are compared by their code points. -/
theorem text_le_iff {p q : Path} : p.text ≤ q.text ↔ p.codePoints ≤ q.codePoints := by
  have forward {p q : Path} (h : p.text ≤ q.text) : p.codePoints ≤ q.codePoints := by
    rw [← String.not_lt, String.lt_iff, List.not_lt] at h
    exact not_lt.mp (List.map_le (fun a b hab => hab) h)
  constructor
  · exact forward
  · intro h
    rcases String.le_total p.text q.text with hpq | hqp
    · exact hpq
    · obtain rfl := codePoints_inj (le_antisymm h (forward hqp))
      exact String.le_refl _

end Path

/-- Some sites are others in the order of their paths: none is lost or added, and those of one path
stay in their order. -/
structure IsSortOf (sites listed : List Site) : Prop where
  perm : sites.Perm listed
  ordered : sites.Pairwise fun a b => a.path.codePoints ≤ b.path.codePoints
  stable : ∀ path, sites.filter (·.path = path) = listed.filter (·.path = path)

theorem sortedByPath_isSortOf (listed : List Site) : IsSortOf (sortedByPath listed) listed := by
  let le (a b : Site) : Bool := decide (a.path.text ≤ b.path.text)
  have htrans (a b c : Site) (hab : le a b = true) (hbc : le b c = true) : le a c = true :=
    decide_eq_true (String.le_trans (of_decide_eq_true hab) (of_decide_eq_true hbc))
  have htotal (a b : Site) : (le a b || le b a) = true := by
    simpa [le] using String.le_total a.path.text b.path.text
  have hperm : (sortedByPath listed).Perm listed := List.mergeSort_perm listed le
  refine ⟨hperm, ?_, ?_⟩
  · refine (List.pairwise_mergeSort htrans htotal listed).imp fun {a b} hab => ?_
    exact Path.text_le_iff.mp (of_decide_eq_true hab)
  · intro path
    -- The sites of one path are in order already, so sorting keeps them as they are.
    have hsame : (listed.filter (·.path = path)).Pairwise fun a b => le a b = true := by
      rw [List.pairwise_iff_forall_sublist]
      intro a b hab
      have hpath {site : Site} (hsite : site ∈ [a, b]) : site.path = path :=
        of_decide_eq_true (List.mem_filter.mp (hab.subset hsite)).2
      have ha : a.path = path := hpath (by simp)
      have hb : b.path = path := hpath (by simp)
      exact decide_eq_true (ha.trans hb.symm ▸ String.le_refl a.path.text)
    have hsub := List.sublist_mergeSort htrans htotal hsame List.filter_sublist
    have hfiltered := hsub.filter fun site => decide (site.path = path)
    rw [List.filter_filter] at hfiltered
    simp only [Bool.and_self] at hfiltered
    exact (hfiltered.eq_of_length (hperm.filter _).length_eq.symm).symm

/-- The first site of a sort has the least path. -/
theorem IsSortOf.least_of_head {sites listed : List Site} (h : IsSortOf sites listed) {site : Site}
    (hhead : sites.head? = some site) :
    site ∈ listed ∧ ∀ other ∈ listed, site.path.codePoints ≤ other.path.codePoints := by
  obtain ⟨rest, rfl⟩ := List.head?_eq_some_iff.mp hhead
  refine ⟨h.perm.mem_iff.mp List.mem_cons_self, ?_⟩
  intro other hother
  rcases List.mem_cons.mp (h.perm.mem_iff.mpr hother) with rfl | hrest
  · exact le_rfl
  · exact (List.pairwise_cons.mp h.ordered).1 other hrest

/-! ## The choice -/

namespace Selector

variable (sel : Selector) {s : Session} {roots : List (Option StorageRoot)}

/-- The same choice on a platform that lists other roots. -/
def withRoots (sel : Selector) (roots : List (Option StorageRoot)) : Selector :=
  { sel with platform := { sel.platform with externalRoots := fun _ => .ok roots } }

theorem run_candidates (h : sel.platform.externalRoots s.files = .ok roots) :
    (sel.candidates.run s).1 = .ok (sel.ordered roots) := by
  rw [(sel.does_candidates s).result_eq, h]
  rfl

/-- Where there are several volumes and a removable root is preferred, the first candidate is
chosen, and the default root only where there is none. -/
theorem run_selectRoot (hmany : sel.platform.version.IsAtLeast Version.firstMultiVolume)
    (h : sel.platform.externalRoots s.files = .ok roots) :
    ((sel.selectRoot true).run s).1 = match (sel.ordered roots).head? with
      | some site => .ok site
      | none => (sel.defaultRoot.run s).1 := by
  have htries : sel.TriesFirst true s (sel.ordered roots).head? :=
    .listed rfl hmany (sel.run_candidates h)
  have hselect := sel.does_selectRoot true s
  rw [htries.preferred_eq] at hselect
  cases hhead : (sel.ordered roots).head? with
  | some site =>
    rw [hhead] at hselect
    exact hselect.result_eq
  | none =>
    rw [hhead] at hselect
    exact hselect.result_eq.trans (sel.does_defaultRoot s).result_eq.symm

theorem ordered_isSortOf (hsorted : sel.sorted = true) (roots : List (Option StorageRoot)) :
    IsSortOf (sel.ordered roots) (removableSites roots) := by
  rw [ordered, if_pos hsorted]
  exact sortedByPath_isSortOf _

/-- What is chosen in the order of paths is the least candidate. -/
theorem selectRoot_least (hsorted : sel.sorted = true)
    (hmany : sel.platform.version.IsAtLeast Version.firstMultiVolume)
    (h : sel.platform.externalRoots s.files = .ok roots) (hsome : removableSites roots ≠ []) :
    ∃ site, ((sel.selectRoot true).run s).1 = .ok site ∧ site ∈ removableSites roots ∧
      ∀ other ∈ removableSites roots, site.path.codePoints ≤ other.path.codePoints := by
  have hsort := sel.ordered_isSortOf hsorted roots
  have hordered : sel.ordered roots ≠ [] := fun hnil => hsome (hnil ▸ hsort.perm).nil_eq.symm
  obtain ⟨site, rest, hcons⟩ := List.exists_cons_of_ne_nil hordered
  have hhead : (sel.ordered roots).head? = some site := by rw [hcons]; rfl
  refine ⟨site, ?_, hsort.least_of_head hhead⟩
  rw [sel.run_selectRoot hmany h, hhead]

/-- What is chosen in the order of paths has the same path for all lists of the same roots. -/
theorem selectRoot_path_congr (hsorted : sel.sorted = true)
    (hmany : sel.platform.version.IsAtLeast Version.firstMultiVolume)
    (h : sel.platform.externalRoots s.files = .ok roots) {roots' : List (Option StorageRoot)}
    (hsame : ∀ entry, entry ∈ roots' ↔ entry ∈ roots) :
    (((sel.withRoots roots').selectRoot true).run s).1.map (·.path) =
      ((sel.selectRoot true).run s).1.map (·.path) := by
  have h' : (sel.withRoots roots').platform.externalRoots s.files = .ok roots' := rfl
  have hsites (site : Site) : site ∈ removableSites roots' ↔ site ∈ removableSites roots := by
    rw [mem_removableSites_iff, mem_removableSites_iff, hsame]
  by_cases hnone : removableSites roots = []
  · -- There is no candidate in either list, so the default root is chosen from both.
    have hnone' : removableSites roots' = [] := by
      rw [List.eq_nil_iff_forall_not_mem] at hnone ⊢
      exact fun site hsite => hnone site ((hsites site).mp hsite)
    have hordered : sel.ordered roots = [] :=
      (hnone ▸ sel.ordered_isSortOf hsorted roots).perm.eq_nil
    have hordered' : (sel.withRoots roots').ordered roots' = [] :=
      (hnone' ▸ (sel.withRoots roots').ordered_isSortOf hsorted roots').perm.eq_nil
    rw [sel.run_selectRoot hmany h, (sel.withRoots roots').run_selectRoot hmany h', hordered,
      hordered']
    rfl
  · have hnone' : removableSites roots' ≠ [] := by
      obtain ⟨site, hsite⟩ := List.exists_mem_of_ne_nil _ hnone
      exact List.ne_nil_of_mem ((hsites site).mpr hsite)
    obtain ⟨site, hrun, hmem, hleast⟩ := sel.selectRoot_least hsorted hmany h hnone
    obtain ⟨site', hrun', hmem', hleast'⟩ :=
      (sel.withRoots roots').selectRoot_least hsorted hmany h' hnone'
    have hle := hleast site' ((hsites site').mp hmem')
    have hle' := hleast' site ((hsites site).mpr hmem)
    rw [hrun, hrun']
    exact congrArg Except.ok (Path.codePoints_inj (le_antisymm hle' hle))

/-- The candidates are the entries of the list that can be chosen, in its order or stably sorted by
their paths. In the latter case a preference leads to the least of them, whatever the order in which
the platform lists them and however often. -/
theorem candidates_are_sorted (sel : Selector) {s : Session} {roots : List (Option StorageRoot)}
    (h : sel.platform.externalRoots s.files = .ok roots) :
    ∃ listed sites, listed.map (fun site => some site.root) = roots.filter IsCandidate ∧
      (sel.candidates.run s).1 = .ok sites ∧
      (sel.sorted = false → sites = listed) ∧
      (sel.sorted = true → IsSortOf sites listed ∧
        (sel.platform.version.IsAtLeast Version.firstMultiVolume →
          (listed ≠ [] → ∃ site, ((sel.selectRoot true).run s).1 = .ok site ∧ site ∈ listed ∧
            ∀ other ∈ listed, site.path.codePoints ≤ other.path.codePoints) ∧
          ∀ roots', (∀ entry, entry ∈ roots' ↔ entry ∈ roots) →
            (((sel.withRoots roots').selectRoot true).run s).1.map (·.path) =
              ((sel.selectRoot true).run s).1.map (·.path))) := by
  refine ⟨removableSites roots, sel.ordered roots, map_removableSites roots, sel.run_candidates h,
    ?_, ?_⟩
  · intro hunsorted
    simp [ordered, hunsorted]
  · intro hsorted
    refine ⟨sel.ordered_isSortOf hsorted roots, ?_⟩
    intro hmany
    refine ⟨sel.selectRoot_least hsorted hmany h, ?_⟩
    intro roots' hsame
    exact sel.selectRoot_path_congr hsorted hmany h hsame

/-- A stick and a card, of which the card comes first by its path, behind entries that are none. -/
theorem candidates_are_sorted_on_stick :
    let roots := [none, some ⟨none, .str "tape:", .str "Tape"⟩,
      some ⟨some (.ofText "/storage/emulated/0"), .null, .str "Alias"⟩, some Card.stick.root,
      some Card.site.root]
    let sel := Selector.withRoots ⟨Card.platform 29, true⟩ roots
    let s := Session.start Card.withStick
    ∃ sites site, (sel.candidates.run s).1 = .ok sites ∧ IsSortOf sites [Card.stick, Card.site] ∧
      ((sel.selectRoot true).run s).1 = .ok site ∧
      site.path.codePoints ≤ Card.stick.path.codePoints ∧
      (((sel.withRoots roots.reverse).selectRoot true).run s).1.map (·.path) = .ok site.path := by
  intro roots sel s
  obtain ⟨listed, sites, hlisted, hsites, -, hsorted⟩ :=
    candidates_are_sorted sel (rfl : sel.platform.externalRoots s.files = .ok roots)
  have hfilter : roots.filter IsCandidate = [Card.stick, Card.site].map fun site =>
      some site.root := by decide
  obtain rfl : listed = [Card.stick, Card.site] :=
    (List.map_inj_right fun _ _ h => Site.root_inj.mp (Option.some.inj h)).mp
      (hlisted.trans hfilter)
  obtain ⟨hsort, hmany⟩ := hsorted rfl
  obtain ⟨hleast, hsame⟩ := hmany (by decide)
  obtain ⟨site, hrun, -, hall⟩ := hleast (by simp)
  have hreverse := hsame roots.reverse fun entry => List.mem_reverse
  rw [hrun] at hreverse
  exact ⟨sites, site, hsites, hsort, hrun, hall Card.stick List.mem_cons_self, hreverse⟩

end Selector

end BackupLocator
