import BackupLocator.Proofs.Resolver.Scoped
import BackupLocator.Proofs.Resolver.Success

/-!
# What a preference costs

Where an operation succeeds without preferring removable storage, the default root serves. With a
preference a removable root is tried before it. One that may not be written to is passed over, but
one that may is settled on, whether or not the directory can be made there. So a preference costs
the success exactly where it cannot.
-/

namespace BackupLocator

open BackupLocator.Action

namespace Operation

/-- An operation with a preference for removable storage, or without one, if it takes any. -/
def withPreference (prefer : Bool) : Operation → Operation
  | .full handle _ => .full handle prefer
  | .plaintext handle _ => .plaintext handle prefer
  | .legacyRoot _ => .legacyRoot prefer
  | .directory request handle _ => .directory request handle prefer
  | .selectRoot _ => .selectRoot prefer
  | op => op

variable {r : Resolver} {op : Operation} {s s' : Session}

@[simp]
theorem branch?_withPreference (r : Resolver) (op : Operation) (prefer : Bool) :
    (op.withPreference prefer).branch? r = op.branch? r := by
  cases op <;> rfl

@[simp]
theorem handle?_withPreference (op : Operation) (prefer : Bool) :
    (op.withPreference prefer).handle? = op.handle? := by
  cases op <;> rfl

@[simp]
theorem prefers_withoutPreference (op : Operation) : (op.withPreference false).prefers = false := by
  cases op with
  | directory => exact Bool.and_false _
  | _ => rfl

/-- An operation gives a directory. -/
def Gives (r : Resolver) (op : Operation) (s : Session) : Prop :=
  ∃ d s', (op.perform r).run s = (.ok (.directory d), s')

end Operation

/-- The directory of a category can be made on a site. -/
def Resolver.Places (r : Resolver) (fs : FileSystem) (category : Option Category) (site : Site) :
    Prop :=
  ∃ d, r.directoryOn category site = .ok d ∧ (fs.makeDirectory d.path true true).1 = .ok ()

/-- With a preference the standing default root gives way to a preferred root, unless that is
refused. -/
theorem Chooses.root_iff {sel : Selector} {prefer : Bool} {fs : FileSystem} {memo : Option Site}
    {c : Choice} {site : Site} {P : Site → Prop} (h : Chooses sel prefer fs memo c)
    (hstanding : sel.standing memo = .ok site) (hw : fs.canWrite site.path = .ok true)
    (hP : P site) :
    (∃ site', c.root = .ok site' ∧ P site') ↔ ∃ tried, sel.preferred fs prefer = .ok tried ∧
      ∀ site' ∈ tried, fs.canWrite site'.path = .ok false ∨
        fs.canWrite site'.path = .ok true ∧ P site' := by
  cases h with
  | unlisted hp => simp [hp]
  | unprobed hp he => simp [hp, he]
  | removable hp hw' => simp [hp, hw']
  | fallback hp htried hsettles =>
    -- What was preferred is refused, so both sides hold by the standing root.
    rw [hstanding] at hsettles
    refine iff_of_true ⟨site, hsettles.root_of_canWrite hw, hP⟩ ⟨_, hp, fun site' hmem => ?_⟩
    exact .inl (htried site' hmem)

namespace Operation

variable {r : Resolver} {op : Operation} {s s' : Session}

/-- On plain paths an operation gives a directory if a root is chosen and has room for it. -/
theorem gives_iff_of_chooses {category : Option Category} {c : Choice}
    (hop : op.IsDirect r category) (hc : Chooses r.selector op.prefers s.files s.memo c) :
    op.Gives r s ↔ ∃ site, c.root = .ok site ∧ r.Places s.files category site := by
  have hresult := (hop.does hc).result_eq
  constructor
  · rintro ⟨d, s', h⟩
    obtain ⟨hsettled, -⟩ := settled_of_success h (hop.does hc)
    obtain ⟨site, hroot, hd⟩ := Failure.bind_eq_ok_iff.mp hsettled
    exact ⟨site, hroot, d, hd, congrArg Prod.fst (targets_of_success h).2⟩
  · rintro ⟨site, hroot, d, hd, hmade⟩
    have hgiven := Resolver.madeIn_eq_ok_iff.mpr ⟨(rfl : d = d), hmade⟩
    have hplaced := Failure.bind_eq_ok_iff.mpr ⟨site, hroot, hd⟩
    refine ⟨d, ((op.perform r).run s).2, Prod.ext ?_ rfl⟩
    rw [hresult]
    exact Failure.map_eq_ok_iff.mpr ⟨d, Failure.bind_eq_ok_iff.mpr ⟨d, hplaced, hgiven⟩, rfl⟩

/-- Where an operation gives a directory without a preference, it gives one with a preference if and
only if each removable root that it tries then is not writable, or has room for the directory. -/
theorem gives_with_preference_iff {d : ResolvedDirectory}
    (h : ((op.withPreference false).perform r).run s = (.ok (.directory d), s')) :
    (op.withPreference true).Gives r s ↔ d.model = .scoped ∨
      ∃ tried, r.selector.preferred s.files (op.withPreference true).prefers = .ok tried ∧
        ∀ site ∈ tried, s.files.canWrite site.path = .ok false ∨
          s.files.canWrite site.path = .ok true ∧ r.Places s.files d.category site := by
  have hbranch := (targets_of_success h).1.found.branch
  match hmodel : d.model with
  | .scoped =>
    -- The handle decides alone: the two operations are one.
    have hscoped : (op.withPreference false).IsScoped r :=
      ⟨d.category, by rw [hbranch, ResolvedDirectory.branch, hmodel]⟩
    have hsame : (op.withPreference true).perform r = (op.withPreference false).perform r :=
      hscoped.perform_eq (by simp) (by simp)
    exact iff_of_true ⟨d, s', hsame ▸ h⟩ (.inl rfl)
  | .legacy =>
    have hdirect : (op.withPreference false).IsDirect r d.category := by
      rw [IsDirect, hbranch, ResolvedDirectory.branch, hmodel]
    have hdirect' : (op.withPreference true).IsDirect r d.category := by
      rwa [IsDirect, branch?_withPreference] at hdirect ⊢
    -- Without the preference the default root has been chosen, and it has room.
    obtain ⟨c₀, hc₀⟩ := exists_chooses r.selector (op.withPreference false).prefers s.files s.memo
    obtain ⟨site, hroot, hplaces⟩ := (gives_iff_of_chooses hdirect hc₀).mp ⟨d, s', h⟩
    rw [prefers_withoutPreference] at hc₀
    obtain ⟨hstanding, hw⟩ := hc₀.standing_of_root hroot
    obtain ⟨c, hc⟩ := exists_chooses r.selector (op.withPreference true).prefers s.files s.memo
    rw [gives_iff_of_chooses hdirect' hc, hc.root_iff hstanding hw hplaces]
    simp

end Operation

/-! ## A card and a stick -/

namespace Card

def stick : Site := ⟨.ofText "/stick", .null, .str "Stick"⟩

/-- A resolver for a card and a removable stick. -/
def resolverWithStick : Resolver :=
  ⟨{ platform 29 with externalRoots := fun _ => .ok [some stick.root] }, .unset, false⟩

/-- A card and a stick that hold nothing. -/
def withStick : FileSystem :=
  { empty with entries := [(["sdcard"], .directory), (["stick"], .directory)] }

/-- The same with a file on the stick where the application root would be. -/
def withBlockedStick : FileSystem := withStick.add ["Signal", "stick"] (.file [])

end Card

namespace Operation

theorem gives_with_preference_on_card :
    let s := Session.start Card.withStick
    (full none false).Gives Card.resolverWithStick s ∧
      (full none true).Gives Card.resolverWithStick s := by
  intro s
  obtain ⟨d, s', h, hcategory⟩ : ∃ d s',
      (((full none true).withPreference false).perform Card.resolverWithStick).run s =
        (.ok (.directory d), s') ∧ d.category = some .full := ⟨_, _, rfl, rfl⟩
  have hplaces : Card.resolverWithStick.Places s.files d.category Card.stick :=
    hcategory ▸ ⟨_, rfl, rfl⟩
  have htried : ∀ site ∈ some Card.stick, s.files.canWrite site.path = .ok false ∨
      s.files.canWrite site.path = .ok true ∧
        Card.resolverWithStick.Places s.files d.category site := by
    rintro _ ⟨⟩
    exact .inr ⟨rfl, hplaces⟩
  have hgives := (gives_with_preference_iff h).mpr (.inr ⟨some Card.stick, rfl, htried⟩)
  exact ⟨⟨d, s', h⟩, hgives⟩

/-- A file on the stick keeps the directory from being made there, and the card is not tried. -/
theorem preference_costs_success_on_card :
    let s := Session.start Card.withBlockedStick
    (full none false).Gives Card.resolverWithStick s ∧
      ∃ cause s', ((full none true).perform Card.resolverWithStick).run s =
        (.error (.notCreated (.ofText "/stick/Signal/FullBackups") cause), s') :=
  ⟨⟨_, _, rfl⟩, _, _, rfl⟩

end Operation

end BackupLocator
