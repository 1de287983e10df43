import Mathlib.Data.List.Forall2
import JujuMigration.Proofs.Run.Walk
import JujuMigration.Proofs.Store.Region
/-! Where discovered files are. In a tree without links each file that is found below a directory is in a directory that
has been entered, under a name with the extension, and no two of them are at one place. -/

namespace JujuMigration

open Store

/-- The entries are at different places, their names are names, and none of them is a link. -/
structure Store.IsTree (s : Store) : Prop where
  distinct : (s.entries.map Prod.fst).Nodup
  names : ∀ x ∈ s.entries, ∀ part ∈ x.1, IsName part
  links : ∀ x ∈ s.entries, ∀ target, x.2 ≠ .link target

/-- A path is that of a configuration file, by its directory's place and its name there. -/
structure Sits (s : Store) (p : Path) (spot : Place × Text) : Prop where
  path : p = p.parent.child spot.2
  parent : s.place .target p.parent = .ok spot.1
  directory : (s.directory? spot.1).isSome = true
  isName : IsName spot.2
  extension : Discovery.extension <:+ spot.2

variable {s : Store} {d : Place} {name : Text} {names : List Text} {target : Path} {files : List Path}

theorem Store.IsTree.isLawful (h : s.IsTree) : s.IsLawful := ⟨h.distinct, h.names⟩

theorem Store.IsTree.isPlain (h : s.IsTree) : s.IsPlain :=
  fun _ target hlink => h.links _ (mem_of_lookup hlink) target rfl

/-- A walk that is complete has come to every directory by its path. -/
theorem Entered.place (h : Entered s d names) (hs : s.IsLawful) (hd : s.place .target target = .ok d)
    (hdir : (s.directory? d).isSome = true)
    (hlisted : ∀ names, Entered s d names → ∃ entries, s.list (target.below names) = .ok entries) :
    s.place .target (target.below names) = .ok (d ++ names) ∧ (s.directory? (d ++ names)).isSome = true := by
  induction h generalizing target with
  | here =>
      rw [Path.below_nil, List.append_nil]
      exact ⟨hd, hdir⟩
  | @into d name names mode hentry hname rest ih =>
      obtain ⟨entries, hlist⟩ := hlisted [name] (.into hentry hname .here)
      obtain ⟨q, hq, -⟩ := list_eq_ok hlist
      obtain rfl := hs.place_child hd hentry hq
      rw [Path.below_cons, List.append_cons]
      refine ih hq (by rw [directory?_eq_some.2 hentry]; rfl) fun names hentered => ?_
      rw [← Path.below_cons]
      exact hlisted _ (.into hentry hname hentered)

/-- Where a file below a target is that is at the place `d`. -/
def spotBelow (target : Path) (d : Place) (p : Path) : Place × Text :=
  (d ++ (p.parts.drop target.parts.length).dropLast, p.name)

theorem spotBelow_below : spotBelow target d (target.below (names ++ [name])) = (d ++ names, name) := by
  rw [spotBelow, Path.name, Path.below, ← List.append_assoc, List.getLast?_concat, List.append_assoc, List.drop_left,
    List.dropLast_concat]
  rfl

theorem Complete.sits (h : Complete s target d files) (hs : s.IsLawful) (hd : s.place .target target = .ok d)
    (hdir : (s.directory? d).isSome = true) : ∃ spots, List.Forall₂ (Sits s) files spots ∧ spots.Nodup := by
  refine ⟨files.map (spotBelow target d), ?_, h.nodup.map_on ?_⟩
  · rw [List.forall₂_map_right_iff, List.forall₂_same]
    intro p hp
    obtain ⟨names, name, hname, rfl⟩ := (h.mem_iff p).1 hp
    obtain ⟨e, hstands, -⟩ := hname.stands
    have hparent : (target.below (names ++ [name])).parent = target.below names := by
      rw [Path.parent, Path.below, ← List.append_assoc, List.dropLast_concat, Path.below]
    obtain ⟨hplace, hdir⟩ := hname.entered.place hs hd hdir h.listed
    rw [spotBelow_below]
    exact
      { path := by rw [hparent, Path.child, Path.below, Path.below, List.append_assoc]
        parent := by rw [hparent]; exact hplace
        directory := hdir
        isName := hs.isName hstands
        extension := hname.extension }
  · intro p hp p' hp' hspot
    obtain ⟨names, name, -, rfl⟩ := (h.mem_iff p).1 hp
    obtain ⟨names', name', -, rfl⟩ := (h.mem_iff p').1 hp'
    rw [spotBelow_below, spotBelow_below] at hspot
    obtain ⟨hnames, rfl⟩ := Prod.mk.inj hspot
    rw [List.append_cancel_left hnames]

/-- A run is about the target alone, or about configuration files at different places. -/
theorem discover_sits (hs : s.IsTree) (h : discover s target = .ok files) :
    files = [target] ∨ ∃ spots, List.Forall₂ (Sits s) files spots ∧ spots.Nodup := by
  cases hstat : s.stat target with
  | error r =>
      rw [discover, hstat] at h
      cases h
  | ok e =>
      cases e with
      | file | link =>
          rw [discover, hstat] at h
          exact .inl (Except.ok.inj h).symm
      | directory mode =>
          obtain ⟨d, hd, hentry, hwalked⟩ := discover_walked hs.isLawful hstat
          rw [h] at hwalked
          cases hwalked with
          | complete hfiles =>
              exact .inr (hfiles.sits hs.isLawful hd (by rw [directory?_eq_some.2 hentry]; rfl))

end JujuMigration
