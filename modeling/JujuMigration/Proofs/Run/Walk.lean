import Mathlib.Data.Char
import Mathlib.Data.List.Lex
import Mathlib.Data.List.Nodup
import JujuMigration.Proofs.Store.Operations
import JujuMigration.Run.Discovery
/-! What a walk through directories comes to. It finds the configuration files below its target, each of them once,
and no other path; or there is a directory on its way that cannot be listed, and then it finds nothing. -/

namespace JujuMigration

open Store

/-- The path with these names behind it. -/
def Path.below (p : Path) (names : List Text) : Path := { p with parts := p.parts ++ names }

/-- The entries are at different places, and their names are names. -/
structure Store.IsLawful (s : Store) : Prop where
  distinct : (s.entries.map Prod.fst).Nodup
  names : ∀ x ∈ s.entries, ∀ part ∈ x.1, IsName part

instance (part : Text) : Decidable (IsName part) :=
  decidable_of_iff (part ≠ [] ∧ part ≠ ['.'] ∧ part ≠ ['.', '.'])
    ⟨fun h => ⟨h.1, h.2.1, h.2.2⟩, fun h => ⟨h.ne_nil, h.ne_here, h.ne_above⟩⟩

/-- The names lead from a place through directories, by no link and through no directory of cached modules. -/
inductive Entered (s : Store) : Place → List Text → Prop
  | here {d : Place} : Entered s d []
  | into {d : Place} {name : Text} {names : List Text} {mode : FileMode}
      (hentry : s.entry? (d ++ [name]) = some (.directory mode)) (hname : name ≠ Discovery.cacheDirectory)
      (rest : Entered s (d ++ [name]) names) : Entered s d (name :: names)

/-- A configuration file below a target, which is at the place `d`: the directories between them, and its name. -/
structure Found (s : Store) (target : Path) (d : Place) (names : List Text) (name : Text) : Prop where
  entered : Entered s d names
  stands : ∃ e, s.entry? (d ++ names ++ [name]) = some e ∧ (∀ mode, e ≠ .directory mode) ∧
    ∀ text, e = .link text → s.isDirectory (target.below (names ++ [name])) = false
  extension : Discovery.extension <:+ name
  unmarked : ¬Discovery.upgradedMark <:+: (target.below (names ++ [name])).toText

/-- The files are those below a target, which is at the place `d`, and every directory on the way can be listed. -/
structure Complete (s : Store) (target : Path) (d : Place) (files : List Path) : Prop where
  listed : ∀ names, Entered s d names → ∃ entries, s.list (target.below names) = .ok entries
  nodup : files.Nodup
  mem_iff : ∀ p, p ∈ files ↔ ∃ names name, Found s target d names name ∧ p = target.below (names ++ [name])

/-- What a walk from a target at the place `d` comes to; a message shows the target as `shown`. -/
inductive Walked (s : Store) (target : Path) (d : Place) (shown : Text) : Except DiscoveryError (List Path) → Prop
  | refused {names : List Text} {r : Refusal} (hentered : Entered s d names)
      (hlist : s.list (target.below names) = .error r) :
      Walked s target d shown (.error (.directory r (names.foldl Discovery.shownChild shown)))
  | complete {files : List Path} (h : Complete s target d files) : Walked s target d shown (.ok files)

variable {s : Store} {d q : Place} {e : Entry} {name : Text} {names : List Text} {directory target p : Path}
  {files : List Path} {shown : Text}

/-! ### Paths and places -/

namespace Path

theorem below_nil (p : Path) : p.below [] = p := by rw [below, List.append_nil]

theorem below_cons (p : Path) (name : Text) (names : List Text) :
    p.below (name :: names) = (p.child name).below names := by
  rw [below, below, child, List.append_assoc, List.singleton_append]

theorem below_injective (p : Path) : Function.Injective p.below :=
  fun _ _ h => List.append_cancel_left (congrArg parts h)

theorem child_eq_below (p : Path) (name : Text) : p.child name = p.below [name] := rfl

end Path

theorem Text.contains_eq_true {p t : Text} : Text.contains p t = true ↔ p <:+: t := by
  induction t with
  | nil => rw [contains, List.isEmpty_iff, List.infix_nil]
  | cons c t ih => rw [contains, Bool.or_eq_true, List.isPrefixOf_iff_prefix, ih, List.infix_cons_iff]

theorem Text.sortsUpTo_iff {a b : Text} : a.sortsUpTo b = true ↔ a ≤ b := by
  rw [← not_lt]
  induction a generalizing b with
  | nil => simp [sortsUpTo]
  | cons c a ih =>
      cases b with
      | nil => simp [sortsUpTo]
      | cons d b =>
          have hless : c.toNat < d.toNat ↔ c < d := Iff.rfl
          rw [List.cons_lt_cons_iff, sortsUpTo, Bool.or_eq_true, Bool.and_eq_true, ih, decide_eq_true_iff, hless,
            beq_iff_eq]
          rcases lt_trichotomy c d with h | h | h
          · simp [h, h.not_gt, h.ne']
          · simp [h]
          · simp [h, h.not_gt, h.ne']

namespace Store

theorem mem_of_lookup (h : s.entry? q = some e) : (q, e) ∈ s.entries := by
  obtain ⟨front, back, hentries, -⟩ := List.lookup_eq_some_iff.1 h
  rw [hentries]
  exact List.mem_append_right _ List.mem_cons_self

theorem IsLawful.entry?_eq_some (h : s.IsLawful) : s.entry? q = some e ↔ (q, e) ∈ s.entries := by
  refine ⟨mem_of_lookup, fun hmem => ?_⟩
  obtain ⟨e', he'⟩ : ∃ e', s.entry? q = some e' := by
    rw [← Option.ne_none_iff_exists', entry?, ne_eq, List.lookup_eq_none_iff]
    intro hall
    simpa using hall _ hmem
  have hsame := List.inj_on_of_nodup_map h.distinct (mem_of_lookup he') hmem rfl
  rw [he', (Prod.mk.inj hsame).2]

theorem IsLawful.isName (h : s.IsLawful) (hentry : s.entry? (d ++ [name]) = some e) : IsName name :=
  h.names _ (mem_of_lookup hentry) name (List.mem_append_right _ List.mem_cons_self)

theorem childName?_eq_some : childName? d q = some name ↔ q = d ++ [name] := by
  unfold childName?
  constructor
  · intro h
    split at h
    · next hd =>
        obtain ⟨front, rfl⟩ := List.getLast?_eq_some_iff.1 h
        rw [← hd, List.dropLast_concat]
    · cases h
  · rintro rfl
    rw [if_pos List.dropLast_concat, List.getLast?_concat]

theorem IsLawful.mem_children (h : s.IsLawful) : (name, e) ∈ s.children d ↔ s.entry? (d ++ [name]) = some e := by
  rw [children, List.mem_mergeSort, List.mem_filterMap, h.entry?_eq_some]
  constructor
  · rintro ⟨⟨q, e'⟩, hmem, h⟩
    obtain ⟨name', hname, h⟩ := Option.map_eq_some_iff.1 h
    obtain ⟨rfl, rfl⟩ := Prod.mk.inj h
    rwa [← childName?_eq_some.1 hname]
  · intro hmem
    refine ⟨(d ++ [name], e), hmem, ?_⟩
    dsimp only
    rw [childName?_eq_some.2 rfl, Option.map_some]

/-- No name stands twice in a directory. -/
theorem IsLawful.nodup_children (h : s.IsLawful) (d : Place) : ((s.children d).map Prod.fst).Nodup := by
  rw [children, (List.Perm.map Prod.fst (List.mergeSort_perm _ _)).nodup_iff, List.map_filterMap]
  refine List.Nodup.of_map (fun name => d ++ [name]) ?_
  refine List.Nodup.sublist ?_ h.distinct
  rw [List.map_filterMap]
  induction s.entries with
  | nil => exact List.Sublist.slnil
  | cons x entries ih =>
      rw [List.map_cons, List.filterMap_cons]
      split
      · exact ih.cons _
      · next q hq =>
          simp only [Option.map_eq_some_iff] at hq
          obtain ⟨name, ⟨⟨name', e⟩, ⟨name'', hname, hpair⟩, rfl⟩, rfl⟩ := hq
          obtain ⟨rfl, rfl⟩ := Prod.mk.inj hpair
          rw [← childName?_eq_some.1 hname]
          exact ih.cons_cons _

theorem IsLawful.pairwise_children (hs : s.IsLawful) (d : Place) :
    (s.children d).Pairwise fun x y => x.1 < y.1 := by
  have hsorted : (s.children d).Pairwise fun x y => Text.sortsUpTo x.1 y.1 = true := by
    refine List.pairwise_mergeSort (fun x y z hxy hyz => ?_) (fun x y => ?_) _
    · exact Text.sortsUpTo_iff.2 (le_trans (Text.sortsUpTo_iff.1 hxy) (Text.sortsUpTo_iff.1 hyz))
    · rw [Bool.or_eq_true, Text.sortsUpTo_iff, Text.sortsUpTo_iff]
      exact le_total x.1 y.1
  exact (hsorted.and (List.pairwise_map.1 (hs.nodup_children d))).imp fun ⟨hle, hne⟩ =>
    lt_of_le_of_ne (Text.sortsUpTo_iff.1 hle) hne

/-- A directory that can be read lists its entries in order. -/
theorem IsLawful.list_eq (h : s.IsLawful) {p : Path} {mode : FileMode} {entries : List (Text × Entry)}
    (hplace : s.place .target p = .ok d) (hentry : s.entry? d = some (.directory mode))
    (hread : s.allows mode .read = true) (hsorted : entries.Pairwise fun x y => x.1 < y.1)
    (hperm : (s.entries.filterMap fun (place, e) => (childName? d place).map (·, e)).Perm entries) :
    s.list p = .ok entries := by
  have hchildren : s.children d = entries :=
    List.Perm.eq_of_pairwise (fun x y _ _ hxy hyx => absurd hxy (lt_asymm hyx)) (h.pairwise_children d) hsorted
      ((List.mergeSort_perm _ _).trans hperm)
  simp only [list, hplace, hentry, hread, hchildren, bind, Except.bind, if_true]

theorem IsLawful.nodup_filter (h : s.IsLawful) (d : Place) (choose : Text × Entry → Bool) :
    (((s.children d).filter choose).map Prod.fst).Nodup :=
  (h.nodup_children d).sublist (List.filter_sublist.map Prod.fst)

theorem list_eq_ok {entries : List (Text × Entry)} (h : s.list directory = .ok entries) :
    ∃ d, s.place .target directory = .ok d ∧ entries = s.children d := by
  unfold list at h
  cases hplace : s.place .target directory with
  | error r => simp [bind, Except.bind, hplace] at h
  | ok d =>
      simp only [bind, Except.bind, hplace] at h
      split at h
      · split at h
        · exact ⟨d, rfl, (Except.ok.inj h).symm⟩
        · cases h
      · cases h
      · cases h

/-- A name in a directory leads to the directory of that name. -/
theorem IsLawful.place_child (hs : s.IsLawful) {mode : FileMode} (hd : s.place .target directory = .ok d)
    (hentry : s.entry? (d ++ [name]) = some (.directory mode)) (hq : s.place .target (directory.child name) = .ok q) :
    q = d ++ [name] := by
  obtain ⟨m, rest, hm, hname⟩ := (place_eq_ok.1 hq).2.split directory.parts (List.cons_ne_nil name [])
  obtain rfl := hm.unique (place_eq_ok.1 hd).2
  exact hname.of_directory (hs.isName hentry) (wayAt?_directory.2 ⟨mode, hentry, rfl⟩)

end Store

/-- There are more levels than names in the place of an entry. -/
theorem Discovery.length_lt_depth (h : s.entry? q ≠ none) : q.length < depth s := by
  obtain ⟨e, he⟩ := Option.ne_none_iff_exists'.1 h
  have hmem := mem_of_lookup he
  have hle (entries : List (Place × Entry)) (n : Nat) : n ≤ entries.foldl (fun n e => max n e.1.length) n := by
    induction entries generalizing n with
    | nil => exact Nat.le_refl n
    | cons x entries ih => exact Nat.le_trans (Nat.le_max_left n _) (ih _)
  rw [depth, Nat.lt_succ_iff]
  generalize s.entries = entries at hmem
  generalize 0 = n
  induction entries generalizing n with
  | nil => cases hmem
  | cons x entries ih =>
      rcases List.mem_cons.1 hmem with rfl | hmem
      · exact Nat.le_trans (Nat.le_max_right n _) (hle entries _)
      · exact ih hmem _

/-! ### Files in a directory and below it -/

namespace Found

/-- The files directly in a directory. -/
theorem nil_iff (hs : s.IsLawful) : Found s directory d [] name ↔ ∃ e, (name, e) ∈ s.children d ∧
    (!Discovery.leadsToDirectory s directory (name, e) && Discovery.isWanted directory name) = true := by
  have hwanted : Discovery.isWanted directory name = true ↔ Discovery.extension <:+ name ∧
      ¬Discovery.upgradedMark <:+: (directory.child name).toText := by
    rw [Discovery.isWanted, Bool.and_eq_true, List.isSuffixOf_iff_suffix, Bool.not_eq_true', ← Bool.not_eq_true,
      Text.contains_eq_true]
  have hleads (e : Entry) : Discovery.leadsToDirectory s directory (name, e) = false ↔
      (∀ mode, e ≠ .directory mode) ∧ ∀ text, e = .link text → s.isDirectory (directory.child name) = false := by
    cases e <;> simp [Discovery.leadsToDirectory]
  constructor
  · rintro ⟨-, ⟨e, hentry, hstands⟩, hextension, hmark⟩
    rw [List.append_nil] at hentry
    refine ⟨e, hs.mem_children.2 hentry, ?_⟩
    rw [Bool.and_eq_true, Bool.not_eq_true']
    exact ⟨(hleads e).2 hstands, hwanted.2 ⟨hextension, hmark⟩⟩
  · rintro ⟨e, hmem, htaken⟩
    rw [Bool.and_eq_true, Bool.not_eq_true'] at htaken
    obtain ⟨hextension, hmark⟩ := hwanted.1 htaken.2
    refine ⟨.here, ⟨e, ?_, (hleads e).1 htaken.1⟩, hextension, hmark⟩
    rw [List.append_nil]
    exact hs.mem_children.1 hmem

/-- The files below a directory in the directory. -/
theorem cons_iff {inner : Text} : Found s directory d (inner :: names) name ↔ inner ≠ Discovery.cacheDirectory ∧
    (∃ mode, s.entry? (d ++ [inner]) = some (.directory mode)) ∧
      Found s (directory.child inner) (d ++ [inner]) names name := by
  have hpath : directory.below (inner :: names ++ [name]) = (directory.child inner).below (names ++ [name]) :=
    directory.below_cons inner (names ++ [name])
  have hplace : d ++ inner :: names = d ++ [inner] ++ names := List.append_cons ..
  constructor
  · rintro ⟨hentered, hstands, hextension, hmark⟩
    rw [hpath] at hstands hmark
    rw [hplace] at hstands
    cases hentered with
    | into hentry hname rest => exact ⟨hname, ⟨_, hentry⟩, rest, hstands, hextension, hmark⟩
  · rintro ⟨hname, ⟨mode, hentry⟩, hentered, hstands, hextension, hmark⟩
    rw [← hpath] at hstands hmark
    rw [← hplace] at hstands
    exact ⟨.into hentry hname hentered, hstands, hextension, hmark⟩

end Found

section

variable {ε α β : Type} {f : α → Except ε β} {xs : List α}

theorem mapM_eq_ok {ys : List β} (h : xs.mapM f = .ok ys) : xs.map f = ys.map .ok := by
  induction xs generalizing ys with
  | nil =>
      obtain rfl := Except.ok.inj h
      rfl
  | cons x xs ih =>
      rw [List.mapM_cons] at h
      cases hx : f x with
      | error e => simp [bind, Except.bind, hx] at h
      | ok y =>
          cases hxs : xs.mapM f with
          | error e => simp [bind, Except.bind, hx, hxs] at h
          | ok zs =>
              simp only [bind, Except.bind, hx, hxs, pure, Except.pure] at h
              obtain rfl := Except.ok.inj h
              rw [List.map_cons, List.map_cons, hx, ih hxs]

theorem mapM_eq_error {e : ε} (h : xs.mapM f = .error e) : ∃ x ∈ xs, f x = .error e := by
  induction xs with
  | nil => cases h
  | cons x xs ih =>
      rw [List.mapM_cons] at h
      cases hx : f x with
      | error e' =>
          simp only [bind, Except.bind, hx] at h
          obtain rfl := Except.error.inj h
          exact ⟨x, List.mem_cons_self, hx⟩
      | ok y =>
          cases hxs : xs.mapM f with
          | error e' =>
              simp only [bind, Except.bind, hx, hxs] at h
              obtain ⟨z, hz, hfz⟩ := ih (hxs.trans h)
              exact ⟨z, List.mem_cons_of_mem x hz, hfz⟩
          | ok zs => simp [bind, Except.bind, hx, hxs, pure, Except.pure] at h

end

/-- The names of the directories that are entered. -/
theorem Store.IsLawful.mem_entered (hs : s.IsLawful) {x : Text × Entry} :
    x ∈ (s.children d).filter Discovery.isEntered ↔ x.1 ≠ Discovery.cacheDirectory ∧
      ∃ mode, x.2 = .directory mode ∧ s.entry? (d ++ [x.1]) = some (.directory mode) := by
  obtain ⟨name, e⟩ := x
  rw [List.mem_filter, hs.mem_children]
  cases e <;> simp [Discovery.isEntered, and_comm]

/-- The files directly in a directory. -/
def filesIn (s : Store) (directory : Path) (d : Place) : List Path :=
  ((s.children d).filter fun e => !Discovery.leadsToDirectory s directory e && Discovery.isWanted directory e.1).map
    fun e => directory.child e.1

theorem mem_filesIn (hs : s.IsLawful) :
    p ∈ filesIn s directory d ↔ ∃ name, Found s directory d [] name ∧ p = directory.child name := by
  simp only [filesIn, List.mem_map, List.mem_filter, Found.nil_iff hs]
  constructor
  · rintro ⟨⟨name, e⟩, htaken, rfl⟩
    exact ⟨name, ⟨e, htaken⟩, rfl⟩
  · rintro ⟨name, ⟨e, htaken⟩, rfl⟩
    exact ⟨(name, e), htaken, rfl⟩

theorem nodup_filesIn (hs : s.IsLawful) : (filesIn s directory d).Nodup := by
  rw [filesIn, show (fun e : Text × Entry => directory.child e.1) = (directory.below [·]) ∘ Prod.fst from rfl,
    ← List.map_map]
  exact (hs.nodup_filter d _).map fun _ _ h => List.singleton_inj.1 (directory.below_injective h)

namespace Complete

variable {inner : List (List Path)} {walk : Text × Entry → Except DiscoveryError (List Path)}

/-- What is found in different directories of one directory is different. -/
theorem disjoint {name' : Text} {files' : List Path} (hname : name ≠ name')
    (h : Complete s (directory.child name) d files) (h' : Complete s (directory.child name') q files') :
    files.Disjoint files' := by
  intro p hp hp'
  obtain ⟨names, last, -, rfl⟩ := (h.mem_iff p).1 hp
  obtain ⟨names', last', -, heq⟩ := (h'.mem_iff _).1 hp'
  rw [← Path.below_cons, ← Path.below_cons] at heq
  exact hname (List.cons.inj (directory.below_injective heq)).1

/-- A walk puts together the files directly in a directory and those that walks from the directories in it find. -/
theorem of_inner (hs : s.IsLawful) (hlist : s.list directory = .ok (s.children d))
    (hinner : ((s.children d).filter Discovery.isEntered).map walk = inner.map .ok)
    (hall : ∀ x ∈ (s.children d).filter Discovery.isEntered, ∀ files, walk x = .ok files →
      Complete s (directory.child x.1) (d ++ [x.1]) files) :
    Complete s directory d (filesIn s directory d ++ inner.flatten) := by
  have hfound : ∀ x ∈ (s.children d).filter Discovery.isEntered, ∃ files ∈ inner,
      Complete s (directory.child x.1) (d ++ [x.1]) files := by
    intro x hx
    obtain ⟨files, hfiles, hwalk⟩ := List.mem_map.1 (hinner ▸ List.mem_map_of_mem hx)
    exact ⟨files, hfiles, hall x hx files hwalk.symm⟩
  have hfrom : ∀ files ∈ inner, ∃ x ∈ (s.children d).filter Discovery.isEntered,
      Complete s (directory.child x.1) (d ++ [x.1]) files := by
    intro files hfiles
    obtain ⟨x, hx, hwalk⟩ := List.mem_map.1 (hinner.symm ▸ List.mem_map_of_mem (f := Except.ok) hfiles)
    exact ⟨x, hx, hall x hx files hwalk⟩
  refine ⟨?_, List.nodup_append'.2 ⟨nodup_filesIn hs, List.nodup_flatten.2 ⟨?_, ?_⟩, ?_⟩, fun p => ?_⟩
  · intro names hentered
    cases hentered with
    | here => exact ⟨_, by rwa [Path.below_nil]⟩
    | @into _ name names mode hentry hname rest =>
        obtain ⟨files, -, hfiles⟩ := hfound (name, .directory mode) (hs.mem_entered.2 ⟨hname, mode, rfl, hentry⟩)
        rw [Path.below_cons]
        exact hfiles.listed names rest
  · intro files hfiles
    obtain ⟨x, -, hx⟩ := hfrom files hfiles
    exact hx.nodup
  · have hnames := List.pairwise_map.1 (hs.nodup_filter d Discovery.isEntered)
    have hwalks : (((s.children d).filter Discovery.isEntered).map walk).Pairwise fun x y =>
        ∀ files files', x = .ok files → y = .ok files' → files.Disjoint files' :=
      List.pairwise_map.2 <| hnames.imp_of_mem fun hx hy hne files files' hfiles hfiles' =>
        (hall _ hx files hfiles).disjoint hne (hall _ hy files' hfiles')
    rw [hinner, List.pairwise_map] at hwalks
    exact hwalks.imp fun h => h _ _ rfl rfl
  · intro p hp hp'
    obtain ⟨name, -, rfl⟩ := (mem_filesIn hs).1 hp
    obtain ⟨files, hfiles, hp'⟩ := List.mem_flatten.1 hp'
    obtain ⟨x, -, hx⟩ := hfrom files hfiles
    obtain ⟨names, last, -, heq⟩ := (hx.mem_iff _).1 hp'
    rw [← Path.below_cons, Path.child_eq_below] at heq
    simpa using (List.cons.inj (directory.below_injective heq)).2
  · rw [List.mem_append, mem_filesIn hs, List.mem_flatten]
    constructor
    · rintro (⟨name, hname, rfl⟩ | ⟨files, hfiles, hp⟩)
      · exact ⟨[], name, hname, rfl⟩
      · obtain ⟨x, hmem, hx⟩ := hfrom files hfiles
        obtain ⟨names, name, hname, rfl⟩ := (hx.mem_iff p).1 hp
        obtain ⟨hcache, mode, -, hentry⟩ := hs.mem_entered.1 hmem
        exact ⟨x.1 :: names, name, Found.cons_iff.2 ⟨hcache, ⟨mode, hentry⟩, hname⟩, (directory.below_cons ..).symm⟩
    · rintro ⟨_ | ⟨first, names⟩, name, hname, rfl⟩
      · exact .inl ⟨name, hname, rfl⟩
      · obtain ⟨hcache, ⟨mode, hentry⟩, hname⟩ := Found.cons_iff.1 hname
        obtain ⟨files, hfiles, hx⟩ := hfound (first, .directory mode) (hs.mem_entered.2 ⟨hcache, mode, rfl, hentry⟩)
        exact .inr ⟨files, hfiles, (hx.mem_iff _).2 ⟨names, name, hname, directory.below_cons ..⟩⟩

end Complete

/-- With levels enough for every entry below the directory. -/
theorem filesBelow_walked (hs : s.IsLawful) {depth : Nat} (hplace : ∀ q, s.place .target directory = .ok q → q = d)
    (hthere : s.entry? d ≠ none) (hdepth : ∀ q, s.entry? q ≠ none → q.length < d.length + depth) :
    Walked s directory d shown (Discovery.filesBelow s depth shown directory) := by
  induction depth generalizing shown directory d with
  | zero => exact absurd (hdepth d hthere) (Nat.lt_irrefl _)
  | succ depth ih =>
      rw [Discovery.filesBelow]
      cases hlist : s.list directory with
      | error r =>
          have hbelow : s.list (directory.below []) = .error r := by rwa [Path.below_nil]
          exact .refused .here hbelow
      | ok entries =>
          obtain ⟨d', hd, rfl⟩ := list_eq_ok hlist
          obtain rfl := hplace d' hd
          have hwalked : ∀ x ∈ (s.children d').filter Discovery.isEntered,
              Walked s (directory.child x.1) (d' ++ [x.1]) (Discovery.shownChild shown x.1)
                (Discovery.filesBelow s depth (Discovery.shownChild shown x.1) (directory.child x.1)) := by
            intro x hx
            obtain ⟨-, mode, -, hentry⟩ := hs.mem_entered.1 hx
            refine ih (fun q hq => hs.place_child hd hentry hq) (by simp [hentry]) fun q hq => ?_
            have := hdepth q hq
            rw [List.length_append, List.length_singleton]
            omega
          dsimp only
          cases hinner : ((s.children d').filter Discovery.isEntered).mapM fun e =>
              Discovery.filesBelow s depth (Discovery.shownChild shown e.1) (directory.child e.1) with
          | error e =>
              obtain ⟨x, hx, hrefused⟩ := mapM_eq_error hinner
              obtain ⟨hcache, mode, -, hentry⟩ := hs.mem_entered.1 hx
              have hwalk := hwalked x hx
              rw [hrefused] at hwalk
              cases hwalk with
              | @refused names r hentered hlist =>
                  have hbelow : s.list (directory.below (x.1 :: names)) = .error r := by rwa [Path.below_cons]
                  exact .refused (.into hentry hcache hentered) hbelow
          | ok inner =>
              refine .complete (Complete.of_inner hs hlist (mapM_eq_ok hinner) fun x hx files hfiles => ?_)
              have hwalk := hwalked x hx
              rw [hfiles] at hwalk
              cases hwalk with
              | complete h => exact h

/-- What a walk finds where one directory is entered and no other below that. -/
theorem discover_entering {mode : FileMode} {entries inner : List (Text × Entry)} {x : Text × Entry}
    (hstat : s.stat target = .ok (.directory mode)) (hlist : s.list target = .ok entries)
    (hx : entries.filter Discovery.isEntered = [x]) (hinner : s.list (target.child x.1) = .ok inner)
    (hflat : inner.filter Discovery.isEntered = []) (hdepth : 2 ≤ Discovery.depth s) :
    let wanted (p : Path) (entries : List (Text × Entry)) : List Path := (entries.filter fun e =>
      !Discovery.leadsToDirectory s p e && Discovery.isWanted p e.1).map fun e => p.child e.1
    discover s target = .ok (wanted target entries ++ wanted (target.child x.1) inner) := by
  intro wanted
  obtain ⟨n, hn⟩ := Nat.exists_eq_add_of_le' hdepth
  have hbelow (shown : Text) : Discovery.filesBelow s (n + 1) shown (target.child x.1) =
      .ok (wanted (target.child x.1) inner) := by
    rw [Discovery.filesBelow, hinner]
    simp only [hflat]
    exact congrArg Except.ok (List.append_nil _)
  rw [discover, hstat, hn]
  simp only [Discovery.filesBelow, hlist, hx, List.mapM_cons, List.mapM_nil]
  rw [← Discovery.filesBelow, hbelow]
  exact congrArg (fun files => Except.ok (wanted target entries ++ files)) (List.append_nil _)

theorem discover_walked (hs : s.IsLawful) {mode : FileMode} (hstat : s.stat target = .ok (.directory mode)) :
    ∃ d, s.place .target target = .ok d ∧ s.entry? d = some (.directory mode) ∧
      Walked s target d target.toText (discover s target) := by
  obtain ⟨d, hd, hentry⟩ := stat_eq_ok.1 hstat
  refine ⟨d, hd, hentry, ?_⟩
  rw [discover, hstat]
  exact filesBelow_walked hs (fun q hq => Except.ok.inj (hq.symm.trans hd)) (by simp [hentry])
    fun q hq => Nat.lt_add_left _ (Discovery.length_lt_depth hq)

/-- Discovery is exact. A target that leads to nothing is refused, as no path only if it has a NUL; one that is no
directory is what a run is about; and a walk from a directory finds what is below it. -/
theorem discover_exact (hs : s.IsLawful) (target : Path) :
    (∀ r, s.stat target = .error r → discover s target = .error (.target r target.toText)) ∧
      ((∃ e, discover s target = .error e ∧ e.isMalformed = true) ↔ ∃ part ∈ target.parts, '\x00' ∈ part) ∧
      (∀ e, s.stat target = .ok e → (∀ mode, e ≠ .directory mode) → discover s target = .ok [target]) ∧
      ∀ mode, s.stat target = .ok (.directory mode) → ∃ d, s.place .target target = .ok d ∧
        s.entry? d = some (.directory mode) ∧ Walked s target d target.toText (discover s target) := by
  have hrefused : ∀ r, s.stat target = .error r → discover s target = .error (.target r target.toText) := by
    intro r hstat
    rw [discover, hstat]
  have hfile : ∀ e, s.stat target = .ok e → (∀ mode, e ≠ .directory mode) → discover s target = .ok [target] := by
    intro e hstat hfile
    rw [discover, hstat]
    cases e with
    | directory mode => exact absurd rfl (hfile mode)
    | file | link => rfl
  refine ⟨hrefused, ⟨?_, fun hnul => ?_⟩, hfile, fun _ => discover_walked hs⟩
  · rintro ⟨e, he, hmalformed⟩
    cases hstat : s.stat target with
    | error r =>
        rw [hrefused r hstat] at he
        obtain rfl := Except.error.inj he
        obtain rfl : r = .nulByte := of_decide_eq_true hmalformed
        exact stat_eq_nulByte.1 hstat
    | ok entry =>
        cases entry with
        | directory mode =>
            obtain ⟨d, -, -, hwalked⟩ := discover_walked hs hstat
            rw [he] at hwalked
            cases hwalked with
            | refused => cases hmalformed
        | file | link => cases (hfile _ hstat nofun).symm.trans he
  · exact ⟨_, hrefused _ (stat_eq_nulByte.2 hnul), rfl⟩

/-- Links to a file and to nothing, one to a directory that is a file's name too, cached modules, and a file that a run
has written under another name. -/
def mixedStore : Store where
  entries :=
    [([], .directory 0o755), (["b.tf".toList], .file 0o644 []), (["up".toList], .directory 0o755),
      (["up".toList, "a.tf".toList], .link "../none".toList), (["up".toList, "a_upgraded.tf".toList], .file 0o644 []),
      (["d.tf".toList], .link "up".toList), ([".terraform".toList], .directory 0o000),
      ([".terraform".toList, "c.tf".toList], .file 0o644 [])]
  user := { home := [] }

theorem isLawful_mixedStore : mixedStore.IsLawful where
  distinct := by decide
  names := by decide

theorem discover_mixedStore : discover mixedStore ⟨false, []⟩ =
    .ok [⟨false, ["b.tf".toList]⟩, ⟨false, ["up".toList, "a.tf".toList]⟩] := by
  have hroot : mixedStore.list ⟨false, []⟩ = .ok [(".terraform".toList, .directory 0o000),
      ("b.tf".toList, .file 0o644 []), ("d.tf".toList, .link "up".toList), ("up".toList, .directory 0o755)] :=
    isLawful_mixedStore.list_eq (d := []) (by decide +kernel) rfl (by decide) (by decide) (by decide)
  have hup : mixedStore.list ⟨false, ["up".toList]⟩ = .ok [("a.tf".toList, .link "../none".toList),
      ("a_upgraded.tf".toList, .file 0o644 [])] :=
    isLawful_mixedStore.list_eq (d := ["up".toList]) (by decide +kernel) rfl (by decide) (by decide) (by decide)
  have hstat : mixedStore.stat ⟨false, []⟩ = .ok (.directory 0o755) := by decide +kernel
  exact discover_entering (x := ("up".toList, .directory 0o755)) hstat hroot (by decide) hup (by decide)
    (by decide)

theorem discover_exact_mixed : ∃ files, discover mixedStore ⟨false, []⟩ = .ok files ∧
    Complete mixedStore ⟨false, []⟩ [] files ∧
      files = [⟨false, ["b.tf".toList]⟩, ⟨false, ["up".toList, "a.tf".toList]⟩] := by
  obtain ⟨-, -, -, hdirectory⟩ := discover_exact isLawful_mixedStore ⟨false, []⟩
  obtain ⟨d, hd, -, hwalked⟩ := hdirectory 0o755 (by decide +kernel)
  obtain rfl : [] = d := Except.ok.inj hd
  rw [discover_mixedStore] at hwalked
  cases hwalked with
  | complete h => exact ⟨_, discover_mixedStore, h, rfl⟩

/-- A target with a NUL cannot be looked at either, but it is refused as no path. -/
theorem discover_malformed :
    (∃ r, mixedStore.stat ⟨false, [['a', '\x00', 'b']]⟩ = .error r) ∧
      ¬∃ e, discover mixedStore ⟨false, [['a', '\x00', 'b']]⟩ = .error e ∧ e.isMalformed = false := by
  have hstat : mixedStore.stat ⟨false, [['a', '\x00', 'b']]⟩ = .error .nulByte := rfl
  refine ⟨⟨_, hstat⟩, ?_⟩
  rintro ⟨e, he, hmalformed⟩
  rw [discover, hstat] at he
  obtain rfl := Except.error.inj he
  cases hmalformed

end JujuMigration
