import Mathlib.Order.MinMax
import JujuMigration.Proofs.Run.Reports
import JujuMigration.Proofs.Run.Walk
/-! The order of the files that are found. A walk lists the files of a directory by their names, and behind all of them,
directory by directory, the files below it. That is the order of their paths if and only if no file has a name behind
the name of a directory beside it, below which a file is found. -/

namespace JujuMigration

open Store

/-! ### The order of a walk -/

/-- The order of files by the names that lead to them: a file of a directory is in front of those below the directories
in it, and otherwise the first names that differ decide. -/
inductive WalksBefore : List Text → List Text → Prop
  | file {a b : Text} (h : a < b) : WalksBefore [a] [b]
  | above {a b : Text} {rest : List Text} (hrest : rest ≠ []) : WalksBefore [a] (b :: rest)
  | directory {a b : Text} {rest rest' : List Text} (hrest : rest ≠ []) (hrest' : rest' ≠ []) (h : a < b) :
      WalksBefore (a :: rest) (b :: rest')
  | inside {a : Text} {rest rest' : List Text} (h : WalksBefore rest rest') : WalksBefore (a :: rest) (a :: rest')

variable {a b rest : List Text} {names : List (List Text)} {name sub : Text}

theorem WalksBefore.ne_nil (h : WalksBefore a b) : a ≠ [] ∧ b ≠ [] := by
  cases h <;> exact ⟨List.cons_ne_nil _ _, List.cons_ne_nil _ _⟩

theorem WalksBefore.asymm (h : WalksBefore a b) : ¬WalksBefore b a := by
  induction h with
  | file h =>
      intro hback
      cases hback with
      | file h' => exact lt_asymm h h'
      | above hrest => exact hrest rfl
      | directory hrest => exact hrest rfl
      | inside h' => exact h'.ne_nil.1 rfl
  | above hrest =>
      intro hback
      cases hback with
      | file => exact hrest rfl
      | above hrest' => exact hrest' rfl
      | directory _ hrest' => exact hrest' rfl
      | inside h' => exact h'.ne_nil.2 rfl
  | directory hrest hrest' h =>
      intro hback
      cases hback with
      | file => exact hrest rfl
      | above => exact hrest' rfl
      | directory _ _ h' => exact lt_asymm h h'
      | inside => exact lt_irrefl _ h
  | inside h ih =>
      intro hback
      cases hback with
      | file => exact h.ne_nil.1 rfl
      | above => exact h.ne_nil.2 rfl
      | directory _ _ h' => exact lt_irrefl _ h'
      | inside h' => exact ih h'

/-- The walk and the order of paths part where a file has a name behind that of a directory beside it. -/
theorem WalksBefore.exists_fork (h : WalksBefore a b) (hnot : ¬a < b) :
    ∃ above name sub rest, a = above ++ [name] ∧ b = above ++ sub :: rest ∧ rest ≠ [] ∧ sub < name := by
  induction h with
  | file h => exact absurd (List.cons_lt_cons_iff.2 (.inl h)) hnot
  | @above a b rest hrest =>
      refine ⟨[], a, b, rest, rfl, rfl, hrest, ?_⟩
      rw [List.cons_lt_cons_iff, not_or, not_and] at hnot
      obtain ⟨d, rest, rfl⟩ := List.exists_cons_of_ne_nil hrest
      have hne : a ≠ b := fun heq => hnot.2 heq (List.nil_lt_cons d rest)
      exact lt_of_le_of_ne (not_lt.1 hnot.1) hne.symm
  | directory _ _ h => exact absurd (List.cons_lt_cons_iff.2 (.inl h)) hnot
  | @inside a rest rest' _ ih =>
      obtain ⟨above, name, sub, behind, rfl, rfl, hbehind, hless⟩ :=
        ih fun h => hnot (List.cons_lt_cons_iff.2 (.inr ⟨rfl, h⟩))
      exact ⟨a :: above, name, sub, behind, rfl, rfl, hbehind, hless⟩

theorem walksBefore_fork (above : List Text) (hrest : rest ≠ []) :
    WalksBefore (above ++ [name]) (above ++ sub :: rest) := by
  induction above with
  | nil => exact .above hrest
  | cons a above ih => exact .inside ih

theorem le_of_fork {above : List Text} (h : above ++ [name] < above ++ sub :: rest) : name ≤ sub := by
  induction above with
  | nil =>
      rcases List.cons_lt_cons_iff.1 h with hless | ⟨heq, -⟩
      · exact le_of_lt hless
      · exact le_of_eq heq
  | cons a above ih =>
      rcases List.cons_lt_cons_iff.1 h with hless | ⟨-, h⟩
      · exact absurd hless (lt_irrefl a)
      · exact ih h

/-- Names in the order of a walk are in the order of paths if and only if no file has a name behind that of a directory
beside it. -/
theorem pairwise_lt_iff (h : names.Pairwise WalksBefore) : names.Pairwise (· < ·) ↔
    ∀ above name sub rest, above ++ [name] ∈ names → above ++ sub :: rest ∈ names → rest ≠ [] → name ≤ sub := by
  constructor
  · intro hsorted above name sub rest hfile hbelow hrest
    -- Of two entries the one that walks before the other stands in front of it, so it has the lesser path.
    have hless : names.Pairwise fun a b => WalksBefore a b → a < b := by
      refine hsorted.imp ?_
      intro a b hab _
      exact hab
    have hnever : names.Pairwise fun a b => WalksBefore b a → b < a := by
      refine h.imp ?_
      intro a b hab hba
      exact absurd hba hab.asymm
    have hall := hless.forall_of_forall_of_flip (fun a _ haa => absurd haa haa.asymm) hnever
    exact le_of_fork (hall hfile hbelow (walksBefore_fork above hrest))
  · intro hnone
    refine h.imp_of_mem fun {a b} ha hb hwalk => ?_
    by_contra hnot
    obtain ⟨above, name, sub, rest, rfl, rfl, hrest, hless⟩ := hwalk.exists_fork hnot
    exact absurd (hnone above name sub rest ha hb hrest) (not_le.2 hless)

/-! ### A walk lists files in its order -/

variable {s s' : Store} {d : Place} {directory target : Path} {files : List Path} {shown : Text}

/-- The files are listed in the order of a walk from the directory. -/
def Walks (directory : Path) (files : List Path) : Prop :=
  ∃ names : List (List Text), files = names.map directory.below ∧ names.Pairwise WalksBefore ∧ [] ∉ names

/-- Walks from directories in the order of their names are a walk behind files of the directory that holds them. -/
theorem exists_names_of_inner (directory : Path) {xs : List (Text × Entry)} {inner : List (List Path)}
    {walk : Text × Entry → Except DiscoveryError (List Path)} (hxs : xs.Pairwise fun x y => x.1 < y.1)
    (hinner : xs.map walk = inner.map .ok)
    (hall : ∀ x ∈ xs, ∀ files, walk x = .ok files → Walks (directory.child x.1) files) :
    ∃ names : List (List Text), inner.flatten = names.map directory.below ∧ names.Pairwise WalksBefore ∧
      ∀ n ∈ names, ∃ x ∈ xs, ∃ rest, rest ≠ [] ∧ n = x.1 :: rest := by
  induction xs generalizing inner with
  | nil =>
      obtain rfl : inner = [] := by simpa using hinner.symm
      exact ⟨[], rfl, .nil, nofun⟩
  | cons x xs ih =>
      cases inner with
      | nil => cases hinner
      | cons files inner =>
          obtain ⟨hwalk, hwalks⟩ := List.cons.inj hinner
          obtain ⟨hfirst, hbehind⟩ := List.pairwise_cons.1 hxs
          obtain ⟨own, rfl, hown, hne⟩ := hall x List.mem_cons_self files hwalk
          obtain ⟨names, hnames, hsorted, hcases⟩ := ih hbehind hwalks fun y hy =>
            hall y (List.mem_cons_of_mem x hy)
          have hnil : ∀ rest ∈ own, rest ≠ [] := fun rest hrest h => hne (h ▸ hrest)
          refine ⟨own.map (x.1 :: ·) ++ names, ?_, List.pairwise_append.2 ⟨?_, hsorted, ?_⟩, ?_⟩
          · rw [List.flatten_cons, hnames, List.map_append, List.map_map]
            refine congrArg (· ++ _) (List.map_congr_left fun n _ => ?_)
            exact (directory.below_cons x.1 n).symm
          · exact List.pairwise_map.2 (hown.imp .inside)
          · intro n hn n' hn'
            obtain ⟨rest, hrest, rfl⟩ := List.mem_map.1 hn
            obtain ⟨y, hy, rest', hrest', rfl⟩ := hcases n' hn'
            exact .directory (hnil rest hrest) hrest' (hfirst y hy)
          · intro n hn
            rcases List.mem_append.1 hn with hn | hn
            · obtain ⟨rest, hrest, rfl⟩ := List.mem_map.1 hn
              exact ⟨x, List.mem_cons_self, rest, hnil rest hrest, rfl⟩
            · obtain ⟨y, hy, hrest⟩ := hcases n hn
              exact ⟨y, List.mem_cons_of_mem x hy, hrest⟩

theorem filesBelow_walks (hs : s.IsLawful) {depth : Nat}
    (h : Discovery.filesBelow s depth shown directory = .ok files) : Walks directory files := by
  induction depth generalizing shown directory files with
  | zero =>
      obtain rfl := Except.ok.inj h
      exact ⟨[], rfl, .nil, List.not_mem_nil⟩
  | succ depth ih =>
      rw [Discovery.filesBelow] at h
      cases hlist : s.list directory with
      | error r =>
          rw [hlist] at h
          cases h
      | ok entries =>
          obtain ⟨d, -, rfl⟩ := list_eq_ok hlist
          rw [hlist] at h
          cases hinner : ((s.children d).filter Discovery.isEntered).mapM fun e =>
              Discovery.filesBelow s depth (Discovery.shownChild shown e.1) (directory.child e.1) with
          | error e =>
              simp only [hinner] at h
              cases h
          | ok inner =>
              simp only [hinner] at h
              obtain rfl := Except.ok.inj h
              have hsorted := hs.pairwise_children d
              obtain ⟨below, hbelow, hbelowSorted, hcases⟩ := exists_names_of_inner directory
                (hsorted.filter Discovery.isEntered) (mapM_eq_ok hinner) fun x _ files hfiles => ih hfiles
              refine ⟨((s.children d).filter fun e =>
                !Discovery.leadsToDirectory s directory e && Discovery.isWanted directory e.1).map (fun e => [e.1]) ++
                  below, ?_, List.pairwise_append.2 ⟨?_, hbelowSorted, ?_⟩, ?_⟩
              · rw [List.map_append, List.map_map, hbelow]
                rfl
              · exact List.pairwise_map.2 ((hsorted.filter _).imp .file)
              · intro n hn n' hn'
                obtain ⟨x, -, rfl⟩ := List.mem_map.1 hn
                obtain ⟨y, -, rest, hrest, rfl⟩ := hcases n' hn'
                exact .above hrest
              · intro hnil
                rcases List.mem_append.1 hnil with hnil | hnil
                · obtain ⟨x, -, hx⟩ := List.mem_map.1 hnil
                  cases hx
                · obtain ⟨y, -, rest, -, hy⟩ := hcases [] hnil
                  cases hy

/-! ### Stores that list their entries in another order -/

/-- The stores have the same entries for the same user, whatever order they list them in. -/
structure SameEntries (s s' : Store) : Prop where
  perm : s'.entries.Perm s.entries
  user : s'.user = s.user

namespace SameEntries

theorem isLawful (h : SameEntries s s') (hs : s.IsLawful) : s'.IsLawful where
  distinct := (h.perm.map Prod.fst).nodup_iff.2 hs.distinct
  names x hx := hs.names x (h.perm.mem_iff.1 hx)

theorem entry?_eq (h : SameEntries s s') (hs : s.IsLawful) : s'.entry? = s.entry? := by
  funext q
  refine Option.ext fun e => ?_
  rw [(h.isLawful hs).entry?_eq_some, hs.entry?_eq_some, h.perm.mem_iff]

theorem allows_eq (h : SameEntries s s') : s'.allows = s.allows := by
  funext mode a
  rw [allows, allows, h.user]

theorem children_eq (h : SameEntries s s') (hs : s.IsLawful) (d : Place) : s'.children d = s.children d := by
  refine List.Perm.eq_of_pairwise (fun x y _ _ hxy hyx => absurd hxy (lt_asymm hyx))
    ((h.isLawful hs).pairwise_children d) (hs.pairwise_children d) ?_
  rw [children, children]
  exact (List.mergeSort_perm _ _).trans ((h.perm.filterMap _).trans (List.mergeSort_perm _ _).symm)

theorem walk_eq (h : SameEntries s s') (hs : s.IsLawful) (purpose : Purpose) (budget : Nat) (here : Place)
    (parts : List Text) : s'.walk purpose budget here parts = s.walk purpose budget here parts := by
  have hlink (follow : Place → Text → List Text → Except Refusal Place) (here : Place) (parts : List Text) :
      s'.walkToLink purpose follow here parts = s.walkToLink purpose follow here parts := by
    induction parts generalizing here with
    | nil => rfl
    | cons part parts ih => simp only [walkToLink, h.entry?_eq hs, h.allows_eq, ih]
  induction budget generalizing here parts with
  | zero => exact hlink _ here parts
  | succ budget ih =>
      rw [walk, walk, hlink]
      simp only [ih]

theorem stat_eq (h : SameEntries s s') (hs : s.IsLawful) (p : Path) : s'.stat p = s.stat p := by
  simp only [stat, place, h.user, h.walk_eq hs, h.entry?_eq hs]

theorem list_eq (h : SameEntries s s') (hs : s.IsLawful) (p : Path) : s'.list p = s.list p := by
  simp only [Store.list, place, h.user, h.walk_eq hs, h.entry?_eq hs, h.allows_eq, h.children_eq hs]

theorem filesBelow_eq (h : SameEntries s s') (hs : s.IsLawful) (depth : Nat) (shown : Text) (directory : Path) :
    Discovery.filesBelow s' depth shown directory = Discovery.filesBelow s depth shown directory := by
  have hleads (directory : Path) :
      Discovery.leadsToDirectory s' directory = Discovery.leadsToDirectory s directory := by
    funext ⟨name, e⟩
    cases e <;> simp only [Discovery.leadsToDirectory, isDirectory, h.stat_eq hs]
  induction depth generalizing shown directory with
  | zero => rfl
  | succ depth ih => simp only [Discovery.filesBelow, h.list_eq hs, hleads, ih]

theorem discover_eq (h : SameEntries s s') (hs : s.IsLawful) (target : Path) :
    discover s' target = discover s target := by
  have hdepth : Discovery.depth s' = Discovery.depth s := by
    rw [Discovery.depth, Discovery.depth, h.perm.foldl_eq' fun x _ y _ n => max_right_comm n x.1.length y.1.length]
  rw [discover, discover, h.stat_eq hs, hdepth]
  simp only [h.filesBelow_eq hs]

end SameEntries

/-! ### The order of discovered files -/

theorem paths_of_run {settings : Settings} {reports : List Report} (hfiles : discover s target = .ok files)
    (h : run settings s target = (.ok reports, s')) : reports.map Report.path = files := by
  have hdone := (run_eq_ok hfiles).1 h
  rcases allNamed_or_nameless settings s files with hall | ⟨before, p, after, e, rfl, hbefore, he⟩
  · obtain ⟨others, hothers, hpaths⟩ := processFiles_of_allNamed hall
    rw [hothers] at hdone
    cases hdone
    exact hpaths
  · rw [processFiles_of_nameless hbefore he] at hdone
    cases hdone

/-- The files found below a directory are in the order of a walk. That is the order of their paths if and only if no
file has a name behind that of a directory beside it below which a file is found. -/
theorem exists_names_of_discover {mode : FileMode} (hs : s.IsLawful)
    (hdirectory : s.stat target = .ok (.directory mode)) (h : discover s target = .ok files) :
    ∃ names : List (List Text), files = names.map target.below ∧ names.Pairwise WalksBefore ∧
      (files.Pairwise (fun p q => p.parts < q.parts) ↔ ∀ above name sub rest, above ++ [name] ∈ names →
        above ++ sub :: rest ∈ names → rest ≠ [] → name ≤ sub) := by
  have hbelow : Discovery.filesBelow s (Discovery.depth s) target.toText target = .ok files := by
    rwa [discover, hdirectory] at h
  obtain ⟨names, rfl, hwalk, -⟩ := filesBelow_walks hs hbelow
  refine ⟨names, rfl, hwalk, ?_⟩
  have hmono : StrictMono fun n : List Text => target.parts ++ n := fun _ _ => List.append_left_lt
  rw [List.pairwise_map, ← pairwise_lt_iff hwalk]
  exact List.Pairwise.iff fun _ _ => hmono.lt_iff_lt

end JujuMigration
