import JujuMigration.Proofs.Store.Operations
/-! Regions of a store without links. Where two stores have the same directories and agree in a region, an operation on
paths that lead into the region cannot tell them apart: it is refused in both for the same reason, or it makes the same
of both, and outside the region it changes nothing. -/

namespace JujuMigration.Store

/-- No entry is a link. -/
def IsPlain (s : Store) : Prop := ∀ q target, s.entry? q ≠ some (.link target)

/-- The mode of the directory at a place. -/
def directory? (s : Store) (q : Place) : Option FileMode :=
  match s.entry? q with
  | some (.directory mode) => some mode
  | _ => none

/-- Two stores without links have the same user, the same directories and, in a region, the same entries. -/
structure Agree (region : Place → Prop) (s s' : Store) : Prop where
  plain : s.IsPlain
  plain' : s'.IsPlain
  user : s'.user = s.user
  directories : ∀ q, s'.directory? q = s.directory? q
  entries : ∀ q, region q → s'.entry? q = s.entry? q

/-- They have the same directories. -/
abbrev SameDirectories : Store → Store → Prop := Agree fun _ => False

/-- Two stores that agree in a region have come to be two that agree in it again, and neither has changed elsewhere. -/
structure StepsAlike (region : Place → Prop) (s s' t t' : Store) : Prop where
  agree : Agree region t t'
  kept : Agree (fun q => ¬region q) s t
  kept' : Agree (fun q => ¬region q) s' t'

/-- What an operation comes to in two stores that agree in a region. -/
inductive EndsAlike {ε : Type} (region : Place → Prop) (s s' : Store) : Except ε Store → Except ε Store → Prop
  | refused (e : ε) : EndsAlike region s s' (.error e) (.error e)
  | done {t t' : Store} (h : StepsAlike region s s' t t') : EndsAlike region s s' (.ok t) (.ok t')

/-- Whatever it is looked up for, in every store with these directories the path leads to the same place, which is one
of the region and in a directory; or it is refused for the same reason. -/
def Confined (region : Place → Prop) (s : Store) (b : Path) : Prop :=
  ∃ result, (∀ t, SameDirectories s t → ∀ purpose, t.place purpose b = result) ∧
    ∀ q, result = .ok q → region q ∧ (s.directory? q.dropLast).isSome = true

variable {region other : Place → Prop} {s s' s'' t t' u u' : Store} {q : Place} {p b source target : Path}
  {mode : FileMode} {content : Bytes} {purpose : Purpose}

/-! ### Agreement -/

theorem directory?_eq_some : s.directory? q = some mode ↔ s.entry? q = some (.directory mode) := by
  unfold directory?
  rcases s.entry? q with _ | (mode | ⟨mode, content⟩ | target) <;> simp

theorem directory?_of_file (h : s.entry? q = some (.file mode content)) : s.directory? q = none := by
  rw [directory?, h]

theorem directory?_of_none (h : s.entry? q = none) : s.directory? q = none := by
  rw [directory?, h]

theorem IsPlain.wayAt? (h : s.IsPlain) (q : Place) :
    s.wayAt? q = (s.directory? q).map fun mode => .directory (s.allows mode .search) := by
  unfold Store.wayAt? directory?
  rcases hentry : s.entry? q with _ | (mode | ⟨mode, content⟩ | target)
  · rfl
  · rfl
  · rfl
  · exact absurd hentry (h q target)

namespace Agree

theorem refl (region : Place → Prop) (h : s.IsPlain) : Agree region s s :=
  ⟨h, h, rfl, fun _ => rfl, fun _ _ => rfl⟩

theorem symm (h : Agree region s s') : Agree region s' s :=
  ⟨h.plain', h.plain, h.user.symm, fun q => (h.directories q).symm, fun q hq => (h.entries q hq).symm⟩

theorem trans (h : Agree region s s') (h' : Agree region s' s'') : Agree region s s'' :=
  ⟨h.plain, h'.plain', h'.user.trans h.user, fun q => (h'.directories q).trans (h.directories q),
    fun q hq => (h'.entries q hq).trans (h.entries q hq)⟩

theorem mono (h : Agree region s s') (hsub : ∀ q, other q → region q) : Agree other s s' :=
  ⟨h.plain, h.plain', h.user, h.directories, fun q hq => h.entries q (hsub q hq)⟩

theorem sameDirectories (h : Agree region s s') : SameDirectories s s' := h.mono nofun

theorem sameWays (h : Agree region s s') : SameWays s s' := by
  refine ⟨h.user, funext fun q => ?_⟩
  rw [h.plain.wayAt?, h.plain'.wayAt?, h.directories]
  simp only [allows, h.user]

theorem allows_eq (h : Agree region s s') (mode : FileMode) (a : Access) : s'.allows mode a = s.allows mode a := by
  rw [allows, allows, h.user]

/-- Whether a place may be given another entry is for its directory to say, and for the user. -/
theorem bar?_eq (h : Agree region s s') (hq : (s.directory? q.dropLast).isSome = true) : s'.bar? q = s.bar? q := by
  obtain ⟨mode, hmode⟩ := Option.isSome_iff_exists.1 hq
  refine bar?_congr h.user ?_
  rw [directory?_eq_some.1 hmode, directory?_eq_some.1 ((h.directories _).trans hmode)]

end Agree

/-- A file that is made, or that changes, changes nothing else. -/
theorem agree_put (hs : s.IsPlain) (hdir : s.directory? q = none) (hq : region q) (mode : FileMode) (content : Bytes) :
    Agree (fun r => ¬region r) s (s.put q (.file mode content)) where
  plain := hs
  plain' := by
    intro r target
    rw [entry?_put]
    split
    · exact nofun
    · exact hs r target
  user := user_put s q _
  directories r := by
    by_cases hr : r = q
    · rw [hr, hdir]
      exact directory?_of_file (by rw [entry?_put, if_pos rfl])
    · rw [directory?, directory?, entry?_put, if_neg hr]
  entries r hr := by rw [entry?_put, if_neg (by rintro rfl; exact hr hq)]

theorem agree_clear (hs : s.IsPlain) (hdir : s.directory? q = none) (hq : region q) :
    Agree (fun r => ¬region r) s (s.clear q) where
  plain := hs
  plain' := by
    intro r target
    rw [entry?_clear]
    split
    · exact nofun
    · exact hs r target
  user := rfl
  directories r := by
    by_cases hr : r = q
    · rw [hr, hdir]
      exact directory?_of_none (by rw [entry?_clear, if_pos rfl])
    · rw [directory?, directory?, entry?_clear, if_neg hr]
  entries r hr := by rw [entry?_clear, if_neg (by rintro rfl; exact hr hq)]

namespace StepsAlike

theorem refl (h : Agree region s s') : StepsAlike region s s' s s' := ⟨h, .refl _ h.plain, .refl _ h.plain'⟩

theorem trans (h : StepsAlike region s s' t t') (h' : StepsAlike region t t' u u') : StepsAlike region s s' u u' :=
  ⟨h'.agree, h.kept.trans h'.kept, h.kept'.trans h'.kept'⟩

theorem put (h : Agree region s s') (hq : region q) (hdir : s.directory? q = none) (mode : FileMode)
    (content : Bytes) : StepsAlike region s s' (s.put q (.file mode content)) (s'.put q (.file mode content)) := by
  have hkept := agree_put h.plain hdir hq mode content
  have hkept' := agree_put h.plain' ((h.directories q).trans hdir) hq mode content
  refine ⟨⟨hkept.plain', hkept'.plain', ?_, fun r => ?_, fun r hr => ?_⟩, hkept, hkept'⟩
  · rw [hkept.user, hkept'.user, h.user]
  · rw [hkept.directories, hkept'.directories, h.directories]
  · rw [entry?_put, entry?_put, h.entries r hr]

theorem clear (h : Agree region s s') (hq : region q) (hdir : s.directory? q = none) :
    StepsAlike region s s' (s.clear q) (s'.clear q) := by
  have hkept := agree_clear h.plain hdir hq
  have hkept' := agree_clear h.plain' ((h.directories q).trans hdir) hq
  refine ⟨⟨hkept.plain', hkept'.plain', h.user, fun r => ?_, fun r hr => ?_⟩, hkept, hkept'⟩
  · rw [hkept.directories, hkept'.directories, h.directories]
  · rw [entry?_clear, entry?_clear, h.entries r hr]

end StepsAlike

/-! ### Operations on confined paths -/

theorem Confined.mono (h : Confined region s b) (hs : SameDirectories s t) : Confined region t b := by
  obtain ⟨result, hplace, hregion⟩ := h
  refine ⟨result, fun u hu => hplace u (hs.trans hu), fun q hq => ?_⟩
  rw [hs.directories]
  exact hregion q hq

/-- How a confined path is looked up in two stores. -/
theorem Confined.cases (hb : Confined region s b) (h : Agree region s s') :
    (∃ r, ∀ purpose, s.place purpose b = .error r ∧ s'.place purpose b = .error r) ∨
      ∃ q, (∀ purpose, s.place purpose b = .ok q ∧ s'.place purpose b = .ok q) ∧
        s'.entry? q = s.entry? q ∧ region q ∧ (s.directory? q.dropLast).isSome = true := by
  obtain ⟨result, hplace, hregion⟩ := hb
  have hs := hplace s (.refl _ h.plain)
  have hs' := hplace s' h.sameDirectories
  cases result with
  | error r => exact .inl ⟨r, fun purpose => ⟨hs purpose, hs' purpose⟩⟩
  | ok q =>
      obtain ⟨hq, hdir⟩ := hregion q rfl
      exact .inr ⟨q, fun purpose => ⟨hs purpose, hs' purpose⟩, h.entries q hq, hq, hdir⟩

section

variable (h : Agree region s s') (hb : Confined region s b)

include h hb

theorem stat_alike : s'.stat b = s.stat b := by
  unfold stat
  rcases hb.cases h with ⟨r, hplace⟩ | ⟨q, hplace, hentry, -⟩
  · rw [(hplace .target).1, (hplace .target).2]
    rfl
  · rw [(hplace .target).1, (hplace .target).2]
    simp only [bind, Except.bind, hentry]

theorem exists_alike : s'.exists? b = s.exists? b := by
  rw [exists?, exists?, stat_alike h hb]

theorem read_alike : s'.read b = s.read b := by
  unfold read
  rw [stat_alike h hb]
  simp only [h.allows_eq]

theorem write_alike (content : Bytes) : EndsAlike region s s' (s.write b content) (s'.write b content) := by
  unfold write
  rcases hb.cases h with ⟨r, hplace⟩ | ⟨q, hplace, hentry, hq, hdir⟩
  · rw [(hplace .writing).1, (hplace .writing).2]
    exact .refused r
  · rw [(hplace .writing).1, (hplace .writing).2]
    simp only [bind, Except.bind, hentry, h.allows_eq, h.bar?_eq hdir]
    rcases hs : s.entry? q with _ | (mode | ⟨mode, old⟩ | target)
    · dsimp only
      split
      · exact .refused _
      · exact .done (.put h hq (directory?_of_none hs) _ _)
    · exact .refused _
    · dsimp only
      split
      · exact .done (.put h hq (directory?_of_file hs) _ _)
      · exact .refused _
    · exact .refused _

/-- Another mode for a file. -/
theorem setMode_alike (hfile : ∀ q, s.place .target b = .ok q → s.directory? q = none) (mode : FileMode) :
    EndsAlike region s s' (s.setMode b mode) (s'.setMode b mode) := by
  unfold setMode
  rcases hb.cases h with ⟨r, hplace⟩ | ⟨q, hplace, hentry, hq, -⟩
  · rw [(hplace .target).1, (hplace .target).2]
    exact .refused r
  · have hnone := hfile q (hplace .target).1
    rw [(hplace .target).1, (hplace .target).2]
    simp only [bind, Except.bind, hentry, owns_congr h.user]
    rcases hs : s.entry? q with _ | (old | ⟨old, content⟩ | target)
    · exact .refused _
    · simp [directory?_eq_some.2 hs] at hnone
    · dsimp only
      split
      · exact .done (.put h hq hnone _ _)
      · exact .refused _
    · exact .refused _

theorem remove_alike : EndsAlike region s s' (s.remove b) (s'.remove b) := by
  unfold remove
  rcases hb.cases h with ⟨r, hplace⟩ | ⟨q, hplace, hentry, hq, hdir⟩
  · rw [(hplace .entry).1, (hplace .entry).2]
    exact .refused r
  · rw [(hplace .entry).1, (hplace .entry).2]
    simp only [bind, Except.bind, hentry, h.bar?_eq hdir]
    rcases hs : s.entry? q with _ | e
    · exact .refused _
    · dsimp only
      split
      · exact .refused _
      · split
        · exact .refused _
        · next hfile =>
            refine .done (.clear h hq ?_)
            cases e with
            | directory => exact absurd rfl hfile
            | file => exact directory?_of_file hs
            | link target => exact absurd hs (h.plain q target)

/-- A file is moved from one path of the region to another. -/
theorem rename_alike (ht : Confined region s target) (hfile : ∀ q, s.place .entry b = .ok q → s.directory? q = none) :
    EndsAlike region s s' (s.rename b target) (s'.rename b target) := by
  unfold rename
  rcases hb.cases h with ⟨r, hplace⟩ | ⟨q, hplace, hentry, hq, hdir⟩
  · rw [(hplace .entry).1, (hplace .entry).2]
    exact .refused r
  rcases ht.cases h with ⟨r, hplacet⟩ | ⟨r, hplacet, hentryt, hr, hdirt⟩
  · rw [(hplace .entry).1, (hplace .entry).2, (hplacet .entry).1, (hplacet .entry).2]
    exact .refused r
  · have hnone := hfile q (hplace .entry).1
    rw [(hplace .entry).1, (hplace .entry).2, (hplacet .entry).1, (hplacet .entry).2]
    simp only [bind, Except.bind, hentry, hentryt, h.bar?_eq hdir, h.bar?_eq hdirt]
    rcases hs : s.entry? q with _ | (mode | ⟨mode, content⟩ | link)
    · exact .refused _
    · simp [directory?_eq_some.2 hs] at hnone
    · have hmoved (hrnone : s.directory? r = none) : StepsAlike region s s'
          ((s.clear q).put r (.file mode content)) ((s'.clear q).put r (.file mode content)) := by
        have hcleared := StepsAlike.clear h hq hnone
        exact hcleared.trans
          (.put hcleared.agree hr ((agree_clear h.plain hnone hq).directories r ▸ hrnone) mode content)
      rcases hst : s.entry? r with _ | (mode' | ⟨mode', content'⟩ | link)
      · dsimp only
        split
        · exact .refused _
        · exact .done (hmoved (directory?_of_none hst))
      · exact .refused _
      · dsimp only
        split
        · exact .refused _
        · exact .done (hmoved (directory?_of_file hst))
      · exact absurd hst (h.plain r link)
    · exact absurd hs (h.plain q link)

end

/-- Where something has been written stands no directory. -/
theorem directory?_of_write (hb : Confined region s b) (hs : s.IsPlain) (hwrite : s.write b content = .ok t)
    (hu : SameDirectories s u) (hq : u.place purpose b = .ok q) : u.directory? q = none := by
  obtain ⟨w, made, hw, hwritable, -⟩ := of_write hwrite
  obtain ⟨result, hplace, -⟩ := hb
  obtain rfl : w = q := by
    rw [hplace s (.refl _ hs) .writing] at hw
    rw [hplace u hu purpose, hw] at hq
    exact Except.ok.inj hq
  rw [hu.directories]
  cases hwritable with
  | old hentry => exact directory?_of_file hentry
  | new hentry => exact directory?_of_none hentry

theorem EndsAlike.mapError {ε ε' : Type} {x y : Except ε Store} (h : EndsAlike region s s' x y) (f : ε → ε') :
    EndsAlike region s s' (x.mapError f) (y.mapError f) := by
  cases h with
  | refused e => exact .refused (f e)
  | done h => exact .done h

theorem EndsAlike.bind {ε : Type} {x y : Except ε Store} {next next' : Store → Except ε Store}
    (h : EndsAlike region s s' x y)
    (hnext : ∀ t t', x = .ok t → StepsAlike region s s' t t' → EndsAlike region t t' (next t) (next' t')) :
    EndsAlike region s s' (x >>= next) (y >>= next') := by
  cases h with
  | refused e => exact .refused e
  | @done t t' h =>
      have hend := hnext t t' rfl h
      change EndsAlike region s s' (next t) (next' t')
      generalize next t = x at hend ⊢
      generalize next' t' = y at hend ⊢
      cases hend with
      | refused e => exact .refused e
      | done h' => exact .done (h.trans h')

theorem mapError_eq_ok {ε ε' α : Type} {x : Except ε α} {f : ε → ε'} {a : α} (h : x.mapError f = .ok a) :
    x = .ok a := by
  cases x with
  | error e => cases h
  | ok b => exact congrArg Except.ok (Except.ok.inj h)

theorem copy_alike (h : Agree region s s') (hp : Confined region s source) (hb : Confined region s b) :
    EndsAlike region s s' (s.copy source b) (s'.copy source b) := by
  unfold copy
  rw [read_alike h hp]
  cases s.read source with
  | error r => exact .refused (r, source)
  | ok content =>
      refine ((write_alike h hb content).mapError _).bind fun t t' hwrite hwritten => ?_
      have ht := hwritten.kept.sameDirectories
      rw [stat_alike hwritten.agree (hp.mono ht)]
      cases t.stat source with
      | error r => exact .refused (r, source)
      | ok e =>
          refine (setMode_alike hwritten.agree (hb.mono ht) (fun q hq => ?_) e.mode).mapError _
          exact directory?_of_write hb h.plain (mapError_eq_ok hwrite) ht hq

/-! ### Names beside a path -/

/-- A name is looked up in the directory that the parts in front of it lead to. -/
theorem walk_append_name (purpose : Purpose) {budget : Nat} {here d : Place} {front : List Text} {name : Text}
    (hs : s.IsPlain) (h : Leads s.wayAt? .target budget here front d) (hdir : s.directory? d = some mode)
    (hn : IsName name) :
    s.walk purpose budget here (front ++ [name]) =
      if !s.allows mode .search then .error .denied
      else if maxNameLength < width name then .error .nameTooLong
      else .ok (d ++ [name]) := by
  have hplain (q : Place) (target : Text) : s.wayAt? q ≠ some (.link target) := fun hlink =>
    hs q target (wayAt?_link.1 hlink)
  induction h with
  | @done budget here =>
      rw [walk_eq, List.nil_append]
      have hentry := directory?_eq_some.1 hdir
      cases hsearch : s.allows mode .search with
      | false =>
          rw [walkToLink]
          simp [hentry, hsearch]
      | true =>
          rw [walkToLink_cons hentry hsearch, if_neg (by simp [hn.ne_nil, hn.ne_here]), if_neg hn.ne_above,
            if_neg (by simp)]
          rcases hlast : s.entry? (here ++ [name]) with _ | (_ | _ | target)
          · rfl
          · simp only [walkToLink, Bool.not_true, Bool.false_eq_true, if_false]
          · simp only [walkToLink, Bool.not_true, Bool.false_eq_true, if_false]
          · exact absurd hlast (hs _ target)
  | stay hd hpart _ ih =>
      obtain ⟨mode', hentry, hsearch⟩ := searchable_iff.1 hd
      rw [← ih hdir, walk_eq, List.cons_append, walkToLink_cons hentry hsearch, if_pos (by simpa using hpart)]
  | up hd _ ih =>
      obtain ⟨mode', hentry, hsearch⟩ := searchable_iff.1 hd
      rw [← ih hdir, walk_eq, List.cons_append, walkToLink_cons hentry hsearch, if_neg (by simp), if_pos rfl]
  | @enter _ here _ part front _ hname hway _ ih =>
      have hlooks : LooksUp s.wayAt? purpose here part (front ++ [name]) := by
        refine ⟨hname.searchable, hname.isName, hname.width, ?_⟩
        rintro ⟨-, hparts⟩
        obtain ⟨-, hnil⟩ := List.append_eq_singleton_iff.1 hparts |>.resolve_right (by simp)
        exact hn.ne_nil (List.singleton_inj.1 hnil)
      obtain ⟨mode', hentry, -⟩ := wayAt?_directory.1 hway
      rw [← ih hdir, walk_eq, List.cons_append, walkToLink_name hlooks, hentry]
  | last _ hway =>
      rw [hs.wayAt?, hdir] at hway
      cases hway
  | link _ hway => exact absurd hway (hplain _ _)
  | follow _ hway => exact absurd hway (hplain _ _)

section

variable {d : Place} {name : Text} (hs : s.IsPlain)
  (hd : Leads s.wayAt? .target maxLinks (s.base p) p.parts.dropLast d) (hdir : s.directory? d = some mode)
  (hn : IsName name)

include hs hd hdir hn

/-- A name beside a path leads to the entry of that name in the path's directory. -/
theorem eq_of_place_withName (hq : s.place purpose (p.withName name) = .ok q) : q = d ++ [name] := by
  have hwalk := walk_of_leads (place_eq_ok.1 hq).2
  rw [show (p.withName name).parts = p.parts.dropLast ++ [name] from rfl,
    show s.base (p.withName name) = s.base p from rfl, walk_append_name purpose hs hd hdir hn] at hwalk
  split at hwalk
  · cases hwalk
  · split at hwalk
    · cases hwalk
    · exact (Except.ok.inj hwalk).symm

/-- It is confined to any region with that entry. -/
theorem confined_withName (hregion : region (d ++ [name])) : Confined region s (p.withName name) := by
  refine ⟨s.place .target (p.withName name), fun t ht purpose => ?_, fun q hq => ?_⟩
  · have hd' : Leads t.wayAt? .target maxLinks (t.base p) p.parts.dropLast d := by
      rw [ht.sameWays.ways, base, ht.user]
      exact hd
    have hwalk := walk_append_name purpose ht.plain' hd' ((ht.directories d).trans hdir) hn
    rw [ht.allows_eq, ← walk_append_name .target hs hd hdir hn] at hwalk
    unfold place
    split
    · rfl
    · split
      · rfl
      · exact hwalk
  · rw [eq_of_place_withName hs hd hdir hn hq, List.dropLast_concat, hdir]
    exact ⟨hregion, rfl⟩

end

end JujuMigration.Store
