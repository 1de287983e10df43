import JujuMigration.Proofs.Run.Discovery
import JujuMigration.Proofs.Run.Reports
/-! Runs whose files do not meet. Processing a file looks at and changes nothing but what is around it: the file, its
temporary file and its backups. In a tree without links the surroundings of discovered files have nothing in common, so
each report of a run is the one that the file would have had alone, and the order of the files makes no difference to
the tree. -/

namespace JujuMigration

open Store

namespace Process

/-! ### Names around a file -/

/-- The name of a file, of its temporary file or of one of its backups. -/
def Around (name other : Text) : Prop :=
  other = name ∨ other = name ++ temporaryEnding ∨ ∃ n, other = backupName name n

variable {name name' other : Text}

theorem getLast?_of_extension (h : Discovery.extension <:+ name) : name.getLast? = some 'f' := by
  obtain ⟨front, rfl⟩ := h
  rw [List.getLast?_append]
  rfl

theorem getLast?_temporary (name : Text) : (name ++ temporaryEnding).getLast? = some 'p' := by
  rw [List.getLast?_append]
  rfl

/-- The name in front of a backup's ending. -/
def numbered (name : Text) : Nat → Text
  | 0 => name
  | n + 1 => name ++ '-' :: Nat.toDigits 10 (n + 1)

theorem backupName_eq (name : Text) (n : Nat) : backupName name n = numbered name n ++ backupEnding := by
  cases n with
  | zero => rfl
  | succ n => rw [backupName, numbered, List.append_assoc, List.cons_append]

theorem getLast?_backupName (name : Text) (n : Nat) : (backupName name n).getLast? = some 'p' := by
  rw [backupName_eq, List.getLast?_append]
  rfl

theorem not_mem_toDigits {c : Char} (hc : c.isDigit = false) (n : Nat) : c ∉ Nat.toDigits 10 n := by
  intro hmem
  rw [Nat.isDigit_of_mem_toDigits (by decide) (by decide) hmem] at hc
  cases hc

/-- A numbered name ends in a digit, so it is no name of a configuration file. -/
theorem not_extension_numbered (name : Text) (n : Nat) : ¬Discovery.extension <:+ numbered name (n + 1) := by
  intro h
  have hlast := getLast?_of_extension h
  rw [numbered, List.getLast?_append_of_ne_nil _ (List.cons_ne_nil _ _),
    List.getLast?_cons_of_ne_nil Nat.toDigits_ne_nil] at hlast
  exact not_mem_toDigits (by decide) _ (List.mem_of_getLast? hlast)

/-- Numbered names with the extension in front of the number are those of one file. -/
theorem eq_of_numbered (h : Discovery.extension <:+ name) (h' : Discovery.extension <:+ name') {m n : Nat}
    (heq : numbered name m = numbered name' n) : name = name' := by
  have hdash {front back : Text} {m n : Nat}
    (h : front ++ '-' :: Nat.toDigits 10 (m + 1) = back ++ '-' :: Nat.toDigits 10 (n + 1))
      {t : Text} (hback : back = front ++ t) : t = [] := by
    rw [hback, List.append_assoc] at h
    cases t with
    | nil => rfl
    | cons c t =>
        obtain ⟨-, hdigits⟩ := List.cons.inj (List.append_cancel_left h)
        refine absurd ?_ (not_mem_toDigits (c := '-') (by decide) (m + 1))
        rw [hdigits]
        exact List.mem_append_right _ List.mem_cons_self
  match m, n with
  | 0, 0 => exact heq
  | 0, n + 1 => exact absurd (heq ▸ h) (not_extension_numbered name' n)
  | m + 1, 0 => exact absurd (heq ▸ h') (not_extension_numbered name m)
  | m + 1, n + 1 =>
      rcases List.append_eq_append_iff.1 heq with ⟨t, ht, -⟩ | ⟨t, ht, -⟩
      · rw [ht, hdash heq ht, List.append_nil]
      · rw [ht, hdash heq.symm ht, List.append_nil]

/-- No name is around two configuration files. -/
theorem Around.unique (h : Around name other) (h' : Around name' other) (hn : Discovery.extension <:+ name)
    (hn' : Discovery.extension <:+ name') : name = name' := by
  have hends {name : Text} (hn : Discovery.extension <:+ name) : name.getLast? ≠ some 'p' := by
    rw [getLast?_of_extension hn]
    decide
  rcases h with rfl | rfl | ⟨m, rfl⟩
  · rcases h' with heq | heq | ⟨n, heq⟩
    · exact heq
    · exact absurd (heq ▸ getLast?_temporary name') (hends hn)
    · exact absurd (heq ▸ getLast?_backupName name' n) (hends hn)
  · rcases h' with heq | heq | ⟨n, heq⟩
    · exact absurd (heq ▸ getLast?_temporary name) (hends hn')
    · exact List.append_cancel_right heq
    · exact absurd heq.symm (backupName_ne_temporary name' name n)
  · rcases h' with heq | heq | ⟨n, heq⟩
    · exact absurd (heq ▸ getLast?_backupName name m) (hends hn')
    · exact absurd heq (backupName_ne_temporary name name' m)
    · rw [backupName_eq, backupName_eq] at heq
      exact eq_of_numbered hn hn' (List.append_cancel_right heq)

/-! ### Steps around a file -/

variable {region : Place → Prop} {s s' t t' : Store} {p b : Path} {d : Place} {mode : FileMode} {settings : Settings}

/-- Whatever the processing of a file looks up is confined to a region, but for the directory that it is in. -/
structure Surrounds (region : Place → Prop) (s : Store) (p : Path) : Prop where
  target : Confined region s p
  temporary : Confined region s (temporaryPath p)
  backup : ∀ n, Confined region s (backupPath p n)
  parent : ∃ d, s.place .target p.parent = .ok d ∧ (s.directory? d).isSome = true

/-- What steps in two stores that agree in a region come to: the same outcome, and stores that agree in it again. -/
structure ResultsAlike {α : Type} (region : Place → Prop) (s s' : Store) (x y : Store × α) : Prop where
  steps : StepsAlike region s s' x.1 y.1
  outcome : y.2 = x.2

theorem ResultsAlike.behind {α : Type} {x y : Store × α} (h : StepsAlike region s s' t t')
    (hx : ResultsAlike region t t' x y) : ResultsAlike region s s' x y :=
  ⟨h.trans hx.steps, hx.outcome⟩

theorem Surrounds.mono (h : Surrounds region s p) (hs : SameDirectories s t) : Surrounds region t p := by
  obtain ⟨d, hd, hdir⟩ := h.parent
  refine ⟨h.target.mono hs, h.temporary.mono hs, fun n => (h.backup n).mono hs, d, hs.sameWays.place_iff.2 hd, ?_⟩
  rw [hs.directories]
  exact hdir

theorem isWritable_alike (h : Agree region s s') (hp : Surrounds region s p) :
    s'.isWritable p.parent = s.isWritable p.parent := by
  obtain ⟨d, hd, hdir⟩ := hp.parent
  obtain ⟨mode, hmode⟩ := Option.isSome_iff_exists.1 hdir
  have hstat : s.stat p.parent = .ok (.directory mode) := stat_eq_ok.2 ⟨d, hd, directory?_eq_some.1 hmode⟩
  have hstat' : s'.stat p.parent = .ok (.directory mode) :=
    stat_eq_ok.2 ⟨d, h.sameWays.place_iff.2 hd, directory?_eq_some.1 ((h.directories d).trans hmode)⟩
  rw [isWritable, isWritable, hstat, hstat']
  exact h.allows_eq mode .write

theorem abandon_alike (h : Agree region s s') (hb : Confined region s b) (message : String) :
    ResultsAlike region s s' (abandon s b message) (abandon s' b message) := by
  unfold abandon
  rw [exists_alike h hb]
  rcases s.exists? b with r | (_ | _)
  · exact ⟨.refl h, rfl⟩
  · exact ⟨.refl h, rfl⟩
  · have hremove := remove_alike h hb
    generalize s.remove b = x at hremove ⊢
    generalize s'.remove b = y at hremove ⊢
    cases hremove with
    | refused r => exact ⟨.refl h, rfl⟩
    | done hsteps => exact ⟨hsteps, rfl⟩

theorem replace_alike (h : Agree region s s') (hp : Surrounds region s p) (content : Bytes) (mode : FileMode) :
    ResultsAlike region s s' (replace s p content mode) (replace s' p content mode) := by
  unfold replace
  dsimp only
  rw [isWritable_alike h hp]
  split
  · exact ⟨.refl h, rfl⟩
  have hwrite := write_alike h hp.temporary content
  generalize hx : s.write (temporaryPath p) content = x at hwrite
  generalize s'.write (temporaryPath p) content = y at hwrite
  cases hwrite with
  | refused r => exact abandon_alike h hp.temporary _
  | @done t t' hwritten =>
      have ht := hwritten.kept.sameDirectories
      have hmode := setMode_alike hwritten.agree (hp.temporary.mono ht)
        (fun q hq => directory?_of_write hp.temporary h.plain hx ht hq) mode
      dsimp only
      generalize t.setMode (temporaryPath p) mode = x at hmode
      generalize t'.setMode (temporaryPath p) mode = y at hmode
      cases hmode with
      | refused r => exact (abandon_alike hwritten.agree (hp.temporary.mono ht) _).behind hwritten
      | @done u u' hset =>
          have hu := ht.trans hset.kept.sameDirectories
          have hsteps := hwritten.trans hset
          have hrename := rename_alike hset.agree (hp.temporary.mono hu) (hp.target.mono hu)
            fun q hq => directory?_of_write hp.temporary h.plain hx hu hq
          dsimp only
          generalize u.rename (temporaryPath p) p = x at hrename
          generalize u'.rename (temporaryPath p) p = y at hrename
          cases hrename with
          | refused r => exact (abandon_alike hset.agree (hp.temporary.mono hu) _).behind hsteps
          | done hmoved => exact ⟨hsteps.trans hmoved, rfl⟩

/-- A copy is refused for one of its paths. -/
theorem path_of_copy {source : Path} {e : Refusal × Path} (h : s.copy source b = .error e) :
    e.2 = source ∨ e.2 = b := by
  unfold copy at h
  cases hread : s.read source with
  | error r =>
      rw [hread] at h
      exact .inl (congrArg Prod.snd (Except.error.inj h)).symm
  | ok content =>
      cases hwrite : s.write b content with
      | error r =>
          simp only [hread, hwrite, bind, Except.bind, Except.mapError] at h
          exact .inr (congrArg Prod.snd (Except.error.inj h)).symm
      | ok t =>
          cases hstat : t.stat source with
          | error r =>
              simp only [hread, hwrite, hstat, bind, Except.bind, Except.mapError] at h
              exact .inl (congrArg Prod.snd (Except.error.inj h)).symm
          | ok e =>
              cases hmode : t.setMode b e.mode with
              | error r =>
                  simp only [hread, hwrite, hstat, hmode, bind, Except.bind, Except.mapError] at h
                  exact .inr (congrArg Prod.snd (Except.error.inj h)).symm
              | ok u =>
                  simp only [hread, hwrite, hstat, hmode, bind, Except.bind, Except.mapError] at h
                  cases h

theorem makeBackup_alike (h : Agree region s s') (hp : Confined region s p) (hb : Confined region s b) :
    ResultsAlike region s s' (makeBackup s p b) (makeBackup s' p b) := by
  unfold makeBackup
  have hcopy := copy_alike h hp hb
  generalize hx : s.copy p b = x at hcopy
  generalize s'.copy p b = y at hcopy
  cases hcopy with
  | refused e =>
      obtain ⟨r, q⟩ := e
      have hstat : s'.stat q = s.stat q := by
        rcases path_of_copy hx with rfl | rfl
        · exact stat_alike h hp
        · exact stat_alike h hb
      refine ⟨.refl h, ?_⟩
      dsimp only
      rw [copyMessage, copyMessage, hstat]
  | done hsteps => exact ⟨hsteps, rfl⟩

/-- The search for a backup's name ends at the same one, though the stores may not have as many entries. -/
theorem freeBackupPath_alike (h : Agree region s s') (hb : ∀ n, Confined region s (backupPath p n)) :
    freeBackupPath s' p (s'.entries.length + 1) 0 = freeBackupPath s p (s.entries.length + 1) 0 := by
  obtain ⟨n, hn, hends, hsearch⟩ := search_ends s p
  obtain ⟨n', hn', hends', hsearch'⟩ := search_ends s' p
  have hexists (k : Nat) : s'.exists? (backupPath p k) = s.exists? (backupPath p k) := exists_alike h (hb k)
  have hmoved : SearchEnds s p n' := ⟨fun k hk => hexists k ▸ hends'.taken k hk, hexists n' ▸ hends'.ends⟩
  obtain rfl := hmoved.unique hends
  rw [hsearch _ (Nat.lt_succ_of_le hn), hsearch' _ (Nat.lt_succ_of_le hn'), searchResult, searchResult, hexists]

theorem exists_backupPath (h : freeBackupPath s p (s.entries.length + 1) 0 = .ok b) : ∃ n, b = backupPath p n := by
  obtain ⟨n, hn, -, hsearch⟩ := search_ends s p
  rw [hsearch _ (Nat.lt_succ_of_le hn), searchResult] at h
  split at h
  · exact ⟨n, (Except.ok.inj h).symm⟩
  · cases h

theorem store_alike (settings : Settings) (h : Agree region s s') (hp : Surrounds region s p) (mode : FileMode)
    (content : Bytes) :
    (∃ e, Process.store settings s p mode content = .error e ∧ Process.store settings s' p mode content = .error e) ∨
      ∃ x y, Process.store settings s p mode content = .ok x ∧ Process.store settings s' p mode content = .ok y ∧
        ResultsAlike region s s' x y := by
  unfold Process.store
  rw [freeBackupPath_alike h hp.backup]
  cases settings.dryRun with
  | true => exact .inr ⟨_, _, rfl, rfl, .refl h, rfl⟩
  | false =>
      cases settings.backup with
      | false =>
          have hreplace := replace_alike h hp content mode
          generalize replace s p content mode = x at hreplace
          generalize replace s' p content mode = y at hreplace
          exact .inr ⟨_, _, rfl, rfl, hreplace.steps, congrArg (Prod.mk _) hreplace.outcome⟩
      | true =>
          cases hfree : freeBackupPath s p (s.entries.length + 1) 0 with
          | error e => exact .inl ⟨e, rfl, rfl⟩
          | ok b =>
              obtain ⟨n, rfl⟩ := exists_backupPath hfree
              have hbackup := makeBackup_alike h hp.target (hp.backup n)
              simp only [bind, Except.bind, Bool.false_eq_true, if_false, if_true]
              generalize makeBackup s p (backupPath p n) = x at hbackup
              generalize makeBackup s' p (backupPath p n) = y at hbackup
              have hreplace :=
                replace_alike hbackup.steps.agree (hp.mono hbackup.steps.kept.sameDirectories) content mode
              generalize replace x.1 p content mode = z at hreplace
              generalize replace y.1 p content mode = w at hreplace
              exact .inr ⟨_, _, rfl, rfl, hbackup.steps.trans hreplace.steps,
                congrArg₂ Prod.mk hbackup.outcome hreplace.outcome⟩

theorem readFile_alike (h : Agree region s s') (hp : Confined region s p) : readFile s' p = readFile s p := by
  rw [readFile, readFile, stat_alike h hp, read_alike h hp]

end Process

open Process

/-! ### Calls -/

variable {region : Place → Prop} {s s' t : Store} {p : Path} {settings : Settings} {files : List Path}

/-- Processing a file gives the same report in two stores that agree around it, or escapes from both, and makes the same
of both. -/
theorem processFile_alike (settings : Settings) (h : Agree region s s') (hp : Surrounds region s p) :
    (∃ e, processFile settings s p = .error e ∧ processFile settings s' p = .error e) ∨
      ∃ report t t', processFile settings s p = .ok (report, t) ∧ processFile settings s' p = .ok (report, t') ∧
        StepsAlike region s s' t t' := by
  unfold processFile
  rw [readFile_alike h hp.target]
  split
  · exact .inr ⟨_, _, _, rfl, rfl, .refl h⟩
  · exact .inr ⟨_, _, _, rfl, rfl, .refl h⟩
  · next mode source _ =>
      split
      · exact .inr ⟨_, _, _, rfl, rfl, .refl h⟩
      · next up _ =>
          dsimp only
          split
          · rcases store_alike settings h hp mode up.content with ⟨e, he, he'⟩ | ⟨x, y, hx, hy, hsteps, houtcome⟩
            · rw [he, he']
              exact .inl ⟨e, rfl, rfl⟩
            · rw [hx, hy]
              refine .inr ⟨_, _, _, rfl, ?_, hsteps⟩
              simp only [bind, Except.bind, houtcome]
          · exact .inr ⟨_, _, _, rfl, rfl, .refl h⟩

theorem afterCall_alike (settings : Settings) (h : Agree region s s') (hp : Surrounds region s p) :
    StepsAlike region s s' (afterCall settings s p) (afterCall settings s' p) := by
  unfold afterCall
  rcases processFile_alike settings h hp with ⟨e, he, he'⟩ | ⟨report, t, t', ht, ht', hsteps⟩
  · rw [he, he']
    exact .refl h
  · rw [ht, ht']
    exact hsteps

/-- The report of a call, or the refusal that escapes from it. -/
def reportOf (settings : Settings) (s : Store) (p : Path) : Except Escape Report :=
  (processFile settings s p).map Prod.fst

theorem reportOf_eq_error {e : Escape} : reportOf settings s p = .error e ↔ Nameless settings s p e := by
  rw [← processFile_eq_error, reportOf]
  cases processFile settings s p with
  | error e' => exact iff_of_eq (by rw [Except.map, Except.error.injEq, Except.error.injEq])
  | ok done => exact iff_of_false nofun nofun

theorem reportOf_alike (settings : Settings) (h : Agree region s s') (hp : Surrounds region s p) :
    reportOf settings s' p = reportOf settings s p := by
  rw [reportOf, reportOf]
  rcases processFile_alike settings h hp with ⟨e, he, he'⟩ | ⟨report, t, t', ht, ht', -⟩
  · rw [he, he']
  · rw [ht, ht']
    rfl

/-! ### Files with nothing in common -/

/-- Each file has a region of its own. -/
structure Apart (regions : Path → Place → Prop) (s : Store) (files : List Path) : Prop where
  surrounds : ∀ p ∈ files, Surrounds (regions p) s p
  disjoint : files.Pairwise fun p p' => ∀ q, regions p q → ¬regions p' q

namespace Apart

variable {regions : Path → Place → Prop} {order : List Path}

theorem perm (h : Apart regions s files) (hperm : order.Perm files) : Apart regions s order := by
  refine ⟨fun p hp => h.surrounds p (hperm.mem_iff.1 hp), (hperm.pairwise_iff ?_).2 h.disjoint⟩
  intro p p' hapart q hq' hq
  exact hapart q hq hq'

theorem tail (h : Apart regions s (p :: files)) : Apart regions s files :=
  ⟨fun p' hp' => h.surrounds p' (List.mem_cons_of_mem _ hp'), (List.pairwise_cons.1 h.disjoint).2⟩

/-- Behind the call on a file the store agrees as before around the others. -/
theorem agree_tail (h : Apart regions s (p :: files)) (settings : Settings)
    (hagree : ∀ p' ∈ p :: files, Agree (regions p') s t) :
    ∀ p' ∈ files, Agree (regions p') s (afterCall settings t p) := by
  intro p' hp'
  have hkept := (afterCall_alike settings (hagree p List.mem_cons_self) (h.surrounds p List.mem_cons_self)).kept'
  refine (hagree p' (List.mem_cons_of_mem _ hp')).trans (hkept.mono fun q hq hp => ?_)
  exact (List.pairwise_cons.1 h.disjoint).1 p' hp' q hp hq

/-- Calls make of each file's region what the call on that file makes of it, and elsewhere they change nothing. -/
theorem calls (h : Apart regions s files) (settings : Settings) (hs : t.IsPlain)
    (hagree : ∀ p ∈ files, Agree (regions p) s t) :
    (∀ p ∈ files, Agree (regions p) (afterCall settings s p) (afterCalls settings t files)) ∧
      Agree (fun q => ∀ p ∈ files, ¬regions p q) t (afterCalls settings t files) := by
  induction files generalizing t with
  | nil => exact ⟨nofun, .refl _ hs⟩
  | cons p files ih =>
      have hsteps := afterCall_alike settings (hagree p List.mem_cons_self) (h.surrounds p List.mem_cons_self)
      obtain ⟨hfiles, hothers⟩ := ih h.tail hsteps.kept'.plain' (h.agree_tail settings hagree)
      refine ⟨List.forall_mem_cons.2 ⟨hsteps.agree.trans (hothers.mono fun q hq p' hp' => ?_), hfiles⟩, ?_⟩
      · exact (List.pairwise_cons.1 h.disjoint).1 p' hp' q hq
      · exact (hsteps.kept'.mono fun q hq => hq p List.mem_cons_self).trans
          (hothers.mono fun q hq p' hp' => hq p' (List.mem_cons_of_mem _ hp'))

/-- The store behind calls does not depend on their order. -/
theorem calls_perm (h : Apart regions s files) (settings : Settings) (hs : s.IsPlain) (hperm : order.Perm files) :
    Agree (fun _ => True) (afterCalls settings s files) (afterCalls settings s order) := by
  obtain ⟨hfiles, hothers⟩ := h.calls settings hs fun p _ => .refl _ hs
  obtain ⟨horder, hothers'⟩ := (h.perm hperm).calls settings hs fun p _ => .refl _ hs
  have hsame := hothers.symm.sameDirectories.trans hothers'.sameDirectories
  refine ⟨hsame.plain, hsame.plain', hsame.user, hsame.directories, fun q _ => ?_⟩
  by_cases hq : ∃ p ∈ files, regions p q
  · obtain ⟨p, hp, hq⟩ := hq
    exact ((hfiles p hp).symm.trans (horder p (hperm.mem_iff.2 hp))).entries q hq
  · have hnone : ∀ p ∈ files, ¬regions p q := fun p hp hregion => hq ⟨p, hp, hregion⟩
    rw [hothers.entries q hnone, hothers'.entries q fun p hp => hnone p (hperm.mem_iff.1 hp)]

/-- When it is a file's turn, the store agrees around it with the one that the calls began with. -/
theorem agree_at_turn {before after : List Path} (h : Apart regions s (before ++ p :: after)) (settings : Settings)
    (hs : s.IsPlain) : Agree (regions p) s (afterCalls settings s before) := by
  obtain ⟨hbefore, -, hp⟩ := List.pairwise_append.1 h.disjoint
  have happart : Apart regions s before :=
    ⟨fun p' hp' => h.surrounds p' (List.mem_append_left _ hp'), hbefore⟩
  refine (happart.calls settings hs fun p _ => .refl _ hs).2.mono fun q hq p' hp' hq' => ?_
  exact hp p' hp' p List.mem_cons_self q hq' hq

end Apart

/-! ### Discovered files -/

/-- What is around a file, in the directory that it is in. -/
def surroundings (s : Store) (p : Path) (q : Place) : Prop :=
  ∃ d name, s.place .target p.parent = .ok d ∧ Around p.name name ∧ q = d ++ [name]

theorem Sits.name {spot : Place × Text} (h : Sits s p spot) : p.name = spot.2 := by
  rw [h.path, Path.name, Path.child, List.getLast?_concat]
  rfl

theorem Sits.withName {spot : Place × Text} (h : Sits s p spot) : p.withName p.name = p := by
  rw [Path.withName, h.name]
  exact h.path.symm

theorem Sits.surroundings_iff {spot : Place × Text} (h : Sits s p spot) {q : Place} :
    surroundings s p q ↔ ∃ name, Around spot.2 name ∧ q = spot.1 ++ [name] := by
  unfold surroundings
  rw [h.parent, h.name]
  constructor
  · rintro ⟨d, name, hd, haround, rfl⟩
    rw [← Except.ok.inj hd]
    exact ⟨name, haround, rfl⟩
  · rintro ⟨name, haround, rfl⟩
    exact ⟨spot.1, name, rfl, haround, rfl⟩

theorem Sits.surrounds {spot : Place × Text} (hs : s.IsPlain) (h : Sits s p spot) :
    Surrounds (surroundings s p) s p := by
  obtain ⟨mode, hmode⟩ := Option.isSome_iff_exists.1 h.directory
  have hconfined {name : Text} (hn : IsName name) (haround : Around spot.2 name) :
      Confined (surroundings s p) s (p.withName name) :=
    confined_withName hs (place_eq_ok.1 h.parent).2 hmode hn (h.surroundings_iff.2 ⟨name, haround, rfl⟩)
  constructor
  · have htarget := hconfined h.isName (.inl rfl)
    rwa [← h.name, h.withName] at htarget
  · exact hconfined (isName_temporary p) (.inr (.inl (by rw [h.name])))
  · intro n
    rw [backupPath_eq]
    exact hconfined (isName_backupName p.name n) (.inr (.inr ⟨n, by rw [h.name]⟩))
  · exact ⟨spot.1, h.parent, h.directory⟩

theorem apart_of_sits {spots : List (Place × Text)} (hs : s.IsPlain) (hsits : List.Forall₂ (Sits s) files spots)
    (hnodup : spots.Nodup) : Apart (surroundings s) s files := by
  induction hsits with
  | nil => exact ⟨nofun, .nil⟩
  | @cons p spot files spots hp hfiles ih =>
      obtain ⟨hspot, hnodup⟩ := List.nodup_cons.1 hnodup
      obtain ⟨hsurrounds, hdisjoint⟩ := ih hnodup
      refine ⟨List.forall_mem_cons.2 ⟨hp.surrounds hs, hsurrounds⟩, .cons (fun p' hp' q hq hq' => ?_) hdisjoint⟩
      obtain ⟨spot', hspot', hsits'⟩ : ∃ spot' ∈ spots, Sits s p' spot' := by
        obtain ⟨i, rfl⟩ := List.mem_iff_get.1 hp'
        exact ⟨spots.get (i.cast hfiles.length_eq), List.get_mem _ _, hfiles.get i.2 (hfiles.length_eq ▸ i.2)⟩
      obtain ⟨name, haround, rfl⟩ := hp.surroundings_iff.1 hq
      obtain ⟨name', haround', heq⟩ := hsits'.surroundings_iff.1 hq'
      obtain ⟨hdirectory, hname⟩ := List.append_inj' heq rfl
      rw [← List.singleton_inj.1 hname] at haround'
      have hsame : spot = spot' := Prod.ext hdirectory (haround.unique haround' hp.extension hsits'.extension)
      exact hspot (hsame ▸ hspot')

/-- There is the same entry at every place, for the same user. -/
structure SameTree (s s' : Store) : Prop where
  user : s'.user = s.user
  entries : ∀ q, s'.entry? q = s.entry? q

/-- When it is a file's turn, its report is the one that it would have had alone. -/
def Independent (settings : Settings) (s : Store) (files : List Path) : Prop :=
  ∀ before p after, files = before ++ p :: after →
    reportOf settings (afterCalls settings s before) p = reportOf settings s p

theorem AtEachTurn.at_turn {holds : Store → Path → Prop} {before after : List Path}
    (h : AtEachTurn settings holds s (before ++ p :: after)) : holds (afterCalls settings s before) p := by
  induction before generalizing s with
  | nil => exact h.1
  | cons p before ih => exact ih h.2

theorem afterCalls_concat (settings : Settings) (s : Store) (before : List Path) (p : Path) :
    afterCalls settings s (before ++ [p]) = afterCall settings (afterCalls settings s before) p := by
  rw [afterCalls, afterCalls, List.foldl_append]
  rfl

namespace Independent

variable {before after : List Path}

theorem nameless_iff (h : Independent settings s files) (hsplit : files = before ++ p :: after) {e : Escape} :
    Nameless settings (afterCalls settings s before) p e ↔ Nameless settings s p e := by
  rw [← reportOf_eq_error, ← reportOf_eq_error, h _ _ _ hsplit]

/-- Files in front can be given names for their backups one after the other if and only if each of them can, alone. -/
theorem allNamed_iff (after : List Path) (h : Independent settings s (before ++ after)) :
    AllNamed settings s before ↔ ∀ p ∈ before, ∀ e, ¬Nameless settings s p e := by
  constructor
  · intro hall p hp e he
    obtain ⟨front, back, hbefore⟩ := List.append_of_mem hp
    unfold AllNamed at hall
    rw [hbefore] at hall
    exact hall.at_turn e ((h.nameless_iff (by rw [hbefore, List.append_assoc, List.cons_append])).2 he)
  · intro hall
    rcases allNamed_or_nameless settings s before with hnamed | ⟨front, p, back, e, hbefore, -, he⟩
    · exact hnamed
    · refine absurd ?_ (hall p (by rw [hbefore]; simp) e)
      exact (h.nameless_iff (by rw [hbefore, List.append_assoc, List.cons_append])).1 he

/-- The reports are those that the files would have had alone. -/
theorem reports (before : List Path) (h : Independent settings s (before ++ files)) {reports : List Report}
    (hreports : (processFiles settings (afterCalls settings s before) files).1 = .ok reports) :
    List.Forall₂ (fun p report => reportOf settings s p = .ok report) files reports := by
  induction files generalizing before reports with
  | nil =>
      obtain rfl := Except.ok.inj hreports
      exact .nil
  | cons p files ih =>
      rw [processFiles] at hreports
      cases hp : processFile settings (afterCalls settings s before) p with
      | error e => simp [hp] at hreports
      | ok done =>
          have hdone : afterCalls settings s (before ++ [p]) = done.2 := by
            rw [afterCalls_concat, afterCall, hp]
          rw [hp] at hreports
          dsimp only at hreports
          cases hrest : (processFiles settings done.2 files).1 with
          | error e =>
              rw [hrest] at hreports
              cases hreports
          | ok rest =>
              rw [hrest] at hreports
              obtain rfl := Except.ok.inj hreports
              refine .cons ?_ (ih (before ++ [p]) (by rwa [List.append_assoc]) (by rw [hdone, hrest]))
              rw [← h _ _ _ rfl, reportOf, hp]
              rfl

/-- Files that can be given names for their backups are reported on. -/
theorem processFiles_eq (h : Independent settings s files) (hall : ∀ p ∈ files, ∀ e, ¬Nameless settings s p e) :
    ∃ reports, processFiles settings s files = (.ok reports, afterCalls settings s files) ∧
      List.Forall₂ (fun p report => reportOf settings s p = .ok report) files reports := by
  have hnamed : AllNamed settings s files := (allNamed_iff [] (by rwa [List.append_nil])).2 hall
  obtain ⟨reports, hreports, -⟩ := processFiles_of_allNamed hnamed
  exact ⟨reports, hreports, h.reports [] (congrArg Prod.fst hreports)⟩

/-- Otherwise those are processed that stand in front of the first that cannot be given one. -/
theorem processFiles_stops (h : Independent settings s files) (hany : ¬∀ p ∈ files, ∀ e, ¬Nameless settings s p e) :
    ∃ before p after e, files = before ++ p :: after ∧ (∀ b ∈ before, ∀ e, ¬Nameless settings s b e) ∧
      Nameless settings s p e ∧ processFiles settings s files = (.error e, afterCalls settings s before) := by
  rcases allNamed_or_nameless settings s files with hnamed | ⟨before, p, after, e, rfl, hbefore, he⟩
  · exact absurd ((allNamed_iff [] (by rwa [List.append_nil])).1 hnamed) hany
  · exact ⟨before, p, after, e, rfl, (allNamed_iff _ h).1 hbefore, (h.nameless_iff rfl).1 he,
      processFiles_of_nameless hbefore he⟩

end Independent

theorem independent_singleton (settings : Settings) (s : Store) (p : Path) : Independent settings s [p] := by
  intro before p' after hsplit
  obtain ⟨rfl, -⟩ | ⟨before, rfl, hnil⟩ := List.cons_eq_append_iff.1 hsplit
  · rfl
  · exact absurd hnil (by simp)

theorem Apart.independent {regions : Path → Place → Prop} (h : Apart regions s files) (settings : Settings)
    (hs : s.IsPlain) : Independent settings s files := by
  rintro before p after rfl
  exact reportOf_alike settings (h.agree_at_turn settings hs) (h.surrounds p (by simp))

theorem independent_of_discover {target : Path} {order : List Path} (settings : Settings) (hs : s.IsTree)
    (hfiles : discover s target = .ok files) (hperm : order.Perm files) :
    Independent settings s order ∧ SameTree (afterCalls settings s files) (afterCalls settings s order) := by
  rcases discover_sits hs hfiles with rfl | ⟨spots, hsits, hnodup⟩
  · obtain rfl := List.perm_singleton.1 hperm
    exact ⟨independent_singleton settings s target, rfl, fun _ => rfl⟩
  · have happart := apart_of_sits hs.isPlain hsits hnodup
    have hsame := happart.calls_perm settings hs.isPlain hperm
    exact ⟨(happart.perm hperm).independent settings hs.isPlain, hsame.user, fun q => hsame.entries q trivial⟩

/-- A run in a tree without links gives reports if and only if each of its files, alone, can be given a name for its
backup, and they are the reports that the files would have had alone. Otherwise it stops at the first file that cannot.
In whatever order there is a call on each of the files, the tree comes to be the same, and so it does in a run over them
if each can be given a name. -/
theorem run_isolated (settings : Settings) {target : Path} (hs : s.IsTree) (hfiles : discover s target = .ok files) :
    ((∃ reports s', run settings s target = (.ok reports, s')) ↔ ∀ p ∈ files, ∀ e, ¬Nameless settings s p e) ∧
      (∀ reports s', run settings s target = (.ok reports, s') → s' = afterCalls settings s files ∧
        List.Forall₂ (fun p report => reportOf settings s p = .ok report) files reports) ∧
      (∀ e s', run settings s target = (.error e, s') → ∃ before p after escape, files = before ++ p :: after ∧
        (∀ b ∈ before, ∀ e, ¬Nameless settings s b e) ∧ Nameless settings s p escape ∧ e = .escape escape ∧
          s' = afterCalls settings s before) ∧
      ∀ order, order.Perm files → SameTree (afterCalls settings s files) (afterCalls settings s order) ∧
        ((∀ p ∈ files, ∀ e, ¬Nameless settings s p e) → ∃ reports,
          processFiles settings s order = (.ok reports, afterCalls settings s order) ∧
            List.Forall₂ (fun p report => reportOf settings s p = .ok report) order reports) := by
  have hindependent := (independent_of_discover settings hs hfiles (List.Perm.refl files)).1
  have horders : ∀ order, order.Perm files → SameTree (afterCalls settings s files) (afterCalls settings s order) ∧
      ((∀ p ∈ files, ∀ e, ¬Nameless settings s p e) → ∃ reports,
        processFiles settings s order = (.ok reports, afterCalls settings s order) ∧
          List.Forall₂ (fun p report => reportOf settings s p = .ok report) order reports) := by
    intro order hperm
    obtain ⟨horder, hsame⟩ := independent_of_discover settings hs hfiles hperm
    exact ⟨hsame, fun hall => horder.processFiles_eq fun p hp => hall p (hperm.mem_iff.1 hp)⟩
  rw [run_of_discover settings hfiles]
  by_cases hall : ∀ p ∈ files, ∀ e, ¬Nameless settings s p e
  · obtain ⟨reports, hreports, halone⟩ := hindependent.processFiles_eq hall
    rw [hreports]
    refine ⟨iff_of_true ⟨reports, _, rfl⟩ hall, ?_, nofun, horders⟩
    rintro _ _ ⟨⟩
    exact ⟨rfl, halone⟩
  · obtain ⟨before, p, after, e, hsplit, hbefore, he, hstop⟩ := hindependent.processFiles_stops hall
    rw [hstop]
    refine ⟨iff_of_false nofun hall, nofun, ?_, horders⟩
    rintro _ _ ⟨⟩
    exact ⟨before, p, after, e, hsplit, hbefore, he, rfl, rfl⟩

/-- Two files to upgrade, with an older backup of the first and something at the temporary path of the second. -/
def neighbourStore : Store where
  entries :=
    [([], .directory 0o755), (["a.tf".toList], .file 0o640 staleSource),
      (["a.tf.tfupgrade.backup".toList], .file 0o600 []), (["b.tf".toList], .file 0o644 staleSource),
      (["b.tf.tfupgrade.tmp".toList], .file 0o444 [])]
  user := { home := [] }

theorem isTree_neighbourStore : neighbourStore.IsTree where
  distinct := by decide
  names := by decide
  links := by simp [neighbourStore]

theorem run_isolated_neighbours : ∃ reports s',
    run { backup := true } neighbourStore ⟨false, []⟩ = (.ok reports, s') ∧
      List.Forall₂ (fun p report => reportOf { backup := true } neighbourStore p = .ok report)
        [⟨false, ["a.tf".toList]⟩, ⟨false, ["b.tf".toList]⟩] reports ∧
      SameTree s' (afterCalls { backup := true } neighbourStore
        [⟨false, ["b.tf".toList]⟩, ⟨false, ["a.tf".toList]⟩]) := by
  have hdiscover : discover neighbourStore ⟨false, []⟩ =
      .ok [⟨false, ["a.tf".toList]⟩, ⟨false, ["b.tf".toList]⟩] :=
    (discover_flat (q := []) (by decide +kernel) rfl rfl rfl (by decide +kernel) (by decide +kernel)).trans
      (by decide +kernel)
  have hreported : ∀ p ∈ [(⟨false, ["a.tf".toList]⟩ : Path), ⟨false, ["b.tf".toList]⟩],
      (reportOf { backup := true } neighbourStore p).isOk = true := by decide +kernel
  obtain ⟨hreports, halone, -, horders⟩ := run_isolated { backup := true } isTree_neighbourStore hdiscover
  obtain ⟨reports, s', hrun⟩ := hreports.2 fun p hp e he => by
    have hok := hreported p hp
    rw [reportOf_eq_error.2 he] at hok
    cases hok
  obtain ⟨hs', halone⟩ := halone reports s' hrun
  refine ⟨reports, s', hrun, halone, ?_⟩
  rw [hs']
  exact (horders _ (List.Perm.swap _ _ [])).1

theorem isTree_longNameStore : longNameStore.IsTree where
  distinct := by
    have hne : longName ≠ ['b', '.', 't', 'f'] := fun h => by
      have hlength := congrArg List.length h
      rw [longName, List.length_append, List.length_replicate] at hlength
      exact absurd hlength (by decide)
    simp [longNameStore, hne]
  names := by
    have hlong : IsName longName := isName_append (by decide)
    have hother : IsName ['b', '.', 't', 'f'] := by decide
    simp [longNameStore, hlong, hother]
  links := by simp [longNameStore]

/-- A file that would be upgraded alone has no report in a run that stops in front of it, and is upgraded or not by its
turn. -/
theorem run_not_isolated :
    longNameStore.IsTree ∧
      discover longNameStore ⟨false, []⟩ = .ok [⟨false, [longName]⟩, ⟨false, ["b.tf".toList]⟩] ∧
      (∀ reports s', run { backup := true } longNameStore ⟨false, []⟩ ≠ (.ok reports, s')) ∧
      (reportOf { backup := true } longNameStore ⟨false, ["b.tf".toList]⟩).toOption.map Report.status =
        some .upgraded ∧
      ¬SameTree
        (processFiles { backup := true } longNameStore [⟨false, [longName]⟩, ⟨false, ["b.tf".toList]⟩]).2
        (processFiles { backup := true } longNameStore [⟨false, ["b.tf".toList]⟩, ⟨false, [longName]⟩]).2 := by
  have hrefused := processFile_eq_error.2 nameless_longName
  refine ⟨isTree_longNameStore, discover_longName, ?_, by decide +kernel, ?_⟩
  · intro reports s' hrun
    rw [run_of_discover _ discover_longName, processFiles, hrefused] at hrun
    cases hrun
  · intro hsame
    have hentry := hsame.entries ["b.tf".toList]
    revert hentry
    decide +kernel

end JujuMigration
