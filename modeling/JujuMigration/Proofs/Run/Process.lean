import JujuMigration.Proofs.Run.Replace
import JujuMigration.Proofs.Upgrade.Truth
/-! One file of a run. Processing it comes to one of a few things: there is no upgrade of it, or none is needed, or the
upgraded file is stored, behind a backup or without one, or no name for the backup can be looked up. Whichever it is,
only the target's entry, that of a new backup and those that have to do with the temporary path can change. -/

namespace JujuMigration

open Store Process

namespace Report

/-- What upgrading the file has come to; a file that was not processed has no record. -/
def record : Report → Record
  | failed .. => {}
  | processed p => p.record

def backup : Report → Backup
  | failed .. => .none
  | processed p => p.backup

end Report

variable {settings : Settings} {s s' s₁ : Store} {p : Path} {q r : Place} {mode : FileMode} {source content : Bytes}
  {up : Upgraded} {backup : Backup} {writing : Writing}

/-- The store behind the processing of a file. A refusal that escapes comes before anything is changed. -/
def afterCall (settings : Settings) (s : Store) (p : Path) : Store :=
  match processFile settings s p with
  | .ok (_, s') => s'
  | .error _ => s

/-- The store after calls on files, one after the other. -/
def afterCalls (settings : Settings) (s : Store) (files : List Path) : Store := files.foldl (afterCall settings) s

/-- Something holds of each file at its turn, when those in front of it have been processed. -/
def AtEachTurn (settings : Settings) (holds : Store → Path → Prop) : Store → List Path → Prop
  | _, [] => True
  | s, p :: files => holds s p ∧ AtEachTurn settings holds (afterCall settings s p) files

instance decidableAtEachTurn (settings : Settings) (holds : Store → Path → Prop) [∀ s p, Decidable (holds s p)] :
    (s : Store) → (files : List Path) → Decidable (AtEachTurn settings holds s files)
  | _, [] => .isTrue trivial
  | s, p :: files =>
    have := decidableAtEachTurn settings holds (afterCall settings s p) files
    inferInstanceAs (Decidable (_ ∧ _))

theorem exists_report {α : Type} {f : Report × Store → α} {x : α}
    (h : (processFile settings s p).toOption.map f = some x) :
    ∃ report s', processFile settings s p = .ok (report, s') ∧ f (report, s') = x := by
  cases hdone : processFile settings s p with
  | error e =>
      rw [hdone] at h
      cases h
  | ok done =>
      rw [hdone] at h
      exact ⟨done.1, done.2, rfl, Option.some.inj h⟩

namespace Process

/-! ### Steps -/

theorem readFile_eq_ok : readFile s p = .ok (mode, source) ↔
    s.stat p = .ok (.file mode source) ∧ s.allows mode .read = true := by
  unfold readFile
  cases hstat : s.stat p with
  | error r => simp [bind, Except.bind]
  | ok e =>
      cases hread : s.read p with
      | error r =>
          simp only [bind, Except.bind]
          refine iff_of_false nofun fun h => ?_
          have hok := Store.read_eq_ok.2 ⟨mode, hstat.trans h.1, h.2⟩
          rw [hread] at hok
          cases hok
      | ok bytes =>
          obtain ⟨mode', hfile, hmode⟩ := Store.read_eq_ok.1 hread
          obtain rfl : e = .file mode' bytes := Except.ok.inj (hstat.symm.trans hfile)
          simp only [bind, Except.bind, Entry.mode, Except.ok.injEq, Prod.mk.injEq, Entry.file.injEq]
          constructor
          · rintro ⟨rfl, rfl⟩
            exact ⟨⟨rfl, rfl⟩, hmode⟩
          · exact And.left

/-- A file can be read, and has this upgrade. -/
structure Upgrades (s : Store) (p : Path) (mode : FileMode) (source : Bytes) (up : Upgraded) : Prop where
  read : readFile s p = .ok (mode, source)
  upgrade : upgradeFile p.toText source = .ok up

theorem Upgrades.stat (h : Upgrades s p mode source up) : s.stat p = .ok (.file mode source) :=
  (readFile_eq_ok.1 h.read).1

theorem Upgrades.unique {mode' : FileMode} {source' : Bytes} {up' : Upgraded} (h : Upgrades s p mode source up)
    (h' : Upgrades s p mode' source' up') : mode = mode' ∧ source = source' ∧ up = up' := by
  obtain ⟨rfl, rfl⟩ := Prod.mk.inj (Except.ok.inj (h.read.symm.trans h'.read))
  exact ⟨rfl, rfl, Except.ok.inj (h.upgrade.symm.trans h'.upgrade)⟩

/-- Why a file has no upgrade: its path is none, it cannot be read, or it cannot be parsed. -/
inductive NoUpgrade (s : Store) (p : Path) : Failure → String → Prop
  | path (hread : readFile s p = .error .nulByte) : NoUpgrade s p .path (Refusal.nulByte.message p.toText)
  | read {r : Refusal} (hread : readFile s p = .error r) (hr : r ≠ .nulByte) :
      NoUpgrade s p .read (r.message p.toText)
  | parse {mode : FileMode} {source : Bytes} {e : ParseError} (hread : readFile s p = .ok (mode, source))
      (hup : upgradeFile p.toText source = .error e) : NoUpgrade s p .parse e.message

theorem NoUpgrade.not_upgrades {why : Failure} {message : String} (h : NoUpgrade s p why message) :
    ¬Upgrades s p mode source up := by
  intro hup
  cases h with
  | path hread | read hread =>
      rw [hup.read] at hread
      cases hread
  | parse hread herror =>
      obtain ⟨rfl, rfl⟩ := Prod.mk.inj (Except.ok.inj (hup.read.symm.trans hread))
      rw [hup.upgrade] at herror
      cases herror

/-- What becomes of the backup: the store that the file is replaced in, and what the report says. -/
inductive BackedUp (settings : Settings) (s : Store) (p : Path) (mode : FileMode) (source : Bytes) :
    Backup → Store → Prop
  | off (hsettings : settings.backup = false) : BackedUp settings s p mode source .none s
  | failed {n : Nat} (hsettings : settings.backup = true) (hends : SearchEnds s p n)
      (hfree : s.exists? (backupPath p n) = .ok false) {refused : Refusal × Path}
      (hcopy : s.copy p (backupPath p n) = .error refused) (message : String) :
      BackedUp settings s p mode source (.failed message) s
  | created {n : Nat} {q : Place} {s₁ : Store} (hsettings : settings.backup = true) (hends : SearchEnds s p n)
      (hfree : s.exists? (backupPath p n) = .ok false) (hplace : s.place .writing (backupPath p n) = .ok q)
      (hadds : Adds s q mode source s₁) : BackedUp settings s p mode source (.created (backupPath p n)) s₁

/-- How an upgraded file is stored: not at all in a dry run; else it is replaced behind its backup, if there is a name
for one. -/
inductive Storing (settings : Settings) (s : Store) (p : Path) (mode : FileMode) (source content : Bytes) :
    Except Escape (Store × Backup × Writing) → Prop
  | dry (hdry : settings.dryRun = true) : Storing settings s p mode source content (.ok (s, .none, .none))
  | replaced {backup : Backup} {s₁ : Store} (hdry : settings.dryRun = false)
      (hbacked : BackedUp settings s p mode source backup s₁) : Storing settings s p mode source content
        (.ok ((replace s₁ p content mode).1, backup, (replace s₁ p content mode).2))
  | escaped {n : Nat} {refusal : Refusal} (hdry : settings.dryRun = false) (hsettings : settings.backup = true)
      (hends : SearchEnds s p n) (hrefused : s.exists? (backupPath p n) = .error refusal) :
      Storing settings s p mode source content (.error ⟨refusal, backupPath p n⟩)

theorem storing (settings : Settings) (hsource : s.stat p = .ok (.file mode source)) (content : Bytes) :
    Storing settings s p mode source content (Process.store settings s p mode content) := by
  unfold Process.store
  cases hdry : settings.dryRun with
  | true => exact .dry hdry
  | false =>
      cases hsettings : settings.backup with
      | false => exact .replaced hdry (.off hsettings)
      | true =>
          obtain ⟨n, hn, hends, hsearch⟩ := search_ends s p
          simp only [searchResult] at hsearch
          rw [hsearch (s.entries.length + 1) (Nat.lt_succ_of_le hn)]
          rcases hexists : s.exists? (backupPath p n) with refusal | (_ | _)
          · exact .escaped hdry hsettings hends hexists
          · obtain ⟨refused, message, hcopy, hmade⟩ | ⟨q, s₁, hplace, hadds, hmade⟩ := makeBackup_cases hsource hexists
            · simp only [bind, Except.bind, hmade]
              exact .replaced hdry (.failed hsettings hends hexists hcopy message)
            · simp only [bind, Except.bind, hmade]
              exact .replaced hdry (.created hsettings hends hexists hplace hadds)
          · exact absurd hexists hends.ends

/-- The report on a file that has been read and upgraded. -/
def upgradeReport (settings : Settings) (p : Path) (source : Bytes) (up : Upgraded) (backup : Backup)
    (writing : Writing) : Processed :=
  { path := p
    dryRun := settings.dryRun
    source := textOf source
    record := up.record
    upgraded := if up.record.wasUpgraded then some (textOf up.content) else none
    backup := backup
    writing := writing }

/-- How a file is processed: there is no upgrade of it to be had, or one that changes nothing, or one that is stored. -/
inductive Processing (settings : Settings) (s : Store) (p : Path) : Except Escape (Report × Store) → Prop
  | unread {why : Failure} {message : String} (hnone : NoUpgrade s p why message) :
      Processing settings s p (.ok (.failed p why message, s))
  | unchanged {mode : FileMode} {source : Bytes} {up : Upgraded} (hup : Upgrades s p mode source up)
      (hrecord : up.record.wasUpgraded = false) :
      Processing settings s p (.ok (.processed (upgradeReport settings p source up .none .none), s))
  | stored {mode : FileMode} {source : Bytes} {up : Upgraded} {s' : Store} {backup : Backup} {writing : Writing}
      (hup : Upgrades s p mode source up) (hrecord : up.record.wasUpgraded = true)
      (hstoring : Storing settings s p mode source up.content (.ok (s', backup, writing))) :
      Processing settings s p (.ok (.processed (upgradeReport settings p source up backup writing), s'))
  | escaped {mode : FileMode} {source : Bytes} {up : Upgraded} {e : Escape}
      (hup : Upgrades s p mode source up) (hrecord : up.record.wasUpgraded = true)
      (hstoring : Storing settings s p mode source up.content (.error e)) : Processing settings s p (.error e)

theorem processing (settings : Settings) (s : Store) (p : Path) :
    Processing settings s p (processFile settings s p) := by
  unfold processFile
  split
  · next hread => exact .unread (.path hread)
  · next r hnul hread => exact .unread (.read hread hnul)
  · next mode source hread =>
      split
      · next hup => exact .unread (.parse hread hup)
      · next up hup =>
          show Processing settings s p
            (if up.record.wasUpgraded then
              (Process.store settings s p mode up.content).bind fun stored =>
                .ok (.processed (upgradeReport settings p source up stored.2.1 stored.2.2), stored.1)
            else .ok (.processed (upgradeReport settings p source up .none .none), s))
          split
          · next hrecord =>
              have hstoring := storing settings (readFile_eq_ok.1 hread).1 up.content
              generalize Process.store settings s p mode up.content = result at hstoring ⊢
              rcases result with e | ⟨s', backup, writing⟩
              · exact .escaped ⟨hread, hup⟩ hrecord hstoring
              · exact .stored ⟨hread, hup⟩ hrecord hstoring
          · next hrecord => exact .unchanged ⟨hread, hup⟩ (Bool.eq_false_iff.2 hrecord)

/-! ### The backup and the temporary file -/

theorem BackedUp.sameWays (h : BackedUp settings s p mode source backup s₁) : SameWays s s₁ := by
  cases h with
  | off | failed => exact .refl s
  | created _ _ _ _ hadds => exact hadds.sameWays

/-- A backup changes the place that its path leads to, where nothing was. -/
theorem BackedUp.changes (h : BackedUp settings s p mode source backup s₁) (hq : s₁.entry? q ≠ s.entry? q) :
    ∃ b, backup = .created b ∧ s.place .writing b = .ok q ∧ s.entry? q = none ∧
      s₁.entry? q = some (.file mode source) := by
  cases h with
  | off | failed => exact absurd rfl hq
  | created _ _ _ hplace hadds =>
      have hentry := hadds.entry q
      split at hentry
      · next he => exact ⟨_, rfl, he ▸ hplace, he ▸ hadds.absent, hentry⟩
      · exact absurd hentry hq

/-- A backup is made where backups are wanted, under one of the names for them. -/
theorem BackedUp.exists_name (h : BackedUp settings s p mode source backup s₁) :
    ∃ n, ∀ b, backup = .created b → settings.backup = true ∧ b = backupPath p n := by
  cases h with
  | off | failed => exact ⟨0, nofun⟩
  | @created n _ _ hsettings => exact ⟨n, fun b hb => ⟨hsettings, (Backup.created.inj hb).symm⟩⟩

/-- If nothing stands at the temporary path, then whatever the backup puts there may be removed. -/
theorem BackedUp.ownsTemporary (h : BackedUp settings s p mode source backup s₁)
    (hfree : s.IsFree (temporaryPath p)) : OwnsTemporary s₁ p := by
  intro x hx
  have hx := h.sameWays.place_iff.1 hx
  refine ⟨by rw [h.sameWays.ways]; exact wayAt?_eq_none.2 (.inl (hfree x hx)), fun hne => ?_⟩
  cases h with
  | off | failed => exact absurd (hfree x hx) hne
  | @created n q _ _ _ _ _ hadds =>
      obtain rfl : x = q := by
        by_contra hxq
        rw [hadds.entry, if_neg hxq] at hne
        exact hne (hfree x hx)
      rw [hadds.bar?_eq (temporary_dropLast_ne hx)]
      exact hadds.bar

/-- What a replacement behind a backup makes of an entry, if nothing stands at the temporary path: it is as it was, or
it is the new backup, or it is the target's, with the new content. -/
theorem BackedUp.entry_replace (h : BackedUp settings s p mode source backup s₁) (hfree : s.IsFree (temporaryPath p))
    (content : Bytes) (q : Place) :
    Store.entry? (replace s₁ p content mode).1 q = s.entry? q ∨
      (∃ b, backup = .created b ∧ s.place .writing b = .ok q ∧ s.entry? q = none ∧
        Store.entry? (replace s₁ p content mode).1 q = some (.file mode source)) ∨
      (replace s₁ p content mode).2 = .done ∧ s.place .entry p = .ok q ∧
        Store.entry? (replace s₁ p content mode).1 q = some (.file mode content) := by
  have howns := h.ownsTemporary hfree
  have hways := h.sameWays
  -- What the replacement leaves alone is as the backup has left it.
  have hkept (hq : Store.entry? (replace s₁ p content mode).1 q = s₁.entry? q) :
      Store.entry? (replace s₁ p content mode).1 q = s.entry? q ∨
        ∃ b, backup = .created b ∧ s.place .writing b = .ok q ∧ s.entry? q = none ∧
          Store.entry? (replace s₁ p content mode).1 q = some (.file mode source) := by
    rw [hq]
    by_cases hs₁ : s₁.entry? q = s.entry? q
    · exact .inl hs₁
    · exact .inr (h.changes hs₁)
  -- What it removes was not there before the backup.
  have hremoved (hx : s₁.place .entry (temporaryPath p) = .ok q)
      (hq : Store.entry? (replace s₁ p content mode).1 q = none) :
      Store.entry? (replace s₁ p content mode).1 q = s.entry? q := by
    rw [hq, hfree q (hways.place_iff.1 hx)]
  by_cases hdone : (replace s₁ p content mode).2 = .done
  · obtain ⟨x, t, hx, ht, hentry⟩ := replace_done howns hdone
    by_cases hqt : q = t
    · exact .inr (.inr ⟨hdone, hqt ▸ hways.place_iff.1 ht, by rw [hentry, if_pos hqt]⟩)
    by_cases hqx : q = x
    · exact .inl (hremoved (hqx ▸ hx) (by rw [hentry, if_neg hqt, if_pos hqx]))
    · exact (hkept (by rw [hentry, if_neg hqt, if_neg hqx])).imp_right .inl
  · rcases replace_failed howns hdone q with hq | ⟨hx, hq⟩
    · exact (hkept hq).imp_right .inl
    · exact .inl (hremoved hx hq)

theorem BackedUp.user_replace (h : BackedUp settings s p mode source backup s₁) (content : Bytes) :
    (replace s₁ p content mode).1.user = s.user :=
  (replace_changes s₁ p content mode).1.trans h.sameWays.user

/-- Apart from the target's own place, the ways stay as they were. -/
theorem BackedUp.wayAt?_replace (h : BackedUp settings s p mode source backup s₁)
    (hfree : s.IsFree (temporaryPath p)) (content : Bytes) (hq : s.place .entry p ≠ .ok q) :
    (replace s₁ p content mode).1.wayAt? q = s.wayAt? q := by
  rcases h.entry_replace hfree content q with hsame | ⟨b, -, -, habsent, hfile⟩ | ⟨-, ht, -⟩
  · exact wayAt?_congr (h.user_replace content) hsame
  · rw [wayAt?_eq_none.2 (.inl habsent), wayAt?_eq_none.2 (.inr ⟨_, _, hfile⟩)]
  · exact absurd ht hq

/-- Behind a replacement paths lead to where they led, but for those to a file that the target was a link to. -/
theorem BackedUp.place_replace (h : BackedUp settings s p mode source backup s₁) (hfree : s.IsFree (temporaryPath p))
    (hsource : s.stat p = .ok (.file mode source)) (content : Bytes) {purpose : Purpose} {path : Path}
    (hplace : s.place purpose path = .ok r)
    (hr : purpose ≠ .entry → s.place .target p = .ok r → s.place .entry p = .ok r) :
    (replace s₁ p content mode).1.place purpose path = .ok r := by
  obtain ⟨t, ht, -⟩ := stat_eq_ok.1 hsource
  obtain ⟨q, hq⟩ := exists_place_entry ht
  have huser := h.user_replace content
  have hways (r : Place) (hr : r ≠ q) : (replace s₁ p content mode).1.wayAt? r = s.wayAt? r :=
    h.wayAt?_replace hfree content fun he => hr (Except.ok.inj (he.symm.trans hq))
  by_cases hway : (replace s₁ p content mode).1.wayAt? q = s.wayAt? q
  · have hsame : SameWays s (replace s₁ p content mode).1 := by
      refine ⟨huser, funext fun r => ?_⟩
      by_cases hr : r = q
      · rw [hr, hway]
      · exact hways r hr
    exact hsame.place_iff.2 hplace
  · refine place_replaced hsource hq huser hways ?_ hplace hr
    rcases h.entry_replace hfree content q with hsame | ⟨b, -, -, -, hfile⟩ | ⟨-, -, hfile⟩
    · exact absurd (wayAt?_congr huser hsame) hway
    · exact wayAt?_eq_none.2 (.inr ⟨_, _, hfile⟩)
    · exact wayAt?_eq_none.2 (.inr ⟨_, _, hfile⟩)

end Process

/-- Processing a file changes no entry but the target's and that of a new backup. If something stands at the temporary
path already, its own entry and what it leads to may change as well. -/
theorem processFile_frame (settings : Settings) (s : Store) (p : Path) :
    (afterCall settings s p).user = s.user ∧ ∃ n, ∀ q, Store.entry? (afterCall settings s p) q ≠ s.entry? q →
      s.place .entry p = .ok q ∨
        settings.backup = true ∧ s.place .writing (backupPath p n) = .ok q ∧ s.entry? q = none ∨
        ¬s.IsFree (temporaryPath p) ∧
          (s.place .entry (temporaryPath p) = .ok q ∨ s.place .writing (temporaryPath p) = .ok q) := by
  have hprocessing := processing settings s p
  unfold afterCall
  generalize processFile settings s p = result at hprocessing ⊢
  cases hprocessing with
  | unread | unchanged | escaped => exact ⟨rfl, 0, fun q hq => absurd rfl hq⟩
  | @stored mode _ up _ backup _ _ _ hstoring =>
      cases hstoring with
      | dry => exact ⟨rfl, 0, fun q hq => absurd rfl hq⟩
      | @replaced _ s₁ _ hbacked =>
          have hways := hbacked.sameWays
          obtain ⟨huser, htouched⟩ := replace_changes s₁ p up.content mode
          obtain ⟨n, hname⟩ := hbacked.exists_name
          have hnew {b : Path} {q : Place} (hb : backup = .created b) (hplace : s.place .writing b = .ok q)
              (habsent : s.entry? q = none) :
              settings.backup = true ∧ s.place .writing (backupPath p n) = .ok q ∧ s.entry? q = none := by
            obtain ⟨hsettings, rfl⟩ := hname b hb
            exact ⟨hsettings, hplace, habsent⟩
          refine ⟨huser.trans hways.user, n, fun q hq => ?_⟩
          dsimp only at hq
          by_cases hfree : s.IsFree (temporaryPath p)
          · rcases hbacked.entry_replace hfree up.content q with h | ⟨b, hb, hplace, habsent, -⟩ | ⟨-, hplace, -⟩
            · exact absurd h hq
            · exact .inr (.inl (hnew hb hplace habsent))
            · exact .inl hplace
          by_cases hs₁ : s₁.entry? q = s.entry? q
          · rw [← hs₁] at hq
            rcases htouched q hq with hx | hw | ⟨-, ht⟩
            · exact .inr (.inr ⟨hfree, .inl (hways.place_iff.1 hx)⟩)
            · exact .inr (.inr ⟨hfree, .inr (hways.place_iff.1 hw)⟩)
            · exact .inl (hways.place_iff.1 ht)
          · obtain ⟨b, hb, hplace, habsent, -⟩ := hbacked.changes hs₁
            exact .inr (.inl (hnew hb hplace habsent))

/-- A resource with an attribute to rename. -/
def staleSource : Bytes :=
  Utf8.encode "resource \"juju_machine\" \"m\" \x7b\n  model = juju_model.m.name\n\x7d\n".toList

/-- A file to upgrade, another one, and a link to the other one at the temporary path. -/
def linkedStore : Store where
  entries :=
    [([], .directory 0o755), (["a.tf".toList], .file 0o644 staleSource), (["o.tf".toList], .file 0o600 staleSource),
      (["a.tf.tfupgrade.tmp".toList], .link "o.tf".toList)]
  user := { home := [] }

theorem processFile_frame_linked :
    Store.entry? (afterCall {} linkedStore (Path.literal "a.tf".toList)) ["o.tf".toList] ≠
        linkedStore.entry? ["o.tf".toList] ∧
      ¬linkedStore.IsFree (temporaryPath (Path.literal "a.tf".toList)) ∧
      linkedStore.place .writing (temporaryPath (Path.literal "a.tf".toList)) = .ok ["o.tf".toList] := by
  have hchanged : Store.entry? (afterCall {} linkedStore (Path.literal "a.tf".toList)) ["o.tf".toList] ≠
      linkedStore.entry? ["o.tf".toList] := by decide +kernel
  obtain ⟨-, n, hframe⟩ := processFile_frame {} linkedStore (Path.literal "a.tf".toList)
  refine ⟨hchanged, ?_⟩
  rcases hframe _ hchanged with htarget | ⟨hbackup, -⟩ | ⟨hfree, hentry | hwriting⟩
  · exact absurd htarget (by decide +kernel)
  · cases hbackup
  · exact absurd hentry (by decide +kernel)
  · exact ⟨hfree, hwriting⟩

/-- The other file is changed, which is neither the target nor a backup. -/
theorem processFile_writes_linked :
    linkedStore.place .entry (Path.literal "a.tf".toList) = .ok ["a.tf".toList] ∧
      linkedStore.entry? ["o.tf".toList] = some (.file 0o600 staleSource) ∧
      Store.entry? (afterCall {} linkedStore (Path.literal "a.tf".toList)) ["o.tf".toList] ≠
        linkedStore.entry? ["o.tf".toList] := by
  decide +kernel

end JujuMigration
