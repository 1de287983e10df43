import JujuMigration.Proofs.Run.Backup
/-! Replacing a file. The new content is written to the temporary path and then moved onto the target. Whatever stood
at the temporary path, no other places are touched than its own, the one that it leads to and, if all goes well, the
target's. If nothing stood there, a replacement that fails leaves the store as it was, and one that does not leaves the
target with the new content and nothing at the temporary path. -/

namespace JujuMigration

namespace Store

/-- Nothing stands at a path, not even a link. -/
def IsFree (s : Store) (p : Path) : Prop := ∀ q, s.place .entry p = .ok q → s.entry? q = none

instance (s : Store) (p : Path) : Decidable (s.IsFree p) :=
  decidable_of_iff ((s.place .entry p).toOption.all (fun q => (s.entry? q).isNone) = true) <| by
    rw [IsFree]
    cases s.place .entry p <;> simp [Except.toOption]

/-- What a path leads to is its own entry where nothing stands. -/
theorem place_entry_of_isFree {s : Store} {p : Path} {q : Place} (h : s.IsFree p) (hq : s.place .target p = .ok q) :
    s.place .entry p = .ok q :=
  place_entry_of_end hq fun r hr => wayAt?_eq_none.2 (.inl (h r hr))

end Store

namespace Process

open Store

variable {s s' : Store} {p temporary : Path} {q r x : Place} {mode : FileMode} {content : Bytes} {message : String}
  {outcome : Writing}

/-! ### The temporary path -/

theorem isName_temporary (p : Path) : IsName (p.name ++ temporaryEnding) := isName_append (by decide)

/-- The temporary file is in a directory, and not the directory itself. -/
theorem temporary_place (h : s.place .entry (temporaryPath p) = .ok x) :
    ∃ d, Leads s.wayAt? .target maxLinks (s.base p) p.parts.dropLast d ∧ x = d ++ [p.name ++ temporaryEnding] :=
  place_withName h (isName_temporary p)

theorem append_singleton_ne (d : Place) (name : Text) : d ++ [name] ≠ d ∧ d ++ [name] ≠ d.dropLast := by
  constructor <;> intro h
  all_goals
    have hlength := congrArg List.length h
    rw [List.length_append, List.length_singleton] at hlength
    try rw [List.length_dropLast] at hlength
    omega

/-- The temporary path is not the target's. -/
theorem temporary_ne (hx : s.place .entry (temporaryPath p) = .ok x) (hq : s.place .entry p = .ok q) : x ≠ q := by
  obtain ⟨d, hd, rfl⟩ := temporary_place hx
  have hleads := (place_eq_ok.1 hq).2
  obtain hnil | ⟨front, part, hparts⟩ := List.eq_nil_or_concat p.parts
  · rw [hnil] at hd hleads
    cases hd
    cases hleads
    exact (append_singleton_ne _ _).1
  · rw [List.concat_eq_append] at hparts
    rw [hparts, List.dropLast_concat] at hd
    rw [hparts] at hleads
    obtain ⟨d', rest, hd', hpart⟩ := hleads.split _ (List.cons_ne_nil _ _)
    obtain rfl := hd.unique hd'
    by_cases hn : IsName part
    · rw [hpart.of_isName hn, Path.name, hparts, List.getLast?_concat]
      intro h
      have hname : part ++ temporaryEnding = part := by simpa using h
      exact absurd (List.append_cancel_left (hname.trans (List.append_nil part).symm)) (by decide)
    · rw [hpart.of_not_isName hn]
      split
      · exact (append_singleton_ne _ _).2
      · exact (append_singleton_ne _ _).1

theorem temporary_dropLast_ne (hx : s.place .entry (temporaryPath p) = .ok x) : x.dropLast ≠ x := by
  obtain ⟨d, -, rfl⟩ := temporary_place hx
  rw [List.dropLast_concat]
  exact (append_singleton_ne d _).1.symm

theorem backupName_ne_temporary (name other : Text) (n : Nat) : backupName name n ≠ other ++ temporaryEnding := by
  obtain ⟨front, hfront⟩ : ∃ front, backupName name n = front ++ backupEnding := by
    cases n with
    | zero => exact ⟨name, rfl⟩
    | succ n => exact ⟨name ++ '-' :: Nat.toDigits 10 (n + 1), by simp [backupName]⟩
  intro h
  have hup : "up".toList <:+ backupEnding := by decide
  have hend : "up".toList <:+ other ++ temporaryEnding := by
    rw [← h, hfront]
    exact hup.trans (List.suffix_append front backupEnding)
  exact absurd (List.suffix_of_suffix_length_le hend (List.suffix_append _ _) (by decide)) (by decide)

/-- A backup's own place is not that of the temporary path. -/
theorem temporary_ne_backup {n : Nat} (hq : s.place .entry (backupPath p n) = .ok q) :
    s.place .entry (temporaryPath p) ≠ .ok q := by
  rw [backupPath_eq] at hq
  obtain ⟨d, hd, rfl⟩ := place_withName hq (isName_backupName p.name n)
  intro hx
  obtain ⟨d', hd', hname⟩ := temporary_place hx
  obtain rfl := hd.unique hd'
  exact backupName_ne_temporary p.name p.name n (by simpa using List.append_cancel_left hname)

/-! ### Giving up -/

/-- What is given up on leaves at most the temporary path without its entry. -/
theorem abandon_cases (s : Store) (temporary : Path) (message : String) : ∃ reason,
    abandon s temporary message = (s, .failed reason) ∨
      ∃ x, s.place .entry temporary = .ok x ∧ abandon s temporary message = (s.clear x, .failed reason) := by
  unfold abandon
  split
  · exact ⟨_, .inl rfl⟩
  · exact ⟨_, .inl rfl⟩
  · split
    · next hremove =>
        obtain ⟨x, e, hx, -, -, -, rfl⟩ := remove_eq_ok.1 hremove
        exact ⟨_, .inr ⟨x, hx, rfl⟩⟩
    · exact ⟨_, .inl rfl⟩

/-- A file at the temporary path is removed. -/
theorem abandon_file {old : Bytes} (hx : s.place .entry temporary = .ok x) (hentry : s.entry? x = some (.file mode old))
    (hbar : s.bar? x = none) (message : String) : (abandon s temporary message).1 = s.clear x := by
  have htarget := place_toTarget_of_entry hx fun target hlink => by simp [wayAt?_link.1 hlink] at hentry
  have hexists : s.exists? temporary = .ok true :=
    exists?_eq_true.2 ⟨_, stat_eq_ok.2 ⟨x, htarget, hentry⟩⟩
  have hremove : s.remove temporary = .ok (s.clear x) :=
    remove_eq_ok.2 ⟨x, _, hx, hentry, hbar, rfl, rfl⟩
  simp only [abandon, hexists, hremove]

/-! ### The steps of a replacement -/

/-- How a replacement goes: it is refused at once, or the temporary file cannot be written, or it is written and then
moved, or given up on because it cannot be given its mode or be moved. -/
inductive Replacing (s : Store) (p : Path) (content : Bytes) (mode : FileMode) : Store × Writing → Prop
  | refused (message : String) : Replacing s p content mode (s, .failed message)
  | unwritten (message : String) : Replacing s p content mode (abandon s (temporaryPath p) message)
  | unmoved {w : Place} {made mode' : FileMode} {s₁ : Store} (hplace : s.place .writing (temporaryPath p) = .ok w)
      (hwritable : s.Writable w made) (hwrote : Wrote s w mode' content s₁) (message : String) :
      Replacing s p content mode (abandon s₁ (temporaryPath p) message)
  | moved {w : Place} {made : FileMode} {s₁ s' : Store} (hplace : s.place .writing (temporaryPath p) = .ok w)
      (hwritable : s.Writable w made) (hwrote : Wrote s w mode content s₁)
      (hrename : s₁.rename (temporaryPath p) p = .ok s') : Replacing s p content mode (s', .done)

theorem replacing (s : Store) (p : Path) (content : Bytes) (mode : FileMode) :
    Replacing s p content mode (replace s p content mode) := by
  unfold replace
  dsimp only
  split
  · exact .refused _
  · split
    · exact .unwritten _
    · next s₁ hwrite =>
        obtain ⟨w, made, hplace, hwritable, rfl⟩ := of_write hwrite
        have hwrote := wrote_put s w made content
        have hways := hwrote.sameWays hwritable.wayAt?
        rw [setMode_file (hways.place_iff.2 (place_toTarget hplace nofun)) hwrote.entry_self mode]
        by_cases howns : (s.put w (.file made content)).owns w = true
        · rw [if_pos howns]
          dsimp only
          split
          · exact .unmoved hplace hwritable (hwrote.again mode content) _
          · next hrename => exact .moved hplace hwritable (hwrote.again mode content) hrename
        · rw [if_neg howns]
          exact .unmoved hplace hwritable hwrote _

/-! ### What is touched -/

/-- What a failure leaves behind differs at the temporary path's own place at most. -/
theorem abandon_changes (s : Store) (temporary : Path) (message : String) :
    (abandon s temporary message).1.user = s.user ∧
      ∀ r, Store.entry? (abandon s temporary message).1 r ≠ s.entry? r → s.place .entry temporary = .ok r := by
  obtain ⟨reason, h | ⟨x, hx, h⟩⟩ := abandon_cases s temporary message
  · rw [h]
    exact ⟨rfl, fun r hr => absurd rfl hr⟩
  · rw [h]
    refine ⟨rfl, fun r hr => ?_⟩
    rw [entry?_clear] at hr
    split at hr
    · next he => rwa [he]
    · exact absurd rfl hr

theorem abandon_outcome (s : Store) (temporary : Path) (message : String) :
    ∃ reason, (abandon s temporary message).2 = .failed reason := by
  obtain ⟨reason, h | ⟨x, hx, h⟩⟩ := abandon_cases s temporary message <;> exact ⟨reason, by rw [h]⟩

/-- A replacement is done or says why it has failed. -/
theorem replace_outcome (s : Store) (p : Path) (content : Bytes) (mode : FileMode) :
    (replace s p content mode).2 = .done ∨ ∃ reason, (replace s p content mode).2 = .failed reason := by
  have hreplacing := replacing s p content mode
  generalize replace s p content mode = result at hreplacing ⊢
  cases hreplacing with
  | refused message => exact .inr ⟨message, rfl⟩
  | unwritten | unmoved => exact .inr (abandon_outcome _ _ _)
  | moved => exact .inl rfl

/-- A replacement touches the temporary path's own place, the place that it leads to, and the target's if all goes
well. -/
theorem replace_changes (s : Store) (p : Path) (content : Bytes) (mode : FileMode) :
    (replace s p content mode).1.user = s.user ∧
      ∀ r, Store.entry? (replace s p content mode).1 r ≠ s.entry? r →
        s.place .entry (temporaryPath p) = .ok r ∨ s.place .writing (temporaryPath p) = .ok r ∨
          (replace s p content mode).2 = .done ∧ s.place .entry p = .ok r := by
  have hreplacing := replacing s p content mode
  generalize replace s p content mode = result at hreplacing ⊢
  cases hreplacing with
  | refused => exact ⟨rfl, fun r hr => absurd rfl hr⟩
  | unwritten message =>
      obtain ⟨huser, hchanges⟩ := abandon_changes s (temporaryPath p) message
      exact ⟨huser, fun r hr => .inl (hchanges r hr)⟩
  | @unmoved w _ _ s₁ hplace hwritable hwrote message =>
      have hways := hwrote.sameWays hwritable.wayAt?
      obtain ⟨huser, hchanges⟩ := abandon_changes s₁ (temporaryPath p) message
      refine ⟨huser.trans hways.user, fun r hr => ?_⟩
      by_cases hw : r = w
      · exact .inr (.inl (hw ▸ hplace))
      · refine .inl (hways.place_iff.1 (hchanges r ?_))
        rwa [hwrote.entry, if_neg hw]
  | @moved w _ _ s' hplace hwritable hwrote hrename =>
      have hways := hwrote.sameWays hwritable.wayAt?
      obtain ⟨x, q, e, hx, hq, -, -, rfl⟩ := of_rename hrename
      refine ⟨(user_put _ _ _).trans hways.user, fun r hr => ?_⟩
      dsimp only at hr ⊢
      rw [entry?_put, entry?_clear, hwrote.entry] at hr
      split at hr
      · next h => exact .inr (.inr ⟨rfl, h ▸ hways.place_iff.1 hq⟩)
      split at hr
      · next h => exact .inl (h ▸ hways.place_iff.1 hx)
      split at hr
      · next h => exact .inr (.inl (h ▸ hplace))
      · exact absurd rfl hr

/-! ### With a temporary path of one's own -/

/-- At the temporary path stands nothing, or a file that may be removed. -/
def OwnsTemporary (s : Store) (p : Path) : Prop :=
  ∀ x, s.place .entry (temporaryPath p) = .ok x → s.wayAt? x = none ∧ (s.entry? x ≠ none → s.bar? x = none)

/-- What is written to the temporary path is its own entry, which may be removed again. -/
theorem OwnsTemporary.writes (h : OwnsTemporary s p) {w : Place} {made : FileMode}
    (hplace : s.place .writing (temporaryPath p) = .ok w) (hwritable : s.Writable w made) :
    s.place .entry (temporaryPath p) = .ok w ∧ s.bar? w = none := by
  have hw := place_entry_of_end (place_toTarget hplace nofun) fun x hx => (h x hx).1
  refine ⟨hw, ?_⟩
  cases hwritable with
  | old hentry => exact (h w hw).2 (by simp [hentry])
  | new _ hnew => exact hnew

/-- A replacement that fails leaves every entry as it was, or removes what stood at the temporary path. -/
theorem replace_failed (ht : OwnsTemporary s p) (h : (replace s p content mode).2 ≠ .done) (r : Place) :
    Store.entry? (replace s p content mode).1 r = s.entry? r ∨
      s.place .entry (temporaryPath p) = .ok r ∧ Store.entry? (replace s p content mode).1 r = none := by
  have hreplacing := replacing s p content mode
  generalize replace s p content mode = result at hreplacing h ⊢
  cases hreplacing with
  | refused => exact .inl rfl
  | unwritten message =>
      obtain ⟨reason, ha | ⟨x, hx, ha⟩⟩ := abandon_cases s (temporaryPath p) message
      · rw [ha]
        exact .inl rfl
      · rw [ha, entry?_clear]
        split
        · next hr => exact .inr ⟨hr ▸ hx, rfl⟩
        · exact .inl rfl
  | unmoved hplace hwritable hwrote message =>
      have hways := hwrote.sameWays hwritable.wayAt?
      obtain ⟨hw, hbar⟩ := ht.writes hplace hwritable
      rw [← hwrote.bar?_eq (temporary_dropLast_ne hw)] at hbar
      rw [abandon_file (hways.place_iff.2 hw) hwrote.entry_self hbar, entry?_clear, hwrote.entry]
      split
      · next hr => exact .inr ⟨hr ▸ hw, rfl⟩
      · exact .inl rfl
  | moved => exact absurd rfl h

/-- A replacement that succeeds gives the target's place the new file and leaves nothing at the temporary path. -/
theorem replace_done (ht : OwnsTemporary s p) (h : (replace s p content mode).2 = .done) :
    ∃ x q, s.place .entry (temporaryPath p) = .ok x ∧ s.place .entry p = .ok q ∧ ∀ r,
      Store.entry? (replace s p content mode).1 r =
        if r = q then some (.file mode content) else if r = x then none else s.entry? r := by
  have hreplacing := replacing s p content mode
  generalize replace s p content mode = result at hreplacing h ⊢
  cases hreplacing with
  | refused => cases h
  | unwritten message | unmoved _ _ _ message =>
      obtain ⟨reason, hreason⟩ := abandon_outcome _ _ message
      rw [hreason] at h
      cases h
  | @moved w _ _ s' hplace hwritable hwrote hrename =>
      have hways := hwrote.sameWays hwritable.wayAt?
      obtain ⟨hw, -⟩ := ht.writes hplace hwritable
      obtain ⟨x, q, e, hx, hq, he, -, rfl⟩ := of_rename hrename
      obtain rfl : x = w := Except.ok.inj ((hways.place_iff.1 hx).symm.trans hw)
      rw [hwrote.entry_self] at he
      refine ⟨x, q, hw, hways.place_iff.1 hq, fun r => ?_⟩
      dsimp only
      rw [entry?_put, entry?_clear, hwrote.entry, ← he]
      split
      · rfl
      · split <;> rfl

/-! ### Files of others -/

/-- Where nothing stands, nothing is in the way, and what is written there may be removed again. -/
theorem ownsTemporary_of_isFree (h : s.IsFree (temporaryPath p)) : OwnsTemporary s p :=
  fun x hx => ⟨wayAt?_eq_none.2 (.inl (h x hx)), fun hentry => absurd (h x hx) hentry⟩

/-- A file that is kept for others is not replaced: the new content is written to the temporary path, as the user may,
and removed there again, since it cannot be moved. -/
theorem replace_foreign (hfree : s.IsFree (temporaryPath p)) (hplace : s.place .entry p = .ok q)
    (hforeign : s.owns q = false) (content : Bytes) (mode : FileMode) :
    (∃ reason, (replace s p content mode).2 = .failed reason) ∧
      ∀ r, Store.entry? (replace s p content mode).1 r = s.entry? r := by
  have hfailed : (replace s p content mode).2 ≠ .done := by
    have hreplacing := replacing s p content mode
    generalize replace s p content mode = result at hreplacing
    cases hreplacing with
    | refused => nofun
    | unwritten message | unmoved _ _ _ message =>
        obtain ⟨reason, hreason⟩ := abandon_outcome _ _ message
        rw [hreason]
        nofun
    | moved _ hwritable hwrote hrename =>
        obtain ⟨-, target, -, -, htarget, -, ⟨-, hbar⟩, -⟩ := of_rename hrename
        have hways := hwrote.sameWays hwritable.wayAt?
        obtain rfl : target = q := Except.ok.inj ((hways.place_iff.1 htarget).symm.trans hplace)
        rw [← owns_congr hwrote.user, owns_of_bar? hbar] at hforeign
        cases hforeign
  refine ⟨(replace_outcome s p content mode).resolve_left hfailed, fun r => ?_⟩
  rcases replace_failed (ownsTemporary_of_isFree hfree) hfailed r with h | ⟨hx, h⟩
  · exact h
  · rw [h, hfree r hx]

/-- A directory that anyone may write to, with a file that someone else has put there. -/
def sharedStore : Store where
  entries := [([], .directory 0o777), (["a.tf".toList], .file 0o666 [0x61])]
  user := { home := [], foreign := [["a.tf".toList]] }

example :
    let result := replace sharedStore (Path.literal "a.tf".toList) [0x62] 0o666
    result.1.entries = sharedStore.entries ∧ result.2 = .failed
      "Atomic write failed: [Errno 1] Operation not permitted: 'a.tf.tfupgrade.tmp' -> 'a.tf'" := by
  decide +kernel

end Process
end JujuMigration
