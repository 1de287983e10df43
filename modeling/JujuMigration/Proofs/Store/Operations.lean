import JujuMigration.Proofs.Store.Ways
import JujuMigration.Store.Operations
/-! What the operations on a store come to. An operation that succeeds changes the entry of one place, or of two if it
moves something, and says which; what it writes are files, so the ways through the store stay as they are. -/

namespace JujuMigration.Store

variable {s s' : Store} {p source target : Path} {q r place : Place} {e : Entry} {mode : FileMode} {content : Bytes}

/-! ### Entries -/

theorem lookup_cons_eq (r place : Place) (e : Entry) (entries : List (Place × Entry)) :
    List.lookup r ((place, e) :: entries) = if r = place then some e else entries.lookup r := by
  rw [List.lookup_cons]
  by_cases h : r = place
  · simp [h]
  · simp [h, beq_eq_false_iff_ne.2 h]

theorem lookup_map_put (entries : List (Place × Entry)) (q r : Place) (e : Entry) :
    (entries.map fun x => if x.1 = q then (q, e) else x).lookup r =
      if r = q then (entries.lookup q).map fun _ => e else entries.lookup r := by
  induction entries with
  | nil => simp
  | cons x entries ih =>
      obtain ⟨place, old⟩ := x
      rw [List.map_cons, lookup_cons_eq]
      by_cases hplace : place = q
      · rw [if_pos hplace, lookup_cons_eq, ih, lookup_cons_eq, if_pos hplace.symm, hplace]
        split <;> rfl
      · rw [if_neg hplace, lookup_cons_eq, ih, lookup_cons_eq, if_neg (Ne.symm hplace)]
        by_cases hr : r = place
        · rw [if_pos hr, if_pos hr, if_neg (hr ▸ hplace)]
        · rw [if_neg hr, if_neg hr]

theorem lookup_filter_ne (entries : List (Place × Entry)) (q r : Place) :
    (entries.filter (·.1 ≠ q)).lookup r = if r = q then none else entries.lookup r := by
  induction entries with
  | nil => simp
  | cons x entries ih =>
      obtain ⟨place, old⟩ := x
      rw [List.filter_cons]
      by_cases hplace : place = q
      · rw [if_neg (by simpa using hplace), ih, lookup_cons_eq, hplace]
        split <;> rfl
      · rw [if_pos (by simpa using hplace), lookup_cons_eq, ih, lookup_cons_eq]
        by_cases hr : r = place
        · rw [if_pos hr, if_pos hr, if_neg (hr ▸ hplace)]
        · rw [if_neg hr, if_neg hr]

@[simp] theorem entry?_put (s : Store) (q r : Place) (e : Entry) :
    Store.entry? (s.put q e) r = if r = q then some e else s.entry? r := by
  unfold put
  split
  · next h =>
      obtain ⟨old, hold⟩ := Option.isSome_iff_exists.1 h
      rw [ entry?, lookup_map_put, show s.entries.lookup q = some old from hold]
      rfl
  · next h =>
      have hnone : s.entries.lookup q = none := Option.not_isSome_iff_eq_none.1 h
      rw [ entry?, List.lookup_append, lookup_cons_eq, List.lookup_nil]
      split
      · next hr => rw [hr, hnone, Option.none_or]
      · exact Option.or_none

@[simp] theorem entry?_clear (s : Store) (q r : Place) :
    Store.entry? (s.clear q) r = if r = q then none else s.entry? r :=
  lookup_filter_ne s.entries q r

@[simp] theorem user_put (s : Store) (q : Place) (e : Entry) : (s.put q e).user = s.user := by
  unfold put
  split <;> rfl

/-! ### What bars a place -/

theorem owns_congr (huser : s'.user = s.user) (place : Place) : s'.owns place = s.owns place := by
  rw [owns, owns, huser]

/-- Whether a place may be given another entry is for its directory to say, and for the user. -/
theorem bar?_congr (huser : s'.user = s.user) (h : s'.entry? place.dropLast = s.entry? place.dropLast) :
    s'.bar? place = s.bar? place := by
  unfold bar? mayChange allows
  rw [h, huser, owns_congr huser]

theorem owns_of_bar? (h : s.bar? place = none) : s.owns place = true := by
  unfold bar? at h
  split at h
  · cases h
  · split at h
    · cases h
    · next howns => simpa using howns

/-! ### One file more, or another -/

/-- A file with this mode and content stands at the place, and all else is as it was. -/
structure Wrote (s : Store) (q : Place) (mode : FileMode) (content : Bytes) (s' : Store) : Prop where
  user : s'.user = s.user
  entry : ∀ r, s'.entry? r = if r = q then some (.file mode content) else s.entry? r

theorem wrote_put (s : Store) (q : Place) (mode : FileMode) (content : Bytes) :
    Wrote s q mode content (s.put q (.file mode content)) := ⟨user_put s q _, fun r => entry?_put s q r _⟩

namespace Wrote

/-- What is written to the same place next is all that is left there. -/
theorem again {old : FileMode} {bytes : Bytes} (h : Wrote s q old bytes s') (mode : FileMode) (content : Bytes) :
    Wrote s q mode content (s'.put q (.file mode content)) := by
  refine ⟨(user_put s' q _).trans h.user, fun r => ?_⟩
  rw [entry?_put, h.entry]
  split <;> rfl

theorem entry_self (h : Wrote s q mode content s') : s'.entry? q = some (.file mode content) := by
  rw [h.entry, if_pos rfl]

/-- A file that is made, or that changes, changes no way. -/
theorem sameWays (h : Wrote s q mode content s') (hway : s.wayAt? q = none) : SameWays s s' := by
  refine ⟨h.user, funext fun r => ?_⟩
  by_cases hr : r = q
  · rw [hr, hway]
    exact wayAt?_eq_none.2 (.inr ⟨mode, content, h.entry_self⟩)
  · exact wayAt?_congr h.user (by rw [h.entry, if_neg hr])

theorem bar?_eq (h : Wrote s q mode content s') (hne : place.dropLast ≠ q) : s'.bar? place = s.bar? place :=
  bar?_congr h.user (by rw [h.entry, if_neg hne])

end Wrote

/-! ### Reading -/

theorem stat_eq_ok : s.stat p = .ok e ↔ ∃ q, s.place .target p = .ok q ∧ s.entry? q = some e := by
  unfold stat
  cases s.place .target p with
  | error r => simp [bind, Except.bind]
  | ok q => cases h : s.entry? q <;> simp [bind, Except.bind, h]

theorem Privileges.stat_eq (h : Privileges s s') (hstat : s.stat p = .ok e) : s'.stat p = .ok e := by
  obtain ⟨q, hplace, hentry⟩ := stat_eq_ok.1 hstat
  exact stat_eq_ok.2 ⟨q, h.place_eq hplace, (h.entry?_eq q).trans hentry⟩

/-- Only a path with a NUL is no path. -/
theorem stat_eq_nulByte : s.stat p = .error .nulByte ↔ ∃ part ∈ p.parts, '\x00' ∈ part := by
  rw [← place_eq_nulByte (s := s)]
  unfold stat
  cases s.place .target p with
  | error r => simp [bind, Except.bind]
  | ok q => cases h : s.entry? q <;> simp [bind, Except.bind, h]

/-- A path that leads to something has an entry, be it a link. -/
theorem entry?_ne_none_of_stat (hstat : s.stat p = .ok e) (hq : s.place .entry p = .ok q) : s.entry? q ≠ none := by
  obtain ⟨t, ht, hentry⟩ := stat_eq_ok.1 hstat
  by_cases hlink : ∃ target, s.wayAt? q = some (.link target)
  · exact entry?_ne_none hlink.choose_spec
  · have hqt := place_toTarget_of_entry hq (not_exists.1 hlink)
    obtain rfl : q = t := Except.ok.inj (hqt.symm.trans ht)
    simp [hentry]

theorem read_eq_ok : s.read p = .ok content ↔
    ∃ mode, s.stat p = .ok (.file mode content) ∧ s.allows mode .read = true := by
  unfold read
  rcases s.stat p with r | (mode | ⟨mode, old⟩ | target)
  · simp [bind, Except.bind]
  · simp only [bind, Except.bind]
    split <;> simp
  · simp only [bind, Except.bind]
    split
    · next h => simp [h, and_assoc]
    · next h => simp [h, and_assoc]
  · simp [bind, Except.bind]

/-- The superuser may do whatever the ordinary user may to whom everything is given. -/
theorem privileges_of_changeOwner (h : s.changeOwner = .ok s') : Privileges s' s := by
  unfold changeOwner at h
  split at h
  · next hprivileged =>
      cases h
      exact ⟨rfl, rfl, fun _ => by rw [allows, hprivileged, Bool.true_or]⟩
  · cases h

/-- Where a file has taken the place of what stood at a path that led to a file, every path leads to where it led; only
one to that file need not, if the first path led there through a link. -/
theorem place_replaced (hstat : s.stat p = .ok (.file mode content)) (hq : s.place .entry p = .ok q)
    (huser : s'.user = s.user) (hways : ∀ r, r ≠ q → s'.wayAt? r = s.wayAt? r) (hend : s'.wayAt? q = none)
    {purpose : Purpose} {path : Path} (h : s.place purpose path = .ok r)
    (hr : purpose ≠ .entry → s.place .target p = .ok r → s.place .entry p = .ok r) :
    s'.place purpose path = .ok r := by
  obtain ⟨t, ht, hentry⟩ := stat_eq_ok.1 hstat
  have hfile : s.wayAt? t = none := wayAt?_eq_none.2 (.inr ⟨mode, content, hentry⟩)
  by_cases hlink : ∃ target, s.wayAt? q = some (.link target)
  · refine place_redirect h (linksTo_of_place hq ht hlink hfile) huser hways hend ?_
    rintro hpurpose rfl
    obtain rfl : q = r := Except.ok.inj (hq.symm.trans (hr hpurpose ht))
    obtain ⟨target, hlink⟩ := hlink
    rw [hfile] at hlink
    cases hlink
  · have hqt := place_toTarget_of_entry hq (not_exists.1 hlink)
    obtain rfl : q = t := Except.ok.inj (hqt.symm.trans ht)
    have hsame : SameWays s s' := by
      refine ⟨huser, funext fun r => ?_⟩
      by_cases hrq : r = q
      · rw [hrq, hend, hfile]
      · exact hways r hrq
    exact hsame.place_iff.2 h

/-! ### Changing -/

/-- Where a file can be written, and the mode that it has then: a file that may be written to keeps its mode, and a file
that may be made gets that of new files. -/
inductive Writable (s : Store) (q : Place) : FileMode → Prop
  | old {mode : FileMode} {old : Bytes} (hentry : s.entry? q = some (.file mode old))
      (hmode : s.allows mode .write = true) : Writable s q mode
  | new (hentry : s.entry? q = none) (hbar : s.bar? q = none) : Writable s q newFileMode

/-- Writing gives one place a file. -/
theorem of_write (h : s.write p content = .ok s') :
    ∃ q mode, s.place .writing p = .ok q ∧ s.Writable q mode ∧ s' = s.put q (.file mode content) := by
  unfold write at h
  cases hplace : s.place .writing p with
  | error r => simp [bind, Except.bind, hplace] at h
  | ok q =>
      simp only [bind, Except.bind, hplace] at h
      split at h
      · next mode old hentry =>
          split at h
          · next hmode => exact ⟨q, mode, rfl, .old hentry hmode, (Except.ok.inj h).symm⟩
          · cases h
      · cases h
      · cases h
      · next hentry =>
          split at h
          · cases h
          · next hbar => exact ⟨q, newFileMode, rfl, .new hentry hbar, (Except.ok.inj h).symm⟩

theorem Writable.wayAt? (h : s.Writable q mode) : s.wayAt? q = none := by
  cases h with
  | old hentry => exact wayAt?_eq_none.2 (.inr ⟨_, _, hentry⟩)
  | new hentry => exact wayAt?_eq_none.2 (.inl hentry)

/-- A file can be given any mode by the one whom it belongs to, and by no other. -/
theorem setMode_file {old : FileMode} (hplace : s.place .target p = .ok q)
    (hentry : s.entry? q = some (.file old content))
    (mode : FileMode) : s.setMode p mode =
      if s.owns q then .ok (s.put q (.file mode content)) else .error .notPermitted := by
  simp only [setMode, hplace, bind, Except.bind, hentry]

/-- Moving an entry leaves nothing where it was. Neither of the two places is barred then. -/
theorem of_rename (h : s.rename source target = .ok s') : ∃ q r e, s.place .entry source = .ok q ∧
    s.place .entry target = .ok r ∧ s.entry? q = some e ∧ (s.bar? q = none ∧ s.bar? r = none) ∧
      s' = (s.clear q).put r e := by
  unfold rename at h
  cases hsource : s.place .entry source with
  | error r => simp [bind, Except.bind, hsource] at h
  | ok q =>
      cases htarget : s.place .entry target with
      | error r => simp [bind, Except.bind, hsource, htarget] at h
      | ok r =>
          simp only [bind, Except.bind, hsource, htarget] at h
          split at h
          · cases h
          · cases h
          · next e hentry _ =>
              split at h
              · cases h
              · next hbar => exact ⟨q, r, e, rfl, rfl, hentry, Option.or_eq_none_iff.1 hbar, (Except.ok.inj h).symm⟩

/-- Removing clears one place. -/
theorem remove_eq_ok : s.remove p = .ok s' ↔ ∃ q e, s.place .entry p = .ok q ∧ s.entry? q = some e ∧
    s.bar? q = none ∧ Entry.isDirectory e = false ∧ s.clear q = s' := by
  unfold remove
  cases s.place .entry p with
  | error r => simp [bind, Except.bind]
  | ok q =>
      simp only [bind, Except.bind]
      cases hentry : s.entry? q with
      | none => simp [hentry]
      | some e => cases hbar : s.bar? q <;> cases hdir : Entry.isDirectory e <;> simp [hentry, hbar, hdir]

theorem of_mapError_bind {ε ε' α β : Type} {x : Except ε α} {f : ε → ε'} {next : α → Except ε' β} {b : β}
    (h : x.mapError f >>= next = .ok b) : ∃ a, x = .ok a ∧ next a = .ok b := by
  cases x with
  | error e => cases h
  | ok a => exact ⟨a, rfl, h⟩

/-- The steps of a copy. -/
theorem of_copy_steps (h : s.copy source target = .ok s') : ∃ content s₁ e, s.read source = .ok content ∧
    s.write target content = .ok s₁ ∧ s₁.stat source = .ok e ∧ s₁.setMode target e.mode = .ok s' := by
  unfold copy at h
  obtain ⟨content, hread, h⟩ := of_mapError_bind h
  obtain ⟨s₁, hwrite, h⟩ := of_mapError_bind h
  obtain ⟨e, hstat, h⟩ := of_mapError_bind h
  refine ⟨content, s₁, e, hread, hwrite, hstat, ?_⟩
  cases hmode : s₁.setMode target e.mode with
  | error r =>
      rw [hmode] at h
      cases h
  | ok s₂ =>
      rw [hmode] at h
      cases h
      rfl

/-- A copy to where nothing is gives that place a file with content and mode of the source. -/
theorem of_copy (hsource : s.stat source = .ok (.file mode content))
    (htarget : ∀ q, s.place .writing target = .ok q → s.entry? q = none) (h : s.copy source target = .ok s') :
    ∃ q, s.place .writing target = .ok q ∧ s.entry? q = none ∧ s.bar? q = none ∧ Wrote s q mode content s' := by
  obtain ⟨bytes, s₁, e, hread, hwrite, hstat, hmode⟩ := of_copy_steps h
  obtain ⟨mode', hfile, -⟩ := read_eq_ok.1 hread
  obtain ⟨rfl, rfl⟩ := Entry.file.inj (Except.ok.inj (hsource.symm.trans hfile))
  obtain ⟨q, made, hplace, hwritable, rfl⟩ := of_write hwrite
  have hnone := htarget q hplace
  have hwrote := wrote_put s q made content
  have hways := hwrote.sameWays hwritable.wayAt?
  have hbar : s.bar? q = none := by
    cases hwritable with
    | old hentry => simp [hnone] at hentry
    | new _ hbar => exact hbar
  -- The new file is not the source, so this still has the mode that it had.
  have hsame : (s.put q (.file made content)).stat source = .ok (.file mode content) := by
    obtain ⟨r, hr, hentry⟩ := stat_eq_ok.1 hsource
    refine stat_eq_ok.2 ⟨r, hways.place_iff.2 hr, ?_⟩
    rw [entry?_put, if_neg (by rintro rfl; simp [hnone] at hentry), hentry]
  obtain rfl := Except.ok.inj (hsame.symm.trans hstat)
  have hset := setMode_file (hways.place_iff.2 (place_toTarget hplace nofun)) hwrote.entry_self mode
  rw [owns_congr hwrote.user, owns_of_bar? hbar, if_pos rfl] at hset
  obtain rfl := Except.ok.inj (hmode.symm.trans hset)
  exact ⟨q, hplace, hnone, hbar, hwrote.again mode content⟩

end JujuMigration.Store
