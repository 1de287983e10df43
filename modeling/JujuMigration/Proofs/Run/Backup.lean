import Mathlib.Data.List.Nodup
import Mathlib.Data.List.Perm.Subperm
import Mathlib.Data.Nat.Find
import JujuMigration.Proofs.Store.Operations
import JujuMigration.Run.Process
/-! Backups. The names that a backup may have are all different, and a store holds only so many entries, so the search
for a name that leads to nothing comes to an end: at such a name, or at one that must not be looked up. A copy that is
made then gives the store one new file, with content and mode of the target; a copy that is refused changes nothing. -/

namespace JujuMigration.Process

open Store

variable {s s' : Store} {p b : Path} {q : Place} {mode : FileMode} {content : Bytes}

/-- The last part of a backup's path. -/
def backupName (name : Text) : Nat → Text
  | 0 => name ++ backupEnding
  | n + 1 => name ++ '-' :: (Nat.toDigits 10 (n + 1) ++ backupEnding)

theorem backupPath_eq (p : Path) (n : Nat) : backupPath p n = p.withName (backupName p.name n) := by
  cases n <;> rfl

theorem backupName_injective (name : Text) : Function.Injective (backupName name) := by
  intro m n h
  have hending (k : Nat) : backupEnding ≠ '-' :: (Nat.toDigits 10 (k + 1) ++ backupEnding) := by
    intro he
    have hhead := congrArg List.head? he
    revert hhead
    rw [List.head?_cons]
    decide
  match m, n with
  | 0, 0 => rfl
  | 0, n + 1 => exact absurd (List.append_cancel_left h) (hending n)
  | m + 1, 0 => exact absurd (List.append_cancel_left h).symm (hending m)
  | m + 1, n + 1 =>
      have hdigits : Nat.toDigits 10 (m + 1) = Nat.toDigits 10 (n + 1) :=
        List.append_cancel_right (List.cons_injective (List.append_cancel_left h))
      rw [← Nat.ofDigitChars_ten_toDigits (n := m + 1), hdigits, Nat.ofDigitChars_ten_toDigits]

theorem isName_append {name ending : Text} (h : 2 < ending.length) : IsName (name ++ ending) := by
  have hlength (t : Text) (ht : t.length ≤ 2) : name ++ ending ≠ t := by
    rintro rfl
    rw [List.length_append] at ht
    omega
  exact ⟨hlength _ (by decide), hlength _ (by decide), hlength _ (by decide)⟩

theorem isName_backupName (name : Text) (n : Nat) : IsName (backupName name n) := by
  cases n with
  | zero => exact isName_append (by decide)
  | succ n =>
      refine isName_append ?_
      rw [List.length_cons, List.length_append, show backupEnding.length = 17 by decide]
      omega

/-! ### The search for a free name -/

theorem exists?_eq_true : s.exists? b = .ok true ↔ ∃ e, s.stat b = .ok e := by
  unfold exists?
  split <;> simp_all

/-- Whether a path leads to something can be told unless a name is too long or a directory may not be searched. -/
theorem refusal_of_exists? {r : Refusal} (h : s.exists? b = .error r) : r = .nameTooLong ∨ r = .denied := by
  have hstat : s.stat b = .error r := by
    unfold exists? at h
    split at h <;> simp_all
  have hlookup : r ≠ .isDirectory ∧ r ≠ .notPermitted := by
    unfold stat at hstat
    cases hplace : s.place .target b with
    | error r' =>
        obtain rfl : r' = r := by simpa [hplace, bind, Except.bind] using hstat
        exact refusal_of_place hplace
    | ok q =>
        obtain ⟨-, rfl⟩ : s.entry? q = none ∧ Refusal.notFound = r := by
          cases hentry : s.entry? q <;> simp_all [bind, Except.bind]
        decide
  unfold exists? at h
  rw [hstat] at h
  cases r <;> simp_all

/-- If a name beside a path leads to something, then it has an entry of its own. -/
theorem entry?_of_stat {name : Text} {e : Entry} (hn : IsName name) (h : s.stat (p.withName name) = .ok e) :
    ∃ d, Leads s.wayAt? .target maxLinks (s.base p) p.parts.dropLast d ∧ s.entry? (d ++ [name]) ≠ none := by
  obtain ⟨r, hplace, hentry⟩ := stat_eq_ok.1 h
  obtain ⟨d, rest, hd, hname⟩ := (place_eq_ok.1 hplace).2.split p.parts.dropLast (List.cons_ne_nil _ _)
  refine ⟨d, hd, ?_⟩
  cases hname with
  | stay _ hpart => exact absurd hpart (not_or.2 ⟨hn.ne_nil, hn.ne_here⟩)
  | up => exact absurd rfl hn.ne_above
  | enter _ hway | follow _ hway => exact entry?_ne_none hway
  | last => simp [hentry]
  | link _ _ hpurpose => cases hpurpose

theorem mem_entries (h : s.entry? q ≠ none) : q ∈ s.entries.map Prod.fst := by
  by_contra hq
  refine h (List.lookup_eq_none_iff.2 fun x hx => ?_)
  have hne : q ≠ x.1 := fun he => hq (he ▸ List.mem_map_of_mem hx)
  simpa using hne

/-- A store has no room for more backups than it has entries. -/
theorem exists_free (s : Store) (p : Path) : ∃ n ≤ s.entries.length, s.exists? (backupPath p n) ≠ .ok true := by
  by_contra! hall
  have hentry (n : Nat) (hn : n ≤ s.entries.length) :
      ∃ d, Leads s.wayAt? .target maxLinks (s.base p) p.parts.dropLast d ∧
        s.entry? (d ++ [backupName p.name n]) ≠ none := by
    obtain ⟨e, he⟩ := exists?_eq_true.1 (hall n hn)
    rw [backupPath_eq] at he
    exact entry?_of_stat (isName_backupName p.name n) he
  obtain ⟨d, hd, -⟩ := hentry 0 (Nat.zero_le _)
  let places := (List.range (s.entries.length + 1)).map fun n => d ++ [backupName p.name n]
  have hnodup : places.Nodup := List.nodup_range.map fun m n h =>
    backupName_injective p.name (by simpa using List.append_cancel_left h)
  have hsub : places ⊆ s.entries.map Prod.fst := by
    intro q hq
    obtain ⟨n, hn, rfl⟩ := List.mem_map.1 hq
    obtain ⟨d', hd', he⟩ := hentry n (Nat.lt_succ_iff.1 (List.mem_range.1 hn))
    rw [hd.unique hd']
    exact mem_entries he
  have hlength := (List.subperm_of_subset hnodup hsub).length_le
  rw [List.length_map, List.length_map, List.length_range] at hlength
  exact absurd hlength (Nat.not_succ_le_self _)

/-- What the search says about the name that it ends at. -/
def searchResult (s : Store) (b : Path) : Except Escape Path :=
  match s.exists? b with
  | .ok _ => .ok b
  | .error r => .error ⟨r, b⟩

theorem freeBackupPath_eq {bound first n : Nat} (hle : first ≤ n) (hlt : n < first + bound)
    (htaken : ∀ k, first ≤ k → k < n → s.exists? (backupPath p k) = .ok true)
    (hfree : s.exists? (backupPath p n) ≠ .ok true) :
    freeBackupPath s p bound first = searchResult s (backupPath p n) := by
  induction bound generalizing first with
  | zero => omega
  | succ bound ih =>
      rw [freeBackupPath]
      obtain rfl | hne := Nat.eq_or_lt_of_le hle
      · rw [searchResult]
        rcases hexists : s.exists? (backupPath p first) with r | (_ | _)
        · rfl
        · rfl
        · exact absurd hexists hfree
      · simp only [htaken first (Nat.le_refl _) hne]
        exact ih hne (by omega) fun k hk hkn => htaken k (by omega) hkn

/-- A name is the first one that does not lead to something. -/
structure SearchEnds (s : Store) (p : Path) (n : Nat) : Prop where
  taken : ∀ k < n, s.exists? (backupPath p k) = .ok true
  ends : s.exists? (backupPath p n) ≠ .ok true

theorem SearchEnds.unique {m n : Nat} (hm : SearchEnds s p m) (hn : SearchEnds s p n) : m = n := by
  rcases Nat.lt_trichotomy m n with hlt | rfl | hlt
  · exact absurd (hn.taken m hlt) hm.ends
  · rfl
  · exact absurd (hm.taken n hlt) hn.ends

/-- The search ends, at the first name that does not lead to something, whatever bound beyond it is set. -/
theorem search_ends (s : Store) (p : Path) : ∃ n ≤ s.entries.length, SearchEnds s p n ∧
    ∀ bound > n, freeBackupPath s p bound 0 = searchResult s (backupPath p n) := by
  classical
  have hfree := exists_free s p
  have hspec := Nat.find_spec hfree
  have htaken : ∀ k < Nat.find hfree, s.exists? (backupPath p k) = .ok true := by
    intro k hk
    by_contra hne
    exact Nat.find_min hfree hk ⟨Nat.le_trans (Nat.le_of_lt hk) hspec.1, hne⟩
  refine ⟨Nat.find hfree, hspec.1, ⟨htaken, hspec.2⟩, fun bound hbound => ?_⟩
  exact freeBackupPath_eq (Nat.zero_le _) (by omega) (fun k _ hk => htaken k hk) hspec.2

/-! ### The copy -/

/-- A store has one more file than another. -/
structure Adds (s : Store) (q : Place) (mode : FileMode) (content : Bytes) (s' : Store) : Prop
    extends Wrote s q mode content s' where
  absent : s.entry? q = none
  bar : s.bar? q = none

theorem Adds.sameWays (h : Adds s q mode content s') : SameWays s s' :=
  h.toWrote.sameWays (wayAt?_eq_none.2 (.inl h.absent))

/-- Nothing can be written to what does not exist but a new file. -/
theorem absent_of_exists? (hfree : s.exists? b = .ok false) (hplace : s.place .writing b = .ok q) :
    s.entry? q = none := by
  cases hentry : s.entry? q with
  | none => rfl
  | some e =>
      have hstat := stat_eq_ok.2 ⟨q, place_toTarget hplace nofun, hentry⟩
      rw [exists?_eq_true.2 ⟨e, hstat⟩] at hfree
      cases hfree

/-- A backup is made, as a new file at what its path leads to, or nothing is changed. -/
theorem makeBackup_cases (hsource : s.stat p = .ok (.file mode content)) (hfree : s.exists? b = .ok false) :
    (∃ refused message, s.copy p b = .error refused ∧ makeBackup s p b = (s, .failed message)) ∨
      ∃ q s', s.place .writing b = .ok q ∧ Adds s q mode content s' ∧ makeBackup s p b = (s', .created b) := by
  unfold makeBackup
  split
  · next s' hcopy =>
      obtain ⟨q, hplace, habsent, hbar, hwrote⟩ := of_copy hsource (fun q => absent_of_exists? hfree) hcopy
      exact .inr ⟨q, s', hplace, ⟨hwrote, habsent, hbar⟩, rfl⟩
  · next hcopy => exact .inl ⟨_, _, hcopy, rfl⟩

end JujuMigration.Process
