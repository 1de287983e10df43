import JujuMigration.Store.Lookup
/-! Where paths lead. The lookup of a path is a relation with a rule for each kind of part, and it reads nothing of a
store but its directories and links: at a file a path can only end, as it can where nothing is. So a store in which
files come, go and change has the same ways, and one in which a file takes the place of a link to a file has the
same ways to everything but that file. -/

namespace JujuMigration

open Store (Purpose)

/-- What a path can go on through. -/
inductive Way
  | directory (searchable : Bool)
  | link (target : Text)

namespace Store

/-- The directory or link at a place. -/
def wayAt? (s : Store) (place : Place) : Option Way :=
  match s.entry? place with
  | some (.directory mode) => some (.directory (s.allows mode .search))
  | some (.link target) => some (.link target)
  | _ => none

variable {s s' : Store} {place : Place}

theorem wayAt?_directory {searchable : Bool} : s.wayAt? place = some (.directory searchable) ↔
    ∃ mode, s.entry? place = some (.directory mode) ∧ s.allows mode .search = searchable := by
  unfold wayAt?
  rcases s.entry? place with _ | (mode | ⟨mode, content⟩ | target) <;> simp

theorem wayAt?_link {target : Text} :
    s.wayAt? place = some (.link target) ↔ s.entry? place = some (.link target) := by
  unfold wayAt?
  rcases s.entry? place with _ | (mode | ⟨mode, content⟩ | target) <;> simp

theorem wayAt?_eq_none :
    s.wayAt? place = none ↔ s.entry? place = none ∨ ∃ mode content, s.entry? place = some (.file mode content) := by
  unfold wayAt?
  rcases s.entry? place with _ | (mode | ⟨mode, content⟩ | target) <;> simp

theorem entry?_ne_none {way : Way} (h : s.wayAt? place = some way) : s.entry? place ≠ none := by
  intro hnone
  rw [wayAt?_eq_none.2 (.inl hnone)] at h
  cases h

/-- For one user, a way is made by the entry at its place. -/
theorem wayAt?_congr (huser : s'.user = s.user) (h : s'.entry? place = s.entry? place) :
    s'.wayAt? place = s.wayAt? place := by
  unfold wayAt? allows
  rw [h, huser]

end Store

/-- Where the lookup of a link's target begins. -/
def linkBase (here : Place) (target : Text) : Place := if (Path.literal target).rooted then [] else here

/-- A name that is looked up in a directory, rather than a step that stays in it or leaves it. -/
structure IsName (part : Text) : Prop where
  ne_nil : part ≠ []
  ne_here : part ≠ ['.']
  ne_above : part ≠ ['.', '.']

section

variable (ways : Place → Option Way)

/-- There is a directory at a place, and names may be looked up in it. -/
def Searchable (here : Place) : Prop := ways here = some (.directory true)

/-- The name that a path goes on with is looked up. -/
structure LooksUp (purpose : Purpose) (here : Place) (part : Text) (parts : List Text) : Prop where
  searchable : Searchable ways here
  isName : IsName part
  width : Store.width part ≤ Store.maxNameLength
  writing : ¬(purpose = .writing ∧ parts = [[]])

/-- Parts lead from one place to another, by way of these directories and links and with so many links followed at
most. -/
inductive Leads (purpose : Purpose) : Nat → Place → List Text → Place → Prop
  | done {budget : Nat} {here : Place} : Leads purpose budget here [] here
  | stay {budget : Nat} {here r : Place} {part : Text} {parts : List Text} (hdir : Searchable ways here)
      (hpart : part = [] ∨ part = ['.']) (rest : Leads purpose budget here parts r) :
      Leads purpose budget here (part :: parts) r
  | up {budget : Nat} {here r : Place} {parts : List Text} (hdir : Searchable ways here)
      (rest : Leads purpose budget here.dropLast parts r) : Leads purpose budget here (['.', '.'] :: parts) r
  | enter {budget : Nat} {here r : Place} {part : Text} {parts : List Text} {searchable : Bool}
      (hname : LooksUp ways purpose here part parts) (hentry : ways (here ++ [part]) = some (.directory searchable))
      (rest : Leads purpose budget (here ++ [part]) parts r) : Leads purpose budget here (part :: parts) r
  | last {budget : Nat} {here : Place} {part : Text} (hname : LooksUp ways purpose here part [])
      (hentry : ways (here ++ [part]) = none) : Leads purpose budget here [part] (here ++ [part])
  | link {budget : Nat} {here : Place} {part target : Text} (hname : LooksUp ways purpose here part [])
      (hentry : ways (here ++ [part]) = some (.link target)) (hpurpose : purpose = .entry) :
      Leads purpose budget here [part] (here ++ [part])
  | follow {budget : Nat} {here r : Place} {part target : Text} {parts : List Text}
      (hname : LooksUp ways purpose here part parts) (hentry : ways (here ++ [part]) = some (.link target))
      (hon : purpose = .entry → parts ≠ []) (htarget : target ≠ [])
      (rest : Leads purpose budget (linkBase here target) ((Path.literal target).parts ++ parts) r) :
      Leads purpose (budget + 1) here (part :: parts) r

end

variable {ways ways' : Place → Option Way} {purpose : Purpose} {budget : Nat} {here q r t : Place}
  {parts : List Text}

/-! ### The lookup follows the relation -/

namespace Store

variable {s : Store}

theorem searchable_iff : Searchable s.wayAt? here ↔
    ∃ mode, s.entry? here = some (.directory mode) ∧ s.allows mode .search = true := by
  exact wayAt?_directory

/-- How a link is followed with a budget. -/
def follow (s : Store) (purpose : Purpose) (budget : Nat) (here : Place) (target : Text) (parts : List Text) :
    Except Refusal Place :=
  match budget with
  | 0 => .error .tooManyLinks
  | budget + 1 =>
    if target.isEmpty then .error .notFound
    else walk s purpose budget (linkBase here target) ((Path.literal target).parts ++ parts)

theorem walk_eq (s : Store) (purpose : Purpose) (budget : Nat) :
    walk s purpose budget = walkToLink s purpose (s.follow purpose budget) := by
  cases budget <;> rfl

/-- In a directory where names may be looked up. -/
theorem walkToLink_cons {follow : Place → Text → List Text → Except Refusal Place} {part : Text} {mode : FileMode}
    (hdir : s.entry? here = some (.directory mode)) (hsearch : s.allows mode .search = true) :
    walkToLink s purpose follow here (part :: parts) =
      if part.isEmpty || part = ['.'] then walkToLink s purpose follow here parts
      else if part = ['.', '.'] then walkToLink s purpose follow here.dropLast parts
      else if purpose = .writing && parts = [[]] then .error .isDirectory
      else if maxNameLength < width part then .error .nameTooLong
      else
        match s.entry? (here ++ [part]) with
        | some (.link target) =>
          if parts.isEmpty && purpose = .entry then .ok (here ++ [part]) else follow here target parts
        | some _ => walkToLink s purpose follow (here ++ [part]) parts
        | none => if parts.isEmpty then .ok (here ++ [part]) else .error .notFound := by
  rw [walkToLink]
  simp only [hdir, hsearch]
  rfl

/-- A name that is looked up. -/
theorem walkToLink_name {follow : Place → Text → List Text → Except Refusal Place} {part : Text}
    (h : LooksUp s.wayAt? purpose here part parts) :
    walkToLink s purpose follow here (part :: parts) =
      match s.entry? (here ++ [part]) with
      | some (.link target) =>
        if parts.isEmpty && purpose = .entry then .ok (here ++ [part]) else follow here target parts
      | some _ => walkToLink s purpose follow (here ++ [part]) parts
      | none => if parts.isEmpty then .ok (here ++ [part]) else .error .notFound := by
  obtain ⟨mode, hdir, hsearch⟩ := searchable_iff.1 h.searchable
  have hwriting : (purpose = .writing && parts = [[]] : Bool) = false := by simpa using h.writing
  rw [walkToLink_cons hdir hsearch, if_neg (by simp [h.isName.ne_nil, h.isName.ne_here]), if_neg h.isName.ne_above,
    if_neg (by simp [hwriting]), if_neg (Nat.not_lt.2 h.width)]

theorem walk_of_leads (h : Leads s.wayAt? purpose budget here parts r) :
    walk s purpose budget here parts = .ok r := by
  induction h with
  | done => rw [walk_eq, walkToLink]
  | stay hdir hpart _ ih =>
      obtain ⟨mode, hdir, hsearch⟩ := searchable_iff.1 hdir
      rw [walk_eq] at ih ⊢
      rw [walkToLink_cons hdir hsearch, if_pos (by simpa using hpart), ih]
  | up hdir _ ih =>
      obtain ⟨mode, hdir, hsearch⟩ := searchable_iff.1 hdir
      rw [walk_eq] at ih ⊢
      rw [walkToLink_cons hdir hsearch, if_neg (by simp), if_pos rfl, ih]
  | enter hname hentry _ ih =>
      rw [walk_eq] at ih ⊢
      obtain ⟨mode, hentry, -⟩ := wayAt?_directory.1 hentry
      simp only [walkToLink_name hname, hentry, ih]
  | last hname hentry =>
      rw [walk_eq, walkToLink_name hname]
      rcases wayAt?_eq_none.1 hentry with h | ⟨mode, content, h⟩
      · simp [h]
      · simp [h, walkToLink]
  | link hname hentry hpurpose =>
      simp only [walk_eq, walkToLink_name hname, wayAt?_link.1 hentry]
      simp [hpurpose]
  | @follow budget here r part target parts hname hentry hon htarget _ ih =>
      have hempty : (parts.isEmpty && purpose = .entry : Bool) = false := by
        cases parts <;> simp_all
      simp only [walk_eq s purpose (budget + 1), walkToLink_name hname, wayAt?_link.1 hentry, hempty, Store.follow]
      simpa [htarget] using ih

theorem looksUp_of_not {part : Text} {mode : FileMode} (hdir : s.entry? here = some (.directory mode))
    (hsearch : ¬(!s.allows mode .search) = true) (hstay : ¬(part.isEmpty || part = ['.'] : Bool) = true)
    (hup : part ≠ ['.', '.']) (hwriting : ¬(purpose = .writing && parts = [[]] : Bool) = true)
    (hwidth : ¬maxNameLength < width part) : LooksUp s.wayAt? purpose here part parts where
  searchable := searchable_iff.2 ⟨mode, hdir, by simpa using hsearch⟩
  isName := by
    simp only [Bool.or_eq_true, List.isEmpty_iff, decide_eq_true_eq, not_or] at hstay
    exact ⟨hstay.1, hstay.2, hup⟩
  width := Nat.not_lt.1 hwidth
  writing := by simpa using hwriting

theorem leads_of_walkToLink {follow : Place → Text → List Text → Except Refusal Place}
    (hfollow : ∀ here target parts r, follow here target parts = .ok r → target ≠ [] ∧ ∃ rest, budget = rest + 1 ∧
      Leads s.wayAt? purpose rest (linkBase here target) ((Path.literal target).parts ++ parts) r)
    (h : walkToLink s purpose follow here parts = .ok r) : Leads s.wayAt? purpose budget here parts r := by
  fun_induction walkToLink s purpose follow here parts with
  | case1 here =>
      cases h
      exact .done
  | case2 | case5 | case6 | case11 | case12 | case13 => cases h
  | case3 here part parts mode hdir hsearch hpart ih =>
      exact .stay (searchable_iff.2 ⟨mode, hdir, by simpa using hsearch⟩) (by simpa using hpart) (ih h)
  | case4 here parts mode hdir hsearch _ ih =>
      exact .up (searchable_iff.2 ⟨mode, hdir, by simpa using hsearch⟩) (ih h)
  | case7 here part parts mode hdir hsearch hstay hup hwriting hwidth place target hentry hend =>
      simp only [Bool.and_eq_true, List.isEmpty_iff, decide_eq_true_eq] at hend
      obtain ⟨rfl, hpurpose⟩ := hend
      rw [← Except.ok.inj h]
      exact .link (looksUp_of_not hdir hsearch hstay hup hwriting hwidth) (wayAt?_link.2 hentry) hpurpose
  | case8 here part parts mode hdir hsearch hstay hup hwriting hwidth place target hentry hon =>
      obtain ⟨htarget, rest, rfl, hleads⟩ := hfollow _ _ _ _ h
      simp only [Bool.and_eq_true, List.isEmpty_iff, decide_eq_true_eq, not_and] at hon
      exact .follow (looksUp_of_not hdir hsearch hstay hup hwriting hwidth) (wayAt?_link.2 hentry)
        (fun hp he => hon he hp) htarget hleads
  | case9 here part parts mode hdir hsearch hstay hup hwriting hwidth place e hlink hentry ih =>
      have hname := looksUp_of_not hdir hsearch hstay hup hwriting hwidth
      cases e with
      | directory mode => exact .enter hname (wayAt?_directory.2 ⟨mode, hentry, rfl⟩) (ih h)
      | link target => exact absurd rfl (hlink target)
      | file mode content =>
          cases parts with
          | nil =>
              rw [walkToLink] at h
              rw [← Except.ok.inj h]
              exact .last hname (wayAt?_eq_none.2 (.inr ⟨mode, content, hentry⟩))
          | cons next parts => simp [walkToLink, hentry] at h
  | case10 here part parts mode hdir hsearch hstay hup hwriting hwidth place hentry hend =>
      rw [List.isEmpty_iff.1 hend, ← Except.ok.inj h]
      rw [List.isEmpty_iff.1 hend] at hwriting
      exact .last (looksUp_of_not hdir hsearch hstay hup hwriting hwidth) (wayAt?_eq_none.2 (.inl hentry))

theorem leads_of_follow {target : Text} (ih : ∀ rest, budget = rest + 1 → ∀ {here parts r},
      walk s purpose rest here parts = .ok r → Leads s.wayAt? purpose rest here parts r)
    (h : s.follow purpose budget here target parts = .ok r) : target ≠ [] ∧ ∃ rest, budget = rest + 1 ∧
      Leads s.wayAt? purpose rest (linkBase here target) ((Path.literal target).parts ++ parts) r := by
  cases budget with
  | zero => cases h
  | succ rest =>
      rw [follow] at h
      split at h
      · cases h
      · next htarget => exact ⟨by simpa using htarget, rest, rfl, ih rest rfl h⟩

theorem walk_eq_ok : walk s purpose budget here parts = .ok r ↔ Leads s.wayAt? purpose budget here parts r := by
  refine ⟨fun h => ?_, walk_of_leads⟩
  induction budget generalizing here parts r with
  | zero =>
      rw [walk_eq] at h
      exact leads_of_walkToLink (fun _ _ _ _ hf => leads_of_follow (fun _ h => nomatch h) hf) h
  | succ budget ih =>
      rw [walk_eq] at h
      refine leads_of_walkToLink (fun _ _ _ _ hf => leads_of_follow (fun rest hrest => ?_) hf) h
      obtain rfl := Nat.succ.inj hrest
      exact ih

/-- Nothing is refused at a directory, or as not permitted, unless something is to be written, and a path that has been
admitted is not refused as no path. -/
theorem refusal_of_walkToLink {follow : Place → Text → List Text → Except Refusal Place} {r : Refusal}
    (hfollow : ∀ here target parts, follow here target parts = .error r →
      r ≠ .isDirectory ∧ r ≠ .notPermitted ∧ r ≠ .nulByte)
    (h : walkToLink s .target follow here parts = .error r) : r ≠ .isDirectory ∧ r ≠ .notPermitted ∧ r ≠ .nulByte := by
  fun_induction walkToLink s .target follow here parts with
  | case1 | case7 | case10 => cases h
  | case2 | case6 | case11 | case12 | case13 =>
      cases h
      decide
  | case3 _ _ _ _ _ _ _ ih | case4 _ _ _ _ _ _ ih | case9 _ _ _ _ _ _ _ _ _ _ _ _ _ _ ih => exact ih h
  | case5 _ _ _ _ _ _ _ _ hwriting => simp at hwriting
  | case8 => exact hfollow _ _ _ h

theorem refusal_of_walk {r : Refusal} (h : walk s .target budget here parts = .error r) :
    r ≠ .isDirectory ∧ r ≠ .notPermitted ∧ r ≠ .nulByte := by
  induction budget generalizing here parts with
  | zero =>
      refine refusal_of_walkToLink (fun _ _ _ hf => ?_) h
      cases hf
      decide
  | succ budget ih =>
      refine refusal_of_walkToLink (fun here target parts hf => ?_) h
      dsimp only at hf
      split at hf
      · cases hf
        decide
      · exact ih hf

end Store

/-! ### Steps of a lookup -/

/-- Following more links than needed is allowed. -/
theorem Leads.mono {more : Nat} (h : Leads ways purpose budget here parts r) (hle : budget ≤ more) :
    Leads ways purpose more here parts r := by
  induction h generalizing more with
  | done => exact .done
  | stay hdir hpart _ ih => exact .stay hdir hpart (ih hle)
  | up hdir _ ih => exact .up hdir (ih hle)
  | enter hname hentry _ ih => exact .enter hname hentry (ih hle)
  | last hname hentry => exact .last hname hentry
  | link hname hentry hpurpose => exact .link hname hentry hpurpose
  | follow hname hentry hon htarget _ ih =>
      obtain ⟨more, rfl⟩ := Nat.exists_eq_add_of_le' (Nat.le_trans (Nat.le_add_left 1 _) hle)
      exact .follow hname hentry hon htarget (ih (Nat.le_of_succ_le_succ hle))

/-- Parts lead to one place, however many links may be followed. -/
theorem Leads.unique {s : Store} {other : Nat} (h : Leads s.wayAt? purpose budget here parts r)
    (h' : Leads s.wayAt? purpose other here parts t) : r = t := by
  have hr := Store.walk_of_leads (h.mono (Nat.le_max_left budget other))
  have ht := Store.walk_of_leads (h'.mono (Nat.le_max_right budget other))
  exact Except.ok.inj (hr.symm.trans ht)

/-- Whatever a name is looked up for, it may be looked up for anything but writing. -/
theorem LooksUp.change {part : Text} {parts' : List Text} {other : Purpose}
    (h : LooksUp ways purpose here part parts) (ho : other ≠ .writing) : LooksUp ways other here part parts' :=
  ⟨h.searchable, h.isName, h.width, fun hw => ho hw.1⟩

/-- What is written, unless it is an entry itself, is where the path leads to. -/
theorem Leads.toTarget (h : Leads ways purpose budget here parts r) (hp : purpose ≠ .entry) :
    Leads ways .target budget here parts r := by
  induction h with
  | done => exact .done
  | stay hdir hpart _ ih => exact .stay hdir hpart ih
  | up hdir _ ih => exact .up hdir ih
  | enter hname hentry _ ih => exact .enter (hname.change nofun) hentry ih
  | last hname hentry => exact .last (hname.change nofun) hentry
  | link _ _ hpurpose => exact absurd hpurpose hp
  | follow hname hentry _ htarget _ ih =>
      exact .follow (hname.change nofun) hentry nofun htarget ih

/-- Whatever leads somewhere has an entry's place of its own. -/
theorem Leads.exists_entry (h : Leads ways purpose budget here parts r) :
    ∃ q, Leads ways .entry budget here parts q := by
  induction h with
  | done => exact ⟨_, .done⟩
  | stay hdir hpart _ ih => exact ih.imp fun _ => .stay hdir hpart
  | up hdir _ ih => exact ih.imp fun _ => .up hdir
  | enter hname hentry _ ih => exact ih.imp fun _ => .enter (hname.change nofun) hentry
  | last hname hentry => exact ⟨_, .last (hname.change nofun) hentry⟩
  | link hname hentry => exact ⟨_, .link (hname.change nofun) hentry rfl⟩
  | @follow _ _ _ _ _ parts hname hentry _ htarget _ ih =>
      cases parts with
      | nil => exact ⟨_, .link (hname.change nofun) hentry rfl⟩
      | cons => exact ih.imp fun _ => .follow (hname.change nofun) hentry (fun _ => List.cons_ne_nil _ _) htarget

/-- The parts in front lead to a place that those behind go on from. -/
theorem Leads.split {back : List Text} (front : List Text) (h : Leads ways purpose budget here (front ++ back) r)
    (hb : back ≠ []) :
    ∃ m rest, Leads ways .target budget here front m ∧ Leads ways purpose rest m back r := by
  generalize hparts : front ++ back = parts at h
  induction h generalizing front with
  | done => exact absurd (List.append_eq_nil_iff.1 hparts).2 hb
  | stay hdir hpart h ih =>
      obtain ⟨rfl, rfl⟩ | ⟨front, rfl, rfl⟩ := List.append_eq_cons_iff.1 hparts
      · exact ⟨_, _, .done, .stay hdir hpart h⟩
      · obtain ⟨m, rest, hm, hr⟩ := ih _ rfl
        exact ⟨m, rest, .stay hdir hpart hm, hr⟩
  | up hdir h ih =>
      obtain ⟨rfl, rfl⟩ | ⟨front, rfl, rfl⟩ := List.append_eq_cons_iff.1 hparts
      · exact ⟨_, _, .done, .up hdir h⟩
      · obtain ⟨m, rest, hm, hr⟩ := ih _ rfl
        exact ⟨m, rest, .up hdir hm, hr⟩
  | enter hname hentry h ih =>
      obtain ⟨rfl, rfl⟩ | ⟨front, rfl, rfl⟩ := List.append_eq_cons_iff.1 hparts
      · exact ⟨_, _, .done, .enter hname hentry h⟩
      · obtain ⟨m, rest, hm, hr⟩ := ih _ rfl
        exact ⟨m, rest, .enter (hname.change nofun) hentry hm, hr⟩
  | last hname hentry =>
      obtain ⟨rfl, rfl⟩ | ⟨front, rfl, hnil⟩ := List.append_eq_cons_iff.1 hparts
      · exact ⟨_, budget, .done, .last hname hentry⟩
      · exact absurd (List.append_eq_nil_iff.1 hnil.symm).2 hb
  | link hname hentry hpurpose =>
      obtain ⟨rfl, rfl⟩ | ⟨front, rfl, hnil⟩ := List.append_eq_cons_iff.1 hparts
      · exact ⟨_, budget, .done, .link hname hentry hpurpose⟩
      · exact absurd (List.append_eq_nil_iff.1 hnil.symm).2 hb
  | follow hname hentry hon htarget h ih =>
      obtain ⟨rfl, rfl⟩ | ⟨front, rfl, rfl⟩ := List.append_eq_cons_iff.1 hparts
      · exact ⟨_, _, .done, .follow hname hentry hon htarget h⟩
      · obtain ⟨m, rest, hm, hr⟩ := ih _ (List.append_assoc ..)
        exact ⟨m, rest, .follow (hname.change nofun) hentry nofun htarget hm, hr⟩

/-- A lookup goes on in a directory. -/
theorem Leads.searchable {part : Text} (h : Leads ways purpose budget here (part :: parts) r) :
    Searchable ways here := by
  cases h with
  | stay hdir | up hdir => exact hdir
  | enter hname | last hname | link hname | follow hname => exact hname.searchable

/-- A part that is no name stays in the directory or leaves it. -/
theorem Leads.of_not_isName {part : Text} (h : Leads ways purpose budget here [part] r) (hn : ¬IsName part) :
    r = if part = ['.', '.'] then here.dropLast else here := by
  cases h with
  | stay _ hpart rest =>
      cases rest
      rw [if_neg (by rcases hpart with rfl | rfl <;> decide)]
  | up _ rest =>
      cases rest
      rfl
  | enter hname | last hname | link hname | follow hname => exact absurd hname.isName hn

/-- A name ends the lookup of an entry. -/
theorem Leads.of_isName {part : Text} (h : Leads ways .entry budget here [part] r) (hn : IsName part) :
    r = here ++ [part] := by
  cases h with
  | stay _ hpart => exact absurd hpart (not_or.2 ⟨hn.ne_nil, hn.ne_here⟩)
  | up => exact absurd rfl hn.ne_above
  | enter _ _ rest =>
      cases rest
      rfl
  | last | link => rfl
  | follow _ _ hon => exact absurd rfl (hon rfl)

/-- A name leads to the directory of that name. -/
theorem Leads.of_directory {part : Text} {searchable : Bool} (h : Leads ways purpose budget here [part] r)
    (hn : IsName part) (hentry : ways (here ++ [part]) = some (.directory searchable)) : r = here ++ [part] := by
  cases h with
  | stay _ hpart => exact absurd hpart (not_or.2 ⟨hn.ne_nil, hn.ne_here⟩)
  | up => exact absurd rfl hn.ne_above
  | enter _ _ rest =>
      cases rest
      rfl
  | last | link => rfl
  | follow _ hlink => exact absurd (hlink.symm.trans hentry) nofun

/-- A lookup of an entry itself ends where the path leads to, unless it ends at a link. -/
theorem Leads.toTarget_of_entry (h : Leads ways .entry budget here parts r)
    (hlink : ∀ target, ways r ≠ some (.link target)) : Leads ways .target budget here parts r := by
  induction h with
  | done => exact .done
  | stay hdir hpart _ ih => exact .stay hdir hpart (ih hlink)
  | up hdir _ ih => exact .up hdir (ih hlink)
  | enter hname hentry _ ih => exact .enter (hname.change nofun) hentry (ih hlink)
  | last hname hentry => exact .last (hname.change nofun) hentry
  | link _ hentry => exact absurd hentry (hlink _)
  | follow hname hentry _ htarget _ ih => exact .follow (hname.change nofun) hentry nofun htarget (ih hlink)

/-! ### Other ways -/

/-- The place of a path, where a link stands, and the place that the path leads to, where a path can only end. -/
structure LinksTo (ways : Place → Option Way) (q t : Place) : Prop where
  isLink : ∃ target, ways q = some (.link target)
  isEnd : ways t = none
  through : ∀ {purpose : Purpose} {budget : Nat} {here r : Place} {part : Text} {parts : List Text},
    here ++ [part] = q → (purpose = .entry → parts ≠ []) → Leads ways purpose budget here (part :: parts) r →
      parts = [] ∧ r = t

/-- Whatever goes on through a link to a file ends there, at the file. -/
theorem Leads.linksTo {s : Store} {other : Nat} (hq : Leads s.wayAt? .entry budget here parts q)
    (ht : Leads s.wayAt? .target other here parts t) (hlink : ∃ target, s.wayAt? q = some (.link target))
    (hend : s.wayAt? t = none) : LinksTo s.wayAt? q t := by
  refine ⟨hlink, hend, ?_⟩
  obtain ⟨target, hlink⟩ := hlink
  -- The last part of the path is the link's name in a directory `d`: any other part ends both lookups at one place.
  obtain ⟨d, part, rest, rfl, hpart⟩ : ∃ d part rest, q = d ++ [part] ∧ Leads s.wayAt? .target rest d [part] t := by
    obtain rfl | ⟨front, part, rfl⟩ := List.eq_nil_or_concat parts
    · cases hq
      cases ht
      rw [hlink] at hend
      cases hend
    · rw [List.concat_eq_append] at hq ht
      obtain ⟨d, rest, hd, hq⟩ := hq.split _ (List.cons_ne_nil _ _)
      obtain ⟨d', rest', hd', ht⟩ := ht.split _ (List.cons_ne_nil _ _)
      obtain rfl := hd.unique hd'
      by_cases hn : IsName part
      · exact ⟨d, part, rest', hq.of_isName hn, ht⟩
      · rw [hq.of_not_isName hn, ← ht.of_not_isName hn, hend] at hlink
        cases hlink
  intro purpose budget here r part' parts hplace hon h
  obtain ⟨rfl, hparteq⟩ := List.append_inj' hplace rfl
  obtain rfl : part' = part := by simpa using hparteq
  cases parts with
  | nil => exact ⟨rfl, (h.toTarget fun hp => hon hp rfl).unique hpart⟩
  | cons next parts =>
      obtain ⟨m, rest', hm, hr⟩ := h.split [part'] (List.cons_ne_nil next parts)
      obtain rfl := hm.unique hpart
      exact absurd (hend.symm.trans hr.searchable) nofun

/-- A path leads to the same place without a link to a file, unless it ends at the file or, looked up as an entry, at
most at the link. -/
theorem Leads.redirect (h : Leads ways purpose budget here parts r) (hl : LinksTo ways q t)
    (hways : ∀ p, p ≠ q → ways' p = ways p) (hq : ways' q = none) (hr : purpose ≠ .entry → r ≠ t) :
    Leads ways' purpose budget here parts r := by
  obtain ⟨target, hlink⟩ := hl.isLink
  have hsearchable {here : Place} (hs : Searchable ways here) : Searchable ways' here := by
    rw [Searchable, hways here (by rintro rfl; simp [Searchable, hlink] at hs), hs]
  have hlooks {purpose : Purpose} {here : Place} {part : Text} {parts : List Text}
      (hn : LooksUp ways purpose here part parts) : LooksUp ways' purpose here part parts :=
    ⟨hsearchable hn.searchable, hn.isName, hn.width, hn.writing⟩
  induction h with
  | done => exact .done
  | stay hdir hpart _ ih => exact .stay (hsearchable hdir) hpart (ih hr)
  | up hdir _ ih => exact .up (hsearchable hdir) (ih hr)
  | enter hname hentry _ ih =>
      exact .enter (hlooks hname) (by rwa [hways _ (by rintro rfl; simp [hlink] at hentry)]) (ih hr)
  | last hname hentry =>
      exact .last (hlooks hname) (by rwa [hways _ (by rintro rfl; simp [hlink] at hentry)])
  | @link budget here part target hname hentry hpurpose =>
      by_cases hplace : here ++ [part] = q
      · exact .last (hlooks hname) (hplace ▸ hq)
      · exact .link (hlooks hname) (by rwa [hways _ hplace]) hpurpose
  | @follow budget here r part target parts hname hentry hon htarget h ih =>
      by_cases hplace : here ++ [part] = q
      · obtain ⟨hparts, hrt⟩ := hl.through hplace hon (.follow hname hentry hon htarget h)
        exact absurd hrt (hr fun hp => hon hp hparts)
      · exact .follow (hlooks hname) (by rwa [hways _ hplace]) hon htarget (ih hr)

/-- Ways of which more may be gone: the same links, and the same directories, with names looked up in as many at
least. -/
structure Widens (ways ways' : Place → Option Way) : Prop where
  link : ∀ {q : Place} {target : Text}, ways q = some (.link target) → ways' q = some (.link target)
  isEnd : ∀ {q : Place}, ways q = none → ways' q = none
  directory : ∀ {q : Place} {searchable : Bool}, ways q = some (.directory searchable) →
    ∃ searchable', ways' q = some (.directory searchable')
  searchable : ∀ {q : Place}, Searchable ways q → Searchable ways' q

/-- Whatever leads somewhere leads there too where more may be gone. -/
theorem Leads.widen (h : Leads ways purpose budget here parts r) (hw : Widens ways ways') :
    Leads ways' purpose budget here parts r := by
  have hlooks {purpose : Purpose} {here : Place} {part : Text} {parts : List Text}
      (hn : LooksUp ways purpose here part parts) : LooksUp ways' purpose here part parts :=
    ⟨hw.searchable hn.searchable, hn.isName, hn.width, hn.writing⟩
  induction h with
  | done => exact .done
  | stay hdir hpart _ ih => exact .stay (hw.searchable hdir) hpart ih
  | up hdir _ ih => exact .up (hw.searchable hdir) ih
  | enter hname hentry _ ih =>
      obtain ⟨searchable', hentry⟩ := hw.directory hentry
      exact .enter (hlooks hname) hentry ih
  | last hname hentry => exact .last (hlooks hname) (hw.isEnd hentry)
  | link hname hentry hpurpose => exact .link (hlooks hname) (hw.link hentry) hpurpose
  | follow hname hentry hon htarget _ ih => exact .follow (hlooks hname) (hw.link hentry) hon htarget ih

/-! ### Places of paths -/

namespace Store

variable {s s' : Store} {p : Path}

/-- Where the lookup of a path begins. -/
def base (s : Store) (p : Path) : Place := if p.rooted then [] else s.user.home

/-- A path that can be looked up at all. -/
def Admits (p : Path) : Prop := (∀ part ∈ p.parts, '\x00' ∉ part) ∧ width p.toText ≤ maxPathLength

theorem place_eq_ok :
    s.place purpose p = .ok q ↔ Admits p ∧ Leads s.wayAt? purpose maxLinks (s.base p) p.parts q := by
  rw [← walk_eq_ok, place, Admits, base]
  split
  · next hnul =>
      refine iff_of_false nofun fun h => ?_
      simp only [List.any_eq_true, decide_eq_true_eq] at hnul
      obtain ⟨part, hmem, hpart⟩ := hnul
      exact h.1.1 part hmem hpart
  · next hnul =>
      have hparts : ∀ part ∈ p.parts, '\x00' ∉ part := by simpa using hnul
      split
      · next hwidth => exact iff_of_false nofun fun h => absurd h.1.2 (Nat.not_le.2 hwidth)
      · next hwidth => exact (and_iff_right ⟨hparts, Nat.not_lt.1 hwidth⟩).symm

theorem refusal_of_place {r : Refusal} (h : s.place .target p = .error r) : r ≠ .isDirectory ∧ r ≠ .notPermitted := by
  unfold place at h
  split at h
  · cases h
    decide
  · split at h
    · cases h
      decide
    · obtain ⟨hdirectory, hpermitted, -⟩ := refusal_of_walk h
      exact ⟨hdirectory, hpermitted⟩

/-- Only a path with a NUL is no path. -/
theorem place_eq_nulByte : s.place .target p = .error .nulByte ↔ ∃ part ∈ p.parts, '\x00' ∈ part := by
  unfold place
  split
  · next hnul => exact iff_of_true rfl (by simpa using hnul)
  · next hnul =>
      refine iff_of_false (fun h => ?_) (by simpa using hnul)
      split at h
      · cases h
      · exact (refusal_of_walk h).2.2 rfl

theorem place_toTarget (h : s.place purpose p = .ok q) (hp : purpose ≠ .entry) : s.place .target p = .ok q := by
  obtain ⟨hadmits, hleads⟩ := place_eq_ok.1 h
  exact place_eq_ok.2 ⟨hadmits, hleads.toTarget hp⟩

theorem place_toTarget_of_entry (h : s.place .entry p = .ok q) (hlink : ∀ target, s.wayAt? q ≠ some (.link target)) :
    s.place .target p = .ok q := by
  obtain ⟨hadmits, hleads⟩ := place_eq_ok.1 h
  exact place_eq_ok.2 ⟨hadmits, hleads.toTarget_of_entry hlink⟩

theorem exists_place_entry (h : s.place purpose p = .ok r) : ∃ q, s.place .entry p = .ok q := by
  obtain ⟨hadmits, hleads⟩ := place_eq_ok.1 h
  obtain ⟨q, hq⟩ := hleads.exists_entry
  exact ⟨q, place_eq_ok.2 ⟨hadmits, hq⟩⟩

/-- If nothing goes on from a path's own entry, the path leads there. -/
theorem place_entry_of_end (h : s.place .target p = .ok q) (hend : ∀ r, s.place .entry p = .ok r → s.wayAt? r = none) :
    s.place .entry p = .ok q := by
  obtain ⟨r, hr⟩ := exists_place_entry h
  have htarget := place_toTarget_of_entry hr fun target hlink => by simp [hend r hr] at hlink
  obtain rfl : r = q := Except.ok.inj (htarget.symm.trans h)
  exact hr

theorem linksTo_of_place (hq : s.place .entry p = .ok q) (ht : s.place .target p = .ok t)
    (hlink : ∃ target, s.wayAt? q = some (.link target)) (hend : s.wayAt? t = none) : LinksTo s.wayAt? q t :=
  (place_eq_ok.1 hq).2.linksTo (place_eq_ok.1 ht).2 hlink hend

/-- A path that is gone through a link to a file leads, without the link, to where it led unless that was the file. -/
theorem place_redirect (h : s.place purpose p = .ok r) (hl : LinksTo s.wayAt? q t) (huser : s'.user = s.user)
    (hways : ∀ p, p ≠ q → s'.wayAt? p = s.wayAt? p) (hq : s'.wayAt? q = none) (hr : purpose ≠ .entry → r ≠ t) :
    s'.place purpose p = .ok r := by
  obtain ⟨hadmits, hleads⟩ := place_eq_ok.1 h
  refine place_eq_ok.2 ⟨hadmits, ?_⟩
  rw [show s'.base p = s.base p by rw [base, base, huser]]
  exact hleads.redirect hl hways hq hr

/-- A name beside a path is in the directory that the parts in front of its last one lead to. -/
theorem place_withName {name : Text} (h : s.place .entry (p.withName name) = .ok r) (hn : IsName name) :
    ∃ d, Leads s.wayAt? .target maxLinks (s.base p) p.parts.dropLast d ∧ r = d ++ [name] := by
  obtain ⟨d, rest, hd, hr⟩ := (place_eq_ok.1 h).2.split p.parts.dropLast (List.cons_ne_nil _ _)
  exact ⟨d, hd, hr.of_isName hn⟩

/-- Two stores with the same ways: the same directories and links. -/
structure SameWays (s s' : Store) : Prop where
  user : s'.user = s.user
  ways : s'.wayAt? = s.wayAt?

theorem SameWays.refl (s : Store) : SameWays s s := ⟨rfl, rfl⟩

theorem SameWays.trans {s'' : Store} (h : SameWays s s') (h' : SameWays s' s'') : SameWays s s'' :=
  ⟨h'.user.trans h.user, h'.ways.trans h.ways⟩

theorem SameWays.place_iff (h : SameWays s s') : s'.place purpose p = .ok q ↔ s.place purpose p = .ok q := by
  rw [place_eq_ok, place_eq_ok, base, base, h.user, h.ways]

/-- One store in the hands of two users, of whom the other may do whatever the one may. -/
structure Privileges (s s' : Store) : Prop where
  entries : s'.entries = s.entries
  home : s'.user.home = s.user.home
  allows : ∀ {mode : FileMode} {a : Access}, s.allows mode a = true → s'.allows mode a = true

namespace Privileges

theorem entry?_eq (h : Privileges s s') (q : Place) : s'.entry? q = s.entry? q := by
  rw [ entry?, entry?, h.entries]

theorem widens (h : Privileges s s') : Widens s.wayAt? s'.wayAt? where
  link hlink := wayAt?_link.2 ((h.entry?_eq _).trans (wayAt?_link.1 hlink))
  isEnd hend := wayAt?_eq_none.2 (by rw [h.entry?_eq]; exact wayAt?_eq_none.1 hend)
  directory hdir := by
    obtain ⟨mode, hentry, -⟩ := wayAt?_directory.1 hdir
    exact ⟨_, wayAt?_directory.2 ⟨mode, (h.entry?_eq _).trans hentry, rfl⟩⟩
  searchable hdir := by
    obtain ⟨mode, hentry, hsearch⟩ := searchable_iff.1 hdir
    exact searchable_iff.2 ⟨mode, (h.entry?_eq _).trans hentry, h.allows hsearch⟩

/-- A path leads the other to where it leads the one. -/
theorem place_eq (h : Privileges s s') (hplace : s.place purpose p = .ok q) : s'.place purpose p = .ok q := by
  obtain ⟨hadmits, hleads⟩ := place_eq_ok.1 hplace
  refine place_eq_ok.2 ⟨hadmits, ?_⟩
  rw [show s'.base p = s.base p by rw [base, base, h.home]]
  exact hleads.widen h.widens

end Privileges

end Store

end JujuMigration
