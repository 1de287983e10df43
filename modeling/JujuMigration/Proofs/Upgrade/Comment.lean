import JujuMigration.Proofs.Config.Exchange
import JujuMigration.Proofs.Upgrade.Concat
import JujuMigration.Proofs.Upgrade.Variation
/-! Comments in an upgrade. Where a comment of a file is another, the upgrade makes the same changes, if the rules read
the blocks alike; and what it makes of the file has the other comment in the same place, unless the comment is gone with
an attribute that was dropped. -/

namespace JujuMigration

open Source Reference VersionConstraint

variable {c c' : Text}

/-- One of at most `k` comments stands on an attribute that the upgrade of its block drops or overwrites. -/
def Loses (c c' : Text) (k : Nat) (nodes nodes' : Body) : Prop :=
  ∃ b b', (b, b') ∈ (Body.blocks nodes).zip (Body.blocks nodes') ∧
    Body.StandsOn c c' k (Body.lostNames b.head b.body) b.body b'.body

namespace Document

theorem upgradeNodes_gaps_append (d : Document) {g : Body} (hg : ∀ n ∈ g, ∃ t, n = .gap t) (ns : Body) :
    d.upgradeNodes (g ++ ns) = (g ++ (d.upgradeNodes ns).1, (d.upgradeNodes ns).2) := by
  induction g with
  | nil => rfl
  | cons n g ih =>
      obtain ⟨⟨t, rfl⟩, hns⟩ := List.forall_mem_cons.1 hg
      rw [List.cons_append, upgradeNodes, ih hns]
      rfl

/-- The upgrade of files that vary in a comment. -/
theorem upgradeNodes_varies (d d' : Document) {k : Nat} {nodes nodes' : Body} (hs : SameStyle c c')
    (h : Body.Varies c c' k nodes nodes')
    (hread : List.Forall₂ (ReadAlike c c') (Body.blocks nodes) (Body.blocks nodes')) :
    (d'.upgradeNodes nodes').2.changes = (d.upgradeNodes nodes).2.changes ∧
      ∃ k', Body.Varies c c' k' (d.upgradeNodes nodes).1 (d'.upgradeNodes nodes').1 ∧
        (k' = k ∨ k' < k ∧ Loses c c' k nodes nodes') := by
  induction h with
  | nil => exact ⟨rfl, 0, .nil, .inl rfl⟩
  | @gaps k k₁ i g g' ns ns' hg hg' ht hk _ ih =>
      have hblocks := Body.blocks_gaps_append hg ns
      have hblocks' := Body.blocks_gaps_append hg' ns'
      rw [hblocks, hblocks'] at hread
      obtain ⟨hchanges, k', hvaries, hloss⟩ := ih hread
      rw [upgradeNodes_gaps_append d hg, upgradeNodes_gaps_append d' hg', Loses, hblocks, hblocks']
      refine ⟨hchanges, i + k', .gaps hg hg' ht rfl hvaries, ?_⟩
      rcases hloss with rfl | ⟨hless, b, b', hb, hstands⟩
      · exact .inl hk.symm
      · exact .inr ⟨by omega, b, b', hb, hstands.mono_count (by omega)⟩
  | @field k k₁ i j a a' ns ns' ha hk _ ih =>
      obtain ⟨hchanges, k', hvaries, hloss⟩ := ih hread
      refine ⟨hchanges, i + j + k', .field ha rfl hvaries, ?_⟩
      rcases hloss with rfl | ⟨hless, b, b', hb, hstands⟩
      · exact .inl hk.symm
      · exact .inr ⟨by omega, b, b', hb, hstands.mono_count (by omega)⟩
  | @block k k₁ i j head head' body body' ns ns' closing closing' hhead hbody hclosing hk _ _ ih =>
      obtain ⟨hblock, hread⟩ := List.forall₂_cons.1 hread
      obtain ⟨hchanges, k', hvaries, hloss⟩ := ih hread
      obtain ⟨hfirst, i', hinner, hleaves⟩ := hbody.upgraded hs hhead hblock
      refine ⟨congrArg₂ (· ++ ·) hfirst hchanges, i' + j + k', .block hhead hinner hclosing rfl hvaries, ?_⟩
      have hzip :
          (Body.blocks (.block head body closing :: ns)).zip (Body.blocks (.block head' body' closing' :: ns')) =
            (⟨head, body, closing⟩, ⟨head', body', closing'⟩) :: (Body.blocks ns).zip (Body.blocks ns') := rfl
      have hrest : k' ≤ k := hloss.elim Nat.le_of_eq fun hless => Nat.le_of_lt hless.1
      rcases hleaves with rfl | ⟨hless, hstands⟩
      · rcases hloss with rfl | ⟨hless, b, b', hb, hstands⟩
        · exact .inl hk.symm
        · refine .inr ⟨by omega, b, b', ?_, hstands.mono_count (by omega)⟩
          rw [hzip]
          exact List.mem_cons_of_mem _ hb
      · refine .inr ⟨by omega, ⟨head, body, closing⟩, ⟨head', body', closing'⟩, ?_, hstands.mono_count (by omega)⟩
        rw [hzip]
        exact List.mem_cons_self

end Document

/-- The comment stands on an attribute that the upgrade drops or whose expression it overwrites with another's: in the
expression or behind it. -/
def StandsOnLost (c c' : Text) (body body' : Body) : Prop :=
  ∃ b b', (b, b') ∈ (Body.blocks body).zip (Body.blocks body') ∧
    ∃ name ∈ Body.lostNames b.head b.body, ∃ a a' u v, Body.attribute? b.body name = some a ∧
      Body.attribute? b'.body name = some a' ∧ a.expr ++ a.tail = u ++ (c ++ v) ∧ a'.expr ++ a'.tail = u ++ (c' ++ v)

theorem Loses.standsOnLost {body body' : Body} (h : Loses c c' 1 body body') : StandsOnLost c c' body body' := by
  obtain ⟨b, b', hb, name, hname, i, j, a, a', ha, ha', hv, hpos, hle⟩ := h
  obtain ⟨u, v, hu, hu'⟩ := (hv.expr.text.append hv.tail).exists_of_one (by omega)
  exact ⟨b, b', hb, name, hname, a, a', u, v, ha, ha', hu, hu'⟩

/-- Two files that differ in the inside of a comment are upgraded with the same changes, if the rules read their blocks
alike; and what comes out differs in the comment again, unless the comment has gone with an attribute. -/
theorem upgrade_exchange_comment {p c c' q : Text} {body body' : Body} (he : Exchanges c c' q)
    (hm : Meets c q (p ++ (c ++ q))) (h : Body.read (p ++ (c ++ q)) = .ok body)
    (h' : Body.read (p ++ (c' ++ q)) = .ok body')
    (hread : List.Forall₂ (ReadAlike c c') (Body.blocks body) (Body.blocks body')) (file : Text) :
    let up (body : Body) := (Document.unindexed file body).upgrade
    (up body').record.changes = (up body).record.changes ∧
      (up body').record.wasUpgraded = (up body).record.wasUpgraded ∧
      ((∃ front back, (up body).content = Utf8.encode (front ++ (c ++ back)) ∧
          (up body').content = Utf8.encode (front ++ (c' ++ back))) ∨
        (up body').content = (up body).content ∧ StandsOnLost c c' body body') := by
  obtain ⟨p₁, hp, body₁, hbody, hvaries⟩ := read_exchange_comment h he hm
  obtain rfl : p = p₁ := List.append_cancel_right hp
  obtain rfl : body' = body₁ := Except.ok.inj (h'.symm.trans hbody)
  obtain ⟨hchanges, k, hupgraded, hloss⟩ := Document.upgradeNodes_varies (Document.unindexed file body)
    (Document.unindexed file body') he.style hvaries hread
  have hcontent (body : Body) : (Document.unindexed file body).upgrade.content =
      Utf8.encode (Body.render ((Document.unindexed file body).upgradeNodes body).1) := rfl
  refine ⟨hchanges, ?_, ?_⟩
  · rw [Document.wasUpgraded_upgrade, Document.wasUpgraded_upgrade]
    exact congrArg (fun changes : List Change => !changes.isEmpty) hchanges
  · simp only [hcontent]
    rcases hloss with rfl | ⟨hless, hloses⟩
    · obtain ⟨front, back, hfront, hback⟩ := hupgraded.text.exists_of_one rfl
      exact .inl ⟨front, back, by rw [hfront], by rw [hback]⟩
    · refine .inr ⟨?_, hloses.standsOnLost⟩
      rw [hupgraded.text.eq_of_zero (by omega)]

/-- A machine whose model is chosen by an index, with a comment in the index. -/
def indexedFront : Text := "resource \"juju_machine\" \"m\" \x7b\n  model = juju_model.x[".toList

def indexedBack : Text := "0].name\n\x7d\n".toList

theorem upgrade_exchange_comment_index :
    ∃ body body', Body.read (indexedFront ++ ("/*a*/".toList ++ indexedBack)) = .ok body ∧
      Body.read (indexedFront ++ ("/* b */".toList ++ indexedBack)) = .ok body' ∧
      let up (body : Body) := (Document.unindexed [] body).upgrade
      (up body').record.changes = (up body).record.changes ∧
        (up body').record.wasUpgraded = (up body).record.wasUpgraded ∧
        ((∃ front back, (up body).content = Utf8.encode (front ++ ("/*a*/".toList ++ back)) ∧
            (up body').content = Utf8.encode (front ++ ("/* b */".toList ++ back))) ∨
          (up body').content = (up body).content ∧ StandsOnLost "/*a*/".toList "/* b */".toList body body') := by
  have hexchanges : Exchanges "/*a*/".toList "/* b */".toList indexedBack :=
    ⟨.star "a*/".toList " b */".toList, by decide +kernel, by decide +kernel⟩
  have hmeets : Meets "/*a*/".toList indexedBack (indexedFront ++ ("/*a*/".toList ++ indexedBack)) := by
    apply Meets.past ("\n  model = juju_model.x[/*a*/0].name\n\x7d\n".toList) (by decide +kernel)
    apply Meets.in_value ("juju_model.x[/*a*/0].name\n\x7d\n".toList) (by decide +kernel)
    have hbracket : InBrackets "/*a*/".toList indexedBack [] ('[' :: ("/*a*/".toList ++ indexedBack)) :=
      .step (.opening rfl) .here
    have hfront : ∀ d ∈ "juju_model.x".toList, IsOrdinary d ∧ d ≠ '\r' ∧ d ≠ '\n' := by simp [IsOrdinary]
    exact hbracket.of_ordinary (fun d hd => (hfront d hd).1) fun _ d hd => (hfront d hd).2
  -- Both texts are one block, and what the rules read of it is the index with its comment.
  have hblock (x : Text) (hx : x = "/*a*/".toList ∨ x = "/* b */".toList) :
      ∃ body b, Body.read (indexedFront ++ (x ++ indexedBack)) = .ok body ∧ Body.blocks body = [b] ∧
        b.reference? = some ("juju_model.x[".toList ++ (x ++ "0].name".toList)) ∧ b.requirement? = none := by
    have hviews : (Body.read (indexedFront ++ (x ++ indexedBack))).toOption.map (fun body =>
        (Body.blocks body).map fun b => (b.reference?, b.requirement?)) =
          some [(some ("juju_model.x[".toList ++ (x ++ "0].name".toList)), none)] := by
      rcases hx with rfl | rfl <;> decide +kernel
    obtain ⟨body, hread, hblocks⟩ := Option.map_eq_some_iff.1 hviews
    obtain ⟨b, hb, hview⟩ := List.map_eq_singleton_iff.1 hblocks
    obtain ⟨hreference, hrequirement⟩ := Prod.mk.inj hview
    exact ⟨body, b, eq_ok_of_toOption hread, hb, hreference, hrequirement⟩
  obtain ⟨body, b, hread, hb, hreference, hrequirement⟩ := hblock _ (.inl rfl)
  obtain ⟨body', b', hread', hb', hreference', -⟩ := hblock _ (.inr rfl)
  have halike : ReadAlike "/*a*/".toList "/* b */".toList b b' := by
    constructor
    · intro e e' he he'
      obtain rfl := Option.some.inj (hreference.symm.trans he)
      obtain rfl := Option.some.inj (hreference'.symm.trans he')
      decide +kernel
    · intro e e' u v he
      rw [hrequirement] at he
      cases he
  have hall : List.Forall₂ (ReadAlike "/*a*/".toList "/* b */".toList) (Body.blocks body) (Body.blocks body') := by
    rw [hb, hb']
    exact .cons halike .nil
  exact ⟨body, body', hread, hread', upgrade_exchange_comment hexchanges hmeets hread hread' hall []⟩

/-- A requirement with a comment that is a constraint itself. -/
def requirementFront : Text := "terraform \x7b\n  required_providers \x7b\n    juju = \x7b\n      ".toList

def requirementBack : Text := "\n      version = \"~> 1.0\"\n    \x7d\n  \x7d\n\x7d\n".toList

theorem upgrade_constraint_in_comment :
    ∃ c c' body body', Exchanges c c' requirementBack ∧
      Meets c requirementBack (requirementFront ++ (c ++ requirementBack)) ∧
      Body.read (requirementFront ++ (c ++ requirementBack)) = .ok body ∧
      Body.read (requirementFront ++ (c' ++ requirementBack)) = .ok body' ∧
      (Document.unindexed [] body).upgrade.record.changes = [.provider] ∧
      (Document.unindexed [] body').upgrade.record.changes = [] := by
  have hchanges (x : Text) (changes : List Change)
      (h : (Body.read (requirementFront ++ (x ++ requirementBack))).toOption.map
        (fun body => (Document.unindexed [] body).upgrade.record.changes) = some changes) :
      ∃ body, Body.read (requirementFront ++ (x ++ requirementBack)) = .ok body ∧
        (Document.unindexed [] body).upgrade.record.changes = changes := by
    obtain ⟨body, hread, hbody⟩ := Option.map_eq_some_iff.1 h
    exact ⟨body, eq_ok_of_toOption hread, hbody⟩
  obtain ⟨body, hread, hbody⟩ := hchanges "# version = \"0.5\"".toList [.provider] (by decide +kernel)
  obtain ⟨body', hread', hbody'⟩ := hchanges "# version".toList [] (by decide +kernel)
  refine ⟨_, _, body, body', ?_, ?_, hread, hread', hbody, hbody'⟩
  · exact ⟨.hash " version = \"0.5\"".toList " version".toList, by decide +kernel, by decide +kernel⟩
  · apply Meets.past ("\n  required_providers \x7b\n    juju = \x7b\n      ".toList ++
      ("# version = \"0.5\"".toList ++ requirementBack)) (by decide +kernel)
    apply Meets.past ("\n    juju = \x7b\n      ".toList ++ ("# version = \"0.5\"".toList ++ requirementBack))
      (by decide +kernel)
    apply Meets.in_value ('\x7b' :: ("\n      ".toList ++ ("# version = \"0.5\"".toList ++ requirementBack)))
      (by decide +kernel)
    have hbracket : InBrackets "# version = \"0.5\"".toList requirementBack ['\x7d']
        ("\n      ".toList ++ ("# version = \"0.5\"".toList ++ requirementBack)) :=
      InBrackets.here.of_ordinary (by simp [IsOrdinary]) (by simp)
    exact .step (.opening rfl) hbracket

end JujuMigration
