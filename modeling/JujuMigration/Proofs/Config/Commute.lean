import JujuMigration.Proofs.Config.Refit
/-! Changes of attributes commute with reading. A tree that is laid out stays so when an attribute is dropped from one
of its bodies, however deep, or when it is exchanged for one that fits wherever the old one did; and a tree that is laid
out is read from its own text. -/

namespace JujuMigration

open Source

/-! ### Exchanging items -/

section

variable {stop : Option Char} {front back : Body}

/-- What stands in front of an item stays laid out in front of anything that is. -/
theorem Laid.cut {n : Node} (hn : ∀ t, n ≠ .gap t) (h : Laid stop (front ++ n :: back)) :
    Laid stop (n :: back) ∧ ∀ rest, Laid stop rest → Laid stop (front ++ rest) := by
  induction front with
  | nil => exact ⟨h, fun _ hrest => hrest⟩
  | cons m front ih =>
      have hne : front ++ n :: back ≠ [] := List.append_ne_nil_of_right_ne_nil _ (List.cons_ne_nil _ _)
      cases h with
      | finish hgaps =>
          obtain ⟨t, ht⟩ := hgaps n (by simp)
          exact absurd ht (hn t)
      | gap ht htrim h =>
          obtain ⟨hitem, hfront⟩ := ih h
          refine ⟨hitem, fun rest hrest => ?_⟩
          exact .gap ht (fun _ => htrim hne) (hfront rest hrest)
      | field hlead hfits h =>
          obtain ⟨hitem, hfront⟩ := ih h
          refine ⟨hitem, fun rest hrest => ?_⟩
          exact .field hlead (fun r _ => hfits r fun hnil => absurd hnil hne) (hfront rest hrest)
      | block hlead hopens hbody htail h =>
          obtain ⟨hitem, hfront⟩ := ih h
          refine ⟨hitem, fun rest hrest => ?_⟩
          exact .block hlead hopens hbody (fun r _ => htail r fun hnil => absurd hnil hne) (hfront rest hrest)

/-- An attribute may be dropped. -/
theorem Laid.drop {a : Attribute} (h : Laid stop (front ++ .attribute a :: back)) : Laid stop (front ++ back) := by
  obtain ⟨hitem, hfront⟩ := h.cut (fun _ => Node.noConfusion)
  cases hitem with
  | finish hgaps =>
      obtain ⟨t, ht⟩ := hgaps _ List.mem_cons_self
      cases ht
  | field _ _ hback => exact hfront back hback

/-- An attribute may be exchanged for one that fits where it does. -/
theorem Laid.exchange_attribute {a b : Attribute} (h : Laid stop (front ++ .attribute a :: back))
    (hlead : b.lead = a.lead) (hfits : ∀ r, a.Fits r → b.Fits r) : Laid stop (front ++ .attribute b :: back) := by
  obtain ⟨hitem, hfront⟩ := h.cut (fun _ => Node.noConfusion)
  cases hitem with
  | finish hgaps =>
      obtain ⟨t, ht⟩ := hgaps _ List.mem_cons_self
      cases ht
  | field hlead' hfits' hback =>
      apply hfront
      exact .field (hlead ▸ hlead') (fun r hr => hfits r (hfits' r hr)) hback

/-- The body of a block may be exchanged for another that is laid out. -/
theorem Laid.exchange {inner inner' : Body} {head : BlockHead} {closing : Text}
    (h : Laid stop (front ++ .block head inner closing :: back)) (hinner : Laid (some '}') inner') :
    Laid stop (front ++ .block head inner' closing :: back) := by
  obtain ⟨hitem, hfront⟩ := h.cut (fun _ => Node.noConfusion)
  cases hitem with
  | finish hgaps =>
      obtain ⟨t, ht⟩ := hgaps _ List.mem_cons_self
      cases ht
  | block hlead hopens _ htail hback =>
      apply hfront
      exact .block hlead hopens hinner htail hback

end

namespace Body

variable {body inner tree : Body} {old new : Text}

/-! ### Bodies inside a tree -/

/-- A block stands between two bodies, and every change of it leaves them. -/
theorem modifyBlock_eq {index : Nat} {b : Block} (h : (blocks body)[index]? = some b) :
    ∃ before behind, body = before ++ .block b.head b.body b.closing :: behind ∧
      ∀ change, modifyBlock index change body = before ++ .block b.head (change b.body) b.closing :: behind := by
  induction body generalizing index with
  | nil => cases h
  | cons n ns ih =>
      have skip {index' : Nat} (h : (blocks ns)[index']? = some b)
          (hm : ∀ change, modifyBlock index change (n :: ns) = n :: modifyBlock index' change ns) :
          ∃ before behind, n :: ns = before ++ .block b.head b.body b.closing :: behind ∧
            ∀ change, modifyBlock index change (n :: ns) =
              before ++ .block b.head (change b.body) b.closing :: behind := by
        obtain ⟨before, behind, hb, hc⟩ := ih h
        exact ⟨n :: before, behind, congrArg (n :: ·) hb, fun change => by rw [hm, hc]; rfl⟩
      rcases n with t | a | ⟨head, inside, closing⟩
      · exact skip h fun _ => rfl
      · exact skip h fun _ => rfl
      · cases index with
        | zero =>
            obtain rfl := Option.some.inj h
            exact ⟨[], ns, rfl, fun _ => rfl⟩
        | succ index => exact skip h fun _ => rfl

/-- A body inside a tree that is laid out is laid out, and it may be exchanged for another. -/
theorem laid_modifyInner {stop : Option Char} {path : List Nat} (h : Laid stop tree)
    (hinner : inner? path tree = some inner) :
    ∃ stop', Laid stop' inner ∧ ∀ change, Laid stop' (change inner) → Laid stop (modifyInner path change tree) := by
  induction path generalizing stop tree with
  | nil =>
      obtain rfl := Option.some.inj hinner
      exact ⟨stop, h, fun _ hchange => hchange⟩
  | cons index path ih =>
      obtain ⟨b, hb, hinside⟩ := Option.bind_eq_some_iff.1 hinner
      obtain ⟨before, behind, rfl, hmodify⟩ := modifyBlock_eq hb
      have hbody : Laid (some '}') b.body := h.of_mem_blocks (List.mem_of_getElem? hb)
      obtain ⟨stop', hlaid, hchange⟩ := ih hbody hinside
      refine ⟨stop', hlaid, fun change hc => ?_⟩
      rw [modifyInner, hmodify]
      exact h.exchange (hchange change hc)

/-! ### Reading an edited tree -/

/-- The tree is read from its own text, but for line numbers and for gaps that stand side by side. -/
def Rereads (tree : Body) : Prop := ∃ again, Body.read (render tree) = .ok again ∧ canonical again = canonical tree

theorem rereads_of_laid (h : Laid none tree) : tree.Rereads := by
  obtain ⟨again, hreads, hcanonical⟩ := h.reads (r := []) rfl rfl 1
  rw [List.append_nil] at hreads
  exact ⟨again, read_eq_ok.2 hreads, hcanonical⟩

theorem laid_of_read {s : Text} (h : Body.read s = .ok tree) : Laid none tree := (read_eq_ok.1 h).laid

/-- What a rename to a free name does in the place of the attribute keeps a body laid out. -/
theorem laid_renamed {stop : Option Char} {a : Attribute} {value : Text} (h : Laid stop body)
    (ha : attribute? body old = some a) (hnew : IsIdentifier new)
    (hvalue : ∀ r, a.Fits r → ({ a with expr := value }).Fits r) :
    Laid stop (modifyFirst old (·.renamed old new value) body) := by
  obtain ⟨front, back, rfl, -, -, hmodify, -⟩ := attribute?_eq_some ha
  rw [hmodify]
  apply h.exchange_attribute
  · rfl
  · intro r hfits
    exact (hvalue r hfits).renamed hnew old

/-- Dropping an attribute of a tree that has been read, and renaming it to a name that is free, with its expression or
with the reference in it rewritten, give a tree that is read from its own text. -/
theorem rereads_edited {s : Text} {path : List Nat} {a : Attribute} (h : Body.read s = .ok tree)
    (hbody : inner? path tree = some body) (ha : attribute? body old = some a) :
    (∃ dropped, removeAttribute? old body = some dropped ∧ (modifyInner path (fun _ => dropped) tree).Rereads) ∧
      ∀ new expr, IsIdentifier new → has body new = false → expr = none ∨ expr = Reference.upgraded? a.expr →
        ∃ renamed, renameAttribute? old new expr body = some renamed ∧
          (modifyInner path (fun _ => renamed) tree).Rereads := by
  obtain ⟨stop, hlaid, hexchange⟩ := laid_modifyInner (laid_of_read h) hbody
  have hrereads : ∀ body', Laid stop body' → (modifyInner path (fun _ => body') tree).Rereads := by
    intro body' hbody'
    exact rereads_of_laid (hexchange (fun _ => body') hbody')
  constructor
  · obtain ⟨front, back, rfl, -, -, -, hdrop⟩ := attribute?_eq_some ha
    refine ⟨front ++ back, ?_, hrereads _ hlaid.drop⟩
    rw [removeAttribute?_eq, ha, Option.map_some, hdrop]
  · intro new expr hnew hfree hexpr
    have hne : old ≠ new := by
      rintro rfl
      rw [has, ha] at hfree
      cases hfree
    obtain ⟨renamed, hrenamed⟩ : ∃ renamed, renameAttribute? old new expr body = some renamed :=
      ⟨_, by rw [renameAttribute?, ha]; rfl⟩
    refine ⟨renamed, hrenamed, hrereads renamed ?_⟩
    rcases renameAttribute?_cases hne ha hrenamed with ⟨hhas, -⟩ | ⟨-, rfl⟩
    · rw [hfree] at hhas
      cases hhas
    · apply laid_renamed hlaid ha hnew
      intro r hfits
      cases expr with
      | none => exact hfits
      | some u =>
          rcases hexpr with hnone | hsome
          · cases hnone
          · exact hfits.upgraded hsome.symm

/-- A reference with a brace in its index, in a block on one line. -/
def indexedSource : Text := "a \x7b b \x7b m = x[\"\x7d\"].name \x7d \x7d".toList

theorem rereads_edited_indexed :
    ∃ tree body, Body.read indexedSource = .ok tree ∧ inner? [0, 0] tree = some body ∧
      (∃ dropped, removeAttribute? "m".toList body = some dropped ∧
        (modifyInner [0, 0] (fun _ => dropped) tree).Rereads) ∧
      ∃ renamed, renameAttribute? "m".toList "model".toList (some "x[\"\x7d\"].uuid".toList) body = some renamed ∧
        (modifyInner [0, 0] (fun _ => renamed) tree).Rereads := by
  have hat : ((Body.read indexedSource).toOption.bind (inner? [0, 0])).map
      (fun body => ((attribute? body "m".toList).map (·.expr), has body "model".toList)) =
      some (some "x[\"\x7d\"].name".toList, false) := by
    decide +kernel
  cases hread : Body.read indexedSource with
  | error f =>
      rw [hread] at hat
      cases hat
  | ok tree =>
      rw [hread] at hat
      obtain ⟨body, hbody, hat⟩ := Option.map_eq_some_iff.1 hat
      obtain ⟨hexpr, hfree⟩ := Prod.mk.inj hat
      obtain ⟨a, ha, hexpr⟩ := Option.map_eq_some_iff.1 hexpr
      have hupgraded : some "x[\"\x7d\"].uuid".toList = Reference.upgraded? a.expr := by
        rw [hexpr]
        decide +kernel
      have hnew : IsIdentifier "model".toList := isIdentifier_of_all (by decide) (by decide)
      obtain ⟨hdropped, hrenamed⟩ := rereads_edited hread hbody ha
      exact ⟨tree, body, rfl, hbody, hdropped, hrenamed _ _ hnew hfree (.inr hupgraded)⟩

end Body
end JujuMigration
