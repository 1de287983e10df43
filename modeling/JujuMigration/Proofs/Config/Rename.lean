import JujuMigration.Proofs.Config.Edited
import JujuMigration.Proofs.Config.Layout
import JujuMigration.Proofs.Text.Difference
/-! Renaming in a body whose attributes have a name and a separator. A renamed attribute keeps its equals sign; one that
is dropped or merged takes an equals sign with it. -/

namespace JujuMigration

open Text (equalsSigns equalsSigns_append equalsSigns_eq_zero Differs Splits)
open Source

/-! ### Names and separators -/

structure Attribute.Sound (a : Attribute) : Prop where
  name : IsIdentifier a.name
  sep : IsSeparator a.sep

def Body.Sound (body : Body) : Prop := ∀ a, .attribute a ∈ body → a.Sound

/-- The attributes of a body that is laid out have names and separators. -/
theorem Laid.sound {stop : Option Char} {body : Body} (h : Laid stop body) : body.Sound := by
  intro a ha
  induction h with
  | nil => cases ha
  | finish hgaps =>
      obtain ⟨t, ht⟩ := hgaps _ ha
      cases ht
  | gap _ _ _ ih => exact ih ((List.mem_cons.1 ha).resolve_left (by simp))
  | @field stop b _ _ hfits _ ih =>
      rcases List.mem_cons.1 ha with ha | ha
      · have hfit := hfits stop.toList fun _ => by cases stop <;> rfl
        rw [Node.attribute.inj ha]
        exact ⟨hfit.name, hfit.sep⟩
      · exact ih ha
  | block _ _ _ _ _ _ ih => exact ih ((List.mem_cons.1 ha).resolve_left (by simp))

/-- The blocks of a body that is laid out are laid out. -/
theorem Laid.of_mem_blocks {stop : Option Char} {body : Body} (h : Laid stop body) {b : Block}
    (hb : b ∈ Body.blocks body) : Laid (some '}') b.body := by
  induction h with
  | nil => cases hb
  | finish hgaps =>
      obtain ⟨t, ht⟩ := hgaps _ (Body.mem_blocks.1 hb)
      cases ht
  | gap _ _ _ ih => exact ih hb
  | field _ _ _ ih => exact ih hb
  | block _ _ hbody _ _ _ ih =>
      rcases List.mem_cons.1 hb with rfl | hb
      · exact hbody
      · exact ih hb

theorem equalsSigns_of_isIdentifier {s : Text} (h : IsIdentifier s) : equalsSigns s = 0 :=
  equalsSigns_eq_zero fun c hc he => by
    have := h.2 c hc
    rw [he] at this
    exact absurd this (by decide)

theorem equalsSigns_of_isSeparator {s : Text} (h : IsSeparator s) : equalsSigns s = 1 := by
  obtain ⟨a, b, rfl, ha, hb⟩ := h
  have hz (x : Text) (hx : ∀ c ∈ x, isSpace c = true) : equalsSigns x = 0 :=
    equalsSigns_eq_zero fun c hc he => by
      have := hx c hc
      rw [he] at this
      exact absurd this (by decide)
  have hcons : equalsSigns ('=' :: b) = equalsSigns b + 1 := List.count_cons_self
  rw [equalsSigns_append, hz a ha, hcons, hz b hb]

theorem head_of_isSeparator {s : Text} (h : IsSeparator s) :
    ∃ c t, s = c :: t ∧ (c = ' ' ∨ c = '\t' ∨ c = '=') := by
  obtain ⟨a, b, rfl, ha, -⟩ := h
  cases a with
  | nil => exact ⟨'=', b, rfl, .inr (.inr rfl)⟩
  | cons c a =>
      have hc : c = ' ' ∨ c = '\t' := by simpa [isSpace] using ha c List.mem_cons_self
      exact ⟨c, a ++ '=' :: b, rfl, hc.imp_right .inl⟩

/-- Realigning a separator changes the blanks in front of its equals sign only. -/
theorem realignSeparator_eq {a b : Text} (ha : ∀ c ∈ a, isSpace c = true) (m n : Int) :
    ∃ a', realignSeparator (a ++ '=' :: b) m n = a' ++ '=' :: b ∧ ∀ c ∈ a', isSpace c = true := by
  unfold realignSeparator
  simp only
  split
  · exact ⟨a, rfl, ha⟩
  · have hdrop : (a ++ '=' :: b).dropWhile (· = ' ') = a.dropWhile (· = ' ') ++ '=' :: b := by
      rw [List.dropWhile_append]
      split
      · next he => rw [List.isEmpty_iff.1 he]; rfl
      · rfl
    rw [hdrop, ← List.append_assoc]
    refine ⟨_, rfl, fun c hc => ?_⟩
    rcases List.mem_append.1 hc with hc | hc
    · rw [List.eq_of_mem_replicate hc]
      rfl
    · exact ha c ((List.dropWhile_suffix _).subset hc)

theorem isSeparator_realign {s : Text} (h : IsSeparator s) (m n : Int) :
    IsSeparator (realignSeparator s m n) ∧ (realignSeparator s m n).getLast? = s.getLast? := by
  obtain ⟨a, b, rfl, ha, hb⟩ := h
  obtain ⟨a', he, ha'⟩ := realignSeparator_eq (b := b) ha m n
  rw [he]
  refine ⟨⟨a', b, rfl, ha', hb⟩, ?_⟩
  rw [List.getLast?_append_of_ne_nil _ (List.cons_ne_nil _ _), List.getLast?_append_of_ne_nil _ (List.cons_ne_nil _ _)]

theorem Attribute.Sound.equalsSigns_render {a : Attribute} (h : a.Sound) :
    equalsSigns a.render = equalsSigns a.lead + 1 + equalsSigns a.expr + equalsSigns a.tail := by
  rw [Attribute.render]
  simp only [equalsSigns_append, equalsSigns_of_isIdentifier h.name, equalsSigns_of_isSeparator h.sep]

/-- The attribute under another name. -/
def Attribute.renamed (a : Attribute) (old new value : Text) : Attribute :=
  { a with name := new, sep := realignSeparator a.sep old.length new.length, expr := value }

theorem Attribute.Sound.renamed {a : Attribute} {new : Text} (h : a.Sound) (hn : IsIdentifier new) (old value : Text) :
    (a.renamed old new value).Sound :=
  ⟨hn, (isSeparator_realign h.sep _ _).1⟩

/-! ### Bodies -/

namespace Body

variable {body body' : Body} {old new name : Text}

theorem Sound.modifyFirst {change : Attribute → Attribute} (h : body.Sound)
    (hc : ∀ a, a.Sound → (change a).Sound) : (modifyFirst name change body).Sound := by
  fun_induction Body.modifyFirst name change body with
  | case1 => exact h
  | case2 a ns ha =>
      intro b hb
      rcases List.mem_cons.1 hb with hb | hb
      · rw [Node.attribute.inj hb]
        exact hc a (h a List.mem_cons_self)
      · exact h b (List.mem_cons_of_mem _ hb)
  | case3 a ns _ ih =>
      intro b hb
      rcases List.mem_cons.1 hb with hb | hb
      · exact h b (hb ▸ List.mem_cons_self)
      · exact ih (fun b hb => h b (List.mem_cons_of_mem _ hb)) b hb
  | case4 n ns _ ih =>
      intro b hb
      rcases List.mem_cons.1 hb with hb | hb
      · exact h b (hb ▸ List.mem_cons_self)
      · exact ih (fun b hb => h b (List.mem_cons_of_mem _ hb)) b hb

theorem Sound.dropFirst (h : body.Sound) : (dropFirst name body).Sound := fun a ha =>
  h a ((List.eraseP_sublist).subset ha)

/-- Dropping an attribute takes an equals sign away, and those of its expression. -/
theorem equalsSigns_dropFirst {a : Attribute} (h : body.Sound) (ha : attribute? body name = some a) :
    equalsSigns (render (Body.dropFirst name body)) + equalsSigns a.expr < equalsSigns (render body) := by
  obtain ⟨front, back, rfl, -, -, -, hd⟩ := attribute?_eq_some ha
  have hsound := (h a (by simp)).equalsSigns_render
  rw [hd]
  simp only [render_append, render_cons, Node.render, equalsSigns_append, hsound]
  omega

theorem equalsSigns_modifyFirst {b : Attribute} (value : Text) (hb : attribute? body name = some b) :
    equalsSigns (render (Body.modifyFirst name ({ · with expr := value }) body)) + equalsSigns b.expr =
      equalsSigns (render body) + equalsSigns value := by
  obtain ⟨front, back, rfl, -, -, hm, -⟩ := attribute?_eq_some hb
  rw [hm]
  simp only [render_append, render_cons, Node.render, Attribute.render, equalsSigns_append]
  omega

/-- A rename merges the attribute into one that has the new name already, or it changes the name in its place. -/
theorem renameAttribute?_cases {expr : Option Text} {a : Attribute} (hne : old ≠ new)
    (ha : attribute? body old = some a) (h : renameAttribute? old new expr body = some body') :
    (has body new = true ∧
      body' = Body.dropFirst old (Body.modifyFirst new ({ · with expr := expr.getD a.expr }) body)) ∨
    (has body new = false ∧ body' = Body.modifyFirst old (·.renamed old new (expr.getD a.expr)) body) := by
  rw [renameAttribute?_eq, ha, Option.map_some] at h
  obtain rfl := Option.some.inj h
  simp only [if_neg hne]
  split
  · next hhas => exact .inl ⟨hhas, rfl⟩
  · next hhas => exact .inr ⟨by simpa using hhas, rfl⟩

/-- A rename shows. -/
theorem differs_renameAttribute? {chars : Char → Char → Prop} {expr : Option Text} {a : Attribute} (hs : body.Sound)
    (hne : old ≠ new) (hnew : IsIdentifier new) (ha : attribute? body old = some a)
    (he : equalsSigns (expr.getD a.expr) ≤ equalsSigns a.expr)
    (hsplit : ∀ b : Attribute, b.Sound → b.name = old → ∀ y, ∃ c d, chars c d ∧ Splits b.text (new ++ y) c d)
    (h : renameAttribute? old new expr body = some body') :
    Differs chars (render body) (render body') ∧ body'.Sound := by
  have hcases := renameAttribute?_cases hne ha h
  generalize expr.getD a.expr = value at he hcases
  rcases hcases with ⟨hhas, rfl⟩ | ⟨-, rfl⟩
  · obtain ⟨b, hb⟩ := Option.isSome_iff_exists.1 hhas
    have hmid : (Body.modifyFirst new ({ · with expr := value }) body).Sound :=
      hs.modifyFirst fun a h => ⟨h.name, h.sep⟩
    have ha' : attribute? (Body.modifyFirst new ({ · with expr := value }) body) old = some a := by
      refine (attribute?_modifyFirst hne.symm ?_ body).trans ha
      exact fun _ => rfl
    have hmerge := equalsSigns_modifyFirst value hb
    have hdrop := equalsSigns_dropFirst hmid ha'
    exact ⟨.fewer (by omega), hmid.dropFirst⟩
  · refine ⟨?_, hs.modifyFirst fun b hb => hb.renamed hnew old value⟩
    obtain ⟨front, back, rfl, hname, -, hm, -⟩ := attribute?_eq_some ha
    have hsound := hs a (by simp)
    obtain ⟨c, d, hcd, hsp⟩ := hsplit a hsound hname
      (realignSeparator a.sep old.length new.length ++ (value ++ a.tail))
    rw [hm, render_append, render_append, render_cons, render_cons, Node.render, Node.render]
    refine ((Differs.splits ?_ ?_ hcd).append (Nat.le_refl _)).prepend _
    · rw [hsound.equalsSigns_render, (hsound.renamed hnew old value).equalsSigns_render]
      simp only [Attribute.renamed]
      omega
    · rw [a.render_eq, Attribute.render_eq]
      exact hsp.prepend a.lead

end Body
end JujuMigration
