import JujuMigration.Proofs.Config.Recast
import JujuMigration.Proofs.Upgrade.Rule
/-! Rules and what they read. A rule looks at names, at kinds and at what an expression says, never at line numbers or
at the texts around them; so where these can be told as before it makes the same changes of a tree with other texts,
and notes them with the texts that it finds. -/

namespace JujuMigration

def FieldRename.mapTexts (f : Text → Text) (r : FieldRename) : FieldRename := ⟨f r.source, f r.target⟩

def Change.mapTexts (f : Text → Text) : Change → Change
  | .reference type name rename referent => .reference (f type) (f name) (rename.mapTexts f) referent
  | .variable type name rename => .variable (f type) (f name) (rename.mapTexts f)
  | .removedField type name field => .removedField (f type) (f name) (f field)
  | .renamedField type name field replacement => .renamedField (f type) (f name) (f field) (f replacement)
  | .output name referent => .output (f name) referent
  | .provider => .provider

def Concern.mapTexts (f : Text → Text) : Concern → Concern
  | .deprecatedField type name field replacement => .deprecatedField (f type) (f name) (f field) (f replacement)
  | .dataSource type => .dataSource (f type)
  | .variable name description => .variable (f name) (description.map f)

def Notes.mapTexts (f : Text → Text) (n : Notes) : Notes :=
  { n with changes := n.changes.map (Change.mapTexts f), concerns := n.concerns.map (Concern.mapTexts f) }

theorem Notes.mapTexts_append (f : Text → Text) (a b : Notes) : (a ++ b).mapTexts f = a.mapTexts f ++ b.mapTexts f :=
  congrArg₂ (Notes.mk (a.wasUpgraded || b.wasUpgraded)) List.map_append List.map_append

/-- No rule can tell a text from what becomes of it. -/
structure Recasting.Unseen (R : Recasting) : Prop where
  keeps : ∀ word, '\n' ∉ word → R.Keeps word
  separator : ∀ sep m n, realignSeparator (R.text sep) m n = R.text (realignSeparator sep m n)
  kind : ∀ e, Reference.kind (R.text e) = Reference.kind e
  referent : ∀ e, Reference.referent (R.text e) = Reference.referent e
  upgraded : ∀ e, Reference.upgraded? (R.text e) = (Reference.upgraded? e).map R.text
  occurs : ∀ e, VersionConstraint.occursIn (R.text e) = VersionConstraint.occursIn e
  replaced : ∀ e, VersionConstraint.replaceZero (R.text e) = R.text (VersionConstraint.replaceZero e)
  hint : ∀ t, Text.contains modelHint (R.text t) = Text.contains modelHint t
  description : ∀ e, Body.plainDescription (R.text e) = R.text (Body.plainDescription e)
  hintInAnyCase :
    ∀ t, Text.contains modelHint ((R.text t).map Char.toLower) = Text.contains modelHint (t.map Char.toLower)

namespace Body

variable {R : Recasting} {type label : Text}

theorem modifyFirstBlock_recast {kind : Text} (hk : R.Keeps kind) (inner body : Body) :
    modifyFirstBlock kind (fun _ => inner.recast R) (body.recast R) =
      (modifyFirstBlock kind (fun _ => inner) body).recast R := by
  have hindex : (blocks (body.recast R)).findIdx (·.head.kind = kind) = (blocks body).findIdx (·.head.kind = kind) := by
    rw [blocks_recast, List.findIdx_map, isKind_recast hk]
  rw [modifyFirstBlock, hindex]
  apply modifyBlock_recast
  intro b
  rfl

theorem orUnchanged_recast (body : Body) (result : Option (Body × Change)) :
    orUnchanged (body.recast R) (result.map (Prod.map (recast R) (Change.mapTexts R.text))) =
      Prod.map (recast R) (Notes.mapTexts R.text) (orUnchanged body result) := by
  cases result <;> rfl

theorem renameField?_recast (hR : R.Unseen) {r : FieldRename} (hs : R.Keeps r.source) (ht : R.Keeps r.target)
    (type label : Text) (body : Body) :
    renameField? (R.text type) (R.text label) r (body.recast R) =
      (renameField? type label r body).map (Prod.map (recast R) (Change.mapTexts R.text)) := by
  unfold renameField?
  rw [attribute?_recast hs]
  cases attribute? body r.source with
  | none => rfl
  | some a =>
      have hexpr : (a.recast R).expr = R.text a.expr := rfl
      have hwords : r.mapTexts R.text = r := congrArg₂ FieldRename.mk hs.text_eq ht.text_eq
      simp only [Option.map_some, Option.bind_eq_bind, Option.bind_some, hexpr, hR.kind, hR.referent, hR.upgraded]
      cases Reference.kind a.expr with
      | modelName =>
          cases Reference.upgraded? a.expr with
          | none => rfl
          | some expr =>
              have hrenamed := renameAttribute?_recast hs ht hR.separator (some expr) body
              dsimp only [Option.map_some, Option.bind_some] at hrenamed ⊢
              rw [hrenamed]
              cases renameAttribute? r.source r.target (some expr) body with
              | none => rfl
              | some renamed => exact congrArg (fun c => some (renamed.recast R, c)) (by rw [Change.mapTexts, hwords])
      | «variable» =>
          have hrenamed := renameAttribute?_recast hs ht hR.separator none body
          dsimp only [Option.map_none] at hrenamed ⊢
          rw [hrenamed]
          cases renameAttribute? r.source r.target none body with
          | none => rfl
          | some renamed => exact congrArg (fun c => some (renamed.recast R, c)) (by rw [Change.mapTexts, hwords])
      | other => rfl

theorem ofName?_recast_resource (hR : R.Unseen) (type : Text) :
    ResourceType.ofName? (R.text type) = ResourceType.ofName? type := by
  have hwords : ∀ t : ResourceType, '\n' ∉ t.name := by
    intro t
    cases t <;> decide
  unfold ResourceType.ofName?
  congr 1
  funext t
  exact decide_eq_decide.2 (eq_comm.trans ((hR.keeps _ (hwords t) type).trans eq_comm))

theorem ofName?_recast_dataSource (hR : R.Unseen) (type : Text) :
    DataSourceType.ofName? (R.text type) = DataSourceType.ofName? type := by
  have hwords : ∀ t : DataSourceType, '\n' ∉ t.name := by
    intro t
    cases t <;> decide
  unfold DataSourceType.ofName?
  congr 1
  funext t
  exact decide_eq_decide.2 (eq_comm.trans ((hR.keeps _ (hwords t) type).trans eq_comm))

/-- The fields of the tables are words on one line. -/
theorem keeps_resourceRename? (hR : R.Unseen) {r : FieldRename} (h : resourceRename? type = some r) :
    R.Keeps r.source ∧ R.Keeps r.target := by
  rw [resourceRename?_eq_some h]
  exact ⟨hR.keeps _ (by decide), hR.keeps _ (by decide)⟩

theorem keeps_dataSourceRename? (hR : R.Unseen) {r : FieldRename} (h : dataSourceRename? type = some r) :
    R.Keeps r.source ∧ R.Keeps r.target := by
  rcases dataSourceRename?_eq_some h with rfl | rfl
  · exact ⟨hR.keeps _ (by decide), hR.keeps _ (by decide)⟩
  · exact ⟨hR.keeps _ (by decide), hR.keeps _ (by decide)⟩

/-- The words that a rule about a retired field uses are told as before. -/
def KeepsField (R : Recasting) (f : DeprecatedField) : Prop :=
  R.Keeps f.name ∧ ∀ replacement, f.fate = .review replacement ∨ f.fate = .rename replacement → R.Keeps replacement

theorem retireField_recast (hR : R.Unseen) {f : DeprecatedField} (hf : KeepsField R f) (type label : Text)
    (body : Body) :
    retireField (R.text type) (R.text label) (body.recast R) f =
      Prod.map (recast R) (Notes.mapTexts R.text) (retireField type label body f) := by
  obtain ⟨hname, hreplacement⟩ := hf
  unfold retireField
  rw [has_recast hname]
  split
  · next hhas =>
      obtain ⟨a, ha⟩ := Option.isSome_iff_exists.1 hhas
      cases hfate : f.fate with
      | review replacement =>
          refine congrArg (fun c => (body.recast R, Notes.ofConcern c)) ?_
          rw [Concern.mapTexts, hname.text_eq, (hreplacement _ (.inl hfate)).text_eq]
      | remove =>
          dsimp only
          rw [removeAttribute?_recast hname, removeAttribute?_eq, ha]
          refine congrArg (fun c => ((dropFirst f.name body).recast R, Notes.ofChange c)) ?_
          rw [Change.mapTexts, hname.text_eq]
      | rename replacement =>
          have hreplaced := hreplacement _ (.inr hfate)
          have hrenamed := renameAttribute?_recast hname hreplaced hR.separator none body
          dsimp only [Option.map_none] at hrenamed ⊢
          obtain ⟨renamed, h⟩ : ∃ renamed, renameAttribute? f.name replacement none body = some renamed :=
            ⟨_, by rw [renameAttribute?, ha]; rfl⟩
          rw [hrenamed, h]
          refine congrArg (fun c => (renamed.recast R, Notes.ofChange c)) ?_
          rw [Change.mapTexts, hname.text_eq, hreplaced.text_eq]
  · rfl

theorem retireFields_recast (hR : R.Unseen) {fields : List DeprecatedField} (hf : ∀ f ∈ fields, KeepsField R f)
    (type label : Text) (body : Body) :
    retireFields (R.text type) (R.text label) fields (body.recast R) =
      Prod.map (recast R) (Notes.mapTexts R.text) (retireFields type label fields body) := by
  induction fields generalizing body with
  | nil => rfl
  | cons f fs ih =>
      obtain ⟨hfirst, hfs⟩ := List.forall_mem_cons.1 hf
      rw [retireFields_cons, retireFields_cons, retireField_recast hR hfirst]
      dsimp only [Prod.map]
      rw [ih hfs, Notes.mapTexts_append]
      rfl

theorem keepsField_deprecatedFields (hR : R.Unseen) (type : Text) : ∀ f ∈ deprecatedFields type, KeepsField R f := by
  have hwords : ∀ f ∈ deprecatedFields type, '\n' ∉ f.name ∧
      ∀ replacement, f.fate = .review replacement ∨ f.fate = .rename replacement → '\n' ∉ replacement := by
    rcases deprecatedFields_cases type with h | h | h <;> rw [h] <;> simp [ResourceType.seriesToBase]
  intro f hf
  obtain ⟨hname, hreplacement⟩ := hwords f hf
  exact ⟨hR.keeps _ hname, fun replacement h => hR.keeps _ (hreplacement replacement h)⟩

theorem upgradeResource_recast (hR : R.Unseen) (type label : Text) (body : Body) :
    upgradeResource (R.text type) (R.text label) (body.recast R) =
      Prod.map (recast R) (Notes.mapTexts R.text) (upgradeResource type label body) := by
  have htype : resourceRename? (R.text type) = resourceRename? type := by
    rw [resourceRename?, resourceRename?, ofName?_recast_resource hR]
  have hfields : deprecatedFields (R.text type) = deprecatedFields type := by
    rw [deprecatedFields, deprecatedFields, ofName?_recast_resource hR]
  have hrename : (resourceRename? type).bind (renameField? (R.text type) (R.text label) · (body.recast R)) =
      ((resourceRename? type).bind (renameField? type label · body)).map
        (Prod.map (recast R) (Change.mapTexts R.text)) := by
    cases hr : resourceRename? type with
    | none => rfl
    | some r =>
        obtain ⟨hs, ht⟩ := keeps_resourceRename? hR hr
        exact renameField?_recast hR hs ht type label body
  unfold upgradeResource
  rw [htype, hfields, hrename, orUnchanged_recast]
  dsimp only [Prod.map]
  rw [retireFields_recast hR (keepsField_deprecatedFields hR type), Notes.mapTexts_append]
  rfl

theorem upgradeDataSource_recast (hR : R.Unseen) (type label : Text) (body : Body) :
    upgradeDataSource (R.text type) (R.text label) (body.recast R) =
      Prod.map (recast R) (Notes.mapTexts R.text) (upgradeDataSource type label body) := by
  have htype : dataSourceRename? (R.text type) = dataSourceRename? type := by
    rw [dataSourceRename?, dataSourceRename?, ofName?_recast_dataSource hR]
  unfold upgradeDataSource
  rw [htype]
  cases hr : dataSourceRename? type with
  | none => rfl
  | some r =>
      obtain ⟨hs, ht⟩ := keeps_dataSourceRename? hR hr
      have hrefers : refersIn r.source (body.recast R) = refersIn r.source body := by
        rw [refersIn, refersIn, attribute?_recast hs, Option.any_map]
        congr 1
        funext a
        exact congrArg (fun kind => decide (kind ≠ .other)) (hR.kind a.expr)
      dsimp only
      rw [renameField?_recast hR hs ht, hrefers, hR.hint]
      cases renameField? type label r body with
      | some result => rfl
      | none =>
          dsimp only [Option.map_none]
          split <;> rfl

theorem rewriteOutput?_recast (hR : R.Unseen) (label : Text) (body : Body) :
    rewriteOutput? (R.text label) (body.recast R) =
      (rewriteOutput? label body).map (Prod.map (recast R) (Change.mapTexts R.text)) := by
  have hfield : R.Keeps "value".toList := hR.keeps _ (by decide)
  unfold rewriteOutput?
  generalize "value".toList = field at hfield
  rw [attribute?_recast hfield]
  cases attribute? body field with
  | none => rfl
  | some a =>
      have hexpr : (a.recast R).expr = R.text a.expr := rfl
      simp only [Option.map_some, Option.bind_eq_bind, Option.bind_some, hexpr, hR.kind, hR.referent, hR.upgraded]
      split
      · rfl
      · cases Reference.upgraded? a.expr with
        | none => rfl
        | some expr =>
            dsimp only [Option.map_some, Option.bind_some]
            rw [setExpression?_recast hfield]
            cases setExpression? field expr body <;> rfl

theorem reviewVariable_recast (hR : R.Unseen) (name : Text) (body : Body) :
    reviewVariable (R.text name) (body.recast R) = (reviewVariable name body).mapTexts R.text := by
  have hfield : R.Keeps "description".toList := hR.keeps _ (by decide)
  have hdescription : modelDescription? (body.recast R) = (modelDescription? body).map R.text := by
    unfold modelDescription?
    rw [attribute?_recast hfield]
    cases attribute? body "description".toList with
    | none => rfl
    | some a =>
        have hexpr : (a.recast R).expr = R.text a.expr := rfl
        simp only [Option.map_some, Option.bind_some, hexpr, hR.description, hR.hintInAnyCase]
        split <;> rfl
  rw [reviewVariable, reviewVariable, hR.hint, hdescription]
  split <;> rfl

theorem rewriteProvider?_recast (hR : R.Unseen) (body : Body) :
    rewriteProvider? (body.recast R) = (rewriteProvider? body).map (Prod.map (recast R) (Change.mapTexts R.text)) := by
  have hkind : R.Keeps "required_providers".toList := hR.keeps _ (by decide)
  have hfield : R.Keeps "juju".toList := hR.keeps _ (by decide)
  unfold rewriteProvider?
  generalize "required_providers".toList = kind at hkind
  generalize "juju".toList = field at hfield
  rw [block?_recast hkind]
  cases block? body kind with
  | none => rfl
  | some providers =>
      have hbody : (providers.recast R).body = providers.body.recast R := rfl
      simp only [Option.map_some, Option.bind_eq_bind, Option.bind_some, hbody, attribute?_recast hfield]
      cases attribute? providers.body field with
      | none => rfl
      | some a =>
          have hexpr : (a.recast R).expr = R.text a.expr := rfl
          simp only [Option.map_some, Option.bind_some, hexpr, hR.occurs, hR.replaced, setExpression?_recast hfield]
          split
          · rfl
          · cases setExpression? field (VersionConstraint.replaceZero a.expr) providers.body with
            | none => rfl
            | some inner =>
                exact congrArg (fun b => some (b, Change.provider)) (modifyFirstBlock_recast hkind inner body)

/-- The kinds of blocks that there are rules for. -/
def ruledKinds : List Text :=
  ["resource".toList, "data".toList, "output".toList, "variable".toList, "terraform".toList]

theorem upgrade_of_unruled {head : BlockHead} (h : head.kind ∉ ruledKinds) (body : Body) :
    upgrade head body = (body, {}) := by
  have hkind (word : String) (hword : word.toList ∈ ruledKinds) : String.ofList head.kind ≠ word := by
    rintro rfl
    exact h (by rwa [String.toList_ofList] at hword)
  unfold upgrade
  split
  · next hk _ => exact absurd hk (hkind _ (by decide))
  · next hk _ => exact absurd hk (hkind _ (by decide))
  · next hk _ => exact absurd hk (hkind _ (by decide))
  · next hk _ => exact absurd hk (hkind _ (by decide))
  · next hk => exact absurd hk (hkind _ (by decide))
  · rfl

theorem upgrade_recast (hR : R.Unseen) (head : BlockHead) (body : Body) :
    upgrade (head.recast R) (body.recast R) = Prod.map (recast R) (Notes.mapTexts R.text) (upgrade head body) := by
  have hwords : ∀ word ∈ ruledKinds, '\n' ∉ word := by decide
  by_cases hruled : head.kind ∈ ruledKinds
  · obtain ⟨lead, kind, labels, header, line⟩ := head
    have hkind : R.text kind = kind := (hR.keeps _ (hwords _ hruled)).text_eq
    rw [BlockHead.recast]
    dsimp only at hruled ⊢
    rw [hkind]
    simp only [ruledKinds, List.mem_cons, List.mem_nil_iff, or_false] at hruled
    rcases hruled with rfl | rfl | rfl | rfl | rfl
    · rcases labels with _ | ⟨type, _ | ⟨label, labels⟩⟩
      · rfl
      · rfl
      · exact upgradeResource_recast hR type label body
    · rcases labels with _ | ⟨type, _ | ⟨label, labels⟩⟩
      · rfl
      · rfl
      · exact upgradeDataSource_recast hR type label body
    · rcases labels with _ | ⟨label, labels⟩
      · rfl
      · show orUnchanged _ (rewriteOutput? (R.text label) (recast R body)) =
          Prod.map _ _ (orUnchanged body (rewriteOutput? label body))
        rw [rewriteOutput?_recast hR, orUnchanged_recast]
    · rcases labels with _ | ⟨label, labels⟩
      · rfl
      · exact congrArg (Prod.mk (recast R body)) (reviewVariable_recast hR label body)
    · show orUnchanged _ (rewriteProvider? (recast R body)) = Prod.map _ _ (orUnchanged body (rewriteProvider? body))
      rw [rewriteProvider?_recast hR, orUnchanged_recast]
  · have hother : (head.recast R).kind ∉ ruledKinds := by
      intro h
      have hsame : head.kind = R.text head.kind := ((hR.keeps _ (hwords _ h)) head.kind).1 rfl
      exact hruled (hsame ▸ h)
    rw [upgrade_of_unruled hruled, upgrade_of_unruled hother]
    rfl

end Body
end JujuMigration
