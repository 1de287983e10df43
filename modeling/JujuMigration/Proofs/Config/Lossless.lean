import Mathlib.Data.List.Nodup
import JujuMigration.Proofs.Config.Reading
/-! A tree keeps every character of its text. The fields of all nodes, at every depth, are laid out in source order;
each character of the text stands at one spot in one field, and nothing else stands in a field. -/

namespace JujuMigration

inductive Part
  | lead
  | name
  | sep
  | expr
  | tail
  deriving DecidableEq, Repr

def Attribute.part (a : Attribute) : Part → Text
  | .lead => a.lead
  | .name => a.name
  | .sep => a.sep
  | .expr => a.expr
  | .tail => a.tail

/-- A field of the tree of a body, by the index of its node; the fields inside a block by the index of the block. -/
inductive Site
  | gap (index : Nat)
  | part (index : Nat) (part : Part)
  | lead (index : Nat)
  | header (index : Nat)
  | inside (index : Nat) (site : Site)
  | closing (index : Nat)
  deriving DecidableEq, Repr

def Site.index : Site → Nat
  | .gap i | .part i _ | .lead i | .header i | .inside i _ | .closing i => i

/-- The text of a field of a node. -/
def Node.textAt? : Site → Node → Option Text
  | .gap _, .gap text => some text
  | .part _ part, .attribute a => some (a.part part)
  | .lead _, .block head _ _ => some head.lead
  | .header _, .block head _ _ => some head.header
  | .closing _, .block _ _ closing => some closing
  | .inside _ site, .block _ body _ => body[site.index]?.bind (Node.textAt? site)
  | _, _ => none

namespace Body

/-- The text of a field. -/
def textAt? (body : Body) (site : Site) : Option Text := body[site.index]?.bind (Node.textAt? site)

/-- The character at an index of a field. -/
def charAt? (body : Body) (spot : Site × Nat) : Option Char := (textAt? body spot.1).bind (·[spot.2]?)

end Body

mutual

/-- The fields of a node in source order; `index` is the node's. -/
def Node.fields (index : Nat) : Node → List (Site × Text)
  | .gap text => [(.gap index, text)]
  | .attribute a => [Part.lead, .name, .sep, .expr, .tail].map fun p => (.part index p, a.part p)
  | .block head body closing =>
    (.lead index, head.lead) :: (.header index, head.header) ::
      (Body.fieldsFrom 0 body).map (fun f => (.inside index f.1, f.2)) ++ [(.closing index, closing)]

def Body.fieldsFrom (index : Nat) : List Node → List (Site × Text)
  | [] => []
  | node :: nodes => node.fields index ++ Body.fieldsFrom (index + 1) nodes

end

namespace Body

/-- The fields in source order. -/
def fields (body : Body) : List (Site × Text) := fieldsFrom 0 body

/-- Every character with the spot where it stands, in source order. -/
def characters (body : Body) : List ((Site × Nat) × Char) :=
  (fields body).flatMap fun f => f.2.zipIdx.map fun c => ((f.1, c.2), c.1)

end Body

mutual

theorem Node.flatMap_fields (index : Nat) (n : Node) : (n.fields index).flatMap Prod.snd = n.render := by
  cases n with
  | gap text => simp [Node.fields, Node.render]
  | «attribute» a => simp [Node.fields, Node.render, Attribute.render, Attribute.part]
  | block head body closing =>
      simp [Node.fields, Node.render, List.flatMap_map, Body.flatMap_fieldsFrom 0 body]

theorem Body.flatMap_fieldsFrom (index : Nat) (nodes : List Node) :
    (Body.fieldsFrom index nodes).flatMap Prod.snd = Body.render nodes := by
  cases nodes with
  | nil => simp [Body.fieldsFrom]
  | cons n ns => simp [Body.fieldsFrom, Node.flatMap_fields index n, Body.flatMap_fieldsFrom (index + 1) ns]

end

mutual

theorem Node.mem_fields {site : Site} {t : Text} (index : Nat) (n : Node) :
    (site, t) ∈ n.fields index ↔ site.index = index ∧ n.textAt? site = some t := by
  cases n with
  | gap text => cases site <;> simp [Node.fields, Node.textAt?, Site.index, eq_comm]
  | «attribute» a =>
      cases site with
      | part i p => cases p <;> simp [Node.fields, Node.textAt?, Site.index, Attribute.part, eq_comm]
      | _ => simp [Node.fields, Node.textAt?]
  | block head body closing =>
      cases site with
      | inside i p =>
          have hi : (Site.inside i p).index = i := rfl
          rw [hi, Node.textAt?]
          simp only [Node.fields, List.cons_append, List.mem_cons, List.mem_append, List.mem_map, Prod.mk.injEq,
            reduceCtorEq, false_and, false_or, List.mem_nil_iff, or_false, Site.inside.injEq, Prod.exists]
          constructor
          · rintro ⟨q, u, hq, ⟨rfl, rfl⟩, rfl⟩
            obtain ⟨k, hk, ht⟩ := (Body.mem_fieldsFrom 0 body).1 hq
            exact ⟨rfl, by rwa [hk, Nat.zero_add]⟩
          · rintro ⟨rfl, ht⟩
            exact ⟨p, t, (Body.mem_fieldsFrom 0 body).2 ⟨p.index, by rw [Nat.zero_add], ht⟩, ⟨rfl, rfl⟩, rfl⟩
      | _ => simp [Node.fields, Node.textAt?, Site.index, eq_comm]

theorem Body.mem_fieldsFrom {site : Site} {t : Text} (index : Nat) (nodes : List Node) :
    (site, t) ∈ Body.fieldsFrom index nodes ↔
      ∃ k, site.index = index + k ∧ nodes[k]?.bind (Node.textAt? site) = some t := by
  cases nodes with
  | nil => simp [Body.fieldsFrom]
  | cons n ns =>
      rw [Body.fieldsFrom, List.mem_append, Node.mem_fields index n, Body.mem_fieldsFrom (index + 1) ns]
      constructor
      · rintro (⟨hi, ht⟩ | ⟨k, hi, ht⟩)
        · exact ⟨0, hi, ht⟩
        · exact ⟨k + 1, by omega, ht⟩
      · rintro ⟨k, hi, ht⟩
        cases k with
        | zero => exact .inl ⟨hi, ht⟩
        | succ k => exact .inr ⟨k, by omega, ht⟩

end

mutual

theorem Node.nodup_fields (index : Nat) (n : Node) : ((n.fields index).map Prod.fst).Nodup := by
  cases n with
  | gap text => simp [Node.fields]
  | «attribute» a => simp [Node.fields]
  | block head body closing =>
      have hnodup := (Body.nodup_fieldsFrom 0 body).map (f := Site.inside index) fun p q h => (Site.inside.inj h).2
      rw [List.map_map] at hnodup
      simp only [Node.fields, List.cons_append, List.map_cons, List.map_append, List.map_map, List.map_nil,
        List.nodup_cons, List.nodup_append]
      refine ⟨by simp, by simp, hnodup, by simp, ?_⟩
      rintro _ hp _ hq rfl
      simp only [List.mem_map, List.mem_singleton] at hp hq
      obtain ⟨p, -, rfl⟩ := hp
      exact absurd hq (by simp)

theorem Body.nodup_fieldsFrom (index : Nat) (nodes : List Node) :
    ((Body.fieldsFrom index nodes).map Prod.fst).Nodup := by
  cases nodes with
  | nil => simp [Body.fieldsFrom]
  | cons n ns =>
      rw [Body.fieldsFrom, List.map_append, List.nodup_append]
      refine ⟨Node.nodup_fields index n, Body.nodup_fieldsFrom (index + 1) ns, ?_⟩
      -- The fields of later nodes have larger indices.
      simp only [List.mem_map, Prod.exists]
      rintro _ ⟨p, t, hp, rfl⟩ _ ⟨q, u, hq, rfl⟩ he
      obtain ⟨hi, -⟩ := (Node.mem_fields index n).1 hp
      obtain ⟨k, hk, -⟩ := (Body.mem_fieldsFrom (index + 1) ns).1 hq
      rw [← he, hi] at hk
      omega

end

namespace Body

theorem mem_fields {body : Body} {site : Site} {t : Text} :
    (site, t) ∈ body.fields ↔ body.textAt? site = some t := by
  rw [fields, mem_fieldsFrom]
  constructor
  · rintro ⟨k, hk, ht⟩
    rwa [textAt?, hk, Nat.zero_add]
  · exact fun ht => ⟨site.index, by rw [Nat.zero_add], ht⟩

theorem map_snd_characters (body : Body) : body.characters.map Prod.snd = render body := by
  rw [characters, List.map_flatMap, ← flatMap_fieldsFrom 0]
  congr 1
  funext f
  rw [List.map_map]
  exact List.zipIdx_map_fst 0 f.2

theorem mem_characters {body : Body} {spot : Site × Nat} {c : Char} :
    (spot, c) ∈ body.characters ↔ body.charAt? spot = some c := by
  obtain ⟨site, i⟩ := spot
  simp only [characters, List.mem_flatMap, List.mem_map, Prod.exists, Prod.mk.injEq, mem_fields, charAt?,
    List.mem_zipIdx_iff_getElem?, Option.bind_eq_some_iff]
  constructor
  · rintro ⟨p, t, ht, d, j, hd, ⟨rfl, rfl⟩, rfl⟩
    exact ⟨t, ht, hd⟩
  · rintro ⟨t, ht, hc⟩
    exact ⟨site, t, ht, c, i, hc, ⟨rfl, rfl⟩, rfl⟩

theorem nodup_characters (body : Body) : (body.characters.map Prod.fst).Nodup := by
  rw [characters, List.map_flatMap, List.nodup_flatMap]
  constructor
  · intro f _
    have hsnd : (f.2.zipIdx.map Prod.snd).Nodup := by
      rw [List.zipIdx_map_snd]
      exact List.nodup_range'
    rw [List.map_map]
    refine List.Nodup.of_map Prod.snd ?_
    rwa [List.map_map]
  · have hplaces := List.pairwise_map.1 (nodup_fieldsFrom 0 body)
    refine hplaces.imp fun {f g} hne spot hf hg => hne ?_
    simp only [List.map_map, List.mem_map, Function.comp_apply] at hf hg
    obtain ⟨c, -, rfl⟩ := hf
    obtain ⟨d, -, hd⟩ := hg
    exact (Prod.mk.inj hd).1.symm

end Body

/-- Reading loses nothing: the tree renders to its text, and the characters of the text are those of the fields, each
at one spot. -/
theorem read_lossless {s : Text} {body : Body} (h : Body.read s = .ok body) :
    Body.render body = s ∧ body.characters.map Prod.snd = s ∧ (body.characters.map Prod.fst).Nodup ∧
      ∀ spot c, (spot, c) ∈ body.characters ↔ body.charAt? spot = some c := by
  have hs : Body.render body = s := by rw [(read_eq_ok.1 h).render, List.append_nil]
  exact ⟨hs, by rw [body.map_snd_characters, hs], body.nodup_characters, fun _ _ => Body.mem_characters⟩

/-- Blocks on several lines and on one, a comment with a brace, and line ends of both kinds. -/
def nestedSource : Text := "a \x7b # \x7d\r\n  b \"c\" \x7b x = 1 \x7d\n\x7d".toList

theorem read_lossless_nested :
    ∃ body, Body.read nestedSource = .ok body ∧ body.characters.map Prod.snd = nestedSource ∧
      body.charAt? (.inside 0 (.inside 1 (.part 0 .expr)), 0) = some '1' := by
  have hat : (Body.read nestedSource).toOption.bind
      (Body.charAt? · (.inside 0 (.inside 1 (.part 0 .expr)), 0)) = some '1' := by decide +kernel
  cases h : Body.read nestedSource with
  | error f =>
      rw [h] at hat
      cases hat
  | ok body =>
      rw [h] at hat
      exact ⟨body, rfl, (read_lossless h).2.1, hat⟩

end JujuMigration
