import Mathlib.Data.List.Forall2
import Toolsmith.Proofs.Document.Parameters
import Toolsmith.Proofs.Document.Pointer
import Toolsmith.Proofs.Json.Reading

/-!
# References are followed once

A parameter, its schema and a body may be references. A reference that leads to an object without a
reference can be replaced by this object. The target is taken as it is: if it is a further reference
and says nothing else, or if there is no target, nothing is known of the parameter, the type or the
body, as if the reference were an empty object. The operations of a document are the same when
references in its table of paths are replaced in this way.
-/

namespace Toolsmith

open Json (Part)

namespace Pointer

variable {document document' : Members} {ref v w : Json}

/-- The first key on the way of a reference. -/
def firstKey? : Json → Option Text
  | .text (.char '#' :: .char '/' :: way) => ((Text.splitOn (.char '/') way).map unescape).head?
  | _ => none

/-- A value that does not refer into the table of paths. -/
def IsOutside (v : Json) : Prop :=
  (v.get? (Text.ofString "$ref")).bind firstKey? ≠ some (Text.ofString "paths")

instance : DecidablePred IsOutside := fun v =>
  inferInstanceAs (Decidable ((v.get? _).bind _ ≠ _))

/-- Two documents that differ in their tables of paths only, where no reference of the first one
leads into the table. -/
structure SharesDefinitions (document document' : Members) : Prop where
  others : ∀ key, key ≠ Text.ofString "paths" → document'.get? key = document.get? key
  outside : (Json.object document).All IsOutside

/-- A value that may stand for another one: the value itself, the object without a reference to
which it refers, or an empty object if it refers to nothing or to an object that says nothing but
maybe refers further. -/
inductive Stands (document : Members) : Json → Json → Prop
  | self (v : Json) : Stands document v v
  | target {v ref : Json} {members : Members} (href : v.get? (Text.ofString "$ref") = some ref)
      (htarget : resolve? document ref = some (.object members))
      (hplain : members.get? (Text.ofString "$ref") = none) : Stands document v (.object members)
  | blank {v ref : Json} (href : v.get? (Text.ofString "$ref") = some ref)
      (hblank : ∀ members : Members, resolve? document ref = some (.object members) →
        ∀ key, key ≠ Text.ofString "$ref" → members.get? key = none) :
      Stands document v (.object [])

/-- A document shares its definitions with those that have another table of paths. -/
theorem sharesDefinitions_set (h : (Json.object document).All IsOutside) (table : Json) :
    SharesDefinitions document (document.set (Text.ofString "paths") table) :=
  ⟨fun key hkey => by rw [Members.get?_set, if_neg hkey], h⟩

/-- A reference that does not lead into the table has the same target in both documents. -/
theorem SharesDefinitions.resolve?_eq (h : SharesDefinitions document document')
    (href : firstKey? ref ≠ some (Text.ofString "paths")) :
    resolve? document' ref = resolve? document ref := by
  unfold resolve?
  split
  · rename_i way
    rw [firstKey?] at href
    cases hkeys : (Text.splitOn (.char '/') way).map unescape with
    | nil =>
      have hpieces := congrArg List.length hkeys
      rw [List.length_map, Text.length_splitOn] at hpieces
      cases hpieces
    | cons key keys =>
      rw [hkeys, List.head?_cons, ne_eq, Option.some.injEq] at href
      rw [follow, follow, h.others key href]
  · rfl

/-- A part of the first document is replaced by the same value in both documents. -/
theorem SharesDefinitions.deref?_eq (h : SharesDefinitions document document')
    (hpart : v.Part (.object document)) : deref? document' v = deref? document v := by
  unfold deref?
  cases href : v.get? (Text.ofString "$ref") with
  | none => rfl
  | some ref =>
    have houtside := h.outside v hpart
    rw [IsOutside, href] at houtside
    exact h.resolve?_eq houtside

/-- An object without a reference is not replaced. -/
theorem deref?_of_plain {members : Members} (h : members.get? (Text.ofString "$ref") = none) :
    deref? document (.object members) = some (.object members) := by
  have hget : (Json.object members).get? (Text.ofString "$ref") = none := h
  rw [deref?, hget]

/-- A reference is replaced by its target. -/
theorem deref?_of_ref (href : v.get? (Text.ofString "$ref") = some ref) :
    deref? document v = resolve? document ref := by
  rw [deref?, href]

/-- What is found under a key by a reference is found by what stands for it. -/
theorem Stands.get?_deref? (hstands : Stands document v w)
    (h : SharesDefinitions document document') (hpart : v.Part (.object document)) {key : Text}
    (hkey : key ≠ Text.ofString "$ref") :
    ((deref? document' w).getD .null).get? key = ((deref? document v).getD .null).get? key := by
  cases hstands with
  | self => rw [h.deref?_eq hpart]
  | target href htarget hplain => rw [deref?_of_plain hplain, deref?_of_ref href, htarget]
  | @blank ref href hblank =>
    rw [deref?_of_plain rfl, deref?_of_ref href]
    cases htarget : resolve? document ref with
    | none => rfl
    | some target =>
      cases target with
      | object members => exact (hblank members htarget key hkey).symm
      | _ => rfl

/-- Values stand for null and nothing else does if they are null. -/
theorem Stands.eq_null_iff (hstands : Stands document v w) : w = .null ↔ v = .null := by
  cases hstands with
  | self => rfl
  | target href =>
    refine iff_of_false nofun ?_
    rintro rfl
    cases href
  | blank href =>
    refine iff_of_false nofun ?_
    rintro rfl
    cases href

end Pointer

open Pointer (Stands SharesDefinitions)

variable {document document' : Members}

/-- A type is that of what stands for a schema. -/
theorem Parameter.typeOf_of_stands {v w : Json} (hstands : Stands document v w)
    (h : SharesDefinitions document document') (hpart : v.Part (.object document)) :
    typeOf document' w = typeOf document v := by
  rw [typeOf, typeOf, hstands.get?_deref? h hpart (by decide)]

namespace Declaration

variable {v w : Json} {d d' e e' : Declaration}

/-- Two declarations, each with a document, that declare the same parameter with the same
description. -/
structure Agrees (document document' : Members) (d d' : Declaration) : Prop where
  name : d'.name = d.name
  location : d'.location = d.location
  description : d'.members.get? (Text.ofString "description") =
    d.members.get? (Text.ofString "description")
  parameter : d'.toParameter document' = d.toParameter document

/-- What may stand for a parameter: what stands for the value, or an object with something that
stands for its schema. -/
inductive StandsFor (document : Members) : Json → Json → Prop
  | value {v w : Json} (h : Stands document v w) : StandsFor document v w
  | schema {v schema schema' : Json} {members : Members} (h : Stands document v (.object members))
      (hschema : members.get? (Text.ofString "schema") = some schema)
      (hstands : Stands document schema schema') :
      StandsFor document v (.object (members.set (Text.ofString "schema") schema'))

/-- A declaration whose members are a part of the document agrees with itself. -/
theorem agrees_self (h : SharesDefinitions document document')
    (hpart : Part (.object d.members) (.object document)) : Agrees document document' d d := by
  refine ⟨rfl, rfl, rfl, ?_⟩
  have htype : Parameter.typeOf document'
      ((d.members.get? (Text.ofString "schema")).getD (.object d.members)) =
      Parameter.typeOf document
        ((d.members.get? (Text.ofString "schema")).getD (.object d.members)) := by
    refine Parameter.typeOf_of_stands (.self _) h ?_
    cases hschema : d.members.get? (Text.ofString "schema") with
    | none => exact hpart
    | some schema => exact (Part.of_members_get? hschema).trans hpart
  rw [toParameter, toParameter, htype]

/-- What stands for a value declares what the value does. -/
theorem ofJson?_of_stands (hstands : Stands document v w)
    (h : SharesDefinitions document document') (hpart : v.Part (.object document)) :
    ofJson? document' w = ofJson? document v := by
  cases hstands with
  | self => rw [ofJson?, ofJson?, h.deref?_eq hpart]
  | target href htarget hplain =>
    rw [ofJson?, ofJson?, Pointer.deref?_of_plain hplain, Pointer.deref?_of_ref href, htarget]
  | @blank ref href hblank =>
    have hnone : ofJson? document v = none := by
      rw [ofJson?, Pointer.deref?_of_ref href]
      split
      · rename_i members htarget
        rw [hblank members htarget _ (by decide)]
      · rfl
    rw [hnone]
    rfl

/-- What is found under other keys than that of a schema is found with another schema too. -/
theorem get?_setSchema {members : Members} {schema : Json} {key : Text}
    (h : key ≠ Text.ofString "schema") :
    (members.set (Text.ofString "schema") schema).get? key = members.get? key := by
  rw [Members.get?_set, if_neg h]

/-- A declaration agrees with the one that has something else for its schema, which stands for
it. -/
theorem agrees_setSchema {schema schema' : Json} (h : SharesDefinitions document document')
    (hpart : Part (.object d.members) (.object document))
    (hschema : d.members.get? (Text.ofString "schema") = some schema)
    (hstands : Stands document schema schema') :
    Agrees document document' d
      { d with members := d.members.set (Text.ofString "schema") schema' } := by
  have htype : Parameter.typeOf document' schema' = Parameter.typeOf document schema :=
    Parameter.typeOf_of_stands hstands h ((Part.of_members_get? hschema).trans hpart)
  have hset : (d.members.set (Text.ofString "schema") schema').get? (Text.ofString "schema") =
      some schema' := by
    rw [Members.get?_set, if_pos rfl]
  refine ⟨rfl, rfl, get?_setSchema (by decide), ?_⟩
  rw [toParameter, toParameter, describe, describe, hset, hschema, get?_setSchema (by decide),
    get?_setSchema (by decide), Option.getD_some, Option.getD_some, htype]
  rfl

/-- An object without a reference declares the same with another schema. -/
theorem ofJson?_setSchema (document document' : Members) {members : Members} {schema : Json}
    (hplain : members.get? (Text.ofString "$ref") = none) :
    ofJson? document' (.object (members.set (Text.ofString "schema") schema)) =
      (ofJson? document (.object members)).map fun d =>
        { d with members := d.members.set (Text.ofString "schema") schema } := by
  have hplain' : (members.set (Text.ofString "schema") schema).get? (Text.ofString "$ref") = none :=
    (get?_setSchema (by decide)).trans hplain
  have hkey : ∀ key : String, Text.ofString key ≠ Text.ofString "schema" →
      (members.set (Text.ofString "schema") schema).get? (Text.ofString key) =
        members.get? (Text.ofString key) :=
    fun _ hne => get?_setSchema hne
  rw [ofJson?, ofJson?, Pointer.deref?_of_plain hplain, Pointer.deref?_of_plain hplain']
  simp only [hkey "name" (by decide), hkey "in" (by decide)]
  split <;> rfl

/-- What is declared by a value and by what stands for it agrees. -/
theorem StandsFor.rel (hstands : StandsFor document v w)
    (h : SharesDefinitions document document') (hpart : v.Part (.object document)) :
    Option.Rel (Agrees document document') (ofJson? document v) (ofJson? document' w) := by
  have hself : Option.Rel (Agrees document document') (ofJson? document v) (ofJson? document v) := by
    cases hd : ofJson? document v with
    | none => exact .none
    | some d => exact .some (agrees_self h (part_of_ofJson? hd hpart))
  cases hstands with
  | value hvalue => rwa [ofJson?_of_stands hvalue h hpart]
  | @schema schema schema' members hvalue hschema hstandsSchema =>
    cases href : members.get? (Text.ofString "$ref") with
    | some ref =>
      -- the schema is beside a reference, and only the target of the reference counts
      have hv : v = .object members := by
        cases hvalue with
        | self => rfl
        | target _ _ hplain => cases href.symm.trans hplain
        | blank => cases hschema
      have hsame : ofJson? document' (.object (members.set (Text.ofString "schema") schema')) =
          ofJson? document v := by
        rw [hv] at hpart ⊢
        have hold : (Json.object members).get? (Text.ofString "$ref") = some ref := href
        have hnew : (Json.object (members.set (Text.ofString "schema") schema')).get?
            (Text.ofString "$ref") = some ref := (get?_setSchema (by decide)).trans href
        rw [ofJson?, ofJson?, ← h.deref?_eq hpart, Pointer.deref?_of_ref hold,
          Pointer.deref?_of_ref hnew]
      rwa [hsame]
    | none =>
      have hderef : Pointer.deref? document v = some (.object members) := by
        cases hvalue with
        | self => exact Pointer.deref?_of_plain href
        | target href htarget _ => rw [Pointer.deref?_of_ref href, htarget]
        | blank => cases hschema
      have hmembers := Pointer.part_of_deref? hderef hpart
      have hdeclares : ofJson? document v = ofJson? document (.object members) := by
        rw [ofJson?, ofJson?, hderef, Pointer.deref?_of_plain href]
      rw [hdeclares, ofJson?_setSchema document document' href]
      cases hd : ofJson? document (.object members) with
      | none => exact .none
      | some d =>
        have htarget := (ofJson?_eq_some.mp hd).target
        rw [Pointer.deref?_of_plain href] at htarget
        cases htarget
        exact .some (agrees_setSchema h hmembers hschema hstandsSchema)

/-- Of two declarations and of two that agree with them the same ones are of one parameter. -/
theorem Agrees.sameParameter (hd : Agrees document document' d d')
    (he : Agrees document document' e e') : d'.sameParameter e' = d.sameParameter e := by
  rw [Declaration.sameParameter, Declaration.sameParameter, hd.name, hd.location, he.name,
    he.location]

/-- What is left of declarations that agree agrees. -/
theorem forall₂_distinctAfter {seen seen' declared declared' : List Declaration}
    (hseen : List.Forall₂ (Agrees document document') seen seen')
    (h : List.Forall₂ (Agrees document document') declared declared') :
    List.Forall₂ (Agrees document document') (distinctAfter seen declared)
      (distinctAfter seen' declared') := by
  induction h generalizing seen seen' with
  | nil => exact .nil
  | @cons d d' declared declared' hd _ ih =>
    have hany : seen'.any d'.sameParameter = seen.any d.sameParameter := by
      clear ih
      induction hseen with
      | nil => rfl
      | cons he _ ih => rw [List.any_cons, List.any_cons, hd.sameParameter he, ih]
    rw [distinctAfter, distinctAfter, hany]
    split
    · exact ih hseen
    · exact .cons hd (ih (.cons hd hseen))

/-- Merged declarations of objects agree if what stands for their parameters is listed in order. -/
theorem forall₂_merged (h : SharesDefinitions document document')
    {pathItem pathItem' operation operation' : Members}
    (hpath : Part (.object pathItem) (.object document))
    (hoperation : Part (.object operation) (.object document))
    (hpathList : List.Forall₂ (StandsFor document) (rawList pathItem) (rawList pathItem'))
    (hoperationList : List.Forall₂ (StandsFor document) (rawList operation) (rawList operation')) :
    List.Forall₂ (Agrees document document') (merged document pathItem operation)
      (merged document' pathItem' operation') := by
  have hraw : List.Forall₂ (fun v w => v.Part (.object document) ∧ StandsFor document v w)
      (rawList pathItem ++ rawList operation) (rawList pathItem' ++ rawList operation') :=
    List.rel_append
      ((List.forall₂_and_left _ _).mpr ⟨fun v hv => (part_of_mem_rawList hv).trans hpath, hpathList⟩)
      ((List.forall₂_and_left _ _).mpr
        ⟨fun v hv => (part_of_mem_rawList hv).trans hoperation, hoperationList⟩)
  exact forall₂_distinctAfter .nil
    (List.rel_filterMap (fun _ _ hstands => hstands.2.rel h hstands.1) hraw)

/-- Declarations that agree declare the same parameters in each location. -/
theorem map_toParameter_of_forall₂ {declared declared' : List Declaration}
    (h : List.Forall₂ (Agrees document document') declared declared') (location : Text) :
    (declared'.filter fun d => d.location == location).map (toParameter document') =
      (declared.filter fun d => d.location == location).map (toParameter document) := by
  induction h with
  | nil => rfl
  | @cons d d' _ _ hd _ ih =>
    rw [List.filter_cons, List.filter_cons, hd.location]
    split
    · rw [List.map_cons, List.map_cons, hd.parameter, ih]
    · exact ih

/-- Declarations that agree have the same description of the first one in a location. -/
theorem rel_find?_of_forall₂ {declared declared' : List Declaration}
    (h : List.Forall₂ (Agrees document document') declared declared') (location : Text) :
    Option.Rel (Agrees document document')
      (declared.find? fun d => d.location == location)
      (declared'.find? fun d => d.location == location) := by
  induction h with
  | nil => exact .none
  | @cons d d' _ _ hd _ ih =>
    rw [List.find?_cons, List.find?_cons, hd.location]
    split
    · exact .some hd
    · exact ih

end Declaration

namespace Operation

open Declaration (StandsFor Agrees rawList merged)

/-- An object as another one that stands for it in a document, or a value that is no object as
itself. -/
inductive Restates (R : Members → Members → Prop) : Json → Json → Prop
  | object {node node' : Members} (h : R node node') : Restates R (.object node) (.object node')
  | other {v : Json} (h : ∀ members, v ≠ .object members) : Restates R v v

/-- A node of an operation with other values that stand for its parameters and for its body. -/
structure RestatesNode (document node node' : Members) : Prop where
  parameters : List.Forall₂ (StandsFor document) (rawList node) (rawList node')
  body : Option.Rel (Stands document) (node.get? (Text.ofString "requestBody"))
    (node'.get? (Text.ofString "requestBody"))
  others : ∀ key, key ≠ Text.ofString "parameters" → key ≠ Text.ofString "requestBody" →
    node'.get? key = node.get? key

/-- What is under a path, with other values that stand for its parameters and for what is in the
nodes of its operations. -/
structure RestatesItem (document pathItem pathItem' : Members) : Prop where
  parameters : List.Forall₂ (StandsFor document) (rawList pathItem) (rawList pathItem')
  nodes : ∀ m ∈ methods, Option.Rel (Restates (RestatesNode document))
    (pathItem.get? (Text.ofString m.1)) (pathItem'.get? (Text.ofString m.1))

/-- A document in whose table of paths values stand for those of another document. -/
structure RestatesTable (document document' : Members) : Prop where
  definitions : SharesDefinitions document document'
  table : List.Forall₂
    (fun m m' => m'.1 = m.1 ∧ Restates (RestatesItem document) m.2 m'.2) (paths document)
    (paths document')

/-- A body that is not null is described by its target. -/
theorem body_of_ne_null {node : Members} {declared : List Declaration} {v : Json}
    (h : node.get? (Text.ofString "requestBody") = some v) (hnull : v ≠ .null) :
    body document node declared .openapi3 = (true, orElse
      (((Pointer.deref? document v).getD .null).get? (Text.ofString "description"))
      defaultBodyDescription) := by
  rw [body, h]
  split
  · rename_i hnone
    cases hnone
  · rename_i hsome
    cases hsome
    exact absurd rfl hnull
  · rename_i hsome
    cases hsome
    rfl

/-- Bodies are the same where a value stands for the other one and declarations agree. -/
theorem body_of_restates (h : SharesDefinitions document document') {node node' : Members}
    {declared declared' : List Declaration} (hnode : RestatesNode document node node')
    (hpart : Part (.object node) (.object document))
    (hdeclared : List.Forall₂ (Agrees document document') declared declared') (dialect : Dialect) :
    body document' node' declared' dialect = body document node declared dialect := by
  cases dialect with
  | openapi3 =>
    have hbody := hnode.body
    generalize hv : node.get? (Text.ofString "requestBody") = old,
      hw : node'.get? (Text.ofString "requestBody") = new at hbody
    cases hbody with
    | none => rw [body, body, hv, hw]
    | @some v w hstands =>
      by_cases hnull : v = .null
      · rw [body, body, hv, hw, hstands.eq_null_iff.mpr hnull, hnull]
      · have hpartOld := (Part.of_members_get? hv).trans hpart
        rw [body_of_ne_null hv hnull, body_of_ne_null hw (mt hstands.eq_null_iff.mp hnull),
          hstands.get?_deref? h hpartOld (by decide)]
  | swagger2 =>
    have hfind := Declaration.rel_find?_of_forall₂ hdeclared (Text.ofString "body")
    rw [body, body]
    generalize declared.find? _ = old, declared'.find? _ = new at hfind
    cases hfind with
    | none => rfl
    | some hagrees => simp only [hagrees.description]

/-- The operation of a node is the same where values stand for those of the node and of the path. -/
theorem ofNode_of_restates (h : SharesDefinitions document document')
    {pathItem pathItem' node node' : Members} (hitem : RestatesItem document pathItem pathItem')
    (hnode : RestatesNode document node node')
    (hitemPart : Part (.object pathItem) (.object document))
    (hnodePart : Part (.object node) (.object document)) (dialect : Dialect) (service : Text)
    (displayName : Option Text) (basePath path : Text) (method : String) :
    ofNode document' dialect service displayName basePath path pathItem' method node' =
      ofNode document dialect service displayName basePath path pathItem method node := by
  have hmerged := Declaration.forall₂_merged h hitemPart hnodePart hitem.parameters
    hnode.parameters
  have hbody := body_of_restates h hnode hnodePart hmerged dialect
  have hparameters := fun location => Declaration.map_toParameter_of_forall₂ hmerged location
  have htext : ∀ key : String, Text.ofString key ≠ Text.ofString "parameters" →
      Text.ofString key ≠ Text.ofString "requestBody" → textUnder node' key = textUnder node key :=
    fun key hlist hrequest => by rw [textUnder, textUnder, hnode.others _ hlist hrequest]
  unfold ofNode
  simp only [hbody, hparameters, htext "summary" (by decide) (by decide),
    htext "description" (by decide) (by decide),
    hnode.others (Text.ofString "operationId") (by decide) (by decide)]

/-- The operations of one path, given what is under it. -/
def ofItem (document : Members) (dialect : Dialect) (service : Text) (displayName : Option Text)
    (basePath path : Text) : Json → List Operation
  | .object pathItem =>
    methods.filterMap fun (key, method) =>
      match Members.get? pathItem (Text.ofString key) with
      | some (.object node) =>
        some (ofNode document dialect service displayName basePath path pathItem method node)
      | _ => none
  | _ => []

/-- The operations of a document are those of its paths. -/
theorem ofDocument_eq (document : Members) (service : Text) (displayName : Option Text) :
    ofDocument document service displayName = (paths document).flatMap fun m =>
      ofItem document (Dialect.of document) service displayName
        (BasePath.resolve document service (Dialect.of document)) m.1 m.2 :=
  rfl

/-- The operations of a path are the same where values stand for those under the path. -/
theorem ofItem_of_restates (h : SharesDefinitions document document') {item item' : Json}
    (hitem : Restates (RestatesItem document) item item') (hpart : item.Part (.object document))
    (dialect : Dialect) (service : Text) (displayName : Option Text) (basePath path : Text) :
    ofItem document' dialect service displayName basePath path item' =
      ofItem document dialect service displayName basePath path item := by
  cases hitem with
  | other hobject =>
    cases item with
    | object members => exact absurd rfl (hobject members)
    | _ => rfl
  | @object pathItem pathItem' hitem =>
    rw [ofItem, ofItem]
    refine List.filterMap_congr fun m hm => ?_
    have hnode := hitem.nodes m hm
    obtain ⟨key, method⟩ := m
    simp only at hnode ⊢
    generalize hold : pathItem.get? (Text.ofString key) = old,
      hnew : pathItem'.get? (Text.ofString key) = new at hnode
    cases hnode with
    | none => rfl
    | @some v w hvalue =>
      cases hvalue with
      | object hnode =>
        have hnodePart := (Part.of_members_get? hold).trans hpart
        exact congrArg some (ofNode_of_restates h hitem hnode hpart hnodePart dialect service
          displayName basePath path method)
      | other hobject =>
        cases v with
        | object members => exact absurd rfl (hobject members)
        | _ => rfl

/-- Documents that differ in their tables of paths only have the same dialect and base path. -/
theorem resolve_of_sharesDefinitions (h : SharesDefinitions document document') (service : Text) :
    Dialect.of document' = Dialect.of document ∧ ∀ dialect,
      BasePath.resolve document' service dialect = BasePath.resolve document service dialect := by
  have hget : ∀ key : String, Text.ofString key ≠ Text.ofString "paths" →
      document'.get? (Text.ofString key) = document.get? (Text.ofString key) :=
    fun key hkey => h.others _ hkey
  refine ⟨?_, fun dialect => ?_⟩
  · rw [Dialect.of, Dialect.of, Members.has, Members.has, Members.has, Members.has,
      hget "swagger" (by decide), hget "openapi" (by decide)]
  · have hdeclared : BasePath.declared document' dialect = BasePath.declared document dialect := by
      cases dialect with
      | openapi3 => rw [BasePath.declared, BasePath.declared, hget "servers" (by decide)]
      | swagger2 => rw [BasePath.declared, BasePath.declared, hget "basePath" (by decide)]
    have hversion : BasePath.version document' = BasePath.version document := by
      rw [BasePath.version, BasePath.version, hget "info" (by decide)]
    rw [BasePath.resolve, BasePath.resolve, BasePath.default, BasePath.default, hdeclared, hversion]

/-- A document in whose table of paths values stand for those of another one has the same
operations. A value that refers to an object without a reference may be replaced by this object, for
a parameter, its schema or a body. A value that refers to nothing, or to a further reference and
nothing else, may be replaced by an empty object. -/
theorem ofDocument_of_restates (h : RestatesTable document document') (service : Text)
    (displayName : Option Text) :
    ofDocument document' service displayName = ofDocument document service displayName := by
  obtain ⟨hdialect, hresolve⟩ := resolve_of_sharesDefinitions h.definitions service
  rw [ofDocument_eq, ofDocument_eq, hdialect, hresolve]
  have htable := (List.forall₂_and_left _ _).mpr
    ⟨fun m (hm : m ∈ paths document) => part_of_mem_paths hm, h.table⟩
  generalize paths document = table, paths document' = table' at htable ⊢
  induction htable with
  | nil => rfl
  | cons hm _ ih =>
    obtain ⟨hpart, hpath, hitem⟩ := hm
    rw [List.flatMap_cons, List.flatMap_cons, hpath,
      ofItem_of_restates h.definitions hitem hpart, ih]

/-- A reference with a given text. -/
def refer (way : String) : Json :=
  .object [(Text.ofString "$ref", .ofString way)]

/-- A parameter of the query with a schema. -/
def sampleParameter (name : String) (schema : Json) : Members :=
  [(Text.ofString "name", .ofString name), (Text.ofString "in", .ofString "query"),
    (Text.ofString "schema", schema)]

/-- What the sample document defines: two parameters, a schema, a body, and a name for the second
parameter that refers to it. -/
def sampleDefinitions : Json :=
  .record [("q", .object (sampleParameter "q" (refer "#/definitions/count"))),
    ("r", .object (sampleParameter "r" .null)), ("alias", refer "#/definitions/r"),
    ("count", .record [("type", .ofString "integer")]),
    ("payload", .record [("description", .ofString "all")])]

/-- An operation with some parameters and a body. -/
def sampleNode (parameters : List Json) (body : Json) : Members :=
  [(Text.ofString "parameters", .array parameters), (Text.ofString "requestBody", body)]

/-- The sample document with a node for its only operation. -/
def sampleWith (node : Members) : Members :=
  [(Text.ofString "definitions", sampleDefinitions),
    (Text.ofString "paths", .record [("/a", .record [("post", .object node)])])]

/-- A node all of whose values are references. -/
def referringNode : Members :=
  sampleNode [refer "#/definitions/q", refer "#/definitions/alias"] (refer "#/definitions/payload")

/-- The node with values that stand for its references. -/
def restatedNode : Members :=
  sampleNode
    [.object (sampleParameter "q" (.record [("type", .ofString "integer")])), .object []]
    (.record [("description", .ofString "all")])

/-- The values stand for the references. A name that refers to a parameter is no parameter. -/
theorem restates_referringNode :
    RestatesNode (sampleWith referringNode) referringNode restatedNode where
  parameters := by
    have hparameter : StandsFor (sampleWith referringNode) (refer "#/definitions/q")
        (.object ((sampleParameter "q" (refer "#/definitions/count")).set (Text.ofString "schema")
          (.record [("type", .ofString "integer")]))) :=
      .schema (.target rfl rfl rfl) rfl (.target rfl rfl rfl)
    refine .cons hparameter
      (.cons (.value (.blank rfl fun members hmembers key hkey => ?_)) .nil)
    cases hmembers
    exact (Members.get?_cons _ _ _ _).trans (if_neg hkey)
  body := .some (.target rfl rfl rfl)
  others key hparameters hbody := by
    have hnone : ∀ parameters body, (sampleNode parameters body).get? key = none := by
      intro parameters body
      rw [sampleNode, Members.get?_cons, if_neg hparameters, Members.get?_cons, if_neg hbody]
      rfl
    rw [referringNode, restatedNode, hnone, hnone]

/-- What refers to a parameter at once can be replaced by it. What refers to another name of a
parameter is as good as nothing. -/
theorem ofDocument_of_restates_sample :
    RestatesTable (sampleWith referringNode) (sampleWith restatedNode) ∧
      (ofDocument (sampleWith referringNode) [] none).map (fun op =>
        op.queryParameters.map fun p => (p.name, p.type)) =
          [[(Text.ofString "q", Text.ofString "number")]] ∧
      ofDocument (sampleWith restatedNode) [] none =
        ofDocument (sampleWith referringNode) [] none := by
  have houtside : (Json.object (sampleWith referringNode)).All Pointer.IsOutside := by
    repeat first
      | exact List.forall_mem_nil _
      | refine List.forall_mem_cons.mpr ⟨?_, ?_⟩
      | exact .of_text (by decide)
      | exact .of_null (by decide)
      | refine .of_items (by decide) ?_
      | refine .of_members (by decide) ?_
  have htable : RestatesTable (sampleWith referringNode) (sampleWith restatedNode) := by
    refine ⟨Pointer.sharesDefinitions_set houtside _, .cons ⟨rfl, .object ⟨.nil, ?_⟩⟩ .nil⟩
    simp only [methods, List.forall_mem_cons]
    exact ⟨.none, .some (.object restates_referringNode), .none, .none, .none,
      List.forall_mem_nil _⟩
  exact ⟨htable, by decide +kernel, ofDocument_of_restates htable [] none⟩

end Operation

end Toolsmith
