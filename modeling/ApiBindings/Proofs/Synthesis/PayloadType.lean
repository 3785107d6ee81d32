import ApiBindings.Proofs.Pointwise
import ApiBindings.Synthesis.ComponentDeclarations

/-!
# Payloads and components one by one

Several payloads have types if each of them has one, and a single payload has its own type.  The
same goes for the declarations of components.

* `payloadTypes_eq_ok`, `schemaDeclarations_eq_ok`, `payloadDeclarations_eq_ok`
                             what there is for each element of the list;
* `payloadUnion_singleton`   the union of the types of a single payload.
-/

namespace ApiBindings

theorem payloadTypes_eq_ok {entries : List (String × Option (Referable Payload))}
    {types : List String} : payloadTypes entries = .ok types ↔
      List.Forall₂ (fun entry type => payloadType entry.1 entry.2 = .ok type) entries types :=
  traverse_eq_ok_iff (g := payloadTypes) rfl fun _ _ => rfl

theorem payloadUnion_singleton {label type : String} {payload : Option (Referable Payload)} :
    payloadUnion [(label, payload)] = .ok type ↔ payloadType label payload = .ok type := by
  rw [payloadUnion, map_eq_ok]
  constructor
  · rintro ⟨types, htypes, rfl⟩
    have hall := payloadTypes_eq_ok.mp htypes
    obtain ⟨own, _, hown, hnil, rfl⟩ := List.forall₂_cons_left_iff.mp hall
    cases hnil
    exact hown
  · intro h
    exact ⟨[type], payloadTypes_eq_ok.mpr (.cons h .nil), rfl⟩

open TypeScript (Declaration)

theorem schemaDeclarations_eq_ok {schemas : List (String × SchemaNode)} {ds : List Declaration} :
    schemaDeclarations schemas = .ok ds ↔
      List.Forall₂ (fun entry d => schemaDeclaration entry.1 entry.2 = .ok d) schemas ds :=
  traverse_eq_ok_iff (g := schemaDeclarations) rfl fun _ _ => rfl

theorem payloadDeclarations_eq_ok {suffix : String} {payloads : List (String × Referable Payload)}
    {ds : List Declaration} : payloadDeclarations suffix payloads = .ok ds ↔
      List.Forall₂ (fun entry d => payloadDeclaration suffix entry.1 entry.2 = .ok d)
        payloads ds :=
  traverse_eq_ok_iff (g := payloadDeclarations suffix) rfl fun _ _ => rfl

end ApiBindings
